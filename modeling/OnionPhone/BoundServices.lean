import OnionPhone.ServiceLocator

/-!
# OnionPhone.BoundServices

Which services `getService` hands out, and when it gives up. The holders stay in the locator after `cleanUp`,
with their services, and a service that is lost leaves its permit in the semaphore.

* `Good`: a permit means that there is a service; a service that was returned was bound and connected,
  an exception came after the whole timeout and no connection, and nothing was unbound twice.
* `returned_connected`: in every run, what is returned is connected.
* `bound_services_iff`: all of a run is good, whatever the calls under way do next, just if each step of
  it is `careful`: nothing is disconnected that left a permit behind, and nothing is asked for that was
  cleaned up.
-/

namespace OnionPhone
namespace ServiceLocator

open Wire

variable {T : Type}

/-! ## What is right -/

def Outcome.Right : Outcome T → Prop
  | .returned _ service bound connected => ∀ t, service = some t → bound = true ∧ connected = some t
  | .raised _ _ waited connected => waited = true ∧ connected = false
  | .notCreated _ _ => True
  | .unbound _ bound => bound = true

structure Good (s : State T) : Prop where
  permit : ∀ w h, s.holders w = some h → 0 < h.serviceCreationSemaphore → h.service ≠ none
  log : ∀ o ∈ s.log, o.Right

def Act.own : Act T → Bool
  | .call _ ev => ev != .interrupted
  | _ => false

/-- What may be done in a state.
* A connection that is not bound any more comes only when nobody asks for it.
* A connection that is lost has left no permit, and nobody has waited for it.
* `getService` is called on a holder that is bound or has no service.
* Nobody is interrupted who waits for a service that is not there.
* `cleanUp` finds each holder bound, and without a service or without a call under way. -/
def careful (s : State T) : Act T → Bool
  | .onServiceConnected w _ => (s.holders w).all fun h => h.bound || !s.underWay w
  | .onServiceDisconnected w => (s.holders w).all fun h =>
    h.service.isNone || (h.serviceCreationSemaphore == 0 && !s.awaiting w)
  | .getter w _ => s.locked || (s.holders w).all fun h => h.bound || h.service.isNone
  | .getService w => (s.holders w).all fun h => h.bound || h.service.isNone
  | .call i .interrupted => (s.calls[i]?).all fun c =>
    match c.phase with
    | .waiting _ => (s.holders c.name).all fun h => h.service.isSome
    | _ => true
  | .call _ _ => true
  | .cleanUp => true
  | .cleanUpNext j => (s.cleanUps[j]?).all fun c => c.unbound || (c.todo.head?).all fun w =>
    (s.holders w).all fun h => h.bound && (h.service.isNone || !s.underWay w)

/-! ## What the steps keep -/

/-- A permit was released with a service, and the field shows what is connected. -/
structure ServiceHolder.Sound (h : ServiceHolder T) : Prop where
  permit : 0 < h.serviceCreationSemaphore → h.service.isSome = true
  field : h.connected = h.service

/-- Who has waited knows of the service that is there, and who was let go early has one. -/
def Phase.Fits (h : ServiceHolder T) : Phase → Prop
  | .waiting connected => connected = h.service.isSome
  | .woken waited connected => connected = h.service.isSome ∧ (waited = false → h.service.isSome = true)
  | _ => True

/-- Besides, a service that is there to be returned is bound. -/
structure Call.Fits (h : ServiceHolder T) (c : Call) : Prop where
  phase : c.phase.Fits h
  bound : h.bound = true ∨ h.service.isNone = true

structure Inv (s : State T) : Prop where
  holders : ∀ w h, s.holders w = some h → h.Sound
  calls : ∀ c ∈ s.calls, c.phase ≠ .finished → ∃ h, s.holders c.name = some h ∧ c.Fits h
  log : ∀ o ∈ s.log, o.Right

theorem Inv.good {s : State T} (hi : Inv s) : Good s := by
  refine ⟨?_, hi.log⟩
  intro w h hw hpos
  exact Option.isSome_iff_ne_none.1 ((hi.holders w h hw).permit hpos)

theorem Inv.init : Inv ({} : State T) := by
  refine ⟨?_, ?_, ?_⟩
  · intro w h hw
    cases hw
  · intro c hc
    cases hc
  · intro o ho
    cases ho

theorem Phase.Fits.congr {h h' : ServiceHolder T} {phase : Phase} (hf : phase.Fits h)
    (hs : h'.service = h.service) : phase.Fits h' := by
  cases phase with
  | waiting connected =>
    simp only [Phase.Fits, hs] at hf ⊢
    exact hf
  | woken waited connected =>
    simp only [Phase.Fits, hs] at hf ⊢
    exact hf
  | _ => trivial

theorem Call.Fits.congr {h h' : ServiceHolder T} {c : Call} (hf : c.Fits h) (hs : h'.service = h.service)
    (hb : h'.bound = h.bound) : c.Fits h' := by
  refine ⟨hf.phase.congr hs, ?_⟩
  rw [hs, hb]
  exact hf.bound

theorem holders_update {P : ServiceHolder T → Prop} {holders : Name → Option (ServiceHolder T)} {w : Name}
    {h' : ServiceHolder T} (hall : ∀ u k, holders u = some k → P k) (hP : P h') :
    ∀ u k, Function.update holders w (some h') u = some k → P k := by
  intro u k hk
  by_cases hu : u = w
  · subst hu
    rw [Function.update_self] at hk
    cases hk
    exact hP
  · rw [Function.update_of_ne hu] at hk
    exact hall u k hk

theorem Inv.update {s s' : State T} (hi : Inv s) {w : Name} {h' : ServiceHolder T}
    (hh : s'.holders = Function.update s.holders w (some h')) (hsound : h'.Sound)
    (hcalls : ∀ c ∈ s'.calls, c.phase ≠ .finished → (c.name ≠ w ∧ c ∈ s.calls) ∨ (c.name = w ∧ c.Fits h'))
    (hlog : ∀ o ∈ s'.log, o.Right) : Inv s' := by
  refine ⟨?_, ?_, hlog⟩
  · rw [hh]
    exact holders_update hi.holders hsound
  · intro c hc hphase
    rw [hh]
    obtain ⟨hne, hmem⟩ | ⟨rfl, hfits⟩ := hcalls c hc hphase
    · rw [Function.update_of_ne hne]
      exact hi.calls c hmem hphase
    · exact ⟨h', Function.update_self .., hfits⟩

theorem underWay_of_mem {s : State T} {c : Call} (hc : c ∈ s.calls) (hphase : c.phase ≠ .finished) :
    s.underWay c.name = true :=
  List.any_eq_true.2 ⟨c, hc, by simp [hphase]⟩

theorem meanwhile_finished (w : Name) (c : Call) :
    (c.meanwhile w).phase = .finished ↔ c.phase = .finished := by
  unfold Call.meanwhile
  split
  · cases hphase : c.phase <;> simp
  · rfl

theorem meanwhile_name (w : Name) (c : Call) : (c.meanwhile w).name = c.name := by
  unfold Call.meanwhile
  split <;> rfl

theorem meanwhile_fits {w : Name} {c : Call} (binder : T) (h : ServiceHolder T) (hname : c.name = w) :
    (c.meanwhile w).phase.Fits (h.onServiceConnected binder) := by
  unfold Call.meanwhile
  rw [if_pos hname]
  cases hphase : c.phase with
  | waiting connected => simp [Phase.Fits, ServiceHolder.onServiceConnected]
  | woken waited connected => simp [Phase.Fits, ServiceHolder.onServiceConnected]
  | _ => trivial

theorem inv_onServiceConnected {s : State T} (hi : Inv s) {w : Name} {h : ServiceHolder T} (binder : T)
    (hw : s.holders w = some h) (hok : h.bound = true ∨ s.underWay w = false) :
    Inv { s.setHolder w (h.onServiceConnected binder) with calls := s.calls.map (Call.meanwhile w) } := by
  refine hi.update rfl ⟨fun _ => rfl, rfl⟩ ?_ hi.log
  intro c' hc' hphase
  obtain ⟨c, hc, rfl⟩ := List.mem_map.1 hc'
  rw [Ne, meanwhile_finished] at hphase
  by_cases hname : c.name = w
  · subst hname
    have hbound : h.bound = true := by
      obtain hb | hno := hok
      · exact hb
      · rw [underWay_of_mem hc hphase] at hno
        cases hno
    exact .inr ⟨meanwhile_name _ c, meanwhile_fits binder h rfl, .inl hbound⟩
  · have hsame : c.meanwhile w = c := if_neg hname
    rw [hsame]
    exact .inl ⟨hname, hc⟩

theorem inv_onServiceDisconnected {s : State T} (hi : Inv s) {w : Name} {h : ServiceHolder T}
    (hw : s.holders w = some h)
    (hok : h.service.isNone = true ∨ h.serviceCreationSemaphore = 0 ∧ s.awaiting w = false) :
    Inv (s.setHolder w h.onServiceDisconnected) := by
  have hsound := hi.holders w h hw
  have hzero : h.serviceCreationSemaphore = 0 := by
    obtain hnone | ⟨h0, -⟩ := hok
    · by_contra hne
      have hsome := hsound.permit (Nat.pos_of_ne_zero hne)
      simp [Option.isNone_iff_eq_none.1 hnone] at hsome
    · exact h0
  refine hi.update rfl ⟨?_, rfl⟩ ?_ hi.log
  · intro hpos
    have hpos' : 0 < h.serviceCreationSemaphore := hpos
    omega
  · intro c hc hphase
    by_cases hname : c.name = w
    · subst hname
      refine .inr ⟨rfl, ?_, .inr rfl⟩
      obtain ⟨k, hk, hfits⟩ := hi.calls c hc hphase
      cases hw.symm.trans hk
      obtain hnone | ⟨-, hno⟩ := hok
      · refine hfits.phase.congr ?_
        exact (Option.isNone_iff_eq_none.1 hnone).symm
      · -- whoever is under way here does not wait
        have hawaits : c.phase.awaits = false := by
          rw [State.awaiting, List.any_eq_false] at hno
          simpa using hno c hc
        cases hp : c.phase <;> simp_all [Phase.awaits, Phase.Fits]
    · exact .inl ⟨hname, hc⟩

theorem inv_getService {s : State T} (hi : Inv s) {w : Name} {h : ServiceHolder T}
    (hw : s.holders w = some h) (hok : h.bound = true ∨ h.service.isNone = true) (locked : Bool) :
    Inv (getService w locked s) := by
  refine ⟨hi.holders, ?_, hi.log⟩
  intro c hc hphase
  obtain hc | hc := List.mem_append.1 hc
  · exact hi.calls c hc hphase
  · cases List.mem_singleton.1 hc
    exact ⟨h, hw, trivial, hok⟩

theorem inv_newHolder {s : State T} (hi : Inv s) {w : Name} (hw : s.holders w = none) :
    Inv (s.setHolder w {}) := by
  refine hi.update rfl ⟨fun hpos => absurd hpos (Nat.lt_irrefl 0), rfl⟩ ?_ hi.log
  intro c hc hphase
  refine .inl ⟨?_, hc⟩
  rintro rfl
  obtain ⟨k, hk, -⟩ := hi.calls c hc hphase
  cases hw.symm.trans hk

theorem inv_note {s : State T} (hi : Inv s) {o : Outcome T} (ho : o.Right) :
    Inv { s with log := o :: s.log } :=
  ⟨hi.holders, hi.calls, List.forall_mem_cons.2 ⟨ho, hi.log⟩⟩

theorem inv_getter {s s' : State T} (hi : Inv s) {w : Name} {created : Bool}
    (hok : careful s (.getter w created) = true) (hs : getterOf w created s = some s') : Inv s' := by
  obtain ⟨hunlocked, ⟨h, hw, rfl⟩ | ⟨hw, rfl⟩ | ⟨e, rfl⟩⟩ := getter_cases hs
  · simp only [careful, hunlocked, hw, Option.all_some, Bool.false_or, Bool.or_eq_true] at hok
    exact inv_getService hi hw hok true
  · exact inv_getService (inv_newHolder hi hw) (Function.update_self ..) (.inl rfl) true
  · exact inv_note hi trivial

structure Leaves (h h' : ServiceHolder T) : Prop where
  permits : h'.serviceCreationSemaphore ≤ h.serviceCreationSemaphore
  service : h'.service = h.service
  bound : h'.bound = h.bound
  connected : h'.connected = h.connected

theorem Leaves.sound {h h' : ServiceHolder T} (hl : Leaves h h') (hs : h.Sound) : h'.Sound := by
  constructor
  · intro hpos
    rw [hl.service]
    exact hs.permit (Nat.lt_of_lt_of_le hpos hl.permits)
  · rw [hl.connected, hl.service]
    exact hs.field

theorem next_fits {c : Call} {h h' : ServiceHolder T} {ev : Event} {phase : Phase} {out : List (Outcome T)}
    (hn : Next c h ev h' phase out) (hs : h.Sound) (hf : c.Fits h)
    (hev : ev = .interrupted → h.service.isSome = true) :
    Leaves h h' ∧ phase.Fits h' ∧ ∀ o ∈ out, o.Right := by
  have hphase := hf.phase
  have hself : Leaves h h := ⟨Nat.le_refl _, rfl, rfl, rfl⟩
  cases hn with
  | asked hp hnone => exact ⟨hself, by simp [Phase.Fits, hnone], by simp⟩
  | found hp hsome => exact ⟨hself, trivial, by simp⟩
  | raised hp hnone =>
    -- without a service it was the timeout, and there was no connection
    refine ⟨hself, trivial, ?_⟩
    rw [hp] at hphase
    simp only [Phase.Fits, hnone, Option.isSome_none] at hphase
    simpa [Outcome.Right, hphase.1] using hphase.2
  | returned hp =>
    refine ⟨hself, trivial, ?_⟩
    intro o ho
    cases List.mem_singleton.1 ho
    intro t ht
    obtain hb | hnone := hf.bound
    · exact ⟨hb, hs.field.trans ht⟩
    · simp [ht] at hnone
  | acquired hp hpos =>
    rw [hp] at hphase
    exact ⟨⟨Nat.sub_le _ _, rfl, rfl, rfl⟩, ⟨hphase, fun _ => hs.permit hpos⟩, by simp⟩
  | timedOut hp =>
    rw [hp] at hphase
    exact ⟨hself, ⟨hphase, fun hw => nomatch hw⟩, by simp⟩
  | interrupted hp =>
    rw [hp] at hphase
    exact ⟨hself, ⟨hphase, fun _ => hev rfl⟩, by simp⟩

theorem inv_call {s s' : State T} (hi : Inv s) {i : Nat} {ev : Event}
    (hok : careful s (.call i ev) = true) (hs : step (.call i ev) s = some s') : Inv s' := by
  simp only [step] at hs
  split at hs
  · cases hs
  · next c hc =>
    split at hs
    · cases hs
    · next h hh =>
      obtain ⟨⟨h', phase, out⟩, hnext, rfl⟩ := Option.map_eq_some_iff.1 hs
      have hn : Next c h ev h' phase out := next_cases hnext
      have hmem := List.mem_of_getElem? hc
      have hfits : c.Fits h := by
        obtain ⟨k, hk, hfits⟩ := hi.calls c hmem hn.unfinished
        cases hh.symm.trans hk
        exact hfits
      have hev : ev = .interrupted → h.service.isSome = true := by
        rintro rfl
        simp only [careful, hc, Option.all_some] at hok
        cases hn with
        | interrupted hp => simpa [hp, hh] using hok
      obtain ⟨hl, hfits', hright⟩ := next_fits hn (hi.holders _ h hh) hfits hev
      refine hi.update rfl (hl.sound (hi.holders _ h hh)) ?_ ?_
      · intro c' hc' hphase
        obtain hc' | rfl := List.mem_or_eq_of_mem_set hc'
        · by_cases hname : c'.name = c.name
          · obtain ⟨k, hk, hfits₁⟩ := hi.calls c' hc' hphase
            rw [hname] at hk
            cases hh.symm.trans hk
            exact .inr ⟨hname, hfits₁.congr hl.service hl.bound⟩
          · exact .inl ⟨hname, hc'⟩
        · refine .inr ⟨rfl, hfits', ?_⟩
          rw [hl.service, hl.bound]
          exact hfits.bound
      · intro o ho
        obtain ho | ho := List.mem_append.1 ho
        · exact hright o ho
        · exact hi.log o ho

theorem inv_drainPermits {s : State T} (hi : Inv s) {w : Name} {h : ServiceHolder T}
    (hw : s.holders w = some h) : Inv (s.setHolder w h.drainPermits) := by
  refine hi.update rfl ⟨fun hpos => absurd hpos (Nat.lt_irrefl 0), (hi.holders w h hw).field⟩ ?_ hi.log
  intro c hc hphase
  by_cases hname : c.name = w
  · subst hname
    obtain ⟨k, hk, hfits⟩ := hi.calls c hc hphase
    cases hw.symm.trans hk
    exact .inr ⟨rfl, hfits.congr rfl rfl⟩
  · exact .inl ⟨hname, hc⟩

theorem inv_unbindService {s : State T} (hi : Inv s) {w : Name} {h : ServiceHolder T}
    (hw : s.holders w = some h) (hok : h.service.isNone = true ∨ s.underWay w = false) :
    Inv (s.setHolder w h.unbindService) := by
  have hsound := hi.holders w h hw
  refine hi.update rfl ⟨hsound.permit, hsound.field⟩ ?_ hi.log
  intro c hc hphase
  by_cases hname : c.name = w
  · subst hname
    obtain ⟨k, hk, hfits⟩ := hi.calls c hc hphase
    cases hw.symm.trans hk
    refine .inr ⟨rfl, hfits.phase.congr rfl, .inr ?_⟩
    obtain hnone | hno := hok
    · exact hnone
    · rw [underWay_of_mem (s := s) hc hphase] at hno
      cases hno
  · exact .inl ⟨hname, hc⟩

theorem inv_cleanUpNext {s s' : State T} (hi : Inv s) {j : Nat}
    (hok : careful s (.cleanUpNext j) = true) (hs : step (.cleanUpNext j) s = some s') : Inv s' := by
  simp only [step] at hs
  split at hs
  · cases hs
  · next c hc =>
    obtain ⟨⟨c', s₁⟩, hn, rfl⟩ := Option.map_eq_some_iff.1 hs
    have hinv : Inv s₁ := by
      cases cleanUp_cases hn with
      | passed => exact hi
      | drained hw => exact inv_drainPermits hi hw
      | unbound hu htodo hw hb =>
        simp only [careful, hc, htodo, hw, hu, hb, Option.all_some, Bool.false_or, Bool.true_and,
          Bool.or_eq_true, Bool.not_eq_true'] at hok
        exact inv_note (inv_unbindService hi hw hok) rfl
      | again hu htodo hw hb => simp [careful, hc, htodo, hw, hu, hb] at hok
    exact ⟨hinv.holders, hinv.calls, hinv.log⟩

theorem inv_step {a : Act T} {s s' : State T} (hok : careful s a = true) (hi : Inv s)
    (hs : step a s = some s') : Inv s' := by
  cases a with
  | onServiceConnected w binder =>
    obtain ⟨h, hw, rfl⟩ := Option.map_eq_some_iff.1 hs
    simp only [careful, hw, Option.all_some, Bool.or_eq_true, Bool.not_eq_true'] at hok
    exact inv_onServiceConnected hi binder hw hok
  | onServiceDisconnected w =>
    obtain ⟨h, hw, rfl⟩ := Option.map_eq_some_iff.1 hs
    simp only [careful, hw, Option.all_some, Bool.or_eq_true, Bool.and_eq_true, Bool.not_eq_true',
      beq_iff_eq] at hok
    exact inv_onServiceDisconnected hi hw hok
  | getter w created => exact inv_getter hi hok hs
  | getService w =>
    obtain ⟨h, hw, rfl⟩ := Option.map_eq_some_iff.1 hs
    simp only [careful, hw, Option.all_some, Bool.or_eq_true] at hok
    exact inv_getService hi hw hok false
  | call i ev => exact inv_call hi hok hs
  | cleanUp =>
    cases hs
    exact ⟨hi.holders, hi.calls, hi.log⟩
  | cleanUpNext j => exact inv_cleanUpNext hi hok hs

/-! ## What is always right -/

/-- What was returned is the service that was connected at that time. -/
def Outcome.Current : Outcome T → Prop
  | .returned _ service _ connected => connected = service
  | _ => True

structure Current (s : State T) : Prop where
  field : ∀ w h, s.holders w = some h → h.connected = h.service
  log : ∀ o ∈ s.log, o.Current

namespace Current

variable {s s' : State T}

theorem update (hi : Current s) {w : Name} {h' : ServiceHolder T}
    (hh : s'.holders = Function.update s.holders w (some h')) (hfield : h'.connected = h'.service)
    (hlog : ∀ o ∈ s'.log, o.Current) : Current s' := by
  refine ⟨?_, hlog⟩
  rw [hh]
  exact holders_update hi.field hfield

theorem call (hi : Current s) {i : Nat} {ev : Event} (hs : step (.call i ev) s = some s') : Current s' := by
  simp only [step] at hs
  split at hs
  · cases hs
  · next c hc =>
    split at hs
    · cases hs
    · next h hh =>
      obtain ⟨⟨h', phase, out⟩, hnext, rfl⟩ := Option.map_eq_some_iff.1 hs
      have hn : Next c h ev h' phase out := next_cases hnext
      have hf := hi.field _ h hh
      cases hn with
      | asked hp hnone => exact hi.update rfl hf hi.log
      | found hp hsome => exact hi.update rfl hf hi.log
      | raised hp hnone => exact hi.update rfl hf (List.forall_mem_cons.2 ⟨trivial, hi.log⟩)
      | returned hp => exact hi.update rfl hf (List.forall_mem_cons.2 ⟨hf, hi.log⟩)
      | acquired hp hpos => exact hi.update rfl hf hi.log
      | timedOut hp => exact hi.update rfl hf hi.log
      | interrupted hp => exact hi.update rfl hf hi.log

theorem cleanUpNext (hi : Current s) {j : Nat} (hs : step (.cleanUpNext j) s = some s') : Current s' := by
  simp only [step] at hs
  split at hs
  · cases hs
  · obtain ⟨⟨c', s₁⟩, hn, rfl⟩ := Option.map_eq_some_iff.1 hs
    cases cleanUp_cases hn with
    | passed => exact ⟨hi.field, hi.log⟩
    | drained hw =>
      have hf := hi.field _ _ hw
      exact hi.update rfl hf hi.log
    | unbound hu htodo hw hb =>
      have hf := hi.field _ _ hw
      exact hi.update rfl hf (List.forall_mem_cons.2 ⟨trivial, hi.log⟩)
    | again hu htodo hw hb => exact ⟨hi.field, List.forall_mem_cons.2 ⟨trivial, hi.log⟩⟩

theorem step (hi : Current s) {a : Act T} (hs : ServiceLocator.step a s = some s') : Current s' := by
  cases a with
  | onServiceConnected w binder =>
    obtain ⟨h, hw, rfl⟩ := Option.map_eq_some_iff.1 hs
    exact hi.update rfl rfl hi.log
  | onServiceDisconnected w =>
    obtain ⟨h, hw, rfl⟩ := Option.map_eq_some_iff.1 hs
    exact hi.update rfl rfl hi.log
  | getter w created =>
    obtain ⟨-, ⟨h, hw, rfl⟩ | ⟨hw, rfl⟩ | ⟨e, rfl⟩⟩ := getter_cases hs
    · exact ⟨hi.field, hi.log⟩
    · exact hi.update rfl rfl hi.log
    · exact ⟨hi.field, List.forall_mem_cons.2 ⟨trivial, hi.log⟩⟩
  | getService w =>
    obtain ⟨h, hw, rfl⟩ := Option.map_eq_some_iff.1 hs
    exact ⟨hi.field, hi.log⟩
  | call i ev => exact hi.call hs
  | cleanUp =>
    cases hs
    exact ⟨hi.field, hi.log⟩
  | cleanUpNext j => exact hi.cleanUpNext hs

end Current

/-- In every run, careful or not, a service that has been disconnected is not returned. -/
theorem returned_connected {acts : List (Act T)} {s : State T} (hr : run step {} acts = some s) {w : Name}
    {service connected : Option T} {bound : Bool} (ho : .returned w service bound connected ∈ s.log) :
    connected = service := by
  have h0 : Current ({} : State T) := ⟨(fun _ _ hw => nomatch hw), (fun _ ho => nomatch ho)⟩
  exact (run_inv_any (fun _ _ _ hi hs => Current.step hi hs) h0 hr).log _ ho

/-! ## What other steps lead to -/

section Ahead

variable {s : State T} {i : Nat} {c : Call} {h h' : ServiceHolder T} {ev : Event} {phase : Phase}
  {out : List (Outcome T)}

theorem step_call (hc : s.calls[i]? = some c) (hh : s.holders c.name = some h)
    (hn : c.next h ev = some (h', phase, out)) :
    ∃ s', step (.call i ev) s = some s' ∧ s'.calls[i]? = some { c with phase := phase } ∧
      s'.holders c.name = some h' ∧ s'.log = out ++ s.log := by
  refine ⟨{ s.setHolder c.name h' with calls := s.calls.set i { c with phase := phase }, log := out ++ s.log },
    ?_, ?_, Function.update_self .., rfl⟩
  · simp only [step, hc, hh, hn, Option.map_some]
  · obtain ⟨hlt, -⟩ := List.getElem?_eq_some_iff.1 hc
    exact List.getElem?_set_self hlt

theorem not_ahead_of_outcome (hc : s.calls[i]? = some c) (hh : s.holders c.name = some h)
    (hn : c.next h ev = some (h', phase, out)) (hev : ev ≠ .interrupted) {o : Outcome T} (ho : o ∈ out)
    (hwrong : ¬ o.Right) : ¬ Ahead step Act.own Good s := by
  intro ha
  obtain ⟨s', hs, -, -, hlog⟩ := step_call hc hh hn
  have hgood := (ha.next (by simp [Act.own, hev]) hs).now
  refine hwrong (hgood.log o ?_)
  rw [hlog]
  exact List.mem_append_left _ ho

theorem not_ahead_of_phase (hc : s.calls[i]? = some c) (hh : s.holders c.name = some h)
    (hn : c.next h ev = some (h, phase, [])) (hev : ev ≠ .interrupted)
    (hnext : ∀ s' : State T, s'.calls[i]? = some { c with phase := phase } → s'.holders c.name = some h →
      ¬ Ahead step Act.own Good s') : ¬ Ahead step Act.own Good s := by
  intro ha
  obtain ⟨s', hs, hc', hh', -⟩ := step_call hc hh hn
  exact hnext s' hc' hh' (ha.next (by simp [Act.own, hev]) hs)

/-- A service that is there and not bound is returned to whoever has not ended. -/
theorem returns_unbound {t : T} (hc : s.calls[i]? = some c) (hh : s.holders c.name = some h)
    (ht : h.service = some t) (hb : h.bound = false) (hphase : c.phase ≠ .finished) :
    ¬ Ahead step Act.own Good s := by
  have hreturning : ∀ (s' : State T) (c' : Call), s'.calls[i]? = some c' → s'.holders c'.name = some h →
      c'.phase = .returning → ¬ Ahead step Act.own Good s' := by
    intro s' c' hc' hh' hp
    have hn : c'.next h .goOn = some (h, .finished, [.returned c'.name h.service h.bound h.connected]) := by
      simp only [Call.next, hp]
    refine not_ahead_of_outcome hc' hh' hn (by simp) (List.mem_singleton_self _) ?_
    intro hright
    cases hb.symm.trans (hright t ht).1
  have hwoken : ∀ (s' : State T) (c' : Call) (waited connected : Bool), s'.calls[i]? = some c' →
      s'.holders c'.name = some h → c'.phase = .woken waited connected → ¬ Ahead step Act.own Good s' := by
    intro s' c' waited connected hc' hh' hp
    have hn : c'.next h .goOn = some (h, .returning, []) := by simp [Call.next, hp, ht]
    refine not_ahead_of_phase hc' hh' hn (by simp) ?_
    intro s'' hc'' hh''
    exact hreturning s'' _ hc'' hh'' rfl
  cases hp : c.phase with
  | checking =>
    have hn : c.next h .goOn = some (h, .returning, []) := by simp [Call.next, hp, ht]
    refine not_ahead_of_phase hc hh hn (by simp) ?_
    intro s' hc' hh'
    exact hreturning s' _ hc' hh' rfl
  | waiting connected =>
    have hn : c.next h .timedOut = some (h, .woken true connected, []) := by simp only [Call.next, hp]
    refine not_ahead_of_phase hc hh hn (by simp) ?_
    intro s' hc' hh'
    exact hwoken s' _ _ _ hc' hh' rfl
  | woken waited connected => exact hwoken s c waited connected hc hh hp
  | returning => exact hreturning s c hc hh hp
  | finished => exact absurd hp hphase

/-- Without a service, whoever was let go early or has had a connection raises all the same. -/
theorem raises_early {waited connected : Bool} (hc : s.calls[i]? = some c) (hh : s.holders c.name = some h)
    (hnone : h.service = none) (hp : c.phase = .woken waited connected)
    (hearly : waited = false ∨ connected = true) : ¬ Ahead step Act.own Good s := by
  have hn : c.next h .goOn =
      some (h, .finished, [.raised c.name ⟨"No service was bound"⟩ waited connected]) := by
    simp [Call.next, hp, hnone]
  refine not_ahead_of_outcome hc hh hn (by simp) (List.mem_singleton_self _) ?_
  rintro ⟨hw, hcon⟩
  obtain rfl | rfl := hearly
  · cases hw
  · cases hcon

theorem raises_after_connection (hc : s.calls[i]? = some c) (hh : s.holders c.name = some h)
    (hnone : h.service = none) (hp : c.phase = .waiting true ∨ ∃ waited, c.phase = .woken waited true) :
    ¬ Ahead step Act.own Good s := by
  obtain hp | ⟨waited, hp⟩ := hp
  · have hn : c.next h .timedOut = some (h, .woken true true, []) := by simp only [Call.next, hp]
    refine not_ahead_of_phase hc hh hn (by simp) ?_
    intro s' hc' hh'
    exact raises_early hc' hh' hnone rfl (.inr rfl)
  · exact raises_early hc hh hnone hp (.inr rfl)

end Ahead

theorem exists_call {s : State T} {p : Call → Bool} (h : s.calls.any p = true) :
    ∃ (i : Nat) (c : Call), s.calls[i]? = some c ∧ p c = true := by
  obtain ⟨c, hc, hp⟩ := List.any_eq_true.1 h
  obtain ⟨i, hi⟩ := List.getElem?_of_mem hc
  exact ⟨i, c, hi, hp⟩

/-- A service that is there, or comes, and is not bound is returned to a call under way. -/
theorem underWay_returns_unbound {s s' : State T} {w : Name} {h : ServiceHolder T} {t : T}
    (huw : s.underWay w = true) (f : Call → Call) (hcalls : s'.calls = s.calls.map f)
    (hname : ∀ c, (f c).name = c.name) (hfinished : ∀ c, (f c).phase = .finished → c.phase = .finished)
    (hh : s'.holders w = some h) (ht : h.service = some t) (hb : h.bound = false) :
    ¬ Ahead step Act.own Good s' := by
  obtain ⟨i, c, hc, hp⟩ := exists_call huw
  simp only [Bool.and_eq_true, beq_iff_eq, bne_iff_ne] at hp
  have hc' : s'.calls[i]? = some (f c) := by rw [hcalls, List.getElem?_map, hc, Option.map_some]
  refine returns_unbound hc' ?_ ht hb fun hf => hp.2 (hfinished c hf)
  rw [hname, hp.1]
  exact hh

theorem careless_onServiceConnected {s : State T} {w : Name} {h : ServiceHolder T} (binder : T)
    (hw : s.holders w = some h) (hb : h.bound = false) (huw : s.underWay w = true) :
    ∃ s', step (.onServiceConnected w binder) s = some s' ∧ ¬ Ahead step Act.own Good s' := by
  refine ⟨_, by rw [step, hw, Option.map_some], ?_⟩
  exact underWay_returns_unbound huw (Call.meanwhile w) rfl (meanwhile_name w)
    (fun c => (meanwhile_finished w c).1) (Function.update_self ..) rfl hb

theorem careless_onServiceDisconnected {s : State T} (hi : Inv s) {w : Name} {h : ServiceHolder T}
    (hw : s.holders w = some h) (hsome : h.service.isSome = true)
    (hleft : h.serviceCreationSemaphore ≠ 0 ∨ s.awaiting w = true) :
    ∃ s', step (.onServiceDisconnected w) s = some s' ∧ ¬ Ahead step Act.own Good s' := by
  refine ⟨_, by rw [step, hw, Option.map_some], ?_⟩
  have hafter : (s.setHolder w h.onServiceDisconnected).holders w = some h.onServiceDisconnected :=
    Function.update_self ..
  obtain hne | haw := hleft
  · -- a permit and no service
    intro ha
    exact ha.now.permit w _ hafter (Nat.pos_of_ne_zero hne) rfl
  · obtain ⟨i, c, hc, hp⟩ := exists_call haw
    simp only [Bool.and_eq_true, beq_iff_eq] at hp
    obtain ⟨rfl, hawaits⟩ := hp
    have hphase : c.phase ≠ .finished := by
      intro hf
      simp [hf, Phase.awaits] at hawaits
    obtain ⟨k, hk, hfits⟩ := hi.calls c (List.mem_of_getElem? hc) hphase
    cases hw.symm.trans hk
    have hfits := hfits.phase
    refine raises_after_connection hc hafter rfl ?_
    cases hq : c.phase with
    | waiting connected =>
      rw [hq] at hfits
      exact .inl (by rw [hfits, hsome])
    | woken waited connected =>
      rw [hq] at hfits
      exact .inr ⟨waited, by rw [hfits.1, hsome]⟩
    | _ => simp [hq, Phase.awaits] at hawaits

theorem getService_returns_unbound {s : State T} {w : Name} {h : ServiceHolder T} (locked : Bool)
    (hw : s.holders w = some h) (hb : h.bound = false) (hsome : h.service.isSome = true) :
    ¬ Ahead step Act.own Good (getService w locked s) := by
  obtain ⟨t, ht⟩ := Option.isSome_iff_exists.1 hsome
  have hc : (getService w locked s).calls[s.calls.length]? = some { name := w, locked := locked } := by
    simp [getService]
  exact returns_unbound hc hw ht hb (by simp)

theorem careless_cleanUpNext {s : State T} {j : Nat} {c : CleanUp} {w : Name} {h : ServiceHolder T}
    (hc : s.cleanUps[j]? = some c) (hunbound : c.unbound = false) (htodo : c.todo.head? = some w)
    (hw : s.holders w = some h) (hcareless : h.bound = false ∨ h.service.isSome = true ∧ s.underWay w = true) :
    ∃ s', step (.cleanUpNext j) s = some s' ∧ ¬ Ahead step Act.own Good s' := by
  obtain ⟨rest, htodo⟩ := List.head?_eq_some_iff.1 htodo
  cases hb : h.bound with
  | false =>
    -- unbound a second time
    have hn : c.next s = some ({ todo := [] }, { s with log := .unbound w false :: s.log }) := by
      simp only [CleanUp.next, htodo, hw, hunbound, hb, Bool.false_eq_true, if_false]
    refine ⟨_, by simp only [step, hc, hn, Option.map_some]; rfl, ?_⟩
    intro ha
    cases ha.now.log (.unbound w false) List.mem_cons_self
  | true =>
    have hn : c.next s = some ({ c with unbound := true },
        { s.setHolder w h.unbindService with log := .unbound w true :: s.log }) := by
      simp only [CleanUp.next, htodo, hw, hunbound, hb, Bool.false_eq_true, if_false, if_true]
    refine ⟨_, by simp only [step, hc, hn, Option.map_some]; rfl, ?_⟩
    rw [hb] at hcareless
    obtain ⟨hsome, huw⟩ := hcareless.resolve_left (by simp)
    obtain ⟨t, ht⟩ := Option.isSome_iff_exists.1 hsome
    exact underWay_returns_unbound huw id (List.map_id _).symm (fun _ => rfl) (fun _ hf => hf)
      (Function.update_self ..) ht rfl

theorem careless_step {a : Act T} {s : State T} (hok : careful s a = false) (hi : Inv s) :
    ∃ s', step a s = some s' ∧ ¬ Ahead step Act.own Good s' := by
  cases a with
  | onServiceConnected w binder =>
    obtain ⟨h, hw, hcl⟩ := (Option.all_eq_false _ _).1 hok
    simp only [Bool.or_eq_false_iff, Bool.not_eq_false'] at hcl
    exact careless_onServiceConnected binder hw hcl.1 hcl.2
  | onServiceDisconnected w =>
    obtain ⟨h, hw, hcl⟩ := (Option.all_eq_false _ _).1 hok
    simp only [Bool.or_eq_false_iff, Bool.and_eq_false_iff, Bool.not_eq_false', beq_eq_false_iff_ne,
      Option.isNone_eq_false_iff] at hcl
    exact careless_onServiceDisconnected hi hw hcl.1 hcl.2
  | getter w created =>
    simp only [careful, Bool.or_eq_false_iff] at hok
    obtain ⟨hunlocked, hall⟩ := hok
    obtain ⟨h, hw, hcl⟩ := (Option.all_eq_false _ _).1 hall
    simp only [Bool.or_eq_false_iff, Option.isNone_eq_false_iff] at hcl
    obtain ⟨clazz, hclazz⟩ := getterOf_eq (T := T) w
    refine ⟨getService w true s, ?_, getService_returns_unbound true hw hcl.1 hcl.2⟩
    simp only [step, hclazz, getter, hunlocked, hw, Bool.false_eq_true, if_false]
  | getService w =>
    obtain ⟨h, hw, hcl⟩ := (Option.all_eq_false _ _).1 hok
    simp only [Bool.or_eq_false_iff, Option.isNone_eq_false_iff] at hcl
    refine ⟨getService w false s, ?_, getService_returns_unbound false hw hcl.1 hcl.2⟩
    rw [step, hw, Option.map_some]
  | call i ev =>
    cases ev with
    | interrupted =>
      obtain ⟨c, hc, hcl⟩ := (Option.all_eq_false _ _).1 hok
      cases hp : c.phase with
      | waiting connected =>
        rw [hp] at hcl
        obtain ⟨h, hh, hnone⟩ := (Option.all_eq_false _ _).1 hcl
        have hn : c.next h .interrupted = some (h, .woken false connected, []) := by simp only [Call.next, hp]
        obtain ⟨s', hs, hc', hh', -⟩ := step_call hc hh hn
        exact ⟨s', hs, raises_early hc' hh' (by simpa using hnone) rfl (.inl rfl)⟩
      | _ => simp [hp] at hcl
    | _ => cases hok
  | cleanUp => cases hok
  | cleanUpNext j =>
    obtain ⟨c, hc, hcl⟩ := (Option.all_eq_false _ _).1 hok
    simp only [Bool.or_eq_false_iff] at hcl
    obtain ⟨hunbound, hall⟩ := hcl
    obtain ⟨w, htodo, hall⟩ := (Option.all_eq_false _ _).1 hall
    obtain ⟨h, hw, hcl⟩ := (Option.all_eq_false _ _).1 hall
    simp only [Bool.and_eq_false_iff, Bool.or_eq_false_iff, Bool.not_eq_false',
      Option.isNone_eq_false_iff] at hcl
    exact careless_cleanUpNext hc hunbound htodo hw hcl

/-- In a run from the beginning every state is good, and stays so whatever the calls under way do next, if
and only if each step of the run is careful. -/
theorem bound_services_iff (acts : List (Act T)) :
    (∀ pre s, pre <+: acts → run step {} pre = some s → Ahead step Act.own Good s) ↔
      obeys step careful {} acts = true := by
  refine ahead_iff_obeys (fun _ _ _ hok hi hs => inv_step hok hi hs) (fun _ hi => hi.good) ?_
    (fun _ _ hok hi => careless_step hok hi) Inv.init
  intro a s ha
  cases a with
  | call i ev =>
    cases ev with
    | interrupted => cases ha
    | _ => rfl
  | _ => cases ha

/-- The audio manager is bound and connected, and somebody has got it. -/
def first : List (Act Nat) :=
  [.getter .audioManger true, .onServiceConnected .audioManger 7, .call 0 .goOn, .call 0 .goOn]

def lost : List (Act Nat) :=
  first ++ [Act.onServiceDisconnected .audioManger, Act.getter .audioManger true, Act.call 1 .goOn,
    Act.call 1 .acquired, Act.call 1 .goOn]

def cleanedUp : List (Act Nat) := first ++ Act.cleanUp :: List.replicate 6 (Act.cleanUpNext 0)

theorem wrong_outcome {acts : List (Act Nat)} {o : Outcome Nat}
    (h : (run step {} acts).map (·.log.head?) = some (some o)) (ho : ¬ o.Right) :
    ∃ s, run step {} acts = some s ∧ s.log.head? = some o ∧ ¬ Good s := by
  obtain ⟨s, hs, hlog⟩ := Option.map_eq_some_iff.1 h
  exact ⟨s, hs, hlog, fun hg => ho (hg.log o (List.mem_of_head? hlog))⟩

/-- The permit of the lost service makes the second call raise without any wait; a service is returned after
`cleanUp`; and a second `cleanUp` unbinds what is not bound. -/
theorem stale_services :
    (∃ s h, run step {} (first ++ [Act.onServiceDisconnected .audioManger]) = some s ∧
      s.holders .audioManger = some h ∧ h.serviceCreationSemaphore = 1 ∧ h.service = none ∧ ¬ Good s) ∧
    (∃ s, run step {} lost = some s ∧
      s.log.head? = some (.raised .audioManger ⟨"No service was bound"⟩ false false) ∧ ¬ Good s) ∧
    (∃ s, run step {} (cleanedUp ++ [Act.getter .audioManger true, Act.call 1 .goOn, Act.call 1 .goOn]) = some s ∧
      s.log.head? = some (.returned .audioManger (some 7) false (some 7)) ∧ ¬ Good s) ∧
    ∃ s, run step {} (cleanedUp ++ [Act.cleanUp, Act.cleanUpNext 1, Act.cleanUpNext 1]) = some s ∧
      s.log.head? = some (.unbound .audioManger false) ∧ ¬ Good s := by
  refine ⟨?_, wrong_outcome (by decide) ?_, wrong_outcome (by decide) ?_, wrong_outcome (by decide) ?_⟩
  · have hrun : (run step {} (first ++ [Act.onServiceDisconnected .audioManger])).map (fun s =>
        (s.holders .audioManger).map fun h => (h.serviceCreationSemaphore, h.service)) = some (some (1, none)) := by
      decide
    obtain ⟨s, hs, hh⟩ := Option.map_eq_some_iff.1 hrun
    obtain ⟨h, hw, heq⟩ := Option.map_eq_some_iff.1 hh
    cases h with
    | mk permits service bound connected =>
      cases heq
      exact ⟨s, _, hs, hw, rfl, rfl, fun hg => hg.permit _ _ hw Nat.one_pos rfl⟩
  · rintro ⟨hw, -⟩
    cases hw
  · intro hr
    cases (hr 7 rfl).1
  · intro hr
    cases hr

end ServiceLocator
end OnionPhone
