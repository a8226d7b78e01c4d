import OnionPhone.Lib.Machine
import OnionPhone.Quiet

/-!
# OnionPhone.OneCall

Sequences of the operations that start, take, answer and end calls, each run to its end, with any
replies of the network and of the peer.

`CallHandler.assertNoCall` asks the handler that `startCall` has just made, not the one it replaces, so
it never objects; and `handleIncomingCall` does not ask at all. A call that is initialised or ongoing is
then forgotten, and there can be two (`two_calls`).

`at_most_one_call`: as long as neither is issued while there is a call, at most one call is initialised
or ongoing at every moment. Incoming connections need no care: while there is a call there is a socket.
-/

namespace OnionPhone
namespace OneCall

open Wire Wire.Job SetUp

variable {C : Crypto} {α β : Type}

/-! ## What the views say -/

def status (v : View) (i : Nat) : CallStatus := v.statuses.getD i .noCall

def busy (v : View) : Bool := v.statuses.any (· ≠ .noCall)

def AtMostOne (v : View) : Prop := ∀ i j, status v i ≠ .noCall → status v j ≠ .noCall → i = j

/-- A call that is initialised or ongoing is the one `ProtocolManagementImpl` knows, and there is a
socket. -/
structure Sound (v : View) : Prop where
  current : ∀ i, status v i ≠ .noCall → v.callHandler = some i
  connected : ∀ i, status v i ≠ .noCall → v.socket ≠ none

theorem Sound.atMostOne {v : View} (h : Sound v) : AtMostOne v := by
  intro i j hi hj
  have hij := (h.current i hi).symm.trans (h.current j hj)
  exact Option.some.inj hij

theorem status_of_not_busy {v : View} (h : busy v = false) (i : Nat) : status v i = .noCall := by
  unfold status
  rw [List.getD_eq_getElem?_getD]
  cases hi : v.statuses[i]? with
  | none => rfl
  | some s =>
    by_contra hs
    have hany : busy v = true := List.any_eq_true.2 ⟨s, List.mem_of_getElem? hi, by simpa using hs⟩
    rw [h] at hany
    cases hany

theorem status_view (app : App C) (i : Nat) : status app.view i = (app.handler i).callStatus := by
  unfold status App.view App.handler
  rw [List.getD_eq_getElem?_getD, List.getD_eq_getElem?_getD, List.getElem?_map]
  cases app.handlers[i]? <;> rfl

theorem status_withStatus_ne {v : View} {this i : Nat} {s : CallStatus} (h : i ≠ this) :
    status (v.withStatus this s) i = status v i := by
  simp [status, View.withStatus, Ne.symm h]

/-! ## What one operation keeps -/

/-- What a call on handler `this` keeps true: `this` stays the current handler, and nothing else is
needed to open the connection and to set the status of `this`. -/
structure Steady (this : Nat) (K : View → Prop) : Prop where
  current : ∀ v, K v → v.callHandler = some this
  assigned : ∀ v socket, K v → K { v with socket := some socket }
  stopped : ∀ v listener, K v → K { v with listener := listener }
  status : ∀ v s, K v → v.socket ≠ none → K (v.withStatus this s)

theorem steady_sound (this : Nat) :
    Steady this fun v => Sound v ∧ v.callHandler = some this where
  current _ h := h.2
  assigned _ _ h := ⟨⟨h.1.current, fun _ _ => by simp⟩, h.2⟩
  stopped _ _ h := ⟨⟨h.1.current, h.1.connected⟩, h.2⟩
  status _ _ h hs := by
    refine ⟨⟨fun i hi => ?_, fun _ _ => hs⟩, h.2⟩
    by_cases hi' : i = this
    · rw [hi']
      exact h.2
    · rw [status_withStatus_ne hi'] at hi
      exact h.1.current i hi

theorem steady_current (this : Nat) : Steady this fun v => v.callHandler = some this where
  current _ h := h
  assigned _ _ h := h
  stopped _ _ h := h
  status _ _ h _ := h

/-- `K` holds at every step and at the end, however the method ends. -/
def Stays (K : View → Prop) (m : Task C α) (app : App C) : Prop :=
  m.Keeps (fun a => K a.view) (fun _ a => K a.view) (fun _ a => K a.view) app

variable {K : View → Prop} {this : Nat} {app : App C}

theorem Stays.mono {K' : View → Prop} {m : Task C α} (h : Stays K m app) (hK : ∀ v, K v → K' v) :
    Stays K' m app := by
  refine Thread.Keeps.mono h (fun a => hK a.view) ?_
  intro r a hr
  cases r with
  | ok x => exact hK a.view hr
  | error e => exact hK a.view hr

theorem Stays.bind {m : Task C α} {f : α → Task C β} {Q : α → App C → Prop}
    (h : m.Keeps (fun a => K a.view) Q (fun _ a => K a.view) app)
    (hf : ∀ x a, Q x a → Stays K (f x) a) : Stays K (m >>= f) app := Keeps.bind h hf

theorem keeps_of_quiet {m : Task C α} (hm : Quiet m) (hK : K app.view) :
    m.Keeps (fun a => K a.view) (fun _ a => a.view = app.view) (fun _ a => K a.view) app := by
  refine Thread.Keeps.mono (hm app) (fun a h => by rw [h]; exact hK) ?_
  intro r a h
  cases r with
  | ok x => exact h
  | error e =>
    show K a.view
    rw [h.1]
    exact hK

theorem Stays.of_quiet {m : Task C α} {f : α → Task C β} (hm : Quiet m) (hK : K app.view)
    (hf : ∀ x a, a.view = app.view → Stays K (f x) a) : Stays K (m >>= f) app :=
  .bind (keeps_of_quiet hm hK) hf

theorem Stays.of_reaches {m : Task C α} {w : View} (hm : Reaches m app.view w) (hK : K app.view)
    (hw : K w) : Stays K m app := by
  refine Thread.Keeps.mono (hm app rfl) ?_ ?_
  · rintro a (h | h)
    · rw [h]
      exact hK
    · rw [h]
      exact hw
  · intro r a h
    cases r with
    | ok x =>
      show K a.view
      rw [h]
      exact hw
    | error e =>
      show K a.view
      rw [h.1]
      exact hK

/-! ## The methods -/

theorem getStream_connected (msg : String) :
    (TorNetwork.getStream msg : Task C SocketId).Keeps (fun a => a.view = app.view)
      (fun _ a => a.view = app.view ∧ app.view.socket ≠ none)
      (fun e a => a.view = app.view ∧ e ≠ .io) app := by
  have hcheck : (TorNetwork.checkForNullSocket : Task C Unit).Keeps (fun a => a.view = app.view)
      (fun _ a => a.view = app.view ∧ app.view.socket ≠ none)
      (fun e a => a.view = app.view ∧ e ≠ .io) app := by
    refine Keeps.access_bind rfl ?_
    dsimp only [id]
    cases hs : app.torNetwork.socket with
    | none => exact ⟨rfl, by simp⟩
    | some c => exact ⟨rfl, by simp [App.view, hs]⟩
  refine Keeps.bind hcheck ?_
  rintro _ a ⟨ha, hc⟩
  refine Keeps.access_bind ha ?_
  dsimp only [id]
  cases a.torNetwork.socket with
  | none => exact ⟨ha, by simp⟩
  | some c =>
    refine Keeps.bind (Keeps.call (Q := fun _ (b : App C) => b.view = app.view) ha
      ⟨ha, by simp⟩) ?_
    intro _ b hb
    exact ⟨hb, hc⟩

theorem Stays.of_stream {msg : String} {f : SocketId → Task C β} (hK : K app.view)
    (hf : ∀ c a, a.view = app.view → app.view.socket ≠ none → Stays K (f c) a) :
    Stays K (TorNetwork.getStream msg >>= f) app := by
  refine .bind (Q := fun _ a => a.view = app.view ∧ app.view.socket ≠ none) ?_
    fun c a h => hf c a h.1 h.2
  refine Thread.Keeps.mono (getStream_connected msg) (fun a h => by rw [h]; exact hK) ?_
  intro r a h
  cases r with
  | ok c => exact h
  | error e =>
    show K a.view
    rw [h.1]
    exact hK

theorem Stays.of_callHandler {f : Nat → Task C β} (hK : K app.view)
    (hcur : app.view.callHandler = some this) (hf : Stays K (f this) app) :
    Stays K (ProtocolManagement.callHandler >>= f) app := by
  have hc : app.callHandler = some this := hcur
  have hread : (ProtocolManagement.callHandler : Task C Nat).Keeps (fun a => K a.view)
      (fun i a => i = this ∧ a = app) (fun _ a => K a.view) app := by
    refine Keeps.access_bind hK ?_
    dsimp only [id]
    rw [hc]
    exact ⟨rfl, rfl⟩
  refine Keeps.bind hread ?_
  rintro _ _ ⟨rfl, rfl⟩
  exact hf

theorem assertCallIsInitialized_keeps (hK : K app.view) :
    (CallHandler.assertCallIsInitialized this : Task C Unit).Keeps (fun a => K a.view)
      (fun _ a => a = app ∧ status app.view this = .initialized) (fun _ a => K a.view) app := by
  refine ⟨hK, ?_⟩
  show Job.Keeps _ _ _ (if (app.handler this).callStatus ≠ .initialized then
    throw (.call "no call was initialized") else pure () : Task C Unit) app
  split
  · exact hK
  · next h => exact ⟨rfl, by rw [status_view]; exact not_not.1 h⟩

theorem acceptCall_stays (p : Party C) (callInfo : CallInfo C) (hS : Steady this K)
    (hK : K app.view) (hc : status app.view this ≠ .noCall → app.view.socket ≠ none) :
    Stays K (CallHandler.acceptCall p this callInfo) app := by
  refine .bind (assertCallIsInitialized_keeps hK) ?_
  rintro _ a ⟨rfl, hs⟩
  have hsocket : a.view.socket ≠ none := hc (by rw [hs]; simp)
  refine .of_quiet (.getStream _) hK fun ins a₁ h₁ => ?_
  rw [← h₁] at hK hsocket
  refine .of_quiet (.getStream _) hK fun outs a₂ h₂ => ?_
  rw [← h₂] at hK hsocket
  refine .of_quiet (.runMain this ins outs (.acceptCall _ _) callInfo) hK fun info a₃ h₃ => ?_
  rw [← h₃] at hK hsocket
  refine .of_quiet (.runSrtp this ins outs (.srtpIncoming _ _ _ _ _)) hK fun _ a₄ h₄ => ?_
  rw [← h₄] at hK hsocket
  exact .of_reaches (.connectMedia this ins outs) hK (hS.status _ _ hK hsocket)

theorem connectTo_keeps (identity : Option (Identity C)) (socket : SocketId) (hS : Steady this K)
    (hK : K app.view) :
    (CallHandler.connectTo identity socket).Keeps (fun a => K a.view)
      (fun b a => K a.view ∧ (b = true → a.view.socket ≠ none)) (fun _ a => K a.view) app := by
  refine Keeps.rescue ?_ ?_
  · cases identity with
    | none => exact hK
    | some identity =>
      have h₁ : K { app.view with socket := some socket } := hS.assigned _ _ hK
      have h₂ : K { app.view with socket := some socket, listener := ⟨false, false⟩ } :=
        hS.stopped _ _ h₁
      intro ok
      cases ok with
      | false => exact hK
      | true =>
        refine ⟨h₁, fun ok => ?_⟩
        cases ok with
        | false => exact h₁
        | true =>
          intro ok
          cases ok with
          | false => exact h₁
          | true => exact ⟨h₂, h₂, h₂, by simp [App.view, App.setSocket]⟩
  · rintro e b a ha hb
    refine ⟨ha, ?_⟩
    cases e with
    | connection msg =>
      cases hb
      simp
    | _ => cases hb

theorem startCall_stays (fuel : Nat) (p : Party C) (socket : SocketId) (callInfo : CallInfo C)
    (hS : Steady this K) (hK : K app.view) :
    Stays K (CallHandler.startCall fuel p socket this callInfo) app := by
  refine .of_quiet (.bind .look fun a => ?_) hK fun _ a h => ?_
  · show Quiet (if _ then _ else _ : Task C Unit)
    split
    · exact .throw (by simp)
    · exact .pure ()
  rw [← h] at hK
  refine .bind (connectTo_keeps callInfo.identity socket hS hK) ?_
  rintro b a' ⟨hK, hsocket⟩
  cases b with
  | false => exact hK
  | true =>
    have hsocket := hsocket rfl
    rw [if_pos rfl]
    refine .of_quiet (.getStream _) hK fun ins a₁ h₁ => ?_
    rw [← h₁] at hK hsocket
    refine .of_quiet (.getStream _) hK fun outs a₂ h₂ => ?_
    rw [← h₂] at hK hsocket
    refine .of_quiet (.runMain this ins outs (.initiateOutgoingSession _ _ _ _) callInfo) hK
      fun info a₃ h₃ => ?_
    rw [← h₃] at hK hsocket
    refine .of_quiet (.runSrtp this ins outs (.srtpOutgoing _ _ _ _ _)) hK fun _ a₄ h₄ => ?_
    rw [← h₄] at hK hsocket
    exact .of_reaches (.connectMedia this ins outs) hK (hS.status _ _ hK hsocket)

theorem handleIncomingCall_stays (p : Party C) (hS : Steady this K) (hK : K app.view) :
    Stays K (CallHandler.handleIncomingCall p this) app := by
  refine .of_stream hK fun ins a₁ h₁ hsocket => ?_
  rw [← h₁] at hK hsocket
  refine .of_quiet (.getStream _) hK fun outs a₂ h₂ => ?_
  rw [← h₂] at hK hsocket
  refine .of_quiet (.runMain this ins outs (.initiateIncomingSession _) {}) hK fun info a₃ h₃ => ?_
  rw [← h₃] at hK hsocket
  -- from here on the call is initialised
  have hset := a₃.view_setStatus this .initialized
  have hK' : K (a₃.modifyHandler this fun h => { h with callStatus := .initialized }).view := by
    rw [hset]
    exact hS.status _ _ hK hsocket
  have hsocket' : (a₃.modifyHandler this fun h => { h with callStatus := .initialized }).view.socket ≠
      none := hsocket
  refine .bind (Q := fun _ a => K a.view ∧ a.view.socket ≠ none) ⟨hK', hK', hsocket'⟩ ?_
  rintro _ a₄ ⟨hK, hsocket⟩
  refine .of_quiet (.update fun _ => rfl) hK fun _ a₅ h₅ => ?_
  rw [← h₅] at hK hsocket
  refine .of_quiet .look hK fun app' a₆ h₆ => ?_
  rw [← h₆] at hK hsocket
  cases app'.callInfo with
  | none => exact hK
  | some callInfo =>
    exact .of_callHandler hK (hS.current _ hK) (acceptCall_stays p callInfo hS hK fun _ => hsocket)

/-! ## Operations -/

inductive Op (C : Crypto) where
  | startCall (fuel : Nat) (p : Party C) (socket : SocketId) (callInfo : CallInfo C)
  | handleIncomingCall (p : Party C)
  | acceptCall (p : Party C) (callInfo : CallInfo C)
  | endCall
  /-- `TorNetwork.handleIncomingConnection`. -/
  | incomingConnection (p : Party C) (socket : SocketId)

def Op.method : Op C → Task C Unit
  | .startCall fuel p socket callInfo => ProtocolManagement.startCall fuel p socket callInfo
  | .handleIncomingCall p => ProtocolManagement.handleIncomingCall p
  | .acceptCall p callInfo => ProtocolManagement.acceptCall p callInfo
  | .endCall => ProtocolManagement.endCall
  | .incomingConnection p socket => TorNetwork.handleIncomingConnection p socket

/-- The operation may be issued: the two that do not look whether there is a call are not issued while
there is one. -/
def Op.allowed (v : View) : Op C → Bool
  | .startCall .. => !busy v
  | .handleIncomingCall _ => !busy v
  | _ => true

theorem newHandler_sound (h : busy app.view = false) :
    Sound app.newHandler.view ∧ app.newHandler.view.callHandler = some app.handlers.length := by
  have hs : ∀ i, status app.newHandler.view i = .noCall := by
    intro i
    refine status_of_not_busy ?_ i
    have hv : app.newHandler.view.statuses = app.view.statuses ++ [.noCall] := by
      simp [App.view, App.newHandler]
    unfold busy at h ⊢
    rw [hv, List.any_append, h]
    rfl
  exact ⟨⟨fun i hi => absurd (hs i) hi, fun i hi => absurd (hs i) hi⟩, rfl⟩

theorem management_handleIncomingCall_stays (p : Party C) (h : busy app.view = false) :
    Stays Sound (ProtocolManagement.handleIncomingCall p) app := by
  have hn := newHandler_sound h
  refine Stays.mono ?_ fun v (hv : Sound v ∧ v.callHandler = some app.handlers.length) => hv.1
  refine ⟨hn, ?_⟩
  exact Stays.of_callHandler hn hn.2 (handleIncomingCall_stays p (steady_sound _) hn)

theorem Sound.not_busy {v : View} (h : Sound v) (hs : v.socket = none) : busy v = false := by
  by_contra hb
  obtain ⟨s, hmem, hne⟩ := List.any_eq_true.1 (Bool.not_eq_false _ ▸ hb)
  obtain ⟨i, hi⟩ := List.mem_iff_getElem?.1 hmem
  refine h.connected i ?_ hs
  rw [status, List.getD_eq_getElem?_getD, hi]
  simpa using hne

/-- Every operation that may be issued keeps the phone sound at every step. -/
theorem op_stays (op : Op C) (h : Sound app.view) (ha : op.allowed app.view = true) :
    Stays Sound op.method app := by
  cases op with
  | startCall fuel p socket callInfo =>
    have hn := newHandler_sound (by simpa [Op.allowed] using ha)
    refine Stays.mono ?_ fun v (hv : Sound v ∧ v.callHandler = some app.handlers.length) => hv.1
    refine ⟨hn, ?_⟩
    exact Stays.of_callHandler (f := fun this => CallHandler.startCall fuel p socket this callInfo)
      hn hn.2 (startCall_stays fuel p socket callInfo (steady_sound _) hn)
  | handleIncomingCall p =>
    exact management_handleIncomingCall_stays p (by simpa [Op.allowed] using ha)
  | acceptCall p callInfo =>
    cases hc : app.view.callHandler with
    | none =>
      have hc' : app.callHandler = none := hc
      have hread : (ProtocolManagement.callHandler : Task C Nat).Keeps (fun a => Sound a.view)
          (fun _ _ => False) (fun _ a => Sound a.view) app := by
        refine Keeps.access_bind h ?_
        dsimp only [id]
        rw [hc']
        exact h
      exact Keeps.bind hread fun _ _ hf => hf.elim
    | some this =>
      refine Stays.mono ?_ fun v (hv : Sound v ∧ v.callHandler = some this) => hv.1
      have hK : Sound app.view ∧ app.view.callHandler = some this := ⟨h, hc⟩
      exact Stays.of_callHandler hK hc
        (acceptCall_stays p callInfo (steady_sound _) hK (h.connected this))
  | endCall => exact h
  | incomingConnection p socket =>
    refine Keeps.access_bind h ?_
    dsimp only [id]
    cases hs : app.torNetwork.socket with
    | some c => exact h
    | none =>
      have hb : busy app.view = false := h.not_busy hs
      have h' : Sound { app.view with socket := some socket } := ⟨h.current, fun _ _ => by simp⟩
      exact ⟨h, h', management_handleIncomingCall_stays p hb⟩

/-! ## Sequences -/

structure State (C : Crypto) where
  app : App C
  running : Option (Task C Unit) := none

inductive Act (C : Crypto) where
  | call (op : Op C)
  | reply (r : Reply)

def step : Act C → State C → Option (State C)
  | .call op, ⟨app, none⟩ => some ⟨app, some op.method⟩
  | .call _, ⟨_, some _⟩ => none
  | .reply _, ⟨_, none⟩ => none
  | .reply _, ⟨app, some (.ret _)⟩ => some ⟨app, none⟩
  | .reply r, ⟨app, some t⟩ => (Thread.step t app r).map fun x => ⟨x.2.1, some x.1⟩

def careful (s : State C) : Act C → Bool
  | .call op => op.allowed s.app.view
  | .reply _ => true

structure Inv (s : State C) : Prop where
  sound : Sound s.app.view
  running : ∀ t, s.running = some t → Stays Sound t s.app

theorem inv_step (act : Act C) (s s' : State C) (hc : careful s act = true) (h : Inv s)
    (hs : step act s = some s') : Inv s' := by
  obtain ⟨app, running⟩ := s
  cases act with
  | call op =>
    cases running with
    | some t => cases hs
    | none =>
      cases hs
      refine ⟨h.sound, fun t ht => ?_⟩
      cases ht
      exact op_stays op h.sound hc
  | reply r =>
    cases running with
    | none => cases hs
    | some t =>
      have ht := h.running t rfl
      by_cases hret : ∃ x, t = .ret x
      · obtain ⟨x, rfl⟩ := hret
        cases hs
        exact ⟨h.sound, fun t ht => by cases ht⟩
      · have hs' : (Thread.step t app r).map (fun x => (⟨x.2.1, some x.1⟩ : State C)) = some s' := by
          cases t with
          | ret x => exact absurd ⟨x, rfl⟩ hret
          | _ => exact hs
        obtain ⟨⟨t', app', e⟩, hstep, rfl⟩ := Option.map_eq_some_iff.1 hs'
        obtain ⟨hI, hk⟩ := Thread.Keeps.step ht h.sound hstep
        refine ⟨hI, fun t'' ht'' => ?_⟩
        cases ht''
        exact hk

/-- In every sequence in which the operations are issued with care, with any replies, at most one call is
initialised or ongoing at every moment. -/
theorem at_most_one_call {app : App C} (h0 : app.handlers = []) {acts : List (Act C)} {s : State C}
    (hc : obeys step careful ⟨app, none⟩ acts = true)
    (hr : run step ⟨app, none⟩ acts = some s) : AtMostOne s.app.view := by
  have hs : ∀ i, status app.view i = .noCall := by
    intro i
    rw [status_view, App.handler, h0]
    rfl
  have hi : Inv (⟨app, none⟩ : State C) :=
    ⟨⟨fun i hi => absurd (hs i) hi, fun i hi => absurd (hs i) hi⟩, fun t ht => by cases ht⟩
  exact (run_inv inv_step hi hc hr).sound.atMostOne

/-- And a `startCall` that is issued while there is a call makes the phone forget it: the handler it made
is the current one, however it ends. -/
theorem startCall_replaces {fuel : Nat} {p : Party C} {socket : SocketId} {callInfo : CallInfo C}
    {rs rs' : List Reply} {r : Except Exn Unit} {app' : App C}
    (h : (ProtocolManagement.startCall fuel p socket callInfo).play app rs = some (r, app', rs')) :
    app'.callHandler = some app.handlers.length := by
  have hS := steady_current app.handlers.length
  have hn : app.newHandler.view.callHandler = some app.handlers.length := rfl
  have hk : Stays (fun v => v.callHandler = some app.handlers.length)
      (ProtocolManagement.startCall fuel p socket callInfo) app :=
    ⟨hn, Stays.of_callHandler (f := fun this => CallHandler.startCall fuel p socket this callInfo)
      hn hn (startCall_stays fuel p socket callInfo hS hn)⟩
  have hQ := Thread.Keeps.play hk h
  cases r with
  | ok x => exact hQ
  | error e => exact hQ

/-! ## Instances -/

theorem run_of_play {t : Task C Unit} {r : Except Exn Unit} {app app' : App C} {rs rs' : List Reply}
    (h : t.play app rs = some (r, app', rs')) :
    ∃ acts, run step ⟨app, some t⟩ acts = some ⟨app', none⟩ := by
  induction t generalizing app rs with
  | ret x =>
    cases h
    exact ⟨[.reply .done], rfl⟩
  | spin => cases h
  | act w f k ih =>
    obtain ⟨acts, ha⟩ := ih app h
    exact ⟨.reply .done :: acts, ha⟩
  | ask k ih =>
    cases rs with
    | nil => cases h
    | cons x rs =>
      obtain ⟨ok, hok, hk⟩ := Option.bind_eq_some_iff.1 h
      obtain ⟨acts, ha⟩ := ih ok hk
      exact ⟨.reply x :: acts, by simpa [run, step, Thread.step, hok] using ha⟩
  | send c bs k ih =>
    cases rs with
    | nil => cases h
    | cons x rs =>
      obtain ⟨ok, hok, hk⟩ := Option.bind_eq_some_iff.1 h
      obtain ⟨acts, ha⟩ := ih ok hk
      exact ⟨.reply x :: acts, by simpa [run, step, Thread.step, hok] using ha⟩
  | recv c n k ih =>
    cases rs with
    | nil => cases h
    | cons x rs =>
      obtain ⟨o, ho, hk⟩ := Option.bind_eq_some_iff.1 h
      obtain ⟨acts, ha⟩ := ih o hk
      exact ⟨.reply x :: acts, by simpa [run, step, Thread.step, ho] using ha⟩

open MainProtocol in
/-- An anonymous caller goes through the handshake and is gone when the call is answered. -/
def lostCaller : List Reply :=
  [.done, .done, .data helloMsg, .done, .done, .data helloAckMsg, .data versionMsg, .done,
    .data noIntroductionMsg, .data noIntroductionReqMsg, .done, .done, .failed]

open MainProtocol in
def goodCallee : List Reply :=
  [.done, .done, .done, .done, .done, .done, .data helloAckMsg, .data helloMsg, .done, .done,
    .data versionMsg, .done, .done, .data acceptMsg, .done, .done, .data [0, 0, 0, 1], .data [5],
    .done, .done, .data [0, 0, 0, 9], .data (List.replicate 14 0)]

def lostCall : Op smallCrypto := .incomingConnection (smallParty 1) 7

def nextCall : Op smallCrypto := .startCall 4 (smallParty 2) 8 { identity := some {} }

def forgotten : App smallCrypto where
  torNetwork := ⟨some 7, true⟩
  handlers := [{ callStatus := .initialized, keepAliveWorker := some false }]
  callHandler := some 0
  callInfo := some { identity := some {} }

theorem lostCall_play : lostCall.method.play {} lostCaller =
    some (.error (.mainProtocol "error while sending message"), forgotten, []) := rfl

theorem nextCall_play : (nextCall.method.play forgotten goodCallee).map (fun x => x.2.1.view) =
    some ⟨some 8, ⟨false, false⟩, [.initialized, .ongoing], some 1⟩ :=
  rfl

/-- The lost call and the next one: two calls, one initialised and one ongoing. -/
theorem two_calls : ∃ (acts : List (Act smallCrypto)) (s : State smallCrypto),
    run step ⟨{}, none⟩ acts = some s ∧ ¬ AtMostOne s.app.view := by
  obtain ⟨⟨r, app, rs⟩, hplay, hview⟩ := Option.map_eq_some_iff.1 nextCall_play
  obtain ⟨as, ha⟩ := run_of_play lostCall_play
  obtain ⟨bs, hb⟩ := run_of_play hplay
  refine ⟨(.call lostCall :: as) ++ (.call nextCall :: bs), ⟨app, none⟩, run_append ha hb, ?_⟩
  intro h
  have hv : app.view = ⟨some 8, ⟨false, false⟩, [.initialized, .ongoing], some 1⟩ := hview
  have h01 := h 0 1 (by rw [hv]; decide) (by rw [hv]; decide)
  cases h01

open MainProtocol in
def lostCallerSteps : List Reply :=
  List.replicate 12 Reply.done ++ ([.data helloMsg, .done, .done, .data helloAckMsg, .data versionMsg,
    .done, .data noIntroductionMsg, .data noIntroductionReqMsg] : List Reply) ++
    List.replicate 14 Reply.done ++ ([.failed, .done, .done] : List Reply)

/-- The lost call, and then another connection, which is dropped. -/
def twoConnections : List (Act smallCrypto) :=
  Act.call lostCall :: lostCallerSteps.map Act.reply ++ [Act.call lostCall, .reply .done, .reply .done]

theorem at_most_one_call_two_connections :
    ∃ s, run step ⟨{}, none⟩ twoConnections = some s ∧ status s.app.view 0 = .initialized ∧
      AtMostOne s.app.view := by
  have hc : obeys step careful ⟨{}, none⟩ twoConnections = true := by decide +kernel
  obtain ⟨s, hs, hst⟩ : ∃ s, run step ⟨{}, none⟩ twoConnections = some s ∧
      status s.app.view 0 = .initialized := ⟨_, rfl, rfl⟩
  exact ⟨s, hs, hst, at_most_one_call rfl hc hs⟩

end OneCall
end OnionPhone
