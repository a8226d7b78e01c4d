import OnionPhone.Lib.Machine
import OnionPhone.CallHandler

/-!
# OnionPhone.Isolation

One thread in `startCall` next to the thread of the listener, over the one field `TorNetwork.socket`.

`connectTo` assigns the field after a connect that takes long, without a look at it, and a call fetches
its streams from the field again in each phase. So the answer to an incoming call can go out on the
connection of the outgoing one (`answer_on_other_socket`).

`calls_isolated`: if no thread assigns the field while the other call has assigned it and still has a
stream to fetch, every octet of a call goes over its own socket: handshake, keep-alive, answer, key
exchange, SRTP set-up and media.

`Conforms` says what a thread does if the field holds its own socket whenever it fetches a stream; it is
followed through the methods, and the machine provides the condition.
-/

namespace OnionPhone
namespace Isolation

open Wire Wire.Job SetUp

variable {C : Crypto} {α β : Type}

/-! ## Threads that keep to their socket -/

/-- Whether the thread has assigned the field, and how many streams it has fetched. -/
structure Phase where
  assigned : Bool := false
  fetches : Nat := 0
  deriving DecidableEq, Repr

/-- The thread assigns only `own`, fetches at most `total` streams and only after it has assigned, and,
if the field holds `own` at every fetch, reads, writes and hands on streams of `own` only. `Q` is about
its result and the phase it ends in. -/
def Conforms (own : SocketId) (total : Nat) (Q : α → Phase → Prop) :
    Phase → Thread SocketId Access (App C) α → Prop
  | ph, .ret a => Q a ph
  | _, .spin => True
  | ph, .act (.assigned c) f k => c = own ∧ (∀ s, (f s).torNetwork.socket = some own) ∧
      ∀ s, Conforms own total Q { ph with assigned := true } (k s)
  | ph, .act .fetched f k => ph.assigned = true ∧ ph.fetches < total ∧
      (∀ s, (f s).torNetwork.socket = s.torNetwork.socket) ∧
      ∀ s, s.torNetwork.socket = some own →
        Conforms own total Q { ph with fetches := ph.fetches + 1 } (k s)
  | ph, .act (.handed c) f k => c = own ∧ (∀ s, (f s).torNetwork.socket = s.torNetwork.socket) ∧
      ∀ s, Conforms own total Q ph (k s)
  | ph, .act .field f k => (∀ s, (f s).torNetwork.socket = s.torNetwork.socket) ∧
      ∀ s, Conforms own total Q ph (k s)
  | ph, .ask k => ∀ ok, Conforms own total Q ph (k ok)
  | ph, .send c _ k => c = own ∧ ∀ ok, Conforms own total Q ph (k ok)
  | ph, .recv c _ k => c = own ∧ ∀ o, Conforms own total Q ph (k o)

variable {own : SocketId} {total : Nat} {ph : Phase}

theorem conforms_mono {Q R : α → Phase → Prop} (hQ : ∀ a ph, Q a ph → R a ph) :
    ∀ {ph : Phase} {t : Thread SocketId Access (App C) α},
      Conforms own total Q ph t → Conforms own total R ph t := by
  intro ph t
  induction t generalizing ph with
  | ret a => exact hQ a ph
  | spin => exact id
  | act w f k ih =>
    intro h
    cases w with
    | assigned c => exact ⟨h.1, h.2.1, fun s => ih s (h.2.2 s)⟩
    | fetched => exact ⟨h.1, h.2.1, h.2.2.1, fun s hs => ih s (h.2.2.2 s hs)⟩
    | handed c => exact ⟨h.1, h.2.1, fun s => ih s (h.2.2 s)⟩
    | field => exact ⟨h.1, fun s => ih s (h.2 s)⟩
  | ask k ih => exact fun h ok => ih ok (h ok)
  | send c bs k ih => exact fun h => ⟨h.1, fun ok => ih ok (h.2 ok)⟩
  | recv c n k ih => exact fun h => ⟨h.1, fun o => ih o (h.2 o)⟩

theorem conforms_bind {Q : α → Phase → Prop} {R : β → Phase → Prop}
    {f : α → Thread SocketId Access (App C) β}
    (hf : ∀ a ph, Q a ph → Conforms own total R ph (f a)) :
    ∀ {ph : Phase} {t : Thread SocketId Access (App C) α},
      Conforms own total Q ph t → Conforms own total R ph (t.bind f) := by
  intro ph t
  induction t generalizing ph with
  | ret a => exact hf a ph
  | spin => exact id
  | act w f k ih =>
    intro h
    cases w with
    | assigned c => exact ⟨h.1, h.2.1, fun s => ih s (h.2.2 s)⟩
    | fetched => exact ⟨h.1, h.2.1, h.2.2.1, fun s hs => ih s (h.2.2.2 s hs)⟩
    | handed c => exact ⟨h.1, h.2.1, fun s => ih s (h.2.2 s)⟩
    | field => exact ⟨h.1, fun s => ih s (h.2 s)⟩
  | ask k ih => exact fun h ok => ih ok (h ok)
  | send c bs k ih => exact fun h => ⟨h.1, fun ok => ih ok (h.2 ok)⟩
  | recv c n k ih => exact fun h => ⟨h.1, fun o => ih o (h.2 o)⟩

/-- A task that conforms and ends normally in `Q`; nothing is said of exceptions. -/
def Calls (own : SocketId) (total : Nat) (Q : α → Phase → Prop) (ph : Phase) (m : Task C α) : Prop :=
  Conforms own total (fun r ph => ∀ a, r = .ok a → Q a ph) ph m

theorem Calls.mono {Q R : α → Phase → Prop} {m : Task C α} (h : Calls own total Q ph m)
    (hQ : ∀ a ph, Q a ph → R a ph) : Calls own total R ph m :=
  conforms_mono (fun _ _ h a ha => hQ a _ (h a ha)) h

theorem Calls.pure {Q : α → Phase → Prop} {a : α} (h : Q a ph) :
    Calls own total Q ph (pure a : Task C α) := by
  intro b hb
  cases hb
  exact h

theorem Calls.throw {Q : α → Phase → Prop} (e : Exn) : Calls own total Q ph (throw e : Task C α) := by
  intro b hb
  cases hb

theorem Calls.bind {Q : α → Phase → Prop} {R : β → Phase → Prop} {m : Task C α} {f : α → Task C β}
    (h : Calls own total Q ph m) (hf : ∀ a ph, Q a ph → Calls own total R ph (f a)) :
    Calls own total R ph (m >>= f) := by
  refine conforms_bind ?_ h
  intro r ph hr
  cases r with
  | ok a => exact hf a ph (hr a rfl)
  | error e =>
    intro b hb
    cases hb

/-! ## Methods that do not change the phase -/

def Within (own : SocketId) (m : Task C α) : Prop :=
  ∀ total ph, Calls own total (fun _ ph' => ph' = ph) ph m

namespace Within

theorem pure (a : α) : Within own (pure a : Task C α) := fun _ _ => Calls.pure rfl

theorem throw (e : Exn) : Within own (throw e : Task C α) := fun _ _ => Calls.throw e

theorem bind {m : Task C α} {f : α → Task C β} (hm : Within own m) (hf : ∀ a, Within own (f a)) :
    Within own (m >>= f) := by
  intro total ph
  refine Calls.bind (hm total ph) ?_
  rintro a _ rfl
  exact hf a total _

theorem access {f : App C → App C} (h : ∀ s, (f s).torNetwork.socket = s.torNetwork.socket) :
    Within own (access .field f) := fun _ _ => ⟨h, fun _ => Calls.pure rfl⟩

theorem handed {f : App C → App C} (h : ∀ s, (f s).torNetwork.socket = s.torNetwork.socket) :
    Within own (Job.access (.handed own) f : Task C _) := fun _ _ => ⟨rfl, h, fun _ => Calls.pure rfl⟩

theorem look : Within own (look : Task C (App C)) := access fun _ => rfl

theorem update {f : App C → App C} (h : ∀ s, (f s).torNetwork.socket = s.torNetwork.socket) :
    Within own (update f) := bind (access h) fun _ => pure ()

theorem call (e : Exn) : Within own (call e : Task C Unit) := by
  intro total ph ok
  cases ok with
  | true => exact Calls.pure rfl
  | false => exact Calls.throw e

theorem ite {c : Prop} [Decidable c] {m m' : Task C α} (h : Within own m) (h' : Within own m') :
    Within own (if c then m else m') := by
  split
  · exact h
  · exact h'

theorem talk (p : Proc (Event C) α) : Within own (talk own own (eventLabel own) p : Task C α) := by
  intro total ph
  refine conforms_bind (Q := fun _ ph' => ph' = ph) ?_ ?_
  · rintro a _ rfl
    exact Calls.pure rfl
  · induction p with
    | ret a => exact rfl
    | spin => trivial
    | mark w k ih =>
      cases w with
      | keepAliveStarted => exact ⟨rfl, fun _ => rfl, fun _ => ih⟩
      | _ => exact ⟨fun _ => rfl, fun _ => ih⟩
    | send bs k ih => exact ⟨rfl, ih⟩
    | recv n k ih => exact ⟨rfl, ih⟩

theorem finish (r : Except Exn α) : Within own (finish r : Task C α) := by
  cases r with
  | ok a => exact pure a
  | error e => exact throw e

theorem runMain (this : Nat) (m : Main C Unit) (callInfo : CallInfo C) :
    Within own (CallHandler.runMain this own own m callInfo) := by
  refine bind look fun app => bind (talk _) fun r => ?_
  exact bind (update fun _ => rfl) fun _ => bind (finish r.1) fun _ => pure _

theorem runSrtp (this : Nat) (m : Method (Event C) Exn SrtpProtocol.Session Unit) :
    Within own (CallHandler.runSrtp this own own m) := by
  refine bind look fun app => bind (talk _) fun r => ?_
  exact bind (update fun _ => rfl) fun _ => finish r.1

theorem startConnector (this : Nat) (field : CallHandler.ConnectorField) :
    Within own (CallHandler.startConnector this field : Task C Unit) := by
  refine bind (access fun _ => rfl) fun app => ?_
  split
  · exact throw _
  · exact ite (throw _) (pure ())

theorem startSending : Within own (AudioInput.startSending : Task C Unit) := by
  refine bind look fun app => ?_
  split
  · exact throw _
  · refine bind (access fun _ => rfl) fun app => ?_
    split
    · exact throw _
    · exact throw _
    · exact pure ()

theorem getApplicationInputStream (this : Nat) :
    Within own (CallHandler.getApplicationInputStream this : Task C Unit) := by
  refine bind (bind look fun app => ?_) fun _ => bind look fun app => ?_
  · split
    · exact throw _
    · exact update fun _ => rfl
  · exact ite (throw _) (update fun _ => rfl)

theorem getApplicationOutputStream (this : Nat) :
    Within own (CallHandler.getApplicationOutputStream this : Task C Unit) := by
  refine bind (bind look fun app => ?_) fun _ => update fun _ => rfl
  exact ite (throw _) (update fun _ => rfl)

theorem connectMedia (this : Nat) :
    Within own (CallHandler.connectMedia this own own : Task C Unit) := by
  refine bind (getApplicationInputStream this) fun _ => ?_
  refine bind (getApplicationOutputStream this) fun _ => ?_
  refine bind (bind (handed fun _ => rfl) fun _ => pure ()) fun _ => ?_
  refine bind (bind (handed fun _ => rfl) fun _ => pure ()) fun _ => ?_
  refine bind startSending fun _ => ?_
  refine bind (startConnector this _) fun _ => ?_
  exact bind (startConnector this _) fun _ => update fun _ => rfl

theorem callHandler : Within own (ProtocolManagement.callHandler : Task C Nat) := by
  refine bind look fun app => ?_
  split
  · exact throw _
  · exact pure _

end Within

theorem Calls.of_within {Q : β → Phase → Prop} {m : Task C α} {f : α → Task C β}
    (hm : Within own m) (hf : ∀ a, Calls own total Q ph (f a)) : Calls own total Q ph (m >>= f) := by
  refine Calls.bind (hm total ph) ?_
  rintro a _ rfl
  exact hf a

/-! ## Methods that do -/

theorem getStream_calls (msg : String) (ha : ph.assigned = true) (hn : ph.fetches < total) :
    Calls own total (fun c ph' => c = own ∧ ph' = { ph with fetches := ph.fetches + 1 }) ph
      (TorNetwork.getStream msg : Task C SocketId) := by
  refine .of_within (.bind .look fun app => ?_) fun _ => ⟨ha, hn, fun _ => rfl, fun s hs => ?_⟩
  · split
    · exact .throw _
    · exact .pure ()
  · dsimp only [Thread.bind, cont]
    rw [hs]
    exact Calls.of_within (.call _) fun _ => Calls.pure ⟨rfl, rfl⟩

theorem assignSocket_calls :
    Calls own total (fun _ ph' => ph' = { ph with assigned := true }) ph
      (TorNetwork.assignSocket own : Task C Unit) :=
  ⟨rfl, fun _ => rfl, fun _ => Calls.pure rfl⟩

theorem rescue_calls {Q : α → Phase → Prop} {m : Task C α} {handler : Exn → Option α}
    (h : Calls own total Q ph m)
    (hc : ∀ e a, handler e = some a → ∀ ph, Q a ph) : Calls own total Q ph (rescue m handler) := by
  refine conforms_bind ?_ h
  intro r ph hr
  cases r with
  | ok a => exact hr
  | error e =>
    cases ha : handler e with
    | none =>
      simp only [ha]
      exact Calls.throw e
    | some a =>
      simp only [ha]
      exact Calls.pure (hc e a ha ph)

theorem connectTo_calls (identity : Option (Identity C)) :
    Calls own total (fun b ph' => b = true → ph' = { ph with assigned := true }) ph
      (CallHandler.connectTo identity own) := by
  refine rescue_calls ?_ ?_
  · cases identity with
    | none => exact Calls.throw _
    | some identity =>
      refine Calls.bind (Q := fun _ ph' => ph' = { ph with assigned := true }) ?_
        fun _ ph' h => .pure fun _ => h
      refine .of_within (.call _) fun _ => .bind assignSocket_calls ?_
      rintro _ _ rfl
      refine .of_within (.call _) fun _ => .of_within (.call _) fun _ => ?_
      exact .of_within (.update fun _ => rfl) fun _ => Within.update (fun _ => rfl) total _
  · intro e b hb ph hb'
    subst hb'
    cases e with
    | connection msg => cases hb
    | _ => cases hb

theorem startCall_calls (fuel : Nat) (p : Party C) (callInfo : CallInfo C) :
    Calls own 2 (fun _ _ => True) {} (ProtocolManagement.startCall fuel p own callInfo) := by
  refine .of_within (.update fun _ => rfl) fun _ => .of_within .callHandler fun this => ?_
  refine .of_within (.bind .look fun app => .ite (.throw _) (.pure ())) fun _ => ?_
  refine .bind (connectTo_calls callInfo.identity) ?_
  intro connected ph hph
  cases connected with
  | false => exact .pure trivial
  | true =>
    obtain rfl := hph rfl
    refine .bind (getStream_calls _ rfl (by decide)) ?_
    rintro _ _ ⟨rfl, rfl⟩
    refine .bind (getStream_calls _ rfl (by decide)) ?_
    rintro _ _ ⟨rfl, rfl⟩
    refine .of_within (.runMain this _ callInfo) fun info => ?_
    refine .of_within (.runSrtp this _) fun _ => ?_
    exact (Within.connectMedia this _ _).mono fun _ _ _ => trivial

theorem acceptCall_calls (p : Party C) (this : Nat) (callInfo : CallInfo C) :
    Calls own 4 (fun _ _ => True) ⟨true, 2⟩ (CallHandler.acceptCall p this callInfo) := by
  refine .of_within (.bind .look fun app => .ite (.throw _) (.pure ())) fun _ => ?_
  refine .bind (getStream_calls _ rfl (by decide)) ?_
  rintro _ _ ⟨rfl, rfl⟩
  refine .bind (getStream_calls _ rfl (by decide)) ?_
  rintro _ _ ⟨rfl, rfl⟩
  refine .of_within (.runMain this _ callInfo) fun info => ?_
  refine .of_within (.runSrtp this _) fun _ => ?_
  exact (Within.connectMedia this _ _).mono fun _ _ _ => trivial

theorem handleIncomingCall_calls (p : Party C) :
    Calls own 4 (fun _ _ => True) ⟨true, 0⟩ (ProtocolManagement.handleIncomingCall p) := by
  refine .of_within (.update fun _ => rfl) fun _ => .of_within .callHandler fun this => ?_
  refine .bind (getStream_calls _ rfl (by decide)) ?_
  rintro _ _ ⟨rfl, rfl⟩
  refine .bind (getStream_calls _ rfl (by decide)) ?_
  rintro _ _ ⟨rfl, rfl⟩
  refine .of_within (.runMain this _ {}) fun info => ?_
  refine .of_within (.update fun _ => rfl) fun _ => .of_within (.update fun _ => rfl) fun _ => ?_
  refine .of_within .look fun app => ?_
  cases app.callInfo with
  | none => exact .throw _
  | some callInfo =>
    exact .of_within .callHandler fun this => acceptCall_calls p this callInfo

theorem listener_calls (p : Party C) :
    Calls own 4 (fun _ _ => True) {} (ConnectionListener.run p own) := by
  refine .bind (Q := fun _ _ => True) (rescue_calls ?_ fun _ _ _ _ => trivial)
    fun _ ph _ => (Within.update (fun _ => rfl) 4 ph).mono fun _ _ _ => trivial
  refine .of_within (.call _) fun _ => .of_within (.call _) fun _ => ?_
  refine .of_within (.update fun _ => rfl) fun _ => .of_within .look fun app => ?_
  cases app.torNetwork.socket with
  | some c => exact .pure trivial
  | none =>
    refine .of_within (.update fun _ => rfl) fun _ => .bind assignSocket_calls ?_
    rintro _ _ rfl
    exact handleIncomingCall_calls p

/-! ## Two calls at once -/

/-- One of the two calls: what its thread has still to do, the socket of its connection, the number of
streams it fetches at most, how far it is, the sockets its octets went over, and those whose streams its
keep-alive worker and its connectors have. -/
structure Line (C : Crypto) where
  task : Task C Unit
  own : SocketId
  total : Nat
  phase : Phase := {}
  used : List SocketId := []
  handed : List SocketId := []

def isOver (m : Task C Unit) : Bool :=
  match m with
  | .ret _ => true
  | .spin => true
  | _ => false

/-- The call has assigned the field and has a stream to fetch. -/
def Line.needsSocket (l : Line C) : Bool :=
  l.phase.assigned && decide (l.phase.fetches < l.total) && !isOver l.task

def Line.see (l : Line C) (task : Task C Unit) : Thread.Seen SocketId Access → Line C
  | .access (.assigned _) => { l with task := task, phase := { l.phase with assigned := true } }
  | .access .fetched =>
    { l with task := task, phase := { l.phase with fetches := l.phase.fetches + 1 } }
  | .access (.handed c) => { l with task := task, handed := c :: l.handed }
  | .access .field => { l with task := task }
  | .asked => { l with task := task }
  | .octets c => { l with task := task, used := c :: l.used }

inductive Side where
  | outgoing | incoming
  deriving DecidableEq, Repr

def Side.other : Side → Side
  | .outgoing => .incoming
  | .incoming => .outgoing

structure State (C : Crypto) where
  app : App C
  line : Side → Line C

inductive Act where
  /-- The thread of the call makes a step. -/
  | thread (side : Side) (r : Reply)
  /-- The keep-alive worker or a connector of the call reads or writes on a stream of `socket`. -/
  | helper (side : Side) (socket : SocketId)
  deriving DecidableEq, Repr

def State.set (s : State C) (side : Side) (l : Line C) : Side → Line C :=
  fun x => if x = side then l else s.line x

def step : Act → State C → Option (State C)
  | .thread side r, s =>
    (Thread.step (s.line side).task s.app r).map fun x =>
      ⟨x.2.1, s.set side ((s.line side).see x.1 x.2.2)⟩
  | .helper side c, s =>
    if c ∈ (s.line side).handed then
      some { s with line := s.set side { s.line side with used := c :: (s.line side).used } }
    else
      none

def assigns (m : Task C Unit) : Bool :=
  match m with
  | .act (.assigned _) _ _ => true
  | _ => false

/-- No thread assigns the field while the other call needs it. -/
def careful (s : State C) : Act → Bool
  | .thread side _ => !(assigns (s.line side).task && (s.line side.other).needsSocket)
  | .helper _ _ => true

/-! ## The invariant -/

structure Good (app : App C) (l : Line C) : Prop where
  conforms : Calls l.own l.total (fun _ _ => True) l.phase l.task
  used : ∀ c ∈ l.used, c = l.own
  handed : ∀ c ∈ l.handed, c = l.own
  holds : l.needsSocket = true → app.torNetwork.socket = some l.own

variable {app app' : App C} {l : Line C} {task task' : Task C Unit}
  {seen : Thread.Seen SocketId Access} {r : Reply}

theorem needsSocket_see {l : Line C} (h : (l.see task' seen).needsSocket = true)
    (hs : ∀ c, seen ≠ .access (.assigned c)) (ht : isOver l.task = false) :
    l.needsSocket = true := by
  unfold Line.needsSocket at h ⊢
  rw [ht]
  cases seen with
  | access w =>
    cases w with
    | assigned c => exact absurd rfl (hs c)
    | fetched =>
      simp only [Line.see, Bool.and_eq_true, decide_eq_true_eq] at h ⊢
      have hlt : l.phase.fetches + 1 < l.total := of_decide_eq_true h.1.2
      exact ⟨⟨h.1.1, by omega⟩, rfl⟩
    | handed c =>
      simp only [Line.see, Bool.and_eq_true] at h ⊢
      exact ⟨h.1, rfl⟩
    | field =>
      simp only [Line.see, Bool.and_eq_true] at h ⊢
      exact ⟨h.1, rfl⟩
  | asked =>
    simp only [Line.see, Bool.and_eq_true] at h ⊢
    exact ⟨h.1, rfl⟩
  | octets c =>
    simp only [Line.see, Bool.and_eq_true] at h ⊢
    exact ⟨h.1, rfl⟩

/-- A step of a call that keeps to its socket leads to one that does; the field changes only if the
thread assigns it. -/
theorem good_step (h : Good app l) (hs : Thread.step l.task app r = some (task', app', seen)) :
    Good app' (l.see task' seen) ∧
      (assigns l.task = false → app'.torNetwork.socket = app.torNetwork.socket) := by
  obtain ⟨hc, hused, hhanded, hholds⟩ := h
  obtain ⟨task, own, total, ph, used, handed⟩ := l
  cases task with
  | ret a => cases hs
  | spin => cases hs
  | act w f k =>
    cases hs
    cases w with
    | assigned c =>
      refine ⟨⟨hc.2.2 app, hused, hhanded, fun _ => hc.2.1 app⟩, fun h => ?_⟩
      cases h
    | fetched =>
      have hn : app.torNetwork.socket = some own := by
        refine hholds ?_
        simp only [Line.needsSocket, Bool.and_eq_true, decide_eq_true_eq]
        exact ⟨⟨hc.1, hc.2.1⟩, rfl⟩
      have hsame := hc.2.2.1 app
      refine ⟨⟨hc.2.2.2 app hn, hused, hhanded, fun _ => hsame.trans hn⟩, fun _ => hsame⟩
    | handed c =>
      have hsame := hc.2.1 app
      refine ⟨⟨hc.2.2 app, hused, ?_, fun hn => ?_⟩, fun _ => hsame⟩
      · intro c' hc'
        rcases List.mem_cons.1 hc' with rfl | hc'
        · exact hc.1
        · exact hhanded c' hc'
      · exact hsame.trans (hholds (needsSocket_see hn (by simp) rfl))
    | field =>
      have hsame := hc.1 app
      refine ⟨⟨hc.2 app, hused, hhanded, fun hn => ?_⟩, fun _ => hsame⟩
      exact hsame.trans (hholds (needsSocket_see hn (by simp) rfl))
  | ask k =>
    obtain ⟨ok, _, hk⟩ := Option.map_eq_some_iff.1 hs
    cases hk
    refine ⟨⟨hc ok, hused, hhanded, fun hn => ?_⟩, fun _ => rfl⟩
    exact hholds (needsSocket_see hn (by simp) rfl)
  | send c bs k =>
    obtain ⟨ok, _, hk⟩ := Option.map_eq_some_iff.1 hs
    cases hk
    refine ⟨⟨hc.2 ok, ?_, hhanded, fun hn => ?_⟩, fun _ => rfl⟩
    · intro c' hc'
      rcases List.mem_cons.1 hc' with rfl | hc'
      · exact hc.1
      · exact hused c' hc'
    · exact hholds (needsSocket_see hn (by simp) rfl)
  | recv c n k =>
    obtain ⟨o, _, hk⟩ := Option.map_eq_some_iff.1 hs
    cases hk
    refine ⟨⟨hc.2 o, ?_, hhanded, fun hn => ?_⟩, fun _ => rfl⟩
    · intro c' hc'
      rcases List.mem_cons.1 hc' with rfl | hc'
      · exact hc.1
      · exact hused c' hc'
    · exact hholds (needsSocket_see hn (by simp) rfl)

theorem see_own (l : Line C) (task' : Task C Unit) (seen : Thread.Seen SocketId Access) :
    (l.see task' seen).own = l.own := by
  cases seen with
  | access w => cases w <;> rfl
  | asked => rfl
  | octets c => rfl

def Inv (owns : Side → SocketId) (s : State C) : Prop :=
  ∀ side, Good s.app (s.line side) ∧ (s.line side).own = owns side

theorem inv_step {owns : Side → SocketId} (act : Act) (s s' : State C)
    (hc : careful s act = true) (h : Inv owns s) (hs : step act s = some s') : Inv owns s' := by
  cases act with
  | thread side r =>
    obtain ⟨⟨task', app', seen⟩, hstep, rfl⟩ := Option.map_eq_some_iff.1 hs
    obtain ⟨hgood, hsame⟩ := good_step (h side).1 hstep
    intro x
    by_cases hx : x = side
    · subst hx
      simp only [State.set, if_true]
      exact ⟨hgood, (see_own _ _ _).trans (h x).2⟩
    · have hother : x = side.other := by
        cases x <;> cases side <;> first | rfl | exact absurd rfl hx
      simp only [State.set, if_neg hx]
      refine ⟨⟨(h x).1.conforms, (h x).1.used, (h x).1.handed, fun hn => ?_⟩, (h x).2⟩
      -- the other call needs the field, so this step has not assigned it
      have hna : assigns (s.line side).task = false := by
        rw [hother] at hn
        simpa [careful, hn] using hc
      rw [hsame hna]
      exact (h x).1.holds hn
  | helper side c =>
    simp only [step] at hs
    split at hs
    · next hmem =>
      cases hs
      intro x
      by_cases hx : x = side
      · subst hx
        simp only [State.set, if_true]
        refine ⟨⟨(h x).1.conforms, ?_, (h x).1.handed, (h x).1.holds⟩, (h x).2⟩
        intro c' hc'
        rcases List.mem_cons.1 hc' with rfl | hc'
        · exact (h x).1.handed _ hmem
        · exact (h x).1.used c' hc'
      · simp only [State.set, if_neg hx]
        exact h x
    · cases hs

/-! ## Every interleaving -/

/-- `startCall` is about to be called, and the listener to wait for a connection. -/
def start (app : App C) (fuel : Nat) (p q : Party C) (callInfo : CallInfo C)
    (outgoing incoming : SocketId) : State C where
  app := app
  line
    | .outgoing => ⟨ProtocolManagement.startCall fuel p outgoing callInfo, outgoing, 2, {}, [], []⟩
    | .incoming => ⟨ConnectionListener.run q incoming, incoming, 4, {}, [], []⟩

def owns (outgoing incoming : SocketId) : Side → SocketId
  | .outgoing => outgoing
  | .incoming => incoming

/-- In every interleaving in which the threads take care, each octet of a call goes over the socket of
its connection. -/
theorem calls_isolated (app : App C) (fuel : Nat) (p q : Party C) (callInfo : CallInfo C)
    (outgoing incoming : SocketId) {acts : List Act} {s : State C}
    (hc : obeys step careful (start app fuel p q callInfo outgoing incoming) acts = true)
    (hr : run step (start app fuel p q callInfo outgoing incoming) acts = some s) :
    ∀ side, ∀ c ∈ (s.line side).used, c = owns outgoing incoming side := by
  have hi : Inv (owns outgoing incoming) (start app fuel p q callInfo outgoing incoming) := by
    intro side
    cases side with
    | outgoing =>
      exact ⟨⟨startCall_calls fuel p callInfo, by simp [start], by simp [start], by simp [start,
        Line.needsSocket]⟩, rfl⟩
    | incoming =>
      exact ⟨⟨listener_calls q, by simp [start], by simp [start], by simp [start,
        Line.needsSocket]⟩, rfl⟩
  intro side c hmem
  have h := run_inv inv_step hi hc hr side
  exact (h.1.used c hmem).trans h.2

/-! ## Instances -/

def smallStart : State smallCrypto :=
  start {} 4 (smallParty 2) (smallParty 1) { identity := some {} } 8 7

open MainProtocol in
def callerSteps : List Reply :=
  List.replicate 15 Reply.done ++ ([.data helloMsg, .done, .done, .data helloAckMsg, .data versionMsg,
    .done, .data noIntroductionMsg, .data noIntroductionReqMsg] : List Reply) ++
    List.replicate 7 Reply.done

/-- The listener has found no socket when the outgoing call connects, and assigns its own once that call has
its streams and has sent its first message. Then the incoming call is answered, with a message to wait. -/
def oneAfterTheOther : List Act :=
  (callerSteps.take 5).map (Act.thread .incoming) ++ List.replicate 17 (Act.thread .outgoing .done) ++
    (callerSteps.drop 5).map (Act.thread .incoming) ++ [Act.helper .incoming 7] ++
    List.replicate 8 (Act.thread .incoming .done)

theorem calls_isolated_one_after_the_other :
    ∃ s, run step smallStart oneAfterTheOther = some s ∧ (s.line .outgoing).used = [8] ∧
      (s.line .incoming).used = List.replicate 10 7 ∧
      ∀ side, ∀ c ∈ (s.line side).used, c = owns 8 7 side := by
  have hc : obeys step careful smallStart oneAfterTheOther = true := rfl
  exact ⟨_, rfl, rfl, rfl, calls_isolated _ _ _ _ _ _ _ hc rfl⟩

/-- `connectTo` has connected but not assigned; a call comes in and its handshake is done; `connectTo`
assigns; the call is answered. -/
def crossing : List Act :=
  List.replicate 4 (Act.thread .outgoing .done) ++ callerSteps.map (Act.thread .incoming) ++
    [Act.thread .outgoing .done] ++ List.replicate 8 (Act.thread .incoming .done)

/-- The handshake of the incoming call on its socket, and its answer on that of the outgoing call. -/
theorem answer_on_other_socket :
    ∃ s, run step smallStart crossing = some s ∧
      (s.line .incoming).used = [8, 7, 7, 7, 7, 7, 7, 7, 7] ∧
      ¬ ∀ side, ∀ c ∈ (s.line side).used, c = owns 8 7 side := by
  refine ⟨_, rfl, rfl, fun h => ?_⟩
  have h8 := h .incoming 8 (by decide)
  cases h8

end Isolation
end OnionPhone
