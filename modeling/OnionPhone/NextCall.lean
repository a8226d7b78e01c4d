import OnionPhone.Assignments
import OnionPhone.FailedCall
import OnionPhone.OneCall

/-!
# OnionPhone.NextCall

Calls one after the other: a call is set up, and `CallHandler.endCall` ends it.

A set-up takes the worker of `AudioInput`, the one of `AudioOutput` and the socket of `TorNetwork`.
`endCall` gives none of them back, and the methods that would, `stopSending`, `stopPlaying` and
`disconnect`, are called by nobody.

* `Grows`: no step of a call lets go of anything, and only the last one makes it ongoing.
* `set_up_holds`: a call that comes about has found no worker, and leaves one.
* `calls_follow_iff`: the next call finds what the first one found only if it is the first.
-/

namespace OnionPhone
namespace NextCall

open Wire Wire.Job SetUp

variable {C : Crypto} {α β : Type}

/-! ## Nothing is given back -/

/-- What was taken stays taken, and no call becomes ongoing. -/
structure Grows (app app' : App C) : Prop where
  audioInput : app.audioInput.isSome → app'.audioInput.isSome
  audioOutput : app.audioOutput.isSome → app'.audioOutput.isSome
  socket : app.torNetwork.socket.isSome → app'.torNetwork.socket.isSome
  ongoing : ∀ i, (app'.handler i).callStatus = .ongoing → (app.handler i).callStatus = .ongoing

instance : Std.Refl (Grows : App C → App C → Prop) where
  refl _ := ⟨id, id, id, fun _ => id⟩

instance : IsTrans (App C) Grows where
  trans _ _ _ h h' :=
    ⟨h'.audioInput ∘ h.audioInput, h'.audioOutput ∘ h.audioOutput, h'.socket ∘ h.socket,
      fun i => h.ongoing i ∘ h'.ongoing i⟩

theorem handler_modifyHandler (this i : Nat) (f : CallHandler → CallHandler) (app : App C) :
    (app.modifyHandler this f).handler i = app.handler i ∨
      (app.modifyHandler this f).handler i = f (app.handler i) := by
  simp only [App.handler, App.modifyHandler, List.getD_eq_getElem?_getD, List.getElem?_modify]
  cases app.handlers[i]? with
  | none => simp
  | some h =>
    by_cases hi : this = i
    · simp [hi]
    · simp [hi]

theorem grows_modifyHandler (this : Nat) {f : CallHandler → CallHandler}
    (h : ∀ x, (f x).callStatus = .ongoing → x.callStatus = .ongoing) (app : App C) :
    Grows app (app.modifyHandler this f) := by
  refine ⟨id, id, id, ?_⟩
  intro i hi
  rcases handler_modifyHandler this i f app with hh | hh
  · rw [hh] at hi
    exact hi
  · rw [hh] at hi
    exact h _ hi

theorem grows_storeSession (this : Nat) (s : SrtpProtocol.Session) (app : App C) :
    Grows app (app.storeSession this s) := by
  have h : Grows { app with native := s.native } (app.storeSession this s) := by
    refine grows_modifyHandler this ?_ _
    intro x hx
    exact hx
  exact ⟨h.audioInput, h.audioOutput, h.socket, h.ongoing⟩

theorem grows_newHandler (app : App C) : Grows app app.newHandler := by
  refine ⟨id, id, id, ?_⟩
  intro i hi
  simp only [App.newHandler, App.handler, List.getD_eq_getElem?_getD] at hi ⊢
  by_cases hl : i < app.handlers.length
  · rw [List.getElem?_append_left hl] at hi
    exact hi
  · rw [List.getElem?_append_right (by omega)] at hi
    cases hk : i - app.handlers.length <;> simp [hk] at hi

/-- A method of a call that lets go of nothing and is not its last step. -/
abbrev Gentle (m : Task C α) : Prop := Along Grows m

namespace Gentle

theorem updateHandler (this : Nat) {f : CallHandler → CallHandler}
    (h : ∀ x, (f x).callStatus = .ongoing → x.callStatus = .ongoing) :
    Gentle (OnionPhone.update (App.modifyHandler this f) : Task C Unit) :=
  Assignments.update (grows_modifyHandler this h)

theorem allows (this : Nat) : Assignments.Allows (Grows : App C → App C → Prop) this where
  keepAliveWorker _ := grows_modifyHandler this fun _ => id
  session s := grows_storeSession this s
  wrapper := grows_modifyHandler this fun _ => id
  unwrapper := grows_modifyHandler this fun _ => id
  audioInput _ := ⟨fun _ => rfl, id, id, fun _ => id⟩
  audioInputStarted _ := ⟨by simp, id, id, fun _ => id⟩
  audioOutput _ := ⟨id, fun _ => rfl, id, fun _ => id⟩
  connectorStarted field := by
    refine grows_modifyHandler this ?_
    intro h hh
    rw [Quiet.setConnector_callStatus] at hh
    exact hh

theorem allowsConnecting : Assignments.AllowsConnecting (Grows : App C → App C → Prop) where
  socket _ _ := ⟨id, id, fun _ => rfl, fun _ => id⟩
  listener _ := ⟨id, id, id, fun _ => id⟩
  listenerStartNeeded _ := ⟨id, id, id, fun _ => id⟩

theorem newConnector (this : Nat) (field : CallHandler.ConnectorField) (network : SocketId) :
    Gentle (CallHandler.newConnector this field network : Task C Unit) := by
  refine Assignments.newConnector (grows_modifyHandler this fun h hh => ?_)
  rw [Quiet.setConnector_callStatus] at hh
  exact hh

theorem newCallHandler : Gentle (ProtocolManagement.newCallHandler : Task C Unit) :=
  Assignments.update grows_newHandler

theorem endCall (this : Nat) : Gentle (CallHandler.endCall this : Task C Unit) := by
  have hdrop : ∀ field, Gentle (CallHandler.dropConnector this field : Task C Unit) := by
    intro field
    refine updateHandler this fun h hh => ?_
    rw [Quiet.setConnector_callStatus] at hh
    exact hh
  refine .bind (Assignments.assertCallIsOngoing this) fun _ => ?_
  refine .bind (Assignments.stopConnector this _) fun _ => .bind (Assignments.stopConnector this _) fun _ => ?_
  refine .bind (hdrop _) fun _ => .bind (hdrop _) fun _ => updateHandler this fun h hh => ?_
  cases hh

end Gentle

/-! ## What a set-up takes -/

/-- The workers and the socket are taken. -/
structure Held (app : App C) : Prop where
  audioInput : app.audioInput.isSome
  audioOutput : app.audioOutput.isSome
  socket : app.torNetwork.socket.isSome

theorem Held.grows {app app' : App C} (h : Held app) (hg : Grows app app') : Held app' :=
  ⟨hg.audioInput h.audioInput, hg.audioOutput h.audioOutput, hg.socket h.socket⟩

/-- A set-up either makes no call, or has found no worker of `AudioInput` and has taken everything. -/
def Sets (app app' : App C) : Prop := Grows app app' ∨ (app.audioInput = none ∧ Held app')

theorem Sets.of_grows {app s app' : App C} (h : Grows app s) (hs : Sets s app') : Sets app app' := by
  rcases hs with hs | ⟨hn, hheld⟩
  · exact .inl (IsTrans.trans _ _ _ h hs)
  · refine .inr ⟨?_, hheld⟩
    cases ha : app.audioInput with
    | none => rfl
    | some b =>
      have hsome := h.audioInput (by rw [ha]; rfl)
      rw [hn] at hsome
      cases hsome

/-- What a method that begins in `s` makes of a set-up that began in `app`. -/
def SetsUp (app : App C) (m : Task C α) (s : App C) : Prop :=
  m.Keeps (fun _ => True) (fun _ => Sets app) (fun _ => Sets app) s

namespace SetsUp

variable {app s : App C} {m : Task C α} {f : α → Task C β}

theorem of_grows (hg : Grows app s) (hm : SetsUp s m s) : SetsUp app m s := by
  refine Thread.Keeps.mono hm (fun _ h => h) ?_
  intro r s' hr
  cases r with
  | ok a => exact Sets.of_grows hg hr
  | error e => exact Sets.of_grows hg hr

theorem bind_of {Q : α → App C → Prop}
    (hm : m.Keeps (fun _ => True) (fun a s' => Grows s s' ∧ Q a s') (fun _ => Grows s) s)
    (hg : Grows app s) (hf : ∀ a s', Grows app s' → Q a s' → SetsUp app (f a) s') :
    SetsUp app (m >>= f) s := by
  refine Thread.Keeps.bind hm ?_
  intro r s' hr
  cases r with
  | error e => exact .inl (IsTrans.trans _ _ _ hg hr)
  | ok a => exact hf a s' (IsTrans.trans _ _ _ hg hr.1) hr.2

theorem bind_keeping {K : App C → Prop} (hK : ∀ s s', Grows s s' → K s → K s') (hm : Gentle m)
    (hg : Grows app s) (hk : K s) (hf : ∀ a s', Grows app s' → K s' → SetsUp app (f a) s') :
    SetsUp app (m >>= f) s := by
  refine bind_of (Q := fun _ s' => K s') ?_ hg hf
  refine Thread.Keeps.mono (hm s) (fun _ h => h) ?_
  intro r s' hr
  cases r with
  | ok a => exact ⟨hr, hK s s' hr hk⟩
  | error e => exact hr

theorem bind (hm : Gentle m) (hg : Grows app s) (hf : ∀ a s', Grows app s' → SetsUp app (f a) s') :
    SetsUp app (m >>= f) s :=
  bind_keeping (K := fun _ => True) (fun _ _ _ h => h) hm hg trivial fun a s' h _ => hf a s' h

theorem bind_held (hm : Gentle m) (hg : Grows app s) (hh : Held s)
    (hf : ∀ a s', Grows app s' → Held s' → SetsUp app (f a) s') : SetsUp app (m >>= f) s :=
  bind_keeping (fun _ _ h hh => hh.grows h) hm hg hh hf

theorem bind_connected (hm : Gentle m) (hg : Grows app s) (hs : s.torNetwork.socket.isSome)
    (hf : ∀ a s', Grows app s' → s'.torNetwork.socket.isSome → SetsUp app (f a) s') :
    SetsUp app (m >>= f) s :=
  bind_keeping (K := fun s => s.torNetwork.socket.isSome) (fun _ _ h => h.socket) hm hg hs hf

theorem of_stream {msg : String} {f : SocketId → Task C β} (hg : Grows app s)
    (hf : ∀ c s', Grows app s' → s'.torNetwork.socket.isSome → SetsUp app (f c) s') :
    SetsUp app (TorNetwork.getStream msg >>= f) s := by
  refine bind_of (Q := fun _ s' => s'.torNetwork.socket.isSome) ?_ hg hf
  refine Keeps.bind (Q := fun _ => Grows s) (Assignments.checkForNullSocket s) ?_
  intro _ s₁ h₁
  refine Keeps.access_bind trivial ?_
  dsimp only [id]
  cases hs : s₁.torNetwork.socket with
  | none => exact h₁
  | some c =>
    refine Keeps.bind (Keeps.call (Q := fun _ s' => s' = s₁) rfl h₁) ?_
    rintro _ _ rfl
    exact ⟨h₁, by rw [hs]; rfl⟩

end SetsUp

theorem getApplicationInputStream_takes (this : Nat) (s : App C) :
    (CallHandler.getApplicationInputStream this : Task C Unit).Keeps (fun _ => True)
      (fun _ s' => Grows s s' ∧ s.audioInput = none ∧ s'.audioInput.isSome) (fun _ => Grows s) s := by
  have hget : (AudioInput.getStream : Task C Unit).Keeps (fun _ => True)
      (fun _ s' => Grows s s' ∧ s.audioInput = none ∧ s'.audioInput.isSome) (fun _ => Grows s) s := by
    refine Keeps.access_bind trivial ?_
    dsimp only [id]
    cases ha : s.audioInput with
    | some b => exact Std.Refl.refl s
    | none => exact ⟨trivial, ⟨fun _ => rfl, id, id, fun _ => id⟩, rfl, rfl⟩
  refine Keeps.bind hget ?_
  rintro _ s₁ ⟨hg, hn, hi⟩
  refine Thread.Keeps.mono ((Gentle.allows this).wrapStream s₁) (fun _ h => h) ?_
  intro r s₂ hr
  cases r with
  | ok a => exact ⟨IsTrans.trans _ _ _ hg hr, hn, Grows.audioInput hr hi⟩
  | error e => exact IsTrans.trans _ _ _ hg hr

theorem getApplicationOutputStream_takes (this : Nat) (s : App C) :
    (CallHandler.getApplicationOutputStream this : Task C Unit).Keeps (fun _ => True)
      (fun _ s' => Grows s s' ∧ s'.audioOutput.isSome) (fun _ => Grows s) s := by
  refine Keeps.bind ((Gentle.allows this).unwrapStream s) ?_
  intro _ s₁ hg
  have hplay : Grows s₁ { s₁ with audioOutput := some true } := ⟨id, fun _ => rfl, id, fun _ => id⟩
  exact ⟨trivial, IsTrans.trans _ _ _ hg hplay, rfl⟩

theorem connectMedia_setsUp (this : Nat) (ins outs : SocketId) {app : App C}
    (hs : app.torNetwork.socket.isSome) : SetsUp app (CallHandler.connectMedia this ins outs) app := by
  refine .bind_of (getApplicationInputStream_takes this app) (Std.Refl.refl app) ?_
  rintro _ s₁ hg₁ ⟨hnone, hin⟩
  refine .bind_of (Q := fun _ => Held) ?_ hg₁ ?_
  · refine Thread.Keeps.mono (getApplicationOutputStream_takes this s₁) (fun _ h => h) ?_
    intro r s₂ hr
    cases r with
    | ok a => exact ⟨hr.1, hr.1.audioInput hin, hr.2, hr.1.socket (hg₁.socket hs)⟩
    | error e => exact hr
  intro _ s₂ hg₂ hh₂
  refine .bind_held (Gentle.newConnector this _ outs) hg₂ hh₂ fun _ s₃ hg₃ hh₃ => ?_
  refine .bind_held (Gentle.newConnector this _ ins) hg₃ hh₃ fun _ s₄ hg₄ hh₄ => ?_
  refine .bind_held (Gentle.allows this).startSending hg₄ hh₄ fun _ s₅ hg₅ hh₅ => ?_
  refine .bind_held ((Gentle.allows this).startConnector _) hg₅ hh₅ fun _ s₆ hg₆ hh₆ => ?_
  refine .bind_held ((Gentle.allows this).startConnector _) hg₆ hh₆ fun _ s₇ _ hh₇ => ?_
  -- only here does the call become ongoing
  exact ⟨trivial, .inr ⟨hnone, hh₇.audioInput, hh₇.audioOutput, hh₇.socket⟩⟩

theorem startCall_setsUp (fuel : Nat) (p : Party C) (socket : SocketId) (this : Nat) (callInfo : CallInfo C)
    (app : App C) : SetsUp app (CallHandler.startCall fuel p socket this callInfo) app := by
  refine .bind (Assignments.assertNoCall this) (Std.Refl.refl app) fun _ s₁ hg₁ => ?_
  refine .bind (Gentle.allowsConnecting.connectTo _ socket) hg₁ fun connected s₂ hg₂ => ?_
  cases connected with
  | false => exact .inl hg₂
  | true =>
    refine .of_stream hg₂ fun ins s₃ hg₃ _ => .of_stream hg₃ fun outs s₄ hg₄ hs₄ => ?_
    refine .bind_connected ((Gentle.allows this).runMain ins outs _ callInfo) hg₄ hs₄ fun callInfo s₅ hg₅ hs₅ => ?_
    refine .bind_connected ((Gentle.allows this).runSrtp ins outs _) hg₅ hs₅ fun _ s₆ hg₆ hs₆ => ?_
    exact .of_grows hg₆ (connectMedia_setsUp this ins outs hs₆)

theorem acceptCall_setsUp (p : Party C) (this : Nat) (callInfo : CallInfo C) (app : App C) :
    SetsUp app (CallHandler.acceptCall p this callInfo) app := by
  refine .bind (Assignments.assertCallIsInitialized this) (Std.Refl.refl app) fun _ s₁ hg₁ => ?_
  refine .of_stream hg₁ fun ins s₂ hg₂ _ => .of_stream hg₂ fun outs s₃ hg₃ hs₃ => ?_
  refine .bind_connected ((Gentle.allows this).runMain ins outs _ callInfo) hg₃ hs₃ fun callInfo s₄ hg₄ hs₄ => ?_
  refine .bind_connected ((Gentle.allows this).runSrtp ins outs _) hg₄ hs₄ fun _ s₅ hg₅ hs₅ => ?_
  exact .of_grows hg₅ (connectMedia_setsUp this ins outs hs₅)

theorem userInterface_acceptCall_setsUp (p : Party C) (app : App C) :
    SetsUp app (UserInterface.acceptCall p) app := by
  refine .bind Assignments.look (Std.Refl.refl app) fun app' s₁ hg₁ => ?_
  cases app'.callInfo with
  | none => exact .inl hg₁
  | some callInfo =>
    refine .bind Assignments.callHandler hg₁ fun this s₂ hg₂ => ?_
    exact .of_grows hg₂ (acceptCall_setsUp p this callInfo s₂)

theorem handleIncomingCall_setsUp (p : Party C) (this : Nat) (app : App C) :
    SetsUp app (CallHandler.handleIncomingCall p this) app := by
  refine .of_stream (Std.Refl.refl app) fun ins s₁ hg₁ _ => .of_stream hg₁ fun outs s₂ hg₂ _ => ?_
  refine .bind ((Gentle.allows this).runMain ins outs _ _) hg₂ fun callInfo s₃ hg₃ => ?_
  refine .bind (Gentle.updateHandler this fun x hx => by cases hx) hg₃ fun _ s₄ hg₄ => ?_
  refine .bind (Assignments.update fun _ => ⟨id, id, id, fun _ => id⟩) hg₄ fun _ s₅ hg₅ => ?_
  exact .of_grows hg₅ (userInterface_acceptCall_setsUp p s₅)

/-! ## The ways to set up a call -/

/-- A call as it is set up: by the user or by a peer, on a new handler as `ProtocolManagementImpl` makes
it, or on one that is there already. -/
inductive Dial (C : Crypto) where
  | startCall (fuel : Nat) (p : Party C) (socket : SocketId) (callInfo : CallInfo C)
  | startCallOn (this fuel : Nat) (p : Party C) (socket : SocketId) (callInfo : CallInfo C)
  | incomingConnection (p : Party C) (socket : SocketId)
  | incomingCallOn (this : Nat) (p : Party C)
  | acceptCallOn (this : Nat) (p : Party C) (callInfo : CallInfo C)

def Dial.method : Dial C → Task C Unit
  | .startCall fuel p socket callInfo => ProtocolManagement.startCall fuel p socket callInfo
  | .startCallOn this fuel p socket callInfo => CallHandler.startCall fuel p socket this callInfo
  | .incomingConnection p socket => TorNetwork.handleIncomingConnection p socket
  | .incomingCallOn this p => CallHandler.handleIncomingCall p this
  | .acceptCallOn this p callInfo => CallHandler.acceptCall p this callInfo

theorem dial_setsUp (d : Dial C) (app : App C) : SetsUp app d.method app := by
  have hnew : ∀ {m : Nat → Task C Unit} {s : App C}, Grows app s → (∀ this s, SetsUp s (m this) s) →
      SetsUp app (do ProtocolManagement.newCallHandler; let this ← ProtocolManagement.callHandler; m this) s := by
    intro m s hg hm
    refine .bind Gentle.newCallHandler hg fun _ s₁ hg₁ => .bind Assignments.callHandler hg₁ fun this s₂ hg₂ => ?_
    exact .of_grows hg₂ (hm this s₂)
  cases d with
  | startCall fuel p socket callInfo =>
    exact hnew (Std.Refl.refl app) fun this => startCall_setsUp fuel p socket this callInfo
  | startCallOn this fuel p socket callInfo => exact startCall_setsUp fuel p socket this callInfo app
  | incomingConnection p socket =>
    refine .bind Assignments.look (Std.Refl.refl app) fun app' s₁ hg₁ => ?_
    cases app'.torNetwork.socket with
    | some c => exact .inl hg₁
    | none =>
      refine .bind (Assignments.update fun _ => ⟨id, id, id, fun _ => id⟩) hg₁ fun _ s₂ hg₂ => ?_
      refine .bind (Gentle.allowsConnecting.assignSocket socket) hg₂ fun _ s₃ hg₃ => ?_
      exact hnew hg₃ (handleIncomingCall_setsUp p)
  | incomingCallOn this p => exact handleIncomingCall_setsUp p this app
  | acceptCallOn this p callInfo => exact acceptCall_setsUp p this callInfo app

/-- Against these replies the method returns, and there is a call of the handler `this` that was not there
before. -/
structure ComesAbout (d : Dial C) (this : Nat) (app : App C) (rs : List Reply) (app' : App C) : Prop where
  returns : d.method.play app rs = some (.ok (), app', [])
  before : (app.handler this).callStatus ≠ .ongoing
  after : (app'.handler this).callStatus = .ongoing

/-- A call that comes about has found no worker, and holds everything. -/
theorem set_up_holds {d : Dial C} {this : Nat} {app app' : App C} {rs : List Reply}
    (h : ComesAbout d this app rs app') : app.audioInput = none ∧ Held app' := by
  have hend := Thread.Keeps.play (dial_setsUp d app) h.returns
  rcases hend with hg | hheld
  · exact absurd (hg.ongoing this h.after) h.before
  · exact hheld

/-! ## One call after the other -/

/-- `n` calls, each of which comes about and is then ended. -/
inductive Calls (app₀ : App C) : Nat → App C → Prop where
  | none : Calls app₀ 0 app₀
  | call {n : Nat} {d : Dial C} {this : Nat} {rs : List Reply} {app app₁ app₂ : App C}
      (h : Calls app₀ n app) (hd : ComesAbout d this app rs app₁)
      (he : (CallHandler.endCall this).play app₁ [] = some (.ok (), app₂, [])) : Calls app₀ (n + 1) app₂

structure Idle (app : App C) : Prop where
  audioInput : app.audioInput = none
  audioOutput : app.audioOutput = none
  socket : app.torNetwork.socket = none
  handlers : app.handlers = []

/-- Everything the next call depends on is as it was in `app₀`. -/
structure Restored (app₀ app : App C) : Prop where
  audioInput : app.audioInput = none
  audioOutput : app.audioOutput = none
  socket : app.torNetwork.socket = none
  listener : app.listener = app₀.listener
  wrappers : ∀ h ∈ app.handlers, h.wrapper = false ∧ h.unwrapper = false

def CanComeAbout (d : Dial C) (app : App C) : Prop := ∃ this rs app', ComesAbout d this app rs app'

/-- What could be called in `app₀` can be called again, on a new handler or on one of those that are
there. -/
structure FollowsOn (app₀ app : App C) : Prop where
  restored : Restored app₀ app
  next : ∀ d, CanComeAbout d app₀ → CanComeAbout d app
  sameHandler : ∀ this, this < app.handlers.length → ∀ fuel p socket callInfo,
    CanComeAbout (.startCall fuel p socket callInfo) app₀ →
      CanComeAbout (.startCallOn this fuel p socket callInfo) app

theorem Held.no_call {app : App C} (h : Held app) (d : Dial C) : ¬ CanComeAbout d app := by
  rintro ⟨this, rs, app', hd⟩
  have hin := h.audioInput
  rw [(set_up_holds hd).1] at hin
  cases hin

/-- After the first call everything is held, for good. -/
theorem Calls.held {app₀ app : App C} {n : Nat} (h : Calls app₀ n app) : n = 0 ∧ app = app₀ ∨ Held app := by
  cases h with
  | none => exact .inl ⟨rfl, rfl⟩
  | call _ hd he => exact .inr ((set_up_holds hd).2.grows ((Gentle.endCall _).play he))

theorem Calls.le_one {app₀ app : App C} {n : Nat} (h : Calls app₀ n app) : n ≤ 1 := by
  cases h with
  | none => exact Nat.zero_le 1
  | call h hd _ =>
    rcases h.held with ⟨rfl, -⟩ | hheld
    · exact Nat.le_refl 1
    · exact absurd ⟨_, _, _, hd⟩ (hheld.no_call _)

/-- For every number of calls: the next one follows on only if there was none. -/
theorem calls_follow_iff {app₀ app : App C} {n : Nat} (h₀ : Idle app₀) (h : Calls app₀ n app) :
    (FollowsOn app₀ app ↔ n = 0) ∧ (n ≠ 0 → Held app ∧ ∀ d, ¬ CanComeAbout d app) := by
  constructor
  · constructor
    · intro hf
      rcases h.held with ⟨rfl, -⟩ | hheld
      · rfl
      · have hin := hheld.audioInput
        rw [hf.restored.audioInput] at hin
        cases hin
    · rintro rfl
      cases h
      refine ⟨⟨h₀.audioInput, h₀.audioOutput, h₀.socket, rfl, ?_⟩, fun _ hd => hd, ?_⟩
      · intro x hx
        rw [h₀.handlers] at hx
        cases hx
      · intro this hthis
        rw [h₀.handlers] at hthis
        cases hthis
  · intro hn
    rcases h.held with ⟨h0, -⟩ | hheld
    · exact absurd h0 hn
    · exact ⟨hheld, hheld.no_call⟩

/-- What `endCall` would have to do: the methods that give everything back are there. -/
theorem release_restores {app : App C} (h : Held app) (closed : Bool) :
    ∃ app', (do AudioInput.stopSending; AudioOutput.stopPlaying; TorNetwork.disconnect : Task C Unit).play app
        [if closed then .done else .failed] = some (.ok (), app', []) ∧
      app'.audioInput = none ∧ app'.audioOutput = none ∧ app'.torNetwork.socket = none ∧
      (app.torNetwork.listenerStartNeeded → app'.listener.created) := by
  obtain ⟨⟨socket, needed⟩, ⟨created, accepting⟩, handlers, callHandler, callInfo, audioInput, audioOutput,
    native⟩ := app
  obtain ⟨i, rfl⟩ := Option.isSome_iff_exists.1 h.audioInput
  obtain ⟨o, rfl⟩ := Option.isSome_iff_exists.1 h.audioOutput
  obtain ⟨c, rfl⟩ := Option.isSome_iff_exists.1 h.socket
  cases needed with
  | false => cases closed <;> exact ⟨_, rfl, rfl, rfl, rfl, fun h => nomatch h⟩
  -- the listener may run already
  | true => cases created <;> cases closed <;> exact ⟨_, rfl, rfl, rfl, rfl, fun _ => rfl⟩

/-! ## Instances -/

def firstCall : Dial smallCrypto := .startCall 4 (smallParty 2) 8 { identity := some {} }

/-- The call comes about on a phone that waits for calls, and is ended; what is left of it then. -/
theorem firstCall_ended : ∃ app₁ app₂, ComesAbout firstCall 0 FailedCall.waiting OneCall.goodCallee app₁ ∧
    (CallHandler.endCall 0).play app₁ [] = some (.ok (), app₂, []) ∧
    app₂.audioInput = some true ∧ app₂.audioOutput = some true ∧ app₂.torNetwork.socket = some 8 ∧
    app₂.listener = ⟨false, false⟩ ∧ (app₂.handler 0).wrapper = true ∧ (app₂.handler 0).unwrapper = true := by
  have hplay : ((firstCall.method.play FailedCall.waiting OneCall.goodCallee).bind fun x =>
      ((CallHandler.endCall 0 : Task smallCrypto Unit).play x.2.1 []).map fun y =>
        ((x.1, x.2.2, (x.2.1.handler 0).callStatus), (y.1, y.2.2), (y.2.1.audioInput, y.2.1.audioOutput,
          y.2.1.torNetwork.socket), y.2.1.listener, (y.2.1.handler 0).wrapper,
          (y.2.1.handler 0).unwrapper)) =
      some ((.ok (), [], .ongoing), (.ok (), []), (some true, some true, some 8), ⟨false, false⟩, true,
        true) :=
    rfl
  obtain ⟨⟨r₁, app₁, rs₁⟩, h₁, hrest⟩ := Option.bind_eq_some_iff.1 hplay
  obtain ⟨⟨r₂, app₂, rs₂⟩, h₂, htuple⟩ := Option.map_eq_some_iff.1 hrest
  simp only [Prod.mk.injEq] at htuple
  obtain ⟨⟨rfl, rfl, hstatus⟩, ⟨rfl, rfl⟩, ⟨hi, ho, hs⟩, hl, hw, hu⟩ := htuple
  exact ⟨app₁, app₂, ⟨h₁, by decide, hstatus⟩, h₂, hi, ho, hs, hl, hw, hu⟩

theorem calls_follow_iff_one : ∃ app, Calls FailedCall.waiting 1 app ∧ ¬ FollowsOn FailedCall.waiting app := by
  obtain ⟨app₁, app₂, hd, he, -⟩ := firstCall_ended
  have hcalls : Calls FailedCall.waiting 1 app₂ := .call .none hd he
  have hidle : Idle FailedCall.waiting := ⟨rfl, rfl, rfl, rfl⟩
  refine ⟨app₂, hcalls, fun hf => ?_⟩
  exact absurd ((calls_follow_iff hidle hcalls).1.1 hf) Nat.one_ne_zero

/-- The phone after one call that was ended: the workers, the socket, the wrapper and the unwrapper are
still there, the listener is not, and the same call cannot be made again. -/
theorem no_second_call : ∃ app, Calls FailedCall.waiting 1 app ∧ app.audioInput = some true ∧
    app.audioOutput = some true ∧ app.torNetwork.socket = some 8 ∧ app.listener = ⟨false, false⟩ ∧
    (app.handler 0).wrapper = true ∧ (app.handler 0).unwrapper = true ∧
    CanComeAbout firstCall FailedCall.waiting ∧ ¬ CanComeAbout firstCall app ∧
    ¬ FollowsOn FailedCall.waiting app := by
  obtain ⟨app₁, app₂, hd, he, hi, ho, hs, hl, hw, hu⟩ := firstCall_ended
  have hheld : Held app₂ := ⟨by rw [hi]; rfl, by rw [ho]; rfl, by rw [hs]; rfl⟩
  have hcan : CanComeAbout firstCall FailedCall.waiting := ⟨_, _, _, hd⟩
  refine ⟨app₂, .call .none hd he, hi, ho, hs, hl, hw, hu, hcan, hheld.no_call _, fun hf => ?_⟩
  exact hheld.no_call _ (hf.next _ hcan)

end NextCall
end OnionPhone
