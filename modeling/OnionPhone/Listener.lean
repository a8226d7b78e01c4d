import OnionPhone.Lib.Machine
import OnionPhone.Assignments
import OnionPhone.FailedCall

/-!
# OnionPhone.Listener

`TorNetwork` and its listener: connections made, accepted and closed, in any order.

* `connectTo_cases`: what `connectTo` can do, step by step.
* `failed_connect_iff`: a `connectTo` that fails has changed nothing only if it failed to open the socket.
* `listener_resumed_iff`: after `disconnect` the listener runs as it did when the connection was made, for
  which connections.

`listenerStartNeeded` is set by every connection, whether or not the listener was running.
-/

namespace OnionPhone
namespace Listener

open Wire Wire.Job SetUp

variable {C : Crypto} {α β : Type}

/-! ## connectTo -/

def connected (socket : SocketId) (app : App C) : App C :=
  { app with
    torNetwork := { socket := some socket, listenerStartNeeded := true }
    listener := ⟨false, false⟩ }

/-- Either the socket cannot be opened, or it is in the field; then `setSoTimeout` or `setTcpNoDelay` may
still fail. -/
theorem connectTo_cases {identity : Identity C} {socket : SocketId} {app app' : App C}
    {r : Except Exn Unit} {rs rs' : List Reply}
    (h : (TorNetwork.connectTo (some identity) socket).play app rs = some (r, app', rs')) :
    (rs = .failed :: rs' ∧ r = .error (.connection "cannot connect to hidden service") ∧ app' = app) ∨
    ((rs = .done :: .failed :: rs' ∨ rs = .done :: .done :: .failed :: rs') ∧
      r = .error (.connection "cannot connect to hidden service") ∧ app' = app.setSocket socket) ∨
    (rs = .done :: .done :: .done :: rs' ∧ r = .ok () ∧ app' = connected socket app) := by
  rcases play_call_bind h with ⟨rfl, hr, ha⟩ | ⟨rs₁, rfl, h₁⟩
  · exact .inl ⟨rfl, hr, ha⟩
  have h₁' : (call (.connection "cannot connect to hidden service") >>= fun _ => do
      call (.connection "cannot connect to hidden service")
      TorNetwork.stopConnectionListener
      update fun app => { app with torNetwork := { app.torNetwork with listenerStartNeeded := true } }).play
      (app.setSocket socket) rs₁ = some (r, app', rs') := h₁
  right
  rcases play_call_bind h₁' with ⟨rfl, hr, ha⟩ | ⟨rs₂, rfl, h₂⟩
  · exact .inl ⟨.inl rfl, hr, ha⟩
  rcases play_call_bind h₂ with ⟨rfl, hr, ha⟩ | ⟨rs₃, rfl, h₃⟩
  · exact .inl ⟨.inr rfl, hr, ha⟩
  cases h₃
  exact .inr ⟨rfl, rfl, rfl⟩

/-! ## A connection that fails -/

/-- The application is as before, as far as connections go: without a connection, the next one that comes in
is taken, and there are no streams. -/
structure ChangesNothing (app app' : App C) : Prop where
  torNetwork : app'.torNetwork = app.torNetwork
  listener : app'.listener = app.listener
  takes : app.torNetwork.socket = none → ∀ (p : Party C) (incoming : SocketId) (rs : List Reply),
    (TorNetwork.handleIncomingConnection p incoming).play app' rs =
      (ProtocolManagement.handleIncomingCall p).play
        { app' with torNetwork := { socket := some incoming, listenerStartNeeded := true } } rs
  raises : app.torNetwork.socket = none → ∀ rs,
    TorNetwork.getInputStream.play app' rs = some (.error (.connection "not connected"), app', rs) ∧
    TorNetwork.getOutputStream.play app' rs = some (.error (.connection "not connected"), app', rs)

theorem changesNothing_self (app : App C) : ChangesNothing app app where
  torNetwork := rfl
  listener := rfl
  takes := by
    intro hs p incoming rs
    refine (play_bind_ok (a := app) rfl).trans ?_
    rw [hs]
    rfl
  raises := by
    intro hs rs
    have hcheck : TorNetwork.checkForNullSocket.play app rs =
        some (.error (.connection "not connected"), app, rs) := by
      refine (play_bind_ok (a := app) rfl).trans ?_
      rw [hs]
      rfl
    exact ⟨play_bind_error hcheck, play_bind_error hcheck⟩

/-- For every state and every way to fail; `socket` is the object that the constructor makes. -/
theorem failed_connect_iff {identity : Identity C} {socket : SocketId} {app app' : App C} {msg : String}
    {rs rs' : List Reply} (hnew : app.torNetwork.socket ≠ some socket)
    (h : (TorNetwork.connectTo (some identity) socket).play app rs =
      some (.error (.connection msg), app', rs')) :
    ChangesNothing app app' ↔ rs.head? = some .failed := by
  rcases connectTo_cases h with ⟨rfl, -, rfl⟩ | ⟨hrs, -, rfl⟩ | ⟨-, hr, -⟩
  · simp [changesNothing_self]
  · constructor
    · intro hc
      exact absurd (congrArg TorNetwork.socket hc.torNetwork).symm hnew
    · intro hf
      rcases hrs with rfl | rfl <;> cases hf
  · cases hr

/-- No route to the hidden service. -/
theorem unreachable_changes_nothing :
    (TorNetwork.connectTo (some {}) 7).play ({} : App smallCrypto) [.failed] =
      some (.error (.connection "cannot connect to hidden service"), {}, []) ∧
    ChangesNothing ({} : App smallCrypto) {} := by
  have hplay : (TorNetwork.connectTo (some {}) 7).play ({} : App smallCrypto) [.failed] =
      some (.error (.connection "cannot connect to hidden service"), {}, []) := rfl
  exact ⟨hplay, (failed_connect_iff (by decide) hplay).2 rfl⟩

/-- `setSoTimeout` fails: the socket stays, and the next connection that comes in is dropped. -/
theorem socket_left_behind :
    let app : App smallCrypto := {}
    let app' := app.setSocket 7
    (TorNetwork.connectTo (some {}) 7).play app [.done, .failed] =
      some (.error (.connection "cannot connect to hidden service"), app', []) ∧
    ¬ ChangesNothing app app' ∧
    (TorNetwork.handleIncomingConnection (smallParty 1) 8).play app' [] = some (.ok (), app', []) := by
  intro app app'
  refine ⟨rfl, ?_, FailedCall.handleIncomingConnection_dropped rfl⟩
  intro h
  cases h.torNetwork

/-! ## Calls leave the network alone -/

structure SameNetwork (app app' : App C) : Prop where
  torNetwork : app'.torNetwork = app.torNetwork
  listener : app'.listener = app.listener

instance : Std.Refl (SameNetwork : App C → App C → Prop) where
  refl _ := ⟨rfl, rfl⟩

instance : IsTrans (App C) SameNetwork where
  trans _ _ _ h h' := ⟨h'.torNetwork.trans h.torNetwork, h'.listener.trans h.listener⟩

abbrev Offline (m : Task C α) : Prop := Along SameNetwork m

namespace Offline

theorem allows (this : Nat) : Assignments.Allows (SameNetwork : App C → App C → Prop) this where
  keepAliveWorker _ _ := ⟨rfl, rfl⟩
  session _ _ := ⟨rfl, rfl⟩
  wrapper _ := ⟨rfl, rfl⟩
  unwrapper _ := ⟨rfl, rfl⟩
  audioInput _ := ⟨rfl, rfl⟩
  audioInputStarted _ := ⟨rfl, rfl⟩
  audioOutput _ := ⟨rfl, rfl⟩
  connectorStarted _ _ := ⟨rfl, rfl⟩

theorem updateHandler (this : Nat) (f : CallHandler → CallHandler) :
    Offline (OnionPhone.update (App.modifyHandler this f) : Task C Unit) :=
  Assignments.update fun _ => ⟨rfl, rfl⟩

theorem connectMedia (this : Nat) (ins outs : SocketId) :
    Offline (CallHandler.connectMedia this ins outs : Task C Unit) := by
  have ha := allows (C := C) this
  refine .bind ha.getApplicationInputStream fun _ => .bind ha.getApplicationOutputStream fun _ => ?_
  refine .bind (Assignments.newConnector fun _ => ⟨rfl, rfl⟩) fun _ => ?_
  refine .bind (Assignments.newConnector fun _ => ⟨rfl, rfl⟩) fun _ => ?_
  refine .bind ha.startSending fun _ => .bind (ha.startConnector _) fun _ => ?_
  exact .bind (ha.startConnector _) fun _ => updateHandler this _

theorem acceptCall (p : Party C) (this : Nat) (callInfo : CallInfo C) :
    Offline (CallHandler.acceptCall p this callInfo) := by
  have ha := allows (C := C) this
  refine .bind (Assignments.assertCallIsInitialized this) fun _ => ?_
  refine .bind (Assignments.getStream _) fun ins => .bind (Assignments.getStream _) fun outs => ?_
  refine .bind (ha.runMain ins outs _ callInfo) fun callInfo => .bind (ha.runSrtp ins outs _) fun _ => ?_
  exact connectMedia this ins outs

theorem handleIncomingCall (p : Party C) : Offline (ProtocolManagement.handleIncomingCall p : Task C Unit) := by
  refine .bind (Assignments.update fun _ => ⟨rfl, rfl⟩) fun _ => .bind Assignments.callHandler fun this => ?_
  refine .bind (Assignments.getStream _) fun ins => .bind (Assignments.getStream _) fun outs => ?_
  refine .bind ((allows this).runMain ins outs _ _) fun callInfo => .bind (updateHandler this _) fun _ => ?_
  refine .bind (Assignments.update fun _ => ⟨rfl, rfl⟩) fun _ => .bind Assignments.look fun app => ?_
  split
  · exact .throw _
  · exact .bind Assignments.callHandler fun this => acceptCall p this _

end Offline

/-! ## Connections one after the other -/

inductive How where
  | incoming
  | outgoing
  /-- The socket of a `connectTo` that has thrown. -/
  | leftBehind
  deriving DecidableEq, Repr

/-- How the socket came into its field, and whether the listener was running then. -/
structure Origin where
  how : How
  listening : Bool
  deriving DecidableEq, Repr

/-- `origin` is that of the socket in the field; no method knows it. -/
structure State (C : Crypto) where
  app : App C
  origin : Option Origin := none

inductive Op (C : Crypto) where
  | startConnectionListener
  | stopConnectionListener
  | connectTo (identity : Option (Identity C)) (socket : SocketId) (rs : List Reply)
  | handleIncomingConnection (p : Party C) (incoming : SocketId) (rs : List Reply)
  | disconnect (rs : List Reply)

/-- A method that runs alone: how it ends, and the application after it. -/
def outcome (m : Task C α) (app : App C) (rs : List Reply) : Option (Except Exn α × App C) :=
  (m.play app rs).map fun r => (r.1, r.2.1)

def connectTo.origin (rs : List Reply) (s : State C) : Except Exn Unit → Option Origin
  | .ok _ => some ⟨.outgoing, s.app.listener.created⟩
  | .error .nullPointer => s.origin
  | .error _ => if rs.head? = some .done then some ⟨.leftBehind, s.app.listener.created⟩ else s.origin

/-- One operation. A connection comes in only while the listener runs, and the service stops itself when
`handleIncomingConnection` has returned; an exception of it is caught by nobody and ends the process. -/
def step : Op C → State C → Option (State C)
  | .startConnectionListener, s =>
    (outcome TorNetwork.startConnectionListener s.app []).map fun r => { s with app := r.2 }
  | .stopConnectionListener, s =>
    (outcome TorNetwork.stopConnectionListener s.app []).map fun r => { s with app := r.2 }
  | .connectTo identity socket rs, s =>
    (outcome (TorNetwork.connectTo identity socket) s.app rs).map fun r =>
      ⟨r.2, connectTo.origin rs s r.1⟩
  | .handleIncomingConnection p incoming rs, s =>
    if s.app.listener.created then
      match outcome (do
        TorNetwork.handleIncomingConnection p incoming
        ConnectionListener.run.stopSelf) s.app rs with
      | some (.ok _, app) =>
        some ⟨app, if s.app.torNetwork.socket = none then some ⟨.incoming, true⟩ else s.origin⟩
      | _ => none
    else none
  | .disconnect rs, s =>
    (outcome TorNetwork.disconnect s.app rs).map fun r =>
      ⟨r.2, match r.1 with
        | .ok _ => none
        | .error _ => s.origin⟩

def start (app : App C) : State C := { app := { app with torNetwork := {} } }

/-! ## What each operation does to the network -/

theorem handleIncomingConnection_network {p : Party C} {incoming : SocketId} {app app' : App C}
    {r : Except Exn Unit} {rs rs' : List Reply}
    (h : (TorNetwork.handleIncomingConnection p incoming).play app rs = some (r, app', rs')) :
    app'.listener = app.listener ∧
    ((app.torNetwork.socket = none ∧
        app'.torNetwork = { socket := some incoming, listenerStartNeeded := true }) ∨
      (app.torNetwork.socket ≠ none ∧ app'.torNetwork = app.torNetwork)) := by
  cases hs : app.torNetwork.socket with
  | some socket =>
    rw [FailedCall.handleIncomingConnection_dropped hs] at h
    cases h
    exact ⟨rfl, .inr ⟨by simp, rfl⟩⟩
  | none =>
    rw [(changesNothing_self app).takes hs] at h
    have hnet := (Offline.handleIncomingCall p).play h
    exact ⟨hnet.listener, .inl ⟨rfl, hnet.torNetwork⟩⟩

/-- `disconnect` with a socket: the listener is started if that was noted, and otherwise left alone. -/
theorem disconnect_play {app app' : App C} {socket : SocketId} {r : Except Exn Unit} {rs rs' : List Reply}
    (hs : app.torNetwork.socket = some socket)
    (h : TorNetwork.disconnect.play app rs = some (r, app', rs')) :
    r = .ok () ∧ app'.torNetwork = {} ∧
      app'.listener.created = (app.torNetwork.listenerStartNeeded || app.listener.created) := by
  let closed : App C := { app with torNetwork := { app.torNetwork with socket := none } }
  have hcheck : TorNetwork.checkForNullSocket.play app rs = some (.ok (), app, rs) := by
    refine (play_bind_ok (a := app) rfl).trans ?_
    rw [hs]
    rfl
  have hfound : (TorNetwork.disconnect : Task C Unit).play app rs = _ :=
    (play_bind_ok hcheck).trans (play_bind_ok (a := app) rfl)
  rw [hfound, id, hs] at h
  -- whether or not `close` fails
  obtain ⟨rs₁, hresume⟩ : ∃ rs₁, TorNetwork.resumeListenerIfEnabled.play closed rs₁ = some (r, app', rs') := by
    cases rs with
    | nil => cases h
    | cons x rs =>
      cases x with
      | done => exact ⟨rs, h⟩
      | failed => exact ⟨rs, h⟩
      | data bs => cases h
  have hlook : (TorNetwork.resumeListenerIfEnabled : Task C Unit).play closed rs₁ = _ :=
    play_bind_ok (a := closed) rfl
  rw [hlook] at hresume
  cases hn : app.torNetwork.listenerStartNeeded with
  | false =>
    rw [show closed.torNetwork.listenerStartNeeded = false from hn] at hresume
    cases hresume
    exact ⟨rfl, by simp [closed, hn], by simp [closed]⟩
  | true =>
    rw [show closed.torNetwork.listenerStartNeeded = true from hn] at hresume
    cases hresume
    refine ⟨rfl, ?_⟩
    dsimp only [closed, id]
    split
    · next hc => exact ⟨rfl, hc⟩
    · exact ⟨rfl, rfl⟩

theorem disconnect_unconnected {app app' : App C} {r : Except Exn Unit} {rs rs' : List Reply}
    (hs : app.torNetwork.socket = none)
    (h : TorNetwork.disconnect.play app rs = some (r, app', rs')) :
    r = .error (.connection "not connected") ∧ app' = app := by
  have hcheck : TorNetwork.checkForNullSocket.play app rs =
      some (.error (.connection "not connected"), app, rs) := by
    refine (play_bind_ok (a := app) rfl).trans ?_
    rw [hs]
    rfl
  rw [show (TorNetwork.disconnect : Task C Unit).play app rs = _ from play_bind_error hcheck] at h
  cases h
  exact ⟨rfl, rfl⟩

/-! ## Along every run -/

structure Inv (s : State C) : Prop where
  known : s.origin.isSome = s.app.torNetwork.socket.isSome
  idle : s.origin = none → s.app.torNetwork.listenerStartNeeded = false
  noted : ∀ o, s.origin = some o → o.how ≠ .leftBehind → s.app.torNetwork.listenerStartNeeded = true
  accepted : ∀ o, s.origin = some o → o.how = .incoming → o.listening = true

theorem inv_start (app : App C) : Inv (start app) where
  known := rfl
  idle _ := rfl
  noted := by simp [start]
  accepted := by simp [start]

theorem Inv.same {s s' : State C} (h : Inv s) (hn : s'.app.torNetwork = s.app.torNetwork)
    (ho : s'.origin = s.origin) : Inv s' where
  known := by rw [hn, ho]; exact h.known
  idle := by rw [hn, ho]; exact h.idle
  noted := by rw [hn, ho]; exact h.noted
  accepted := by rw [ho]; exact h.accepted

theorem inv_connectTo {identity : Option (Identity C)} {socket : SocketId} {rs : List Reply} {s s' : State C}
    (h : Inv s) (hs : step (.connectTo identity socket rs) s = some s') : Inv s' := by
  obtain ⟨⟨r, app⟩, hout, rfl⟩ := Option.map_eq_some_iff.1 hs
  obtain ⟨⟨r', app', rs'⟩, hplay, hr⟩ := Option.map_eq_some_iff.1 hout
  cases hr
  cases identity with
  | none =>
    cases hplay
    exact h.same rfl rfl
  | some identity =>
    rcases connectTo_cases hplay with ⟨rfl, rfl, rfl⟩ | ⟨hrs, rfl, rfl⟩ | ⟨rfl, rfl, rfl⟩
    · exact h.same rfl rfl
    · have ho : connectTo.origin rs s (.error (.connection "cannot connect to hidden service")) =
          some ⟨.leftBehind, s.app.listener.created⟩ := by
        rcases hrs with rfl | rfl <;> rfl
      constructor
      · simp [ho, App.setSocket]
      · simp [ho]
      · simp [ho]
      · simp [ho]
    · constructor
      · rfl
      · simp [connectTo.origin]
      · simp [connected]
      · simp [connectTo.origin]

theorem inv_incoming {p : Party C} {incoming : SocketId} {rs : List Reply} {s s' : State C} (h : Inv s)
    (hs : step (.handleIncomingConnection p incoming rs) s = some s') : Inv s' := by
  simp only [step] at hs
  split at hs
  · split at hs
    · next r app hout =>
      cases hs
      obtain ⟨⟨r', app', rs'⟩, hplay, hr⟩ := Option.map_eq_some_iff.1 hout
      cases hr
      rcases play_bind_cases hplay with ⟨_, app₁, rs₁, hconn, hstop⟩ | ⟨e, -, he⟩
      · cases hstop
        rcases (handleIncomingConnection_network hconn).2 with ⟨hnone, hnet⟩ | ⟨hsome, hnet⟩
        · rw [if_pos hnone]
          constructor
          · simp [hnet]
          · simp
          · simp [hnet]
          · simp
        · rw [if_neg hsome]
          exact h.same hnet rfl
      · cases he
    · cases hs
  · cases hs

theorem inv_disconnect {rs : List Reply} {s s' : State C} (h : Inv s)
    (hs : step (.disconnect rs) s = some s') : Inv s' := by
  obtain ⟨⟨r, app⟩, hout, rfl⟩ := Option.map_eq_some_iff.1 hs
  obtain ⟨⟨r', app', rs'⟩, hplay, hr⟩ := Option.map_eq_some_iff.1 hout
  cases hr
  cases hsock : s.app.torNetwork.socket with
  | none =>
    obtain ⟨rfl, rfl⟩ := disconnect_unconnected hsock hplay
    exact h.same rfl rfl
  | some socket =>
    obtain ⟨rfl, hnet, -⟩ := disconnect_play hsock hplay
    constructor
    · simp [hnet]
    · simp [hnet]
    · simp
    · simp

theorem inv_step {op : Op C} {s s' : State C} (h : Inv s) (hs : step op s = some s') : Inv s' := by
  cases op with
  | startConnectionListener =>
    cases hs
    refine h.same ?_ rfl
    dsimp only
    split <;> rfl
  | stopConnectionListener =>
    cases hs
    exact h.same rfl rfl
  | connectTo identity socket rs => exact inv_connectTo h hs
  | handleIncomingConnection p incoming rs => exact inv_incoming h hs
  | disconnect rs => exact inv_disconnect h hs

/-- The listener is started again after every connection but one that was left behind: after those that came in
it was running, after those that went out it need not have been. A socket left behind changes neither the
note nor the listener. -/
def AsBefore (s : State C) (o : Origin) : Prop :=
  match o.how with
  | .incoming => True
  | .outgoing => o.listening = true
  | .leftBehind =>
    if s.app.torNetwork.listenerStartNeeded then o.listening = true else s.app.listener.created = o.listening

/-- For every connection of every run, when it is closed. -/
theorem listener_resumed_iff (app : App C) {ops : List (Op C)} {s s' : State C} {o : Origin} {rs : List Reply}
    (hr : run step (start app) ops = some s) (ho : s.origin = some o)
    (hd : step (.disconnect rs) s = some s') :
    s'.app.listener.created = o.listening ↔ AsBefore s o := by
  have h : Inv s := run_inv_any (fun _ _ _ => inv_step) (inv_start app) hr
  have hknown := h.known
  rw [ho] at hknown
  obtain ⟨socket, hsock⟩ := Option.isSome_iff_exists.1 hknown.symm
  obtain ⟨⟨r, app₁⟩, hout, rfl⟩ := Option.map_eq_some_iff.1 hd
  obtain ⟨⟨r', app₁', rs'⟩, hplay, hr'⟩ := Option.map_eq_some_iff.1 hout
  cases hr'
  obtain ⟨-, -, hcreated⟩ := disconnect_play hsock hplay
  rw [hcreated]
  cases hhow : o.how with
  | incoming =>
    have hn := h.noted o ho (by simp [hhow])
    have hl := h.accepted o ho hhow
    simp [AsBefore, hhow, hn, hl]
  | outgoing =>
    have hn := h.noted o ho (by simp [hhow])
    simp [AsBefore, hhow, hn]
  | leftBehind =>
    cases hn : s.app.torNetwork.listenerStartNeeded with
    | true => simp [AsBefore, hhow, hn]
    | false => simp [AsBefore, hhow, hn]

/-- The listener is on, a call is made and ended: the listener is on again. -/
theorem listener_resumed_on :
    ∃ s s' : State smallCrypto, run step (start {}) [.startConnectionListener,
        .connectTo (some {}) 7 [.done, .done, .done]] = some s ∧
      s.origin = some ⟨.outgoing, true⟩ ∧ s.app.listener.created = false ∧
      step (.disconnect [.done]) s = some s' ∧ s'.app.listener.created = true := by
  have hs : run step (start ({} : App smallCrypto)) [.startConnectionListener,
      .connectTo (some {}) 7 [.done, .done, .done]] =
      some ⟨connected 7 { listener := ⟨true, true⟩ }, some ⟨.outgoing, true⟩⟩ := rfl
  obtain ⟨s', hd⟩ : ∃ s', step (.disconnect [.done])
      (⟨connected 7 { listener := ⟨true, true⟩ }, some ⟨.outgoing, true⟩⟩ : State smallCrypto) = some s' :=
    ⟨_, rfl⟩
  exact ⟨_, s', hs, rfl, rfl, hd, (listener_resumed_iff {} hs rfl hd).2 rfl⟩

/-- The listener was never on, and a call is made and ended: now the phone accepts calls. -/
theorem listener_turned_on :
    ∃ s s' : State smallCrypto, run step (start {}) [.connectTo (some {}) 7 [.done, .done, .done]] = some s ∧
      s.origin = some ⟨.outgoing, false⟩ ∧ step (.disconnect [.done]) s = some s' ∧
      s'.app.listener = ⟨true, true⟩ :=
  ⟨_, _, rfl, rfl, rfl, rfl⟩

end Listener
end OnionPhone
