import OnionPhone.Quiet

/-!
# OnionPhone.FailedCall

An incoming call whose handshake fails. No exception of the handshake is an `IOException`, so none is
caught on its way up through `CallHandler`, `ProtocolManagementImpl`, `TorNetwork` and
`ConnectionListener.run`, and none of them undoes what it has done: the socket stays in `TorNetwork`,
the listener is neither stopped nor accepting, and starting it again has no effect.

`failed_call_blocks`: so it is after every failed call, whatever the peer sent.
-/

namespace OnionPhone
namespace FailedCall

open Wire Wire.Job SetUp

variable {C : Crypto} {p : Party C} {incoming : SocketId} {app : App C}

/-! ## The way to the handshake -/

/-- The application when the listener has taken the connection and the handler of the call is made. -/
def taken (incoming : SocketId) (app : App C) : App C :=
  ({ app with
      listener := { app.listener with accepting := false }
      torNetwork := { app.torNetwork with listenerStartNeeded := true } }.setSocket
    incoming).newHandler

/-- The application when the handshake of the callee has ended with `c` and the user is asked. -/
def offered (incoming : SocketId) (app : App C) (c : Call C) : App C :=
  { ((taken incoming app).modifyHandler app.handlers.length fun h =>
        { h with keepAliveWorker := c.keepAliveWorker }).modifyHandler app.handlers.length fun h =>
      { h with callStatus := .initialized } with
    callInfo := some c.callInfo }

/-- A call on which `initiateIncomingSession`, or the `acceptCall` after it, throws `e`; `rs` is what
the streams and the network reply from the first octet on. -/
inductive Fails (p : Party C) (incoming : SocketId) (app : App C) (rs : List Reply) (e : Exn) :
    Prop where
  | session {c : Call C} {rs' : List Reply}
      (h : (MainProtocol.initiateIncomingSession p.randomMessage {}).play rs =
        some ((.error e, c), rs'))
  | answer {c : Call C} {rs₁ rs' : List Reply} {app' : App C}
      (h : (MainProtocol.initiateIncomingSession p.randomMessage {}).play rs =
        some ((.ok (), c), rs₁))
      (h' : (CallHandler.acceptCall p app.handlers.length c.callInfo).play
        (offered incoming app c) rs₁ = some (.error e, app', rs'))

theorem handler_taken : (taken incoming app).handler app.handlers.length = {} := by
  simp [taken, App.handler, App.newHandler, App.setSocket]

theorem getStream_play {msg : String} {socket : SocketId} {rs : List Reply}
    (h : app.torNetwork.socket = some socket) :
    (TorNetwork.getStream msg).play app (.done :: rs) = some (.ok socket, app, rs) := by
  have hcheck : TorNetwork.checkForNullSocket.play app (.done :: rs) =
      some (.ok (), app, .done :: rs) := by
    refine (play_bind_ok (a := app) rfl).trans ?_
    rw [h]
    rfl
  refine (play_bind_ok hcheck).trans ((play_bind_ok (a := app) rfl).trans ?_)
  rw [h]
  rfl

def ended (incoming : SocketId) (app : App C) (c : Call C) : App C :=
  (taken incoming app).modifyHandler app.handlers.length fun h =>
    { h with keepAliveWorker := c.keepAliveWorker }

theorem runMain_play {rs rs' : List Reply} {r : Except Exn Unit} {c : Call C}
    (h : (MainProtocol.initiateIncomingSession p.randomMessage {}).play rs = some ((r, c), rs')) :
    (CallHandler.runMain app.handlers.length incoming incoming
        (MainProtocol.initiateIncomingSession p.randomMessage) {}).play (taken incoming app) rs =
      some (r.map fun _ => c.callInfo, ended incoming app c, rs') := by
  refine (play_bind_ok (a := taken incoming app) rfl).trans ?_
  rw [handler_taken]
  refine (play_bind_ok (play_talk h)).trans ((play_bind_ok rfl).trans ?_)
  cases r with
  | ok u => rfl
  | error e => rfl

/-- The handler throws what the handshake or the answer throws. -/
theorem handleIncomingCall_throws {rs : List Reply} {e : Exn} (h : Fails p incoming app rs e) :
    ∃ app' rs', (CallHandler.handleIncomingCall p app.handlers.length).play (taken incoming app)
        (.done :: .done :: rs) = some (.error e, app', rs') ∧
      app'.view.socket = some incoming ∧ app'.view.listener = ⟨app.listener.created, false⟩ ∧
      e ≠ .io := by
  cases h with
  | @session c rs' h =>
    refine ⟨ended incoming app c, rs', ?_, rfl, rfl, ?_⟩
    · refine (play_bind_ok (getStream_play rfl)).trans ((play_bind_ok (getStream_play rfl)).trans ?_)
      exact play_bind_error (runMain_play h)
    · have he := Proc.Returns.play (Tame.initiateIncomingSession p.randomMessage {}) h e rfl
      rintro rfl
      cases he
  | @answer c rs₁ rs' app' h h' =>
    have hk := Thread.Keeps.play (Reaches.acceptCall p _ _ (offered incoming app c) rfl) h'
    refine ⟨app', rs', ?_, ?_, ?_, hk.2⟩
    · refine (play_bind_ok (getStream_play rfl)).trans ((play_bind_ok (getStream_play rfl)).trans ?_)
      refine (play_bind_ok (runMain_play h)).trans ((play_bind_ok rfl).trans ?_)
      refine (play_bind_ok rfl).trans ?_
      exact h'
    · rw [hk.1]
      rfl
    · rw [hk.1]
      rfl

/-! ## The listener -/

/-- The thread of the listener that takes the connection ends with the exception of the call. -/
theorem run_throws {rs : List Reply} {e : Exn} (hs : app.torNetwork.socket = none)
    (h : Fails p incoming app rs e) :
    ∃ app' rs', (ConnectionListener.run p incoming).play app
        (.done :: .done :: .done :: .done :: rs) = some (.error e, app', rs') ∧
      app'.view.socket = some incoming ∧ app'.view.listener = ⟨app.listener.created, false⟩ := by
  obtain ⟨app', rs', hplay, hsocket, hlistener, he⟩ := handleIncomingCall_throws h
  refine ⟨app', rs', ?_, hsocket, hlistener⟩
  have hconn : (TorNetwork.handleIncomingConnection p incoming).play
      { app with listener := { app.listener with accepting := false } }
      (.done :: .done :: rs) = some (.error e, app', rs') := by
    refine (play_bind_ok rfl).trans ?_
    rw [id, hs]
    exact hplay
  refine play_bind_error (play_rescue_error ?_ ?_)
  · cases e with
    | io => exact absurd rfl he
    | _ => rfl
  · exact (play_bind_ok rfl).trans ((play_bind_ok rfl).trans ((play_bind_ok rfl).trans hconn))

theorem handleIncomingConnection_dropped {socket next : SocketId} {rs : List Reply}
    (h : app.torNetwork.socket = some socket) :
    (TorNetwork.handleIncomingConnection p next).play app rs = some (.ok (), app, rs) := by
  refine (play_bind_ok (a := app) rfl).trans ?_
  rw [h]
  rfl

/-- The listener's thread ends normally, and the phone takes the next connection. -/
def Recovers (p : Party C) (incoming : SocketId) (app : App C) (rs : List Reply) : Prop :=
  ∃ app' rs', (ConnectionListener.run p incoming).play app rs = some (.ok (), app', rs') ∧
    app'.torNetwork.socket = none ∧ app'.listener.accepting = true ∧
    ∀ q next rs, (TorNetwork.handleIncomingConnection q next).play app' rs =
      (ProtocolManagement.handleIncomingCall q).play ({ app' with torNetwork :=
        { app'.torNetwork with listenerStartNeeded := true } }.setSocket next) rs

/-- After a failed call the phone takes no call any more: the exception leaves the listener's thread,
the socket stays, nobody waits in `accept`, a connection that came would be dropped, and starting the
listener again does nothing. -/
theorem failed_call_blocks {rs : List Reply} {e : Exn} (hs : app.torNetwork.socket = none)
    (h : Fails p incoming app rs e) :
    (∃ app' rs', (ConnectionListener.run p incoming).play app
        (.done :: .done :: .done :: .done :: rs) = some (.error e, app', rs') ∧
      app'.torNetwork.socket = some incoming ∧ app'.listener.accepting = false ∧
      (∀ q next rs, (TorNetwork.handleIncomingConnection q next).play app' rs =
        some (.ok (), app', rs)) ∧
      (app.listener.created = true →
        TorNetwork.startConnectionListener.play app' [] = some (.ok (), app', []))) ∧
    ¬ Recovers p incoming app (.done :: .done :: .done :: .done :: rs) := by
  obtain ⟨app', rs', hrun, hsocket, hlistener⟩ := run_throws hs h
  have hl : app'.listener = ⟨app.listener.created, false⟩ := hlistener
  refine ⟨⟨app', rs', hrun, hsocket, by rw [hl], ?_, ?_⟩, ?_⟩
  · intro q next rs
    exact handleIncomingConnection_dropped hsocket
  · intro hc
    show some (_, (if app'.listener.created then app' else _), _) = _
    rw [if_pos (by rw [hl]; exact hc)]
  · rintro ⟨app'', rs'', hrun', -⟩
    rw [hrun] at hrun'
    cases hrun'

/-- A peer that sends the octets `input` and then closes, and makes the handshake throw, is a failed
call. -/
theorem fails_of_input {input : Octets} {e : Exn} {c : Call C}
    (h : ((MainProtocol.initiateIncomingSession p.randomMessage {}).exec input).result =
      some (.error e, c)) : ∃ rs, Fails p incoming app rs e := by
  obtain ⟨rs, hrs⟩ := Proc.play_of_exec _ h
  exact ⟨rs, .session hrs⟩

def waiting : App smallCrypto := { listener := ⟨true, true⟩ }

theorem fails_at_once : Fails (smallParty 1) 7 waiting [.failed]
    (.mainProtocol "error while receiving message") :=
  .session rfl

theorem failed_call_blocks_small :
    Fails (smallParty 1) 7 waiting [.failed] (.mainProtocol "error while receiving message") ∧
    waiting.torNetwork.socket = none ∧
    ¬ Recovers (smallParty 1) 7 waiting [.done, .done, .done, .done, .failed] :=
  ⟨fails_at_once, rfl, (failed_call_blocks rfl fails_at_once).2⟩

/-- The call fails, and the phone does not recover. -/
theorem no_recovery :
    ¬ ∀ rs e, Fails (smallParty 1) 7 waiting rs e →
      Recovers (smallParty 1) 7 waiting (.done :: .done :: .done :: .done :: rs) := by
  intro h
  obtain ⟨app', rs', hrun, -⟩ := h _ _ fails_at_once
  obtain ⟨app'', rs'', hrun', -, -⟩ := run_throws rfl fails_at_once
  rw [hrun] at hrun'
  cases hrun'

end FailedCall
end OnionPhone
