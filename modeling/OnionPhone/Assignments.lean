import OnionPhone.Lib.Along
import OnionPhone.CallHandler

/-!
# OnionPhone.Assignments

What the methods that a `CallHandler` calls do to the fields of the application, said once for every
relation `R` between the fields before and those after.

* `update`, `newConnector`: one assignment. `getStream` and the assertions only look, whatever `R` is.
* `Allows R this`: `R` allows the assignments of `TheOnionPhoneProtocol`, `SrtpProtocol`, the audio manager
  and `Connector.start` for the handler `this`; then each of their methods moves along `R`.
* `AllowsConnecting R`: the same for the assignments of `TorNetwork.connectTo`.
-/

namespace OnionPhone
namespace Assignments

open Wire Wire.Job

variable {C : Crypto} {α : Type} {R : App C → App C → Prop} [Std.Refl R]

/-! ## One assignment, or none -/

theorem look : Along R (look : Task C (App C)) := .access fun _ => Std.Refl.refl _

theorem finish (r : Except Exn α) : Along R (finish r : Task C α) := by
  cases r with
  | ok a => exact .pure a
  | error e => exact .throw e

variable [IsTrans (App C) R]

theorem update {f : App C → App C} (h : ∀ app, R app (f app)) : Along R (update f) :=
  .bind (.access h) fun _ => .pure ()

theorem newConnector {this : Nat} {field : CallHandler.ConnectorField} {network : SocketId}
    (h : ∀ app, R app (app.modifyHandler this (CallHandler.setConnector (some { network := network }) field))) :
    Along R (CallHandler.newConnector this field network : Task C Unit) :=
  .bind (.access h) fun _ => .pure ()

theorem check {P : App C → Prop} [DecidablePred P] (e : Exn) :
    Along R (do let app ← OnionPhone.look; if P app then throw e else pure () : Task C Unit) := by
  refine .bind look fun app => ?_
  split
  · exact .throw e
  · exact .pure ()

theorem checkForNullSocket : Along R (TorNetwork.checkForNullSocket : Task C Unit) := by
  refine .bind look fun app => ?_
  split
  · exact .throw _
  · exact .pure ()

theorem getStream (msg : String) : Along R (TorNetwork.getStream msg : Task C SocketId) := by
  refine .bind checkForNullSocket fun _ => .bind (.access fun _ => Std.Refl.refl _) fun app => ?_
  split
  · exact .throw _
  · exact .bind (.call _) fun _ => .pure _

theorem callHandler : Along R (ProtocolManagement.callHandler : Task C Nat) := by
  refine .bind look fun app => ?_
  split
  · exact .throw _
  · exact .pure _

theorem assertNoCall (this : Nat) : Along R (CallHandler.assertNoCall this : Task C Unit) := check _

theorem assertCallIsInitialized (this : Nat) :
    Along R (CallHandler.assertCallIsInitialized this : Task C Unit) := check _

theorem assertCallIsOngoing (this : Nat) : Along R (CallHandler.assertCallIsOngoing this : Task C Unit) :=
  check _

theorem stopConnector (this : Nat) (field : CallHandler.ConnectorField) :
    Along R (CallHandler.stopConnector this field : Task C Unit) := by
  refine .bind look fun app => ?_
  split
  · exact .throw _
  · exact .pure ()

/-! ## The media -/

structure Allows (R : App C → App C → Prop) (this : Nat) : Prop where
  keepAliveWorker : ∀ w app, R app (app.modifyHandler this fun h => { h with keepAliveWorker := w })
  session : ∀ s app, R app (app.storeSession this s)
  wrapper : ∀ app, R app (app.modifyHandler this fun h => { h with wrapper := true })
  unwrapper : ∀ app, R app (app.modifyHandler this fun h => { h with unwrapper := true })
  audioInput : ∀ app, R app { app with audioInput := some false }
  audioInputStarted : ∀ app, R app { app with audioInput := app.audioInput.map fun _ => true }
  audioOutput : ∀ app, R app { app with audioOutput := some true }
  connectorStarted : ∀ field app, R app (app.modifyHandler this fun h =>
    h.setConnector ((h.connector field).map fun c => { c with started := true }) field)

namespace Allows

variable {this : Nat}

theorem runMain (h : Allows R this) (ins outs : SocketId) (m : Main C Unit) (callInfo : CallInfo C) :
    Along R (CallHandler.runMain this ins outs m callInfo) :=
  .bind look fun _ => .bind (.talk ins outs _ _) fun _ => .bind (update (h.keepAliveWorker _)) fun _ =>
    .bind (finish _) fun _ => .pure _

theorem runSrtp (h : Allows R this) (ins outs : SocketId)
    (m : Method (Event C) Exn SrtpProtocol.Session Unit) : Along R (CallHandler.runSrtp this ins outs m) :=
  .bind look fun _ => .bind (.talk ins outs _ _) fun _ => .bind (update (h.session _)) fun _ => finish _

theorem getStream (h : Allows R this) : Along R (AudioInput.getStream : Task C Unit) := by
  refine .bind look fun app => ?_
  split
  · exact .throw _
  · exact update h.audioInput

theorem wrapStream (h : Allows R this) : Along R (SrtpProtocol.wrapStream this : Task C Unit) := by
  refine .bind look fun app => ?_
  split
  · exact .throw _
  · exact update h.wrapper

theorem unwrapStream (h : Allows R this) : Along R (SrtpProtocol.unwrapStream this : Task C Unit) := by
  refine .bind look fun app => ?_
  split
  · exact .throw _
  · exact update h.unwrapper

theorem getApplicationInputStream (h : Allows R this) :
    Along R (CallHandler.getApplicationInputStream this : Task C Unit) :=
  .bind h.getStream fun _ => h.wrapStream

theorem getApplicationOutputStream (h : Allows R this) :
    Along R (CallHandler.getApplicationOutputStream this : Task C Unit) :=
  .bind h.unwrapStream fun _ => update h.audioOutput

theorem startSending (h : Allows R this) : Along R (AudioInput.startSending : Task C Unit) := by
  refine .bind look fun app => ?_
  split
  · exact .throw _
  · refine .bind (.access h.audioInputStarted) fun app => ?_
    split
    · exact .throw _
    · exact .throw _
    · exact .pure ()

theorem startConnector (h : Allows R this) (field : CallHandler.ConnectorField) :
    Along R (CallHandler.startConnector this field : Task C Unit) := by
  refine .bind (.access (h.connectorStarted field)) fun app => ?_
  split
  · exact .throw _
  · split
    · exact .throw _
    · exact .pure ()

end Allows

/-! ## The connection -/

structure AllowsConnecting (R : App C → App C → Prop) : Prop where
  socket : ∀ socket app, R app (app.setSocket socket)
  listener : ∀ app, R app { app with listener := ⟨false, false⟩ }
  listenerStartNeeded : ∀ app,
    R app { app with torNetwork := { app.torNetwork with listenerStartNeeded := true } }

namespace AllowsConnecting

theorem assignSocket (h : AllowsConnecting R) (socket : SocketId) :
    Along R (TorNetwork.assignSocket socket : Task C Unit) :=
  .bind (.access (h.socket socket)) fun _ => .pure ()

theorem connectTo (h : AllowsConnecting R) (identity : Option (Identity C)) (socket : SocketId) :
    Along R (CallHandler.connectTo identity socket : Task C Bool) := by
  refine .rescue (.bind ?_ fun _ => .pure true) _
  cases identity with
  | none => exact .throw _
  | some identity =>
    refine .bind (.call _) fun _ => .bind (h.assignSocket socket) fun _ => ?_
    refine .bind (.call _) fun _ => .bind (.call _) fun _ => .bind (update h.listener) fun _ => ?_
    exact update h.listenerStartNeeded

end AllowsConnecting
end Assignments
end OnionPhone
