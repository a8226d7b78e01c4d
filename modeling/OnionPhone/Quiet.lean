import OnionPhone.CallHandler
import OnionPhone.Exceptions

/-!
# OnionPhone.Quiet

The methods that leave the connection, the listener and the status of every call alone.

`view` is that part of the application. A method is `Quiet` if no step of it changes the view, whatever
the world replies, and no `IOException` leaves it; all of a call is quiet except opening the connection,
making the handler and setting its status.
-/

namespace OnionPhone

open Wire Wire.Job

variable {C : Crypto} {α β : Type}

structure View where
  socket : Option SocketId
  listener : ConnectionListener
  statuses : List CallStatus
  callHandler : Option Nat
  deriving DecidableEq, Repr

namespace App

def view (app : App C) : View where
  socket := app.torNetwork.socket
  listener := app.listener
  statuses := app.handlers.map CallHandler.callStatus
  callHandler := app.callHandler

theorem map_modify {γ δ : Type} {g : γ → δ} {f : γ → γ} {k : δ → δ} (h : ∀ x, g (f x) = k (g x))
    (l : List γ) (n : Nat) : (l.modify n f).map g = (l.map g).modify n k := by
  refine List.ext_getElem? ?_
  intro i
  rw [List.getElem?_map, List.getElem?_modify, List.getElem?_modify, List.getElem?_map]
  cases l[i]? with
  | none => rfl
  | some x =>
    by_cases hn : n = i
    · simp [hn, h]
    · simp [hn]

theorem view_modifyHandler {this : Nat} {f : CallHandler → CallHandler} (app : App C)
    (h : ∀ x, (f x).callStatus = x.callStatus) : (app.modifyHandler this f).view = app.view := by
  unfold view modifyHandler
  rw [map_modify (k := id) h, List.modify_id]

theorem view_storeSession (this : Nat) (s : SrtpProtocol.Session) (app : App C) :
    (app.storeSession this s).view = app.view :=
  view_modifyHandler _ fun _ => rfl

end App

/-! ## Quiet methods -/

def Quiet (m : Task C α) : Prop :=
  ∀ app, m.Keeps (fun a => a.view = app.view) (fun _ a => a.view = app.view)
    (fun e a => a.view = app.view ∧ e ≠ .io) app

namespace Quiet

theorem pure (a : α) : Quiet (pure a : Task C α) := fun _ => rfl

theorem throw {e : Exn} (h : e ≠ .io) : Quiet (throw e : Task C α) := fun _ => ⟨rfl, h⟩

theorem bind {m : Task C α} {f : α → Task C β} (hm : Quiet m) (hf : ∀ a, Quiet (f a)) :
    Quiet (m >>= f) := by
  intro app
  refine Keeps.bind (hm app) ?_
  intro a app' h
  rw [← h]
  exact hf a app'

theorem access {w : Access} {f : App C → App C} (h : ∀ app, (f app).view = app.view) :
    Quiet (access w f) := fun app => ⟨h app, h app⟩

theorem look : Quiet (look : Task C (App C)) := access fun _ => rfl

theorem update {f : App C → App C} (h : ∀ app, (f app).view = app.view) : Quiet (update f) :=
  bind (access h) fun _ => pure ()

theorem updateHandler (this : Nat) {f : CallHandler → CallHandler}
    (h : ∀ x, (f x).callStatus = x.callStatus) :
    Quiet (OnionPhone.update (App.modifyHandler this f) : Task C Unit) :=
  update fun app => App.view_modifyHandler app h

theorem call {e : Exn} (h : e ≠ .io) : Quiet (call e : Task C Unit) :=
  fun _ => Keeps.call rfl ⟨rfl, h⟩

/-! ## The methods -/

theorem getStream (msg : String) : Quiet (TorNetwork.getStream msg : Task C SocketId) := by
  refine bind (bind look fun app => ?_) fun _ => bind (access fun _ => rfl) fun app => ?_
  · split
    · exact throw (by simp)
    · exact pure ()
  · split
    · exact throw (by simp)
    · exact bind (call (by simp)) fun _ => pure _

theorem finish {r : Except Exn α} (h : ∀ e, r = .error e → e ≠ .io) :
    Quiet (finish r : Task C α) := by
  cases r with
  | ok a => exact pure a
  | error e => exact throw (h e rfl)

theorem talk_bind {τ : Type} {ins outs : SocketId} {label : Event C → Access}
    {p : Proc (Event C) (Except Exn Unit × τ)} {f : Except Exn Unit × τ → Task C β}
    (hp : p.Returns fun r => ∀ e, r.1 = .error e → e.ofHandshake = true)
    (hf : ∀ r, (∀ e, r.1 = .error e → e ≠ .io) → Quiet (f r)) :
    Quiet (talk ins outs label p >>= f) := by
  intro app
  refine Keeps.bind (Keeps.talk rfl (Q := fun r a => a.view = app.view ∧
    ∀ e, r.1 = .error e → e.ofHandshake = true) (hp.mono fun r hr => ⟨rfl, hr⟩)) ?_
  intro r app' hr
  rw [← hr.1]
  refine hf r (fun e he => ?_) app'
  rintro rfl
  cases hr.2 _ he

theorem runMain (this : Nat) (ins outs : SocketId) {m : Main C Unit} (hm : Tame m)
    (callInfo : CallInfo C) : Quiet (CallHandler.runMain this ins outs m callInfo) := by
  refine bind look fun app => talk_bind (hm _) fun r hr => ?_
  refine bind (updateHandler this fun _ => rfl) fun _ => ?_
  exact bind (finish hr) fun _ => pure _

theorem runSrtp (this : Nat) (ins outs : SocketId)
    {m : Method (Event C) Exn SrtpProtocol.Session Unit} (hm : Tame m) :
    Quiet (CallHandler.runSrtp this ins outs m) := by
  refine bind look fun app => talk_bind (hm _) fun r hr => ?_
  exact bind (update fun app => App.view_storeSession this r.2 app) fun _ => finish hr

theorem getApplicationInputStream (this : Nat) :
    Quiet (CallHandler.getApplicationInputStream this : Task C Unit) := by
  refine bind (bind look fun app => ?_) fun _ => bind look fun app => ?_
  · split
    · exact throw (by simp)
    · exact update fun _ => rfl
  · split
    · exact throw (by simp)
    · exact updateHandler this fun _ => rfl

theorem getApplicationOutputStream (this : Nat) :
    Quiet (CallHandler.getApplicationOutputStream this : Task C Unit) := by
  refine bind (bind look fun app => ?_) fun _ => update fun _ => rfl
  split
  · exact throw (by simp)
  · exact updateHandler this fun _ => rfl

theorem setConnector_callStatus (c : Option Connector) (field : CallHandler.ConnectorField)
    (h : CallHandler) : (CallHandler.setConnector c field h).callStatus = h.callStatus := by
  cases field <;> rfl

theorem newConnector (this : Nat) (field : CallHandler.ConnectorField) (network : SocketId) :
    Quiet (CallHandler.newConnector this field network : Task C Unit) :=
  bind (access fun app => App.view_modifyHandler app (setConnector_callStatus _ field)) fun _ =>
    pure ()

theorem startConnector (this : Nat) (field : CallHandler.ConnectorField) :
    Quiet (CallHandler.startConnector this field : Task C Unit) := by
  refine bind (access fun app => App.view_modifyHandler app
    fun h => setConnector_callStatus _ field h) fun app => ?_
  split
  · exact throw (by simp)
  · split
    · exact throw (by simp)
    · exact pure ()

theorem startSending : Quiet (AudioInput.startSending : Task C Unit) := by
  refine bind look fun app => ?_
  split
  · exact throw (by simp)
  · refine bind (access fun _ => rfl) fun app => ?_
    split
    · exact throw (by simp)
    · exact throw (by simp)
    · exact pure ()

end Quiet

/-! ## Methods that set a status -/

def View.withStatus (v : View) (this : Nat) (status : CallStatus) : View :=
  { v with statuses := v.statuses.modify this fun _ => status }

theorem App.view_setStatus (app : App C) (this : Nat) (status : CallStatus) :
    (app.modifyHandler this fun h => { h with callStatus := status }).view =
      app.view.withStatus this status := by
  have h := map_modify (g := CallHandler.callStatus) (f := fun h => { h with callStatus := status })
    (k := fun _ => status) (fun _ => rfl) app.handlers this
  unfold view View.withStatus modifyHandler
  rw [h]

/-- The view is `v` until it is `w`: `w` after a normal return, `v` after an exception, and no other at
any step. -/
def Reaches (m : Task C α) (v w : View) : Prop :=
  ∀ app, app.view = v → m.Keeps (fun a => a.view = v ∨ a.view = w) (fun _ a => a.view = w)
    (fun e a => a.view = v ∧ e ≠ .io) app

namespace Reaches

variable {v w : View}

theorem of_quiet {m : Task C α} {f : α → Task C β} (hm : Quiet m) (hf : ∀ a, Reaches (f a) v w) :
    Reaches (m >>= f) v w := by
  intro app happ
  subst happ
  refine Keeps.bind (Thread.Keeps.mono (hm app) (fun _ h => .inl h) ?_) fun a app' h => hf a app' h
  intro r a h
  cases r with
  | ok x => exact h
  | error e => exact h

theorem setStatus (this : Nat) (status : CallStatus) :
    Reaches (CallHandler.setStatus this status : Task C Unit) v (v.withStatus this status) := by
  intro app happ
  subst happ
  have h := app.view_setStatus this status
  exact ⟨.inr h, h⟩

theorem connectMedia (this : Nat) (ins outs : SocketId) :
    Reaches (CallHandler.connectMedia this ins outs : Task C Unit) v
      (v.withStatus this .ongoing) := by
  refine of_quiet (.getApplicationInputStream this) fun _ => ?_
  refine of_quiet (.getApplicationOutputStream this) fun _ => ?_
  refine of_quiet (.newConnector this _ outs) fun _ => ?_
  refine of_quiet (.newConnector this _ ins) fun _ => ?_
  refine of_quiet .startSending fun _ => ?_
  refine of_quiet (.startConnector this _) fun _ => ?_
  exact of_quiet (.startConnector this _) fun _ => setStatus this .ongoing

theorem acceptCall (p : SetUp.Party C) (this : Nat) (callInfo : CallInfo C) :
    Reaches (CallHandler.acceptCall p this callInfo) v (v.withStatus this .ongoing) := by
  refine of_quiet (.bind .look fun app => ?_) fun _ => ?_
  · split
    · exact .throw (by simp)
    · exact .pure ()
  refine of_quiet (.getStream _) fun ins => of_quiet (.getStream _) fun outs => ?_
  refine of_quiet (.runMain this ins outs (.acceptCall _ _) callInfo) fun callInfo => ?_
  refine of_quiet (.runSrtp this ins outs (.srtpIncoming _ _ _ _ _)) fun _ => ?_
  exact connectMedia this ins outs

end Reaches
end OnionPhone
