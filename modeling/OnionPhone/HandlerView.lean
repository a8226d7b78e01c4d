import OnionPhone.Assignments
import OnionPhone.HandlerState

/-!
# OnionPhone.HandlerView

The handler of `HandlerState`, whose collaborators may do anything, and that of `CallHandler`, whose
collaborators are the ones there are: every run of a method of the second, alone on its thread, is a run of
the first with some outcomes of the calls.

* `Aside`: a method of a collaborator leaves the status and the connectors of the handler alone.
* `acceptCall_simulated`, `startCall_simulated`, `endCall_simulated`, `handleIncomingCall_simulated`.
-/

namespace OnionPhone
namespace HandlerView

open Wire Wire.Job SetUp HandlerState

variable {C : Crypto} {α : Type}

/-! ## The collaborators -/

/-- The status of a handler is as before, and so is whether it has its connectors; the same handler is in
use. -/
structure Unmoved (this : Nat) (app app' : App C) : Prop where
  length : app'.handlers.length = app.handlers.length
  callHandler : app'.callHandler = app.callHandler
  callStatus : (app'.handler this).callStatus = (app.handler this).callStatus
  applicationToNetwork : (app'.handler this).applicationToNetworkConnector.isSome =
    (app.handler this).applicationToNetworkConnector.isSome
  networkToApplication : (app'.handler this).networkToApplicationConnector.isSome =
    (app.handler this).networkToApplicationConnector.isSome

instance (this : Nat) : Std.Refl (Unmoved this : App C → App C → Prop) where
  refl _ := ⟨rfl, rfl, rfl, rfl, rfl⟩

instance (this : Nat) : IsTrans (App C) (Unmoved this) where
  trans _ _ _ h h' :=
    ⟨h'.length.trans h.length, h'.callHandler.trans h.callHandler, h'.callStatus.trans h.callStatus,
      h'.applicationToNetwork.trans h.applicationToNetwork,
      h'.networkToApplication.trans h.networkToApplication⟩

theorem handler_modify {this : Nat} {app : App C} (hlt : this < app.handlers.length)
    (f : CallHandler → CallHandler) : (app.modifyHandler this f).handler this = f (app.handler this) := by
  simp [App.handler, App.modifyHandler, List.getD_eq_getElem?_getD, hlt]

theorem unmoved_modify (this : Nat) {f : CallHandler → CallHandler}
    (hs : ∀ h, (f h).callStatus = h.callStatus)
    (ha : ∀ h, (f h).applicationToNetworkConnector.isSome = h.applicationToNetworkConnector.isSome)
    (hn : ∀ h, (f h).networkToApplicationConnector.isSome = h.networkToApplicationConnector.isSome)
    (app : App C) :
    Unmoved this app (app.modifyHandler this f) := by
  have hlen : (app.modifyHandler this f).handlers.length = app.handlers.length := by
    simp [App.modifyHandler]
  by_cases hlt : this < app.handlers.length
  · exact ⟨hlen, rfl, by rw [handler_modify hlt, hs], by rw [handler_modify hlt, ha],
      by rw [handler_modify hlt, hn]⟩
  · have hsame : (app.modifyHandler this f).handler this = app.handler this := by
      simp [App.handler, App.modifyHandler, List.getD_eq_getElem?_getD,
        List.getElem?_eq_none (Nat.le_of_not_lt hlt)]
    exact ⟨hlen, rfl, by rw [hsame], by rw [hsame], by rw [hsame]⟩

abbrev Aside (this : Nat) (m : Task C α) : Prop := Along (Unmoved this) m

theorem allows (this : Nat) : Assignments.Allows (Unmoved this : App C → App C → Prop) this where
  keepAliveWorker _ := unmoved_modify this (fun _ => rfl) (fun _ => rfl) fun _ => rfl
  session s app := by
    have h := unmoved_modify this (f := fun h => { h with
      packetSizeInBytes := s.packetSizeInBytes, payloadSizeInBytes := s.payloadSizeInBytes,
      srtpInitialized := s.srtpInitialized }) (fun _ => rfl) (fun _ => rfl) (fun _ => rfl)
      { app with native := s.native }
    exact ⟨h.length, h.callHandler, h.callStatus, h.applicationToNetwork, h.networkToApplication⟩
  wrapper := unmoved_modify this (fun _ => rfl) (fun _ => rfl) fun _ => rfl
  unwrapper := unmoved_modify this (fun _ => rfl) (fun _ => rfl) fun _ => rfl
  audioInput _ := ⟨rfl, rfl, rfl, rfl, rfl⟩
  audioInputStarted _ := ⟨rfl, rfl, rfl, rfl, rfl⟩
  audioOutput _ := ⟨rfl, rfl, rfl, rfl, rfl⟩
  connectorStarted field := by
    refine unmoved_modify this ?_ ?_ ?_
    · intro h
      cases field <;> rfl
    · intro h
      cases field <;> simp [CallHandler.setConnector, CallHandler.connector]
    · intro h
      cases field <;> simp [CallHandler.setConnector, CallHandler.connector]

theorem allowsConnecting (this : Nat) : Assignments.AllowsConnecting (Unmoved this : App C → App C → Prop) where
  socket _ _ := ⟨rfl, rfl, rfl, rfl, rfl⟩
  listener _ := ⟨rfl, rfl, rfl, rfl, rfl⟩
  listenerStartNeeded _ := ⟨rfl, rfl, rfl, rfl, rfl⟩

/-! ## The fields -/

/-- The fields of the handler `this` in the application are those of the other model. -/
structure Views (this : Nat) (app : App C) (f : Fields) : Prop where
  made : this < app.handlers.length
  callStatus : f.callStatus = (app.handler this).callStatus
  applicationToNetwork : f.applicationToNetworkConnector.isSome =
    (app.handler this).applicationToNetworkConnector.isSome
  networkToApplication : f.networkToApplicationConnector.isSome =
    (app.handler this).networkToApplicationConnector.isSome

theorem none_iff {β γ : Type} {a : Option β} {b : Option γ} (h : a.isSome = b.isSome) : a = none ↔ b = none := by
  rw [← Option.not_isSome_iff_eq_none, ← Option.not_isSome_iff_eq_none, h]

theorem Views.unmoved {this : Nat} {app app' : App C} {f : Fields} (h : Views this app f)
    (hu : Unmoved this app app') : Views this app' f where
  made := hu.length ▸ h.made
  callStatus := h.callStatus.trans hu.callStatus.symm
  applicationToNetwork := h.applicationToNetwork.trans hu.applicationToNetwork.symm
  networkToApplication := h.networkToApplication.trans hu.networkToApplication.symm

theorem Views.modify {this : Nat} {app : App C} {f f' : Fields} (h : Views this app f)
    {g : CallHandler → CallHandler} (hs : f'.callStatus = (g (app.handler this)).callStatus)
    (ha : f'.applicationToNetworkConnector.isSome = (g (app.handler this)).applicationToNetworkConnector.isSome)
    (hn : f'.networkToApplicationConnector.isSome = (g (app.handler this)).networkToApplicationConnector.isSome) :
    Views this (app.modifyHandler this g) f' where
  made := by simpa [App.modifyHandler] using h.made
  callStatus := by rw [handler_modify h.made]; exact hs
  applicationToNetwork := by rw [handler_modify h.made]; exact ha
  networkToApplication := by rw [handler_modify h.made]; exact hn

def Simulates (this : Nat) (res : EStateM.Result Exn Fields Unit) (r : Except Exn Unit) (app : App C) : Prop :=
  match res, r with
  | .ok _ f, .ok _ => Views this app f
  | .error e f, .error e' => e = e' ∧ Views this app f
  | _, _ => False

theorem aside_cases {this : Nat} {m : Task C α} {k : α → Task C Unit} (hm : Aside this m) {app app' : App C}
    {f : Fields} {r : Except Exn Unit} {rs rs' : List Reply} (hv : Views this app f)
    (h : (m >>= k).play app rs = some (r, app', rs')) :
    (∃ e, r = .error e ∧ Views this app' f) ∨
    ∃ a app₁ rs₁, (k a).play app₁ rs₁ = some (r, app', rs') ∧ Views this app₁ f ∧
      app₁.callHandler = app.callHandler := by
  obtain ⟨a, app₁, rs₁, hok, hk⟩ | ⟨e, he, hr⟩ := play_bind_cases h
  · have hu := hm.play hok
    exact .inr ⟨a, app₁, rs₁, hk, hv.unmoved hu, hu.callHandler⟩
  · exact .inl ⟨e, hr, hv.unmoved (hm.play he)⟩

theorem check_play {P : App C → Prop} [DecidablePred P] {e : Exn} {k : Unit → Task C Unit} {app : App C}
    {rs : List Reply} :
    ((do let app ← look; if P app then throw e else pure () : Task C Unit) >>= k).play app rs =
      if P app then some (.error e, app, rs) else (k ()).play app rs := by
  by_cases h : P app
  · rw [if_pos h]
    refine play_bind_error ?_
    refine (play_bind_ok (a := app) rfl).trans ?_
    rw [if_pos h]
    rfl
  · rw [if_neg h]
    refine play_bind_ok (a := ()) ?_
    refine (play_bind_ok (a := app) rfl).trans ?_
    rw [if_neg h]
    rfl

theorem check_simulated {this : Nat} {P : App C → Prop} [DecidablePred P] {Q : Fields → Prop}
    [DecidablePred Q] {e : Exn} {k : Unit → Task C Unit} {b : Outcomes → Body} {app app' : App C}
    {f : Fields} {r : Except Exn Unit} {rs rs' : List Reply} (hv : Views this app f) (hPQ : P app ↔ Q f)
    (h : ((do let app ← look; if P app then throw e else pure () : Task C Unit) >>= k).play app rs =
      some (r, app', rs'))
    (hk : (k ()).play app rs = some (r, app', rs') → ∃ O, Simulates this (b O f) r app') :
    ∃ O, Simulates this (((do let f ← get; if Q f then throw e : Body) >>= fun _ => b O) f) r app' := by
  rw [check_play] at h
  have hbind : ∀ O, ((do let f ← get; if Q f then throw e : Body) >>= fun _ => b O) f =
      if Q f then .error e f else b O f := by
    intro O
    have hcheck := check_eq (P := Q) e f
    by_cases hQ : Q f
    · rw [if_pos hQ] at hcheck ⊢
      exact bind_error hcheck
    · rw [if_neg hQ] at hcheck ⊢
      exact bind_ok hcheck
  by_cases hP : P app
  · rw [if_pos hP] at h
    cases h
    refine ⟨fun _ => none, ?_⟩
    rw [hbind, if_pos (hPQ.1 hP)]
    exact ⟨rfl, hv⟩
  · rw [if_neg hP] at h
    obtain ⟨O, hO⟩ := hk h
    refine ⟨O, ?_⟩
    rw [hbind, if_neg fun hQ => hP (hPQ.2 hQ)]
    exact hO

/-! ## The methods -/

section Media

variable {this : Nat} {ins outs : SocketId} {app app' : App C} {f : Fields} {r : Except Exn Unit}
  {rs rs' : List Reply}

theorem connectors_simulated (hv : Views this app f)
    (h : (do
      CallHandler.newConnector this .applicationToNetwork outs
      CallHandler.newConnector this .networkToApplication ins
      AudioInput.startSending
      CallHandler.startConnector this .applicationToNetwork
      CallHandler.startConnector this .networkToApplication
      CallHandler.setStatus this .ongoing : Task C Unit).play app rs = some (r, app', rs')) :
    ∃ O, Simulates this (HandlerState.connectMedia O f) r app' ∧ early O = false ∧ O .connectTo = none := by
  have hv₁ : Views this (app.modifyHandler this
      (CallHandler.setConnector (some { network := outs }) .applicationToNetwork))
      { f with applicationToNetworkConnector := some f.made } :=
    hv.modify hv.callStatus rfl hv.networkToApplication
  have hv₂ : Views this ((app.modifyHandler this
      (CallHandler.setConnector (some { network := outs }) .applicationToNetwork)).modifyHandler this
      (CallHandler.setConnector (some { network := ins }) .networkToApplication)) (withConnectors f) :=
    hv₁.modify hv₁.callStatus hv₁.applicationToNetwork rfl
  obtain ⟨e, rfl, hv'⟩ | ⟨-, app₁, rs₁, h₁, hv₁', -⟩ := aside_cases (allows this).startSending hv₂ h
  · exact ⟨failing .startSending e, ⟨rfl, hv'⟩, rfl, rfl⟩
  obtain ⟨e, rfl, hv'⟩ | ⟨-, app₂, rs₂, h₂, hv₂', -⟩ := aside_cases ((allows this).startConnector _) hv₁' h₁
  · exact ⟨failing .startApplicationToNetwork e, ⟨rfl, hv'⟩, rfl, rfl⟩
  obtain ⟨e, rfl, hv'⟩ | ⟨-, app₃, rs₃, h₃, hv₃', -⟩ := aside_cases ((allows this).startConnector _) hv₂' h₂
  · exact ⟨failing .startNetworkToApplication e, ⟨rfl, hv'⟩, rfl, rfl⟩
  cases h₃
  refine ⟨fun _ => none, ?_, rfl, rfl⟩
  exact hv₃'.modify rfl hv₃'.applicationToNetwork hv₃'.networkToApplication

theorem media_simulated {main : SocketId → SocketId → Task C (CallInfo C)}
    {srtp : SocketId → SocketId → CallInfo C → Task C Unit} (hmain : ∀ i o, Aside this (main i o))
    (hsrtp : ∀ i o callInfo, Aside this (srtp i o callInfo)) (hv : Views this app f)
    (h : (do
      let ins ← TorNetwork.getInputStream
      let outs ← TorNetwork.getOutputStream
      let callInfo ← main ins outs
      srtp ins outs callInfo
      CallHandler.connectMedia this ins outs : Task C Unit).play app rs = some (r, app', rs')) :
    ∃ O, Simulates this ((do prepare O; HandlerState.connectMedia O : Body) f) r app' ∧ O .connectTo = none := by
  obtain ⟨e, rfl, hv'⟩ | ⟨ins, app₁, rs₁, h₁, hv₁, -⟩ := aside_cases (Assignments.getStream _) hv h
  · exact ⟨failing .getInputStream e, ⟨rfl, hv'⟩, rfl⟩
  obtain ⟨e, rfl, hv'⟩ | ⟨outs, app₂, rs₂, h₂, hv₂, -⟩ := aside_cases (Assignments.getStream _) hv₁ h₁
  · exact ⟨failing .getOutputStream e, ⟨rfl, hv'⟩, rfl⟩
  obtain ⟨e, rfl, hv'⟩ | ⟨callInfo, app₃, rs₃, h₃, hv₃, -⟩ := aside_cases (hmain ins outs) hv₂ h₂
  · exact ⟨failing .session e, ⟨rfl, hv'⟩, rfl⟩
  obtain ⟨e, rfl, hv'⟩ | ⟨-, app₄, rs₄, h₄, hv₄, -⟩ := aside_cases (hsrtp ins outs callInfo) hv₃ h₃
  · exact ⟨failing .srtpSession e, ⟨rfl, hv'⟩, rfl⟩
  obtain ⟨e, rfl, hv'⟩ | ⟨-, app₅, rs₅, h₅, hv₅, -⟩ := aside_cases (allows this).getApplicationInputStream hv₄ h₄
  · exact ⟨failing .wrapStream e, ⟨rfl, hv'⟩, rfl⟩
  obtain ⟨e, rfl, hv'⟩ | ⟨-, app₆, rs₆, h₆, hv₆, -⟩ := aside_cases (allows this).getApplicationOutputStream hv₅ h₅
  · exact ⟨failing .unwrapStream e, ⟨rfl, hv'⟩, rfl⟩
  obtain ⟨O, hsim, hearly, hconn⟩ := connectors_simulated hv₆ h₆
  refine ⟨O, ?_, hconn⟩
  obtain ⟨hb, -⟩ | ⟨-, hk⟩ := (guards_prepare O).andThen (HandlerState.connectMedia O) f
  · cases hearly.symm.trans hb
  · rw [hk]
    exact hsim

theorem acceptCall_simulated {p : Party C} {callInfo : CallInfo C} (hv : Views this app f)
    (h : (CallHandler.acceptCall p this callInfo).play app rs = some (r, app', rs')) :
    ∃ O, Simulates this (HandlerState.acceptCall O f) r app' := by
  have hstatus : (app.handler this).callStatus ≠ .initialized ↔ f.callStatus ≠ .initialized := by
    rw [hv.callStatus]
  refine check_simulated hv hstatus h ?_
  intro hk
  obtain ⟨O, hO, -⟩ := media_simulated (fun i o => (allows this).runMain i o _ callInfo)
    (fun i o callInfo => (allows this).runSrtp i o _) hv hk
  exact ⟨O, hO⟩

/-- What `connectTo` raises is no `ConnectionException`. -/
theorem connectTo_error {identity : Option (Identity C)} {socket : SocketId} {e : Exn}
    (h : (CallHandler.connectTo identity socket).play app rs = some (.error e, app', rs')) (msg : String) :
    e ≠ .connection msg := by
  rintro rfl
  have hb : (CallHandler.connectTo identity socket).play app rs = _ := Thread.play_bind _ _ app rs
  rw [hb] at h
  obtain ⟨⟨r₁, app₁, rs₁⟩, -, hk⟩ := Option.bind_eq_some_iff.1 h
  cases r₁ with
  | ok b => cases hk
  | error e => cases e <;> cases hk

theorem startCall_simulated {fuel : Nat} {p : Party C} {socket : SocketId} {callInfo : CallInfo C}
    (hv : Views this app f)
    (h : (CallHandler.startCall fuel p socket this callInfo).play app rs = some (r, app', rs')) :
    ∃ O, Simulates this (HandlerState.startCall O f) r app' := by
  refine check_simulated hv ?_ h ?_
  · rw [hv.callStatus, ne_eq f.applicationToNetworkConnector, ne_eq f.networkToApplicationConnector,
      none_iff hv.applicationToNetwork, none_iff hv.networkToApplication]
  intro hk
  obtain ⟨connected, app₁, rs₁, hok, hk⟩ | ⟨e, he, rfl⟩ := play_bind_cases hk
  · have hv₁ := hv.unmoved (((allowsConnecting this).connectTo _ _).play hok)
    cases connected with
    | false =>
      cases hk
      exact ⟨failing .connectTo (.connection ""), hv₁⟩
    | true =>
      obtain ⟨O, hO, hconn⟩ := media_simulated (fun i o => (allows this).runMain i o _ callInfo)
        (fun i o callInfo => (allows this).runSrtp i o _) hv₁ hk
      refine ⟨O, ?_⟩
      have hc : connectTo O f = .ok true f := by
        rw [connectTo, hconn]
        rfl
      rw [bind_ok hc]
      exact hO
  · have hv' := hv.unmoved (((allowsConnecting this).connectTo _ _).play he)
    have hne := connectTo_error he
    have hc : connectTo (failing .connectTo e) f = .error e f := by
      cases e with
      | connection msg => exact absurd rfl (hne msg)
      | _ => rfl
    refine ⟨failing .connectTo e, ?_⟩
    rw [bind_error hc]
    exact ⟨rfl, hv'⟩

theorem endCall_simulated (hv : Views this app f)
    (h : (CallHandler.endCall this).play app rs = some (r, app', rs')) :
    ∃ O, Simulates this (HandlerState.endCall O f) r app' := by
  refine check_simulated hv ?_ h ?_
  · rw [hv.callStatus, none_iff hv.applicationToNetwork, none_iff hv.networkToApplication]
  intro hk
  obtain ⟨e, rfl, hv'⟩ | ⟨-, app₁, rs₁, h₁, hv₁, -⟩ := aside_cases (Assignments.stopConnector this _) hv hk
  · exact ⟨failing .stopApplicationToNetwork e, rfl, hv'⟩
  obtain ⟨e, rfl, hv'⟩ | ⟨-, app₂, rs₂, h₂, hv₂, -⟩ := aside_cases (Assignments.stopConnector this _) hv₁ h₁
  · exact ⟨failing .stopNetworkToApplication e, rfl, hv'⟩
  cases h₂
  refine ⟨fun _ => none, ?_⟩
  have hv₃ : Views this (app₂.modifyHandler this (CallHandler.setConnector none .applicationToNetwork))
      { f with applicationToNetworkConnector := none } :=
    hv₂.modify hv₂.callStatus rfl hv₂.networkToApplication
  have hv₄ : Views this ((app₂.modifyHandler this
      (CallHandler.setConnector none .applicationToNetwork)).modifyHandler this
      (CallHandler.setConnector none .networkToApplication))
      { f with applicationToNetworkConnector := none, networkToApplicationConnector := none } :=
    hv₃.modify hv₃.callStatus hv₃.applicationToNetwork rfl
  exact hv₄.modify rfl hv₄.applicationToNetwork hv₄.networkToApplication

theorem callHandler_play (h : app.callHandler = some this) :
    ProtocolManagement.callHandler.play app rs = some (.ok this, app, rs) := by
  refine (play_bind_ok (a := app) rfl).trans ?_
  rw [h]
  rfl

/-- The application when the user is asked. -/
def ringing (this : Nat) (callInfo : CallInfo C) (app : App C) : App C :=
  { app.modifyHandler this fun h => { h with callStatus := .initialized } with callInfo := some callInfo }

/-- `handleIncomingCall` of the handler that is in use, so that the user interface accepts the call on it. -/
theorem handleIncomingCall_simulated {p : Party C} (hv : Views this app f) (hthis : app.callHandler = some this)
    (h : (CallHandler.handleIncomingCall p this).play app rs = some (r, app', rs')) :
    ∃ O ui, Simulates this (HandlerState.handleIncomingCall O ui f) r app' := by
  obtain ⟨e, rfl, hv'⟩ | ⟨ins, app₁, rs₁, h₁, hv₁, hc₁⟩ := aside_cases (Assignments.getStream _) hv h
  · exact ⟨failing .getInputStream e, .returns, rfl, hv'⟩
  obtain ⟨e, rfl, hv'⟩ | ⟨outs, app₂, rs₂, h₂, hv₂, hc₂⟩ := aside_cases (Assignments.getStream _) hv₁ h₁
  · exact ⟨failing .getOutputStream e, .returns, rfl, hv'⟩
  obtain ⟨e, rfl, hv'⟩ | ⟨callInfo, app₃, rs₃, h₃, hv₃, hc₃⟩ :=
    aside_cases ((allows this).runMain ins outs _ {}) hv₂ h₂
  · exact ⟨failing .session e, .returns, rfl, hv'⟩
  have hv₄ : Views this (app₃.modifyHandler this fun h => { h with callStatus := .initialized })
      { f with callStatus := .initialized } :=
    hv₃.modify rfl hv₃.applicationToNetwork hv₃.networkToApplication
  have hv₅ : Views this (ringing this callInfo app₃) { f with callStatus := .initialized } :=
    hv₄.unmoved ⟨rfl, rfl, rfl, rfl, rfl⟩
  have hcurrent : (ringing this callInfo app₃).callHandler = some this := hc₃.trans (hc₂.trans (hc₁.trans hthis))
  have hk : (CallHandler.acceptCall p this callInfo).play (ringing this callInfo app₃) rs₃ = some (r, app', rs') :=
    (play_bind_ok (callHandler_play hcurrent)).symm.trans h₃
  obtain ⟨O, hO⟩ := acceptCall_simulated hv₅ hk
  refine ⟨fun _ => none, .accepts O none, ?_⟩
  have hui : (HandlerState.acceptCall O >>= fun _ => pure () : Body) = HandlerState.acceptCall O :=
    bind_pure_unit
  have hrun : HandlerState.handleIncomingCall (fun _ => none) (.accepts O none) f =
      (HandlerState.acceptCall O >>= fun _ => pure () : Body) { f with callStatus := .initialized } := rfl
  rw [hrun, hui]
  exact hO

end Media

end HandlerView
end OnionPhone
