import OnionPhone.Lib.Machine
import OnionPhone.App

/-!
# OnionPhone.HandlerState

The three fields that say how a `CallHandler` stands: the status and the two connectors. Everything else a
method of the handler does is a call of somebody else, which may raise whatever it likes.

* `startCall`, `handleIncomingCall`, `acceptCall`, `endCall`: the methods, line by line, given what each
  call of a collaborator raises.
* `Consistent`: a call is ongoing just if it has both connectors, and there are two of them or none.
* `consistent_iff`: at every moment of a run the handler is consistent and no method that has raised has
  changed it, just if nothing is raised in the few lines where that is too late and no call comes in while
  another one is ongoing.
-/

namespace OnionPhone
namespace HandlerState

open Wire

/-- The fields of `CallHandler`; the connectors that were ever made have numbers. -/
structure Fields where
  callStatus : CallStatus := .noCall
  applicationToNetworkConnector : Option Nat := none
  networkToApplicationConnector : Option Nat := none
  made : Nat := 0
  deriving DecidableEq, Repr

inductive Callee where
  | connectTo
  | getInputStream
  | getOutputStream
  -- `initiateOutgoingSession`, `initiateIncomingSession` or `acceptCall` of `TheOnionPhoneProtocol`
  | session
  | getCodec
  -- `initiateOutgoingSession` or `initiateIncomingSession` of `SrtpProtocol`
  | srtpSession
  | getStream
  | wrapStream
  | newPipedInputStream
  | unwrapStream
  | playStream
  | startSending
  | startApplicationToNetwork
  | startNetworkToApplication
  | handleIncomingCall
  | stopApplicationToNetwork
  | stopNetworkToApplication
  deriving DecidableEq, Repr

abbrev Outcomes := Callee → Option Exn

abbrev Body := EStateM Exn Fields Unit

def call (O : Outcomes) (c : Callee) : Body :=
  match O c with
  | none => pure ()
  | some e => throw e

/-! ## The methods -/

def assertNoCall : Body := do
  let f ← get
  if f.callStatus ≠ .noCall ∨ f.applicationToNetworkConnector ≠ none ∨
      f.networkToApplicationConnector ≠ none then
    throw (.call "Cannot start a call. There is already an ongoing call")

def assertCallIsInitialized : Body := do
  let f ← get
  if f.callStatus ≠ .initialized then
    throw (.call "no call was initialized")

def assertCallIsOngoing : Body := do
  let f ← get
  if f.callStatus ≠ .ongoing ∨ f.applicationToNetworkConnector = none ∨
      f.networkToApplicationConnector = none then
    throw (.call "There is no ongoing call to end")

/-- A `ConnectionException` is caught and becomes `false`. -/
def connectTo (O : Outcomes) : EStateM Exn Fields Bool :=
  match O .connectTo with
  | none => pure true
  | some (.connection _) => pure false
  | some e => throw e

def getApplicationInputStream (O : Outcomes) : Body := do
  call O .getStream
  call O .wrapStream

/-- An `IOException` of the pipe becomes a `CallException`. -/
def newPipedInputStream (O : Outcomes) : Body :=
  match O .newPipedInputStream with
  | none => pure ()
  | some _ => throw (.call "Could not get application output stream")

def getApplicationOutputStream (O : Outcomes) : Body := do
  newPipedInputStream O
  call O .unwrapStream
  call O .playStream

/-- `startCall` and `acceptCall`, up to the connectors. -/
def prepare (O : Outcomes) : Body := do
  call O .getInputStream
  call O .getOutputStream
  call O .session
  call O .getCodec
  call O .srtpSession
  getApplicationInputStream O
  getApplicationOutputStream O

def withConnectors (f : Fields) : Fields :=
  { f with
    applicationToNetworkConnector := some f.made
    networkToApplicationConnector := some (f.made + 1)
    made := f.made + 2 }

def connectMedia (O : Outcomes) : Body := do
  modify withConnectors
  call O .startSending
  call O .startApplicationToNetwork
  call O .startNetworkToApplication
  modify fun f => { f with callStatus := .ongoing }

def startCall (O : Outcomes) : Body := do
  assertNoCall
  if ← connectTo O then
    prepare O
    connectMedia O

def acceptCall (O : Outcomes) : Body := do
  assertCallIsInitialized
  prepare O
  connectMedia O

/-- What `userInterface.acceptCall` does: the one there is calls `acceptCall` of the handler. -/
inductive UserInterface where
  | returns
  | raises (e : Exn)
  | accepts (O : Outcomes) (after : Option Exn)

def raiseIfAny : Option Exn → Body
  | none => pure ()
  | some e => throw e

def UserInterface.acceptCall : UserInterface → Body
  | .returns => pure ()
  | .raises e => throw e
  | .accepts O after => do
    HandlerState.acceptCall O
    raiseIfAny after

def handleIncomingCall (O : Outcomes) (ui : UserInterface) : Body := do
  call O .getInputStream
  call O .getOutputStream
  call O .session
  modify fun f => { f with callStatus := .initialized }
  call O .handleIncomingCall
  ui.acceptCall

def endCall (O : Outcomes) : Body := do
  assertCallIsOngoing
  call O .stopApplicationToNetwork
  call O .stopNetworkToApplication
  modify fun f => { f with applicationToNetworkConnector := none }
  modify fun f => { f with networkToApplicationConnector := none }
  modify fun f => { f with callStatus := .noCall }

inductive Op where
  | startCall (O : Outcomes)
  | handleIncomingCall (O : Outcomes) (ui : UserInterface)
  | acceptCall (O : Outcomes)
  | endCall (O : Outcomes)

def Op.body : Op → Body
  | .startCall O => HandlerState.startCall O
  | .handleIncomingCall O ui => HandlerState.handleIncomingCall O ui
  | .acceptCall O => HandlerState.acceptCall O
  | .endCall O => HandlerState.endCall O

/-! ## Runs -/

/-- The fields that a method may have changed are as before. -/
def SameCall (f f' : Fields) : Prop :=
  f'.callStatus = f.callStatus ∧ f'.applicationToNetworkConnector = f.applicationToNetworkConnector ∧
    f'.networkToApplicationConnector = f.networkToApplicationConnector

instance (f f' : Fields) : Decidable (SameCall f f') := inferInstanceAs (Decidable (_ ∧ _ ∧ _))

/-- A handler, and whether every method that has raised so far has left it as it was. -/
structure Handler where
  fields : Fields := {}
  kept : Bool := true

def step (op : Op) (h : Handler) : Option Handler :=
  match op.body h.fields with
  | .ok _ f => some { h with fields := f }
  | .error _ f => some { fields := f, kept := h.kept && decide (SameCall h.fields f) }

structure Consistent (f : Fields) : Prop where
  ongoing : f.callStatus = .ongoing ↔
    f.applicationToNetworkConnector ≠ none ∧ f.networkToApplicationConnector ≠ none
  together : f.applicationToNetworkConnector = none ↔ f.networkToApplicationConnector = none

/-! ## When nothing goes wrong too late -/

/-- Something raises before the connectors are made. -/
def early (O : Outcomes) : Bool :=
  [.getInputStream, .getOutputStream, .session, .getCodec, .srtpSession, .getStream, .wrapStream,
    .newPipedInputStream, .unwrapStream, .playStream].any fun c => (O c).isSome

/-- Something raises after that. -/
def late (O : Outcomes) : Bool :=
  [.startSending, .startApplicationToNetwork, .startNetworkToApplication].any fun c => (O c).isSome

/-- Something raises before the status changes in `handleIncomingCall`. -/
def refused (O : Outcomes) : Bool :=
  [.getInputStream, .getOutputStream, .session].any fun c => (O c).isSome

def careful (h : Handler) : Op → Bool
  | .startCall O => h.fields.callStatus != .noCall || (O .connectTo).isSome || early O || !late O
  | .acceptCall O => h.fields.callStatus != .initialized || early O || !late O
  | .endCall _ => true
  | .handleIncomingCall O ui =>
    refused O ||
      if (O .handleIncomingCall).isSome then h.fields.callStatus == .initialized
      else
        match ui with
        | .returns => h.fields.callStatus != .ongoing
        | .raises _ => h.fields.callStatus == .initialized
        | .accepts O after =>
          if early O then h.fields.callStatus == .initialized else !late O && after.isNone

/-! ## What the methods do -/

section Bind

variable {α : Type} {m : EStateM Exn Fields α} {k : α → Body} {f f' : Fields}

theorem bind_ok {a : α} (h : m f = .ok a f') : (m >>= k) f = k a f' := by
  simp only [bind, EStateM.bind, h]

theorem bind_error {e : Exn} (h : m f = .error e f') : (m >>= k) f = .error e f' := by
  simp only [bind, EStateM.bind, h]

end Bind

def Guards (b : Fields → Bool) (m : Body) : Prop :=
  ∀ f, (b f = true ∧ ∃ e, m f = .error e f) ∨ (b f = false ∧ m f = .ok () f)

theorem check_eq {P : Fields → Prop} [DecidablePred P] (e : Exn) (f : Fields) :
    (do let f ← get; if P f then throw e : Body) f = if P f then .error e f else .ok () f := by
  by_cases h : P f
  · simp only [bind, EStateM.bind, get, getThe, MonadStateOf.get, EStateM.get, if_pos h]
    rfl
  · simp only [bind, EStateM.bind, get, getThe, MonadStateOf.get, EStateM.get, if_neg h]
    rfl

namespace Guards

variable {b b' : Fields → Bool} {m m' : Body}

theorem call (O : Outcomes) (c : Callee) : Guards (fun _ => (O c).isSome) (call O c) := by
  intro f
  unfold HandlerState.call
  cases O c with
  | none => exact .inr ⟨rfl, rfl⟩
  | some e => exact .inl ⟨rfl, e, rfl⟩

theorem andThen (h : Guards b m) (k : Body) (f : Fields) :
    (b f = true ∧ ∃ e, (m >>= fun _ => k) f = .error e f) ∨ (b f = false ∧ (m >>= fun _ => k) f = k f) := by
  obtain ⟨hb, e, he⟩ | ⟨hb, hok⟩ := h f
  · exact .inl ⟨hb, e, bind_error he⟩
  · exact .inr ⟨hb, bind_ok hok⟩

theorem seq (h : Guards b m) (h' : Guards b' m') : Guards (fun f => b f || b' f) (m >>= fun _ => m') := by
  intro f
  obtain ⟨hb, e, he⟩ | ⟨hb, hok⟩ := h.andThen m' f
  · exact .inl ⟨by simp [hb], e, he⟩
  · rw [hok]
    simp only [hb, Bool.false_or]
    exact h' f

theorem check {P : Fields → Prop} [DecidablePred P] (e : Exn) :
    Guards (fun f => decide (P f)) (do let f ← get; if P f then throw e) := by
  intro f
  rw [check_eq]
  by_cases h : P f
  · exact .inl ⟨decide_eq_true h, e, if_pos h⟩
  · exact .inr ⟨decide_eq_false h, if_neg h⟩

end Guards

theorem guards_prepare (O : Outcomes) : Guards (fun _ => early O) (prepare O) := by
  have hpipe : Guards (fun _ => (O .newPipedInputStream).isSome) (newPipedInputStream O) := by
    intro f
    unfold newPipedInputStream
    cases O .newPipedInputStream with
    | none => exact .inr ⟨rfl, rfl⟩
    | some e => exact .inl ⟨rfl, _, rfl⟩
  have h : Guards _ (prepare O) :=
    (Guards.call O .getInputStream).seq <| (Guards.call O .getOutputStream).seq <|
    (Guards.call O .session).seq <| (Guards.call O .getCodec).seq <| (Guards.call O .srtpSession).seq <|
    ((Guards.call O .getStream).seq (Guards.call O .wrapStream)).seq <|
    hpipe.seq <| (Guards.call O .unwrapStream).seq (Guards.call O .playStream)
  simpa only [early, List.any_cons, List.any_nil, Bool.or_false, Bool.or_assoc] using h

theorem refused_andThen (O : Outcomes) (k : Body) (f : Fields) :
    (refused O = true ∧
      ∃ e, (do call O .getInputStream; call O .getOutputStream; call O .session; k) f = .error e f) ∨
    (refused O = false ∧
      (do call O .getInputStream; call O .getOutputStream; call O .session; k) f = k f) := by
  simp only [refused, List.any_cons, List.any_nil, Bool.or_false, Bool.or_eq_true, Bool.or_eq_false_iff]
  obtain ⟨h₁, e, he⟩ | ⟨h₁, hk₁⟩ := (Guards.call O .getInputStream).andThen
    (do call O .getOutputStream; call O .session; k) f
  · exact .inl ⟨.inl h₁, e, he⟩
  obtain ⟨h₂, e, he⟩ | ⟨h₂, hk₂⟩ := (Guards.call O .getOutputStream).andThen (do call O .session; k) f
  · exact .inl ⟨.inr (.inl h₂), e, hk₁.trans he⟩
  obtain ⟨h₃, e, he⟩ | ⟨h₃, hk₃⟩ := (Guards.call O .session).andThen k f
  · exact .inl ⟨.inr (.inr h₃), e, hk₁.trans (hk₂.trans he)⟩
  · exact .inr ⟨⟨h₁, h₂, h₃⟩, hk₁.trans (hk₂.trans hk₃)⟩

theorem guards_assertCallIsInitialized :
    Guards (fun f => decide (f.callStatus ≠ .initialized)) assertCallIsInitialized := .check _

theorem guards_assertNoCall :
    Guards (fun f => decide (f.callStatus ≠ .noCall ∨ f.applicationToNetworkConnector ≠ none ∨
      f.networkToApplicationConnector ≠ none)) assertNoCall := .check _

theorem guards_assertCallIsOngoing :
    Guards (fun f => decide (f.callStatus ≠ .ongoing ∨ f.applicationToNetworkConnector = none ∨
      f.networkToApplicationConnector = none)) assertCallIsOngoing := .check _

def connected (f : Fields) : Fields := { withConnectors f with callStatus := .ongoing }

theorem connectMedia_cases (O : Outcomes) (f : Fields) :
    (late O = true ∧ ∃ e, connectMedia O f = .error e (withConnectors f)) ∨
    (late O = false ∧ connectMedia O f = .ok () (connected f)) := by
  have h : Guards (fun _ => late O)
      (do call O .startSending; call O .startApplicationToNetwork; call O .startNetworkToApplication) := by
    have h' := (Guards.call O .startSending).seq <| (Guards.call O .startApplicationToNetwork).seq
      (Guards.call O .startNetworkToApplication)
    simpa only [late, List.any_cons, List.any_nil, Bool.or_false] using h'
  have hassoc : connectMedia O f =
      ((do call O .startSending; call O .startApplicationToNetwork; call O .startNetworkToApplication) >>=
        fun _ => (modify fun f : Fields => { f with callStatus := .ongoing } : Body)) (withConnectors f) := by
    simp only [bind_assoc]
    rfl
  rw [hassoc]
  exact h.andThen _ (withConnectors f)

theorem media_cases (O : Outcomes) (f : Fields) :
    (early O = true ∧ ∃ e, (do prepare O; connectMedia O : Body) f = .error e f) ∨
    (early O = false ∧ late O = true ∧
      ∃ e, (do prepare O; connectMedia O : Body) f = .error e (withConnectors f)) ∨
    (early O = false ∧ late O = false ∧ (do prepare O; connectMedia O : Body) f = .ok () (connected f)) := by
  obtain ⟨hb, e, he⟩ | ⟨hb, hk⟩ := (guards_prepare O).andThen (connectMedia O) f
  · exact .inl ⟨hb, e, he⟩
  right
  obtain ⟨hl, e, he⟩ | ⟨hl, hok⟩ := connectMedia_cases O f
  · exact .inl ⟨hb, hl, e, hk.trans he⟩
  · exact .inr ⟨hb, hl, hk.trans hok⟩

theorem acceptCall_cases (O : Outcomes) (f : Fields) :
    ((f.callStatus ≠ .initialized ∨ early O = true) ∧ ∃ e, acceptCall O f = .error e f) ∨
    (f.callStatus = .initialized ∧ early O = false ∧ late O = true ∧
      ∃ e, acceptCall O f = .error e (withConnectors f)) ∨
    (f.callStatus = .initialized ∧ early O = false ∧ late O = false ∧
      acceptCall O f = .ok () (connected f)) := by
  obtain ⟨hb, e, he⟩ | ⟨hb, hk⟩ := guards_assertCallIsInitialized.andThen (do prepare O; connectMedia O) f
  · exact .inl ⟨.inl (of_decide_eq_true hb), e, he⟩
  have hs : f.callStatus = .initialized := by simpa using hb
  obtain ⟨hE, e, he⟩ | ⟨hE, hL, e, he⟩ | ⟨hE, hL, hok⟩ := media_cases O f
  · exact .inl ⟨.inr hE, e, hk.trans he⟩
  · exact .inr (.inl ⟨hs, hE, hL, e, hk.trans he⟩)
  · exact .inr (.inr ⟨hs, hE, hL, hk.trans hok⟩)

theorem accepts_ok {O : Outcomes} {f f' : Fields} (h : acceptCall O f = .ok () f') (after : Option Exn) :
    (UserInterface.accepts O after).acceptCall f = raiseIfAny after f' := bind_ok h

theorem accepts_error {O : Outcomes} {f f' : Fields} {e : Exn} (h : acceptCall O f = .error e f')
    (after : Option Exn) : (UserInterface.accepts O after).acceptCall f = .error e f' := bind_error h

theorem connectTo_cases (O : Outcomes) (f : Fields) :
    ((O .connectTo).isSome ∧ connectTo O f = .ok false f) ∨
    ((O .connectTo).isSome ∧ ∃ e, connectTo O f = .error e f) ∨
    (O .connectTo = none ∧ connectTo O f = .ok true f) := by
  unfold connectTo
  cases O .connectTo with
  | none => exact .inr (.inr ⟨rfl, rfl⟩)
  | some e =>
    cases e with
    | connection msg => exact .inl ⟨rfl, rfl⟩
    | _ => exact .inr (.inl ⟨rfl, _, rfl⟩)

theorem startCall_cases {O : Outcomes} {f : Fields} (hf : Consistent f) :
    ((f.callStatus ≠ .noCall ∨ (O .connectTo).isSome ∨ early O = true) ∧
      (startCall O f = .ok () f ∨ ∃ e, startCall O f = .error e f)) ∨
    (f.callStatus = .noCall ∧ O .connectTo = none ∧ early O = false ∧ late O = true ∧
      ∃ e, startCall O f = .error e (withConnectors f)) ∨
    (f.callStatus = .noCall ∧ O .connectTo = none ∧ early O = false ∧ late O = false ∧
      startCall O f = .ok () (connected f)) := by
  obtain ⟨hb, e, he⟩ | ⟨hb, hk⟩ := guards_assertNoCall.andThen
    (do if ← connectTo O then prepare O; connectMedia O) f
  · left
    refine ⟨.inl fun hs => ?_, .inr ⟨e, he⟩⟩
    -- without a call there are no connectors
    have hn : ¬ (f.applicationToNetworkConnector ≠ none ∧ f.networkToApplicationConnector ≠ none) := by
      rw [← hf.ongoing, hs]
      exact fun h => nomatch h
    have htog := hf.together
    simp only [hs, ne_eq, not_true_eq_false, false_or, decide_eq_true_eq] at hb
    tauto
  have hs : f.callStatus = .noCall := by
    simp only [decide_eq_false_iff_not, not_or, not_not] at hb
    exact hb.1
  obtain ⟨hO, hc⟩ | ⟨hO, e, hc⟩ | ⟨hO, hc⟩ := connectTo_cases O f
  · exact .inl ⟨.inr (.inl hO), .inl (hk.trans (bind_ok hc))⟩
  · exact .inl ⟨.inr (.inl hO), .inr ⟨e, hk.trans (bind_error hc)⟩⟩
  · have hk' : startCall O f = (do prepare O; connectMedia O : Body) f := hk.trans (bind_ok hc)
    obtain ⟨hE, e, he⟩ | ⟨hE, hL, e, he⟩ | ⟨hE, hL, hok⟩ := media_cases O f
    · exact .inl ⟨.inr (.inr hE), .inr ⟨e, hk'.trans he⟩⟩
    · exact .inr (.inl ⟨hs, hO, hE, hL, e, hk'.trans he⟩)
    · exact .inr (.inr ⟨hs, hO, hE, hL, hk'.trans hok⟩)

def ended (f : Fields) : Fields :=
  { f with applicationToNetworkConnector := none, networkToApplicationConnector := none, callStatus := .noCall }

theorem endCall_cases (O : Outcomes) (f : Fields) :
    (∃ e, endCall O f = .error e f) ∨ endCall O f = .ok () (ended f) := by
  obtain ⟨-, e, he⟩ | ⟨-, h₁⟩ := guards_assertCallIsOngoing.andThen _ f
  · exact .inl ⟨e, he⟩
  obtain ⟨-, e, he⟩ | ⟨-, h₂⟩ := (Guards.call O .stopApplicationToNetwork).andThen _ f
  · exact .inl ⟨e, h₁.trans he⟩
  obtain ⟨-, e, he⟩ | ⟨-, h₃⟩ := (Guards.call O .stopNetworkToApplication).andThen _ f
  · exact .inl ⟨e, h₁.trans (h₂.trans he)⟩
  · exact .inr (h₁.trans (h₂.trans (h₃.trans rfl)))

/-! ## Consistency -/

/-- A handler that has always been consistent, with a number for the next connector. -/
structure Inv (h : Handler) : Prop where
  consistent : Consistent h.fields
  kept : h.kept = true
  fresh : ∀ i, h.fields.applicationToNetworkConnector = some i → i < h.fields.made

theorem consistent_connected (f : Fields) : Consistent (connected f) := by
  constructor
  · exact iff_of_true rfl ⟨Option.some_ne_none _, Option.some_ne_none _⟩
  · exact iff_of_false (fun h => nomatch h) (fun h => nomatch h)

theorem consistent_ended (f : Fields) : Consistent (ended f) := by
  constructor
  · exact iff_of_false (fun h => nomatch h) (fun h => h.1 rfl)
  · exact iff_of_true rfl rfl

theorem consistent_initialized {f : Fields} (hf : Consistent f) (hs : f.callStatus ≠ .ongoing) :
    Consistent { f with callStatus := .initialized } := by
  refine ⟨iff_of_false (fun h => nomatch h) ?_, hf.together⟩
  intro h
  exact hs (hf.ongoing.2 h)

namespace Inv

variable {h : Handler}

theorem connected (hi : Inv h) : Inv { h with fields := HandlerState.connected h.fields } := by
  refine ⟨consistent_connected _, hi.kept, ?_⟩
  intro i hi
  cases hi
  exact Nat.lt_add_of_pos_right (by decide)

theorem ended (hi : Inv h) : Inv { h with fields := HandlerState.ended h.fields } := by
  refine ⟨consistent_ended _, hi.kept, ?_⟩
  intro i hi
  cases hi

theorem raised (hi : Inv h) :
    Inv { fields := h.fields, kept := h.kept && decide (SameCall h.fields h.fields) } := by
  refine ⟨hi.consistent, ?_, hi.fresh⟩
  simp [hi.kept, SameCall]

theorem not_same (hi : Inv h) {f : Fields}
    (hf : f.applicationToNetworkConnector = some h.fields.made) : ¬ SameCall h.fields f := by
  intro hsame
  have hlt := hi.fresh _ (hsame.2.1.symm.trans hf)
  omega

end Inv

/-- The fields are consistent, and every method that has raised so far has left them alone. -/
def Good (h : Handler) : Prop := Consistent h.fields ∧ h.kept = true

/-- After a step that is careful the handler is as it should be, after any other it is not. -/
def Settles (op : Op) (h : Handler) : Prop :=
  ∃ h', step op h = some h' ∧ ((careful h op = true ∧ Inv h') ∨ (careful h op = false ∧ ¬ Good h'))

section Steps

variable {op : Op} {h : Handler} {f : Fields} {e : Exn}

theorem settles_ok (hb : op.body h.fields = .ok () f) (hc : careful h op = true)
    (hi : Inv { h with fields := f }) : Settles op h :=
  ⟨_, by rw [step, hb], .inl ⟨hc, hi⟩⟩

theorem settles_inconsistent (hb : op.body h.fields = .ok () f) (hc : careful h op = false)
    (hn : ¬ Consistent f) : Settles op h :=
  ⟨_, by rw [step, hb], .inr ⟨hc, fun hg => hn hg.1⟩⟩

theorem settles_raised (hi : Inv h) (hb : op.body h.fields = .error e h.fields) (hc : careful h op = true) :
    Settles op h :=
  ⟨_, by rw [step, hb], .inl ⟨hc, hi.raised⟩⟩

theorem settles_changed (hb : op.body h.fields = .error e f) (hc : careful h op = false)
    (hn : ¬ SameCall h.fields f) : Settles op h := by
  refine ⟨_, by rw [step, hb], .inr ⟨hc, fun hg => ?_⟩⟩
  have hk := hg.2
  simp [hn] at hk

end Steps

theorem settles_startCall {h : Handler} (hi : Inv h) (O : Outcomes) : Settles (.startCall O) h := by
  obtain ⟨hwhy, hok | ⟨e, he⟩⟩ | ⟨hs, hO, hE, hL, e, he⟩ | ⟨hs, hO, hE, hL, hok⟩ :=
    startCall_cases (O := O) hi.consistent
  · refine settles_ok hok ?_ hi
    simp only [careful, Bool.or_eq_true, bne_iff_ne]
    tauto
  · refine settles_raised hi he ?_
    simp only [careful, Bool.or_eq_true, bne_iff_ne]
    tauto
  · exact settles_changed he (by simp [careful, hs, hO, hE, hL]) (hi.not_same rfl)
  · exact settles_ok hok (by simp [careful, hL]) hi.connected

theorem settles_acceptCall {h : Handler} (hi : Inv h) (O : Outcomes) : Settles (.acceptCall O) h := by
  obtain ⟨hwhy, e, he⟩ | ⟨hs, hE, hL, e, he⟩ | ⟨hs, hE, hL, hok⟩ := acceptCall_cases O h.fields
  · refine settles_raised hi he ?_
    simp only [careful, Bool.or_eq_true, bne_iff_ne]
    tauto
  · exact settles_changed he (by simp [careful, hs, hE, hL]) (hi.not_same rfl)
  · exact settles_ok hok (by simp [careful, hL]) hi.connected

theorem settles_endCall {h : Handler} (hi : Inv h) (O : Outcomes) : Settles (.endCall O) h := by
  obtain ⟨e, he⟩ | hok := endCall_cases O h.fields
  · exact settles_raised hi he rfl
  · exact settles_ok hok rfl hi.ended

theorem settles_initialized {h : Handler} (hi : Inv h) {op : Op} {e : Exn}
    (hb : op.body h.fields = .error e { h.fields with callStatus := .initialized })
    (hc : careful h op = (h.fields.callStatus == .initialized)) : Settles op h := by
  by_cases hs : h.fields.callStatus = .initialized
  · have hsame : { h.fields with callStatus := .initialized } = h.fields := by rw [← hs]
    rw [hsame] at hb
    exact settles_raised hi hb (hc.trans (by simp [hs]))
  · refine settles_changed hb (hc.trans (by simpa using hs)) ?_
    intro hsame
    exact hs hsame.1.symm

theorem settles_handleIncomingCall {h : Handler} (hi : Inv h) (O : Outcomes) (ui : UserInterface) :
    Settles (.handleIncomingCall O ui) h := by
  obtain ⟨hr, e, he⟩ | ⟨hr, hk⟩ := refused_andThen O
    (do modify fun f => { f with callStatus := .initialized }; call O .handleIncomingCall; ui.acceptCall) h.fields
  · exact settles_raised hi he (by simp [careful, hr])
  obtain ⟨hc, e, he⟩ | ⟨hc, hk'⟩ := (Guards.call O .handleIncomingCall).andThen ui.acceptCall
    { h.fields with callStatus := .initialized }
  · exact settles_initialized hi (hk.trans he) (by simp [careful, hr, hc])
  have hbody := hk.trans hk'
  cases ui with
  | returns =>
    by_cases hs : h.fields.callStatus = .ongoing
    · refine settles_inconsistent hbody (by simp [careful, hr, hc, hs]) ?_
      intro hcons
      cases hcons.ongoing.2 (hi.consistent.ongoing.1 hs)
    · refine settles_ok hbody (by simp [careful, hr, hc, hs]) ?_
      exact ⟨consistent_initialized hi.consistent hs, hi.kept, hi.fresh⟩
  | raises e => exact settles_initialized hi hbody (by simp [careful, hr, hc])
  | accepts O' after =>
    obtain ⟨hwhy, e, he⟩ | ⟨-, hE, hL, e, he⟩ | ⟨-, hE, hL, hok⟩ :=
      acceptCall_cases O' { h.fields with callStatus := .initialized }
    · have hE : early O' = true := hwhy.resolve_left fun hn => hn rfl
      exact settles_initialized hi (hbody.trans (accepts_error he after)) (by simp [careful, hr, hc, hE])
    · exact settles_changed (hbody.trans (accepts_error he after)) (by simp [careful, hr, hc, hE, hL])
        (hi.not_same rfl)
    · cases after with
      | none => exact settles_ok (hbody.trans (accepts_ok hok _)) (by simp [careful, hE, hL, hc]) hi.connected
      | some e =>
        exact settles_changed (hbody.trans (accepts_ok hok _)) (by simp [careful, hr, hc, hE]) (hi.not_same rfl)

theorem settles {h : Handler} (hi : Inv h) (op : Op) : Settles op h := by
  cases op with
  | startCall O => exact settles_startCall hi O
  | handleIncomingCall O ui => exact settles_handleIncomingCall hi O ui
  | acceptCall O => exact settles_acceptCall hi O
  | endCall O => exact settles_endCall hi O

/-- The handler is consistent at every moment of a run and was left alone by every method that has raised,
if and only if each call of a method is careful. -/
theorem consistent_iff (ops : List Op) :
    (∀ pre h, pre <+: ops → run step {} pre = some h → Good h) ↔ obeys step careful {} ops = true := by
  refine always_iff_obeys ?_ (fun h (hi : Inv h) => ⟨hi.consistent, hi.kept⟩) ?_ ?_
  · intro op h h' hok hi hs
    obtain ⟨h'', hs', ⟨-, hi'⟩ | ⟨hno, -⟩⟩ := settles hi op
    · cases hs.symm.trans hs'
      exact hi'
    · cases hok.symm.trans hno
  · intro op h hno hi
    obtain ⟨h', hs, ⟨hok, -⟩ | ⟨-, hbad⟩⟩ := settles hi op
    · cases hok.symm.trans hno
    · exact ⟨h', hs, hbad⟩
  · refine ⟨⟨iff_of_false (fun h => nomatch h) (fun h => h.1 rfl), Iff.rfl⟩, rfl, ?_⟩
    intro i hi
    cases hi

def failing (c : Callee) (e : Exn) : Outcomes := fun c' => if c' = c then some e else none

/-- `audioManager.startSending` raises in `startCall`: there are connectors and no call, and from then on no
call can be started, accepted or ended. -/
theorem handler_stuck :
    ∃ h, run step {} [.startCall (failing .startSending .illegalThreadState)] = some h ∧ ¬ Good h ∧
      h.fields.callStatus = .noCall ∧ h.fields.applicationToNetworkConnector = some 0 ∧
      (∃ e, startCall (fun _ => none) h.fields = .error e h.fields) ∧
      (∃ e, acceptCall (fun _ => none) h.fields = .error e h.fields) ∧
      ∃ e, endCall (fun _ => none) h.fields = .error e h.fields := by
  refine ⟨_, rfl, ?_, rfl, rfl, ⟨_, rfl⟩, ⟨_, rfl⟩, ⟨_, rfl⟩⟩
  intro hg
  cases hg.2

end HandlerState
end OnionPhone
