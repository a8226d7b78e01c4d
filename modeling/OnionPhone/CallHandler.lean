import OnionPhone.App

/-!
# OnionPhone.CallHandler

`CallHandler`, `ProtocolManagementImpl`, `UserInterfaceImpl`, the part of `TorNetwork` that takes an
incoming connection, and the thread of `ConnectionListener`.

`p` is what the phone brings to a call (`SetUp.Party`). A method of `TheOnionPhoneProtocol` or
`SrtpProtocol` reads the fields of its object when it starts and writes them when it ends; what it does
on the streams in between is the `Proc` of the other modules, step for step.
-/

namespace OnionPhone

open Wire Wire.Job SetUp

variable {C : Crypto}

/-- The keep-alive worker writes to the stream it is started with. -/
def eventLabel (outs : SocketId) : Event C → Access
  | .keepAliveStarted => .handed outs
  | _ => .field

def finish {α : Type} : Except Exn α → Task C α
  | .ok a => pure a
  | .error e => throw e

namespace CallHandler

/-- A method of `theOnionPhoneProtocol`; the `CallInfo` it was given comes back as it left it. -/
def runMain (this : Nat) (ins outs : SocketId) (m : Main C Unit) (callInfo : CallInfo C) :
    Task C (CallInfo C) := do
  let app ← look
  let r ← talk ins outs (eventLabel outs) (m ⟨callInfo, (app.handler this).keepAliveWorker⟩)
  update (App.modifyHandler this fun h => { h with keepAliveWorker := r.2.keepAliveWorker })
  finish r.1
  pure r.2.callInfo

def runSrtp (this : Nat) (ins outs : SocketId)
    (m : Method (Event C) Exn SrtpProtocol.Session Unit) : Task C Unit := do
  let app ← look
  let r ← talk ins outs (eventLabel outs) (m (app.session this))
  update (App.storeSession this r.2)
  finish r.1

def setStatus (this : Nat) (status : CallStatus) : Task C Unit :=
  update (App.modifyHandler this fun h => { h with callStatus := status })

inductive ConnectorField where
  | applicationToNetwork | networkToApplication
  deriving DecidableEq, Repr

def connector : ConnectorField → CallHandler → Option Connector
  | .applicationToNetwork, h => h.applicationToNetworkConnector
  | .networkToApplication, h => h.networkToApplicationConnector

def setConnector (c : Option Connector) : ConnectorField → CallHandler → CallHandler
  | .applicationToNetwork, h => { h with applicationToNetworkConnector := c }
  | .networkToApplication, h => { h with networkToApplicationConnector := c }

def newConnector (this : Nat) (field : ConnectorField) (network : SocketId) : Task C Unit := do
  let _ ← access (.handed network)
    (App.modifyHandler this (setConnector (some { network := network }) field))
  pure ()

def startConnector (this : Nat) (field : ConnectorField) : Task C Unit := do
  let app ← access .field (App.modifyHandler this fun h =>
    setConnector ((connector field h).map fun c => { c with started := true }) field h)
  match connector field (app.handler this) with
  | none => throw .nullPointer
  | some c => if c.started then throw .illegalThreadState else pure ()

/-! ## The methods -/

def assertNoCall (this : Nat) : Task C Unit := do
  let app ← look
  let h := app.handler this
  if h.callStatus ≠ .noCall ∨ h.applicationToNetworkConnector ≠ none ∨
      h.networkToApplicationConnector ≠ none then
    throw (.call "Cannot start a call. There is already an ongoing call")
  else
    pure ()

def assertCallIsInitialized (this : Nat) : Task C Unit := do
  let app ← look
  if (app.handler this).callStatus ≠ .initialized then
    throw (.call "no call was initialized")
  else
    pure ()

/-- A `ConnectionException` is caught and becomes `false`. -/
def connectTo (identity : Option (Identity C)) (socket : SocketId) : Task C Bool :=
  rescue (do TorNetwork.connectTo identity socket; pure true) fun
    | .connection _ => some false
    | _ => none

def getApplicationInputStream (this : Nat) : Task C Unit := do
  AudioInput.getStream
  SrtpProtocol.wrapStream this

def getApplicationOutputStream (this : Nat) : Task C Unit := do
  SrtpProtocol.unwrapStream this
  AudioOutput.playStream

/-- The end of `startCall` and of `acceptCall`. -/
def connectMedia (this : Nat) (ins outs : SocketId) : Task C Unit := do
  getApplicationInputStream this
  getApplicationOutputStream this
  newConnector this .applicationToNetwork outs
  newConnector this .networkToApplication ins
  AudioInput.startSending
  startConnector this .applicationToNetwork
  startConnector this .networkToApplication
  setStatus this .ongoing

/-- `socket` is the one the connection is made on, if it is. -/
def startCall (fuel : Nat) (p : Party C) (socket : SocketId) (this : Nat) (callInfo : CallInfo C) :
    Task C Unit := do
  assertNoCall this
  let connected ← connectTo callInfo.identity socket
  if connected then do
    let ins ← TorNetwork.getInputStream
    let outs ← TorNetwork.getOutputStream
    let callInfo ← runMain this ins outs
      (MainProtocol.initiateOutgoingSession fuel p.keyPair p.randomMessage p.dhRandom) callInfo
    runSrtp this ins outs (SrtpProtocol.initiateOutgoingSession p.codec p.senderSalt p.rtpRandom
      callInfo.txKey callInfo.rxKey)
    connectMedia this ins outs
  else
    pure ()

def acceptCall (p : Party C) (this : Nat) (callInfo : CallInfo C) : Task C Unit := do
  assertCallIsInitialized this
  let ins ← TorNetwork.getInputStream
  let outs ← TorNetwork.getOutputStream
  let callInfo ← runMain this ins outs (MainProtocol.acceptCall p.keyPair p.dhRandom) callInfo
  runSrtp this ins outs (SrtpProtocol.initiateIncomingSession p.codec p.senderSalt p.rtpRandom
    callInfo.txKey callInfo.rxKey)
  connectMedia this ins outs

def assertCallIsOngoing (this : Nat) : Task C Unit := do
  let app ← look
  let h := app.handler this
  if h.callStatus ≠ .ongoing ∨ h.applicationToNetworkConnector = none ∨
      h.networkToApplicationConnector = none then
    throw (.call "There is no ongoing call to end")
  else
    pure ()

/-- `stopAndClose` of what is in the field clears a flag of the connector, which only its thread
reads. -/
def stopConnector (this : Nat) (field : ConnectorField) : Task C Unit := do
  let app ← look
  match connector field (app.handler this) with
  | none => throw .nullPointer
  | some _ => pure ()

def dropConnector (this : Nat) (field : ConnectorField) : Task C Unit :=
  update (App.modifyHandler this (setConnector none field))

def endCall (this : Nat) : Task C Unit := do
  assertCallIsOngoing this
  stopConnector this .applicationToNetwork
  stopConnector this .networkToApplication
  dropConnector this .applicationToNetwork
  dropConnector this .networkToApplication
  setStatus this .noCall

end CallHandler

/-! ## ProtocolManagementImpl and UserInterfaceImpl -/

namespace ProtocolManagement

def newCallHandler : Task C Unit := update App.newHandler

def callHandler : Task C Nat := do
  let app ← look
  match app.callHandler with
  | none => throw .nullPointer
  | some this => pure this

def startCall (fuel : Nat) (p : Party C) (socket : SocketId) (callInfo : CallInfo C) :
    Task C Unit := do
  newCallHandler
  let this ← callHandler
  CallHandler.startCall fuel p socket this callInfo

def acceptCall (p : Party C) (callInfo : CallInfo C) : Task C Unit := do
  let this ← callHandler
  CallHandler.acceptCall p this callInfo

def endCall : Task C Unit := pure ()

end ProtocolManagement

namespace UserInterface

def handleIncomingCall (callInfo : CallInfo C) : Task C Unit :=
  update fun app => { app with callInfo := some callInfo }

/-- `callInfo` is not null: `handleIncomingCall` has been called. -/
def acceptCall (p : Party C) : Task C Unit := do
  let app ← look
  match app.callInfo with
  | none => throw .nullPointer
  | some callInfo => ProtocolManagement.acceptCall p callInfo

end UserInterface

def CallHandler.handleIncomingCall (p : Party C) (this : Nat) : Task C Unit := do
  let ins ← TorNetwork.getInputStream
  let outs ← TorNetwork.getOutputStream
  let callInfo ← CallHandler.runMain this ins outs
    (MainProtocol.initiateIncomingSession p.randomMessage) {}
  CallHandler.setStatus this .initialized
  UserInterface.handleIncomingCall callInfo
  UserInterface.acceptCall p

def ProtocolManagement.handleIncomingCall (p : Party C) : Task C Unit := do
  newCallHandler
  let this ← callHandler
  CallHandler.handleIncomingCall p this

/-! ## Incoming connections -/

def TorNetwork.handleIncomingConnection (p : Party C) (incoming : SocketId) : Task C Unit := do
  let app ← look
  match app.torNetwork.socket with
  | some _ => pure ()
  | none => do
    update fun app => { app with torNetwork := { app.torNetwork with listenerStartNeeded := true } }
    assignSocket incoming
    ProtocolManagement.handleIncomingCall p

/-- The thread of the service: `new ServerSocket` and `accept` may fail, the latter also because the
service is destroyed. Only an `IOException` is caught. -/
def ConnectionListener.run (p : Party C) (incoming : SocketId) : Task C Unit := do
  rescue (do
    call .io
    call .io
    update fun app => { app with listener := { app.listener with accepting := false } }
    TorNetwork.handleIncomingConnection p incoming) fun
      | .io => some ()
      | _ => none
  stopSelf
where
  stopSelf : Task C Unit := update fun app => { app with listener := ⟨false, false⟩ }

end OnionPhone
