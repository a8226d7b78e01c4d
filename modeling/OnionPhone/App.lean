import OnionPhone.Lib.Thread
import OnionPhone.SetUp

/-!
# OnionPhone.App

The objects of the application that outlive a call of one of their methods, and the methods of
`TorNetwork`, `AudioInput`, `AudioOutput` and of the streams of `SrtpProtocol`.

Every access to a field is one atomic step of the thread that makes it. A socket is a number; a
stream is the number of its socket. Pipes, audio hardware and the threads that only move media between
pipes are left out.
-/

namespace OnionPhone

open Wire Wire.Job

abbrev SocketId := Nat

/-! ## The objects -/

structure TorNetwork where
  socket : Option SocketId := none
  listenerStartNeeded : Bool := false
  deriving DecidableEq, Repr

/-- The service `ConnectionListener`: whether it is between `onCreate` and `onDestroy`, and whether its
thread waits in `accept`. -/
structure ConnectionListener where
  created : Bool := false
  accepting : Bool := false
  deriving DecidableEq, Repr

inductive CallStatus where
  | noCall | initialized | ongoing
  deriving DecidableEq, Repr

/-- A `Connector`: the socket whose stream it reads or writes, and whether it has been started. -/
structure Connector where
  network : SocketId
  started : Bool := false
  deriving DecidableEq, Repr

/-- A `CallHandler` with the fields of its `TheOnionPhoneProtocol` (`keepAliveWorker`) and of its
`SrtpProtocol` (the sizes, `srtpInitialized`, and whether there are a wrapper and an unwrapper). -/
structure CallHandler where
  callStatus : CallStatus := .noCall
  applicationToNetworkConnector : Option Connector := none
  networkToApplicationConnector : Option Connector := none
  keepAliveWorker : Option Bool := none
  packetSizeInBytes : Nat := 0
  payloadSizeInBytes : Nat := 0
  srtpInitialized : Bool := false
  wrapper : Bool := false
  unwrapper : Bool := false
  deriving DecidableEq, Repr

/-- `handlers` are all call handlers ever made, `callHandler` is the one `ProtocolManagementImpl` holds,
`callInfo` is that of `UserInterfaceImpl`. A worker of `AudioInput` or `AudioOutput` is there or not,
and has been started or not. -/
structure App (C : Crypto) where
  torNetwork : TorNetwork := {}
  listener : ConnectionListener := {}
  handlers : List CallHandler := []
  callHandler : Option Nat := none
  callInfo : Option (CallInfo C) := none
  audioInput : Option Bool := none
  audioOutput : Option Bool := none
  native : Native.Globals := {}

/-- The labels of accesses: `TorNetwork.socket` was assigned, or read for a stream; a stream of this
socket was given to a new thread, a keep-alive worker or a `Connector`; anything else. -/
inductive Access where
  | assigned (socket : SocketId)
  | fetched
  | handed (socket : SocketId)
  | field
  deriving DecidableEq, Repr

/-- A method that runs on some thread of the application. -/
abbrev Task (C : Crypto) := Job SocketId Access (App C) Exn

namespace App

variable {C : Crypto}

def handler (app : App C) (this : Nat) : CallHandler := app.handlers.getD this {}

def modifyHandler (this : Nat) (f : CallHandler → CallHandler) (app : App C) : App C :=
  { app with handlers := app.handlers.modify this f }

def newHandler (app : App C) : App C :=
  { app with handlers := app.handlers ++ [{}], callHandler := some app.handlers.length }

def setSocket (socket : SocketId) (app : App C) : App C :=
  { app with torNetwork := { app.torNetwork with socket := some socket } }

def session (app : App C) (this : Nat) : SrtpProtocol.Session where
  packetSizeInBytes := (app.handler this).packetSizeInBytes
  payloadSizeInBytes := (app.handler this).payloadSizeInBytes
  srtpInitialized := (app.handler this).srtpInitialized
  native := app.native

def storeSession (this : Nat) (s : SrtpProtocol.Session) (app : App C) : App C :=
  { app with native := s.native }.modifyHandler this fun h => { h with
    packetSizeInBytes := s.packetSizeInBytes
    payloadSizeInBytes := s.payloadSizeInBytes
    srtpInitialized := s.srtpInitialized }

end App

variable {C : Crypto}

def look : Task C (App C) := access .field id

def update (f : App C → App C) : Task C Unit := do
  let _ ← access .field f
  pure ()

/-! ## TorNetwork -/

namespace TorNetwork

/-- `startService` of a service that runs already does not run `onCreate` again. -/
def startConnectionListener : Task C Unit :=
  update fun app => if app.listener.created then app else { app with listener := ⟨true, true⟩ }

/-- `stopService`: `onDestroy` closes the server socket, and `accept` fails. -/
def stopConnectionListener : Task C Unit :=
  update fun app => { app with listener := ⟨false, false⟩ }

def assignSocket (socket : SocketId) : Task C Unit := do
  let _ ← access (.assigned socket) (App.setSocket socket)
  pure ()

/-- `socket` is the one the constructor returns if it does. After it come `setSoTimeout` and
`setTcpNoDelay`. -/
def connectTo (identity : Option (Identity C)) (socket : SocketId) : Task C Unit :=
  match identity with
  | none => throw .nullPointer
  | some _ => do
    call (.connection "cannot connect to hidden service")
    assignSocket socket
    call (.connection "cannot connect to hidden service")
    call (.connection "cannot connect to hidden service")
    stopConnectionListener
    update fun app => { app with torNetwork := { app.torNetwork with listenerStartNeeded := true } }

def checkForNullSocket : Task C Unit := do
  let app ← look
  match app.torNetwork.socket with
  | none => throw (.connection "not connected")
  | some _ => pure ()

/-- The socket is read again after the check. -/
def getStream (msg : String) : Task C SocketId := do
  checkForNullSocket
  let app ← access .fetched id
  match app.torNetwork.socket with
  | none => throw .nullPointer
  | some socket => do
    call (.connection msg)
    pure socket

def getInputStream : Task C SocketId := getStream "error while getting input stream"

def getOutputStream : Task C SocketId := getStream "error while getting output stream"

def resumeListenerIfEnabled : Task C Unit := do
  let app ← look
  if app.torNetwork.listenerStartNeeded then do
    startConnectionListener
    update fun app => { app with torNetwork := { app.torNetwork with listenerStartNeeded := false } }
  else
    pure ()

/-- An `IOException` of `close` is dropped. -/
def disconnect : Task C Unit := do
  checkForNullSocket
  let app ← look
  match app.torNetwork.socket with
  | none => throw .nullPointer
  | some _ => do
    rescue (call .io) fun _ => some ()
    update fun app => { app with torNetwork := { app.torNetwork with socket := none } }
    resumeListenerIfEnabled

end TorNetwork

/-! ## Audio -/

namespace AudioInput

def getStream : Task C Unit := do
  let app ← look
  match app.audioInput with
  | some _ => throw (.audioManager "attempt to reinitialize")
  | none => update fun app => { app with audioInput := some false }

def startSending : Task C Unit := do
  let app ← look
  match app.audioInput with
  | none => throw (.audioManager "not initialized")
  | some _ => do
    let app ← access .field fun app => { app with audioInput := app.audioInput.map fun _ => true }
    match app.audioInput with
    | none => throw .nullPointer
    | some true => throw .illegalThreadState
    | some false => pure ()

/-- `stopAndClose` clears a flag of the worker, which only its thread reads. -/
def stopSending : Task C Unit := do
  let app ← look
  match app.audioInput with
  | none => throw (.audioManager "not initialized")
  | some _ => update fun app => { app with audioInput := none }

end AudioInput

namespace AudioOutput

def playStream : Task C Unit := update fun app => { app with audioOutput := some true }

def stopPlaying : Task C Unit := do
  let app ← look
  match app.audioOutput with
  | none => throw (.audioManager "not initialized")
  | some _ => update fun app => { app with audioOutput := none }

end AudioOutput

/-! ## The streams of SrtpProtocol -/

namespace SrtpProtocol

def wrapStream (this : Nat) : Task C Unit := do
  let app ← look
  if (app.handler this).wrapper then
    throw (.protocol "wrapper is already initialized")
  else
    update (App.modifyHandler this fun h => { h with wrapper := true })

def unwrapStream (this : Nat) : Task C Unit := do
  let app ← look
  if (app.handler this).unwrapper then
    throw (.protocol "unwrapper is already initialized")
  else
    update (App.modifyHandler this fun h => { h with unwrapper := true })

end SrtpProtocol
end OnionPhone
