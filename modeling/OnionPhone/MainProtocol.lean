import OnionPhone.KeyExchange

/-!
# OnionPhone.MainProtocol

`org.theonionphone.protocol.TheOnionPhoneProtocol`: the handshake of a call, as the caller
(`initiateOutgoingSession`) and as the callee (`initiateIncomingSession`, then `acceptCall` or
`rejectCall`).

What the methods draw at random is an argument: the challenge of `receiveAndVerifyPublicKey` and
the random value of the Diffie-Hellman key pair. `waitForAccept` takes the number of messages it
may read, and spins when they are used up.
-/

namespace OnionPhone
namespace MainProtocol

open Wire Wire.Method ProtocolUtils KeyExchange

def helloMsg : Octets := ascii ['H', 'e', 'l', 'l', 'o', ' ', ' ', ' ']
def helloAckMsg : Octets := ascii ['H', 'e', 'l', 'l', 'o', 'A', 'C', 'K']
def versionMsg : Octets := ascii ['V', 'e', 'r', '0', '1', '.', '0', '0']
def introductionMsg : Octets := ascii ['I', 'n', 't', 'r', 'o', 'd', 'u', 'c', 'e', ' ', ' ']
def noIntroductionMsg : Octets := ascii ['N', 'o', 'I', 'n', 't', 'r', 'o', 'd', 'u', 'c', 'e']
def introductionReqMsg : Octets := ascii ['R', 'e', 'q', 'I', 'n', 't', 'r', 'o', 'd', ' ', ' ']
def noIntroductionReqMsg : Octets := ascii ['N', 'o', 'R', 'e', 'q', 'I', 'n', 't', 'r', 'o', 'd']
def acceptMsg : Octets := ascii ['A', 'c', 'c', 'e', 'p', 't']
def rejectMsg : Octets := ascii ['R', 'e', 'j', 'e', 'c', 't']
def waitForAcceptanceMsg : Octets := ascii ['W', 'a', 'i', 't', ' ', ' ']

def introductionMsgSize : Nat := 80

/-- What `(new Random()).nextBytes` puts into the array of the challenge. -/
abbrev Challenge := { m : Octets // m.length = introductionMsgSize }

variable {C : Crypto}

/-! ## Introductions -/

/-- Signing, with the catch clauses of `proveIdentityToOtherParty`. -/
def signMessage (keyPair : KeyPair C) (messageToSign : Octets) : Main C Octets :=
  match C.sign keyPair.private_ messageToSign with
  | .ok signatureBytes => do
    note (.signed messageToSign)
    pure signatureBytes
  | .error .noSuchAlgorithm =>
    throw (.mainProtocol "there's no fucking sha256withRSA on this device")
  | .error .invalidKey => throw (.mainProtocol "guess what? invalid key")
  | .error .signature => throw (.mainProtocol "sth happened")
  | .error .unchecked => throw .provider

def proveIdentityToOtherParty (keyPair : KeyPair C) : Main C Unit := do
  sendMessageWithSizeFirst (C.rsaEncoded keyPair.public_)
  let messageToSign ← receiveMessageInto introductionMsgSize
  let signatureBytes ← signMessage keyPair messageToSign
  sendMessageWithSizeFirst signatureBytes

/-- `KeyFactory.generatePublic`, with the catch clauses of `receiveAndVerifyPublicKey`. -/
def parsePublicKey (publicKeyEncoded : Octets) : Main C C.RsaPublicKey :=
  match C.rsaGeneratePublic publicKeyEncoded with
  | .ok publicKey => pure publicKey
  | .error .invalidKeySpec => throw (.mainProtocol "received key is invalid")
  | .error .noSuchAlgorithm =>
    throw (.mainProtocol "there's no fucking RSA on this device... unbelievable")
  | .error .unchecked => throw .provider

/-- Verifying, with the catch clauses of `receiveAndVerifyPublicKey`. -/
def verifySignature (publicKey : C.RsaPublicKey) (randomMessage receivedSignature : Octets) :
    Main C Unit :=
  match C.verify publicKey randomMessage receivedSignature with
  | .ok true => note (.verified publicKey randomMessage)
  | .ok false => throw (.security "failed to verify other party's identity")
  | .error .noSuchAlgorithm =>
    throw (.mainProtocol "there's no fucking sha256withRSA on this device")
  | .error .invalidKey => throw (.mainProtocol "received key is invalid")
  | .error .signature => throw (.mainProtocol "sth with signature")
  | .error .unchecked => throw .provider

def receiveAndVerifyPublicKey (randomMessage : Challenge) : Main C C.RsaPublicKey := do
  let publicKeyEncoded ← receiveMessageWithSizeFirst
  let publicKey ← parsePublicKey publicKeyEncoded
  note (.drew randomMessage.1)
  sendMessage randomMessage.1
  let receivedSignature ← receiveMessageWithSizeFirst
  verifySignature publicKey randomMessage.1 receivedSignature
  pure publicKey

/-! ## Outgoing -/

def receiveVersion : Main C Unit := do
  let _ ← receiveMessageInto versionMsg.length
  pure ()

def sendAndReceiveHello : Main C Unit := do
  sendMessage helloMsg
  receiveSpecificMessage helloAckMsg
  receiveSpecificMessage helloMsg
  sendMessage helloAckMsg

def sendAndReceiveVersion : Main C Unit := do
  sendMessage versionMsg
  receiveVersion

def handleOutgoingIntroduction (keyPair : KeyPair C) : Main C Unit := do
  let c ← fields
  if c.callInfo.shouldIntroduce then do
    sendMessage introductionMsg
    proveIdentityToOtherParty keyPair
  else
    sendMessage noIntroductionMsg

def handleOutgoingRequestForIntroduction : Main C Unit := do
  let c ← fields
  if c.callInfo.requiresIntroduction then
    sendMessage introductionReqMsg
  else
    sendMessage noIntroductionReqMsg

def waitForAccept : Nat → Main C Unit
  | 0 => spin
  | fuel + 1 => do
    let msg ← receiveMessageInto acceptMsg.length
    if compareIfIdentical waitForAcceptanceMsg msg then
      waitForAccept fuel
    else if compareIfIdentical acceptMsg msg then
      pure ()
    else if compareIfIdentical rejectMsg msg then
      throw (.mainProtocol "call rejected")
    else
      throw (.mainProtocol "received wrong message")

def validateKeyAgainstExpected (expectedPublicKey : Option C.RsaPublicKey)
    (actualPublicKey : C.RsaPublicKey) : Main C Unit :=
  match expectedPublicKey with
  | none => pure ()
  | some expected =>
    if !compareIfIdentical (C.rsaEncoded expected) (C.rsaEncoded actualPublicKey) then
      throw (.security "other party public key doesn't match public key specified by user")
    else
      pure ()

/-- The end of `handleIncomingIntroductionIfRequested`: the verified key is compared with the
expected one and put into the identity. -/
def adoptPublicKey (publicKey : C.RsaPublicKey) : Main C Unit := do
  let c ← fields
  match c.callInfo.identity with
  | none => throw .nullPointer
  | some identity => do
    validateKeyAgainstExpected identity.publicKey publicKey
    assign (Call.setIdentity { identity with publicKey := some publicKey })

def handleIncomingIntroductionIfRequested (randomMessage : Challenge) : Main C Unit := do
  let c ← fields
  if c.callInfo.requiresIntroduction then do
    let publicKey ← receiveAndVerifyPublicKey randomMessage
    adoptPublicKey publicKey
  else
    pure ()

def initiateOutgoingSession (fuel : Nat) (keyPair : KeyPair C) (randomMessage : Challenge)
    (dhRandom : Nat) : Main C Unit := do
  sendAndReceiveHello
  sendAndReceiveVersion
  handleOutgoingIntroduction keyPair
  handleOutgoingRequestForIntroduction
  waitForAccept fuel
  handleIncomingIntroductionIfRequested randomMessage
  initiateKeyExchange dhRandom

/-! ## Incoming -/

def receiveAndSendHello : Main C Unit := do
  receiveSpecificMessage helloMsg
  sendMessage helloAckMsg
  sendMessage helloMsg
  receiveSpecificMessage helloAckMsg

def receiveAndSendVersion : Main C Unit := do
  receiveVersion
  sendMessage versionMsg

def receiveEither (yes no : Octets) : Main C Bool := do
  let msg ← receiveMessageInto yes.length
  if compareIfIdentical yes msg then
    pure true
  else if compareIfIdentical no msg then
    pure false
  else
    throw (.mainProtocol "received wrong message")

def isOtherPartyIntroducing : Main C Bool := receiveEither introductionMsg noIntroductionMsg

def handleIncomingRequestForIntroduction : Main C Bool :=
  receiveEither introductionReqMsg noIntroductionReqMsg

def handleIncomingIntroduction (randomMessage : Challenge) : Main C (Identity C) := do
  let introducing ← isOtherPartyIntroducing
  if introducing then do
    let publicKey ← receiveAndVerifyPublicKey randomMessage
    pure { publicKey := some publicKey }
  else
    pure {}

def startKeepAliveWorker : Main C Unit := do
  note .keepAliveStarted
  assign fun c => { c with keepAliveWorker := some true }

def initiateIncomingSession (randomMessage : Challenge) : Main C Unit := do
  assign fun c => { c with callInfo := {} }
  receiveAndSendHello
  receiveAndSendVersion
  let identity ← handleIncomingIntroduction randomMessage
  assign (Call.setIdentity identity)
  let requiresIntroduction ← handleIncomingRequestForIntroduction
  assign (Call.setRequiresIntroduction requiresIntroduction)
  startKeepAliveWorker

def stopSending : Main C Unit := do
  let c ← fields
  match c.keepAliveWorker with
  | none => throw .nullPointer
  | some _ => assign fun c => { c with keepAliveWorker := some false }

def handleOutgoingIntroductionIfRequested (keyPair : KeyPair C) : Main C Unit := do
  let c ← fields
  if c.callInfo.requiresIntroduction then
    proveIdentityToOtherParty keyPair
  else
    pure ()

def acceptCall (keyPair : KeyPair C) (dhRandom : Nat) : Main C Unit := do
  stopSending
  sendMessage acceptMsg
  handleOutgoingIntroductionIfRequested keyPair
  handleKeyExchange dhRandom

def rejectCall : Main C Unit := do
  stopSending
  sendMessage rejectMsg

end MainProtocol
end OnionPhone
