import OnionPhone.ProtocolUtils

/-!
# OnionPhone.KeyExchange

`org.theonionphone.protocol.KeyExchangeHelper`: both sides send an ECDH public key, then read the
other's. The SHA-256 digest of the shared secret is cut in two; the caller sends with the first
half and the callee with the second.

`key_exchange`: two sides that run it with each other end with the halves crossed.
-/

namespace OnionPhone
namespace KeyExchange

open Wire Wire.Method ProtocolUtils

variable {C : Crypto}

def finalKeySize : Nat := 16

/-- `KeyPairGenerator.getInstance`, `initialize` and `generateKeyPair`, with the two messages its
callers give it. -/
def generateKeyPair (noAlgorithm noProvider : String) (x : Nat) :
    Main C (C.DhPrivateKey × C.DhPublicKey) :=
  match C.dhGenerate x with
  | .ok keyPair => pure keyPair
  | .error .noSuchAlgorithm => throw (.mainProtocol noAlgorithm)
  | .error .noSuchProvider => throw (.mainProtocol noProvider)
  | .error .unchecked => throw .provider

def getKeyPairGenerator : Nat → Main C (C.DhPrivateKey × C.DhPublicKey) :=
  generateKeyPair "well, no diffie-hellman, sorry" "spongy castle was not loaded properly"

def initializeKeyPairGenerator : Nat → Main C (C.DhPrivateKey × C.DhPublicKey) :=
  generateKeyPair "well, no diffie-hellman, shame" "spongy castle not found"

def sendPublicKey (publicKey : C.DhPublicKey) : Main C Unit :=
  sendMessageWithSizeFirst (C.dhEncoded publicKey)

def sendKey (publicKey : C.DhPublicKey) : Main C Unit :=
  sendMessageWithSizeFirst (C.dhEncoded publicKey)

def initKeyAgreement (privateKey : C.DhPrivateKey) : Main C Unit :=
  match C.dhInit privateKey with
  | .ok _ => pure ()
  | .error .noSuchAlgorithm => throw (.mainProtocol "well, no diffie-hellman, sorry")
  | .error .invalidKey => throw (.mainProtocol "dh doesn't like my key")
  | .error .noSuchProvider => throw (.mainProtocol "spongy castle not found")
  | .error .unchecked => throw .provider

def getOtherPartyPublicKey : Main C C.DhPublicKey := do
  let otherPublicEncoded ← receiveMessageWithSizeFirst
  parse otherPublicEncoded
where
  parse (otherPublicEncoded : Octets) : Main C C.DhPublicKey :=
    match C.dhGeneratePublic otherPublicEncoded with
    | .ok otherPublic => pure otherPublic
    | .error .noSuchAlgorithm => throw (.mainProtocol "well, no diffie-hellman, sorry")
    | .error .invalidKeySpec => throw (.mainProtocol "received key was invalid")
    | .error .noSuchProvider => throw (.mainProtocol "spongy castle not found")
    | .error .unchecked => throw .provider

def generateSecret (privateKey : C.DhPrivateKey) (otherPublic : C.DhPublicKey) : Main C Octets :=
  match C.dhGenerateSecret privateKey otherPublic with
  | .ok secret => pure secret
  | .error .invalidKey => throw (.mainProtocol "received key was invalid")
  | .error .illegalState => throw (.mainProtocol "something went wrong in key exchange")
  | .error .unchecked => throw .provider

def getFirstKey (finalKeys : Octets) : Octets := finalKeys.take finalKeySize

def getSecondKey (finalKeys : Octets) : Octets := finalKeys.drop finalKeySize

def initiateKeyExchange (x : Nat) : Main C Unit := do
  let keyPair ← getKeyPairGenerator x
  sendKey keyPair.2
  initKeyAgreement keyPair.1
  let otherPublic ← getOtherPartyPublicKey
  let secret ← generateSecret keyPair.1 otherPublic
  let finalKeys := C.sha256 secret
  assign (Call.setTxKey (getFirstKey finalKeys))
  assign (Call.setRxKey (getSecondKey finalKeys))

def handleKeyExchange (x : Nat) : Main C Unit := do
  let keyPair ← initializeKeyPairGenerator x
  sendPublicKey keyPair.2
  initKeyAgreement keyPair.1
  let otherPublic ← getOtherPartyPublicKey
  let secret ← generateSecret keyPair.1 otherPublic
  let finalKeys := C.sha256 secret
  assign (Call.setTxKey (getSecondKey finalKeys))
  assign (Call.setRxKey (getFirstKey finalKeys))

/-! ## Two sides that run it with each other -/

/-- What Diffie-Hellman promises for the key pairs drawn from `x` and `y`: they are made, their
public keys survive encoding, and both sides compute the same secret. -/
structure DhAgree (C : Crypto) (x y : Nat) (secret : Octets) : Prop where
  agree : ∃ a A b B, C.dhGenerate x = .ok (a, A) ∧ C.dhGenerate y = .ok (b, B) ∧
    C.dhInit a = .ok () ∧ C.dhInit b = .ok () ∧
    (C.dhEncoded A).length < 2 ^ 31 ∧ (C.dhEncoded B).length < 2 ^ 31 ∧
    C.dhGeneratePublic (C.dhEncoded A) = .ok A ∧ C.dhGeneratePublic (C.dhEncoded B) = .ok B ∧
    C.dhGenerateSecret a B = .ok secret ∧ C.dhGenerateSecret b A = .ok secret

def callerKeys (C : Crypto) (secret : Octets) (c : Call C) : Call C :=
  (c.setTxKey (getFirstKey (C.sha256 secret))).setRxKey (getSecondKey (C.sha256 secret))

def calleeKeys (C : Crypto) (secret : Octets) (c : Call C) : Call C :=
  (c.setTxKey (getSecondKey (C.sha256 secret))).setRxKey (getFirstKey (C.sha256 secret))

theorem key_exchange {x y : Nat} {secret : Octets} (h : DhAgree C x y secret) (s t : Call C) :
    Talk (initiateKeyExchange x) s (handleKeyExchange y) t () (callerKeys C secret s) ()
      (calleeKeys C secret t) := by
  obtain ⟨a, A, b, B, hx, hy, ha, hb, hA, hB, hpA, hpB, hab, hba⟩ := h.agree
  simp only [initiateKeyExchange, handleKeyExchange, getKeyPairGenerator,
    initializeKeyPairGenerator, generateKeyPair, hx, hy, initKeyAgreement, ha, hb, pure_bind_run,
    sendKey, sendPublicKey, getOtherPartyPublicKey, bind_assoc_run]
  refine sizedMessages_cross hA hB ?_
  simp only [getOtherPartyPublicKey.parse, hpA, hpB, generateSecret, hab, hba, pure_bind_run]
  exact .refl

end KeyExchange
end OnionPhone
