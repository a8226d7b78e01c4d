import OnionPhone.Lib.Method

/-!
# OnionPhone.Common

What the classes of the phone share: the exceptions they throw, the cryptography they take from
the Java platform and from Spongy Castle, and `CallInfo`.
-/

namespace OnionPhone

open Wire

/-- The exceptions that can leave a method of the phone. All but `io` are unchecked; `provider` is any
unchecked one that the cryptographic provider throws and no catch clause names. -/
inductive Exn where
  | mainProtocol (msg : String)
  | security (msg : String)
  | protocol (msg : String)
  | call (msg : String)
  | connection (msg : String)
  | audioManager (msg : String)
  | negativeArraySize
  | nullPointer
  | illegalThreadState
  | provider
  | io
  deriving DecidableEq, Repr

/-! ## Cryptography from outside

The faults are what the calls declare, and `unchecked` for what they throw without declaring it: the bundled
Spongy Castle answers an empty key, or one that is not DER, with an `IllegalArgumentException` or a
`NullPointerException`. -/

/-- What `KeyFactory` for RSA throws. -/
inductive RsaKeyFault where
  | invalidKeySpec | noSuchAlgorithm | unchecked

/-- What `Signature` throws, to sign and to verify. -/
inductive SignatureFault where
  | noSuchAlgorithm | invalidKey | signature | unchecked

/-- What `KeyPairGenerator` for ECDH throws. -/
inductive DhGeneratorFault where
  | noSuchAlgorithm | noSuchProvider | unchecked

/-- What `KeyFactory` for ECDH throws. -/
inductive DhKeyFault where
  | noSuchAlgorithm | invalidKeySpec | noSuchProvider | unchecked

/-- What `KeyAgreement.init` throws. -/
inductive DhInitFault where
  | noSuchAlgorithm | invalidKey | noSuchProvider | unchecked

/-- What `KeyAgreement.doPhase` and `generateSecret` throw; `illegalState` is caught. -/
inductive DhPhaseFault where
  | invalidKey | illegalState | unchecked

/-- The cryptography the phone calls: RSA keys with `SHA256WITHRSA`, ECDH keys, SHA-256. -/
structure Crypto where
  RsaPublicKey : Type
  RsaPrivateKey : Type
  DhPublicKey : Type
  DhPrivateKey : Type
  rsaEncoded : RsaPublicKey → Octets
  rsaGeneratePublic : Octets → Except RsaKeyFault RsaPublicKey
  sign : RsaPrivateKey → Octets → Except SignatureFault Octets
  verify : RsaPublicKey → Octets → Octets → Except SignatureFault Bool
  /-- The key pair `generateKeyPair` returns when its random source has value `x`. -/
  dhGenerate : Nat → Except DhGeneratorFault (DhPrivateKey × DhPublicKey)
  dhEncoded : DhPublicKey → Octets
  dhGeneratePublic : Octets → Except DhKeyFault DhPublicKey
  dhInit : DhPrivateKey → Except DhInitFault Unit
  dhGenerateSecret : DhPrivateKey → DhPublicKey → Except DhPhaseFault Octets
  sha256 : Octets → Octets
  sha256_length : ∀ m, (sha256 m).length = 32

/-- An instance with keys of one octet: a signature is the key in front of the message, Diffie-Hellman
is done modulo 17, and the digest is the message cut or filled to 32 octets. An empty key is answered as
Spongy Castle answers it. -/
def smallCrypto : Crypto where
  RsaPublicKey := UInt8
  RsaPrivateKey := UInt8
  DhPublicKey := UInt8
  DhPrivateKey := Nat
  rsaEncoded k := [k]
  rsaGeneratePublic
    | [k] => .ok k
    | [] => .error .unchecked
    | _ => .error .invalidKeySpec
  sign k m := .ok (k :: m)
  verify k m sig := .ok (decide (sig = k :: m))
  dhGenerate x := .ok (x, UInt8.ofNat (3 ^ x % 17))
  dhEncoded k := [k]
  dhGeneratePublic
    | [k] => .ok k
    | [] => .error .unchecked
    | _ => .error .invalidKeySpec
  dhInit _ := .ok ()
  dhGenerateSecret x k := .ok [UInt8.ofNat (k.toNat ^ x % 17)]
  sha256 m := (m ++ List.replicate 32 0).take 32
  sha256_length m := by simp

structure KeyPair (C : Crypto) where
  public_ : C.RsaPublicKey
  private_ : C.RsaPrivateKey

/-! ## Calls -/

structure Identity (C : Crypto) where
  networkIdentifier : Option String := none
  publicKey : Option C.RsaPublicKey := none

structure CallInfo (C : Crypto) where
  shouldIntroduce : Bool := false
  requiresIntroduction : Bool := false
  identity : Option (Identity C) := none
  rxKey : Option Octets := none
  txKey : Option Octets := none

/-- The public key in `getIdentity()`; `none` also when there is no identity. -/
def CallInfo.identityKey {C : Crypto} (info : CallInfo C) : Option C.RsaPublicKey :=
  info.identity.bind Identity.publicKey

def ascii (cs : List Char) : Octets := cs.map fun c => UInt8.ofNat c.toNat

/-- What a session does besides reading and writing, as far as another party can care: it drew a
challenge, signed a message, found a signature valid, started its keep-alive worker. -/
inductive Event (C : Crypto) where
  | drew (challenge : Octets)
  | signed (message : Octets)
  | verified (key : C.RsaPublicKey) (message : Octets)
  | keepAliveStarted

/-- The objects a call's handshake works on: its `CallInfo`, and the `running` flag of the
`KeepAliveWorker` once there is one. -/
structure Call (C : Crypto) where
  callInfo : CallInfo C := {}
  keepAliveWorker : Option Bool := none

abbrev Main (C : Crypto) := Method (Event C) Exn (Call C)

def Call.setTxKey {C : Crypto} (key : Octets) (c : Call C) : Call C :=
  { c with callInfo := { c.callInfo with txKey := some key } }

def Call.setRxKey {C : Crypto} (key : Octets) (c : Call C) : Call C :=
  { c with callInfo := { c.callInfo with rxKey := some key } }

def Call.setIdentity {C : Crypto} (identity : Identity C) (c : Call C) : Call C :=
  { c with callInfo := { c.callInfo with identity := some identity } }

def Call.setRequiresIntroduction {C : Crypto} (b : Bool) (c : Call C) : Call C :=
  { c with callInfo := { c.callInfo with requiresIntroduction := b } }

end OnionPhone
