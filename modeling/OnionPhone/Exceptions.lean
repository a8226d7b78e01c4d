import OnionPhone.MainProtocol
import OnionPhone.SrtpProtocol

/-!
# OnionPhone.Exceptions

What the methods of the handshake throw, whatever the peer sends and wherever a read or a write fails.

`ofHandshake`: a protocol or security exception with its text, or one of those the methods do not mean to
throw: `NegativeArraySizeException` for a negative size, `NullPointerException`, and the unchecked exceptions
of the provider. Never an `IOException`: each is caught where it arises.
-/

namespace OnionPhone

open Wire Wire.Method ProtocolUtils KeyExchange MainProtocol

def Exn.ofHandshake : Exn → Bool
  | .mainProtocol _ => true
  | .security _ => true
  | .negativeArraySize => true
  | .nullPointer => true
  | .provider => true
  | _ => false

/-- The method throws nothing else than the handshake does. -/
abbrev Tame {ω σ α : Type} (m : Method ω Exn σ α) : Prop :=
  Throws (fun e => e.ofHandshake = true) m

namespace Tame

variable {ω σ : Type} {C : Crypto}

/-! ## Messages -/

theorem sendMessage (msg : Octets) : Tame (sendMessage msg : Method ω Exn σ Unit) :=
  .write msg (.throw rfl)

theorem sendMessageWithSizeFirst (msg : Octets) :
    Tame (sendMessageWithSizeFirst msg : Method ω Exn σ Unit) :=
  .bind (.write _ (.throw rfl)) fun _ => sendMessage msg

theorem receiveMessageInto (n : Nat) : Tame (receiveMessageInto n : Method ω Exn σ Octets) :=
  .readFully n (.throw rfl)

theorem receiveSpecificMessage (msg : Octets) :
    Tame (receiveSpecificMessage msg : Method ω Exn σ Unit) :=
  .bind (receiveMessageInto _) fun _ => .ite (.throw rfl) (.pure ())

theorem receiveMessageWithSizeFirst :
    Tame (receiveMessageWithSizeFirst : Method ω Exn σ Octets) := by
  refine .bind (.readFully 4 (.throw rfl)) ?_
  intro size
  cases toInt (Octets.ofBe size) with
  | ofNat n => exact receiveMessageInto n
  | negSucc n => exact .throw rfl

theorem receiveEither (yes no : Octets) : Tame (receiveEither yes no : Main C Bool) :=
  .bind (receiveMessageInto _) fun _ => .ite (.pure true) (.ite (.pure false) (.throw rfl))

/-! ## Introductions -/

theorem signMessage (keyPair : KeyPair C) (msg : Octets) : Tame (signMessage keyPair msg) := by
  unfold MainProtocol.signMessage
  split
  · exact .bind (.note _) fun _ => .pure _
  · exact .throw rfl
  · exact .throw rfl
  · exact .throw rfl
  · exact .throw rfl

theorem proveIdentityToOtherParty (keyPair : KeyPair C) :
    Tame (proveIdentityToOtherParty keyPair) := by
  refine .bind (sendMessageWithSizeFirst _) fun _ => ?_
  refine .bind (receiveMessageInto _) fun msg => ?_
  exact .bind (signMessage keyPair msg) fun sig => sendMessageWithSizeFirst sig

theorem parsePublicKey (encoded : Octets) : Tame (parsePublicKey encoded : Main C _) := by
  unfold MainProtocol.parsePublicKey
  split
  · exact .pure _
  · exact .throw rfl
  · exact .throw rfl
  · exact .throw rfl

theorem verifySignature (key : C.RsaPublicKey) (msg sig : Octets) :
    Tame (verifySignature key msg sig) := by
  unfold MainProtocol.verifySignature
  split
  · exact .note _
  · exact .throw rfl
  · exact .throw rfl
  · exact .throw rfl
  · exact .throw rfl
  · exact .throw rfl

theorem receiveAndVerifyPublicKey (challenge : Challenge) :
    Tame (receiveAndVerifyPublicKey challenge : Main C _) := by
  refine .bind receiveMessageWithSizeFirst fun encoded => ?_
  refine .bind (parsePublicKey encoded) fun key => ?_
  refine .bind (.note _) fun _ => ?_
  refine .bind (sendMessage _) fun _ => ?_
  refine .bind receiveMessageWithSizeFirst fun sig => ?_
  exact .bind (verifySignature key _ sig) fun _ => .pure key

/-! ## Key exchange -/

theorem initKeyAgreement (key : C.DhPrivateKey) : Tame (initKeyAgreement key) := by
  unfold KeyExchange.initKeyAgreement
  split
  · exact .pure ()
  · exact .throw rfl
  · exact .throw rfl
  · exact .throw rfl
  · exact .throw rfl

theorem getOtherPartyPublicKey : Tame (getOtherPartyPublicKey : Main C _) := by
  refine .bind receiveMessageWithSizeFirst fun encoded => ?_
  unfold getOtherPartyPublicKey.parse
  split
  · exact .pure _
  · exact .throw rfl
  · exact .throw rfl
  · exact .throw rfl
  · exact .throw rfl

theorem generateSecret (key : C.DhPrivateKey) (other : C.DhPublicKey) :
    Tame (generateSecret key other) := by
  unfold KeyExchange.generateSecret
  split
  · exact .pure _
  · exact .throw rfl
  · exact .throw rfl
  · exact .throw rfl

theorem generateKeyPair (noAlgorithm noProvider : String) (x : Nat) :
    Tame (generateKeyPair noAlgorithm noProvider x : Main C _) := by
  unfold KeyExchange.generateKeyPair
  split
  · exact .pure _
  · exact .throw rfl
  · exact .throw rfl
  · exact .throw rfl

theorem initiateKeyExchange (x : Nat) : Tame (initiateKeyExchange x : Main C Unit) := by
  refine .bind (generateKeyPair _ _ x) fun keyPair => ?_
  refine .bind (sendMessageWithSizeFirst _) fun _ => ?_
  refine .bind (initKeyAgreement _) fun _ => ?_
  refine .bind getOtherPartyPublicKey fun other => ?_
  refine .bind (generateSecret _ other) fun secret => ?_
  exact .bind (.assign _) fun _ => .assign _

theorem handleKeyExchange (x : Nat) : Tame (handleKeyExchange x : Main C Unit) := by
  refine .bind (generateKeyPair _ _ x) fun keyPair => ?_
  refine .bind (sendMessageWithSizeFirst _) fun _ => ?_
  refine .bind (initKeyAgreement _) fun _ => ?_
  refine .bind getOtherPartyPublicKey fun other => ?_
  refine .bind (generateSecret _ other) fun secret => ?_
  exact .bind (.assign _) fun _ => .assign _

/-! ## The caller -/

theorem waitForAccept (fuel : Nat) : Tame (waitForAccept fuel : Main C Unit) := by
  induction fuel with
  | zero => exact .spin
  | succ fuel ih =>
    refine .bind (receiveMessageInto _) fun msg => ?_
    exact .ite ih (.ite (.pure ()) (.ite (.throw rfl) (.throw rfl)))

theorem adoptPublicKey (key : C.RsaPublicKey) : Tame (adoptPublicKey key) := by
  refine .bind .fields fun c => ?_
  split
  · exact .throw rfl
  · refine .bind ?_ fun _ => .assign _
    unfold validateKeyAgainstExpected
    split
    · exact .pure ()
    · exact .ite (.throw rfl) (.pure ())

theorem initiateOutgoingSession (fuel : Nat) (keyPair : KeyPair C) (challenge : Challenge)
    (x : Nat) : Tame (initiateOutgoingSession fuel keyPair challenge x) := by
  refine .bind ?_ fun _ => ?_
  · refine .bind (sendMessage _) fun _ => ?_
    refine .bind (receiveSpecificMessage _) fun _ => ?_
    exact .bind (receiveSpecificMessage _) fun _ => sendMessage _
  refine .bind ?_ fun _ => ?_
  · exact .bind (sendMessage _) fun _ => .bind (receiveMessageInto _) fun _ => .pure ()
  refine .bind ?_ fun _ => ?_
  · refine .bind .fields fun c => ?_
    exact .ite (.bind (sendMessage _) fun _ => proveIdentityToOtherParty keyPair) (sendMessage _)
  refine .bind ?_ fun _ => ?_
  · exact .bind .fields fun c => .ite (sendMessage _) (sendMessage _)
  refine .bind (waitForAccept fuel) fun _ => ?_
  refine .bind ?_ fun _ => initiateKeyExchange x
  refine .bind .fields fun c => ?_
  exact .ite (.bind (receiveAndVerifyPublicKey challenge) adoptPublicKey) (.pure ())

/-! ## The callee -/

theorem handleIncomingIntroduction (challenge : Challenge) :
    Tame (handleIncomingIntroduction challenge : Main C _) := by
  refine .bind (receiveEither _ _) fun introducing => ?_
  refine .ite ?_ (.pure _)
  exact .bind (receiveAndVerifyPublicKey challenge) fun _ => .pure _

theorem initiateIncomingSession (challenge : Challenge) :
    Tame (initiateIncomingSession challenge : Main C Unit) := by
  refine .bind (.assign _) fun _ => ?_
  refine .bind ?_ fun _ => ?_
  · refine .bind (receiveSpecificMessage _) fun _ => ?_
    refine .bind (sendMessage _) fun _ => ?_
    exact .bind (sendMessage _) fun _ => receiveSpecificMessage _
  refine .bind ?_ fun _ => ?_
  · exact .bind (.bind (receiveMessageInto _) fun _ => .pure ()) fun _ => sendMessage _
  refine .bind (handleIncomingIntroduction challenge) fun _ => ?_
  refine .bind (.assign _) fun _ => ?_
  refine .bind (receiveEither _ _) fun _ => ?_
  refine .bind (.assign _) fun _ => ?_
  exact .bind (.note _) fun _ => .assign _

theorem stopSending : Tame (stopSending : Main C Unit) := by
  refine .bind .fields fun c => ?_
  split
  · exact .throw rfl
  · exact .assign _

theorem acceptCall (keyPair : KeyPair C) (x : Nat) : Tame (acceptCall keyPair x) := by
  refine .bind stopSending fun _ => ?_
  refine .bind (sendMessage _) fun _ => ?_
  refine .bind ?_ fun _ => handleKeyExchange x
  refine .bind .fields fun c => ?_
  exact .ite (proveIdentityToOtherParty keyPair) (.pure ())

/-! ## The media session -/

open SrtpProtocol Native

theorem callInitSender (r : RtpRandom) (codec : Codec) (txKey : Option Octets) (salt : Octets) :
    Tame (callInitSender r codec txKey salt : Method ω Exn Session Unit) := by
  cases txKey with
  | none => exact .spin
  | some key => exact .assign _

theorem callGetSsrc : Tame (callGetSsrc : Method ω Exn Session Nat) := by
  refine .bind .fields fun s => ?_
  split
  · exact .pure _
  · exact .spin

theorem callInitReceiver (ssrc : Nat) (rxKey salt : Option Octets) :
    Tame (callInitReceiver ssrc rxKey salt : Method ω Exn Session Unit) := by
  unfold SrtpProtocol.callInitReceiver
  split
  · exact .assign _
  · exact .spin

theorem sendSsrcAndSalt (salt : Octets) (ssrc : Nat) :
    Tame (sendSsrcAndSalt salt ssrc : Method ω Exn Session Unit) := by
  intro s ok
  cases ok with
  | true => exact Throws.write salt (.pure ()) s
  | false => exact Throws.pure () s

theorem receiveSsrc : Tame (receiveSsrc : Method ω Exn Session Nat) :=
  .bind (.readFully 4 (.pure _)) fun _ => .pure _

theorem receiveSalt : Tame (receiveSalt : Method ω Exn Session (Option Octets)) :=
  fun s o => Throws.pure o s

theorem srtpOutgoing (codec : Codec) (salt : Salt) (r : RtpRandom) (txKey rxKey : Option Octets) :
    Tame (SrtpProtocol.initiateOutgoingSession codec salt r txKey rxKey :
      Method ω Exn Session Unit) := by
  refine .bind (.assign _) fun _ => ?_
  refine .bind (callInitSender r codec txKey _) fun _ => ?_
  refine .bind callGetSsrc fun ssrc => ?_
  refine .bind (sendSsrcAndSalt _ ssrc) fun _ => ?_
  refine .bind receiveSsrc fun ssrc => ?_
  refine .bind receiveSalt fun salt => ?_
  exact .bind (callInitReceiver ssrc rxKey salt) fun _ => .assign _

theorem srtpIncoming (codec : Codec) (salt : Salt) (r : RtpRandom) (txKey rxKey : Option Octets) :
    Tame (SrtpProtocol.initiateIncomingSession codec salt r txKey rxKey :
      Method ω Exn Session Unit) := by
  refine .bind (.assign _) fun _ => ?_
  refine .bind receiveSsrc fun receiverSsrc => ?_
  refine .bind receiveSalt fun receiverSalt => ?_
  refine .bind (callInitSender r codec txKey _) fun _ => ?_
  refine .bind callGetSsrc fun ssrc => ?_
  refine .bind (sendSsrcAndSalt _ ssrc) fun _ => ?_
  exact .bind (callInitReceiver receiverSsrc rxKey receiverSalt) fun _ => .assign _

end Tame
end OnionPhone
