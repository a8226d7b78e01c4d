import OnionPhone.ProtocolUtils
import OnionPhone.Native.Jni

/-!
# OnionPhone.SrtpProtocol

`org.theonionphone.protocol.SrtpProtocol`: the two sides tell each other the SSRC and the salt they
send with, and hand keys, salts and SSRCs to the native library.

The objects are the `SrtpProtocol` and the process it runs in, `native`. Random draws are arguments:
the salt, and what `initRtp` reads. No status of a native call is looked at.

`srtp_set_up`: two sides that run it with each other configure each receiver with the key, the salt
and the SSRC of the other side's sender.
-/

namespace OnionPhone

open Wire Wire.Method

/-- `org.theonionphone.audio.codecs.Codec`; an RTP payload type has seven bits. -/
structure Codec where
  samplesSize : Nat
  bytesSize : Nat
  codecType : Nat
  isPayloadType : codecType < 2 ^ 7

def codec2 : Codec := ⟨160, 7, 69, by decide⟩

namespace SrtpProtocol

open Native ProtocolUtils Link

def saltSize : Nat := 14
def srtpHeaderSizeInBytes : Nat := 12
def srtpAuthorizationTagSizeInBytes : Nat := 4

/-- What `getRandomSalt` returns. -/
abbrev Salt := { m : Octets // m.length = saltSize }

/-- The `while` loop; three rounds are enough (`roundUpToMultipleOf4_spec`). -/
def roundUpToMultipleOf4 (size : Nat) : Nat := loop 3 size
where
  loop : Nat → Nat → Nat
    | 0, size => size
    | fuel + 1, size => if size % 4 ≠ 0 then loop fuel (size + 1) else size

def rtpPacketSizeInBytes (codec : Codec) : Nat :=
  srtpHeaderSizeInBytes + roundUpToMultipleOf4 codec.bytesSize

def packetSize (codec : Codec) : Nat :=
  srtpHeaderSizeInBytes + roundUpToMultipleOf4 codec.bytesSize + srtpAuthorizationTagSizeInBytes

structure Session where
  packetSizeInBytes : Nat := 0
  payloadSizeInBytes : Nat := 0
  srtpInitialized : Bool := false
  native : Globals := {}
  deriving DecidableEq, Repr

variable {ω : Type}

/-- The process is gone: it neither returns nor acts. -/
def crash {α : Type} : Method ω Exn Session α := spin

def setSizes (codec : Codec) (s : Session) : Session :=
  { s with packetSizeInBytes := packetSize codec, payloadSizeInBytes := codec.bytesSize }

/-- `initSender` on a byte array that may be null. Its status is not looked at. -/
def callInitSender (r : RtpRandom) (codec : Codec) (txKey : Option Octets) (senderSalt : Octets) :
    Method ω Exn Session Unit :=
  match txKey with
  | none => crash
  | some txKey => assign fun s => { s with native := (initSender r txKey senderSalt codec.codecType
      codec.samplesSize codec.bytesSize (rtpPacketSizeInBytes codec) (packetSize codec) s.native).2 }

def callGetSsrc : Method ω Exn Session Nat := do
  let s ← fields
  match getSsrc s.native with
  | some ssrc => pure ssrc
  | none => crash

def callInitReceiver (receiverSsrc : Nat) (rxKey receiverSalt : Option Octets) :
    Method ω Exn Session Unit :=
  match rxKey, receiverSalt with
  | some rxKey, some receiverSalt =>
    assign fun s => { s with native := (initReceiver receiverSsrc rxKey receiverSalt s.native).2 }
  | _, _ => crash

/-- An `IOException` is caught and dropped, and the salt is then not sent. -/
def sendSsrcAndSalt (salt : Octets) (senderSsrc : Nat) : Method ω Exn Session Unit :=
  fun s => .send (Octets.be32 senderSsrc) fun ok =>
    if ok then write salt (pure ()) s else .ret (.ok (), s)

def receiveSsrc : Method ω Exn Session Nat := do
  let bs ← readFully 4 (pure (Octets.be32 0))
  pure (Octets.ofBe bs)

/-- `null` after an `IOException`. -/
def receiveSalt : Method ω Exn Session (Option Octets) :=
  fun s => .recv saltSize fun bs => .ret (.ok bs, s)

def initiateOutgoingSession (codec : Codec) (senderSalt : Salt) (r : RtpRandom)
    (txKey rxKey : Option Octets) : Method ω Exn Session Unit := do
  assign (setSizes codec)
  callInitSender r codec txKey senderSalt.1
  let senderSsrc ← callGetSsrc
  sendSsrcAndSalt senderSalt.1 senderSsrc
  let receiverSsrc ← receiveSsrc
  let receiverSalt ← receiveSalt
  callInitReceiver receiverSsrc rxKey receiverSalt
  assign fun s => { s with srtpInitialized := true }

def initiateIncomingSession (codec : Codec) (senderSalt : Salt) (r : RtpRandom)
    (txKey rxKey : Option Octets) : Method ω Exn Session Unit := do
  assign (setSizes codec)
  let receiverSsrc ← receiveSsrc
  let receiverSalt ← receiveSalt
  callInitSender r codec txKey senderSalt.1
  let senderSsrc ← callGetSsrc
  sendSsrcAndSalt senderSalt.1 senderSsrc
  callInitReceiver receiverSsrc rxKey receiverSalt
  assign fun s => { s with srtpInitialized := true }

/-! ## Sizes -/

theorem roundUpToMultipleOf4_spec (size : Nat) :
    roundUpToMultipleOf4 size % 4 = 0 ∧ size ≤ roundUpToMultipleOf4 size ∧
      roundUpToMultipleOf4 size < size + 4 := by
  simp only [roundUpToMultipleOf4, roundUpToMultipleOf4.loop]
  split
  · split
    · split
      · omega
      · omega
    · omega
  · omega

/-! ## Two sides that run it with each other -/

def configured (codec : Codec) (senderSalt : Salt) (r : RtpRandom) (txKey rxKey : Octets)
    (receiverSsrc : Nat) (receiverSalt : Octets) (s : Session) : Session where
  packetSizeInBytes := packetSize codec
  payloadSizeInBytes := codec.bytesSize
  srtpInitialized := true
  native := (initReceiver receiverSsrc rxKey receiverSalt
    (initSender r txKey senderSalt.1 codec.codecType codec.samplesSize codec.bytesSize
      (rtpPacketSizeInBytes codec) (packetSize codec) s.native).2).2

theorem callInitSender_getSsrc {β : Type} (r : RtpRandom) (codec : Codec) (txKey salt : Octets)
    (f : Nat → Method ω Exn Session β) (s : Session) :
    (do callInitSender r codec (some txKey) salt; let ssrc ← callGetSsrc; f ssrc) s =
      f r.ssrc { s with native := (initSender r txKey salt codec.codecType codec.samplesSize
        codec.bytesSize (rtpPacketSizeInBytes codec) (packetSize codec) s.native).2 } := by
  simp only [callInitSender, callGetSsrc, assign_bind_run, bind_assoc_run, fields_bind_run,
    getSsrc_initSender, pure_bind_run]

theorem ssrc_and_salt {s t s' t' : Session} (salt : Salt) (ssrc : Fin (2 ^ 32)) {γ δ : Type}
    {f : Method ω Exn Session γ} {g : Nat → Option Octets → Method ω Exn Session δ}
    {c : γ} {d : δ} (h : Talk f s (g ssrc (some salt.1)) t c s' d t') :
    Talk (do sendSsrcAndSalt salt.1 ssrc; f) s
      (do let ssrc ← receiveSsrc; let salt ← receiveSalt; g ssrc salt) t c s' d t' := by
  refine ticks_send_left (ticks_send_left ?_)
  rw [List.nil_append]
  refine ticks_recv_right (Octets.be32_length ssrc) ?_
  have hs : Octets.ofBe (Octets.be32 ssrc) = (ssrc : Nat) := Octets.ofBe_be32_of_lt ssrc.2
  show Relation.ReflTransGen Tick ⟨f s, (do
    let salt ← receiveSalt; g (Octets.ofBe (Octets.be32 ssrc)) salt : Method ω Exn Session δ) t,
    [], salt.1⟩ _
  rw [hs, ← List.append_nil salt.1]
  exact ticks_recv_right salt.2 h

theorem srtp_set_up (codecA codecB : Codec) (saltA saltB : Salt) (rA rB : RtpRandom)
    (txA rxA txB rxB : Octets) (s t : Session) :
    Talk (initiateOutgoingSession codecA saltA rA (some txA) (some rxA) : Method ω Exn Session Unit)
      s (initiateIncomingSession codecB saltB rB (some txB) (some rxB)) t
      () (configured codecA saltA rA txA rxA rB.ssrc saltB.1 s)
      () (configured codecB saltB rB txB rxB rA.ssrc saltA.1 t) := by
  unfold Talk initiateOutgoingSession initiateIncomingSession
  rw [assign_bind_run, assign_bind_run, callInitSender_getSsrc]
  refine ssrc_and_salt saltA rA.ssrc ?_
  unfold Talk
  rw [callInitSender_getSsrc]
  refine Talk.swap (ssrc_and_salt saltB rB.ssrc ?_)
  exact .refl

/-! ## What the library was given -/

theorem configured_recv {codec : Codec} {senderSalt : Salt} {r : RtpRandom} {txKey rxKey : Octets}
    {receiverSsrc : Nat} {receiverSalt : Octets} {s : Session} (h : Reached s.native) :
    (configured codec senderSalt r txKey rxKey receiverSsrc receiverSalt s).native.srtpContextRecv =
      some ⟨[newStream receiverSsrc (srtpKey rxKey receiverSalt)]⟩ := by
  unfold configured
  rw [initReceiver_loaded (h.initSender_kernel ..)]

theorem configured_send {codec : Codec} {senderSalt : Salt} {r : RtpRandom} {txKey rxKey : Octets}
    {receiverSsrc : Nat} {receiverSalt : Octets} {s : Session} (h : s.native.kernel = {}) :
    (configured codec senderSalt r txKey rxKey receiverSsrc receiverSalt s).native.srtpContextSend =
      some ⟨[newStream r.ssrc (srtpKey txKey senderSalt.1)]⟩ := by
  unfold configured
  rw [initSender_fresh h, initReceiver_loaded rfl]

end SrtpProtocol
end OnionPhone
