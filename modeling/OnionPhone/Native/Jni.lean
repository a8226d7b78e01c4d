import OnionPhone.Native.Srtp

/-!
# OnionPhone.Native.Jni

The native library of the phone: RTP headers (`simple_rtp.c`) and the functions Java calls
(`srtp_jni.c`). Their variables are globals of the process, so they outlive every call.

What `/dev/urandom` delivers is an argument. A function that follows a null or dangling pointer
crashes the process, which is the result `none`.
-/

namespace OnionPhone
namespace Native

open Wire Wire.Octets

/-! ## `simple_rtp.c` -/

/-- The fields are `uint32_t`, `uint16_t` for `mSequence`. -/
structure RtpContext where
  mCodecMagic : Nat
  mSampleCount : Nat
  mSequence : Nat
  mTimestamp : Nat
  mSsrc : Nat
  deriving DecidableEq, Repr

/-- What `initRtp` reads from `/dev/urandom`. -/
structure RtpRandom where
  sequence : Fin (2 ^ 16)
  timestamp : Fin (2 ^ 32)
  ssrc : Fin (2 ^ 32)
  deriving DecidableEq, Repr

def initRtp (r : RtpRandom) (codecType sampleCount : Nat) : RtpContext where
  mCodecMagic := ((0xA000 ||| codecType) <<< 16) % 2 ^ 32
  mSampleCount := sampleCount % 2 ^ 32
  mSequence := r.sequence
  mTimestamp := r.timestamp
  mSsrc := r.ssrc

def RtpContext.next (ctx : RtpContext) : RtpContext :=
  { ctx with
    mSequence := (ctx.mSequence + 1) % 2 ^ 16
    mTimestamp := (ctx.mTimestamp + ctx.mSampleCount) % 2 ^ 32 }

def RtpContext.header (ctx : RtpContext) : Octets :=
  be32 (ctx.mCodecMagic ||| ctx.mSequence) ++ be32 ctx.mTimestamp ++ be32 ctx.mSsrc

def getNextPacketHeader (ctx : RtpContext) (output : Octets) : RtpContext × Octets :=
  (ctx.next, writeAt output 0 ctx.next.header)

/-! ## `srtp_jni.c` -/

structure Globals where
  kernel : CryptoKernel := {}
  rtpContext : Option RtpContext := none
  srtpContextSend : Option SrtpCtx := none
  srtpContextRecv : Option SrtpCtx := none
  payloadSize : Nat := 0
  rtpPacketSize : Nat := 0
  srtpPacketSize : Nat := 0
  deriving DecidableEq, Repr

def keySize : Nat := 16
def saltSize : Nat := 14

/-- `GetByteArrayRegion` twice: the array that srtp needs. -/
def srtpKey (key salt : Octets) : Octets := key.take keySize ++ salt.take saltSize

/-- The policy both `initSender` and `initReceiver` set up. -/
def policy (ssrc : Nat) (key : Octets) : SrtpPolicy where
  ssrc := ssrc
  rtp := { aesCm128HmacSha132 with secServ := .confAndAuth }
  rtcp := { rtcpDefault with secServ := .none }
  key := key

def initSender (r : RtpRandom) (key salt : Octets)
    (codecType sampleCount payloadSizeInBytes rtpPacketSizeInBytes srtpPacketSizeInBytes : Nat)
    (g : Globals) : ErrStatus × Globals :=
  let rtpContext := initRtp r codecType sampleCount
  let g := { g with
    payloadSize := payloadSizeInBytes
    rtpPacketSize := rtpPacketSizeInBytes
    srtpPacketSize := srtpPacketSizeInBytes
    rtpContext := some rtpContext }
  match srtpInit g.kernel with
  | (.ok, kernel) =>
    let created := srtpCreate kernel (policy rtpContext.mSsrc (srtpKey key salt))
    (created.1, { g with kernel := kernel, srtpContextSend := created.2 })
  | (status, kernel) => (status, { g with kernel := kernel })

def getSsrc (g : Globals) : Option Nat := g.rtpContext.map RtpContext.mSsrc

def initReceiver (ssrc : Nat) (key salt : Octets) (g : Globals) : ErrStatus × Globals :=
  let created := srtpCreate g.kernel (policy ssrc (srtpKey key salt))
  (created.1, { g with srtpContextRecv := created.2 })

def wrapPayloadNative (P : Primitives) (packet : Octets) (g : Globals) :
    Option (ErrStatus × Octets × Globals) := do
  let rtpContext ← g.rtpContext
  let srtpContextSend ← g.srtpContextSend
  let (rtpContext, packetNative) := getNextPacketHeader rtpContext packet
  let out := srtpProtect P srtpContextSend packetNative g.rtpPacketSize
  pure (out.status, out.packet,
    { g with rtpContext := some rtpContext, srtpContextSend := some out.ctx })

def unwrapPacketNative (P : Primitives) (packet : Octets) (g : Globals) :
    Option (ErrStatus × Octets × Globals) := do
  let srtpContextRecv ← g.srtpContextRecv
  let out := srtpUnprotect P srtpContextRecv packet g.srtpPacketSize
  pure (out.status, out.packet, { g with srtpContextRecv := some out.ctx })

/-! ## Sessions that are made -/

def newStream (ssrc : Nat) (key : Octets) : SrtpStream := srtpStreamInit (policy ssrc key)

theorem srtpCreate_loaded (ssrc : Nat) (key : Octets) :
    srtpCreate loadedKernel (policy ssrc key) = (.ok, some ⟨[newStream ssrc key]⟩) := rfl

theorem getSsrc_initSender (r : RtpRandom) (key salt : Octets) (ct sc ps rs ss : Nat)
    (g : Globals) : getSsrc (initSender r key salt ct sc ps rs ss g).2 = some (r.ssrc : Nat) := by
  simp only [initSender]
  split <;> rfl

theorem initSender_fresh {g : Globals} (h : g.kernel = {}) (r : RtpRandom) (key salt : Octets)
    (ct sc ps rs ss : Nat) :
    initSender r key salt ct sc ps rs ss g = (.ok,
      { kernel := loadedKernel
        rtpContext := some (initRtp r ct sc)
        srtpContextSend := some ⟨[newStream r.ssrc (srtpKey key salt)]⟩
        srtpContextRecv := g.srtpContextRecv
        payloadSize := ps
        rtpPacketSize := rs
        srtpPacketSize := ss }) := by
  simp only [initSender, h, srtpInit_fresh, initRtp, srtpCreate_loaded]

/-- The second `srtp_init` of a process fails, and with it everything that comes after it. -/
theorem initSender_loaded {g : Globals} (h : g.kernel = loadedKernel) (r : RtpRandom)
    (key salt : Octets) (ct sc ps rs ss : Nat) :
    initSender r key salt ct sc ps rs ss g = (.badParam,
      { g with
        rtpContext := some (initRtp r ct sc)
        payloadSize := ps
        rtpPacketSize := rs
        srtpPacketSize := ss }) := by
  simp only [initSender, h, srtpInit_loaded]

theorem initReceiver_loaded {g : Globals} (h : g.kernel = loadedKernel) (ssrc : Nat)
    (key salt : Octets) :
    initReceiver ssrc key salt g = (.ok,
      { g with srtpContextRecv := some ⟨[newStream ssrc (srtpKey key salt)]⟩ }) := by
  simp only [initReceiver, h, srtpCreate_loaded]

/-! ## The states of a process -/

/-- What a process can make of its globals by calling the native functions. -/
inductive Reached : Globals → Prop where
  | start : Reached {}
  | initSender {g : Globals} (r : RtpRandom) (key salt : Octets) (ct sc ps rs ss : Nat)
      (h : Reached g) : Reached (initSender r key salt ct sc ps rs ss g).2
  | initReceiver {g : Globals} (ssrc : Nat) (key salt : Octets) (h : Reached g) :
      Reached (initReceiver ssrc key salt g).2
  | wrapPayloadNative {g g' : Globals} {P : Primitives} {packet out : Octets} {status : ErrStatus}
      (h : Reached g) (hw : wrapPayloadNative P packet g = some (status, out, g')) : Reached g'
  | unwrapPacketNative {g g' : Globals} {P : Primitives} {packet out : Octets} {status : ErrStatus}
      (h : Reached g) (hw : unwrapPacketNative P packet g = some (status, out, g')) : Reached g'

theorem wrapPayloadNative_kernel {g g' : Globals} {P : Primitives} {packet out : Octets}
    {status : ErrStatus} (h : wrapPayloadNative P packet g = some (status, out, g')) :
    g'.kernel = g.kernel := by
  simp only [wrapPayloadNative, Option.bind_eq_bind, Option.bind_eq_some_iff] at h
  obtain ⟨c, _, s, _, h⟩ := h
  cases h
  rfl

theorem unwrapPacketNative_kernel {g g' : Globals} {P : Primitives} {packet out : Octets}
    {status : ErrStatus} (h : unwrapPacketNative P packet g = some (status, out, g')) :
    g'.kernel = g.kernel := by
  simp only [unwrapPacketNative, Option.bind_eq_bind, Option.bind_eq_some_iff] at h
  obtain ⟨s, _, h⟩ := h
  cases h
  rfl

theorem Reached.kernel {g : Globals} (h : Reached g) : g.kernel = {} ∨ g.kernel = loadedKernel := by
  induction h with
  | start => exact .inl rfl
  | initSender r key salt ct sc ps rs ss _ ih =>
    right
    rcases ih with ih | ih
    · rw [initSender_fresh ih]
    · rw [initSender_loaded ih]
      exact ih
  | initReceiver ssrc key salt _ ih => exact ih
  | wrapPayloadNative _ hw ih => rw [wrapPayloadNative_kernel hw]; exact ih
  | unwrapPacketNative _ hw ih => rw [unwrapPacketNative_kernel hw]; exact ih

theorem Reached.initSender_kernel {g : Globals} (h : Reached g) (r : RtpRandom)
    (key salt : Octets) (ct sc ps rs ss : Nat) :
    (Native.initSender r key salt ct sc ps rs ss g).2.kernel = loadedKernel := by
  rcases h.kernel with hk | hk
  · rw [initSender_fresh hk]
  · rw [initSender_loaded hk]
    exact hk

end Native
end OnionPhone
