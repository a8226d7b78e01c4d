import OnionPhone.Native.Live
import OnionPhone.Native.PacketIndex

/-!
# OnionPhone.Native.LiveJni

The functions that Java calls (`srtp_jni.c`), on sessions whose contexts are in memory. What memory holds when
it is allocated, what stands behind the key, and what each call finds on the stack are arguments.

* `InStepWith g l`: the process `l` is in memory what `g` says.
* `call_live`: every call of a native function gives the same answer at both levels and keeps them in step.
* `native_replies_refine`: so any calls, in any order, give the same answers, up to one that crashes both.
-/

namespace OnionPhone
namespace Native

open Wire Wire.Octets SrtpProtocol

/-! ## The code -/

/-- Memory as it is allocated for a stream, and what is on the stack while its keys are made. -/
structure RawMemory where
  rtpCipher : AesIcmCtx
  rtpAuth : HmacCtx
  rtcpCipher : AesIcmCtx
  rtcpAuth : HmacCtx
  keyMemory : KeyMemory
  /-- What stands behind the array `srtpKey`. -/
  behindKey : Octets

/-- The ciphers and authentication functions that `srtp_stream_alloc` allocates. -/
def RawMemory.alloc (raw : RawMemory) (p : SrtpPolicy) : Keys where
  rtpCipher := raw.rtpCipher
  rtpAuth := ⟨p.rtp.authTagLen, p.rtp.authKeyLen, raw.rtpAuth⟩
  rtcpCipher := raw.rtcpCipher
  rtcpAuth := ⟨p.rtcp.authTagLen, p.rtcp.authKeyLen, raw.rtcpAuth⟩

/-- `srtp_create` with the policy that both `initSender` and `initReceiver` set up. -/
def srtpCreateLive (raw : RawMemory) (k : CryptoKernel) (ssrc : Nat) (key : Octets) :
    ErrStatus × Option LiveCtx :=
  let p := policy ssrc key
  match srtpStreamAlloc k p with
  | .ok =>
    match srtpStreamInitKeys raw.keyMemory (raw.alloc p) (key ++ raw.behindKey) (show 20 ≤ 256 by decide)
      (show 20 ≤ 256 by decide) with
    | none => (.initFail, none)
    | some keys =>
      (.ok, some ⟨[⟨ssrc, ⟨0xffffffffffff, .normal⟩, rdbxInit, p.rtp.secServ, .unknown, keys⟩]⟩)
  | status => (status, none)

/-- `onStack n` is what the `n`-th call from now on finds on the stack. -/
structure LiveGlobals where
  kernel : CryptoKernel := {}
  rtpContext : Option RtpContext := none
  srtpContextSend : Option LiveCtx := none
  srtpContextRecv : Option LiveCtx := none
  payloadSize : Nat := 0
  rtpPacketSize : Nat := 0
  srtpPacketSize : Nat := 0
  onStack : Nat → Stack

def initSenderLive (raw : RawMemory) (r : RtpRandom) (key salt : Octets)
    (codecType sampleCount payloadSizeInBytes rtpPacketSizeInBytes srtpPacketSizeInBytes : Nat)
    (g : LiveGlobals) : ErrStatus × LiveGlobals :=
  let rtpContext := initRtp r codecType sampleCount
  let g := { g with
    payloadSize := payloadSizeInBytes
    rtpPacketSize := rtpPacketSizeInBytes
    srtpPacketSize := srtpPacketSizeInBytes
    rtpContext := some rtpContext }
  match srtpInit g.kernel with
  | (.ok, kernel) =>
    let created := srtpCreateLive raw kernel rtpContext.mSsrc (srtpKey key salt)
    (created.1, { g with kernel := kernel, srtpContextSend := created.2 })
  | (status, kernel) => (status, { g with kernel := kernel })

def initReceiverLive (raw : RawMemory) (ssrc : Nat) (key salt : Octets) (g : LiveGlobals) :
    ErrStatus × LiveGlobals :=
  let created := srtpCreateLive raw g.kernel ssrc (srtpKey key salt)
  (created.1, { g with srtpContextRecv := created.2 })

def wrapPayloadNativeLive (packet : Octets) (g : LiveGlobals) :
    Option (ErrStatus × Octets × LiveGlobals) := do
  let rtpContext ← g.rtpContext
  let srtpContextSend ← g.srtpContextSend
  let (rtpContext, packetNative) := getNextPacketHeader rtpContext packet
  let out := srtpProtectLive (g.onStack 0) srtpContextSend packetNative g.rtpPacketSize
  pure (out.status, out.packet,
    { g with
      rtpContext := some rtpContext, srtpContextSend := some out.ctx, onStack := fun n => g.onStack (n + 1) })

def unwrapPacketNativeLive (packet : Octets) (g : LiveGlobals) :
    Option (ErrStatus × Octets × LiveGlobals) := do
  let srtpContextRecv ← g.srtpContextRecv
  let out := srtpUnprotectLive (g.onStack 0) srtpContextRecv packet g.srtpPacketSize
  pure (out.status, out.packet,
    { g with srtpContextRecv := some out.ctx, onStack := fun n => g.onStack (n + 1) })

/-! ## Sessions -/

/-- A session that was just created: with the thirty octets of the key in memory, whatever else is. -/
theorem srtpCreate_live (raw : RawMemory) (k : CryptoKernel) (ssrc : Nat) {key : Octets}
    (hkey : key.length = 30) :
    (srtpCreateLive raw k ssrc key).1 = (srtpCreate k (policy ssrc key)).1 ∧
      Option.Rel CtxRepresents (srtpCreate k (policy ssrc key)).2 (srtpCreateLive raw k ssrc key).2 := by
  rw [srtpCreateLive, srtpCreate, srtpAddStream]
  simp only
  cases srtpStreamAlloc k (policy ssrc key) with
  | ok =>
    have htake : (key ++ raw.behindKey).take 30 = key.take 30 :=
      List.take_append_of_le_length (Nat.le_of_eq hkey.symm)
    have hrtp : (raw.alloc (policy ssrc key)).rtpAuth.keyLen ≤ 20 := Nat.le_refl 20
    have hrtcp : (raw.alloc (policy ssrc key)).rtcpAuth.keyLen ≤ 20 := Nat.le_refl 20
    obtain ⟨keys, hkeys, hof⟩ := srtpStreamInitKeys_spec raw.keyMemory htake hrtp hrtcp
      (show 20 ≤ 256 by decide) (show 20 ≤ 256 by decide)
    rw [hkeys]
    refine ⟨rfl, .some (.cons ?_ .nil)⟩
    exact ⟨rfl, rfl, rfl, rfl, rfl, hof.rtpCipher, hof.rtpAuth, hof.rtpOutLen, show 4 ≤ 12 by decide⟩
  | _ => exact ⟨rfl, .none⟩

/-! ## The process -/

/-- `l` is in memory what `g` says, and the packets are short enough for the hash to count their bits. -/
structure InStepWith (g : Globals) (l : LiveGlobals) : Prop where
  kernel : l.kernel = g.kernel
  rtpContext : l.rtpContext = g.rtpContext
  send : Option.Rel CtxRepresents g.srtpContextSend l.srtpContextSend
  recv : Option.Rel CtxRepresents g.srtpContextRecv l.srtpContextRecv
  rtpPacketSize : l.rtpPacketSize = g.rtpPacketSize
  srtpPacketSize : l.srtpPacketSize = g.srtpPacketSize
  rtp_lt : g.rtpPacketSize < 2 ^ 28
  srtp_lt : g.srtpPacketSize < 2 ^ 28

theorem start_inStepWith (onStack : Nat → Stack) : InStepWith {} { onStack := onStack } :=
  ⟨rfl, rfl, .none, .none, rfl, rfl, by decide, by decide⟩

theorem initSender_live {g : Globals} {l : LiveGlobals} (h : InStepWith g l) (raw : RawMemory) (r : RtpRandom)
    {key salt : Octets} (hkey : (srtpKey key salt).length = 30) (ct sc ps : Nat) {rs ss : Nat}
    (hrs : rs < 2 ^ 28) (hss : ss < 2 ^ 28) :
    (initSenderLive raw r key salt ct sc ps rs ss l).1 = (initSender r key salt ct sc ps rs ss g).1 ∧
      InStepWith (initSender r key salt ct sc ps rs ss g).2 (initSenderLive raw r key salt ct sc ps rs ss l).2 := by
  simp only [initSender, initSenderLive, h.kernel]
  cases srtpInit g.kernel with
  | mk status kernel =>
    cases status with
    | ok =>
      obtain ⟨hstatus, hctx⟩ := srtpCreate_live raw kernel (initRtp r ct sc).mSsrc hkey
      exact ⟨hstatus, ⟨rfl, rfl, hctx, h.recv, rfl, rfl, hrs, hss⟩⟩
    | _ => exact ⟨rfl, ⟨rfl, rfl, h.send, h.recv, rfl, rfl, hrs, hss⟩⟩

theorem initReceiver_live {g : Globals} {l : LiveGlobals} (h : InStepWith g l) (raw : RawMemory) (ssrc : Nat)
    {key salt : Octets} (hkey : (srtpKey key salt).length = 30) :
    (initReceiverLive raw ssrc key salt l).1 = (initReceiver ssrc key salt g).1 ∧
      InStepWith (initReceiver ssrc key salt g).2 (initReceiverLive raw ssrc key salt l).2 := by
  obtain ⟨hstatus, hctx⟩ := srtpCreate_live raw g.kernel ssrc hkey
  simp only [initReceiver, initReceiverLive, h.kernel]
  exact ⟨hstatus, ⟨rfl, h.rtpContext, h.send, hctx, h.rtpPacketSize, h.srtpPacketSize, h.rtp_lt, h.srtp_lt⟩⟩

/-- The answers of two levels: both crash, or they agree and stay in step. -/
def SameAnswer (x : Option (ErrStatus × Octets × Globals)) (y : Option (ErrStatus × Octets × LiveGlobals)) :
    Prop :=
  Option.Rel (fun a b => a.1 = b.1 ∧ a.2.1 = b.2.1 ∧ InStepWith a.2.2 b.2.2) x y

theorem SameAnswer.of_some {status : ErrStatus} {packet : Octets} {g : Globals}
    {y : Option (ErrStatus × Octets × LiveGlobals)} (h : SameAnswer (some (status, packet, g)) y) :
    ∃ l, y = some (status, packet, l) ∧ InStepWith g l := by
  cases h with
  | @some _ b hab =>
    obtain ⟨status', packet', l⟩ := b
    obtain ⟨hstatus, hpacket, hin⟩ := hab
    simp only at hstatus hpacket hin
    subst hstatus hpacket
    exact ⟨l, rfl, hin⟩

theorem wrapPayloadNative_live {g : Globals} {l : LiveGlobals} (h : InStepWith g l) (packet : Octets) :
    SameAnswer (wrapPayloadNative libsrtp packet g) (wrapPayloadNativeLive packet l) := by
  have hsend := h.send
  simp only [wrapPayloadNative, wrapPayloadNativeLive, h.rtpContext, h.rtpPacketSize]
  cases g.rtpContext with
  | none => exact .none
  | some rtpContext =>
    generalize g.srtpContextSend = send at hsend ⊢
    generalize l.srtpContextSend = send' at hsend ⊢
    cases hsend with
    | none => exact .none
    | @some ctx live hctx =>
      have hagree := srtpProtect_live hctx (l.onStack 0) (getNextPacketHeader rtpContext packet).2 h.rtp_lt
      refine .some ⟨hagree.status.symm, hagree.packet.symm, ?_⟩
      exact ⟨h.kernel, rfl, .some hagree.ctx, h.recv, rfl, h.srtpPacketSize, h.rtp_lt, h.srtp_lt⟩

theorem unwrapPacketNative_live {g : Globals} {l : LiveGlobals} (h : InStepWith g l) (packet : Octets) :
    SameAnswer (unwrapPacketNative libsrtp packet g) (unwrapPacketNativeLive packet l) := by
  have hrecv := h.recv
  simp only [unwrapPacketNative, unwrapPacketNativeLive, h.srtpPacketSize]
  generalize g.srtpContextRecv = recv at hrecv ⊢
  generalize l.srtpContextRecv = recv' at hrecv ⊢
  cases hrecv with
  | none => exact .none
  | @some ctx live hctx =>
    have hagree := srtpUnprotect_live hctx (l.onStack 0) packet h.srtp_lt
    refine .some ⟨hagree.status.symm, hagree.packet.symm, ?_⟩
    exact ⟨h.kernel, h.rtpContext, h.send, .some hagree.ctx, h.rtpPacketSize, rfl, h.rtp_lt, h.srtp_lt⟩

/-! ## Calls in any order -/

/-- The calls that Java makes, with arrays that are long enough for a key and a salt, and with packets of
fewer than `2^28` octets. -/
inductive NativeCall where
  | initSender (raw : RawMemory) (r : RtpRandom) (key salt : Octets) (hkey : (srtpKey key salt).length = 30)
      (codecType sampleCount payloadSize rtpPacketSize srtpPacketSize : Nat) (hrtp : rtpPacketSize < 2 ^ 28)
      (hsrtp : srtpPacketSize < 2 ^ 28)
  | getSsrc
  | initReceiver (raw : RawMemory) (ssrc : Nat) (key salt : Octets) (hkey : (srtpKey key salt).length = 30)
  | wrapPayloadNative (packet : Octets)
  | unwrapPacketNative (packet : Octets)

inductive Answer where
  | status (status : ErrStatus)
  | ssrc (ssrc : Nat)
  | packet (status : ErrStatus) (packet : Octets)
  deriving DecidableEq, Repr

/-- `none` is a crash. -/
def NativeCall.run (P : Primitives) : NativeCall → Globals → Option (Answer × Globals)
  | .initSender _ r key salt _ ct sc ps rs ss _ _, g =>
    let out := Native.initSender r key salt ct sc ps rs ss g
    some (.status out.1, out.2)
  | .getSsrc, g => (Native.getSsrc g).map fun ssrc => (.ssrc ssrc, g)
  | .initReceiver _ ssrc key salt _, g =>
    let out := Native.initReceiver ssrc key salt g
    some (.status out.1, out.2)
  | .wrapPayloadNative packet, g =>
    (Native.wrapPayloadNative P packet g).map fun out => (.packet out.1 out.2.1, out.2.2)
  | .unwrapPacketNative packet, g =>
    (Native.unwrapPacketNative P packet g).map fun out => (.packet out.1 out.2.1, out.2.2)

def NativeCall.runLive : NativeCall → LiveGlobals → Option (Answer × LiveGlobals)
  | .initSender raw r key salt _ ct sc ps rs ss _ _, g =>
    let out := initSenderLive raw r key salt ct sc ps rs ss g
    some (.status out.1, out.2)
  | .getSsrc, g => (g.rtpContext.map RtpContext.mSsrc).map fun ssrc => (.ssrc ssrc, g)
  | .initReceiver raw ssrc key salt _, g =>
    let out := initReceiverLive raw ssrc key salt g
    some (.status out.1, out.2)
  | .wrapPayloadNative packet, g =>
    (wrapPayloadNativeLive packet g).map fun out => (.packet out.1 out.2.1, out.2.2)
  | .unwrapPacketNative packet, g =>
    (unwrapPacketNativeLive packet g).map fun out => (.packet out.1 out.2.1, out.2.2)

theorem SameAnswer.map {x : Option (ErrStatus × Octets × Globals)} {y : Option (ErrStatus × Octets × LiveGlobals)}
    (h : SameAnswer x y) : Option.Rel (fun a b => a.1 = b.1 ∧ InStepWith a.2 b.2)
      (x.map fun out => (Answer.packet out.1 out.2.1, out.2.2))
      (y.map fun out => (Answer.packet out.1 out.2.1, out.2.2)) := by
  cases h with
  | none => exact .none
  | some hxy => exact .some ⟨congrArg₂ Answer.packet hxy.1 hxy.2.1, hxy.2.2⟩

theorem call_live (call : NativeCall) {g : Globals} {l : LiveGlobals} (h : InStepWith g l) :
    Option.Rel (fun a b => a.1 = b.1 ∧ InStepWith a.2 b.2) (call.run libsrtp g) (call.runLive l) := by
  cases call with
  | initSender raw r key salt hkey ct sc ps rs ss hrs hss =>
    obtain ⟨hstatus, hin⟩ := initSender_live h raw r hkey ct sc ps hrs hss
    exact .some ⟨by rw [hstatus], hin⟩
  | getSsrc =>
    simp only [NativeCall.run, NativeCall.runLive, Native.getSsrc, h.rtpContext]
    cases g.rtpContext with
    | none => exact .none
    | some ctx => exact .some ⟨rfl, h⟩
  | initReceiver raw ssrc key salt hkey =>
    obtain ⟨hstatus, hin⟩ := initReceiver_live h raw ssrc hkey
    exact .some ⟨by rw [hstatus], hin⟩
  | wrapPayloadNative packet => exact (wrapPayloadNative_live h packet).map
  | unwrapPacketNative packet => exact (unwrapPacketNative_live h packet).map

/-- A process that has just been started, whatever calls it is made to carry out and whatever memory and stack
hold meanwhile, answers them as the library does that computes every packet from the master key. -/
theorem native_replies_refine (onStack : Nat → Stack) (calls : List NativeCall) :
    replies NativeCall.runLive { onStack := onStack } calls =
      replies (NativeCall.run libsrtp) {} calls :=
  (replies_eq (fun call _ _ h => call_live call h) calls (start_inStepWith onStack)).symm

end Native
end OnionPhone
