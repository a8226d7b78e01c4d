import OnionPhone.Lib.Stream
import OnionPhone.Native.PacketIndex

/-!
# OnionPhone.Media

The media threads of a call: `SrtpWrapper.run`, `SrtpUnwrapper.run` and `Connector.run`. Each one reads
blocks of a fixed size from its input stream and writes blocks to its output stream, until its input
ends or something throws.

`media_round_trip`: frames that go through a wrapper, a connector, the network, a connector and an
unwrapper come out as they went in, however the streams between them are cut into chunks.
-/

namespace OnionPhone
namespace Media

open Wire Wire.Octets Native SrtpProtocol

inductive Stop where
  | threw (e : Exn)
  /-- `IOException` caught, streams closed. -/
  | returned
  | crashed
  deriving DecidableEq, Repr

/-! ## The threads -/

/-- `org.theonionphone.protocol.SrtpWrapper` -/
structure SrtpWrapper where
  payloadSize : Nat
  packetSize : Nat
  headerSize : Nat

/-- `org.theonionphone.protocol.SrtpUnwrapper` -/
structure SrtpUnwrapper where
  packetSize : Nat
  payloadSize : Nat
  headerSize : Nat

def createWrapper (s : Session) : SrtpWrapper :=
  ⟨s.payloadSizeInBytes, s.packetSizeInBytes, srtpHeaderSizeInBytes⟩

def createUnwrapper (s : Session) : SrtpUnwrapper :=
  ⟨s.packetSizeInBytes, s.payloadSizeInBytes, srtpHeaderSizeInBytes⟩

/-- One round of `SrtpWrapper.run` after the read; the array `packet` is used again in the next. -/
def wrapPayload (P : Primitives) (w : SrtpWrapper) (s : Octets × Globals) (payload : Octets) :
    Except Stop ((Octets × Globals) × Octets) :=
  match wrapPayloadNative P (writeAt s.1 w.headerSize payload) s.2 with
  | none => .error .crashed
  | some (.ok, packet, g) => .ok ((packet, g), packet)
  | some (status, _, _) => .error (.threw (.mainProtocol
      ("native srtp wrapper exited with error code: " ++ toString status.code)))

def SrtpWrapper.run (P : Primitives) (w : SrtpWrapper) (fuel : Nat) (g : Globals)
    (input : List Octets) : List Octets × Option Stop :=
  blockLoop w.payloadSize (wrapPayload P w) (.threw (.mainProtocol "cannot read payload")) fuel
    (List.replicate w.packetSize 0, g) input

/-- One round of `SrtpUnwrapper.run` after the read, which has filled the whole array. -/
def unwrapPacket (P : Primitives) (u : SrtpUnwrapper) (g : Globals) (packet : Octets) :
    Except Stop (Globals × Octets) :=
  match unwrapPacketNative P packet g with
  | none => .error .crashed
  | some (.ok, packet, g) => .ok (g, slice packet u.headerSize u.payloadSize)
  | some (status, _, _) => .error (.threw (.mainProtocol
      ("native srtp unwrapper exited with error code: " ++ toString status.code)))

def SrtpUnwrapper.run (P : Primitives) (u : SrtpUnwrapper) (fuel : Nat) (g : Globals)
    (input : List Octets) : List Octets × Option Stop :=
  blockLoop u.packetSize (unwrapPacket P u) (.threw (.mainProtocol "cannot read packet")) fuel g
    input

namespace Connector

def packetSize : Nat := 24

def run (fuel : Nat) (input : List Octets) : List Octets × Option Stop :=
  blockLoop packetSize (fun (_ : Unit) buffer => .ok ((), buffer)) .returned fuel () input

end Connector

/-! ## One packet -/

theorem bytesSize_le_roundUp (codec : Codec) :
    codec.bytesSize ≤ roundUpToMultipleOf4 codec.bytesSize :=
  (roundUpToMultipleOf4_spec codec.bytesSize).2.1

variable {P : Primitives} {c : SetUpArgs}

/-- What the sender makes of a frame as packet number `n + 1`, and the receiver makes of that. -/
theorem wrap_unwrap {w : SrtpWrapper} {u : SrtpUnwrapper} {n : Nat} {gs gr : Globals}
    {buf frame : Octets} (hs : SenderAt c n gs) (hr : ReceiverAt c n gr) (hn : n < maxPackets)
    (hbuf : buf.length = SrtpProtocol.packetSize c.codec)
    (hfit : roundUpToMultipleOf4 c.codec.bytesSize ≤ 0xffff)
    (hframe : frame.length = c.codec.bytesSize) (hw : w.headerSize = 12) (hu : u.headerSize = 12)
    (hp : u.payloadSize = c.codec.bytesSize) :
    ∃ packet gs' gr', packet.length = SrtpProtocol.packetSize c.codec ∧ SenderAt c (n + 1) gs' ∧
      ReceiverAt c (n + 1) gr' ∧ wrapPayload P w (buf, gs) frame = .ok ((packet, gs'), packet) ∧
      unwrapPacket P u gr packet = .ok (gr', frame) := by
  have hle := bytesSize_le_roundUp c.codec
  have hsize : SrtpProtocol.packetSize c.codec = 12 + roundUpToMultipleOf4 c.codec.bytesSize + 4 :=
    rfl
  have hlen : (writeAt buf 12 frame).length = SrtpProtocol.packetSize c.codec := by
    rw [writeAt_length (by omega), hbuf]
  obtain ⟨old, body, tail, hcut, hold, hbody, hwr⟩ := wrapped_eq (P := P) (n := n) hlen hfit
  obtain ⟨gs', hs', hwrap⟩ := wrap_step P (writeAt buf 12 frame) hs hn
  obtain ⟨gr', tag, hr', htag, hunwrap⟩ := unwrap_step (P := P) hr hn hbody (by omega)
  -- the frame is the first part of the payload area, on both sides
  have hbf : body.take c.codec.bytesSize = frame := by
    have h : slice (writeAt buf 12 frame) 12 frame.length = frame := slice_writeAt (by omega)
    rw [hcut, hframe] at h
    rw [← h, ← hold, slice_append_take (by omega)]
  refine ⟨sealed P c.rtpRandom.ssrc c.masterKey (c.index n) (c.header n) body, gs', gr', ?_, hs', hr',
    ?_, ?_⟩
  · simp only [sealed, List.length_append, xorStream_length, P.authTag_length, header_length, hbody]
    omega
  · unfold wrapPayload
    simp only [hw]
    rw [hwrap, hwr]
  · unfold unwrapPacket
    rw [hunwrap]
    simp only [hu, hp]
    rw [← header_length c n, slice_append_take (by omega), hbf]

/-! ## A whole call -/

theorem frames_through {w : SrtpWrapper} {u : SrtpUnwrapper} (frames : List Octets)
    (hfit : roundUpToMultipleOf4 c.codec.bytesSize ≤ 0xffff) (hw : w.headerSize = 12)
    (hu : u.headerSize = 12) (hp : u.payloadSize = c.codec.bytesSize) :
    ∀ {n : Nat} {gs gr : Globals} {buf : Octets}, SenderAt c n gs → ReceiverAt c n gr →
      n + frames.length ≤ maxPackets → buf.length = SrtpProtocol.packetSize c.codec →
      (∀ f ∈ frames, f.length = c.codec.bytesSize) →
      ∃ packets s' gr', stepAll (wrapPayload P w) (buf, gs) frames = .ok (s', packets) ∧
        packets.length = frames.length ∧
        (∀ p ∈ packets, p.length = SrtpProtocol.packetSize c.codec) ∧
        stepAll (unwrapPacket P u) gr packets = .ok (gr', frames) := by
  induction frames with
  | nil =>
    intro n gs gr buf _ _ _ _ _
    exact ⟨[], _, _, rfl, rfl, by simp, rfl⟩
  | cons frame frames ih =>
    intro n gs gr buf hs hr hn hbuf hframes
    rw [List.length_cons] at hn
    obtain ⟨packet, gs', gr', hlen, hs', hr', hwrap, hunwrap⟩ :=
      wrap_unwrap (P := P) hs hr (by omega) hbuf hfit (hframes frame List.mem_cons_self) hw hu hp
    obtain ⟨packets, s₂, gr₂, hwraps, hcount, hall, hunwraps⟩ :=
      ih hs' hr' (by omega) hlen fun f hf => hframes f (List.mem_cons_of_mem _ hf)
    refine ⟨packet :: packets, s₂, gr₂, stepAll_cons hwrap hwraps, ?_, ?_,
      stepAll_cons hunwrap hunwraps⟩
    · rw [List.length_cons, List.length_cons, hcount]
    · intro p hmem
      rcases List.mem_cons.1 hmem with rfl | hmem
      · exact hlen
      · exact hall p hmem

theorem connector_blocks {blocks input : List Octets} {fuel : Nat}
    (hb : ∀ b ∈ blocks, b.length = Connector.packetSize) (hi : input.flatten = blocks.flatten)
    (hf : blocks.length < fuel) : Connector.run fuel input = (blocks, some .returned) := by
  have hcopy : ∀ bs : List Octets,
      stepAll (fun (_ : Unit) buffer => (.ok ((), buffer) : Except Stop (Unit × Octets))) () bs =
        .ok ((), bs) := by
    intro bs
    induction bs with
    | nil => rfl
    | cons b bs ih => exact stepAll_cons rfl ih
  exact blockLoop_blocks (by decide) hb (hcopy blocks) hi hf

/-- The session that a call set-up with these arguments leaves behind. -/
def sessionOf (c : SetUpArgs) (s : Session) : Session :=
  configured c.codec c.senderSalt c.rtpRandom c.txKey c.rxKey c.receiverSsrc c.receiverSalt s

/-- The input of each thread is what the one before it has written, cut into any chunks. -/
theorem media_round_trip (P : Primitives) {c c' : SetUpArgs} (hm : Matches c c') {t : Session}
    (ht : Reached t.native)
    (hsize : SrtpProtocol.packetSize c.codec = Connector.packetSize) {frames : List Octets}
    (hframes : ∀ f ∈ frames, f.length = c.codec.bytesSize) (hn : frames.length ≤ maxPackets)
    {fuel : Nat} (hfuel : frames.length < fuel) {audio cs₁ cs₂ cs₃ : List Octets}
    (h₀ : audio.flatten = frames.flatten)
    (h₁ : cs₁.flatten = ((createWrapper (sessionOf c {})).run P fuel
      (sessionOf c {}).native audio).1.flatten)
    (h₂ : cs₂.flatten = (Connector.run fuel cs₁).1.flatten)
    (h₃ : cs₃.flatten = (Connector.run fuel cs₂).1.flatten) :
    (createUnwrapper (sessionOf c' t)).run P fuel (sessionOf c' t).native cs₃ =
      (frames, some (.threw (.mainProtocol "cannot read packet"))) := by
  have hround := roundUpToMultipleOf4_spec c.codec.bytesSize
  have hr : roundUpToMultipleOf4 c.codec.bytesSize = 8 := by
    have h : 12 + roundUpToMultipleOf4 c.codec.bytesSize + 4 = 24 := hsize
    omega
  have hbuf : (List.replicate (SrtpProtocol.packetSize c.codec) (0 : UInt8)).length =
      SrtpProtocol.packetSize c.codec := List.length_replicate
  obtain ⟨packets, s', gr', hwraps, hcount, hall, hunwraps⟩ :=
    frames_through (P := P) (w := createWrapper (sessionOf c {}))
      (u := createUnwrapper (sessionOf c' t)) frames (by omega) rfl rfl
      (congrArg Codec.bytesSize hm.codec) (run_senderAt c) (run_receiverAt hm ht) (by omega) hbuf
      hframes
  have hwrapper : (createWrapper (sessionOf c {})).run P fuel (sessionOf c {}).native audio =
      (packets, some (.threw (.mainProtocol "cannot read payload"))) :=
    blockLoop_blocks (show 0 < c.codec.bytesSize by omega) hframes hwraps h₀ hfuel
  rw [hwrapper] at h₁
  have hblocks : ∀ p ∈ packets, p.length = Connector.packetSize := by
    intro p hp
    rw [hall p hp, hsize]
  rw [connector_blocks hblocks h₁ (by omega)] at h₂
  rw [connector_blocks hblocks h₂ (by omega)] at h₃
  refine blockLoop_blocks ?_ ?_ hunwraps h₃ (by omega)
  · show 0 < SrtpProtocol.packetSize c'.codec
    rw [hm.codec, hsize]
    decide
  · intro p hp
    show p.length = SrtpProtocol.packetSize c'.codec
    rw [hall p hp, hm.codec]

def sampleFrames : List Octets := [[1, 2, 3, 4, 5, 6, 7], [8, 9, 10, 11, 12, 13, 14]]

theorem media_round_trip_codec2 :
    let sent := (createWrapper (sessionOf (sampleSetUp 1) {})).run plainPrimitives 3
      (sessionOf (sampleSetUp 1) {}).native [sampleFrames.flatten]
    let carried := Connector.run 3 (Connector.run 3 sent.1).1
    ((createUnwrapper (sessionOf (sampleSetUp 1) {})).run plainPrimitives 3
      (sessionOf (sampleSetUp 1) {}).native carried.1).1 = sampleFrames := by
  have hframes : ∀ f ∈ sampleFrames, f.length = (sampleSetUp 1).codec.bytesSize := by decide
  have hfuel : sampleFrames.length < 3 := by decide
  have haudio : [sampleFrames.flatten].flatten = sampleFrames.flatten := rfl
  have h := media_round_trip plainPrimitives sampleSetUp_matches (t := {}) .start (by decide)
    hframes (by decide) hfuel haudio rfl rfl rfl
  exact congrArg Prod.fst h

end Media
end OnionPhone
