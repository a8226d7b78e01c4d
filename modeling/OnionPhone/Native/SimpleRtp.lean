import OnionPhone.Native.PacketIndex

/-!
# OnionPhone.Native.SimpleRtp

`simple_rtp.c` in the arithmetic of its machine: 16- and 32-bit fields, an `int` shifted into its sign bit,
the counter promoted to 32 bits, words whose octets change places and are then stored lowest first.

* `getNextPacketHeader_asNat`: it is the `getNextPacketHeader` of `Jni`, which counts modulo the widths.
* `header_sequence`: what a call writes after any number of others, read back through the bit-fields of
  `srtp_hdr_t`.
-/

namespace OnionPhone
namespace Native
namespace SimpleRtp

open Wire Wire.Octets

/-! ## Contexts -/

/-- `rtp_context_t`; `mSampleCount` is an `int`, the others are unsigned. -/
structure Context where
  mSampleCount : BitVec 32
  mCodecMagic : BitVec 32
  mSequence : BitVec 16
  mTimestamp : BitVec 32
  mSsrc : BitVec 32
  deriving DecidableEq, Repr

/-- `codecType` and `sampleCount` are of type `int`; the last three are read from `/dev/urandom`. -/
def initRtp (codecType sampleCount : BitVec 32) (sequence : BitVec 16) (timestamp ssrc : BitVec 32) :
    Context where
  mSampleCount := sampleCount
  mCodecMagic := (0xA000#32 ||| codecType) <<< 16
  mSequence := sequence
  mTimestamp := timestamp
  mSsrc := ssrc

/-- On a little-endian machine: the four octets of the word, the other way round. -/
def htonl (w : BitVec 32) : BitVec 32 :=
  w.extractLsb' 0 8 ++ w.extractLsb' 8 8 ++ w.extractLsb' 16 8 ++ w.extractLsb' 24 8

def octet (w : BitVec 32) (i : Nat) : UInt8 := ⟨w.extractLsb' (8 * i) 8⟩

/-- A word in memory, the lowest octet first. -/
def store (w : BitVec 32) : Octets := [octet w 0, octet w 1, octet w 2, octet w 3]

/-- The counters after a call of `getNextPacketHeader`; `mSequence` is an `int` while one is added. -/
def Context.next (ctx : Context) : Context :=
  { ctx with
    mSequence := (ctx.mSequence.setWidth 32 + 1#32).setWidth 16
    mTimestamp := ctx.mTimestamp + ctx.mSampleCount }

/-- `header[0]`, `header[1]` and `header[2]`. -/
def Context.header (ctx : Context) : Octets :=
  store (htonl (ctx.mCodecMagic ||| ctx.mSequence.setWidth 32)) ++ store (htonl ctx.mTimestamp) ++
    store (htonl ctx.mSsrc)

def getNextPacketHeader (ctx : Context) (output : Octets) : Context × Octets :=
  (ctx.next, writeAt output 0 ctx.next.header)

/-- What is left of a context after one call for each of the arrays `outputs`. -/
def afterCalls {σ : Type} (call : σ → Octets → σ × Octets) (ctx : σ) (outputs : List Octets) : σ :=
  outputs.foldl (fun ctx output => (call ctx output).1) ctx

/-! ## Words in memory -/

theorem octet_eq (w : BitVec 32) (i : Nat) : octet w i = UInt8.ofNat (w.toNat / 2 ^ (8 * i)) := by
  apply UInt8.toNat_inj.1
  rw [UInt8.toNat_ofNat']
  show (w.extractLsb' (8 * i) 8).toNat = _
  rw [BitVec.extractLsb'_toNat, Nat.shiftRight_eq_div_pow]

theorem octet_htonl (w : BitVec 32) {i : Nat} (h : i < 4) : octet (htonl w) i = octet w (3 - i) := by
  refine congrArg UInt8.ofBitVec (BitVec.eq_of_getLsbD_eq fun j hj => ?_)
  simp only [htonl, BitVec.getLsbD_extractLsb', BitVec.getLsbD_append, hj, decide_true, Bool.true_and]
  interval_cases i
  · simp [hj]
  · simp [hj, show ¬ 8 + j < 8 by omega]
  · simp [hj, show ¬ 16 + j < 8 by omega, show ¬ 16 + j - 8 < 8 by omega,
      show 16 + j - 8 - 8 = j by omega]
  · simp [hj, show ¬ 24 + j < 8 by omega, show ¬ 24 + j - 8 < 8 by omega,
      show ¬ 24 + j - 8 - 8 < 8 by omega, show 24 + j - 8 - 8 - 8 = j by omega]

theorem store_htonl (w : BitVec 32) : store (htonl w) = be32 w.toNat := by
  have h0 := octet_htonl w (i := 0) (by decide)
  have h1 := octet_htonl w (i := 1) (by decide)
  have h2 := octet_htonl w (i := 2) (by decide)
  have h3 := octet_htonl w (i := 3) (by decide)
  simp only [store, h0, h1, h2, h3, octet_eq]
  simp [be32]

/-! ## The same in natural numbers -/

def Context.asNat (ctx : Context) : RtpContext where
  mCodecMagic := ctx.mCodecMagic.toNat
  mSampleCount := ctx.mSampleCount.toNat
  mSequence := ctx.mSequence.toNat
  mTimestamp := ctx.mTimestamp.toNat
  mSsrc := ctx.mSsrc.toNat

theorem initRtp_asNat (codecType sampleCount : BitVec 32) (sequence : BitVec 16) (timestamp ssrc : BitVec 32) :
    (initRtp codecType sampleCount sequence timestamp ssrc).asNat =
      Native.initRtp ⟨sequence.toFin, timestamp.toFin, ssrc.toFin⟩ codecType.toNat sampleCount.toNat := by
  have hs := Nat.mod_eq_of_lt sampleCount.isLt
  simp only [initRtp, Context.asNat, Native.initRtp, BitVec.toNat_shiftLeft, BitVec.toNat_or,
    BitVec.toNat_ofNat, hs]
  rfl

theorem mSequence_next (ctx : Context) :
    ctx.next.mSequence.toNat = (ctx.mSequence.toNat + 1) % 2 ^ 16 := by
  have := ctx.mSequence.isLt
  simp only [Context.next, BitVec.toNat_setWidth, BitVec.toNat_add, BitVec.toNat_ofNat]
  omega

theorem next_asNat (ctx : Context) : ctx.next.asNat = ctx.asNat.next := by
  simp only [Context.asNat, RtpContext.next, mSequence_next]
  simp only [Context.next, BitVec.toNat_add]

theorem header_asNat (ctx : Context) : ctx.header = ctx.asNat.header := by
  have hs : (ctx.mSequence.setWidth 32).toNat = ctx.mSequence.toNat := by
    rw [BitVec.toNat_setWidth]
    exact Nat.mod_eq_of_lt (ctx.mSequence.isLt.trans (by decide))
  simp only [Context.header, store_htonl, BitVec.toNat_or, hs, RtpContext.header, Context.asNat]

theorem getNextPacketHeader_asNat (ctx : Context) (output : Octets) :
    Native.getNextPacketHeader ctx.asNat output =
      ((getNextPacketHeader ctx output).1.asNat, (getNextPacketHeader ctx output).2) := by
  simp only [Native.getNextPacketHeader, getNextPacketHeader, next_asNat, header_asNat]

theorem afterCalls_asNat (ctx : Context) (outputs : List Octets) :
    afterCalls Native.getNextPacketHeader ctx.asNat outputs =
      (afterCalls getNextPacketHeader ctx outputs).asNat := by
  induction outputs generalizing ctx with
  | nil => rfl
  | cons output outputs ih =>
    have hstep := congrArg Prod.fst (getNextPacketHeader_asNat ctx output)
    simp only [afterCalls, List.foldl_cons] at ih hstep ⊢
    rw [hstep, ih]

/-! ## What is read back -/

/-- `srtp_hdr_t`, with the numbers of two and four octets in host order. -/
structure SrtpHdr where
  version : Nat
  p : Nat
  x : Nat
  cc : Nat
  m : Nat
  pt : Nat
  seq : Nat
  ts : Nat
  ssrc : Nat
  deriving DecidableEq, Repr

/-- The bit-fields of a little-endian machine: the first one is in the lowest bits. -/
def SrtpHdr.read (pkt : Octets) : SrtpHdr where
  cc := hdrCc pkt
  x := hdrX pkt
  p := (pkt.getD 0 0).toNat / 32 % 2
  version := (pkt.getD 0 0).toNat / 64
  pt := (pkt.getD 1 0).toNat % 128
  m := (pkt.getD 1 0).toNat / 128
  seq := hdrSeq pkt
  ts := ofBe (slice pkt 4 4)
  ssrc := hdrSsrc pkt

theorem read_words {pt seq ts ssrc : Nat} (hpt : pt < 2 ^ 7) (hseq : seq < 2 ^ 16) (hts : ts < 2 ^ 32)
    (hssrc : ssrc < 2 ^ 32) (rest : Octets) :
    SrtpHdr.read (be32 ((0xA000 + pt) * 2 ^ 16 + seq) ++ be32 ts ++ be32 ssrc ++ rest) =
      { version := 2, p := 1, x := 0, cc := 0, m := 0, pt := pt, seq := seq, ts := ts, ssrc := ssrc } := by
  let pkt := be32 ((0xA000 + pt) * 2 ^ 16 + seq) ++ be32 ts ++ be32 ssrc ++ rest
  have h0 : (pkt.getD 0 0).toNat = 0xA0 := by
    show (UInt8.ofNat (((0xA000 + pt) * 2 ^ 16 + seq) / 2 ^ 24)).toNat = 0xA0
    rw [UInt8.toNat_ofNat']
    omega
  have h1 : (pkt.getD 1 0).toNat = pt := by
    show (UInt8.ofNat (((0xA000 + pt) * 2 ^ 16 + seq) / 2 ^ 16)).toNat = pt
    rw [UInt8.toNat_ofNat']
    omega
  have hq : hdrSeq pkt = seq := by
    show ofBe ((be32 ((0xA000 + pt) * 2 ^ 16 + seq)).drop 2) = seq
    rw [ofBe_be32_drop]
    omega
  have ht : ofBe (slice pkt 4 4) = ts := ofBe_be32_of_lt hts
  have hs : hdrSsrc pkt = ssrc := ofBe_be32_of_lt hssrc
  show SrtpHdr.read pkt = _
  have hm : pt % 128 = pt := Nat.mod_eq_of_lt hpt
  have hd : pt / 128 = 0 := Nat.div_eq_of_lt hpt
  simp only [SrtpHdr.read, hdrCc, hdrX, h0, h1, hq, ht, hs, hm, hd]

/-- The payload is where the header ends, unless there are CSRCs or an extension. -/
theorem encStart_of_read {pkt : Octets} (hcc : (SrtpHdr.read pkt).cc = 0) (hx : (SrtpHdr.read pkt).x = 0) :
    encStart pkt = 12 := by
  have hcc' : hdrCc pkt = 0 := hcc
  have hx' : hdrX pkt = 0 := hx
  simp [encStart, hcc', hx', octetsInRtpHeader]

theorem next_iterate (ctx : Context) (n : Nat) :
    (Context.next^[n] ctx).mCodecMagic = ctx.mCodecMagic ∧
    (Context.next^[n] ctx).mSampleCount = ctx.mSampleCount ∧
    (Context.next^[n] ctx).mSequence.toNat = (ctx.mSequence.toNat + n) % 2 ^ 16 ∧
    (Context.next^[n] ctx).mTimestamp.toNat = (ctx.mTimestamp.toNat + n * ctx.mSampleCount.toNat) % 2 ^ 32 ∧
    (Context.next^[n] ctx).mSsrc = ctx.mSsrc := by
  induction n with
  | zero =>
    have hq := Nat.mod_eq_of_lt ctx.mSequence.isLt
    have ht := Nat.mod_eq_of_lt ctx.mTimestamp.isLt
    simp [hq, ht]
  | succ n ih =>
    obtain ⟨hm, hc, hq, ht, hs⟩ := ih
    rw [Function.iterate_succ_apply']
    refine ⟨hm, hc, ?_, ?_, hs⟩
    · rw [mSequence_next, hq]
      omega
    · show ((Context.next^[n] ctx).mTimestamp + (Context.next^[n] ctx).mSampleCount).toNat = _
      rw [BitVec.toNat_add, ht, hc, Nat.mod_add_mod]
      ring_nf

/-- A count that is negative as an `int` is added modulo `2^32` all the same. -/
theorem timestamp_toInt (t c : BitVec 32) (n : Nat) :
    (((t.toNat + n * c.toNat) % 2 ^ 32 : Nat) : Int) = (t.toNat + n * c.toInt) % 2 ^ 32 := by
  obtain ⟨k, hk⟩ : ∃ k : Int, c.toInt = c.toNat + 2 ^ 32 * k := by
    rw [BitVec.toInt_eq_toNat_cond]
    split
    · exact ⟨0, by simp⟩
    · exact ⟨-1, by norm_num; ring⟩
  have hsum : (t.toNat + n * c.toInt : Int) = (t.toNat + n * c.toNat) + 2 ^ 32 * (n * k) := by
    rw [hk]
    ring
  rw [hsum, Int.add_mul_emod_self_left]
  push_cast
  rfl

theorem header_iterate {codecType : BitVec 32} (hct : codecType.toNat < 2 ^ 7) (sampleCount : BitVec 32)
    (sequence : BitVec 16) (timestamp ssrc : BitVec 32) (n : Nat) :
    (Context.next^[n] (initRtp codecType sampleCount sequence timestamp ssrc)).header =
      be32 ((0xA000 + codecType.toNat) * 2 ^ 16 + (sequence.toNat + n) % 2 ^ 16) ++
        be32 ((timestamp.toNat + n * sampleCount.toNat) % 2 ^ 32) ++ be32 ssrc.toNat := by
  obtain ⟨hm, -, hq, ht, hs⟩ := next_iterate (initRtp codecType sampleCount sequence timestamp ssrc) n
  have hmagic : (initRtp codecType sampleCount sequence timestamp ssrc).mCodecMagic.toNat =
      (0xA000 ||| codecType.toNat) <<< 16 % 2 ^ 32 := by
    simp only [initRtp, BitVec.toNat_shiftLeft, BitVec.toNat_or, BitVec.toNat_ofNat]
  rw [header_asNat]
  simp only [RtpContext.header, Context.asNat, hm, hq, ht, hs, hmagic]
  rw [codecMagic_or hct (Nat.mod_lt _ (by decide))]
  rfl

theorem getNextPacketHeader_eq (ctx : Context) (output : Octets) :
    (getNextPacketHeader ctx output).2 = ctx.next.header ++ output.drop 12 := by
  have hlen : ctx.next.header.length = 12 := rfl
  simp only [getNextPacketHeader, writeAt, hlen, List.take_zero, List.nil_append, Nat.zero_add]

theorem afterCalls_next (ctx : Context) (outputs : List Octets) :
    afterCalls getNextPacketHeader ctx outputs = Context.next^[outputs.length] ctx := by
  induction outputs generalizing ctx with
  | nil => rfl
  | cons output outputs ih =>
    show afterCalls getNextPacketHeader ctx.next outputs = _
    rw [ih, List.length_cons, Function.iterate_succ_apply]

/-- Each call writes the next header, however often the counters have wrapped, and so does the function that
`wrapPayloadNative` is made of. -/
theorem header_sequence {codecType : BitVec 32} (hct : codecType.toNat < 2 ^ 7) (sampleCount : BitVec 32)
    (sequence : BitVec 16) (timestamp ssrc : BitVec 32) (outputs : List Octets) (output : Octets) :
    let ctx := afterCalls getNextPacketHeader (initRtp codecType sampleCount sequence timestamp ssrc) outputs
    let ctx' := afterCalls Native.getNextPacketHeader
      (Native.initRtp ⟨sequence.toFin, timestamp.toFin, ssrc.toFin⟩ codecType.toNat sampleCount.toNat) outputs
    let pkt := (getNextPacketHeader ctx output).2
    let n := outputs.length + 1
    SrtpHdr.read pkt =
      { version := 2, p := 1, x := 0, cc := 0, m := 0
        pt := codecType.toNat
        seq := (sequence.toNat + n) % 2 ^ 16
        ts := ((timestamp.toNat + (n : Nat) * sampleCount.toInt) % 2 ^ 32).toNat
        ssrc := ssrc.toNat } ∧
    encStart pkt = 12 ∧
    (Native.getNextPacketHeader ctx' output).2 = pkt := by
  intro ctx ctx' pkt n
  have hpkt : pkt = be32 ((0xA000 + codecType.toNat) * 2 ^ 16 + (sequence.toNat + n) % 2 ^ 16) ++
      be32 ((timestamp.toNat + n * sampleCount.toNat) % 2 ^ 32) ++ be32 ssrc.toNat ++ output.drop 12 := by
    rw [← header_iterate hct sampleCount sequence timestamp ssrc n, Function.iterate_succ_apply',
      ← afterCalls_next]
    exact getNextPacketHeader_eq _ output
  have hseq : (sequence.toNat + n) % 2 ^ 16 < 2 ^ 16 := Nat.mod_lt _ (by decide)
  have hts : (timestamp.toNat + n * sampleCount.toNat) % 2 ^ 32 < 2 ^ 32 := Nat.mod_lt _ (by decide)
  have hread := read_words hct hseq hts ssrc.isLt (output.drop 12)
  rw [← hpkt] at hread
  refine ⟨?_, encStart_of_read (by rw [hread]) (by rw [hread]), ?_⟩
  · rw [hread, ← timestamp_toInt, Int.toNat_natCast]
  · have hctx : ctx' = ctx.asNat := by rw [← afterCalls_asNat, initRtp_asNat]
    rw [hctx, getNextPacketHeader_asNat]

/-- The third packet of Codec2: the sequence number has wrapped with the second, the timestamp wraps now. -/
theorem header_sequence_wrap :
    let pkt := (getNextPacketHeader
      (afterCalls getNextPacketHeader (initRtp 69#32 160 0xfffe 0xfffffe70 7) [[], List.replicate 24 1]) []).2
    (69#32).toNat < 2 ^ 7 ∧ (SrtpHdr.read pkt).pt = 69 ∧ (SrtpHdr.read pkt).seq = 1 ∧
      (SrtpHdr.read pkt).ts = 80 ∧ (SrtpHdr.read pkt).ssrc = 7 := by
  intro pkt
  have hct : (69#32).toNat < 2 ^ 7 := by decide
  obtain ⟨h, -⟩ := header_sequence hct 160 0xfffe 0xfffffe70 7 [[], List.replicate 24 1] []
  refine ⟨hct, ?_, ?_, ?_, ?_⟩
  · rw [h]
    rfl
  · rw [h]
    rfl
  · rw [h]
    rfl
  · rw [h]
    rfl

end SimpleRtp
end Native
end OnionPhone
