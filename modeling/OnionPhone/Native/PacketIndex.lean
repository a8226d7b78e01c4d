import OnionPhone.Lib.Machine
import OnionPhone.Native.Sessions

/-!
# OnionPhone.Native.PacketIndex

The extended packet index of a media stream whose packets are sent, and received, in order.

The 16-bit sequence number starts at a random value, both SRTP contexts start at index zero, and each
side guesses the index of a packet from its own replay database. `Tracks` relates a database to the
number of packets it has seen; `Tracks.next` is the step for both sides, across every wrap.
-/

namespace OnionPhone
namespace Native

open Wire Wire.Octets SrtpProtocol

/-! ## The replay database -/

/-- A database that has seen `n` packets in order, the first with sequence number `first`. The index
is not reduced modulo `2^48`. -/
def Tracks (first n : Nat) (r : Rdbx) : Prop :=
  (n = 0 ∧ r = rdbxInit) ∨ (0 < n ∧ r.index = first + (n - 1))

theorem Tracks.next {first n : Nat} {r : Rdbx} (hf : first < 2 ^ 16) (hn : n < 2 ^ 48)
    (h : Tracks first n r) :
    ∃ delta, rdbxEstimateIndex r ((first + n) % 2 ^ 16) = (delta, (first + n) % 2 ^ 48) ∧
      rdbxCheck r delta = .ok ∧ Tracks first (n + 1) (rdbxAddIndex r delta) := by
  rcases h with ⟨rfl, rfl⟩ | ⟨hpos, hi⟩
  · refine ⟨(first : Int), ?_, rdbxCheck_init first, ?_⟩
    · rw [rdbxEstimateIndex_init, Nat.add_zero, Nat.mod_eq_of_lt hf, Nat.mod_eq_of_lt (by omega)]
    · exact .inr ⟨by omega, by rw [rdbxAddIndex_init_index hf]; omega⟩
  · have hnext : first + n = r.index + 1 := by omega
    refine ⟨1, ?_, rdbxCheck_one r, ?_⟩
    · rw [hnext, rdbxEstimateIndex_next]
    · exact .inr ⟨by omega, by rw [rdbxAddIndex_one_index (by omega)]; omega⟩

/-! ## The key limit -/

/-- Packets a key may protect before it expires. -/
def maxPackets : Nat := 2 ^ 48 - 2

def Counts (n : Nat) (l : KeyLimit) : Prop := l.numLeft + n = maxPackets + 1

theorem Counts.next {l : KeyLimit} {n : Nat} (h : Counts n l) (hn : n < maxPackets) :
    (keyLimitUpdate l).1 ≠ .hardLimit ∧ Counts (n + 1) (keyLimitUpdate l).2 := by
  unfold Counts at h ⊢
  have hm : maxPackets = 2 ^ 48 - 2 := rfl
  unfold keyLimitUpdate
  simp only [if_neg (show ¬ l.numLeft = 0 by omega)]
  by_cases hs : l.numLeft - 1 ≥ softLimit
  · rw [if_pos hs]
    exact ⟨by simp, by simp only; omega⟩
  · rw [if_neg hs, if_neg (by omega)]
    exact ⟨by simp, by simp only; omega⟩

theorem Counts.expires {l : KeyLimit} (h : Counts maxPackets l) :
    (keyLimitUpdate l).1 = .hardLimit := by
  unfold Counts at h
  have hone : l.numLeft = 1 := by omega
  unfold keyLimitUpdate
  simp only [hone]
  rfl

/-! ## Streams -/

/-- A stream of the session that was created with `ssrc` and `key`, after `n` packets. -/
structure InStep (ssrc : Nat) (key : Octets) (first n : Nat) (st : SrtpStream) : Prop where
  ssrc : st.ssrc = ssrc
  key : st.key = key
  tagLen : st.tagLen = 4
  services : st.services = .confAndAuth
  limit : Counts n st.limit
  rdbx : Tracks first n st.rdbx

theorem newStream_inStep (ssrc first : Nat) (key : Octets) :
    InStep ssrc key first 0 (newStream ssrc key) :=
  ⟨rfl, rfl, rfl, rfl, rfl, .inl ⟨rfl, rfl⟩⟩

theorem sealPacket_congr {P : Primitives} {st : SrtpStream} (st' : SrtpStream) {est len : Nat}
    {pkt : Octets} (hs : st.ssrc = st'.ssrc) (hk : st.key = st'.key) (ht : st.tagLen = st'.tagLen)
    (hv : st.services = st'.services) :
    sealPacket P st est pkt len = sealPacket P st' est pkt len := by
  simp only [sealPacket, cipherEncrypt, authCompute, hs, hk, ht, hv]

theorem srtpGetStream_single {st : SrtpStream} {ssrc : Nat} (h : ssrc = st.ssrc) :
    srtpGetStream ⟨[st]⟩ ssrc = some st := by
  simp [srtpGetStream, h]

theorem putStream_single {st st' : SrtpStream} (h : st.ssrc = st'.ssrc) :
    SrtpCtx.putStream ⟨[st]⟩ st' = ⟨[st']⟩ := by
  simp [SrtpCtx.putStream, SrtpCtx.putStream.go, h]

theorem InStep.advance {ssrc first n : Nat} {key : Octets} {st : SrtpStream} {limit : KeyLimit}
    {rdbx : Rdbx} (h : InStep ssrc key first n st) (direction : Direction)
    (hl : Counts (n + 1) limit) (hr : Tracks first (n + 1) rdbx) :
    InStep ssrc key first (n + 1)
      { st with direction := direction, limit := limit, rdbx := rdbx } :=
  ⟨h.ssrc, h.key, h.tagLen, h.services, hl, hr⟩

theorem srtpProtect_single {P : Primitives} {st : SrtpStream} {pkt : Octets} {len est : Nat}
    {delta : Int} (hlen : octetsInRtpHeader ≤ len) (hs : hdrSsrc pkt = st.ssrc)
    (hev : (keyLimitUpdate st.limit).1 ≠ .hardLimit)
    (hest : rdbxEstimateIndex st.rdbx (hdrSeq pkt) = (delta, est))
    (hcheck : rdbxCheck st.rdbx delta = .ok) :
    srtpProtect P ⟨[st]⟩ pkt len =
      ⟨(sealPacket P st est pkt len).1,
        ⟨[{ st with
          direction := if st.direction = .unknown then .sender else st.direction
          limit := (keyLimitUpdate st.limit).2
          rdbx := rdbxAddIndex st.rdbx delta }]⟩,
        (sealPacket P st est pkt len).2.1, (sealPacket P st est pkt len).2.2⟩ := by
  unfold srtpProtect
  rw [if_neg (by omega), srtpGetStream_single hs]
  simp only [if_neg hev, hest, hcheck]
  rw [putStream_single (by rfl), sealPacket_congr st]
  · rfl
  · rfl
  · rfl
  · rfl

theorem srtpProtect_inStep {P : Primitives} {st : SrtpStream} {ssrc first n len : Nat}
    {key pkt : Octets} (h : InStep ssrc key first n st) (hf : first < 2 ^ 16)
    (hn : n < maxPackets) (hlen : octetsInRtpHeader ≤ len) (hs : hdrSsrc pkt = ssrc)
    (hq : hdrSeq pkt = (first + n) % 2 ^ 16) :
    ∃ st', InStep ssrc key first (n + 1) st' ∧
      srtpProtect P ⟨[st]⟩ pkt len =
        let out := sealPacket P (newStream ssrc key) ((first + n) % 2 ^ 48) pkt len
        ⟨out.1, ⟨[st']⟩, out.2.1, out.2.2⟩ := by
  have hm : maxPackets = 2 ^ 48 - 2 := rfl
  obtain ⟨delta, hest, hcheck, htracks⟩ := h.rdbx.next hf (by omega)
  obtain ⟨hev, hcounts⟩ := h.limit.next hn
  refine ⟨_, h.advance (if st.direction = .unknown then .sender else st.direction) hcounts htracks,
    ?_⟩
  rw [← hq] at hest
  rw [srtpProtect_single hlen (hs.trans h.ssrc.symm) hev hest hcheck,
    sealPacket_congr (newStream ssrc key) h.ssrc h.key h.tagLen h.services]

/-- A packet that carries the right tag for the index `est` and is not too long to decrypt. -/
structure Genuine (P : Primitives) (ssrc : Nat) (key : Octets) (est : Nat) (pkt : Octets)
    (len : Nat) : Prop where
  tag : authCompute P (newStream ssrc key) est pkt (len - 4) = slice pkt (len - 4) 4
  fits : encOctetLen pkt (len - 4) ≤ 0xffff

/-- What a packet decrypts to under the index `est`. -/
def openPacket (P : Primitives) (ssrc : Nat) (key : Octets) (est : Nat) (pkt : Octets)
    (len : Nat) : Octets :=
  writeAt pkt (encStart pkt) (xorStream (P.keystream key ssrc est)
    (slice pkt (encStart pkt) (encOctetLen pkt (len - 4))))

theorem cipherEncrypt_eq {P : Primitives} {st : SrtpStream} {ssrc est len : Nat} {key pkt : Octets}
    (hs : st.ssrc = ssrc) (hk : st.key = key) (hfit : encOctetLen pkt (len - 4) ≤ 0xffff) :
    cipherEncrypt P st est pkt (len - 4) = some (openPacket P ssrc key est pkt len) := by
  unfold cipherEncrypt openPacket
  rw [hs, hk, if_neg (Nat.not_lt.2 hfit)]

theorem srtpUnprotect_single {P : Primitives} {st : SrtpStream} {pkt out : Octets} {len est : Nat}
    {delta : Int} (hlen : octetsInRtpHeader ≤ len) (hs : hdrSsrc pkt = st.ssrc)
    (hv : st.services = .confAndAuth) (hev : (keyLimitUpdate st.limit).1 ≠ .hardLimit)
    (hest : rdbxEstimateIndex st.rdbx (hdrSeq pkt) = (delta, est))
    (hcheck : rdbxCheck st.rdbx delta = .ok)
    (htag : authCompute P st est pkt (len - st.tagLen) = slice pkt (len - st.tagLen) st.tagLen)
    (hcipher : cipherEncrypt P st est pkt (len - st.tagLen) = some out) :
    srtpUnprotect P ⟨[st]⟩ pkt len =
      ⟨.ok, ⟨[{ st with
        direction := if st.direction = .unknown then .receiver else st.direction
        limit := (keyLimitUpdate st.limit).2
        rdbx := rdbxAddIndex st.rdbx delta }]⟩, out, len - st.tagLen⟩ := by
  have hconf : st.services.hasConf = true := by rw [hv]; rfl
  have hpasses : ¬ (st.services.hasAuth = true ∧
      authCompute P st est pkt (len - st.tagLen) ≠ slice pkt (len - st.tagLen) st.tagLen) :=
    fun h => h.2 htag
  have hcipher' : cipherEncrypt P { st with limit := (keyLimitUpdate st.limit).2 } est pkt
      (len - st.tagLen) = some out := hcipher
  unfold srtpUnprotect
  rw [if_neg (by omega), srtpGetStream_single hs]
  simp only [hest, hcheck, if_neg hpasses, if_neg hev, hconf, if_true, hcipher']
  rw [putStream_single (by rfl)]

theorem srtpUnprotect_inStep {P : Primitives} {st : SrtpStream} {ssrc first n len : Nat}
    {key pkt : Octets} (h : InStep ssrc key first n st) (hf : first < 2 ^ 16)
    (hn : n < maxPackets) (hlen : octetsInRtpHeader ≤ len) (hs : hdrSsrc pkt = ssrc)
    (hq : hdrSeq pkt = (first + n) % 2 ^ 16)
    (hg : Genuine P ssrc key ((first + n) % 2 ^ 48) pkt len) :
    ∃ st', InStep ssrc key first (n + 1) st' ∧
      srtpUnprotect P ⟨[st]⟩ pkt len =
        ⟨.ok, ⟨[st']⟩, openPacket P ssrc key ((first + n) % 2 ^ 48) pkt len, len - 4⟩ := by
  have hm : maxPackets = 2 ^ 48 - 2 := rfl
  obtain ⟨delta, hest, hcheck, htracks⟩ := h.rdbx.next hf (by omega)
  obtain ⟨hev, hcounts⟩ := h.limit.next hn
  refine ⟨_, h.advance (if st.direction = .unknown then .receiver else st.direction) hcounts
    htracks, ?_⟩
  have htag : authCompute P st ((first + n) % 2 ^ 48) pkt (len - st.tagLen) =
      slice pkt (len - st.tagLen) st.tagLen := by
    rw [h.tagLen]
    refine Eq.trans ?_ hg.tag
    unfold authCompute
    rw [h.key, h.tagLen]
    rfl
  have hcipher : cipherEncrypt P st ((first + n) % 2 ^ 48) pkt (len - st.tagLen) =
      some (openPacket P ssrc key ((first + n) % 2 ^ 48) pkt len) := by
    rw [h.tagLen]
    exact cipherEncrypt_eq h.ssrc h.key hg.fits
  rw [← hq] at hest
  rw [srtpUnprotect_single hlen (hs.trans h.ssrc.symm) h.services hev hest hcheck htag hcipher, h.tagLen]

/-! ## Headers -/

/-- Version 2, the padding bit, and the payload type, in front of the sequence number. -/
theorem codecMagic_or {ct seq : Nat} (hct : ct < 2 ^ 7) (hs : seq < 2 ^ 16) :
    ((0xA000 ||| ct) <<< 16) % 2 ^ 32 ||| seq = (0xA000 + ct) * 2 ^ 16 + seq := by
  have h₁ : 0xA000 ||| ct = 0xA000 + ct :=
    (Nat.shiftLeft_add_eq_or_of_lt (i := 13) (show ct < 2 ^ 13 by omega) 5).symm
  have h₂ : ((0xA000 + ct) <<< 16) % 2 ^ 32 = (0xA000 + ct) <<< 16 := by
    rw [Nat.shiftLeft_eq]
    exact Nat.mod_eq_of_lt (by omega)
  rw [h₁, h₂, ← Nat.shiftLeft_add_eq_or_of_lt hs, Nat.shiftLeft_eq]

def SetUpArgs.rtpContext (c : SetUpArgs) (n : Nat) : RtpContext :=
  RtpContext.next^[n] (initRtp c.rtpRandom c.codec.codecType c.codec.samplesSize)

theorem rtpContext_succ (c : SetUpArgs) (n : Nat) :
    c.rtpContext (n + 1) = (c.rtpContext n).next := by
  rw [SetUpArgs.rtpContext, Function.iterate_succ_apply']
  rfl

theorem rtpContext_fields (c : SetUpArgs) (n : Nat) :
    (c.rtpContext n).mCodecMagic = ((0xA000 ||| c.codec.codecType) <<< 16) % 2 ^ 32 ∧
    (c.rtpContext n).mSequence = (c.rtpRandom.sequence + n) % 2 ^ 16 ∧
    (c.rtpContext n).mSsrc = c.rtpRandom.ssrc := by
  induction n with
  | zero =>
    refine ⟨rfl, ?_, rfl⟩
    exact (Nat.mod_eq_of_lt c.rtpRandom.sequence.2).symm
  | succ n ih =>
    obtain ⟨hm, hq, hs⟩ := ih
    rw [rtpContext_succ]
    refine ⟨hm, ?_, hs⟩
    show ((c.rtpContext n).mSequence + 1) % 2 ^ 16 = _
    rw [hq]
    omega

def SetUpArgs.first (c : SetUpArgs) : Nat := (c.rtpRandom.sequence + 1) % 2 ^ 16

theorem first_lt (c : SetUpArgs) : c.first < 2 ^ 16 := Nat.mod_lt _ (by decide)

def SetUpArgs.header (c : SetUpArgs) (n : Nat) : Octets := (c.rtpContext (n + 1)).header

theorem header_length (c : SetUpArgs) (n : Nat) : (c.header n).length = 12 := rfl

theorem header_word (c : SetUpArgs) (n : Nat) :
    (c.rtpContext n).mCodecMagic ||| (c.rtpContext n).mSequence =
      (0xA000 + c.codec.codecType) * 2 ^ 16 + (c.rtpRandom.sequence + n) % 2 ^ 16 := by
  obtain ⟨hm, hq, _⟩ := rtpContext_fields c n
  rw [hm, hq, codecMagic_or c.codec.isPayloadType (Nat.mod_lt _ (by decide))]

theorem hdrSeq_header (c : SetUpArgs) (n : Nat) (rest : Octets) :
    hdrSeq (c.header n ++ rest) = (c.first + n) % 2 ^ 16 := by
  have h : slice (c.header n ++ rest) 2 2 =
    (be32 ((c.rtpContext (n + 1)).mCodecMagic ||| (c.rtpContext (n + 1)).mSequence)).drop 2 := rfl
  rw [hdrSeq, h, ofBe_be32_drop, header_word, SetUpArgs.first]
  omega

theorem hdrSsrc_header (c : SetUpArgs) (n : Nat) (rest : Octets) :
    hdrSsrc (c.header n ++ rest) = c.rtpRandom.ssrc := by
  have h : slice (c.header n ++ rest) 8 4 = be32 (c.rtpContext (n + 1)).mSsrc := rfl
  rw [hdrSsrc, h, (rtpContext_fields c (n + 1)).2.2]
  exact ofBe_be32_of_lt c.rtpRandom.ssrc.2

/-- No CSRCs and no header extension: the payload follows the header. -/
theorem encStart_header (c : SetUpArgs) (n : Nat) (rest : Octets) :
    encStart (c.header n ++ rest) = 12 := by
  have hb : ((c.header n ++ rest).getD 0 0).toNat = 0xA0 := by
    show (UInt8.ofNat (((c.rtpContext (n + 1)).mCodecMagic |||
      (c.rtpContext (n + 1)).mSequence) / 2 ^ 24)).toNat = 0xA0
    have hct := c.codec.isPayloadType
    rw [header_word, UInt8.toNat_ofNat']
    omega
  unfold encStart hdrCc hdrX
  rw [hb]
  rfl

/-! ## Sealing and opening -/

/-- A packet in three parts: header, payload under the keystream of `est`, tag. -/
def sealed (P : Primitives) (ssrc : Nat) (key : Octets) (est : Nat) (hdr body : Octets) : Octets :=
  let ct := xorStream (P.keystream key ssrc est) body
  hdr ++ ct ++ P.authTag key 4 (hdr ++ ct) (est / 2 ^ 16)

theorem encOctetLen_eq {pkt : Octets} {len : Nat} (h : encStart pkt = 12) (hlen : len < 2 ^ 31) :
    encOctetLen pkt (12 + len) = len := by
  rw [encOctetLen, h]
  omega

theorem sealPacket_parts {P : Primitives} {ssrc est : Nat} {key hdr body tail : Octets}
    (hh : hdr.length = 12) (ht : tail.length = 4) (hb : body.length ≤ 0xffff)
    (hs : encStart (hdr ++ body ++ tail) = 12) :
    sealPacket P (newStream ssrc key) est (hdr ++ body ++ tail) (12 + body.length) =
      (.ok, sealed P ssrc key est hdr body, 12 + body.length + 4) := by
  have hl : encOctetLen (hdr ++ body ++ tail) (12 + body.length) = body.length :=
    encOctetLen_eq hs (by omega)
  let ct := xorStream (P.keystream key ssrc est) body
  have hct : ct.length = body.length := xorStream_length _ _
  have hcipher : cipherEncrypt P (newStream ssrc key) est (hdr ++ body ++ tail)
      (12 + body.length) = some (hdr ++ ct ++ tail) := by
    unfold cipherEncrypt
    rw [hl, if_neg (by omega), hs, ← hh, slice_append]
    exact congrArg some (writeAt_append hct)
  have hlen : 12 + body.length = (hdr ++ ct).length := by
    rw [List.length_append, hh, hct]
  have htag : authCompute P (newStream ssrc key) est (hdr ++ ct ++ tail) (12 + body.length) =
      P.authTag key 4 (hdr ++ ct) (est / 2 ^ 16) := by
    rw [authCompute, hlen, List.take_left]
    rfl
  have hw : writeAt (hdr ++ ct ++ tail) (12 + body.length)
      (P.authTag key 4 (hdr ++ ct) (est / 2 ^ 16)) = sealed P ssrc key est hdr body := by
    rw [hlen, ← List.append_nil (hdr ++ ct ++ tail), writeAt_append, List.append_nil]
    · rfl
    · rw [P.authTag_length, ht]
  unfold sealPacket
  rw [show (newStream ssrc key).services.hasConf = true from rfl, if_pos rfl, hcipher]
  simp only [htag, hw]
  rfl

theorem sealed_genuine {P : Primitives} {ssrc est : Nat} {key hdr body : Octets}
    (hh : hdr.length = 12) (hb : body.length ≤ 0xffff)
    (hs : encStart (sealed P ssrc key est hdr body) = 12) :
    Genuine P ssrc key est (sealed P ssrc key est hdr body) (12 + body.length + 4) ∧
      ∃ tag : Octets, tag.length = 4 ∧
        openPacket P ssrc key est (sealed P ssrc key est hdr body) (12 + body.length + 4) =
          hdr ++ body ++ tag := by
  let ct := xorStream (P.keystream key ssrc est) body
  let tag := P.authTag key 4 (hdr ++ ct) (est / 2 ^ 16)
  have hct : ct.length = body.length := xorStream_length _ _
  have htag : tag.length = 4 := P.authTag_length ..
  have hsealed : sealed P ssrc key est hdr body = hdr ++ ct ++ tag := rfl
  have hlen : 12 + body.length = (hdr ++ ct).length := by
    rw [List.length_append, hh, hct]
  rw [hsealed] at hs ⊢
  have hl : encOctetLen (hdr ++ ct ++ tag) (12 + body.length) = ct.length := by
    rw [encOctetLen_eq hs (by omega), hct]
  refine ⟨⟨?_, ?_⟩, tag, htag, ?_⟩
  · rw [Nat.add_sub_cancel, hlen, authCompute, List.take_left]
    have hsl := slice_append (a := hdr ++ ct) (b := tag) (c := [])
    rw [List.append_nil, htag] at hsl
    rw [hsl]
    rfl
  · rw [Nat.add_sub_cancel, hl]
    omega
  · rw [openPacket, Nat.add_sub_cancel, hl, hs, ← hh, slice_append,
      writeAt_append (xorStream_length _ _), xorStream_twice]

/-! ## A session of packets -/

def SetUpArgs.masterKey (c : SetUpArgs) : Octets := srtpKey c.txKey c.senderSalt.1

def SetUpArgs.index (c : SetUpArgs) (n : Nat) : Nat := (c.first + n) % 2 ^ 48

/-- The process of the sender after `n` packets. -/
structure SenderAt (c : SetUpArgs) (n : Nat) (g : Globals) : Prop where
  rtp : g.rtpContext = some (c.rtpContext n)
  size : g.rtpPacketSize = rtpPacketSizeInBytes c.codec
  send : ∃ st, g.srtpContextSend = some ⟨[st]⟩ ∧
    InStep c.rtpRandom.ssrc c.masterKey c.first n st

/-- The process of a receiver that was set up for the sender `c`, after `n` packets. -/
structure ReceiverAt (c : SetUpArgs) (n : Nat) (g : Globals) : Prop where
  size : g.srtpPacketSize = packetSize c.codec
  recv : ∃ st, g.srtpContextRecv = some ⟨[st]⟩ ∧
    InStep c.rtpRandom.ssrc c.masterKey c.first n st

/-- The receiver was given the key, the salt and the SSRC of the sender, and has its codec. -/
structure Matches (c c' : SetUpArgs) : Prop where
  codec : c'.codec = c.codec
  ssrc : c'.receiverSsrc = c.rtpRandom.ssrc
  key : c'.rxKey = c.txKey
  salt : c'.receiverSalt = c.senderSalt.1

theorem run_senderAt (c : SetUpArgs) : SenderAt c 0 (c.run {}) := by
  unfold SetUpArgs.run SetUpArgs.sender
  rw [initSender_fresh rfl]
  exact ⟨rfl, rfl, _, rfl, newStream_inStep ..⟩

theorem initSender_srtpPacketSize (r : RtpRandom) (key salt : Octets) (ct sc ps rs ss : Nat)
    (g : Globals) : (initSender r key salt ct sc ps rs ss g).2.srtpPacketSize = ss := by
  simp only [initSender]
  split <;> rfl

theorem run_receiverAt {c c' : SetUpArgs} (h : Matches c c') {g : Globals} (hg : Reached g) :
    ReceiverAt c 0 (c'.run g) := by
  unfold SetUpArgs.run SetUpArgs.sender
  refine ⟨?_, ?_⟩
  · rw [initReceiver_loaded (hg.initSender_kernel ..), ← h.codec]
    exact initSender_srtpPacketSize ..
  · rw [initReceiver_loaded (hg.initSender_kernel ..), h.ssrc, h.key, h.salt]
    exact ⟨_, rfl, newStream_inStep ..⟩

/-- The packet that `wrapPayloadNative` makes of the array `buf` as number `n + 1`. -/
def SetUpArgs.wrapped (P : Primitives) (c : SetUpArgs) (n : Nat) (buf : Octets) :
    ErrStatus × Octets × Nat :=
  sealPacket P (newStream c.rtpRandom.ssrc c.masterKey) (c.index n)
    (writeAt buf 0 (c.header n)) (rtpPacketSizeInBytes c.codec)

theorem writeAt_header (c : SetUpArgs) (n : Nat) (buf : Octets) :
    writeAt buf 0 (c.header n) = c.header n ++ buf.drop 12 := rfl

theorem wrap_step (P : Primitives) {c : SetUpArgs} {n : Nat} {g : Globals} (buf : Octets)
    (h : SenderAt c n g) (hn : n < maxPackets) :
    ∃ g', SenderAt c (n + 1) g' ∧ wrapPayloadNative P buf g =
      some ((c.wrapped P n buf).1, (c.wrapped P n buf).2.1, g') := by
  obtain ⟨st, hst, hin⟩ := h.send
  have hlen : octetsInRtpHeader ≤ rtpPacketSizeInBytes c.codec := Nat.le_add_right ..
  have hs : hdrSsrc (writeAt buf 0 (c.header n)) = c.rtpRandom.ssrc := by
    rw [writeAt_header, hdrSsrc_header]
  have hq : hdrSeq (writeAt buf 0 (c.header n)) = (c.first + n) % 2 ^ 16 := by
    rw [writeAt_header, hdrSeq_header]
  obtain ⟨st', hin', hp⟩ := srtpProtect_inStep (P := P) hin (first_lt c) hn hlen hs hq
  refine ⟨{ g with rtpContext := some (c.rtpContext (n + 1)), srtpContextSend := some ⟨[st']⟩ },
    ⟨rfl, h.size, st', rfl, hin'⟩, ?_⟩
  unfold wrapPayloadNative
  simp only [h.rtp, hst, Option.bind_eq_bind, Option.bind_some, getNextPacketHeader, h.size,
    ← rtpContext_succ]
  rw [show (c.rtpContext (n + 1)).header = c.header n from rfl, hp]
  rfl

theorem unwrap_step {P : Primitives} {c : SetUpArgs} {n : Nat} {g : Globals} {body : Octets}
    (h : ReceiverAt c n g) (hn : n < maxPackets)
    (hb : body.length = roundUpToMultipleOf4 c.codec.bytesSize) (hfit : body.length ≤ 0xffff) :
    ∃ g' tag, ReceiverAt c (n + 1) g' ∧ tag.length = 4 ∧
      unwrapPacketNative P
        (sealed P c.rtpRandom.ssrc c.masterKey (c.index n) (c.header n) body) g =
          some (.ok, c.header n ++ body ++ tag, g') := by
  obtain ⟨st, hst, hin⟩ := h.recv
  have hsize : packetSize c.codec = 12 + body.length + 4 := by rw [hb]; rfl
  have hs : encStart (sealed P c.rtpRandom.ssrc c.masterKey (c.index n) (c.header n) body) = 12 := by
    rw [sealed, List.append_assoc, encStart_header]
  obtain ⟨hgen, tag, htag, hopen⟩ := sealed_genuine (header_length c n) hfit hs
  have hp := srtpUnprotect_inStep (P := P) hin (first_lt c) hn
    (show octetsInRtpHeader ≤ 12 + body.length + 4 by rw [octetsInRtpHeader]; omega)
    (by rw [sealed, List.append_assoc, hdrSsrc_header])
    (by rw [sealed, List.append_assoc, hdrSeq_header]) hgen
  obtain ⟨st', hin', hp⟩ := hp
  refine ⟨{ g with srtpContextRecv := some ⟨[st']⟩ }, tag, ⟨h.size, st', rfl, hin'⟩, htag, ?_⟩
  unfold unwrapPacketNative
  simp only [hst, Option.bind_eq_bind, Option.bind_some, h.size, hsize]
  rw [hp, ← hopen]
  rfl

/-! ## Packets in order -/

/-- The index that `srtp_protect` and `srtp_unprotect` work out for a packet. -/
def estimatedIndex (ctx : SrtpCtx) (pkt : Octets) : Option Nat :=
  (srtpGetStream ctx (hdrSsrc pkt)).map fun st => (rdbxEstimateIndex st.rdbx (hdrSeq pkt)).2

theorem InStep.estimatedIndex {c : SetUpArgs} {n : Nat} {st : SrtpStream}
    (h : InStep c.rtpRandom.ssrc c.masterKey c.first n st) (hn : n < maxPackets) (rest : Octets) :
    Native.estimatedIndex ⟨[st]⟩ (c.header n ++ rest) = some (c.index n) := by
  have hm : maxPackets = 2 ^ 48 - 2 := rfl
  obtain ⟨delta, hest, _, _⟩ := h.rdbx.next (first_lt c) (by omega)
  rw [Native.estimatedIndex, hdrSsrc_header, srtpGetStream_single h.ssrc.symm, hdrSeq_header]
  simp only [Option.map_some, hest]
  rfl

theorem sealPacket_status (P : Primitives) (st : SrtpStream) (est : Nat) (pkt : Octets)
    (len : Nat) :
    (sealPacket P st est pkt len).1 = .ok ∨ (sealPacket P st est pkt len).1 = .cipherFail := by
  unfold sealPacket
  split
  · exact .inr rfl
  · split
    · exact .inl rfl
    · exact .inl rfl

theorem wrapped_eq {P : Primitives} {c : SetUpArgs} {n : Nat} {buf : Octets}
    (hb : buf.length = packetSize c.codec)
    (hfit : roundUpToMultipleOf4 c.codec.bytesSize ≤ 0xffff) :
    ∃ old body tail : Octets, buf = old ++ body ++ tail ∧ old.length = 12 ∧
      body.length = roundUpToMultipleOf4 c.codec.bytesSize ∧
      c.wrapped P n buf = (.ok, sealed P c.rtpRandom.ssrc c.masterKey (c.index n) (c.header n) body,
        packetSize c.codec) := by
  obtain ⟨old, body, tail, rfl, hold, hbody, htail⟩ := exists_cut hb
  refine ⟨old, body, tail, rfl, hold, hbody, ?_⟩
  have hw : writeAt (old ++ body ++ tail) 0 (c.header n) = c.header n ++ body ++ tail := by
    rw [writeAt_header, List.append_assoc, ← show old.length = 12 from hold, List.drop_left,
      List.append_assoc]
  have hs : encStart (c.header n ++ body ++ tail) = 12 := by
    rw [List.append_assoc, encStart_header]
  have hlen : rtpPacketSizeInBytes c.codec = 12 + body.length := by rw [hbody]; rfl
  rw [SetUpArgs.wrapped, hw, hlen, sealPacket_parts (header_length c n) htail (by omega) hs, hbody]
  rfl

theorem wrapped_not_replay (P : Primitives) (c : SetUpArgs) (n : Nat) (buf : Octets) :
    (c.wrapped P n buf).1 ≠ .replayFail ∧ (c.wrapped P n buf).1 ≠ .replayOld := by
  unfold SetUpArgs.wrapped
  rcases sealPacket_status P (newStream c.rtpRandom.ssrc c.masterKey) (c.index n)
    (writeAt buf 0 (c.header n)) (rtpPacketSizeInBytes c.codec) with h | h
  · rw [h]
    exact ⟨by simp, by simp⟩
  · rw [h]
    exact ⟨by simp, by simp⟩

theorem index_injective (c : SetUpArgs) {i j : Nat} (hi : i < maxPackets) (hj : j < maxPackets)
    (h : c.index i = c.index j) : i = j := by
  have hm : maxPackets = 2 ^ 48 - 2 := rfl
  unfold SetUpArgs.index at h
  omega

def sentAfter (P : Primitives) (bufs : Nat → Octets) : Nat → Globals → Option Globals :=
  after fun i g => (wrapPayloadNative P (bufs i) g).map (·.2.2)

def receivedAfter (P : Primitives) (pkts : Nat → Octets) : Nat → Globals → Option Globals :=
  after fun i g => (unwrapPacketNative P (pkts i) g).map (·.2.2)

theorem sentAfter_senderAt (P : Primitives) (c : SetUpArgs) (bufs : Nat → Octets) {n : Nat}
    (hn : n ≤ maxPackets) : ∃ g, sentAfter P bufs n (c.run {}) = some g ∧ SenderAt c n g := by
  refine after_inv (SenderAt c) ?_ (run_senderAt c) n hn
  intro n g hn hg
  obtain ⟨g', hg', hw⟩ := wrap_step P (bufs n) hg hn
  exact ⟨g', by simp only [hw, Option.map_some], hg'⟩

theorem receivedAfter_receiverAt (P : Primitives) {c c' : SetUpArgs} (hm : Matches c c')
    {g : Globals} (hg : Reached g) {bufs : Nat → Octets}
    (hb : ∀ n, (bufs n).length = packetSize c.codec)
    (hfit : roundUpToMultipleOf4 c.codec.bytesSize ≤ 0xffff) {n : Nat} (hn : n ≤ maxPackets) :
    ∃ g', receivedAfter P (fun i => (c.wrapped P i (bufs i)).2.1) n (c'.run g) = some g' ∧
      ReceiverAt c n g' := by
  refine after_inv (ReceiverAt c) ?_ (run_receiverAt hm hg) n hn
  intro n g hn hg
  obtain ⟨_, body, _, _, _, hbody, hw⟩ := wrapped_eq (P := P) (n := n) (hb n) hfit
  obtain ⟨g', tag, hg', _, hu⟩ := unwrap_step (P := P) hg hn hbody (by omega)
  exact ⟨g', by simp only [hw, hu, Option.map_some], hg'⟩

theorem wrap_expired {P : Primitives} {c : SetUpArgs} {g : Globals} (h : SenderAt c maxPackets g)
    (buf : Octets) : ∃ out g', wrapPayloadNative P buf g = some (.keyExpired, out, g') := by
  obtain ⟨st, hst, hin⟩ := h.send
  have hs : hdrSsrc (writeAt buf 0 (c.header maxPackets)) = st.ssrc := by
    rw [writeAt_header, hdrSsrc_header, hin.ssrc]
  have hlen : ¬ rtpPacketSizeInBytes c.codec < octetsInRtpHeader :=
    Nat.not_lt.2 (Nat.le_add_right ..)
  have hp : (srtpProtect P ⟨[st]⟩ (writeAt buf 0 (c.header maxPackets))
      (rtpPacketSizeInBytes c.codec)).status = .keyExpired := by
    unfold srtpProtect
    rw [if_neg hlen, srtpGetStream_single hs]
    simp only [hin.limit.expires, if_true]
  unfold wrapPayloadNative
  simp only [h.rtp, hst, Option.bind_eq_bind, Option.bind_some, getNextPacketHeader, h.size,
    ← rtpContext_succ]
  rw [show (c.rtpContext (maxPackets + 1)).header = c.header maxPackets from rfl, hp]
  exact ⟨_, _, rfl⟩

/-- Packet number `n + 1`, for every `n` below the key limit: the sender estimates the index
`((mSequence + 1) % 2^16 + n) % 2^48`, does not refuse it and protects the packet under it; no two
packets have one index; the next packet after the limit is refused. A receiver that is given the
packets in order estimates the same index for each and accepts it (when packets are short enough to
be produced at all). -/
theorem packet_indices_in_step (P : Primitives) {c c' : SetUpArgs} (hm : Matches c c') {g : Globals}
    (hg : Reached g) (bufs : Nat → Octets) (hb : ∀ n, (bufs n).length = packetSize c.codec) :
    (∀ n, n < maxPackets → ∃ gs ctx gs', sentAfter P bufs n (c.run {}) = some gs ∧
      gs.srtpContextSend = some ctx ∧
      estimatedIndex ctx (writeAt (bufs n) 0 (c.header n)) =
        some (((c.rtpRandom.sequence + 1) % 2 ^ 16 + n) % 2 ^ 48) ∧
      wrapPayloadNative P (bufs n) gs =
        some ((c.wrapped P n (bufs n)).1, (c.wrapped P n (bufs n)).2.1, gs') ∧
      (c.wrapped P n (bufs n)).1 ≠ .replayFail ∧ (c.wrapped P n (bufs n)).1 ≠ .replayOld) ∧
    (∀ i j, i < maxPackets → j < maxPackets → c.index i = c.index j → i = j) ∧
    (∃ gs out gs', sentAfter P bufs maxPackets (c.run {}) = some gs ∧
      wrapPayloadNative P (bufs maxPackets) gs = some (.keyExpired, out, gs')) ∧
    (roundUpToMultipleOf4 c.codec.bytesSize ≤ 0xffff → ∀ n, n < maxPackets → ∃ gr ctx out gr',
      receivedAfter P (fun i => (c.wrapped P i (bufs i)).2.1) n (c'.run g) = some gr ∧
      gr.srtpContextRecv = some ctx ∧
      estimatedIndex ctx (c.wrapped P n (bufs n)).2.1 =
        some (((c.rtpRandom.sequence + 1) % 2 ^ 16 + n) % 2 ^ 48) ∧
      unwrapPacketNative P (c.wrapped P n (bufs n)).2.1 gr = some (.ok, out, gr')) := by
  refine ⟨?_, ?_, ?_, ?_⟩
  · intro n hn
    obtain ⟨gs, hgs, hat⟩ := sentAfter_senderAt P c bufs (Nat.le_of_lt hn)
    obtain ⟨st, hst, hin⟩ := hat.send
    obtain ⟨gs', _, hw⟩ := wrap_step P (bufs n) hat hn
    exact ⟨gs, _, gs', hgs, hst, hin.estimatedIndex hn _, hw, wrapped_not_replay ..⟩
  · intro i j hi hj h
    exact index_injective c hi hj h
  · obtain ⟨gs, hgs, hat⟩ := sentAfter_senderAt P c bufs (Nat.le_refl _)
    obtain ⟨out, gs', hw⟩ := wrap_expired (P := P) hat (bufs maxPackets)
    exact ⟨gs, out, gs', hgs, hw⟩
  · intro hfit n hn
    obtain ⟨gr, hgr, hat⟩ := receivedAfter_receiverAt P hm hg hb hfit (Nat.le_of_lt hn)
    obtain ⟨st, hst, hin⟩ := hat.recv
    obtain ⟨_, body, _, _, _, hbody, hw⟩ := wrapped_eq (P := P) (n := n) (hb n) hfit
    obtain ⟨gr', tag, _, _, hu⟩ := unwrap_step (P := P) hat hn hbody (by omega)
    refine ⟨gr, _, c.header n ++ body ++ tag, gr', hgr, hst, ?_, ?_⟩
    · rw [hw, sealed, List.append_assoc]
      exact hin.estimatedIndex hn _
    · rw [hw, hu]

def plainPrimitives : Primitives where
  keystream _ _ _ _ := 0
  authTag _ tagLen _ _ := List.replicate tagLen 0
  authTag_length _ _ _ _ := List.length_replicate

theorem sampleSetUp_matches : Matches (sampleSetUp 1) (sampleSetUp 1) :=
  ⟨rfl, rfl, rfl, rfl⟩

/-- The packet after the first 70000 of a session, past the wrap of the sequence number. -/
theorem packet_indices_past_wrap :
    ∃ gs ctx, sentAfter plainPrimitives (fun _ => List.replicate 24 0) 70000
        ((sampleSetUp 1).run {}) = some gs ∧ gs.srtpContextSend = some ctx ∧
      estimatedIndex ctx (writeAt (List.replicate 24 0) 0 ((sampleSetUp 1).header 70000)) =
        some 70002 := by
  have h := (packet_indices_in_step plainPrimitives sampleSetUp_matches .start
    (fun _ => List.replicate 24 0) (fun _ => by decide)).1 70000 (by decide)
  obtain ⟨gs, ctx, _, hgs, hctx, hest, _⟩ := h
  exact ⟨gs, ctx, hgs, hctx, hest⟩

end Native
end OnionPhone
