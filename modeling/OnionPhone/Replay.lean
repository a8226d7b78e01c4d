import OnionPhone.Media
import OnionPhone.Native.Live

/-!
# OnionPhone.Replay

Packets of a session that reach the unwrapper in another order, not at all, or more than once.

The replay database does not do what it is there for: `rdbx_check` looks at bit `127 + delta` for a
packet that is not new, and `rdbx_add_index` records such a packet in bit `-delta`; and for a packet
from before a rollover `index_guess` gives the distance backwards as a distance forwards. A packet
that takes one of these ways can be delivered again.

* `Recorded`: the window holds the indices of the packets that were accepted. New packets keep it so.
* `late_accepted_again`: a late packet that is not refused is accepted twice.
* `no_packet_twice`: as long as no packet takes one of these ways, each payload is written at most once, and
  `unwrapPacketNative` refuses a packet that it has accepted before.
-/

namespace OnionPhone
namespace Replay

open Wire Wire.Octets Native SrtpProtocol Media

/-! ## The database -/

/-- An estimate above the database is ahead of it by less than a rollover. -/
theorem rdbxEstimateIndex_ahead {r : Rdbx} {s est : Nat} {delta : Int} (hs : s < 2 ^ 16)
    (h : rdbxEstimateIndex r s = (delta, est)) (ha : r.index < est) :
    0 < delta ∧ delta < 2 ^ 16 ∧ r.index + delta = est ∧ est < 2 ^ 48 := by
  rcases rdbxEstimateIndex_cases h with ⟨hi, rfl, rfl⟩ | ⟨hi, rfl, rfl⟩ | ⟨hi, hq, rfl, rfl⟩ |
    ⟨hi, hq, rfl, rfl⟩
  · omega
  · omega
  · omega
  · -- one rollover back is never above
    omega

/-- A distance that is not positive is the distance to the estimate. -/
theorem rdbxEstimateIndex_behind {r : Rdbx} {s est : Nat} {delta : Int} (hs : s < 2 ^ 16)
    (hr : r.index < 2 ^ 48) (h : rdbxEstimateIndex r s = (delta, est)) (hd : delta ≤ 0) :
    (est : Int) = r.index + delta := by
  rcases rdbxEstimateIndex_cases h with ⟨hi, rfl, rfl⟩ | ⟨hi, rfl, rfl⟩ | ⟨hi, hq, rfl, rfl⟩ |
    ⟨hi, hq, rfl, rfl⟩
  · omega
  · omega
  · omega
  · omega

/-- The window holds the indices of the packets `acc`. -/
def Recorded (c : SetUpArgs) (acc : List Nat) (r : Rdbx) : Prop :=
  r.index < 2 ^ 48 ∧ ∀ i ∈ acc, r.Holds (c.index i)

theorem Recorded.forward {c : SetUpArgs} {acc : List Nat} {r : Rdbx} {i s : Nat} {delta : Int}
    (h : Recorded c acc r) (hs : s < 2 ^ 16) (hest : rdbxEstimateIndex r s = (delta, c.index i))
    (ha : r.index < c.index i) : Recorded c (i :: acc) (rdbxAddIndex r delta) := by
  obtain ⟨hpos, hlt, hsum, hlt48⟩ := rdbxEstimateIndex_ahead hs hest ha
  have hroom : r.index + delta < 2 ^ 64 := by omega
  have hindex := rdbxAddIndex_forward hpos hlt hroom
  refine ⟨by omega, fun j hj => ?_⟩
  rcases List.mem_cons.1 hj with rfl | hj
  · exact rdbxAddIndex_holds_new hpos (by omega)
  · exact rdbxAddIndex_holds hpos hlt hroom (h.2 j hj)

/-! ## One packet -/

/-- What it takes for `srtp_unprotect` to accept a packet for the one stream of a session. -/
theorem srtpUnprotect_ok {P : Primitives} {st : SrtpStream} {pkt : Octets} {len est : Nat}
    {delta : Int} (hs : hdrSsrc pkt = st.ssrc) (hv : st.services = .confAndAuth)
    (hest : rdbxEstimateIndex st.rdbx (hdrSeq pkt) = (delta, est))
    (hok : (srtpUnprotect P ⟨[st]⟩ pkt len).status = .ok) :
    rdbxCheck st.rdbx delta = .ok ∧
    authCompute P st est pkt (len - st.tagLen) = slice pkt (len - st.tagLen) st.tagLen ∧
    (keyLimitUpdate st.limit).1 ≠ .hardLimit ∧
    ∃ direction, (srtpUnprotect P ⟨[st]⟩ pkt len).ctx =
        ⟨[{ st with
          direction := direction
          limit := (keyLimitUpdate st.limit).2
          rdbx := rdbxAddIndex st.rdbx delta }]⟩ ∧
      cipherEncrypt P st est pkt (len - st.tagLen) =
        some (srtpUnprotect P ⟨[st]⟩ pkt len).packet := by
  have hauth : st.services.hasAuth = true := by rw [hv]; rfl
  have hconf : st.services.hasConf = true := by rw [hv]; rfl
  unfold srtpUnprotect at hok ⊢
  rw [srtpGetStream_single hs] at hok ⊢
  by_cases hlen : len < octetsInRtpHeader
  · rw [if_pos hlen] at hok
    cases hok
  rw [if_neg hlen] at hok ⊢
  simp only [hest, hauth, hconf, true_and, if_true] at hok ⊢
  cases hc : rdbxCheck st.rdbx delta <;> simp only [hc] at hok ⊢ <;> try cases hok
  by_cases ht : authCompute P st est pkt (len - st.tagLen) = slice pkt (len - st.tagLen) st.tagLen
  · rw [if_neg (not_not.2 ht)] at hok ⊢
    by_cases hev : (keyLimitUpdate st.limit).1 = .hardLimit
    · rw [if_pos hev] at hok
      cases hok
    rw [if_neg hev] at hok ⊢
    have hcongr : cipherEncrypt P { st with limit := (keyLimitUpdate st.limit).2 } est pkt
        (len - st.tagLen) = cipherEncrypt P st est pkt (len - st.tagLen) := rfl
    rw [hcongr] at hok ⊢
    cases hp : cipherEncrypt P st est pkt (len - st.tagLen) with
    | none =>
      rw [hp] at hok
      cases hok
    | some out =>
      exact ⟨trivial, ht, hev, if st.direction = .unknown then .receiver else st.direction,
        putStream_single rfl, rfl⟩
  · rw [if_pos ht] at hok
    cases hok

variable {P : Primitives} {c : SetUpArgs} {bodies : Nat → Octets}

/-- Packet number `i + 1` of the session, with the payload area `bodies i`. -/
def sentPacket (P : Primitives) (c : SetUpArgs) (bodies : Nat → Octets) (i : Nat) : Octets :=
  sealed P c.rtpRandom.ssrc c.masterKey (c.index i) (c.header i) (bodies i)

/-- A stream of the session that has accepted `n` packets, with the replay database `r`. -/
structure InSession (c : SetUpArgs) (n : Nat) (r : Rdbx) (st : SrtpStream) : Prop where
  ssrc : st.ssrc = c.rtpRandom.ssrc
  key : st.key = c.masterKey
  tagLen : st.tagLen = 4
  services : st.services = .confAndAuth
  limit : Counts n st.limit
  rdbx : st.rdbx = r

/-- The receiver of the session after `n` packets. -/
structure Received (c : SetUpArgs) (n : Nat) (r : Rdbx) (g : Globals) : Prop where
  size : g.srtpPacketSize = SrtpProtocol.packetSize c.codec
  count : n ≤ maxPackets
  recv : ∃ st, g.srtpContextRecv = some ⟨[st]⟩ ∧ InSession c n r st

/-- What `srtp_unprotect` works out for a packet: its stream, the distance to the index of the database, and
the estimated index. -/
def estimate (g : Globals) (pkt : Octets) : Option (SrtpStream × Int × Nat) := do
  let ctx ← g.srtpContextRecv
  let st ← srtpGetStream ctx (hdrSsrc pkt)
  pure (st, rdbxEstimateIndex st.rdbx (hdrSeq pkt))

def verifies (P : Primitives) (g : Globals) (st : SrtpStream) (est : Nat) (pkt : Octets) : Bool :=
  authCompute P st est pkt (g.srtpPacketSize - st.tagLen) =
    slice pkt (g.srtpPacketSize - st.tagLen) st.tagLen

/-- Packet `i`, which comes after the packets `acc`, does not take one of the two wrong ways: it is new, or
one of these, or older than the window, or it is not authentic under the index that is estimated for it. -/
def harmless (P : Primitives) (c : SetUpArgs) (bodies : Nat → Octets) (acc : List Nat) (g : Globals)
    (i : Nat) : Bool :=
  (estimate g (sentPacket P c bodies i)).any fun e =>
    e.1.rdbx.index < e.2.2 || (e.2.1 ≤ 0 && (i ∈ acc || e.2.1 < -127)) ||
      !verifies P g e.1 e.2.2 (sentPacket P c bodies i)

/-- The tag of packet `i` verifies under the index that is estimated for it only if that is its own. -/
def tagBinds (P : Primitives) (c : SetUpArgs) (bodies : Nat → Octets) (_ : List Nat) (g : Globals)
    (i : Nat) : Bool :=
  (estimate g (sentPacket P c bodies i)).all fun e =>
    e.2.2 = c.index i || !verifies P g e.1 e.2.2 (sentPacket P c bodies i)

theorem sentPacket_header (P : Primitives) (c : SetUpArgs) (bodies : Nat → Octets) (i : Nat) :
    ∃ rest, sentPacket P c bodies i = c.header i ++ rest :=
  ⟨_, by rw [sentPacket, sealed, List.append_assoc]⟩

theorem sentPacket_length (P : Primitives) {i : Nat}
    (hbody : (bodies i).length = roundUpToMultipleOf4 c.codec.bytesSize) :
    (sentPacket P c bodies i).length = SrtpProtocol.packetSize c.codec := by
  simp only [sentPacket, sealed, List.length_append, xorStream_length, P.authTag_length, header_length, hbody]
  rfl

theorem sentPacket_genuine (P : Primitives) {i : Nat}
    (hbody : (bodies i).length = roundUpToMultipleOf4 c.codec.bytesSize)
    (hfit : roundUpToMultipleOf4 c.codec.bytesSize ≤ 0xffff) :
    Genuine P c.rtpRandom.ssrc c.masterKey (c.index i) (sentPacket P c bodies i)
      (SrtpProtocol.packetSize c.codec) ∧
    slice (openPacket P c.rtpRandom.ssrc c.masterKey (c.index i) (sentPacket P c bodies i)
      (SrtpProtocol.packetSize c.codec)) 12 c.codec.bytesSize = (bodies i).take c.codec.bytesSize := by
  obtain ⟨rest, hrest⟩ := sentPacket_header P c bodies i
  have hsize : SrtpProtocol.packetSize c.codec = 12 + (bodies i).length + 4 := by rw [hbody]; rfl
  have hstart : encStart (sentPacket P c bodies i) = 12 := by rw [hrest, encStart_header]
  obtain ⟨hgen, tag, -, hopen⟩ :=
    sealed_genuine (P := P) (header_length c i) (by omega : (bodies i).length ≤ 0xffff) hstart
  rw [← hsize] at hgen hopen
  refine ⟨hgen, ?_⟩
  have hle := bytesSize_le_roundUp c.codec
  rw [sentPacket, hopen]
  exact slice_append_take (a := c.header i) (by omega)

theorem sentPacket_seq (P : Primitives) (c : SetUpArgs) (bodies : Nat → Octets) (i : Nat) :
    hdrSeq (sentPacket P c bodies i) = c.index i % 2 ^ 16 := by
  obtain ⟨rest, hrest⟩ := sentPacket_header P c bodies i
  rw [hrest, hdrSeq_header, SetUpArgs.index]
  omega

theorem sentPacket_ssrc {n : Nat} {r : Rdbx} {st : SrtpStream} (h : InSession c n r st) (P : Primitives)
    (bodies : Nat → Octets) (i : Nat) : hdrSsrc (sentPacket P c bodies i) = st.ssrc := by
  obtain ⟨rest, hrest⟩ := sentPacket_header P c bodies i
  rw [hrest, hdrSsrc_header, h.ssrc]

variable {n : Nat} {r : Rdbx} {g : Globals}

theorem Received.estimate (h : Received c n r g) (P : Primitives) (bodies : Nat → Octets) (i : Nat) :
    ∃ st, InSession c n r st ∧ g.srtpContextRecv = some ⟨[st]⟩ ∧
      Replay.estimate g (sentPacket P c bodies i) =
        some (st, rdbxEstimateIndex r (c.index i % 2 ^ 16)) := by
  obtain ⟨st, hst, hin⟩ := h.recv
  refine ⟨st, hin, hst, ?_⟩
  rw [Replay.estimate, hst, ← sentPacket_seq P c bodies i, ← hin.rdbx]
  simp only [Option.bind_eq_bind, Option.bind_some, srtpGetStream_single (sentPacket_ssrc hin P bodies i),
    Option.pure_def]

theorem Received.unwraps (h : Received c n r g) (pkt : Octets) :
    ∃ status out g', unwrapPacketNative P pkt g = some (status, out, g') := by
  obtain ⟨st, hst, -⟩ := h.recv
  exact ⟨_, _, _, by rw [unwrapPacketNative, hst]; rfl⟩

/-- Everything that follows from a packet being accepted: it has passed both checks, and the distance has been
added to the database. -/
theorem Received.accepted {g' : Globals} {i est : Nat} {delta : Int} {out : Octets}
    (h : Received c n r g) (hest : rdbxEstimateIndex r (c.index i % 2 ^ 16) = (delta, est))
    (hu : unwrapPacketNative P (sentPacket P c bodies i) g = some (.ok, out, g')) :
    rdbxCheck r delta = .ok ∧ Received c (n + 1) (rdbxAddIndex r delta) g' ∧
    ∃ st, InSession c n r st ∧ Replay.estimate g (sentPacket P c bodies i) = some (st, delta, est) ∧
      verifies P g st est (sentPacket P c bodies i) = true ∧
      cipherEncrypt P st est (sentPacket P c bodies i) (SrtpProtocol.packetSize c.codec - 4) = some out := by
  obtain ⟨st, hin, hst, hestimate⟩ := h.estimate P bodies i
  rw [hest] at hestimate
  rw [← sentPacket_seq P c bodies i, ← hin.rdbx] at hest
  simp only [unwrapPacketNative, hst, Option.bind_eq_bind, Option.bind_some, Option.pure_def,
    Option.some.injEq, Prod.mk.injEq] at hu
  obtain ⟨hok, rfl, rfl⟩ := hu
  obtain ⟨hcheck, hauth, hev, direction, hctx, hcipher⟩ :=
    srtpUnprotect_ok (sentPacket_ssrc hin P bodies i) hin.services hest hok
  have hn : n < maxPackets := by
    refine Nat.lt_of_le_of_ne h.count fun hlast => hev ?_
    subst hlast
    exact hin.limit.expires
  rw [hin.rdbx] at hcheck hctx
  refine ⟨hcheck, ⟨h.size, hn, _, congrArg some hctx, hin.ssrc, hin.key, hin.tagLen, hin.services,
    (hin.limit.next hn).2, rfl⟩, st, hin, hestimate, decide_eq_true hauth, ?_⟩
  rw [← hin.tagLen, ← h.size]
  exact hcipher

/-- A packet that is estimated at its own index and not refused by the database is accepted, as long as the
key lasts. -/
theorem Received.accepts {u : SrtpUnwrapper} {i : Nat} {delta : Int} (h : Received c n r g) (hn : n < maxPackets)
    (hu : u.headerSize = 12) (hp : u.payloadSize = c.codec.bytesSize)
    (hbody : (bodies i).length = roundUpToMultipleOf4 c.codec.bytesSize)
    (hfit : roundUpToMultipleOf4 c.codec.bytesSize ≤ 0xffff)
    (hest : rdbxEstimateIndex r (c.index i % 2 ^ 16) = (delta, c.index i)) (hcheck : rdbxCheck r delta = .ok) :
    ∃ g', unwrapPacket P u g (sentPacket P c bodies i) = .ok (g', (bodies i).take c.codec.bytesSize) ∧
      Received c (n + 1) (rdbxAddIndex r delta) g' := by
  obtain ⟨st, hst, hin⟩ := h.recv
  obtain ⟨hgen, hslice⟩ := sentPacket_genuine P hbody hfit
  rw [← h.size] at hgen hslice
  have hlen : octetsInRtpHeader ≤ g.srtpPacketSize := by
    rw [h.size]
    exact Nat.le_add_right_of_le (Nat.le_add_right 12 _)
  have hest' : rdbxEstimateIndex st.rdbx (hdrSeq (sentPacket P c bodies i)) = (delta, c.index i) := by
    rw [sentPacket_seq, hin.rdbx, hest]
  have htag : authCompute P st (c.index i) (sentPacket P c bodies i) (g.srtpPacketSize - st.tagLen) =
      slice (sentPacket P c bodies i) (g.srtpPacketSize - st.tagLen) st.tagLen := by
    rw [hin.tagLen, ← hgen.tag]
    simp only [authCompute, hin.key, hin.tagLen]
    rfl
  have hcipher : cipherEncrypt P st (c.index i) (sentPacket P c bodies i) (g.srtpPacketSize - 4) = _ :=
    cipherEncrypt_eq hin.ssrc hin.key hgen.fits
  rw [← hin.tagLen] at hcipher
  have hunprotect := srtpUnprotect_single hlen (sentPacket_ssrc hin P bodies i) hin.services
    (hin.limit.next hn).1 hest' (by rw [hin.rdbx, hcheck]) htag hcipher
  obtain ⟨status, out, g', hnative⟩ := h.unwraps (P := P) (sentPacket P c bodies i)
  have hresult := hnative
  simp only [unwrapPacketNative, hst, Option.bind_eq_bind, Option.bind_some, Option.pure_def, hunprotect,
    Option.some.injEq, Prod.mk.injEq] at hresult
  obtain ⟨rfl, rfl, -⟩ := hresult
  obtain ⟨-, hrecv, -⟩ := h.accepted hest hnative
  exact ⟨g', by simp only [unwrapPacket, hnative, hu, hp, hslice], hrecv⟩

/-- A harmless packet that is accepted is new, it is recorded, and the payload is its own. -/
theorem accept_step {g' : Globals} {acc : List Nat} {i : Nat} {out : Octets}
    (hbody : (bodies i).length = roundUpToMultipleOf4 c.codec.bytesSize)
    (hfit : roundUpToMultipleOf4 c.codec.bytesSize ≤ 0xffff) (h : Received c n r g)
    (hrec : Recorded c acc r) (hbind : tagBinds P c bodies acc g i = true)
    (hharm : harmless P c bodies acc g i = true)
    (hu : unwrapPacketNative P (sentPacket P c bodies i) g = some (.ok, out, g')) :
    i ∉ acc ∧ (∃ r', Received c (n + 1) r' g' ∧ Recorded c (i :: acc) r') ∧
      slice out 12 c.codec.bytesSize = (bodies i).take c.codec.bytesSize := by
  have hq : c.index i % 2 ^ 16 < 2 ^ 16 := Nat.mod_lt _ (by decide)
  generalize hest : rdbxEstimateIndex r (c.index i % 2 ^ 16) = guess
  obtain ⟨delta, est⟩ := guess
  obtain ⟨hcheck, hrecv, st, hin, hst, hver, hcipher⟩ := h.accepted hest hu
  -- the tag has verified, so the estimate is the packet's own index
  have hown : est = c.index i := by
    simpa [tagBinds, hst, hver] using hbind
  subst hown
  have hcase : r.index < c.index i ∨ delta ≤ 0 ∧ (i ∈ acc ∨ delta < -127) := by
    simpa [harmless, hst, hver, hin.rdbx] using hharm
  have hahead : r.index < c.index i := by
    rcases hcase with hahead | ⟨hd, hmem | hold⟩
    · exact hahead
    · -- a repetition: the window still holds its index
      exact absurd hcheck ((hrec.2 i hmem).refused (rdbxEstimateIndex_behind hq hrec.1 hest hd))
    · have hhigh : rdbxHighBitInBitmask = 127 := rfl
      rw [rdbxCheck, if_neg (by omega), if_pos (by omega)] at hcheck
      cases hcheck
  refine ⟨fun hmem => ?_, ⟨_, hrecv, hrec.forward hq hest hahead⟩, ?_⟩
  · have := (hrec.2 i hmem).1
    omega
  · obtain ⟨hgen, hslice⟩ := sentPacket_genuine P hbody hfit
    rw [cipherEncrypt_eq hin.ssrc hin.key hgen.fits, Option.some.injEq] at hcipher
    rw [← hcipher, hslice]

/-- A packet that is not new and yet not refused is accepted twice. -/
theorem late_accepted_again {u : SrtpUnwrapper} {i : Nat} {delta : Int} (h : Received c n r g)
    (hn : n + 1 < maxPackets) (hu : u.headerSize = 12) (hp : u.payloadSize = c.codec.bytesSize)
    (hbody : (bodies i).length = roundUpToMultipleOf4 c.codec.bytesSize)
    (hfit : roundUpToMultipleOf4 c.codec.bytesSize ≤ 0xffff)
    (hest : rdbxEstimateIndex r (c.index i % 2 ^ 16) = (delta, c.index i)) (hd : delta ≤ 0)
    (hcheck : rdbxCheck r delta = .ok) :
    ∃ g', stepAll (unwrapPacket P u) g [sentPacket P c bodies i, sentPacket P c bodies i] =
      .ok (g', [(bodies i).take c.codec.bytesSize, (bodies i).take c.codec.bytesSize]) := by
  have hsame : (rdbxAddIndex r delta).index = r.index := by rw [rdbxAddIndex, if_neg (by omega)]
  have hest' : rdbxEstimateIndex (rdbxAddIndex r delta) (c.index i % 2 ^ 16) = (delta, c.index i) := by
    rw [← hest, rdbxEstimateIndex, rdbxEstimateIndex, hsame]
  obtain ⟨g₁, h₁, hrecv⟩ := h.accepts (P := P) (by omega) hu hp hbody hfit hest hcheck
  obtain ⟨g₂, h₂, -⟩ := hrecv.accepts (P := P) hn hu hp hbody hfit hest' (rdbxCheck_late_again hd hcheck)
  exact ⟨g₂, by simp only [stepAll, h₁, h₂]⟩

/-! ## A whole delivery -/

/-- `test` is passed by every packet of the delivery that is looked at, with the packets that were accepted
before and the state that it comes to. -/
def throughout (P : Primitives) (c : SetUpArgs) (bodies : Nat → Octets)
    (test : List Nat → Globals → Nat → Bool) : List Nat → Globals → List Nat → Bool
  | _, _, [] => true
  | acc, g, i :: ds => test acc g i &&
    match unwrapPacketNative P (sentPacket P c bodies i) g with
    | some (.ok, _, g') => throughout P c bodies test (i :: acc) g' ds
    | _ => true

theorem unwrapPacket_ok {u : SrtpUnwrapper} {g g' : Globals} {pkt out : Octets}
    (h : unwrapPacket P u g pkt = .ok (g', out)) :
    ∃ opened, unwrapPacketNative P pkt g = some (.ok, opened, g') ∧
      out = slice opened u.headerSize u.payloadSize := by
  unfold unwrapPacket at h
  split at h
  · cases h
  · next opened g₁ hu =>
    cases h
    exact ⟨opened, hu, rfl⟩
  · cases h

theorem throughout_append {u : SrtpUnwrapper} {test : List Nat → Globals → Nat → Bool} {ds₁ ds₂ : List Nat} :
    ∀ {acc : List Nat} {g : Globals}, throughout P c bodies test acc g (ds₁ ++ ds₂) = true →
      throughout P c bodies test acc g ds₁ = true ∧
      ∀ {g' : Globals} {outs : List Octets},
        stepAll (unwrapPacket P u) g (ds₁.map (sentPacket P c bodies)) = .ok (g', outs) →
        throughout P c bodies test (ds₁.reverse ++ acc) g' ds₂ = true := by
  induction ds₁ with
  | nil =>
    intro acc g h
    refine ⟨rfl, fun hs => ?_⟩
    cases hs
    exact h
  | cons i ds₁ ih =>
    intro acc g h
    simp only [List.cons_append, throughout, Bool.and_eq_true] at h
    refine ⟨?_, fun hs => ?_⟩
    · simp only [throughout, Bool.and_eq_true]
      refine ⟨h.1, ?_⟩
      split
      · next out g' hu =>
        rw [hu] at h
        exact (ih h.2).1
      · rfl
    · obtain ⟨g₁, out, outs', h₁, h₂, rfl⟩ := stepAll_cons_ok hs
      obtain ⟨opened, hn, -⟩ := unwrapPacket_ok h₁
      rw [hn] at h
      rw [List.reverse_cons, List.append_assoc]
      exact (ih h.2).2 h₂

/-- What a harmless delivery writes, packet by packet. -/
theorem delivery_steps {u : SrtpUnwrapper} (hu : u.headerSize = 12)
    (hp : u.payloadSize = c.codec.bytesSize)
    (hbody : ∀ i, (bodies i).length = roundUpToMultipleOf4 c.codec.bytesSize)
    (hfit : roundUpToMultipleOf4 c.codec.bytesSize ≤ 0xffff) :
    ∀ {ds acc : List Nat} {n : Nat} {r : Rdbx} {g g' : Globals} {outs : List Octets}, Received c n r g →
      Recorded c acc r → acc.Nodup →
      throughout P c bodies (tagBinds P c bodies) acc g ds = true →
      throughout P c bodies (harmless P c bodies) acc g ds = true →
      stepAll (unwrapPacket P u) g (ds.map (sentPacket P c bodies)) = .ok (g', outs) →
      (∃ m r', Received c m r' g' ∧ Recorded c (ds.reverse ++ acc) r') ∧
      (ds.reverse ++ acc).Nodup ∧ outs = ds.map fun i => (bodies i).take c.codec.bytesSize := by
  intro ds
  induction ds with
  | nil =>
    intro acc n r g g' outs h hrec hacc _ _ hs
    cases hs
    exact ⟨⟨n, r, h, hrec⟩, hacc, rfl⟩
  | cons i ds ih =>
    intro acc n r g g' outs h hrec hacc hbind hharm hs
    rw [List.map_cons] at hs
    obtain ⟨g₁, out, outs', h₁, h₂, rfl⟩ := stepAll_cons_ok hs
    obtain ⟨opened, hn, rfl⟩ := unwrapPacket_ok h₁
    simp only [throughout, hn, Bool.and_eq_true] at hbind hharm
    obtain ⟨hnew, ⟨r', h', hrec'⟩, hslice⟩ := accept_step (hbody i) hfit h hrec hbind.1 hharm.1 hn
    obtain ⟨hend, hnodup, hrest⟩ := ih h' hrec' (List.nodup_cons.2 ⟨hnew, hacc⟩) hbind.2 hharm.2 h₂
    rw [List.reverse_cons, List.append_assoc]
    refine ⟨hend, hnodup, ?_⟩
    rw [hrest, hu, hp, hslice]
    rfl

/-- The packets `ds`, delivered in this order and cut into any chunks: the unwrapper gets through some
of them, writes their payloads, and no packet is among these twice. -/
def WritesOnce (P : Primitives) (c : SetUpArgs) (bodies : Nat → Octets) (s : Session)
    (ds : List Nat) : Prop :=
  ∀ (fuel : Nat) (input : List Octets),
    input.flatten = (ds.map (sentPacket P c bodies)).flatten →
    ∃ k, ((createUnwrapper s).run P fuel s.native input).1 =
        (ds.take k).map (fun i => (bodies i).take c.codec.bytesSize) ∧
      (ds.take k).Nodup

/-- A packet that the unwrapper has got through is refused by `unwrapPacketNative` when it comes again. -/
def RefusesAgain (P : Primitives) (c : SetUpArgs) (bodies : Nat → Octets) (s : Session)
    (ds : List Nat) : Prop :=
  ∀ before i after g outs, ds = before ++ i :: after →
    stepAll (unwrapPacket P (createUnwrapper s)) s.native (before.map (sentPacket P c bodies)) =
      .ok (g, outs) →
    i ∈ before →
    ∃ status out g', unwrapPacketNative P (sentPacket P c bodies i) g = some (status, out, g') ∧
      status ≠ .ok

theorem received_start {c c' : SetUpArgs} (hm : Matches c c') {t : Session} (ht : Reached t.native) :
    Received c 0 rdbxInit (sessionOf c' t).native := by
  obtain ⟨hsize, st, hst, hin⟩ := run_receiverAt hm ht
  refine ⟨hsize, Nat.zero_le _, st, hst, hin.ssrc, hin.key, hin.tagLen, hin.services, hin.limit, ?_⟩
  rcases hin.rdbx with ⟨-, hr⟩ | ⟨hpos, -⟩
  · exact hr
  · omega

theorem recorded_start (c : SetUpArgs) : Recorded c [] rdbxInit :=
  ⟨by decide, fun _ hi => absurd hi List.not_mem_nil⟩

theorem no_packet_twice {c c' : SetUpArgs} (hm : Matches c c') {t : Session}
    (ht : Reached t.native)
    (hbody : ∀ i, (bodies i).length = roundUpToMultipleOf4 c.codec.bytesSize)
    (hfit : roundUpToMultipleOf4 c.codec.bytesSize ≤ 0xffff) {ds : List Nat}
    (hbind : throughout P c bodies (tagBinds P c bodies) [] (sessionOf c' t).native ds = true)
    (hharm : throughout P c bodies (harmless P c bodies) [] (sessionOf c' t).native ds = true) :
    WritesOnce P c bodies (sessionOf c' t) ds ∧ RefusesAgain P c bodies (sessionOf c' t) ds := by
  have hpayload : (createUnwrapper (sessionOf c' t)).payloadSize = c.codec.bytesSize :=
    congrArg Codec.bytesSize hm.codec
  have hstart := received_start hm ht
  refine ⟨fun fuel input hi => ?_, fun before i after g outs hds hs hmem => ?_⟩
  · have hsize : (createUnwrapper (sessionOf c' t)).packetSize = SrtpProtocol.packetSize c.codec :=
      congrArg SrtpProtocol.packetSize hm.codec
    have hlen : ∀ pkt ∈ ds.map (sentPacket P c bodies),
        pkt.length = (createUnwrapper (sessionOf c' t)).packetSize := by
      intro pkt hmem
      obtain ⟨i, -, rfl⟩ := List.mem_map.1 hmem
      rw [hsize, sentPacket_length P (hbody i)]
    have hpos : 0 < (createUnwrapper (sessionOf c' t)).packetSize := by
      rw [hsize]
      exact Nat.lt_of_lt_of_le (by decide) (Nat.le_add_left 4 _)
    have hrun : ∃ k g', stepAll (unwrapPacket P (createUnwrapper (sessionOf c' t)))
        (sessionOf c' t).native ((ds.map (sentPacket P c bodies)).take k) =
          .ok (g', ((createUnwrapper (sessionOf c' t)).run P fuel (sessionOf c' t).native input).1) :=
      blockLoop_prefix fuel hlen hpos hi
    obtain ⟨k, g', hk⟩ := hrun
    rw [← List.map_take] at hk
    rw [← List.take_append_drop k ds] at hbind hharm
    obtain ⟨-, hnodup, houts⟩ := delivery_steps rfl hpayload hbody hfit hstart (recorded_start c)
      List.nodup_nil (throughout_append (u := createUnwrapper (sessionOf c' t)) hbind).1
      (throughout_append (u := createUnwrapper (sessionOf c' t)) hharm).1 hk
    rw [List.append_nil, List.nodup_reverse] at hnodup
    exact ⟨k, houts, hnodup⟩
  · rw [hds] at hbind hharm
    obtain ⟨hbind₁, hbind₂⟩ := throughout_append (u := createUnwrapper (sessionOf c' t)) hbind
    obtain ⟨hharm₁, hharm₂⟩ := throughout_append (u := createUnwrapper (sessionOf c' t)) hharm
    obtain ⟨⟨n, r, hrecv, hrec⟩, -, -⟩ := delivery_steps rfl hpayload hbody hfit hstart (recorded_start c)
      List.nodup_nil hbind₁ hharm₁ hs
    obtain ⟨status, out, g', hu⟩ := hrecv.unwraps (P := P) (sentPacket P c bodies i)
    refine ⟨status, out, g', hu, fun hok => ?_⟩
    have hb := hbind₂ hs
    have hh := hharm₂ hs
    simp only [throughout, Bool.and_eq_true] at hb hh
    rw [hok] at hu
    obtain ⟨hnew, -⟩ := accept_step (hbody i) hfit hrecv hrec hb.1 hh.1 hu
    exact hnew (by simpa using hmem)

/-! ## Packets in order, and some of them again -/

/-- On the numbers alone: a packet is estimated at its own index, and it is either new or one of those before. -/
def orderly (c : SetUpArgs) : List Nat → Rdbx → List Nat → Bool
  | _, _, [] => true
  | acc, r, i :: ds =>
    let guess := rdbxEstimateIndex r (c.index i % 2 ^ 16)
    guess.2 = c.index i &&
      (r.index < guess.2 && orderly c (i :: acc) (rdbxAddIndex r guess.1) ds || guess.1 ≤ 0 && i ∈ acc)

theorem orderly_harmless (P : Primitives) (bodies : Nat → Octets) {ds : List Nat} :
    ∀ {acc : List Nat} {n : Nat} {r : Rdbx} {g : Globals}, Received c n r g → Recorded c acc r →
      orderly c acc r ds = true →
      throughout P c bodies (tagBinds P c bodies) acc g ds = true ∧
        throughout P c bodies (harmless P c bodies) acc g ds = true := by
  induction ds with
  | nil => exact fun _ _ _ => ⟨rfl, rfl⟩
  | cons i ds ih =>
    intro acc n r g h hrec ho
    have hq : c.index i % 2 ^ 16 < 2 ^ 16 := Nat.mod_lt _ (by decide)
    obtain ⟨st, hin, -, hst⟩ := h.estimate P bodies i
    generalize hest : rdbxEstimateIndex r (c.index i % 2 ^ 16) = guess at hst
    obtain ⟨delta, est⟩ := guess
    simp only [orderly, hest, Bool.and_eq_true, decide_eq_true_eq, Bool.or_eq_true] at ho
    obtain ⟨rfl, ho⟩ := ho
    have hbind : tagBinds P c bodies acc g i = true := by simp [tagBinds, hst]
    have hharm : harmless P c bodies acc g i = true := by
      rcases ho with ⟨hahead, -⟩ | ⟨hd, hmem⟩
      · simp [harmless, hst, hin.rdbx, hahead]
      · simp [harmless, hst, hd, hmem]
    simp only [throughout, hbind, hharm, Bool.true_and]
    split
    · next out g' hu =>
      obtain ⟨hcheck, hrecv, -⟩ := h.accepted hest hu
      rcases ho with ⟨hahead, ho⟩ | ⟨hd, hmem⟩
      · exact ih hrecv (hrec.forward hq hest hahead) ho
      · exact absurd hcheck ((hrec.2 i hmem).refused (rdbxEstimateIndex_behind hq hrec.1 hest hd))
    · exact ⟨rfl, rfl⟩

/-- Those that are new are all accepted. -/
theorem orderly_accepted {u : SrtpUnwrapper} (hu : u.headerSize = 12)
    (hp : u.payloadSize = c.codec.bytesSize)
    (hbody : ∀ i, (bodies i).length = roundUpToMultipleOf4 c.codec.bytesSize)
    (hfit : roundUpToMultipleOf4 c.codec.bytesSize ≤ 0xffff) {ds : List Nat} :
    ∀ {acc : List Nat} {n : Nat} {r : Rdbx} {g : Globals}, Received c n r g → n + ds.length ≤ maxPackets →
      orderly c acc r ds = true → ds.Nodup → (∀ i ∈ ds, i ∉ acc) →
      ∃ g', stepAll (unwrapPacket P u) g (ds.map (sentPacket P c bodies)) =
        .ok (g', ds.map fun i => (bodies i).take c.codec.bytesSize) := by
  induction ds with
  | nil => exact fun {_ _ _ g} _ _ _ _ _ => ⟨g, rfl⟩
  | cons i ds ih =>
    intro acc n r g h hn ho hnodup hnew
    rw [List.length_cons] at hn
    obtain ⟨hi, hnodup⟩ := List.nodup_cons.1 hnodup
    generalize hest : rdbxEstimateIndex r (c.index i % 2 ^ 16) = guess
    obtain ⟨delta, est⟩ := guess
    simp only [orderly, hest, Bool.and_eq_true, decide_eq_true_eq, Bool.or_eq_true] at ho
    obtain ⟨rfl, ⟨hahead, ho⟩ | ⟨-, hmem⟩⟩ := ho
    · obtain ⟨hpos, -⟩ := rdbxEstimateIndex_ahead (Nat.mod_lt _ (by decide)) hest hahead
      have hcheck : rdbxCheck r delta = .ok := if_pos hpos
      obtain ⟨g₁, h₁, hrecv⟩ := h.accepts (P := P) (by omega) hu hp (hbody i) hfit hest hcheck
      obtain ⟨g₂, h₂⟩ := ih hrecv (by omega) ho hnodup fun j hj hmem => by
        rcases List.mem_cons.1 hmem with rfl | hmem
        · exact hi hj
        · exact hnew j (List.mem_cons_of_mem _ hj) hmem
      exact ⟨g₂, by simp only [List.map_cons, stepAll, h₁, h₂]⟩
    · exact absurd hmem (hnew i List.mem_cons_self)

/-! ## Instances -/

/-- Packet number `i + 1` carries the payload `i, 0, 0, …`. -/
def countedBodies (i : Nat) : Octets := UInt8.ofNat i :: List.replicate 7 0

/-- Packets `1`, `3` and `4` are accepted, with the cipher and the tags of libsrtp, and then `3` comes again. -/
theorem no_packet_twice_repeated :
    WritesOnce libsrtp (sampleSetUp 1) countedBodies (sessionOf (sampleSetUp 1) {}) [0, 2, 3, 2] ∧
    RefusesAgain libsrtp (sampleSetUp 1) countedBodies (sessionOf (sampleSetUp 1) {}) [0, 2, 3, 2] ∧
    ∃ g, stepAll (unwrapPacket libsrtp (createUnwrapper (sessionOf (sampleSetUp 1) {})))
      (sessionOf (sampleSetUp 1) {}).native ([0, 2, 3].map (sentPacket libsrtp (sampleSetUp 1) countedBodies)) =
        .ok (g, [0, 2, 3].map fun i => (countedBodies i).take 7) := by
  have hstart := received_start sampleSetUp_matches (t := {}) .start
  have horderly : orderly (sampleSetUp 1) [] rdbxInit [0, 2, 3, 2] = true := by decide
  obtain ⟨hbind, hharm⟩ := orderly_harmless libsrtp countedBodies hstart (recorded_start _) horderly
  obtain ⟨honce, hagain⟩ := no_packet_twice sampleSetUp_matches .start (fun _ => rfl) (by decide) hbind hharm
  exact ⟨honce, hagain, orderly_accepted rfl rfl (fun _ => rfl) (by decide) hstart (by decide)
    (by decide : orderly (sampleSetUp 1) [] rdbxInit [0, 2, 3] = true) (by decide) (by simp)⟩

/-- Whatever the cipher and the tags are: the late packet is written both times. -/
theorem late_written_twice (P : Primitives) :
    ¬ WritesOnce P (sampleSetUp 1) countedBodies (sessionOf (sampleSetUp 1) {}) [1, 0, 0] := by
  intro h
  let u := createUnwrapper (sessionOf (sampleSetUp 1) {})
  let packet := sentPacket P (sampleSetUp 1) countedBodies
  have hbody : ∀ i, (countedBodies i).length = roundUpToMultipleOf4 (sampleSetUp 1).codec.bytesSize := fun _ => rfl
  have hstart := received_start sampleSetUp_matches (t := {}) .start
  have hnew : rdbxEstimateIndex rdbxInit ((sampleSetUp 1).index 1 % 2 ^ 16) = (3, (sampleSetUp 1).index 1) := by
    decide
  have hlate : rdbxEstimateIndex (rdbxAddIndex rdbxInit 3) ((sampleSetUp 1).index 0 % 2 ^ 16) =
      (-1, (sampleSetUp 1).index 0) := by
    decide
  obtain ⟨g₁, h₁, hrecv⟩ := hstart.accepts (P := P) (u := u) (by decide) rfl rfl (hbody 1) (by decide) hnew
    (by decide)
  obtain ⟨g₂, h₂⟩ := late_accepted_again (P := P) (u := u) hrecv (by decide) rfl rfl (hbody 0) (by decide) hlate
    (by decide) (by decide)
  have hsteps : stepAll (unwrapPacket P u) (sessionOf (sampleSetUp 1) {}).native ([1, 0, 0].map packet) =
      .ok (g₂, [1, 0, 0].map fun i => (countedBodies i).take 7) := stepAll_cons h₁ h₂
  have hlen : ∀ b ∈ [1, 0, 0].map packet, b.length = u.packetSize := by
    intro b hb
    obtain ⟨i, -, rfl⟩ := List.mem_map.1 hb
    exact sentPacket_length P (hbody i)
  have hrun : (u.run P 4 (sessionOf (sampleSetUp 1) {}).native ([1, 0, 0].map packet)).1 =
      [1, 0, 0].map fun i => (countedBodies i).take 7 := by
    rw [SrtpUnwrapper.run, blockLoop_blocks (by decide) hlen hsteps rfl (Nat.lt_succ_self 3)]
  obtain ⟨k, hk, hnodup⟩ := h 4 _ rfl
  rw [hrun] at hk
  have hcount := congrArg List.length hk
  rw [List.length_map, List.length_map, List.length_take] at hcount
  have hall : [1, 0, 0].take k = [1, 0, 0] := List.take_of_length_le (by simp at hcount ⊢; omega)
  rw [hall] at hnodup
  exact absurd hnodup (by decide)

/-- The second packet, then the first one twice, with the cipher and the tags of libsrtp. -/
theorem late_packet_again :
    ¬ WritesOnce libsrtp (sampleSetUp 1) countedBodies (sessionOf (sampleSetUp 1) {}) [1, 0, 0] :=
  late_written_twice libsrtp

end Replay
end OnionPhone
