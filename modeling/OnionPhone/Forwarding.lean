import OnionPhone.Lib.Machine
import OnionPhone.Media

/-!
# OnionPhone.Forwarding

The pipe from `SrtpWrapper` to the `Connector` that writes to the network, with both threads at work: the
wrapper writes, the connector reads what there is into its array and forwards the array when it is full.

The wrapper's packets have the size that `SrtpProtocol` computes from the codec. The connector's array has
24 octets.

* `Inv`: nothing is lost on the way, and whole arrays are forwarded.
* `blocked_eq_run`: where the connector waits, it has forwarded what `Connector.run` of `Media` writes.
* `forwards_iff`: for which packets no complete one is ever held back or cut off.
-/

namespace OnionPhone
namespace Forwarding

open Wire Wire.Octets Media

/-! ## The threads -/

/-- `pipe` is written and not yet read, `buffer` is the part of the array that `readFully` has filled, and
`finished` is set when the thread of the connector has ended. `written` is all that went into the pipe. -/
structure State where
  pipe : Octets := []
  closed : Bool := false
  buffer : Octets := []
  network : Octets := []
  finished : Bool := false
  written : Octets := []
  deriving DecidableEq, Repr

/-- `write` and `close` are the wrapper's; it may write a packet in parts. `read` is a read of `k` octets
within `readFully`, `eof` one that finds the stream ended: the `IOException` ends the loop. -/
inductive Act where
  | write (bs : Octets)
  | close
  | read (k : Nat)
  | forward
  | eof
  deriving DecidableEq, Repr

def step : Act → State → Option State
  | .write bs, s =>
    if s.closed then none else some { s with pipe := s.pipe ++ bs, written := s.written ++ bs }
  | .close, s => some { s with closed := true }
  | .read k, s =>
    if !s.finished && decide (0 < k ∧ k ≤ s.pipe.length ∧ s.buffer.length + k ≤ Connector.packetSize) then
      some { s with pipe := s.pipe.drop k, buffer := s.buffer ++ s.pipe.take k }
    else none
  | .forward, s =>
    if !s.finished && decide (s.buffer.length = Connector.packetSize) then
      some { s with network := s.network ++ s.buffer, buffer := [] }
    else none
  | .eof, s =>
    if !s.finished && s.closed && decide (s.pipe = [] ∧ s.buffer.length < Connector.packetSize) then
      some { s with finished := true }
    else none

structure Blocked (s : State) : Prop where
  waits : s.finished = false
  empty : s.pipe = []
  room : s.buffer.length < Connector.packetSize

/-! ## What is kept -/

structure Inv (s : State) : Prop where
  kept : s.network ++ s.buffer ++ s.pipe = s.written
  whole : Connector.packetSize ∣ s.network.length
  room : s.buffer.length ≤ Connector.packetSize
  ended : s.finished = true → s.closed = true ∧ s.pipe = [] ∧ s.buffer.length < Connector.packetSize

theorem inv_step {a : Act} {s s' : State} (h : Inv s) (hs : step a s = some s') : Inv s' := by
  cases a with
  | write bs =>
    simp only [step] at hs
    split at hs
    · cases hs
    · next hc =>
      cases hs
      refine ⟨?_, h.whole, h.room, ?_⟩
      · rw [← h.kept]
        simp
      · intro ho
        exact absurd (h.ended ho).1 hc
  | close =>
    cases hs
    exact ⟨h.kept, h.whole, h.room, fun ho => ⟨rfl, (h.ended ho).2⟩⟩
  | read k =>
    simp only [step] at hs
    split at hs
    · next hk =>
      cases hs
      simp only [Bool.and_eq_true, Bool.not_eq_true', decide_eq_true_eq] at hk
      obtain ⟨ho, -, hle, hroom⟩ := hk
      refine ⟨?_, h.whole, ?_, ?_⟩
      · rw [← h.kept]
        simp
      · simp only [List.length_append, List.length_take]
        omega
      · intro ho'
        rw [ho] at ho'
        cases ho'
    · cases hs
  | forward =>
    simp only [step] at hs
    split at hs
    · next hk =>
      cases hs
      simp only [Bool.and_eq_true, Bool.not_eq_true', decide_eq_true_eq] at hk
      obtain ⟨ho, hfull⟩ := hk
      refine ⟨?_, ?_, Nat.zero_le _, ?_⟩
      · rw [← h.kept]
        simp
      · simp only [List.length_append, hfull]
        exact (Nat.dvd_add_right h.whole).2 (Nat.dvd_refl _)
      · intro ho'
        rw [ho] at ho'
        cases ho'
    · cases hs
  | eof =>
    simp only [step] at hs
    split at hs
    · next hk =>
      cases hs
      simp only [Bool.and_eq_true, Bool.not_eq_true', decide_eq_true_eq] at hk
      exact ⟨h.kept, h.whole, h.room, fun _ => ⟨hk.1.2, hk.2⟩⟩
    · cases hs

theorem inv_run {acts : List Act} {s : State} (h : run step {} acts = some s) : Inv s := by
  have h0 : Inv {} := ⟨rfl, Nat.dvd_zero _, Nat.zero_le _, fun ho => by cases ho⟩
  exact run_inv_any (fun _ _ _ => inv_step) h0 h

theorem network_length {s : State} (h : Inv s) (he : s.pipe = [])
    (hr : s.buffer.length < Connector.packetSize) :
    s.network.length = s.written.length / Connector.packetSize * Connector.packetSize := by
  have hlen : s.written.length = s.network.length + s.buffer.length := by
    rw [← h.kept, he]
    simp
  obtain ⟨k, hk⟩ := h.whole
  simp only [Connector.packetSize] at hk hr ⊢
  omega

theorem network_take {s : State} (h : Inv s) : s.network = s.written.take s.network.length := by
  rw [← h.kept, List.append_assoc, List.take_left]

theorem blocked_eq_run {s : State} (h : Inv s) (hb : Blocked s) {fuel : Nat}
    (hf : s.written.length / Connector.packetSize < fuel) :
    s.network = (Connector.run fuel [s.written]).1.flatten := by
  have hcopy : ∀ bs : List Octets,
      stepUntil (fun (_ : Unit) buffer => (.ok ((), buffer) : Except Stop (Unit × Octets))) () bs =
        (bs, none) := by
    intro bs
    induction bs with
    | nil => rfl
    | cons b bs ih => simp only [stepUntil, ih]
  have hpos : 0 < Connector.packetSize := by decide
  have hflat : [s.written].flatten = s.written := by simp
  rw [Connector.run, blockLoop_eq hpos (by rw [hflat]; exact hf), hcopy, hflat, flatten_blocks hpos,
    ← network_length h hb.empty hb.room]
  exact network_take h

/-! ## Draining the pipe -/

theorem drains (n : Nat) : ∀ s : State, s.pipe.length ≤ n → s.finished = false → s.buffer = [] →
    ∃ acts s', run step s acts = some s' ∧ Blocked s' ∧ s'.written = s.written ∧ s'.closed = s.closed := by
  induction n with
  | zero =>
    intro s hn ho hb
    have he : s.pipe = [] := List.length_eq_zero_iff.1 (Nat.le_zero.1 hn)
    exact ⟨[], s, rfl, ⟨ho, he, by simp [hb, Connector.packetSize]⟩, rfl, rfl⟩
  | succ n ih =>
    intro s hn ho hb
    by_cases hfull : Connector.packetSize ≤ s.pipe.length
    · let s₁ : State := { s with pipe := s.pipe.drop 24, buffer := s.pipe.take 24 }
      let s₂ : State := { s with pipe := s.pipe.drop 24, network := s.network ++ s.pipe.take 24 }
      have h24 : (24 : Nat) ≤ s.pipe.length := hfull
      have h₁ : step (.read 24) s = some s₁ := by
        simp [step, ho, hb, h24, Connector.packetSize, s₁]
      have h₂ : step .forward s₁ = some s₂ := by
        simp [step, ho, hb, h24, Connector.packetSize, s₁, s₂]
      obtain ⟨acts, s', hr, hb', hw, hc⟩ := ih s₂ (by simp [s₂]; omega) ho hb
      refine ⟨.read 24 :: .forward :: acts, s', ?_, hb', hw, hc⟩
      simp only [run, h₁, h₂, Option.bind_some, hr]
    · cases hp : s.pipe with
      | nil => exact ⟨[], s, rfl, ⟨ho, hp, by simp [hb, Connector.packetSize]⟩, rfl, rfl⟩
      | cons b bs =>
        let s' : State := { s with pipe := [], buffer := s.pipe }
        have hlt : s.pipe.length < 24 := Nat.lt_of_not_le hfull
        have hpos : 0 < s.pipe.length := by simp [hp]
        have hs : step (.read s.pipe.length) s = some s' := by
          have hle : s.pipe.length ≤ 24 := Nat.le_of_lt hlt
          simp [step, ho, hb, hpos, hle, Connector.packetSize, s']
        refine ⟨[.read s.pipe.length], s', ?_, ⟨ho, rfl, hlt⟩, rfl, rfl⟩
        simp only [run, hs, Option.bind_some]

/-! ## Complete packets -/

/-- For packets of `p` octets: where the connector waits it has forwarded every complete one, and at its end
all that was written. -/
structure Forwards (p : Nat) (s : State) : Prop where
  blocked : Blocked s → s.written.take (s.written.length / p * p) <+: s.network
  ended : s.finished = true → s.network = s.written

theorem forwards_of_dvd {p : Nat} {s : State} (h : Inv s)
    (hcomplete : Connector.packetSize ∣ s.written.length / p * p)
    (hclosed : s.closed = true → Connector.packetSize ∣ s.written.length) : Forwards p s := by
  constructor
  · intro hb
    rw [network_take h, network_length h hb.empty hb.room]
    apply List.take_prefix_take_left
    obtain ⟨k, hk⟩ := hcomplete
    have hle : s.written.length / p * p ≤ s.written.length := Nat.div_mul_le_self _ _
    simp only [Connector.packetSize] at hk ⊢
    omega
  · intro ho
    obtain ⟨hc, he, hr⟩ := h.ended ho
    have hlen := network_length h he hr
    rw [Nat.div_mul_cancel (hclosed hc)] at hlen
    rw [network_take h, hlen, List.take_length]

/-- Where the wrapper's packets are these, and written whole before its stream is closed. -/
theorem forwards_iff (codec : Codec) {packets : List Octets}
    (hp : ∀ packet ∈ packets, packet.length = SrtpProtocol.packetSize codec) :
    (∀ acts s, run step {} acts = some s → s.written <+: packets.flatten →
      (s.closed = true → s.written = packets.flatten) → Forwards (SrtpProtocol.packetSize codec) s) ↔
    packets = [] ∨ Connector.packetSize ∣ SrtpProtocol.packetSize codec := by
  constructor
  · intro h
    cases packets with
    | nil => exact .inl rfl
    | cons packet rest =>
      right
      have hlen : packet.length = SrtpProtocol.packetSize codec := hp packet List.mem_cons_self
      have hpos : 0 < SrtpProtocol.packetSize codec := by
        simp only [SrtpProtocol.packetSize, SrtpProtocol.srtpHeaderSizeInBytes]
        omega
      -- the wrapper writes one packet, and the connector goes on until it waits
      obtain ⟨acts, s, hr, hb, hw, hc⟩ :=
        drains packet.length { pipe := packet, written := packet } (Nat.le_refl _) rfl rfl
      have hrun : run step {} (.write packet :: acts) = some s := hr
      have hinv := inv_run hrun
      have hfw := (h _ s hrun (by rw [hw]; simp) (by rw [hc]; simp)).blocked hb
      have hall : s.written.take (s.written.length / SrtpProtocol.packetSize codec *
          SrtpProtocol.packetSize codec) = packet := by
        rw [hw, hlen, Nat.div_self hpos, Nat.one_mul, ← hlen, List.take_length]
      rw [hall] at hfw
      have hle := hfw.length_le
      have hnet := network_length hinv hb.empty hb.room
      rw [hw, hlen] at hnet
      rw [hlen, hnet] at hle
      exact Nat.dvd_of_mod_eq_zero (by simp only [Connector.packetSize] at hle ⊢; omega)
  · intro h acts s hr hpre hclosed
    refine forwards_of_dvd (inv_run hr) ?_ ?_
    · rcases h with rfl | hdvd
      · have hnil : s.written = [] := List.prefix_nil.1 hpre
        simp [hnil]
      · exact Dvd.dvd.mul_left hdvd _
    · intro hc
      rw [hclosed hc, List.length_flatten]
      apply List.dvd_sum
      intro n hn
      obtain ⟨packet, hmem, rfl⟩ := List.mem_map.1 hn
      rcases h with rfl | hdvd
      · cases hmem
      · rw [hp packet hmem]
        exact hdvd

/-- Two packets of Codec2, which have the size of the array. -/
theorem forwards_codec2 :
    Connector.packetSize ∣ SrtpProtocol.packetSize codec2 ∧
    ∀ acts s, run step {} acts = some s → s.written <+: [List.replicate 24 1, List.replicate 24 2].flatten →
      (s.closed = true → s.written = [List.replicate 24 1, List.replicate 24 2].flatten) →
      Forwards (SrtpProtocol.packetSize codec2) s := by
  have hdvd : Connector.packetSize ∣ SrtpProtocol.packetSize codec2 := by decide
  have hp : ∀ packet ∈ ([List.replicate 24 1, List.replicate 24 2] : List Octets),
      packet.length = SrtpProtocol.packetSize codec2 := by decide
  exact ⟨hdvd, (forwards_iff codec2 hp).2 (.inr hdvd)⟩

/-- A codec whose frames have four bytes, so that a packet has 20. -/
def smallFrames : Codec := ⟨32, 4, 96, by decide⟩

/-- The first packet is held back while the connector waits for the next, and lost when the stream ends. -/
theorem packet_held_back :
    let packet : Octets := List.replicate 20 1
    packet.length = SrtpProtocol.packetSize smallFrames ∧
    (∃ s, run step {} [.write packet, .read 20] = some s ∧ Blocked s ∧ s.network = [] ∧
      ¬ Forwards (SrtpProtocol.packetSize smallFrames) s) ∧
    ∃ s, run step {} [.write packet, .close, .read 20, .eof] = some s ∧ s.finished = true ∧ s.network = [] ∧
      ¬ Forwards (SrtpProtocol.packetSize smallFrames) s := by
  intro packet
  refine ⟨by decide, ?_, ?_⟩
  · refine ⟨{ buffer := packet, written := packet }, by decide, ⟨rfl, rfl, by decide⟩, rfl, ?_⟩
    intro h
    have hpre := (h.blocked ⟨rfl, rfl, by decide⟩).length_le
    revert hpre
    decide
  · refine ⟨{ closed := true, buffer := packet, finished := true, written := packet }, by decide, rfl, rfl, ?_⟩
    intro h
    have hall := h.ended rfl
    revert hall
    decide

end Forwarding
end OnionPhone
