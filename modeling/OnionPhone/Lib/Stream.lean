import OnionPhone.Lib.Octets

/-!
# Lib.Stream

Input streams that deliver their octets in chunks and then end, and loops that read such a stream in
blocks of a fixed size.

* `readFully`: read exactly `n` octets, over as many chunks as it takes.
* `readFullyInto`: the same into an array, which keeps what was read before the stream ended.
* `blocks`: the complete blocks of a stream.
* `blockLoop`: read a block, work on it, write the result, and so on until the input ends or the work
  fails.
* `blockLoop_eq`: the loop does its work on the complete blocks, one after the other until it fails,
  however the stream was cut into chunks.
-/

namespace Wire

open Octets

/-- A stream is the list of the chunks it will deliver. `none`: it ended too early. -/
def readFully : Nat → List Octets → Option (Octets × List Octets)
  | 0, cs => some ([], cs)
  | _ + 1, [] => none
  | n + 1, c :: cs =>
    if c.length ≤ n + 1 then
      match readFully (n + 1 - c.length) cs with
      | none => none
      | some (bs, rest) => some (c ++ bs, rest)
    else
      some (c.take (n + 1), c.drop (n + 1) :: cs)

theorem readFully_append {n : Nat} {cs : List Octets} {bs rest : Octets}
    (h : cs.flatten = bs ++ rest) (hn : bs.length = n) :
    ∃ cs', readFully n cs = some (bs, cs') ∧ cs'.flatten = rest := by
  induction cs generalizing n bs with
  | nil =>
    obtain ⟨rfl, rfl⟩ : bs = [] ∧ rest = [] := by simpa using h.symm
    subst hn
    exact ⟨[], rfl, rfl⟩
  | cons c cs ih =>
    cases n with
    | zero =>
      obtain rfl : bs = [] := List.length_eq_zero_iff.1 hn
      exact ⟨c :: cs, rfl, h⟩
    | succ n =>
      rw [List.flatten_cons] at h
      unfold readFully
      by_cases hc : c.length ≤ n + 1
      · -- the whole chunk belongs to the block
        obtain ⟨bs', rfl⟩ : ∃ bs', bs = c ++ bs' := by
          rcases List.append_eq_append_iff.1 h with ⟨as, ha, -⟩ | ⟨as, ha, -⟩
          · exact ⟨as, ha⟩
          · have hl := congrArg List.length ha
            rw [List.length_append] at hl
            obtain rfl : as = [] := List.length_eq_zero_iff.1 (by omega)
            exact ⟨[], by rw [ha, List.append_nil, List.append_nil]⟩
        rw [List.append_assoc] at h
        rw [List.length_append] at hn
        obtain ⟨cs', hr, hf⟩ := ih (List.append_cancel_left h) (n := n + 1 - c.length) (by omega)
        rw [if_pos hc, hr]
        exact ⟨cs', rfl, hf⟩
      · -- the block ends inside the chunk
        rw [if_neg hc]
        have hb : c.take (n + 1) = bs := by
          have := congrArg (List.take (n + 1)) h
          rw [List.take_append_of_le_length (by omega), ← hn, List.take_left] at this
          rw [← hn]
          exact this
        have hd : c.drop (n + 1) ++ cs.flatten = rest := by
          have := congrArg (List.drop (n + 1)) h
          rw [List.drop_append_of_le_length (by omega), ← hn, List.drop_left] at this
          rw [← hn]
          exact this
        exact ⟨c.drop (n + 1) :: cs, by rw [hb], hd⟩

theorem readFully_short {n : Nat} {cs : List Octets} (h : cs.flatten.length < n) :
    readFully n cs = none := by
  induction cs generalizing n with
  | nil =>
    obtain ⟨m, rfl⟩ : ∃ m, n = m + 1 := ⟨n - 1, by simp at h; omega⟩
    rfl
  | cons c cs ih =>
    obtain ⟨m, rfl⟩ : ∃ m, n = m + 1 := ⟨n - 1, by omega⟩
    rw [List.flatten_cons, List.length_append] at h
    rw [readFully, if_pos (by omega), ih (by omega)]

/-- Fill the array `buf`. When the stream ends too early, what there was of it is in the array. -/
def readFullyInto (buf : Octets) (inp : List Octets) : Octets × Option (List Octets) :=
  match readFully buf.length inp with
  | some (bs, rest) => (bs, some rest)
  | none => (writeAt buf 0 inp.flatten, none)

/-! ## Blocks -/

def blocks (n : Nat) (bs : Octets) : List Octets :=
  (List.range (bs.length / n)).map fun i => slice bs (i * n) n

theorem blocks_length (n : Nat) (bs : Octets) : (blocks n bs).length = bs.length / n := by
  simp [blocks]

theorem blocks_short {n : Nat} {bs : Octets} (h : bs.length < n) : blocks n bs = [] := by
  simp [blocks, Nat.div_eq_of_lt h]

theorem blocks_append {n : Nat} (hn : 0 < n) {b bs : Octets} (hb : b.length = n) :
    blocks n (b ++ bs) = b :: blocks n bs := by
  have hl : (b ++ bs).length / n = bs.length / n + 1 := by
    rw [List.length_append, hb, Nat.add_div_left _ hn]
  rw [blocks, hl, List.range_succ_eq_map, List.map_cons, List.map_map, blocks]
  congr 1
  · rw [slice, Nat.zero_mul, List.drop_zero, ← hb, List.take_left]
  · apply List.map_congr_left
    intro i _
    have hi : (i + 1) * n = b.length + i * n := by rw [hb]; ring
    rw [Function.comp, Nat.succ_eq_add_one, slice, hi, ← List.drop_drop, List.drop_left, slice]

theorem blocks_flatten {n : Nat} (hn : 0 < n) {bs : List Octets} (h : ∀ b ∈ bs, b.length = n) :
    blocks n bs.flatten = bs := by
  induction bs with
  | nil => exact blocks_short hn
  | cons b bs ih =>
    rw [List.flatten_cons, blocks_append hn (h b List.mem_cons_self),
      ih fun x hx => h x (List.mem_cons_of_mem _ hx)]

theorem flatten_blocks {n : Nat} (hn : 0 < n) (bs : Octets) :
    (blocks n bs).flatten = bs.take (bs.length / n * n) := by
  induction h : bs.length / n generalizing bs with
  | zero =>
    have hlt : bs.length < n := by
      by_contra hge
      have := Nat.div_pos (Nat.le_of_not_lt hge) hn
      omega
    rw [blocks_short hlt, Nat.zero_mul, List.take_zero, List.flatten_nil]
  | succ k ih =>
    have hle : n ≤ bs.length := by
      by_contra hlt
      rw [Nat.div_eq_of_lt (Nat.lt_of_not_le hlt)] at h
      cases h
    have hb : (bs.take n).length = n := List.length_take_of_le hle
    have hk : (bs.drop n).length / n = k := by
      have hsum : bs.length = n + (bs.drop n).length := by
        rw [List.length_drop]
        omega
      rw [hsum, Nat.add_div_left _ hn] at h
      exact Nat.succ_inj.1 h
    have hcut : bs.take ((k + 1) * n) = bs.take n ++ (bs.drop n).take (k * n) := by
      rw [← List.take_add]
      congr 1
      ring
    have hcons : blocks n (bs.take n ++ bs.drop n) = bs.take n :: blocks n (bs.drop n) :=
      blocks_append hn hb
    rw [List.take_append_drop] at hcons
    rw [hcons, List.flatten_cons, ih (bs.drop n) hk, hcut]

theorem mem_blocks {n : Nat} {bs b : Octets} (h : b ∈ blocks n bs) : b.length = n := by
  obtain ⟨i, hi, rfl⟩ := List.mem_map.1 h
  have hlt := List.mem_range.1 hi
  have hle : (i + 1) * n ≤ bs.length :=
    (Nat.mul_le_mul_right n hlt).trans (Nat.div_mul_le_self _ _)
  rw [slice, List.length_take, List.length_drop]
  rw [Nat.succ_mul] at hle
  omega

/-! ## Loops over blocks -/

section

variable {σ ε : Type}

/-- The blocks written, and the exception that ended the loop; `none` if it has used up its rounds. -/
def blockLoop (n : Nat) (step : σ → Octets → Except ε (σ × Octets)) (eof : ε) :
    Nat → σ → List Octets → List Octets × Option ε
  | 0, _, _ => ([], none)
  | fuel + 1, s, inp =>
    match readFully n inp with
    | none => ([], some eof)
    | some (bs, inp') =>
      match step s bs with
      | .error e => ([], some e)
      | .ok (s', out) =>
        let r := blockLoop n step eof fuel s' inp'
        (out :: r.1, r.2)

/-- The work of the loop on blocks that are given one by one. -/
def stepAll (step : σ → Octets → Except ε (σ × Octets)) :
    σ → List Octets → Except ε (σ × List Octets)
  | s, [] => .ok (s, [])
  | s, b :: bs =>
    match step s b with
    | .error e => .error e
    | .ok (s', out) =>
      match stepAll step s' bs with
      | .error e => .error e
      | .ok (s'', outs) => .ok (s'', out :: outs)

/-- The same, with what was written before the work failed. -/
def stepUntil (step : σ → Octets → Except ε (σ × Octets)) :
    σ → List Octets → List Octets × Option ε
  | _, [] => ([], none)
  | s, b :: bs =>
    match step s b with
    | .error e => ([], some e)
    | .ok (s', out) =>
      let r := stepUntil step s' bs
      (out :: r.1, r.2)

variable {n : Nat} {step : σ → Octets → Except ε (σ × Octets)}

theorem stepAll_cons {s s' s'' : σ} {b out : Octets} {bs outs : List Octets}
    (h : step s b = .ok (s', out)) (hs : stepAll step s' bs = .ok (s'', outs)) :
    stepAll step s (b :: bs) = .ok (s'', out :: outs) := by
  simp only [stepAll, h, hs]

theorem stepAll_cons_ok {s s'' : σ} {b : Octets} {bs outs : List Octets}
    (h : stepAll step s (b :: bs) = .ok (s'', outs)) :
    ∃ s' out outs', step s b = .ok (s', out) ∧ stepAll step s' bs = .ok (s'', outs') ∧
      outs = out :: outs' := by
  unfold stepAll at h
  split at h
  · cases h
  · next s' out hs =>
    split at h
    · cases h
    · next s₂ outs' hs' =>
      cases h
      exact ⟨s', out, outs', hs, hs', rfl⟩

theorem stepUntil_of_stepAll {blocks : List Octets} {s s' : σ} {outs : List Octets}
    (h : stepAll step s blocks = .ok (s', outs)) : stepUntil step s blocks = (outs, none) := by
  induction blocks generalizing s outs with
  | nil =>
    cases h
    rfl
  | cons b bs ih =>
    obtain ⟨s₁, out, outs', h₁, h₂, rfl⟩ := stepAll_cons_ok h
    simp only [stepUntil, h₁, ih h₂]

/-- The work gets through the longest part of the blocks that it can: either all of them, or it fails
on the block after that part. -/
theorem stepUntil_longest (step : σ → Octets → Except ε (σ × Octets)) (blocks : List Octets) (s : σ) :
    ∃ done rest s', blocks = done ++ rest ∧ stepAll step s done = .ok (s', (stepUntil step s blocks).1) ∧
      ((rest = [] ∧ (stepUntil step s blocks).2 = none) ∨
        ∃ b rest' e, rest = b :: rest' ∧ step s' b = .error e ∧ (stepUntil step s blocks).2 = some e) := by
  induction blocks generalizing s with
  | nil => exact ⟨[], [], s, rfl, rfl, .inl ⟨rfl, rfl⟩⟩
  | cons b bs ih =>
    cases hs : step s b with
    | error e =>
      refine ⟨[], b :: bs, s, rfl, ?_, .inr ⟨b, bs, e, rfl, hs, ?_⟩⟩
      · simp only [stepUntil, hs]
        rfl
      · simp only [stepUntil, hs]
    | ok r =>
      obtain ⟨s₁, out⟩ := r
      obtain ⟨done, rest, s', hd, ha, hr⟩ := ih s₁
      refine ⟨b :: done, rest, s', by rw [hd, List.cons_append], ?_, ?_⟩
      · simp only [stepUntil, hs]
        exact stepAll_cons hs ha
      · simp only [stepUntil, hs]
        exact hr

theorem blockLoop_eq (hn : 0 < n) {eof : ε} {fuel : Nat} {s : σ} {inp : List Octets}
    (hf : inp.flatten.length / n < fuel) :
    blockLoop n step eof fuel s inp = ((stepUntil step s (blocks n inp.flatten)).1,
      some ((stepUntil step s (blocks n inp.flatten)).2.getD eof)) := by
  induction fuel generalizing s inp with
  | zero => exact absurd hf (Nat.not_lt_zero _)
  | succ f ih =>
    by_cases hl : inp.flatten.length < n
    · rw [blockLoop, readFully_short hl, blocks_short hl]
      rfl
    · obtain ⟨b, rest, hb, hbn⟩ : ∃ b rest, inp.flatten = b ++ rest ∧ b.length = n :=
        ⟨inp.flatten.take n, inp.flatten.drop n, (List.take_append_drop _ _).symm,
          List.length_take_of_le (Nat.le_of_not_lt hl)⟩
      obtain ⟨inp', hr, hi'⟩ := readFully_append hb hbn
      rw [hb, List.length_append, hbn, Nat.add_div_left _ hn] at hf
      rw [hb, blocks_append hn hbn]
      simp only [blockLoop, hr, stepUntil]
      cases step s b with
      | error e => rfl
      | ok r =>
        obtain ⟨s', out⟩ := r
        have hrec : blockLoop n step eof f s' inp' = _ := ih (by rw [hi']; omega)
        rw [hi'] at hrec
        simp only [hrec]

/-- The input is `blocks`, however it was cut: the loop does its work on them, and then ends with the
input. -/
theorem blockLoop_blocks (hn : 0 < n) {eof : ε} {bs : List Octets} {s s' : σ} {outs inp : List Octets}
    {fuel : Nat} (hb : ∀ b ∈ bs, b.length = n) (hs : stepAll step s bs = .ok (s', outs))
    (hi : inp.flatten = bs.flatten) (hf : bs.length < fuel) :
    blockLoop n step eof fuel s inp = (outs, some eof) := by
  have hblocks : blocks n inp.flatten = bs := by rw [hi, blocks_flatten hn hb]
  have hlen : inp.flatten.length / n < fuel := by
    rw [← blocks_length, hblocks]
    exact hf
  rw [blockLoop_eq hn hlen, hblocks, stepUntil_of_stepAll hs]
  rfl

theorem blockLoop_prefix {eof : ε} {bs : List Octets} :
    ∀ {s : σ} {inp : List Octets} (fuel : Nat), (∀ b ∈ bs, b.length = n) → 0 < n →
      inp.flatten = bs.flatten →
      ∃ k s', stepAll step s (bs.take k) = .ok (s', (blockLoop n step eof fuel s inp).1) := by
  induction bs with
  | nil =>
    intro s inp fuel _ hn hi
    refine ⟨0, s, ?_⟩
    cases fuel with
    | zero => rfl
    | succ f =>
      rw [blockLoop, readFully_short (by rw [hi]; exact hn)]
      rfl
  | cons b bs ih =>
    intro s inp fuel hb hn hi
    cases fuel with
    | zero => exact ⟨0, s, rfl⟩
    | succ f =>
      obtain ⟨inp', hr, hi'⟩ := readFully_append hi (hb b List.mem_cons_self)
      simp only [blockLoop, hr]
      cases hs : step s b with
      | error e => exact ⟨0, s, rfl⟩
      | ok r =>
        obtain ⟨s₁, out⟩ := r
        obtain ⟨k, s', hk⟩ := ih (s := s₁) f (fun x hx => hb x (List.mem_cons_of_mem _ hx)) hn hi'
        exact ⟨k + 1, s', stepAll_cons hs hk⟩

/-- Loops whose work stays in step write the same and end in the same way. -/
theorem blockLoop_sim {τ : Type} {step' : τ → Octets → Except ε (τ × Octets)} {R : σ → τ → Prop}
    (h : ∀ s t b, R s t → (∃ e, step s b = .error e ∧ step' t b = .error e) ∨
      ∃ s' t' out, step s b = .ok (s', out) ∧ step' t b = .ok (t', out) ∧ R s' t') (eof : ε) (fuel : Nat) :
    ∀ {s : σ} {t : τ} (inp : List Octets), R s t →
      blockLoop n step eof fuel s inp = blockLoop n step' eof fuel t inp := by
  induction fuel with
  | zero =>
    intro s t inp _
    rfl
  | succ f ih =>
    intro s t inp hst
    simp only [blockLoop]
    cases readFully n inp with
    | none => rfl
    | some r =>
      obtain ⟨e, hs, ht⟩ | ⟨s', t', out, hs, ht, hst'⟩ := h s t r.1 hst
      · simp only [hs, ht]
      · simp only [hs, ht, ih r.2 hst']

end

end Wire
