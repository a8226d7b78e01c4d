import Mathlib

/-!
# Lib.Octets

Octet strings: big-endian 32-bit words, byte arrays written in place, and keystreams.

* `be32` / `ofBe`: the four octets of a word, most significant first, and back (`ofBe_be32`).
* `writeAt` / `slice`: arrays written and read at an offset, for arrays given in three parts.
* `xorStream`: exclusive or with a keystream; doing it twice is the identity (`xorStream_twice`).
-/

namespace Wire

abbrev Octets := List UInt8

namespace Octets

/-! ## Big-endian words -/

/-- The four octets of `n` modulo `2^32`, most significant first. -/
def be32 (n : Nat) : Octets :=
  [UInt8.ofNat (n / 2 ^ 24), UInt8.ofNat (n / 2 ^ 16), UInt8.ofNat (n / 2 ^ 8), UInt8.ofNat n]

def ofBe (bs : Octets) : Nat := bs.foldl (fun acc b => acc * 256 + b.toNat) 0

@[simp] theorem be32_length (n : Nat) : (be32 n).length = 4 := rfl

@[simp] theorem ofBe_be32 (n : Nat) : ofBe (be32 n) = n % 2 ^ 32 := by
  simp only [be32, ofBe, List.foldl_cons, List.foldl_nil, UInt8.toNat_ofNat']
  omega

theorem ofBe_be32_of_lt {n : Nat} (h : n < 2 ^ 32) : ofBe (be32 n) = n := by
  rw [ofBe_be32, Nat.mod_eq_of_lt h]

theorem ofBe_lt {bs : Octets} (h : bs.length = 4) : ofBe bs < 2 ^ 32 := by
  obtain ⟨a, b, c, d, rfl⟩ := List.length_eq_four.1 h
  have := a.toNat_lt
  have := b.toNat_lt
  have := c.toNat_lt
  have := d.toNat_lt
  simp only [ofBe, List.foldl_cons, List.foldl_nil]
  omega

theorem be32_ofBe {bs : Octets} (h : bs.length = 4) : be32 (ofBe bs) = bs := by
  obtain ⟨a, b, c, d, rfl⟩ := List.length_eq_four.1 h
  have := a.toNat_lt
  have := b.toNat_lt
  have := c.toNat_lt
  have := d.toNat_lt
  simp only [be32, ofBe, List.foldl_cons, List.foldl_nil, List.cons.injEq, and_true]
  refine ⟨?_, ?_, ?_, ?_⟩ <;>
  · apply UInt8.toNat_inj.1
    rw [UInt8.toNat_ofNat']
    omega

theorem ofBe_be32_drop (n : Nat) : ofBe ((be32 n).drop 2) = n % 2 ^ 16 := by
  simp only [be32, ofBe, List.drop_succ_cons, List.drop_zero, List.foldl_cons, List.foldl_nil,
    UInt8.toNat_ofNat']
  omega

/-! ## Arrays -/

/-- The array `buf` after `bs` has been copied into it from offset `off` on. -/
def writeAt (buf : Octets) (off : Nat) (bs : Octets) : Octets :=
  buf.take off ++ bs ++ buf.drop (off + bs.length)

/-- The `len` octets of `buf` from offset `off` on. -/
def slice (buf : Octets) (off len : Nat) : Octets := (buf.drop off).take len

theorem writeAt_append {a b b' c : Octets} (h : b'.length = b.length) :
    writeAt (a ++ b ++ c) a.length b' = a ++ b' ++ c := by
  have hd : (a ++ b ++ c).drop (a.length + b'.length) = c := by
    rw [h, ← List.length_append, List.drop_left]
  rw [writeAt, hd, List.append_assoc a b c, List.take_left]

theorem slice_append {a b c : Octets} : slice (a ++ b ++ c) a.length b.length = b := by
  rw [slice, List.append_assoc, List.drop_left, List.take_left]

theorem slice_append_left {a b : Octets} {off len : Nat} (h : off + len ≤ a.length) :
    slice (a ++ b) off len = slice a off len := by
  rw [slice, List.drop_append_of_le_length (by omega), List.take_append_of_le_length, slice]
  rw [List.length_drop]
  omega

theorem slice_append_take {a b c : Octets} {k : Nat} (h : k ≤ b.length) :
    slice (a ++ b ++ c) a.length k = b.take k := by
  rw [slice, List.append_assoc, List.drop_left, List.take_append_of_le_length h]

theorem slice_writeAt {buf bs : Octets} {off : Nat} (h : off ≤ buf.length) :
    slice (writeAt buf off bs) off bs.length = bs := by
  have ht : (buf.take off).length = off := List.length_take_of_le h
  have hs := slice_append (a := buf.take off) (b := bs) (c := buf.drop (off + bs.length))
  rw [ht] at hs
  exact hs

theorem writeAt_length {buf bs : Octets} {off : Nat} (h : off + bs.length ≤ buf.length) :
    (writeAt buf off bs).length = buf.length := by
  simp only [writeAt, List.length_append, List.length_take, List.length_drop]
  omega

theorem exists_cut {buf : Octets} {m n k : Nat} (h : buf.length = m + n + k) :
    ∃ a b c : Octets, buf = a ++ b ++ c ∧ a.length = m ∧ b.length = n ∧ c.length = k := by
  refine ⟨buf.take m, (buf.drop m).take n, (buf.drop m).drop n, ?_, ?_, ?_, ?_⟩
  · rw [List.append_assoc, List.take_append_drop, List.take_append_drop]
  · rw [List.length_take]
    omega
  · rw [List.length_take, List.length_drop]
    omega
  · rw [List.length_drop, List.length_drop]
    omega

/-! ## Keystreams -/

/-- `bs` with the keystream `ks` added octet by octet. -/
def xorStream (ks : Nat → UInt8) (bs : Octets) : Octets := bs.mapIdx fun i b => b ^^^ ks i

@[simp] theorem xorStream_length (ks : Nat → UInt8) (bs : Octets) :
    (xorStream ks bs).length = bs.length := by
  simp [xorStream]

theorem xorStream_append (ks : Nat → UInt8) (as bs : Octets) :
    xorStream ks (as ++ bs) = xorStream ks as ++ xorStream (fun i => ks (i + as.length)) bs := by
  simp [xorStream, List.mapIdx_append]

theorem xorStream_congr {ks ks' : Nat → UInt8} {bs : Octets} (h : ∀ i, i < bs.length → ks i = ks' i) :
    xorStream ks bs = xorStream ks' bs := by
  apply List.ext_getElem?
  intro i
  simp only [xorStream, List.getElem?_mapIdx]
  by_cases hi : i < bs.length
  · rw [h i hi]
  · rw [List.getElem?_eq_none (Nat.le_of_not_lt hi)]
    rfl

theorem xorStream_take (ks : Nat → UInt8) (n : Nat) (bs : Octets) :
    xorStream ks (bs.take n) ++ bs.drop n = xorStream (fun i => if i < n then ks i else 0) bs := by
  apply List.ext_getElem?
  intro i
  by_cases hi : i < n
  · rw [List.getElem?_append]
    simp only [xorStream, List.getElem?_mapIdx, List.getElem?_take, List.length_mapIdx,
      List.length_take, hi, if_true]
    split
    · rfl
    · have hl : bs.length ≤ i := by omega
      simp only [List.getElem?_drop, List.getElem?_eq_none hl, Option.map_none]
      exact List.getElem?_eq_none (by omega)
  · rw [List.getElem?_append_right (by simp; omega)]
    simp only [xorStream, List.getElem?_mapIdx, List.getElem?_drop, List.length_mapIdx,
      List.length_take, hi, if_false]
    by_cases hb : n ≤ bs.length
    · rw [Nat.min_eq_left hb, Nat.add_sub_cancel' (Nat.le_of_not_lt hi)]
      simp
    · have hl : bs.length ≤ i := by omega
      rw [List.getElem?_eq_none hl, List.getElem?_eq_none (by omega)]
      rfl

@[simp] theorem xorStream_twice (ks : Nat → UInt8) (bs : Octets) :
    xorStream ks (xorStream ks bs) = bs := by
  apply List.ext_getElem?
  intro i
  simp only [xorStream, List.getElem?_mapIdx, Option.map_map]
  cases bs[i]? with
  | none => rfl
  | some b => simp

end Octets
end Wire
