import OnionPhone.SrtpProtocol

/-!
# OnionPhone.Native.Codec2Bits

The bits of a Codec2 frame (`pack.c`, and what `codec2_encode` and `codec2_decode` do with it): fields of any
width, one after the other in a string of bits, each in Gray code.

* `packLoop_bit`, `unpackLoop_bit`: the loops, a slice of an octet at a time, bit by bit.
* `gray_binary`, `binary_gray`: the two conversions undo each other on sixteen bits.
* `frame_round_trip`: every set of indexes comes back, and every array of seven octets whose last six bits are
  zero is the frame of what is read from it.
-/

namespace OnionPhone
namespace Native
namespace Codec2Bits

open Wire

/-! ## The code -/

/-- `pack` after the conversion; `bits` is `bitArray` and `bI` is `*bitIndex`. -/
def packLoop (bits : Octets) (bI field fieldWidth : Nat) : Octets × Nat :=
  let bitsLeft := 8 - bI % 8
  let sliceWidth := min bitsLeft fieldWidth
  let wordIndex := bI / 8
  let bits := bits.set wordIndex (bits.getD wordIndex 0 |||
    UInt8.ofNat ((field >>> (fieldWidth - sliceWidth)) <<< (bitsLeft - sliceWidth)))
  if fieldWidth - sliceWidth = 0 then (bits, bI + sliceWidth)
  else packLoop bits (bI + sliceWidth) field (fieldWidth - sliceWidth)
termination_by fieldWidth
decreasing_by omega

def toGray (field : Nat) : Nat := (field >>> 1) ^^^ field

def pack (bits : Octets) (bitIndex field fieldWidth : Nat) : Octets × Nat :=
  packLoop bits bitIndex (toGray field) fieldWidth

/-- `unpack` before the conversion. -/
def unpackLoop (bits : Octets) (bI field fieldWidth : Nat) : Nat × Nat :=
  let bitsLeft := 8 - bI % 8
  let sliceWidth := min bitsLeft fieldWidth
  let field := field ||| ((((bits.getD (bI / 8) 0).toNat >>> (bitsLeft - sliceWidth)) &&&
    ((1 <<< sliceWidth) - 1)) <<< (fieldWidth - sliceWidth))
  if fieldWidth - sliceWidth = 0 then (field, bI + sliceWidth)
  else unpackLoop bits (bI + sliceWidth) field (fieldWidth - sliceWidth)
termination_by fieldWidth
decreasing_by omega

def toBinary (field : Nat) : Nat :=
  let t := field ^^^ (field >>> 8)
  let t := t ^^^ (t >>> 4)
  let t := t ^^^ (t >>> 2)
  t ^^^ (t >>> 1)

def unpack (bits : Octets) (bitIndex fieldWidth : Nat) : Nat × Nat :=
  let out := unpackLoop bits bitIndex 0 fieldWidth
  (toBinary out.1, out.2)

def packAll : Octets → Nat → List (Nat × Nat) → Octets × Nat
  | bits, nbit, [] => (bits, nbit)
  | bits, nbit, (field, width) :: fields =>
    let out := pack bits nbit field width
    packAll out.1 out.2 fields

def unpackAll (bits : Octets) : Nat → List Nat → List Nat × Nat
  | nbit, [] => ([], nbit)
  | nbit, width :: widths =>
    let out := unpack bits nbit width
    let rest := unpackAll bits out.2 widths
    (out.1 :: rest.1, rest.2)

/-! ## Gray code -/

def fold (n x : Nat) : Nat := x ^^^ (x >>> n)

theorem fold_testBit (n x i : Nat) : (fold n x).testBit i = (x.testBit i ^^ x.testBit (n + i)) := by
  rw [fold, Nat.testBit_xor, Nat.testBit_shiftRight]

theorem fold_comm (m n x : Nat) : fold m (fold n x) = fold n (fold m x) := by
  apply Nat.eq_of_testBit_eq
  intro i
  simp only [fold_testBit, Nat.add_left_comm n m i]
  simp only [Bool.xor_assoc, Bool.xor_left_comm]

theorem fold_fold (n x : Nat) : fold n (fold n x) = fold (n + n) x := by
  apply Nat.eq_of_testBit_eq
  intro i
  simp only [fold_testBit, Nat.add_assoc, Bool.xor_assoc]
  rw [← Bool.xor_assoc (x.testBit (n + i)), Bool.xor_self, Bool.false_xor]

theorem fold_of_lt {n x : Nat} (h : x < 2 ^ n) : fold n x = x := by
  rw [fold, Nat.shiftRight_eq_zero x n h, Nat.xor_zero]

theorem toGray_eq (x : Nat) : toGray x = fold 1 x := Nat.xor_comm ..

theorem toBinary_eq (x : Nat) : toBinary x = fold 1 (fold 2 (fold 4 (fold 8 x))) := rfl

/-- All five steps of both conversions make one step by sixteen. -/
theorem folds_eq (x : Nat) : fold 1 (fold 1 (fold 2 (fold 4 (fold 8 x)))) = fold 16 x := by
  rw [fold_fold, fold_fold, fold_fold, fold_fold]

theorem binary_gray {x : Nat} (h : x < 2 ^ 16) : toBinary (toGray x) = x := by
  rw [toBinary_eq, toGray_eq, fold_comm 8 1, fold_comm 4 1, fold_comm 2 1, folds_eq, fold_of_lt h]

theorem gray_binary {x : Nat} (h : x < 2 ^ 16) : toGray (toBinary x) = x := by
  rw [toBinary_eq, toGray_eq, folds_eq, fold_of_lt h]

theorem toGray_lt {x w : Nat} (h : x < 2 ^ w) : toGray x < 2 ^ w := by
  refine Nat.xor_lt_two_pow (Nat.lt_of_le_of_lt ?_ h) h
  exact Nat.shiftRight_le ..

/-! ## Bits -/

/-- Bit number `j`, the highest bit of an octet first. -/
def bitAt (bits : Octets) (j : Nat) : Bool := (bits.getD (j / 8) 0).toNat.testBit (7 - j % 8)

theorem bitAt_set {bits : Octets} {k : Nat} (hk : k < bits.length) (x : UInt8) (j : Nat) :
    bitAt (bits.set k x) j = if j / 8 = k then x.toNat.testBit (7 - j % 8) else bitAt bits j := by
  unfold bitAt
  by_cases h : j / 8 = k
  · rw [if_pos h, List.getD_eq_getElem?_getD, h, List.getElem?_set_self hk, Option.getD_some]
  · rw [if_neg h, List.getD_eq_getElem?_getD, List.getElem?_set_ne (Ne.symm h), ← List.getD_eq_getElem?_getD]

/-- One round of `pack`. The bits of the field that are not in this slice are cut off, or there are none. -/
theorem packSlice_bit {bits : Octets} {bI field fieldWidth sliceWidth : Nat} (hlen : bI / 8 < bits.length)
    (hslice : sliceWidth = min (8 - bI % 8) fieldWidth) (hhigh : bI % 8 = 0 ∨ field < 2 ^ fieldWidth) (j : Nat) :
    bitAt (bits.set (bI / 8) (bits.getD (bI / 8) 0 |||
      UInt8.ofNat ((field >>> (fieldWidth - sliceWidth)) <<< (8 - bI % 8 - sliceWidth)))) j =
      (bitAt bits j || (decide (bI ≤ j ∧ j < bI + sliceWidth) && field.testBit (fieldWidth - 1 - (j - bI)))) := by
  rw [bitAt_set hlen]
  by_cases hj : j / 8 = bI / 8
  · rw [if_pos hj, UInt8.toNat_or, UInt8.toNat_ofNat', Nat.testBit_or, Nat.testBit_mod_two_pow,
      Nat.testBit_shiftLeft, Nat.testBit_shiftRight, bitAt, hj]
    congr 1
    by_cases hin : bI ≤ j ∧ j < bI + sliceWidth
    · have hindex : fieldWidth - sliceWidth + (7 - j % 8 - (8 - bI % 8 - sliceWidth)) =
          fieldWidth - 1 - (j - bI) := by omega
      rw [hindex, decide_eq_true (show 7 - j % 8 < 8 by omega),
        decide_eq_true (show 7 - j % 8 ≥ 8 - bI % 8 - sliceWidth by omega), decide_eq_true hin, Bool.true_and]
    · rw [decide_eq_false hin, Bool.false_and]
      by_cases hlow : j < bI
      · have hfield : field < 2 ^ (fieldWidth - sliceWidth + (7 - j % 8 - (8 - bI % 8 - sliceWidth))) :=
          Nat.lt_of_lt_of_le (hhigh.resolve_left (by omega)) (Nat.pow_le_pow_right (by decide) (by omega))
        rw [Nat.testBit_lt_two_pow hfield, Bool.and_false, Bool.and_false]
      · rw [decide_eq_false (show ¬ 7 - j % 8 ≥ 8 - bI % 8 - sliceWidth by omega), Bool.false_and, Bool.and_false]
  · rw [if_neg hj, decide_eq_false (by omega), Bool.false_and, Bool.or_false]

theorem packLoop_length (bits : Octets) (bI field fieldWidth : Nat) :
    (packLoop bits bI field fieldWidth).1.length = bits.length := by
  fun_induction packLoop bits bI field fieldWidth with
  | case1 => rw [List.length_set]
  | case2 =>
    rename_i ih
    rw [ih, List.length_set]

theorem packLoop_index (bits : Octets) (bI field fieldWidth : Nat) :
    (packLoop bits bI field fieldWidth).2 = bI + fieldWidth := by
  fun_induction packLoop bits bI field fieldWidth with
  | case1 => omega
  | case2 =>
    rename_i ih
    omega

/-- The field is put between `bI` and `bI + fieldWidth`, the highest bit first. -/
theorem packLoop_bit (bits : Octets) (bI field fieldWidth : Nat) (hfit : bI + fieldWidth ≤ 8 * bits.length)
    (hwidth : 0 < fieldWidth) (hhigh : bI % 8 = 0 ∨ field < 2 ^ fieldWidth) (j : Nat) :
    bitAt (packLoop bits bI field fieldWidth).1 j = (bitAt bits j ||
      (decide (bI ≤ j ∧ j < bI + fieldWidth) && field.testBit (fieldWidth - 1 - (j - bI)))) := by
  fun_induction packLoop bits bI field fieldWidth with
  | case1 bits bI fieldWidth bitsLeft sliceWidth wordIndex bits' hdone =>
    have hslice := packSlice_bit (show bI / 8 < bits.length by omega) (show sliceWidth = _ from rfl) hhigh j
    rw [show bI + fieldWidth = bI + sliceWidth by omega]
    exact hslice
  | case2 bits bI fieldWidth bitsLeft sliceWidth wordIndex bits' hmore ih =>
    have hslice := packSlice_bit (show bI / 8 < bits.length by omega) (show sliceWidth = _ from rfl) hhigh j
    have hlen : bits'.length = bits.length := List.length_set
    rw [ih (by omega) (by omega) (.inl (by omega)), hslice, Bool.or_assoc]
    congr 1
    by_cases hin : bI ≤ j ∧ j < bI + sliceWidth
    · rw [decide_eq_true hin, decide_eq_false (by omega), decide_eq_true (by omega), Bool.false_and,
        Bool.or_false]
    · rw [decide_eq_false hin, Bool.false_and, Bool.false_or]
      by_cases hrest : bI ≤ j ∧ j < bI + fieldWidth
      · have hindex : fieldWidth - sliceWidth - 1 - (j - (bI + sliceWidth)) = fieldWidth - 1 - (j - bI) := by omega
        rw [decide_eq_true hrest, decide_eq_true (by omega), hindex]
      · rw [decide_eq_false hrest, decide_eq_false (by omega), Bool.false_and, Bool.false_and]

theorem unpackSlice_bit (bits : Octets) {bI fieldWidth sliceWidth : Nat}
    (hslice : sliceWidth = min (8 - bI % 8) fieldWidth) (k : Nat) :
    ((((bits.getD (bI / 8) 0).toNat >>> (8 - bI % 8 - sliceWidth)) &&& ((1 <<< sliceWidth) - 1)) <<<
      (fieldWidth - sliceWidth)).testBit k =
      (decide (fieldWidth - sliceWidth ≤ k ∧ k < fieldWidth) && bitAt bits (bI + (fieldWidth - 1 - k))) := by
  rw [Nat.one_shiftLeft, Nat.testBit_shiftLeft, Nat.testBit_and, Nat.testBit_shiftRight,
    Nat.testBit_two_pow_sub_one, bitAt]
  by_cases hin : fieldWidth - sliceWidth ≤ k ∧ k < fieldWidth
  · have hword : (bI + (fieldWidth - 1 - k)) / 8 = bI / 8 := by omega
    have hbit : 8 - bI % 8 - sliceWidth + (k - (fieldWidth - sliceWidth)) =
        7 - (bI + (fieldWidth - 1 - k)) % 8 := by
      omega
    rw [hword, hbit, decide_eq_true hin, decide_eq_true (show k ≥ fieldWidth - sliceWidth by omega),
      decide_eq_true (show k - (fieldWidth - sliceWidth) < sliceWidth by omega), Bool.and_true]
  · rw [decide_eq_false hin, Bool.false_and]
    by_cases hlow : k ≥ fieldWidth - sliceWidth
    · rw [decide_eq_false (show ¬ k - (fieldWidth - sliceWidth) < sliceWidth by omega), Bool.and_false,
        Bool.and_false]
    · rw [decide_eq_false hlow, Bool.false_and]

theorem unpackLoop_index (bits : Octets) (bI field fieldWidth : Nat) :
    (unpackLoop bits bI field fieldWidth).2 = bI + fieldWidth := by
  fun_induction unpackLoop bits bI field fieldWidth with
  | case1 => omega
  | case2 =>
    rename_i ih
    omega

/-- What stands between `bI` and `bI + fieldWidth` is read, the highest bit first. -/
theorem unpackLoop_bit (bits : Octets) (bI field fieldWidth k : Nat) :
    (unpackLoop bits bI field fieldWidth).1.testBit k =
      (field.testBit k || (decide (k < fieldWidth) && bitAt bits (bI + (fieldWidth - 1 - k)))) := by
  fun_induction unpackLoop bits bI field fieldWidth with
  | case1 bI field fieldWidth bitsLeft sliceWidth field' hdone =>
    have hslice := unpackSlice_bit bits (show sliceWidth = _ from rfl) k
    have hwhole : decide (fieldWidth - sliceWidth ≤ k ∧ k < fieldWidth) = decide (k < fieldWidth) :=
      decide_eq_decide.2 (by omega)
    show (field ||| _).testBit k = _
    rw [Nat.testBit_or, hslice, hwhole]
  | case2 bI field fieldWidth bitsLeft sliceWidth field' hmore ih =>
    have hslice := unpackSlice_bit bits (show sliceWidth = _ from rfl) k
    have hfield : field'.testBit k = _ := (Nat.testBit_or ..).trans (congrArg _ hslice)
    rw [ih, hfield, Bool.or_assoc]
    congr 1
    by_cases hin : fieldWidth - sliceWidth ≤ k ∧ k < fieldWidth
    · rw [decide_eq_true hin, decide_eq_true hin.2, decide_eq_false (by omega), Bool.false_and, Bool.or_false]
    · rw [decide_eq_false hin, Bool.false_and, Bool.false_or]
      by_cases hlow : k < fieldWidth
      · have hindex : bI + sliceWidth + (fieldWidth - sliceWidth - 1 - k) = bI + (fieldWidth - 1 - k) := by omega
        rw [decide_eq_true hlow, decide_eq_true (by omega), hindex]
      · rw [decide_eq_false hlow, decide_eq_false (by omega), Bool.false_and, Bool.false_and]

/-! ## Fields -/

theorem unpackLoop_lt (bits : Octets) (bI fieldWidth : Nat) :
    (unpackLoop bits bI 0 fieldWidth).1 < 2 ^ fieldWidth := by
  refine Nat.lt_pow_two_of_testBit _ fun k hk => ?_
  rw [unpackLoop_bit, Nat.zero_testBit, decide_eq_false (by omega), Bool.false_and, Bool.or_false]

theorem fold_lt {x w : Nat} (n : Nat) (h : x < 2 ^ w) : fold n x < 2 ^ w :=
  Nat.xor_lt_two_pow h (Nat.lt_of_le_of_lt (Nat.shiftRight_le ..) h)

theorem toBinary_lt {x w : Nat} (h : x < 2 ^ w) : toBinary x < 2 ^ w := by
  rw [toBinary_eq]
  exact fold_lt 1 (fold_lt 2 (fold_lt 4 (fold_lt 8 h)))

theorem lt_sixteen {x w : Nat} (h : x < 2 ^ w) (hw : w ≤ 16) : x < 2 ^ 16 :=
  Nat.lt_of_lt_of_le h (Nat.pow_le_pow_right (by decide) hw)

theorem unpack_of_bits {bits : Octets} {bI field fieldWidth : Nat} (hfield : field < 2 ^ fieldWidth)
    (hwidth : fieldWidth ≤ 16) (h : ∀ j, bI ≤ j → j < bI + fieldWidth →
      bitAt bits j = (toGray field).testBit (fieldWidth - 1 - (j - bI))) :
    unpack bits bI fieldWidth = (field, bI + fieldWidth) := by
  have hread : (unpackLoop bits bI 0 fieldWidth).1 = toGray field := by
    apply Nat.eq_of_testBit_eq
    intro k
    rw [unpackLoop_bit, Nat.zero_testBit, Bool.false_or]
    by_cases hk : k < fieldWidth
    · rw [decide_eq_true hk, Bool.true_and, h _ (by omega) (by omega),
        show fieldWidth - 1 - (bI + (fieldWidth - 1 - k) - bI) = k by omega]
    · have hhigh : toGray field < 2 ^ k :=
        Nat.lt_of_lt_of_le (toGray_lt hfield) (Nat.pow_le_pow_right (by decide) (by omega))
      rw [decide_eq_false hk, Bool.false_and, Nat.testBit_lt_two_pow hhigh]
  simp only [unpack, hread, unpackLoop_index, binary_gray (lt_sixteen hfield hwidth)]

theorem pack_bit {bits : Octets} {bI field fieldWidth : Nat} (hfit : bI + fieldWidth ≤ 8 * bits.length)
    (hwidth : 0 < fieldWidth) (hfield : field < 2 ^ fieldWidth) (j : Nat) :
    bitAt (pack bits bI field fieldWidth).1 j = (bitAt bits j ||
      (decide (bI ≤ j ∧ j < bI + fieldWidth) && (toGray field).testBit (fieldWidth - 1 - (j - bI)))) :=
  packLoop_bit bits bI (toGray field) fieldWidth hfit hwidth (.inr (toGray_lt hfield)) j

theorem pack_below {bits : Octets} {bI field fieldWidth j : Nat} (hfit : bI + fieldWidth ≤ 8 * bits.length)
    (hwidth : 0 < fieldWidth) (hfield : field < 2 ^ fieldWidth) (hj : j < bI) :
    bitAt (pack bits bI field fieldWidth).1 j = bitAt bits j := by
  rw [pack_bit hfit hwidth hfield, decide_eq_false (by omega), Bool.false_and, Bool.or_false]

theorem pack_above {bits : Octets} {bI field fieldWidth j : Nat} (hfit : bI + fieldWidth ≤ 8 * bits.length)
    (hwidth : 0 < fieldWidth) (hfield : field < 2 ^ fieldWidth) (hzero : ∀ j, bI ≤ j → bitAt bits j = false)
    (hj : bI + fieldWidth ≤ j) : bitAt (pack bits bI field fieldWidth).1 j = false := by
  rw [pack_bit hfit hwidth hfield, decide_eq_false (by omega), Bool.false_and, Bool.or_false, hzero j (by omega)]

theorem pack_inside {bits : Octets} {bI field fieldWidth j : Nat} (hfit : bI + fieldWidth ≤ 8 * bits.length)
    (hwidth : 0 < fieldWidth) (hfield : field < 2 ^ fieldWidth) (hzero : ∀ j, bI ≤ j → bitAt bits j = false)
    (hlow : bI ≤ j) (hj : j < bI + fieldWidth) :
    bitAt (pack bits bI field fieldWidth).1 j = (toGray field).testBit (fieldWidth - 1 - (j - bI)) := by
  rw [pack_bit hfit hwidth hfield, decide_eq_true ⟨hlow, hj⟩, Bool.true_and, hzero j hlow, Bool.false_or]

def IsWidth (width : Nat) : Prop := 0 < width ∧ width ≤ 16

theorem unpackAll_packAll (fields : List (Nat × Nat)) : ∀ (bits : Octets) (nbit : Nat),
    (∀ f ∈ fields, IsWidth f.2 ∧ f.1 < 2 ^ f.2) → nbit + (fields.map Prod.snd).sum ≤ 8 * bits.length →
    (∀ j, nbit ≤ j → bitAt bits j = false) →
    (packAll bits nbit fields).1.length = bits.length ∧
      (packAll bits nbit fields).2 = nbit + (fields.map Prod.snd).sum ∧
      (∀ j, j < nbit → bitAt (packAll bits nbit fields).1 j = bitAt bits j) ∧
      unpackAll (packAll bits nbit fields).1 nbit (fields.map Prod.snd) =
        (fields.map Prod.fst, nbit + (fields.map Prod.snd).sum) := by
  induction fields with
  | nil =>
    intro bits nbit _ _ _
    exact ⟨rfl, rfl, fun _ _ => rfl, rfl⟩
  | cons f fields ih =>
    obtain ⟨field, width⟩ := f
    intro bits nbit hfields hfit hzero
    obtain ⟨hwidth, hfield⟩ := hfields _ List.mem_cons_self
    simp only at hwidth hfield
    rw [List.map_cons, List.sum_cons] at hfit
    have hlen : (pack bits nbit field width).1.length = bits.length := packLoop_length ..
    have hindex : (pack bits nbit field width).2 = nbit + width := packLoop_index ..
    have hfirst : nbit + width ≤ 8 * bits.length := by omega
    obtain ⟨hlen', hindex', hkeep, hunpack⟩ := ih (pack bits nbit field width).1 (nbit + width)
      (fun x hx => hfields x (List.mem_cons_of_mem _ hx)) (by rw [hlen]; omega)
      (fun j hj => pack_above hfirst hwidth.1 hfield hzero hj)
    simp only [packAll, hindex, List.map_cons, List.sum_cons, ← Nat.add_assoc]
    refine ⟨hlen'.trans hlen, hindex', ?_, ?_⟩
    · intro j hj
      rw [hkeep j (by omega), pack_below hfirst hwidth.1 hfield hj]
    · have hread : unpack (packAll (pack bits nbit field width).1 (nbit + width) fields).1 nbit width =
          (field, nbit + width) := by
        refine unpack_of_bits hfield hwidth.2 fun j hlow hj => ?_
        rw [hkeep j hj, pack_inside hfirst hwidth.1 hfield hzero hlow hj]
      simp only [unpackAll, hread, hunpack]

theorem eq_of_bits {bits bits' : Octets} (hlen : bits.length = bits'.length)
    (h : ∀ j, bitAt bits j = bitAt bits' j) : bits = bits' := by
  refine List.ext_getElem hlen fun k hk hk' => UInt8.toNat_inj.1 (Nat.eq_of_testBit_eq fun i => ?_)
  by_cases hi : i < 8
  · have hbit := h (8 * k + (7 - i))
    rw [bitAt, bitAt, show (8 * k + (7 - i)) / 8 = k by omega, show 7 - (8 * k + (7 - i)) % 8 = i by omega,
      List.getD_eq_getElem _ _ hk, List.getD_eq_getElem _ _ hk'] at hbit
    exact hbit
  · have hhigh : ∀ x : UInt8, x.toNat.testBit i = false := fun x =>
      Nat.testBit_lt_two_pow (Nat.lt_of_lt_of_le x.toNat_lt (Nat.pow_le_pow_right (by decide) (by omega)))
    rw [hhigh, hhigh]

theorem unpackAll_index (bits : Octets) (widths : List Nat) : ∀ nbit : Nat,
    (unpackAll bits nbit widths).2 = nbit + widths.sum := by
  induction widths with
  | nil => exact fun _ => rfl
  | cons width widths ih =>
    intro nbit
    have hnext : (unpack bits nbit width).2 = nbit + width := unpackLoop_index ..
    simp only [unpackAll, hnext, ih, List.sum_cons, Nat.add_assoc]

/-- The fields of any string of bits, put behind the same beginning, are that string. -/
theorem packAll_unpackAll (bits : Octets) (widths : List Nat) : ∀ (base : Octets) (nbit : Nat),
    (∀ w ∈ widths, IsWidth w) → base.length = bits.length → nbit + widths.sum ≤ 8 * bits.length →
    (∀ j, j < nbit → bitAt base j = bitAt bits j) → (∀ j, nbit ≤ j → bitAt base j = false) →
    (∀ j, nbit + widths.sum ≤ j → bitAt bits j = false) →
    (unpackAll bits nbit widths).1.length = widths.length ∧
      (∀ f ∈ (unpackAll bits nbit widths).1.zip widths, f.1 < 2 ^ f.2) ∧
      packAll base nbit ((unpackAll bits nbit widths).1.zip widths) = (bits, nbit + widths.sum) := by
  induction widths with
  | nil =>
    intro base nbit _ hlen _ hsame hzero hend
    refine ⟨rfl, by simp [unpackAll], ?_⟩
    have heq : base = bits := by
      refine eq_of_bits hlen fun j => ?_
      by_cases hj : j < nbit
      · exact hsame j hj
      · rw [hzero j (by omega), hend j (by simpa using hj)]
    rw [heq]
    rfl
  | cons width widths ih =>
    intro base nbit hwidths hlen hfit hsame hzero hend
    have hwidth := hwidths width List.mem_cons_self
    rw [List.sum_cons] at hfit hend
    have hread := unpackLoop_lt bits nbit width
    have hfield : (unpack bits nbit width).1 < 2 ^ width := toBinary_lt hread
    have hnext : (unpack bits nbit width).2 = nbit + width := unpackLoop_index ..
    have hgray : toGray (unpack bits nbit width).1 = (unpackLoop bits nbit 0 width).1 :=
      gray_binary (lt_sixteen hread hwidth.2)
    have hlen' : (pack base nbit (unpack bits nbit width).1 width).1.length = bits.length :=
      (packLoop_length ..).trans hlen
    have hindex : (pack base nbit (unpack bits nbit width).1 width).2 = nbit + width := packLoop_index ..
    have hfirst : nbit + width ≤ 8 * base.length := by omega
    -- the array agrees with `bits` up to the end of the field
    have hsame' : ∀ j, j < nbit + width →
        bitAt (pack base nbit (unpack bits nbit width).1 width).1 j = bitAt bits j := by
      intro j hj
      by_cases hlow : j < nbit
      · rw [pack_below hfirst hwidth.1 hfield hlow, hsame j hlow]
      · rw [pack_inside hfirst hwidth.1 hfield hzero (by omega) hj, hgray, unpackLoop_bit, Nat.zero_testBit,
          Bool.false_or, decide_eq_true (by omega), Bool.true_and,
          show nbit + (width - 1 - (width - 1 - (j - nbit))) = j by omega]
    obtain ⟨hcount, hlt, hpack⟩ := ih (pack base nbit (unpack bits nbit width).1 width).1 (nbit + width)
      (fun w hw => hwidths w (List.mem_cons_of_mem _ hw)) hlen' (by omega) hsame'
      (fun j hj => pack_above hfirst hwidth.1 hfield hzero hj) (fun j hj => hend j (by omega))
    simp only [unpackAll, hnext, List.zip_cons_cons, packAll, hindex, List.sum_cons, ← Nat.add_assoc]
    refine ⟨by rw [List.length_cons, List.length_cons, hcount], ?_, hpack⟩
    intro f hf
    rcases List.mem_cons.1 hf with rfl | hf
    · exact hfield
    · exact hlt f hf

/-! ## A frame -/

def codec2BitsPerFrame : Nat := 50

/-- `lsp_bits`: the second field of each entry of `lsp_cb`. -/
def lspBits : List Nat := [4, 4, 4, 4, 4, 4, 4, 3, 3, 2]

/-- `WO_BITS`, the ten line spectrum pairs, `E_BITS` and the two voicing flags. -/
def frameBits : List Nat := 7 :: lspBits ++ [5, 1, 1]

/-- The end of `codec2_encode`: `Wo_index`, `lsp_indexes`, `energy_index`, `voiced1` and `voiced2`. -/
def codec2Pack (indexes : List Nat) : Octets × Nat :=
  packAll (List.replicate ((codec2BitsPerFrame + 7) / 8) 0) 0 (indexes.zip frameBits)

/-- The beginning of `codec2_decode`. -/
def codec2Unpack (bits : Octets) : List Nat × Nat := unpackAll bits 0 frameBits

def Fits (indexes : List Nat) : Prop :=
  indexes.length = frameBits.length ∧ ∀ f ∈ indexes.zip frameBits, f.1 < 2 ^ f.2

theorem frameBits_isWidth : ∀ w ∈ frameBits, IsWidth w := by
  unfold IsWidth
  decide

theorem bitAt_replicate (n j : Nat) : bitAt (List.replicate n 0) j = false := by
  have hzero : (List.replicate n (0 : UInt8)).getD (j / 8) 0 = 0 := by
    rw [List.getD_eq_getElem?_getD, List.getElem?_replicate]
    split
    · rfl
    · rfl
  rw [bitAt, hzero]
  exact Nat.zero_testBit _

/-- What the encoder packs the decoder unpacks, in a frame of the size that the rest of the phone counts on,
and both assertions about the number of bits hold. The other way round, an array of that size whose last six
bits are zero is the frame of the indexes that are read from it. -/
theorem frame_round_trip :
    (∀ indexes, Fits indexes → (codec2Pack indexes).1.length = codec2.bytesSize ∧
      (codec2Pack indexes).2 = codec2BitsPerFrame ∧
      codec2Unpack (codec2Pack indexes).1 = (indexes, codec2BitsPerFrame)) ∧
    ∀ bits : Octets, bits.length = codec2.bytesSize → (∀ j, codec2BitsPerFrame ≤ j → bitAt bits j = false) →
      Fits (codec2Unpack bits).1 ∧ (codec2Unpack bits).2 = codec2BitsPerFrame ∧
      codec2Pack (codec2Unpack bits).1 = (bits, codec2BitsPerFrame) := by
  refine ⟨?_, ?_⟩
  · rintro indexes ⟨hlen, hfits⟩
    have hwidths : (indexes.zip frameBits).map Prod.snd = frameBits := List.map_snd_zip (Nat.le_of_eq hlen.symm)
    have hvalues : (indexes.zip frameBits).map Prod.fst = indexes := List.map_fst_zip (Nat.le_of_eq hlen)
    have hsum : 0 + frameBits.sum = codec2BitsPerFrame := rfl
    obtain ⟨hlength, hindex, -, hunpack⟩ := unpackAll_packAll (indexes.zip frameBits)
      (List.replicate ((codec2BitsPerFrame + 7) / 8) 0) 0
      (fun f hf => ⟨frameBits_isWidth _ (List.of_mem_zip hf).2, hfits f hf⟩)
      (by rw [hwidths]; decide) (fun j _ => bitAt_replicate _ j)
    rw [hwidths, hsum] at hindex hunpack
    rw [hvalues] at hunpack
    exact ⟨hlength, hindex, hunpack⟩
  · intro bits hlen hzero
    have hsum : 0 + frameBits.sum = codec2BitsPerFrame := rfl
    obtain ⟨hcount, hlt, hpack⟩ := packAll_unpackAll bits frameBits
      (List.replicate ((codec2BitsPerFrame + 7) / 8) 0) 0 frameBits_isWidth (by rw [hlen]; rfl)
      (by rw [hlen]; decide) (fun j hj => absurd hj (Nat.not_lt_zero j)) (fun j _ => bitAt_replicate _ j) hzero
    exact ⟨⟨hcount, hlt⟩, unpackAll_index bits frameBits 0, hpack⟩

/-- The frame of all the highest indexes: in Gray code one bit of each field is set. -/
example : codec2Pack [127, 15, 15, 15, 15, 15, 15, 15, 7, 7, 3, 31, 1, 1] =
      ([0x81, 0x11, 0x11, 0x11, 0x12, 0x50, 0xc0], 50) ∧
    codec2Unpack [0x81, 0x11, 0x11, 0x11, 0x12, 0x50, 0xc0] =
      ([127, 15, 15, 15, 15, 15, 15, 15, 7, 7, 3, 31, 1, 1], 50) := by
  constructor
  · simp [codec2Pack, codec2BitsPerFrame, frameBits, lspBits, packAll, pack, toGray, packLoop]
    decide
  · simp [codec2Unpack, frameBits, lspBits, unpackAll, unpack, toBinary, unpackLoop]

end Codec2Bits
end Native
end OnionPhone
