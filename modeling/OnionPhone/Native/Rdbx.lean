import OnionPhone.Lib.Octets

/-!
# OnionPhone.Native.Rdbx

libsrtp's replay database with a rollover counter (`crypto/replay/rdbx.c`), and the 128-bit masks
it is made of (`crypto/math/datatypes.c`). Built with 64-bit arithmetic: `config.h` defines
`HAVE_UINT64_T`, so `NO_64BIT_MATH` is off.

`rdbxEstimateIndex_next`: for the sequence number that follows the index of the database, the
estimate is the next index modulo `2^48`, one place ahead, across every wrap of both counters.

`rdbxAddIndex_holds`: the bit that an index got when it was new is where `rdbx_check` looks for it after any
later shifts. For an index that was not new this fails: the bit that is set is another one.
-/

namespace OnionPhone
namespace Native

/-- The part of `err_status_t` that the modelled functions return, in the order of its codes. -/
inductive ErrStatus where
  | ok | fail | badParam | initFail | authFail | cipherFail | replayFail | replayOld | noCtx
  | keyExpired
  deriving DecidableEq, Repr

def ErrStatus.code : ErrStatus → Nat
  | .ok => 0
  | .fail => 1
  | .badParam => 2
  | .initFail => 5
  | .authFail => 7
  | .cipherFail => 8
  | .replayFail => 9
  | .replayOld => 10
  | .noCtx => 13
  | .keyExpired => 15

/-! ## `v128_t` -/

structure V128 where
  w0 : BitVec 32
  w1 : BitVec 32
  w2 : BitVec 32
  w3 : BitVec 32
  deriving DecidableEq, Repr

namespace V128

def zero : V128 := ⟨0, 0, 0, 0⟩

/-- `x->v32[i]` -/
def v32 (x : V128) : Nat → BitVec 32
  | 0 => x.w0
  | 1 => x.w1
  | 2 => x.w2
  | _ => x.w3

def setV32 (x : V128) (i : Nat) (w : BitVec 32) : V128 :=
  match i with
  | 0 => { x with w0 := w }
  | 1 => { x with w1 := w }
  | 2 => { x with w2 := w }
  | _ => { x with w3 := w }

def getBit (x : V128) (bit : Nat) : Bool := (x.v32 (bit / 32)).getLsbD (bit % 32)

def setBit (x : V128) (bit : Nat) : V128 :=
  x.setV32 (bit / 32) (x.v32 (bit / 32) ||| (1#32 <<< (bit % 32)))

/-- `v128_left_shift`: bit `i + index` moves to bit `i`. -/
def leftShift (x : V128) (index : Nat) : V128 :=
  let baseIndex := index / 32
  let bitIndex := index % 32
  if 127 < index then
    zero
  else
    let moved :=
      if bitIndex = 0 then
        (List.range (4 - baseIndex)).foldl (fun y i => y.setV32 i (y.v32 (i + baseIndex))) x
      else
        let y := (List.range (4 - baseIndex - 1)).foldl (fun y i =>
          y.setV32 i ((y.v32 (i + baseIndex) >>> bitIndex) ^^^
            (y.v32 (i + baseIndex + 1) <<< (32 - bitIndex)))) x
        y.setV32 (4 - baseIndex - 1) (y.v32 3 >>> bitIndex)
    (List.range' (4 - baseIndex) baseIndex).foldl (fun y i => y.setV32 i 0) moved

/-! ### Its bits -/

/-- Word `i`, and zero behind the last one. -/
def paddedWord (x : V128) (i : Nat) : BitVec 32 := if i < 4 then x.v32 i else 0

theorem paddedWord_of_lt {x : V128} {i : Nat} (h : i < 4) : x.paddedWord i = x.v32 i := if_pos h

theorem paddedWord_bit (x : V128) (i : Nat) :
    (x.paddedWord (i / 32)).getLsbD (i % 32) = (decide (i < 128) && x.getBit i) := by
  by_cases h : i < 128
  · rw [paddedWord_of_lt (by omega), decide_eq_true h, Bool.true_and, getBit]
  · rw [paddedWord, if_neg (by omega), decide_eq_false h, Bool.false_and]
    exact BitVec.getLsbD_zero

theorem v32_setV32 (x : V128) {i j : Nat} (hi : i < 4) (hj : j < 4) (w : BitVec 32) :
    (x.setV32 i w).v32 j = if j = i then w else x.v32 j := by
  interval_cases i <;> interval_cases j <;> rfl

theorem getBit_setBit (x : V128) {i j : Nat} (hi : i < 128) (hj : j < 128) :
    (x.setBit i).getBit j = (decide (j = i) || x.getBit j) := by
  unfold getBit setBit
  rw [v32_setV32 x (by omega) (by omega)]
  by_cases hw : j / 32 = i / 32
  · rw [if_pos hw, BitVec.getLsbD_or, hw, BitVec.getLsbD_shiftLeft, BitVec.getLsbD_one]
    have hbit : (decide (j % 32 < 32) && (!decide (j % 32 < i % 32) &&
        (decide (0 < 32) && decide (j % 32 - i % 32 = 0)))) = decide (j = i) := by
      rw [Bool.eq_iff_iff]
      simp only [Bool.and_eq_true, Bool.not_eq_true', decide_eq_true_eq, decide_eq_false_iff_not]
      omega
    rw [Bool.and_assoc, hbit, Bool.or_comm]
  · rw [if_neg hw, decide_eq_false (by omega), Bool.false_or]

theorem getLsbD_moved (w w' : BitVec 32) {k j : Nat} (hj : j < 32) (hk : k < 32) :
    ((w >>> k) ^^^ (w' <<< (32 - k))).getLsbD j =
      if j + k < 32 then w.getLsbD (j + k) else w'.getLsbD (j + k - 32) := by
  rw [BitVec.getLsbD_xor, BitVec.getLsbD_ushiftRight, BitVec.getLsbD_shiftLeft, Nat.add_comm k j]
  by_cases h : j + k < 32
  · rw [if_pos h, decide_eq_true (show j < 32 - k by omega), Bool.not_true, Bool.and_false, Bool.false_and,
      Bool.xor_false]
  · rw [if_neg h, BitVec.getLsbD_of_ge _ _ (by omega), decide_eq_true hj,
      decide_eq_false (show ¬ j < 32 - k by omega), Bool.not_false, Bool.true_and, Bool.true_and,
      Bool.false_xor, show j - (32 - k) = j + k - 32 by omega]

/-- The two loops of `v128_left_shift` and the words that are zeroed at the end. -/
theorem paddedWord_leftShift (x : V128) {n i : Nat} (hn : n < 128) (hi : i < 4) :
    (x.leftShift n).paddedWord i =
      (x.paddedWord (i + n / 32) >>> (n % 32)) ^^^ (x.paddedWord (i + n / 32 + 1) <<< (32 - n % 32)) := by
  unfold leftShift
  rw [if_neg (by omega)]
  generalize hb : n / 32 = b
  have hb4 : b < 4 := by omega
  by_cases h0 : n % 32 = 0
  · rw [if_pos h0, h0]
    interval_cases b <;> interval_cases i <;>
      simp [paddedWord, v32, setV32, List.range_succ, List.range'_succ]
  · rw [if_neg h0]
    interval_cases b <;> interval_cases i <;>
      simp [paddedWord, v32, setV32, List.range_succ, List.range'_succ]

/-- The mask is moved by `n` places; the bits that come in are zero. -/
theorem getBit_leftShift (x : V128) {n j : Nat} (hn : n < 128) (hj : j < 128) :
    (x.leftShift n).getBit j = (decide (j + n < 128) && x.getBit (j + n)) := by
  have hword := paddedWord_leftShift x hn (show j / 32 < 4 by omega)
  rw [paddedWord_of_lt (by omega)] at hword
  rw [getBit, hword, getLsbD_moved _ _ (by omega) (by omega)]
  by_cases hc : j % 32 + n % 32 < 32
  · have hw : j / 32 + n / 32 = (j + n) / 32 := by omega
    rw [if_pos hc, hw, show j % 32 + n % 32 = (j + n) % 32 by omega, paddedWord_bit]
  · have hw : j / 32 + n / 32 + 1 = (j + n) / 32 := by omega
    rw [if_neg hc, hw, show j % 32 + n % 32 - 32 = (j + n) % 32 by omega, paddedWord_bit]

end V128

/-! ## `rdbx_t` -/

/-- `index` is a `uint64_t`. -/
structure Rdbx where
  index : Nat
  bitmask : V128
  deriving DecidableEq, Repr

def seqNumMedian : Nat := 2 ^ 15
def seqNumMax : Nat := 2 ^ 16
def rdbxHighBitInBitmask : Nat := 127

def rdbxInit : Rdbx := ⟨0, V128.zero⟩

/-- `s` is a `sequence_number_t`, sixteen bits. -/
def indexAdvance (pi s : Nat) : Nat := (pi + s % 2 ^ 16) % 2 ^ 64

/-- The difference to `local`, an `int`, and the guess, a 48-bit index. -/
def indexGuess (local_ s : Nat) : Int × Nat :=
  let localRoc := (local_ / 2 ^ 16) % 2 ^ 32
  let localSeq := local_ % 2 ^ 16
  let guess (guessRoc : Nat) : Nat := guessRoc * 2 ^ 16 + s
  if localSeq < seqNumMedian then
    if (s : Int) - localSeq > seqNumMedian then
      -- as in the source: the distance backwards, but with a positive sign
      ((seqNumMax : Int) - s + localSeq, guess ((localRoc + 2 ^ 32 - 1) % 2 ^ 32))
    else
      ((s : Int) - localSeq, guess localRoc)
  else
    if (localSeq : Int) - seqNumMedian > s then
      ((seqNumMax : Int) - localSeq + s, guess ((localRoc + 1) % 2 ^ 32))
    else
      ((s : Int) - localSeq, guess localRoc)

def rdbxEstimateIndex (rdbx : Rdbx) (s : Nat) : Int × Nat :=
  if rdbx.index > seqNumMedian then
    indexGuess rdbx.index s
  else
    ((s : Int) - (rdbx.index % 2 ^ 16 : Nat), s)

def rdbxCheck (rdbx : Rdbx) (delta : Int) : ErrStatus :=
  if delta > 0 then
    .ok
  else if rdbxHighBitInBitmask + delta < 0 then
    .replayOld
  else if rdbx.bitmask.getBit (rdbxHighBitInBitmask + delta).toNat then
    .replayFail
  else
    .ok

def rdbxAddIndex (rdbx : Rdbx) (delta : Int) : Rdbx :=
  if delta > 0 then
    ⟨indexAdvance rdbx.index delta.toNat, (rdbx.bitmask.leftShift delta.toNat).setBit 127⟩
  else
    -- as in the source: bit `-delta`, where `rdbx_check` tests bit `127 + delta`
    { rdbx with bitmask := rdbx.bitmask.setBit (-delta).toNat }

/-- Everything an estimate can be: before the median, without a rollover, one ahead, one back. -/
theorem rdbxEstimateIndex_cases {r : Rdbx} {s est : Nat} {delta : Int}
    (h : rdbxEstimateIndex r s = (delta, est)) :
    (r.index ≤ 2 ^ 15 ∧ delta = s - r.index ∧ est = s) ∨
    (2 ^ 15 < r.index ∧ delta = s - (r.index % 2 ^ 16 : Nat) ∧
      est = r.index / 2 ^ 16 % 2 ^ 32 * 2 ^ 16 + s) ∨
    (2 ^ 15 < r.index ∧ 2 ^ 15 + s < r.index % 2 ^ 16 ∧
      delta = 2 ^ 16 - (r.index % 2 ^ 16 : Nat) + s ∧
      est = (r.index / 2 ^ 16 % 2 ^ 32 + 1) % 2 ^ 32 * 2 ^ 16 + s) ∨
    (2 ^ 15 < r.index ∧ r.index % 2 ^ 16 + 2 ^ 15 < s ∧
      delta = 2 ^ 16 - s + (r.index % 2 ^ 16 : Nat) ∧
      est = (r.index / 2 ^ 16 % 2 ^ 32 + 2 ^ 32 - 1) % 2 ^ 32 * 2 ^ 16 + s) := by
  have hmed : seqNumMedian = 2 ^ 15 := rfl
  have hmax : seqNumMax = 2 ^ 16 := rfl
  unfold rdbxEstimateIndex at h
  by_cases hm : r.index > seqNumMedian
  · rw [if_pos hm] at h
    unfold indexGuess at h
    by_cases hl : r.index % 2 ^ 16 < seqNumMedian
    · rw [if_pos hl] at h
      by_cases hb : (s : Int) - (r.index % 2 ^ 16 : Nat) > seqNumMedian
      · rw [if_pos hb] at h
        cases h
        exact .inr (.inr (.inr ⟨hm, by omega, by omega, rfl⟩))
      · rw [if_neg hb] at h
        cases h
        exact .inr (.inl ⟨hm, rfl, rfl⟩)
    · rw [if_neg hl] at h
      by_cases hf : ((r.index % 2 ^ 16 : Nat) : Int) - seqNumMedian > s
      · rw [if_pos hf] at h
        cases h
        exact .inr (.inr (.inl ⟨hm, by omega, by omega, rfl⟩))
      · rw [if_neg hf] at h
        cases h
        exact .inr (.inl ⟨hm, rfl, rfl⟩)
  · rw [if_neg hm] at h
    cases h
    exact .inl ⟨by omega, by omega, rfl⟩

/-! ## Packets in order -/

theorem indexGuess_next (i : Nat) :
    indexGuess i ((i + 1) % 2 ^ 16) = (1, (i + 1) % 2 ^ 48) := by
  have hmed : seqNumMedian = 2 ^ 15 := rfl
  have hmax : seqNumMax = 2 ^ 16 := rfl
  unfold indexGuess
  by_cases hl : i % 2 ^ 16 < seqNumMedian
  · rw [if_pos hl, if_neg (by omega)]
    refine Prod.ext ?_ ?_
    · simp only; omega
    · simp only; omega
  · rw [if_neg hl]
    by_cases he : i % 2 ^ 16 = 2 ^ 16 - 1
    · -- the sequence number wraps, so the rollover counter goes up
      rw [if_pos (by omega)]
      refine Prod.ext ?_ ?_
      · simp only; omega
      · simp only; omega
    · rw [if_neg (by omega)]
      refine Prod.ext ?_ ?_
      · simp only; omega
      · simp only; omega

theorem rdbxEstimateIndex_next (r : Rdbx) :
    rdbxEstimateIndex r ((r.index + 1) % 2 ^ 16) = (1, (r.index + 1) % 2 ^ 48) := by
  have hmed : seqNumMedian = 2 ^ 15 := rfl
  unfold rdbxEstimateIndex
  by_cases h : r.index > seqNumMedian
  · rw [if_pos h, indexGuess_next]
  · rw [if_neg h]
    refine Prod.ext ?_ ?_
    · simp only; omega
    · simp only; omega

theorem rdbxEstimateIndex_init {s : Nat} : rdbxEstimateIndex rdbxInit s = ((s : Int), s) := by
  simp [rdbxEstimateIndex, rdbxInit, seqNumMedian]

theorem rdbxCheck_one (r : Rdbx) : rdbxCheck r 1 = .ok := by
  simp [rdbxCheck]

theorem rdbxCheck_init (s : Nat) : rdbxCheck rdbxInit s = .ok := by
  by_cases h : s = 0
  · subst h; decide
  · rw [rdbxCheck, if_pos (by omega)]

theorem rdbxAddIndex_one_index {r : Rdbx} (h : r.index + 1 < 2 ^ 64) :
    (rdbxAddIndex r 1).index = r.index + 1 := by
  simp only [rdbxAddIndex, if_pos (show (1 : Int) > 0 by decide), indexAdvance]
  rw [show (1 : Int).toNat = 1 from rfl]
  omega

theorem rdbxAddIndex_init_index {s : Nat} (h : s < 2 ^ 16) :
    (rdbxAddIndex rdbxInit s).index = s := by
  by_cases h0 : s = 0
  · subst h0; decide
  · simp only [rdbxAddIndex, if_pos (show (s : Int) > 0 by omega), indexAdvance, rdbxInit,
      Int.toNat_natCast]
    omega

/-! ## What the window remembers -/

/-- The bit that `rdbx_check` looks at for the index `x` is set, unless `x` is older than the window. -/
def Rdbx.Holds (r : Rdbx) (x : Nat) : Prop :=
  x ≤ r.index ∧ (r.index - x ≤ 127 → r.bitmask.getBit (127 - (r.index - x)) = true)

theorem Rdbx.Holds.refused {r : Rdbx} {x : Nat} (h : r.Holds x) {delta : Int}
    (hx : (x : Int) = r.index + delta) : rdbxCheck r delta ≠ .ok := by
  have hhigh : rdbxHighBitInBitmask = 127 := rfl
  obtain ⟨hle, hbit⟩ := h
  rw [rdbxCheck, if_neg (by omega)]
  by_cases hold : (rdbxHighBitInBitmask : Int) + delta < 0
  · rw [if_pos hold]
    decide
  · have hplace : (rdbxHighBitInBitmask + delta).toNat = 127 - (r.index - x) := by omega
    rw [if_neg hold, hplace, hbit (by omega), if_pos rfl]
    decide

theorem rdbxAddIndex_forward {r : Rdbx} {delta : Int} (hpos : 0 < delta) (hlt : delta < 2 ^ 16)
    (hroom : r.index + delta < 2 ^ 64) : ((rdbxAddIndex r delta).index : Int) = r.index + delta := by
  rw [rdbxAddIndex, if_pos hpos]
  simp only [indexAdvance]
  omega

theorem rdbxAddIndex_holds_new {r : Rdbx} {delta : Int} (hpos : 0 < delta) {x : Nat}
    (hx : (rdbxAddIndex r delta).index = x) : (rdbxAddIndex r delta).Holds x := by
  refine ⟨by omega, fun _ => ?_⟩
  rw [show 127 - ((rdbxAddIndex r delta).index - x) = 127 by omega, rdbxAddIndex, if_pos hpos,
    V128.getBit_setBit _ (by decide) (by decide), decide_eq_true rfl, Bool.true_or]

/-- The shift takes the bit of an older index to where it is looked for from now on. -/
theorem rdbxAddIndex_holds {r : Rdbx} {delta : Int} (hpos : 0 < delta) (hlt : delta < 2 ^ 16)
    (hroom : r.index + delta < 2 ^ 64) {x : Nat} (h : r.Holds x) : (rdbxAddIndex r delta).Holds x := by
  have hindex := rdbxAddIndex_forward hpos hlt hroom
  obtain ⟨hle, hbit⟩ := h
  refine ⟨by omega, fun hwin => ?_⟩
  have hold := hbit (by omega)
  have hmoved : 127 - ((rdbxAddIndex r delta).index - x) + delta.toNat = 127 - (r.index - x) := by omega
  have hplace : 127 - (r.index - x) < 128 := by omega
  generalize 127 - ((rdbxAddIndex r delta).index - x) = j at hmoved ⊢
  rw [rdbxAddIndex, if_pos hpos, V128.getBit_setBit _ (by decide) (by omega),
    V128.getBit_leftShift _ (by omega) (by omega), hmoved, hold, decide_eq_true hplace, Bool.true_and,
    Bool.or_true]

/-- The bit that is set for an index that is not new is never the one that is looked at. -/
theorem rdbxCheck_late_again {r : Rdbx} {delta : Int} (hd : delta ≤ 0) (h : rdbxCheck r delta = .ok) :
    rdbxCheck (rdbxAddIndex r delta) delta = .ok := by
  have hhigh : rdbxHighBitInBitmask = 127 := rfl
  rw [rdbxCheck, if_neg (by omega)] at h ⊢
  by_cases hold : (rdbxHighBitInBitmask : Int) + delta < 0
  · rw [if_pos hold] at h
    cases h
  · have hother : (rdbxHighBitInBitmask + delta).toNat ≠ (-delta).toNat := by omega
    rw [if_neg hold] at h ⊢
    rw [rdbxAddIndex, if_neg (show ¬ delta > 0 by omega), V128.getBit_setBit _ (by omega) (by omega),
      decide_eq_false hother, Bool.false_or]
    exact h

end Native
end OnionPhone
