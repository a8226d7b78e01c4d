import Mathlib

/-!
# Lib.Aes

The block cipher of FIPS 197 with a key of 128 bits, as the standard has it: the field `GF(2^8)`, the
state as a square of four by four octets, the key schedule as words, the cipher and its inverse.

* `Sbox`: a substitution of octets that is the one of the standard, with its inverse.
* `gmul_xor`: multiplication is additive, so every statement about a column is one about single octets.
* `invCipher_cipher`: the inverse cipher undoes the cipher, whatever the round keys are.
-/

namespace Wire
namespace Aes

abbrev Byte := BitVec 8

/-! ## The field -/

/-- Multiplication by `x` modulo `x^8 + x^4 + x^3 + x + 1`. -/
def xtime (b : Byte) : Byte := (b <<< 1) ^^^ (if b.msb then 0x1b#8 else 0#8)

/-- The part of a product that comes from bit `i` of the first factor. -/
def gmulTerm (c b : Byte) (i : Nat) : Byte := if c.getLsbD i then xtime^[i] b else 0#8

def gmul (c b : Byte) : Byte := (List.range 8).foldl (fun acc i => acc ^^^ gmulTerm c b i) 0#8

def affine (b : Byte) : Byte :=
  b ^^^ b.rotateLeft 1 ^^^ b.rotateLeft 2 ^^^ b.rotateLeft 3 ^^^ b.rotateLeft 4 ^^^ 0x63#8

/-- The substitution of the standard: the inverse in the field, or zero for zero, and then `affine`. -/
structure Sbox where
  sub : Byte → Byte
  inv : Byte → Byte
  zero : sub 0#8 = affine 0#8
  inverse : ∀ b, b ≠ 0#8 → ∃ c, gmul b c = 1#8 ∧ sub b = affine c
  inv_sub : ∀ b, inv (sub b) = b

theorem xor_xor_cancel (a b c : Byte) : a ^^^ c ^^^ (b ^^^ c) = a ^^^ b := by
  calc a ^^^ c ^^^ (b ^^^ c) = a ^^^ b ^^^ (c ^^^ c) := by ac_rfl
    _ = a ^^^ b := by rw [BitVec.xor_self, BitVec.xor_zero]

theorem xtime_xor (a b : Byte) : xtime (a ^^^ b) = xtime a ^^^ xtime b := by
  unfold xtime
  rw [BitVec.shiftLeft_xor_distrib, BitVec.msb_xor]
  cases a.msb <;> cases b.msb
  · simp
  · simp [BitVec.xor_assoc]
  · simp only [Bool.true_xor, Bool.not_false, if_true, Bool.false_eq_true, if_false, BitVec.xor_zero]
    ac_rfl
  · simp only [Bool.true_xor, Bool.not_true, if_true, Bool.false_eq_true, if_false, BitVec.xor_zero]
    exact (xor_xor_cancel _ _ _).symm

theorem xtime_iterate_xor (n : Nat) (a b : Byte) : xtime^[n] (a ^^^ b) = xtime^[n] a ^^^ xtime^[n] b := by
  induction n generalizing a b with
  | zero => rfl
  | succ n ih => rw [Function.iterate_succ_apply, xtime_xor, ih]; rfl

theorem gmulTerm_xor (c a b : Byte) (i : Nat) :
    gmulTerm c (a ^^^ b) i = gmulTerm c a i ^^^ gmulTerm c b i := by
  unfold gmulTerm
  split
  · exact xtime_iterate_xor i a b
  · rw [BitVec.xor_zero]

theorem gmul_xor (c a b : Byte) : gmul c (a ^^^ b) = gmul c a ^^^ gmul c b := by
  have hfold : ∀ (l : List Nat) (u v : Byte),
      l.foldl (fun acc i => acc ^^^ gmulTerm c (a ^^^ b) i) (u ^^^ v) =
        l.foldl (fun acc i => acc ^^^ gmulTerm c a i) u ^^^
          l.foldl (fun acc i => acc ^^^ gmulTerm c b i) v := by
    intro l
    induction l with
    | nil => intro u v; rfl
    | cons i l ih =>
      intro u v
      rw [List.foldl_cons, List.foldl_cons, List.foldl_cons, ← ih, gmulTerm_xor]
      congr 1
      ac_rfl
  exact hfold (List.range 8) 0#8 0#8

@[simp] theorem xor_cancel_left (a b : Byte) : a ^^^ (a ^^^ b) = b := by
  rw [← BitVec.xor_assoc, BitVec.xor_self, BitVec.zero_xor]

theorem xor_left_comm (a b c : Byte) : a ^^^ (b ^^^ c) = b ^^^ (a ^^^ c) := by ac_rfl

/-! The factors that occur in the cipher. -/

theorem gmul_two (b : Byte) : gmul 2 b = xtime b := by simp [gmul, gmulTerm, List.range_succ]

theorem gmul_three (b : Byte) : gmul 3 b = b ^^^ xtime b := by simp [gmul, gmulTerm, List.range_succ]

theorem gmul_nine (b : Byte) : gmul 9 b = b ^^^ xtime (xtime (xtime b)) := by
  simp [gmul, gmulTerm, List.range_succ]

theorem gmul_eleven (b : Byte) : gmul 11 b = b ^^^ xtime b ^^^ xtime (xtime (xtime b)) := by
  simp [gmul, gmulTerm, List.range_succ]

theorem gmul_thirteen (b : Byte) : gmul 13 b = b ^^^ xtime (xtime b) ^^^ xtime (xtime (xtime b)) := by
  simp [gmul, gmulTerm, List.range_succ]

theorem gmul_fourteen (b : Byte) :
    gmul 14 b = xtime b ^^^ xtime (xtime b) ^^^ xtime (xtime (xtime b)) := by
  simp [gmul, gmulTerm, List.range_succ]

/-! ## The state -/

/-- Row and column. -/
abbrev State := Fin 4 → Fin 4 → Byte

/-- Octet number `i`, one column after the other. -/
def stateOctet (s : State) (i : Nat) : Byte := s (Fin.ofNat 4 i) (Fin.ofNat 4 (i / 4))

variable (S : Sbox)

def subBytes (s : State) : State := fun r c => S.sub (s r c)

def shiftRows (s : State) : State := fun r c => s r (c + r)

def mixColumns (s : State) : State := fun r c =>
  gmul 2 (s r c) ^^^ gmul 3 (s (r + 1) c) ^^^ s (r + 2) c ^^^ s (r + 3) c

def addRoundKey (s k : State) : State := fun r c => s r c ^^^ k r c

def invSubBytes (s : State) : State := fun r c => S.inv (s r c)

def invShiftRows (s : State) : State := fun r c => s r (c - r)

def invMixColumns (s : State) : State := fun r c =>
  gmul 14 (s r c) ^^^ gmul 11 (s (r + 1) c) ^^^ gmul 13 (s (r + 2) c) ^^^ gmul 9 (s (r + 3) c)

theorem invSubBytes_subBytes (s : State) : invSubBytes S (subBytes S s) = s := by
  funext r c
  exact S.inv_sub (s r c)

theorem invShiftRows_shiftRows (s : State) : invShiftRows (shiftRows s) = s := by
  funext r c
  simp [invShiftRows, shiftRows]

theorem addRoundKey_twice (s k : State) : addRoundKey (addRoundKey s k) k = s := by
  funext r c
  simp [addRoundKey]

/-! The matrix of `invMixColumns` times that of `mixColumns`, one octet of the column at a time: as
polynomials, so that nothing has to be reduced. -/

theorem mix_diagonal (a : Byte) :
    gmul 14 (gmul 2 a) ^^^ gmul 11 a ^^^ gmul 13 a ^^^ gmul 9 (gmul 3 a) = a := by
  simp only [gmul_two, gmul_three, gmul_nine, gmul_eleven, gmul_thirteen, gmul_fourteen, xtime_xor]
  simp only [BitVec.xor_comm, xor_left_comm, BitVec.xor_self, BitVec.xor_zero, xor_cancel_left]

theorem mix_first (a : Byte) :
    gmul 14 (gmul 3 a) ^^^ gmul 11 (gmul 2 a) ^^^ gmul 13 a ^^^ gmul 9 a = 0#8 := by
  simp only [gmul_two, gmul_three, gmul_nine, gmul_eleven, gmul_thirteen, gmul_fourteen, xtime_xor]
  simp only [BitVec.xor_comm, xor_left_comm, BitVec.xor_self, BitVec.xor_zero, xor_cancel_left]

theorem mix_second (a : Byte) :
    gmul 14 a ^^^ gmul 11 (gmul 3 a) ^^^ gmul 13 (gmul 2 a) ^^^ gmul 9 a = 0#8 := by
  simp only [gmul_two, gmul_three, gmul_nine, gmul_eleven, gmul_thirteen, gmul_fourteen, xtime_xor]
  simp only [BitVec.xor_comm, xor_left_comm, BitVec.xor_self, BitVec.xor_zero, xor_cancel_left]

theorem mix_third (a : Byte) :
    gmul 14 a ^^^ gmul 11 a ^^^ gmul 13 (gmul 3 a) ^^^ gmul 9 (gmul 2 a) = 0#8 := by
  simp only [gmul_two, gmul_three, gmul_nine, gmul_eleven, gmul_thirteen, gmul_fourteen, xtime_xor]
  simp only [BitVec.xor_comm, xor_left_comm, BitVec.xor_self, BitVec.xor_zero, xor_cancel_left]

theorem invMix_column (a b c d : Byte) :
    gmul 14 (gmul 2 a ^^^ gmul 3 b ^^^ c ^^^ d) ^^^ gmul 11 (gmul 2 b ^^^ gmul 3 c ^^^ d ^^^ a) ^^^
      gmul 13 (gmul 2 c ^^^ gmul 3 d ^^^ a ^^^ b) ^^^ gmul 9 (gmul 2 d ^^^ gmul 3 a ^^^ b ^^^ c) = a := by
  simp only [gmul_xor]
  calc _ = (gmul 14 (gmul 2 a) ^^^ gmul 11 a ^^^ gmul 13 a ^^^ gmul 9 (gmul 3 a)) ^^^
        (gmul 14 (gmul 3 b) ^^^ gmul 11 (gmul 2 b) ^^^ gmul 13 b ^^^ gmul 9 b) ^^^
        (gmul 14 c ^^^ gmul 11 (gmul 3 c) ^^^ gmul 13 (gmul 2 c) ^^^ gmul 9 c) ^^^
        (gmul 14 d ^^^ gmul 11 d ^^^ gmul 13 (gmul 3 d) ^^^ gmul 9 (gmul 2 d)) := by ac_rfl
    _ = a := by
      rw [mix_diagonal, mix_first, mix_second, mix_third, BitVec.xor_zero, BitVec.xor_zero,
        BitVec.xor_zero]

theorem invMixColumns_mixColumns (s : State) : invMixColumns (mixColumns s) = s := by
  funext r c
  have h1 : r + 1 + 1 = r + 2 := by omega
  have h2 : r + 1 + 2 = r + 3 := by omega
  have h3 : r + 1 + 3 = r := by omega
  have h4 : r + 2 + 1 = r + 3 := by omega
  have h5 : r + 2 + 2 = r := by omega
  have h6 : r + 2 + 3 = r + 1 := by omega
  have h7 : r + 3 + 1 = r := by omega
  have h8 : r + 3 + 2 = r + 1 := by omega
  have h9 : r + 3 + 3 = r + 2 := by omega
  simp only [invMixColumns, mixColumns, h1, h2, h3, h4, h5, h6, h7, h8, h9]
  exact invMix_column _ _ _ _

theorem invMixColumns_addRoundKey (s k : State) :
    invMixColumns (addRoundKey s k) = addRoundKey (invMixColumns s) (invMixColumns k) := by
  funext r c
  simp only [invMixColumns, addRoundKey, gmul_xor]
  ac_rfl

/-! ## The key schedule -/

/-- A column of the state. -/
abbrev Word := Fin 4 → Byte

def rotWord (w : Word) : Word := fun r => w (r + 1)

def subWord (w : Word) : Word := fun r => S.sub (w r)

def rcon (i : Nat) : Word := fun r => if r = 0 then xtime^[i - 1] 1 else 0

def keyWord (key : State) (i : Nat) : Word :=
  if h : i < 4 then
    fun r => key r ⟨i, h⟩
  else
    let temp := keyWord key (i - 1)
    let temp := if i % 4 = 0 then fun r => subWord S (rotWord temp) r ^^^ rcon (i / 4) r else temp
    fun r => keyWord key (i - 4) r ^^^ temp r
termination_by i

def roundKey (key : State) (n : Nat) : State := fun r c => keyWord S key (4 * n + c) r

/-! ## The cipher -/

def cipherRound (s k : State) : State := addRoundKey (mixColumns (shiftRows (subBytes S s))) k

def finalRound (s k : State) : State := addRoundKey (shiftRows (subBytes S s)) k

def cipher (k : Nat → State) (s : State) : State :=
  finalRound S ((List.range' 1 9).foldl (fun s i => cipherRound S s (k i)) (addRoundKey s (k 0))) (k 10)

def invRound (s k : State) : State := invSubBytes S (invShiftRows (invMixColumns (addRoundKey s k)))

def invFinalRound (s k : State) : State := invSubBytes S (invShiftRows (addRoundKey s k))

def invCipher (k : Nat → State) (s : State) : State :=
  addRoundKey ((List.range' 1 9).reverse.foldl (fun s i => invRound S s (k i)) (invFinalRound S s (k 10))) (k 0)

theorem invRound_cipherRound (s k : State) : invRound S (cipherRound S s k) k = s := by
  rw [invRound, cipherRound, addRoundKey_twice, invMixColumns_mixColumns, invShiftRows_shiftRows,
    invSubBytes_subBytes]

theorem invFinalRound_finalRound (s k : State) : invFinalRound S (finalRound S s k) k = s := by
  rw [invFinalRound, finalRound, addRoundKey_twice, invShiftRows_shiftRows, invSubBytes_subBytes]

theorem invRounds_rounds (k : Nat → State) (l : List Nat) (s : State) :
    l.reverse.foldl (fun s i => invRound S s (k i)) (l.foldl (fun s i => cipherRound S s (k i)) s) = s := by
  induction l generalizing s with
  | nil => rfl
  | cons i l ih =>
    simp only [List.reverse_cons, List.foldl_append, List.foldl_cons, List.foldl_nil, ih, invRound_cipherRound]

theorem invCipher_cipher (k : Nat → State) (s : State) : invCipher S k (cipher S k s) = s := by
  rw [invCipher, cipher, invFinalRound_finalRound, invRounds_rounds, addRoundKey_twice]

end Aes
end Wire
