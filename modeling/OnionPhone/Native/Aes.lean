import OnionPhone.Native.AesTables

/-!
# OnionPhone.Native.Aes

libsrtp's AES (`crypto/cipher/aes.c`) as it is built: `CPU_CISC`, little-endian. A round is four entries
of the tables for each column, the last round works on the octets in place, and the inverse cipher has
its own round keys.

* `aesEncrypt_state`: the cipher is the one of the standard, under the key schedule of the standard.
* `aesDecrypt_state`: the inverse cipher is the one of the standard.
-/

namespace OnionPhone
namespace Native

open Wire Wire.Aes

/-! ## `v128_t` as octets -/

def octet (w : BitVec 32) (k : Nat) : Byte := w.extractLsb' (8 * k) 8

def setOctet (w : BitVec 32) (k : Nat) (b : Byte) : BitVec 32 :=
  match k with
  | 0 => word b (octet w 1) (octet w 2) (octet w 3)
  | 1 => word (octet w 0) b (octet w 2) (octet w 3)
  | 2 => word (octet w 0) (octet w 1) b (octet w 3)
  | _ => word (octet w 0) (octet w 1) (octet w 2) b

namespace V128

/-- `x->v8[i]` -/
def v8 (x : V128) (i : Nat) : Byte := octet (x.v32 (i / 4)) (i % 4)

def setV8 (x : V128) (i : Nat) (b : Byte) : V128 :=
  x.setV32 (i / 4) (setOctet (x.v32 (i / 4)) (i % 4) b)

/-- `v128_xor`, and `v128_xor_eq` with the result in its first argument. -/
def xor (x y : V128) : V128 := ⟨x.w0 ^^^ y.w0, x.w1 ^^^ y.w1, x.w2 ^^^ y.w2, x.w3 ^^^ y.w3⟩

end V128

/-! ## The cipher -/

/-- `aes_expanded_key_t`, eleven round keys. -/
abbrev AesExpandedKey := List V128

/-- `exp_key + i` -/
def expKey (k : AesExpandedKey) (i : Nat) : V128 := k.getD i V128.zero

def gf28Shift (z : Byte) : Byte := if z &&& 128#8 ≠ 0#8 then (z <<< 1) ^^^ 0x1b#8 else z <<< 1

/-- The body of the loop over the round keys. -/
def nextRoundKey (rc : Byte) (k : V128) : V128 :=
  let w0 := word (look8 aesSbox (k.v8 13) ^^^ rc) (look8 aesSbox (k.v8 14)) (look8 aesSbox (k.v8 15))
    (look8 aesSbox (k.v8 12)) ^^^ k.v32 0
  let w1 := w0 ^^^ k.v32 1
  let w2 := w1 ^^^ k.v32 2
  let w3 := w2 ^^^ k.v32 3
  ⟨w0, w1, w2, w3⟩

def expandLoop : Nat → Byte → V128 → AesExpandedKey
  | 0, _, _ => []
  | n + 1, rc, k => nextRoundKey rc k :: expandLoop n (gf28Shift rc) (nextRoundKey rc k)

def aesExpandEncryptionKey (key : V128) : AesExpandedKey := key :: expandLoop 10 1#8 key

def aesRound (state roundKey : V128) : V128 :=
  let column0 := look T0 (state.v8 0) ^^^ look T1 (state.v8 5) ^^^ look T2 (state.v8 10) ^^^
    look T3 (state.v8 15)
  let column1 := look T0 (state.v8 4) ^^^ look T1 (state.v8 9) ^^^ look T2 (state.v8 14) ^^^
    look T3 (state.v8 3)
  let column2 := look T0 (state.v8 8) ^^^ look T1 (state.v8 13) ^^^ look T2 (state.v8 2) ^^^
    look T3 (state.v8 7)
  let column3 := look T0 (state.v8 12) ^^^ look T1 (state.v8 1) ^^^ look T2 (state.v8 6) ^^^
    look T3 (state.v8 11)
  ⟨column0 ^^^ roundKey.v32 0, column1 ^^^ roundKey.v32 1, column2 ^^^ roundKey.v32 2,
    column3 ^^^ roundKey.v32 3⟩

def aesFinalRound (state roundKey : V128) : V128 :=
  let s := fun (x : V128) (i : Nat) => look8 aesSbox (x.v8 i)
  let x := state
  let x := x.setV8 0 (s x 0)
  let x := x.setV8 4 (s x 4)
  let x := x.setV8 8 (s x 8)
  let x := x.setV8 12 (s x 12)
  let tmp := s x 1
  let x := x.setV8 1 (s x 5)
  let x := x.setV8 5 (s x 9)
  let x := x.setV8 9 (s x 13)
  let x := x.setV8 13 tmp
  let tmp := s x 10
  let x := x.setV8 10 (s x 2)
  let x := x.setV8 2 tmp
  let tmp := s x 14
  let x := x.setV8 14 (s x 6)
  let x := x.setV8 6 tmp
  let tmp := s x 15
  let x := x.setV8 15 (s x 11)
  let x := x.setV8 11 (s x 7)
  let x := x.setV8 7 (s x 3)
  let x := x.setV8 3 tmp
  x.xor roundKey

def aesEncrypt (plaintext : V128) (k : AesExpandedKey) : V128 :=
  let x := plaintext.xor (expKey k 0)
  let x := aesRound x (expKey k 1)
  let x := aesRound x (expKey k 2)
  let x := aesRound x (expKey k 3)
  let x := aesRound x (expKey k 4)
  let x := aesRound x (expKey k 5)
  let x := aesRound x (expKey k 6)
  let x := aesRound x (expKey k 7)
  let x := aesRound x (expKey k 8)
  let x := aesRound x (expKey k 9)
  aesFinalRound x (expKey k 10)

/-! ## The inverse cipher -/

/-- `mixColumn` undone on a word of a round key: the substitution in front of the tables cancels the one
in them. -/
def invMixWord (k : V128) (c : Nat) : BitVec 32 :=
  look U0 (look8 aesSbox (k.v8 (4 * c))) ^^^ look U1 (look8 aesSbox (k.v8 (4 * c + 1))) ^^^
    look U2 (look8 aesSbox (k.v8 (4 * c + 2))) ^^^ look U3 (look8 aesSbox (k.v8 (4 * c + 3)))

def invMixKey (k : V128) : V128 := ⟨invMixWord k 0, invMixWord k 1, invMixWord k 2, invMixWord k 3⟩

/-- The two loops over the round keys: invert their order, and apply the inverse of `mixColumn` to all but
the first and the last. -/
def invertKeys (k : AesExpandedKey) : AesExpandedKey :=
  let swapped := (List.range 5).foldl
    (fun k i => (k.set (10 - i) (expKey k i)).set i (expKey k (10 - i))) k
  (List.range' 1 9).foldl (fun k i => k.set i (invMixKey (expKey k i))) swapped

def aesExpandDecryptionKey (key : V128) : AesExpandedKey := invertKeys (aesExpandEncryptionKey key)

def aesInvRound (state roundKey : V128) : V128 :=
  let column0 := look U0 (state.v8 0) ^^^ look U1 (state.v8 13) ^^^ look U2 (state.v8 10) ^^^
    look U3 (state.v8 7)
  let column1 := look U0 (state.v8 4) ^^^ look U1 (state.v8 1) ^^^ look U2 (state.v8 14) ^^^
    look U3 (state.v8 11)
  let column2 := look U0 (state.v8 8) ^^^ look U1 (state.v8 5) ^^^ look U2 (state.v8 2) ^^^
    look U3 (state.v8 15)
  let column3 := look U0 (state.v8 12) ^^^ look U1 (state.v8 9) ^^^ look U2 (state.v8 6) ^^^
    look U3 (state.v8 3)
  ⟨column0 ^^^ roundKey.v32 0, column1 ^^^ roundKey.v32 1, column2 ^^^ roundKey.v32 2,
    column3 ^^^ roundKey.v32 3⟩

def aesInvFinalRound (state roundKey : V128) : V128 :=
  let s := fun (x : V128) (i : Nat) => look8 aesInvSbox (x.v8 i)
  let x := state
  let x := x.setV8 0 (s x 0)
  let x := x.setV8 4 (s x 4)
  let x := x.setV8 8 (s x 8)
  let x := x.setV8 12 (s x 12)
  let tmp := s x 13
  let x := x.setV8 13 (s x 9)
  let x := x.setV8 9 (s x 5)
  let x := x.setV8 5 (s x 1)
  let x := x.setV8 1 tmp
  let tmp := s x 2
  let x := x.setV8 2 (s x 10)
  let x := x.setV8 10 tmp
  let tmp := s x 6
  let x := x.setV8 6 (s x 14)
  let x := x.setV8 14 tmp
  let tmp := s x 3
  let x := x.setV8 3 (s x 7)
  let x := x.setV8 7 (s x 11)
  let x := x.setV8 11 (s x 15)
  let x := x.setV8 15 tmp
  x.xor roundKey

def aesDecrypt (plaintext : V128) (k : AesExpandedKey) : V128 :=
  let x := plaintext.xor (expKey k 0)
  let x := aesInvRound x (expKey k 1)
  let x := aesInvRound x (expKey k 2)
  let x := aesInvRound x (expKey k 3)
  let x := aesInvRound x (expKey k 4)
  let x := aesInvRound x (expKey k 5)
  let x := aesInvRound x (expKey k 6)
  let x := aesInvRound x (expKey k 7)
  let x := aesInvRound x (expKey k 8)
  let x := aesInvRound x (expKey k 9)
  aesInvFinalRound x (expKey k 10)

/-! ## Octets of words -/

theorem octet_xor (v w : BitVec 32) (k : Nat) : octet (v ^^^ w) k = octet v k ^^^ octet w k := by
  apply BitVec.eq_of_getLsbD_eq
  intro i hi
  simp [octet, hi]

theorem octet_word (b0 b1 b2 b3 : Byte) :
    octet (word b0 b1 b2 b3) 0 = b0 ∧ octet (word b0 b1 b2 b3) 1 = b1 ∧
      octet (word b0 b1 b2 b3) 2 = b2 ∧ octet (word b0 b1 b2 b3) 3 = b3 := by
  refine ⟨?_, ?_, ?_, ?_⟩ <;>
  · apply BitVec.eq_of_getLsbD_eq
    intro i hi
    have h8 : i < 8 := hi
    simp only [octet, word, BitVec.getLsbD_extractLsb', BitVec.getLsbD_append, hi, decide_true, Bool.true_and]
    grind

@[simp] theorem octet_word_zero (b0 b1 b2 b3 : Byte) : octet (word b0 b1 b2 b3) 0 = b0 :=
  (octet_word b0 b1 b2 b3).1

@[simp] theorem octet_word_one (b0 b1 b2 b3 : Byte) : octet (word b0 b1 b2 b3) 1 = b1 :=
  (octet_word b0 b1 b2 b3).2.1

@[simp] theorem octet_word_two (b0 b1 b2 b3 : Byte) : octet (word b0 b1 b2 b3) 2 = b2 :=
  (octet_word b0 b1 b2 b3).2.2.1

@[simp] theorem octet_word_three (b0 b1 b2 b3 : Byte) : octet (word b0 b1 b2 b3) 3 = b3 :=
  (octet_word b0 b1 b2 b3).2.2.2

theorem octet_setOctet (w : BitVec 32) {k q : Nat} (hk : k < 4) (hq : q < 4) (b : Byte) :
    octet (setOctet w k b) q = if k = q then b else octet w q := by
  interval_cases k <;> interval_cases q <;> simp [setOctet]

theorem word_ext {v w : BitVec 32} (h : ∀ k, k < 4 → octet v k = octet w k) : v = w := by
  apply BitVec.eq_of_getLsbD_eq
  intro i hi
  have hk := congrArg (·.getLsbD (i % 8)) (h (i / 8) (by omega))
  have hm : i % 8 < 8 := Nat.mod_lt _ (by decide)
  simp only [octet, BitVec.getLsbD_extractLsb', hm, decide_true, Bool.true_and, Nat.div_add_mod] at hk
  exact hk

/-! ## The rounds -/

/-- The square of octets that a block is in the standard. -/
def V128.state (x : V128) : State := fun r c => x.v8 (r + 4 * c)

theorem state_apply (x : V128) (r c : Fin 4) : x.state r c = octet (x.v32 c) r := by
  have hc : (r.val + 4 * c.val) / 4 = c := by omega
  have hr : (r.val + 4 * c.val) % 4 = r := by omega
  rw [V128.state, V128.v8, hc, hr]

theorem state_xor (x y : V128) : (x.xor y).state = addRoundKey x.state y.state := by
  funext r c
  rw [addRoundKey, state_apply, state_apply, state_apply, ← octet_xor]
  fin_cases c <;> rfl

theorem v32_setV32 (x : V128) {i j : Nat} (hi : i < 4) (hj : j < 4) (w : BitVec 32) :
    (x.setV32 i w).v32 j = if i = j then w else x.v32 j := by
  interval_cases i <;> interval_cases j <;> rfl

theorem v8_setV8 (x : V128) {i j : Nat} (hi : i < 16) (hj : j < 16) (b : Byte) :
    (x.setV8 i b).v8 j = if i = j then b else x.v8 j := by
  unfold V128.setV8 V128.v8
  rw [v32_setV32 x (by omega) (by omega)]
  by_cases hw : i / 4 = j / 4
  · rw [if_pos hw, octet_setOctet _ (Nat.mod_lt _ (by decide)) (Nat.mod_lt _ (by decide)), hw]
    exact if_congr (by omega) rfl rfl
  · rw [if_neg hw, if_neg (by rintro rfl; exact hw rfl)]

theorem state_injective {x y : V128} (h : x.state = y.state) : x = y := by
  have hw : ∀ c : Fin 4, x.v32 c = y.v32 c := by
    intro c
    apply word_ext
    intro k hk
    have hkc := congrFun (congrFun h ⟨k, hk⟩) c
    rwa [state_apply, state_apply] at hkc
  cases x
  cases y
  simpa [V128.v32] using And.intro (hw 0) (And.intro (hw 1) (And.intro (hw 2) (hw 3)))

theorem aesRound_state (x k : V128) : (aesRound x k).state = cipherRound sboxes x.state k.state := by
  funext r c
  fin_cases c <;> fin_cases r <;>
    simp [state_apply, V128.v8, V128.v32, aesRound, octet_xor, look_T0, look_T1, look_T2, look_T3,
      cipherRound, addRoundKey, mixColumns, shiftRows, subBytes] <;>
    ac_rfl

theorem aesFinalRound_state (x k : V128) : (aesFinalRound x k).state = finalRound sboxes x.state k.state := by
  unfold aesFinalRound
  rw [state_xor, finalRound]
  congr 1
  funext r c
  fin_cases c <;> fin_cases r <;>
    simp [V128.state, v8_setV8, shiftRows, subBytes, sboxes]

theorem aesInvRound_state (x k : V128) : (aesInvRound x k).state =
    addRoundKey (invMixColumns (invSubBytes sboxes (invShiftRows x.state))) k.state := by
  funext r c
  fin_cases c <;> fin_cases r <;>
    simp [state_apply, V128.v8, V128.v32, aesInvRound, octet_xor, look_U0, look_U1, look_U2, look_U3,
      addRoundKey, invMixColumns, invShiftRows, invSubBytes] <;>
    ac_rfl

theorem aesInvFinalRound_state (x k : V128) : (aesInvFinalRound x k).state =
    addRoundKey (invSubBytes sboxes (invShiftRows x.state)) k.state := by
  unfold aesInvFinalRound
  rw [state_xor]
  congr 1
  funext r c
  fin_cases c <;> fin_cases r <;>
    simp [V128.state, v8_setV8, invShiftRows, invSubBytes, sboxes] <;>
    rfl

/-! ## The key schedule -/

theorem gf28Shift_eq : ∀ z : Byte, gf28Shift z = xtime z := by decide +kernel

theorem keyWord_ge (key : State) {i : Nat} (hi : 4 ≤ i) (hm : i % 4 ≠ 0) (r : Fin 4) :
    keyWord sboxes key i r = keyWord sboxes key (i - 4) r ^^^ keyWord sboxes key (i - 1) r := by
  rw [keyWord, dif_neg (by omega)]
  simp only [if_neg hm]

theorem keyWord_first (key : State) (n : Nat) (r : Fin 4) :
    keyWord sboxes key (4 * (n + 1)) r = keyWord sboxes key (4 * n) r ^^^
      (sboxes.sub (keyWord sboxes key (4 * n + 3) (r + 1)) ^^^ rcon (n + 1) r) := by
  rw [keyWord, dif_neg (by omega)]
  have h1 : 4 * (n + 1) % 4 = 0 := by omega
  have h2 : 4 * (n + 1) / 4 = n + 1 := by omega
  have h3 : 4 * (n + 1) - 1 = 4 * n + 3 := by omega
  have h4 : 4 * (n + 1) - 4 = 4 * n := by omega
  simp only [h1, h2, h3, h4, if_true, subWord, rotWord]

theorem keyWord_next (key : State) (n : Nat) {c : Nat} (hc : c + 1 < 4) (r : Fin 4) :
    keyWord sboxes key (4 * (n + 1) + (c + 1)) r =
      keyWord sboxes key (4 * (n + 1) + c) r ^^^ keyWord sboxes key (4 * n + (c + 1)) r := by
  have h4 : 4 * (n + 1) + (c + 1) - 4 = 4 * n + (c + 1) := by omega
  have h1 : 4 * (n + 1) + (c + 1) - 1 = 4 * (n + 1) + c := by omega
  rw [keyWord_ge key (by omega) (by omega), h4, h1, BitVec.xor_comm]

theorem nextRoundKey_word (rc : Byte) (k : V128) {c : Nat} (hc : c + 1 < 4) :
    (nextRoundKey rc k).v32 (c + 1) = (nextRoundKey rc k).v32 c ^^^ k.v32 (c + 1) := by
  have hc3 : c < 3 := by omega
  interval_cases c <;> rfl

theorem nextRoundKey_state {key : State} {n : Nat} {k : V128} (h : k.state = roundKey sboxes key n) :
    (nextRoundKey (xtime^[n] 1#8) k).state = roundKey sboxes key (n + 1) := by
  have hold : ∀ (r : Fin 4) {c : Nat} (_ : c < 4), octet (k.v32 c) r = keyWord sboxes key (4 * n + c) r := by
    intro r c hc
    have hrc := congrFun (congrFun h r) ⟨c, hc⟩
    rwa [state_apply, roundKey] at hrc
  -- the first word is made with the substitution, each of the others of the one before it
  have hnew : ∀ (r : Fin 4) (c : Nat), c < 4 → octet ((nextRoundKey (xtime^[n] 1#8) k).v32 c) r =
      keyWord sboxes key (4 * (n + 1) + c) r := by
    intro r c
    induction c with
    | zero =>
      intro _
      have hk0 : octet (k.v32 0) r = keyWord sboxes key (4 * n) r := hold r (by decide)
      rw [Nat.add_zero, keyWord_first, ← hk0, ← hold (r + 1) (by decide)]
      fin_cases r <;>
        simp [nextRoundKey, V128.v32, V128.v8, octet_xor, rcon, sboxes] <;> ac_rfl
    | succ c ih =>
      intro hc
      rw [keyWord_next key n hc, ← hold r hc, ← ih (by omega), nextRoundKey_word _ _ hc, octet_xor]
  funext r c
  rw [state_apply, roundKey]
  exact hnew r c c.isLt

theorem expandLoop_state {key : State} :
    ∀ {m n : Nat} {k : V128}, k.state = roundKey sboxes key n →
      ∀ i, i < m → (expKey (expandLoop m (xtime^[n] 1#8) k) i).state = roundKey sboxes key (n + 1 + i) := by
  intro m
  induction m with
  | zero =>
    intro n k _ i hi
    exact absurd hi (Nat.not_lt_zero i)
  | succ m ih =>
    intro n k h i hi
    have hnext := nextRoundKey_state h
    cases i with
    | zero => exact hnext
    | succ i =>
      have hrc : gf28Shift (xtime^[n] 1#8) = xtime^[n + 1] 1#8 := by
        rw [gf28Shift_eq, Function.iterate_succ_apply']
      have hi' := ih hnext i (by omega)
      rw [← hrc] at hi'
      rw [show n + 1 + (i + 1) = n + 1 + 1 + i by omega]
      exact hi'

theorem aesExpandEncryptionKey_state (key : V128) {n : Nat} (hn : n ≤ 10) :
    (expKey (aesExpandEncryptionKey key) n).state = roundKey sboxes key.state n := by
  have h0 : key.state = roundKey sboxes key.state 0 := by
    funext r c
    rw [roundKey, keyWord, dif_pos (by omega)]
    simp
  cases n with
  | zero => exact h0
  | succ n =>
    have h := expandLoop_state (m := 10) h0 n (by omega)
    rwa [show 0 + 1 + n = n + 1 by omega] at h

theorem aesEncrypt_state (x key : V128) :
    (aesEncrypt x (aesExpandEncryptionKey key)).state = cipher sboxes (roundKey sboxes key.state) x.state := by
  have hk := fun n hn => aesExpandEncryptionKey_state key (n := n) hn
  unfold aesEncrypt
  simp only [aesFinalRound_state, aesRound_state, state_xor]
  rw [hk 0 (by decide), hk 1 (by decide), hk 2 (by decide), hk 3 (by decide), hk 4 (by decide),
    hk 5 (by decide), hk 6 (by decide), hk 7 (by decide), hk 8 (by decide), hk 9 (by decide),
    hk 10 (by decide)]
  rfl

/-! ## The inverse key schedule -/

theorem invMixKey_state (k : V128) : (invMixKey k).state = invMixColumns k.state := by
  have hsub : ∀ b : Byte, sboxes.inv (look8 aesSbox b) = b := sboxes.inv_sub
  funext r c
  fin_cases c <;> fin_cases r <;>
    simp [state_apply, V128.v8, V128.v32, invMixKey, invMixWord, octet_xor, look_U0, look_U1, look_U2,
      look_U3, hsub, invMixColumns] <;>
    ac_rfl

theorem expKey_invertKeys {k : AesExpandedKey} (hk : k.length = 11) {i : Nat} (hi : i ≤ 10) :
    expKey (invertKeys k) i =
      if i = 0 ∨ i = 10 then expKey k (10 - i) else invMixKey (expKey k (10 - i)) := by
  match k, hk with
  | [a0, a1, a2, a3, a4, a5, a6, a7, a8, a9, a10], _ =>
    interval_cases i <;> simp [invertKeys, expKey, List.range_succ, List.range'_succ]

theorem aesExpandDecryptionKey_state (key : V128) {i : Nat} (hi : i ≤ 10) :
    (expKey (aesExpandDecryptionKey key) i).state =
      if i = 0 ∨ i = 10 then roundKey sboxes key.state (10 - i)
      else invMixColumns (roundKey sboxes key.state (10 - i)) := by
  have hk := aesExpandEncryptionKey_state key (n := 10 - i) (by omega)
  rw [aesExpandDecryptionKey, expKey_invertKeys rfl hi]
  split
  · exact hk
  · rw [invMixKey_state, hk]

/-- Decryption is the inverse cipher of the standard, in its equivalent form: since the round keys are
mixed, they can be added after the mixing and not before it. -/
theorem aesDecrypt_state (x key : V128) :
    (aesDecrypt x (aesExpandDecryptionKey key)).state =
      invCipher sboxes (roundKey sboxes key.state) x.state := by
  have hd := fun n hn => aesExpandDecryptionKey_state key (i := n) hn
  unfold aesDecrypt
  simp only [aesInvFinalRound_state, aesInvRound_state, state_xor]
  rw [hd 0 (by decide), hd 1 (by decide), hd 2 (by decide), hd 3 (by decide), hd 4 (by decide),
    hd 5 (by decide), hd 6 (by decide), hd 7 (by decide), hd 8 (by decide), hd 9 (by decide),
    hd 10 (by decide)]
  simp only [Nat.reduceEqDiff, or_self, or_true, true_or, if_true, if_false, Nat.reduceSub,
    OfNat.ofNat_ne_zero, one_ne_zero, ← invMixColumns_addRoundKey]
  rfl

theorem aesDecrypt_aesEncrypt (x key : V128) :
    aesDecrypt (aesEncrypt x (aesExpandEncryptionKey key)) (aesExpandDecryptionKey key) = x := by
  apply state_injective
  rw [aesDecrypt_state, aesEncrypt_state, invCipher_cipher]

instance : Finite V128 :=
  Finite.of_injective V128.state fun _ _ => state_injective

/-- For every key and block both directions are those of the standard, and each undoes the other. -/
theorem aes_standard (key x : V128) :
    (aesEncrypt x (aesExpandEncryptionKey key)).state = cipher sboxes (roundKey sboxes key.state) x.state ∧
      (aesDecrypt x (aesExpandDecryptionKey key)).state =
        invCipher sboxes (roundKey sboxes key.state) x.state ∧
      aesDecrypt (aesEncrypt x (aesExpandEncryptionKey key)) (aesExpandDecryptionKey key) = x ∧
      aesEncrypt (aesDecrypt x (aesExpandDecryptionKey key)) (aesExpandEncryptionKey key) = x := by
  have hleft : Function.LeftInverse (aesDecrypt · (aesExpandDecryptionKey key))
      (aesEncrypt · (aesExpandEncryptionKey key)) := fun y => aesDecrypt_aesEncrypt y key
  -- on finitely many blocks a left inverse is an inverse
  have hright := hleft.rightInverse_of_surjective (Finite.surjective_of_injective hleft.injective)
  exact ⟨aesEncrypt_state x key, aesDecrypt_state x key, hleft x, hright x⟩

end Native
end OnionPhone
