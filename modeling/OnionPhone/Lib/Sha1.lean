import OnionPhone.Lib.Octets

/-!
# Lib.Sha1

Hash functions that take their message in blocks, and among them SHA-1 and HMAC as the standards define
them.

* `absorb`: blocks taken in one after the other; `absorb_fill` and `absorb_wait`: what a piece of a message
  does that completes a block or does not.
* `sha1`: padding, schedule, rounds.
* `hmac`: the keyed hash over any hash function.
-/

namespace Wire

open Octets

/-! ## Blocks -/

section

variable {σ : Type} (compress : σ → Octets → σ) (n : Nat)

def absorb : Nat → σ → Octets → σ
  | 0, s, _ => s
  | k + 1, s, bs => absorb k (compress s (bs.take n)) (bs.drop n)

def rest (msg : Octets) : Octets := msg.drop (n * (msg.length / n))

variable {compress n}

theorem absorb_append {k : Nat} {bs : Octets} (h : bs.length = n * k) (m : Nat) (s : σ) (cs : Octets) :
    absorb compress n (k + m) s (bs ++ cs) = absorb compress n m (absorb compress n k s bs) cs := by
  induction k generalizing s bs with
  | zero =>
    have hnil : bs = [] := List.length_eq_zero_iff.1 (by rw [h, Nat.mul_zero])
    rw [hnil, Nat.zero_add, List.nil_append]
    rfl
  | succ k ih =>
    rw [Nat.mul_succ] at h
    rw [Nat.add_right_comm, absorb, absorb, List.take_append_of_le_length (by omega),
      List.drop_append_of_le_length (by omega), ih (by rw [List.length_drop]; omega)]

theorem absorb_take {k : Nat} {bs : Octets} (h : n * k ≤ bs.length) (s : σ) :
    absorb compress n k s bs = absorb compress n k s (bs.take (n * k)) := by
  have happ : absorb compress n (k + 0) s (bs.take (n * k) ++ bs.drop (n * k)) = _ :=
    absorb_append (List.length_take_of_le h) 0 s (bs.drop (n * k))
  rw [List.take_append_drop] at happ
  exact happ

@[simp] theorem rest_length (msg : Octets) : (rest n msg).length = msg.length % n := by
  rw [rest, List.length_drop, Nat.mod_eq_sub_mul_div]

theorem take_append_rest (msg : Octets) : msg.take (n * (msg.length / n)) ++ rest n msg = msg :=
  List.take_append_drop _ _

/-- The blocks of a message that goes on: those that it has, and then those that its rest begins. -/
theorem absorb_more (s : σ) (msg bs : Octets) (k : Nat) :
    absorb compress n (msg.length / n + k) s (msg ++ bs) =
      absorb compress n k (absorb compress n (msg.length / n) s msg) (rest n msg ++ bs) := by
  have hlen : (msg.take (n * (msg.length / n))).length = n * (msg.length / n) :=
    List.length_take_of_le (Nat.mul_div_le _ _)
  have happ : absorb compress n (msg.length / n + k) s (msg.take (n * (msg.length / n)) ++ (rest n msg ++ bs)) =
      _ := absorb_append hlen k s (rest n msg ++ bs)
  rw [← List.append_assoc, take_append_rest] at happ
  rw [happ, ← absorb_take (Nat.mul_div_le _ _)]

theorem absorb_fill (hn : 0 < n) (s : σ) {msg bs : Octets} (h : msg.length % n + bs.length = n) :
    absorb compress n ((msg ++ bs).length / n) s (msg ++ bs) =
        compress (absorb compress n (msg.length / n) s msg) (rest n msg ++ bs) ∧
      rest n (msg ++ bs) = [] := by
  have hdm := Nat.div_add_mod msg.length n
  have hlen : (msg ++ bs).length = n * (msg.length / n + 1) := by
    rw [List.length_append, Nat.mul_succ]
    omega
  have hblocks : (msg ++ bs).length / n = msg.length / n + 1 := by
    rw [hlen, Nat.mul_div_cancel_left _ hn]
  have hfull : (rest n msg ++ bs).length = n := by
    rw [List.length_append, rest_length]
    omega
  constructor
  · rw [hblocks, absorb_more s msg bs 1, absorb, absorb, List.take_of_length_le (by omega)]
  · rw [rest, hblocks, ← hlen, List.drop_length]

theorem absorb_wait (hn : 0 < n) (s : σ) {msg bs : Octets} (h : msg.length % n + bs.length < n) :
    absorb compress n ((msg ++ bs).length / n) s (msg ++ bs) = absorb compress n (msg.length / n) s msg ∧
      rest n (msg ++ bs) = rest n msg ++ bs ∧ (msg ++ bs).length % n = msg.length % n + bs.length := by
  have hdm := Nat.div_add_mod msg.length n
  have hlen : (msg ++ bs).length = n * (msg.length / n) + (msg.length % n + bs.length) := by
    rw [List.length_append]
    omega
  have hblocks : (msg ++ bs).length / n = msg.length / n := by
    rw [hlen, Nat.mul_add_div hn, Nat.div_eq_of_lt h, Nat.add_zero]
  have hle : n * (msg.length / n) ≤ msg.length := Nat.mul_div_le _ _
  refine ⟨?_, ?_, ?_⟩
  · rw [hblocks, absorb_take (by rw [List.length_append]; omega), List.take_append_of_le_length hle,
      ← absorb_take hle]
  · rw [rest, hblocks, List.drop_append_of_le_length hle, rest]
  · rw [hlen, Nat.mul_add_mod, Nat.mod_eq_of_lt h]

end

/-! ## SHA-1 -/

namespace Sha1

abbrev Word := BitVec 32

structure Hash where
  a : Word
  b : Word
  c : Word
  d : Word
  e : Word
  deriving DecidableEq, Repr

def initial : Hash := ⟨0x67452301, 0xefcdab89, 0x98badcfe, 0x10325476, 0xc3d2e1f0⟩

def beWord (b0 b1 b2 b3 : UInt8) : Word := b0.toBitVec ++ b1.toBitVec ++ b2.toBitVec ++ b3.toBitVec

def wordAt (bs : Octets) (i : Nat) : Word :=
  beWord (bs.getD (4 * i) 0) (bs.getD (4 * i + 1) 0) (bs.getD (4 * i + 2) 0) (bs.getD (4 * i + 3) 0)

def logical (t : Nat) (b c d : Word) : Word :=
  if t < 20 then (b &&& c) ||| (~~~b &&& d)
  else if t < 40 then b ^^^ c ^^^ d
  else if t < 60 then (b &&& c) ||| (b &&& d) ||| (c &&& d)
  else b ^^^ c ^^^ d

def constant (t : Nat) : Word :=
  if t < 20 then 0x5a827999
  else if t < 40 then 0x6ed9eba1
  else if t < 60 then 0x8f1bbcdc
  else 0xca62c1d6

def schedule (m : Nat → Word) (t : Nat) : Word :=
  if _h : t < 16 then m t
  else (schedule m (t - 3) ^^^ schedule m (t - 8) ^^^ schedule m (t - 14) ^^^ schedule m (t - 16)).rotateLeft 1
termination_by t

def hashRound (m : Nat → Word) (h : Hash) (t : Nat) : Hash :=
  ⟨h.a.rotateLeft 5 + logical t h.b h.c h.d + h.e + schedule m t + constant t, h.a, h.b.rotateLeft 30, h.c,
    h.d⟩

def Hash.add (h x : Hash) : Hash := ⟨h.a + x.a, h.b + x.b, h.c + x.c, h.d + x.d, h.e + x.e⟩

def compressWords (h : Hash) (m : Nat → Word) : Hash := h.add ((List.range 80).foldl (hashRound m) h)

def compress (h : Hash) (block : Octets) : Hash := compressWords h (wordAt block)

/-- A one, zeros, and the number of bits in eight octets. -/
def padding (len : Nat) : Octets :=
  0x80 :: List.replicate ((119 - len % 64) % 64) 0 ++ be32 (8 * len / 2 ^ 32) ++ be32 (8 * len)

def Word.octets (w : Word) : Octets := be32 w.toNat

def Hash.octets (h : Hash) : Octets :=
  Word.octets h.a ++ Word.octets h.b ++ Word.octets h.c ++ Word.octets h.d ++ Word.octets h.e

def sha1 (msg : Octets) : Octets :=
  let padded := msg ++ padding msg.length
  (absorb compress 64 (padded.length / 64) initial padded).octets

@[simp] theorem octets_length (h : Hash) : h.octets.length = 20 := by
  simp [Hash.octets, Word.octets]

@[simp] theorem sha1_length (msg : Octets) : (sha1 msg).length = 20 := octets_length _

end Sha1

/-! ## HMAC -/

/-- The key in a block of its own: a longer one is hashed. -/
def hmacKey (hash : Octets → Octets) (blockLen : Nat) (key : Octets) : Octets :=
  let key := if key.length ≤ blockLen then key else hash key
  key ++ List.replicate (blockLen - key.length) 0

def hmac (hash : Octets → Octets) (blockLen : Nat) (key text : Octets) : Octets :=
  let k := hmacKey hash blockLen key
  hash (k.map (· ^^^ 0x5c) ++ hash (k.map (· ^^^ 0x36) ++ text))

end Wire
