import OnionPhone.Lib.Octets

/-!
# Lib.Keystream

Keystreams that are made in blocks of `n` octets, one block from each state of a counter.

* `keystream`: octet `i` of the stream that starts at a state.
* `xorBlocks_eq`: whole blocks, one after the other, are the keystream.
* `xorStream_from`: from any position on, what is left of the block there, then whole blocks, then a part
  of one more.
-/

namespace Wire

open Octets

section

variable {σ : Type} (next : σ → σ) (octet : σ → Nat → UInt8) (n : Nat)

def keystream (s : σ) (i : Nat) : UInt8 := octet (next^[i / n] s) (i % n)

def xorBlocks : Nat → σ → Octets → Octets
  | 0, _, _ => []
  | k + 1, s, bs => xorStream (octet s) (bs.take n) ++ xorBlocks k (next s) (bs.drop n)

variable {next octet n}

theorem keystream_block (hn : 0 < n) (s : σ) (k : Nat) {i : Nat} (hi : i < n) :
    keystream next octet n s (n * k + i) = octet (next^[k] s) i := by
  have hdiv : (n * k + i) / n = k := by
    rw [Nat.mul_add_div hn, Nat.div_eq_of_lt hi, Nat.add_zero]
  have hmod : (n * k + i) % n = i := by
    rw [Nat.mul_add_mod, Nat.mod_eq_of_lt hi]
  rw [keystream, hdiv, hmod]

theorem keystream_rest (hn : 0 < n) (s : σ) {pos i : Nat} (h : pos % n + i < n) :
    keystream next octet n s (pos + i) = octet (next^[pos / n] s) (pos % n + i) := by
  have hpi : pos + i = n * (pos / n) + (pos % n + i) := by
    have hdm := Nat.div_add_mod pos n
    omega
  rw [hpi, keystream_block hn s _ h]

theorem keystream_next (hn : 0 < n) (s : σ) (i : Nat) :
    keystream next octet n (next s) i = keystream next octet n s (i + n) := by
  rw [keystream, keystream, Nat.add_div_right i hn, Nat.add_mod_right, Function.iterate_succ_apply]

theorem xorBlocks_eq (hn : 0 < n) {k : Nat} {s : σ} {bs : Octets} (h : n * k ≤ bs.length) :
    xorBlocks next octet n k s bs = xorStream (keystream next octet n s) (bs.take (n * k)) := by
  induction k generalizing s bs with
  | zero => simp [xorBlocks, xorStream]
  | succ k ih =>
    have hlen : n + n * k ≤ bs.length := by rw [Nat.mul_succ] at h; omega
    have htake : (bs.take n).length = n := List.length_take_of_le (by omega)
    have hfirst : xorStream (octet s) (bs.take n) = xorStream (keystream next octet n s) (bs.take n) := by
      refine xorStream_congr fun i hi => ?_
      have hb : keystream next octet n s (n * 0 + i) = octet (next^[0] s) i :=
        keystream_block hn s 0 (by omega)
      rw [Nat.mul_zero, Nat.zero_add] at hb
      rw [hb, Function.iterate_zero, id]
    rw [xorBlocks, ih (by rw [List.length_drop]; omega), hfirst, Nat.mul_succ, Nat.add_comm (n * k) n,
      List.take_add, xorStream_append, htake]
    congr 1
    exact xorStream_congr fun i _ => keystream_next hn s i

theorem xorBlocks_append {k : Nat} {body : Octets} (h : body.length = n * k) (s : σ) (tail : Octets) :
    xorBlocks next octet n k s (body ++ tail) = xorBlocks next octet n k s body := by
  induction k generalizing s body with
  | zero => rfl
  | succ k ih =>
    rw [Nat.mul_succ] at h
    rw [xorBlocks, xorBlocks, List.take_append_of_le_length (by omega),
      List.drop_append_of_le_length (by omega), ih (by rw [List.length_drop]; omega)]

/-- What a generator does that has come to octet `pos`: it uses up the block that it has begun, makes whole
blocks, and begins another one. -/
theorem xorStream_from (hn : 0 < n) (s : σ) {pos : Nat} {head body tail : Octets} {j k : Nat}
    (hhead : pos + head.length = n * j) (hbody : body.length = n * k) (htail : tail.length < n) :
    xorStream (fun i => keystream next octet n s (pos + i)) (head ++ body ++ tail) =
      xorStream (fun i => keystream next octet n s (pos + i)) head ++
        xorBlocks next octet n k (next^[j] s) body ++
        xorStream (octet (next^[j + k] s)) tail := by
  rw [xorStream_append, xorStream_append]
  congr 1
  · congr 1
    rw [xorBlocks_eq hn (by omega), List.take_of_length_le (by omega)]
    refine xorStream_congr fun i _ => ?_
    rw [keystream, keystream, ← Function.iterate_add_apply,
      show pos + (i + head.length) = i + n * j by omega,
      Nat.add_mul_div_left _ _ hn, Nat.add_mul_mod_self_left, Nat.add_comm]
  · refine xorStream_congr fun i hi => ?_
    have hp : pos + (i + (head ++ body).length) = n * (j + k) + i := by
      rw [List.length_append, Nat.mul_add]
      omega
    rw [hp, keystream_block hn s _ (by omega)]

end

end Wire
