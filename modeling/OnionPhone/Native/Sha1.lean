import OnionPhone.Lib.Sha1

/-!
# OnionPhone.Native.Sha1

libsrtp's SHA-1 (`crypto/hash/sha1.c`). A context keeps the octets of the block that is not complete yet;
the octets of the buffer behind them are those of earlier blocks, and the array `W` of `sha1_final` holds
whatever the stack held.

* `Holds msg ctx`: the context has been given the message `msg`.
* `sha1Update_holds`: pieces of any lengths.
* `sha1Final_eq`: the result is the hash of the standard, for messages whose bits are counted in 32 bits.
-/

namespace OnionPhone
namespace Native

open Wire Wire.Octets Wire.Sha1

/-! ## The code -/

def s1 (x : Word) : Word := (x <<< 1) ||| (x >>> 31)
def s5 (x : Word) : Word := (x <<< 5) ||| (x >>> 27)
def s30 (x : Word) : Word := (x <<< 30) ||| (x >>> 2)

def f0 (b c d : Word) : Word := (b &&& c) ||| (~~~b &&& d)
def f1 (b c d : Word) : Word := b ^^^ c ^^^ d
def f2 (b c d : Word) : Word := (b &&& c) ||| (b &&& d) ||| (c &&& d)
def f3 (b c d : Word) : Word := b ^^^ c ^^^ d

def shaK0 : Word := 0x5A827999
def shaK1 : Word := 0x6ED9EBA1
def shaK2 : Word := 0x8F1BBCDC
def shaK3 : Word := 0xCA62C1D6

/-- `W`, by its index. -/
abbrev WordArray := Nat → Word

/-- `for (t = first; t < first + n; t++) W[t] = value` -/
def fillW (w : WordArray) (first n : Nat) (value : WordArray → Nat → Word) : WordArray :=
  (List.range' first n).foldl (fun w t => Function.update w t (value w t)) w

/-- The words from the sixteenth on. `sha1_core` has the first half of them written out. -/
def expandW (w : WordArray) : WordArray :=
  fillW w 16 64 fun w t => s1 (w (t - 3) ^^^ w (t - 8) ^^^ w (t - 14) ^^^ w (t - 16))

/-- One of the four loops over the rounds. -/
def roundLoop (f : Word → Word → Word → Word) (k : Word) (w : WordArray) (first : Nat) (h : Hash) : Hash :=
  (List.range' first 20).foldl
    (fun h t => ⟨s5 h.a + f h.b h.c h.d + h.e + w t + k, h.a, s30 h.b, h.c, h.d⟩) h

def rounds (w : WordArray) (h : Hash) : Hash :=
  let x := roundLoop f0 shaK0 w 0 h
  let x := roundLoop f1 shaK1 w 20 x
  let x := roundLoop f2 shaK2 w 40 x
  let x := roundLoop f3 shaK3 w 60 x
  ⟨h.a + x.a, h.b + x.b, h.c + x.c, h.d + x.d, h.e + x.e⟩

/-- `wordAt m i` is `be32_to_cpu(M[i])`. -/
def sha1Core (m : Octets) (h : Hash) : Hash := rounds (expandW (wordAt m)) h

/-- `sha1_ctx_t`; `m` is the buffer as octets. -/
structure Sha1Ctx where
  h : Hash
  m : Octets
  octetsInBuffer : Nat
  numBitsInMsg : Word
  m_length : m.length = 64
  octetsInBuffer_lt : octetsInBuffer < 64
  deriving DecidableEq

/-- The buffer keeps what it held. -/
def sha1Init (m : Octets) (hm : m.length = 64) : Sha1Ctx := ⟨initial, m, 0, 0, hm, by decide⟩

theorem fill_length {ctx : Sha1Ctx} {bs : Octets} (h : ctx.octetsInBuffer + bs.length ≤ 64) :
    (writeAt ctx.m ctx.octetsInBuffer bs).length = 64 := by
  rw [writeAt_length (by rw [ctx.m_length]; exact h), ctx.m_length]

def updateLoop (ctx : Sha1Ctx) (msg : Octets) : Sha1Ctx :=
  if hpos : 0 < msg.length then
    if hfull : 64 ≤ msg.length + ctx.octetsInBuffer then
      have hlen : ctx.octetsInBuffer + (msg.take (64 - ctx.octetsInBuffer)).length ≤ 64 := by
        have := ctx.octetsInBuffer_lt
        rw [List.length_take]
        omega
      let m := writeAt ctx.m ctx.octetsInBuffer (msg.take (64 - ctx.octetsInBuffer))
      updateLoop ⟨sha1Core m ctx.h, m, 0, ctx.numBitsInMsg, fill_length hlen, by decide⟩
        (msg.drop (64 - ctx.octetsInBuffer))
    else
      ⟨ctx.h, writeAt ctx.m ctx.octetsInBuffer msg, ctx.octetsInBuffer + msg.length, ctx.numBitsInMsg,
        fill_length (by omega), by omega⟩
  else
    ctx
termination_by msg.length
decreasing_by
  have := ctx.octetsInBuffer_lt
  rw [List.length_drop]
  omega

def sha1Update (ctx : Sha1Ctx) (msg : Octets) : Sha1Ctx :=
  updateLoop { ctx with numBitsInMsg := ctx.numBitsInMsg + BitVec.ofNat 32 (msg.length * 8) } msg

/-- Set the high bit of the octet immediately following the `r` octets that are in the buffer. -/
def setHighBit (m : Octets) (r : Nat) (w : WordArray) : WordArray :=
  let i := (r + 3) / 4
  match r % 4 with
  | 3 => Function.update (Function.update w (i - 1) ((wordAt m (i - 1) &&& 0xffffff00) ||| 0x80)) i 0
  | 2 => Function.update (Function.update w (i - 1) ((wordAt m (i - 1) &&& 0xffff0000) ||| 0x8000)) i 0
  | 1 => Function.update (Function.update w (i - 1) ((wordAt m (i - 1) &&& 0xff000000) ||| 0x800000)) i 0
  | _ => Function.update w i 0x80000000

/-- The array for the last octets of the message, before it is expanded; `w` is what the stack held. -/
def finalWords (w : WordArray) (ctx : Sha1Ctx) : WordArray :=
  let i := (ctx.octetsInBuffer + 3) / 4
  let w := fillW w 0 i fun _ j => wordAt ctx.m j
  let w := setHighBit ctx.m ctx.octetsInBuffer w
  let w := fillW w (i + 1) (15 - (i + 1)) fun _ _ => 0
  if ctx.octetsInBuffer < 56 then
    Function.update w 15 ctx.numBitsInMsg
  else if ctx.octetsInBuffer < 60 then
    Function.update w 15 0
  else
    w

/-- The output is in memory as octets. -/
def sha1Final (stack : WordArray) (ctx : Sha1Ctx) : Sha1Ctx × Octets :=
  let w := expandW (finalWords stack ctx)
  let h := rounds w ctx.h
  let h :=
    if 56 ≤ ctx.octetsInBuffer then
      let w := fillW w 0 15 fun _ _ => 0
      let w := Function.update w 15 ctx.numBitsInMsg
      rounds (expandW w) h
    else
      h
  (⟨h, ctx.m, 0, ctx.numBitsInMsg, ctx.m_length, by decide⟩, h.octets)

/-! ## The compression function -/

theorem s1_eq (x : Word) : s1 x = x.rotateLeft 1 := rfl
theorem s5_eq (x : Word) : s5 x = x.rotateLeft 5 := rfl
theorem s30_eq (x : Word) : s30 x = x.rotateLeft 30 := rfl

theorem fillW_const (value : Nat → Word) (n : Nat) : ∀ (w : WordArray) (first i : Nat),
    fillW w first n (fun _ t => value t) i = if first ≤ i ∧ i < first + n then value i else w i := by
  induction n with
  | zero =>
    intro w first i
    rw [if_neg (by omega)]
    rfl
  | succ n ih =>
    intro w first i
    have hstep : fillW w first (n + 1) (fun _ t => value t) =
        fillW (Function.update w first (value first)) (first + 1) n fun _ t => value t := rfl
    rw [hstep, ih]
    by_cases hi : i = first
    · subst hi
      rw [if_neg (by omega), if_pos (by omega), Function.update_self]
    · rw [Function.update_of_ne hi]
      exact if_congr (by omega) rfl rfl

theorem expandW_loop (m : WordArray) : ∀ (n : Nat) (w : WordArray) (first : Nat), 16 ≤ first →
    (∀ i, i < first → w i = schedule m i) →
    ∀ i, i < first + n →
      fillW w first n (fun w t => s1 (w (t - 3) ^^^ w (t - 8) ^^^ w (t - 14) ^^^ w (t - 16))) i =
        schedule m i := by
  intro n
  induction n with
  | zero =>
    intro w first _ hw i hi
    exact hw i hi
  | succ n ih =>
    intro w first hfirst hw i hi
    refine ih (Function.update w first _) (first + 1) (by omega) ?_ i (by omega)
    intro j hj
    by_cases hjf : j = first
    · subst hjf
      rw [Function.update_self]
      simp only []
      rw [hw (j - 3) (by omega), hw (j - 8) (by omega), hw (j - 14) (by omega),
        hw (j - 16) (by omega), schedule.eq_def m j, dif_neg (by omega), s1_eq]
    · rw [Function.update_of_ne hjf, hw j (by omega)]

theorem expandW_eq {m w : WordArray} (h : ∀ i, i < 16 → w i = m i) {i : Nat} (hi : i < 80) :
    expandW w i = schedule m i := by
  refine expandW_loop m 64 w 16 (Nat.le_refl _) ?_ i (by omega)
  intro j hj
  rw [schedule, dif_pos hj, h j hj]

theorem roundLoop_eq {f : Word → Word → Word → Word} {k : Word} {m w : WordArray} (first : Nat)
    (hw : ∀ t, first ≤ t → t < first + 20 → w t = schedule m t)
    (hf : ∀ t, first ≤ t → t < first + 20 → logical t = f ∧ constant t = k) (h : Hash) :
    roundLoop f k w first h = (List.range' first 20).foldl (hashRound m) h := by
  unfold roundLoop
  refine List.foldl_ext _ _ _ fun x t ht => ?_
  obtain ⟨h₁, h₂⟩ := List.mem_range'_1.1 ht
  obtain ⟨hlog, hconst⟩ := hf t h₁ h₂
  rw [hashRound, hw t h₁ h₂, hlog, hconst, s5_eq, s30_eq]

theorem first_rounds {t : Nat} (h : t < 20) : logical t = f0 ∧ constant t = shaK0 := by
  constructor
  · funext b c d
    rw [logical, if_pos h, f0]
  · rw [constant, if_pos h]
    rfl

theorem second_rounds {t : Nat} (h₀ : 20 ≤ t) (h : t < 40) : logical t = f1 ∧ constant t = shaK1 := by
  constructor
  · funext b c d
    rw [logical, if_neg (by omega), if_pos h, f1]
  · rw [constant, if_neg (by omega), if_pos h]
    rfl

theorem third_rounds {t : Nat} (h₀ : 40 ≤ t) (h : t < 60) : logical t = f2 ∧ constant t = shaK2 := by
  constructor
  · funext b c d
    rw [logical, if_neg (by omega), if_neg (by omega), if_pos h, f2]
  · rw [constant, if_neg (by omega), if_neg (by omega), if_pos h]
    rfl

theorem fourth_rounds {t : Nat} (h₀ : 60 ≤ t) : logical t = f3 ∧ constant t = shaK3 := by
  constructor
  · funext b c d
    rw [logical, if_neg (by omega), if_neg (by omega), if_neg (by omega), f3]
  · rw [constant, if_neg (by omega), if_neg (by omega), if_neg (by omega)]
    rfl

theorem rounds_eq {m w : WordArray} (hw : ∀ t, t < 80 → w t = schedule m t) (h : Hash) :
    rounds w h = compressWords h m := by
  have hrange : List.range 80 = List.range' 0 20 ++ List.range' 20 20 ++ List.range' 40 20 ++
      List.range' 60 20 := by decide
  rw [compressWords, hrange, List.foldl_append, List.foldl_append, List.foldl_append,
    ← roundLoop_eq 0 (fun t _ ht => hw t (by omega)) (fun t _ ht => first_rounds (by omega)),
    ← roundLoop_eq 20 (fun t _ ht => hw t (by omega)) (fun t h₀ ht => second_rounds h₀ ht),
    ← roundLoop_eq 40 (fun t _ ht => hw t (by omega)) (fun t h₀ ht => third_rounds h₀ ht),
    ← roundLoop_eq 60 (fun t _ ht => hw t (by omega)) (fun t h₀ _ => fourth_rounds h₀)]
  rfl

theorem rounds_expandW {m w : WordArray} (h : ∀ i, i < 16 → w i = m i) (s : Hash) :
    rounds (expandW w) s = compressWords s m :=
  rounds_eq (fun _ ht => expandW_eq h ht) s

theorem sha1Core_eq (m : Octets) (h : Hash) : sha1Core m h = compress h m :=
  rounds_expandW (fun _ _ => rfl) h

/-! ## Messages in pieces -/

/-- The whole blocks of `msg` are in the hash value and its last octets are in the buffer. -/
structure Buffers (msg : Octets) (ctx : Sha1Ctx) : Prop where
  h : ctx.h = absorb compress 64 (msg.length / 64) initial msg
  octetsInBuffer : ctx.octetsInBuffer = msg.length % 64
  octets : ctx.m.take ctx.octetsInBuffer = rest 64 msg

structure Holds (msg : Octets) (ctx : Sha1Ctx) : Prop extends Buffers msg ctx where
  numBitsInMsg : ctx.numBitsInMsg = BitVec.ofNat 32 (8 * msg.length)

theorem sha1Init_holds (m : Octets) (hm : m.length = 64) : Holds [] (sha1Init m hm) :=
  ⟨⟨rfl, rfl, rfl⟩, rfl⟩

theorem take_writeAt {m bs : Octets} {off : Nat} (h : off ≤ m.length) :
    (writeAt m off bs).take (off + bs.length) = m.take off ++ bs := by
  have hlen : (m.take off ++ bs).length = off + bs.length := by
    rw [List.length_append, List.length_take_of_le h]
  rw [writeAt, ← hlen, List.take_left]

theorem updateLoop_buffers (ctx : Sha1Ctx) (bs : Octets) : ∀ {msg : Octets}, Buffers msg ctx →
    Buffers (msg ++ bs) (updateLoop ctx bs) ∧ (updateLoop ctx bs).numBitsInMsg = ctx.numBitsInMsg := by
  fun_induction updateLoop ctx bs with
  | case1 ctx bs hpos hfull hlen m =>
    -- the buffer is filled up, and its block hashed
    rename_i ih
    intro msg h
    have hlt := ctx.octetsInBuffer_lt
    have hb := h.octetsInBuffer
    obtain ⟨piece, more, rfl, hpiece⟩ : ∃ piece more, bs = piece ++ more ∧
        piece.length = 64 - ctx.octetsInBuffer :=
      ⟨bs.take (64 - ctx.octetsInBuffer), bs.drop (64 - ctx.octetsInBuffer),
        (List.take_append_drop _ _).symm, List.length_take_of_le (by omega)⟩
    have htake : (piece ++ more).take (64 - ctx.octetsInBuffer) = piece := by rw [← hpiece, List.take_left]
    have hdrop : (piece ++ more).drop (64 - ctx.octetsInBuffer) = more := by rw [← hpiece, List.drop_left]
    have hm : m = rest 64 msg ++ piece := by
      have hcopy : (writeAt ctx.m ctx.octetsInBuffer piece).take (ctx.octetsInBuffer + piece.length) =
          ctx.m.take ctx.octetsInBuffer ++ piece := take_writeAt (by rw [ctx.m_length]; omega)
      rw [htake] at hlen
      rw [List.take_of_length_le (by rw [fill_length hlen]; omega), h.octets] at hcopy
      rw [← hcopy]
      simp only [m, htake]
    have hfill : absorb compress 64 ((msg ++ piece).length / 64) initial (msg ++ piece) =
        compress (absorb compress 64 (msg.length / 64) initial msg) (rest 64 msg ++ piece) ∧
        rest 64 (msg ++ piece) = [] := absorb_fill (by decide) initial (by omega)
    rw [hdrop] at ih ⊢
    rw [← List.append_assoc]
    refine ih ⟨?_, ?_, ?_⟩
    · rw [hfill.1, ← h.h, ← hm]
      exact sha1Core_eq m ctx.h
    · have hdm := Nat.div_add_mod msg.length 64
      simp only [List.length_append]
      omega
    · rw [hfill.2]
      rfl
  | case2 ctx bs hpos hfull =>
    intro msg h
    have hb := h.octetsInBuffer
    have hwait : absorb compress 64 ((msg ++ bs).length / 64) initial (msg ++ bs) =
        absorb compress 64 (msg.length / 64) initial msg ∧ rest 64 (msg ++ bs) = rest 64 msg ++ bs ∧
        (msg ++ bs).length % 64 = msg.length % 64 + bs.length := absorb_wait (by decide) initial (by omega)
    refine ⟨⟨?_, ?_, ?_⟩, rfl⟩
    · rw [hwait.1, ← h.h]
    · rw [hwait.2.2, ← hb]
    · have hlt := ctx.octetsInBuffer_lt
      rw [hwait.2.1, ← h.octets]
      exact take_writeAt (by rw [ctx.m_length]; omega)
  | case3 ctx bs hpos =>
    intro msg h
    have hnil : bs = [] := List.length_eq_zero_iff.1 (by omega)
    rw [hnil, List.append_nil]
    exact ⟨h, rfl⟩

theorem sha1Update_holds {msg : Octets} {ctx : Sha1Ctx} (h : Holds msg ctx) (bs : Octets) :
    Holds (msg ++ bs) (sha1Update ctx bs) := by
  obtain ⟨hbuf, hbits⟩ := updateLoop_buffers
    { ctx with numBitsInMsg := ctx.numBitsInMsg + BitVec.ofNat 32 (bs.length * 8) } bs
    ⟨h.h, h.octetsInBuffer, h.octets⟩
  refine ⟨hbuf, ?_⟩
  rw [sha1Update, hbits]
  simp only [h.numBitsInMsg]
  rw [← BitVec.ofNat_add, List.length_append, Nat.mul_add, Nat.mul_comm bs.length]

/-! ## The last blocks -/

theorem beWord_mask (b0 b1 b2 b3 m0 m1 m2 m3 o0 o1 o2 o3 : UInt8) :
    (beWord b0 b1 b2 b3 &&& beWord m0 m1 m2 m3) ||| beWord o0 o1 o2 o3 =
      beWord ((b0 &&& m0) ||| o0) ((b1 &&& m1) ||| o1) ((b2 &&& m2) ||| o2) ((b3 &&& m3) ||| o3) := by
  apply BitVec.eq_of_getLsbD_eq
  intro i hi
  simp only [beWord, BitVec.getLsbD_or, BitVec.getLsbD_and, BitVec.getLsbD_append, UInt8.toBitVec_and,
    UInt8.toBitVec_or]
  split
  · rfl
  · split
    · rfl
    · split <;> rfl

theorem and_ff (b : UInt8) : b &&& 0xff = b := by
  apply UInt8.toBitVec_inj.1
  exact BitVec.and_allOnes

theorem wordAt_mask (m : Octets) (i : Nat) :
    (wordAt m i &&& 0xffffff00) ||| 0x80 =
        beWord (m.getD (4 * i) 0) (m.getD (4 * i + 1) 0) (m.getD (4 * i + 2) 0) 0x80 ∧
      (wordAt m i &&& 0xffff0000) ||| 0x8000 =
        beWord (m.getD (4 * i) 0) (m.getD (4 * i + 1) 0) 0x80 0 ∧
      (wordAt m i &&& 0xff000000) ||| 0x800000 = beWord (m.getD (4 * i) 0) 0x80 0 0 := by
  refine ⟨?_, ?_, ?_⟩
  · rw [wordAt, show (0xffffff00 : Word) = beWord 0xff 0xff 0xff 0 by decide,
      show (0x80 : Word) = beWord 0 0 0 0x80 by decide, beWord_mask]
    simp [and_ff]
  · rw [wordAt, show (0xffff0000 : Word) = beWord 0xff 0xff 0 0 by decide,
      show (0x8000 : Word) = beWord 0 0 0x80 0 by decide, beWord_mask]
    simp [and_ff]
  · rw [wordAt, show (0xff000000 : Word) = beWord 0xff 0 0 0 by decide,
      show (0x800000 : Word) = beWord 0 0x80 0 0 by decide, beWord_mask]
    simp [and_ff]

def padOctet (m : Octets) (r j : Nat) : UInt8 := if j < r then m.getD j 0 else if j = r then 0x80 else 0

def padWord (m : Octets) (r j : Nat) : Word :=
  beWord (padOctet m r (4 * j)) (padOctet m r (4 * j + 1)) (padOctet m r (4 * j + 2)) (padOctet m r (4 * j + 3))

theorem padWord_lt {m : Octets} {r j : Nat} (h : 4 * j + 3 < r) : padWord m r j = wordAt m j := by
  simp only [padWord, padOctet, wordAt, if_pos h, if_pos (show 4 * j < r by omega),
    if_pos (show 4 * j + 1 < r by omega), if_pos (show 4 * j + 2 < r by omega)]

theorem padWord_gt {m : Octets} {r j : Nat} (h : r < 4 * j) : padWord m r j = 0 := by
  have hz : ∀ k, 4 * j ≤ k → padOctet m r k = 0 := by
    intro k hk
    rw [padOctet, if_neg (by omega), if_neg (by omega)]
  rw [padWord, hz _ (by omega), hz _ (by omega), hz _ (by omega), hz _ (by omega)]
  decide

theorem padWord_last (m : Octets) (q : Nat) :
    padWord m (4 * q) q = 0x80000000 ∧
      padWord m (4 * q + 1) q = (wordAt m q &&& 0xff000000) ||| 0x800000 ∧
      padWord m (4 * q + 2) q = (wordAt m q &&& 0xffff0000) ||| 0x8000 ∧
      padWord m (4 * q + 3) q = (wordAt m q &&& 0xffffff00) ||| 0x80 := by
  obtain ⟨h3, h2, h1⟩ := wordAt_mask m q
  rw [h1, h2, h3]
  refine ⟨?_, ?_, ?_, ?_⟩
  · simp [padWord, padOctet]
    decide
  · simp [padWord, padOctet]
  · simp [padWord, padOctet]
  · simp [padWord, padOctet]

theorem setHighBit_eq {m : Octets} {r j : Nat} {w : WordArray}
    (hw : ∀ j, j < (r + 3) / 4 → w j = wordAt m j) (hj : j ≤ (r + 3) / 4) :
    setHighBit m r w j = padWord m r j := by
  obtain ⟨q, t, ht, rfl⟩ : ∃ q t, t < 4 ∧ r = 4 * q + t := ⟨r / 4, r % 4, Nat.mod_lt _ (by decide), by omega⟩
  obtain ⟨h0, h1, h2, h3⟩ := padWord_last m q
  have hmod : (4 * q + t) % 4 = t := by omega
  -- the words before the last one are those of the message
  have hbefore : ∀ k, k < q → w k = padWord m (4 * q + t) k := by
    intro k hk
    rw [padWord_lt (by omega), hw k (by omega)]
  -- a tail: the last word is masked, and the one after it is zero
  have htail : 0 < t → ∀ v, padWord m (4 * q + t) q = v →
      Function.update (Function.update w ((4 * q + t + 3) / 4 - 1) v) ((4 * q + t + 3) / 4) 0 j =
        padWord m (4 * q + t) j := by
    intro hpos v hv
    have hi : (4 * q + t + 3) / 4 = q + 1 := by omega
    rw [hi, Nat.add_sub_cancel]
    rcases Nat.lt_trichotomy j q with hlt | rfl | hgt
    · rw [Function.update_of_ne (by omega), Function.update_of_ne (by omega), hbefore j hlt]
    · rw [Function.update_of_ne (by omega), Function.update_self, hv]
    · rw [show j = q + 1 by omega, Function.update_self, padWord_gt (by omega)]
  unfold setHighBit
  rw [hmod]
  interval_cases t
  · have hi : (4 * q + 0 + 3) / 4 = q := by omega
    simp only [hi]
    rcases Nat.lt_or_ge j q with hlt | hge
    · rw [Function.update_of_ne (by omega), hbefore j hlt]
    · rw [show j = q by omega, Function.update_self]
      exact h0.symm
  · have hi : (4 * q + 1 + 3) / 4 - 1 = q := by omega
    exact htail (by decide) _ (by rw [hi]; exact h1)
  · have hi : (4 * q + 2 + 3) / 4 - 1 = q := by omega
    exact htail (by decide) _ (by rw [hi]; exact h2)
  · have hi : (4 * q + 3 + 3) / 4 - 1 = q := by omega
    exact htail (by decide) _ (by rw [hi]; exact h3)

/-- Up to the length of the message, the array is the padded message, whatever was in the buffer behind the
message and on the stack. -/
theorem finalWords_eq (stack : WordArray) (ctx : Sha1Ctx) {j : Nat} (hj : j < 16)
    (h : j < 15 ∨ 56 ≤ ctx.octetsInBuffer) :
    finalWords stack ctx j = padWord ctx.m ctx.octetsInBuffer j := by
  have hr := ctx.octetsInBuffer_lt
  have hmarked : ∀ k, k ≤ (ctx.octetsInBuffer + 3) / 4 →
      setHighBit ctx.m ctx.octetsInBuffer
        (fillW stack 0 ((ctx.octetsInBuffer + 3) / 4) fun _ j => wordAt ctx.m j) k =
        padWord ctx.m ctx.octetsInBuffer k := by
    intro k hk
    refine setHighBit_eq ?_ hk
    intro i hi
    rw [fillW_const, if_pos (by omega)]
  have hzero : ∀ k, k < 15 ∨ k ≤ (ctx.octetsInBuffer + 3) / 4 →
      fillW (setHighBit ctx.m ctx.octetsInBuffer
        (fillW stack 0 ((ctx.octetsInBuffer + 3) / 4) fun _ j => wordAt ctx.m j))
        ((ctx.octetsInBuffer + 3) / 4 + 1) (15 - ((ctx.octetsInBuffer + 3) / 4 + 1)) (fun _ _ => 0) k =
        padWord ctx.m ctx.octetsInBuffer k := by
    intro k hk
    rw [fillW_const]
    split
    · rw [padWord_gt (by omega)]
    · rw [hmarked k (by omega)]
  rw [finalWords]
  split
  · rw [Function.update_of_ne (by omega), hzero j (by omega)]
  · split
    · by_cases h15 : j = 15
      · rw [h15, Function.update_self, padWord_gt (by omega)]
      · rw [Function.update_of_ne h15, hzero j (by omega)]
    · rw [hzero j (by omega)]

theorem finalWords_length (stack : WordArray) {ctx : Sha1Ctx} (h : ctx.octetsInBuffer < 56) :
    finalWords stack ctx 15 = ctx.numBitsInMsg := by
  rw [finalWords, if_pos h, Function.update_self]

/-! ## Padding -/

theorem beWord_toNat (b0 b1 b2 b3 : UInt8) : (beWord b0 b1 b2 b3).toNat =
    b0.toNat * 2 ^ 24 + b1.toNat * 2 ^ 16 + b2.toNat * 2 ^ 8 + b3.toNat := by
  have h1 := b1.toNat_lt
  have h2 := b2.toNat_lt
  have h3 := b3.toNat_lt
  simp only [beWord, BitVec.toNat_append, UInt8.toNat_toBitVec]
  rw [← Nat.shiftLeft_add_eq_or_of_lt (by omega), ← Nat.shiftLeft_add_eq_or_of_lt (by omega),
    ← Nat.shiftLeft_add_eq_or_of_lt (by omega)]
  simp only [Nat.shiftLeft_eq]
  omega

theorem wordAt_be32 (n : Nat) : wordAt (be32 n) 0 = BitVec.ofNat 32 n := by
  apply BitVec.eq_of_toNat_eq
  simp only [wordAt, be32, List.getD_cons_zero, List.getD_cons_succ, Nat.mul_zero, Nat.zero_add,
    beWord_toNat, UInt8.toNat_ofNat', BitVec.toNat_ofNat]
  omega

theorem wordAt_append_left {as : Octets} {i : Nat} (h : 4 * i + 4 ≤ as.length) (bs : Octets) :
    wordAt (as ++ bs) i = wordAt as i := by
  rw [wordAt, List.getD_append _ _ _ _ (by omega), List.getD_append _ _ _ _ (by omega),
    List.getD_append _ _ _ _ (by omega), List.getD_append _ _ _ _ (by omega), wordAt]

theorem wordAt_append_right {as : Octets} {q : Nat} (h : as.length = 4 * q) (bs : Octets) (i : Nat) :
    wordAt (as ++ bs) (q + i) = wordAt bs i := by
  have hk : ∀ k, (as ++ bs).getD (4 * (q + i) + k) 0 = bs.getD (4 * i + k) 0 := by
    intro k
    rw [List.getD_append_right _ _ _ _ (by omega)]
    congr 1
    omega
  rw [wordAt, wordAt, hk 1, hk 2, hk 3]
  exact congrArg (beWord · _ _ _) (hk 0)

theorem wordAt_drop (bs : Octets) (q i : Nat) : wordAt (bs.drop (4 * q)) i = wordAt bs (q + i) := by
  have hk : ∀ k, (bs.drop (4 * q)).getD (4 * i + k) 0 = bs.getD (4 * (q + i) + k) 0 := by
    intro k
    rw [List.getD_eq_getElem?_getD, List.getElem?_drop, ← List.getD_eq_getElem?_getD]
    congr 1
    omega
  rw [wordAt, wordAt, hk 1, hk 2, hk 3]
  exact congrArg (beWord · _ _ _) (hk 0)

def front (msg : Octets) : Octets :=
  rest 64 msg ++ 0x80 :: List.replicate ((119 - msg.length % 64) % 64) 0

theorem front_length (msg : Octets) :
    (front msg).length = msg.length % 64 + 1 + (119 - msg.length % 64) % 64 := by
  simp only [front, List.length_append, rest_length, List.length_cons, List.length_replicate]
  omega

theorem rest_append_padding (msg : Octets) : rest 64 msg ++ padding msg.length =
    front msg ++ (be32 (8 * msg.length / 2 ^ 32) ++ be32 (8 * msg.length)) := by
  simp only [front, padding, List.append_assoc, List.cons_append]

theorem Buffers.wordAt_front {msg : Octets} {ctx : Sha1Ctx} (h : Buffers msg ctx) (j : Nat) :
    wordAt (front msg) j = padWord ctx.m ctx.octetsInBuffer j := by
  have hb := h.octetsInBuffer
  have hrest : (rest 64 msg).length = ctx.octetsInBuffer := by rw [rest_length, hb]
  have hk : ∀ k, (front msg).getD k 0 = padOctet ctx.m ctx.octetsInBuffer k := by
    intro k
    rw [padOctet, front]
    split
    · rw [List.getD_append _ _ _ _ (by omega), ← h.octets, List.getD_eq_getElem?_getD,
        List.getElem?_take_of_lt (by assumption), ← List.getD_eq_getElem?_getD]
    · rw [List.getD_append_right _ _ _ _ (by omega), hrest]
      split
      · next heq => rw [heq, Nat.sub_self, List.getD_cons_zero]
      · obtain ⟨i, hi⟩ : ∃ i, k - ctx.octetsInBuffer = i + 1 := ⟨k - ctx.octetsInBuffer - 1, by omega⟩
        simp [hi]
  rw [wordAt, hk, hk, hk, hk, padWord]

theorem wordAt_length {msg : Octets} {q : Nat} (hq : (front msg).length = 4 * q)
    (hbits : 8 * msg.length < 2 ^ 32) :
    wordAt (rest 64 msg ++ padding msg.length) q = 0 ∧
      wordAt (rest 64 msg ++ padding msg.length) (q + 1) = BitVec.ofNat 32 (8 * msg.length) := by
  rw [rest_append_padding]
  constructor
  · have hword := wordAt_append_right hq (be32 (8 * msg.length / 2 ^ 32) ++ be32 (8 * msg.length)) 0
    rw [Nat.add_zero] at hword
    rw [hword, wordAt_append_left (by simp), wordAt_be32, Nat.div_eq_of_lt hbits]
    rfl
  · have hlast := wordAt_append_right (q := 1) (be32_length (8 * msg.length / 2 ^ 32)) (be32 (8 * msg.length)) 0
    rw [wordAt_append_right hq, hlast, wordAt_be32]

theorem sha1_eq_absorb {msg : Octets} {k : Nat} (hk : (front msg).length + 8 = 64 * k) :
    sha1 msg = (absorb compress 64 k (absorb compress 64 (msg.length / 64) initial msg)
      (rest 64 msg ++ padding msg.length)).octets := by
  have hlen : (msg ++ padding msg.length).length / 64 = msg.length / 64 + k := by
    have hpad : (rest 64 msg ++ padding msg.length).length = (front msg).length + 8 := by
      rw [rest_append_padding]
      simp
    rw [List.length_append, rest_length] at hpad
    rw [List.length_append]
    omega
  rw [sha1, hlen, absorb_more]

theorem sha1Final_eq {msg : Octets} {ctx : Sha1Ctx} (h : Holds msg ctx) (hbits : 8 * msg.length < 2 ^ 32)
    (stack : WordArray) : (sha1Final stack ctx).2 = sha1 msg := by
  have hb := h.octetsInBuffer
  have hr := ctx.octetsInBuffer_lt
  have hfront := front_length msg
  by_cases hroom : ctx.octetsInBuffer < 56
  · -- the length fits into the block of the last octets
    have hone : (front msg).length = 4 * 14 := by omega
    obtain ⟨h14, h15⟩ := wordAt_length hone hbits
    have hwords : ∀ i, i < 16 → finalWords stack ctx i = wordAt (rest 64 msg ++ padding msg.length) i := by
      intro i hi
      rcases Nat.lt_trichotomy i 14 with hlt | rfl | hgt
      · rw [finalWords_eq stack ctx hi (by omega), rest_append_padding, wordAt_append_left (by omega),
          h.wordAt_front]
      · rw [finalWords_eq stack ctx hi (by omega), h14, padWord_gt (by omega)]
      · rw [show i = 15 by omega, finalWords_length stack hroom, h.numBitsInMsg, h15]
    have hpadded : (rest 64 msg ++ padding msg.length).length ≤ 64 := by
      rw [rest_append_padding]
      simp only [List.length_append, be32_length]
      omega
    rw [sha1_eq_absorb (k := 1) (by omega), ← h.h, absorb, absorb, List.take_of_length_le hpadded, compress,
      ← rounds_expandW hwords]
    simp only [sha1Final, if_neg (show ¬ 56 ≤ ctx.octetsInBuffer by omega)]
  · -- a second block, with nothing but the length in it
    have htwo : (front msg).length = 4 * 30 := by omega
    obtain ⟨h30, h31⟩ := wordAt_length htwo hbits
    have hfirst : ∀ i, i < 16 →
        finalWords stack ctx i = wordAt ((rest 64 msg ++ padding msg.length).take 64) i := by
      intro i hi
      have hcut : wordAt ((front msg).take 64 ++ (front msg).drop 64) i = wordAt ((front msg).take 64) i :=
        wordAt_append_left (by rw [List.length_take]; omega) _
      rw [finalWords_eq stack ctx hi (by omega), rest_append_padding,
        List.take_append_of_le_length (by omega), ← h.wordAt_front, ← hcut, List.take_append_drop]
    have hsecond : ∀ i, i < 16 →
        Function.update (fillW (expandW (finalWords stack ctx)) 0 15 fun _ _ => 0) 15 ctx.numBitsInMsg i =
          wordAt ((rest 64 msg ++ padding msg.length).drop (4 * 16)) i := by
      intro i hi
      rw [wordAt_drop]
      by_cases hlast : i = 15
      · rw [hlast, Function.update_self, h.numBitsInMsg, h31]
      · rw [Function.update_of_ne hlast, fillW_const, if_pos (by omega)]
        by_cases hlen : i = 14
        · rw [hlen, h30]
        · rw [rest_append_padding, wordAt_append_left (by omega), h.wordAt_front, padWord_gt (by omega)]
    have hwhole : ((rest 64 msg ++ padding msg.length).drop 64).length ≤ 64 := by
      rw [rest_append_padding]
      simp only [List.length_drop, List.length_append, be32_length]
      omega
    rw [sha1_eq_absorb (k := 2) (by omega), ← h.h, absorb, absorb, absorb, List.take_of_length_le hwhole,
      compress, compress, ← rounds_expandW hfirst, ← rounds_expandW hsecond]
    simp only [sha1Final, if_pos (show 56 ≤ ctx.octetsInBuffer by omega)]

theorem foldl_sha1Update_holds (pieces : List Octets) : ∀ {msg : Octets} {ctx : Sha1Ctx}, Holds msg ctx →
    Holds (msg ++ pieces.flatten) (pieces.foldl sha1Update ctx) := by
  induction pieces with
  | nil =>
    intro msg ctx h
    rw [List.flatten_nil, List.append_nil]
    exact h
  | cons piece pieces ih =>
    intro msg ctx h
    rw [List.flatten_cons, ← List.append_assoc]
    exact ih (sha1Update_holds h piece)

/-- However a message of fewer than `2^32` bits is cut into pieces, the result is its hash, whatever the
buffer and the stack held before. -/
theorem sha1_pieces (m : Octets) (hm : m.length = 64) (stack : WordArray) (pieces : List Octets)
    (hbits : 8 * pieces.flatten.length < 2 ^ 32) :
    (sha1Final stack (pieces.foldl sha1Update (sha1Init m hm))).2 = sha1 pieces.flatten := by
  have h := foldl_sha1Update_holds pieces (sha1Init_holds m hm)
  rw [List.nil_append] at h
  exact sha1Final_eq h hbits stack

/-- Three pieces, the last of which fills the block up to where the length no longer fits. -/
theorem sha1_pieces_three :
    (sha1Final (fun _ => 0xffffffff) ([[1, 2, 3], [], List.replicate 57 9].foldl sha1Update
      (sha1Init (List.replicate 64 0xaa) rfl))).2 = sha1 ([1, 2, 3] ++ List.replicate 57 9) :=
  sha1_pieces (List.replicate 64 0xaa) rfl (fun _ => 0xffffffff) [[1, 2, 3], [], List.replicate 57 9]
    (by decide)

end Native
end OnionPhone
