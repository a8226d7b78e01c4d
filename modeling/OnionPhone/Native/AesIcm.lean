import OnionPhone.Lib.Keystream
import OnionPhone.Native.Aes

/-!
# OnionPhone.Native.AesIcm

AES in integer counter mode (`crypto/cipher/aes_icm.c`), as SRTP uses it (`forIsmacryp` is 0). A context
keeps the block that it has begun to use, so that the data may come in pieces of any lengths; the block
counter is the last two octets of the counter.

* `At key start pos c`: where the context is in the keystream that begins at the block `start`.
* `addKeystream_spec`: one call, which goes on where the call before it stopped.
* `encryptAll_spec`: any calls one after the other add the one keystream to what they are given, and no
  call comes to the end of the block counter.
-/

namespace OnionPhone
namespace Native

open Wire Wire.Octets Wire.Aes

/-! ## The code -/

def V128.ofV8 (b : Nat → Byte) : V128 where
  w0 := word (b 0) (b 1) (b 2) (b 3)
  w1 := word (b 4) (b 5) (b 6) (b 7)
  w2 := word (b 8) (b 9) (b 10) (b 11)
  w3 := word (b 12) (b 13) (b 14) (b 15)

/-- `v128_copy_octet_string`, from the address that `s` begins at. -/
def v128CopyOctetString (s : Octets) : V128 := V128.ofV8 fun i => (s.getD i 0).toBitVec

def sizeofV128 : Nat := 16

/-- `aes_icm_ctx_t` -/
structure AesIcmCtx where
  counter : V128
  offset : V128
  keystreamBuffer : V128
  expandedKey : AesExpandedKey
  bytesInBuffer : Nat
  deriving DecidableEq, Repr

/-- `key` is what is in memory from the key on: the salt behind it ends two octets before the block that is
copied. -/
def aesIcmContextInit (c : AesIcmCtx) (key : Octets) : AesIcmCtx :=
  let salt := v128CopyOctetString (key.drop 16)
  { c with
    counter := (salt.setV8 15 0#8).setV8 14 0#8
    offset := (salt.setV8 15 0#8).setV8 14 0#8
    expandedKey := aesExpandEncryptionKey (v128CopyOctetString key)
    bytesInBuffer := 0 }

def aesIcmSetIv (c : AesIcmCtx) (nonce : V128) : AesIcmCtx :=
  { c with counter := c.offset.xor nonce, bytesInBuffer := 0 }

/-- The counter clocked forward: `if (!++(c->counter.v8[15])) ++(c->counter.v8[14])`. -/
def clockCounter (counter : V128) : V128 :=
  let counter := counter.setV8 15 (counter.v8 15 + 1#8)
  if counter.v8 15 = 0#8 then counter.setV8 14 (counter.v8 14 + 1#8) else counter

def aesIcmAdvance (c : AesIcmCtx) : AesIcmCtx :=
  { c with
    keystreamBuffer := aesEncrypt c.counter c.expandedKey
    bytesInBuffer := sizeofV128
    counter := clockCounter c.counter }

/-- `c->keystream_buffer.v8[i]` -/
def AesIcmCtx.buffered (c : AesIcmCtx) (i : Nat) : UInt8 := UInt8.ofBitVec (c.keystreamBuffer.v8 i)

/-- `htons(c->counter.v16[7])` -/
def AesIcmCtx.blockIndex (c : AesIcmCtx) : Nat := (c.counter.v8 14).toNat * 256 + (c.counter.v8 15).toNat

def encryptBlocks : Nat → AesIcmCtx → Octets → AesIcmCtx × Octets
  | 0, c, _ => (c, [])
  | n + 1, c, buf =>
    let c := aesIcmAdvance c
    let block := xorStream c.buffered (buf.take sizeofV128)
    let rest := encryptBlocks n c (buf.drop sizeofV128)
    (rest.1, block ++ rest.2)

/-- `aes_icm_encrypt` after its check: what is left in the buffer, whole blocks, and a tail. -/
def addKeystream (c : AesIcmCtx) (buf : Octets) : AesIcmCtx × Octets :=
  if buf.length ≤ c.bytesInBuffer then
    -- deal with odd case of small bytes_to_encr
    ({ c with bytesInBuffer := c.bytesInBuffer - buf.length },
      xorStream (fun i => c.buffered (sizeofV128 - c.bytesInBuffer + i)) buf)
  else
    let head := xorStream (fun i => c.buffered (sizeofV128 - c.bytesInBuffer + i)) (buf.take c.bytesInBuffer)
    let buf := buf.drop c.bytesInBuffer
    let blocks := encryptBlocks (buf.length / sizeofV128) { c with bytesInBuffer := 0 } buf
    let c := blocks.1
    let tail := buf.drop (sizeofV128 * (buf.length / sizeofV128))
    if tail.length ≠ 0 then
      let c := aesIcmAdvance c
      ({ c with bytesInBuffer := sizeofV128 - tail.length }, head ++ blocks.2 ++ xorStream c.buffered tail)
    else
      ({ c with bytesInBuffer := 0 }, head ++ blocks.2)

/-- The check that there's enough segment left for so many octets. -/
def AesIcmCtx.hasLeft (c : AesIcmCtx) (bytesToEncr : Nat) : Bool :=
  (bytesToEncr + c.blockIndex) % 2 ^ 32 ≤ 0xffff

/-- `buf` is the `*enc_len` octets to encrypt; `none` is `err_status_terminus`, with the context and the
data as they were. -/
def aesIcmEncrypt (c : AesIcmCtx) (buf : Octets) : Option (AesIcmCtx × Octets) :=
  if c.hasLeft buf.length then some (addKeystream c buf) else none

/-- `none` is `err_status_terminus`: the output is zeroed then. -/
def aesIcmOutput (c : AesIcmCtx) (numOctetsToOutput : Nat) : Option (AesIcmCtx × Octets) :=
  aesIcmEncrypt c (List.replicate numOctetsToOutput 0)

/-- Calls of `aes_icm_encrypt` one after the other, each with octets of its own, up to one that is
refused. -/
def encryptAll : AesIcmCtx → List Octets → Option (AesIcmCtx × List Octets)
  | c, [] => some (c, [])
  | c, buf :: bufs =>
    match aesIcmEncrypt c buf with
    | none => none
    | some (c, out) =>
      match encryptAll c bufs with
      | none => none
      | some (c, outs) => some (c, out :: outs)

/-! ## Counter blocks -/

theorem v8_ofV8 (b : Nat → Byte) {i : Nat} (hi : i < 16) : (V128.ofV8 b).v8 i = b i := by
  interval_cases i <;> simp [V128.ofV8, V128.v8, V128.v32]

theorem v8_ext {x y : V128} (h : ∀ i, i < 16 → x.v8 i = y.v8 i) : x = y := by
  apply state_injective
  funext r c
  exact h _ (by omega)

theorem v8_xor (x y : V128) {i : Nat} (hi : i < 16) : (x.xor y).v8 i = x.v8 i ^^^ y.v8 i := by
  unfold V128.v8
  rw [← octet_xor]
  have hw : i / 4 < 4 := by omega
  generalize i / 4 = w at hw ⊢
  interval_cases w <;> rfl

/-- The block with the number `n` of the keystream that begins at the block `start`. -/
def counterBlock (start : V128) (n : Nat) : V128 :=
  (start.setV8 15 (BitVec.ofNat 8 n)).setV8 14 (BitVec.ofNat 8 (n / 256))

theorem v8_counterBlock (start : V128) (n : Nat) {i : Nat} (hi : i < 16) :
    (counterBlock start n).v8 i =
      if i = 14 then BitVec.ofNat 8 (n / 256) else if i = 15 then BitVec.ofNat 8 n else start.v8 i := by
  rw [counterBlock, v8_setV8 _ (by decide) hi, v8_setV8 _ (by decide) hi]
  grind

theorem v8_clockCounter (x : V128) {i : Nat} (hi : i < 16) : (clockCounter x).v8 i =
    if i = 14 then (if x.v8 15 + 1#8 = 0#8 then x.v8 14 + 1#8 else x.v8 14)
    else if i = 15 then x.v8 15 + 1#8 else x.v8 i := by
  have hset := fun (y : V128) (b : Byte) => v8_setV8 y (i := 14) (by decide) hi b
  have hlast := fun (b : Byte) => v8_setV8 x (i := 15) (by decide) hi b
  have h15 : ∀ b : Byte, (x.setV8 15 b).v8 15 = b := fun b => by
    rw [v8_setV8 x (by decide) (by decide), if_pos rfl]
  have h14 : ∀ b : Byte, (x.setV8 15 b).v8 14 = x.v8 14 := fun b => by
    rw [v8_setV8 x (by decide) (by decide), if_neg (by decide)]
  simp only [clockCounter, h15, h14]
  split
  · rw [hset, hlast]
    grind
  · rw [hlast]
    grind

theorem clockCounter_counterBlock (start : V128) (n : Nat) :
    clockCounter (counterBlock start n) = counterBlock start (n + 1) := by
  have hcarry : BitVec.ofNat 8 n + 1#8 = 0#8 ↔ (n + 1) % 256 = 0 := by
    rw [← BitVec.toNat_inj]
    simp only [BitVec.toNat_add, BitVec.toNat_ofNat]
    omega
  apply v8_ext
  intro i hi
  rw [v8_clockCounter _ hi, v8_counterBlock _ _ (by decide), v8_counterBlock _ _ (by decide),
    v8_counterBlock _ _ hi, v8_counterBlock _ _ hi]
  simp only [if_true, show (15 : Nat) ≠ 14 by decide, if_false, hcarry]
  by_cases h14 : i = 14
  · rw [if_pos h14, if_pos h14]
    split
    · rw [show (n + 1) / 256 = n / 256 + 1 by omega, BitVec.ofNat_add]
    · rw [show (n + 1) / 256 = n / 256 by omega]
  · rw [if_neg h14, if_neg h14, if_neg h14]
    by_cases h15 : i = 15
    · rw [if_pos h15, if_pos h15, BitVec.ofNat_add]
    · rw [if_neg h15, if_neg h15, if_neg h15]

def IsStart (start : V128) : Prop := start.v8 14 = 0#8 ∧ start.v8 15 = 0#8

instance (start : V128) : Decidable (IsStart start) := inferInstanceAs (Decidable (_ ∧ _))

theorem counterBlock_zero {start : V128} (h : IsStart start) : counterBlock start 0 = start := by
  apply v8_ext
  intro i hi
  rw [v8_counterBlock _ _ hi]
  split
  · next h14 => rw [h14, h.1]
  · split
    · next h15 => rw [h15, h.2]
    · rfl

theorem clockCounter_iterate {start : V128} (h : IsStart start) (n : Nat) :
    clockCounter^[n] start = counterBlock start n := by
  induction n with
  | zero => exact (counterBlock_zero h).symm
  | succ n ih => rw [Function.iterate_succ_apply', ih, clockCounter_counterBlock]

theorem counterBlock_blockIndex (start : V128) (n : Nat) :
    ((counterBlock start n).v8 14).toNat * 256 + ((counterBlock start n).v8 15).toNat = n % 2 ^ 16 := by
  rw [v8_counterBlock _ _ (by decide), v8_counterBlock _ _ (by decide)]
  simp only [if_true, show (15 : Nat) ≠ 14 by decide, if_false, BitVec.toNat_ofNat]
  omega

/-! ## Where a context is -/

def icmOctet (key x : V128) (i : Nat) : UInt8 :=
  UInt8.ofBitVec ((aesEncrypt x (aesExpandEncryptionKey key)).v8 i)

def icmKeystream (key start : V128) : Nat → UInt8 :=
  Wire.keystream clockCounter (icmOctet key) sizeofV128 start

theorem icmKeystream_eq {start : V128} (h : IsStart start) (key : V128) (i : Nat) :
    icmKeystream key start i = UInt8.ofBitVec (stateOctet
      (cipher sboxes (roundKey sboxes key.state) (counterBlock start (i / 16)).state) (i % 16)) := by
  rw [icmKeystream, Wire.keystream, icmOctet, clockCounter_iterate h, ← aesEncrypt_state, stateOctet,
    V128.state]
  congr 2
  simp only [Fin.ofNat, sizeofV128]
  omega

/-- The blocks that are made when `pos` octets have been used. -/
def blocksMade (pos : Nat) : Nat := (pos + 15) / 16

/-- The context has used `pos` octets of the keystream: the counter is at the next block to be made, and
what is left in the buffer is the end of the block before it. -/
structure At (key start : V128) (pos : Nat) (c : AesIcmCtx) : Prop where
  expandedKey : c.expandedKey = aesExpandEncryptionKey key
  counter : c.counter = clockCounter^[blocksMade pos] start
  bytesInBuffer : c.bytesInBuffer = 16 * blocksMade pos - pos
  buffer : 0 < c.bytesInBuffer → c.buffered = icmOctet key (clockCounter^[pos / 16] start)

theorem aesIcmAdvance_at {key x : V128} {c : AesIcmCtx} (hkey : c.expandedKey = aesExpandEncryptionKey key)
    (hx : c.counter = x) : (aesIcmAdvance c).expandedKey = aesExpandEncryptionKey key ∧
      (aesIcmAdvance c).counter = clockCounter x ∧ (aesIcmAdvance c).buffered = icmOctet key x := by
  subst hx
  refine ⟨hkey, rfl, ?_⟩
  funext i
  simp only [AesIcmCtx.buffered, aesIcmAdvance, icmOctet, hkey]

theorem encryptBlocks_spec {key : V128} {n : Nat} : ∀ {x : V128} {c : AesIcmCtx} (buf : Octets),
    c.expandedKey = aesExpandEncryptionKey key → c.counter = x →
    (encryptBlocks n c buf).1.expandedKey = aesExpandEncryptionKey key ∧
      (encryptBlocks n c buf).1.counter = clockCounter^[n] x ∧
      (encryptBlocks n c buf).1.offset = c.offset ∧
      (encryptBlocks n c buf).2 = xorBlocks clockCounter (icmOctet key) sizeofV128 n x buf := by
  induction n with
  | zero =>
    intro x c buf hkey hx
    exact ⟨hkey, hx, rfl, rfl⟩
  | succ n ih =>
    intro x c buf hkey hx
    obtain ⟨hkey', hx', hbuf⟩ := aesIcmAdvance_at hkey hx
    obtain ⟨h₁, h₂, h₃, h₄⟩ := ih (buf.drop sizeofV128) hkey' hx'
    refine ⟨h₁, h₂, h₃, ?_⟩
    simp only [encryptBlocks, xorBlocks, h₄, hbuf]

theorem xorStream_buffered {key start : V128} {pos : Nat} {c : AesIcmCtx} (h : At key start pos c)
    {buf : Octets} (hlen : buf.length ≤ c.bytesInBuffer) :
    xorStream (fun i => c.buffered (sizeofV128 - c.bytesInBuffer + i)) buf =
      xorStream (fun i => icmKeystream key start (pos + i)) buf := by
  refine xorStream_congr fun i hi => ?_
  have hb := h.bytesInBuffer
  simp only [blocksMade] at hb
  have hpos : sizeofV128 - c.bytesInBuffer = pos % sizeofV128 := by
    simp only [sizeofV128]
    omega
  rw [h.buffer (by omega), hpos]
  exact (keystream_rest (by decide) start (by simp only [sizeofV128] at *; omega)).symm

theorem At.small {key start : V128} {pos len : Nat} {c : AesIcmCtx} (h : At key start pos c)
    (hlen : len ≤ c.bytesInBuffer) :
    At key start (pos + len) { c with bytesInBuffer := c.bytesInBuffer - len } := by
  have hb := h.bytesInBuffer
  simp only [blocksMade] at hb
  have hmade : blocksMade (pos + len) = blocksMade pos := by
    simp only [blocksMade]
    omega
  refine ⟨h.expandedKey, ?_, ?_, ?_⟩
  · rw [hmade]
    exact h.counter
  · simp only [blocksMade]
    omega
  · intro hpos
    have hsame : (pos + len) / 16 = pos / 16 := by
      simp only at hpos
      omega
    rw [hsame]
    exact h.buffer (by simp only at hpos; omega)

/-- A call that uses the buffer up, makes `k` whole blocks and, for a tail, one more. -/
theorem At.large {key start : V128} {pos k : Nat} {c c' : AesIcmCtx} {tail : Nat} (h : At key start pos c)
    (htail : tail < 16) (hkey : c'.expandedKey = aesExpandEncryptionKey key)
    (hcounter : c'.counter = clockCounter^[k] c.counter) :
    At key start (pos + (c.bytesInBuffer + 16 * k + tail))
      (if tail ≠ 0 then { aesIcmAdvance c' with bytesInBuffer := sizeofV128 - tail }
        else { c' with bytesInBuffer := 0 }) := by
  have hb := h.bytesInBuffer
  have hfull : pos + c.bytesInBuffer = 16 * blocksMade pos := by
    simp only [blocksMade] at hb ⊢
    omega
  have hc : c'.counter = clockCounter^[blocksMade pos + k] start := by
    rw [hcounter, h.counter, ← Function.iterate_add_apply, Nat.add_comm]
  split
  · next hne =>
    have hmade : blocksMade (pos + (c.bytesInBuffer + 16 * k + tail)) = blocksMade pos + k + 1 := by
      simp only [blocksMade] at hfull ⊢
      omega
    obtain ⟨hkey', hc', hbuf⟩ := aesIcmAdvance_at hkey hc
    refine ⟨hkey', ?_, ?_, ?_⟩
    · rw [hmade, Function.iterate_succ_apply']
      exact hc'
    · simp only [hmade, sizeofV128]
      omega
    · intro _
      have hlast : (pos + (c.bytesInBuffer + 16 * k + tail)) / 16 = blocksMade pos + k := by omega
      rw [hlast]
      exact hbuf
  · next heq =>
    have hzero : tail = 0 := not_not.1 heq
    have hmade : blocksMade (pos + (c.bytesInBuffer + 16 * k + tail)) = blocksMade pos + k := by
      simp only [blocksMade] at hfull ⊢
      omega
    refine ⟨hkey, ?_, ?_, fun hpos => absurd hpos (Nat.lt_irrefl 0)⟩
    · rw [hmade]
      exact hc
    · simp only [hmade]
      omega

theorem addKeystream_parts {c : AesIcmCtx} {head body tail : Octets} {k : Nat}
    (hmore : ¬ (head ++ (body ++ tail)).length ≤ c.bytesInBuffer) (hhead : head.length = c.bytesInBuffer)
    (hbody : body.length = 16 * k) (htail : tail.length < 16) :
    addKeystream c (head ++ (body ++ tail)) =
      let blocks := encryptBlocks k { c with bytesInBuffer := 0 } (body ++ tail)
      (if tail.length ≠ 0 then
          { aesIcmAdvance blocks.1 with bytesInBuffer := sizeofV128 - tail.length }
        else { blocks.1 with bytesInBuffer := 0 },
        xorStream (fun i => c.buffered (sizeofV128 - c.bytesInBuffer + i)) head ++ blocks.2 ++
          xorStream (aesIcmAdvance blocks.1).buffered tail) := by
  have hk : (body ++ tail).length / sizeofV128 = k := by
    simp only [List.length_append, sizeofV128]
    omega
  have hbody' : sizeofV128 * k = body.length := hbody.symm
  rw [addKeystream, if_neg hmore]
  simp only [← hhead, List.take_left, List.drop_left, hk, hbody']
  by_cases hzero : tail.length = 0
  · rw [if_neg (not_not.2 hzero), if_neg (not_not.2 hzero), List.length_eq_zero_iff.1 hzero]
    simp [xorStream]
  · rw [if_pos hzero, if_pos hzero]

theorem addKeystream_spec {key start : V128} {pos : Nat} {c : AesIcmCtx} (h : At key start pos c)
    (buf : Octets) :
    (addKeystream c buf).2 = xorStream (fun i => icmKeystream key start (pos + i)) buf ∧
      At key start (pos + buf.length) (addKeystream c buf).1 ∧ (addKeystream c buf).1.offset = c.offset := by
  by_cases hsmall : buf.length ≤ c.bytesInBuffer
  · rw [addKeystream, if_pos hsmall, xorStream_buffered h hsmall]
    exact ⟨rfl, h.small hsmall, rfl⟩
  · have hb := h.bytesInBuffer
    -- the data cut at the end of the buffer and at the end of the last whole block
    obtain ⟨head, rest, rfl, hhead⟩ : ∃ head rest, buf = head ++ rest ∧ head.length = c.bytesInBuffer :=
      ⟨buf.take c.bytesInBuffer, buf.drop c.bytesInBuffer, (List.take_append_drop _ _).symm,
        List.length_take_of_le (by omega)⟩
    obtain ⟨body, tail, k, rfl, hbody, htail⟩ : ∃ body tail k, rest = body ++ tail ∧
        body.length = 16 * k ∧ tail.length < 16 := by
      have hcut : 16 * (rest.length / 16) ≤ rest.length := Nat.mul_div_le _ _
      refine ⟨rest.take (16 * (rest.length / 16)), rest.drop (16 * (rest.length / 16)), rest.length / 16,
        (List.take_append_drop _ _).symm, List.length_take_of_le hcut, ?_⟩
      rw [List.length_drop]
      omega
    have hlen : (head ++ (body ++ tail)).length = c.bytesInBuffer + 16 * k + tail.length := by
      simp only [List.length_append]
      omega
    have hfull : pos + head.length = 16 * blocksMade pos := by
      simp only [blocksMade] at hb ⊢
      omega
    obtain ⟨hkey, hcounter, hoff, hblocks⟩ := encryptBlocks_spec (n := k) (x := c.counter)
      (c := { c with bytesInBuffer := 0 }) (body ++ tail) h.expandedKey rfl
    have hlast := (aesIcmAdvance_at hkey hcounter).2.2
    have hout : xorStream (fun i => icmKeystream key start (pos + i)) (head ++ body ++ tail) = _ :=
      xorStream_from (n := sizeofV128) (by decide) start hfull hbody htail
    rw [addKeystream_parts hsmall hhead hbody htail, hlen]
    refine ⟨?_, h.large htail hkey hcounter, ?_⟩
    · have hx : clockCounter^[k] c.counter = clockCounter^[blocksMade pos + k] start := by
        rw [h.counter, ← Function.iterate_add_apply, Nat.add_comm]
      simp only
      rw [hblocks, hlast, hx, xorBlocks_append (n := sizeofV128) hbody,
        xorStream_buffered h (Nat.le_of_eq hhead), h.counter, ← List.append_assoc]
      exact hout.symm
    · simp only
      split
      · exact hoff
      · exact hoff

theorem aesIcmSetIv_at {key : V128} {c : AesIcmCtx} (hkey : c.expandedKey = aesExpandEncryptionKey key)
    (nonce : V128) : At key (c.offset.xor nonce) 0 (aesIcmSetIv c nonce) :=
  ⟨hkey, rfl, rfl, fun hpos => absurd hpos (Nat.lt_irrefl 0)⟩

/-- The salt that stands behind the key, with its two last octets zero. -/
def icmOffset (key : Octets) : V128 :=
  V128.ofV8 fun i => if i < 14 then (key.getD (16 + i) 0).toBitVec else 0#8

theorem aesIcmContextInit_offset (c : AesIcmCtx) (key : Octets) :
    (aesIcmContextInit c key).offset = icmOffset key := by
  apply v8_ext
  intro i hi
  simp only [aesIcmContextInit]
  rw [v8_setV8 _ (by decide) hi, v8_setV8 _ (by decide) hi, icmOffset, v8_ofV8 _ hi, v128CopyOctetString,
    v8_ofV8 _ hi, List.getD_eq_getElem?_getD, List.getElem?_drop, ← List.getD_eq_getElem?_getD]
  grind

theorem isStart_xor (key : Octets) {iv : V128} (h : IsStart iv) : IsStart ((icmOffset key).xor iv) := by
  constructor
  · rw [v8_xor _ _ (by decide), h.1, icmOffset, v8_ofV8 _ (by decide), if_neg (by decide)]
    rfl
  · rw [v8_xor _ _ (by decide), h.2, icmOffset, v8_ofV8 _ (by decide), if_neg (by decide)]
    rfl

theorem getD_eq_of_take {as bs : Octets} {n : Nat} (h : as.take n = bs.take n) {i : Nat} (hi : i < n) :
    as.getD i 0 = bs.getD i 0 := by
  have hget := congrArg (·[i]?) h
  simp only [List.getElem?_take_of_lt hi] at hget
  rw [List.getD_eq_getElem?_getD, List.getD_eq_getElem?_getD, hget]

theorem icmOffset_congr {key key' : Octets} (h : key.take 30 = key'.take 30) : icmOffset key = icmOffset key' := by
  apply v8_ext
  intro i hi
  rw [icmOffset, icmOffset, v8_ofV8 _ hi, v8_ofV8 _ hi]
  split
  · rw [getD_eq_of_take h (by omega)]
  · rfl

theorem v128CopyOctetString_congr {s s' : Octets} {n : Nat} (h : s.take n = s'.take n) (hn : 16 ≤ n) :
    v128CopyOctetString s = v128CopyOctetString s' := by
  apply v8_ext
  intro i hi
  rw [v128CopyOctetString, v128CopyOctetString, v8_ofV8 _ hi, v8_ofV8 _ hi, getD_eq_of_take h (by omega)]

/-! ## Calls one after the other -/

/-- What the check lets through: the octets of each call with the blocks made before it are at most the
largest value of the block counter. -/
def enoughLeft : Nat → List Nat → Bool
  | _, [] => true
  | pos, len :: lens => len + blocksMade pos ≤ 0xffff && enoughLeft (pos + len) lens

theorem At.blockIndex {key start : V128} {pos : Nat} {c : AesIcmCtx} (h : At key start pos c)
    (hstart : IsStart start) (hpos : blocksMade pos ≤ 0xffff) : c.blockIndex = blocksMade pos := by
  rw [AesIcmCtx.blockIndex, h.counter, clockCounter_iterate hstart, counterBlock_blockIndex,
    Nat.mod_eq_of_lt (by omega)]

theorem At.hasLeft {key start : V128} {pos : Nat} {c : AesIcmCtx} (h : At key start pos c)
    (hstart : IsStart start) (hpos : blocksMade pos ≤ 0xffff) {len : Nat} (hlen : len < 2 ^ 31) :
    c.hasLeft len = true ↔ len + blocksMade pos ≤ 0xffff := by
  rw [AesIcmCtx.hasLeft, h.blockIndex hstart hpos, Nat.mod_eq_of_lt (by omega), decide_eq_true_iff]

/-- The pieces that the keystream is added to, each from where the one before it ended. -/
def xorPieces (ks : Nat → UInt8) : Nat → List Octets → List Octets
  | _, [] => []
  | pos, buf :: bufs => xorStream (fun i => ks (pos + i)) buf :: xorPieces ks (pos + buf.length) bufs

theorem xorPieces_flatten (ks : Nat → UInt8) : ∀ (pos : Nat) (bufs : List Octets),
    (xorPieces ks pos bufs).flatten = xorStream (fun i => ks (pos + i)) bufs.flatten := by
  intro pos bufs
  induction bufs generalizing pos with
  | nil => rfl
  | cons buf bufs ih =>
    rw [xorPieces, List.flatten_cons, ih, List.flatten_cons, xorStream_append]
    congr 2
    funext i
    congr 1
    omega

/-- Calls go through just if each finds enough left, and together they add the one keystream to their
pieces. -/
theorem encryptAll_spec {key start : V128} (hstart : IsStart start) : ∀ {bufs : List Octets} {pos : Nat}
    {c : AesIcmCtx}, At key start pos c → blocksMade pos ≤ 0xffff →
    (∀ buf ∈ bufs, buf.length < 2 ^ 31) →
    if enoughLeft pos (bufs.map List.length) then
      ∃ c', encryptAll c bufs = some (c', xorPieces (icmKeystream key start) pos bufs) ∧
        At key start (pos + bufs.flatten.length) c' ∧ blocksMade (pos + bufs.flatten.length) ≤ 0xffff
    else encryptAll c bufs = none := by
  intro bufs
  induction bufs with
  | nil =>
    intro pos c h hpos _
    exact ⟨c, rfl, h, hpos⟩
  | cons buf bufs ih =>
    intro pos c h hpos hlen
    have hbuf := hlen buf (List.mem_cons_self ..)
    have hleft := h.hasLeft hstart hpos hbuf
    by_cases hroom : buf.length + blocksMade pos ≤ 0xffff
    · obtain ⟨hout, hat, -⟩ := addKeystream_spec h buf
      have hpos₁ : blocksMade (pos + buf.length) ≤ 0xffff := by
        simp only [blocksMade] at hroom ⊢
        omega
      have hrest := ih hat hpos₁ fun b hb => hlen b (List.mem_cons_of_mem _ hb)
      have henc : aesIcmEncrypt c buf = some (addKeystream c buf) := by
        rw [aesIcmEncrypt, if_pos (hleft.2 hroom)]
      simp only [List.map_cons, enoughLeft, decide_eq_true hroom, Bool.true_and, encryptAll, henc]
      by_cases hmore : enoughLeft (pos + buf.length) (bufs.map List.length) = true
      · rw [if_pos hmore] at hrest ⊢
        obtain ⟨c₂, hall, hat₂, hpos₂⟩ := hrest
        rw [List.flatten_cons, List.length_append, ← Nat.add_assoc, hall, hout]
        exact ⟨c₂, rfl, hat₂, hpos₂⟩
      · rw [if_neg hmore] at hrest ⊢
        rw [hrest]
    · have hnone : aesIcmEncrypt c buf = none := by
        rw [aesIcmEncrypt, if_neg (fun hl => hroom (hleft.1 hl))]
      simp [enoughLeft, hroom, encryptAll, hnone]

theorem counterBlock_inj {start : V128} {m n : Nat} (hm : m ≤ 0xffff) (hn : n ≤ 0xffff)
    (h : counterBlock start m = counterBlock start n) : m = n := by
  have hidx := counterBlock_blockIndex start m
  rw [h, counterBlock_blockIndex] at hidx
  omega

/-- The keystream of counter mode, from the standard: octet `i` of the blocks that the cipher makes of the
salt with the nonce added to it and the numbers of the blocks behind them. -/
def standardKeystream (key : Octets) (iv : V128) (i : Nat) : UInt8 :=
  UInt8.ofBitVec (stateOctet (cipher sboxes (roundKey sboxes (v128CopyOctetString key).state)
    (counterBlock ((icmOffset key).xor iv) (i / 16)).state) (i % 16))

theorem encryptAll_fresh (c : AesIcmCtx) (key : Octets) {iv : V128} (hiv : IsStart iv) {bufs : List Octets}
    (hlen : ∀ buf ∈ bufs, buf.length < 2 ^ 31) :
    if enoughLeft 0 (bufs.map List.length) then
      ∃ c', encryptAll (aesIcmSetIv (aesIcmContextInit c key) iv) bufs =
          some (c', xorPieces (standardKeystream key iv) 0 bufs) ∧
        blocksMade bufs.flatten.length ≤ 0xffff
    else encryptAll (aesIcmSetIv (aesIcmContextInit c key) iv) bufs = none := by
  have hstart := isStart_xor key hiv
  have hkey : (aesIcmContextInit c key).expandedKey = aesExpandEncryptionKey (v128CopyOctetString key) := rfl
  have hat := aesIcmSetIv_at hkey iv
  rw [aesIcmContextInit_offset] at hat
  have hks : icmKeystream (v128CopyOctetString key) ((icmOffset key).xor iv) = standardKeystream key iv := by
    funext i
    exact icmKeystream_eq hstart _ i
  have hall := encryptAll_spec hstart hat (by decide) hlen
  rw [hks] at hall
  split at hall
  · next hroom =>
    obtain ⟨c', hsome, -, hblocks⟩ := hall
    rw [if_pos hroom]
    rw [Nat.zero_add] at hblocks
    exact ⟨c', hsome, hblocks⟩
  · next hroom =>
    rw [if_neg hroom]
    exact hall

/-- Data may be cut into pieces in any way, and in another way by the receiver. A call is refused just if its
octets and the blocks made so far exceed the largest value of the block counter; up to there the pieces get
the keystream of the standard, no block of which is made from the same input as another, and the receiver,
whose key agrees in its thirty octets, gets the data back. -/
theorem icm_pieces (c : AesIcmCtx) (key : Octets) (iv : V128) (hiv : IsStart iv) (bufs : List Octets)
    (hlen : ∀ buf ∈ bufs, buf.length < 2 ^ 31) :
    let sender := aesIcmSetIv (aesIcmContextInit c key) iv
    ((encryptAll sender bufs).isSome ↔ enoughLeft 0 (bufs.map List.length)) ∧
      ∀ c' outs, encryptAll sender bufs = some (c', outs) →
        outs.flatten = xorStream (standardKeystream key iv) bufs.flatten ∧
        (∀ m n, m < blocksMade bufs.flatten.length → n < blocksMade bufs.flatten.length →
          counterBlock ((icmOffset key).xor iv) m = counterBlock ((icmOffset key).xor iv) n → m = n) ∧
        ∀ (r : AesIcmCtx) (key' : Octets) (pieces : List Octets), key'.take 30 = key.take 30 →
          pieces.flatten = outs.flatten → (∀ piece ∈ pieces, piece.length < 2 ^ 31) →
          enoughLeft 0 (pieces.map List.length) →
          ∃ r' plain, encryptAll (aesIcmSetIv (aesIcmContextInit r key') iv) pieces = some (r', plain) ∧
            plain.flatten = bufs.flatten := by
  intro sender
  have hall := encryptAll_fresh c key hiv hlen
  have hflat : ∀ (k : Octets) (bs : List Octets), (xorPieces (standardKeystream k iv) 0 bs).flatten =
      xorStream (standardKeystream k iv) bs.flatten := by
    intro k bs
    rw [xorPieces_flatten]
    simp only [Nat.zero_add]
  split at hall
  · next hroom =>
    obtain ⟨c₁, hsome, hblocks⟩ := hall
    refine ⟨by simp [sender, hsome, hroom], ?_⟩
    rintro c' outs houts
    cases hsome.symm.trans houts
    refine ⟨hflat _ _, ?_, ?_⟩
    · intro m n hm hn h
      exact counterBlock_inj (by omega) (by omega) h
    · intro r key' pieces hkey hpieces hsmall hleft
      have hdec := encryptAll_fresh r key' hiv hsmall
      rw [if_pos hleft] at hdec
      obtain ⟨r', hr, -⟩ := hdec
      have hks : standardKeystream key' iv = standardKeystream key iv := by
        funext i
        rw [standardKeystream, standardKeystream, icmOffset_congr hkey,
          v128CopyOctetString_congr hkey (by decide)]
      refine ⟨r', _, hr, ?_⟩
      rw [hflat, hpieces, hflat, hks, xorStream_twice]
  · next hroom =>
    refine ⟨by simp [sender, hall, hroom], ?_⟩
    intro c' outs houts
    exact absurd (hall.symm.trans houts) (by simp)

/-- Three calls: two within the first block, and one that ends in the third. -/
theorem icm_pieces_three : ∃ c' outs,
    encryptAll (aesIcmSetIv (aesIcmContextInit ⟨V128.zero, V128.zero, V128.zero, [], 0⟩
      (List.replicate 30 7)) V128.zero) [[1, 2, 3], [4], List.replicate 40 5] = some (c', outs) ∧
    outs.flatten = xorStream (standardKeystream (List.replicate 30 7) V128.zero)
      ([1, 2, 3, 4] ++ List.replicate 40 5) := by
  obtain ⟨hsome, hall⟩ := icm_pieces ⟨V128.zero, V128.zero, V128.zero, [], 0⟩ (List.replicate 30 7)
    V128.zero (by decide) [[1, 2, 3], [4], List.replicate 40 5] (by decide)
  obtain ⟨⟨c', outs⟩, hrun⟩ := Option.isSome_iff_exists.1 (hsome.2 (by decide))
  exact ⟨c', outs, hrun, (hall c' outs hrun).1⟩

end Native
end OnionPhone
