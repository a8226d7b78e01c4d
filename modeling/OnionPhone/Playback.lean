import OnionPhone.Lib.Stream

/-!
# OnionPhone.Playback

The thread that plays what the peer says: `AudioOutputWorker.run`, with `Codec2` as its codec. It reads
frames into one array, decodes the array and writes the samples to the audio track. The end of the stream
is found by the read, which clears the flag of the loop; the round is finished nevertheless.

* `playLoop_eq`: the frames are decoded one after the other, and then the array once more.
* `each_frame_once_iff`: each frame is decoded once and nothing else is, only if the codec throws at the
  last frame.
* `codec2_decodes_stale`: with `Codec2` there is always one frame too many.
-/

namespace OnionPhone
namespace Playback

open Wire Wire.Octets

/-! ## The worker -/

/-- What the worker asks of the codec, of the audio track and of the stream. -/
inductive Call where
  | initCodec
  | play
  | decode (bytes : Octets)
  | write (samples : List Int)
  | stop
  | release
  | close
  deriving DecidableEq, Repr

/-- A `Codec`, as far as playing goes: `decode` makes samples of an array of `bytesSize` bytes, `initCodec`
is its `initialize`. `σ` is the state of the codec and `ε` what it throws. -/
structure Decoder (σ ε : Type) where
  bytesSize : Nat
  initCodec : σ → σ
  decode : σ → Octets → Except ε (σ × List Int)
  release : σ → Except ε σ

/-- `org.theonionphone.audio.AudioOutputWorker`, with the local array of `run`. -/
structure AudioOutputWorker (σ : Type) where
  inputStream : List Octets
  codec : σ
  bytes : Octets
  running : Bool := true

variable {σ ε : Type}

def readFromStream (w : AudioOutputWorker σ) : AudioOutputWorker σ :=
  match readFullyInto w.bytes w.inputStream with
  | (bytes, some rest) => { w with bytes := bytes, inputStream := rest }
  -- the `IOException` is caught; what there was of the frame is in the array
  | (bytes, none) => { w with bytes := bytes, inputStream := [], running := false }

/-- The loop of `run`: the calls it makes, and how it ends. `none`: it has used up its rounds. -/
def playLoop (C : Decoder σ ε) : Nat → AudioOutputWorker σ → List Call × Option (Except ε σ)
  | 0, _ => ([], none)
  | fuel + 1, w =>
    if w.running then
      let w := readFromStream w
      match C.decode w.codec w.bytes with
      | .error e => ([.decode w.bytes], some (.error e))
      | .ok (codec, samples) =>
        let r := playLoop C fuel { w with codec := codec }
        (.decode w.bytes :: .write samples :: r.1, r.2)
    else ([], some (.ok w.codec))

def start (C : Decoder σ ε) (codec : σ) (inputStream : List Octets) : AudioOutputWorker σ where
  inputStream := inputStream
  codec := C.initCodec codec
  bytes := List.replicate C.bytesSize 0

def run (C : Decoder σ ε) (fuel : Nat) (codec : σ) (inputStream : List Octets) :
    List Call × Option (Except ε Unit) :=
  let r := playLoop C fuel (start C codec inputStream)
  let calls := .initCodec :: .play :: r.1
  match r.2 with
  | none => (calls, none)
  | some (.error e) => (calls, some (.error e))
  | some (.ok codec) =>
    match C.release codec with
    | .error e => (calls ++ [.stop, .release], some (.error e))
    | .ok _ => (calls ++ [.stop, .release, .close], some (.ok ()))

/-- The arrays passed to `Codec.decode`. -/
def decoded : List Call → List Octets
  | [] => []
  | .decode bytes :: calls => bytes :: decoded calls
  | _ :: calls => decoded calls

def written : List Call → List (List Int)
  | [] => []
  | .write samples :: calls => samples :: written calls
  | _ :: calls => written calls

theorem decoded_append (xs ys : List Call) : decoded (xs ++ ys) = decoded xs ++ decoded ys := by
  induction xs with
  | nil => rfl
  | cons x xs ih => cases x <;> simp [decoded, ih]

theorem written_append (xs ys : List Call) : written (xs ++ ys) = written xs ++ written ys := by
  induction xs with
  | nil => rfl
  | cons x xs ih => cases x <;> simp [written, ih]

/-! ## The frames of the loop -/

/-- The rounds of the loop on arrays that are given one by one. -/
def decodeAll (C : Decoder σ ε) : σ → List Octets → List Call × Except ε σ
  | s, [] => ([], .ok s)
  | s, b :: bs =>
    match C.decode s b with
    | .error e => ([.decode b], .error e)
    | .ok (s', samples) =>
      let r := decodeAll C s' bs
      (.decode b :: .write samples :: r.1, r.2)

/-- What is in the array after a stream has ended: its last complete block, or what was there before it,
with the rest of the stream written over the front. -/
def stale (n : Nat) (buf bs : Octets) : Octets :=
  writeAt ((blocks n bs).getLast?.getD buf) 0 (bs.drop (bs.length / n * n))

theorem stale_short {n : Nat} {buf bs : Octets} (h : bs.length < n) : stale n buf bs = writeAt buf 0 bs := by
  simp [stale, blocks_short h, Nat.div_eq_of_lt h]

theorem stale_append {n : Nat} (hn : 0 < n) {buf b bs : Octets} (hb : b.length = n) :
    stale n buf (b ++ bs) = stale n b bs := by
  have hdiv : (b ++ bs).length / n * n = b.length + bs.length / n * n := by
    rw [List.length_append, hb, Nat.add_div_left _ hn, Nat.succ_mul, Nat.add_comm]
  rw [stale, blocks_append hn hb, hdiv, ← List.drop_drop, List.drop_left, stale]
  cases blocks n bs with
  | nil => rfl
  | cons x xs => simp [List.getLast?_cons]

theorem readFromStream_block {w : AudioOutputWorker σ} {b rest : Octets}
    (h : w.inputStream.flatten = b ++ rest) (hb : b.length = w.bytes.length) :
    ∃ inp, inp.flatten = rest ∧ readFromStream w = { w with bytes := b, inputStream := inp } := by
  obtain ⟨inp, hr, hi⟩ := readFully_append h hb
  exact ⟨inp, hi, by simp only [readFromStream, readFullyInto, hr]⟩

theorem readFromStream_end {w : AudioOutputWorker σ} (h : w.inputStream.flatten.length < w.bytes.length) :
    readFromStream w =
      { w with bytes := writeAt w.bytes 0 w.inputStream.flatten, inputStream := [], running := false } := by
  simp only [readFromStream, readFullyInto, readFully_short h]

/-- The complete frames of the stream, and then the array as the end of the stream has left it. -/
theorem playLoop_eq (C : Decoder σ ε) {fuel : Nat} {w : AudioOutputWorker σ} (hrun : w.running = true)
    (hn : 0 < w.bytes.length) (hf : w.inputStream.flatten.length / w.bytes.length + 1 < fuel) :
    playLoop C fuel w =
      let r := decodeAll C w.codec (blocks w.bytes.length w.inputStream.flatten ++
        [stale w.bytes.length w.bytes w.inputStream.flatten])
      (r.1, some r.2) := by
  induction fuel generalizing w with
  | zero => exact absurd hf (Nat.not_lt_zero _)
  | succ f ih =>
    rw [playLoop, if_pos hrun]
    by_cases hl : w.inputStream.flatten.length < w.bytes.length
    · -- the stream ends in this round, and the next one is not begun
      rw [Nat.div_eq_of_lt hl] at hf
      obtain ⟨f, rfl⟩ : ∃ k, f = k + 1 := ⟨f - 1, by omega⟩
      rw [readFromStream_end hl, blocks_short hl, stale_short hl]
      simp only [List.nil_append, decodeAll]
      cases C.decode w.codec (writeAt w.bytes 0 w.inputStream.flatten) with
      | error e => rfl
      | ok r => rfl
    · obtain ⟨b, rest, hb, hbn⟩ : ∃ b rest, w.inputStream.flatten = b ++ rest ∧ b.length = w.bytes.length :=
        ⟨w.inputStream.flatten.take w.bytes.length, w.inputStream.flatten.drop w.bytes.length,
          (List.take_append_drop _ _).symm, List.length_take_of_le (Nat.le_of_not_lt hl)⟩
      obtain ⟨inp, hi, hr⟩ := readFromStream_block hb hbn
      rw [hb, List.length_append, hbn, Nat.add_div_left _ hn] at hf
      rw [hr, hb, blocks_append hn hbn, stale_append hn hbn, List.cons_append]
      simp only [decodeAll]
      cases C.decode w.codec b with
      | error e => rfl
      | ok r =>
        have hrec := ih (w := { w with bytes := b, inputStream := inp, codec := r.1 }) hrun
          (by simp only [hbn]; exact hn) (by simp only [hbn, hi]; omega)
        simp only [hbn, hi] at hrec
        simp only [hrec]

theorem decodeAll_cases (C : Decoder σ ε) (bs : List Octets) (s : σ) :
    (∃ s', (decodeAll C s bs).2 = .ok s' ∧ decoded (decodeAll C s bs).1 = bs) ∨
    ∃ pre b post s' e, bs = pre ++ b :: post ∧ (decodeAll C s pre).2 = .ok s' ∧ C.decode s' b = .error e ∧
      decoded (decodeAll C s bs).1 = pre ++ [b] := by
  induction bs generalizing s with
  | nil => exact .inl ⟨s, rfl, rfl⟩
  | cons b bs ih =>
    cases hd : C.decode s b with
    | error e =>
      right
      refine ⟨[], b, bs, s, e, rfl, rfl, hd, ?_⟩
      simp only [decodeAll, hd, decoded, List.nil_append]
    | ok r =>
      obtain ⟨s₁, samples⟩ := r
      obtain ⟨s', hs', hdec⟩ | ⟨pre, x, post, s', e, rfl, hs', hx, hdec⟩ := ih s₁
      · left
        refine ⟨s', ?_, ?_⟩
        · simp only [decodeAll, hd, hs']
        · simp only [decodeAll, hd, decoded, hdec]
      · right
        refine ⟨b :: pre, x, post, s', e, rfl, ?_, hx, ?_⟩
        · simp only [decodeAll, hd, hs']
        · simp only [decodeAll, hd, decoded, hdec, List.cons_append]

/-- The codec throws at the last of these frames, and at none before it. -/
def ThrowsAtLast (C : Decoder σ ε) (s : σ) (frames : List Octets) : Prop :=
  ∃ pre last s' e, frames = pre ++ [last] ∧ (decodeAll C s pre).2 = .ok s' ∧ C.decode s' last = .error e

theorem decoded_eq_iff (C : Decoder σ ε) (s : σ) (frames : List Octets) (extra : Octets) :
    decoded (decodeAll C s (frames ++ [extra])).1 = frames ↔ ThrowsAtLast C s frames := by
  constructor
  · intro h
    obtain ⟨s', -, hdec⟩ | ⟨pre, b, post, s', e, hbs, hs', hb, hdec⟩ :=
      decodeAll_cases C (frames ++ [extra]) s
    · rw [hdec] at h
      simp at h
    · exact ⟨pre, b, s', e, h ▸ hdec, hs', hb⟩
  · rintro ⟨pre, last, s', e, rfl, hs', hlast⟩
    induction pre generalizing s with
    | nil =>
      cases hs'
      simp only [List.nil_append, List.cons_append, decodeAll, hlast, decoded]
    | cons b pre ih =>
      simp only [List.cons_append, decodeAll] at hs' ⊢
      cases hd : C.decode s b with
      | error e =>
        rw [hd] at hs'
        cases hs'
      | ok r =>
        rw [hd] at hs'
        simp only [decoded, ih r.1 hs']

theorem written_le_decoded (C : Decoder σ ε) (bs : List Octets) (s : σ) :
    (written (decodeAll C s bs).1).length ≤ (decoded (decodeAll C s bs).1).length := by
  induction bs generalizing s with
  | nil => exact Nat.le_refl _
  | cons b bs ih =>
    cases hd : C.decode s b with
    | error e => simp [decodeAll, hd, written]
    | ok r =>
      have hrest := ih r.1
      simp only [decodeAll, hd, written, decoded, List.length_cons]
      omega

/-! ## A whole run -/

theorem run_eq (C : Decoder σ ε) (hn : 0 < C.bytesSize) {fuel : Nat} (codec : σ) {inputStream : List Octets}
    (hf : inputStream.flatten.length / C.bytesSize + 1 < fuel) :
    let r := decodeAll C (C.initCodec codec) (blocks C.bytesSize inputStream.flatten ++
      [stale C.bytesSize (List.replicate C.bytesSize 0) inputStream.flatten])
    decoded (run C fuel codec inputStream).1 = decoded r.1 ∧
      written (run C fuel codec inputStream).1 = written r.1 ∧ (run C fuel codec inputStream).2.isSome := by
  have hlen : (start C codec inputStream).bytes.length = C.bytesSize := List.length_replicate
  have hloop : playLoop C fuel (start C codec inputStream) = _ :=
    playLoop_eq C rfl (by rw [hlen]; exact hn) (by rw [hlen]; exact hf)
  rw [hlen] at hloop
  unfold run
  simp only [hloop]
  split
  · next h => cases h
  · exact ⟨rfl, rfl, rfl⟩
  · split
    · simp [decoded_append, written_append, decoded, written, start]
    · simp [decoded_append, written_append, decoded, written, start]

/-- Each complete frame of the stream is decoded once, in order, and nothing else is decoded or written to
the audio track. -/
structure EachFrameOnce (n : Nat) (input : Octets) (calls : List Call) : Prop where
  decoded_eq : decoded calls = blocks n input
  written_le : (written calls).length ≤ input.length / n

theorem each_frame_once_iff (C : Decoder σ ε) (hn : 0 < C.bytesSize) {fuel : Nat} (codec : σ)
    (inputStream : List Octets) (hf : inputStream.flatten.length / C.bytesSize + 1 < fuel) :
    EachFrameOnce C.bytesSize inputStream.flatten (run C fuel codec inputStream).1 ↔
      ThrowsAtLast C (C.initCodec codec) (blocks C.bytesSize inputStream.flatten) := by
  obtain ⟨hdec, hwr, -⟩ := run_eq C hn codec hf
  rw [← decoded_eq_iff C _ _ (stale C.bytesSize (List.replicate C.bytesSize 0) inputStream.flatten)]
  constructor
  · intro h
    rw [← hdec]
    exact h.decoded_eq
  · intro h
    refine ⟨hdec.trans h, ?_⟩
    have hle := written_le_decoded C (blocks C.bytesSize inputStream.flatten ++
      [stale C.bytesSize (List.replicate C.bytesSize 0) inputStream.flatten]) (C.initCodec codec)
    rw [h, blocks_length] at hle
    rw [hwr]
    exact hle

/-! ## Codec2 -/

/-- `org.theonionphone.common.exceptions.CodecException` -/
structure CodecException where
  msg : String
  deriving DecidableEq, Repr

/-- `org.theonionphone.audio.codecs.Codec2`, with the decoder that `codec2_jni.c` keeps; `none` stands for
its null pointer. -/
structure Codec2 (δ : Type) where
  initializedTimes : Nat := 0
  codec2 : Option δ := none

namespace Codec2

variable {δ : Type}

/-- `create` is what `codec2_create` gives; nobody looks whether it is null. -/
def initCodec (create : Option δ) (c : Codec2 δ) : Codec2 δ where
  initializedTimes := c.initializedTimes + 1
  codec2 := if c.initializedTimes = 0 then create else c.codec2

def checkIfInitialized (c : Codec2 δ) : Except CodecException Unit :=
  if c.initializedTimes = 0 then .error ⟨"Codec not initialized"⟩ else .ok ()

/-- `codec2_decode` changes the decoder that it is given. -/
def decode (codec2_decode : δ → Octets → δ × List Int) (c : Codec2 δ) (input : Octets) :
    Except CodecException (Codec2 δ × List Int) := do
  checkIfInitialized c
  match c.codec2 with
  | none => .error ⟨"Library returned error"⟩
  | some d =>
    let (d, output) := codec2_decode d input
    pure ({ c with codec2 := some d }, output)

/-- `codec2_destroy` leaves the pointer where it is. -/
def release (c : Codec2 δ) : Except CodecException (Codec2 δ) := do
  checkIfInitialized c
  pure { c with initializedTimes := c.initializedTimes - 1 }

def decoder (create : Option δ) (codec2_decode : δ → Octets → δ × List Int) :
    Decoder (Codec2 δ) CodecException where
  bytesSize := 7
  initCodec := initCodec create
  decode := decode codec2_decode
  release := release

structure Ready (c : Codec2 δ) : Prop where
  used : c.initializedTimes ≠ 0
  created : c.codec2.isSome

theorem ready_initCodec {create : Option δ} (hc : create.isSome) {c : Codec2 δ}
    (h : c.initializedTimes ≠ 0 → c.codec2.isSome) : (c.initCodec create).Ready := by
  refine ⟨by simp [initCodec], ?_⟩
  unfold initCodec
  by_cases h0 : c.initializedTimes = 0
  · simp only [if_pos h0, hc]
  · simp only [if_neg h0, h h0]

theorem ready_decode (codec2_decode : δ → Octets → δ × List Int) {c : Codec2 δ} (h : c.Ready)
    (input : Octets) : ∃ c' output, c.decode codec2_decode input = .ok (c', output) ∧ c'.Ready := by
  obtain ⟨d, hd⟩ := Option.isSome_iff_exists.1 h.created
  refine ⟨{ c with codec2 := some (codec2_decode d input).1 }, (codec2_decode d input).2, ?_, ?_⟩
  · simp only [decode, checkIfInitialized, if_neg h.used, hd]
    rfl
  · exact ⟨h.used, rfl⟩

theorem decoded_of_ready (create : Option δ) (codec2_decode : δ → Octets → δ × List Int) {c : Codec2 δ}
    (h : c.Ready) (bs : List Octets) :
    decoded (decodeAll (decoder create codec2_decode) c bs).1 = bs := by
  induction bs generalizing c with
  | nil => rfl
  | cons b bs ih =>
    obtain ⟨c', output, hdec, hc'⟩ := ready_decode codec2_decode h b
    have hd : (decoder create codec2_decode).decode c b = .ok (c', output) := hdec
    simp only [decodeAll, hd, decoded, ih hc']

end Codec2

/-- With `Codec2` the array is decoded once more after the end of the stream, whatever is in it. -/
theorem codec2_decodes_stale {δ : Type} {create : Option δ} (hcreate : create.isSome)
    (codec2_decode : δ → Octets → δ × List Int) {c : Codec2 δ}
    (hc : c.initializedTimes ≠ 0 → c.codec2.isSome) {fuel : Nat} {inputStream : List Octets}
    (hf : inputStream.flatten.length / 7 + 1 < fuel) :
    decoded (run (Codec2.decoder create codec2_decode) fuel c inputStream).1 =
      blocks 7 inputStream.flatten ++ [stale 7 (List.replicate 7 0) inputStream.flatten] := by
  obtain ⟨hdec, -, -⟩ := run_eq (Codec2.decoder create codec2_decode) (Nat.succ_pos 6) c hf
  rw [hdec]
  exact Codec2.decoded_of_ready create codec2_decode (Codec2.ready_initCodec hcreate hc) _

def silence : Decoder (Codec2 Unit) CodecException :=
  Codec2.decoder (some ()) fun d _ => (d, List.replicate 160 0)

/-- One frame and three bytes of the next, in two pieces. -/
theorem each_frame_once_partial_tail :
    ¬ EachFrameOnce 7 [1, 2, 3, 4, 5, 6, 7, 8, 9, 10]
      (run silence 3 {} [[1, 2, 3, 4], [5, 6, 7, 8, 9, 10]]).1 := by
  intro h
  obtain ⟨pre, last, c, e, hframes, hpre, hlast⟩ :=
    (each_frame_once_iff silence (by decide) {} [[1, 2, 3, 4], [5, 6, 7, 8, 9, 10]] (by decide)).1 h
  have hblocks : blocks silence.bytesSize [[1, 2, 3, 4], [5, 6, 7, 8, 9, 10]].flatten =
      [[1, 2, 3, 4, 5, 6, 7]] := by decide
  rw [hblocks] at hframes
  cases pre with
  | nil =>
    cases hpre
    cases hlast
  | cons b pre => simp at hframes

/-- A stream that ends at once: a frame of zeros is decoded and played. -/
theorem empty_stream_plays :
    decoded (run silence 2 {} []).1 = [[0, 0, 0, 0, 0, 0, 0]] ∧
    ¬ EachFrameOnce 7 [] (run silence 2 {} []).1 := by
  refine ⟨by decide, ?_⟩
  intro h
  have hdec := h.decoded_eq
  revert hdec
  decide

end Playback
end OnionPhone
