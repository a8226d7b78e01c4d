import OnionPhone.Lib.Loop
import OnionPhone.Playback

/-!
# OnionPhone.AudioWorker

The two threads that use the audio hardware: `AudioInputWorker.run` records, encodes and writes to a pipe,
`AudioOutputWorker.run` reads from a pipe, decodes and plays. Both count themselves in at the codec, start
their device and loop until their flag is cleared; what comes after the loop stands in no `finally`.

* `AudioInputWorker.run`, `AudioOutputWorker.run`: what the threads ask for, and how they end.
* `released_iff`: a thread that has ended has given everything back just if no call of its codec has thrown.
* `AudioOutputWorker.run_playback`: if nobody calls `stopAndClose`, the second thread is the one of
  `Playback`.
-/

namespace OnionPhone
namespace AudioWorker

open Wire Playback

variable {ε : Type}

/-- A `Codec` as one of its users meets it: `encode i` and `decode i` are what the `i`-th call answers. The
codec has other users, so that its answers need not follow from the calls of this one. -/
structure Codec (ε : Type) where
  samplesSize : Nat
  bytesSize : Nat
  encode : Nat → List Int → Except ε Octets
  decode : Nat → Octets → Except ε (List Int)
  release : Except ε Unit

inductive Call (α : Type) where
  | initCodec
  | start
  | inLoop (a : α)
  | stop
  | release
  | close
  deriving DecidableEq, Repr

def runWorker {σ α : Type} (loop : Loop σ ε α) (release : Except ε Unit) (fuel : Nat) (w : σ) :
    List (Call α) × Option (Except ε Unit) :=
  let r := loop.run fuel 0 w
  let calls := .initCodec :: .start :: r.1.map .inLoop
  match r.2 with
  | none => (calls, none)
  | some (.error e) => (calls, some (.error e))
  | some (.ok _) =>
    match release with
    | .error e => (calls ++ [.stop, .release], some (.error e))
    | .ok _ => (calls ++ [.stop, .release, .close], some (.ok ()))

/-! ## AudioInputWorker -/

inductive SendCall where
  | read
  | encode (samples : List Int)
  | write (bytes : Octets)
  deriving DecidableEq, Repr

/-- `org.theonionphone.audio.AudioInputWorker`, with a local array of `run`. -/
structure AudioInputWorker where
  outputStream : Octets := []
  samples : List Int
  running : Bool := true

/-- What the recording thread meets besides its codec: what `AudioRecord.read` leaves in the array, whether
the pipe takes what is written to it, and whether `stopAndClose` was called when the flag is tested. -/
structure Recording where
  read : Nat → List Int → List Int
  broken : Nat → Bool
  stopAndClose : Nat → Bool

namespace AudioInputWorker

/-- The `IOException` is caught. -/
def writeToStream (broken : Bool) (bytes : Octets) (w : AudioInputWorker) : AudioInputWorker :=
  if broken then w else { w with outputStream := w.outputStream ++ bytes }

def loop (C : Codec ε) (R : Recording) : Loop AudioInputWorker ε SendCall where
  before i w := { w with running := w.running && !R.stopAndClose i }
  running w := w.running
  round i w :=
    let samples := R.read i w.samples
    match C.encode i samples with
    | .error e => ([.read, .encode samples], .error e)
    | .ok bytes =>
      ([.read, .encode samples, .write bytes],
        .ok (writeToStream (R.broken i) bytes { w with samples := samples }))

def run (C : Codec ε) (R : Recording) (fuel : Nat) : List (Call SendCall) × Option (Except ε Unit) :=
  runWorker (loop C R) C.release fuel { samples := List.replicate C.samplesSize 0 }

end AudioInputWorker

/-! ## AudioOutputWorker -/

inductive PlayCall where
  | decode (bytes : Octets)
  | write (samples : List Int)
  deriving DecidableEq, Repr

namespace AudioOutputWorker

def loop (C : Codec ε) (stopAndClose : Nat → Bool) : Loop (AudioOutputWorker Unit) ε PlayCall where
  before i w := { w with running := w.running && !stopAndClose i }
  running w := w.running
  round i w :=
    let w := readFromStream w
    match C.decode i w.bytes with
    | .error e => ([.decode w.bytes], .error e)
    | .ok samples => ([.decode w.bytes, .write samples], .ok w)

def fresh (C : Codec ε) (inputStream : List Octets) : AudioOutputWorker Unit where
  inputStream := inputStream
  codec := ()
  bytes := List.replicate C.bytesSize 0

def run (C : Codec ε) (stopAndClose : Nat → Bool) (fuel : Nat) (inputStream : List Octets) :
    List (Call PlayCall) × Option (Except ε Unit) :=
  runWorker (loop C stopAndClose) C.release fuel (fresh C inputStream)

end AudioOutputWorker

/-! ## What is given back -/

/-- Each `initialize` has its `release`, the device is stopped and the stream closed. -/
structure GivenBack {α : Type} [DecidableEq α] (calls : List (Call α)) : Prop where
  released : calls.count .release = calls.count .initCodec
  stopped : .stop ∈ calls
  closed : .close ∈ calls

theorem runWorker_isSome {σ α : Type} (loop : Loop σ ε α) (release : Except ε Unit) (fuel : Nat) (w : σ) :
    (runWorker loop release fuel w).2.isSome = (loop.run fuel 0 w).2.isSome := by
  unfold runWorker
  generalize loop.run fuel 0 w = r
  obtain ⟨trace, r⟩ := r
  cases r with
  | none => rfl
  | some r =>
    cases r with
    | error e => rfl
    | ok w' => cases release <;> rfl

/-- The lines after the loop give everything back, and nothing else does. -/
theorem givenBack_iff {σ α : Type} [DecidableEq α] {loop : Loop σ ε α} {release : Except ε Unit}
    {fuel : Nat} {w : σ} :
    GivenBack (runWorker loop release fuel w).1 ↔
      (∃ w', (loop.run fuel 0 w).2 = some (.ok w')) ∧ ∃ u, release = .ok u := by
  unfold runWorker
  generalize loop.run fuel 0 w = r
  obtain ⟨trace, r⟩ := r
  have hcount : ∀ c : Call α, (∀ a, c ≠ .inLoop a) → (trace.map Call.inLoop).count c = 0 := by
    intro c hc
    rw [List.count_eq_zero]
    simp only [List.mem_map, not_exists, not_and]
    intro a _ h
    exact hc a h.symm
  cases r with
  | none =>
    refine iff_of_false (fun h => absurd h.stopped (by simp)) ?_
    rintro ⟨⟨w', h⟩, -⟩
    cases h
  | some r =>
    cases r with
    | error e =>
      refine iff_of_false (fun h => absurd h.stopped (by simp)) ?_
      rintro ⟨⟨w', h⟩, -⟩
      cases h
    | ok w' =>
      cases release with
      | error e =>
        refine iff_of_false (fun h => absurd h.closed (by simp)) ?_
        rintro ⟨-, u, h⟩
        cases h
      | ok u =>
        refine iff_of_true ⟨?_, by simp, by simp⟩ ⟨⟨w', rfl⟩, u, rfl⟩
        simp [List.count_append, hcount]

/-- Some test finds the flag cleared, as `stopped` says it must, and until then the codec answers each
call. -/
def Undisturbed {β : Type} (stopped : Nat → Bool) (answer : Nat → Except ε β) (release : Except ε Unit) : Prop :=
  (∃ n, stopped n = true ∧ ∀ i < n, stopped i = false ∧ ∃ b, answer i = .ok b) ∧ ∃ u, release = .ok u

/-- Which answers the codec has given, and what the tests have found, before round `i`. -/
def Answered {β : Type} (stopped : Nat → Bool) (answer : Nat → Except ε β) (i : Nat) : Prop :=
  ∀ k < i, stopped k = false ∧ ∃ b, answer k = .ok b

theorem Answered.succ {β : Type} {stopped : Nat → Bool} {answer : Nat → Except ε β} {i : Nat}
    (h : Answered stopped answer i) (hs : stopped i = false) {b : β} (ha : answer i = .ok b) :
    Answered stopped answer (i + 1) := by
  intro k hk
  obtain hlt | rfl := Nat.lt_succ_iff_lt_or_eq.1 hk
  · exact h k hlt
  · exact ⟨hs, b, ha⟩

/-- `Inv` describes the state of a worker at the beginning of each round, so that the outcome of the test
and the answer of the codec can be told. -/
structure Describes {σ α β : Type} (loop : Loop σ ε α) (w : σ) (stopped : Nat → Bool)
    (answer : Nat → Except ε β) (Inv : Nat → σ → Prop) : Prop where
  init : Inv 0 w
  test : ∀ i w, Inv i w → loop.running (loop.before i w) = !stopped i
  round : ∀ i w, Inv i w → stopped i = false →
    (∃ e, (loop.round i (loop.before i w)).2 = .error e ∧ answer i = .error e) ∨
    ∃ w' b, (loop.round i (loop.before i w)).2 = .ok w' ∧ answer i = .ok b ∧ Inv (i + 1) w'

namespace Describes

variable {σ α β : Type} {loop : Loop σ ε α} {w : σ} {stopped : Nat → Bool}
  {answer : Nat → Except ε β} {Inv : Nat → σ → Prop}

theorem passes (D : Describes loop w stopped answer Inv) {j : Nat} {t : σ} (hp : loop.Passes 0 w j t) :
    Inv j t ∧ Answered stopped answer j := by
  refine hp.inv (fun i w => Inv i w ∧ Answered stopped answer i) ?_
    ⟨D.init, fun k hk => absurd hk (Nat.not_lt_zero k)⟩
  rintro i s s' ⟨hi, ha⟩ hgo hr
  rw [D.test i s hi, Bool.not_eq_true'] at hgo
  obtain ⟨e, he, -⟩ | ⟨w', b, hw, hb, hi'⟩ := D.round i s hi hgo
  · cases hr.symm.trans he
  · cases hr.symm.trans hw
    exact ⟨hi', ha.succ hgo hb⟩

theorem ends (D : Describes loop w stopped answer Inv) (release : Except ε Unit) {fuel k : Nat}
    (hk : k < fuel) (h : stopped k = true ∨ ∃ e, answer k = .error e) :
    (runWorker loop release fuel w).2.isSome := by
  rw [runWorker_isSome]
  have hcases := loop.run_cases fuel 0 w
  generalize (loop.run fuel 0 w).2 = r at hcases ⊢
  cases hcases with
  | unfinished hp =>
    obtain ⟨-, ha⟩ := D.passes hp
    obtain ⟨hgo, b, hb⟩ := ha k (by omega)
    obtain hs | ⟨e, he⟩ := h
    · cases hgo.symm.trans hs
    · cases he.symm.trans hb
  | stopped _ _ => rfl
  | thrown _ _ _ => rfl

theorem givenBack [DecidableEq α] (D : Describes loop w stopped answer Inv) {release : Except ε Unit} {fuel : Nat}
    (hend : (runWorker loop release fuel w).2.isSome) :
    GivenBack (runWorker loop release fuel w).1 ↔ Undisturbed stopped answer release := by
  rw [givenBack_iff, Undisturbed, and_congr_left_iff]
  intro _
  have hcases := loop.run_cases fuel 0 w
  rw [runWorker_isSome] at hend
  generalize (loop.run fuel 0 w).2 = r at hcases hend
  cases hcases with
  | unfinished hp => cases hend
  | @stopped j t hp hstop =>
    obtain ⟨hi, ha⟩ := D.passes hp
    rw [D.test j t hi, Bool.not_eq_false'] at hstop
    exact iff_of_true ⟨_, rfl⟩ ⟨j, hstop, ha⟩
  | @thrown j t e hp hgo he =>
    obtain ⟨hi, ha⟩ := D.passes hp
    rw [D.test j t hi, Bool.not_eq_true'] at hgo
    refine iff_of_false ?_ ?_
    · rintro ⟨w', h⟩
      cases h
    · rintro ⟨n, hn, hall⟩
      -- the exception comes before the flag is cleared, and no answer before that is one
      obtain hlt | hle := Nat.lt_or_ge j n
      · obtain ⟨-, b, hb⟩ := hall j hlt
        obtain ⟨e', -, he'⟩ | ⟨w', b', hw, -⟩ := D.round j t hi hgo
        · cases he'.symm.trans hb
        · cases he.symm.trans hw
      · obtain hlt | rfl := Nat.lt_or_eq_of_le hle
        · cases (ha n hlt).1.symm.trans hn
        · cases hgo.symm.trans hn

end Describes

/-! ## The recording thread -/

namespace AudioInputWorker

def recorded (C : Codec ε) (R : Recording) : Nat → List Int
  | 0 => R.read 0 (List.replicate C.samplesSize 0)
  | i + 1 => R.read (i + 1) (recorded C R i)

/-- The flag is set, and the array is as the last read has left it. -/
structure Recorded (C : Codec ε) (R : Recording) (i : Nat) (w : AudioInputWorker) : Prop where
  running : w.running = true
  samples : R.read i w.samples = recorded C R i

theorem round_cases {C : Codec ε} {R : Recording} {i : Nat} {w : AudioInputWorker} (h : Recorded C R i w)
    (hs : R.stopAndClose i = false) :
    (∃ e, ((loop C R).round i ((loop C R).before i w)).2 = .error e ∧
      C.encode i (recorded C R i) = .error e) ∨
    ∃ w' b, ((loop C R).round i ((loop C R).before i w)).2 = .ok w' ∧
      C.encode i (recorded C R i) = .ok b ∧ Recorded C R (i + 1) w' := by
  simp only [loop, h.samples]
  cases C.encode i (recorded C R i) with
  | error e => exact .inl ⟨e, rfl, rfl⟩
  | ok bytes =>
    refine .inr ⟨_, bytes, rfl, rfl, ?_, ?_⟩
    · unfold writeToStream
      split <;> simp [h.running, hs]
    · unfold writeToStream
      split <;> rfl

theorem describes (C : Codec ε) (R : Recording) :
    Describes (loop C R) { samples := List.replicate C.samplesSize 0 } R.stopAndClose
      (fun i => C.encode i (recorded C R i)) (Recorded C R) where
  init := ⟨rfl, rfl⟩
  test i w h := by
    show (w.running && !R.stopAndClose i) = _
    rw [h.running, Bool.true_and]
  round i w h hs := round_cases h hs

end AudioInputWorker

/-! ## The playing thread -/

namespace AudioOutputWorker

def received (C : Codec ε) (inputStream : List Octets) (i : Nat) : Octets :=
  (readFromStream^[i + 1] (fresh C inputStream)).bytes

/-- What the test number `i` finds: the stream has ended if it is too short for `i` frames. -/
def stopped (C : Codec ε) (stopAndClose : Nat → Bool) (inputStream : List Octets) (i : Nat) : Bool :=
  stopAndClose i || decide (inputStream.flatten.length < i * C.bytesSize)

theorem running_of_ended {w : AudioOutputWorker Unit} (h : w.running = false) (i : Nat) :
    (readFromStream^[i] w).running = false := by
  induction i generalizing w with
  | zero => exact h
  | succ i ih =>
    rw [Function.iterate_succ_apply]
    apply ih
    unfold readFromStream
    split
    · exact h
    · rfl

theorem running_reads (i : Nat) {w : AudioOutputWorker Unit} (h : w.running = true) :
    (readFromStream^[i] w).running = decide (i * w.bytes.length ≤ w.inputStream.flatten.length) := by
  induction i generalizing w with
  | zero => simp [h]
  | succ i ih =>
    rw [Function.iterate_succ_apply]
    by_cases hl : w.inputStream.flatten.length < w.bytes.length
    · rw [running_of_ended (by rw [readFromStream_end hl])]
      symm
      rw [decide_eq_false_iff_not, Nat.succ_mul]
      omega
    · have hb : (w.inputStream.flatten.take w.bytes.length).length = w.bytes.length :=
        List.length_take_of_le (Nat.le_of_not_lt hl)
      obtain ⟨inp, hi, hr⟩ := readFromStream_block
        (List.take_append_drop w.bytes.length w.inputStream.flatten).symm hb
      have hrec := ih (w := { w with bytes := w.inputStream.flatten.take w.bytes.length, inputStream := inp }) h
      simp only [hi, hb, List.length_drop] at hrec
      rw [hr, hrec, Nat.succ_mul, decide_eq_decide]
      omega

theorem running_fresh (C : Codec ε) (inputStream : List Octets) (i : Nat) :
    (readFromStream^[i] (fresh C inputStream)).running =
      !decide (inputStream.flatten.length < i * C.bytesSize) := by
  rw [running_reads i rfl, ← decide_not, decide_eq_decide, fresh, List.length_replicate]
  exact Nat.not_lt.symm

theorem before_eq {C : Codec ε} {stopAndClose : Nat → Bool} {inputStream : List Octets} {i : Nat}
    (h : stopped C stopAndClose inputStream i = false) :
    (loop C stopAndClose).before i (readFromStream^[i] (fresh C inputStream)) =
      readFromStream^[i] (fresh C inputStream) := by
  rw [stopped, Bool.or_eq_false_iff] at h
  have hrun := running_fresh C inputStream i
  rw [h.2] at hrun
  generalize readFromStream^[i] (fresh C inputStream) = w at hrun
  cases w
  cases hrun
  simp [loop, h.1]

theorem describes (C : Codec ε) (stopAndClose : Nat → Bool) (inputStream : List Octets) :
    Describes (loop C stopAndClose) (fresh C inputStream) (stopped C stopAndClose inputStream)
      (fun i => C.decode i (received C inputStream i))
      (fun i w => w = readFromStream^[i] (fresh C inputStream)) where
  init := rfl
  test := by
    rintro i w rfl
    show (AudioOutputWorker.running _ && !stopAndClose i) = _
    rw [running_fresh, stopped, Bool.not_or, Bool.and_comm]
  round := by
    rintro i w rfl hs
    rw [before_eq hs]
    simp only [loop, received, ← Function.iterate_succ_apply']
    cases C.decode i (readFromStream^[i + 1] (fresh C inputStream)).bytes with
    | error e => exact .inl ⟨e, rfl, rfl⟩
    | ok samples => exact .inr ⟨_, samples, rfl, rfl, rfl⟩

theorem ends (C : Codec ε) (hn : 0 < C.bytesSize) (stopAndClose : Nat → Bool) (inputStream : List Octets)
    {fuel : Nat} (hf : inputStream.flatten.length / C.bytesSize + 1 < fuel) :
    (run C stopAndClose fuel inputStream).2.isSome := by
  refine (describes C stopAndClose inputStream).ends C.release hf (.inl ?_)
  have hlt : inputStream.flatten.length < (inputStream.flatten.length / C.bytesSize + 1) * C.bytesSize := by
    rw [Nat.succ_mul, Nat.mul_comm]
    exact Nat.lt_mul_div_succ _ hn
  simp only [stopped, hlt, decide_true, Bool.or_true]

def ofCall : Call PlayCall → Playback.Call
  | .initCodec => .initCodec
  | .start => .play
  | .inLoop (.decode bytes) => .decode bytes
  | .inLoop (.write samples) => .write samples
  | .stop => .stop
  | .release => .release
  | .close => .close

section Playback

variable {σ : Type} {P : Decoder σ ε} {C : Codec ε} {inputStream : List Octets} {states : Nat → σ}

/-- `P` goes through `states` on the arrays of this stream, and `C` answers as it does. -/
def AnswersAs (P : Decoder σ ε) (C : Codec ε) (inputStream : List Octets) (states : Nat → σ) : Prop :=
  ∀ i, P.decode (states i) (received C inputStream i) =
    (C.decode i (received C inputStream i)).map fun samples => (states (i + 1), samples)

theorem readFromStream_codec (w : AudioOutputWorker Unit) (s : σ) :
    readFromStream { inputStream := w.inputStream, codec := s, bytes := w.bytes, running := w.running } =
      { inputStream := (readFromStream w).inputStream, codec := s, bytes := (readFromStream w).bytes,
        running := (readFromStream w).running } := by
  unfold readFromStream
  split <;> simp_all

theorem loop_playback (h : AnswersAs P C inputStream states) (fuel i : Nat) {w : AudioOutputWorker Unit}
    (hw : w = readFromStream^[i] (fresh C inputStream)) :
    let r := (loop C fun _ => false).run fuel i w
    let p := playLoop P fuel
      { inputStream := w.inputStream, codec := states i, bytes := w.bytes, running := w.running }
    p.1 = r.1.map (fun a => ofCall (.inLoop a)) ∧
      p.2.map (Except.map fun _ => ()) = r.2.map (Except.map fun _ => ()) ∧
      ∀ s, p.2 = some (.ok s) → ∃ n, s = states n := by
  induction fuel generalizing i w with
  | zero => simp [playLoop, Loop.run]
  | succ f ih =>
    have hbefore : (loop C fun _ => false).before i w = w := by
      cases w
      simp [loop]
    have hread : readFromStream w = readFromStream^[i + 1] (fresh C inputStream) := by
      rw [hw, Function.iterate_succ_apply']
    have hans := h i
    have hrest := ih (i + 1) hread
    rw [received, ← hread] at hans
    simp only [Loop.run, playLoop, hbefore, readFromStream_codec, hans]
    cases hrun : w.running with
    | false => simp [loop, hrun, Except.map]
    | true =>
      simp only [loop, hrun, if_true]
      cases C.decode i (readFromStream w).bytes with
      | error e => simp [Except.map, ofCall]
      | ok samples =>
        simp only [Except.map, List.map_cons, List.cons_append, List.nil_append, ofCall, List.cons.injEq,
          true_and]
        exact hrest

/-- If nobody calls `stopAndClose`, this is `Playback.run`. -/
theorem run_playback (codec : σ) (hsize : P.bytesSize = C.bytesSize) (h0 : states 0 = P.initCodec codec)
    (h : AnswersAs P C inputStream states) (hrel : ∀ n, (P.release (states n)).map (fun _ => ()) = C.release)
    (fuel : Nat) :
    Playback.run P fuel codec inputStream =
      let r := run C (fun _ => false) fuel inputStream
      (r.1.map ofCall, r.2) := by
  obtain ⟨hcalls, hend, hstate⟩ := loop_playback h fuel 0 rfl
  have hstart : Playback.start P codec inputStream =
      { inputStream := (fresh C inputStream).inputStream, codec := states 0,
        bytes := (fresh C inputStream).bytes, running := (fresh C inputStream).running } := by
    simp only [Playback.start, fresh, h0, hsize]
  rw [Function.iterate_zero, id_eq, ← hstart] at hcalls hend hstate
  unfold Playback.run run runWorker
  generalize playLoop P fuel (Playback.start P codec inputStream) = p at hcalls hend hstate
  generalize (loop C fun _ => false).run fuel 0 (fresh C inputStream) = r at hcalls hend
  obtain ⟨calls, p⟩ := p
  obtain ⟨trace, r⟩ := r
  simp only at hcalls hend hstate
  subst hcalls
  cases p with
  | none =>
    cases r with
    | none => simp [ofCall]
    | some r => simp at hend
  | some p =>
    cases r with
    | none => simp at hend
    | some r =>
      simp only [Option.map_some, Option.some.injEq] at hend
      cases p with
      | error e =>
        cases r with
        | error e' =>
          cases hend
          simp [ofCall]
        | ok w => cases hend
      | ok s =>
        cases r with
        | error e' => cases hend
        | ok w =>
          obtain ⟨n, rfl⟩ := hstate s rfl
          have hn := hrel n
          cases hr : P.release (states n) with
          | error e =>
            rw [hr] at hn
            simp [← hn, hr, Except.map, ofCall]
          | ok s' =>
            rw [hr] at hn
            simp [← hn, hr, Except.map, ofCall]

end Playback

end AudioOutputWorker

/-- For each of the two threads, once it has ended: it has given back the codec, the device and the stream
just if its codec has answered every call. -/
theorem released_iff (C : Codec ε) :
    (∀ (R : Recording) (fuel : Nat), (AudioInputWorker.run C R fuel).2.isSome →
      (GivenBack (AudioInputWorker.run C R fuel).1 ↔
        Undisturbed R.stopAndClose (fun i => C.encode i (AudioInputWorker.recorded C R i)) C.release)) ∧
    ∀ (stopAndClose : Nat → Bool) (inputStream : List Octets) (fuel : Nat),
      (AudioOutputWorker.run C stopAndClose fuel inputStream).2.isSome →
      (GivenBack (AudioOutputWorker.run C stopAndClose fuel inputStream).1 ↔
        Undisturbed (AudioOutputWorker.stopped C stopAndClose inputStream)
          (fun i => C.decode i (AudioOutputWorker.received C inputStream i)) C.release) := by
  constructor
  · intro R fuel hend
    exact (AudioInputWorker.describes C R).givenBack hend
  · intro stopAndClose inputStream fuel hend
    exact (AudioOutputWorker.describes C stopAndClose inputStream).givenBack hend

def failing (k : Nat) : Codec CodecException where
  samplesSize := 160
  bytesSize := 7
  encode i _ := if i = k then .error ⟨"Library returned error"⟩ else .ok (List.replicate 7 0)
  decode i _ := if i = k then .error ⟨"Library returned error"⟩ else .ok (List.replicate 160 0)
  release := .ok ()

def silent (n : Nat) : Recording where
  read _ samples := samples
  broken _ := false
  stopAndClose i := decide (n ≤ i)

/-- The recording thread is stopped after two frames; the playback thread gets one frame, in two pieces, before
its stream ends. -/
theorem released_after_stop :
    ((AudioInputWorker.run (failing 2) (silent 2) 3).2 = some (.ok ()) ∧
      GivenBack (AudioInputWorker.run (failing 2) (silent 2) 3).1) ∧
    (AudioOutputWorker.run (failing 2) (fun _ => false) 3 [[1, 2, 3], [4, 5, 6, 7]]).2 = some (.ok ()) ∧
      GivenBack (AudioOutputWorker.run (failing 2) (fun _ => false) 3 [[1, 2, 3], [4, 5, 6, 7]]).1 := by
  obtain ⟨hrecording, hplayback⟩ := released_iff (failing 2)
  have hend : (AudioOutputWorker.run (failing 2) (fun _ => false) 3 [[1, 2, 3], [4, 5, 6, 7]]).2 =
      some (.ok ()) := rfl
  refine ⟨⟨rfl, (hrecording (silent 2) 3 rfl).2 ⟨⟨2, rfl, ?_⟩, (), rfl⟩⟩, hend,
    (hplayback (fun _ => false) _ 3 (by rw [hend]; rfl)).2 ⟨⟨2, by decide, ?_⟩, (), rfl⟩⟩
  · intro i hi
    obtain rfl | rfl : i = 0 ∨ i = 1 := by omega
    · exact ⟨rfl, _, rfl⟩
    · exact ⟨rfl, _, rfl⟩
  · intro i hi
    obtain rfl | rfl : i = 0 ∨ i = 1 := by omega
    · exact ⟨by decide, _, rfl⟩
    · exact ⟨by decide, _, rfl⟩

/-- The codec throws at the second frame: the device records on, the codec stays in use and the pipe open.
With the player it is no better. -/
theorem codec_kept :
    ((AudioInputWorker.run (failing 1) (silent 2) 3).2 = some (.error ⟨"Library returned error"⟩) ∧
      (AudioInputWorker.run (failing 1) (silent 2) 3).1.count .initCodec = 1 ∧
      (AudioInputWorker.run (failing 1) (silent 2) 3).1.count .release = 0 ∧
      ¬ GivenBack (AudioInputWorker.run (failing 1) (silent 2) 3).1) ∧
    (AudioOutputWorker.run (failing 1) (fun _ => false) 3 [[1, 2, 3, 4, 5, 6, 7]]).2 =
        some (.error ⟨"Library returned error"⟩) ∧
      ¬ GivenBack (AudioOutputWorker.run (failing 1) (fun _ => false) 3 [[1, 2, 3, 4, 5, 6, 7]]).1 := by
  refine ⟨⟨rfl, by decide, by decide, ?_⟩, rfl, ?_⟩
  · intro h
    have hstop := h.stopped
    revert hstop
    decide
  · intro h
    have hstop := h.stopped
    revert hstop
    decide

end AudioWorker
end OnionPhone
