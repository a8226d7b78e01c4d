import OnionPhone.Lib.Machine
import OnionPhone.Playback

/-!
# OnionPhone.CodecLife

The life of the native codec. `Codec2` counts its users in a Java `int`; `codec2_jni.c` keeps a global
pointer, which is set by `codec2Init` and by nothing else. Whether there was memory for a new instance is
told by `codec2Init`, and `Codec2.initialize` does not look.

* `State`: the count, the pointer, and what was done to the instances so far.
* `Sound`: somebody uses the codec just if the pointer refers to a living instance, nothing was done to a
  dead one, and each instance was destroyed once or is the one in use.
* `sound_iff`: every state of a run is sound just if no first user gets a null pointer and the count does
  not overflow.
-/

namespace OnionPhone
namespace CodecLife

open Wire Playback

/-! ## The instances -/

/-- What `codec2_jni.c` asks of the library, on which instance; `none` is the null pointer. The instances
are numbered as they are created: the same address may be given to many of them. -/
inductive NativeCall where
  | create (i : Nat)
  | destroy (codec2 : Option Nat)
  | encode (codec2 : Option Nat)
  | decode (codec2 : Option Nat)
  deriving DecidableEq, Repr

/-- Created and not destroyed. A log has its last call first. -/
def Live (log : List NativeCall) (i : Nat) : Prop := .create i ∈ log ∧ .destroy (some i) ∉ log

def NativeCall.target : NativeCall → Option (Option Nat)
  | .create _ => none
  | .destroy p => some p
  | .encode p => some p
  | .decode p => some p

def OnlyLive : List NativeCall → Prop
  | [] => True
  | c :: earlier => (∀ p, c.target = some p → ∃ i, p = some i ∧ Live earlier i) ∧ OnlyLive earlier

structure Instance (δ : Type) where
  number : Nat
  states : δ

/-- `codec2_encode` and `codec2_decode` -/
structure Library (δ : Type) where
  codec2_encode : δ → List Int → δ × Octets
  codec2_decode : δ → Octets → δ × List Int

/-- The singleton of `Codec2` and the global pointer of `codec2_jni.c`, with the number of instances that
were created and the calls that were made so far. -/
structure State (δ : Type) where
  initializedTimes : BitVec 32 := 0
  codec2 : Option (Instance δ) := none
  created : Nat := 0
  log : List NativeCall := []

variable {δ : Type}

/-! ## codec2_jni.c -/

/-- `create` is what `codec2_create` gives. -/
def codec2Init (create : Option δ) (s : State δ) : Nat × State δ :=
  match create with
  | none => (1, { s with codec2 := none })
  | some d =>
    (0, { s with codec2 := some ⟨s.created, d⟩, created := s.created + 1, log := .create s.created :: s.log })

/-- The status of the call and what is written to the array of the caller. -/
def codec2Encode (L : Library δ) (input : List Int) (s : State δ) : Nat × Octets × State δ :=
  match s.codec2 with
  | none => (1, [], s)
  | some c =>
    let (d, output) := L.codec2_encode c.states input
    (0, output, { s with codec2 := some { c with states := d }, log := .encode (some c.number) :: s.log })

def codec2Decode (L : Library δ) (input : Octets) (s : State δ) : Nat × List Int × State δ :=
  match s.codec2 with
  | none => (1, [], s)
  | some c =>
    let (d, output) := L.codec2_decode c.states input
    (0, output, { s with codec2 := some { c with states := d }, log := .decode (some c.number) :: s.log })

/-- The pointer is passed to `codec2_destroy` as it is, and it stays. -/
def codec2Release (s : State δ) : State δ :=
  { s with log := .destroy (s.codec2.map (·.number)) :: s.log }

/-! ## Codec2 -/

/-- `Codec2.initialize`: what `codec2Init` returns is dropped. -/
def initCodec (create : Option δ) (s : State δ) : State δ :=
  let s := if s.initializedTimes = 0 then (codec2Init create s).2 else s
  { s with initializedTimes := s.initializedTimes + 1 }

def checkIfInitialized (s : State δ) : Except CodecException Unit :=
  if s.initializedTimes = 0 then .error ⟨"Codec not initialized"⟩ else .ok ()

def release (s : State δ) : Except CodecException (State δ) := do
  checkIfInitialized s
  let s := { s with initializedTimes := s.initializedTimes - 1 }
  pure (if s.initializedTimes = 0 then codec2Release s else s)

def encode (L : Library δ) (input : List Int) (s : State δ) : Except CodecException (State δ × Octets) := do
  checkIfInitialized s
  let (succeeded, output, s) := codec2Encode L input s
  if succeeded ≠ 0 then .error ⟨"Library returned error"⟩ else pure (s, output)

def decode (L : Library δ) (input : Octets) (s : State δ) :
    Except CodecException (State δ × List Int) := do
  checkIfInitialized s
  let (succeeded, output, s) := codec2Decode L input s
  if succeeded ≠ 0 then .error ⟨"Library returned error"⟩ else pure (s, output)

/-- A call by one of the workers; `initCodec` comes with what `codec2_create` would give. -/
inductive Op (δ : Type) where
  | initCodec (create : Option δ)
  | encode (input : List Int)
  | decode (input : Octets)
  | release

/-- A call that throws has changed nothing. -/
def step (L : Library δ) : Op δ → State δ → Option (State δ)
  | .initCodec create, s => some (initCodec create s)
  | .encode input, s => some ((encode L input s).toOption.elim s (·.1))
  | .decode input, s => some ((decode L input s).toOption.elim s (·.1))
  | .release, s => some ((release s).toOption.getD s)

/-! ## What a step does -/

theorem initCodec_first {create : Option δ} {s : State δ} (h : s.initializedTimes = 0) :
    initCodec create s = { (codec2Init create s).2 with initializedTimes := 1 } := by
  have hinit : (codec2Init create s).2.initializedTimes = 0 := by
    cases create <;> exact h
  simp [initCodec, h, hinit]

theorem initCodec_again {create : Option δ} {s : State δ} (h : s.initializedTimes ≠ 0) :
    initCodec create s = { s with initializedTimes := s.initializedTimes + 1 } := by
  simp only [initCodec, if_neg h]

theorem checkIfInitialized_used {s : State δ} (h : s.initializedTimes ≠ 0) : checkIfInitialized s = .ok () :=
  if_neg h

theorem checkIfInitialized_unused {s : State δ} (h : s.initializedTimes = 0) :
    checkIfInitialized s = .error ⟨"Codec not initialized"⟩ := if_pos h

/-- What a call has done, if it has done anything. -/
inductive Effect : Op δ → State δ → State δ → Prop where
  | thrown {op : Op δ} {s : State δ} : Effect op s s
  | first {s : State δ} (d : δ) (h : s.initializedTimes = 0) :
      Effect (.initCodec (some d)) s
        { s with
          initializedTimes := 1, codec2 := some ⟨s.created, d⟩, created := s.created + 1,
          log := .create s.created :: s.log }
  | noMemory {s : State δ} (h : s.initializedTimes = 0) :
      Effect (.initCodec none) s { s with initializedTimes := 1, codec2 := none }
  | again {s : State δ} (create : Option δ) (h : s.initializedTimes ≠ 0) :
      Effect (.initCodec create) s { s with initializedTimes := s.initializedTimes + 1 }
  | encoded {s : State δ} {input : List Int} {c : Instance δ} (d : δ) (h : s.initializedTimes ≠ 0)
      (hc : s.codec2 = some c) :
      Effect (.encode input) s
        { s with codec2 := some { c with states := d }, log := .encode (some c.number) :: s.log }
  | decoded {s : State δ} {input : Octets} {c : Instance δ} (d : δ) (h : s.initializedTimes ≠ 0)
      (hc : s.codec2 = some c) :
      Effect (.decode input) s
        { s with codec2 := some { c with states := d }, log := .decode (some c.number) :: s.log }
  | released {s : State δ} (h : s.initializedTimes ≠ 0) (h1 : s.initializedTimes - 1 ≠ 0) :
      Effect .release s { s with initializedTimes := s.initializedTimes - 1 }
  | last {s : State δ} (h : s.initializedTimes ≠ 0) (h1 : s.initializedTimes - 1 = 0) :
      Effect .release s
        { s with initializedTimes := 0, log := .destroy (s.codec2.map (·.number)) :: s.log }

theorem effect_initCodec (create : Option δ) (s : State δ) :
    Effect (.initCodec create) s (initCodec create s) := by
  by_cases h : s.initializedTimes = 0
  · rw [initCodec_first h]
    cases create with
    | none => exact .noMemory h
    | some d => exact .first d h
  · rw [initCodec_again h]
    exact .again create h

theorem effect_encode (L : Library δ) (input : List Int) (s : State δ) :
    Effect (.encode input) s ((encode L input s).toOption.elim s (·.1)) := by
  by_cases h : s.initializedTimes = 0
  · rw [encode, checkIfInitialized_unused h]
    exact .thrown
  · rw [encode, checkIfInitialized_used h]
    cases hc : s.codec2 with
    | none =>
      simp only [codec2Encode, hc]
      exact .thrown
    | some c =>
      simp only [codec2Encode, hc]
      exact .encoded _ h hc

theorem effect_decode (L : Library δ) (input : Octets) (s : State δ) :
    Effect (.decode input) s ((decode L input s).toOption.elim s (·.1)) := by
  by_cases h : s.initializedTimes = 0
  · rw [decode, checkIfInitialized_unused h]
    exact .thrown
  · rw [decode, checkIfInitialized_used h]
    cases hc : s.codec2 with
    | none =>
      simp only [codec2Decode, hc]
      exact .thrown
    | some c =>
      simp only [codec2Decode, hc]
      exact .decoded _ h hc

theorem effect_release (s : State δ) : Effect .release s ((release s).toOption.getD s) := by
  by_cases h : s.initializedTimes = 0
  · rw [release, checkIfInitialized_unused h]
    exact .thrown
  · rw [release, checkIfInitialized_used h]
    by_cases h1 : s.initializedTimes - 1 = 0
    · have heq : codec2Release { s with initializedTimes := s.initializedTimes - 1 } =
          { s with initializedTimes := 0, log := .destroy (s.codec2.map (·.number)) :: s.log } := by
        rw [h1]
        rfl
      simp only [bind, Except.bind, pure, Except.pure, if_pos h1, heq, Except.toOption, Option.getD_some]
      exact .last h h1
    · simp only [bind, Except.bind, pure, Except.pure, if_neg h1, Except.toOption, Option.getD_some]
      exact .released h h1

theorem step_effect {L : Library δ} {op : Op δ} {s s' : State δ} (h : step L op s = some s') :
    Effect op s s' := by
  cases op with
  | initCodec create =>
    cases h
    exact effect_initCodec create s
  | encode input =>
    cases h
    exact effect_encode L input s
  | decode input =>
    cases h
    exact effect_decode L input s
  | release =>
    cases h
    exact effect_release s

/-! ## The codec of the player -/

/-- What `AudioOutputWorker` sees of the codec. -/
def view (s : State δ) : Playback.Codec2 δ where
  initializedTimes := s.initializedTimes.toNat
  codec2 := s.codec2.map (·.states)

theorem view_unused {s : State δ} : (view s).initializedTimes = 0 ↔ s.initializedTimes = 0 := by
  constructor
  · intro h
    exact BitVec.eq_of_toNat_eq h
  · intro h
    simp [view, h]

theorem view_checkIfInitialized (s : State δ) :
    (view s).checkIfInitialized = checkIfInitialized s := by
  simp only [Codec2.checkIfInitialized, checkIfInitialized, view_unused]

theorem view_initCodec (create : Option δ) {s : State δ} (h : s.initializedTimes.toNat + 1 < 2 ^ 32) :
    view (initCodec create s) = (view s).initCodec create := by
  have hn : (s.initializedTimes + 1).toNat = s.initializedTimes.toNat + 1 := by
    rw [BitVec.toNat_add]
    exact Nat.mod_eq_of_lt h
  by_cases h0 : s.initializedTimes = 0
  · rw [initCodec_first h0]
    cases create <;> simp [view, Codec2.initCodec, codec2Init, h0]
  · have h0' : s.initializedTimes.toNat ≠ 0 := by
      intro hz
      exact h0 (view_unused.1 hz)
    rw [initCodec_again h0]
    simp only [view, Codec2.initCodec, hn, h0', if_false]

theorem view_decode (L : Library δ) (input : Octets) (s : State δ) :
    (decode L input s).map (fun r => (view r.1, r.2)) = (view s).decode L.codec2_decode input := by
  rw [decode, Codec2.decode, view_checkIfInitialized]
  cases checkIfInitialized s with
  | error e => rfl
  | ok u =>
    cases hc : s.codec2 with
    | none =>
      simp only [codec2Decode, view, hc]
      rfl
    | some c =>
      simp only [codec2Decode, view, hc]
      rfl

theorem view_release (s : State δ) : (release s).map view = (view s).release := by
  rw [release, Codec2.release, view_checkIfInitialized]
  by_cases h : s.initializedTimes = 0
  · rw [checkIfInitialized_unused h]
    rfl
  · rw [checkIfInitialized_used h]
    have hn : (s.initializedTimes - 1).toNat = s.initializedTimes.toNat - 1 := by
      have hpos : s.initializedTimes.toNat ≠ 0 := by
        intro hz
        exact h (view_unused.1 hz)
      have hlt := s.initializedTimes.isLt
      have h1 : (1 : BitVec 32).toNat = 1 := rfl
      rw [BitVec.toNat_sub, h1]
      omega
    simp only [bind, Except.bind, pure, Except.pure, Except.map]
    split
    · simp only [view, codec2Release, hn]
    · simp only [view, hn]

/-! ## Soundness -/

def InUse (s : State δ) (i : Nat) : Prop := ∃ c, s.codec2 = some c ∧ c.number = i ∧ Live s.log i

structure Sound (s : State δ) : Prop where
  counted : 0 < s.initializedTimes.toInt ↔ ∃ i, InUse s i
  onlyLive : OnlyLive s.log
  destroyed : ∀ i, .create i ∈ s.log → s.log.count (.destroy (some i)) = 1 ∨ InUse s i

/-- `Sound` with what makes it last: the count has not overflowed, and there is a number for the next
instance. -/
structure Inv (s : State δ) : Prop where
  sound : Sound s
  nonneg : 0 ≤ s.initializedTimes.toInt
  fresh : ∀ i, .create i ∈ s.log ∨ .destroy (some i) ∈ s.log → i < s.created

/-- The first user gets an instance, and there are not too many users for an `int`. -/
def careful (s : State δ) : Op δ → Bool
  | .initCodec create =>
    (s.initializedTimes != 0 || create.isSome) && s.initializedTimes != BitVec.intMax 32
  | _ => true

theorem toInt_succ {n : BitVec 32} (h : n ≠ BitVec.intMax 32) : (n + 1).toInt = n.toInt + 1 := by
  have hn : n.toNat ≠ 2147483647 := by
    intro hn
    exact h (BitVec.eq_of_toNat_eq hn)
  have hlt := n.isLt
  have h1 : (1 : BitVec 32).toNat = 1 := rfl
  simp only [BitVec.toInt_eq_toNat_cond, BitVec.toNat_add, h1]
  omega

theorem toInt_pred {n : BitVec 32} (h : 0 < n.toInt) : (n - 1).toInt = n.toInt - 1 := by
  have hlt := n.isLt
  have h1 : (1 : BitVec 32).toNat = 1 := rfl
  simp only [BitVec.toInt_eq_toNat_cond, BitVec.toNat_sub, h1] at *
  omega

theorem toInt_pos {n : BitVec 32} (h : n ≠ 0) (hn : 0 ≤ n.toInt) : 0 < n.toInt := by
  refine lt_of_le_of_ne hn fun h0 => h ?_
  exact BitVec.eq_of_toInt_eq h0.symm

namespace Inv

variable {s : State δ}

theorem init : Inv ({} : State δ) := by
  refine ⟨⟨?_, trivial, ?_⟩, Int.le_refl 0, ?_⟩
  · constructor
    · intro h
      exact absurd h (by show ¬ 0 < (0 : BitVec 32).toInt; decide)
    · rintro ⟨i, c, hc, -⟩
      cases hc
  · intro i hi
    cases hi
  · intro i hi
    simp at hi

theorem not_inUse (h : Inv s) (h0 : s.initializedTimes = 0) (i : Nat) : ¬ InUse s i := by
  intro hi
  have hpos := h.sound.counted.2 ⟨i, hi⟩
  rw [h0] at hpos
  exact absurd hpos (by decide)

theorem inUse (h : Inv s) (h0 : s.initializedTimes ≠ 0) : ∃ i, InUse s i :=
  h.sound.counted.1 (toInt_pos h0 h.nonneg)

theorem first (h : Inv s) (h0 : s.initializedTimes = 0) (d : δ) :
    Inv { s with
      initializedTimes := 1, codec2 := some ⟨s.created, d⟩, created := s.created + 1,
      log := .create s.created :: s.log } := by
  have hlive : Live (.create s.created :: s.log) s.created := by
    refine ⟨List.mem_cons_self, ?_⟩
    intro hmem
    have hlt := h.fresh s.created (.inr (by simpa using hmem))
    omega
  refine ⟨⟨?_, ?_, ?_⟩, ?_, ?_⟩
  · exact iff_of_true (by show 0 < (1 : BitVec 32).toInt; decide) ⟨s.created, _, rfl, rfl, hlive⟩
  · exact ⟨by simp [NativeCall.target], h.sound.onlyLive⟩
  · intro i hi
    simp only [List.mem_cons, NativeCall.create.injEq] at hi
    obtain rfl | hi := hi
    · exact .inr ⟨_, rfl, rfl, hlive⟩
    · left
      obtain hcount | huse := h.sound.destroyed i hi
      · simpa using hcount
      · exact absurd huse (h.not_inUse h0 i)
  · show 0 ≤ (1 : BitVec 32).toInt
    decide
  · intro i hi
    simp only [List.mem_cons, NativeCall.create.injEq, reduceCtorEq, false_or] at hi
    show i < s.created + 1
    obtain (rfl | hi) | hi := hi
    · omega
    · have hlt := h.fresh i (.inl hi)
      omega
    · have hlt := h.fresh i (.inr hi)
      omega

theorem recount (h : Inv s) (h0 : s.initializedTimes ≠ 0) {n : BitVec 32} (hn : 0 < n.toInt) :
    Inv { s with initializedTimes := n } :=
  ⟨⟨iff_of_true hn (h.inUse h0), h.sound.onlyLive, h.sound.destroyed⟩, Int.le_of_lt hn, h.fresh⟩

theorem used (h : Inv s) (h0 : s.initializedTimes ≠ 0) {c : Instance δ} (hc : s.codec2 = some c) (d : δ)
    {call : NativeCall} (ht : call.target = some (some c.number)) (hd : call ≠ .destroy (some c.number)) :
    Inv { s with codec2 := some { c with states := d }, log := call :: s.log } := by
  have hcreate : ∀ i, .create i ≠ call := by
    rintro i rfl
    cases ht
  have hdestroy : ∀ i, .destroy (some i) ≠ call := by
    rintro i rfl
    cases ht
    exact hd rfl
  have hlive : ∀ i, Live (call :: s.log) i ↔ Live s.log i := by
    intro i
    simp only [Live, List.mem_cons, hcreate i, hdestroy i, false_or]
  have huse : ∀ i, InUse { s with codec2 := some { c with states := d }, log := call :: s.log } i ↔
      InUse s i := by
    intro i
    simp only [InUse, hlive, hc, Option.some.injEq, exists_eq_left']
  refine ⟨⟨?_, ?_, ?_⟩, h.nonneg, ?_⟩
  · simp only [huse]
    exact h.sound.counted
  · refine ⟨?_, h.sound.onlyLive⟩
    intro p hp
    obtain ⟨i, c', hc', hi, hl⟩ := h.inUse h0
    rw [hc] at hc'
    cases hc'
    rw [ht] at hp
    cases hp
    exact ⟨i, by rw [hi], hl⟩
  · intro i hi
    simp only [List.mem_cons, hcreate i, false_or] at hi
    rw [huse, List.count_cons_of_ne (hdestroy i).symm]
    exact h.sound.destroyed i hi
  · intro i hi
    simp only [List.mem_cons, hcreate i, hdestroy i, false_or] at hi
    exact h.fresh i hi

theorem last (h : Inv s) (h0 : s.initializedTimes ≠ 0) :
    Inv { s with initializedTimes := 0, log := .destroy (s.codec2.map (·.number)) :: s.log } := by
  obtain ⟨i, c, hc, rfl, hl⟩ := h.inUse h0
  have hp : s.codec2.map (·.number) = some c.number := by rw [hc]; rfl
  rw [hp]
  have hdead : ∀ j, ¬ InUse { s with
      initializedTimes := 0, log := .destroy (some c.number) :: s.log } j := by
    rintro j ⟨c', hc', rfl, -, hn⟩
    cases hc.symm.trans hc'
    exact hn List.mem_cons_self
  refine ⟨⟨?_, ?_, ?_⟩, Int.le_refl 0, ?_⟩
  · refine iff_of_false (by show ¬ 0 < (0 : BitVec 32).toInt; decide) ?_
    rintro ⟨j, hj⟩
    exact hdead j hj
  · refine ⟨?_, h.sound.onlyLive⟩
    intro p hp
    cases hp
    exact ⟨c.number, rfl, hl⟩
  · intro j hj
    simp only [List.mem_cons, reduceCtorEq, false_or] at hj
    left
    obtain hcount | ⟨c', hc', rfl, -⟩ := h.sound.destroyed j hj
    · -- destroyed before: it is not the one in use
      have hne : j ≠ c.number := by
        rintro rfl
        exact absurd (List.count_pos_iff.1 (by omega)) hl.2
      rw [List.count_cons_of_ne (by simpa using hne.symm)]
      exact hcount
    · cases hc.symm.trans hc'
      rw [List.count_cons_self, List.count_eq_zero.2 hl.2]
  · intro j hj
    simp only [List.mem_cons, reduceCtorEq, false_or, NativeCall.destroy.injEq, Option.some.injEq] at hj
    obtain hj | rfl | hj := hj
    · exact h.fresh j (.inl hj)
    · exact h.fresh _ (.inl hl.1)
    · exact h.fresh j (.inr hj)

end Inv

theorem inv_step {L : Library δ} {op : Op δ} {s s' : State δ} (hok : careful s op = true) (h : Inv s)
    (hs : step L op s = some s') : Inv s' := by
  cases step_effect hs with
  | thrown => exact h
  | first d h0 => exact h.first h0 d
  | noMemory h0 => simp [careful, h0] at hok
  | again create h0 =>
    simp only [careful, Bool.and_eq_true, bne_iff_ne] at hok
    refine h.recount h0 ?_
    rw [toInt_succ hok.2]
    have hnn := h.nonneg
    omega
  | encoded d h0 hc => exact h.used h0 hc d rfl (by simp)
  | decoded d h0 hc => exact h.used h0 hc d rfl (by simp)
  | released h0 h1 =>
    refine h.recount h0 (toInt_pos h1 ?_)
    have hpos := toInt_pos h0 h.nonneg
    rw [toInt_pred hpos]
    omega
  | last h0 h1 => exact h.last h0

theorem not_sound_step (L : Library δ) {op : Op δ} {s : State δ} (hok : careful s op = false) (h : Inv s) :
    ∃ s', step L op s = some s' ∧ ¬ Sound s' := by
  cases op with
  | initCodec create =>
    refine ⟨_, rfl, ?_⟩
    intro hs
    by_cases h0 : s.initializedTimes = 0
    · -- the count is one, and there is no instance
      cases create with
      | some d =>
        simp only [careful, h0, Option.isSome_some, Bool.or_true] at hok
        exact absurd hok (by decide)
      | none =>
        rw [initCodec_first h0] at hs
        obtain ⟨i, c, hc, -⟩ := hs.counted.1 (by show 0 < (1 : BitVec 32).toInt; decide)
        cases hc
    · -- the count is negative, and there still is one
      have hmax : s.initializedTimes = BitVec.intMax 32 := by
        have hne : (s.initializedTimes != 0) = true := bne_iff_ne.2 h0
        simpa only [careful, hne, Bool.true_or, Bool.true_and, bne_eq_false_iff_eq] using hok
      rw [initCodec_again h0] at hs
      have hpos := hs.counted.2 (h.inUse h0)
      simp only [hmax] at hpos
      exact absurd hpos (by decide)
  | encode input => cases hok
  | decode input => cases hok
  | release => cases hok

/-- All states of a run from the beginning are sound if and only if each `initialize` of the run is
careful. -/
theorem sound_iff (L : Library δ) (ops : List (Op δ)) :
    (∀ pre s, pre <+: ops → run (step L) {} pre = some s → Sound s) ↔
      obeys (step L) careful {} ops = true :=
  always_iff_obeys (fun _ _ _ hok h hs => inv_step hok h hs) (fun _ h => h.sound)
    (fun _ _ hok h => not_sound_step L hok h) Inv.init

def mute : Library Unit where
  codec2_encode _ _ := ((), List.replicate 7 0)
  codec2_decode _ _ := ((), List.replicate 160 0)

/-- There was no memory for the only user, whose `release` makes `codec2_destroy` fail its assertion. -/
theorem null_destroyed :
    (∃ s, run (step mute) {} [.initCodec none, .release] = some s ∧ s.log = [.destroy none] ∧ ¬ Sound s) ∧
    ∃ s, run (step mute) {} [.initCodec none] = some s ∧ 0 < s.initializedTimes.toInt ∧ s.codec2 = none ∧
      ¬ Sound s := by
  refine ⟨⟨_, rfl, rfl, ?_⟩, ⟨_, rfl, by decide, rfl, ?_⟩⟩
  · intro h
    obtain ⟨i, hi, -⟩ := h.onlyLive.1 none rfl
    cases hi
  · intro h
    obtain ⟨i, c, hc, -⟩ := h.counted.1 (by decide)
    cases hc

end CodecLife
end OnionPhone
