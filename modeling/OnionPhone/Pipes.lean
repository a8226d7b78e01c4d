import OnionPhone.Lib.Machine
import OnionPhone.Media

/-!
# OnionPhone.Pipes

The pipes of a call. `startCall` and `acceptCall` connect six threads with four pipes, and two of the
threads are started before there is anybody at the other end of the pipe that they write to. Whoever writes
to such a pipe gets an `IOException`.

* `startCall`, `acceptCall`: the lines that make threads, start them and attach pipes, in the order of the
  source. `step`: a line, or a step of one of the threads.
* `Ordered`: what matters about the order of the lines.
* `never_unconnected`: no thread ever writes to a pipe that is not attached, in any interleaving. A wrapper
  that has read a payload has it from the recording thread, which is started after the pipe is attached; an
  unwrapper that has read a packet has it from a connector.
-/

namespace OnionPhone
namespace Pipes

open Wire SrtpProtocol Media

/-! ## Threads and pipes -/

inductive Name where
  | audioInputWorker
  | srtpWrapper
  | applicationToNetwork
  | networkToApplication
  | srtpUnwrapper
  | audioOutputWorker
  deriving DecidableEq, Repr

/-- A `PipedOutputStream` with the `PipedInputStream` that is attached to it: the one of `AudioInput.getStream`,
of `wrapStream`, of `getApplicationOutputStream` and of `unwrapStream`. -/
inductive PipeName where
  | audio
  | wrapped
  | application
  | unwrapped
  deriving DecidableEq, Repr

/-- What a thread reads from; `none`: from the microphone or the network. -/
def Name.source : Name → Option PipeName
  | .audioInputWorker => none
  | .srtpWrapper => some .audio
  | .applicationToNetwork => some .wrapped
  | .networkToApplication => none
  | .srtpUnwrapper => some .application
  | .audioOutputWorker => some .unwrapped

/-- What it writes to; `none`: to the network or the speaker. -/
def Name.sink : Name → Option PipeName
  | .audioInputWorker => some .audio
  | .srtpWrapper => some .wrapped
  | .applicationToNetwork => none
  | .networkToApplication => some .application
  | .srtpUnwrapper => some .unwrapped
  | .audioOutputWorker => none

/-- `got` is what a thread has read of its next block. -/
inductive Phase where
  | created
  | running (got : Octets)
  | finished
  deriving DecidableEq, Repr

def Phase.got : Phase → Octets
  | .running got => got
  | _ => []

theorem Phase.started {phase : Phase} {got : Octets} (h : phase = .running got) : phase ≠ .created := by
  rw [h]
  exact Phase.noConfusion

/-- All six threads read a block and then write one. -/
structure Worker where
  blockSize : Nat := 0
  phase : Phase := .created
  deriving DecidableEq, Repr

/-! ## The methods of the call handler -/

inductive Line where
  /-- `srtpProtocol.initiateOutgoingSession` or `initiateIncomingSession` -/
  | session
  | new (t : Name)
  | start (t : Name)
  /-- `new PipedInputStream(outputStream)` -/
  | attach (p : PipeName)
  /-- A line that has nothing to do with pipes. -/
  | other
  deriving DecidableEq, Repr

/-- The end of `startCall` and of `acceptCall`. -/
def connectMedia : List Line :=
  [.session,
    -- `getApplicationInputStream`: `audioManager.getStream`, and then `wrapStream`
    .new .audioInputWorker, .attach .audio,
    .new .srtpWrapper, .start .srtpWrapper, .attach .wrapped,
    -- `getApplicationOutputStream`: a new pipe, `unwrapStream`, and then `audioManager.playStream`
    .attach .application,
    .new .srtpUnwrapper, .start .srtpUnwrapper, .attach .unwrapped,
    .new .audioOutputWorker, .start .audioOutputWorker,
    .new .applicationToNetwork, .new .networkToApplication,
    -- `audioManager.startSending`
    .start .audioInputWorker,
    .start .applicationToNetwork, .start .networkToApplication,
    .other]

/-- Before that: `assertNoCall`, `connectTo`, the two streams, `initiateOutgoingSession` of the main protocol
and `getCodec`. -/
def startCall : List Line := .other :: .other :: .other :: .other :: .other :: .other :: connectMedia

/-- `assertCallIsInitialized`, the two streams, `acceptCall` of the main protocol and `getCodec`. -/
def acceptCall : List Line := .other :: .other :: .other :: .other :: .other :: connectMedia

/-! ## The system -/

/-- `pc` lines of the method are done, and `raised` says that it has ended with an exception. -/
structure State where
  pc : Nat := 0
  raised : Bool := false
  srtpProtocol : Session := {}
  attached : PipeName → Bool := fun _ => false
  content : PipeName → Octets := fun _ => []
  threads : Name → Worker := fun _ => {}
  /-- The writes to a pipe that was not attached. -/
  unconnected : List (Name × PipeName) := []

inductive Act where
  | main
  | raise
  /-- A thread takes octets from its pipe, or gets them from outside. -/
  | read (t : Name) (n : Nat)
  | receive (t : Name) (bs : Octets)
  /-- A thread that has its block writes one. `AudioRecord.read` may come back with less than a block, which
  the recording thread does not notice. -/
  | write (t : Name) (out : Octets)
  /-- A thread ends: it was stopped, its stream has ended, or something was thrown. -/
  | exit (t : Name)
  deriving DecidableEq, Repr

def blockSize (codec : Codec) (s : Session) : Name → Nat
  | .audioInputWorker => codec.samplesSize
  | .srtpWrapper => (createWrapper s).payloadSize
  | .applicationToNetwork => Connector.packetSize
  | .networkToApplication => Connector.packetSize
  | .srtpUnwrapper => (createUnwrapper s).packetSize
  | .audioOutputWorker => codec.bytesSize

def setPhase (t : Name) (phase : Phase) (s : State) : State :=
  { s with threads := Function.update s.threads t ⟨(s.threads t).blockSize, phase⟩ }

def setBlockSize (t : Name) (n : Nat) (s : State) : State :=
  { s with threads := Function.update s.threads t ⟨n, (s.threads t).phase⟩ }

/-- One line of the method; `none` if it raises. -/
def runLine (codec : Codec) (s : State) : Line → Option State
  | .session => some { s with srtpProtocol := setSizes codec s.srtpProtocol }
  | .new t => some (setBlockSize t (blockSize codec s.srtpProtocol t) s)
  | .start t => if (s.threads t).phase = .created then some (setPhase t (.running []) s) else none
  | .attach p => some { s with attached := Function.update s.attached p true }
  | .other => some s

def writeTo (t : Name) (out : Octets) (s : State) : State :=
  match t.sink with
  | none => setPhase t (.running []) s
  | some p =>
    if s.attached p then
      setPhase t (.running []) { s with content := Function.update s.content p (s.content p ++ out) }
    else
      -- the recording thread drops the exception, the others end with it
      setPhase t (if t = .audioInputWorker then .running [] else .finished)
        { s with unconnected := (t, p) :: s.unconnected }

def step (codec : Codec) (method : List Line) : Act → State → Option State
  | .main, s =>
    if s.raised then none
    else (method[s.pc]?).bind fun line => (runLine codec s line).map fun s' => { s' with pc := s.pc + 1 }
  | .raise, s => if s.raised then none else some { s with raised := true }
  | .read t n, s =>
    match (s.threads t).phase, t.source with
    | .running got, some p =>
      if 0 < n ∧ n ≤ (s.content p).length ∧ got.length + n ≤ (s.threads t).blockSize then
        some (setPhase t (.running (got ++ (s.content p).take n))
          { s with content := Function.update s.content p ((s.content p).drop n) })
      else none
    | _, _ => none
  | .receive t bs, s =>
    match (s.threads t).phase, t.source with
    | .running got, none =>
      if got.length + bs.length ≤ (s.threads t).blockSize then
        some (setPhase t (.running (got ++ bs)) s)
      else none
    | _, _ => none
  | .write t out, s =>
    match (s.threads t).phase with
    | .running got =>
      if t = .audioInputWorker ∨ got.length = (s.threads t).blockSize then some (writeTo t out s) else none
    | _ => none
  | .exit t, s =>
    match (s.threads t).phase with
    | .running _ => some (setPhase t .finished s)
    | _ => none

section Fields

variable (t u : Name) (phase : Phase) (n : Nat) (s : State)

@[simp] theorem setPhase_content : (setPhase t phase s).content = s.content := rfl

@[simp] theorem setPhase_blockSize : ((setPhase t phase s).threads u).blockSize = (s.threads u).blockSize := by
  by_cases h : u = t
  · subst h
    simp [setPhase]
  · simp [setPhase, Function.update_of_ne h]

theorem setPhase_phase :
    ((setPhase t phase s).threads u).phase = if u = t then phase else (s.threads u).phase := by
  by_cases h : u = t
  · subst h
    simp [setPhase]
  · simp [setPhase, h]

theorem setPhase_got (hphase : phase.got = []) (hu : (s.threads u).phase.got = []) :
    ((setPhase t phase s).threads u).phase.got = [] := by
  rw [setPhase_phase]
  split
  · exact hphase
  · exact hu

@[simp] theorem setBlockSize_phase : ((setBlockSize t n s).threads u).phase = (s.threads u).phase := by
  by_cases h : u = t
  · subst h
    simp [setBlockSize]
  · simp [setBlockSize, Function.update_of_ne h]

theorem setBlockSize_blockSize :
    ((setBlockSize t n s).threads u).blockSize = if u = t then n else (s.threads u).blockSize := by
  by_cases h : u = t
  · subst h
    simp [setBlockSize]
  · simp [setBlockSize, h]

end Fields

/-! ## The steps -/

theorem read_inv {codec : Codec} {method : List Line} {t : Name} {n : Nat} {s s' : State}
    (hs : step codec method (.read t n) s = some s') :
    ∃ got p, (s.threads t).phase = .running got ∧ t.source = some p ∧ 0 < n ∧ n ≤ (s.content p).length ∧
      s' = setPhase t (.running (got ++ (s.content p).take n))
        { s with content := Function.update s.content p ((s.content p).drop n) } := by
  simp only [step] at hs
  split at hs
  · next got p hphase hp =>
    split at hs
    · next hn =>
      cases hs
      exact ⟨got, p, hphase, hp, hn.1, hn.2.1, rfl⟩
    · cases hs
  · cases hs

theorem receive_inv {codec : Codec} {method : List Line} {t : Name} {bs : Octets} {s s' : State}
    (hs : step codec method (.receive t bs) s = some s') :
    ∃ got, (s.threads t).phase = .running got ∧ t.source = none ∧
      s' = setPhase t (.running (got ++ bs)) s := by
  simp only [step] at hs
  split at hs
  · next got hphase hsource =>
    split at hs
    · cases hs
      exact ⟨got, hphase, hsource, rfl⟩
    · cases hs
  · cases hs

theorem runLine_unconnected {codec : Codec} {s s' : State} {line : Line}
    (h : runLine codec s line = some s') : s'.unconnected = s.unconnected := by
  cases line with
  | start t =>
    simp only [runLine] at h
    split at h <;> cases h
    rfl
  | _ =>
    cases h
    rfl

/-! ## The order of the lines -/

/-- Whenever `y` has been run, `x` has. -/
def Before (method : List Line) (x y : Line) : Prop := ∀ n, y ∈ method.take n → x ∈ method.take n

theorem before_of_idxOf {method : List Line} {x y : Line} (hx : x ∈ method)
    (h : method.idxOf x < method.idxOf y) : Before method x y := by
  intro n hy
  have hy' : y ∈ method := List.mem_of_mem_take hy
  rw [List.mem_take_iff_idxOf_lt hy'] at hy
  rw [List.mem_take_iff_idxOf_lt hx]
  omega

/-- The pipes of the recording side are attached before the recording thread is started, those of the
playing side before the connector that fills them, and the sizes are set before the wrappers are made. -/
structure Ordered (method : List Line) : Prop where
  audio : Before method (.attach .audio) (.start .audioInputWorker)
  wrapped : Before method (.attach .wrapped) (.start .audioInputWorker)
  application : Before method (.attach .application) (.start .networkToApplication)
  unwrapped : Before method (.attach .unwrapped) (.start .networkToApplication)
  wrapperSizes : Before method .session (.new .srtpWrapper)
  unwrapperSizes : Before method .session (.new .srtpUnwrapper)
  wrapper : Before method (.new .srtpWrapper) (.start .srtpWrapper)
  unwrapper : Before method (.new .srtpUnwrapper) (.start .srtpUnwrapper)

theorem ordered_startCall : Ordered startCall := by
  constructor <;> exact before_of_idxOf (by decide) (by decide)

theorem ordered_acceptCall : Ordered acceptCall := by
  constructor <;> exact before_of_idxOf (by decide) (by decide)

/-! ## How far the method is -/

structure Progress (codec : Codec) (method : List Line) (s : State) : Prop where
  attached : ∀ p, .attach p ∈ method.take s.pc → s.attached p = true
  started : ∀ t, (s.threads t).phase ≠ .created → .start t ∈ method.take s.pc
  payloadSize : .session ∈ method.take s.pc → s.srtpProtocol.payloadSizeInBytes = codec.bytesSize
  packetSize : .session ∈ method.take s.pc → s.srtpProtocol.packetSizeInBytes = packetSize codec
  wrapper : .new .srtpWrapper ∈ method.take s.pc → (s.threads .srtpWrapper).blockSize = codec.bytesSize
  unwrapper : .new .srtpUnwrapper ∈ method.take s.pc →
    (s.threads .srtpUnwrapper).blockSize = SrtpProtocol.packetSize codec

/-- A step of the thread `t`, which was started and stays so: what the method has made is as before. -/
structure ThreadStep (t : Name) (s s' : State) : Prop where
  pc : s'.pc = s.pc
  srtpProtocol : s'.srtpProtocol = s.srtpProtocol
  attached : s'.attached = s.attached
  blockSize : ∀ u, (s'.threads u).blockSize = (s.threads u).blockSize
  others : ∀ u, u ≠ t → (s'.threads u).phase = (s.threads u).phase
  wasStarted : (s.threads t).phase ≠ .created
  isStarted : (s'.threads t).phase ≠ .created

theorem ThreadStep.created_iff {t : Name} {s s' : State} (h : ThreadStep t s s') (u : Name) :
    (s'.threads u).phase = .created ↔ (s.threads u).phase = .created := by
  by_cases hu : u = t
  · subst hu
    exact iff_of_false h.isStarted h.wasStarted
  · rw [h.others u hu]

theorem threadStep_setPhase {t : Name} {s s₁ : State} {phase : Phase} (hpc : s₁.pc = s.pc)
    (hsrtp : s₁.srtpProtocol = s.srtpProtocol) (hatt : s₁.attached = s.attached)
    (hthreads : s₁.threads = s.threads) (h : (s.threads t).phase ≠ .created) (h' : phase ≠ .created) :
    ThreadStep t s (setPhase t phase s₁) where
  pc := hpc
  srtpProtocol := hsrtp
  attached := hatt
  blockSize u := by rw [setPhase_blockSize, hthreads]
  others u hu := by rw [setPhase_phase, if_neg hu, hthreads]
  wasStarted := h
  isStarted := by
    rw [setPhase_phase, if_pos rfl]
    exact h'

namespace Progress

variable {codec : Codec} {method : List Line} {s s' : State}

theorem init : Progress codec method {} := by
  constructor <;> simp

theorem thread (h : Progress codec method s) {t : Name} (hs : ThreadStep t s s') :
    Progress codec method s' := by
  constructor
  · intro p hp
    rw [hs.attached]
    exact h.attached p (hs.pc ▸ hp)
  · intro u hu
    rw [hs.pc]
    exact h.started u fun hc => hu ((hs.created_iff u).2 hc)
  · rw [hs.pc, hs.srtpProtocol]
    exact h.payloadSize
  · rw [hs.pc, hs.srtpProtocol]
    exact h.packetSize
  · rw [hs.pc, hs.blockSize]
    exact h.wrapper
  · rw [hs.pc, hs.blockSize]
    exact h.unwrapper

theorem take_succ {line x : Line} (hl : method[s.pc]? = some line) :
    x ∈ method.take (s.pc + 1) ↔ x ∈ method.take s.pc ∨ x = line := by
  rw [List.take_add_one, hl, Option.toList_some, List.mem_append, List.mem_singleton]

theorem main (h : Progress codec method s) (ho : Ordered method) {line : Line}
    (hl : method[s.pc]? = some line) (hr : runLine codec s line = some s') :
    Progress codec method { s' with pc := s.pc + 1 } := by
  have hmem : ∀ {x}, x ≠ line → x ∈ method.take (s.pc + 1) → x ∈ method.take s.pc := by
    intro x hx hin
    exact ((take_succ hl).1 hin).resolve_right hx
  have hsession : ∀ t, Before method .session (.new t) → line = .new t → .session ∈ method.take s.pc := by
    rintro t hb rfl
    exact hmem (by simp) (hb _ ((take_succ hl).2 (.inr rfl)))
  have hstarted : ∀ {t}, .start t ∈ method.take s.pc → .start t ∈ method.take (s.pc + 1) :=
    fun ht => (take_succ hl).2 (.inl ht)
  cases line with
  | other =>
    cases hr
    exact ⟨fun p hp => h.attached p (hmem (by simp) hp), fun t ht => hstarted (h.started t ht),
      fun hin => h.payloadSize (hmem (by simp) hin), fun hin => h.packetSize (hmem (by simp) hin),
      fun hin => h.wrapper (hmem (by simp) hin), fun hin => h.unwrapper (hmem (by simp) hin)⟩
  | session =>
    cases hr
    exact ⟨fun p hp => h.attached p (hmem (by simp) hp), fun t ht => hstarted (h.started t ht),
      fun _ => rfl, fun _ => rfl,
      fun hin => h.wrapper (hmem (by simp) hin), fun hin => h.unwrapper (hmem (by simp) hin)⟩
  | attach p =>
    cases hr
    refine ⟨?_, fun t ht => hstarted (h.started t ht),
      fun hin => h.payloadSize (hmem (by simp) hin), fun hin => h.packetSize (hmem (by simp) hin),
      fun hin => h.wrapper (hmem (by simp) hin), fun hin => h.unwrapper (hmem (by simp) hin)⟩
    intro q hq
    by_cases hqp : q = p
    · subst hqp
      exact Function.update_self ..
    · exact (Function.update_of_ne hqp ..).trans (h.attached q (hmem (by simp [hqp]) hq))
  | start t =>
    simp only [runLine] at hr
    split at hr
    · cases hr
      refine ⟨fun p hp => h.attached p (hmem (by simp) hp), ?_,
        fun hin => h.payloadSize (hmem (by simp) hin), fun hin => h.packetSize (hmem (by simp) hin), ?_, ?_⟩
      · intro u hu
        by_cases hut : u = t
        · subst hut
          exact (take_succ hl).2 (.inr rfl)
        · refine hstarted (h.started u ?_)
          simp only [setPhase_phase, if_neg hut] at hu
          exact hu
      · intro hin
        exact (setPhase_blockSize ..).trans (h.wrapper (hmem (by simp) hin))
      · intro hin
        exact (setPhase_blockSize ..).trans (h.unwrapper (hmem (by simp) hin))
    · cases hr
  | new t =>
    cases hr
    refine ⟨fun p hp => h.attached p (hmem (by simp) hp), ?_,
      fun hin => h.payloadSize (hmem (by simp) hin), fun hin => h.packetSize (hmem (by simp) hin), ?_, ?_⟩
    · intro u hu
      refine hstarted (h.started u ?_)
      rw [← setBlockSize_phase t u]
      exact hu
    · intro hin
      refine (setBlockSize_blockSize ..).trans ?_
      by_cases ht : t = .srtpWrapper
      · subst ht
        rw [if_pos rfl]
        exact h.payloadSize (hsession _ ho.wrapperSizes rfl)
      · rw [if_neg (Ne.symm ht)]
        exact h.wrapper (hmem (by simpa using Ne.symm ht) hin)
    · intro hin
      refine (setBlockSize_blockSize ..).trans ?_
      by_cases ht : t = .srtpUnwrapper
      · subst ht
        rw [if_pos rfl]
        exact h.packetSize (hsession _ ho.unwrapperSizes rfl)
      · rw [if_neg (Ne.symm ht)]
        exact h.unwrapper (hmem (by simpa using Ne.symm ht) hin)

end Progress

/-! ## Nothing to write -/

/-- As long as the thread that fills a pipe has not been started, the one that reads from it has got
nothing. -/
def Starved (feeder : Name) (p : PipeName) (reader : Name) (s : State) : Prop :=
  (s.threads feeder).phase = .created → s.content p = [] ∧ (s.threads reader).phase.got = []

structure Feeds (feeder : Name) (p : PipeName) (reader : Name) : Prop where
  only : ∀ t : Name, t.sink = some p → t = feeder
  source : reader.source = some p

theorem feeds_audio : Feeds .audioInputWorker .audio .srtpWrapper where
  only t h := by cases t <;> simp_all [Name.sink]
  source := rfl

theorem feeds_application : Feeds .networkToApplication .application .srtpUnwrapper where
  only t h := by cases t <;> simp_all [Name.sink]
  source := rfl

theorem threadStep_writeTo {t : Name} {out : Octets} {s : State} (h : (s.threads t).phase ≠ .created) :
    ThreadStep t s (writeTo t out s) := by
  unfold writeTo
  split
  · exact threadStep_setPhase rfl rfl rfl rfl h (by simp)
  · split
    · exact threadStep_setPhase rfl rfl rfl rfl h (by simp)
    · refine threadStep_setPhase rfl rfl rfl rfl h ?_
      split <;> simp

namespace Starved

variable {codec : Codec} {method : List Line} {feeder reader : Name} {p : PipeName} {s s' : State}

theorem main (h : Starved feeder p reader s) {line : Line} (hr : runLine codec s line = some s') (n : Nat) :
    Starved feeder p reader { s' with pc := n } := by
  cases line with
  | other =>
    cases hr
    exact h
  | session =>
    cases hr
    exact h
  | attach q =>
    cases hr
    exact h
  | new t =>
    cases hr
    intro hc
    simp only [setBlockSize_phase] at hc ⊢
    exact h hc
  | start t =>
    simp only [runLine] at hr
    split at hr
    · cases hr
      intro hc
      simp only [setPhase_phase] at hc
      split at hc
      · cases hc
      · exact ⟨(h hc).1, setPhase_got _ _ _ _ rfl (h hc).2⟩
    · cases hr

theorem read (hf : Feeds feeder p reader) (h : Starved feeder p reader s) {t : Name} {n : Nat}
    (hs : step codec method (.read t n) s = some s') : Starved feeder p reader s' := by
  obtain ⟨got, q, -, hq, hpos, hn, rfl⟩ := read_inv hs
  intro hc
  simp only [setPhase_phase, setPhase_content] at hc ⊢
  split at hc
  · cases hc
  · obtain ⟨hempty, hgot⟩ := h hc
    by_cases htr : reader = t
    · -- there is nothing that the reader could have read
      subst htr
      cases hq.symm.trans hf.source
      rw [hempty] at hn
      exact absurd hn (Nat.not_le.2 hpos)
    · refine ⟨?_, by rw [if_neg htr]; exact hgot⟩
      by_cases hqp : q = p
      · subst hqp
        simp [hempty]
      · rw [Function.update_of_ne (Ne.symm hqp)]
        exact hempty

theorem receive (hf : Feeds feeder p reader) (h : Starved feeder p reader s) {t : Name} {bs : Octets}
    (hs : step codec method (.receive t bs) s = some s') : Starved feeder p reader s' := by
  obtain ⟨got, -, hsource, rfl⟩ := receive_inv hs
  intro hc
  simp only [setPhase_phase, setPhase_content] at hc ⊢
  split at hc
  · cases hc
  · have htr : reader ≠ t := by
      rintro rfl
      cases hsource.symm.trans hf.source
    rw [if_neg htr]
    exact h hc

theorem write (hf : Feeds feeder p reader) (h : Starved feeder p reader s) {t : Name} {out : Octets}
    (hphase : (s.threads t).phase ≠ .created) : Starved feeder p reader (writeTo t out s) := by
  intro hc
  have hc' := ((threadStep_writeTo hphase).created_iff feeder).1 hc
  have hne : t ≠ feeder := by
    rintro rfl
    exact hphase hc'
  obtain ⟨hempty, hgot⟩ := h hc'
  unfold writeTo
  split
  · exact ⟨hempty, setPhase_got _ _ _ _ rfl hgot⟩
  · next q hq =>
    have hqp : p ≠ q := by
      rintro rfl
      exact hne (hf.only t hq)
    split
    · exact ⟨(Function.update_of_ne hqp ..).trans hempty, setPhase_got _ _ _ _ rfl hgot⟩
    · refine ⟨hempty, setPhase_got _ _ _ _ ?_ hgot⟩
      split <;> rfl

theorem exit (h : Starved feeder p reader s) (t : Name) : Starved feeder p reader (setPhase t .finished s) := by
  intro hc
  simp only [setPhase_phase] at hc
  split at hc
  · cases hc
  · exact ⟨(h hc).1, setPhase_got _ _ _ _ rfl (h hc).2⟩

end Starved

/-! ## Every run -/

structure Inv (codec : Codec) (method : List Line) (s : State) : Prop where
  progress : Progress codec method s
  recording : Starved .audioInputWorker .audio .srtpWrapper s
  playing : Starved .networkToApplication .application .srtpUnwrapper s
  connected : s.unconnected = []

namespace Inv

variable {codec : Codec} {method : List Line} {s s' : State}

theorem init : Inv codec method {} :=
  ⟨Progress.init, fun _ => ⟨rfl, rfl⟩, fun _ => ⟨rfl, rfl⟩, rfl⟩

theorem attached_of_started (h : Inv codec method s) {t : Name} {p : PipeName}
    (hb : Before method (.attach p) (.start t)) (hs : (s.threads t).phase ≠ .created) : s.attached p = true :=
  h.progress.attached p (hb _ (h.progress.started t hs))

/-- A thread that has read a whole block, of at least one octet, has got it from the thread that fills its
pipe. -/
theorem feeder_started {feeder reader : Name} {p : PipeName} (h : Starved feeder p reader s) {got : Octets}
    (hphase : (s.threads reader).phase = .running got) (hpos : 0 < got.length) :
    (s.threads feeder).phase ≠ .created := by
  intro hc
  have hgot := (h hc).2
  rw [hphase] at hgot
  cases hgot
  simp at hpos

theorem attached_sink (h : Inv codec method s) (ho : Ordered method) (hb : 0 < codec.bytesSize) {t : Name}
    {p : PipeName} {got : Octets} (hp : t.sink = some p) (hphase : (s.threads t).phase = .running got)
    (hfull : t = .audioInputWorker ∨ got.length = (s.threads t).blockSize) : s.attached p = true := by
  have hstarted := Phase.started hphase
  cases t with
  | audioInputWorker =>
    cases hp
    exact h.attached_of_started ho.audio hstarted
  | networkToApplication =>
    cases hp
    exact h.attached_of_started ho.application hstarted
  | srtpWrapper =>
    cases hp
    have hsize := h.progress.wrapper (ho.wrapper _ (h.progress.started _ hstarted))
    have hlen := hfull.resolve_left (by simp)
    exact h.attached_of_started ho.wrapped (feeder_started h.recording hphase (by omega))
  | srtpUnwrapper =>
    cases hp
    have hsize := h.progress.unwrapper (ho.unwrapper _ (h.progress.started _ hstarted))
    have hlen := hfull.resolve_left (by simp)
    have hpos : 0 < SrtpProtocol.packetSize codec := by
      simp only [SrtpProtocol.packetSize, srtpHeaderSizeInBytes]
      omega
    exact h.attached_of_started ho.unwrapped (feeder_started h.playing hphase (by omega))
  | applicationToNetwork => cases hp
  | audioOutputWorker => cases hp

theorem step (ho : Ordered method) (hb : 0 < codec.bytesSize) {a : Act} (h : Inv codec method s)
    (hs : Pipes.step codec method a s = some s') : Inv codec method s' := by
  cases a with
  | main =>
    simp only [Pipes.step] at hs
    split at hs
    · cases hs
    · obtain ⟨line, hl, hrun⟩ := Option.bind_eq_some_iff.1 hs
      obtain ⟨s₁, hr, rfl⟩ := Option.map_eq_some_iff.1 hrun
      refine ⟨h.progress.main ho hl hr, h.recording.main hr _, h.playing.main hr _, ?_⟩
      exact (runLine_unconnected hr).trans h.connected
  | raise =>
    simp only [Pipes.step] at hs
    split at hs
    · cases hs
    · cases hs
      exact ⟨⟨h.progress.attached, h.progress.started, h.progress.payloadSize, h.progress.packetSize,
        h.progress.wrapper, h.progress.unwrapper⟩, h.recording, h.playing, h.connected⟩
  | read t n =>
    have hrec := h.recording.read feeds_audio hs
    have hplay := h.playing.read feeds_application hs
    obtain ⟨got, p, hphase, -, -, -, rfl⟩ := read_inv hs
    have hstarted := Phase.started hphase
    exact ⟨h.progress.thread (threadStep_setPhase rfl rfl rfl rfl hstarted (by simp)), hrec, hplay, h.connected⟩
  | receive t bs =>
    have hrec := h.recording.receive feeds_audio hs
    have hplay := h.playing.receive feeds_application hs
    obtain ⟨got, hphase, -, rfl⟩ := receive_inv hs
    have hstarted := Phase.started hphase
    exact ⟨h.progress.thread (threadStep_setPhase rfl rfl rfl rfl hstarted (by simp)), hrec, hplay, h.connected⟩
  | write t out =>
    simp only [Pipes.step] at hs
    split at hs
    · next got hphase =>
      split at hs
      · next hfull =>
        cases hs
        have hstarted := Phase.started hphase
        refine ⟨h.progress.thread (threadStep_writeTo hstarted), h.recording.write feeds_audio hstarted,
          h.playing.write feeds_application hstarted, ?_⟩
        unfold writeTo
        split
        · exact h.connected
        · next p hp =>
          rw [if_pos (h.attached_sink ho hb hp hphase hfull)]
          exact h.connected
      · cases hs
    · cases hs
  | exit t =>
    simp only [Pipes.step] at hs
    split at hs
    · next got hphase =>
      cases hs
      have hstarted := Phase.started hphase
      exact ⟨h.progress.thread (threadStep_setPhase rfl rfl rfl rfl hstarted (by simp)), h.recording.exit t,
        h.playing.exit t, h.connected⟩
    · cases hs

end Inv

theorem inv_run {codec : Codec} {method : List Line} (ho : Ordered method) (hb : 0 < codec.bytesSize)
    {acts : List Act} {s : State} (h : run (step codec method) {} acts = some s) : Inv codec method s :=
  run_inv_any (fun _ _ _ hi hs => hi.step ho hb hs) Inv.init h

/-- In every run of either method, with any schedule of its thread and the six others, nothing was ever
written to a pipe that is not attached, and no thread is about to do so. -/
theorem never_unconnected {codec : Codec} (hb : 0 < codec.bytesSize) {method : List Line}
    (hm : method = startCall ∨ method = acceptCall) {acts : List Act} {s : State}
    (h : run (step codec method) {} acts = some s) :
    s.unconnected = [] ∧ ∀ t p out s', t.sink = some p → step codec method (.write t out) s = some s' →
      s.attached p = true := by
  have ho : Ordered method := by
    obtain rfl | rfl := hm
    · exact ordered_startCall
    · exact ordered_acceptCall
  have hi := inv_run ho hb h
  refine ⟨hi.connected, ?_⟩
  intro t p out s' hp hs
  simp only [step] at hs
  split at hs
  · next got hphase =>
    split at hs
    · next hfull => exact hi.attached_sink ho hb hp hphase hfull
    · cases hs
  · cases hs

def frameActs : List Act :=
  [.receive .audioInputWorker (List.replicate 160 0), .write .audioInputWorker (List.replicate 7 1),
    .read .srtpWrapper 7, .write .srtpWrapper (List.replicate 24 2)]

def recordedFrame : List Act := List.replicate startCall.length Act.main ++ frameActs

theorem codec2_connected :
    ∃ s, run (step codec2 startCall) {} recordedFrame = some s ∧ (s.content .wrapped).length = 24 ∧
      s.unconnected = [] := by
  have hrun : (run (step codec2 startCall) {} recordedFrame).map (fun s => (s.content .wrapped).length) =
      some 24 := by decide +kernel
  obtain ⟨s, hs, hlen⟩ := Option.map_eq_some_iff.1 hrun
  exact ⟨s, hs, hlen, (never_unconnected (by decide) (.inl rfl) hs).1⟩

/-- With frames of no octets the wrapper need not wait for anybody. -/
example : (run (step ⟨160, 0, 69, by decide⟩ acceptCall) {}
    (List.replicate 10 Act.main ++ [Act.write .srtpWrapper []])).map (·.unconnected) =
      some [(.srtpWrapper, .wrapped)] := by decide

end Pipes
end OnionPhone
