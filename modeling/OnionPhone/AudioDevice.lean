import OnionPhone.Lib.Machine
import OnionPhone.App

/-!
# OnionPhone.AudioDevice

Who uses the microphone and the speaker. `AudioInput` and `AudioOutput` each keep a device and a field for
the thread that works on it. To stop a thread is to clear its flag, and the field is free at once: the
thread still has to see the flag, stop the device, release the codec and close its stream. `AudioInput`
makes no second worker while the field is taken, `AudioOutput` replaces the one it has.

* `Worker.next`: a thread, line by line, with everything that may go wrong in it.
* `OneWorker`: one thread at a time lives on a device, it can still be stopped, and nobody else has turned
  its device off.
* `getStream_view` and the like: what `App` keeps of all this.
* `one_worker_iff`: this holds at every moment of a run just if no thread is started before the one before
  it has finished.
-/

namespace OnionPhone
namespace AudioDevice

open Wire

/-! ## The threads -/

/-- Where a thread is in its `run`. -/
inductive Phase where
  -- `start` was not called
  | created
  -- before `codec.initialize()`
  | started
  -- before `audioRecord.startRecording()` or `audioTrack.play()`
  | counted
  -- at the test of `running`
  | testing
  -- before the read of a round, and before its `encode` or `decode`
  | reading
  | coding
  -- before `stop()` of the device, `codec.release()` and `closeStream()`
  | left
  | stopped
  | released
  | finished
  deriving DecidableEq, Repr

/-- `AudioInputWorker` or `AudioOutputWorker` -/
structure Worker where
  running : Bool := true
  phase : Phase := .created
  deriving DecidableEq, Repr

/-- What a thread meets in a step: nothing special, the end of its stream, or an exception. -/
inductive Event where
  | goOn
  | endOfStream
  | thrown
  deriving DecidableEq, Repr

namespace Worker

def live (w : Worker) : Bool := w.phase != .created && w.phase != .finished

/-- The device was started by this thread, which has not stopped it yet. -/
def onDevice (w : Worker) : Bool :=
  w.phase == .testing || w.phase == .reading || w.phase == .coding || w.phase == .left

theorem live_of_onDevice {w : Worker} (h : w.onDevice = true) : w.live = true := by
  cases hp : w.phase <;> simp_all [live, onDevice]

def start (w : Worker) : Worker := { w with phase := .started }

def stopAndClose (w : Worker) : Worker := { w with running := false }

/-- The next step, and whether it turns the device on or off. -/
def next (w : Worker) : Event → Option (Worker × Option Bool)
  | .goOn =>
    match w.phase with
    | .created => none
    | .started => some ({ w with phase := .counted }, none)
    | .counted => some ({ w with phase := .testing }, some true)
    | .testing => some ({ w with phase := if w.running then .reading else .left }, none)
    | .reading => some ({ w with phase := .coding }, none)
    | .coding => some ({ w with phase := .testing }, none)
    | .left => some ({ w with phase := .stopped }, some false)
    | .stopped => some ({ w with phase := .released }, none)
    | .released => some ({ w with phase := .finished }, none)
    | .finished => none
  | .endOfStream =>
    match w.phase with
    -- what is in the array is decoded nevertheless
    | .reading => some ({ running := false, phase := .coding }, none)
    | _ => none
  -- nobody catches it, and the thread ends here
  | .thrown => if w.live then some ({ w with phase := .finished }, none) else none

/-- What the device and the other threads may notice of a step. -/
structure Moves (w w' : Worker) (switch : Option Bool) : Prop where
  live : w.live = true
  started : w'.phase ≠ .created
  running : w'.running = true → w.running = true
  onDevice : w'.onDevice = true → switch = some true ∨ switch = none ∧ w.onDevice = true

theorem next_moves {w w' : Worker} {ev : Event} {switch : Option Bool}
    (h : w.next ev = some (w', switch)) : w.Moves w' switch := by
  cases ev with
  | goOn =>
    simp only [next] at h
    split at h <;> cases h <;> constructor <;> simp_all [Worker.live, Worker.onDevice]
    -- after the test, whichever way it goes
    split <;> simp
  | endOfStream =>
    simp only [next] at h
    split at h <;> cases h
    constructor <;> simp_all [Worker.live, Worker.onDevice]
  | thrown =>
    simp only [next] at h
    split at h <;> cases h
    constructor <;> simp_all [Worker.onDevice]

end Worker

/-! ## The devices -/

/-- A device with the field `worker` of its owner and all the threads that were ever made for it, by
number. -/
structure Device where
  worker : Option Nat := none
  workers : Nat → Worker := fun _ => {}
  made : Nat := 0
  active : Bool := false

inductive Raised where
  | audioManagerException (msg : String)
  | illegalThreadState
  deriving DecidableEq, Repr

namespace Device

def setWorker (i : Nat) (w : Worker) (d : Device) : Device :=
  { d with workers := Function.update d.workers i w }

@[simp] theorem setWorker_worker (i : Nat) (w : Worker) (d : Device) : (d.setWorker i w).worker = d.worker := rfl

@[simp] theorem setWorker_self (i : Nat) (w : Worker) (d : Device) : (d.setWorker i w).workers i = w :=
  Function.update_self ..

theorem setWorker_ne {i j : Nat} (h : j ≠ i) (w : Worker) (d : Device) :
    (d.setWorker i w).workers j = d.workers j := Function.update_of_ne h ..

def newWorker (d : Device) : Device :=
  { d.setWorker d.made {} with worker := some d.made, made := d.made + 1 }

def startThread (i : Nat) (d : Device) : Option Raised × Device :=
  if (d.workers i).phase = .created then
    (none, d.setWorker i (d.workers i).start)
  else (some .illegalThreadState, d)

/-- `checkWorkerNotNull` -/
def withWorker (d : Device) (f : Nat → Option Raised × Device) : Option Raised × Device :=
  match d.worker with
  | none => (some (.audioManagerException "not initialized"), d)
  | some i => f i

def stopWorker (d : Device) : Option Raised × Device :=
  d.withWorker fun i => (none, { d.setWorker i (d.workers i).stopAndClose with worker := none })

def stepWorker (i : Nat) (ev : Event) (d : Device) : Option Device :=
  match (d.workers i).next ev with
  | none => none
  | some (w, switch) =>
    some { d.setWorker i w with active := switch.getD d.active }

def idle (d : Device) : Bool := (List.range d.made).all fun i => !(d.workers i).live

end Device

namespace AudioInput

def createWorker (d : Device) : Option Raised × Device :=
  match d.worker with
  | some _ => (some (.audioManagerException "attempt to reinitialize"), d)
  | none => (none, d.newWorker)

/-- `connected`: whether `new PipedInputStream` succeeds. -/
def getStream (connected : Bool) (d : Device) : Option Raised × Device :=
  match createWorker d with
  | (some e, d) => (some e, d)
  | (none, d) =>
    if connected then (none, d) else (some (.audioManagerException "Cannot instantiate stream"), d)

def startSending (d : Device) : Option Raised × Device := d.withWorker fun i => d.startThread i

def stopSending (d : Device) : Option Raised × Device := d.stopWorker

end AudioInput

namespace AudioOutput

def playStream (d : Device) : Option Raised × Device := d.newWorker.startThread d.made

def stopPlaying (d : Device) : Option Raised × Device := d.stopWorker

end AudioOutput

/-! ## The system -/

structure Audio where
  audioRecord : Device := {}
  audioTrack : Device := {}

inductive Act where
  | getStream (connected : Bool)
  | startSending
  | stopSending
  | playStream
  | stopPlaying
  | inputWorker (i : Nat) (ev : Event)
  | outputWorker (i : Nat) (ev : Event)
  deriving DecidableEq, Repr

/-- `none` if the thread cannot take such a step: the recording thread has no stream that could end. -/
def step : Act → Audio → Option Audio
  | .getStream connected, s => some { s with audioRecord := (AudioInput.getStream connected s.audioRecord).2 }
  | .startSending, s => some { s with audioRecord := (AudioInput.startSending s.audioRecord).2 }
  | .stopSending, s => some { s with audioRecord := (AudioInput.stopSending s.audioRecord).2 }
  | .playStream, s => some { s with audioTrack := (AudioOutput.playStream s.audioTrack).2 }
  | .stopPlaying, s => some { s with audioTrack := (AudioOutput.stopPlaying s.audioTrack).2 }
  | .inputWorker i ev, s =>
    if ev = .endOfStream then none
    else (s.audioRecord.stepWorker i ev).map fun d => { s with audioRecord := d }
  | .outputWorker i ev, s => (s.audioTrack.stepWorker i ev).map fun d => { s with audioTrack := d }

/-- One live thread at most; one that was not stopped can be; a thread that has turned its device on finds
it on. -/
structure OneWorker (d : Device) : Prop where
  alone : ∀ i j, (d.workers i).live = true → (d.workers j).live = true → i = j
  stoppable : ∀ i, (d.workers i).live = true → (d.workers i).running = true → d.worker = some i
  active : ∀ i, (d.workers i).onDevice = true → d.active = true

/-- No thread is started while another one lives. `startSending` starts the thread in the field, unless it
was started before. -/
def careful (s : Audio) : Act → Bool
  | .startSending =>
    match s.audioRecord.worker with
    | some i => (s.audioRecord.workers i).phase != .created || s.audioRecord.idle
    | none => true
  | .playStream => s.audioTrack.idle
  | _ => true

/-! ## The application -/

section View

variable {C : Crypto} {app : App C} {d : Device} {rs : List Reply}

/-- What `App` keeps of a device: whether there is a worker, and whether it was started. -/
def view (d : Device) : Option Bool := d.worker.map fun i => (d.workers i).phase != .created

def result : Option Raised → Except Exn Unit
  | none => .ok ()
  | some (.audioManagerException msg) => .error (.audioManager msg)
  | some .illegalThreadState => .error .illegalThreadState

theorem view_none (hw : d.worker = none) : view d = none := by rw [view, hw]; rfl

theorem view_some {i : Nat} (hw : d.worker = some i) : view d = some ((d.workers i).phase != .created) := by
  rw [view, hw]
  rfl

theorem view_setWorker (i : Nat) (w : Worker) :
    view (d.setWorker i w) = if d.worker = some i then some (w.phase != .created) else view d := by
  unfold view
  rw [Device.setWorker_worker]
  cases hw : d.worker with
  | none => rfl
  | some j =>
    by_cases hj : j = i
    · subst hj
      simp
    · simp [Device.setWorker_ne hj, hj]

theorem view_same (hv : app.audioInput = view d) : { app with audioInput := view d } = app := by rw [← hv]

theorem getStream_view (hv : app.audioInput = view d) :
    (OnionPhone.AudioInput.getStream : Task C Unit).play app rs =
      some (result (AudioInput.getStream true d).1,
        { app with audioInput := view (AudioInput.getStream true d).2 }, rs) := by
  refine (Job.play_bind_ok (a := app) rfl).trans ?_
  unfold AudioInput.getStream AudioInput.createWorker
  cases hw : d.worker with
  | none =>
    have hnew : view d.newWorker = some false := by
      refine (view_some rfl).trans ?_
      exact congrArg (fun w => some (w.phase != .created)) (Device.setWorker_self _ _ d)
    simp only [hv.trans (view_none hw), if_true, hnew]
    rfl
  | some i =>
    simp only [hv.trans (view_some hw), view_same hv]
    rfl

theorem startSending_view (hv : app.audioInput = view d) :
    (OnionPhone.AudioInput.startSending : Task C Unit).play app rs =
      some (result (AudioInput.startSending d).1,
        { app with audioInput := view (AudioInput.startSending d).2 }, rs) := by
  refine (Job.play_bind_ok (a := app) rfl).trans ?_
  unfold AudioInput.startSending Device.withWorker
  cases hw : d.worker with
  | none =>
    simp only [hv.trans (view_none hw), view_same hv]
    rfl
  | some i =>
    simp only [hv.trans (view_some hw)]
    refine (Job.play_bind_ok (a := app) rfl).trans ?_
    by_cases hc : (d.workers i).phase = .created
    · have hst : d.startThread i = (none, d.setWorker i (d.workers i).start) := if_pos hc
      have hold : app.audioInput = some false := by rw [hv, view_some hw, hc]; rfl
      have hstart : view (d.setWorker i (d.workers i).start) = some true := by
        rw [view_setWorker, if_pos hw]
        rfl
      simp only [hst, hold, hstart, id_eq, Option.map_some]
      rfl
    · have hst : d.startThread i = (some .illegalThreadState, d) := if_neg hc
      have hold : app.audioInput = some true := by rw [hv, view_some hw]; simpa using hc
      simp only [hst, hold, ← hv, id_eq, Option.map_some]
      rfl

theorem stopSending_view (hv : app.audioInput = view d) :
    (OnionPhone.AudioInput.stopSending : Task C Unit).play app rs =
      some (result (AudioInput.stopSending d).1,
        { app with audioInput := view (AudioInput.stopSending d).2 }, rs) := by
  refine (Job.play_bind_ok (a := app) rfl).trans ?_
  unfold AudioInput.stopSending Device.stopWorker Device.withWorker
  cases hw : d.worker with
  | none =>
    simp only [hv.trans (view_none hw), view_same hv]
    rfl
  | some i =>
    simp only [hv.trans (view_some hw)]
    rfl

theorem playStream_view :
    (OnionPhone.AudioOutput.playStream : Task C Unit).play app rs =
      some (result (AudioOutput.playStream d).1,
        { app with audioOutput := view (AudioOutput.playStream d).2 }, rs) := by
  have hnew : (d.newWorker.workers d.made).phase = .created :=
    congrArg Worker.phase (Device.setWorker_self _ _ d)
  have hstart : view (AudioOutput.playStream d).2 = some true := by
    simp only [AudioOutput.playStream, Device.startThread, if_pos hnew]
    refine (view_some rfl).trans ?_
    exact congrArg (fun w => some (w.phase != .created)) (Device.setWorker_self d.made _ d.newWorker)
  rw [hstart]
  simp only [AudioOutput.playStream, Device.startThread, if_pos hnew]
  rfl

theorem stopPlaying_view (hv : app.audioOutput = view d) :
    (OnionPhone.AudioOutput.stopPlaying : Task C Unit).play app rs =
      some (result (AudioOutput.stopPlaying d).1,
        { app with audioOutput := view (AudioOutput.stopPlaying d).2 }, rs) := by
  refine (Job.play_bind_ok (a := app) rfl).trans ?_
  unfold AudioOutput.stopPlaying Device.stopWorker Device.withWorker
  cases hw : d.worker with
  | none =>
    have hsame : { app with audioOutput := view d } = app := by rw [← hv]
    simp only [hv.trans (view_none hw), hsame]
    rfl
  | some i =>
    simp only [hv.trans (view_some hw)]
    rfl

theorem stepWorker_view {i : Nat} {ev : Event} {d' : Device} (hs : d.stepWorker i ev = some d') :
    view d' = view d := by
  unfold Device.stepWorker at hs
  split at hs
  · cases hs
  · next w switch hnext =>
    cases hs
    have hm := Worker.next_moves hnext
    refine (view_setWorker i w).trans ?_
    split
    · next hw =>
      rw [view_some hw, Option.some.injEq]
      have hlive : (d.workers i).phase ≠ .created := by
        intro hc
        have hl := hm.live
        simp [Worker.live, hc] at hl
      rw [bne_iff_ne.2 hm.started, bne_iff_ne.2 hlive]
    · rfl

end View

/-! ## What the operations keep -/

structure Inv (d : Device) : Prop where
  one : OneWorker d
  free : ∀ i, d.made ≤ i → (d.workers i).phase = .created
  field : ∀ i, d.worker = some i → i < d.made

namespace Inv

variable {d : Device}

theorem init : Inv {} := by
  refine ⟨⟨?_, ?_, ?_⟩, fun _ _ => rfl, ?_⟩
  · intro i j hi
    cases hi
  · intro i hi
    cases hi
  · intro i hi
    cases hi
  · intro i hi
    cases hi

theorem live_lt (h : Inv d) {i : Nat} (hi : (d.workers i).live = true) : i < d.made := by
  by_contra hge
  have hc := h.free i (Nat.le_of_not_lt hge)
  simp [Worker.live, hc] at hi

theorem idle_iff (h : Inv d) : d.idle = true ↔ ∀ i, (d.workers i).live = false := by
  simp only [Device.idle, List.all_eq_true, List.mem_range, Bool.not_eq_true']
  constructor
  · intro hall i
    by_contra hlive
    exact hlive (hall i (h.live_lt (Bool.not_eq_false _ ▸ hlive)))
  · intro hall i _
    exact hall i

theorem newWorker (h : Inv d)
    (hfree : ∀ i, (d.workers i).live = true → (d.workers i).running = false) : Inv d.newWorker := by
  have hother : ∀ i, i ≠ d.made → d.newWorker.workers i = d.workers i := fun i hi => Device.setWorker_ne hi _ d
  have hself : d.newWorker.workers d.made = {} := Device.setWorker_self _ _ d
  have hlive : ∀ i, (d.newWorker.workers i).live = true → i ≠ d.made := by
    rintro i hi rfl
    rw [hself] at hi
    cases hi
  refine ⟨⟨?_, ?_, ?_⟩, ?_, ?_⟩
  · intro i j hi hj
    rw [hother i (hlive i hi)] at hi
    rw [hother j (hlive j hj)] at hj
    exact h.one.alone i j hi hj
  · intro i hi hr
    have hne := hlive i hi
    rw [hother i hne] at hi hr
    rw [hfree i hi] at hr
    cases hr
  · intro i hi
    by_cases hm : i = d.made
    · subst hm
      rw [hself] at hi
      cases hi
    · rw [hother i hm] at hi
      exact h.one.active i hi
  · intro i hi
    have hlt : d.made + 1 ≤ i := hi
    rw [hother i (by omega)]
    exact h.free i (by omega)
  · intro i hi
    cases hi
    exact Nat.lt_succ_self _

theorem startThread (h : Inv d) {i : Nat} (hw : d.worker = some i) (hidle : ∀ j, (d.workers j).live = false) :
    Inv (d.startThread i).2 := by
  unfold Device.startThread
  split
  · have honly : ∀ j, ((d.setWorker i (d.workers i).start).workers j).live = true → j = i := by
      intro j hj
      by_contra hne
      rw [Device.setWorker_ne hne, hidle j] at hj
      cases hj
    refine ⟨⟨?_, ?_, ?_⟩, ?_, h.field⟩
    · intro j k hj hk
      rw [honly j hj, honly k hk]
    · intro j hj _
      rw [honly j hj]
      exact hw
    · intro j hj
      by_cases hne : j = i
      · subst hne
        rw [Device.setWorker_self] at hj
        cases hj
      · rw [Device.setWorker_ne hne] at hj
        exact h.one.active j hj
    · intro j hj
      have hlt := h.field i hw
      have hmade : d.made ≤ j := hj
      rw [Device.setWorker_ne (by omega)]
      exact h.free j hmade
  · exact h

theorem stopWorker (h : Inv d) : Inv d.stopWorker.2 := by
  unfold Device.stopWorker Device.withWorker
  cases hw : d.worker with
  | none => exact h
  | some i =>
    have hphase : ∀ j, ((d.setWorker i (d.workers i).stopAndClose).workers j).phase = (d.workers j).phase := by
      intro j
      by_cases hj : j = i
      · subst hj
        rw [Device.setWorker_self]
        rfl
      · rw [Device.setWorker_ne hj]
    refine ⟨⟨?_, ?_, ?_⟩, ?_, ?_⟩
    · intro j k hj hk
      simp only [Worker.live, hphase] at hj hk
      exact h.one.alone j k hj hk
    · intro j hj hr
      -- the one in the field was stopped just now, and there was no other to stop
      by_cases hji : j = i
      · subst hji
        simp only [Device.setWorker_self] at hr
        cases hr
      · simp only [Device.setWorker_ne hji] at hj hr
        have hf := h.one.stoppable j hj hr
        rw [hw] at hf
        cases hf
        exact absurd rfl hji
    · intro j hj
      simp only [Worker.onDevice, hphase] at hj
      exact h.one.active j hj
    · intro j hj
      exact (hphase j).trans (h.free j hj)
    · intro j hj
      cases hj

theorem stepWorker (h : Inv d) {i : Nat} {ev : Event} {d' : Device} (hs : d.stepWorker i ev = some d') :
    Inv d' := by
  unfold Device.stepWorker at hs
  split at hs
  · cases hs
  · next w switch hnext =>
    cases hs
    have hm := Worker.next_moves hnext
    have hlive : ∀ j, ((d.setWorker i w).workers j).live = true → (d.workers j).live = true := by
      intro j hj
      by_cases hji : j = i
      · subst hji
        exact hm.live
      · rwa [Device.setWorker_ne hji] at hj
    refine ⟨⟨?_, ?_, ?_⟩, ?_, h.field⟩
    · intro j k hj hk
      exact h.one.alone j k (hlive j hj) (hlive k hk)
    · intro j hj hr
      by_cases hji : j = i
      · subst hji
        simp only [Device.setWorker_self] at hr
        exact h.one.stoppable j hm.live (hm.running hr)
      · simp only [Device.setWorker_ne hji] at hj hr
        exact h.one.stoppable j hj hr
    · intro j hj
      by_cases hji : j = i
      · subst hji
        simp only [Device.setWorker_self] at hj
        obtain rfl | ⟨rfl, hon⟩ := hm.onDevice hj
        · rfl
        · exact h.one.active j hon
      · -- a second thread on the device is a second live one
        simp only [Device.setWorker_ne hji] at hj
        exact absurd (h.one.alone j i (Worker.live_of_onDevice hj) hm.live) hji
    · intro j hj
      have hlt : i < d.made := h.live_lt hm.live
      have hmade : d.made ≤ j := hj
      simp only [Device.setWorker_ne (show j ≠ i by omega)]
      exact h.free j hmade

end Inv

theorem inv_getStream {d : Device} (h : Inv d) (connected : Bool) :
    Inv (AudioInput.getStream connected d).2 := by
  unfold AudioInput.getStream AudioInput.createWorker
  cases hw : d.worker with
  | some i => exact h
  | none =>
    have hnew : Inv d.newWorker := by
      refine h.newWorker ?_
      intro i hi
      -- a live thread with its flag set would be in the field
      cases hr : (d.workers i).running with
      | false => rfl
      | true => cases hw.symm.trans (h.one.stoppable i hi hr)
    cases connected <;> exact hnew

theorem inv_playStream {d : Device} (h : Inv d) (hidle : d.idle = true) :
    Inv (AudioOutput.playStream d).2 := by
  have hdead := h.idle_iff.1 hidle
  refine (h.newWorker ?_).startThread rfl ?_
  · intro i hi
    cases (hdead i).symm.trans hi
  · intro j
    by_cases hj : j = d.made
    · subst hj
      exact congrArg Worker.live (Device.setWorker_self _ _ d)
    · exact (congrArg Worker.live (Device.setWorker_ne hj _ d)).trans (hdead j)

theorem inv_startSending {s : Audio} (hok : careful s .startSending = true) (h : Inv s.audioRecord) :
    Inv (AudioInput.startSending s.audioRecord).2 := by
  simp only [careful] at hok
  unfold AudioInput.startSending Device.withWorker
  cases hw : s.audioRecord.worker with
  | none => exact h
  | some i =>
    rw [hw] at hok
    simp only [Bool.or_eq_true, bne_iff_ne] at hok
    obtain hp | hidle := hok
    · simp only [Device.startThread, if_neg hp]
      exact h
    · exact h.startThread hw (h.idle_iff.1 hidle)

structure Sound (s : Audio) : Prop where
  audioRecord : Inv s.audioRecord
  audioTrack : Inv s.audioTrack

theorem sound_step {a : Act} {s s' : Audio} (hok : careful s a = true) (h : Sound s)
    (hs : step a s = some s') : Sound s' := by
  cases a with
  | getStream connected =>
    cases hs
    exact ⟨inv_getStream h.audioRecord connected, h.audioTrack⟩
  | startSending =>
    cases hs
    exact ⟨inv_startSending hok h.audioRecord, h.audioTrack⟩
  | stopSending =>
    cases hs
    exact ⟨h.audioRecord.stopWorker, h.audioTrack⟩
  | playStream =>
    cases hs
    exact ⟨h.audioRecord, inv_playStream h.audioTrack hok⟩
  | stopPlaying =>
    cases hs
    exact ⟨h.audioRecord, h.audioTrack.stopWorker⟩
  | inputWorker i ev =>
    simp only [step] at hs
    split at hs
    · cases hs
    · obtain ⟨d, hd, rfl⟩ := Option.map_eq_some_iff.1 hs
      exact ⟨h.audioRecord.stepWorker hd, h.audioTrack⟩
  | outputWorker i ev =>
    obtain ⟨d, hd, rfl⟩ := Option.map_eq_some_iff.1 hs
    exact ⟨h.audioRecord, h.audioTrack.stepWorker hd⟩

theorem two_workers {d : Device} {i j : Nat} (hne : j ≠ i) (hj : (d.workers j).live = true)
    (hi : (d.workers i).phase = .created) : ¬ OneWorker (d.startThread i).2 := by
  intro h
  rw [Device.startThread, if_pos hi] at h
  refine hne (h.alone j i ?_ ?_)
  · rw [Device.setWorker_ne hne]
    exact hj
  · rw [Device.setWorker_self]
    rfl

theorem not_one_worker {a : Act} {s : Audio} (hok : careful s a = false) (h : Sound s) :
    ∃ s', step a s = some s' ∧ ¬ (OneWorker s'.audioRecord ∧ OneWorker s'.audioTrack) := by
  have hlive : ∀ {d : Device}, Inv d → d.idle = false → ∃ j, (d.workers j).live = true := by
    intro d hd hidle
    by_contra hn
    refine absurd (hd.idle_iff.2 ?_) (Bool.eq_false_iff.1 hidle)
    simpa using hn
  cases a with
  | startSending =>
    refine ⟨_, rfl, ?_⟩
    rintro ⟨hone, -⟩
    simp only [careful] at hok
    cases hw : s.audioRecord.worker with
    | none =>
      rw [hw] at hok
      cases hok
    | some i =>
      simp only [hw, Bool.or_eq_false_iff, bne_eq_false_iff_eq] at hok
      obtain ⟨hc, hidle⟩ := hok
      obtain ⟨j, hj⟩ := hlive h.audioRecord hidle
      simp only [AudioInput.startSending, Device.withWorker, hw] at hone
      refine two_workers ?_ hj hc hone
      rintro rfl
      simp [Worker.live, hc] at hj
  | playStream =>
    refine ⟨_, rfl, ?_⟩
    rintro ⟨-, hone⟩
    obtain ⟨j, hj⟩ := hlive h.audioTrack hok
    have hne : j ≠ s.audioTrack.made := by
      have hlt := h.audioTrack.live_lt hj
      omega
    refine two_workers hne ?_ ?_ hone
    · exact (congrArg Worker.live (Device.setWorker_ne hne _ _)).trans hj
    · exact congrArg Worker.phase (Device.setWorker_self _ _ _)
  | getStream connected => cases hok
  | stopSending => cases hok
  | stopPlaying => cases hok
  | inputWorker i ev => cases hok
  | outputWorker i ev => cases hok

/-- At every moment of a run there is one worker to a device, if and only if no worker of the run is
started before the one before it has finished. -/
theorem one_worker_iff (acts : List Act) :
    (∀ pre s, pre <+: acts → run step {} pre = some s → OneWorker s.audioRecord ∧ OneWorker s.audioTrack) ↔
      obeys step careful {} acts = true :=
  always_iff_obeys (fun _ _ _ hok h hs => sound_step hok h hs) (fun _ h => ⟨h.audioRecord.one, h.audioTrack.one⟩)
    (fun _ _ hok h => not_one_worker hok h) ⟨Inv.init, Inv.init⟩

/-- The next call begins while the recording thread of the last one is in a round: the old thread turns the
microphone off under the new one. -/
def nextCall : List Act :=
  [.getStream true, .startSending,
    .inputWorker 0 .goOn, .inputWorker 0 .goOn, .inputWorker 0 .goOn, .inputWorker 0 .goOn,
    .stopSending, .getStream true, .startSending,
    .inputWorker 1 .goOn, .inputWorker 1 .goOn, .inputWorker 1 .goOn,
    .inputWorker 0 .goOn, .inputWorker 0 .goOn, .inputWorker 0 .goOn]

/-- In the second run the player is replaced while it plays: nobody can stop it any more. -/
theorem worker_cut_off :
    (∃ s, run step {} nextCall = some s ∧ (s.audioRecord.workers 0).live = true ∧
      (s.audioRecord.workers 1).onDevice = true ∧ s.audioRecord.active = false ∧ ¬ OneWorker s.audioRecord) ∧
    ∃ s, run step {} [.playStream, .playStream] = some s ∧ (s.audioTrack.workers 0).live = true ∧
      (s.audioTrack.workers 0).running = true ∧ s.audioTrack.worker = some 1 ∧ ¬ OneWorker s.audioTrack := by
  have hfirst : (run step {} nextCall).map (fun s => ((s.audioRecord.workers 0).live,
      (s.audioRecord.workers 1).onDevice, s.audioRecord.active)) = some (true, true, false) := by decide
  have hsecond : (run step {} [.playStream, .playStream]).map (fun s => ((s.audioTrack.workers 0).live,
      (s.audioTrack.workers 0).running, s.audioTrack.worker)) = some (true, true, some 1) := by decide
  obtain ⟨s, hs, hobs⟩ := Option.map_eq_some_iff.1 hfirst
  obtain ⟨s', hs', hobs'⟩ := Option.map_eq_some_iff.1 hsecond
  simp only [Prod.mk.injEq] at hobs hobs'
  refine ⟨⟨s, hs, hobs.1, hobs.2.1, hobs.2.2, ?_⟩, ⟨s', hs', hobs'.1, hobs'.2.1, hobs'.2.2, ?_⟩⟩
  · intro h
    cases hobs.2.2.symm.trans (h.active 1 hobs.2.1)
  · intro h
    cases hobs'.2.2.symm.trans (h.stoppable 0 hobs'.1 hobs'.2.1)

end AudioDevice
end OnionPhone
