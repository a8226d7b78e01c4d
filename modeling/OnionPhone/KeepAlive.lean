import OnionPhone.Lib.Machine
import OnionPhone.SetUp

/-!
# OnionPhone.KeepAlive

`TheOnionPhoneProtocol.KeepAliveWorker` next to the thread that answers the call. Both write to the
same stream; a single write is atomic and memory is sequentially consistent.

The worker tests `running` and then writes. Between the two the other thread can clear `running`,
write its answer and go on, and the worker still writes its message: `wait_after_accept`.
`answer_then_silence`: if the answering thread never writes while the worker is between its test and
its write, the stream carries keep-alive messages, then the answer and what follows it, and no
keep-alive message after that.
-/

namespace OnionPhone
namespace KeepAlive

open Wire Wire.Method ProtocolUtils KeyExchange MainProtocol

variable {C : Crypto}

/-! ## The two threads -/

/-- Where the worker is in its loop. -/
inductive WorkerPc where
  | test | write | sleep | done
  deriving DecidableEq, Repr

/-- Where the other thread is in `acceptCall` or `rejectCall`: the two steps of `stopSending`, then
the rest of the method. -/
inductive AnswerPc where
  | stopping | interrupting | answering
  deriving DecidableEq, Repr

inductive Writer where
  | worker | answer
  deriving DecidableEq, Repr

/-- `rest` is what the answering thread has still to do, `arrived` what it can read, and `sent` the
writes to the stream since the worker was started. -/
structure State (C : Crypto) where
  worker : WorkerPc := .test
  pc : AnswerPc := .stopping
  rest : Proc (Event C) (Except Exn Unit × Call C)
  running : Bool := true
  arrived : Octets := []
  sent : List (Writer × Octets) := []

inductive Act where
  | worker
  /-- The worker's write throws, and its thread ends. -/
  | workerFails
  | answer
  /-- The pending read or write of the answering thread throws. -/
  | answerFails
  | arrive (bs : Octets)
  deriving DecidableEq, Repr

def workerStep (s : State C) : Option (State C) :=
  match s.worker with
  | .test => some { s with worker := if s.running then .write else .done }
  | .write => some { s with
      worker := .sleep
      sent := s.sent ++ [(.worker, waitForAcceptanceMsg)] }
  | .sleep => some { s with worker := .test }
  | .done => none

def answerStep (s : State C) : Option (State C) :=
  match s.pc with
  | .stopping => some { s with running := false, pc := .interrupting }
  | .interrupting => some { s with pc := .answering }
  | .answering =>
    match s.rest with
    | .send bs k => some { s with rest := k true, sent := s.sent ++ [(.answer, bs)] }
    | p => (p.tick s.arrived).map fun r => { s with rest := r.1, arrived := r.2.1 }

def answerFailStep (s : State C) : Option (State C) :=
  match s.pc, s.rest with
  | .answering, .send _ k => some { s with rest := k false }
  | .answering, .recv _ k => some { s with rest := k none }
  | _, _ => none

def step : Act → State C → Option (State C)
  | .worker, s => workerStep s
  | .workerFails, s => if s.worker = .write then some { s with worker := .done } else none
  | .answer, s => answerStep s
  | .answerFails, s => answerFailStep s
  | .arrive bs, s => some { s with arrived := s.arrived ++ bs }

/-! ## The answer -/

inductive Answer (C : Crypto) where
  | accept (keyPair : KeyPair C) (dhRandom : Nat)
  | reject

def Answer.method : Answer C → Main C Unit
  | .accept keyPair dhRandom => acceptCall keyPair dhRandom
  | .reject => rejectCall

def Answer.msg : Answer C → Octets
  | .accept _ _ => acceptMsg
  | .reject => rejectMsg

def Answer.rest : Answer C → Main C Unit
  | .accept keyPair dhRandom => do
    sendMessage acceptMsg
    handleOutgoingIntroductionIfRequested keyPair
    handleKeyExchange dhRandom
  | .reject => sendMessage rejectMsg

theorem method_eq_rest (a : Answer C) {c : Call C} {running : Bool}
    (h : c.keepAliveWorker = some running) : a.method c = a.rest (SetUp.stopped c) := by
  cases a with
  | accept keyPair dhRandom =>
    exact SetUp.stopSending_bind h fun _ => (Answer.accept keyPair dhRandom).rest
  | reject => exact SetUp.stopSending_bind h fun _ => (Answer.reject : Answer C).rest

def started (a : Answer C) (c : Call C) : State C := { rest := a.rest (SetUp.stopped c) }

theorem rest_sends_msg (a : Answer C) (c : Call C) :
    ∃ k r, a.rest c = .send a.msg k ∧ k false = .ret r := by
  cases a with
  | accept keyPair dhRandom => exact ⟨_, _, rfl, rfl⟩
  | reject => exact ⟨_, _, rfl, rfl⟩

/-! ## What is on the stream -/

/-- Keep-alive messages, then the writes of the answering thread, the first of which is the answer. -/
def Clean (a : Answer C) (sent : List (Writer × Octets)) : Prop :=
  ∃ (n : Nat) (ws : List Octets),
    sent = List.replicate n (.worker, waitForAcceptanceMsg) ++ ws.map (Prod.mk .answer) ∧
    ∀ w ∈ ws.head?, w = a.msg

/-- The answering thread writes only while the worker is not between its test and its write. -/
def careful (s : State C) : Act → Bool
  | .answer =>
    match s.pc, s.rest with
    | .answering, .send _ _ => s.worker ≠ .write
    | _, _ => true
  | _ => true

/-- What holds of every state: `running` is cleared before anything is answered, and once something
is answered the worker is past its last write. -/
structure Inv (a : Answer C) (c : Call C) (s : State C) : Prop where
  cleared : s.pc ≠ .stopping → s.running = false
  clean : ∃ (n : Nat) (ws : List Octets),
    s.sent = List.replicate n (.worker, waitForAcceptanceMsg) ++ ws.map (Prod.mk .answer) ∧
    (∀ w ∈ ws.head?, w = a.msg) ∧
    (ws ≠ [] → s.pc = .answering ∧ s.worker ≠ .write) ∧
    (ws = [] → s.rest = a.rest (SetUp.stopped c) ∨ ∃ r, s.rest = .ret r)

variable {a : Answer C} {c : Call C} {s s' : State C}

theorem inv_started : Inv a c (started a c) :=
  ⟨fun h => absurd rfl h, 0, [], rfl, by simp, by simp, fun _ => .inl rfl⟩

theorem inv_worker (h : Inv a c s) (hs : workerStep s = some s') : Inv a c s' := by
  obtain ⟨hcl, n, ws, hsent, hhead, hans, hrest⟩ := h
  unfold workerStep at hs
  cases hw : s.worker with
  | test =>
    simp only [hw] at hs
    cases hs
    refine ⟨hcl, n, ws, hsent, hhead, ?_, hrest⟩
    intro hne
    have hpc := (hans hne).1
    refine ⟨hpc, ?_⟩
    simp [hcl (by rw [hpc]; simp)]
  | write =>
    simp only [hw] at hs
    cases hs
    have hnil : ws = [] := by
      by_contra hne
      exact (hans hne).2 hw
    subst hnil
    refine ⟨hcl, n + 1, [], ?_, hhead, by simp, hrest⟩
    simp only [hsent, List.map_nil, List.append_nil, List.replicate_succ']
  | sleep =>
    simp only [hw] at hs
    cases hs
    exact ⟨hcl, n, ws, hsent, hhead, fun hne => ⟨(hans hne).1, by simp⟩, hrest⟩
  | done =>
    simp only [hw] at hs
    cases hs

theorem inv_answer_write {bs : Octets} {k : Bool → Proc (Event C) (Except Exn Unit × Call C)}
    (h : Inv a c s) (hpc : s.pc = .answering) (hr : s.rest = .send bs k) (hw : s.worker ≠ .write) :
    Inv a c { s with rest := k true, sent := s.sent ++ [(.answer, bs)] } := by
  obtain ⟨hcl, n, ws, hsent, hhead, hans, hrest⟩ := h
  refine ⟨hcl, n, ws ++ [bs], ?_, ?_, fun _ => ⟨hpc, hw⟩, by simp⟩
  · simp only [hsent, List.map_append, List.map_cons, List.map_nil, List.append_assoc]
  · cases ws with
    | nil =>
      -- the first write is the answer itself
      rcases hrest rfl with hr' | ⟨r, hr'⟩
      · obtain ⟨k', _, hk', _⟩ := rest_sends_msg a (SetUp.stopped c)
        rw [hr, hk', Proc.send.injEq] at hr'
        intro w hmem
        cases hmem
        exact hr'.1
      · rw [hr] at hr'
        cases hr'
    | cons w ws => simpa using hhead

theorem inv_rest {rest : Proc (Event C) (Except Exn Unit × Call C)} {arrived : Octets}
    (h : Inv a c s) (hsend : ∀ bs k, s.rest ≠ .send bs k) (hret : ∀ r, s.rest ≠ .ret r) :
    Inv a c { s with rest := rest, arrived := arrived } := by
  obtain ⟨hcl, n, ws, hsent, hhead, hans, hrest⟩ := h
  refine ⟨hcl, n, ws, hsent, hhead, hans, ?_⟩
  intro hnil
  rcases hrest hnil with hr | ⟨r, hr⟩
  · obtain ⟨k, _, hk, _⟩ := rest_sends_msg a (SetUp.stopped c)
    exact absurd (hr.trans hk) (hsend _ _)
  · exact absurd hr (hret r)

theorem inv_stop (h : Inv a c s) (hpc : s.pc ≠ .answering) (pc : AnswerPc) :
    Inv a c { s with running := false, pc := pc } := by
  obtain ⟨hcl, n, ws, hsent, hhead, hans, hrest⟩ := h
  exact ⟨fun _ => rfl, n, ws, hsent, hhead, fun hne => absurd (hans hne).1 hpc, hrest⟩

theorem inv_answer (h : Inv a c s) (hc : careful s .answer = true) (hs : answerStep s = some s') :
    Inv a c s' := by
  unfold answerStep at hs
  cases hpc : s.pc with
  | stopping =>
    rw [hpc] at hs
    cases hs
    exact inv_stop h (by rw [hpc]; simp) .interrupting
  | interrupting =>
    rw [hpc] at hs
    cases hs
    have hrun : s.running = false := h.cleared (by rw [hpc]; simp)
    have hi := inv_stop h (by rw [hpc]; simp) .answering
    rw [← hrun] at hi
    exact hi
  | answering =>
    rw [hpc] at hs
    cases hr : s.rest with
    | send bs k =>
      rw [hr] at hs
      cases hs
      rw [← hpc]
      exact inv_answer_write h hpc hr (by simpa [careful, hpc, hr] using hc)
    | ret r => simp [hr, Proc.tick] at hs
    | spin => simp [hr, Proc.tick] at hs
    | mark w k =>
      rw [hr] at hs
      obtain ⟨r, _, rfl⟩ := Option.map_eq_some_iff.1 hs
      rw [← hpc]
      exact inv_rest h (by rw [hr]; simp) (by rw [hr]; simp)
    | recv n k =>
      rw [hr] at hs
      obtain ⟨r, _, rfl⟩ := Option.map_eq_some_iff.1 hs
      rw [← hpc]
      exact inv_rest h (by rw [hr]; simp) (by rw [hr]; simp)

theorem inv_answerFails (h : Inv a c s) (hs : answerFailStep s = some s') : Inv a c s' := by
  unfold answerFailStep at hs
  split at hs
  · next bs k hpc hr =>
    cases hs
    obtain ⟨hcl, n, ws, hsent, hhead, hans, hrest⟩ := h
    refine ⟨hcl, n, ws, hsent, hhead, hans, ?_⟩
    intro hnil
    right
    rcases hrest hnil with hr' | ⟨r, hr'⟩
    · obtain ⟨k', r, hk', hf⟩ := rest_sends_msg a (SetUp.stopped c)
      rw [hr, hk', Proc.send.injEq] at hr'
      exact ⟨r, by rw [hr'.2, hf]⟩
    · rw [hr] at hr'
      cases hr'
  · next n k hpc hr =>
    cases hs
    exact inv_rest h (by rw [hr]; simp) (by rw [hr]; simp)
  · cases hs

theorem inv_step (act : Act) (s s' : State C) (hc : careful s act = true) (h : Inv a c s)
    (hs : step act s = some s') : Inv a c s' := by
  cases act with
  | worker => exact inv_worker h hs
  | workerFails =>
    simp only [step] at hs
    split at hs
    · cases hs
      obtain ⟨hcl, n, ws, hsent, hhead, hans, hrest⟩ := h
      exact ⟨hcl, n, ws, hsent, hhead, fun hne => ⟨(hans hne).1, by simp⟩, hrest⟩
    · cases hs
  | answer => exact inv_answer h hc hs
  | answerFails => exact inv_answerFails h hs
  | arrive bs =>
    cases hs
    obtain ⟨hcl, n, ws, hsent, hhead, hans, hrest⟩ := h
    exact ⟨hcl, n, ws, hsent, hhead, hans, hrest⟩

/-! ## Every schedule -/

/-- In every run in which the answering thread takes care, the stream is clean at every moment. -/
theorem answer_then_silence (a : Answer C) (c : Call C) {acts : List Act} {s : State C}
    (hc : obeys step careful (started a c) acts = true) (hr : run step (started a c) acts = some s) :
    Clean a s.sent := by
  obtain ⟨n, ws, hsent, hhead, _⟩ := (run_inv inv_step inv_started hc hr).clean
  exact ⟨n, ws, hsent, hhead⟩

theorem not_clean_wait_last (a : Answer C) (sent : List (Writer × Octets)) (bs : Octets) :
    ¬ Clean a (sent ++ [(Writer.answer, bs)] ++ [(Writer.worker, waitForAcceptanceMsg)]) := by
  rintro ⟨n, ws, h, -⟩
  rcases List.eq_nil_or_concat ws with rfl | ⟨ws', w, rfl⟩
  · have hmem : (Writer.answer, bs) ∈ List.replicate n (Writer.worker, waitForAcceptanceMsg) := by
      rw [List.map_nil, List.append_nil] at h
      rw [← h]
      simp
    cases List.eq_of_mem_replicate hmem
  · rw [List.concat_eq_append, List.map_append, ← List.append_assoc] at h
    have hlast := (List.append_inj' h rfl).2
    simp at hlast

/-- And if it does not, the very next step of the worker puts a keep-alive message behind a write of
the answering thread. -/
theorem careless_answer (a : Answer C) {bs : Octets}
    {k : Bool → Proc (Event C) (Except Exn Unit × Call C)} (hpc : s.pc = .answering)
    (hr : s.rest = .send bs k) (hw : s.worker = .write) :
    ∃ s', run step s [.answer, .worker] = some s' ∧ ¬ Clean a s'.sent := by
  refine ⟨{ s with
    worker := .sleep
    rest := k true
    sent := s.sent ++ [(Writer.answer, bs)] ++ [(Writer.worker, waitForAcceptanceMsg)] }, ?_,
    not_clean_wait_last a s.sent bs⟩
  simp only [run, step, answerStep, hpc, hr, Option.bind_some, workerStep, hw]

/-! ## Instances -/

/-- The worker sends one message and sleeps; the call is rejected; the worker wakes up. -/
def carefulSchedule : List Act :=
  [.worker, .worker, .answer, .answer, .answer, .worker, .worker]

theorem answer_then_silence_reject :
    ∃ s, run step (started (.reject : Answer smallCrypto) {}) carefulSchedule = some s ∧
      s.sent = [(.worker, waitForAcceptanceMsg), (.answer, rejectMsg)] ∧
      Clean (.reject : Answer smallCrypto) s.sent := by
  have hc : obeys step careful (started (.reject : Answer smallCrypto) {}) carefulSchedule = true :=
    rfl
  exact ⟨_, rfl, rfl, answer_then_silence .reject {} hc rfl⟩

/-- The worker has just tested `running` when the call is answered. -/
def racySchedule : List Act := [.worker, .answer, .answer, .answer, .worker]

def sampleAccept : Answer smallCrypto := .accept (SetUp.smallParty 1).keyPair 1

/-- `Accept`, and a keep-alive message behind it. -/
theorem wait_after_accept :
    ∃ s, run step (started sampleAccept {}) racySchedule = some s ∧
      s.sent = [(.answer, acceptMsg), (.worker, waitForAcceptanceMsg)] ∧
      ¬ Clean sampleAccept s.sent :=
  ⟨_, rfl, rfl, not_clean_wait_last _ [] acceptMsg⟩

end KeepAlive
end OnionPhone
