import OnionPhone.Lib.History
import OnionPhone.Lib.Machine
import OnionPhone.SetUp

/-!
# OnionPhone.Attack

Any number of sessions of honest phones, in both roles, whose every octet the attacker chooses. What the
attacker cannot do is forge: a signature that verifies under the key of an honest party was made by it.
Challenges are fresh when they are drawn.

A challenge is signed as it comes, without a word on who asked, in which role and for which key exchange,
and the key exchange after it is not signed at all. So an attacker who is called can have the callee it
pretends to be sign the challenge, and then exchange keys itself: `relayed_challenge`.

`signed_since_drawn`: what an introduction does show is that its owner has signed this very challenge, in
one of its sessions, after the challenge was drawn.
-/

namespace OnionPhone
namespace Attack

open Wire Wire.Method ProtocolUtils KeyExchange MainProtocol

variable {C : Crypto}

/-! ## What a session has noted when it ends -/

/-- The part of a call that introductions are about. -/
def who (c : Call C) : Option (Identity C) × Bool :=
  (c.callInfo.identity, c.callInfo.requiresIntroduction)

abbrev Anonymous {α : Type} (m : Main C α) : Prop := Leaf who m

namespace Anonymous

theorem sendMessage (msg : Octets) : Anonymous (sendMessage msg : Main C Unit) :=
  .write msg (.throw _)

theorem sendMessageWithSizeFirst (msg : Octets) :
    Anonymous (sendMessageWithSizeFirst msg : Main C Unit) :=
  .bind (.write _ (.throw _)) fun _ => sendMessage msg

theorem receiveMessageInto (n : Nat) : Anonymous (receiveMessageInto n : Main C Octets) :=
  .readFully n (.throw _)

theorem receiveSpecificMessage (msg : Octets) :
    Anonymous (receiveSpecificMessage msg : Main C Unit) :=
  .bind (receiveMessageInto _) fun _ => .ite (.throw _) (.pure ())

theorem receiveMessageWithSizeFirst :
    Anonymous (receiveMessageWithSizeFirst : Main C Octets) := by
  refine .bind (.readFully 4 (.throw _)) ?_
  intro size
  cases toInt (Octets.ofBe size) with
  | ofNat n => exact receiveMessageInto n
  | negSucc n => exact .throw _

theorem receiveEither (yes no : Octets) : Anonymous (receiveEither yes no : Main C Bool) :=
  .bind (receiveMessageInto _) fun _ => .ite (.pure true) (.ite (.pure false) (.throw _))

theorem proveIdentityToOtherParty (keyPair : KeyPair C) :
    Anonymous (proveIdentityToOtherParty keyPair) := by
  refine .bind (sendMessageWithSizeFirst _) fun _ => ?_
  refine .bind (receiveMessageInto _) fun msg => ?_
  refine .bind ?_ fun sig => sendMessageWithSizeFirst sig
  unfold signMessage
  split
  · exact .bind (.note _) fun _ => .pure _
  · exact .throw _
  · exact .throw _
  · exact .throw _
  · exact .throw _

theorem waitForAccept (fuel : Nat) : Anonymous (waitForAccept fuel : Main C Unit) := by
  induction fuel with
  | zero => exact .spin
  | succ fuel ih =>
    refine .bind (receiveMessageInto _) fun msg => ?_
    exact .ite ih (.ite (.pure ()) (.ite (.throw _) (.throw _)))

theorem generateKeyPair (noAlgorithm noProvider : String) (x : Nat) :
    Anonymous (generateKeyPair noAlgorithm noProvider x : Main C _) := by
  unfold KeyExchange.generateKeyPair
  split
  · exact .pure _
  · exact .throw _
  · exact .throw _
  · exact .throw _

theorem initKeyAgreement (key : C.DhPrivateKey) : Anonymous (initKeyAgreement key) := by
  unfold KeyExchange.initKeyAgreement
  split
  · exact .pure ()
  · exact .throw _
  · exact .throw _
  · exact .throw _
  · exact .throw _

theorem getOtherPartyPublicKey : Anonymous (getOtherPartyPublicKey : Main C _) := by
  refine .bind receiveMessageWithSizeFirst fun encoded => ?_
  unfold getOtherPartyPublicKey.parse
  split
  · exact .pure _
  · exact .throw _
  · exact .throw _
  · exact .throw _
  · exact .throw _

theorem generateSecret (key : C.DhPrivateKey) (other : C.DhPublicKey) :
    Anonymous (generateSecret key other) := by
  unfold KeyExchange.generateSecret
  split
  · exact .pure _
  · exact .throw _
  · exact .throw _
  · exact .throw _

theorem initiateKeyExchange (x : Nat) : Anonymous (initiateKeyExchange x : Main C Unit) := by
  refine .bind (generateKeyPair _ _ x) fun keyPair => ?_
  refine .bind (sendMessageWithSizeFirst _) fun _ => ?_
  refine .bind (initKeyAgreement _) fun _ => ?_
  refine .bind getOtherPartyPublicKey fun other => ?_
  refine .bind (generateSecret _ other) fun secret => ?_
  exact .bind (.assign fun _ => rfl) fun _ => .assign fun _ => rfl

theorem handleKeyExchange (x : Nat) : Anonymous (handleKeyExchange x : Main C Unit) := by
  refine .bind (generateKeyPair _ _ x) fun keyPair => ?_
  refine .bind (sendMessageWithSizeFirst _) fun _ => ?_
  refine .bind (initKeyAgreement _) fun _ => ?_
  refine .bind getOtherPartyPublicKey fun other => ?_
  refine .bind (generateSecret _ other) fun secret => ?_
  exact .bind (.assign fun _ => rfl) fun _ => .assign fun _ => rfl

theorem acceptCall (keyPair : KeyPair C) (x : Nat) : Anonymous (acceptCall keyPair x) := by
  refine .bind (.bind .fields fun c => ?_) fun _ => ?_
  · split
    · exact .throw _
    · exact .assign fun _ => rfl
  refine .bind (sendMessage _) fun _ => ?_
  refine .bind (.bind .fields fun c => ?_) fun _ => handleKeyExchange x
  exact .ite (proveIdentityToOtherParty keyPair) (.pure ())

end Anonymous

/-- The session drew the challenge and found a signature of it valid under `key`. -/
def Checked (challenge : Octets) (key : C.RsaPublicKey) (ms : List (Event C)) : Prop :=
  .drew challenge ∈ ms ∧ .verified key challenge ∈ ms

theorem Checked.mono {challenge : Octets} {key : C.RsaPublicKey} {ms ms' : List (Event C)}
    (h : Checked challenge key ms) (hsub : ms ⊆ ms') : Checked challenge key ms' :=
  ⟨hsub h.1, hsub h.2⟩

/-- Whatever key the call has as that of the other party has been checked. -/
def Vouched (challenge : Octets) (ms : List (Event C)) (w : Option (Identity C) × Bool) : Prop :=
  ∀ key, w.1.bind Identity.publicKey = some key → Checked challenge key ms

theorem Vouched.mono {challenge : Octets} (ms ms' : List (Event C)) (w : Option (Identity C) × Bool)
    (hsub : ms ⊆ ms') (h : Vouched challenge ms w) : Vouched challenge ms' w :=
  fun key hk => (h key hk).mono hsub

theorem receiveAndVerifyPublicKey_ensures (challenge : Challenge) (b : Bool) :
    Ensures (fun _ s => (who s).2 = b) (receiveAndVerifyPublicKey challenge : Main C _)
      fun key ms s => Checked challenge.1 key ms ∧ (who s).2 = b := by
  have hstep : ∀ {α : Type} {m : Main C α}, Anonymous m →
      Ensures (fun ms s => .drew challenge.1 ∈ ms ∧ (who s).2 = b) m
        fun _ ms s => .drew challenge.1 ∈ ms ∧ (who s).2 = b :=
    fun hm => hm.ensures
      (P := fun ms (w : Option (Identity C) × Bool) => .drew challenge.1 ∈ ms ∧ w.2 = b)
      fun _ _ _ hsub h => ⟨hsub h.1, h.2⟩
  have hfirst : ∀ {α : Type} {m : Main C α}, Anonymous m →
      Ensures (fun _ s => (who s).2 = b) m fun _ _ s => (who s).2 = b :=
    fun hm => hm.ensures (P := fun _ (w : Option (Identity C) × Bool) => w.2 = b) fun _ _ _ _ h => h
  refine .bind (hfirst Anonymous.receiveMessageWithSizeFirst) fun encoded => ?_
  refine .bind (hfirst ?_) fun key => ?_
  · unfold parsePublicKey
    split
    · exact .pure _
    · exact .throw _
    · exact .throw _
    · exact .throw _
  refine .bind (Q := fun _ ms s => .drew challenge.1 ∈ ms ∧ (who s).2 = b)
    (.note fun ms s h => ⟨by simp, h⟩) fun _ => ?_
  refine .bind (hstep (Anonymous.sendMessage _)) fun _ => ?_
  refine .bind (hstep Anonymous.receiveMessageWithSizeFirst) fun sig => ?_
  refine .bind (Q := fun _ ms s => Checked challenge.1 key ms ∧ (who s).2 = b) ?_
    fun _ => .pure fun ms s h => h
  unfold verifySignature
  split
  · exact .note fun ms s h => ⟨⟨by simp [h.1], by simp⟩, h.2⟩
  · exact .throw _
  · exact .throw _
  · exact .throw _
  · exact .throw _
  · exact .throw _

theorem adoptPublicKey_ensures (challenge : Octets) (key : C.RsaPublicKey) :
    Ensures (fun ms _ => Checked challenge key ms) (adoptPublicKey key)
      fun _ ms s => Vouched challenge ms (who s) := by
  refine .bind (Q := fun _ ms _ => Checked challenge key ms) (.fields fun _ _ h => h) fun c => ?_
  split
  · exact .throw _
  · next identity _ =>
    refine .bind (Q := fun _ ms _ => Checked challenge key ms) ?_ fun _ => .assign ?_
    · unfold validateKeyAgainstExpected
      split
      · exact .pure fun _ _ h => h
      · split
        · exact .throw _
        · exact .pure fun _ _ h => h
    · intro ms s h key' hk
      cases hk
      exact h

/-- A caller that requires an introduction has checked the key it ends with. -/
theorem initiateOutgoingSession_ensures (fuel : Nat) (keyPair : KeyPair C) (challenge : Challenge)
    (x : Nat) :
    Ensures (fun _ s => s.callInfo.requiresIntroduction = true)
      (initiateOutgoingSession fuel keyPair challenge x)
      fun _ ms s => Vouched challenge.1 ms (who s) := by
  have hstep : ∀ {α : Type} {m : Main C α}, Anonymous m →
      Ensures (fun _ s => (who s).2 = true) m fun _ _ s => (who s).2 = true :=
    fun hm => hm.ensures (P := fun _ (w : Option (Identity C) × Bool) => w.2 = true) fun _ _ _ _ h => h
  refine .bind (hstep ?_) fun _ => ?_
  · refine .bind (Anonymous.sendMessage _) fun _ => ?_
    refine .bind (Anonymous.receiveSpecificMessage _) fun _ => ?_
    exact .bind (Anonymous.receiveSpecificMessage _) fun _ => Anonymous.sendMessage _
  refine .bind (hstep ?_) fun _ => ?_
  · refine .bind (Anonymous.sendMessage _) fun _ => ?_
    exact .bind (Anonymous.receiveMessageInto _) fun _ => .pure ()
  refine .bind (hstep ?_) fun _ => ?_
  · refine .bind .fields fun c => .ite ?_ (Anonymous.sendMessage _)
    exact .bind (Anonymous.sendMessage _) fun _ => Anonymous.proveIdentityToOtherParty keyPair
  refine .bind (hstep ?_) fun _ => ?_
  · exact .bind .fields fun c => .ite (Anonymous.sendMessage _) (Anonymous.sendMessage _)
  refine .bind (hstep (Anonymous.waitForAccept fuel)) fun _ => ?_
  refine .bind (Q := fun _ ms s => Vouched challenge.1 ms (who s)) ?_ fun _ =>
    (Anonymous.initiateKeyExchange x).ensures Vouched.mono
  refine .bind (Q := fun c _ s => c = s ∧ (who s).2 = true) (.fields fun _ s h => ⟨rfl, h⟩) fun c => ?_
  split
  · refine .bind (Q := fun key ms s => Checked challenge.1 key ms ∧ (who s).2 = true) ?_ fun key => ?_
    · intro ms s h
      exact receiveAndVerifyPublicKey_ensures challenge true ms s h.2
    · intro ms s h
      exact adoptPublicKey_ensures challenge.1 key ms s h.1
  · next hno =>
    intro ms s h
    exact absurd (by rw [h.1]; exact h.2) hno

theorem callee_ensures (keyPair : KeyPair C) (challenge : Challenge) (x : Nat) :
    Ensures (fun _ _ => True)
      (do initiateIncomingSession challenge; acceptCall keyPair x : Main C Unit)
      fun _ ms s => Vouched challenge.1 ms (who s) := by
  have hstep : ∀ {α : Type} {m : Main C α}, Anonymous m →
      Ensures (fun _ _ => True) m fun _ _ _ => True :=
    fun hm => hm.ensures (P := fun _ _ => True) fun _ _ _ _ h => h
  have hlater : ∀ {α : Type} {m : Main C α}, Anonymous m →
      Ensures (fun ms s => Vouched challenge.1 ms (who s)) m
        fun _ ms s => Vouched challenge.1 ms (who s) := fun hm => hm.ensures Vouched.mono
  refine .bind ?_ fun _ => hlater (Anonymous.acceptCall keyPair x)
  refine .bind (Q := fun _ _ _ => True) (.assign fun _ _ _ => trivial) fun _ => ?_
  refine .bind (hstep ?_) fun _ => ?_
  · refine .bind (Anonymous.receiveSpecificMessage _) fun _ => ?_
    refine .bind (Anonymous.sendMessage _) fun _ => ?_
    exact .bind (Anonymous.sendMessage _) fun _ => Anonymous.receiveSpecificMessage _
  refine .bind (hstep ?_) fun _ => ?_
  · refine .bind ?_ fun _ => Anonymous.sendMessage _
    exact .bind (Anonymous.receiveMessageInto _) fun _ => .pure ()
  refine .bind (Q := fun identity ms _ => ∀ key, identity.publicKey = some key →
    Checked challenge.1 key ms) ?_ fun identity => ?_
  · refine .bind (hstep (Anonymous.receiveEither _ _)) fun introducing => ?_
    split
    · refine .bind (Q := fun key ms _ => Checked challenge.1 key ms) ?_ fun key => .pure ?_
      · intro ms s _
        refine Proc.Leaves.mono (receiveAndVerifyPublicKey_ensures challenge _ ms s rfl) ?_
        intro ms' r h key hk
        exact (h key hk).1
      · intro ms s h key' hk
        cases hk
        exact h
    · refine .pure ?_
      intro ms s _ key hk
      cases hk
  refine .bind (Q := fun _ ms s => Vouched challenge.1 ms (who s)) (.assign fun ms s h => h) fun _ => ?_
  refine .bind (hlater (Anonymous.receiveEither _ _)) fun b => ?_
  refine .bind (Q := fun _ ms s => Vouched challenge.1 ms (who s)) (.assign fun ms s h => h) fun _ => ?_
  exact hlater (.bind (.note _) fun _ => .assign fun _ => rfl)

/-! ## Sessions -/

inductive Role (C : Crypto) where
  | caller (fuel : Nat) (callInfo : CallInfo C)
  | callee

/-- A session of an honest phone: whose it is, its role, what it draws, and what it has still to do. -/
structure Session (C : Crypto) where
  keyPair : KeyPair C
  role : Role C
  challenge : Challenge
  dhRandom : Nat
  proc : Proc (Event C) (Except Exn Unit × Call C)

def program (keyPair : KeyPair C) (challenge : Challenge) (dhRandom : Nat) :
    Role C → Proc (Event C) (Except Exn Unit × Call C)
  | .caller fuel callInfo =>
    initiateOutgoingSession fuel keyPair challenge dhRandom { callInfo := callInfo }
  | .callee => (do initiateIncomingSession challenge; acceptCall keyPair dhRandom : Main C Unit) {}

/-- The sessions that end with an identity key only after they have checked it. -/
def Role.checks : Role C → Bool
  | .caller _ callInfo => callInfo.requiresIntroduction
  | .callee => true

structure State (C : Crypto) where
  sessions : List (Session C) := []
  log : List (Nat × Event C) := []

/-- A phone starts a session, or session `i` makes a step with a reply that the attacker chooses. -/
inductive Act (C : Crypto) where
  | begin (keyPair : KeyPair C) (role : Role C) (challenge : Challenge) (dhRandom : Nat)
  | reply (i : Nat) (r : Reply)

def noted (i : Nat) (log : List (Nat × Event C)) : List (Event C) :=
  log.filterMap fun x => if x.1 = i then some x.2 else none

def Post (se : Session C) (ms : List (Event C)) (r : Except Exn Unit × Call C) : Prop :=
  se.role.checks = true → r.1 = .ok () → Vouched se.challenge.1 ms (who r.2)

theorem noted_append (i : Nat) (log log' : List (Nat × Event C)) :
    noted i (log ++ log') = noted i log ++ noted i log' := by
  rw [noted, noted, noted, List.filterMap_append]

theorem noted_of_unknown {i : Nat} {log : List (Nat × Event C)} (h : ∀ x ∈ log, x.1 ≠ i) :
    noted i log = [] := by
  rw [noted, List.filterMap_eq_nil_iff]
  intro x hx
  rw [if_neg (h x hx)]

theorem mem_of_noted {i : Nat} {log : List (Nat × Event C)} {e : Event C} (h : e ∈ noted i log) :
    (i, e) ∈ log := by
  obtain ⟨⟨j, e'⟩, hmem, he⟩ := List.mem_filterMap.1 h
  by_cases hj : j = i
  · subst hj
    rw [if_pos rfl] at he
    cases he
    exact hmem
  · rw [if_neg hj] at he
    cases he

theorem program_leaves (keyPair : KeyPair C) (challenge : Challenge) (dhRandom : Nat) (role : Role C) :
    (program keyPair challenge dhRandom role).Leaves
      (Post ⟨keyPair, role, challenge, dhRandom, program keyPair challenge dhRandom role⟩) [] := by
  by_cases hc : role.checks = true
  · cases role with
    | caller fuel callInfo =>
      refine Proc.Leaves.mono
        (initiateOutgoingSession_ensures fuel keyPair challenge dhRandom [] _ hc) ?_
      intro ms r h _ hok
      exact h () hok
    | callee =>
      refine Proc.Leaves.mono (callee_ensures keyPair challenge dhRandom [] {} trivial) ?_
      intro ms r h _ hok
      exact h () hok
  · have hall : ∀ (p : Proc (Event C) (Except Exn Unit × Call C)) (ms : List (Event C)),
        p.Leaves (Post ⟨keyPair, role, challenge, dhRandom, program keyPair challenge dhRandom role⟩)
          ms := by
      intro p
      induction p with
      | ret a => exact fun _ h => absurd h hc
      | spin => exact fun _ => trivial
      | mark w k ih => exact fun ms => ih _
      | send bs k ih => exact fun ms ok => ih ok ms
      | recv n k ih => exact fun ms o => ih o ms
    exact hall _ []

theorem getElem?_set_keyPair {sessions : List (Session C)} {i : Nat} {se : Session C}
    {p : Proc (Event C) (Except Exn Unit × Call C)} (hi : sessions[i]? = some se) (j : Nat)
    (x : Session C) (hj : sessions[j]? = some x) :
    ∃ x', (sessions.set i { se with proc := p })[j]? = some x' ∧ x'.keyPair = x.keyPair := by
  by_cases hij : i = j
  · subst hij
    rw [hi] at hj
    cases hj
    have hlt : i < sessions.length := (List.getElem?_eq_some_iff.1 hi).1
    exact ⟨{ se with proc := p }, by rw [List.getElem?_set_self hlt], rfl⟩
  · exact ⟨x, by rw [List.getElem?_set_ne hij, hj], rfl⟩

/-! ## Runs -/

section Machine

variable [DecidableEq C.RsaPublicKey] (honest : C.RsaPublicKey → Bool)

def ownedBy (sessions : List (Session C)) (key : C.RsaPublicKey) (j : Nat) : Bool :=
  match sessions[j]? with
  | some se => decide (se.keyPair.public_ = key)
  | none => false

def signs (message : Octets) : Event C → Bool
  | .signed m => decide (m = message)
  | _ => false

def draws (message : Octets) : Event C → Bool
  | .drew m => decide (m = message)
  | _ => false

/-- What the attacker cannot make happen: a signature that verifies under an honest key without its owner
having made it, and a challenge that is not fresh. -/
def allowed (sessions : List (Session C)) (log : List (Nat × Event C)) : Event C → Bool
  | .verified key message =>
    !honest key || log.any fun x => signs message x.2 && ownedBy sessions key x.1
  | .drew challenge => !log.any fun x => signs challenge x.2 || draws challenge x.2
  | _ => true

def step : Act C → State C → Option (State C)
  | .begin keyPair role challenge dhRandom, s => some { s with sessions := s.sessions ++
      [⟨keyPair, role, challenge, dhRandom, program keyPair challenge dhRandom role⟩] }
  | .reply i r, s =>
    match s.sessions[i]? with
    | none => none
    | some se =>
      match se.proc.respond r with
      | none => none
      | some (p, none) => some { s with sessions := s.sessions.set i { se with proc := p } }
      | some (p, some e) =>
        if allowed honest s.sessions s.log e then
          some ⟨s.sessions.set i { se with proc := p }, s.log ++ [(i, e)]⟩
        else
          none

/-! ## The invariant -/

structure Inv (s : State C) : Prop where
  known : ∀ x ∈ s.log, x.1 < s.sessions.length
  sessions : ∀ (i : Nat) (se : Session C), s.sessions[i]? = some se →
    se.proc.Leaves (Post se) (noted i s.log)
  log : ∀ l₁ x l₂, s.log = l₁ ++ x :: l₂ → allowed honest s.sessions l₁ x.2 = true

variable {honest}

theorem ownedBy_mono {sessions sessions' : List (Session C)} {key : C.RsaPublicKey} {j : Nat}
    (h : ∀ se : Session C, sessions[j]? = some se →
      ∃ se', sessions'[j]? = some se' ∧ se'.keyPair = se.keyPair)
    (ho : ownedBy sessions key j = true) : ownedBy sessions' key j = true := by
  unfold ownedBy at ho ⊢
  cases hj : sessions[j]? with
  | none => simp [hj] at ho
  | some se =>
    obtain ⟨se', hse', hk⟩ := h se hj
    rw [hse']
    rw [hj] at ho
    simpa [hk] using ho

theorem allowed_mono {sessions sessions' : List (Session C)} {log : List (Nat × Event C)} {e : Event C}
    (h : ∀ (j : Nat) (se : Session C), sessions[j]? = some se →
      ∃ se', sessions'[j]? = some se' ∧ se'.keyPair = se.keyPair)
    (ha : allowed honest sessions log e = true) : allowed honest sessions' log e = true := by
  cases e with
  | verified key message =>
    simp only [allowed, Bool.or_eq_true, List.any_eq_true, Bool.and_eq_true] at ha ⊢
    rcases ha with ha | ⟨x, hx, hs, ho⟩
    · exact .inl ha
    · exact .inr ⟨x, hx, hs, ownedBy_mono (h x.1) ho⟩
  | drew challenge => exact ha
  | signed message => rfl
  | keepAliveStarted => rfl

theorem inv_move {s : State C} {i : Nat} {se : Session C} {r : Reply}
    {p : Proc (Event C) (Except Exn Unit × Call C)} {w : Option (Event C)} (h : Inv honest s)
    (hi : s.sessions[i]? = some se) (hr : se.proc.respond r = some (p, w))
    (hw : ∀ e, w = some e → allowed honest s.sessions s.log e = true) :
    Inv honest ⟨s.sessions.set i { se with proc := p }, s.log ++ (w.map (i, ·)).toList⟩ := by
  have hlt : i < s.sessions.length := (List.getElem?_eq_some_iff.1 hi).1
  refine ⟨?_, ?_, ?_⟩
  · intro x hx
    rw [List.length_set]
    rcases List.mem_append.1 hx with hx | hx
    · exact h.known x hx
    · cases w with
      | none => cases hx
      | some e =>
        obtain rfl := List.mem_singleton.1 hx
        exact hlt
  · intro j x hj
    rw [noted_append]
    by_cases hij : i = j
    · subst hij
      rw [List.getElem?_set_self hlt] at hj
      cases hj
      have hnew : noted i (w.map (i, ·)).toList = w.toList := by
        cases w with
        | none => rfl
        | some e => simp [noted]
      rw [hnew]
      exact (h.sessions i se hi).respond hr
    · rw [List.getElem?_set_ne hij] at hj
      have hnew : noted j (w.map (i, ·)).toList = [] := by
        refine noted_of_unknown ?_
        intro y hy
        cases w with
        | none => cases hy
        | some e =>
          obtain rfl := List.mem_singleton.1 hy
          exact hij
      rw [hnew, List.append_nil]
      exact h.sessions j x hj
  · intro l₁ x l₂ hl
    refine allowed_mono (getElem?_set_keyPair hi) ?_
    cases w with
    | none =>
      rw [Option.map_none, Option.toList_none, List.append_nil] at hl
      exact h.log l₁ x l₂ hl
    | some e =>
      -- the event is the new one, or was there before
      rcases List.eq_nil_or_concat l₂ with rfl | ⟨l₂, y, rfl⟩
      · obtain ⟨rfl, hx⟩ := List.append_inj' hl rfl
        cases hx
        exact hw e rfl
      · rw [List.concat_eq_append, ← List.cons_append, ← List.append_assoc] at hl
        exact h.log l₁ x l₂ (List.append_inj' hl rfl).1

theorem inv_step (act : Act C) (s s' : State C) (h : Inv honest s)
    (hs : step honest act s = some s') : Inv honest s' := by
  cases act with
  | begin keyPair role challenge dhRandom =>
    cases hs
    refine ⟨?_, ?_, ?_⟩
    · intro x hx
      rw [List.length_append]
      exact Nat.lt_add_right _ (h.known x hx)
    · intro i se hi
      rcases Nat.lt_trichotomy i s.sessions.length with hlt | rfl | hgt
      · rw [List.getElem?_append_left hlt] at hi
        exact h.sessions i se hi
      · rw [List.getElem?_append_right (Nat.le_refl _), Nat.sub_self] at hi
        cases hi
        rw [noted_of_unknown fun x hx => Nat.ne_of_lt (h.known x hx)]
        exact program_leaves keyPair challenge dhRandom role
      · rw [List.getElem?_eq_none (by rw [List.length_append]; exact hgt)] at hi
        cases hi
    · intro l₁ x l₂ hl
      refine allowed_mono ?_ (h.log l₁ x l₂ hl)
      intro j se hj
      have hlt : j < s.sessions.length := (List.getElem?_eq_some_iff.1 hj).1
      exact ⟨se, by rw [List.getElem?_append_left hlt, hj], rfl⟩
  | reply i r =>
    simp only [step] at hs
    split at hs
    · cases hs
    · next se hi =>
      split at hs
      · cases hs
      · next p hr =>
        cases hs
        have hm := inv_move h hi hr (by simp)
        rwa [Option.map_none, Option.toList_none, List.append_nil] at hm
      · next p e hr =>
        split at hs
        · next ha =>
          cases hs
          exact inv_move h hi hr fun e' he' => by cases he'; exact ha
        · cases hs

/-! ## Every run -/

/-- In every run, a caller that required an introduction, or a callee, that has ended normally with the
key of an honest party as that of its peer: this party has signed the challenge of this session, in a
session of its own, after the challenge was drawn. -/
theorem signed_since_drawn {acts : List (Act C)} {s : State C}
    (hr : run (step honest) {} acts = some s) {i : Nat} {se : Session C} {c : Call C}
    {key : C.RsaPublicKey} (hi : s.sessions[i]? = some se) (hc : se.role.checks = true)
    (hend : se.proc = .ret (.ok (), c)) (hkey : c.callInfo.identityKey = some key)
    (hh : honest key = true) :
    ∃ l₁ l₂ j other, s.log = l₁ ++ (i, .drew se.challenge.1) :: l₂ ∧
      (j, .signed se.challenge.1) ∈ l₂ ∧ s.sessions[j]? = some other ∧
      other.keyPair.public_ = key := by
  have h0 : Inv honest ({} : State C) := by
    refine ⟨?_, ?_, ?_⟩
    · intro x hx
      cases hx
    · intro i se h
      cases h
    · intro l₁ x l₂ h
      cases l₁ <;> cases h
  have hinv := run_inv_any inv_step h0 hr
  have hpost := hinv.sessions i se hi
  rw [hend] at hpost
  obtain ⟨hdrew, hverified⟩ := hpost hc rfl key hkey
  -- where the challenge was drawn it was not signed yet, where it was verified it was
  obtain ⟨l₁, l₂, hl⟩ := List.append_of_mem (mem_of_noted hdrew)
  obtain ⟨m₁, m₂, hm⟩ := List.append_of_mem (mem_of_noted hverified)
  have hfresh := hinv.log l₁ _ l₂ hl
  have hsig := hinv.log m₁ _ m₂ hm
  simp only [allowed, hh, Bool.not_true, Bool.false_or, List.any_eq_true, Bool.and_eq_true] at hsig
  obtain ⟨⟨j, e⟩, hmem, hsigned, howned⟩ := hsig
  have he : e = .signed se.challenge.1 := by
    cases e with
    | signed m =>
      have hm : m = se.challenge.1 := of_decide_eq_true hsigned
      rw [hm]
    | _ => cases hsigned
  subst he
  have hin : (j, .signed se.challenge.1) ∈ s.log := by
    rw [hm]
    exact List.mem_append_left _ hmem
  rw [hl, List.mem_append, List.mem_cons] at hin
  rcases hin with hin | hin | hin
  · simp only [allowed, Bool.not_eq_true', List.any_eq_false] at hfresh
    have hno := hfresh _ hin
    simp [signs] at hno
  · cases hin
  · cases ho : s.sessions[j]? with
    | none => simp [ownedBy, ho] at howned
    | some other =>
      refine ⟨l₁, l₂, j, other, hl, hin, ho, ?_⟩
      simpa [ownedBy, ho] using howned

end Machine

/-! ## Instances -/

instance : DecidableEq smallCrypto.RsaPublicKey := inferInstanceAs (DecidableEq UInt8)

def smallHonest : smallCrypto.RsaPublicKey → Bool :=
  fun key : UInt8 => key == 2 || key == 5

def bothBegin : List (Act smallCrypto) :=
  [.begin (SetUp.smallParty 2).keyPair
      (.caller 4 { requiresIntroduction := true, identity := some {} })
      (SetUp.smallParty 2).randomMessage 2,
    .begin (SetUp.smallParty 5).keyPair .callee (SetUp.smallParty 5).randomMessage 5]

def getChallenge : List Reply :=
  [.done, .data helloAckMsg, .data helloMsg, .done, .done, .data versionMsg, .done, .done,
    .data acceptMsg, .data [0, 0, 0, 1], .data [5], .done, .done]

/-- The attacker calls party 5, asks for an introduction, has the challenge signed, and ends the key
exchange with the Diffie-Hellman key `key`. -/
def getSignature (key : UInt8) : List Reply :=
  [.data helloMsg, .done, .done, .data helloAckMsg, .data versionMsg, .done, .data noIntroductionMsg,
    .data introductionReqMsg, .done, .done, .done, .done, .data (SetUp.smallParty 2).randomMessage.1,
    .done, .done, .done, .done, .done, .data [0, 0, 0, 1], .data [key]]

def passOn (key : UInt8) : List Reply :=
  [.data [0, 0, 0, 81], .data (5 :: (SetUp.smallParty 2).randomMessage.1), .done, .done, .done,
    .data [0, 0, 0, 1], .data [key]]

/-- The whole attack: with the caller the attacker ends the key exchange with the key `toCaller`, with
the callee with `toCallee`. -/
def relay (toCaller toCallee : UInt8) : List (Act smallCrypto) :=
  bothBegin ++ getChallenge.map (.reply 0) ++ (getSignature toCallee).map (.reply 1) ++
    (passOn toCaller).map (.reply 0)

/-- What a session that has ended normally leaves behind: whose it was, the key of its peer, and its two
session keys. -/
structure Outcome where
  owner : UInt8
  peer : Option UInt8
  txKey : Option Octets
  rxKey : Option Octets
  deriving DecidableEq

def outcome (se : Session smallCrypto) : Option Outcome :=
  match se.proc with
  | .ret (.ok (), c) =>
    some ⟨se.keyPair.public_, c.callInfo.identityKey, c.callInfo.txKey, c.callInfo.rxKey⟩
  | _ => none

def outcomes (acts : List (Act smallCrypto)) : Option (List (Bool × Option Outcome)) :=
  (run (step smallHonest) {} acts).map fun s => s.sessions.map fun se => (se.role.checks, outcome se)

def firstKeyOf (secret : UInt8) : Octets := getFirstKey (smallCrypto.sha256 [secret])

def secondKeyOf (secret : UInt8) : Octets := getSecondKey (smallCrypto.sha256 [secret])

theorem relay_outcomes : outcomes (relay 3 9) =
    some [(true, some ⟨2, some 5, some (firstKeyOf 9), some (secondKeyOf 9)⟩),
      (true, some ⟨5, none, some (secondKeyOf 8), some (firstKeyOf 8)⟩)] := by
  decide +kernel

theorem ended_of_outcome {se : Session smallCrypto} {o : Outcome} (h : outcome se = some o) :
    se.keyPair.public_ = o.owner ∧ ∃ c, se.proc = .ret (.ok (), c) ∧
      c.callInfo.identityKey = o.peer ∧ c.callInfo.txKey = o.txKey ∧ c.callInfo.rxKey = o.rxKey := by
  unfold outcome at h
  split at h
  · next c hret =>
    cases h
    exact ⟨rfl, c, hret, rfl, rfl, rfl⟩
  · cases h

theorem relay_sessions : ∃ (s : State smallCrypto) (a b : Session smallCrypto),
    run (step smallHonest) {} (relay 3 9) = some s ∧ s.sessions = [a, b] ∧ a.role.checks = true ∧
    outcome a = some ⟨2, some 5, some (firstKeyOf 9), some (secondKeyOf 9)⟩ ∧
    outcome b = some ⟨5, none, some (secondKeyOf 8), some (firstKeyOf 8)⟩ := by
  obtain ⟨s, hrun, hs⟩ := Option.map_eq_some_iff.1 relay_outcomes
  obtain ⟨a, rest, hsessions, ha, hrest⟩ := List.map_eq_cons_iff.1 hs
  obtain ⟨b, rest', rfl, hb, hnil⟩ := List.map_eq_cons_iff.1 hrest
  rw [List.map_eq_nil_iff.1 hnil] at hsessions
  rw [Prod.mk.injEq] at ha hb
  exact ⟨s, a, b, hrun, hsessions, ha.1, ha.2, hb.2⟩

theorem signed_since_drawn_relayed : ∃ s se, run (step smallHonest) {} (relay 3 9) = some s ∧
    s.sessions[0]? = some se ∧
    ∃ l₁ l₂ j other, s.log = l₁ ++ (0, .drew se.challenge.1) :: l₂ ∧
      (j, .signed se.challenge.1) ∈ l₂ ∧ s.sessions[j]? = some other ∧
      other.keyPair.public_ = (5 : UInt8) := by
  obtain ⟨s, a, b, hrun, hsessions, hac, ha, -⟩ := relay_sessions
  obtain ⟨-, c, hap, hak, -, -⟩ := ended_of_outcome ha
  have h0 : s.sessions[0]? = some a := by rw [hsessions]; rfl
  exact ⟨s, a, hrun, h0, signed_since_drawn hrun h0 hac hap hak (by decide)⟩

/-- The caller ends with the key of party 5 as that of its peer, and no session of party 5 has its
keys. -/
theorem relayed_challenge : ∃ (s : State smallCrypto) (se : Session smallCrypto)
      (c : Call smallCrypto), run (step smallHonest) {} (relay 3 9) = some s ∧
    s.sessions[0]? = some se ∧ se.role.checks = true ∧ se.proc = .ret (.ok (), c) ∧
    c.callInfo.identityKey = some (5 : UInt8) ∧
    ¬ ∃ (j : Nat) (other : Session smallCrypto) (c' : Call smallCrypto),
      s.sessions[j]? = some other ∧ other.keyPair.public_ = (5 : UInt8) ∧
      other.proc = .ret (.ok (), c') ∧ c'.callInfo.rxKey = c.callInfo.txKey ∧
      c'.callInfo.txKey = c.callInfo.rxKey := by
  obtain ⟨s, a, b, hrun, hsessions, hac, ha, hb⟩ := relay_sessions
  obtain ⟨hao, c, hap, hak, hat, har⟩ := ended_of_outcome ha
  obtain ⟨hbo, cb, hbp, -, hbt, hbr⟩ := ended_of_outcome hb
  refine ⟨s, a, c, hrun, by rw [hsessions]; rfl, hac, hap, hak, ?_⟩
  rintro ⟨j, other, c', hj, ho, hp, hrx, -⟩
  rw [hsessions] at hj
  match j with
  | 0 =>
    cases hj
    rw [hao] at ho
    cases ho
  | 1 =>
    cases hj
    rw [hbp] at hp
    cases hp
    rw [hbr, hat] at hrx
    exact absurd hrx (by decide)
  | j + 2 => cases hj

end Attack
end OnionPhone
