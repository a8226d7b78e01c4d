import OnionPhone.Lib.Grammar
import OnionPhone.MainProtocol

/-!
# OnionPhone.Words

The language of the handshake: what each method of `TheOnionPhoneProtocol` reads before it returns.

* `sized`: a message with its size first; `NegativeSize`: four octets that are a negative `int`, where
  the program makes an array of that size; `FaultySized`: that, or a message on which the provider throws
  an unchecked exception.
* `Introduction`: a public key, and a signature of the challenge that verifies under it.
-/

namespace OnionPhone

open Wire Wire.Method ProtocolUtils KeyExchange MainProtocol

def Exn.ofProtocol : Exn → Bool
  | .mainProtocol _ => true
  | .security _ => true
  | _ => false

namespace Words

abbrev Protocol (e : Exn) : Prop := e.ofProtocol = true

/-- The method accepts the grammar, and what it means to throw is a protocol or security exception. -/
abbrev Reads {ω σ α : Type} (N : Nat) (m : Method ω Exn σ α) (s : σ) (g : Grammar σ α) : Prop :=
  Accepts N Protocol m s g

/-! ## Messages -/

def sized (msg : Octets) : Octets := Octets.be32 msg.length ++ msg

/-- The input begins with the four octets of a negative `int`. -/
def NegativeSize (inp : Octets) : Prop :=
  ∃ size rest, inp = size ++ rest ∧ size.length = 4 ∧ 2 ^ 31 ≤ Octets.ofBe size

theorem negativeSize_iff {inp : Octets} :
    NegativeSize inp ↔ 4 ≤ inp.length ∧ 2 ^ 31 ≤ Octets.ofBe (inp.take 4) := by
  constructor
  · rintro ⟨size, rest, rfl, h4, hneg⟩
    rw [← h4, List.take_left]
    exact ⟨by simp, hneg⟩
  · rintro ⟨h4, hneg⟩
    exact ⟨inp.take 4, inp.drop 4, by simp, by simp [h4], hneg⟩

instance : DecidablePred NegativeSize := fun _ => decidable_of_iff _ negativeSize_iff.symm

section

variable {ω σ : Type} {N : Nat} {s : σ}

theorem throw {α : Type} {e : Exn} (h : e.ofProtocol = true) {W : Octets → Octets → α → Prop}
    (hW : ∀ w out a, ¬ W w out a) : Reads N (throw e : Method ω Exn σ α) s (.plain s W) :=
  Accepts.throw (P := Protocol) h hW

/-- A call of the provider with the result `r`; nobody is prepared for its fault `d`. -/
def called {δ α : Type} (s : σ) (r : Except δ α) (d : δ) : Grammar σ α :=
  .plain s (fun w out b => r = .ok b ∧ w = [] ∧ out = []) fun _ => r = .error d

theorem pure_result {δ α : Type} {r : Except δ α} {a : α} {d : δ} (h : r = .ok a) :
    Reads N (pure a : Method ω Exn σ α) s (called s r d) := by
  refine (Accepts.pure a).plain_congr ?_ fun _ => iff_false_intro (by simp [h])
  intro w out b
  constructor
  · rintro ⟨hr, hw, ho⟩
    rw [h] at hr
    cases hr
    exact ⟨hw, ho, rfl⟩
  · rintro ⟨hw, ho, rfl⟩
    exact ⟨h, hw, ho⟩

/-- A fault that is declared, and the exception it is made into. -/
theorem throw_result {δ α : Type} {r : Except δ α} {d d' : δ} (h : r = .error d') (hd : d' ≠ d) {e : Exn}
    (he : e.ofProtocol = true) : Reads N (Method.throw e : Method ω Exn σ α) s (called s r d) :=
  (throw he (by simp [h])).plain_congr (fun _ _ _ => Iff.rfl) fun _ => iff_false_intro (by simp [h, hd])

theorem throw_fault {δ α : Type} {r : Except δ α} {d : δ} (h : r = .error d) :
    Reads N (Method.throw .provider : Method ω Exn σ α) s (called s r d) :=
  (Accepts.throw_bad (by decide)).plain_congr (by simp [h]) fun _ => iff_true_intro h

theorem sendMessage (msg : Octets) :
    Reads N (sendMessage msg : Method ω Exn σ Unit) s (.plain s fun w out _ => w = [] ∧ out = msg) :=
  .write msg _

theorem sendMessageWithSizeFirst (msg : Octets) :
    Reads N (sendMessageWithSizeFirst msg : Method ω Exn σ Unit) s
      (.plain s fun w out _ => w = [] ∧ out = sized msg) := by
  refine (Accepts.plain_bind (.write _ _) fun _ _ _ _ => sendMessage msg).plain_congr ?_ ?_
  · grind [Grammar.seq, sized]
  · simp [Grammar.seqBad]

theorem receiveMessageInto (n : Nat) :
    Reads N (receiveMessageInto n : Method ω Exn σ Octets) s
      (.plain s fun w out bs => w = bs ∧ bs.length = n ∧ out = []) :=
  Accepts.readFully (P := Protocol) n rfl

theorem receiveSpecificMessage (msg : Octets) :
    Reads N (receiveSpecificMessage msg : Method ω Exn σ Unit) s
      (.plain s fun w out _ => w = msg ∧ out = []) := by
  have h : ∀ bs : Octets, Reads (ω := ω) N (if !compareIfIdentical msg bs then
      Method.throw (.mainProtocol "received wrong message") else pure ()) s
      (.plain s fun w out (_ : Unit) => bs = msg ∧ w = [] ∧ out = []) := by
    intro bs
    by_cases h : msg = bs
    · rw [if_neg (by simp [h])]
      exact (Accepts.pure ()).plain_congr (by simp [h]) fun _ => Iff.rfl
    · rw [if_pos (by simpa [Bool.eq_false_iff, compareIfIdentical_iff] using h)]
      refine throw rfl ?_
      rintro _ _ _ ⟨rfl, -⟩
      exact h rfl
  refine (Accepts.take_bind (P := Protocol) msg.length rfl fun bs _ => h bs).plain_congr ?_ ?_
  · intro w out _
    constructor
    · rintro ⟨rfl, rfl⟩
      exact ⟨rfl, rfl, rfl⟩
    · rintro ⟨-, rfl, rfl⟩
      exact ⟨rfl, rfl⟩
  · simp

theorem toInt_neg {n : Nat} (h : 2 ^ 31 ≤ n) (hn : n < 2 ^ 32) : ∃ k, toInt n = .negSucc k := by
  refine ⟨2 ^ 32 - n - 1, ?_⟩
  rw [toInt, if_neg (by omega)]
  omega

theorem receiveMessageWithSizeFirst :
    Reads N (receiveMessageWithSizeFirst : Method ω Exn σ Octets) s
      (.plain s (fun w out msg => w = sized msg ∧ msg.length < 2 ^ 31 ∧ out = []) NegativeSize) := by
  have hs : ∀ size : Octets, size.length = 4 →
      Reads N (receiveMessageOfSize (toInt (Octets.ofBe size)) : Method ω Exn σ Octets) s
        (.plain s (fun w out msg => Octets.ofBe size < 2 ^ 31 ∧ w = msg ∧
          msg.length = Octets.ofBe size ∧ out = []) fun _ => 2 ^ 31 ≤ Octets.ofBe size) := by
    intro size h4
    by_cases h : Octets.ofBe size < 2 ^ 31
    · rw [toInt_of_lt h]
      exact (receiveMessageInto _).plain_congr (fun _ _ _ => and_iff_right h)
        fun _ => iff_false_intro (Nat.not_le.2 h)
    · obtain ⟨k, hk⟩ := toInt_neg (Nat.le_of_not_lt h) (Octets.ofBe_lt h4)
      rw [hk]
      exact (Accepts.throw_bad (by decide)).plain_congr (fun _ _ _ => iff_false_intro fun hx => h hx.1)
        fun _ => iff_true_intro (Nat.le_of_not_lt h)
  refine ((Accepts.readFully (P := Protocol) 4 rfl).plain_bind
    fun _ _ size hw => hs size hw.2.1).plain_congr ?_ ?_
  · intro w out msg
    constructor
    · rintro ⟨rfl, hl, rfl⟩
      have hbe : Octets.ofBe (Octets.be32 msg.length) = msg.length :=
        Octets.ofBe_be32_of_lt (by omega)
      exact ⟨Octets.be32 msg.length, msg, [], [], Octets.be32 msg.length, rfl, rfl, ⟨rfl, rfl, rfl⟩,
        by rw [hbe]; exact hl, rfl, hbe.symm, rfl⟩
    · rintro ⟨w₁, w₂, out₁, out₂, size, rfl, rfl, ⟨rfl, h4, rfl⟩, hl, rfl, hm, rfl⟩
      refine ⟨?_, hm ▸ hl, rfl⟩
      rw [sized, hm, Octets.be32_ofBe h4]
  · intro inp
    constructor
    · rintro ⟨size, rest, rfl, h4, hneg⟩
      exact .inr ⟨size, rest, [], size, rfl, ⟨rfl, h4, rfl⟩, hneg⟩
    · rintro (h | ⟨w, rest, out, size, rfl, ⟨rfl, h4, rfl⟩, hneg⟩)
      · exact h.elim
      · exact ⟨w, rest, rfl, h4, hneg⟩

/-- A message with its size first: the size is negative, or there is a fault in the message or in the rest. -/
def FaultySized (fault : Octets → Octets → Prop) (inp : Octets) : Prop :=
  NegativeSize inp ∨ ∃ rest msg, inp = sized msg ++ rest ∧ msg.length < 2 ^ 31 ∧ fault msg rest

theorem faultySized_message {f : Octets → Prop} {inp : Octets} :
    FaultySized (fun msg _ => f msg) inp ↔
      NegativeSize inp ∨ ∃ msg, (∃ rest, inp = sized msg ++ rest) ∧ msg.length < 2 ^ 31 ∧ f msg := by
  refine or_congr_right ⟨?_, ?_⟩
  · rintro ⟨rest, msg, hi, h⟩
    exact ⟨msg, ⟨rest, hi⟩, h⟩
  · rintro ⟨msg, ⟨rest, hi⟩, h⟩
    exact ⟨rest, msg, hi, h⟩

theorem faultySized_or {f g : Octets → Prop} {inp : Octets} :
    FaultySized (fun msg _ => f msg ∨ g msg) inp ↔ FaultySized (fun msg _ => f msg) inp ∨
      ∃ msg, (∃ rest, inp = sized msg ++ rest) ∧ msg.length < 2 ^ 31 ∧ g msg := by
  simp only [faultySized_message, and_or_left, exists_or, or_assoc]

theorem receiveEither {C : Crypto} {s : Call C} (yes no : Octets) (hl : no.length = yes.length)
    (hne : no ≠ yes) :
    Reads N (receiveEither yes no) s
      (.plain s fun w out b => w = (bif b then yes else no) ∧ out = []) := by
  have h : ∀ msg : Octets, Reads (ω := Event C) N (if compareIfIdentical yes msg then pure true
      else if compareIfIdentical no msg then pure false
      else Method.throw (.mainProtocol "received wrong message")) s
      (.plain s fun w out b => msg = (bif b then yes else no) ∧ w = [] ∧ out = []) := by
    intro msg
    by_cases hy : yes = msg
    · subst hy
      rw [if_pos (by simp)]
      exact (Accepts.pure true).plain_congr (by intro _ _ b; cases b <;> simp [hne.symm])
        fun _ => Iff.rfl
    rw [if_neg (by simpa [compareIfIdentical_iff] using hy)]
    by_cases hn : no = msg
    · subst hn
      rw [if_pos (by simp)]
      exact (Accepts.pure false).plain_congr (by intro _ _ b; cases b <;> simp [hne])
        fun _ => Iff.rfl
    rw [if_neg (by simpa [compareIfIdentical_iff] using hn)]
    refine throw rfl ?_
    rintro _ _ (_ | _) ⟨rfl, -⟩
    · exact hn rfl
    · exact hy rfl
  refine (Accepts.take_bind (P := Protocol) yes.length rfl fun msg _ => h msg).plain_congr ?_ ?_
  · intro w out b
    constructor
    · rintro ⟨rfl, rfl⟩
      exact ⟨by cases b <;> simp [hl], rfl, rfl⟩
    · rintro ⟨-, rfl, rfl⟩
      exact ⟨rfl, rfl⟩
  · simp

end

/-! ## Introductions -/

section

variable {C : Crypto} {N : Nat} {s : Call C}

/-- Octets that are to be signed, on which the provider throws an unchecked exception. -/
def FaultySigning (keyPair : KeyPair C) (inp : Octets) : Prop :=
  ∃ toSign rest, inp = toSign ++ rest ∧ toSign.length = introductionMsgSize ∧
    C.sign keyPair.private_ toSign = .error .unchecked

theorem signMessage (keyPair : KeyPair C) (msg : Octets) :
    Reads N (signMessage keyPair msg) s (called s (C.sign keyPair.private_ msg) .unchecked) := by
  unfold MainProtocol.signMessage
  split
  · next sig h => exact (pure_result h).note_bind
  · next h => exact throw_result h (by simp) rfl
  · next h => exact throw_result h (by simp) rfl
  · next h => exact throw_result h (by simp) rfl
  · next h => exact throw_fault h

theorem proveIdentityToOtherParty (keyPair : KeyPair C) :
    Reads N (proveIdentityToOtherParty keyPair) s
      (.plain s (fun w out _ => ∃ sig, out = sized (C.rsaEncoded keyPair.public_) ++ sized sig ∧
        w.length = introductionMsgSize ∧ C.sign keyPair.private_ w = .ok sig) (FaultySigning keyPair)) := by
  refine (Accepts.plain_bind (sendMessageWithSizeFirst _) fun _ _ _ _ =>
    (receiveMessageInto _).plain_bind fun _ _ msg _ =>
    (signMessage keyPair msg).plain_bind fun _ _ sig _ => sendMessageWithSizeFirst sig).plain_congr ?_ ?_
  · simp [Grammar.seq]
  · simp [Grammar.seqBad, FaultySigning]

/-- A public key, and a signature of the challenge that verifies under it. -/
structure Introduction (C : Crypto) (challenge : Octets) where
  encoded : Octets
  signature : Octets
  key : C.RsaPublicKey
  encoded_lt : encoded.length < 2 ^ 31
  signature_lt : signature.length < 2 ^ 31
  parses : C.rsaGeneratePublic encoded = .ok key
  verifies : C.verify key challenge signature = .ok true

def Introduction.octets {challenge : Octets} (i : Introduction C challenge) : Octets :=
  sized i.encoded ++ sized i.signature

def FaultyIntroduction (C : Crypto) (challenge : Octets) : Octets → Prop :=
  FaultySized fun encoded rest => C.rsaGeneratePublic encoded = .error .unchecked ∨
    ∃ key, C.rsaGeneratePublic encoded = .ok key ∧
      FaultySized (fun sig _ => C.verify key challenge sig = .error .unchecked) rest

theorem parsePublicKey (encoded : Octets) :
    Reads N (parsePublicKey encoded) s (called s (C.rsaGeneratePublic encoded) .unchecked) := by
  unfold MainProtocol.parsePublicKey
  split
  · next key h => exact pure_result h
  · next h => exact throw_result h (by simp) rfl
  · next h => exact throw_result h (by simp) rfl
  · next h => exact throw_fault h

theorem verifySignature (key : C.RsaPublicKey) (challenge sig : Octets) :
    Reads N (verifySignature key challenge sig) s
      (.plain s (fun w out _ => C.verify key challenge sig = .ok true ∧ w = [] ∧ out = [])
        fun _ => C.verify key challenge sig = .error .unchecked) := by
  unfold MainProtocol.verifySignature
  split
  · next h => exact (Accepts.note _).plain_congr (by simp [h]) (by simp [h])
  · next h => exact (throw rfl (by simp [h])).plain_congr (fun _ _ _ => Iff.rfl) (by simp [h])
  · next h => exact (throw rfl (by simp [h])).plain_congr (fun _ _ _ => Iff.rfl) (by simp [h])
  · next h => exact (throw rfl (by simp [h])).plain_congr (fun _ _ _ => Iff.rfl) (by simp [h])
  · next h => exact (throw rfl (by simp [h])).plain_congr (fun _ _ _ => Iff.rfl) (by simp [h])
  · next h => exact (Accepts.throw_bad (by decide)).plain_congr (by simp [h]) (by simp [h])

theorem receiveAndVerifyPublicKey (challenge : Challenge) :
    Reads N (receiveAndVerifyPublicKey challenge) s
      (.plain s (fun w out key => ∃ i : Introduction C challenge.1,
        w = i.octets ∧ out = challenge.1 ∧ key = i.key) (FaultyIntroduction C challenge.1)) := by
  refine (Accepts.plain_bind receiveMessageWithSizeFirst fun _ _ encoded _ =>
    (parsePublicKey encoded).plain_bind fun _ _ key _ =>
    (Accepts.note _).plain_bind fun _ _ _ _ =>
    (sendMessage challenge.1).plain_bind fun _ _ _ _ =>
    receiveMessageWithSizeFirst.plain_bind fun _ _ sig _ =>
    (verifySignature key challenge.1 sig).plain_bind fun _ _ _ _ => .pure key).plain_congr ?_ ?_
  · intro w out key
    refine Iff.trans (b := ∃ encoded sig, w = sized encoded ++ sized sig ∧ out = challenge.1 ∧
      encoded.length < 2 ^ 31 ∧ C.rsaGeneratePublic encoded = .ok key ∧ sig.length < 2 ^ 31 ∧
      C.verify key challenge.1 sig = .ok true) ?_ (by simp [Grammar.seq])
    constructor
    · rintro ⟨i, rfl, rfl, rfl⟩
      exact ⟨i.encoded, i.signature, rfl, rfl, i.encoded_lt, i.parses, i.signature_lt, i.verifies⟩
    · rintro ⟨encoded, sig, rfl, rfl, he, hp, hs, hv⟩
      exact ⟨⟨encoded, sig, key, he, hs, hp, hv⟩, rfl, rfl, rfl⟩
  · intro inp
    rw [FaultyIntroduction, FaultySized]
    simp [Grammar.seqBad, faultySized_message]

def waits (n : Nat) : Octets := (List.replicate n waitForAcceptanceMsg).flatten ++ acceptMsg

theorem waits_succ (n : Nat) : waits (n + 1) = waitForAcceptanceMsg ++ waits n := by
  rw [waits, List.replicate_succ, List.flatten_cons, List.append_assoc, waits]

theorem wait_round {fuel : Nat}
    (h : Reads N (waitForAccept fuel) s (.plain s fun w out _ => ∃ n, w = waits n ∧ out = []))
    (msg : Octets) :
    Reads N (if compareIfIdentical waitForAcceptanceMsg msg then waitForAccept fuel
        else if compareIfIdentical acceptMsg msg then pure ()
        else if compareIfIdentical rejectMsg msg then Method.throw (.mainProtocol "call rejected")
        else Method.throw (.mainProtocol "received wrong message")) s
      (.plain s fun w out _ => (msg = waitForAcceptanceMsg ∧ ∃ n, w = waits n ∧ out = []) ∨
        (msg = acceptMsg ∧ w = [] ∧ out = [])) := by
  have hne : waitForAcceptanceMsg ≠ acceptMsg := by decide
  simp only [compareIfIdentical_iff]
  by_cases hw : waitForAcceptanceMsg = msg
  · subst hw
    rw [if_pos rfl]
    exact h.plain_congr (by simp [hne]) fun _ => Iff.rfl
  rw [if_neg hw]
  by_cases ha : acceptMsg = msg
  · subst ha
    rw [if_pos rfl]
    exact (Accepts.pure ()).plain_congr (by simp [hne.symm]) fun _ => Iff.rfl
  rw [if_neg ha]
  split
  all_goals
    refine throw rfl ?_
    rintro _ _ _ (⟨rfl, -⟩ | ⟨rfl, -⟩)
    · exact hw rfl
    · exact ha rfl

theorem waitForAccept {fuel : Nat} (hf : N < fuel) :
    Reads N (waitForAccept fuel) s (.plain s fun w out _ => ∃ n, w = waits n ∧ out = []) := by
  -- each round takes six octets off the input, so that the rounds outlast it
  induction fuel generalizing N with
  | zero => omega
  | succ fuel ih =>
    have h6 : acceptMsg.length = 6 := rfl
    refine ((receiveMessageInto acceptMsg.length).plain_bind_shrink fun w out msg hw hN =>
      wait_round (ih (by rw [hw.1, hw.2.1] at hN ⊢; omega)) msg).plain_congr ?_ ?_
    · intro w out _
      constructor
      · rintro ⟨n, rfl, rfl⟩
        cases n with
        | zero =>
          exact ⟨acceptMsg, [], [], [], acceptMsg, rfl, rfl, ⟨rfl, rfl, rfl⟩, .inr ⟨rfl, rfl, rfl⟩⟩
        | succ n =>
          exact ⟨waitForAcceptanceMsg, _, [], [], waitForAcceptanceMsg, waits_succ n, rfl,
            ⟨rfl, rfl, rfl⟩, .inl ⟨rfl, n, rfl, rfl⟩⟩
      · rintro ⟨w₁, w₂, out₁, out₂, msg, rfl, rfl, ⟨rfl, -, rfl⟩, ⟨rfl, n, rfl, rfl⟩ | ⟨rfl, rfl, rfl⟩⟩
        · exact ⟨n + 1, (waits_succ n).symm, rfl⟩
        · exact ⟨0, rfl, rfl⟩
    · simp [Grammar.seqBad]

/-! ## Key exchange -/

/-- A key pair of one's own that the key agreement takes. -/
structure DhReady (C : Crypto) (x : Nat) (own : C.DhPrivateKey × C.DhPublicKey) : Prop where
  generates : C.dhGenerate x = .ok own
  inits : C.dhInit own.1 = .ok ()

/-- A public key with which the key agreement makes a secret. -/
structure Agreement (C : Crypto) (privateKey : C.DhPrivateKey) where
  encoded : Octets
  otherPublic : C.DhPublicKey
  secret : Octets
  encoded_lt : encoded.length < 2 ^ 31
  parses : C.dhGeneratePublic encoded = .ok otherPublic
  agrees : C.dhGenerateSecret privateKey otherPublic = .ok secret

/-- A fault on one's own side, or in the public key of the other. -/
def FaultyExchange (C : Crypto) (x : Nat) (inp : Octets) : Prop :=
  C.dhGenerate x = .error .unchecked ∨
  ∃ own, C.dhGenerate x = .ok own ∧ (C.dhInit own.1 = .error .unchecked ∨
    C.dhInit own.1 = .ok () ∧ FaultySized (fun encoded _ => C.dhGeneratePublic encoded = .error .unchecked ∨
      ∃ key, C.dhGeneratePublic encoded = .ok key ∧ C.dhGenerateSecret own.1 key = .error .unchecked) inp)

/-- A key exchange at whose end `keys` puts the secret's digest into the fields. -/
def exchange (x : Nat) (keys : Octets → Call C → Call C) (s : Call C) :
    Grammar (Call C) Unit where
  word w out _ s' := ∃ own, DhReady C x own ∧ ∃ d : Agreement C own.1,
    w = sized d.encoded ∧ out = sized (C.dhEncoded own.2) ∧ s' = keys d.secret s
  bad := FaultyExchange C x
  left _ s' := s' = s

theorem generateKeyPair (noAlgorithm noProvider : String) (x : Nat) :
    Reads N (generateKeyPair noAlgorithm noProvider x) s (called s (C.dhGenerate x) .unchecked) := by
  unfold KeyExchange.generateKeyPair
  split
  · next own h => exact pure_result h
  · next h => exact throw_result h (by simp) rfl
  · next h => exact throw_result h (by simp) rfl
  · next h => exact throw_fault h

theorem initKeyAgreement (privateKey : C.DhPrivateKey) :
    Reads N (initKeyAgreement privateKey) s (called s (C.dhInit privateKey) .unchecked) := by
  unfold KeyExchange.initKeyAgreement
  split
  · next h => exact pure_result h
  · next h => exact throw_result h (by simp) rfl
  · next h => exact throw_result h (by simp) rfl
  · next h => exact throw_result h (by simp) rfl
  · next h => exact throw_fault h

theorem getOtherPartyPublicKey :
    Reads N getOtherPartyPublicKey s
      (.plain s (fun w out key => ∃ encoded, (w = sized encoded ∧ encoded.length < 2 ^ 31 ∧ out = []) ∧
        C.dhGeneratePublic encoded = .ok key)
        (FaultySized fun encoded _ => C.dhGeneratePublic encoded = .error .unchecked)) := by
  have hp : ∀ encoded, Reads N (getOtherPartyPublicKey.parse encoded) s
      (called s (C.dhGeneratePublic encoded) .unchecked) := by
    intro encoded
    unfold getOtherPartyPublicKey.parse
    split
    · next key h => exact pure_result h
    · next h => exact throw_result h (by simp) rfl
    · next h => exact throw_result h (by simp) rfl
    · next h => exact throw_result h (by simp) rfl
    · next h => exact throw_fault h
  refine (Accepts.plain_bind receiveMessageWithSizeFirst fun _ _ encoded _ =>
    hp encoded).plain_congr ?_ ?_
  · simp [Grammar.seq]
  · simp [Grammar.seqBad, faultySized_message]

theorem generateSecret (privateKey : C.DhPrivateKey) (otherPublic : C.DhPublicKey) :
    Reads N (generateSecret privateKey otherPublic) s
      (called s (C.dhGenerateSecret privateKey otherPublic) .unchecked) := by
  unfold KeyExchange.generateSecret
  split
  · next secret h => exact pure_result h
  · next h => exact throw_result h (by simp) rfl
  · next h => exact throw_result h (by simp) rfl
  · next h => exact throw_fault h

/-- The exchange up to the secret, which both sides do alike but for the texts of exceptions. -/
def agree (noAlgorithm noProvider : String) (x : Nat) : Main C Octets := do
  let keyPair ← KeyExchange.generateKeyPair noAlgorithm noProvider x
  ProtocolUtils.sendMessageWithSizeFirst (C.dhEncoded keyPair.2)
  KeyExchange.initKeyAgreement keyPair.1
  let otherPublic ← KeyExchange.getOtherPartyPublicKey
  KeyExchange.generateSecret keyPair.1 otherPublic

theorem agree_reads (noAlgorithm noProvider : String) (x : Nat) :
    Reads N (agree noAlgorithm noProvider x) s
      (.plain s (fun w out secret => ∃ own, DhReady C x own ∧ ∃ d : Agreement C own.1,
        w = sized d.encoded ∧ out = sized (C.dhEncoded own.2) ∧ secret = d.secret)
        (FaultyExchange C x)) := by
  refine (Accepts.plain_bind (generateKeyPair noAlgorithm noProvider x) fun _ _ own _ =>
    (sendMessageWithSizeFirst (C.dhEncoded own.2)).plain_bind fun _ _ _ _ =>
    (initKeyAgreement own.1).plain_bind fun _ _ _ _ =>
    getOtherPartyPublicKey.plain_bind fun _ _ otherPublic _ =>
    generateSecret own.1 otherPublic).plain_congr ?_ ?_
  · intro w out secret
    refine Iff.trans (b := ∃ a b key encoded, w = sized encoded ∧ out = sized (C.dhEncoded b) ∧
      C.dhGenerate x = .ok (a, b) ∧ C.dhInit a = .ok () ∧
      (encoded.length < 2 ^ 31 ∧ C.dhGeneratePublic encoded = .ok key) ∧
      C.dhGenerateSecret a key = .ok secret) ?_ (by simp [Grammar.seq, Unique.exists_iff])
    constructor
    · rintro ⟨⟨a, b⟩, ⟨hg, hi⟩, d, rfl, rfl, rfl⟩
      exact ⟨a, b, d.otherPublic, d.encoded, rfl, rfl, hg, hi, ⟨d.encoded_lt, d.parses⟩, d.agrees⟩
    · rintro ⟨a, b, key, encoded, rfl, rfl, hg, hi, ⟨hl, hp⟩, hs⟩
      exact ⟨(a, b), ⟨hg, hi⟩, ⟨encoded, key, secret, hl, hp, hs⟩, rfl, rfl, rfl⟩
  · intro inp
    simp only [FaultyExchange, faultySized_or]
    simp [Grammar.seqBad, Unique.exists_iff, and_assoc, exists_comm (α := C.DhPublicKey)]

theorem agree_then (noAlgorithm noProvider : String) (x : Nat) (keys : Octets → Call C → Call C) :
    Reads N (agree noAlgorithm noProvider x >>= fun secret => assign (keys secret)) s
      (exchange x keys s) := by
  refine ((agree_reads noAlgorithm noProvider x).bind fun _ _ secret _ _ =>
    Accepts.assign (keys secret)).congr ?_ ?_ ?_
  · intro w out _ s'
    constructor
    · rintro ⟨w₁, w₂, out₁, out₂, secret, s₁, rfl, rfl, ⟨⟨own, hr, d, rfl, rfl, rfl⟩, rfl⟩, rfl, rfl, rfl⟩
      exact ⟨own, hr, d, by simp, by simp, rfl⟩
    · rintro ⟨own, hr, d, rfl, rfl, rfl⟩
      exact ⟨_, [], _, [], d.secret, s, by simp, by simp, ⟨⟨own, hr, d, rfl, rfl, rfl⟩, rfl⟩,
        rfl, rfl, rfl⟩
  · intro inp
    constructor
    · rintro (h | ⟨_, _, _, _, _, -, -, h⟩)
      · exact h
      · exact h.elim
    · exact .inl
  · rintro inp s' (h | ⟨_, _, _, _, _, -, -, h⟩)
    · exact h
    · exact h.elim

theorem initiateKeyExchange (x : Nat) :
    Reads N (initiateKeyExchange x) s (exchange x (callerKeys C) s) := by
  have h := agree_then (N := N) (s := s) "well, no diffie-hellman, sorry"
    "spongy castle was not loaded properly" x (callerKeys C)
  simp only [agree, bind_assoc_run] at h
  exact h

theorem handleKeyExchange (x : Nat) :
    Reads N (handleKeyExchange x) s (exchange x (calleeKeys C) s) := by
  have h := agree_then (N := N) (s := s) "well, no diffie-hellman, shame"
    "spongy castle not found" x (calleeKeys C)
  simp only [agree, bind_assoc_run] at h
  exact h

end

end Words
end OnionPhone
