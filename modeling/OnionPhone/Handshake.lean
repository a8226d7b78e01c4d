import OnionPhone.Words

/-!
# OnionPhone.Handshake

The language of whole sessions: what `initiateOutgoingSession`, `initiateIncomingSession` and
`acceptCall` accept, and on which inputs they end with an exception that is none of the protocol's.

* `CallerInput`, `CalleeInput`: the octets after which a session returns, with the proof that they are
  well formed. On all other inputs it throws.
* `caller_accepts`, `callee_accepts`: a session returns just on such an input, reads it and no more, and
  leaves the fields that go with it.
-/

namespace OnionPhone
namespace Handshake

open Wire Wire.Method ProtocolUtils KeyExchange MainProtocol Words

variable {C : Crypto} {N : Nat} {s : Call C}

/-! ## The caller, up to the acceptance -/

/-- What the caller reads before the call is accepted. -/
structure Head (info : CallInfo C) where
  version : Octets
  toSign : Octets
  waits : Nat
  version_length : version.length = versionMsg.length
  toSign_length : toSign.length = if info.shouldIntroduce then introductionMsgSize else 0

def Head.octets {info : CallInfo C} (h : Head info) : Octets :=
  helloAckMsg ++ helloMsg ++ h.version ++ h.toSign ++ Words.waits h.waits

/-- What the caller answers to the octets it is to sign. -/
def Answer (keyPair : KeyPair C) (info : CallInfo C) (toSign out : Octets) : Prop :=
  if info.shouldIntroduce then
    ∃ sig, C.sign keyPair.private_ toSign = .ok sig ∧
      out = introductionMsg ++ (sized (C.rsaEncoded keyPair.public_) ++ sized sig)
  else
    out = noIntroductionMsg

theorem hello_reads :
    Reads N sendAndReceiveHello s
      (.plain s fun w out _ => w = helloAckMsg ++ helloMsg ∧ out = helloMsg ++ helloAckMsg) := by
  refine (Accepts.plain_bind (Words.sendMessage _) fun _ _ _ _ =>
    (Words.receiveSpecificMessage _).plain_bind fun _ _ _ _ =>
    (Words.receiveSpecificMessage _).plain_bind fun _ _ _ _ =>
    Words.sendMessage _).plain_congr ?_ ?_
  · simp [Grammar.seq]
  · simp [Grammar.seqBad]

theorem receiveVersion_reads :
    Reads N receiveVersion s
      (.plain s fun w out _ => w.length = versionMsg.length ∧ out = []) := by
  refine (Accepts.plain_bind (Words.receiveMessageInto _) fun _ _ _ _ => .pure ()).plain_congr ?_ ?_
  · simp [Grammar.seq]
  · simp [Grammar.seqBad]

theorem version_reads :
    Reads N sendAndReceiveVersion s
      (.plain s fun w out _ => out = versionMsg ∧ w.length = versionMsg.length) := by
  refine (Accepts.plain_bind (Words.sendMessage _) fun _ _ _ _ => receiveVersion_reads).plain_congr ?_ ?_
  · simp [Grammar.seq]
  · simp [Grammar.seqBad]

theorem outgoingIntroduction_reads (keyPair : KeyPair C) :
    Reads N (handleOutgoingIntroduction keyPair) s
      (.plain s (fun w out _ => w.length = (if s.callInfo.shouldIntroduce then introductionMsgSize else 0) ∧
        Answer keyPair s.callInfo w out)
        fun inp => s.callInfo.shouldIntroduce = true ∧ FaultySigning keyPair inp) := by
  suffices h : Reads N (if s.callInfo.shouldIntroduce then do
        sendMessage introductionMsg
        proveIdentityToOtherParty keyPair
      else
        sendMessage noIntroductionMsg) s (.plain s (fun w out _ =>
          w.length = (if s.callInfo.shouldIntroduce then introductionMsgSize else 0) ∧
          Answer keyPair s.callInfo w out)
          fun inp => s.callInfo.shouldIntroduce = true ∧ FaultySigning keyPair inp) from h.of_run rfl
  unfold Answer
  split
  · next hsi =>
    refine (Accepts.plain_bind (Words.sendMessage _) fun _ _ _ _ =>
      Words.proveIdentityToOtherParty keyPair).plain_congr ?_ ?_
    · intro w out _
      constructor
      · rintro ⟨hl, sig, hs, rfl⟩
        exact ⟨[], w, _, _, (), rfl, rfl, ⟨rfl, rfl⟩, sig, rfl, hl, hs⟩
      · rintro ⟨w₁, w₂, out₁, out₂, -, rfl, rfl, ⟨rfl, rfl⟩, sig, rfl, hl, hs⟩
        exact ⟨hl, sig, hs, rfl⟩
    · simp [Grammar.seqBad, hsi]
  · next hsi => exact (Words.sendMessage _).plain_congr (by simp) (by simp [hsi])

theorem requestForIntroduction_reads :
    Reads N handleOutgoingRequestForIntroduction s (.plain s fun w out _ => w = [] ∧
      out = if s.callInfo.requiresIntroduction then introductionReqMsg else noIntroductionReqMsg) := by
  suffices h : Reads N (if s.callInfo.requiresIntroduction then sendMessage introductionReqMsg
      else sendMessage noIntroductionReqMsg) s (.plain s fun w out _ => w = [] ∧
      out = if s.callInfo.requiresIntroduction then introductionReqMsg else noIntroductionReqMsg)
    from h.of_run rfl
  split
  · exact Words.sendMessage _
  · exact Words.sendMessage _

def untilAccept (fuel : Nat) (keyPair : KeyPair C) : Main C Unit := do
  sendAndReceiveHello
  sendAndReceiveVersion
  handleOutgoingIntroduction keyPair
  handleOutgoingRequestForIntroduction
  waitForAccept fuel

/-- The provider fails to sign what the caller is to sign. -/
def FaultyHead (keyPair : KeyPair C) (info : CallInfo C) (inp : Octets) : Prop :=
  ∃ version rest : Octets, inp = helloAckMsg ++ helloMsg ++ version ++ rest ∧
    version.length = versionMsg.length ∧ info.shouldIntroduce = true ∧ FaultySigning keyPair rest

theorem untilAccept_reads {fuel : Nat} (hf : N < fuel) (keyPair : KeyPair C) :
    Reads N (untilAccept fuel keyPair) s (.plain s (fun w out _ => ∃ (h : Head s.callInfo) (answer : _),
      w = h.octets ∧ Answer keyPair s.callInfo h.toSign answer ∧
      out = helloMsg ++ helloAckMsg ++ versionMsg ++ answer ++
        if s.callInfo.requiresIntroduction then introductionReqMsg else noIntroductionReqMsg)
      (FaultyHead keyPair s.callInfo)) := by
  refine (Accepts.plain_bind hello_reads fun _ _ _ _ =>
    version_reads.plain_bind fun _ _ _ _ =>
    (outgoingIntroduction_reads keyPair).plain_bind fun _ _ _ _ =>
    requestForIntroduction_reads.plain_bind fun _ _ _ _ =>
    Words.waitForAccept hf).plain_congr ?_ ?_
  · intro w out _
    constructor
    · rintro ⟨h, answer, rfl, ha, rfl⟩
      refine ⟨helloAckMsg ++ helloMsg, _, helloMsg ++ helloAckMsg, _, (), ?_, ?_, ⟨rfl, rfl⟩,
        h.version, _, versionMsg, _, (), rfl, rfl, ⟨rfl, h.version_length⟩,
        h.toSign, _, answer, _, (), rfl, rfl, ⟨h.toSign_length, ha⟩,
        [], _, _, [], (), rfl, rfl, ⟨rfl, rfl⟩, h.waits, rfl, rfl⟩
      · simp [Head.octets]
      · simp
    · rintro ⟨_, _, _, _, -, rfl, rfl, ⟨rfl, rfl⟩, version, _, _, _, -, rfl, rfl, ⟨rfl, hv⟩,
        toSign, _, answer, _, -, rfl, rfl, ⟨ht, ha⟩, _, _, _, _, -, rfl, rfl, ⟨rfl, rfl⟩, n, rfl, rfl⟩
      exact ⟨⟨version, toSign, n, hv, ht⟩, answer, by simp [Head.octets], ha, by simp⟩
  · simp [Grammar.seqBad, FaultyHead]

/-! ## The caller, after the acceptance -/

/-- The introduction the caller has asked for, by the key it expects if it expects one. -/
structure Requested (challenge : Octets) (info : CallInfo C) where
  introduction : Option (Introduction C challenge)
  requested : introduction.isSome = info.requiresIntroduction
  expected : ∀ i ∈ introduction, ∀ key, info.identityKey = some key →
    C.rsaEncoded key = C.rsaEncoded i.key

namespace Requested

variable {challenge : Octets} {info : CallInfo C}

def octets (r : Requested challenge info) : Octets :=
  match r.introduction with
  | none => []
  | some i => i.octets

def written (r : Requested challenge info) : Octets :=
  match r.introduction with
  | none => []
  | some _ => challenge

def after (r : Requested challenge info) (identity : Identity C) (s : Call C) : Call C :=
  match r.introduction with
  | none => s
  | some i => s.setIdentity { identity with publicKey := some i.key }

theorem after_fields (r : Requested challenge info) (identity : Identity C) (s : Call C) :
    (r.after identity s).callInfo.txKey = s.callInfo.txKey ∧
    (r.after identity s).callInfo.rxKey = s.callInfo.rxKey ∧
    ((r.after identity s).callInfo.identityKey = s.callInfo.identityKey ∨
      ∃ i : Introduction C challenge, r.octets = i.octets ∧
        (r.after identity s).callInfo.identityKey = some i.key) := by
  unfold after octets
  cases r.introduction with
  | none => exact ⟨rfl, rfl, .inl rfl⟩
  | some i => exact ⟨rfl, rfl, .inr ⟨i, rfl, rfl⟩⟩

end Requested

def adopted (identity : Identity C) (key : C.RsaPublicKey) (s : Call C) : Grammar (Call C) Unit where
  word w out _ s' := w = [] ∧ out = [] ∧
    (∀ k, s.callInfo.identityKey = some k → C.rsaEncoded k = C.rsaEncoded key) ∧
    s' = s.setIdentity { identity with publicKey := some key }
  bad _ := False
  left _ s' := s' = s

theorem adoptPublicKey_reads {identity : Identity C} (hid : s.callInfo.identity = some identity)
    (key : C.RsaPublicKey) : Reads N (adoptPublicKey key) s (adopted identity key s) := by
  have hkey : s.callInfo.identityKey = identity.publicKey := by simp [CallInfo.identityKey, hid]
  have hv : Reads N (validateKeyAgainstExpected identity.publicKey key) s (.plain s fun w out _ =>
      (∀ k, s.callInfo.identityKey = some k → C.rsaEncoded k = C.rsaEncoded key) ∧ w = [] ∧ out = []) := by
    rw [hkey]
    cases identity.publicKey with
    | none => exact (Accepts.pure ()).plain_congr (by simp) fun _ => Iff.rfl
    | some k =>
      show Reads N (if !compareIfIdentical (C.rsaEncoded k) (C.rsaEncoded key) then _ else _) s _
      by_cases h : C.rsaEncoded k = C.rsaEncoded key
      · rw [if_neg (by simp [h])]
        exact (Accepts.pure ()).plain_congr (by simp [h]) fun _ => Iff.rfl
      · rw [if_pos (by simpa [Bool.eq_false_iff, compareIfIdentical_iff] using h)]
        exact Words.throw rfl fun _ _ _ hx => h (hx.1 k rfl)
  have hr : adoptPublicKey key s = (validateKeyAgainstExpected identity.publicKey key >>= fun _ =>
      assign (Call.setIdentity { identity with publicKey := some key })) s := by
    simp only [adoptPublicKey, fields_bind_run, hid]
  refine Accepts.of_run ((hv.bind fun _ _ _ _ _ => Accepts.assign _).congr ?_ ?_ ?_) hr
  · intro w out _ s'
    constructor
    · rintro ⟨_, _, _, _, _, _, rfl, rfl, ⟨⟨he, rfl, rfl⟩, rfl⟩, rfl, rfl, rfl⟩
      exact ⟨rfl, rfl, he, rfl⟩
    · rintro ⟨rfl, rfl, he, rfl⟩
      exact ⟨[], [], [], [], (), s, rfl, rfl, ⟨⟨he, rfl, rfl⟩, rfl⟩, rfl, rfl, rfl⟩
  · simp [Grammar.bind, Grammar.plain, Grammar.becomes, adopted]
  · simp [Grammar.bind, Grammar.plain, Grammar.becomes, adopted]

def introduced (challenge : Octets) (identity : Identity C) (s : Call C) : Grammar (Call C) Unit where
  word w out _ s' := ∃ r : Requested challenge s.callInfo,
    w = r.octets ∧ out = r.written ∧ s' = r.after identity s
  bad inp := s.callInfo.requiresIntroduction = true ∧ FaultyIntroduction C challenge inp
  left _ s' := s' = s

theorem introduction_reads {identity : Identity C} (hid : s.callInfo.identity = some identity)
    (challenge : Challenge) :
    Reads N (handleIncomingIntroductionIfRequested challenge) s (introduced challenge.1 identity s) := by
  cases hreq : s.callInfo.requiresIntroduction with
  | false =>
    have hr : handleIncomingIntroductionIfRequested challenge s = (pure () : Main C Unit) s := by
      simp [handleIncomingIntroductionIfRequested, hreq]
    refine Accepts.of_run ((Accepts.pure ()).congr ?_ ?_ ?_) hr
    · intro w out _ s'
      constructor
      · rintro ⟨⟨rfl, rfl, -⟩, rfl⟩
        exact ⟨⟨none, hreq.symm, by simp⟩, rfl, rfl, rfl⟩
      · rintro ⟨⟨introduction, h, he⟩, rfl, rfl, rfl⟩
        obtain rfl : introduction = none := by simpa [hreq] using h
        exact ⟨⟨rfl, rfl, rfl⟩, rfl⟩
    · simp [introduced, hreq, Grammar.plain]
    · exact fun _ _ => id
  | true =>
    have hr : handleIncomingIntroductionIfRequested challenge s =
        (receiveAndVerifyPublicKey challenge >>= adoptPublicKey) s := by
      simp [handleIncomingIntroductionIfRequested, hreq]
    have hb : Reads N (receiveAndVerifyPublicKey challenge >>= adoptPublicKey) s _ :=
      (Words.receiveAndVerifyPublicKey challenge).bind (k := fun key _ => adopted identity key s) (by
        rintro w out key s' ⟨-, rfl⟩
        exact adoptPublicKey_reads hid key)
    refine Accepts.of_run (hb.congr ?_ ?_ ?_) hr
    · intro w out _ s'
      constructor
      · rintro ⟨_, _, _, _, _, _, rfl, rfl, ⟨⟨i, rfl, rfl, rfl⟩, rfl⟩, rfl, rfl, he, rfl⟩
        refine ⟨⟨some i, hreq.symm, ?_⟩, by simp [Requested.octets], by simp [Requested.written], rfl⟩
        rintro _ ⟨⟩
        exact he
      · rintro ⟨⟨introduction, h, he⟩, rfl, rfl, rfl⟩
        obtain ⟨i, rfl⟩ := Option.isSome_iff_exists.1 (h.trans hreq)
        exact ⟨i.octets, [], challenge.1, [], i.key, s, by simp [Requested.octets],
          by simp [Requested.written], ⟨⟨i, rfl, rfl, rfl⟩, rfl⟩, rfl, rfl, he i rfl, rfl⟩
    · simp [Grammar.bind, Grammar.plain, adopted, introduced, hreq]
    · rintro inp s' (h | ⟨_, _, _, _, _, -, -, h⟩)
      · exact h
      · exact h

/-! ## The caller -/

/-- What the caller reads in a handshake that succeeds. -/
structure CallerInput (challenge : Octets) (privateKey : C.DhPrivateKey) (info : CallInfo C) where
  head : Head info
  introduction : Requested challenge info
  agreement : Agreement C privateKey

namespace CallerInput

variable {challenge : Octets} {privateKey : C.DhPrivateKey} {info : CallInfo C}

def octets (w : CallerInput challenge privateKey info) : Octets :=
  w.head.octets ++ w.introduction.octets ++ sized w.agreement.encoded

def after (w : CallerInput challenge privateKey info) (identity : Identity C) (s : Call C) : Call C :=
  callerKeys C w.agreement.secret (w.introduction.after identity s)

end CallerInput

/-- Where the caller meets a negative size or a fault of the provider: when it signs, in the introduction if
it has asked for one, or in the key exchange. -/
def CallerFaulty (keyPair : KeyPair C) (challenge : Octets) (x : Nat) (info : CallInfo C)
    (inp : Octets) : Prop :=
  FaultyHead keyPair info inp ∨
  ∃ (h : Head info) (answer rest : Octets), inp = h.octets ++ rest ∧
    Answer keyPair info h.toSign answer ∧
    ((info.requiresIntroduction = true ∧ FaultyIntroduction C challenge rest) ∨
      ∃ (r : Requested challenge info) (rest' : Octets), rest = r.octets ++ rest' ∧
        FaultyExchange C x rest')

def caller (keyPair : KeyPair C) (challenge : Octets) (x : Nat) (identity : Identity C) (s : Call C) :
    Grammar (Call C) Unit where
  word w out _ s' := ∃ own, DhReady C x own ∧
    ∃ (i : CallerInput challenge own.1 s.callInfo) (answer : Octets), w = i.octets ∧
      Answer keyPair s.callInfo i.head.toSign answer ∧
      out = helloMsg ++ helloAckMsg ++ versionMsg ++ answer ++
        (if s.callInfo.requiresIntroduction then introductionReqMsg else noIntroductionReqMsg) ++
        i.introduction.written ++ sized (C.dhEncoded own.2) ∧
      s' = i.after identity s
  bad := CallerFaulty keyPair challenge x s.callInfo
  left inp s' := s' = s ∨ ∃ (h : Head s.callInfo) (r : Requested challenge s.callInfo) (rest : Octets),
    inp = h.octets ++ r.octets ++ rest ∧ s' = r.after identity s

theorem initiateOutgoingSession_reads {fuel : Nat} (hf : N < fuel) (keyPair : KeyPair C)
    (challenge : Challenge) (x : Nat) {identity : Identity C}
    (hid : s.callInfo.identity = some identity) :
    Reads N (initiateOutgoingSession fuel keyPair challenge x) s
      (caller keyPair challenge.1 x identity s) := by
  have hs : initiateOutgoingSession fuel keyPair challenge x = untilAccept fuel keyPair >>= fun _ =>
      handleIncomingIntroductionIfRequested challenge >>= fun _ => initiateKeyExchange x := by
    simp only [untilAccept, bind_assoc_run]
    rfl
  have hi : Reads N (handleIncomingIntroductionIfRequested challenge >>= fun _ =>
      initiateKeyExchange x) s _ :=
    (introduction_reads hid challenge).bind fun _ _ _ _ _ => Words.initiateKeyExchange x
  have hb : Reads N (untilAccept fuel keyPair >>= fun _ =>
      handleIncomingIntroductionIfRequested challenge >>= fun _ => initiateKeyExchange x) s _ :=
    (untilAccept_reads hf keyPair).bind (k := fun _ _ => (introduced challenge.1 identity s).bind
      fun _ s₁ => exchange x (callerKeys C) s₁) (by
        rintro w out _ s' ⟨-, rfl⟩
        exact hi)
  rw [hs]
  refine hb.congr ?_ ?_ ?_
  · intro w out _ s'
    constructor
    · rintro ⟨_, _, _, _, -, _, rfl, rfl, ⟨⟨h, answer, rfl, ha, rfl⟩, rfl⟩, _, _, _, _, -, _, rfl, rfl,
        ⟨r, rfl, rfl, rfl⟩, own, hown, d, rfl, rfl, rfl⟩
      exact ⟨own, hown, ⟨h, r, d⟩, answer, by simp [CallerInput.octets], ha, by simp, rfl⟩
    · rintro ⟨own, hown, ⟨h, r, d⟩, answer, rfl, ha, rfl, rfl⟩
      exact ⟨h.octets, _, _, _, (), s, by simp [CallerInput.octets], by simp,
        ⟨⟨h, answer, rfl, ha, rfl⟩, rfl⟩, r.octets, _, r.written, _, (), _, rfl, rfl, ⟨r, rfl, rfl, rfl⟩, own, hown,
        d, rfl, rfl, rfl⟩
  · intro inp
    constructor
    · rintro (h | ⟨_, rest, _, _, _, rfl, ⟨⟨h, answer, rfl, ha, rfl⟩, rfl⟩, hneg | ⟨_, rest', _, _, _, rfl,
        ⟨r, rfl, rfl, rfl⟩, hneg⟩⟩)
      · exact .inl h
      · exact .inr ⟨h, answer, rest, rfl, ha, .inl hneg⟩
      · exact .inr ⟨h, answer, _, rfl, ha, .inr ⟨r, rest', rfl, hneg⟩⟩
    · rintro (h | ⟨h, answer, rest, rfl, ha, hneg | ⟨r, rest', rfl, hneg⟩⟩)
      · exact .inl h
      · exact .inr ⟨h.octets, rest, _, (), s, rfl, ⟨⟨h, answer, rfl, ha, rfl⟩, rfl⟩, .inl hneg⟩
      · exact .inr ⟨h.octets, _, _, (), s, rfl, ⟨⟨h, answer, rfl, ha, rfl⟩, rfl⟩,
          .inr ⟨r.octets, rest', r.written, (), _, rfl, ⟨r, rfl, rfl, rfl⟩, hneg⟩⟩
  · rintro inp s' (h | ⟨_, rest, _, _, _, rfl, ⟨⟨h, answer, rfl, ha, rfl⟩, rfl⟩, hl | ⟨_, rest', _, _, _, rfl,
      ⟨r, rfl, rfl, rfl⟩, hl⟩⟩)
    · exact .inl h
    · exact .inl hl
    · exact .inr ⟨h, r, rest', by simp, hl⟩

theorem exists_answer {keyPair : KeyPair C} {info : CallInfo C}
    (hsign : info.shouldIntroduce = true → ∀ m : Challenge, ∃ sig, C.sign keyPair.private_ m.1 = .ok sig)
    (h : Head info) : ∃ answer, Answer keyPair info h.toSign answer := by
  unfold Answer
  split
  · next hi =>
    obtain ⟨sig, hs⟩ := hsign hi ⟨h.toSign, by rw [h.toSign_length, if_pos hi]⟩
    exact ⟨_, sig, hs, rfl⟩
  · exact ⟨_, rfl⟩

theorem DhReady_unique {x : Nat} {own own' : C.DhPrivateKey × C.DhPublicKey} (h : DhReady C x own)
    (h' : DhReady C x own') : own' = own := by
  have := h.generates.symm.trans h'.generates
  cases this
  rfl

/-- The caller returns just on an input that begins as its grammar says. It then has read that and no
more, holds the two halves of the digest as its keys, and the identity has the verified key. On any other
input it throws with the keys as they were, and the identity as it was or with the verified key. -/
theorem caller_accepts {fuel : Nat} (keyPair : KeyPair C) (challenge : Challenge) {x : Nat}
    {own : C.DhPrivateKey × C.DhPublicKey} {s : Call C} {identity : Identity C} {inp : Octets}
    (hid : s.callInfo.identity = some identity)
    (hsign : s.callInfo.shouldIntroduce = true →
      ∀ m : Challenge, ∃ sig, C.sign keyPair.private_ m.1 = .ok sig)
    (hown : DhReady C x own) (hfuel : inp.length < fuel) :
    let t := (initiateOutgoingSession fuel keyPair challenge x s).exec inp
    ((∃ s', t.result = some (.ok (), s')) ↔
      ∃ (w : CallerInput challenge.1 own.1 s.callInfo) (rest : Octets), inp = w.octets ++ rest) ∧
    (∀ (w : CallerInput challenge.1 own.1 s.callInfo) (rest : Octets), inp = w.octets ++ rest →
      t.result = some (.ok (), w.after identity s) ∧ t.rest = rest ∧
      (w.after identity s).callInfo.txKey = some ((C.sha256 w.agreement.secret).take 16) ∧
      (w.after identity s).callInfo.rxKey = some ((C.sha256 w.agreement.secret).drop 16)) ∧
    ((¬ ∃ (w : CallerInput challenge.1 own.1 s.callInfo) (rest : Octets), inp = w.octets ++ rest) →
      ∃ e s', t.result = some (.error e, s') ∧ s'.callInfo.txKey = s.callInfo.txKey ∧
        s'.callInfo.rxKey = s.callInfo.rxKey ∧
        (s'.callInfo.identityKey = s.callInfo.identityKey ∨
          ∃ (h : Head s.callInfo) (i : Introduction C challenge.1) (rest : Octets),
            inp = h.octets ++ i.octets ++ rest ∧ s'.callInfo.identityKey = some i.key)) := by
  intro t
  have hr : Reads inp.length _ s _ := initiateOutgoingSession_reads hfuel keyPair challenge x hid
  have hword : ∀ (w : CallerInput challenge.1 own.1 s.callInfo), ∃ out,
      (caller keyPair challenge.1 x identity s).word w.octets out () (w.after identity s) := by
    intro w
    obtain ⟨answer, ha⟩ := exists_answer hsign w.head
    exact ⟨_, own, hown, w, answer, rfl, ha, rfl, rfl⟩
  have hiff : (∃ s', t.result = some (.ok (), s')) ↔
      ∃ (w : CallerInput challenge.1 own.1 s.callInfo) (rest : Octets), inp = w.octets ++ rest := by
    constructor
    · rintro ⟨s', h⟩
      obtain ⟨w, rest, out, -, s', hi, own', hown', i, answer, rfl, -⟩ :=
        (hr.returns_iff le_rfl).1 ⟨(), s', h⟩
      obtain rfl := DhReady_unique hown hown'
      exact ⟨i, rest, hi⟩
    · rintro ⟨w, rest, hi⟩
      obtain ⟨out, hw⟩ := hword w
      obtain ⟨⟨⟩, s', h⟩ := (hr.returns_iff le_rfl).2 ⟨w.octets, rest, out, (), _, hi, hw⟩
      exact ⟨s', h⟩
  refine ⟨hiff, ?_, ?_⟩
  · rintro w rest hi
    obtain ⟨out, hw⟩ := hword w
    obtain ⟨marks, hx⟩ := hr.complete hw rest (by rw [← hi])
    rw [← hi] at hx
    exact ⟨congrArg Proc.Trace.result hx, congrArg Proc.Trace.rest hx, rfl, rfl⟩
  · intro hno
    obtain ⟨w, rest, out, -, s', hi, own', hown', i, answer, rfl, -⟩ | ⟨e, s', he, hl, -⟩ :=
      hr.total inp le_rfl
    · obtain rfl := DhReady_unique hown hown'
      exact absurd ⟨i, rest, hi⟩ hno
    · refine ⟨e, s', he, ?_⟩
      rcases hl with rfl | ⟨head, r, rest, hi, rfl⟩
      · exact ⟨rfl, rfl, .inl rfl⟩
      · obtain ⟨htx, hrx, hkey | ⟨i, hr, hkey⟩⟩ := r.after_fields identity s
        · exact ⟨htx, hrx, .inl hkey⟩
        · exact ⟨htx, hrx, .inr ⟨head, i, rest, by rw [hi, hr], hkey⟩⟩

def sampleCall : Call smallCrypto where
  callInfo := { shouldIntroduce := true, requiresIntroduction := true, identity := some {} }

def sampleChallenge : Challenge := ⟨List.replicate 80 2, by decide⟩

def sampleIntroduction : Introduction smallCrypto sampleChallenge.1 where
  encoded := [7]
  signature := 7 :: sampleChallenge.1
  key := (7 : UInt8)
  encoded_lt := by decide
  signature_lt := by decide
  parses := rfl
  verifies := by simp [smallCrypto]

/-- One message to wait, the introduction, and the Diffie-Hellman key `9`. -/
def sampleCallerInput : CallerInput (C := smallCrypto) sampleChallenge.1 (3 : Nat) sampleCall.callInfo where
  head := ⟨versionMsg, List.replicate 80 5, 1, rfl, rfl⟩
  introduction := {
    introduction := some sampleIntroduction
    requested := rfl
    expected := fun _ _ _ h => nomatch h }
  agreement := ⟨[9], (9 : UInt8), [15], by decide, rfl, rfl⟩

theorem caller_accepts_sample :
    let t := (initiateOutgoingSession 300 ⟨(4 : UInt8), (4 : UInt8)⟩ sampleChallenge 3 sampleCall).exec
      sampleCallerInput.octets
    t.result = some (.ok (), sampleCallerInput.after {} sampleCall) ∧ t.rest = [] ∧
    (sampleCallerInput.after {} sampleCall).callInfo.txKey = some (15 :: List.replicate 15 0) := by
  have hid : sampleCall.callInfo.identity = some {} := rfl
  have hsign : sampleCall.callInfo.shouldIntroduce = true →
      ∀ m : Challenge, ∃ sig, smallCrypto.sign (4 : UInt8) m.1 = .ok sig := fun _ m => ⟨4 :: m.1, rfl⟩
  have hown : DhReady smallCrypto 3 ((3 : Nat), (10 : UInt8)) := ⟨rfl, rfl⟩
  have hfuel : sampleCallerInput.octets.length < 300 := by decide +kernel
  have h := caller_accepts ⟨(4 : UInt8), (4 : UInt8)⟩ sampleChallenge hid hsign hown hfuel
  obtain ⟨hresult, hrest, htx, -⟩ := h.2.1 sampleCallerInput [] (List.append_nil _).symm
  exact ⟨hresult, hrest, htx⟩

/-! ## The callee -/

/-- What the callee reads in a handshake that succeeds. -/
structure CalleeInput (C : Crypto) (challenge : Octets) where
  version : Octets
  introduction : Option (Introduction C challenge)
  requiresIntroduction : Bool
  version_length : version.length = versionMsg.length

/-- `NoIntroduce`, or `Introduce` and the introduction. -/
def introductionOctets {challenge : Octets} : Option (Introduction C challenge) → Octets
  | none => noIntroductionMsg
  | some i => introductionMsg ++ i.octets

namespace CalleeInput

variable {challenge : Octets}

def octets (w : CalleeInput C challenge) : Octets :=
  helloMsg ++ helloAckMsg ++ w.version ++ introductionOctets w.introduction ++
    bif w.requiresIntroduction then introductionReqMsg else noIntroductionReqMsg

def written (w : CalleeInput C challenge) : Octets :=
  helloAckMsg ++ helloMsg ++ versionMsg ++ if w.introduction.isSome then challenge else []

def after (w : CalleeInput C challenge) : Call C where
  callInfo := {
    identity := some { publicKey := w.introduction.map (·.key) }
    requiresIntroduction := w.requiresIntroduction }
  keepAliveWorker := some true

end CalleeInput

/-- Where the callee meets a negative size or a fault of the provider: in the introduction. -/
def CalleeFaulty (C : Crypto) (challenge inp : Octets) : Prop :=
  ∃ version rest : Octets, inp = helloMsg ++ helloAckMsg ++ version ++ introductionMsg ++ rest ∧
    version.length = versionMsg.length ∧ FaultyIntroduction C challenge rest

theorem calleeHello_reads :
    Reads N receiveAndSendHello s
      (.plain s fun w out _ => w = helloMsg ++ helloAckMsg ∧ out = helloAckMsg ++ helloMsg) := by
  refine (Accepts.plain_bind (Words.receiveSpecificMessage _) fun _ _ _ _ =>
    (Words.sendMessage _).plain_bind fun _ _ _ _ =>
    (Words.sendMessage _).plain_bind fun _ _ _ _ =>
    Words.receiveSpecificMessage _).plain_congr ?_ ?_
  · simp [Grammar.seq]
  · simp [Grammar.seqBad]

theorem calleeVersion_reads :
    Reads N receiveAndSendVersion s
      (.plain s fun w out _ => out = versionMsg ∧ w.length = versionMsg.length) := by
  refine (Accepts.plain_bind receiveVersion_reads fun _ _ _ _ => Words.sendMessage _).plain_congr ?_ ?_
  · simp [Grammar.seq]
  · simp [Grammar.seqBad]

theorem incomingIntroduction_reads (challenge : Challenge) :
    Reads N (handleIncomingIntroduction challenge) s
      (.plain s (fun w out identity => ∃ o : Option (Introduction C challenge.1),
        w = introductionOctets o ∧ out = (if o.isSome then challenge.1 else []) ∧
        identity = { publicKey := o.map (·.key) })
        fun inp => ∃ rest, inp = introductionMsg ++ rest ∧ FaultyIntroduction C challenge.1 rest) := by
  have hi : ∀ introducing, Reads N (if introducing then do
        let publicKey ← receiveAndVerifyPublicKey challenge
        pure { publicKey := some publicKey }
      else pure {}) s
      (.plain s (fun w out (identity : Identity C) => ∃ o : Option (Introduction C challenge.1),
        o.isSome = introducing ∧ w = (match o with | none => [] | some i => i.octets) ∧
        out = (if o.isSome then challenge.1 else []) ∧ identity = { publicKey := o.map (·.key) })
        fun inp => introducing = true ∧ FaultyIntroduction C challenge.1 inp) := by
    intro introducing
    cases introducing with
    | false =>
      refine (Accepts.pure _).plain_congr ?_ (by simp)
      intro w out identity
      constructor
      · rintro ⟨o, ho, rfl, rfl, rfl⟩
        obtain rfl : o = none := by simpa using ho
        exact ⟨rfl, rfl, rfl⟩
      · rintro ⟨rfl, rfl, rfl⟩
        exact ⟨none, rfl, rfl, rfl, rfl⟩
    | true =>
      refine ((Words.receiveAndVerifyPublicKey challenge).plain_bind fun _ _ key _ =>
        .pure _).plain_congr ?_ ?_
      · intro w out identity
        constructor
        · rintro ⟨o, ho, rfl, rfl, rfl⟩
          obtain ⟨i, rfl⟩ := Option.isSome_iff_exists.1 ho
          exact ⟨i.octets, [], challenge.1, [], i.key, by simp, by simp, ⟨i, rfl, rfl, rfl⟩, rfl, rfl, rfl⟩
        · rintro ⟨_, _, _, _, _, rfl, rfl, ⟨i, rfl, rfl, rfl⟩, rfl, rfl, rfl⟩
          exact ⟨some i, rfl, by simp, by simp, rfl⟩
      · simp [Grammar.seqBad]
  have he : Reads N isOtherPartyIntroducing s _ :=
    Words.receiveEither introductionMsg noIntroductionMsg rfl (by decide)
  refine (he.plain_bind fun _ _ introducing _ => hi introducing).plain_congr ?_ ?_
  · intro w out identity
    constructor
    · rintro ⟨o, rfl, rfl, rfl⟩
      cases o with
      | none => exact ⟨noIntroductionMsg, [], [], [], false, rfl, rfl, ⟨rfl, rfl⟩, none, rfl, rfl, rfl, rfl⟩
      | some i =>
        exact ⟨introductionMsg, i.octets, [], challenge.1, true, rfl, rfl, ⟨rfl, rfl⟩, some i, rfl, rfl,
          rfl, rfl⟩
    · rintro ⟨_, _, _, _, introducing, rfl, rfl, ⟨rfl, rfl⟩, o, ho, rfl, rfl, rfl⟩
      cases o with
      | none =>
        obtain rfl : introducing = false := ho.symm
        exact ⟨none, by simp [introductionOctets], rfl, rfl⟩
      | some i =>
        obtain rfl : introducing = true := ho.symm
        exact ⟨some i, by simp [introductionOctets], rfl, rfl⟩
  · intro inp
    constructor
    · rintro ⟨rest, rfl, hneg⟩
      exact .inr ⟨introductionMsg, rest, [], true, rfl, ⟨rfl, rfl⟩, rfl, hneg⟩
    · rintro (h | ⟨_, rest, _, _, rfl, ⟨rfl, rfl⟩, rfl, hneg⟩)
      · exact h.elim
      · exact ⟨rest, rfl, hneg⟩

def callee (challenge : Octets) (s : Call C) : Grammar (Call C) Unit where
  word w out _ s' := ∃ i : CalleeInput C challenge, w = i.octets ∧ out = i.written ∧ s' = i.after
  bad := CalleeFaulty C challenge
  left _ s' := s'.keepAliveWorker = s.keepAliveWorker

def untilIntroduced (challenge : Challenge) : Main C (Identity C) := do
  receiveAndSendHello
  receiveAndSendVersion
  handleIncomingIntroduction challenge

theorem untilIntroduced_reads (challenge : Challenge) :
    Reads N (untilIntroduced challenge) s
      (.plain s (fun w out identity => ∃ (version : Octets) (o : Option (Introduction C challenge.1)),
        version.length = versionMsg.length ∧
        w = helloMsg ++ helloAckMsg ++ version ++ introductionOctets o ∧
        out = helloAckMsg ++ helloMsg ++ versionMsg ++ (if o.isSome then challenge.1 else []) ∧
        identity = { publicKey := o.map (·.key) }) (CalleeFaulty C challenge.1)) := by
  refine (Accepts.plain_bind calleeHello_reads fun _ _ _ _ =>
    calleeVersion_reads.plain_bind fun _ _ _ _ => incomingIntroduction_reads challenge).plain_congr ?_ ?_
  · intro w out identity
    constructor
    · rintro ⟨version, o, hv, rfl, rfl, rfl⟩
      exact ⟨helloMsg ++ helloAckMsg, _, helloAckMsg ++ helloMsg, _, (), by simp, by simp, ⟨rfl, rfl⟩,
        version, _, versionMsg, _, (), rfl, rfl, ⟨rfl, hv⟩, o, rfl, rfl, rfl⟩
    · rintro ⟨_, _, _, _, -, rfl, rfl, ⟨rfl, rfl⟩, version, _, _, _, -, rfl, rfl, ⟨rfl, hv⟩,
        o, rfl, rfl, rfl⟩
      exact ⟨version, o, hv, by simp, by simp, rfl⟩
  · intro inp
    constructor
    · rintro ⟨version, rest, rfl, hv, hneg⟩
      exact .inr ⟨helloMsg ++ helloAckMsg, _, _, (), by simp, ⟨rfl, rfl⟩,
        .inr ⟨version, _, _, (), rfl, ⟨rfl, hv⟩, rest, rfl, hneg⟩⟩
    · rintro (h | ⟨_, _, _, _, rfl, ⟨rfl, rfl⟩, h | ⟨version, _, _, _, rfl, ⟨rfl, hv⟩, rest, rfl, hneg⟩⟩)
      · exact h.elim
      · exact h.elim
      · exact ⟨version, rest, by simp, hv, hneg⟩

/-- The handshake of the callee once it knows who calls; at its end the worker is started. -/
def afterIntroduced (identity : Identity C) : Main C Unit := do
  assign (Call.setIdentity identity)
  let requiresIntroduction ← handleIncomingRequestForIntroduction
  assign (Call.setRequiresIntroduction requiresIntroduction)
  startKeepAliveWorker

theorem afterIntroduced_reads (identity : Identity C) :
    Reads N (afterIntroduced identity) s {
        word := fun w out _ s' => ∃ b, w = (bif b then introductionReqMsg else noIntroductionReqMsg) ∧
          out = [] ∧ s' = { ((s.setIdentity identity).setRequiresIntroduction b) with
            keepAliveWorker := some true }
        bad := fun _ => False
        left := fun _ s' => s' = s.setIdentity identity } := by
  have he : Reads N handleIncomingRequestForIntroduction (s.setIdentity identity) _ :=
    Words.receiveEither introductionReqMsg noIntroductionReqMsg rfl (by decide)
  have h : Reads N (handleIncomingRequestForIntroduction >>= fun b =>
      assign (Call.setRequiresIntroduction b) >>= fun _ => startKeepAliveWorker)
      (s.setIdentity identity) _ :=
    he.bind fun _ _ b s' _ => .assign_bind (.note_bind (Accepts.assign _))
  refine .assign_bind (h.congr ?_ ?_ ?_)
  · intro w out _ s'
    constructor
    · rintro ⟨_, _, _, _, b, _, rfl, rfl, ⟨⟨rfl, rfl⟩, rfl⟩, rfl, rfl, rfl⟩
      exact ⟨b, by simp, rfl, rfl⟩
    · rintro ⟨b, rfl, rfl, rfl⟩
      exact ⟨_, [], [], [], b, _, by simp, rfl, ⟨⟨rfl, rfl⟩, rfl⟩, rfl, rfl, rfl⟩
  · simp [Grammar.bind, Grammar.plain, Grammar.becomes]
  · simp [Grammar.bind, Grammar.plain, Grammar.becomes]

theorem initiateIncomingSession_reads (challenge : Challenge) :
    Reads N (initiateIncomingSession challenge) s (callee challenge.1 s) := by
  have hs : initiateIncomingSession challenge = (assign fun c : Call C => { c with callInfo := {} }) >>=
      fun _ => untilIntroduced challenge >>= afterIntroduced := by
    simp only [untilIntroduced, bind_assoc_run]
    rfl
  rw [hs]
  refine .assign_bind (((untilIntroduced_reads challenge).bind fun _ _ identity _ _ =>
    afterIntroduced_reads identity).congr ?_ ?_ ?_)
  · intro w out _ s'
    constructor
    · rintro ⟨_, _, _, _, _, _, rfl, rfl, ⟨⟨version, o, hv, rfl, rfl, rfl⟩, rfl⟩, b, rfl, rfl, rfl⟩
      exact ⟨⟨version, o, b, hv⟩, by simp [CalleeInput.octets], by simp [CalleeInput.written], rfl⟩
    · rintro ⟨⟨version, o, b, hv⟩, rfl, rfl, rfl⟩
      exact ⟨_, _, _, [], _, _, rfl, by simp [CalleeInput.written],
        ⟨⟨version, o, hv, rfl, rfl, rfl⟩, rfl⟩, b, rfl, rfl, rfl⟩
  · intro inp
    constructor
    · rintro (h | ⟨_, _, _, _, _, -, -, h⟩)
      · exact h
      · exact h.elim
    · exact .inl
  · rintro inp s' (rfl | ⟨_, _, _, _, _, -, ⟨-, rfl⟩, rfl⟩)
    · rfl
    · rfl

/-! ### The worker -/

abbrev Idle {α : Type} (m : Main C α) : Prop := Notes (· ≠ .keepAliveStarted) m

namespace Idle

theorem sendMessage (msg : Octets) : Idle (sendMessage msg : Main C Unit) := .write msg (.throw _)

theorem receiveMessageInto (n : Nat) : Idle (receiveMessageInto n : Main C Octets) := .readFully n (.throw _)

theorem receiveSpecificMessage (msg : Octets) : Idle (receiveSpecificMessage msg : Main C Unit) :=
  .bind (receiveMessageInto _) fun _ => .ite (.throw _) (.pure ())

theorem receiveMessageWithSizeFirst : Idle (receiveMessageWithSizeFirst : Main C Octets) := by
  refine .bind (.readFully 4 (.throw _)) ?_
  intro size
  cases toInt (Octets.ofBe size) with
  | ofNat n => exact receiveMessageInto n
  | negSucc n => exact .throw _

theorem receiveEither (yes no : Octets) : Idle (receiveEither yes no : Main C Bool) :=
  .bind (receiveMessageInto _) fun _ => .ite (.pure true) (.ite (.pure false) (.throw _))

theorem receiveAndVerifyPublicKey (challenge : Challenge) :
    Idle (receiveAndVerifyPublicKey challenge : Main C _) := by
  refine .bind receiveMessageWithSizeFirst fun encoded => .bind ?_ fun key => ?_
  · unfold MainProtocol.parsePublicKey
    split
    · exact .pure _
    · exact .throw _
    · exact .throw _
    · exact .throw _
  refine .bind (.note nofun) fun _ => .bind (sendMessage _) fun _ => ?_
  refine .bind receiveMessageWithSizeFirst fun sig => .bind ?_ fun _ => .pure key
  unfold MainProtocol.verifySignature
  split
  · exact .note nofun
  · exact .throw _
  · exact .throw _
  · exact .throw _
  · exact .throw _
  · exact .throw _

theorem untilIntroduced (challenge : Challenge) : Idle (untilIntroduced challenge : Main C _) := by
  refine .bind ?_ fun _ => ?_
  · refine .bind (receiveSpecificMessage _) fun _ => .bind (sendMessage _) fun _ => ?_
    exact .bind (sendMessage _) fun _ => receiveSpecificMessage _
  refine .bind ?_ fun _ => ?_
  · exact .bind (.bind (receiveMessageInto _) fun _ => .pure ()) fun _ => sendMessage _
  refine .bind (receiveEither _ _) fun _ => .ite ?_ (.pure _)
  exact .bind (receiveAndVerifyPublicKey challenge) fun _ => .pure _

end Idle

def untilStarted (challenge : Challenge) : Main C Unit := do
  assign fun c => { c with callInfo := {} }
  let identity ← untilIntroduced challenge
  assign (Call.setIdentity identity)
  let requiresIntroduction ← handleIncomingRequestForIntroduction
  assign (Call.setRequiresIntroduction requiresIntroduction)

theorem Idle.untilStarted (challenge : Challenge) : Idle (untilStarted challenge : Main C Unit) := by
  refine .bind (.assign _) fun _ => .bind (Idle.untilIntroduced challenge) fun _ => ?_
  exact .bind (.assign _) fun _ => .bind (receiveEither _ _) fun _ => .assign _

theorem worker_started_iff (challenge : Challenge) (s : Call C) (inp : Octets) :
    let t := (initiateIncomingSession challenge s).exec inp
    .keepAliveStarted ∈ t.marks ↔ ∃ s', t.result = some (.ok (), s') := by
  intro t
  have hs : initiateIncomingSession challenge s = (untilStarted challenge s).bind
      (cont fun _ => startKeepAliveWorker) := by
    rw [← bind_run]
    simp only [untilStarted, untilIntroduced, bind_assoc_run]
    rfl
  have ht : t = _ := (congrArg (fun p => p.exec inp) hs).trans (Proc.exec_bind _ _ inp)
  have hidle : .keepAliveStarted ∉ ((untilStarted challenge s).exec inp).marks :=
    fun h => (Idle.untilStarted challenge s).exec inp _ h rfl
  cases hr : ((untilStarted challenge s).exec inp).result with
  | none =>
    rw [hr] at ht
    rw [ht]
    exact ⟨fun h => absurd h hidle, fun ⟨_, h⟩ => nomatch h⟩
  | some r =>
    rw [hr] at ht
    obtain ⟨r, s₁⟩ := r
    cases r with
    | error e =>
      rw [ht]
      exact ⟨fun h => absurd (by simpa [cont, Proc.exec] using h) hidle, fun ⟨_, h⟩ => nomatch h⟩
    | ok u =>
      rw [ht]
      exact ⟨fun _ => ⟨_, rfl⟩, fun _ => List.mem_append_right _ (List.mem_cons_self ..)⟩

/-- The callee returns just on an input that begins as its grammar says. It then has read that and no
more, has written its hello, its version and its challenge if there was an introduction, and has the key
that was verified and the request. On any other input it throws and starts no worker. -/
theorem callee_accepts (challenge : Challenge) (s : Call C) (inp : Octets) :
    let t := (initiateIncomingSession challenge s).exec inp
    ((∃ s', t.result = some (.ok (), s')) ↔
      ∃ (w : CalleeInput C challenge.1) (rest : Octets), inp = w.octets ++ rest) ∧
    (∀ (w : CalleeInput C challenge.1) (rest : Octets), inp = w.octets ++ rest →
      t.result = some (.ok (), w.after) ∧ t.rest = rest ∧ t.sent = w.written) ∧
    ((¬ ∃ (w : CalleeInput C challenge.1) (rest : Octets), inp = w.octets ++ rest) →
      ∃ e s', t.result = some (.error e, s') ∧ s'.keepAliveWorker = s.keepAliveWorker) ∧
    (.keepAliveStarted ∈ t.marks ↔ ∃ s', t.result = some (.ok (), s')) := by
  intro t
  have hr : Reads inp.length _ s _ := initiateIncomingSession_reads challenge
  refine ⟨?_, ?_, ?_, worker_started_iff challenge s inp⟩
  · constructor
    · rintro ⟨s', h⟩
      obtain ⟨_, rest, _, _, _, hi, w, rfl, -⟩ := (hr.returns_iff le_rfl).1 ⟨(), s', h⟩
      exact ⟨w, rest, hi⟩
    · rintro ⟨w, rest, hi⟩
      obtain ⟨⟨⟩, s', h⟩ := (hr.returns_iff le_rfl).2 ⟨w.octets, rest, _, (), _, hi, w, rfl, rfl, rfl⟩
      exact ⟨s', h⟩
  · rintro w rest hi
    obtain ⟨marks, hx⟩ := hr.complete ⟨w, rfl, rfl, rfl⟩ rest (by rw [← hi])
    rw [← hi] at hx
    exact ⟨congrArg Proc.Trace.result hx, congrArg Proc.Trace.rest hx, congrArg Proc.Trace.sent hx⟩
  · intro hno
    obtain ⟨_, rest, _, _, _, hi, w, rfl, -⟩ | ⟨e, s', he, hl, -⟩ := hr.total inp le_rfl
    · exact absurd ⟨w, rest, hi⟩ hno
    · exact ⟨e, s', he, hl⟩

def sampleCalleeInput : CalleeInput smallCrypto sampleChallenge.1 where
  version := versionMsg
  introduction := some sampleIntroduction
  requiresIntroduction := true
  version_length := rfl

theorem callee_accepts_sample :
    let t := (initiateIncomingSession sampleChallenge {}).exec sampleCalleeInput.octets
    t.result = some (.ok (), sampleCalleeInput.after) ∧ t.rest = [] ∧
      t.sent = helloAckMsg ++ helloMsg ++ versionMsg ++ sampleChallenge.1 :=
  (callee_accepts sampleChallenge {} sampleCalleeInput.octets).2.1 sampleCalleeInput [] (by simp)

end Handshake
end OnionPhone
