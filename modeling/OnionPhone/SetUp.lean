import OnionPhone.MainProtocol
import OnionPhone.Native.Sessions

/-!
# OnionPhone.SetUp

The set-up of a call between two phones that both follow the protocol: the handshake of
`MainProtocol`, then `SrtpProtocol` over the same streams.

Each part of the handshake is a `Talk`: both sides finish it with nothing in flight. Put together
they make one schedule that ends well (`set_up`), and by `Link.settles` every schedule, with every
way of cutting the streams, ends the same.
-/

namespace OnionPhone
namespace SetUp

open Wire Wire.Method Wire.Link ProtocolUtils KeyExchange MainProtocol Relation

variable {C : Crypto}

/-! ## The two sides -/

/-- The `n` messages the keep-alive worker sends before the call is answered. -/
def sendWaits : Nat → Main C Unit
  | 0 => pure ()
  | n + 1 => do
    sendMessage waitForAcceptanceMsg
    sendWaits n

abbrev Phone (C : Crypto) := Call C × SrtpProtocol.Session

abbrev PhoneMethod (C : Crypto) := Method (Event C) Exn (Phone C)

/-- What one party brings to a call: its keys, its codec and what it draws at random. -/
structure Party (C : Crypto) where
  keyPair : KeyPair C
  randomMessage : Challenge
  dhRandom : Nat
  codec : Codec
  senderSalt : SrtpProtocol.Salt
  rtpRandom : Native.RtpRandom

/-- `CallHandler.startCall` between the connection and the media. -/
def caller (fuel : Nat) (p : Party C) : PhoneMethod C Unit := do
  onFst (MainProtocol.initiateOutgoingSession fuel p.keyPair p.randomMessage p.dhRandom)
  let s ← fields
  onSnd (SrtpProtocol.initiateOutgoingSession p.codec p.senderSalt p.rtpRandom s.1.callInfo.txKey
    s.1.callInfo.rxKey)

/-- `CallHandler.handleIncomingCall` and `acceptCall` between the connection and the media, with
`waits` messages of the keep-alive worker in between. -/
def callee (waits : Nat) (p : Party C) : PhoneMethod C Unit := do
  onFst (do
    MainProtocol.initiateIncomingSession p.randomMessage
    sendWaits waits
    MainProtocol.acceptCall p.keyPair p.dhRandom)
  let s ← fields
  onSnd (SrtpProtocol.initiateIncomingSession p.codec p.senderSalt p.rtpRandom s.1.callInfo.txKey
    s.1.callInfo.rxKey)

/-! ## The parts of the handshake -/

variable {s t : Call C}

theorem hello : Talk sendAndReceiveHello s receiveAndSendHello t () s () t := by
  refine Talk.bind (sendMessage_receiveSpecificMessage helloMsg) ?_
  refine Talk.bind (sendMessage_receiveSpecificMessage helloAckMsg).swap ?_
  refine Talk.bind (sendMessage_receiveSpecificMessage helloMsg).swap ?_
  exact sendMessage_receiveSpecificMessage helloAckMsg

theorem version_right : Talk (sendMessage versionMsg : Main C Unit) s receiveVersion t () s () t :=
  (sendMessage_receiveMessageInto rfl).then_right rfl

theorem version : Talk sendAndReceiveVersion s receiveAndSendVersion t () s () t :=
  Talk.bind version_right version_right.swap

/-- What RSA promises for a key pair: its public key survives encoding, and what its private key
signs verifies. -/
structure RsaSound (C : Crypto) (k : KeyPair C) : Prop where
  encoded_lt : (C.rsaEncoded k.public_).length < 2 ^ 31
  parses : C.rsaGeneratePublic (C.rsaEncoded k.public_) = .ok k.public_
  signs : ∀ m : Challenge, ∃ sig, C.sign k.private_ m.1 = .ok sig ∧ sig.length < 2 ^ 31 ∧
    C.verify k.public_ m.1 sig = .ok true

theorem introduction {k : KeyPair C} (hk : RsaSound C k) (challenge : Challenge) :
    Talk (proveIdentityToOtherParty k) s (receiveAndVerifyPublicKey challenge) t
      () s k.public_ t := by
  obtain ⟨sig, hsig, hlen, hver⟩ := hk.signs challenge
  unfold proveIdentityToOtherParty receiveAndVerifyPublicKey
  refine Talk.bind (sendMessageWithSizeFirst_receive hk.encoded_lt) ?_
  simp only [parsePublicKey, hk.parses, pure_bind_run]
  refine Talk.note_right ?_
  refine Talk.bind (sendMessage_receiveMessageInto challenge.2).swap ?_
  simp only [signMessage, hsig, bind_assoc_run, pure_bind_run]
  refine Talk.note_left ?_
  refine Talk.go_right (sendMessageWithSizeFirst_receive hlen) ?_
  simp only [verifySignature, hver]
  exact Talk.note_right (Talk.pure () k.public_)

theorem receiveEither_yes (yes no : Octets) :
    Talk (sendMessage yes : Main C Unit) s (receiveEither yes no) t () s true t :=
  (sendMessage_receiveMessageInto rfl).then_right (by simp; rfl)

theorem receiveEither_no {yes no : Octets} (hlen : no.length = yes.length) (hne : yes ≠ no) :
    Talk (sendMessage no : Main C Unit) s (receiveEither yes no) t () s false t := by
  refine (sendMessage_receiveMessageInto hlen).then_right ?_
  have h : compareIfIdentical yes no = false := by
    rw [Bool.eq_false_iff]
    intro hc
    exact hne ((compareIfIdentical_iff _ _).1 hc)
  simp [h]
  rfl

def introducedAs (shouldIntroduce : Bool) (k : KeyPair C) : Identity C :=
  { publicKey := if shouldIntroduce then some k.public_ else none }

theorem outgoing_introduction {k : KeyPair C} (hk : RsaSound C k) (challenge : Challenge) :
    Talk (handleOutgoingIntroduction k) s (handleIncomingIntroduction challenge) t
      () s (introducedAs s.callInfo.shouldIntroduce k) t := by
  unfold handleOutgoingIntroduction handleIncomingIntroduction isOtherPartyIntroducing
  cases hs : s.callInfo.shouldIntroduce with
  | true =>
    unfold Talk
    rw [fields_bind_run, if_pos hs]
    refine Talk.bind (receiveEither_yes introductionMsg noIntroductionMsg) ?_
    rw [if_pos rfl]
    exact (introduction hk challenge).then_right rfl
  | false =>
    unfold Talk
    rw [fields_bind_run, if_neg (by simp [hs])]
    refine Talk.then_right (receiveEither_no (by decide) (by decide)) ?_
    rfl

theorem request_for_introduction :
    Talk handleOutgoingRequestForIntroduction s handleIncomingRequestForIntroduction t
      () s s.callInfo.requiresIntroduction t := by
  unfold handleOutgoingRequestForIntroduction handleIncomingRequestForIntroduction
  cases hs : s.callInfo.requiresIntroduction with
  | true =>
    unfold Talk
    rw [fields_bind_run, if_pos hs]
    exact receiveEither_yes introductionReqMsg noIntroductionReqMsg
  | false =>
    unfold Talk
    rw [fields_bind_run, if_neg (by simp [hs])]
    exact receiveEither_no (by decide) (by decide)

/-- The callee after `keepAliveWorker.stopSending()`. -/
def stopped (t : Call C) : Call C := { t with keepAliveWorker := some false }

theorem stopSending_bind {β : Type} {running : Bool} (h : t.keepAliveWorker = some running)
    (f : Unit → Main C β) : (stopSending >>= f) t = f () (stopped t) := by
  unfold stopSending
  simp only [bind_assoc_run, fields_bind_run, h, assign_bind_run]
  rfl

theorem accept (waits : Nat) : ∀ {fuel : Nat} {running : Bool}, waits < fuel →
    t.keepAliveWorker = some running →
    Talk (waitForAccept fuel) s (do sendWaits waits; stopSending; sendMessage acceptMsg) t
      () s () (stopped t) := by
  induction waits with
  | zero =>
    intro fuel running hf ht
    obtain ⟨f, rfl⟩ : ∃ f, fuel = f + 1 := ⟨fuel - 1, by omega⟩
    unfold Talk sendWaits
    rw [pure_bind_run, stopSending_bind ht]
    exact Talk.then_left (sendMessage_receiveMessageInto rfl).swap rfl
  | succ waits ih =>
    intro fuel running hf ht
    obtain ⟨f, rfl⟩ : ∃ f, fuel = f + 1 := ⟨fuel - 1, by omega⟩
    unfold sendWaits waitForAccept
    simp only [bind_assoc_run]
    have hlen : waitForAcceptanceMsg.length = acceptMsg.length := by decide
    refine Talk.bind (sendMessage_receiveMessageInto hlen).swap ?_
    rw [if_pos (compareIfIdentical_self _)]
    exact ih (by omega) ht

theorem accept_then {fuel waits : Nat} {running : Bool} {f g : Main C Unit} {s' t' : Call C}
    (hf : waits < fuel) (ht : t.keepAliveWorker = some running)
    (hk : Talk f s g (stopped t) () s' () t') :
    Talk (do waitForAccept fuel; f) s (do sendWaits waits; stopSending; sendMessage acceptMsg; g) t
      () s' () t' := by
  have h := Talk.bind (f := fun _ => f) (g := fun _ => g) (accept waits hf ht) hk
  simpa only [bind_assoc_run] using h

def adopted (k : KeyPair C) (s : Call C) : Call C :=
  if s.callInfo.requiresIntroduction then
    match s.callInfo.identity with
    | none => s
    | some identity => s.setIdentity { identity with publicKey := some k.public_ }
  else s

/-- If the caller asks for an introduction, it was told no other key for the callee than the callee's own. -/
def Expects (s : Call C) (k : KeyPair C) : Prop :=
  s.callInfo.requiresIntroduction = true → ∃ identity, s.callInfo.identity = some identity ∧
    (identity.publicKey = none ∨ identity.publicKey = some k.public_)

theorem incoming_introduction {k : KeyPair C} (hk : RsaSound C k) (challenge : Challenge)
    (he : Expects s k) (hr : t.callInfo.requiresIntroduction = s.callInfo.requiresIntroduction) :
    Talk (handleIncomingIntroductionIfRequested challenge) s
      (handleOutgoingIntroductionIfRequested k) t () (adopted k s) () t := by
  unfold Talk handleIncomingIntroductionIfRequested handleOutgoingIntroductionIfRequested adopted
  rw [fields_bind_run, fields_bind_run, hr]
  cases hs : s.callInfo.requiresIntroduction with
  | false => exact .refl
  | true =>
    rw [if_pos rfl, if_pos rfl, if_pos rfl]
    refine Talk.then_left (introduction hk challenge).swap ?_
    obtain ⟨identity, hi, hp⟩ := he hs
    unfold adoptPublicKey
    rw [fields_bind_run, hi]
    rcases hp with hp | hp
    · simp only [hp, validateKeyAgainstExpected, pure_bind_run]
      rfl
    · simp only [hp, validateKeyAgainstExpected, compareIfIdentical_self, Bool.not_true,
        Bool.false_eq_true, if_false, pure_bind_run]
      rfl

/-! ## The whole handshake -/

def answered (callerKey : KeyPair C) (s : Call C) : Call C where
  callInfo := {
    identity := some (introducedAs s.callInfo.shouldIntroduce callerKey)
    requiresIntroduction := s.callInfo.requiresIntroduction }
  keepAliveWorker := some false

theorem handshake {fuel waits : Nat} {p q : Party C} {secret : Octets} (hf : waits < fuel)
    (hp : RsaSound C p.keyPair) (hq : RsaSound C q.keyPair)
    (hd : DhAgree C p.dhRandom q.dhRandom secret) (he : Expects s q.keyPair) :
    Talk (MainProtocol.initiateOutgoingSession fuel p.keyPair p.randomMessage p.dhRandom) s
      (do
        MainProtocol.initiateIncomingSession q.randomMessage
        sendWaits waits
        MainProtocol.acceptCall q.keyPair q.dhRandom) t
      () (callerKeys C secret (adopted q.keyPair s))
      () (calleeKeys C secret (answered p.keyPair s)) := by
  unfold MainProtocol.initiateOutgoingSession MainProtocol.initiateIncomingSession
    MainProtocol.acceptCall startKeepAliveWorker
  simp only [bind_assoc_run]
  unfold Talk
  rw [assign_bind_run]
  refine Talk.bind hello (Talk.bind version ?_)
  refine Talk.bind (outgoing_introduction hp q.randomMessage) ?_
  unfold Talk
  rw [assign_bind_run]
  refine Talk.bind request_for_introduction ?_
  unfold Talk
  rw [assign_bind_run]
  refine Talk.note_right ?_
  unfold Talk
  rw [assign_bind_run]
  refine accept_then hf rfl ?_
  refine Talk.bind (incoming_introduction hq p.randomMessage he rfl) ?_
  exact key_exchange hd _ _

/-! ## The set-up -/

def callerEnd (p q : Party C) (secret : Octets) (s : Phone C) : Phone C :=
  (callerKeys C secret (adopted q.keyPair s.1),
    SrtpProtocol.configured p.codec p.senderSalt p.rtpRandom (getFirstKey (C.sha256 secret))
      (getSecondKey (C.sha256 secret)) q.rtpRandom.ssrc q.senderSalt.1 s.2)

def calleeEnd (p q : Party C) (secret : Octets) (s t : Phone C) : Phone C :=
  (calleeKeys C secret (answered p.keyPair s.1),
    SrtpProtocol.configured q.codec q.senderSalt q.rtpRandom (getSecondKey (C.sha256 secret))
      (getFirstKey (C.sha256 secret)) p.rtpRandom.ssrc p.senderSalt.1 t.2)

theorem set_up {fuel waits : Nat} {p q : Party C} {secret : Octets} {s t : Phone C}
    (hf : waits < fuel) (hp : RsaSound C p.keyPair) (hq : RsaSound C q.keyPair)
    (hd : DhAgree C p.dhRandom q.dhRandom secret) (he : Expects s.1 q.keyPair) :
    Talk (caller fuel p) s (callee waits q) t
      () (callerEnd p q secret s) () (calleeEnd p q secret s t) := by
  unfold caller callee
  refine Talk.bind (Talk.onFst (handshake hf hp hq hd he)) ?_
  unfold Talk
  rw [fields_bind_run, fields_bind_run]
  exact Talk.onSnd (SrtpProtocol.srtp_set_up p.codec q.codec p.senderSalt q.senderSalt p.rtpRandom
    q.rtpRandom _ _ _ _ s.2 t.2)

/-- What the two phones have in common at the end, when they were `s` and `t` before. A process
that had already initialised libsrtp keeps its old sender, so the two last fields are about others. -/
structure Agreed (p q : Party C) (s t a b : Phone C) : Prop where
  keys : ∃ k₁ k₂ : Octets, k₁.length = 16 ∧ k₂.length = 16 ∧
    a.1.callInfo.txKey = some k₁ ∧ b.1.callInfo.rxKey = some k₁ ∧
    a.1.callInfo.rxKey = some k₂ ∧ b.1.callInfo.txKey = some k₂ ∧
    a.2.native.srtpContextRecv =
      some ⟨[Native.newStream q.rtpRandom.ssrc (k₂ ++ q.senderSalt.1)]⟩ ∧
    b.2.native.srtpContextRecv =
      some ⟨[Native.newStream p.rtpRandom.ssrc (k₁ ++ p.senderSalt.1)]⟩
  callerSsrc : Native.getSsrc a.2.native = some (p.rtpRandom.ssrc : Nat)
  calleeSsrc : Native.getSsrc b.2.native = some (q.rtpRandom.ssrc : Nat)
  calleeIdentity : b.1.callInfo.identityKey =
    if s.1.callInfo.shouldIntroduce then some p.keyPair.public_ else none
  callerIdentity : s.1.callInfo.requiresIntroduction →
    a.1.callInfo.identityKey = some q.keyPair.public_
  callerSender : s.2.native.kernel = {} → a.2.native.srtpContextSend = b.2.native.srtpContextRecv
  calleeSender : t.2.native.kernel = {} → b.2.native.srtpContextSend = a.2.native.srtpContextRecv

theorem adopted_identityKey {k : KeyPair C} {s : Call C} (he : Expects s k)
    (hr : s.callInfo.requiresIntroduction) :
    (adopted k s).callInfo.identityKey = some k.public_ := by
  obtain ⟨identity, hi, _⟩ := he hr
  unfold adopted
  rw [if_pos hr, hi]
  rfl

theorem getFirstKey_length (secret : Octets) : (getFirstKey (C.sha256 secret)).length = 16 := by
  rw [getFirstKey, List.length_take, C.sha256_length]
  rfl

theorem getSecondKey_length (secret : Octets) : (getSecondKey (C.sha256 secret)).length = 16 := by
  rw [getSecondKey, List.length_drop, C.sha256_length]
  rfl

theorem srtpKey_eq {key : Octets} (h : key.length = 16) (salt : SrtpProtocol.Salt) :
    Native.srtpKey key salt.1 = key ++ salt.1 := by
  have h₁ : key.take Native.keySize = key := List.take_of_length_le (by rw [h]; decide)
  have h₂ : salt.1.take Native.saltSize = salt.1 :=
    List.take_of_length_le (by rw [salt.2]; decide)
  rw [Native.srtpKey, h₁, h₂]

theorem ends_agreed {p q : Party C} {secret : Octets} {s t : Phone C} (he : Expects s.1 q.keyPair)
    (hs : Native.Reached s.2.native) (ht : Native.Reached t.2.native) :
    Agreed p q s t (callerEnd p q secret s) (calleeEnd p q secret s t) where
  keys := by
    refine ⟨_, _, getFirstKey_length secret, getSecondKey_length secret, rfl, rfl, rfl, rfl, ?_, ?_⟩
    · rw [← srtpKey_eq (getSecondKey_length secret)]
      exact SrtpProtocol.configured_recv hs
    · rw [← srtpKey_eq (getFirstKey_length secret)]
      exact SrtpProtocol.configured_recv ht
  callerSsrc := Native.getSsrc_initSender ..
  calleeSsrc := Native.getSsrc_initSender ..
  calleeIdentity := rfl
  callerIdentity hr := adopted_identityKey he hr
  callerSender hk := (SrtpProtocol.configured_send hk).trans (SrtpProtocol.configured_recv ht).symm
  calleeSender hk := (SrtpProtocol.configured_send hk).trans (SrtpProtocol.configured_recv hs).symm

/-- Under every schedule, from every state that is reached: one side can move unless both have
returned, neither has thrown, and when both have returned nothing is in flight and they agree. -/
theorem every_schedule_agrees {fuel waits : Nat} {p q : Party C} {secret : Octets} {s t : Phone C}
    {l : Link (Event C) (Except Exn Unit × Phone C) (Except Exn Unit × Phone C)}
    (hf : waits < fuel) (hp : RsaSound C p.keyPair) (hq : RsaSound C q.keyPair)
    (hd : DhAgree C p.dhRandom q.dhRandom secret) (he : Expects s.1 q.keyPair)
    (hs : Native.Reached s.2.native) (ht : Native.Reached t.2.native)
    (hl : ReflTransGen Step ⟨caller fuel p s, callee waits q t, [], []⟩ l) :
    ((∃ a b, l.left = .ret (.ok (), a) ∧ l.right = .ret (.ok (), b)) ∨ ∃ l', Step l l') ∧
    (∀ e a, l.left ≠ .ret (.error e, a)) ∧ (∀ e b, l.right ≠ .ret (.error e, b)) ∧
    (∀ a b, l.left = .ret (.ok (), a) → l.right = .ret (.ok (), b) →
      l.toLeft = [] ∧ l.toRight = [] ∧ Agreed p q s t a b) := by
  have hend := settles (set_up hf hp hq hd he) hl
  refine ⟨?_, ?_, ?_, ?_⟩
  · rcases progress hend with h | h
    · exact .inl ⟨_, _, by rw [h]; rfl, by rw [h]; rfl⟩
    · exact .inr h
  · intro e a h
    cases left_ret hend h
  · intro e b h
    cases right_ret hend h
  · intro a b ha hb
    rcases progress hend with h | ⟨l', h⟩
    · obtain ⟨rfl⟩ : a = callerEnd p q secret s := by
        simpa using left_ret hend ha
      obtain ⟨rfl⟩ : b = calleeEnd p q secret s t := by
        simpa using right_ret hend hb
      exact ⟨by rw [h]; rfl, by rw [h]; rfl, ends_agreed he hs ht⟩
    · -- two sides that have both returned cannot move
      cases h with
      | left h => rw [ha] at h; cases h
      | right h => rw [hb] at h; cases h

def smallParty (n : UInt8) : Party smallCrypto where
  keyPair := ⟨n, n⟩
  randomMessage := ⟨List.replicate 80 n, by simp [introductionMsgSize]⟩
  dhRandom := n.toNat
  codec := codec2
  senderSalt := (Native.sampleSetUp n).senderSalt
  rtpRandom := (Native.sampleSetUp n).rtpRandom

def smallPhone : Phone smallCrypto :=
  ({ callInfo := { shouldIntroduce := true, requiresIntroduction := true, identity := some {} } },
    {})

theorem smallParty_sound (n : UInt8) : RsaSound smallCrypto (smallParty n).keyPair where
  encoded_lt := by simp [smallCrypto]
  parses := rfl
  signs m := by
    refine ⟨n :: m.1, rfl, ?_, ?_⟩
    · rw [List.length_cons, m.2]
      decide
    · simp [smallCrypto, smallParty]

theorem small_dhAgree :
    DhAgree smallCrypto (smallParty 2).dhRandom (smallParty 5).dhRandom [8] where
  agree := by
    refine ⟨(2 : Nat), (9 : UInt8), (5 : Nat), (5 : UInt8), rfl, rfl, rfl, rfl, ?_, ?_, rfl, rfl,
      rfl, rfl⟩
    · decide
    · decide

theorem every_schedule_agrees_small :
    Agreed (smallParty 2) (smallParty 5) smallPhone smallPhone
      (callerEnd (smallParty 2) (smallParty 5) [8] smallPhone)
      (calleeEnd (smallParty 2) (smallParty 5) [8] smallPhone smallPhone) := by
  have hf : 3 < 4 := by decide
  have hp := smallParty_sound 2
  have hq := smallParty_sound 5
  have he : Expects smallPhone.1 (smallParty 5).keyPair := fun _ => ⟨{}, rfl, .inl rfl⟩
  have hrun := set_up (t := smallPhone) hf hp hq small_dhAgree he
  have h := every_schedule_agrees hf hp hq small_dhAgree he .start .start
    (steps_of_ticks hrun)
  exact (h.2.2.2 _ _ rfl rfl).2.2

end SetUp
end OnionPhone
