import OnionPhone.Handshake

/-!
# OnionPhone.Malformed

Input no peer that follows the protocol sends. The methods of the handshake mean to answer it with a
`MainProtocolException` or a `SecurityException`. There are two ways past that. If the size in front of a
message has its top bit set, `new byte[size]` throws a `NegativeArraySizeException`. And the provider may
throw an exception that it does not declare, as Spongy Castle does on a key that is empty or not DER. No
catch clause names either.

`proper_iff`: the methods end as they mean to just on the inputs on which neither happens.
-/

namespace OnionPhone
namespace Malformed

open Wire Wire.Method ProtocolUtils KeyExchange MainProtocol Words Handshake

variable {C : Crypto} {N : Nat} {s : Call C}

/-- The method returns, or throws a `MainProtocolException` or a `SecurityException`. -/
def Proper {ω σ α : Type} (m : Method ω Exn σ α) (s : σ) (inp : Octets) : Prop :=
  ∃ r s', ((m s).exec inp).result = some (r, s') ∧ ∀ e, r = .error e → e.ofProtocol = true

/-! ## Accepting a call -/

/-- What the callee is to sign when it accepts, and can sign. -/
def Signs (keyPair : KeyPair C) (info : CallInfo C) (toSign : Octets) : Prop :=
  if info.requiresIntroduction then
    toSign.length = introductionMsgSize ∧ ∃ sig, C.sign keyPair.private_ toSign = .ok sig
  else
    toSign = []

/-- Where the callee that accepts meets a negative size or a fault of the provider: when it signs, or in the
key exchange. -/
def AcceptFaulty (keyPair : KeyPair C) (x : Nat) (info : CallInfo C) (inp : Octets) : Prop :=
  (info.requiresIntroduction = true ∧ FaultySigning keyPair inp) ∨
  ∃ toSign rest, inp = toSign ++ rest ∧ Signs keyPair info toSign ∧ FaultyExchange C x rest

theorem introductionIfRequested_reads (keyPair : KeyPair C) :
    ∃ W, Reads N (handleOutgoingIntroductionIfRequested keyPair) s (.plain s W
        fun inp => s.callInfo.requiresIntroduction = true ∧ FaultySigning keyPair inp) ∧
      ∀ w, (∃ out, W w out ()) ↔ Signs keyPair s.callInfo w := by
  cases hreq : s.callInfo.requiresIntroduction with
  | false =>
    have hr : handleOutgoingIntroductionIfRequested keyPair s = (pure () : Main C Unit) s := by
      simp [handleOutgoingIntroductionIfRequested, hreq]
    exact ⟨_, Accepts.of_run ((Accepts.pure ()).plain_congr (fun _ _ _ => Iff.rfl) (by simp)) hr,
      by simp [Signs, hreq]⟩
  | true =>
    have hr : handleOutgoingIntroductionIfRequested keyPair s = proveIdentityToOtherParty keyPair s := by
      simp [handleOutgoingIntroductionIfRequested, hreq]
    exact ⟨_, Accepts.of_run ((Words.proveIdentityToOtherParty keyPair).plain_congr (fun _ _ _ => Iff.rfl)
      (by simp)) hr, by simp [Signs, hreq]⟩

theorem acceptCall_reads (keyPair : KeyPair C) (x : Nat) {running : Bool}
    (hworker : s.keepAliveWorker = some running) :
    ∃ g, Reads N (acceptCall keyPair x) s g ∧ ∀ inp, g.bad inp ↔ AcceptFaulty keyPair x s.callInfo inp := by
  let t : Call C := { s with keepAliveWorker := some false }
  have hr : stopSending s = assign (fun c : Call C => { c with keepAliveWorker := some false }) s := by
    simp [stopSending, hworker]
  obtain ⟨W, hi, hW⟩ := introductionIfRequested_reads (N := N) (s := t) keyPair
  have hb : Reads N (handleOutgoingIntroductionIfRequested keyPair >>= fun _ => handleKeyExchange x) t _ :=
    hi.bind fun _ _ _ _ _ => Words.handleKeyExchange x
  have hs : Reads N (sendMessage acceptMsg >>= fun _ =>
      handleOutgoingIntroductionIfRequested keyPair >>= fun _ => handleKeyExchange x) t _ :=
    (Words.sendMessage acceptMsg).bind (k := fun _ _ => (Grammar.plain t W fun inp =>
      t.callInfo.requiresIntroduction = true ∧ FaultySigning keyPair inp).bind fun _ s₁ =>
      exchange x (calleeKeys C) s₁) (by
        rintro w out _ s' ⟨-, rfl⟩
        exact hb)
  have ha : acceptCall keyPair x s = (assign (fun c : Call C => { c with keepAliveWorker := some false }) >>=
      fun _ => sendMessage acceptMsg >>= fun _ =>
      handleOutgoingIntroductionIfRequested keyPair >>= fun _ => handleKeyExchange x) s := by
    simp only [acceptCall, bind_run, hr]
  refine ⟨_, Accepts.of_run (.assign_bind hs) ha, ?_⟩
  intro inp
  constructor
  · rintro (h | ⟨_, _, _, _, _, rfl, ⟨⟨rfl, rfl⟩, rfl⟩, h | ⟨w, rest, out, _, _, rfl, ⟨hw, rfl⟩, hneg⟩⟩)
    · exact h.elim
    · exact .inl h
    · exact .inr ⟨w, rest, rfl, (hW w).1 ⟨out, hw⟩, hneg⟩
  · rintro (h | ⟨w, rest, rfl, hw, hneg⟩)
    · exact .inr ⟨[], inp, _, (), _, rfl, ⟨⟨rfl, rfl⟩, rfl⟩, .inl h⟩
    obtain ⟨out, hw⟩ := (hW w).2 hw
    exact .inr ⟨[], _, _, (), _, rfl, ⟨⟨rfl, rfl⟩, rfl⟩, .inr ⟨w, rest, out, (), _, rfl, ⟨hw, rfl⟩, hneg⟩⟩

/-! ## All methods -/

/-- The methods of the handshake end as they mean to just on the inputs in which no size they read is
negative and nothing they read makes the provider throw what it does not declare. What
`receiveMessageWithSizeFirst` returns is what it has read, without the size. -/
theorem proper_iff {fuel : Nat} (keyPair : KeyPair C) (challenge : Challenge) (x : Nat) {s : Call C}
    {identity : Identity C} {running : Bool} {inp : Octets}
    (hid : s.callInfo.identity = some identity) (hworker : s.keepAliveWorker = some running)
    (hfuel : inp.length < fuel) :
    (Proper (receiveMessageWithSizeFirst : Main C Octets) s inp ↔ ¬ NegativeSize inp) ∧
    (∀ msg s', (((receiveMessageWithSizeFirst : Main C Octets) s).exec inp).result = some (.ok msg, s') →
      msg.length < 2 ^ 31 ∧ inp = Octets.be32 msg.length ++ msg ++
        (((receiveMessageWithSizeFirst : Main C Octets) s).exec inp).rest) ∧
    (Proper (initiateOutgoingSession fuel keyPair challenge x) s inp ↔
      ¬ CallerFaulty keyPair challenge.1 x s.callInfo inp) ∧
    (Proper (initiateIncomingSession challenge) s inp ↔ ¬ CalleeFaulty C challenge.1 inp) ∧
    (Proper (acceptCall keyPair x) s inp ↔ ¬ AcceptFaulty keyPair x s.callInfo inp) := by
  have hm : Reads inp.length (receiveMessageWithSizeFirst : Main C Octets) s _ :=
    Words.receiveMessageWithSizeFirst
  obtain ⟨g, ha, hbad⟩ := acceptCall_reads (N := inp.length) keyPair x hworker
  refine ⟨hm.prepared_iff le_rfl, ?_, ?_, ?_, ?_⟩
  · intro msg s' h
    obtain ⟨w, rest, out, msg', s₁, hi, hw⟩ := (hm.returns_iff le_rfl).1 ⟨msg, s', h⟩
    obtain ⟨marks, hx⟩ := hm.complete hw rest (by rw [← hi])
    rw [← hi] at hx
    rw [hx] at h ⊢
    cases h
    obtain ⟨⟨rfl, hl, rfl⟩, -⟩ := hw
    exact ⟨hl, hi⟩
  · exact (initiateOutgoingSession_reads hfuel keyPair challenge x hid).prepared_iff le_rfl
  · exact (initiateIncomingSession_reads (N := inp.length) challenge).prepared_iff le_rfl
  · rw [← hbad]
    exact ha.prepared_iff le_rfl

/-- A message with its size first, and one octet more; and a session that ends with an empty key. -/
theorem proper_iff_sample :
    let s := { sampleCall with keepAliveWorker := some true }
    Proper (receiveMessageWithSizeFirst : Main smallCrypto Octets) s [0, 0, 0, 1, 5, 6] ∧
    ¬ Proper (initiateIncomingSession sampleChallenge : Main smallCrypto Unit) s
      (helloMsg ++ helloAckMsg ++ versionMsg ++ introductionMsg ++ [0, 0, 0, 0]) := by
  intro s
  have hid : s.callInfo.identity = some {} := rfl
  have hshort : ([0, 0, 0, 1, 5, 6] : Octets).length < 7 := by decide
  have hlong : (helloMsg ++ helloAckMsg ++ versionMsg ++ introductionMsg ++ [0, 0, 0, 0]).length < 40 := by decide
  have hmessage := proper_iff ⟨(4 : UInt8), (4 : UInt8)⟩ sampleChallenge 3 hid rfl hshort
  obtain ⟨-, -, -, hsession, -⟩ := proper_iff ⟨(4 : UInt8), (4 : UInt8)⟩ sampleChallenge 3 hid rfl hlong
  refine ⟨hmessage.1.2 (by decide), fun h => hsession.1 h ?_⟩
  exact ⟨versionMsg, [0, 0, 0, 0], rfl, rfl, .inr ⟨[], [], rfl, by decide, .inl rfl⟩⟩

/-- The input `80 00 00 00` where a size is read, and in a handshake, where the key should be; and an empty
key. -/
theorem negative_size_escapes :
    ¬ Proper (receiveMessageWithSizeFirst : Main smallCrypto Octets) {} [0x80, 0, 0, 0] ∧
    ¬ Proper (initiateIncomingSession sampleChallenge : Main smallCrypto Unit) {}
      (helloMsg ++ helloAckMsg ++ versionMsg ++ introductionMsg ++ [0x80, 0, 0, 0]) ∧
    ¬ Proper (initiateIncomingSession sampleChallenge : Main smallCrypto Unit) {}
      (helloMsg ++ helloAckMsg ++ versionMsg ++ introductionMsg ++ [0, 0, 0, 0]) := by
  have hneg : NegativeSize [0x80, 0, 0, 0] := by decide
  refine ⟨?_, ?_, ?_⟩
  · intro h
    exact (Words.receiveMessageWithSizeFirst.prepared_iff le_rfl).1 h hneg
  · intro h
    exact ((initiateIncomingSession_reads sampleChallenge).prepared_iff le_rfl).1 h
      ⟨versionMsg, _, rfl, rfl, .inl hneg⟩
  · intro h
    exact ((initiateIncomingSession_reads sampleChallenge).prepared_iff le_rfl).1 h
      ⟨versionMsg, _, rfl, rfl, .inr ⟨[], [], rfl, by decide, .inl rfl⟩⟩

end Malformed
end OnionPhone
