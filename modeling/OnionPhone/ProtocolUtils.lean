import OnionPhone.Common

/-!
# OnionPhone.ProtocolUtils

`org.theonionphone.utils.ProtocolUtils`: fixed messages and messages with their size first.
-/

namespace OnionPhone
namespace ProtocolUtils

open Wire Wire.Method Wire.Link

variable {ω σ τ : Type}

/-- The array loop: lengths first, then one pass. -/
def compareIfIdentical : Octets → Octets → Bool
  | [], [] => true
  | a :: as, b :: bs => if a ≠ b then false else compareIfIdentical as bs
  | _, _ => false

theorem compareIfIdentical_iff (as bs : Octets) : compareIfIdentical as bs = true ↔ as = bs := by
  induction as generalizing bs with
  | nil => cases bs <;> simp [compareIfIdentical]
  | cons a as ih =>
    cases bs with
    | nil => simp [compareIfIdentical]
    | cons b bs =>
      by_cases h : a = b
      · simp [compareIfIdentical, h, ih]
      · simp [compareIfIdentical, h]

@[simp] theorem compareIfIdentical_self (as : Octets) : compareIfIdentical as as = true :=
  (compareIfIdentical_iff as as).2 rfl

def sendMessage (msg : Octets) : Method ω Exn σ Unit :=
  write msg (throw (.mainProtocol "error while sending message"))

def sendMessageWithSizeFirst (msg : Octets) : Method ω Exn σ Unit := do
  write (Octets.be32 msg.length) (throw (.mainProtocol "error while sending message size"))
  sendMessage msg

def receiveMessageInto (size : Nat) : Method ω Exn σ Octets :=
  readFully size (throw (.mainProtocol "error while receiving message"))

def receiveSpecificMessage (msg : Octets) : Method ω Exn σ Unit := do
  let receivedMsg ← receiveMessageInto msg.length
  if !compareIfIdentical msg receivedMsg then
    throw (.mainProtocol "received wrong message")
  else
    pure ()

def toInt (n : Nat) : Int := if n < 2 ^ 31 then n else (n : Int) - 2 ^ 32

/-- `new byte[size]`, filled from the stream. -/
def receiveMessageOfSize : Int → Method ω Exn σ Octets
  | .ofNat n => receiveMessageInto n
  | .negSucc _ => throw .negativeArraySize

def receiveMessageWithSizeFirst : Method ω Exn σ Octets := do
  let size ← readFully 4 (throw (.mainProtocol "error while receiving message size"))
  receiveMessageOfSize (toInt (Octets.ofBe size))

/-! ## Dialogues -/

section

variable {s : σ} {t : τ}

theorem sendMessage_receiveMessageInto {msg : Octets} {n : Nat} (h : msg.length = n) :
    Talk (sendMessage msg : Method ω Exn σ Unit) s (receiveMessageInto n) t () s msg t :=
  Talk.write_read msg h _ _

theorem sendMessage_receiveSpecificMessage (msg : Octets) :
    Talk (sendMessage msg : Method ω Exn σ Unit) s (receiveSpecificMessage msg) t () s () t :=
  (sendMessage_receiveMessageInto rfl).then_right (by simp; rfl)

theorem toInt_of_lt {n : Nat} (h : n < 2 ^ 31) : toInt n = Int.ofNat n := by
  rw [toInt, if_pos h]; rfl

theorem receiveMessageOfSize_length {msg : Octets} (h : msg.length < 2 ^ 31) :
    (receiveMessageOfSize (toInt (Octets.ofBe (Octets.be32 msg.length))) : Method ω Exn σ Octets) =
      receiveMessageInto msg.length := by
  rw [Octets.ofBe_be32_of_lt (by omega), toInt_of_lt h]
  rfl

theorem sendMessageWithSizeFirst_receive {msg : Octets} (h : msg.length < 2 ^ 31) :
    Talk (sendMessageWithSizeFirst msg : Method ω Exn σ Unit) s receiveMessageWithSizeFirst t
      () s msg t := by
  refine Talk.bind (Talk.write_read _ (Octets.be32_length _) _ _) ?_
  rw [receiveMessageOfSize_length h]
  exact sendMessage_receiveMessageInto rfl

/-- Both sides send a sized message before either reads: the two cross in flight. -/
theorem sizedMessages_cross {γ δ : Type} {m₁ m₂ : Octets} (h₁ : m₁.length < 2 ^ 31)
    (h₂ : m₂.length < 2 ^ 31) {f : Octets → Method ω Exn σ γ} {g : Octets → Method ω Exn τ δ}
    {c : γ} {d : δ} {s' : σ} {t' : τ} (hk : Talk (f m₂) s (g m₁) t c s' d t') :
    Talk (do sendMessageWithSizeFirst m₁; let m ← receiveMessageWithSizeFirst; f m) s
      (do sendMessageWithSizeFirst m₂; let m ← receiveMessageWithSizeFirst; g m) t c s' d t' := by
  refine ticks_send_left (ticks_send_left (ticks_send_right (ticks_send_right ?_)))
  simp only [List.nil_append]
  refine ticks_recv_left (Octets.be32_length m₂.length) ?_
  refine ticks_recv_right (Octets.be32_length m₁.length) ?_
  show Relation.ReflTransGen Tick
    ⟨(receiveMessageOfSize (toInt (Octets.ofBe (Octets.be32 m₂.length))) >>= f) s,
      (receiveMessageOfSize (toInt (Octets.ofBe (Octets.be32 m₁.length))) >>= g) t, m₂, m₁⟩ _
  rw [receiveMessageOfSize_length h₁, receiveMessageOfSize_length h₂]
  have hr : Relation.ReflTransGen Tick ⟨(receiveMessageInto m₂.length >>= f) s,
      (receiveMessageInto m₁.length >>= g) t, m₂ ++ [], m₁ ++ []⟩
      (ended (.ok c, s') (.ok d, t')) :=
    ticks_recv_left rfl (ticks_recv_right rfl hk)
  rw [List.append_nil, List.append_nil] at hr
  exact hr

end

end ProtocolUtils
end OnionPhone
