import OnionPhone.Words

/-!
# OnionPhone.Framing

Messages with their sizes first, one after the other on one stream.

`framing_round_trip`: what `sendMessageWithSizeFirst` writes, `receiveMessageWithSizeFirst` reads, message by
message and not an octet more, however the stream is cut into chunks; a stream that ends earlier is not
enough for as many messages.
-/

namespace OnionPhone
namespace Framing

open Wire Wire.Method Words

variable {ω σ : Type}

def sendAll : List Octets → Method ω Exn σ Unit
  | [] => pure ()
  | msg :: msgs => do
    ProtocolUtils.sendMessageWithSizeFirst msg
    sendAll msgs

def receiveAll : Nat → Method ω Exn σ (List Octets)
  | 0 => pure []
  | n + 1 => do
    let msg ← ProtocolUtils.receiveMessageWithSizeFirst
    let msgs ← receiveAll n
    pure (msg :: msgs)

def written (msgs : List Octets) : Octets :=
  ((sendAll msgs : Method Unit Exn Unit Unit) ()).exec [] |>.sent

theorem written_eq (msgs : List Octets) : written msgs = (msgs.map sized).flatten := by
  have h : ∀ N, Reads N (sendAll msgs : Method Unit Exn Unit Unit) ()
      (.plain () fun w out _ => w = [] ∧ out = (msgs.map sized).flatten) := by
    intro N
    induction msgs with
    | nil => exact (Accepts.pure ()).plain_congr (by simp) fun _ => Iff.rfl
    | cons msg msgs ih =>
      refine (Accepts.plain_bind (sendMessageWithSizeFirst msg) fun _ _ _ _ => ih).plain_congr ?_ ?_
      · simp [Grammar.seq, and_comm]
      · simp [Grammar.seqBad]
  have hword : (Grammar.plain () fun w out (_ : Unit) => w = [] ∧ out = (msgs.map sized).flatten).word []
      (msgs.map sized).flatten () () := ⟨⟨rfl, rfl⟩, rfl⟩
  obtain ⟨marks, hx⟩ := (h 0).complete hword [] (Nat.le_refl 0)
  exact congrArg Proc.Trace.sent hx

/-- The words of `receiveAll`: as many messages with their sizes, all of them of an `int`'s length. -/
def Messages (n : Nat) (w : Octets) (msgs : List Octets) : Prop :=
  msgs.length = n ∧ w = (msgs.map sized).flatten ∧ ∀ msg ∈ msgs, msg.length < 2 ^ 31

theorem receiveAll_reads (n : Nat) {N : Nat} {s : σ} : ∃ B, Reads N (receiveAll n : Method ω Exn σ (List Octets)) s
    (.plain s (fun w out msgs => Messages n w msgs ∧ out = []) B) := by
  induction n with
  | zero =>
    refine ⟨fun _ => False, (Accepts.pure []).plain_congr ?_ fun _ => Iff.rfl⟩
    intro w out msgs
    constructor
    · rintro ⟨⟨hl, rfl, -⟩, rfl⟩
      obtain rfl := List.length_eq_zero_iff.1 hl
      exact ⟨rfl, rfl, rfl⟩
    · rintro ⟨rfl, rfl, rfl⟩
      exact ⟨⟨rfl, rfl, by simp⟩, rfl⟩
  | succ n ih =>
    obtain ⟨B, ih⟩ := ih
    refine ⟨_, (Accepts.plain_bind receiveMessageWithSizeFirst fun _ _ msg _ =>
      ih.plain_bind fun _ _ msgs _ => .pure (msg :: msgs)).plain_congr ?_ fun _ => Iff.rfl⟩
    intro w out msgs
    constructor
    · rintro ⟨⟨hl, rfl, hlt⟩, rfl⟩
      obtain ⟨msg, msgs, rfl⟩ := List.exists_cons_of_length_eq_add_one hl
      have hrest : Messages n (msgs.map sized).flatten msgs :=
        ⟨Nat.succ_inj.1 hl, rfl, fun m hm => hlt m (List.mem_cons_of_mem _ hm)⟩
      exact ⟨_, _, [], [], msg, rfl, rfl, ⟨rfl, hlt msg List.mem_cons_self, rfl⟩,
        _, [], [], [], msgs, by simp, rfl, ⟨hrest, rfl⟩, rfl, rfl, rfl⟩
    · rintro ⟨w₁, w₂, _, _, msg, rfl, rfl, ⟨rfl, hlt, rfl⟩, w₃, w₄, _, _, rest, rfl, rfl,
        ⟨⟨rfl, rfl, hrest⟩, rfl⟩, rfl, rfl, rfl⟩
      refine ⟨⟨rfl, by simp, ?_⟩, rfl⟩
      simpa using ⟨hlt, hrest⟩

theorem framing_round_trip {msgs : List Octets} (h : ∀ msg ∈ msgs, msg.length < 2 ^ 31) (s : σ)
    (trailing : Octets) {chunks : List Octets} (hc : chunks.flatten = written msgs ++ trailing) :
    let receive := (receiveAll msgs.length : Method ω Exn σ (List Octets)) s
    (receive.deliver chunks).1 = some (.ok msgs, s) ∧ (receive.deliver chunks).2.flatten = trailing ∧
    ∀ cut : List Octets, cut.flatten <+: written msgs → cut.flatten ≠ written msgs →
      ∀ got s', (receive.deliver cut).1 ≠ some (.ok got, s') := by
  intro receive
  have hreads : ∀ N, ∃ B, Reads N (receiveAll msgs.length : Method ω Exn σ (List Octets)) s
      (.plain s (fun w out got => Messages msgs.length w got ∧ out = []) B) :=
    fun _ => receiveAll_reads msgs.length
  have hword : Messages msgs.length (written msgs) msgs := ⟨rfl, written_eq msgs, h⟩
  have hall : ∀ rest, ∃ marks, receive.exec (written msgs ++ rest) = ⟨some (.ok msgs, s), rest, [], marks⟩ := by
    intro rest
    obtain ⟨B, hB⟩ := hreads (written msgs ++ rest).length
    exact hB.complete ⟨⟨hword, rfl⟩, rfl⟩ rest (Nat.le_refl _)
  obtain ⟨hres, hrest⟩ := Proc.deliver_eq receive chunks
  obtain ⟨marks, hx⟩ := hall trailing
  rw [hc, hx] at hres hrest
  refine ⟨hres, hrest, ?_⟩
  intro cut hpre hne got s' hgot
  obtain ⟨missing, hm⟩ := hpre
  -- what was read of the cut stream is read of the whole one too, which then leaves nothing unread
  obtain ⟨B, hB⟩ := hreads (written msgs).length
  have hlen : cut.flatten.length ≤ (written msgs).length := by
    rw [← hm, List.length_append]
    omega
  rw [(Proc.deliver_eq receive cut).1] at hgot
  obtain ⟨w, rest, out, a, s₁, hw, hword'⟩ := (hB.returns_iff hlen).1 ⟨got, s', hgot⟩
  have hsplit : written msgs = w ++ (rest ++ missing) := by rw [← hm, hw, List.append_assoc]
  obtain ⟨marks₁, hx₁⟩ := hB.complete hword' (rest ++ missing) (by rw [← hsplit])
  obtain ⟨marks₂, hx₂⟩ := hall []
  rw [List.append_nil, hsplit] at hx₂
  have hnil : rest ++ missing = [] := congrArg Proc.Trace.rest (hx₁.symm.trans hx₂)
  obtain ⟨-, rfl⟩ := List.append_eq_nil_iff.1 hnil
  exact hne (by rw [← hm, List.append_nil])

/-- Three messages, one of them empty, cut in the middle of a size, and two octets after them. -/
theorem framing_round_trip_chunks :
    (((receiveAll 3 : Method Unit Exn Unit (List Octets)) ()).deliver
      [[0, 0], [0, 1, 7, 0, 0, 0], [0, 0, 0, 0, 2, 8], [9, 5, 6]]).1 = some (.ok [[7], [], [8, 9]], ()) ∧
    (((receiveAll 3 : Method Unit Exn Unit (List Octets)) ()).deliver
      [[0, 0], [0, 1, 7, 0, 0, 0], [0, 0, 0, 0, 2, 8], [9, 5, 6]]).2.flatten = [5, 6] := by
  have hmsgs : ∀ msg ∈ ([[7], [], [8, 9]] : List Octets), msg.length < 2 ^ 31 := by decide
  have hchunks : ([[0, 0], [0, 1, 7, 0, 0, 0], [0, 0, 0, 0, 2, 8], [9, 5, 6]] : List Octets).flatten =
      written [[7], [], [8, 9]] ++ [5, 6] := by
    rw [written_eq]
    decide
  have h := framing_round_trip (ω := Unit) hmsgs () [5, 6] hchunks
  exact ⟨h.1, h.2.1⟩

end Framing
end OnionPhone
