import OnionPhone.Lib.Octets

/-!
# Lib.Proc

Programs that talk over a byte stream, as trees of their next action.

* `Proc ω α`: read exactly `n` octets, write octets, note an event of type `ω`, return an `α`.
  A read that fails and a write that fails are told to the program, which decides what to do.
* `exec`: such a program against a peer whose octets are all given and then end.
* `tick`: one step of a program whose peer's octets arrive in a queue, one octet at a time.
* `Moves`: the same with reads that take any non-empty part of the queue at once, as `read` of a
  socket does; `Link` shows it to be a run of `tick`s.
-/

namespace Wire

/-- A program over a byte stream. `spin` is a loop that has used up the number of rounds it was
given: it neither returns nor acts. -/
inductive Proc (ω α : Type) where
  | ret (a : α)
  | spin
  | mark (w : ω) (k : Proc ω α)
  /-- Write `bs`; continue with `k true`, or with `k false` when the write failed. -/
  | send (bs : Octets) (k : Bool → Proc ω α)
  /-- Read exactly `n` octets; continue with `k none` when the stream failed or ended before. -/
  | recv (n : Nat) (k : Option Octets → Proc ω α)

namespace Proc

variable {ω α β γ : Type}

def bind : Proc ω α → (α → Proc ω β) → Proc ω β
  | .ret a, f => f a
  | .spin, _ => .spin
  | .mark w k, f => .mark w (k.bind f)
  | .send bs k, f => .send bs fun ok => (k ok).bind f
  | .recv n k, f => .recv n fun o => (k o).bind f

theorem bind_ret (p : Proc ω α) : p.bind ret = p := by
  induction p with
  | ret a => rfl
  | spin => rfl
  | mark w k ih => simp only [bind, ih]
  | send bs k ih => simp only [bind, ih]
  | recv n k ih => simp only [bind, ih]

theorem bind_assoc (p : Proc ω α) (f : α → Proc ω β) (g : β → Proc ω γ) :
    (p.bind f).bind g = p.bind fun a => (f a).bind g := by
  induction p with
  | ret a => rfl
  | spin => rfl
  | mark w k ih => simp only [bind, ih]
  | send bs k ih => simp only [bind, ih]
  | recv n k ih => simp only [bind, ih]

/-! ## Against a fixed input -/

/-- What a program does against a fixed input: its result (`none` if it spins), the input it left
unread, what it wrote, and the events it noted. -/
structure Trace (ω α : Type) where
  result : Option α
  rest : Octets
  sent : Octets
  marks : List ω

/-- Run against an input that ends after `inp`; every write succeeds. -/
def exec : Proc ω α → Octets → Trace ω α
  | .ret a, inp => ⟨some a, inp, [], []⟩
  | .spin, inp => ⟨none, inp, [], []⟩
  | .mark w k, inp => { k.exec inp with marks := w :: (k.exec inp).marks }
  | .send bs k, inp => { (k true).exec inp with sent := bs ++ ((k true).exec inp).sent }
  | .recv n k, inp =>
    if n ≤ inp.length then (k (some (inp.take n))).exec (inp.drop n) else (k none).exec []

/-- Every value the program can return is in `Q`, whatever its reads and writes do. -/
def Returns (Q : α → Prop) : Proc ω α → Prop
  | .ret a => Q a
  | .spin => True
  | .mark _ k => k.Returns Q
  | .send _ k => ∀ ok, (k ok).Returns Q
  | .recv _ k => ∀ o, (k o).Returns Q

theorem Returns.mono {Q R : α → Prop} {p : Proc ω α} (h : p.Returns Q) (hQ : ∀ a, Q a → R a) :
    p.Returns R := by
  induction p with
  | ret a => exact hQ a h
  | spin => trivial
  | mark w k ih => exact ih h
  | send bs k ih => exact fun ok => ih ok (h ok)
  | recv n k ih => exact fun o => ih o (h o)

theorem Returns.bind {Q : α → Prop} {R : β → Prop} {p : Proc ω α} {f : α → Proc ω β}
    (h : p.Returns Q) (hf : ∀ a, Q a → (f a).Returns R) : (p.bind f).Returns R := by
  induction p with
  | ret a => exact hf a h
  | spin => trivial
  | mark w k ih => exact ih h
  | send bs k ih => exact fun ok => ih ok (h ok)
  | recv n k ih => exact fun o => ih o (h o)

/-- Every event the program can note is in `Q`. -/
def Notes (Q : ω → Prop) : Proc ω α → Prop
  | .ret _ => True
  | .spin => True
  | .mark w k => Q w ∧ k.Notes Q
  | .send _ k => ∀ ok, (k ok).Notes Q
  | .recv _ k => ∀ o, (k o).Notes Q

theorem Notes.bind {Q : ω → Prop} {p : Proc ω α} {f : α → Proc ω β} (h : p.Notes Q)
    (hf : ∀ a, (f a).Notes Q) : (p.bind f).Notes Q := by
  induction p with
  | ret a => exact hf a
  | spin => trivial
  | mark w k ih => exact ⟨h.1, ih h.2⟩
  | send bs k ih => exact fun ok => ih ok (h ok)
  | recv n k ih => exact fun o => ih o (h o)

theorem Notes.exec {Q : ω → Prop} {p : Proc ω α} (h : p.Notes Q) (inp : Octets) :
    ∀ w ∈ (p.exec inp).marks, Q w := by
  induction p generalizing inp with
  | ret a => exact fun w hw => nomatch hw
  | spin => exact fun w hw => nomatch hw
  | mark w k ih =>
    intro w' hw'
    rcases List.mem_cons.1 hw' with rfl | hw'
    · exact h.1
    · exact ih h.2 inp w' hw'
  | send bs k ih => exact ih true (h true) inp
  | recv n k ih =>
    rw [Proc.exec]
    split
    · exact ih _ (h _) _
    · exact ih _ (h _) _

/-! ## With octets arriving -/

/-- One step of a program with `q` waiting to be read: the program after it, what is still
waiting, and what it wrote. A read takes one octet; `none` means the program cannot move. -/
def tick : Proc ω α → Octets → Option (Proc ω α × Octets × Octets)
  | .ret _, _ => none
  | .spin, _ => none
  | .mark _ k, q => some (k, q, [])
  | .send bs k, q => some (k true, q, bs)
  | .recv 0 k, q => some (k (some []), q, [])
  | .recv (_ + 1) _, [] => none
  | .recv (n + 1) k, b :: q => some (.recv n fun o => k (o.map (b :: ·)), q, [])

theorem tick_cases {p p' : Proc ω α} {q q' o : Octets} (h : p.tick q = some (p', q', o)) :
    (∃ w, p = .mark w p' ∧ q' = q ∧ o = []) ∨
    (∃ k, p = .send o k ∧ p' = k true ∧ q' = q) ∨
    (∃ k, p = .recv 0 k ∧ p' = k (some []) ∧ q' = q ∧ o = []) ∨
    (∃ n k b, p = .recv (n + 1) k ∧ q = b :: q' ∧
      p' = .recv n (fun x => k (x.map (b :: ·))) ∧ o = []) := by
  cases p with
  | ret a => simp [tick] at h
  | spin => simp [tick] at h
  | mark w k => simp only [tick, Option.some.injEq, Prod.mk.injEq] at h; simp [h]
  | send bs k => simp only [tick, Option.some.injEq, Prod.mk.injEq] at h; simp [h]
  | recv n k =>
    cases n with
    | zero =>
      simp only [tick, Option.some.injEq, Prod.mk.injEq] at h
      obtain ⟨rfl, rfl, rfl⟩ := h
      exact .inr (.inr (.inl ⟨k, rfl, rfl, rfl, rfl⟩))
    | succ n =>
      cases q with
      | nil => simp [tick] at h
      | cons b q => simp only [tick, Option.some.injEq, Prod.mk.injEq] at h; simp [h]

theorem tick_append {p p' : Proc ω α} {q q' o : Octets} (h : p.tick q = some (p', q', o))
    (x : Octets) : p.tick (q ++ x) = some (p', q' ++ x, o) := by
  obtain ⟨w, rfl, rfl, rfl⟩ | ⟨k, rfl, rfl, rfl⟩ | ⟨k, rfl, rfl, rfl, rfl⟩ |
    ⟨n, k, b, rfl, rfl, rfl, rfl⟩ := tick_cases h <;> rfl

theorem tick_bind {p p' : Proc ω α} {q q' o : Octets} (h : p.tick q = some (p', q', o))
    (f : α → Proc ω β) : (p.bind f).tick q = some (p'.bind f, q', o) := by
  obtain ⟨w, rfl, rfl, rfl⟩ | ⟨k, rfl, rfl, rfl⟩ | ⟨k, rfl, rfl, rfl, rfl⟩ |
    ⟨n, k, b, rfl, rfl, rfl, rfl⟩ := tick_cases h <;> rfl

/-- One move of a program with `q` waiting: as `tick`, except that a read takes any non-empty
part `bs` of what is waiting that it still has room for. -/
inductive Moves : Proc ω α → Octets → Proc ω α → Octets → Octets → Prop where
  | mark {w : ω} {k : Proc ω α} {q : Octets} : Moves (.mark w k) q k q []
  | send {bs : Octets} {k : Bool → Proc ω α} {q : Octets} : Moves (.send bs k) q (k true) q bs
  | full {k : Option Octets → Proc ω α} {q : Octets} : Moves (.recv 0 k) q (k (some [])) q []
  | read {n : Nat} {k : Option Octets → Proc ω α} {bs q : Octets} (h0 : 0 < bs.length)
      (hn : bs.length ≤ n) :
      Moves (.recv n k) (bs ++ q) (.recv (n - bs.length) fun o => k (o.map (bs ++ ·))) q []

theorem Moves.of_tick {p p' : Proc ω α} {q q' o : Octets} (h : p.tick q = some (p', q', o)) :
    Moves p q p' q' o := by
  obtain ⟨w, rfl, rfl, rfl⟩ | ⟨k, rfl, rfl, rfl⟩ | ⟨k, rfl, rfl, rfl, rfl⟩ |
    ⟨n, k, b, rfl, rfl, rfl, rfl⟩ := tick_cases h
  · exact .mark
  · exact .send
  · exact .full
  · exact @Moves.read _ _ (n + 1) k [b] q' (by simp) (by simp)

end Proc
end Wire
