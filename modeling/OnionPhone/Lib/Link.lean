import OnionPhone.Lib.Proc

/-!
# Lib.Link

Two programs joined by two reliable first-in first-out byte streams.

* `Tick`: one side takes one step, reading at most one octet.
* `Step`: one side takes one move, reading any non-empty part of what is in flight.
* `tick_diamond`: steps of the two sides commute, because what one side writes only ever lands
  behind what the other is about to read.
* `settles`: if one schedule takes the two sides to the end with nothing in flight, then every
  schedule, with every way of cutting the streams, can only go to that same end.

To show that a protocol works under every schedule it is therefore enough to exhibit one schedule.
`Method.Talk` is what such schedules are built from.
-/

namespace Wire

/-- Two programs, with the octets in flight towards each of them. -/
structure Link (ω α β : Type) where
  left : Proc ω α
  right : Proc ω β
  toLeft : Octets
  toRight : Octets

namespace Link

open Proc Relation

variable {ω α β γ δ : Type}

inductive Tick : Link ω α β → Link ω α β → Prop where
  | left {s : Link ω α β} {p : Proc ω α} {q o : Octets} :
      s.left.tick s.toLeft = some (p, q, o) →
      Tick s { s with left := p, toLeft := q, toRight := s.toRight ++ o }
  | right {s : Link ω α β} {p : Proc ω β} {q o : Octets} :
      s.right.tick s.toRight = some (p, q, o) →
      Tick s { s with right := p, toRight := q, toLeft := s.toLeft ++ o }

inductive Step : Link ω α β → Link ω α β → Prop where
  | left {s : Link ω α β} {p : Proc ω α} {q o : Octets} :
      Moves s.left s.toLeft p q o →
      Step s { s with left := p, toLeft := q, toRight := s.toRight ++ o }
  | right {s : Link ω α β} {p : Proc ω β} {q o : Octets} :
      Moves s.right s.toRight p q o →
      Step s { s with right := p, toRight := q, toLeft := s.toLeft ++ o }

theorem Tick.step {s s' : Link ω α β} (h : Tick s s') : Step s s' := by
  cases h with
  | left h => exact .left (.of_tick h)
  | right h => exact .right (.of_tick h)

theorem steps_of_ticks {s s' : Link ω α β} (h : ReflTransGen Tick s s') : ReflTransGen Step s s' := by
  induction h with
  | refl => exact .refl
  | tail _ h ih => exact ih.tail h.step

def swap (s : Link ω α β) : Link ω β α := ⟨s.right, s.left, s.toRight, s.toLeft⟩

theorem Tick.swap {s s' : Link ω α β} (h : Tick s s') : Tick s.swap s'.swap := by
  cases h with
  | left h => exact .right (s := s.swap) h
  | right h => exact .left (s := s.swap) h

theorem ticks_swap {s s' : Link ω α β} (h : ReflTransGen Tick s s') :
    ReflTransGen Tick s.swap s'.swap := by
  induction h with
  | refl => exact .refl
  | tail _ h ih => exact ih.tail h.swap

/-! ## Reads of any size -/

theorem ticks_read (n : Nat) (k : Option Octets → Proc ω α) (r : Proc ω β) (q o : Octets) :
    ∀ (bs : Octets), bs.length ≤ n →
      ReflTransGen Tick ⟨.recv n k, r, bs ++ q, o⟩
        ⟨.recv (n - bs.length) fun x => k (x.map (bs ++ ·)), r, q, o⟩ := by
  intro bs
  induction bs generalizing n k with
  | nil =>
    intro _
    have hk : (fun x : Option Octets => k (x.map ([] ++ ·))) = k := by funext x; simp
    simp only [List.nil_append, List.length_nil, Nat.sub_zero] at hk ⊢
    rw [hk]
  | cons b bs ih =>
    intro h
    obtain ⟨m, rfl⟩ : ∃ m, n = m + 1 := ⟨n - 1, by simp at h; omega⟩
    have hs : Tick (⟨.recv (m + 1) k, r, b :: bs ++ q, o⟩ : Link ω α β)
        ⟨.recv m fun x => k (x.map (b :: ·)), r, bs ++ q, o ++ []⟩ := .left rfl
    rw [List.append_nil] at hs
    have hr := ih m (fun x => k (x.map (b :: ·))) (by simp at h; omega)
    have hk : (fun x : Option Octets => k (((x.map (bs ++ ·)).map (b :: ·)))) =
        fun x => k (x.map (b :: bs ++ ·)) := by
      funext x; cases x <;> rfl
    simp only [hk] at hr
    simpa using ReflTransGen.head hs hr

theorem ticks_of_moves {s : Link ω α β} {p : Proc ω α} {q o : Octets}
    (h : Moves s.left s.toLeft p q o) :
    ReflTransGen Tick s { s with left := p, toLeft := q, toRight := s.toRight ++ o } := by
  obtain ⟨l, r, a, b⟩ := s
  cases h with
  | mark => exact .single (.left rfl)
  | send => exact .single (.left rfl)
  | full => exact .single (.left rfl)
  | read h0 hn => simpa using ticks_read _ _ _ _ _ _ hn

theorem Step.ticks {s s' : Link ω α β} (h : Step s s') : ReflTransGen Tick s s' := by
  cases h with
  | left h => exact ticks_of_moves h
  | right h => exact ticks_swap (ticks_of_moves (s := s.swap) h)

/-! ## Every schedule ends alike -/

theorem tick_diamond {s a b : Link ω α β} (ha : Tick s a) (hb : Tick s b) :
    a = b ∨ ∃ c, Tick a c ∧ Tick b c := by
  cases ha with
  | left ha =>
    cases hb with
    | left hb =>
      rw [ha] at hb
      obtain ⟨rfl, rfl, rfl⟩ : _ = _ ∧ _ = _ ∧ _ = _ := by simpa using hb
      exact .inl rfl
    | right hb => exact .inr ⟨_, .right (tick_append hb _), .left (tick_append ha _)⟩
  | right ha =>
    cases hb with
    | left hb => exact .inr ⟨_, .left (tick_append hb _), .right (tick_append ha _)⟩
    | right hb =>
      rw [ha] at hb
      obtain ⟨rfl, rfl, rfl⟩ : _ = _ ∧ _ = _ ∧ _ = _ := by simpa using hb
      exact .inl rfl

/-- The two sides have returned `a` and `b`, and nothing is in flight. -/
def ended (a : α) (b : β) : Link ω α β := ⟨.ret a, .ret b, [], []⟩

theorem ended_no_tick {a : α} {b : β} {s : Link ω α β} : ¬ Tick (ended a b) s := by
  intro h
  cases h with
  | left h => simp [ended, tick] at h
  | right h => simp [ended, tick] at h

theorem ended_ticks {a : α} {b : β} {s : Link ω α β} (h : ReflTransGen Tick (ended a b) s) :
    s = ended a b := by
  cases h.cases_head with
  | inl h => exact h.symm
  | inr h => obtain ⟨c, hc, _⟩ := h; exact absurd hc ended_no_tick

/-- If some schedule ends, every state any schedule can reach still leads to that end. -/
theorem settles {s s' : Link ω α β} {a : α} {b : β} (he : ReflTransGen Tick s (ended a b))
    (hs : ReflTransGen Step s s') : ReflTransGen Tick s' (ended a b) := by
  have hs' : ReflTransGen Tick s s' := by
    induction hs with
    | refl => exact .refl
    | tail _ h ih => exact ih.trans h.ticks
  have hj : ∀ x y z : Link ω α β, Tick x y → Tick x z →
      ∃ d, ReflGen Tick y d ∧ ReflTransGen Tick z d := by
    intro x y z hy hz
    obtain rfl | ⟨d, hyd, hzd⟩ := tick_diamond hy hz
    · exact ⟨y, .refl, .refl⟩
    · exact ⟨d, .single hyd, .single hzd⟩
  obtain ⟨d, h1, h2⟩ := church_rosser hj he hs'
  rw [ended_ticks h1] at h2
  exact h2

/-- A state that leads to an end has a next step unless it is that end. -/
theorem progress {s : Link ω α β} {a : α} {b : β} (h : ReflTransGen Tick s (ended a b)) :
    s = ended a b ∨ ∃ s', Step s s' := by
  cases h.cases_head with
  | inl h => exact .inl h
  | inr h => obtain ⟨c, hc, _⟩ := h; exact .inr ⟨c, hc.step⟩

theorem left_ret {s : Link ω α β} {a x : α} {b : β} (h : ReflTransGen Tick s (ended a b))
    (hx : s.left = .ret x) : x = a := by
  induction h using ReflTransGen.head_induction_on with
  | refl => simpa [ended] using hx.symm
  | head ht _ ih =>
    cases ht with
    | left ht => rw [hx] at ht; simp [tick] at ht
    | right ht => exact ih hx

theorem right_ret {s : Link ω α β} {a : α} {b y : β} (h : ReflTransGen Tick s (ended a b))
    (hy : s.right = .ret y) : y = b :=
  left_ret (s := s.swap) (ticks_swap h) hy

/-! ## Building a schedule -/

theorem ticks_bind {s s' : Link ω α β} (h : ReflTransGen Tick s s') (f : α → Proc ω γ)
    (g : β → Proc ω δ) :
    ReflTransGen Tick (⟨s.left.bind f, s.right.bind g, s.toLeft, s.toRight⟩ : Link ω γ δ)
      ⟨s'.left.bind f, s'.right.bind g, s'.toLeft, s'.toRight⟩ := by
  induction h with
  | refl => exact .refl
  | tail _ h ih =>
    refine ih.tail ?_
    cases h with
    | left h => exact .left (tick_bind h f)
    | right h => exact .right (tick_bind h g)

theorem ticks_send_left {bs : Octets} {k : Bool → Proc ω α} {r : Proc ω β} {a b : Octets}
    {s : Link ω α β} (h : ReflTransGen Tick ⟨k true, r, a, b ++ bs⟩ s) :
    ReflTransGen Tick ⟨.send bs k, r, a, b⟩ s :=
  .head (.left rfl) h

theorem ticks_mark_left {w : ω} {k : Proc ω α} {r : Proc ω β} {a b : Octets}
    {s : Link ω α β} (h : ReflTransGen Tick ⟨k, r, a, b⟩ s) :
    ReflTransGen Tick ⟨.mark w k, r, a, b⟩ s :=
  .head (.left rfl) (by simpa using h)

theorem ticks_recv_left {bs : Octets} {n : Nat} {k : Option Octets → Proc ω α} {r : Proc ω β}
    {a b : Octets} {s : Link ω α β} (hn : bs.length = n)
    (h : ReflTransGen Tick ⟨k (some bs), r, a, b⟩ s) :
    ReflTransGen Tick ⟨.recv n k, r, bs ++ a, b⟩ s := by
  subst hn
  refine (ticks_read _ k r a b bs le_rfl).trans ?_
  rw [Nat.sub_self]
  exact .head (.left rfl) (by simpa using h)

theorem ticks_send_right {bs : Octets} {l : Proc ω α} {k : Bool → Proc ω β} {a b : Octets}
    {s : Link ω α β} (h : ReflTransGen Tick ⟨l, k true, a ++ bs, b⟩ s) :
    ReflTransGen Tick ⟨l, .send bs k, a, b⟩ s :=
  .head (.right rfl) h

theorem ticks_mark_right {w : ω} {l : Proc ω α} {k : Proc ω β} {a b : Octets}
    {s : Link ω α β} (h : ReflTransGen Tick ⟨l, k, a, b⟩ s) :
    ReflTransGen Tick ⟨l, .mark w k, a, b⟩ s :=
  .head (.right rfl) (by simpa using h)

theorem ticks_recv_right {bs : Octets} {n : Nat} {l : Proc ω α} {k : Option Octets → Proc ω β}
    {a b : Octets} {s : Link ω α β} (hn : bs.length = n)
    (h : ReflTransGen Tick ⟨l, k (some bs), a, b⟩ s) :
    ReflTransGen Tick ⟨l, .recv n k, a, bs ++ b⟩ s :=
  ticks_swap (ticks_recv_left hn (ticks_swap h))

end Link
end Wire
