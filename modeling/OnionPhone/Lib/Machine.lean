import Mathlib

/-!
# Lib.Machine

Machines whose steps may not be possible, and what holds along their runs.

* `after step n s`: the state after the numbered steps `0, …, n - 1`; `after_inv`: an invariant indexed
  by the number of steps, under which no step fails.
* `run step s as`: the state after the actions `as` of a schedule; `run_inv`: an invariant of every
  schedule that `obeys` a rule about which action may be taken in which state; `run_inv_any`: an invariant
  of every schedule; `always_iff_obeys`: a rule that says exactly which schedules keep to good states.
* `Ahead`: what a state leads to by actions of one kind; `ahead_iff_obeys`: a rule that says exactly which
  schedules keep to states from which these lead nowhere bad.
* `replies step s as`: what a machine answers to the actions `as`; `replies_eq`: machines that stay in step
  answer alike.
-/

namespace Wire

variable {σ α : Type}

def after (step : Nat → σ → Option σ) : Nat → σ → Option σ
  | 0, s => some s
  | n + 1, s => (after step n s).bind (step n)

theorem after_inv {step : Nat → σ → Option σ} (Inv : Nat → σ → Prop) {s : σ} {bound : Nat}
    (hstep : ∀ n s, n < bound → Inv n s → ∃ s', step n s = some s' ∧ Inv (n + 1) s')
    (h0 : Inv 0 s) : ∀ n, n ≤ bound → ∃ s', after step n s = some s' ∧ Inv n s' := by
  intro n
  induction n with
  | zero => intro _; exact ⟨s, rfl, h0⟩
  | succ n ih =>
    intro hn
    obtain ⟨s₁, hs₁, hi⟩ := ih (by omega)
    obtain ⟨s₂, hs₂, hi'⟩ := hstep n s₁ (by omega) hi
    refine ⟨s₂, ?_, hi'⟩
    rw [after, hs₁, Option.bind_some, hs₂]

/-! ## Schedules -/

/-- `none` if some action was not possible. -/
def run (step : α → σ → Option σ) : σ → List α → Option σ
  | s, [] => some s
  | s, a :: as => (step a s).bind (run step · as)

theorem run_append {step : α → σ → Option σ} {as bs : List α} {s s₁ s₂ : σ}
    (h₁ : run step s as = some s₁) (h₂ : run step s₁ bs = some s₂) :
    run step s (as ++ bs) = some s₂ := by
  induction as generalizing s with
  | nil =>
    cases h₁
    exact h₂
  | cons a as ih =>
    obtain ⟨s', hs, hr⟩ := Option.bind_eq_some_iff.1 h₁
    exact Option.bind_eq_some_iff.2 ⟨s', hs, ih hr⟩

/-- Every action of the schedule is taken in a state in which `ok` allows it. -/
def obeys (step : α → σ → Option σ) (ok : σ → α → Bool) : σ → List α → Bool
  | _, [] => true
  | s, a :: as => ok s a &&
    match step a s with
    | some s' => obeys step ok s' as
    | none => true

theorem run_inv {step : α → σ → Option σ} {ok : σ → α → Bool} {Inv : σ → Prop}
    (hstep : ∀ a s s', ok s a = true → Inv s → step a s = some s' → Inv s') {as : List α} :
    ∀ {s s' : σ}, Inv s → obeys step ok s as = true → run step s as = some s' → Inv s' := by
  induction as with
  | nil =>
    intro s s' hi _ hr
    cases hr
    exact hi
  | cons a as ih =>
    intro s s' hi ho hr
    obtain ⟨s₁, h₁, h₂⟩ := Option.bind_eq_some_iff.1 hr
    simp only [obeys, h₁, Bool.and_eq_true] at ho
    exact ih (hstep a s s₁ ho.1 hi h₁) ho.2 h₂

/-- The states on the way are all good just if the schedule obeys the rule: steps that obey it keep the
invariant, which good states follow from, and any other step is possible and leads to a state that is not
good. -/
theorem always_iff_obeys {step : α → σ → Option σ} {ok : σ → α → Bool} {Inv Good : σ → Prop}
    (hstep : ∀ a s s', ok s a = true → Inv s → step a s = some s' → Inv s') (hgood : ∀ s, Inv s → Good s)
    (hbad : ∀ a s, ok s a = false → Inv s → ∃ s', step a s = some s' ∧ ¬ Good s') {as : List α} {s : σ}
    (hi : Inv s) :
    (∀ pre s', pre <+: as → run step s pre = some s' → Good s') ↔ obeys step ok s as = true := by
  constructor
  · intro h
    induction as generalizing s with
    | nil => rfl
    | cons a as ih =>
      have hok : ok s a = true := by
        by_contra hn
        obtain ⟨s', hs, hb⟩ := hbad a s (Bool.eq_false_iff.2 hn) hi
        exact hb (h [a] s' (by simp) (by simp [run, hs]))
      cases hs : step a s with
      | none => simp [obeys, hok, hs]
      | some s' =>
        simp only [obeys, hok, hs, Bool.true_and]
        refine ih (hstep a s s' hok hi hs) ?_
        intro pre s'' hpre hr
        exact h (a :: pre) s'' (List.cons_prefix_cons.2 ⟨rfl, hpre⟩) (by simp [run, hs, hr])
  · intro ho pre s' hpre hr
    obtain ⟨rest, rfl⟩ := hpre
    have hobey : obeys step ok s pre = true := by
      clear hi
      induction pre generalizing s with
      | nil => rfl
      | cons a pre ih =>
        obtain ⟨s₁, h₁, h₂⟩ := Option.bind_eq_some_iff.1 hr
        simp only [List.cons_append, obeys, h₁, Bool.and_eq_true] at ho ⊢
        exact ⟨ho.1, ih h₂ ho.2⟩
    exact hgood s' (run_inv hstep hi hobey hr)

theorem run_inv_any {step : α → σ → Option σ} {Inv : σ → Prop}
    (hstep : ∀ a s s', Inv s → step a s = some s' → Inv s') {as : List α} :
    ∀ {s s' : σ}, Inv s → run step s as = some s' → Inv s' := by
  induction as with
  | nil =>
    intro s s' hi hr
    cases hr
    exact hi
  | cons a as ih =>
    intro s s' hi hr
    obtain ⟨s₁, h₁, h₂⟩ := Option.bind_eq_some_iff.1 hr
    exact ih (hstep a s s₁ hi h₁) h₂

/-! ## What comes next -/

/-- Whatever actions of the kind `own` come next, they lead to good states. -/
def Ahead (step : α → σ → Option σ) (own : α → Bool) (Good : σ → Prop) (s : σ) : Prop :=
  ∀ as s', (∀ a ∈ as, own a = true) → run step s as = some s' → Good s'

theorem Ahead.now {step : α → σ → Option σ} {own : α → Bool} {Good : σ → Prop} {s : σ}
    (h : Ahead step own Good s) : Good s :=
  h [] s (fun _ ha => nomatch ha) rfl

theorem Ahead.next {step : α → σ → Option σ} {own : α → Bool} {Good : σ → Prop} {s s' : σ} {a : α}
    (h : Ahead step own Good s) (ha : own a = true) (hs : step a s = some s') : Ahead step own Good s' := by
  intro as s'' has hr
  refine h (a :: as) s'' ?_ (Option.bind_eq_some_iff.2 ⟨s', hs, hr⟩)
  intro b hb
  obtain rfl | hb := List.mem_cons.1 hb
  · exact ha
  · exact has b hb

theorem obeys_of_own {step : α → σ → Option σ} {ok : σ → α → Bool} {own : α → Bool}
    (hown : ∀ a s, own a = true → ok s a = true) {as : List α} (has : ∀ a ∈ as, own a = true) :
    ∀ s, obeys step ok s as = true := by
  induction as with
  | nil =>
    intro s
    rfl
  | cons a as ih =>
    intro s
    have hrest := ih fun b hb => has b (List.mem_cons_of_mem a hb)
    simp only [obeys, hown a s (has a List.mem_cons_self), Bool.true_and]
    cases step a s with
    | none => rfl
    | some s' => exact hrest s'

/-- As `always_iff_obeys`, when a step against the rule need not be bad at once but only leads to something
bad by actions that the rule always allows. -/
theorem ahead_iff_obeys {step : α → σ → Option σ} {ok : σ → α → Bool} {own : α → Bool} {Inv Good : σ → Prop}
    (hstep : ∀ a s s', ok s a = true → Inv s → step a s = some s' → Inv s') (hgood : ∀ s, Inv s → Good s)
    (hown : ∀ a s, own a = true → ok s a = true)
    (hbad : ∀ a s, ok s a = false → Inv s → ∃ s', step a s = some s' ∧ ¬ Ahead step own Good s')
    {as : List α} {s : σ} (hi : Inv s) :
    (∀ pre s', pre <+: as → run step s pre = some s' → Ahead step own Good s') ↔
      obeys step ok s as = true := by
  refine always_iff_obeys hstep ?_ hbad hi
  intro s₁ h₁ bs s₂ hbs hr
  exact hgood s₂ (run_inv hstep h₁ (obeys_of_own hown hbs s₁) hr)

/-! ## Answers -/

section

variable {τ ρ : Type}

/-- What is answered up to the first action that is not possible. -/
def replies (step : α → σ → Option (ρ × σ)) : σ → List α → List ρ
  | _, [] => []
  | s, a :: as =>
    match step a s with
    | none => []
    | some (r, s') => r :: replies step s' as

theorem replies_eq {step : α → σ → Option (ρ × σ)} {step' : α → τ → Option (ρ × τ)} {R : σ → τ → Prop}
    (h : ∀ a s t, R s t → Option.Rel (fun x y => x.1 = y.1 ∧ R x.2 y.2) (step a s) (step' a t))
    (as : List α) : ∀ {s : σ} {t : τ}, R s t → replies step s as = replies step' t as := by
  induction as with
  | nil =>
    intro s t _
    rfl
  | cons a as ih =>
    intro s t hst
    have hstep := h a s t hst
    simp only [replies]
    generalize step a s = x at hstep ⊢
    generalize step' a t = y at hstep ⊢
    cases hstep with
    | none => rfl
    | some hxy => simp only [hxy.1, ih hxy.2]

end

end Wire
