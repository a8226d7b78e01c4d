import Mathlib

/-!
# Lib.Loop

Loops that test a flag which others may change.

* `Loop.run`: the trace of a loop and how it ends: not yet, with the flag cleared, or by an exception.
* `Loop.Passes`: rounds that went well, one after the other; `Passes.inv`: what they preserve.
* `Loop.run_cases`: all the ways in which a run comes out.
-/

namespace Wire

/-- Until the test number `i` the state is changed by others, `before i`; a round gives a trace, and a new
state or an exception. -/
structure Loop (σ ε α : Type) where
  before : Nat → σ → σ
  running : σ → Bool
  round : Nat → σ → List α × Except ε σ

namespace Loop

variable {σ ε α : Type}

/-- `none`: the loop has used up its rounds. -/
def run (l : Loop σ ε α) : Nat → Nat → σ → List α × Option (Except ε σ)
  | 0, _, _ => ([], none)
  | fuel + 1, i, s =>
    if l.running (l.before i s) then
      match l.round i (l.before i s) with
      | (trace, .error e) => (trace, some (.error e))
      | (trace, .ok s') => (trace ++ (l.run fuel (i + 1) s').1, (l.run fuel (i + 1) s').2)
    else ([], some (.ok (l.before i s)))

/-- From the beginning of one round to that of another, through all the tests in between. -/
inductive Passes (l : Loop σ ε α) : Nat → σ → Nat → σ → Prop where
  | refl {i : Nat} {s : σ} : Passes l i s i s
  | round {i j : Nat} {s s' t : σ} : l.running (l.before i s) = true →
      (l.round i (l.before i s)).2 = .ok s' → Passes l (i + 1) s' j t → Passes l i s j t

theorem Passes.inv {l : Loop σ ε α} (Inv : Nat → σ → Prop)
    (hround : ∀ i s s', Inv i s → l.running (l.before i s) = true →
      (l.round i (l.before i s)).2 = .ok s' → Inv (i + 1) s')
    {i j : Nat} {s t : σ} (h : Passes l i s j t) (hi : Inv i s) : Inv j t := by
  induction h with
  | refl => exact hi
  | round htest hr _ ih => exact ih (hround _ _ _ hi htest hr)

inductive Outcome (l : Loop σ ε α) (i : Nat) (s : σ) (fuel : Nat) : Option (Except ε σ) → Prop where
  | unfinished {t : σ} : Passes l i s (i + fuel) t → Outcome l i s fuel none
  | stopped {j : Nat} {t : σ} : Passes l i s j t → l.running (l.before j t) = false →
      Outcome l i s fuel (some (.ok (l.before j t)))
  | thrown {j : Nat} {t : σ} {e : ε} : Passes l i s j t → l.running (l.before j t) = true →
      (l.round j (l.before j t)).2 = .error e → Outcome l i s fuel (some (.error e))

theorem run_cases (l : Loop σ ε α) (fuel i : Nat) (s : σ) : Outcome l i s fuel (l.run fuel i s).2 := by
  induction fuel generalizing i s with
  | zero => exact .unfinished .refl
  | succ f ih =>
    rw [run]
    cases htest : l.running (l.before i s) with
    | false => exact .stopped .refl htest
    | true =>
      rw [if_pos rfl]
      cases hr : l.round i (l.before i s) with
      | mk trace r =>
        have hr2 : (l.round i (l.before i s)).2 = r := by rw [hr]
        cases r with
        | error e => exact .thrown .refl htest hr2
        | ok s' =>
          have hrest := ih (i + 1) s'
          generalize (l.run f (i + 1) s').2 = o at hrest
          cases hrest with
          | unfinished hp =>
            rw [Nat.add_right_comm] at hp
            exact .unfinished (.round htest hr2 hp)
          | stopped hp hstop => exact .stopped (.round htest hr2 hp) hstop
          | thrown hp hgo he => exact .thrown (.round htest hr2 hp) hgo he

end Loop

end Wire
