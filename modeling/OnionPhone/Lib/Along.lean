import OnionPhone.Lib.Thread

/-!
# Lib.Along

Jobs that only ever move the fields along a relation.

`Along R m`: wherever `m` starts, whatever the world replies and however it ends, the fields at the end
are related by `R` to those at the start. For a preorder there is one rule for each way to build a job, so
it is enough that each access moves along `R`.

`Along.play`: what that says about one run.
-/

namespace Wire
namespace Job

variable {κ ω σ ε α β : Type}

def Along (R : σ → σ → Prop) (m : Job κ ω σ ε α) : Prop :=
  ∀ s, m.Keeps (fun _ => True) (fun _ => R s) (fun _ => R s) s

namespace Along

variable {R : σ → σ → Prop}

theorem play {m : Job κ ω σ ε α} (h : Along R m) {s s' : σ} {r : Except ε α} {rs rs' : List Reply}
    (hp : m.play s rs = some (r, s', rs')) : R s s' := by
  have hend := Thread.Keeps.play (h s) hp
  cases r with
  | ok a => exact hend
  | error e => exact hend

section

variable [Std.Refl R]

theorem pure (a : α) : Along R (pure a : Job κ ω σ ε α) := fun s => Std.Refl.refl s

theorem throw (e : ε) : Along R (throw e : Job κ ω σ ε α) := fun s => Std.Refl.refl s

theorem call (e : ε) : Along R (call e : Job κ ω σ ε Unit) :=
  fun s => Keeps.call (Std.Refl.refl s) (Std.Refl.refl s)

theorem talk {ω' : Type} (ins outs : κ) (label : ω' → ω) (p : Proc ω' α) :
    Along R (talk ins outs label p : Job κ ω σ ε α) := by
  intro s
  refine Keeps.talk trivial ?_
  induction p with
  | ret a => exact Std.Refl.refl s
  | spin => trivial
  | mark w k ih => exact ih
  | send bs k ih => exact fun ok => ih ok
  | recv n k ih => exact fun o => ih o

end

theorem access {w : ω} {f : σ → σ} (h : ∀ s, R s (f s)) : Along R (access w f : Job κ ω σ ε σ) :=
  fun s => ⟨trivial, h s⟩

theorem rescue {m : Job κ ω σ ε α} (h : Along R m) (handler : ε → Option α) :
    Along R (rescue m handler) :=
  fun s => Keeps.rescue (h s) fun _ _ _ hR _ => hR

theorem bind [IsTrans σ R] {m : Job κ ω σ ε α} {f : α → Job κ ω σ ε β} (hm : Along R m)
    (hf : ∀ a, Along R (f a)) : Along R (m >>= f) := by
  intro s
  refine Thread.Keeps.bind (hm s) ?_
  intro r s' hr
  cases r with
  | error e => exact hr
  | ok a =>
    refine Thread.Keeps.mono (hf a s') (fun _ h => h) ?_
    intro r s'' hr'
    cases r with
    | ok b => exact IsTrans.trans s s' s'' hr hr'
    | error e => exact IsTrans.trans s s' s'' hr hr'

end Along
end Job
end Wire
