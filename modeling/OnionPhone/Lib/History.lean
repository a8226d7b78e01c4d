import OnionPhone.Lib.Method
import OnionPhone.Lib.Thread

/-!
# Lib.History

What a program has noted by the time it ends, when whoever is at the other end of its streams does as it
likes.

* `respond`: one step of a program, with a reply of the other end.
* `Leaves Q ms p`: wherever `p` ends, `Q` holds of the events noted until then (`ms` before it starts)
  and of its result. A step keeps it (`Leaves.respond`).
* `Ensures P m Q`: the same as pre- and postcondition of a method, for its normal returns.
* `Leaf f m`: a method that leaves `f` of the fields as it is.
* `watch`: a program against a list of replies, with the events it notes.
* `unmarked`: the program without its notes.
-/

namespace Wire
namespace Proc

variable {ω α β : Type}

def respond : Proc ω α → Reply → Option (Proc ω α × Option ω)
  | .ret _, _ => none
  | .spin, _ => none
  | .mark w k, _ => some (k, some w)
  | .send _ k, r => r.result.map fun ok => (k ok, none)
  | .recv n k, r => (r.octets n).map fun o => (k o, none)

def Leaves (Q : List ω → α → Prop) : List ω → Proc ω α → Prop
  | ms, .ret a => Q ms a
  | _, .spin => True
  | ms, .mark w k => Leaves Q (ms ++ [w]) k
  | ms, .send _ k => ∀ ok, Leaves Q ms (k ok)
  | ms, .recv _ k => ∀ o, Leaves Q ms (k o)

variable {Q R : List ω → α → Prop} {p p' : Proc ω α} {ms : List ω}

theorem Leaves.mono (h : Leaves Q ms p) (hQ : ∀ ms a, Q ms a → R ms a) : Leaves R ms p := by
  induction p generalizing ms with
  | ret a => exact hQ ms a h
  | spin => trivial
  | mark w k ih => exact ih h
  | send bs k ih => exact fun ok => ih ok (h ok)
  | recv n k ih => exact fun o => ih o (h o)

theorem Leaves.bind {S : List ω → β → Prop} {f : α → Proc ω β} (h : Leaves Q ms p)
    (hf : ∀ ms a, Q ms a → Leaves S ms (f a)) : Leaves S ms (p.bind f) := by
  induction p generalizing ms with
  | ret a => exact hf ms a h
  | spin => trivial
  | mark w k ih => exact ih h
  | send bs k ih => exact fun ok => ih ok (h ok)
  | recv n k ih => exact fun o => ih o (h o)

theorem Leaves.respond {r : Reply} {w : Option ω} (h : Leaves Q ms p)
    (hs : p.respond r = some (p', w)) : Leaves Q (ms ++ w.toList) p' := by
  cases p with
  | ret a => cases hs
  | spin => cases hs
  | mark w' k =>
    cases hs
    exact h
  | send bs k =>
    obtain ⟨ok, _, hk⟩ := Option.map_eq_some_iff.1 hs
    cases hk
    rw [Option.toList_none, List.append_nil]
    exact h ok
  | recv n k =>
    obtain ⟨o, _, hk⟩ := Option.map_eq_some_iff.1 hs
    cases hk
    rw [Option.toList_none, List.append_nil]
    exact h o

/-- The events noted against these replies, and the result; `none` when the program spins or waits for a
reply. -/
def watch : Proc ω α → List Reply → List ω × Option α
  | .ret a, _ => ([], some a)
  | .spin, _ => ([], none)
  | .mark w k, rs => (w :: (k.watch rs).1, (k.watch rs).2)
  | .send _ k, r :: rs =>
    match r.result with
    | some ok => (k ok).watch rs
    | none => ([], none)
  | .recv n k, r :: rs =>
    match r.octets n with
    | some o => (k o).watch rs
    | none => ([], none)
  | .send _ _, [] => ([], none)
  | .recv _ _, [] => ([], none)

def unmarked {ω' : Type} : Proc ω α → Proc ω' α
  | .ret a => .ret a
  | .spin => .spin
  | .mark _ k => k.unmarked
  | .send bs k => .send bs fun ok => (k ok).unmarked
  | .recv n k => .recv n fun o => (k o).unmarked

theorem unmarked_bind {ω' : Type} (p : Proc ω α) (f : α → Proc ω β) :
    (p.bind f).unmarked = (p.unmarked : Proc ω' α).bind fun a => (f a).unmarked := by
  induction p with
  | ret a => rfl
  | spin => rfl
  | mark w k ih => exact ih
  | send bs k ih => simp only [bind, unmarked, ih]
  | recv n k ih => simp only [bind, unmarked, ih]

theorem watch_unmarked {ω' : Type} (p : Proc ω α) (rs : List Reply) :
    ((p.unmarked : Proc ω' α).watch rs).2 = (p.watch rs).2 := by
  induction p generalizing rs with
  | ret a => rfl
  | spin => rfl
  | mark w k ih => exact ih rs
  | send bs k ih =>
    cases rs with
    | nil => rfl
    | cons r rs =>
      simp only [unmarked, watch]
      cases r.result with
      | none => rfl
      | some ok => exact ih ok rs
  | recv n k ih =>
    cases rs with
    | nil => rfl
    | cons r rs =>
      simp only [unmarked, watch]
      cases r.octets n with
      | none => rfl
      | some o => exact ih o rs

end Proc

namespace Method

variable {ω ε σ τ α β : Type}

def Ensures (P : List ω → σ → Prop) (m : Method ω ε σ α) (Q : α → List ω → σ → Prop) : Prop :=
  ∀ ms s, P ms s → (m s).Leaves (fun ms' r => ∀ a, r.1 = .ok a → Q a ms' r.2) ms

namespace Ensures

variable {P : List ω → σ → Prop} {Q : α → List ω → σ → Prop} {R : β → List ω → σ → Prop}
  {m : Method ω ε σ α} {f : α → Method ω ε σ β}

theorem pure {a : α} (h : ∀ ms s, P ms s → Q a ms s) : Ensures P (pure a : Method ω ε σ α) Q := by
  intro ms s hP b hb
  cases hb
  exact h ms s hP

theorem throw (e : ε) : Ensures P (throw e : Method ω ε σ α) Q := by
  intro ms s _ b hb
  cases hb

theorem bind (hm : Ensures P m Q) (hf : ∀ a, Ensures (Q a) (f a) R) : Ensures P (m >>= f) R := by
  intro ms s hP
  refine Proc.Leaves.bind (hm ms s hP) ?_
  rintro ms' ⟨r, s'⟩ hr
  cases r with
  | ok a => exact hf a ms' s' (hr a rfl)
  | error e =>
    intro b hb
    cases hb

theorem fields {Q : σ → List ω → σ → Prop} (h : ∀ ms s, P ms s → Q s ms s) :
    Ensures P (fields : Method ω ε σ σ) Q := by
  intro ms s hP b hb
  cases hb
  exact h ms s hP

theorem assign {g : σ → σ} {Q : Unit → List ω → σ → Prop} (h : ∀ ms s, P ms s → Q () ms (g s)) :
    Ensures P (assign g : Method ω ε σ Unit) Q := by
  intro ms s hP b hb
  cases hb
  exact h ms s hP

theorem note {w : ω} {Q : Unit → List ω → σ → Prop} (h : ∀ ms s, P ms s → Q () (ms ++ [w]) s) :
    Ensures P (note w : Method ω ε σ Unit) Q := by
  intro ms s hP b hb
  cases hb
  exact h ms s hP

end Ensures

/-! ## Methods that leave part of the fields alone -/

/-- `f` of the fields is as before, wherever the method ends, and events are only added. -/
def Leaf (f : σ → τ) (m : Method ω ε σ α) : Prop :=
  ∀ ms s, (m s).Leaves (fun ms' r => ms ⊆ ms' ∧ f r.2 = f s) ms

namespace Leaf

variable {f : σ → τ}

theorem pure (a : α) : Leaf f (pure a : Method ω ε σ α) := fun ms _ => ⟨List.Subset.refl ms, rfl⟩

theorem throw (e : ε) : Leaf f (throw e : Method ω ε σ α) := fun ms _ => ⟨List.Subset.refl ms, rfl⟩

theorem spin : Leaf f (spin : Method ω ε σ α) := fun _ _ => trivial

theorem fields : Leaf f (fields : Method ω ε σ σ) := fun ms _ => ⟨List.Subset.refl ms, rfl⟩

theorem assign {g : σ → σ} (h : ∀ s, f (g s) = f s) : Leaf f (assign g : Method ω ε σ Unit) :=
  fun ms s => ⟨List.Subset.refl ms, h s⟩

theorem note (w : ω) : Leaf f (note w : Method ω ε σ Unit) :=
  fun ms _ => ⟨List.subset_append_left ms [w], rfl⟩

theorem write (bs : Octets) {handler : Method ω ε σ Unit} (h : Leaf f handler) :
    Leaf f (write bs handler) := by
  intro ms s ok
  cases ok with
  | true => exact ⟨List.Subset.refl ms, rfl⟩
  | false => exact h ms s

theorem readFully (n : Nat) {handler : Method ω ε σ Octets} (h : Leaf f handler) :
    Leaf f (readFully n handler) := by
  intro ms s o
  cases o with
  | some bs => exact ⟨List.Subset.refl ms, rfl⟩
  | none => exact h ms s

theorem bind {m : Method ω ε σ α} {g : α → Method ω ε σ β} (hm : Leaf f m) (hg : ∀ a, Leaf f (g a)) :
    Leaf f (m >>= g) := by
  intro ms s
  refine Proc.Leaves.bind (hm ms s) ?_
  rintro ms' ⟨r, s'⟩ ⟨hsub, hf⟩
  cases r with
  | ok a =>
    refine Proc.Leaves.mono (hg a ms' s') ?_
    rintro ms'' r ⟨hsub', hf'⟩
    exact ⟨List.Subset.trans hsub hsub', hf'.trans hf⟩
  | error e => exact ⟨hsub, hf⟩

theorem ite {c : Prop} [Decidable c] {m m' : Method ω ε σ α} (h : Leaf f m) (h' : Leaf f m') :
    Leaf f (if c then m else m') := by
  split
  · exact h
  · exact h'

/-- What is said of the events so far and of `f` of the fields stays true. -/
theorem ensures {m : Method ω ε σ α} {P : List ω → τ → Prop} (hm : Leaf f m)
    (hP : ∀ ms ms' t, ms ⊆ ms' → P ms t → P ms' t) :
    Ensures (fun ms s => P ms (f s)) m fun _ ms s => P ms (f s) := by
  intro ms s h
  refine Proc.Leaves.mono (hm ms s) ?_
  rintro ms' r ⟨hsub, hf⟩ a _
  show P ms' (f r.2)
  rw [hf]
  exact hP ms ms' (f s) hsub h

end Leaf

/-! ## Without notes -/

def Unmarks {ω' : Type} (m : Method ω ε σ α) (m' : Method ω' ε σ α) : Prop :=
  ∀ s, (m s).unmarked = m' s

theorem Unmarks.bind {ω' : Type} {m : Method ω ε σ α} {m' : Method ω' ε σ α} {f : α → Method ω ε σ β}
    {f' : α → Method ω' ε σ β} (hm : Unmarks m m') (hf : ∀ a, Unmarks (f a) (f' a)) :
    Unmarks (m >>= f) (m' >>= f') := by
  intro s
  rw [bind_run, bind_run, Proc.unmarked_bind, hm]
  congr 1
  funext r
  obtain ⟨r, s'⟩ := r
  cases r with
  | ok a => exact hf a s'
  | error e => rfl

end Method
end Wire
