import OnionPhone.Lib.Link

/-!
# Lib.Method

Methods: programs over a byte stream that also update an object and may throw.

`Method ω ε σ α` takes the object's fields `σ` and ends with a value or an exception, in either
case with the fields as they are then: what was assigned before a `throw` stays assigned.

`Talk` relates a method of each side of a `Link`: some schedule takes both to a normal return
with nothing in flight. Dialogues are put together from it (`Talk.bind`), and `Link.settles` then
speaks about every schedule.
-/

namespace Wire

def Method (ω ε σ α : Type) : Type := σ → Proc ω (Except ε α × σ)

namespace Method

variable {ω ε σ τ α β γ δ : Type}

/-- Continue after a normal return; an exception ends the method. -/
def cont (f : α → Method ω ε σ β) : Except ε α × σ → Proc ω (Except ε β × σ)
  | (.ok a, s) => f a s
  | (.error e, s) => .ret (.error e, s)

instance : Monad (Method ω ε σ) where
  pure a := fun s => .ret (.ok a, s)
  bind p f := fun s => (p s).bind (cont f)

def throw (e : ε) : Method ω ε σ α := fun s => .ret (.error e, s)

def fields : Method ω ε σ σ := fun s => .ret (.ok s, s)

def assign (f : σ → σ) : Method ω ε σ Unit := fun s => .ret (.ok (), f s)

def note (w : ω) : Method ω ε σ Unit := fun s => .mark w (.ret (.ok (), s))

/-- Write `bs`; an `IOException` is handed to `handler`. -/
def write (bs : Octets) (handler : Method ω ε σ Unit) : Method ω ε σ Unit :=
  fun s => .send bs fun ok => if ok then .ret (.ok (), s) else handler s

/-- Read exactly `n` octets; an `IOException` is handed to `handler`. -/
def readFully (n : Nat) (handler : Method ω ε σ Octets) : Method ω ε σ Octets :=
  fun s => .recv n fun
    | some bs => .ret (.ok bs, s)
    | none => handler s

def spin : Method ω ε σ α := fun _ => .spin

def onFst (p : Method ω ε σ α) : Method ω ε (σ × τ) α :=
  fun s => (p s.1).bind fun r => .ret (r.1, (r.2, s.2))

def onSnd (p : Method ω ε τ α) : Method ω ε (σ × τ) α :=
  fun s => (p s.2).bind fun r => .ret (r.1, (s.1, r.2))

theorem bind_run (p : Method ω ε σ α) (f : α → Method ω ε σ β) (s : σ) :
    (p >>= f) s = (p s).bind (cont f) := rfl

@[simp] theorem pure_bind_run (a : α) (f : α → Method ω ε σ β) :
    (pure a >>= f : Method ω ε σ β) = f a := rfl

@[simp] theorem fields_bind_run (f : σ → Method ω ε σ β) (s : σ) :
    (fields >>= f) s = f s s := rfl

@[simp] theorem assign_bind_run (g : σ → σ) (f : Unit → Method ω ε σ β) (s : σ) :
    (assign g >>= f) s = f () (g s) := rfl

theorem bind_assoc_run (p : Method ω ε σ α) (f : α → Method ω ε σ β) (g : β → Method ω ε σ γ) :
    p >>= f >>= g = p >>= fun a => f a >>= g := by
  funext s
  simp only [bind_run, Proc.bind_assoc]
  congr 1
  funext r
  obtain ⟨r, s'⟩ := r
  cases r <;> rfl

/-! ## Exceptions -/

/-- Every exception the method can end with is in `P`. -/
def Throws (P : ε → Prop) (m : Method ω ε σ α) : Prop :=
  ∀ s, (m s).Returns fun r => ∀ e, r.1 = .error e → P e

namespace Throws

variable {P : ε → Prop}

theorem pure (a : α) : Throws P (pure a : Method ω ε σ α) := by
  intro s e h
  cases h

theorem throw {e : ε} (h : P e) : Throws P (throw e : Method ω ε σ α) := by
  intro s e' h'
  cases h'
  exact h

theorem bind {m : Method ω ε σ α} {f : α → Method ω ε σ β} (hm : Throws P m)
    (hf : ∀ a, Throws P (f a)) : Throws P (m >>= f) := by
  intro s
  refine Proc.Returns.bind (hm s) ?_
  rintro ⟨r, s'⟩ hr
  cases r with
  | ok a => exact hf a s'
  | error e =>
    intro e' h
    cases h
    exact hr e rfl

theorem fields : Throws P (fields : Method ω ε σ σ) := by
  intro s e h
  cases h

theorem assign (f : σ → σ) : Throws P (assign f : Method ω ε σ Unit) := by
  intro s e h
  cases h

theorem note (w : ω) : Throws P (note w : Method ω ε σ Unit) := by
  intro s e h
  cases h

theorem write (bs : Octets) {handler : Method ω ε σ Unit} (h : Throws P handler) :
    Throws P (write bs handler) := by
  intro s ok
  cases ok with
  | true => exact Throws.pure () s
  | false => exact h s

theorem readFully (n : Nat) {handler : Method ω ε σ Octets} (h : Throws P handler) :
    Throws P (readFully n handler) := by
  intro s o
  cases o with
  | some bs => exact Throws.pure bs s
  | none => exact h s

theorem spin : Throws P (spin : Method ω ε σ α) := fun _ => trivial

theorem ite {c : Prop} [Decidable c] {m m' : Method ω ε σ α} (h : Throws P m) (h' : Throws P m') :
    Throws P (if c then m else m') := by
  split
  · exact h
  · exact h'

end Throws

/-! ## Events -/

/-- Every event the method can note is in `Q`. -/
def Notes (Q : ω → Prop) (m : Method ω ε σ α) : Prop := ∀ s, (m s).Notes Q

namespace Notes

variable {Q : ω → Prop}

theorem pure (a : α) : Notes Q (pure a : Method ω ε σ α) := fun _ => trivial

theorem throw (e : ε) : Notes Q (throw e : Method ω ε σ α) := fun _ => trivial

theorem bind {m : Method ω ε σ α} {f : α → Method ω ε σ β} (hm : Notes Q m)
    (hf : ∀ a, Notes Q (f a)) : Notes Q (m >>= f) := by
  intro s
  refine (hm s).bind ?_
  rintro ⟨r, s'⟩
  cases r with
  | ok a => exact hf a s'
  | error e => trivial

theorem assign (f : σ → σ) : Notes Q (assign f : Method ω ε σ Unit) := fun _ => trivial

theorem note {w : ω} (h : Q w) : Notes Q (note w : Method ω ε σ Unit) := fun _ => ⟨h, trivial⟩

theorem write (bs : Octets) {handler : Method ω ε σ Unit} (h : Notes Q handler) :
    Notes Q (write bs handler) := by
  intro s ok
  cases ok with
  | true => trivial
  | false => exact h s

theorem readFully (n : Nat) {handler : Method ω ε σ Octets} (h : Notes Q handler) :
    Notes Q (readFully n handler) := by
  intro s o
  cases o with
  | some bs => trivial
  | none => exact h s

theorem ite {c : Prop} [Decidable c] {m m' : Method ω ε σ α} (h : Notes Q m) (h' : Notes Q m') :
    Notes Q (if c then m else m') := by
  split
  · exact h
  · exact h'

end Notes

/-! ## Dialogues -/

open Link Relation

/-- Some schedule takes `p` from `s` and `q` from `t` to normal returns `a` and `b`, with fields
`s'` and `t'` and nothing in flight. -/
def Talk (p : Method ω ε σ α) (s : σ) (q : Method ω ε τ β) (t : τ) (a : α) (s' : σ) (b : β)
    (t' : τ) : Prop :=
  ReflTransGen Tick ⟨p s, q t, [], []⟩ (ended (.ok a, s') (.ok b, t'))

namespace Talk

variable {p : Method ω ε σ α} {q : Method ω ε τ β} {s s' s'' : σ} {t t' t'' : τ}

theorem swap {a : α} {b : β} (h : Talk p s q t a s' b t') : Talk q t p s b t' a s' :=
  ticks_swap h

theorem pure (a : α) (b : β) : Talk (pure a : Method ω ε σ α) s (pure b : Method ω ε τ β) t a s b t :=
  .refl

theorem bind {a : α} {b : β} {f : α → Method ω ε σ γ} {g : β → Method ω ε τ δ} {c : γ} {d : δ}
    (h : Talk p s q t a s' b t') (hk : Talk (f a) s' (g b) t' c s'' d t'') :
    Talk (p >>= f) s (q >>= g) t c s'' d t'' :=
  (ticks_bind h (cont f) (cont g)).trans hk

theorem go_right {a : α} {b : β} {g : β → Method ω ε τ δ} {d : δ}
    (h : Talk p s q t a s' b t')
    (hg : Talk (Pure.pure a : Method ω ε σ α) s' (g b) t' a s' d t'') :
    Talk p s (q >>= g) t a s' d t'' := by
  have hb := ticks_bind h .ret (cont g)
  simp only [Proc.bind_ret] at hb
  exact hb.trans hg

theorem then_right {a : α} {b : β} {g : β → Method ω ε τ δ} {d : δ}
    (h : Talk p s q t a s' b t') (hg : g b t' = .ret (.ok d, t'')) :
    Talk p s (q >>= g) t a s' d t'' := by
  refine h.go_right ?_
  unfold Talk
  rw [hg]
  exact .refl

theorem then_left {a : α} {b : β} {f : α → Method ω ε σ γ} {c : γ}
    (h : Talk p s q t a s' b t') (hf : f a s' = .ret (.ok c, s'')) :
    Talk (p >>= f) s q t c s'' b t' :=
  (h.swap.then_right hf).swap

theorem note_left {w : ω} {f : Unit → Method ω ε σ γ} {c : γ} {b : β}
    (h : Talk (f ()) s q t c s' b t') : Talk (note w >>= f) s q t c s' b t' :=
  ticks_mark_left h

theorem note_right {w : ω} {g : Unit → Method ω ε τ δ} {a : α} {d : δ}
    (h : Talk p s (g ()) t a s' d t') : Talk p s (note w >>= g) t a s' d t' :=
  ticks_mark_right h

theorem onFst {σ₂ τ₂ : Type} {u : σ₂} {v : τ₂} {a : α} {b : β} (h : Talk p s q t a s' b t') :
    Talk (p.onFst (τ := σ₂)) (s, u) (q.onFst (τ := τ₂)) (t, v) a (s', u) b (t', v) :=
  ticks_bind h (fun r => .ret (r.1, (r.2, u))) (fun r => .ret (r.1, (r.2, v)))

theorem onSnd {σ₂ τ₂ : Type} {u : σ₂} {v : τ₂} {a : α} {b : β} (h : Talk p s q t a s' b t') :
    Talk (p.onSnd (σ := σ₂)) (u, s) (q.onSnd (σ := τ₂)) (v, t) a (u, s') b (v, t') :=
  ticks_bind h (fun r => .ret (r.1, (u, r.2))) (fun r => .ret (r.1, (v, r.2)))

theorem write_read (bs : Octets) {n : Nat} (hn : bs.length = n) (c₁ : Method ω ε σ Unit)
    (c₂ : Method ω ε τ Octets) :
    Talk (write bs c₁) s (readFully n c₂) t () s bs t := by
  refine ticks_send_left ?_
  have h : ([] ++ bs : Octets) = bs ++ [] := by simp
  rw [h]
  exact ticks_recv_right hn .refl

end Talk
end Method
end Wire
