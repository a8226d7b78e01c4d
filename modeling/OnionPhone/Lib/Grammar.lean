import OnionPhone.Lib.Method
import OnionPhone.Lib.Stream

/-!
# Lib.Grammar

What a method accepts, against an input that is given as a whole and then ends. How such an input is cut
into chunks makes no difference (`deliver_eq`).

* `Grammar`: the words a method reads to the end of which it returns, with what it writes meanwhile,
  what it returns and the fields it leaves; the inputs it is not prepared for; the fields it may leave
  when it throws.
* `Accepts`: the method does just that, in both directions. A word is read and not an octet more;
  on an input that begins with no word the method throws.

Loops that are given a number of rounds accept their grammar on inputs of at most `N` octets, with
enough rounds for `N`.
-/

namespace Wire
namespace Proc

variable {ω α β : Type}

theorem exec_bind (p : Proc ω α) (f : α → Proc ω β) (inp : Octets) :
    (p.bind f).exec inp =
      match (p.exec inp).result with
      | none => ⟨none, (p.exec inp).rest, (p.exec inp).sent, (p.exec inp).marks⟩
      | some a =>
        let t := (f a).exec (p.exec inp).rest
        ⟨t.result, t.rest, (p.exec inp).sent ++ t.sent, (p.exec inp).marks ++ t.marks⟩ := by
  induction p generalizing inp with
  | ret a => simp [bind, exec]
  | spin => rfl
  | mark w k ih =>
    simp only [bind, exec, ih]
    cases (k.exec inp).result <;> simp
  | send bs k ih =>
    simp only [bind, exec, ih]
    cases ((k true).exec inp).result <;> simp
  | recv n k ih =>
    simp only [bind, exec, ih]
    split <;> rfl

/-- Run against a stream that delivers chunks and then ends: the result, and the chunks left unread. -/
def deliver : Proc ω α → List Octets → Option α × List Octets
  | .ret a, cs => (some a, cs)
  | .spin, cs => (none, cs)
  | .mark _ k, cs => k.deliver cs
  | .send _ k, cs => (k true).deliver cs
  | .recv n k, cs =>
    match readFully n cs with
    | some (bs, rest) => (k (some bs)).deliver rest
    | none => (k none).deliver []

theorem deliver_eq (p : Proc ω α) (cs : List Octets) :
    (p.deliver cs).1 = (p.exec cs.flatten).result ∧ (p.deliver cs).2.flatten = (p.exec cs.flatten).rest := by
  induction p generalizing cs with
  | ret a => exact ⟨rfl, rfl⟩
  | spin => exact ⟨rfl, rfl⟩
  | mark w k ih => exact ih cs
  | send bs k ih => exact ih true cs
  | recv n k ih =>
    by_cases hn : n ≤ cs.flatten.length
    · obtain ⟨rest, hr, hf⟩ := readFully_append (List.take_append_drop n cs.flatten).symm
        (List.length_take_of_le hn)
      simp only [deliver, exec, hr, if_pos hn, ← hf]
      exact ih _ rest
    · simp only [deliver, exec, readFully_short (Nat.lt_of_not_le hn), if_neg hn]
      exact ih none []

end Proc

namespace Method

variable {ω ε σ α β : Type}

structure Grammar (σ α : Type) where
  /-- It reads `w`, writes `out`, and returns `a` with the fields `s`. -/
  word (w out : Octets) (a : α) (s : σ) : Prop
  /-- The inputs it is not prepared for. -/
  bad (inp : Octets) : Prop
  /-- The fields it may leave when it throws on an input. -/
  left (inp : Octets) (s : σ) : Prop

namespace Grammar

/-- Leaves the fields alone, also when it throws. -/
def plain (s : σ) (word : Octets → Octets → α → Prop) (bad : Octets → Prop := fun _ => False) :
    Grammar σ α where
  word w out a s' := word w out a ∧ s' = s
  bad := bad
  left _ s' := s' = s

/-- Neither reads nor writes, and ends with the fields `s`. -/
def becomes (s : σ) : Grammar σ Unit where
  word w out _ s' := w = [] ∧ out = [] ∧ s' = s
  bad _ := False
  left _ _ := False

def bind (g : Grammar σ α) (h : α → σ → Grammar σ β) : Grammar σ β where
  word w out b s' := ∃ w₁ w₂ out₁ out₂ a s₁, w = w₁ ++ w₂ ∧ out = out₁ ++ out₂ ∧
    g.word w₁ out₁ a s₁ ∧ (h a s₁).word w₂ out₂ b s'
  bad inp := g.bad inp ∨ ∃ w rest out a s₁, inp = w ++ rest ∧ g.word w out a s₁ ∧ (h a s₁).bad rest
  left inp s' := g.left inp s' ∨
    ∃ w rest out a s₁, inp = w ++ rest ∧ g.word w out a s₁ ∧ (h a s₁).left rest s'

/-- The words of two methods one after the other, where neither touches the fields. -/
def seq (W : Octets → Octets → α → Prop) (V : α → Octets → Octets → β → Prop) (w out : Octets)
    (b : β) : Prop :=
  ∃ w₁ w₂ out₁ out₂ a, w = w₁ ++ w₂ ∧ out = out₁ ++ out₂ ∧ W w₁ out₁ a ∧ V a w₂ out₂ b

def seqBad (W : Octets → Octets → α → Prop) (B : Octets → Prop) (D : α → Octets → Prop)
    (inp : Octets) : Prop :=
  B inp ∨ ∃ w rest out a, inp = w ++ rest ∧ W w out a ∧ D a rest

end Grammar

/-- Started with the fields `s`, the method accepts just the words of `g`. On all other inputs it
throws; the exception is not in `P` just if the input is bad. -/
structure Accepts (N : Nat) (P : ε → Prop) (m : Method ω ε σ α) (s : σ) (g : Grammar σ α) : Prop where
  complete : ∀ {w out : Octets} {a : α} {s' : σ}, g.word w out a s' → ∀ rest,
    (w ++ rest).length ≤ N → ∃ marks, (m s).exec (w ++ rest) = ⟨some (.ok a, s'), rest, out, marks⟩
  stumbles : ∀ {inp : Octets}, g.bad inp → inp.length ≤ N →
    ∃ e s', ((m s).exec inp).result = some (.error e, s') ∧ ¬ P e
  total : ∀ inp : Octets, inp.length ≤ N →
    (∃ w rest out a s', inp = w ++ rest ∧ g.word w out a s') ∨
    ∃ e s', ((m s).exec inp).result = some (.error e, s') ∧ g.left inp s' ∧ (P e ∨ g.bad inp)

namespace Accepts

variable {N : Nat} {P : ε → Prop} {m : Method ω ε σ α} {s : σ} {g : Grammar σ α}

/-! ## How a method ends -/

theorem returns_iff (h : Accepts N P m s g) {inp : Octets} (hN : inp.length ≤ N) :
    (∃ a s', ((m s).exec inp).result = some (.ok a, s')) ↔
      ∃ w rest out a s', inp = w ++ rest ∧ g.word w out a s' := by
  constructor
  · rintro ⟨a, s', hr⟩
    obtain hw | ⟨e, s₁, he, -⟩ := h.total inp hN
    · exact hw
    · rw [hr] at he
      cases he
  · rintro ⟨w, rest, out, a, s', rfl, hw⟩
    obtain ⟨marks, hx⟩ := h.complete hw rest hN
    exact ⟨a, s', by rw [hx]⟩

theorem prepared_iff (h : Accepts N P m s g) {inp : Octets} (hN : inp.length ≤ N) :
    (∃ r s', ((m s).exec inp).result = some (r, s') ∧ ∀ e, r = .error e → P e) ↔ ¬ g.bad inp := by
  constructor
  · rintro ⟨r, s', hr, hP⟩ hb
    obtain ⟨e, s₁, he, hne⟩ := h.stumbles hb hN
    rw [hr] at he
    cases he
    exact hne (hP e rfl)
  · intro hb
    obtain ⟨w, rest, out, a, s', rfl, hw⟩ | ⟨e, s', he, -, hP | hb'⟩ := h.total inp hN
    · obtain ⟨marks, hx⟩ := h.complete hw rest hN
      refine ⟨.ok a, s', by rw [hx], ?_⟩
      intro e h
      cases h
    · refine ⟨.error e, s', he, ?_⟩
      intro e' h
      cases h
      exact hP
    · exact absurd hb' hb

/-! ## Rules -/

theorem mono (h : Accepts N P m s g) {M : Nat} (hM : M ≤ N) : Accepts M P m s g where
  complete := fun hw rest hN => h.complete hw rest (hN.trans hM)
  stumbles := fun hb hN => h.stumbles hb (hN.trans hM)
  total := fun inp hN => h.total inp (hN.trans hM)

theorem of_run (h : Accepts N P m s g) {m' : Method ω ε σ α} (hr : m' s = m s) :
    Accepts N P m' s g where
  complete := hr ▸ h.complete
  stumbles := hr ▸ h.stumbles
  total := hr ▸ h.total

theorem congr (h : Accepts N P m s g) {g' : Grammar σ α}
    (hw : ∀ w out a s', g.word w out a s' ↔ g'.word w out a s')
    (hb : ∀ inp, g.bad inp ↔ g'.bad inp) (hl : ∀ inp s', g.left inp s' → g'.left inp s') :
    Accepts N P m s g' where
  complete := fun w => h.complete ((hw _ _ _ _).2 w)
  stumbles := fun b => h.stumbles ((hb _).2 b)
  total := by
    intro inp hN
    obtain ⟨w, rest, out, a, s', hi, hx⟩ | ⟨e, s', he, hs, hP⟩ := h.total inp hN
    · exact .inl ⟨w, rest, out, a, s', hi, (hw _ _ _ _).1 hx⟩
    · exact .inr ⟨e, s', he, hl _ _ hs, hP.imp_right (hb _).1⟩

theorem of_returns {W : Octets → Octets → α → Prop} (o : Octets) (a : α)
    (hx : ∀ inp, ∃ marks, (m s).exec inp = ⟨some (.ok a, s), inp, o, marks⟩)
    (hW : ∀ w out a', W w out a' ↔ w = [] ∧ out = o ∧ a' = a) :
    Accepts N P m s (.plain s W) where
  complete := by
    rintro w out a' s' ⟨hw, rfl⟩ rest -
    obtain ⟨rfl, rfl, rfl⟩ := (hW _ _ _).1 hw
    exact hx rest
  stumbles := False.elim
  total := fun inp _ => .inl ⟨[], inp, o, a, s, rfl, (hW _ _ _).2 ⟨rfl, rfl, rfl⟩, rfl⟩

theorem pure (a : α) :
    Accepts N P (pure a : Method ω ε σ α) s (.plain s fun w out b => w = [] ∧ out = [] ∧ b = a) :=
  .of_returns [] a (fun _ => ⟨[], rfl⟩) fun _ _ _ => Iff.rfl

theorem note (w : ω) :
    Accepts N P (note w : Method ω ε σ Unit) s (.plain s fun w out _ => w = [] ∧ out = []) :=
  .of_returns [] () (fun _ => ⟨[w], rfl⟩) (by simp)

theorem write (bs : Octets) (handler : Method ω ε σ Unit) :
    Accepts N P (write bs handler) s (.plain s fun w out _ => w = [] ∧ out = bs) :=
  .of_returns bs () (fun _ => ⟨[], by simp [Method.write, Proc.exec]⟩) (by simp)

theorem throw {e : ε} (h : P e) {W : Octets → Octets → α → Prop} (hW : ∀ w out a, ¬ W w out a) :
    Accepts N P (throw e : Method ω ε σ α) s (.plain s W) where
  complete := fun hw => absurd hw.1 (hW _ _ _)
  stumbles := False.elim
  total := fun _ _ => .inr ⟨e, s, rfl, rfl, .inl h⟩

theorem throw_bad {e : ε} (h : ¬ P e) :
    Accepts N P (Method.throw e : Method ω ε σ α) s
      (.plain s (fun _ _ _ => False) fun _ => True) where
  complete := fun hw => hw.1.elim
  stumbles := fun _ _ => ⟨e, s, rfl, h⟩
  total := fun _ _ => .inr ⟨e, s, rfl, rfl, .inr trivial⟩

theorem readFully (n : Nat) {e : ε} (h : P e) :
    Accepts N P (readFully n (Method.throw e) : Method ω ε σ Octets) s
      (.plain s fun w out bs => w = bs ∧ bs.length = n ∧ out = []) where
  complete := by
    rintro w out a' s' ⟨⟨rfl, rfl, rfl⟩, rfl⟩ rest -
    exact ⟨[], by simp [Method.readFully, Proc.exec]⟩
  stumbles := False.elim
  total := by
    intro inp _
    by_cases hn : n ≤ inp.length
    · refine .inl ⟨inp.take n, inp.drop n, [], inp.take n, s, by simp, ⟨rfl, ?_, rfl⟩, rfl⟩
      simp [hn]
    · refine .inr ⟨e, s, ?_, rfl, .inl h⟩
      simp [Method.readFully, Proc.exec, hn, Method.throw]

theorem assign (f : σ → σ) : Accepts N P (assign f : Method ω ε σ Unit) s (.becomes (f s)) where
  complete := by
    rintro w out a' s' ⟨rfl, rfl, rfl⟩ rest -
    exact ⟨[], rfl⟩
  stumbles := False.elim
  total := fun inp _ => .inl ⟨[], inp, [], (), f s, rfl, rfl, rfl, rfl⟩

theorem bind_shrink {f : α → Method ω ε σ β} {k : α → σ → Grammar σ β} (hm : Accepts N P m s g)
    (hf : ∀ w out a s', g.word w out a s' → w.length ≤ N →
      Accepts (N - w.length) P (f a) s' (k a s')) :
    Accepts N P (m >>= f) s (g.bind k) where
  complete := by
    rintro w out b s' ⟨w₁, w₂, out₁, out₂, a, s₁, rfl, rfl, h₁, h₂⟩ rest hN
    rw [List.append_assoc] at hN ⊢
    obtain ⟨marks₁, hx₁⟩ := hm.complete h₁ (w₂ ++ rest) hN
    rw [List.length_append] at hN
    obtain ⟨marks₂, hx₂⟩ := (hf _ _ _ _ h₁ (by omega)).complete h₂ rest (by omega)
    refine ⟨marks₁ ++ marks₂, ?_⟩
    rw [bind_run, Proc.exec_bind, hx₁]
    show (⟨((f a s₁).exec (w₂ ++ rest)).result, _, _, _⟩ : Proc.Trace ω _) = _
    rw [show cont f (.ok a, s₁) = f a s₁ from rfl, hx₂]
  stumbles := by
    rintro inp (hb | ⟨w, rest, out, a, s₁, rfl, hw, hb⟩) hN
    · obtain ⟨e, s', he, hP⟩ := hm.stumbles hb hN
      refine ⟨e, s', ?_, hP⟩
      rw [bind_run, Proc.exec_bind, he]
      rfl
    · obtain ⟨marks, hx⟩ := hm.complete hw rest hN
      rw [List.length_append] at hN
      obtain ⟨e, s', he, hP⟩ := (hf _ _ _ _ hw (by omega)).stumbles hb (by omega)
      refine ⟨e, s', ?_, hP⟩
      rw [bind_run, Proc.exec_bind, hx]
      exact he
  total := by
    intro inp hN
    obtain ⟨w, rest, out, a, s₁, rfl, hw⟩ | ⟨e, s', he, hl, hP⟩ := hm.total inp hN
    · obtain ⟨marks, hx⟩ := hm.complete hw rest hN
      rw [List.length_append] at hN
      obtain ⟨w₂, rest₂, out₂, b, s', rfl, hw₂⟩ | ⟨e, s', he, hl, hP⟩ :=
        (hf _ _ _ _ hw (by omega)).total rest (by omega)
      · exact .inl ⟨w ++ w₂, rest₂, out ++ out₂, b, s', by simp,
          w, w₂, out, out₂, a, s₁, rfl, rfl, hw, hw₂⟩
      · refine .inr ⟨e, s', ?_, .inr ⟨w, rest, out, a, s₁, rfl, hw, hl⟩, ?_⟩
        · rw [bind_run, Proc.exec_bind, hx]
          exact he
        · exact hP.imp_right fun hb => .inr ⟨w, rest, out, a, s₁, rfl, hw, hb⟩
    · refine .inr ⟨e, s', ?_, .inl hl, hP.imp_right .inl⟩
      rw [bind_run, Proc.exec_bind, he]
      rfl

theorem bind {f : α → Method ω ε σ β} {k : α → σ → Grammar σ β} (hm : Accepts N P m s g)
    (hf : ∀ w out a s', g.word w out a s' → Accepts N P (f a) s' (k a s')) :
    Accepts N P (m >>= f) s (g.bind k) :=
  hm.bind_shrink fun w out a s' hw _ => (hf w out a s' hw).mono (Nat.sub_le _ _)

theorem assign_bind {f : σ → σ} {k : Unit → Method ω ε σ α} (h : Accepts N P (k ()) (f s) g) :
    Accepts N P (Method.assign f >>= k) s g where
  complete := h.complete
  stumbles := h.stumbles
  total := h.total

theorem note_bind {w : ω} {k : Unit → Method ω ε σ α} (h : Accepts N P (k ()) s g) :
    Accepts N P (Method.note w >>= k) s g where
  complete := by
    intro v out a s' hw rest hN
    obtain ⟨marks, hx⟩ := h.complete hw rest hN
    refine ⟨w :: marks, ?_⟩
    show { (k () s).exec (v ++ rest) with marks := w :: ((k () s).exec (v ++ rest)).marks } = _
    rw [hx]
  stumbles := h.stumbles
  total := h.total

/-! ## Methods that leave the fields alone -/

variable {W : Octets → Octets → α → Prop} {B : Octets → Prop}

theorem plain_congr (h : Accepts N P m s (.plain s W B)) {U : Octets → Octets → α → Prop}
    {E : Octets → Prop} (hU : ∀ w out a, U w out a ↔ W w out a) (hE : ∀ inp, E inp ↔ B inp) :
    Accepts N P m s (.plain s U E) :=
  h.congr (fun _ _ _ _ => and_congr_left fun _ => (hU _ _ _).symm) (fun _ => (hE _).symm)
    fun _ _ => id

theorem plain_bind_shrink {f : α → Method ω ε σ β} {V : α → Octets → Octets → β → Prop}
    {D : α → Octets → Prop} (hm : Accepts N P m s (.plain s W B))
    (hf : ∀ w out a, W w out a → w.length ≤ N →
      Accepts (N - w.length) P (f a) s (.plain s (V a) (D a))) :
    Accepts N P (m >>= f) s (.plain s (Grammar.seq W V) (Grammar.seqBad W B D)) := by
  have h : Accepts N P (m >>= f) s _ := hm.bind_shrink (k := fun a _ => .plain s (V a) (D a)) (by
    rintro w out a s' ⟨hw, rfl⟩ hN
    exact hf w out a hw hN)
  refine h.congr ?_ ?_ ?_
  · intro w out b s'
    constructor
    · rintro ⟨w₁, w₂, out₁, out₂, a, s₁, rfl, rfl, ⟨h₁, rfl⟩, h₂, rfl⟩
      exact ⟨⟨w₁, w₂, out₁, out₂, a, rfl, rfl, h₁, h₂⟩, rfl⟩
    · rintro ⟨⟨w₁, w₂, out₁, out₂, a, rfl, rfl, h₁, h₂⟩, rfl⟩
      exact ⟨w₁, w₂, out₁, out₂, a, s', rfl, rfl, ⟨h₁, rfl⟩, h₂, rfl⟩
  · intro inp
    constructor
    · rintro (hb | ⟨w, rest, out, a, s₁, rfl, ⟨h₁, rfl⟩, h₂⟩)
      · exact .inl hb
      · exact .inr ⟨w, rest, out, a, rfl, h₁, h₂⟩
    · rintro (hb | ⟨w, rest, out, a, rfl, h₁, h₂⟩)
      · exact .inl hb
      · exact .inr ⟨w, rest, out, a, s, rfl, ⟨h₁, rfl⟩, h₂⟩
  · rintro inp s' (rfl | ⟨w, rest, out, a, s₁, -, ⟨-, rfl⟩, rfl⟩)
    · rfl
    · rfl

theorem plain_bind {f : α → Method ω ε σ β} {V : α → Octets → Octets → β → Prop}
    {D : α → Octets → Prop} (hm : Accepts N P m s (.plain s W B))
    (hf : ∀ w out a, W w out a → Accepts N P (f a) s (.plain s (V a) (D a))) :
    Accepts N P (m >>= f) s (.plain s (Grammar.seq W V) (Grammar.seqBad W B D)) :=
  hm.plain_bind_shrink fun w out a hw _ => (hf w out a hw).mono (Nat.sub_le _ _)

theorem take_bind (n : Nat) {e : ε} (hP : P e) {f : Octets → Method ω ε σ β} {V : Octets → β → Prop}
    (hf : ∀ bs, bs.length = n →
      Accepts N P (f bs) s (.plain s fun w out b => V bs b ∧ w = [] ∧ out = [])) :
    Accepts N P (Method.readFully n (Method.throw e) >>= f) s
      (.plain s fun w out b => w.length = n ∧ V w b ∧ out = []) := by
  refine ((readFully n hP).plain_bind fun _ _ bs hw => hf bs hw.2.1).plain_congr ?_ ?_
  · intro w out b
    constructor
    · rintro ⟨hn, hV, rfl⟩
      exact ⟨w, [], [], [], w, by simp, rfl, ⟨rfl, hn, rfl⟩, hV, rfl, rfl⟩
    · rintro ⟨w₁, w₂, out₁, out₂, bs, rfl, rfl, ⟨rfl, hn, rfl⟩, hV, rfl, rfl⟩
      simp [hn, hV]
  · simp [Grammar.seqBad]

end Accepts
end Method
end Wire
