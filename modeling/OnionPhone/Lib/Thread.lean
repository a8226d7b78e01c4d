import OnionPhone.Lib.Proc

/-!
# Lib.Thread

Threads of one process: they access the fields `σ` they share, call what is outside the process, and
read and write on numbered channels.

* `Thread κ ω σ α`: one constructor per kind of step; an access to the fields is atomic and carries
  a label of type `ω`.
* `step`: one step, for interleavings. `play`: a thread that runs alone, against a list of replies.
* `onChannels`: a `Proc` put on two channels.
* `Job`: threads that end with a value or an exception.
* `Keeps I Q`: whatever the world replies, a thread that runs alone keeps `I` at every access and ends
  in `Q`; one rule for each way to build a thread.
-/

namespace Wire

/-- What the world answers to a call, a write or a read. -/
inductive Reply where
  | done
  | failed
  | data (bs : Octets)
  deriving DecidableEq, Repr

def Reply.result : Reply → Option Bool
  | .done => some true
  | .failed => some false
  | .data _ => none

def Reply.octets (n : Nat) : Reply → Option (Option Octets)
  | .done => none
  | .failed => some none
  | .data bs => if bs.length = n then some (some bs) else none

namespace Proc

variable {ω α β : Type}

def play : Proc ω α → List Reply → Option (α × List Reply)
  | .ret a, rs => some (a, rs)
  | .spin, _ => none
  | .mark _ k, rs => k.play rs
  | .send _ k, r :: rs => r.result.bind fun ok => (k ok).play rs
  | .recv n k, r :: rs => (r.octets n).bind fun o => (k o).play rs
  | .send _ _, [] => none
  | .recv _ _, [] => none

theorem Returns.play {Q : α → Prop} {p : Proc ω α} (h : p.Returns Q) {rs rs' : List Reply} {a : α}
    (hp : p.play rs = some (a, rs')) : Q a := by
  induction p generalizing rs with
  | ret b =>
    cases hp
    exact h
  | spin => cases hp
  | mark w k ih => exact ih h hp
  | send bs k ih =>
    cases rs with
    | nil => cases hp
    | cons r rs =>
      obtain ⟨ok, _, hk⟩ := Option.bind_eq_some_iff.1 hp
      exact ih ok (h ok) hk
  | recv n k ih =>
    cases rs with
    | nil => cases hp
    | cons r rs =>
      obtain ⟨o, _, hk⟩ := Option.bind_eq_some_iff.1 hp
      exact ih o (h o) hk

/-- Whatever an input can make a program do, some replies can. -/
theorem play_of_exec (p : Proc ω α) {inp : Octets} {a : α} (h : (p.exec inp).result = some a) :
    ∃ rs, p.play rs = some (a, []) := by
  induction p generalizing inp with
  | ret b =>
    cases h
    exact ⟨[], rfl⟩
  | spin => cases h
  | mark w k ih => exact ih h
  | send bs k ih =>
    obtain ⟨rs, hrs⟩ := ih true h
    exact ⟨.done :: rs, hrs⟩
  | recv n k ih =>
    rw [exec] at h
    split at h
    · next hn =>
      obtain ⟨rs, hrs⟩ := ih (some (inp.take n)) h
      have hlen : (inp.take n).length = n := by rw [List.length_take]; omega
      exact ⟨.data (inp.take n) :: rs, by simpa [play, Reply.octets, hlen] using hrs⟩
    · obtain ⟨rs, hrs⟩ := ih none h
      exact ⟨.failed :: rs, hrs⟩

end Proc

inductive Thread (κ ω σ α : Type) where
  | ret (a : α)
  | spin
  /-- One access to the fields `s`: they become `f s`, and the thread goes on with `k s`. -/
  | act (w : ω) (f : σ → σ) (k : σ → Thread κ ω σ α)
  /-- A call that goes well or fails. -/
  | ask (k : Bool → Thread κ ω σ α)
  | send (c : κ) (bs : Octets) (k : Bool → Thread κ ω σ α)
  | recv (c : κ) (n : Nat) (k : Option Octets → Thread κ ω σ α)

namespace Thread

variable {κ ω ω' σ α β γ : Type}

def bind : Thread κ ω σ α → (α → Thread κ ω σ β) → Thread κ ω σ β
  | .ret a, f => f a
  | .spin, _ => .spin
  | .act w g k, f => .act w g fun s => (k s).bind f
  | .ask k, f => .ask fun ok => (k ok).bind f
  | .send c bs k, f => .send c bs fun ok => (k ok).bind f
  | .recv c n k, f => .recv c n fun o => (k o).bind f

/-- A program that reads from `ins` and writes to `outs`. -/
def onChannels (ins outs : κ) (label : ω' → ω) : Proc ω' α → Thread κ ω σ α
  | .ret a => .ret a
  | .spin => .spin
  | .mark w k => .act (label w) id fun _ => onChannels ins outs label k
  | .send bs k => .send outs bs fun ok => onChannels ins outs label (k ok)
  | .recv n k => .recv ins n fun o => onChannels ins outs label (k o)

/-- What a step shows: the label of an access, or the channel of a read or a write. -/
inductive Seen (κ ω : Type) where
  | access (w : ω)
  | asked
  | octets (c : κ)
  deriving DecidableEq, Repr

/-- One step; `none` if the reply does not fit. -/
def step : Thread κ ω σ α → σ → Reply → Option (Thread κ ω σ α × σ × Seen κ ω)
  | .ret _, _, _ => none
  | .spin, _, _ => none
  | .act w f k, s, _ => some (k s, f s, .access w)
  | .ask k, s, r => r.result.map fun ok => (k ok, s, .asked)
  | .send c _ k, s, r => r.result.map fun ok => (k ok, s, .octets c)
  | .recv c n k, s, r => (r.octets n).map fun o => (k o, s, .octets c)

/-! ## Alone -/

def play : Thread κ ω σ α → σ → List Reply → Option (α × σ × List Reply)
  | .ret a, s, rs => some (a, s, rs)
  | .spin, _, _ => none
  | .act _ f k, s, rs => (k s).play (f s) rs
  | .ask k, s, r :: rs => r.result.bind fun ok => (k ok).play s rs
  | .send _ _ k, s, r :: rs => r.result.bind fun ok => (k ok).play s rs
  | .recv _ n k, s, r :: rs => (r.octets n).bind fun o => (k o).play s rs
  | .ask _, _, [] => none
  | .send _ _ _, _, [] => none
  | .recv _ _ _, _, [] => none

theorem play_bind (t : Thread κ ω σ α) (f : α → Thread κ ω σ β) (s : σ) (rs : List Reply) :
    (t.bind f).play s rs = (t.play s rs).bind fun r => (f r.1).play r.2.1 r.2.2 := by
  induction t generalizing s rs with
  | ret a => rfl
  | spin => rfl
  | act w g k ih => exact ih s (g s) rs
  | ask k ih =>
    cases rs with
    | nil => rfl
    | cons r rs => cases h : r.result <;> simp [bind, play, h, ih]
  | send c bs k ih =>
    cases rs with
    | nil => rfl
    | cons r rs => cases h : r.result <;> simp [bind, play, h, ih]
  | recv c n k ih =>
    cases rs with
    | nil => rfl
    | cons r rs => cases h : r.octets n <;> simp [bind, play, h, ih]

theorem play_onChannels (ins outs : κ) (label : ω' → ω) (p : Proc ω' α) (s : σ) (rs : List Reply) :
    (onChannels ins outs label p).play s rs = (p.play rs).map fun r => (r.1, s, r.2) := by
  induction p generalizing rs with
  | ret a => rfl
  | spin => rfl
  | mark w k ih => exact ih rs
  | send bs k ih =>
    cases rs with
    | nil => rfl
    | cons r rs => cases h : r.result <;> simp [onChannels, play, Proc.play, h, ih]
  | recv n k ih =>
    cases rs with
    | nil => rfl
    | cons r rs => cases h : r.octets n <;> simp [onChannels, play, Proc.play, h, ih]

/-! ## What holds all along -/

/-- Whatever the world replies: `I` holds after every access, and `Q` at the end. -/
def Keeps (I : σ → Prop) (Q : α → σ → Prop) : Thread κ ω σ α → σ → Prop
  | .ret a, s => Q a s
  | .spin, _ => True
  | .act _ f k, s => I (f s) ∧ Keeps I Q (k s) (f s)
  | .ask k, s => ∀ ok, Keeps I Q (k ok) s
  | .send _ _ k, s => ∀ ok, Keeps I Q (k ok) s
  | .recv _ _ k, s => ∀ o, Keeps I Q (k o) s

variable {I J : σ → Prop} {Q R : α → σ → Prop}

theorem Keeps.mono {t : Thread κ ω σ α} {s : σ} (h : Keeps I Q t s) (hI : ∀ s, I s → J s)
    (hQ : ∀ a s, Q a s → R a s) : Keeps J R t s := by
  induction t generalizing s with
  | ret a => exact hQ a s h
  | spin => trivial
  | act w f k ih => exact ⟨hI _ h.1, ih s h.2⟩
  | ask k ih => exact fun ok => ih ok (h ok)
  | send c bs k ih => exact fun ok => ih ok (h ok)
  | recv c n k ih => exact fun o => ih o (h o)

theorem Keeps.bind {t : Thread κ ω σ α} {f : α → Thread κ ω σ β} {S : β → σ → Prop} {s : σ}
    (h : Keeps I Q t s) (hf : ∀ a s, Q a s → Keeps I S (f a) s) : Keeps I S (t.bind f) s := by
  induction t generalizing s with
  | ret a => exact hf a s h
  | spin => trivial
  | act w f k ih => exact ⟨h.1, ih s h.2⟩
  | ask k ih => exact fun ok => ih ok (h ok)
  | send c bs k ih => exact fun ok => ih ok (h ok)
  | recv c n k ih => exact fun o => ih o (h o)

theorem Keeps.onChannels {ins outs : κ} {label : ω' → ω} {p : Proc ω' α} {s : σ} (hI : I s)
    (hQ : p.Returns fun a => Q a s) : Keeps I Q (onChannels ins outs label p) s := by
  induction p with
  | ret a => exact hQ
  | spin => trivial
  | mark w k ih => exact ⟨hI, ih hQ⟩
  | send bs k ih => exact fun ok => ih ok (hQ ok)
  | recv n k ih => exact fun o => ih o (hQ o)

theorem Keeps.play {t : Thread κ ω σ α} {s s' : σ} {a : α} {rs rs' : List Reply} (h : Keeps I Q t s)
    (hp : t.play s rs = some (a, s', rs')) : Q a s' := by
  induction t generalizing s rs with
  | ret b =>
    cases hp
    exact h
  | spin => cases hp
  | act w f k ih => exact ih s h.2 hp
  | ask k ih =>
    cases rs with
    | nil => cases hp
    | cons r rs =>
      obtain ⟨ok, _, hk⟩ := Option.bind_eq_some_iff.1 hp
      exact ih ok (h ok) hk
  | send c bs k ih =>
    cases rs with
    | nil => cases hp
    | cons r rs =>
      obtain ⟨ok, _, hk⟩ := Option.bind_eq_some_iff.1 hp
      exact ih ok (h ok) hk
  | recv c n k ih =>
    cases rs with
    | nil => cases hp
    | cons r rs =>
      obtain ⟨o, _, hk⟩ := Option.bind_eq_some_iff.1 hp
      exact ih o (h o) hk

theorem Keeps.step {t t' : Thread κ ω σ α} {s s' : σ} {r : Reply} {e : Seen κ ω}
    (h : Keeps I Q t s) (hI : I s) (hs : t.step s r = some (t', s', e)) :
    I s' ∧ Keeps I Q t' s' := by
  cases t with
  | ret a => cases hs
  | spin => cases hs
  | act w f k =>
    cases hs
    exact h
  | ask k =>
    obtain ⟨ok, _, hk⟩ := Option.map_eq_some_iff.1 hs
    cases hk
    exact ⟨hI, h ok⟩
  | send c bs k =>
    obtain ⟨ok, _, hk⟩ := Option.map_eq_some_iff.1 hs
    cases hk
    exact ⟨hI, h ok⟩
  | recv c n k =>
    obtain ⟨o, _, hk⟩ := Option.map_eq_some_iff.1 hs
    cases hk
    exact ⟨hI, h o⟩

end Thread

/-! ## Exceptions -/

/-- A thread that ends with a value or an exception. -/
def Job (κ ω σ ε α : Type) : Type := Thread κ ω σ (Except ε α)

namespace Job

variable {κ ω σ ε α β : Type}

def cont (f : α → Job κ ω σ ε β) : Except ε α → Thread κ ω σ (Except ε β)
  | .ok a => f a
  | .error e => .ret (.error e)

instance : Monad (Job κ ω σ ε) where
  pure a := Thread.ret (.ok a)
  bind t f := Thread.bind t (cont f)

def throw (e : ε) : Job κ ω σ ε α := Thread.ret (.error e)

/-- Read the fields and update them, in one access. -/
def access (w : ω) (f : σ → σ) : Job κ ω σ ε σ := Thread.act w f fun s => .ret (.ok s)

/-- A call whose failure is the exception `e`. -/
def call (e : ε) : Job κ ω σ ε Unit :=
  Thread.ask fun ok => .ret (if ok then .ok () else .error e)

/-- Try `t`; an exception for which `handler` has a value ends normally with it. -/
def rescue (t : Job κ ω σ ε α) (handler : ε → Option α) : Job κ ω σ ε α :=
  Thread.bind t fun
    | .ok a => .ret (.ok a)
    | .error e =>
      match handler e with
      | some a => .ret (.ok a)
      | none => .ret (.error e)

def talk {ω' : Type} (ins outs : κ) (label : ω' → ω) (p : Proc ω' α) : Job κ ω σ ε α :=
  (Thread.onChannels ins outs label p).bind fun a => .ret (.ok a)

def play (t : Job κ ω σ ε α) (s : σ) (rs : List Reply) : Option (Except ε α × σ × List Reply) :=
  Thread.play t s rs

section

variable {t : Job κ ω σ ε α} {s s' : σ} {rs rs' : List Reply}

theorem play_bind_ok {f : α → Job κ ω σ ε β} {a : α} (h : t.play s rs = some (.ok a, s', rs')) :
    (t >>= f).play s rs = (f a).play s' rs' :=
  (Thread.play_bind t (cont f) s rs).trans (by rw [play] at h; rw [h]; rfl)

theorem play_bind_error {f : α → Job κ ω σ ε β} {e : ε}
    (h : t.play s rs = some (.error e, s', rs')) :
    (t >>= f).play s rs = some (.error e, s', rs') :=
  (Thread.play_bind t (cont f) s rs).trans (by rw [play] at h; rw [h]; rfl)

theorem play_bind_cases {f : α → Job κ ω σ ε β} {r : Except ε β}
    (h : (t >>= f).play s rs = some (r, s', rs')) :
    (∃ a s₁ rs₁, t.play s rs = some (.ok a, s₁, rs₁) ∧ (f a).play s₁ rs₁ = some (r, s', rs')) ∨
    ∃ e, t.play s rs = some (.error e, s', rs') ∧ r = .error e := by
  have hb : (t >>= f).play s rs = _ := Thread.play_bind t (cont f) s rs
  rw [hb] at h
  obtain ⟨⟨r₁, s₁, rs₁⟩, ht, hf⟩ := Option.bind_eq_some_iff.1 h
  cases r₁ with
  | ok a => exact .inl ⟨a, s₁, rs₁, ht, hf⟩
  | error e =>
    cases hf
    exact .inr ⟨e, ht, rfl⟩

theorem play_call_bind {f : Unit → Job κ ω σ ε β} {e : ε} {r : Except ε β}
    (h : (call e >>= f).play s rs = some (r, s', rs')) :
    (rs = .failed :: rs' ∧ r = .error e ∧ s' = s) ∨
    ∃ rs₁, rs = .done :: rs₁ ∧ (f ()).play s rs₁ = some (r, s', rs') := by
  cases rs with
  | nil => cases h
  | cons x rs =>
    cases x with
    | failed =>
      cases h
      exact .inl ⟨rfl, rfl, rfl⟩
    | done => exact .inr ⟨rs, rfl, h⟩
    | data bs => cases h

theorem play_rescue_error {handler : ε → Option α} {e : ε} (he : handler e = none)
    (h : t.play s rs = some (.error e, s', rs')) :
    (rescue t handler).play s rs = some (.error e, s', rs') := by
  refine (Thread.play_bind t _ s rs).trans ?_
  rw [play] at h
  rw [h]
  simp only [Option.bind_some, he]
  rfl

theorem play_talk {ω' : Type} {ins outs : κ} {label : ω' → ω} {p : Proc ω' α} {a : α}
    (h : p.play rs = some (a, rs')) :
    (talk ins outs label p : Job κ ω σ ε α).play s rs = some (.ok a, s, rs') := by
  refine (Thread.play_bind _ _ s rs).trans ?_
  rw [Thread.play_onChannels, h]
  rfl

end

/-! ## What holds all along -/

def Ends (Q : α → σ → Prop) (E : ε → σ → Prop) : Except ε α → σ → Prop
  | .ok a => Q a
  | .error e => E e

/-- `Thread.Keeps` with one condition for each way to end. -/
def Keeps (I : σ → Prop) (Q : α → σ → Prop) (E : ε → σ → Prop) (t : Job κ ω σ ε α) (s : σ) : Prop :=
  Thread.Keeps I (Ends Q E) t s

namespace Keeps

variable {I : σ → Prop} {Q : α → σ → Prop} {R : β → σ → Prop} {E : ε → σ → Prop} {s : σ}

theorem bind {t : Job κ ω σ ε α} {f : α → Job κ ω σ ε β} (h : Keeps I Q E t s)
    (hf : ∀ a s, Q a s → Keeps I R E (f a) s) : Keeps I R E (t >>= f) s := by
  refine Thread.Keeps.bind h ?_
  intro r s hr
  cases r with
  | ok a => exact hf a s hr
  | error e => exact hr

theorem access_bind {w : ω} {g : σ → σ} {f : σ → Job κ ω σ ε β} (hI : I (g s))
    (hf : Keeps I R E (f s) (g s)) : Keeps I R E (access w g >>= f) s :=
  ⟨hI, hf⟩

theorem talk {ω' : Type} {ins outs : κ} {label : ω' → ω} {p : Proc ω' α} (hI : I s)
    (hQ : p.Returns fun a => Q a s) :
    Keeps I Q E (talk ins outs label p : Job κ ω σ ε α) s :=
  Thread.Keeps.bind (Thread.Keeps.onChannels hI hQ) fun _ _ h => h

theorem call {e : ε} {Q : Unit → σ → Prop} (hQ : Q () s) (hE : E e s) :
    Keeps I Q E (call e : Job κ ω σ ε Unit) s := by
  intro ok
  cases ok with
  | true => exact hQ
  | false => exact hE

theorem rescue {t : Job κ ω σ ε α} {handler : ε → Option α} (h : Keeps I Q E t s)
    (hc : ∀ e a s, E e s → handler e = some a → Q a s) : Keeps I Q E (rescue t handler) s := by
  refine Thread.Keeps.bind h ?_
  intro r s hr
  cases r with
  | ok a => exact hr
  | error e =>
    cases ha : handler e with
    | none =>
      simp only [ha]
      exact hr
    | some a =>
      simp only [ha]
      exact hc e a s hr ha

end Keeps

end Job
end Wire
