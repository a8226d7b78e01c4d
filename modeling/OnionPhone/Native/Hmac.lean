import OnionPhone.Native.Sha1

/-!
# OnionPhone.Native.Hmac

libsrtp's HMAC (`crypto/hash/hmac.c`): a hash context that has been given the inner key is kept, and each
message begins with a copy of it.

* `Keyed key state`: what the key leaves in the state; no operation changes it (`HmacOp.apply_keyed`).
* `tag_eq`: a message in pieces gets the tag of the standard, whatever the state was used for before.
-/

namespace OnionPhone
namespace Native

open Wire Wire.Octets Wire.Sha1

/-! ## The code -/

/-- `hmac_ctx_t` -/
structure HmacCtx where
  opad : Octets
  ctx : Sha1Ctx
  initCtx : Sha1Ctx
  deriving DecidableEq

/-- The key added to a constant octet, in a block. -/
def padKey (key : Octets) (c : UInt8) : Octets :=
  key.map (· ^^^ c) ++ List.replicate (64 - key.length) c

/-- `none` is `err_status_bad_param`: keys larger than 20 octets are not supported. -/
def hmacInit (state : HmacCtx) (key : Octets) : Option HmacCtx :=
  if key.length > 20 then
    none
  else
    let initCtx := sha1Update (sha1Init state.initCtx.m state.initCtx.m_length) (padKey key 0x36)
    some ⟨padKey key 0x5c, initCtx, initCtx⟩

def hmacStart (state : HmacCtx) : HmacCtx := { state with ctx := state.initCtx }

def hmacUpdate (state : HmacCtx) (message : Octets) : HmacCtx :=
  { state with ctx := sha1Update state.ctx message }

/-- `none` is `err_status_bad_param`; `stack` and `stack'` are what the two calls of `sha1_final` find on the
stack. -/
def hmacCompute (stack stack' : WordArray) (state : HmacCtx) (message : Octets) (tagLen : Nat) :
    Option (HmacCtx × Octets) :=
  if tagLen > 20 then
    none
  else
    let state := hmacUpdate state message
    let inner := sha1Final stack state.ctx
    let ctx := sha1Init inner.1.m inner.1.m_length
    let ctx := sha1Update ctx state.opad
    let ctx := sha1Update ctx inner.2
    let outer := sha1Final stack' ctx
    some ({ state with ctx := outer.1 }, outer.2.take tagLen)

/-! ## The key -/

/-- The key is in the block of octets for the outer hash, and in the context that messages begin with. -/
structure Keyed (key : Octets) (state : HmacCtx) : Prop where
  opad : state.opad = padKey key 0x5c
  initCtx : Holds (padKey key 0x36) state.initCtx

theorem padKey_eq {key : Octets} (h : key.length ≤ 64) (c : UInt8) :
    padKey key c = (hmacKey sha1 64 key).map (· ^^^ c) := by
  simp only [padKey, hmacKey, if_pos h, List.map_append, List.map_replicate, UInt8.zero_xor]

theorem padKey_length {key : Octets} (h : key.length ≤ 64) (c : UInt8) : (padKey key c).length = 64 := by
  simp only [padKey, List.length_append, List.length_map, List.length_replicate]
  omega

theorem hmacInit_keyed {state state' : HmacCtx} {key : Octets} (h : hmacInit state key = some state') :
    Keyed key state' ∧ key.length ≤ 20 := by
  rw [hmacInit] at h
  split at h
  · cases h
  · next hlen =>
    cases h
    have hinit := sha1Update_holds (sha1Init_holds state.initCtx.m state.initCtx.m_length) (padKey key 0x36)
    exact ⟨⟨rfl, hinit⟩, by omega⟩

inductive HmacOp where
  | start
  | update (message : Octets)
  | compute (stack stack' : WordArray) (message : Octets) (tagLen : Nat)

/-- A call that is refused changes nothing. -/
def HmacOp.apply (state : HmacCtx) : HmacOp → HmacCtx
  | .start => hmacStart state
  | .update message => hmacUpdate state message
  | .compute stack stack' message tagLen =>
    match hmacCompute stack stack' state message tagLen with
    | none => state
    | some (state, _) => state

theorem HmacOp.apply_keyed {key : Octets} {state : HmacCtx} (h : Keyed key state) (op : HmacOp) :
    Keyed key (op.apply state) := by
  cases op with
  | start => exact ⟨h.opad, h.initCtx⟩
  | update message => exact ⟨h.opad, h.initCtx⟩
  | compute stack stack' message tagLen =>
    simp only [HmacOp.apply, hmacCompute]
    split
    · next hnone =>
      exact h
    · next state' out hsome =>
      split at hsome
      · cases hsome
      · cases hsome
        exact ⟨h.opad, h.initCtx⟩

theorem ops_keyed {key : Octets} (ops : List HmacOp) : ∀ {state : HmacCtx}, Keyed key state →
    Keyed key (ops.foldl HmacOp.apply state) := by
  induction ops with
  | nil =>
    intro state h
    exact h
  | cons op ops ih =>
    intro state h
    exact ih (HmacOp.apply_keyed h op)

/-! ## Tags -/

theorem hmacCompute_eq {key msg : Octets} {state : HmacCtx} (hkey : key.length ≤ 20) (h : Keyed key state)
    (hctx : Holds (padKey key 0x36 ++ msg) state.ctx) (last : Octets)
    (hbits : 8 * (64 + (msg ++ last).length) < 2 ^ 32) (stack stack' : WordArray) {tagLen : Nat}
    (htag : tagLen ≤ 20) :
    ∃ state', hmacCompute stack stack' state last tagLen =
      some (state', (hmac sha1 64 key (msg ++ last)).take tagLen) ∧ Keyed key state' := by
  have hipad : (padKey key 0x36).length = 64 := padKey_length (by omega) _
  have hopad : (padKey key 0x5c).length = 64 := padKey_length (by omega) _
  have hinner := sha1Final_eq (sha1Update_holds hctx last)
    (by simp only [List.length_append] at hbits ⊢; omega) stack
  have houter := fun (m : Octets) (hm : m.length = 64) (digest : Octets) (hd : digest.length = 20) =>
    sha1Final_eq (sha1Update_holds (sha1Update_holds (sha1Init_holds m hm) (padKey key 0x5c)) digest)
      (by simp only [List.length_append, List.nil_append, hopad, hd]; decide) stack'
  have hmac_eq : hmac sha1 64 key (msg ++ last) =
      sha1 (padKey key 0x5c ++ sha1 (padKey key 0x36 ++ msg ++ last)) := by
    rw [hmac, padKey_eq (by omega), padKey_eq (by omega), List.append_assoc]
  rw [hmacCompute, if_neg (by omega)]
  simp only [hmacUpdate, hinner, h.opad]
  rw [houter _ _ _ (sha1_length _), List.nil_append, ← hmac_eq]
  exact ⟨_, rfl, rfl, h.initCtx⟩

/-- A message in pieces, the last of which comes with the call for the tag. -/
def tag (stack stack' : WordArray) (state : HmacCtx) (pieces : List Octets) (last : Octets) (tagLen : Nat) :
    Option (HmacCtx × Octets) :=
  hmacCompute stack stack' (pieces.foldl hmacUpdate (hmacStart state)) last tagLen

theorem foldl_hmacUpdate (pieces : List Octets) : ∀ (state : HmacCtx),
    pieces.foldl hmacUpdate state = { state with ctx := pieces.foldl sha1Update state.ctx } := by
  induction pieces with
  | nil =>
    intro state
    rfl
  | cons piece pieces ih =>
    intro state
    exact ih _

theorem tag_eq {key : Octets} {state : HmacCtx} (hkey : key.length ≤ 20) (h : Keyed key state)
    (pieces : List Octets) (last : Octets)
    (hbits : 8 * (64 + (pieces.flatten ++ last).length) < 2 ^ 32) (stack stack' : WordArray) {tagLen : Nat}
    (htag : tagLen ≤ 20) :
    ∃ state', tag stack stack' state pieces last tagLen =
      some (state', (hmac sha1 64 key (pieces.flatten ++ last)).take tagLen) ∧ Keyed key state' := by
  rw [tag, foldl_hmacUpdate]
  have hkeyed : Keyed key { hmacStart state with ctx := pieces.foldl sha1Update (hmacStart state).ctx } :=
    ⟨h.opad, h.initCtx⟩
  exact hmacCompute_eq hkey hkeyed (foldl_sha1Update_holds pieces h.initCtx) last hbits stack stack' htag

/-- Whatever a state has been used for since it got its key, and wherever that was broken off, the next
message, in any pieces, gets the tag of the standard. -/
theorem hmac_tag_any_use (state state' : HmacCtx) (key : Octets) (hinit : hmacInit state key = some state')
    (ops : List HmacOp) (pieces : List Octets) (last : Octets)
    (hbits : 8 * (64 + (pieces.flatten ++ last).length) < 2 ^ 32) (stack stack' : WordArray) (tagLen : Nat) :
    (tag stack stack' (ops.foldl HmacOp.apply state') pieces last tagLen).map Prod.snd =
      if tagLen ≤ 20 then some ((hmac sha1 64 key (pieces.flatten ++ last)).take tagLen) else none := by
  obtain ⟨hkeyed, hkey⟩ := hmacInit_keyed hinit
  split
  · next htag =>
    obtain ⟨after, hafter, -⟩ := tag_eq hkey (ops_keyed ops hkeyed) pieces last hbits stack stack' htag
    rw [hafter]
    rfl
  · next htag =>
    rw [tag, hmacCompute, if_pos (by omega)]
    rfl

/-- A state that was left in the middle of another message. -/
theorem hmac_tag_any_use_broken_off :
    let ctx := sha1Init (List.replicate 64 0xaa) rfl
    let state : HmacCtx := ⟨[], ctx, ctx⟩
    (hmacInit state [1, 2, 3]).isSome ∧ ∀ state', hmacInit state [1, 2, 3] = some state' →
      (tag (fun _ => 1) (fun _ => 2) ([HmacOp.update [9, 9], .start, .update [8]].foldl HmacOp.apply state')
        [[4], [5, 6]] [7] 4).map Prod.snd = some ((hmac sha1 64 [1, 2, 3] [4, 5, 6, 7]).take 4) := by
  intro ctx state
  refine ⟨rfl, ?_⟩
  intro state' h
  exact hmac_tag_any_use state state' [1, 2, 3] h [HmacOp.update [9, 9], .start, .update [8]] [[4], [5, 6]] [7]
    (by decide) (fun _ => 1) (fun _ => 2) 4

end Native
end OnionPhone
