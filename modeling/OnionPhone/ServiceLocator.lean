import OnionPhone.Lib.Machine

/-!
# OnionPhone.ServiceLocator

`ServiceLocator` and its `ServiceHolder`s. A holder binds a service of Android when it is made; Android then
connects and disconnects it on the main thread, `getService` waits for a connection on the threads of its
callers, and `cleanUp` unbinds on a thread of its own. Nothing but the getters is synchronized.

* `ServiceHolder`: a holder, with what Android knows of its connection.
* `Call.next`, `CleanUp.next`: a step of `getService` and of `ServiceLocator.cleanUp`, from one access of a
  shared field to the next. `step`: the whole system.
* `next_cases`, `getter_cases`, `cleanUp_cases`: what a step can do.
-/

namespace OnionPhone
namespace ServiceLocator

open Wire

variable {T : Type}

structure ServiceLocatorException where
  msg : String
  deriving DecidableEq, Repr

/-! ## ServiceHolder -/

/-- The last two are what Android knows of the connection: whether it is bound, and which service was
connected last unless it has been disconnected. -/
structure ServiceHolder (T : Type) where
  serviceCreationSemaphore : Nat := 0
  service : Option T := none
  bound : Bool := true
  connected : Option T := none

namespace ServiceHolder

/-- The constructor; `created` is what `bindService` returns. -/
def new (clazz : String) (created : Bool) : Except ServiceLocatorException (ServiceHolder T) :=
  if created then .ok {} else .error ⟨"Service for class " ++ clazz ++ " cannot be created"⟩

/-- The service is there before the permit is. -/
def onServiceConnected (binder : T) (h : ServiceHolder T) : ServiceHolder T :=
  { h with
    service := some binder
    serviceCreationSemaphore := h.serviceCreationSemaphore + 1
    connected := some binder }

def onServiceDisconnected (h : ServiceHolder T) : ServiceHolder T :=
  { h with service := none, connected := none }

/-- Android does not call `onServiceDisconnected` for that. -/
def unbindService (h : ServiceHolder T) : ServiceHolder T := { h with bound := false }

def drainPermits (h : ServiceHolder T) : ServiceHolder T := { h with serviceCreationSemaphore := 0 }

end ServiceHolder

inductive Name where
  | anonimityNetwork
  | audioManger
  | identityManager
  | protocolManagement
  | userInterface
  deriving DecidableEq, Repr

/-- What came of a call, with what there was to know when it came. -/
inductive Outcome (T : Type) where
  /-- `getService` has returned what was in the field. -/
  | returned (name : Name) (service : Option T) (bound : Bool) (connected : Option T)
  /-- It has raised: had it waited as long as it should, and was there a connection meanwhile? -/
  | raised (name : Name) (e : ServiceLocatorException) (waited connected : Bool)
  | notCreated (name : Name) (e : ServiceLocatorException)
  /-- `unbindService` was called, on a connection that was bound or was not. -/
  | unbound (name : Name) (bound : Bool)
  deriving DecidableEq, Repr

/-! ## getService -/

/-- Where a thread is in `getService`. -/
inductive Phase where
  -- before the first test for null
  | checking
  -- in `tryAcquire`; `connected` if there was a connection since the test
  | waiting (connected : Bool)
  -- before the second test; `waited` if the timeout has ended the wait
  | woken (waited connected : Bool)
  -- before the field is read for the result
  | returning
  | finished
  deriving DecidableEq, Repr

def Phase.awaits : Phase → Bool
  | .waiting _ => true
  | .woken _ _ => true
  | _ => false

/-- A call of `getService`; `locked` if it is made by a getter of the locator, which holds its monitor. -/
structure Call where
  name : Name
  locked : Bool
  phase : Phase := .checking
  deriving DecidableEq, Repr

/-- How `tryAcquire` ends; everything else just goes on. -/
inductive Event where
  | goOn
  | acquired
  | timedOut
  | interrupted
  deriving DecidableEq, Repr

/-- One step of a call on its holder. An `InterruptedException` is dropped. -/
def Call.next (c : Call) (h : ServiceHolder T) :
    Event → Option (ServiceHolder T × Phase × List (Outcome T))
  | .goOn =>
    match c.phase with
    | .checking => some (h, if h.service.isNone then .waiting false else .returning, [])
    | .woken waited connected =>
      if h.service.isNone then
        some (h, .finished, [.raised c.name ⟨"No service was bound"⟩ waited connected])
      else some (h, .returning, [])
    | .returning => some (h, .finished, [.returned c.name h.service h.bound h.connected])
    | _ => none
  | .acquired =>
    match c.phase with
    | .waiting connected =>
      if 0 < h.serviceCreationSemaphore then
        some ({ h with serviceCreationSemaphore := h.serviceCreationSemaphore - 1 }, .woken false connected, [])
      else none
    | _ => none
  | .timedOut =>
    match c.phase with
    | .waiting connected => some (h, .woken true connected, [])
    | _ => none
  | .interrupted =>
    match c.phase with
    | .waiting connected => some (h, .woken false connected, [])
    | _ => none

/-- A connection of `w`, seen by those who wait for one. -/
def Call.meanwhile (w : Name) (c : Call) : Call :=
  if c.name = w then
    { c with phase :=
        match c.phase with
        | .waiting _ => .waiting true
        | .woken waited _ => .woken waited true
        | phase => phase }
  else c

/-! ## The system -/

/-- `ServiceLocator.cleanUp`: the holders that are left, and whether the first of them is unbound already and
only has to be drained. -/
structure CleanUp where
  todo : List Name
  unbound : Bool := false
  deriving DecidableEq, Repr

/-- The locator, the calls of `getService` and `cleanUp` so far, and what came of them. -/
structure State (T : Type) where
  holders : Name → Option (ServiceHolder T) := fun _ => none
  calls : List Call := []
  cleanUps : List CleanUp := []
  log : List (Outcome T) := []

namespace State

def setHolder (w : Name) (h : ServiceHolder T) (s : State T) : State T :=
  { s with holders := Function.update s.holders w (some h) }

def locked (s : State T) : Bool := s.calls.any fun c => c.locked && c.phase != .finished

def underWay (s : State T) (w : Name) : Bool := s.calls.any fun c => c.name == w && c.phase != .finished

def awaiting (s : State T) (w : Name) : Bool := s.calls.any fun c => c.name == w && c.phase.awaits

end State

def getService (w : Name) (locked : Bool) (s : State T) : State T :=
  { s with calls := s.calls ++ [{ name := w, locked := locked }] }

/-- The getters of the locator; `none` while another one runs. -/
def getter (w : Name) (clazz : String) (created : Bool) (s : State T) : Option (State T) :=
  if s.locked then none
  else
    match s.holders w with
    | some _ => some (getService w true s)
    | none =>
      match ServiceHolder.new clazz created with
      | .ok h => some (getService w true (s.setHolder w h))
      | .error e => some { s with log := .notCreated w e :: s.log }

def getAnonimityNetwork : Bool → State T → Option (State T) :=
  getter .anonimityNetwork "org.theonionphone.network.TorNetwork"

def getAudioManager : Bool → State T → Option (State T) :=
  getter .audioManger "org.theonionphone.audio.AudioManagerImpl"

def getIdentityManager : Bool → State T → Option (State T) :=
  getter .identityManager "org.theonionphone.identity.IdentityManagerImpl"

def getProtocolManagement : Bool → State T → Option (State T) :=
  getter .protocolManagement "org.theonionphone.protocol.ProtocolManagementImpl"

def getUserInterface : Bool → State T → Option (State T) :=
  getter .userInterface "org.theonionphone.ui.UserInterfaceImpl"

def getterOf : Name → Bool → State T → Option (State T)
  | .anonimityNetwork => getAnonimityNetwork
  | .audioManger => getAudioManager
  | .identityManager => getIdentityManager
  | .protocolManagement => getProtocolManagement
  | .userInterface => getUserInterface

def cleanUp : CleanUp where
  todo := [.anonimityNetwork, .audioManger, .identityManager, .protocolManagement, .userInterface]

/-- One step of `cleanUp`: `cleanUpHolder` passes over a field that is null, and otherwise unbinds the
holder and drains its semaphore. To unbind what is not bound is an error, which ends `cleanUp`. -/
def CleanUp.next (c : CleanUp) (s : State T) : Option (CleanUp × State T) :=
  match c.todo with
  | [] => none
  | w :: rest =>
    match s.holders w with
    | none => some ({ todo := rest }, s)
    | some h =>
      if c.unbound then some ({ todo := rest }, s.setHolder w h.drainPermits)
      else if h.bound then
        some ({ c with unbound := true },
          { s.setHolder w h.unbindService with log := .unbound w true :: s.log })
      else some ({ todo := [] }, { s with log := .unbound w false :: s.log })

inductive Act (T : Type) where
  | onServiceConnected (w : Name) (binder : T)
  | onServiceDisconnected (w : Name)
  | getter (w : Name) (created : Bool)
  -- not through the locator
  | getService (w : Name)
  | call (i : Nat) (ev : Event)
  | cleanUp
  | cleanUpNext (j : Nat)

/-- `none` if there is no such holder, or no such thread that could take the step. -/
def step : Act T → State T → Option (State T)
  | .onServiceConnected w binder, s =>
    (s.holders w).map fun h =>
      { s.setHolder w (h.onServiceConnected binder) with calls := s.calls.map (Call.meanwhile w) }
  | .onServiceDisconnected w, s => (s.holders w).map fun h => s.setHolder w h.onServiceDisconnected
  | .getter w created, s => getterOf w created s
  | .getService w, s => (s.holders w).map fun _ => getService w false s
  | .call i ev, s =>
    match s.calls[i]? with
    | none => none
    | some c =>
      match s.holders c.name with
      | none => none
      | some h =>
        (c.next h ev).map fun (h', phase, outcome) =>
          { s.setHolder c.name h' with calls := s.calls.set i { c with phase := phase }, log := outcome ++ s.log }
  | .cleanUp, s => some { s with cleanUps := s.cleanUps ++ [cleanUp] }
  | .cleanUpNext j, s =>
    match s.cleanUps[j]? with
    | none => none
    | some c => (c.next s).map fun (c', s') => { s' with cleanUps := s.cleanUps.set j c' }

/-! ## The steps of a call -/

inductive Next (c : Call) (h : ServiceHolder T) :
    Event → ServiceHolder T → Phase → List (Outcome T) → Prop where
  | asked (hp : c.phase = .checking) (hnone : h.service = none) : Next c h .goOn h (.waiting false) []
  | found (hp : c.phase = .checking ∨ ∃ waited connected, c.phase = .woken waited connected)
      (hsome : h.service ≠ none) : Next c h .goOn h .returning []
  | raised {waited connected : Bool} (hp : c.phase = .woken waited connected) (hnone : h.service = none) :
      Next c h .goOn h .finished [.raised c.name ⟨"No service was bound"⟩ waited connected]
  | returned (hp : c.phase = .returning) :
      Next c h .goOn h .finished [.returned c.name h.service h.bound h.connected]
  | acquired {connected : Bool} (hp : c.phase = .waiting connected) (hpos : 0 < h.serviceCreationSemaphore) :
      Next c h .acquired { h with serviceCreationSemaphore := h.serviceCreationSemaphore - 1 }
        (.woken false connected) []
  | timedOut {connected : Bool} (hp : c.phase = .waiting connected) :
      Next c h .timedOut h (.woken true connected) []
  | interrupted {connected : Bool} (hp : c.phase = .waiting connected) :
      Next c h .interrupted h (.woken false connected) []

theorem next_goOn {c : Call} {h : ServiceHolder T} {r : ServiceHolder T × Phase × List (Outcome T)}
    (hn : c.next h .goOn = some r) : Next c h .goOn r.1 r.2.1 r.2.2 := by
  simp only [Call.next] at hn
  split at hn
  · next hp =>
    cases hn
    cases hs : h.service with
    | none => exact .asked hp hs
    | some t => exact .found (.inl hp) (by simp [hs])
  · next waited connected hp =>
    split at hn
    · next hnone =>
      cases hn
      exact .raised hp (Option.isNone_iff_eq_none.1 hnone)
    · next hsome =>
      cases hn
      exact .found (.inr ⟨waited, connected, hp⟩) fun hnone => hsome (Option.isNone_iff_eq_none.2 hnone)
  · next hp =>
    cases hn
    exact .returned hp
  · cases hn

theorem next_cases {c : Call} {h : ServiceHolder T} {ev : Event} {r : ServiceHolder T × Phase × List (Outcome T)}
    (hn : c.next h ev = some r) : Next c h ev r.1 r.2.1 r.2.2 := by
  cases ev with
  | goOn => exact next_goOn hn
  | acquired =>
    simp only [Call.next] at hn
    split at hn
    · next connected hp =>
      split at hn
      · next hpos =>
        cases hn
        exact .acquired hp hpos
      · cases hn
    · cases hn
  | timedOut =>
    simp only [Call.next] at hn
    split at hn
    · next connected hp =>
      cases hn
      exact .timedOut hp
    · cases hn
  | interrupted =>
    simp only [Call.next] at hn
    split at hn
    · next connected hp =>
      cases hn
      exact .interrupted hp
    · cases hn

theorem Next.unfinished {c : Call} {h h' : ServiceHolder T} {ev : Event} {phase : Phase}
    {out : List (Outcome T)} (hn : Next c h ev h' phase out) : c.phase ≠ .finished := by
  intro hf
  cases hn with
  | found hp hsome => simp [hf] at hp
  | asked hp hnone => simp [hf] at hp
  | raised hp hnone => simp [hf] at hp
  | returned hp => simp [hf] at hp
  | acquired hp hpos => simp [hf] at hp
  | timedOut hp => simp [hf] at hp
  | interrupted hp => simp [hf] at hp

/-! ## The steps of the locator -/

theorem getterOf_eq (w : Name) : ∃ clazz, (getterOf w : Bool → State T → Option (State T)) = getter w clazz := by
  cases w with
  | anonimityNetwork => exact ⟨_, rfl⟩
  | audioManger => exact ⟨_, rfl⟩
  | identityManager => exact ⟨_, rfl⟩
  | protocolManagement => exact ⟨_, rfl⟩
  | userInterface => exact ⟨_, rfl⟩

theorem getter_cases {s s' : State T} {w : Name} {created : Bool} (hs : getterOf w created s = some s') :
    s.locked = false ∧
      ((∃ h, s.holders w = some h ∧ s' = getService w true s) ∨
      (s.holders w = none ∧ s' = getService w true (s.setHolder w {})) ∨
      ∃ e, s' = { s with log := .notCreated w e :: s.log }) := by
  obtain ⟨clazz, hclazz⟩ := getterOf_eq (T := T) w
  rw [hclazz, getter] at hs
  split at hs
  · cases hs
  · next hunlocked =>
    refine ⟨Bool.eq_false_iff.2 hunlocked, ?_⟩
    cases hw : s.holders w with
    | some h =>
      simp only [hw] at hs
      cases hs
      exact .inl ⟨h, rfl, rfl⟩
    | none =>
      cases created with
      | true =>
        simp only [hw, ServiceHolder.new, if_true] at hs
        cases hs
        exact .inr (.inl ⟨rfl, rfl⟩)
      | false =>
        simp only [hw, ServiceHolder.new, Bool.false_eq_true, if_false] at hs
        cases hs
        exact .inr (.inr ⟨_, rfl⟩)

inductive Cleans (c : CleanUp) (s : State T) : State T → Prop where
  | passed : Cleans c s s
  | drained {w : Name} {h : ServiceHolder T} (hw : s.holders w = some h) :
      Cleans c s (s.setHolder w h.drainPermits)
  | unbound {w : Name} {h : ServiceHolder T} (hc : c.unbound = false) (htodo : c.todo.head? = some w)
      (hw : s.holders w = some h) (hb : h.bound = true) :
      Cleans c s { s.setHolder w h.unbindService with log := .unbound w true :: s.log }
  | again {w : Name} {h : ServiceHolder T} (hc : c.unbound = false) (htodo : c.todo.head? = some w)
      (hw : s.holders w = some h) (hb : h.bound = false) :
      Cleans c s { s with log := .unbound w false :: s.log }

theorem cleanUp_cases {c : CleanUp} {s : State T} {r : CleanUp × State T} (hn : c.next s = some r) :
    Cleans c s r.2 := by
  unfold CleanUp.next at hn
  cases htodo : c.todo with
  | nil => simp [htodo] at hn
  | cons w rest =>
    simp only [htodo] at hn
    have hhead : c.todo.head? = some w := by rw [htodo, List.head?_cons]
    cases hw : s.holders w with
    | none =>
      simp only [hw] at hn
      cases hn
      exact .passed
    | some h =>
      simp only [hw] at hn
      split at hn
      · cases hn
        exact .drained hw
      · next hc =>
        split at hn
        · next hb =>
          cases hn
          exact .unbound (Bool.eq_false_iff.2 hc) hhead hw hb
        · next hb =>
          cases hn
          exact .again (Bool.eq_false_iff.2 hc) hhead hw (Bool.eq_false_iff.2 hb)

end ServiceLocator
end OnionPhone
