import OnionPhone.SrtpProtocol

/-!
# OnionPhone.Native.Sessions

The call set-ups of one process, one after the other. libsrtp is initialised by every one of them and
shut down by none: `SrtpProtocol` declares no `deinit`.

`ownSender_iff_first`: only the first set-up of a process gets a sender of its own.
`sender_stays_first`: every later one is left with the sender of the first.
-/

namespace OnionPhone
namespace Native

open Wire SrtpProtocol

structure SetUpArgs where
  codec : Codec
  rtpRandom : RtpRandom
  txKey : Octets
  senderSalt : Salt
  receiverSsrc : Nat
  rxKey : Octets
  receiverSalt : Octets

def SetUpArgs.sender (c : SetUpArgs) (g : Globals) : ErrStatus × Globals :=
  initSender c.rtpRandom c.txKey c.senderSalt.1 c.codec.codecType c.codec.samplesSize
    c.codec.bytesSize (rtpPacketSizeInBytes c.codec) (packetSize c.codec) g

def SetUpArgs.run (c : SetUpArgs) (g : Globals) : Globals :=
  (initReceiver c.receiverSsrc c.rxKey c.receiverSalt (c.sender g).2).2

def afterSetUps (cs : List SetUpArgs) : Globals := cs.foldl (fun g c => c.run g) {}

/-- The session that should send for the set-up `c`. -/
def SetUpArgs.session (c : SetUpArgs) : SrtpCtx :=
  ⟨[newStream c.rtpRandom.ssrc (srtpKey c.txKey c.senderSalt.1)]⟩

/-- The set-up `c` succeeds from `g` on and gets a sender for its own SSRC, key and salt. -/
def OwnSender (c : SetUpArgs) (g : Globals) : Prop :=
  (c.sender g).1 = .ok ∧ getSsrc (c.sender g).2 = some (c.rtpRandom.ssrc : Nat) ∧
    (c.sender g).2.srtpContextSend = some c.session

theorem configured_native (c : SetUpArgs) (s : Session) :
    (configured c.codec c.senderSalt c.rtpRandom c.txKey c.rxKey c.receiverSsrc c.receiverSalt
      s).native = c.run s.native := rfl

/-! ## What a set-up does to the process -/

theorem run_fresh (c : SetUpArgs) :
    (c.run {}).kernel = loadedKernel ∧ (c.run {}).srtpContextSend = some c.session := by
  unfold SetUpArgs.run SetUpArgs.sender
  rw [initSender_fresh rfl]
  exact ⟨rfl, rfl⟩

theorem run_loaded {c : SetUpArgs} {g : Globals} (h : g.kernel = loadedKernel) :
    (c.run g).kernel = loadedKernel ∧ (c.run g).srtpContextSend = g.srtpContextSend := by
  unfold SetUpArgs.run SetUpArgs.sender
  rw [initSender_loaded h]
  exact ⟨h, rfl⟩

theorem sender_stays_first (c : SetUpArgs) (cs : List SetUpArgs) :
    (afterSetUps (c :: cs)).kernel = loadedKernel ∧
      (afterSetUps (c :: cs)).srtpContextSend = some c.session := by
  have hrun : ∀ (cs : List SetUpArgs) (g : Globals), g.kernel = loadedKernel →
      (cs.foldl (fun g c => c.run g) g).kernel = loadedKernel ∧
        (cs.foldl (fun g c => c.run g) g).srtpContextSend = g.srtpContextSend := by
    intro cs
    induction cs with
    | nil => intro g h; exact ⟨h, rfl⟩
    | cons c cs ih =>
      intro g h
      obtain ⟨hk, hs⟩ := run_loaded (c := c) h
      obtain ⟨hk', hs'⟩ := ih (c.run g) hk
      exact ⟨hk', hs'.trans hs⟩
  obtain ⟨hk, hs⟩ := run_fresh c
  obtain ⟨hk', hs'⟩ := hrun cs (c.run {}) hk
  exact ⟨hk', hs'.trans hs⟩

/-- Set-up number `m` of a process gets its own sender exactly when `m` is one. -/
theorem ownSender_iff_first (cs : List SetUpArgs) (c : SetUpArgs) :
    OwnSender c (afterSetUps cs) ↔ cs = [] := by
  constructor
  · intro h
    cases cs with
    | nil => rfl
    | cons c₁ cs =>
      have hk := (sender_stays_first c₁ cs).1
      have hs : (c.sender (afterSetUps (c₁ :: cs))).1 = .badParam := by
        unfold SetUpArgs.sender
        rw [initSender_loaded hk]
      rw [h.1] at hs
      cases hs
  · rintro rfl
    unfold OwnSender SetUpArgs.sender
    rw [show afterSetUps [] = {} from rfl, initSender_fresh rfl]
    exact ⟨rfl, rfl, rfl⟩

def sampleSetUp (n : UInt8) : SetUpArgs where
  codec := codec2
  rtpRandom := ⟨Fin.ofNat _ n.toNat, Fin.ofNat _ n.toNat, Fin.ofNat _ n.toNat⟩
  txKey := List.replicate 16 n
  senderSalt := ⟨List.replicate 14 n, by simp [SrtpProtocol.saltSize]⟩
  receiverSsrc := n.toNat
  rxKey := List.replicate 16 n
  receiverSalt := List.replicate 14 n

/-- The second call of a process goes on with the key of the first. -/
theorem second_set_up_without_sender :
    ¬ OwnSender (sampleSetUp 2) (afterSetUps [sampleSetUp 1]) ∧
    ((sampleSetUp 2).sender (afterSetUps [sampleSetUp 1])).1 = .badParam ∧
    ((sampleSetUp 2).sender (afterSetUps [sampleSetUp 1])).2.srtpContextSend =
      some (sampleSetUp 1).session := by
  have hs : ((sampleSetUp 2).sender (afterSetUps [sampleSetUp 1])).1 = .badParam := by decide
  refine ⟨?_, hs, by decide⟩
  intro h
  rw [h.1] at hs
  cases hs

end Native
end OnionPhone
