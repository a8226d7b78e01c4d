import OnionPhone.Lib.History
import OnionPhone.Native.Sessions

/-!
# OnionPhone.SessionFlag

What `srtpInitialized` says. `SrtpProtocol` asks the native library for two contexts and the peer for an
SSRC and a salt. Any of it can fail: the library has its status, and a read or a write its `IOException`.

Here the library may answer as it likes, and its calls are noted. With the functions of `srtp_jni.c` it is
the model of `SrtpProtocol` (`outgoing_jni`, `incoming_jni`, `watch_phone`).

* `watch_outgoing`, `watch_incoming`: both ways to set up a session end in the same way.
* `marked_iff`: the flag means what it says exactly when nothing fails but the writes.
* `jni_cooperates_iff`: with the library as it is, exactly in the first set-up of a process.
-/

namespace OnionPhone
namespace SessionFlag

open Wire Wire.Method Native SrtpProtocol

/-! ## Sessions over any library -/

/-- The native functions that `SrtpProtocol` calls, on byte arrays that may be null. They return a status;
`none` is a crash of the process. -/
structure NativeLibrary where
  initSender : Option Octets → Octets → (codecType sampleCount payloadSizeInBytes rtpPacketSizeInBytes
    srtpPacketSizeInBytes : Nat) → Globals → Option (Int × Globals)
  getSsrc : Globals → Option Nat
  initReceiver : Nat → Option Octets → Option Octets → Globals → Option (Int × Globals)

/-- A native call that has returned, with its status. -/
inductive NativeCall where
  | initSender (status : Int)
  | initReceiver (ssrc : Nat) (salt : Option Octets) (status : Int)
  deriving DecidableEq, Repr

/-- Note the call and go on, whatever its status is. -/
def callNative (f : Globals → Option (Int × Globals)) (call : Int → NativeCall) :
    Method NativeCall Exn Session Unit := do
  let s ← fields
  match f s.native with
  | none => crash
  | some (status, g) =>
    note (call status)
    assign fun s => { s with native := g }

def callGetSsrc (N : NativeLibrary) : Method NativeCall Exn Session Nat := do
  let s ← fields
  match N.getSsrc s.native with
  | none => crash
  | some ssrc => pure ssrc

/-- The loop over the bytes throws when there is no array. -/
def printKey (key : Option Octets) : Method NativeCall Exn Session Unit :=
  match key with
  | none => throw .nullPointer
  | some _ => pure ()

def callInitSender (N : NativeLibrary) (codec : Codec) (txKey : Option Octets) (senderSalt : Octets) :
    Method NativeCall Exn Session Unit :=
  callNative (N.initSender txKey senderSalt codec.codecType codec.samplesSize codec.bytesSize
    (rtpPacketSizeInBytes codec) (packetSize codec)) .initSender

def callInitReceiver (N : NativeLibrary) (receiverSsrc : Nat) (rxKey receiverSalt : Option Octets) :
    Method NativeCall Exn Session Unit :=
  callNative (N.initReceiver receiverSsrc rxKey receiverSalt) (.initReceiver receiverSsrc receiverSalt)

/-- What both methods end with: the flag, and the keys in the log. -/
def finish (txKey rxKey : Option Octets) (senderSalt : Octets) (receiverSalt : Option Octets) :
    Method NativeCall Exn Session Unit := do
  assign fun s => { s with srtpInitialized := true }
  printKey txKey
  printKey (some senderSalt)
  printKey rxKey
  printKey receiverSalt

def initiateOutgoingSession (N : NativeLibrary) (codec : Codec) (senderSalt : Salt)
    (txKey rxKey : Option Octets) : Method NativeCall Exn Session Unit := do
  assign (setSizes codec)
  callInitSender N codec txKey senderSalt.1
  let senderSsrc ← callGetSsrc N
  sendSsrcAndSalt senderSalt.1 senderSsrc
  let receiverSsrc ← receiveSsrc
  let receiverSalt ← receiveSalt
  callInitReceiver N receiverSsrc rxKey receiverSalt
  finish txKey rxKey senderSalt.1 receiverSalt

def initiateIncomingSession (N : NativeLibrary) (codec : Codec) (senderSalt : Salt)
    (txKey rxKey : Option Octets) : Method NativeCall Exn Session Unit := do
  assign (setSizes codec)
  let receiverSsrc ← receiveSsrc
  let receiverSalt ← receiveSalt
  callInitSender N codec txKey senderSalt.1
  let senderSsrc ← callGetSsrc N
  sendSsrcAndSalt senderSalt.1 senderSsrc
  callInitReceiver N receiverSsrc rxKey receiverSalt
  finish txKey rxKey senderSalt.1 receiverSalt

/-! ## The library of the phone -/

/-- `srtp_jni.c`: `GetByteArrayRegion` of null is a crash. -/
def jni (r : RtpRandom) : NativeLibrary where
  initSender key salt ct sc ps rs ss g := key.map fun key =>
    ((Native.initSender r key salt ct sc ps rs ss g).1.code, (Native.initSender r key salt ct sc ps rs ss g).2)
  getSsrc := Native.getSsrc
  initReceiver ssrc key salt g := key.bind fun key => salt.map fun salt =>
    ((Native.initReceiver ssrc key salt g).1.code, (Native.initReceiver ssrc key salt g).2)

variable {ω : Type}

theorem unmarks_sendSsrcAndSalt (salt : Octets) (ssrc : Nat) :
    Unmarks (sendSsrcAndSalt salt ssrc : Method NativeCall Exn Session Unit)
      (sendSsrcAndSalt salt ssrc : Method ω Exn Session Unit) := by
  intro s
  simp only [sendSsrcAndSalt, Proc.unmarked, Proc.send.injEq, true_and]
  funext ok
  cases ok with
  | false => rfl
  | true =>
    simp only [if_true, write, Proc.unmarked, Proc.send.injEq, true_and]
    funext ok
    cases ok <;> rfl

theorem unmarks_receiveSsrc :
    Unmarks (receiveSsrc : Method NativeCall Exn Session Nat) (receiveSsrc : Method ω Exn Session Nat) := by
  intro s
  refine congrArg (Proc.recv 4) ?_
  funext o
  cases o <;> rfl

theorem unmarks_receiveSalt :
    Unmarks (receiveSalt : Method NativeCall Exn Session (Option Octets))
      (receiveSalt : Method ω Exn Session (Option Octets)) :=
  fun _ => rfl

theorem unmarks_callInitSender (r : RtpRandom) (codec : Codec) (txKey : Option Octets) (salt : Octets) :
    Unmarks (callInitSender (jni r) codec txKey salt)
      (SrtpProtocol.callInitSender r codec txKey salt : Method ω Exn Session Unit) := by
  intro s
  cases txKey <;> rfl

theorem unmarks_callGetSsrc (r : RtpRandom) :
    Unmarks (callGetSsrc (jni r)) (SrtpProtocol.callGetSsrc : Method ω Exn Session Nat) := by
  intro s
  have hN : (jni r).getSsrc s.native = getSsrc s.native := rfl
  simp only [callGetSsrc, SrtpProtocol.callGetSsrc, fields_bind_run, hN]
  cases getSsrc s.native <;> rfl

theorem unmarks_callInitReceiver (r : RtpRandom) (txKey senderSalt : Octets) (ssrc : Nat)
    (rxKey receiverSalt : Option Octets) :
    Unmarks (do
      callInitReceiver (jni r) ssrc rxKey receiverSalt
      finish (some txKey) rxKey senderSalt receiverSalt)
      (do
        SrtpProtocol.callInitReceiver ssrc rxKey receiverSalt
        assign fun s => { s with srtpInitialized := true } : Method ω Exn Session Unit) := by
  intro s
  cases rxKey with
  | none => cases receiverSalt <;> rfl
  | some rxKey => cases receiverSalt <;> rfl

theorem outgoing_jni (r : RtpRandom) (codec : Codec) (senderSalt : Salt) (txKey rxKey : Option Octets) :
    Unmarks (initiateOutgoingSession (jni r) codec senderSalt txKey rxKey)
      (SrtpProtocol.initiateOutgoingSession codec senderSalt r txKey rxKey : Method ω Exn Session Unit) := by
  cases txKey with
  | none => exact fun _ => rfl
  | some txKey =>
    refine .bind (fun _ => rfl) fun _ => .bind (unmarks_callInitSender r codec (some txKey) _) fun _ => ?_
    refine .bind (unmarks_callGetSsrc r) fun ssrc => .bind (unmarks_sendSsrcAndSalt _ ssrc) fun _ => ?_
    refine .bind unmarks_receiveSsrc fun ssrc' => .bind unmarks_receiveSalt fun salt => ?_
    exact unmarks_callInitReceiver r txKey senderSalt.1 ssrc' rxKey salt

theorem incoming_jni (r : RtpRandom) (codec : Codec) (senderSalt : Salt) (txKey rxKey : Option Octets) :
    Unmarks (initiateIncomingSession (jni r) codec senderSalt txKey rxKey)
      (SrtpProtocol.initiateIncomingSession codec senderSalt r txKey rxKey : Method ω Exn Session Unit) := by
  refine .bind (fun _ => rfl) fun _ => .bind unmarks_receiveSsrc fun ssrc' => ?_
  refine .bind unmarks_receiveSalt fun salt => ?_
  cases txKey with
  | none => exact fun _ => rfl
  | some txKey =>
    refine .bind (unmarks_callInitSender r codec (some txKey) _) fun _ => ?_
    refine .bind (unmarks_callGetSsrc r) fun ssrc => .bind (unmarks_sendSsrcAndSalt _ ssrc) fun _ => ?_
    exact unmarks_callInitReceiver r txKey senderSalt.1 ssrc' rxKey salt

/-! ## How a session is set up -/

/-- What the reads get and how the writes go. `none`: the stream ended or failed at some byte. -/
structure Network where
  ssrc : Option { bs : Octets // bs.length = 4 }
  salt : Option Salt
  ssrcWritten : Bool
  saltWritten : Bool

namespace Network

def reads (net : Network) : List Reply :=
  [(net.ssrc.map fun bs => .data bs.1).getD .failed, (net.salt.map fun bs => .data bs.1).getD .failed]

/-- The salt is written after the SSRC, in the same `try`. -/
def writes (net : Network) : List Reply :=
  if net.ssrcWritten then [.done, if net.saltWritten then .done else .failed] else [.failed]

def ssrcValue (net : Network) : Nat := (net.ssrc.map fun bs => Octets.ofBe bs.1).getD 0

def saltArray (net : Network) : Option Octets := net.salt.map Subtype.val

end Network

section

variable (N : NativeLibrary) (codec : Codec) (senderSalt : Salt) (txKey rxKey : Option Octets)

def finished (net : Network) (s : Session) (g : Globals) : Except Exn Unit × Session :=
  (if txKey.isSome && rxKey.isSome && net.salt.isSome then .ok () else .error .nullPointer,
    { setSizes codec s with srtpInitialized := true, native := g })

/-- From `getSsrc` on, when `initSender` has left the native state `g`. -/
def afterSender (net : Network) (s : Session) (g : Globals) :
    List NativeCall × Option (Except Exn Unit × Session) :=
  match N.getSsrc g with
  | none => ([], none)
  | some _ =>
    match N.initReceiver net.ssrcValue rxKey net.saltArray g with
    | none => ([], none)
    | some (status, g') =>
      ([.initReceiver net.ssrcValue net.saltArray status], some (finished codec txKey rxKey net s g'))

def outcome (net : Network) (s : Session) : List NativeCall × Option (Except Exn Unit × Session) :=
  match N.initSender txKey senderSalt.1 codec.codecType codec.samplesSize codec.bytesSize
    (rtpPacketSizeInBytes codec) (packetSize codec) s.native with
  | none => ([], none)
  | some (status, g) =>
    (.initSender status :: (afterSender N codec txKey rxKey net s g).1,
      (afterSender N codec txKey rxKey net s g).2)

variable {N codec senderSalt txKey rxKey}

theorem watch_callNative {α : Type} {f : Globals → Option (Int × Globals)} {call : Int → NativeCall}
    {k : Unit → Method NativeCall Exn Session α} {s : Session} {rs : List Reply} :
    ((callNative f call >>= k) s).watch rs =
      match f s.native with
      | none => ([], none)
      | some (status, g) =>
        (call status :: ((k () { s with native := g }).watch rs).1,
          ((k () { s with native := g }).watch rs).2) := by
  simp only [callNative, bind_assoc_run, fields_bind_run]
  cases f s.native with
  | none => rfl
  | some r => rfl

theorem watch_callGetSsrc {α : Type} {k : Nat → Method NativeCall Exn Session α} {s : Session}
    {rs : List Reply} :
    ((callGetSsrc N >>= k) s).watch rs =
      match N.getSsrc s.native with
      | none => ([], none)
      | some ssrc => ((k ssrc) s).watch rs := by
  simp only [callGetSsrc, bind_assoc_run, fields_bind_run]
  cases N.getSsrc s.native with
  | none => rfl
  | some r => rfl

theorem watch_send {α : Type} {salt : Octets} {ssrc : Nat} {k : Unit → Method NativeCall Exn Session α}
    {s : Session} {net : Network} {rs : List Reply} :
    ((sendSsrcAndSalt salt ssrc >>= k) s).watch (net.writes ++ rs) = (k () s).watch rs := by
  obtain ⟨o, o', ssrcWritten, saltWritten⟩ := net
  cases ssrcWritten <;> cases saltWritten <;> rfl

theorem watch_receive {α : Type} {k : Nat → Option Octets → Method NativeCall Exn Session α} {s : Session}
    {net : Network} {rs : List Reply} :
    ((do let ssrc ← receiveSsrc; let salt ← receiveSalt; k ssrc salt) s).watch (net.reads ++ rs) =
      (k net.ssrcValue net.saltArray s).watch rs := by
  have hread : ∀ (n : Nat) (o : Option { bs : Octets // bs.length = n }),
      ((o.map fun bs => Reply.data bs.1).getD .failed).octets n = some (o.map Subtype.val) := by
    intro n o
    cases o with
    | none => rfl
    | some bs => simp [Reply.octets, bs.2]
  have hssrc := hread 4 net.ssrc
  have hsalt := hread SrtpProtocol.saltSize net.salt
  show (Proc.watch (.recv 4 _) (_ :: _)) = _
  simp only [Proc.watch, hssrc]
  obtain ⟨ssrc, salt, w, w'⟩ := net
  cases ssrc with
  | none =>
    show (Proc.watch (.recv SrtpProtocol.saltSize _) (_ :: _)) = _
    simp only [Proc.watch, hsalt]
    rfl
  | some bs =>
    show (Proc.watch (.recv SrtpProtocol.saltSize _) (_ :: _)) = _
    simp only [Proc.watch, hsalt]
    rfl

theorem watch_finish {net : Network} {s : Session} {rs : List Reply} :
    (finish txKey rxKey senderSalt.1 net.saltArray s).watch rs =
      ([], some (if txKey.isSome && rxKey.isSome && net.salt.isSome then .ok () else .error .nullPointer,
        { s with srtpInitialized := true })) := by
  obtain ⟨ssrc, salt, w, w'⟩ := net
  cases txKey <;> cases rxKey <;> cases salt <;> rfl

theorem watch_outgoing (net : Network) (s : Session) :
    (initiateOutgoingSession N codec senderSalt txKey rxKey s).watch (net.writes ++ net.reads) =
      outcome N codec senderSalt txKey rxKey net s := by
  have hr : net.writes ++ net.reads = net.writes ++ (net.reads ++ []) := by rw [List.append_nil]
  have hn : (setSizes codec s).native = s.native := rfl
  simp only [initiateOutgoingSession, callInitSender, callInitReceiver, assign_bind_run, watch_callNative,
    watch_callGetSsrc, hr, watch_send, watch_receive, watch_finish, outcome, hn]
  cases N.initSender txKey senderSalt.1 codec.codecType codec.samplesSize codec.bytesSize
    (rtpPacketSizeInBytes codec) (packetSize codec) s.native with
  | none => rfl
  | some r => rfl

theorem watch_incoming (net : Network) (s : Session) :
    (initiateIncomingSession N codec senderSalt txKey rxKey s).watch (net.reads ++ net.writes) =
      outcome N codec senderSalt txKey rxKey net s := by
  have hw : net.writes = net.writes ++ [] := by rw [List.append_nil]
  have hn : (setSizes codec s).native = s.native := rfl
  simp only [initiateIncomingSession, assign_bind_run, watch_receive]
  rw [hw]
  simp only [callInitSender, callInitReceiver, watch_callNative, watch_callGetSsrc, watch_send, watch_finish,
    outcome, hn]
  cases N.initSender txKey senderSalt.1 codec.codecType codec.samplesSize codec.bytesSize
    (rtpPacketSizeInBytes codec) (packetSize codec) s.native with
  | none => rfl
  | some r => rfl

theorem watch_phone (r : RtpRandom) (net : Network) (s : Session) :
    (((SrtpProtocol.initiateOutgoingSession codec senderSalt r txKey rxKey : Method ω Exn Session Unit)
      s).watch (net.writes ++ net.reads)).2 = (outcome (jni r) codec senderSalt txKey rxKey net s).2 ∧
    (((SrtpProtocol.initiateIncomingSession codec senderSalt r txKey rxKey : Method ω Exn Session Unit)
      s).watch (net.reads ++ net.writes)).2 = (outcome (jni r) codec senderSalt txKey rxKey net s).2 := by
  constructor
  · rw [← outgoing_jni r codec senderSalt txKey rxKey s, Proc.watch_unmarked, watch_outgoing]
  · rw [← incoming_jni r codec senderSalt txKey rxKey s, Proc.watch_unmarked, watch_incoming]

/-! ## What the flag means -/

/-- Both contexts were made, the receiver's with the SSRC and the salt that the peer sent. -/
def Ready (net : Network) (calls : List NativeCall) : Prop :=
  .initSender 0 ∈ calls ∧ ∃ ssrc salt, net.ssrc = some ssrc ∧ net.salt = some salt ∧
    .initReceiver (Octets.ofBe ssrc.1) (some salt.1) 0 ∈ calls

/-- The flag is set, and the method returns, only when SRTP is ready; otherwise it raises and the flag is
not set. -/
structure MarkedWhenReady (net : Network) (out : List NativeCall × Option (Except Exn Unit × Session)) :
    Prop where
  marked : ∀ r s, out.2 = some (r, s) → s.srtpInitialized = true → Ready net out.1
  raised : ¬ Ready net out.1 → ∃ e s, out.2 = some (.error e, s) ∧ s.srtpInitialized = false

variable (N codec senderSalt txKey rxKey) in
/-- The reads get all their bytes, and both native functions return zero. -/
def Cooperates (net : Network) (g : Globals) : Prop :=
  ∃ ssrc salt own g₁ g₂, net.ssrc = some ssrc ∧ net.salt = some salt ∧
    N.initSender txKey senderSalt.1 codec.codecType codec.samplesSize codec.bytesSize
      (rtpPacketSizeInBytes codec) (packetSize codec) g = some (0, g₁) ∧
    N.getSsrc g₁ = some own ∧
    N.initReceiver (Octets.ofBe ssrc.1) rxKey (some salt.1) g₁ = some (0, g₂)

theorem ready_outcome_iff (net : Network) (s : Session) :
    Ready net (outcome N codec senderSalt txKey rxKey net s).1 ↔
      Cooperates N codec senderSalt txKey rxKey net s.native := by
  unfold Cooperates
  constructor
  · rintro ⟨hsender, ssrc, salt, hssrc, hsalt, hreceiver⟩
    have hv : net.ssrcValue = Octets.ofBe ssrc.1 := by rw [Network.ssrcValue, hssrc]; rfl
    have ha : net.saltArray = some salt.1 := by rw [Network.saltArray, hsalt]; rfl
    cases hs : N.initSender txKey senderSalt.1 codec.codecType codec.samplesSize codec.bytesSize
      (rtpPacketSizeInBytes codec) (packetSize codec) s.native with
    | none => simp [outcome, hs] at hsender
    | some r =>
      obtain ⟨status, g₁⟩ := r
      cases ho : N.getSsrc g₁ with
      | none => simp [outcome, afterSender, hs, ho] at hreceiver
      | some own =>
        cases hr : N.initReceiver (Octets.ofBe ssrc.1) rxKey (some salt.1) g₁ with
        | none => simp [outcome, afterSender, hs, ho, hv, ha, hr] at hreceiver
        | some r' =>
          obtain ⟨status', g₂⟩ := r'
          obtain rfl : 0 = status := by simpa [outcome, afterSender, hs, ho, hv, ha, hr] using hsender
          obtain rfl : 0 = status' := by simpa [outcome, afterSender, hs, ho, hv, ha, hr] using hreceiver
          exact ⟨ssrc, salt, own, g₁, g₂, hssrc, hsalt, rfl, ho, hr⟩
  · rintro ⟨ssrc, salt, own, g₁, g₂, hssrc, hsalt, hs, ho, hr⟩
    have hv : net.ssrcValue = Octets.ofBe ssrc.1 := by rw [Network.ssrcValue, hssrc]; rfl
    have ha : net.saltArray = some salt.1 := by rw [Network.saltArray, hsalt]; rfl
    refine ⟨?_, ssrc, salt, hssrc, hsalt, ?_⟩
    · simp only [outcome, hs, List.mem_cons, true_or]
    · simp only [outcome, afterSender, hs, ho, hv, ha, hr]
      simp

/-- A set-up that does not crash has set the flag, however it ends. -/
theorem outcome_flag {net : Network} {s s' : Session} {r : Except Exn Unit}
    (h : (outcome N codec senderSalt txKey rxKey net s).2 = some (r, s')) : s'.srtpInitialized = true := by
  unfold outcome at h
  split at h
  · cases h
  · unfold afterSender at h
    split at h
    · cases h
    · split at h
      · cases h
      · cases h
        rfl

theorem markedWhenReady_outcome_iff (net : Network) (s : Session) :
    MarkedWhenReady net (outcome N codec senderSalt txKey rxKey net s) ↔
      Cooperates N codec senderSalt txKey rxKey net s.native := by
  rw [← ready_outcome_iff]
  constructor
  · intro h
    by_contra hn
    obtain ⟨e, s', hout, hflag⟩ := h.raised hn
    have htrue := outcome_flag hout
    rw [hflag] at htrue
    cases htrue
  · intro h
    exact ⟨fun _ _ _ _ => h, fun hn => absurd h hn⟩

/-- For every library and every way the reads and writes can go. -/
theorem marked_iff (N : NativeLibrary) (codec : Codec) (senderSalt : Salt) (txKey rxKey : Option Octets)
    (net : Network) (s : Session) :
    (MarkedWhenReady net ((initiateOutgoingSession N codec senderSalt txKey rxKey s).watch
      (net.writes ++ net.reads)) ↔ Cooperates N codec senderSalt txKey rxKey net s.native) ∧
    (MarkedWhenReady net ((initiateIncomingSession N codec senderSalt txKey rxKey s).watch
      (net.reads ++ net.writes)) ↔ Cooperates N codec senderSalt txKey rxKey net s.native) := by
  rw [watch_outgoing, watch_incoming]
  exact ⟨markedWhenReady_outcome_iff net s, markedWhenReady_outcome_iff net s⟩

end

/-! ## The first set-up of a process, and the others -/

/-- With the library as it is: the process is new, no key is null, and the reads get all their bytes. -/
theorem jni_cooperates_iff {r : RtpRandom} {codec : Codec} {senderSalt : Salt}
    {txKey rxKey : Option Octets} {net : Network} {g : Globals} (hg : Reached g) :
    Cooperates (jni r) codec senderSalt txKey rxKey net g ↔
      g.kernel = {} ∧ txKey.isSome ∧ rxKey.isSome ∧ net.ssrc.isSome ∧ net.salt.isSome := by
  constructor
  · rintro ⟨ssrc, salt, own, g₁, g₂, hssrc, hsalt, hs, -, hr⟩
    obtain ⟨key, rfl, hkey⟩ := Option.map_eq_some_iff.1 hs
    obtain ⟨key', rfl, -⟩ := Option.bind_eq_some_iff.1 hr
    refine ⟨?_, rfl, rfl, by rw [hssrc]; rfl, by rw [hsalt]; rfl⟩
    rcases hg.kernel with hk | hk
    · exact hk
    · rw [initSender_loaded hk] at hkey
      cases hkey
  · rintro ⟨hk, ht, hr, hssrc, hsalt⟩
    obtain ⟨key, rfl⟩ := Option.isSome_iff_exists.1 ht
    obtain ⟨key', rfl⟩ := Option.isSome_iff_exists.1 hr
    obtain ⟨ssrc, hssrc⟩ := Option.isSome_iff_exists.1 hssrc
    obtain ⟨salt, hsalt⟩ := Option.isSome_iff_exists.1 hsalt
    obtain ⟨g₁, hs, hk₁, hown⟩ : ∃ g₁, initSender r key senderSalt.1 codec.codecType codec.samplesSize
        codec.bytesSize (rtpPacketSizeInBytes codec) (packetSize codec) g = (.ok, g₁) ∧
        g₁.kernel = loadedKernel ∧ getSsrc g₁ = some (r.ssrc : Nat) :=
      ⟨_, initSender_fresh hk .., rfl, rfl⟩
    obtain ⟨g₂, hrecv⟩ : ∃ g₂, initReceiver (Octets.ofBe ssrc.1) key' salt.1 g₁ = (.ok, g₂) :=
      ⟨_, initReceiver_loaded hk₁ ..⟩
    refine ⟨ssrc, salt, r.ssrc, g₁, g₂, hssrc, hsalt, ?_, hown, ?_⟩
    · simp only [jni, Option.map_some, hs]
      rfl
    · simp only [jni, Option.map_some, Option.bind_some, hrecv]
      rfl

theorem marked_first :
    let net : Network := ⟨some ⟨[0, 0, 0, 1], rfl⟩, some (sampleSetUp 1).senderSalt, true, false⟩
    MarkedWhenReady net ((initiateOutgoingSession (jni (sampleSetUp 1).rtpRandom) codec2
      (sampleSetUp 1).senderSalt (some (sampleSetUp 1).txKey) (some (sampleSetUp 1).rxKey) {}).watch
        (net.writes ++ net.reads)) := by
  intro net
  refine (marked_iff _ _ _ _ _ net _).1.2 ?_
  exact (jni_cooperates_iff .start).2 ⟨rfl, rfl, rfl, rfl, rfl⟩

/-- The second set-up of a process: `initSender` returns 2, and nobody looks at it. -/
theorem marked_without_sender :
    let net : Network := ⟨some ⟨[0, 0, 0, 1], rfl⟩, some (sampleSetUp 1).senderSalt, true, true⟩
    let out := (initiateOutgoingSession (jni (sampleSetUp 2).rtpRandom) codec2
      (sampleSetUp 2).senderSalt (some (sampleSetUp 2).txKey) (some (sampleSetUp 2).rxKey)
      { native := afterSetUps [sampleSetUp 1] }).watch (net.writes ++ net.reads)
    out.1.head? = some (.initSender 2) ∧ ¬ MarkedWhenReady net out := by
  intro net out
  have hcalls : out.1 = [.initSender 2, .initReceiver 1 (some (sampleSetUp 1).senderSalt.1) 0] := by
    decide +kernel
  have hflag : out.2.map (fun r => r.2.srtpInitialized) = some true := by decide +kernel
  refine ⟨by rw [hcalls]; rfl, ?_⟩
  intro h
  have hready : ¬ Ready net out.1 := by
    rintro ⟨hsender, -⟩
    rw [hcalls] at hsender
    revert hsender
    decide
  obtain ⟨e, s, hout, hs⟩ := h.raised hready
  rw [hout] at hflag
  simp [hs] at hflag

end SessionFlag
end OnionPhone
