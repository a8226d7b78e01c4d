import OnionPhone.Media
import OnionPhone.Native.LiveJni

/-!
# OnionPhone.LiveMedia

The media threads over the native library as it is in memory, with AES in counter mode and HMAC-SHA1.

* `wrapper_runLive_eq`, `unwrapper_runLive_eq`: a thread writes what it writes over the library that computes
  every packet from the master key.
* `live_round_trip`: so frames come out as they went in, whatever memory and stack hold and whatever the
  receiving process has done before.
* `keystream_never_reused`: no two blocks of keystream that a sender uses are made from the same input.
-/

namespace OnionPhone
namespace Media

open Wire Wire.Octets Wire.Aes Native SrtpProtocol

/-! ## The threads -/

/-- One round of `SrtpWrapper.run` after the read. -/
def wrapPayloadLive (w : SrtpWrapper) (s : Octets × LiveGlobals) (payload : Octets) :
    Except Stop ((Octets × LiveGlobals) × Octets) :=
  match wrapPayloadNativeLive (writeAt s.1 w.headerSize payload) s.2 with
  | none => .error .crashed
  | some (.ok, packet, g) => .ok ((packet, g), packet)
  | some (status, _, _) => .error (.threw (.mainProtocol
      ("native srtp wrapper exited with error code: " ++ toString status.code)))

def SrtpWrapper.runLive (w : SrtpWrapper) (fuel : Nat) (g : LiveGlobals) (input : List Octets) :
    List Octets × Option Stop :=
  blockLoop w.payloadSize (wrapPayloadLive w) (.threw (.mainProtocol "cannot read payload")) fuel
    (List.replicate w.packetSize 0, g) input

/-- One round of `SrtpUnwrapper.run` after the read. -/
def unwrapPacketLive (u : SrtpUnwrapper) (g : LiveGlobals) (packet : Octets) :
    Except Stop (LiveGlobals × Octets) :=
  match unwrapPacketNativeLive packet g with
  | none => .error .crashed
  | some (.ok, packet, g) => .ok (g, slice packet u.headerSize u.payloadSize)
  | some (status, _, _) => .error (.threw (.mainProtocol
      ("native srtp unwrapper exited with error code: " ++ toString status.code)))

def SrtpUnwrapper.runLive (u : SrtpUnwrapper) (fuel : Nat) (g : LiveGlobals) (input : List Octets) :
    List Octets × Option Stop :=
  blockLoop u.packetSize (unwrapPacketLive u) (.threw (.mainProtocol "cannot read packet")) fuel g input

def runLive (c : SetUpArgs) (raw raw' : RawMemory) (l : LiveGlobals) : LiveGlobals :=
  (initReceiverLive raw' c.receiverSsrc c.rxKey c.receiverSalt
    (initSenderLive raw c.rtpRandom c.txKey c.senderSalt.1 c.codec.codecType c.codec.samplesSize
      c.codec.bytesSize (rtpPacketSizeInBytes c.codec) (SrtpProtocol.packetSize c.codec) l).2).2

/-! ## Threads in step -/

theorem wrapper_runLive_eq {g : Globals} {l : LiveGlobals} (h : InStepWith g l) (w : SrtpWrapper) (fuel : Nat)
    (input : List Octets) : w.runLive fuel l input = w.run libsrtp fuel g input := by
  refine (blockLoop_sim (R := fun (s : Octets × Globals) (t : Octets × LiveGlobals) =>
    s.1 = t.1 ∧ InStepWith s.2 t.2) ?_ _ fuel input ⟨rfl, h⟩).symm
  rintro ⟨buf, g⟩ ⟨buf', l⟩ payload ⟨hbuf, h⟩
  simp only at hbuf h
  subst hbuf
  have hanswer := wrapPayloadNative_live h (writeAt buf w.headerSize payload)
  simp only [wrapPayload, wrapPayloadLive]
  generalize wrapPayloadNative libsrtp (writeAt buf w.headerSize payload) g = x at hanswer ⊢
  generalize wrapPayloadNativeLive (writeAt buf w.headerSize payload) l = y at hanswer ⊢
  cases hanswer with
  | none => exact .inl ⟨_, rfl, rfl⟩
  | @some a b hab =>
    obtain ⟨status, packet, g'⟩ := a
    obtain ⟨status', packet', l'⟩ := b
    obtain ⟨hstatus, hpacket, hin⟩ := hab
    simp only at hstatus hpacket hin
    subst hstatus hpacket
    cases status with
    | ok => exact .inr ⟨_, _, _, rfl, rfl, rfl, hin⟩
    | _ => exact .inl ⟨_, rfl, rfl⟩

theorem unwrapper_runLive_eq {g : Globals} {l : LiveGlobals} (h : InStepWith g l) (u : SrtpUnwrapper)
    (fuel : Nat) (input : List Octets) : u.runLive fuel l input = u.run libsrtp fuel g input := by
  refine (blockLoop_sim (R := InStepWith) ?_ _ fuel input h).symm
  intro g l packet h
  have hanswer := unwrapPacketNative_live h packet
  simp only [unwrapPacket, unwrapPacketLive]
  generalize unwrapPacketNative libsrtp packet g = x at hanswer ⊢
  generalize unwrapPacketNativeLive packet l = y at hanswer ⊢
  cases hanswer with
  | none => exact .inl ⟨_, rfl, rfl⟩
  | @some a b hab =>
    obtain ⟨status, packet, g'⟩ := a
    obtain ⟨status', packet', l'⟩ := b
    obtain ⟨hstatus, hpacket, hin⟩ := hab
    simp only at hstatus hpacket hin
    subst hstatus hpacket
    cases status with
    | ok => exact .inr ⟨_, _, _, rfl, rfl, hin⟩
    | _ => exact .inl ⟨_, rfl, rfl⟩

/-- The keys and salts of a set-up have the lengths that the library copies. -/
structure Sized (c : SetUpArgs) : Prop where
  txKey : c.txKey.length = 16
  rxKey : c.rxKey.length = 16
  receiverSalt : c.receiverSalt.length = 14
  packet : SrtpProtocol.packetSize c.codec < 2 ^ 28

theorem srtpKey_length {key salt : Octets} (hk : key.length = 16) (hs : salt.length = 14) :
    (srtpKey key salt).length = 30 := by
  simp only [srtpKey, keySize, Native.saltSize, List.length_append, List.length_take, hk, hs]
  rfl

theorem run_inStepWith {c : SetUpArgs} (hc : Sized c) (raw raw' : RawMemory) {g : Globals} {l : LiveGlobals}
    (h : InStepWith g l) : InStepWith (c.run g) (runLive c raw raw' l) := by
  have hsize : rtpPacketSizeInBytes c.codec < 2 ^ 28 := by
    have hle : rtpPacketSizeInBytes c.codec ≤ SrtpProtocol.packetSize c.codec := Nat.le_add_right ..
    have hlt := hc.packet
    omega
  have hsend := (initSender_live h raw c.rtpRandom (srtpKey_length hc.txKey c.senderSalt.2) c.codec.codecType
    c.codec.samplesSize c.codec.bytesSize hsize hc.packet).2
  exact (initReceiver_live hsend raw' c.receiverSsrc (srtpKey_length hc.rxKey hc.receiverSalt)).2

/-! ## A whole call -/

def afterCall (call : NativeCall) (l : LiveGlobals) : Option LiveGlobals := (call.runLive l).map Prod.snd

theorem reached_call {call : NativeCall} {g g' : Globals} {P : Primitives} {a : Answer} (h : Reached g)
    (hr : call.run P g = some (a, g')) : Reached g' := by
  cases call with
  | initSender raw r key salt hkey ct sc ps rs ss hrs hss =>
    cases hr
    exact .initSender r key salt ct sc ps rs ss h
  | getSsrc =>
    obtain ⟨ssrc, -, heq⟩ := Option.map_eq_some_iff.1 hr
    cases heq
    exact h
  | initReceiver raw ssrc key salt hkey =>
    cases hr
    exact .initReceiver ssrc key salt h
  | wrapPayloadNative packet =>
    obtain ⟨out, hout, heq⟩ := Option.map_eq_some_iff.1 hr
    cases heq
    exact .wrapPayloadNative h hout
  | unwrapPacketNative packet =>
    obtain ⟨out, hout, heq⟩ := Option.map_eq_some_iff.1 hr
    cases heq
    exact .unwrapPacketNative h hout

theorem calls_inStepWith {calls : List NativeCall} : ∀ {g : Globals} {l l' : LiveGlobals}, Reached g →
    InStepWith g l → Wire.run afterCall l calls = some l' → ∃ g', Reached g' ∧ InStepWith g' l' := by
  induction calls with
  | nil =>
    intro g l l' hg h hrun
    cases hrun
    exact ⟨g, hg, h⟩
  | cons call calls ih =>
    intro g l l' hg h hrun
    obtain ⟨l₁, hcall, hrest⟩ := Option.bind_eq_some_iff.1 hrun
    obtain ⟨⟨a, l₂⟩, hl, rfl⟩ := Option.map_eq_some_iff.1 hcall
    have hlive := call_live call h
    rw [hl] at hlive
    generalize hx : call.run libsrtp g = x at hlive
    cases hlive with
    | @some b _ hab => exact ih (reached_call hg hx) hab.2 hrest

/-- The first call of the sending process, and a call of a receiving process that has done anything before:
what the microphone's encoder writes comes out of the unwrapper, however the streams on the way are cut into
chunks. -/
theorem live_round_trip {c c' : SetUpArgs} (hm : Matches c c') (hc : Sized c) (hc' : Sized c')
    (onStack onStack' : Nat → Stack) (rawS rawS' rawR rawR' : RawMemory) {calls : List NativeCall}
    {l : LiveGlobals} (hl : Wire.run afterCall { onStack := onStack' } calls = some l)
    (hsize : SrtpProtocol.packetSize c.codec = Connector.packetSize) {frames : List Octets}
    (hframes : ∀ f ∈ frames, f.length = c.codec.bytesSize) (hn : frames.length ≤ maxPackets)
    {fuel : Nat} (hfuel : frames.length < fuel) {audio cs₁ cs₂ cs₃ : List Octets}
    (h₀ : audio.flatten = frames.flatten)
    (h₁ : cs₁.flatten = ((createWrapper (sessionOf c {})).runLive fuel
      (runLive c rawS rawS' { onStack := onStack }) audio).1.flatten)
    (h₂ : cs₂.flatten = (Connector.run fuel cs₁).1.flatten)
    (h₃ : cs₃.flatten = (Connector.run fuel cs₂).1.flatten) :
    (createUnwrapper (sessionOf c' {})).runLive fuel (runLive c' rawR rawR' l) cs₃ =
      (frames, some (.threw (.mainProtocol "cannot read packet"))) := by
  obtain ⟨g, hg, hin⟩ := calls_inStepWith .start (start_inStepWith onStack') hl
  have hsender := run_inStepWith hc rawS rawS' (start_inStepWith onStack)
  have hreceiver := run_inStepWith hc' rawR rawR' hin
  rw [wrapper_runLive_eq hsender] at h₁
  rw [unwrapper_runLive_eq hreceiver]
  have hround := roundUpToMultipleOf4_spec c.codec.bytesSize
  have hbytes : 12 + roundUpToMultipleOf4 c.codec.bytesSize + 4 = 24 := hsize
  obtain ⟨packets, s', gr', hwraps, hpackets, hall, hunwraps⟩ :=
    frames_through (P := libsrtp) (w := createWrapper (sessionOf c {})) (u := createUnwrapper (sessionOf c' {}))
      frames (by omega) rfl rfl (congrArg Codec.bytesSize hm.codec) (run_senderAt c) (run_receiverAt hm hg)
      (by omega) (List.length_replicate (n := SrtpProtocol.packetSize c.codec) (a := 0)) hframes
  have hblocks : ∀ p ∈ packets, p.length = Connector.packetSize := by
    intro p hp
    rw [hall p hp, hsize]
  have hcount : packets.length < fuel := by omega
  have hwrapper : (createWrapper (sessionOf c {})).run libsrtp fuel (c.run {}) audio =
      (packets, some (.threw (.mainProtocol "cannot read payload"))) :=
    blockLoop_blocks (show 0 < c.codec.bytesSize by omega) hframes hwraps h₀ hfuel
  rw [hwrapper] at h₁
  rw [connector_blocks hblocks h₁ hcount] at h₂
  rw [connector_blocks hblocks h₂ hcount] at h₃
  -- the packets of the two codecs have one size
  have hpacket : (createUnwrapper (sessionOf c' {})).packetSize = Connector.packetSize := by
    rw [← hsize, ← hm.codec]
    rfl
  refine blockLoop_blocks (by rw [hpacket]; decide) ?_ hunwraps h₃ hcount
  intro p hp
  rw [hpacket, hblocks p hp]

def sampleMemory : RawMemory :=
  let c : AesIcmCtx := ⟨⟨1, 2, 3, 4⟩, ⟨5, 6, 7, 8⟩, ⟨9, 10, 11, 12⟩, [⟨13, 14, 15, 16⟩], 7⟩
  let ctx := sha1Init (List.replicate 64 0xaa) rfl
  ⟨c, ⟨[1], ctx, ctx⟩, c, ⟨[2], ctx, ctx⟩, ⟨c, List.replicate 256 0xbb, List.length_replicate⟩, [0xcc, 0xdd]⟩

def sampleStack (n : Nat) : Stack := ⟨fun i => BitVec.ofNat 32 (i + n), fun _ => 5⟩

theorem sampleSetUp_sized (n : UInt8) : Sized (sampleSetUp n) :=
  ⟨rfl, rfl, rfl, by simp only [sampleSetUp]; decide⟩

/-- Two Codec2 frames, to a process that has had another call set up before. -/
theorem live_round_trip_codec2 :
    let sent := (createWrapper (sessionOf (sampleSetUp 1) {})).runLive 3
      (runLive (sampleSetUp 1) sampleMemory sampleMemory { onStack := sampleStack }) [sampleFrames.flatten]
    let carried := Connector.run 3 (Connector.run 3 sent.1).1
    let used := runLive (sampleSetUp 2) sampleMemory sampleMemory { onStack := sampleStack }
    ((createUnwrapper (sessionOf (sampleSetUp 1) {})).runLive 3
      (runLive (sampleSetUp 1) sampleMemory sampleMemory used) carried.1).1 = sampleFrames := by
  intro sent carried used
  have hkey : (srtpKey (sampleSetUp 2).txKey (sampleSetUp 2).senderSalt.1).length = 30 := rfl
  have hframes : ∀ f ∈ sampleFrames, f.length = (sampleSetUp 1).codec.bytesSize := by decide
  have hused : Wire.run afterCall { onStack := sampleStack }
      [.initSender sampleMemory (sampleSetUp 2).rtpRandom (sampleSetUp 2).txKey (sampleSetUp 2).senderSalt.1 hkey
        codec2.codecType codec2.samplesSize codec2.bytesSize (rtpPacketSizeInBytes codec2)
        (SrtpProtocol.packetSize codec2) (by decide) (by decide),
      .initReceiver sampleMemory (sampleSetUp 2).receiverSsrc (sampleSetUp 2).rxKey (sampleSetUp 2).receiverSalt
        rfl] = some used := rfl
  have h := live_round_trip sampleSetUp_matches (sampleSetUp_sized 1) (sampleSetUp_sized 1) sampleStack sampleStack
    sampleMemory sampleMemory sampleMemory sampleMemory hused (by decide) hframes (by decide)
    (show sampleFrames.length < 3 by decide) (show [sampleFrames.flatten].flatten = sampleFrames.flatten from rfl)
    rfl rfl rfl
  exact congrArg Prod.fst h

/-! ## Inputs of the cipher -/

/-- What the cipher makes block `block` of the keystream of packet number `n + 1` from. -/
def cipherInput (c : SetUpArgs) (n block : Nat) : V128 :=
  counterBlock ((icmOffset (sessionKey c.masterKey .rtpEncryption .rtpSalt)).xor
    (packetIv c.rtpRandom.ssrc (c.index n))) block

theorem packetIv_octet (ssrc est : Nat) {k : Nat} (h₈ : 8 ≤ k) (h₁₄ : k < 14) :
    ((packetIv ssrc est).v8 k).toNat = est / 2 ^ (8 * (13 - k)) % 256 := by
  rw [packetIv, v128CopyOctetString, v8_ofV8 _ (by omega), UInt8.toNat_toBitVec]
  interval_cases k <;>
  · simp only [be64, be32, List.cons_append, List.nil_append, List.getD_cons_succ, List.getD_cons_zero,
      UInt8.toNat_ofNat']
    omega

theorem packetIv_index (ssrc : Nat) {est est' : Nat} (h : est < 2 ^ 48) (h' : est' < 2 ^ 48)
    (heq : ∀ k, 8 ≤ k → k < 14 → (packetIv ssrc est).v8 k = (packetIv ssrc est').v8 k) : est = est' := by
  have hoctet : ∀ k, 8 ≤ k → k < 14 →
      est / 2 ^ (8 * (13 - k)) % 256 = est' / 2 ^ (8 * (13 - k)) % 256 := by
    intro k h₈ h₁₄
    rw [← packetIv_octet ssrc est h₈ h₁₄, ← packetIv_octet ssrc est' h₈ h₁₄, heq k h₈ h₁₄]
  have h8 := hoctet 8 (by decide) (by decide)
  have h9 := hoctet 9 (by decide) (by decide)
  have h10 := hoctet 10 (by decide) (by decide)
  have h11 := hoctet 11 (by decide) (by decide)
  have h12 := hoctet 12 (by decide) (by decide)
  have h13 := hoctet 13 (by decide) (by decide)
  simp only [Nat.reduceSub, Nat.reduceMul, Nat.reducePow] at h8 h9 h10 h11 h12 h13
  omega

theorem cipherInput_inj {c : SetUpArgs} {i j a b : Nat} (hi : i < maxPackets) (hj : j < maxPackets)
    (ha : a ≤ 0xffff) (hb : b ≤ 0xffff) (h : cipherInput c i a = cipherInput c j b) : i = j ∧ a = b := by
  have hidx := counterBlock_blockIndex ((icmOffset (sessionKey c.masterKey .rtpEncryption .rtpSalt)).xor
    (packetIv c.rtpRandom.ssrc (c.index i))) a
  unfold cipherInput at h
  rw [h, counterBlock_blockIndex] at hidx
  refine ⟨index_injective c hi hj ?_, by omega⟩
  refine packetIv_index c.rtpRandom.ssrc (Nat.mod_lt _ (by decide)) (Nat.mod_lt _ (by decide)) ?_
  intro k h₈ h₁₄
  have hk := congrArg (V128.v8 · k) h
  simp only [v8_counterBlock _ _ (show k < 16 by omega), v8_xor _ _ (show k < 16 by omega),
    if_neg (show ¬ k = 14 by omega), if_neg (show ¬ k = 15 by omega), BitVec.xor_right_inj] at hk
  exact hk

/-- The sender's process after it has wrapped the arrays `bufs 0, …, bufs (n - 1)`. -/
def sentAfterLive (bufs : Nat → Octets) : Nat → LiveGlobals → Option LiveGlobals :=
  after fun i l => (wrapPayloadNativeLive (bufs i) l).map (·.2.2)

theorem wrapLive_step {c : SetUpArgs} {n : Nat} {g : Globals} {l : LiveGlobals} (hat : SenderAt c n g)
    (h : InStepWith g l) (hn : n < maxPackets) (buf : Octets) :
    ∃ g' l', SenderAt c (n + 1) g' ∧ InStepWith g' l' ∧
      wrapPayloadNative libsrtp buf g =
        some ((c.wrapped libsrtp n buf).1, (c.wrapped libsrtp n buf).2.1, g') ∧
      wrapPayloadNativeLive buf l =
        some ((c.wrapped libsrtp n buf).1, (c.wrapped libsrtp n buf).2.1, l') := by
  obtain ⟨g', hat', hw⟩ := wrap_step libsrtp buf hat hn
  have hlive := wrapPayloadNative_live h buf
  rw [hw] at hlive
  obtain ⟨l', hwrap, hin⟩ := hlive.of_some
  exact ⟨g', l', hat', hin, hw, hwrap⟩

theorem sentAfterLive_inStepWith {c : SetUpArgs} (hc : Sized c) (raw raw' : RawMemory) (onStack : Nat → Stack)
    (bufs : Nat → Octets) {n : Nat} (hn : n ≤ maxPackets) :
    ∃ l, sentAfterLive bufs n (runLive c raw raw' { onStack := onStack }) = some l ∧
      ∃ g, SenderAt c n g ∧ InStepWith g l := by
  refine after_inv (fun n l => ∃ g, SenderAt c n g ∧ InStepWith g l) ?_
    ⟨c.run {}, run_senderAt c, run_inStepWith hc raw raw' (start_inStepWith onStack)⟩ n hn
  rintro n l hn ⟨g, hat, hin⟩
  obtain ⟨g', l', hat', hin', -, hw⟩ := wrapLive_step hat hin hn (bufs n)
  exact ⟨l', by simp only [hw, Option.map_some], g', hat', hin'⟩

/-- A packet of the sender carries its payload under the cipher's output for inputs of its own, and no block
of any two packets that the stream may send is enciphered under the same input. -/
theorem keystream_never_reused {c : SetUpArgs} (hc : Sized c)
    (hfit : roundUpToMultipleOf4 c.codec.bytesSize ≤ 0xffff) (raw raw' : RawMemory) (onStack : Nat → Stack)
    (bufs : Nat → Octets) (hb : ∀ n, (bufs n).length = SrtpProtocol.packetSize c.codec) :
    (∀ n, n < maxPackets → ∃ l l' packet,
      sentAfterLive bufs n (runLive c raw raw' { onStack := onStack }) = some l ∧
      wrapPayloadNativeLive (bufs n) l = some (.ok, packet, l') ∧
      slice packet 12 (roundUpToMultipleOf4 c.codec.bytesSize) = xorStream (fun i => UInt8.ofBitVec
        (stateOctet (cipher sboxes (roundKey sboxes (v128CopyOctetString
            (sessionKey c.masterKey .rtpEncryption .rtpSalt)).state)
          (cipherInput c n (i / 16)).state) (i % 16)))
        (slice (bufs n) 12 (roundUpToMultipleOf4 c.codec.bytesSize))) ∧
    ∀ i j a b, i < maxPackets → j < maxPackets → a < roundUpToMultipleOf4 c.codec.bytesSize →
      b < roundUpToMultipleOf4 c.codec.bytesSize → cipherInput c i (a / 16) = cipherInput c j (b / 16) →
      i = j ∧ a / 16 = b / 16 := by
  refine ⟨?_, fun i j a b hi hj ha hb' h => cipherInput_inj hi hj (by omega) (by omega) h⟩
  intro n hn
  obtain ⟨l, hl, g, hat, hin⟩ := sentAfterLive_inStepWith hc raw raw' onStack bufs (Nat.le_of_lt hn)
  obtain ⟨g', l', -, -, -, hw⟩ := wrapLive_step hat hin hn (bufs n)
  obtain ⟨old, body, tail, hcut, hold, hbody, hwr⟩ := wrapped_eq (P := libsrtp) (n := n) (hb n) hfit
  rw [hwr] at hw
  refine ⟨l, l', _, hl, hw, ?_⟩
  have hplain : slice (bufs n) 12 (roundUpToMultipleOf4 c.codec.bytesSize) = body := by
    rw [hcut, ← hold, ← hbody, slice_append]
  have hct : (xorStream (libsrtp.keystream c.masterKey c.rtpRandom.ssrc (c.index n)) body).length =
      roundUpToMultipleOf4 c.codec.bytesSize := by
    rw [xorStream_length, hbody]
  rw [hplain, sealed]
  simp only
  rw [← hct, ← header_length c n, slice_append]
  rfl

/-- The second packet of a call, whose frame is zero, and the inputs of the first two packets. -/
theorem keystream_never_reused_codec2 :
    (∃ l l' packet,
      sentAfterLive (fun _ => List.replicate 24 0) 1
        (runLive (sampleSetUp 1) sampleMemory sampleMemory { onStack := sampleStack }) = some l ∧
      wrapPayloadNativeLive (List.replicate 24 0) l = some (.ok, packet, l') ∧
      slice packet 12 8 = xorStream (fun i => UInt8.ofBitVec
        (stateOctet (cipher sboxes (roundKey sboxes (v128CopyOctetString
            (sessionKey (sampleSetUp 1).masterKey .rtpEncryption .rtpSalt)).state)
          (cipherInput (sampleSetUp 1) 1 (i / 16)).state) (i % 16)))
        (List.replicate 8 0)) ∧
    cipherInput (sampleSetUp 1) 0 0 ≠ cipherInput (sampleSetUp 1) 1 0 := by
  obtain ⟨hpackets, hinputs⟩ := keystream_never_reused (sampleSetUp_sized 1) (by decide) sampleMemory sampleMemory
    sampleStack (fun _ => List.replicate 24 0) (fun _ => rfl)
  refine ⟨hpackets 1 (by decide), fun h => ?_⟩
  have hsame := hinputs 0 1 0 0 (by decide) (by decide) (by decide) (by decide) h
  exact absurd hsame.1 (by decide)

end Media
end OnionPhone
