import OnionPhone.LiveMedia
import OnionPhone.SetUp

/-!
# OnionPhone.Conversation

Two phones that talk: on each of them the threads that wrap, forward and unwrap, and between them a network
that delivers octets in order, any number at a time. All of these move in any order.

* `move`: one round of one thread, or a delivery. A thread that has too little to read waits.
* `Flow`: in one direction, what was said is what has been heard, what is in packets on the way, and what
  waits to be wrapped.
* `both_hear_every_frame`: after the set-up of a call, in whatever order its steps were taken, no move of the
  conversation makes a thread throw, each phone has heard the beginning of what the other one has said, and
  it is always possible that it hears the rest.
-/

namespace OnionPhone
namespace Conversation

open Wire Wire.Octets Native SrtpProtocol Media

/-! ## The system -/

/-- One direction: the octets in the pipes and on the network, and the frames that the unwrapper has written. -/
structure Way where
  audio : Octets := []
  wrapped : Octets := []
  sent : Octets := []
  arrived : Octets := []
  application : Octets := []
  heard : List Octets := []

/-- A phone whose media threads run: `packet` is the array of the wrapper. -/
structure End where
  wrapper : SrtpWrapper
  unwrapper : SrtpUnwrapper
  packet : Octets
  native : LiveGlobals

inductive Move where
  /-- `AudioInputWorker` writes an encoded frame. -/
  | speak (frame : Octets)
  | wrap
  /-- The connector from the application to the network. -/
  | toNetwork
  | deliver (count : Nat)
  /-- The connector from the network to the application. -/
  | toApplication
  | unwrap
  deriving DecidableEq, Repr

/-- From the phone `a` to the phone `b`. `none`: a thread threw, or a process crashed. -/
def move : Move → End × End × Way → Option (End × End × Way)
  | .speak frame, (a, b, w) => some (a, b, { w with audio := w.audio ++ frame })
  | .wrap, (a, b, w) =>
    let size := a.wrapper.payloadSize
    if w.audio.length < size then some (a, b, w)
    else match wrapPayloadLive a.wrapper (a.packet, a.native) (w.audio.take size) with
      | .error _ => none
      | .ok ((packet, native), bytes) => some ({ a with packet := packet, native := native }, b,
          { w with audio := w.audio.drop size, wrapped := w.wrapped ++ bytes })
  | .toNetwork, (a, b, w) =>
    let size := Connector.packetSize
    if w.wrapped.length < size then some (a, b, w)
    else some (a, b, { w with wrapped := w.wrapped.drop size, sent := w.sent ++ w.wrapped.take size })
  | .deliver count, (a, b, w) =>
    some (a, b, { w with sent := w.sent.drop count, arrived := w.arrived ++ w.sent.take count })
  | .toApplication, (a, b, w) =>
    let size := Connector.packetSize
    if w.arrived.length < size then some (a, b, w)
    else some (a, b,
      { w with arrived := w.arrived.drop size, application := w.application ++ w.arrived.take size })
  | .unwrap, (a, b, w) =>
    let size := b.unwrapper.packetSize
    if w.application.length < size then some (a, b, w)
    else match unwrapPacketLive b.unwrapper b.native (w.application.take size) with
      | .error _ => none
      | .ok (native, payload) => some (a, { b with native := native },
          { w with application := w.application.drop size, heard := w.heard ++ [payload] })

inductive Side where
  | caller
  | callee
  deriving DecidableEq, Repr

/-- `out` is the way from the caller to the callee. -/
structure State where
  caller : End
  callee : End
  out : Way := {}
  back : Way := {}

def step : Side × Move → State → Option State
  | (.caller, m), s => (move m (s.caller, s.callee, s.out)).map fun (a, b, w) => ⟨a, b, w, s.back⟩
  | (.callee, m), s => (move m (s.callee, s.caller, s.back)).map fun (b, a, w) => ⟨a, b, s.out, w⟩

def Move.frames : Move → List Octets
  | .speak frame => [frame]
  | _ => []

def spokenBy (side : Side) (moves : List (Side × Move)) : List Octets :=
  moves.flatMap fun m => if m.1 = side then m.2.frames else []

/-- The threads that `wrapStream` and `unwrapStream` start for a session, in a process. -/
def endOf (s : Session) (native : LiveGlobals) : End :=
  ⟨createWrapper s, createUnwrapper s, List.replicate s.packetSizeInBytes 0, native⟩

/-! ## Packets on the way -/

variable {P : Primitives} {c : SetUpArgs}

/-- Packet number `n + 1`, with this payload and its padding. -/
def packetOf (P : Primitives) (c : SetUpArgs) (n : Nat) (body : Octets) : Octets :=
  sealed P c.rtpRandom.ssrc c.masterKey (c.index n) (c.header n) body

theorem packetOf_length {n : Nat} {body : Octets} (h : body.length = roundUpToMultipleOf4 c.codec.bytesSize) :
    (packetOf P c n body).length = packetSize c.codec := by
  simp only [packetOf, sealed, List.length_append, xorStream_length, P.authTag_length, header_length, h]
  simp only [packetSize, srtpHeaderSizeInBytes, srtpAuthorizationTagSizeInBytes]

/-- The packets from number `n + 1` on, with these frames in them. -/
inductive InPackets (P : Primitives) (c : SetUpArgs) : Nat → List Octets → Octets → Prop where
  | nil (n : Nat) : InPackets P c n [] []
  | cons {n : Nat} {frames : List Octets} {body rest : Octets}
      (hbody : body.length = roundUpToMultipleOf4 c.codec.bytesSize) (h : InPackets P c (n + 1) frames rest) :
      InPackets P c n (body.take c.codec.bytesSize :: frames) (packetOf P c n body ++ rest)

theorem InPackets.length {n : Nat} {frames : List Octets} {bytes : Octets} (h : InPackets P c n frames bytes) :
    bytes.length = packetSize c.codec * frames.length := by
  induction h with
  | nil n => rfl
  | cons hbody _ ih =>
    rw [List.length_append, packetOf_length hbody, ih, List.length_cons]
    ring

theorem InPackets.snoc {n : Nat} {frames : List Octets} {bytes body : Octets} (h : InPackets P c n frames bytes)
    (hbody : body.length = roundUpToMultipleOf4 c.codec.bytesSize) :
    InPackets P c n (frames ++ [body.take c.codec.bytesSize])
      (bytes ++ packetOf P c (n + frames.length) body) := by
  induction h with
  | nil n =>
    have hlast := InPackets.cons hbody (InPackets.nil (P := P) (n + 1))
    rwa [List.append_nil] at hlast
  | @cons n frames body' rest hbody' _ ih =>
    rw [List.append_assoc, List.cons_append, List.length_cons, show n + (frames.length + 1) =
      n + 1 + frames.length by omega]
    exact .cons hbody' ih

/-! ## Both halves of a process -/

theorem wrapPayloadNative_receiverAt {P : Primitives} {buf out : Octets} {g g' : Globals} {status : ErrStatus}
    (h : wrapPayloadNative P buf g = some (status, out, g')) {n : Nat} (hr : ReceiverAt c n g) :
    ReceiverAt c n g' := by
  simp only [wrapPayloadNative, Option.bind_eq_bind, Option.bind_eq_some_iff] at h
  obtain ⟨_, _, _, _, h⟩ := h
  cases h
  exact ⟨hr.size, hr.recv⟩

theorem unwrapPacketNative_senderAt {P : Primitives} {buf out : Octets} {g g' : Globals} {status : ErrStatus}
    (h : unwrapPacketNative P buf g = some (status, out, g')) {n : Nat} (hs : SenderAt c n g) :
    SenderAt c n g' := by
  simp only [unwrapPacketNative, Option.bind_eq_bind, Option.bind_eq_some_iff] at h
  obtain ⟨_, _, h⟩ := h
  cases h
  exact ⟨hs.rtp, hs.size, hs.send⟩

structure Threads (codec : Codec) (a : End) : Prop where
  wrapper : a.wrapper = ⟨codec.bytesSize, packetSize codec, 12⟩
  unwrapper : a.unwrapper = ⟨packetSize codec, codec.bytesSize, 12⟩
  packet : a.packet.length = packetSize codec

theorem wrap_round {n : Nat} {g : Globals} {a : End} {frame : Octets} (ha : Threads c.codec a)
    (hfit : roundUpToMultipleOf4 c.codec.bytesSize ≤ 0xffff) (hs : SenderAt c n g) (hg : InStepWith g a.native)
    (hn : n < maxPackets) (hframe : frame.length = c.codec.bytesSize) :
    ∃ g' native body, SenderAt c (n + 1) g' ∧ InStepWith g' native ∧
      (∀ {c' : SetUpArgs} {m : Nat}, ReceiverAt c' m g → ReceiverAt c' m g') ∧
      body.length = roundUpToMultipleOf4 c.codec.bytesSize ∧ body.take c.codec.bytesSize = frame ∧
      wrapPayloadLive a.wrapper (a.packet, a.native) frame =
        .ok ((packetOf libsrtp c n body, native), packetOf libsrtp c n body) := by
  have hle := bytesSize_le_roundUp c.codec
  have hsize : packetSize c.codec = 12 + roundUpToMultipleOf4 c.codec.bytesSize + 4 := rfl
  have hpacket := ha.packet
  have hlen : (writeAt a.packet 12 frame).length = packetSize c.codec := by
    rw [writeAt_length (by omega), hpacket]
  obtain ⟨old, body, tail, hcut, hold, hbody, hwr⟩ := wrapped_eq (P := libsrtp) (n := n) hlen hfit
  obtain ⟨g', native, hs', hg', hw, hlive⟩ := wrapLive_step hs hg hn (writeAt a.packet 12 frame)
  refine ⟨g', native, body, hs', hg', wrapPayloadNative_receiverAt hw, hbody, ?_, ?_⟩
  · have hin : slice (writeAt a.packet 12 frame) 12 frame.length = frame := slice_writeAt (by omega)
    rw [hcut, hframe] at hin
    rw [← hin, ← hold, slice_append_take (by omega)]
  · rw [hwr] at hlive
    simp only [wrapPayloadLive, ha.wrapper, hlive, packetOf]

theorem unwrap_round {n : Nat} {g : Globals} {b : End} {body : Octets} (hb : Threads c.codec b)
    (hfit : roundUpToMultipleOf4 c.codec.bytesSize ≤ 0xffff) (hr : ReceiverAt c n g)
    (hg : InStepWith g b.native) (hn : n < maxPackets)
    (hbody : body.length = roundUpToMultipleOf4 c.codec.bytesSize) :
    ∃ g' native, ReceiverAt c (n + 1) g' ∧ InStepWith g' native ∧
      (∀ {c' : SetUpArgs} {m : Nat}, SenderAt c' m g → SenderAt c' m g') ∧
      unwrapPacketLive b.unwrapper b.native (packetOf libsrtp c n body) =
        .ok (native, body.take c.codec.bytesSize) := by
  have hle := bytesSize_le_roundUp c.codec
  obtain ⟨g', tag, hr', -, hu⟩ := unwrap_step (P := libsrtp) hr hn hbody (by omega)
  have hlive := unwrapPacketNative_live hg (packetOf libsrtp c n body)
  rw [packetOf, hu] at hlive
  obtain ⟨native, hunwrap, hin⟩ := hlive.of_some
  refine ⟨g', native, hr', hin, unwrapPacketNative_senderAt hu, ?_⟩
  simp only [unwrapPacketLive, hb.unwrapper, packetOf, hunwrap]
  rw [← header_length c n, slice_append_take (by omega)]

/-! ## One direction -/

/-- From the process `g` to the process `g'`: the frames `packed` are in packets, `waiting` are not yet. -/
structure Flow (c : SetUpArgs) (g g' : Globals) (w : Way) (packed waiting : List Octets) : Prop where
  sender : SenderAt c (w.heard.length + packed.length) g
  receiver : ReceiverAt c w.heard.length g'
  audio : w.audio = waiting.flatten
  frames : ∀ f ∈ waiting, f.length = c.codec.bytesSize
  packets : InPackets libsrtp c w.heard.length packed (w.application ++ w.arrived ++ w.sent ++ w.wrapped)
  wrapped : w.wrapped.length % 24 = 0
  application : w.application.length % 24 = 0

/-- Nothing of what was said is lost, twice there or out of order. -/
def Carries (c : SetUpArgs) (g g' : Globals) (w : Way) (said : List Octets) : Prop :=
  ∃ packed waiting, said = w.heard ++ packed ++ waiting ∧ Flow c g g' w packed waiting

/-- How far what is on the way has to go. -/
def load (w : Way) : Nat :=
  100 * w.audio.length + 4 * w.wrapped.length + 3 * w.sent.length + 2 * w.arrived.length + w.application.length

def Move.ready (codec : Codec) (w : Way) : Move → Prop
  | .speak _ => False
  | .wrap => codec.bytesSize ≤ w.audio.length
  | .toNetwork => 24 ≤ w.wrapped.length
  | .deliver count => 0 < count ∧ count ≤ w.sent.length
  | .toApplication => 24 ≤ w.arrived.length
  | .unwrap => 24 ≤ w.application.length

/-- The threads of both phones run, over processes that are in memory what `g` and `g'` say. -/
structure Ends (codec : Codec) (a b : End) (g g' : Globals) : Prop where
  speaker : Threads codec a
  listener : Threads codec b
  native : InStepWith g a.native
  native' : InStepWith g' b.native

/-- After a move: everything is carried on, and the other direction finds both processes as they were. -/
structure Moved (c : SetUpArgs) (m : Move) (g g' : Globals) (w : Way) (said : List Octets) (a : End) (b : End)
    (w' : Way) (g₁ g₁' : Globals) : Prop where
  ends : Ends c.codec a b g₁ g₁'
  carries : Carries c g₁ g₁' w' (said ++ m.frames)
  receiver : ∀ {c' : SetUpArgs} {n : Nat}, ReceiverAt c' n g → ReceiverAt c' n g₁
  sender : ∀ {c' : SetUpArgs} {n : Nat}, SenderAt c' n g' → SenderAt c' n g₁'
  load_lt : m.ready c.codec w → load w' < load w

section

variable {a b : End} {w : Way} {g g' : Globals} {said packed waiting : List Octets}

theorem Moved.stay {m : Move} (he : Ends c.codec a b g g') (h : Carries c g g' w said) (hm : m.frames = [])
    (hr : ¬ m.ready c.codec w) :
    Moved c m g g' w said a b w g g' where
  ends := he
  carries := by
    rw [hm, List.append_nil]
    exact h
  receiver := id
  sender := id
  load_lt hready := absurd hready hr

theorem Moved.forward {m : Move} {w' : Way} (he : Ends c.codec a b g g') (h : Flow c g g' w packed waiting)
    (hsaid : said = w.heard ++ packed ++ waiting) (hm : m.frames = []) (haudio : w'.audio = w.audio)
    (hheard : w'.heard = w.heard)
    (hbytes : w'.application ++ w'.arrived ++ w'.sent ++ w'.wrapped =
      w.application ++ w.arrived ++ w.sent ++ w.wrapped)
    (hwrapped : w'.wrapped.length % 24 = 0) (happlication : w'.application.length % 24 = 0)
    (hload : load w' < load w ∨ ¬ m.ready c.codec w) :
    Moved c m g g' w said a b w' g g' where
  ends := he
  carries := by
    refine ⟨packed, waiting, ?_, ?_⟩
    · rw [hm, List.append_nil, hheard, hsaid]
    · refine ⟨?_, ?_, ?_, h.frames, ?_, hwrapped, happlication⟩
      · rw [hheard]
        exact h.sender
      · rw [hheard]
        exact h.receiver
      · rw [haudio]
        exact h.audio
      · rw [hheard, hbytes]
        exact h.packets
  receiver := id
  sender := id
  load_lt hready := hload.resolve_right fun hnot => hnot hready

theorem append_take_drop (x y : Octets) (n : Nat) : x ++ y.take n ++ y.drop n = x ++ y := by
  rw [List.append_assoc, List.take_append_drop]

theorem speak_moved (he : Ends c.codec a b g g') (h : Flow c g g' w packed waiting)
    (hsaid : said = w.heard ++ packed ++ waiting) {frame : Octets} (hframe : frame.length = c.codec.bytesSize) :
    Moved c (.speak frame) g g' w said a b { w with audio := w.audio ++ frame } g g' where
  ends := he
  carries := by
    refine ⟨packed, waiting ++ [frame], ?_, ?_⟩
    · rw [hsaid, Move.frames, List.append_assoc _ waiting]
    · refine ⟨h.sender, h.receiver, ?_, ?_, h.packets, h.wrapped, h.application⟩
      · simp only [h.audio, List.flatten_append, List.flatten_cons, List.flatten_nil, List.append_nil]
      · intro f hf
        rcases List.mem_append.1 hf with hf | hf
        · exact h.frames f hf
        · rw [List.mem_singleton.1 hf, hframe]
  receiver := id
  sender := id
  load_lt hready := hready.elim

theorem codec_sizes (hsize : packetSize c.codec = Connector.packetSize) :
    packetSize c.codec = 24 ∧ 0 < c.codec.bytesSize ∧ roundUpToMultipleOf4 c.codec.bytesSize ≤ 0xffff := by
  have hround := roundUpToMultipleOf4_spec c.codec.bytesSize
  have hbytes : 12 + roundUpToMultipleOf4 c.codec.bytesSize + 4 = 24 := hsize
  exact ⟨hsize, by omega, by omega⟩

theorem wrap_moved (hsize : packetSize c.codec = Connector.packetSize) (he : Ends c.codec a b g g')
    (h : Flow c g g' w packed waiting) (hsaid : said = w.heard ++ packed ++ waiting)
    (hn : said.length ≤ maxPackets) :
    ∃ a' w' g₁, move .wrap (a, b, w) = some (a', b, w') ∧ Moved c .wrap g g' w said a' b w' g₁ g' := by
  obtain ⟨h24, hpos, hfit⟩ := codec_sizes hsize
  have hpayload : a.wrapper.payloadSize = c.codec.bytesSize := by rw [he.speaker.wrapper]
  simp only [move, hpayload]
  by_cases hlt : w.audio.length < c.codec.bytesSize
  · rw [if_pos hlt]
    refine ⟨a, w, g, rfl, .stay he ⟨packed, waiting, hsaid, h⟩ rfl ?_⟩
    exact Nat.not_le.2 hlt
  · rw [if_neg hlt]
    cases waiting with
    | nil =>
      rw [h.audio] at hlt
      exact absurd hpos hlt
    | cons frame waiting =>
      have hframe := h.frames frame List.mem_cons_self
      have htake : w.audio.take c.codec.bytesSize = frame := by
        rw [h.audio, List.flatten_cons, ← hframe, List.take_left]
      have hdrop : w.audio.drop c.codec.bytesSize = waiting.flatten := by
        rw [h.audio, List.flatten_cons, ← hframe, List.drop_left]
      have hcount : w.heard.length + packed.length < maxPackets := by
        simp only [hsaid, List.length_append, List.length_cons] at hn
        omega
      obtain ⟨g₁, native, body, hs, hg₁, hreceiver, hbody, hin, hwrap⟩ :=
        wrap_round he.speaker hfit h.sender he.native hcount hframe
      have hlen : (packetOf libsrtp c (w.heard.length + packed.length) body).length = 24 := by
        rw [packetOf_length hbody, h24]
      rw [htake, hwrap]
      refine ⟨_, _, g₁, rfl, ⟨?_, he.listener, hg₁, he.native'⟩, ?_, hreceiver, id, ?_⟩
      · exact ⟨he.speaker.wrapper, he.speaker.unwrapper, packetOf_length hbody⟩
      · refine ⟨packed ++ [frame], waiting, ?_, ?_⟩
        · simp only [hsaid, Move.frames, List.append_nil, List.append_assoc, List.cons_append, List.nil_append]
        · refine ⟨?_, h.receiver, hdrop, fun f hf => h.frames f (List.mem_cons_of_mem _ hf), ?_, ?_, h.application⟩
          · rw [List.length_append, ← Nat.add_assoc]
            exact hs
          · rw [← List.append_assoc, ← hin]
            exact h.packets.snoc hbody
          · rw [List.length_append, hlen]
            have hwrapped := h.wrapped
            omega
      · intro hready
        simp only [load, List.length_drop, List.length_append, hlen]
        omega

theorem unwrap_moved (hsize : packetSize c.codec = Connector.packetSize) (he : Ends c.codec a b g g')
    (h : Flow c g g' w packed waiting) (hsaid : said = w.heard ++ packed ++ waiting)
    (hn : said.length ≤ maxPackets) :
    ∃ b' w' g₁', move .unwrap (a, b, w) = some (a, b', w') ∧ Moved c .unwrap g g' w said a b' w' g g₁' := by
  obtain ⟨h24, hpos, hfit⟩ := codec_sizes hsize
  have hpacket : b.unwrapper.packetSize = 24 := by rw [he.listener.unwrapper, h24]
  simp only [move, hpacket]
  by_cases hlt : w.application.length < 24
  · rw [if_pos hlt]
    refine ⟨b, w, g', rfl, .stay he ⟨packed, waiting, hsaid, h⟩ rfl ?_⟩
    exact Nat.not_le.2 hlt
  · rw [if_neg hlt]
    have hpackets := h.packets
    generalize hbytes : w.application ++ w.arrived ++ w.sent ++ w.wrapped = bytes at hpackets
    cases hpackets with
    | nil =>
      simp only [List.append_eq_nil_iff] at hbytes
      rw [hbytes.1.1.1] at hlt
      exact absurd (by decide) hlt
    | @cons _ packed body rest hbody hrest =>
      have hlen : (packetOf libsrtp c w.heard.length body).length = 24 := by rw [packetOf_length hbody, h24]
      -- the first packet on the way is at the front of the pipe
      have htake : w.application.take 24 = packetOf libsrtp c w.heard.length body := by
        have hfirst := congrArg (List.take 24) hbytes
        rwa [List.append_assoc, List.append_assoc, List.take_append_of_le_length (by omega), ← hlen,
          List.take_left, hlen] at hfirst
      have hdrop : w.application.drop 24 ++ w.arrived ++ w.sent ++ w.wrapped = rest := by
        have hbehind := congrArg (List.drop 24) hbytes
        rw [List.append_assoc, List.append_assoc, List.drop_append_of_le_length (by omega), ← hlen,
          List.drop_left, hlen] at hbehind
        rw [← hbehind, List.append_assoc, List.append_assoc]
      have hcount : w.heard.length < maxPackets := by
        simp only [hsaid, List.length_append, List.length_cons] at hn
        omega
      obtain ⟨g₁', native, hr, hg₁, hsender, hunwrap⟩ :=
        unwrap_round he.listener hfit h.receiver he.native' hcount hbody
      rw [htake, hunwrap]
      refine ⟨_, _, g₁', rfl, ⟨he.speaker, ?_, he.native, hg₁⟩, ?_, id, hsender, ?_⟩
      · exact ⟨he.listener.wrapper, he.listener.unwrapper, he.listener.packet⟩
      · refine ⟨packed, waiting, ?_, ?_⟩
        · simp only [hsaid, Move.frames, List.append_nil, List.append_assoc, List.cons_append, List.nil_append]
        · have hheard : (w.heard ++ [body.take c.codec.bytesSize]).length = w.heard.length + 1 := by
            rw [List.length_append, List.length_singleton]
          refine ⟨?_, ?_, h.audio, h.frames, ?_, h.wrapped, ?_⟩
          · have hs := h.sender
            rw [List.length_cons] at hs
            rw [hheard, show w.heard.length + 1 + packed.length = w.heard.length + (packed.length + 1) by omega]
            exact hs
          · rw [hheard]
            exact hr
          · rw [hheard, hdrop]
            exact hrest
          · rw [List.length_drop]
            have happlication := h.application
            omega
      · intro hready
        simp only [load, List.length_drop]
        omega

theorem toNetwork_moved (he : Ends c.codec a b g g') (h : Flow c g g' w packed waiting)
    (hsaid : said = w.heard ++ packed ++ waiting) :
    ∃ w', move .toNetwork (a, b, w) = some (a, b, w') ∧ Moved c .toNetwork g g' w said a b w' g g' := by
  have h24 : Connector.packetSize = 24 := rfl
  simp only [move]
  by_cases hlt : w.wrapped.length < Connector.packetSize
  · rw [if_pos hlt]
    exact ⟨w, rfl, .stay he ⟨packed, waiting, hsaid, h⟩ rfl (Nat.not_le.2 hlt)⟩
  · rw [if_neg hlt]
    refine ⟨_, rfl, .forward he h hsaid rfl rfl rfl ?_ ?_ h.application (.inl ?_)⟩
    · show w.application ++ w.arrived ++ (w.sent ++ w.wrapped.take _) ++ w.wrapped.drop _ = _
      rw [List.append_assoc (w.application ++ w.arrived), append_take_drop, ← List.append_assoc]
    · rw [List.length_drop]
      have hwrapped := h.wrapped
      omega
    · simp only [load, List.length_drop, List.length_append, List.length_take]
      omega

theorem deliver_moved (he : Ends c.codec a b g g') (h : Flow c g g' w packed waiting)
    (hsaid : said = w.heard ++ packed ++ waiting) (count : Nat) :
    ∃ w', move (.deliver count) (a, b, w) = some (a, b, w') ∧
      Moved c (.deliver count) g g' w said a b w' g g' := by
  refine ⟨_, rfl, .forward he h hsaid rfl rfl rfl ?_ h.wrapped h.application ?_⟩
  · show w.application ++ (w.arrived ++ w.sent.take count) ++ w.sent.drop count ++ w.wrapped = _
    rw [List.append_assoc w.application, append_take_drop, ← List.append_assoc]
  · by_cases hready : (Move.deliver count).ready c.codec w
    · obtain ⟨hpos, hle⟩ := hready
      refine .inl ?_
      simp only [load, List.length_drop, List.length_append, List.length_take]
      omega
    · exact .inr hready

theorem toApplication_moved (he : Ends c.codec a b g g') (h : Flow c g g' w packed waiting)
    (hsaid : said = w.heard ++ packed ++ waiting) :
    ∃ w', move .toApplication (a, b, w) = some (a, b, w') ∧
      Moved c .toApplication g g' w said a b w' g g' := by
  have h24 : Connector.packetSize = 24 := rfl
  simp only [move]
  by_cases hlt : w.arrived.length < Connector.packetSize
  · rw [if_pos hlt]
    exact ⟨w, rfl, .stay he ⟨packed, waiting, hsaid, h⟩ rfl (Nat.not_le.2 hlt)⟩
  · rw [if_neg hlt]
    refine ⟨_, rfl, .forward he h hsaid rfl rfl rfl ?_ h.wrapped ?_ (.inl ?_)⟩
    · show w.application ++ w.arrived.take _ ++ w.arrived.drop _ ++ w.sent ++ w.wrapped = _
      rw [append_take_drop]
    · rw [List.length_append, List.length_take]
      have happlication := h.application
      omega
    · simp only [load, List.length_drop, List.length_append, List.length_take]
      omega

theorem move_moved (hsize : packetSize c.codec = Connector.packetSize) (he : Ends c.codec a b g g')
    (h : Carries c g g' w said) (m : Move) (hm : ∀ f ∈ m.frames, f.length = c.codec.bytesSize)
    (hn : said.length ≤ maxPackets) :
    ∃ a' b' w' g₁ g₁', move m (a, b, w) = some (a', b', w') ∧ Moved c m g g' w said a' b' w' g₁ g₁' := by
  obtain ⟨packed, waiting, hsaid, h⟩ := h
  cases m with
  | speak frame =>
    exact ⟨_, _, _, _, _, rfl, speak_moved he h hsaid (hm frame List.mem_cons_self)⟩
  | wrap =>
    obtain ⟨a', w', g₁, hmove, hmoved⟩ := wrap_moved hsize he h hsaid hn
    exact ⟨_, _, _, _, _, hmove, hmoved⟩
  | toNetwork =>
    obtain ⟨w', hmove, hmoved⟩ := toNetwork_moved he h hsaid
    exact ⟨_, _, _, _, _, hmove, hmoved⟩
  | deliver count =>
    obtain ⟨w', hmove, hmoved⟩ := deliver_moved he h hsaid count
    exact ⟨_, _, _, _, _, hmove, hmoved⟩
  | toApplication =>
    obtain ⟨w', hmove, hmoved⟩ := toApplication_moved he h hsaid
    exact ⟨_, _, _, _, _, hmove, hmoved⟩
  | unwrap =>
    obtain ⟨b', w', g₁', hmove, hmoved⟩ := unwrap_moved hsize he h hsaid hn
    exact ⟨_, _, _, _, _, hmove, hmoved⟩

/-- As long as something is on the way, some thread has something to do. -/
theorem exists_ready (hsize : packetSize c.codec = Connector.packetSize) (h : Flow c g g' w packed waiting)
    (hload : 0 < load w) : ∃ m : Move, m.frames = [] ∧ m.ready c.codec w := by
  obtain ⟨h24, hpos, -⟩ := codec_sizes hsize
  have htotal := h.packets.length
  simp only [List.length_append, h24] at htotal
  have hwrapped := h.wrapped
  have happlication := h.application
  by_cases happ : 24 ≤ w.application.length
  · exact ⟨.unwrap, rfl, happ⟩
  by_cases harr : 24 ≤ w.arrived.length
  · exact ⟨.toApplication, rfl, harr⟩
  by_cases hsent : 0 < w.sent.length
  · exact ⟨.deliver w.sent.length, rfl, hsent, Nat.le_refl _⟩
  by_cases hwr : 24 ≤ w.wrapped.length
  · exact ⟨.toNetwork, rfl, hwr⟩
  -- nothing is in packets, so a frame waits
  refine ⟨.wrap, rfl, ?_⟩
  simp only [load] at hload
  cases waiting with
  | nil =>
    have haudio : w.audio.length = 0 := by rw [h.audio]; rfl
    omega
  | cons frame waiting =>
    have hframe := h.frames frame List.mem_cons_self
    simp only [Move.ready, h.audio, List.flatten_cons, List.length_append]
    omega

theorem heard_of_load (hsize : packetSize c.codec = Connector.packetSize) (h : Carries c g g' w said)
    (hload : load w = 0) : w.heard = said := by
  obtain ⟨packed, waiting, rfl, h⟩ := h
  obtain ⟨h24, hpos, -⟩ := codec_sizes hsize
  have htotal := h.packets.length
  simp only [load] at hload
  simp only [List.length_append, h24] at htotal
  have hpacked : packed = [] := List.length_eq_zero_iff.1 (by omega)
  have hwaiting : waiting = [] := by
    cases waiting with
    | nil => rfl
    | cons frame waiting =>
      have hframe := h.frames frame List.mem_cons_self
      have haudio := congrArg List.length h.audio
      rw [List.flatten_cons, List.length_append] at haudio
      omega
  rw [hpacked, hwaiting, List.append_nil, List.append_nil]

end

/-! ## Both directions -/

theorem Carries.other {w : Way} {g g' g₁ g₁' : Globals} {said : List Octets} (h : Carries c g' g w said)
    (hr : ∀ {c' : SetUpArgs} {n : Nat}, ReceiverAt c' n g → ReceiverAt c' n g₁)
    (hs : ∀ {c' : SetUpArgs} {n : Nat}, SenderAt c' n g' → SenderAt c' n g₁') : Carries c g₁' g₁ w said := by
  obtain ⟨packed, waiting, hsaid, h⟩ := h
  exact ⟨packed, waiting, hsaid, hs h.sender, hr h.receiver, h.audio, h.frames, h.packets, h.wrapped,
    h.application⟩

/-- The caller has said `said` and the callee `said'`, over the same two processes. -/
def Talking (c c' : SetUpArgs) (s : State) (said said' : List Octets) : Prop :=
  ∃ g g', Ends c.codec s.caller s.callee g g' ∧ Carries c g g' s.out said ∧ Carries c' g' g s.back said'

def State.way (s : State) : Side → Way
  | .caller => s.out
  | .callee => s.back

def State.load (s : State) : Nat := Conversation.load s.out + Conversation.load s.back

variable {c' : SetUpArgs} {s : State} {said said' : List Octets}

theorem Ends.swap {codec : Codec} {a b : End} {g g' : Globals} (h : Ends codec a b g g') : Ends codec b a g' g :=
  ⟨h.listener, h.speaker, h.native', h.native⟩

theorem step_talking (hsize : packetSize c.codec = Connector.packetSize) (hcodec : c'.codec = c.codec)
    (h : Talking c c' s said said') (side : Side) (m : Move)
    (hm : ∀ f ∈ m.frames, f.length = c.codec.bytesSize) (hn : said.length ≤ maxPackets)
    (hn' : said'.length ≤ maxPackets) :
    ∃ s', step (side, m) s = some s' ∧
      Talking c c' s' (said ++ if side = .caller then m.frames else [])
        (said' ++ if side = .callee then m.frames else []) ∧
      (m.ready c.codec (s.way side) → s'.load < s.load) := by
  obtain ⟨g, g', he, hout, hback⟩ := h
  cases side with
  | caller =>
    obtain ⟨a, b, w, g₁, g₁', hmove, hmoved⟩ := move_moved hsize he hout m hm hn
    refine ⟨⟨a, b, w, s.back⟩, ?_, ⟨g₁, g₁', hmoved.ends, ?_, ?_⟩, ?_⟩
    · rw [step, hmove, Option.map_some]
    · exact hmoved.carries
    · rw [if_neg (by decide), List.append_nil]
      exact hback.other hmoved.receiver hmoved.sender
    · intro hready
      exact Nat.add_lt_add_right (hmoved.load_lt hready) _
  | callee =>
    rw [← hcodec] at hsize hm he
    obtain ⟨b, a, w, g₁', g₁, hmove, hmoved⟩ := move_moved hsize he.swap hback m hm hn'
    refine ⟨⟨a, b, s.out, w⟩, ?_, ⟨g₁, g₁', ?_, ?_, ?_⟩, ?_⟩
    · rw [step, hmove, Option.map_some]
    · rw [← hcodec]
      exact hmoved.ends.swap
    · rw [if_neg (by decide), List.append_nil]
      exact hout.other hmoved.receiver hmoved.sender
    · exact hmoved.carries
    · intro hready
      rw [← hcodec] at hready
      exact Nat.add_lt_add_left (hmoved.load_lt hready) _

theorem spokenBy_cons (side side' : Side) (m : Move) (moves : List (Side × Move)) :
    spokenBy side ((side', m) :: moves) = (if side' = side then m.frames else []) ++ spokenBy side moves := by
  rw [spokenBy, List.flatMap_cons, spokenBy]

theorem run_talking (hsize : packetSize c.codec = Connector.packetSize) (hcodec : c'.codec = c.codec)
    (moves : List (Side × Move)) : ∀ {s : State} {said said' : List Octets}, Talking c c' s said said' →
    (∀ m ∈ moves, ∀ f ∈ m.2.frames, f.length = c.codec.bytesSize) →
    (said ++ spokenBy .caller moves).length ≤ maxPackets →
    (said' ++ spokenBy .callee moves).length ≤ maxPackets →
    ∃ s', Wire.run step s moves = some s' ∧
      Talking c c' s' (said ++ spokenBy .caller moves) (said' ++ spokenBy .callee moves) := by
  induction moves with
  | nil =>
    intro s said said' h _ _ _
    refine ⟨s, rfl, ?_⟩
    rw [spokenBy, spokenBy, List.flatMap_nil, List.flatMap_nil, List.append_nil, List.append_nil]
    exact h
  | cons move moves ih =>
    obtain ⟨side, m⟩ := move
    intro s said said' h hm hn hn'
    rw [spokenBy_cons, ← List.append_assoc] at hn hn' ⊢
    rw [spokenBy_cons, ← List.append_assoc]
    rw [List.length_append] at hn hn'
    have hlen : said.length ≤ (said ++ if side = .caller then m.frames else []).length :=
      (List.sublist_append_left _ _).length_le
    have hlen' : said'.length ≤ (said' ++ if side = .callee then m.frames else []).length :=
      (List.sublist_append_left _ _).length_le
    obtain ⟨s₁, hstep, h₁, -⟩ := step_talking hsize hcodec h side m (hm _ List.mem_cons_self) (by omega) (by omega)
    obtain ⟨s₂, hrun, h₂⟩ := ih h₁ (fun x hx => hm x (List.mem_cons_of_mem _ hx))
      (by rw [List.length_append]; exact hn) (by rw [List.length_append]; exact hn')
    exact ⟨s₂, Option.bind_eq_some_iff.2 ⟨s₁, hstep, hrun⟩, h₂⟩

theorem exists_step (hsize : packetSize c.codec = Connector.packetSize) (hcodec : c'.codec = c.codec)
    (h : Talking c c' s said said') (hn : said.length ≤ maxPackets) (hn' : said'.length ≤ maxPackets)
    (hload : 0 < s.load) :
    ∃ side m s', m.frames = [] ∧ step (side, m) s = some s' ∧ Talking c c' s' said said' ∧ s'.load < s.load := by
  have hready : ∃ (side : Side) (m : Move), m.frames = [] ∧ m.ready c.codec (s.way side) := by
    obtain ⟨g, g', -, ⟨packed, waiting, -, hout⟩, packed', waiting', -, hback⟩ := h
    by_cases hsum : 0 < Conversation.load s.out
    · obtain ⟨m, hm, hready⟩ := exists_ready hsize hout hsum
      exact ⟨.caller, m, hm, hready⟩
    · rw [← hcodec] at hsize ⊢
      rw [State.load] at hload
      obtain ⟨m, hm, hready⟩ := exists_ready hsize hback (by omega)
      exact ⟨.callee, m, hm, hready⟩
  obtain ⟨side, m, hm, hready⟩ := hready
  obtain ⟨s', hstep, h', hlt⟩ := step_talking hsize hcodec h side m (by rw [hm]; simp) hn hn'
  rw [hm, ite_self, ite_self, List.append_nil, List.append_nil] at h'
  exact ⟨side, m, s', hm, hstep, h', hlt hready⟩

/-- Without another word, everything that was said can be heard. -/
theorem exists_drained (hsize : packetSize c.codec = Connector.packetSize) (hcodec : c'.codec = c.codec)
    (hn : said.length ≤ maxPackets) (hn' : said'.length ≤ maxPackets) (n : Nat) :
    ∀ {s : State}, s.load ≤ n → Talking c c' s said said' →
    ∃ moves s', (∀ m ∈ moves, m.2.frames = []) ∧ Wire.run step s moves = some s' ∧
      s'.out.heard = said ∧ s'.back.heard = said' := by
  have hdone : ∀ {s : State}, s.load = 0 → Talking c c' s said said' →
      s.out.heard = said ∧ s.back.heard = said' := by
    intro s hload h
    obtain ⟨g, g', -, hout, hback⟩ := h
    rw [State.load] at hload
    refine ⟨heard_of_load hsize hout (by omega), heard_of_load ?_ hback (by omega)⟩
    rw [hcodec, hsize]
  induction n with
  | zero =>
    intro s hload h
    exact ⟨[], s, by simp, rfl, hdone (by omega) h⟩
  | succ n ih =>
    intro s hload h
    by_cases hzero : s.load = 0
    · exact ⟨[], s, by simp, rfl, hdone hzero h⟩
    · obtain ⟨side, m, s₁, hm, hstep, h₁, hlt⟩ := exists_step hsize hcodec h hn hn' (by omega)
      obtain ⟨moves, s₂, hmoves, hrun, hheard⟩ := ih (by omega) h₁
      refine ⟨(side, m) :: moves, s₂, ?_, Option.bind_eq_some_iff.2 ⟨s₁, hstep, hrun⟩, hheard⟩
      intro x hx
      rcases List.mem_cons.1 hx with rfl | hx
      · exact hm
      · exact hmoves x hx

/-! ## A whole call -/

section

variable {C : Crypto} {p q : SetUp.Party C} {secret : Octets}

def callerArgs (p q : SetUp.Party C) (secret : Octets) : SetUpArgs :=
  ⟨p.codec, p.rtpRandom, KeyExchange.getFirstKey (C.sha256 secret), p.senderSalt, q.rtpRandom.ssrc,
    KeyExchange.getSecondKey (C.sha256 secret), q.senderSalt.1⟩

def calleeArgs (p q : SetUp.Party C) (secret : Octets) : SetUpArgs :=
  ⟨q.codec, q.rtpRandom, KeyExchange.getSecondKey (C.sha256 secret), q.senderSalt, p.rtpRandom.ssrc,
    KeyExchange.getFirstKey (C.sha256 secret), p.senderSalt.1⟩

theorem run_senderAt_fresh {g : Globals} (h : g.kernel = {}) : SenderAt c 0 (c.run g) := by
  unfold SetUpArgs.run SetUpArgs.sender
  rw [initSender_fresh h, initReceiver_loaded rfl]
  exact ⟨rfl, rfl, _, rfl, newStream_inStep ..⟩

theorem start_carries {g g' : Globals} (hs : SenderAt c 0 g) (hr : ReceiverAt c 0 g') : Carries c g g' {} [] :=
  ⟨[], [], rfl, hs, hr, rfl, by simp, .nil 0, rfl, rfl⟩

theorem endOf_threads {codec : Codec} {s : Session} (native : LiveGlobals)
    (hpacket : s.packetSizeInBytes = packetSize codec) (hpayload : s.payloadSizeInBytes = codec.bytesSize) :
    Threads codec (endOf s native) := by
  refine ⟨?_, ?_, ?_⟩
  · rw [endOf, createWrapper, hpacket, hpayload, srtpHeaderSizeInBytes]
  · rw [endOf, createUnwrapper, hpacket, hpayload, srtpHeaderSizeInBytes]
  · rw [endOf, List.length_replicate, hpacket]

open SetUp Wire.Link Relation in
/-- Both phones in their first call: once the set-up is done, under any schedule of it, and whatever memory
holds beside the sessions, no schedule of the conversation fails. Each side has heard the beginning of what the
other one has said, and can still hear all of it. -/
theorem both_hear_every_frame {fuel waits : Nat} {s t a b : Phone C}
    {l : Link (Event C) (Except Exn Unit × Phone C) (Except Exn Unit × Phone C)}
    (hf : waits < fuel) (hp : RsaSound C p.keyPair) (hq : RsaSound C q.keyPair)
    (hd : KeyExchange.DhAgree C p.dhRandom q.dhRandom secret) (he : Expects s.1 q.keyPair)
    (hs : Reached s.2.native) (ht : Reached t.2.native) (hks : s.2.native.kernel = {})
    (hkt : t.2.native.kernel = {}) (hcodec : q.codec = p.codec)
    (hsize : packetSize p.codec = Connector.packetSize)
    (hl : ReflTransGen Step ⟨caller fuel p s, callee waits q t, [], []⟩ l)
    (ha : l.left = .ret (.ok (), a)) (hb : l.right = .ret (.ok (), b))
    {la lb : LiveGlobals} (hla : InStepWith a.2.native la) (hlb : InStepWith b.2.native lb)
    {moves : List (Side × Move)} (hframes : ∀ m ∈ moves, ∀ f ∈ m.2.frames, f.length = p.codec.bytesSize)
    (hn : ∀ side, (spokenBy side moves).length ≤ maxPackets) :
    ∃ x, Wire.run step ⟨endOf a.2 la, endOf b.2 lb, {}, {}⟩ moves = some x ∧
      x.out.heard <+: spokenBy .caller moves ∧ x.back.heard <+: spokenBy .callee moves ∧
      ∃ rest y, (∀ m ∈ rest, m.2.frames = []) ∧ Wire.run step x rest = some y ∧
        y.out.heard = spokenBy .caller moves ∧ y.back.heard = spokenBy .callee moves := by
  have hend := settles (set_up (t := t) hf hp hq hd he) hl
  obtain ⟨rfl⟩ : a = callerEnd p q secret s := by simpa using left_ret hend ha
  obtain ⟨rfl⟩ : b = calleeEnd p q secret s t := by simpa using right_ret hend hb
  have hout : Matches (callerArgs p q secret) (calleeArgs p q secret) := ⟨hcodec, rfl, rfl, rfl⟩
  have hback : Matches (calleeArgs p q secret) (callerArgs p q secret) := ⟨hcodec.symm, rfl, rfl, rfl⟩
  have hstart : Talking (callerArgs p q secret) (calleeArgs p q secret)
      ⟨endOf (callerEnd p q secret s).2 la, endOf (calleeEnd p q secret s t).2 lb, {}, {}⟩ [] [] := by
    refine ⟨(callerArgs p q secret).run s.2.native, (calleeArgs p q secret).run t.2.native,
      ⟨endOf_threads _ rfl rfl, ?_, hla, hlb⟩, ?_, ?_⟩
    · rw [show (callerArgs p q secret).codec = q.codec from hcodec.symm]
      exact endOf_threads _ rfl rfl
    · exact start_carries (run_senderAt_fresh hks) (run_receiverAt hout ht)
    · exact start_carries (run_senderAt_fresh hkt) (run_receiverAt hback hs)
  obtain ⟨x, hrun, hx⟩ := run_talking hsize hcodec moves hstart hframes (hn .caller) (hn .callee)
  rw [List.nil_append, List.nil_append] at hx
  refine ⟨x, hrun, ?_, ?_, exists_drained hsize hcodec (hn .caller) (hn .callee) _ (Nat.le_refl _) hx⟩
  · obtain ⟨_, _, -, ⟨packed, waiting, hsaid, -⟩, -⟩ := hx
    rw [hsaid, List.append_assoc]
    exact List.prefix_append ..
  · obtain ⟨_, _, -, -, packed, waiting, hsaid, -⟩ := hx
    rw [hsaid, List.append_assoc]
    exact List.prefix_append ..

def sampleMoves : List (Side × Move) :=
  [(.caller, .speak [1, 2, 3, 4, 5, 6, 7]), (.caller, .wrap), (.callee, .speak [0, 0, 0, 0, 0, 0, 9]),
    (.caller, .toNetwork), (.caller, .deliver 1), (.caller, .speak [8, 9, 10, 11, 12, 13, 14])]

open SetUp Wire.Link in
theorem both_hear_every_frame_small :
    let a := callerEnd (smallParty 2) (smallParty 5) [8] smallPhone
    let b := calleeEnd (smallParty 2) (smallParty 5) [8] smallPhone smallPhone
    let la := runLive (callerArgs (smallParty 2) (smallParty 5) [8]) sampleMemory sampleMemory
      { onStack := sampleStack }
    let lb := runLive (calleeArgs (smallParty 2) (smallParty 5) [8]) sampleMemory sampleMemory
      { onStack := sampleStack }
    ∃ x, Wire.run step ⟨endOf a.2 la, endOf b.2 lb, {}, {}⟩ sampleMoves = some x ∧
      ∃ rest y, Wire.run step x rest = some y ∧ y.out.heard = sampleFrames ∧
        y.back.heard = [[0, 0, 0, 0, 0, 0, 9]] := by
  intro a b la lb
  have he : Expects smallPhone.1 (smallParty 5).keyPair := fun _ => ⟨{}, rfl, .inl rfl⟩
  have hf : 3 < 4 := by decide
  have hrun := set_up (t := smallPhone) hf (smallParty_sound 2) (smallParty_sound 5) small_dhAgree he
  have hca : Sized (callerArgs (smallParty 2) (smallParty 5) [8]) :=
    ⟨getFirstKey_length _, getSecondKey_length _, (smallParty 5).senderSalt.2, by decide⟩
  have hcb : Sized (calleeArgs (smallParty 2) (smallParty 5) [8]) :=
    ⟨getSecondKey_length _, getFirstKey_length _, (smallParty 2).senderSalt.2, by decide⟩
  have hla : InStepWith a.2.native la := run_inStepWith hca _ _ (start_inStepWith _)
  have hlb : InStepWith b.2.native lb := run_inStepWith hcb _ _ (start_inStepWith _)
  have hn : ∀ side, (spokenBy side sampleMoves).length ≤ maxPackets := by
    intro side
    cases side with
    | caller => decide
    | callee => decide
  obtain ⟨x, hx, -, -, rest, y, -, hy, hout, hback⟩ := both_hear_every_frame hf (smallParty_sound 2)
    (smallParty_sound 5) small_dhAgree he .start .start rfl rfl rfl (by decide) (steps_of_ticks hrun) rfl rfl
    hla hlb (show ∀ m ∈ sampleMoves, ∀ f ∈ m.2.frames, f.length = 7 by decide) hn
  exact ⟨x, hx, rest, y, hy, hout, hback⟩

end

end Conversation
end OnionPhone
