import OnionPhone.Media

/-!
# OnionPhone.EndOfStream

How the media threads end. `SrtpWrapper.run`, `SrtpUnwrapper.run` and `Connector.run` are loops in a
`try` whose `finally` closes both streams.

* `fail_stop`: whatever comes from the network, the unwrapper writes the payloads of the longest part of
  it that the library accepts packet by packet, and nothing else, and then closes its streams.
* `clean_end_throws`: a stream that ends where a block ends is no clean end for the wrapper and the
  unwrapper. They have done all their work, and then throw out of `run`. The connector returns.
-/

namespace OnionPhone
namespace Media

open Wire Wire.Octets Native SrtpProtocol

/-- What a media thread has done when it has ended. -/
structure Exit where
  written : List Octets
  stop : Stop
  inputClosed : Bool
  outputClosed : Bool
  deriving DecidableEq, Repr

def closeStreams (e : Exit) : Exit := { e with inputClosed := true, outputClosed := true }

/-- `try { loop } finally { closeStreams(); }`: the `finally` runs after a return and after an exception,
not after a crash of the process. `none`: the loop goes on. -/
def tryFinally (loop : List Octets × Option Stop) : Option Exit :=
  match loop.2 with
  | none => none
  | some .crashed => some ⟨loop.1, .crashed, false, false⟩
  | some stop => some (closeStreams ⟨loop.1, stop, false, false⟩)

variable {P : Primitives}

/-! ## Only what was accepted is written -/

/-- The library accepts the packets one after the other; the payload of each is cut out of what it has
decrypted to. -/
inductive Accepted (P : Primitives) (u : SrtpUnwrapper) :
    Globals → List Octets → List Octets → Globals → Prop where
  | nil {g : Globals} : Accepted P u g [] [] g
  | cons {g g₁ g' : Globals} {block packet : Octets} {bs payloads : List Octets}
      (h : unwrapPacketNative P block g = some (.ok, packet, g₁)) (hs : Accepted P u g₁ bs payloads g') :
      Accepted P u g (block :: bs) (slice packet u.headerSize u.payloadSize :: payloads) g'

theorem Accepted.length_eq {u : SrtpUnwrapper} {g g' : Globals} {bs payloads : List Octets}
    (h : Accepted P u g bs payloads g') : bs.length = payloads.length := by
  induction h with
  | nil => rfl
  | cons _ _ ih => rw [List.length_cons, List.length_cons, ih]

def Rejected (P : Primitives) (g : Globals) (block : Octets) : Prop :=
  ∃ status packet g', status ≠ .ok ∧ unwrapPacketNative P block g = some (status, packet, g')

theorem unwrapPacketNative_recv (P : Primitives) (block : Octets) {g : Globals} (h : g.srtpContextRecv.isSome) :
    ∃ status packet g', unwrapPacketNative P block g = some (status, packet, g') ∧
      g'.srtpContextRecv.isSome := by
  obtain ⟨ctx, hctx⟩ := Option.isSome_iff_exists.1 h
  simp [unwrapPacketNative, hctx]

/-- With a receive context a round of the unwrapper either accepts the packet or throws. -/
theorem unwrapPacket_cases (P : Primitives) (u : SrtpUnwrapper) {g : Globals} (block : Octets)
    (h : g.srtpContextRecv.isSome) :
    (∃ packet g', unwrapPacketNative P block g = some (.ok, packet, g') ∧ g'.srtpContextRecv.isSome ∧
      unwrapPacket P u g block = .ok (g', slice packet u.headerSize u.payloadSize)) ∨
    (Rejected P g block ∧ ∃ e, unwrapPacket P u g block = .error (.threw e)) := by
  obtain ⟨status, packet, g', hn, hg'⟩ := unwrapPacketNative_recv P block h
  by_cases hs : status = .ok
  · subst hs
    exact .inl ⟨packet, g', hn, hg', by simp only [unwrapPacket, hn]⟩
  · refine .inr ⟨⟨status, packet, g', hs, hn⟩, .mainProtocol
      ("native srtp unwrapper exited with error code: " ++ toString status.code), ?_⟩
    unfold unwrapPacket
    rw [hn]
    cases status with
    | ok => exact absurd rfl hs
    | _ => rfl

theorem accepted_of_stepAll {u : SrtpUnwrapper} {blocks payloads : List Octets} {g g' : Globals}
    (hg : g.srtpContextRecv.isSome) (h : stepAll (unwrapPacket P u) g blocks = .ok (g', payloads)) :
    Accepted P u g blocks payloads g' ∧ g'.srtpContextRecv.isSome := by
  induction blocks generalizing g payloads with
  | nil =>
    cases h
    exact ⟨.nil, hg⟩
  | cons block bs ih =>
    obtain ⟨g₁, out, outs, hstep, hrest, rfl⟩ := stepAll_cons_ok h
    obtain ⟨packet, g₂, hn, hg₂, hok⟩ | ⟨-, e, herr⟩ := unwrapPacket_cases P u block hg
    · rw [hok] at hstep
      cases hstep
      obtain ⟨ha, hg'⟩ := ih hg₂ hrest
      exact ⟨.cons hn ha, hg'⟩
    · rw [herr] at hstep
      cases hstep

/-- Whatever arrives: the unwrapper ends, with both streams closed, and has written the payloads of the
accepted packets. The blocks are accepted one after the other up to the first that is rejected, and there
is none after it. -/
theorem fail_stop (P : Primitives) (u : SrtpUnwrapper) {g : Globals} {fuel : Nat} {input : List Octets}
    (hctx : g.srtpContextRecv.isSome) (hsize : 0 < u.packetSize)
    (hfuel : input.flatten.length / u.packetSize < fuel) :
    ∃ accepted rest payloads g' e, blocks u.packetSize input.flatten = accepted ++ rest ∧
      Accepted P u g accepted payloads g' ∧ (∀ b ∈ rest.head?, Rejected P g' b) ∧
      tryFinally (u.run P fuel g input) = some ⟨payloads, .threw e, true, true⟩ := by
  obtain ⟨accepted, rest, g', hb, hdone, hrest⟩ :=
    stepUntil_longest (unwrapPacket P u) (blocks u.packetSize input.flatten) g
  obtain ⟨ha, hg'⟩ := accepted_of_stepAll hctx hdone
  have hrun : u.run P fuel g input = _ := blockLoop_eq hsize hfuel
  obtain ⟨rfl, hstop⟩ | ⟨b, rest', e, rfl, hb', hstop⟩ := hrest
  · refine ⟨accepted, [], _, g', .mainProtocol "cannot read packet", hb, ha, by simp, ?_⟩
    rw [hrun, hstop]
    rfl
  · obtain ⟨packet, g₂, -, -, hok⟩ | ⟨hrej, e', herr⟩ := unwrapPacket_cases P u b hg'
    · rw [hok] at hb'
      cases hb'
    · rw [herr] at hb'
      cases hb'
      refine ⟨accepted, b :: rest', _, g', e', hb, ha, ?_, ?_⟩
      · intro x hx
        cases hx
        exact hrej
      · rw [hrun, hstop]
        rfl

def firstPacket : Octets :=
  sealed plainPrimitives (sampleSetUp 1).rtpRandom.ssrc (sampleSetUp 1).masterKey ((sampleSetUp 1).index 0)
    ((sampleSetUp 1).header 0) [1, 2, 3, 4, 5, 6, 7, 0]

/-- A packet that is accepted, one with another tag, and one that is cut off; in pieces, as the network delivers
them. -/
theorem fail_stop_cut_off :
    let wrongTag := firstPacket.dropLast ++ [1]
    let input := [firstPacket.take 10, firstPacket.drop 10 ++ wrongTag, List.replicate 5 2]
    ∃ g' e, Accepted plainPrimitives (createUnwrapper (sessionOf (sampleSetUp 1) {}))
        (sessionOf (sampleSetUp 1) {}).native [firstPacket] [[1, 2, 3, 4, 5, 6, 7]] g' ∧
      Rejected plainPrimitives g' wrongTag ∧
      tryFinally ((createUnwrapper (sessionOf (sampleSetUp 1) {})).run plainPrimitives 3
        (sessionOf (sampleSetUp 1) {}).native input) =
          some ⟨[[1, 2, 3, 4, 5, 6, 7]], .threw e, true, true⟩ := by
  intro wrongTag input
  let u := createUnwrapper (sessionOf (sampleSetUp 1) {})
  let g := (sessionOf (sampleSetUp 1) {}).native
  have hctx : g.srtpContextRecv.isSome := by decide
  have hsize : 0 < u.packetSize := by decide
  have hfuel : input.flatten.length / u.packetSize < 3 := by decide
  have hblocks : blocks u.packetSize input.flatten = [firstPacket, wrongTag] := by decide
  have hwritten : (tryFinally (u.run plainPrimitives 3 g input)).map (·.written) =
      some [[1, 2, 3, 4, 5, 6, 7]] := by decide
  obtain ⟨accepted, rest, payloads, g', e, hb, ha, hrest, hrun⟩ := fail_stop plainPrimitives u hctx hsize hfuel
  rw [hrun] at hwritten
  cases hwritten
  rw [hblocks] at hb
  obtain ⟨b, rfl⟩ := List.length_eq_one_iff.1 ha.length_eq
  cases hb
  exact ⟨g', e, ha, hrest wrongTag rfl, hrun⟩

/-! ## Streams that end between two blocks -/

/-- The thread has processed `k` blocks, has closed its streams, and `run` has returned. -/
def EndsCleanly (k : Nat) (exit : Option Exit) : Prop :=
  ∃ e, exit = some e ∧ e.written.length = k ∧ e.inputClosed = true ∧ e.outputClosed = true ∧
    e.stop = .returned

theorem stepUntil_ne_returned {σ : Type} {step : σ → Octets → Except Stop (σ × Octets)}
    (h : ∀ s b, step s b ≠ .error .returned) (blocks : List Octets) (s : σ) :
    (stepUntil step s blocks).2 ≠ some .returned := by
  obtain ⟨done, rest, s', -, -, ⟨-, hn⟩ | ⟨b, rest', e, -, hb, he⟩⟩ :=
    stepUntil_longest step blocks s
  · rw [hn]
    simp
  · rw [he]
    rintro ⟨⟩
    exact h s' b hb

theorem wrapPayload_ne_returned (w : SrtpWrapper) (s : Octets × Globals) (payload : Octets) :
    wrapPayload P w s payload ≠ .error .returned := by
  unfold wrapPayload
  split
  · simp
  · simp
  · simp

theorem unwrapPacket_ne_returned (u : SrtpUnwrapper) (g : Globals) (packet : Octets) :
    unwrapPacket P u g packet ≠ .error .returned := by
  unfold unwrapPacket
  split
  · simp
  · simp
  · simp

/-- A loop that throws at the end of its input, and whose work never returns from `run`, does not
return. -/
theorem blockLoop_not_clean {σ : Type} {step : σ → Octets → Except Stop (σ × Octets)} {n k fuel : Nat}
    {e : Exn} {s : σ} {input : List Octets} (hn : 0 < n) (hfuel : input.flatten.length / n < fuel)
    (h : ∀ s b, step s b ≠ .error .returned) :
    ¬ EndsCleanly k (tryFinally (blockLoop n step (.threw e) fuel s input)) := by
  have hne := stepUntil_ne_returned h (blocks n input.flatten) s
  rw [blockLoop_eq hn hfuel]
  rintro ⟨x, hx, -, -, -, hstop⟩
  revert hx hne
  cases (stepUntil step s (blocks n input.flatten)).2 with
  | none =>
    intro _ hx
    cases hx
    cases hstop
  | some stop =>
    intro hne hx
    cases stop with
    | threw e =>
      cases hx
      cases hstop
    | returned => exact hne rfl
    | crashed =>
      cases hx
      cases hstop

/-- Neither the wrapper after `frames` nor the unwrapper after `packets` ends cleanly: when they have
processed them all they close their streams and throw out of `run`. -/
theorem clean_end_throws (P : Primitives) (w : SrtpWrapper) (u : SrtpUnwrapper) (g g' : Globals)
    {frames packets audio network : List Octets} {fuel : Nat}
    (hw : 0 < w.payloadSize) (hu : 0 < u.packetSize)
    (hframes : ∀ f ∈ frames, f.length = w.payloadSize) (haudio : audio.flatten = frames.flatten)
    (hpackets : ∀ p ∈ packets, p.length = u.packetSize) (hnetwork : network.flatten = packets.flatten)
    (hf : frames.length < fuel) (hp : packets.length < fuel) :
    ¬ EndsCleanly frames.length (tryFinally (w.run P fuel g audio)) ∧
    ¬ EndsCleanly packets.length (tryFinally (u.run P fuel g' network)) ∧
    (∀ s outs, stepAll (wrapPayload P w) (List.replicate w.packetSize 0, g) frames = .ok (s, outs) →
      tryFinally (w.run P fuel g audio) =
        some ⟨outs, .threw (.mainProtocol "cannot read payload"), true, true⟩) ∧
    (∀ s outs, stepAll (unwrapPacket P u) g' packets = .ok (s, outs) →
      tryFinally (u.run P fuel g' network) =
        some ⟨outs, .threw (.mainProtocol "cannot read packet"), true, true⟩) := by
  have hlen : ∀ {n : Nat} {bs inp : List Octets}, 0 < n → (∀ b ∈ bs, b.length = n) →
      inp.flatten = bs.flatten → bs.length < fuel → inp.flatten.length / n < fuel := by
    intro n bs inp hn hb hi hl
    rw [hi, ← blocks_length, blocks_flatten hn hb]
    exact hl
  refine ⟨?_, ?_, ?_, ?_⟩
  · exact blockLoop_not_clean hw (hlen hw hframes haudio hf) (wrapPayload_ne_returned w)
  · exact blockLoop_not_clean hu (hlen hu hpackets hnetwork hp) (unwrapPacket_ne_returned u)
  · intro s outs hs
    have hrun : w.run P fuel g audio = _ := blockLoop_blocks hw hframes hs haudio hf
    rw [hrun]
    rfl
  · intro s outs hs
    have hrun : u.run P fuel g' network = _ := blockLoop_blocks hu hpackets hs hnetwork hp
    rw [hrun]
    rfl

/-- The connector, over the same streams, returns. -/
theorem connector_ends_cleanly {packets input : List Octets} {fuel : Nat}
    (hp : ∀ p ∈ packets, p.length = Connector.packetSize) (hi : input.flatten = packets.flatten)
    (hf : packets.length < fuel) :
    EndsCleanly packets.length (tryFinally (Connector.run fuel input)) := by
  rw [connector_blocks hp hi hf]
  exact ⟨_, rfl, rfl, rfl, rfl, rfl⟩

/-- Two frames of Codec2 and a stream of no packets. -/
theorem clean_end_throws_codec2 :
    ¬ EndsCleanly 2 (tryFinally ((createWrapper (sessionOf (sampleSetUp 1) {})).run plainPrimitives 3
      (sessionOf (sampleSetUp 1) {}).native [sampleFrames.flatten])) ∧
    ¬ EndsCleanly 0 (tryFinally ((createUnwrapper (sessionOf (sampleSetUp 1) {})).run plainPrimitives 3
      (sessionOf (sampleSetUp 1) {}).native [])) := by
  have hframes : ∀ f ∈ sampleFrames,
      f.length = (createWrapper (sessionOf (sampleSetUp 1) {})).payloadSize := by decide
  have haudio : [sampleFrames.flatten].flatten = sampleFrames.flatten := rfl
  have hpackets : ∀ p ∈ ([] : List Octets),
      p.length = (createUnwrapper (sessionOf (sampleSetUp 1) {})).packetSize := by simp
  have hnetwork : ([] : List Octets).flatten = ([] : List Octets).flatten := rfl
  have hf : sampleFrames.length < 3 := by decide
  have hp : ([] : List Octets).length < 3 := by decide
  have h := clean_end_throws plainPrimitives (createWrapper (sessionOf (sampleSetUp 1) {}))
    (createUnwrapper (sessionOf (sampleSetUp 1) {})) (sessionOf (sampleSetUp 1) {}).native
    (sessionOf (sampleSetUp 1) {}).native (by decide) (by decide) hframes haudio hpackets hnetwork hf hp
  exact ⟨h.1, h.2.1⟩

/-- The peer hangs up before the first packet: the unwrapper throws. -/
theorem hang_up_throws :
    tryFinally ((createUnwrapper (sessionOf (sampleSetUp 1) {})).run plainPrimitives 1
      (sessionOf (sampleSetUp 1) {}).native []) =
        some ⟨[], .threw (.mainProtocol "cannot read packet"), true, true⟩ ∧
    ¬ EndsCleanly 0 (tryFinally ((createUnwrapper (sessionOf (sampleSetUp 1) {})).run plainPrimitives 1
      (sessionOf (sampleSetUp 1) {}).native [])) := by
  have h : tryFinally ((createUnwrapper (sessionOf (sampleSetUp 1) {})).run plainPrimitives 1
      (sessionOf (sampleSetUp 1) {}).native []) =
        some ⟨[], .threw (.mainProtocol "cannot read packet"), true, true⟩ := rfl
  refine ⟨h, ?_⟩
  rintro ⟨e, he, -, -, -, hstop⟩
  rw [h] at he
  cases he
  cases hstop

end Media
end OnionPhone
