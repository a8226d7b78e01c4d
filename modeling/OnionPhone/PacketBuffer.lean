import OnionPhone.Media

/-!
# OnionPhone.PacketBuffer

The array in which `SrtpWrapper.run` makes its packets. It is allocated once, encrypted in place and used
again for the next frame. A round writes the header, the frame and the tag; the octets between the frame
and the tag, where a payload is not a multiple of four octets, are written by nothing but the encryption.

* `wrapPayload_uniform`: what a round makes of the array, with the same keystream whatever is in it.
* `packets_do_not_leak`: no packet depends on the frames before its own.
* `padding_iff`: the padding the header announces is never there.
-/

namespace OnionPhone
namespace Media

open Wire Wire.Octets Native SrtpProtocol

variable {P : Primitives} {c : SetUpArgs}

/-! ## One packet, whatever is in it -/

/-- Streams as the policy of `initSender` makes them. -/
def PolicyStreams (ctx : SrtpCtx) : Prop :=
  ∀ st ∈ ctx.streamList, st.tagLen = 4 ∧ st.services = .confAndAuth

theorem policyStreams_putStream {ctx : SrtpCtx} {st : SrtpStream} (h : PolicyStreams ctx)
    (ht : st.tagLen = 4) (hs : st.services = .confAndAuth) : PolicyStreams (ctx.putStream st) := by
  obtain ⟨streams⟩ := ctx
  unfold PolicyStreams SrtpCtx.putStream at *
  simp only at h ⊢
  induction streams with
  | nil => simp [SrtpCtx.putStream.go]
  | cons x xs ih =>
    have hxs := ih fun y hy => h y (List.mem_cons_of_mem _ hy)
    intro y hy
    unfold SrtpCtx.putStream.go at hy
    split at hy
    · rcases List.mem_cons.1 hy with rfl | hy
      · exact ⟨ht, hs⟩
      · exact h y (List.mem_cons_of_mem _ hy)
    · rcases List.mem_cons.1 hy with rfl | hy
      · exact h y List.mem_cons_self
      · exact hxs y hy

/-- What the cipher does to packets with one header and of one size: it refuses all of them, or adds one
keystream. -/
theorem cipherEncrypt_uniform (P : Primitives) (st : SrtpStream) (est size : Nat) {hdr : Octets}
    (hh : hdr.length = 12) (hs : ∀ rest, encStart (hdr ++ rest) = 12) :
    (∀ body tail : Octets, cipherEncrypt P st est (hdr ++ body ++ tail) (12 + size) = none) ∨
    ∃ ks, ∀ body tail : Octets, body.length = size →
      cipherEncrypt P st est (hdr ++ body ++ tail) (12 + size) = some (hdr ++ xorStream ks body ++ tail) := by
  have hl : ∀ body tail : Octets, encOctetLen (hdr ++ body ++ tail) (12 + size) = size % 2 ^ 32 := by
    intro body tail
    rw [encOctetLen, List.append_assoc, hs]
    omega
  by_cases hlong : size % 2 ^ 32 > 0xffff
  · left
    intro body tail
    rw [cipherEncrypt, hl, if_pos hlong]
  · right
    refine ⟨fun i => if i < size % 2 ^ 32 then P.keystream st.key st.ssrc est i else 0, ?_⟩
    intro body tail hb
    have hle : size % 2 ^ 32 ≤ body.length := hb ▸ Nat.mod_le _ _
    have hstart : encStart (hdr ++ body ++ tail) = hdr.length := by rw [List.append_assoc, hs, hh]
    rw [cipherEncrypt, hl, if_neg hlong, hstart, slice_append_take hle, ← xorStream_take]
    -- the encrypted part, and what is left of the body behind it
    have hw : writeAt (hdr ++ body.take (size % 2 ^ 32) ++ (body.drop (size % 2 ^ 32) ++ tail)) hdr.length
        (xorStream (P.keystream st.key st.ssrc est) (body.take (size % 2 ^ 32))) = _ :=
      writeAt_append (xorStream_length _ _)
    have hcut : hdr ++ body.take (size % 2 ^ 32) ++ (body.drop (size % 2 ^ 32) ++ tail) =
        hdr ++ body ++ tail := by
      rw [List.append_assoc, ← List.append_assoc (body.take _), List.take_append_drop, List.append_assoc]
    rw [hcut] at hw
    rw [hw]
    simp only [List.append_assoc]

theorem sealPacket_uniform (P : Primitives) (st : SrtpStream) (est size : Nat) {hdr : Octets}
    (htag : st.tagLen = 4) (hserv : st.services = .confAndAuth) (hh : hdr.length = 12)
    (hs : ∀ rest, encStart (hdr ++ rest) = 12) :
    (∀ body tail : Octets, (sealPacket P st est (hdr ++ body ++ tail) (12 + size)).1 = .cipherFail) ∨
    ∃ (ks : Nat → UInt8) (tag : Octets → Octets), (∀ ct, (tag ct).length = 4) ∧
      ∀ body tail : Octets, body.length = size → tail.length = 4 →
        sealPacket P st est (hdr ++ body ++ tail) (12 + size) =
          (.ok, hdr ++ xorStream ks body ++ tag (xorStream ks body), 12 + size + 4) := by
  have hconf : st.services.hasConf = true := by rw [hserv]; rfl
  have hauth : st.services.hasAuth = true := by rw [hserv]; rfl
  unfold sealPacket
  simp only [hconf, hauth, if_true]
  obtain hnone | ⟨ks, hsome⟩ := cipherEncrypt_uniform P st est size hh hs
  · left
    intro body tail
    rw [hnone]
  · right
    refine ⟨ks, fun ct => P.authTag st.key 4 (hdr ++ ct) (est / 2 ^ 16), fun ct => P.authTag_length .., ?_⟩
    intro body tail hb ht
    have hlen : 12 + size = (hdr ++ xorStream ks body).length := by simp [hh, hb]
    have htagged : authCompute P st est (hdr ++ xorStream ks body ++ tail) (12 + size) =
        P.authTag st.key 4 (hdr ++ xorStream ks body) (est / 2 ^ 16) := by
      rw [authCompute, hlen, List.take_left, htag]
    have hw : ∀ tag : Octets, tag.length = 4 →
        writeAt (hdr ++ xorStream ks body ++ tail) (12 + size) tag = hdr ++ xorStream ks body ++ tag := by
      intro tag h4
      rw [hlen, ← List.append_nil (hdr ++ xorStream ks body ++ tail), writeAt_append, List.append_nil]
      rw [h4, ht]
    simp only [hsome body tail hb, htagged, hw _ (P.authTag_length ..), htag]

/-- What `srtp_protect` does to packets with one header and of one size: it refuses all of them, or goes
on with one context, one keystream and one way to make the tag. -/
theorem srtpProtect_uniform (P : Primitives) {ctx : SrtpCtx} (hctx : PolicyStreams ctx) (size : Nat)
    {hdr : Octets} (hh : hdr.length = 12) (hs : ∀ rest, encStart (hdr ++ rest) = 12) :
    (∃ status, status ≠ .ok ∧ ∀ body tail : Octets,
      (srtpProtect P ctx (hdr ++ body ++ tail) (12 + size)).status = status) ∨
    ∃ (ctx' : SrtpCtx) (ks : Nat → UInt8) (tag : Octets → Octets), PolicyStreams ctx' ∧
      (∀ ct, (tag ct).length = 4) ∧ ∀ body tail : Octets, body.length = size → tail.length = 4 →
        srtpProtect P ctx (hdr ++ body ++ tail) (12 + size) =
          ⟨.ok, ctx', hdr ++ xorStream ks body ++ tag (xorStream ks body), 12 + size + 4⟩ := by
  have hssrc : ∀ body tail : Octets, hdrSsrc (hdr ++ body ++ tail) = hdrSsrc hdr := by
    intro body tail
    rw [hdrSsrc, List.append_assoc, slice_append_left (by omega), hdrSsrc]
  have hseq : ∀ body tail : Octets, hdrSeq (hdr ++ body ++ tail) = hdrSeq hdr := by
    intro body tail
    rw [hdrSeq, List.append_assoc, slice_append_left (by omega), hdrSeq]
  have hlen : ¬ 12 + size < octetsInRtpHeader := by rw [octetsInRtpHeader]; omega
  unfold srtpProtect
  simp only [if_neg hlen, hssrc, hseq]
  cases hget : srtpGetStream ctx (hdrSsrc hdr) with
  | none => exact .inl ⟨.noCtx, by simp, fun _ _ => rfl⟩
  | some st =>
    obtain ⟨htag, hserv⟩ := hctx st (List.mem_of_find?_eq_some hget)
    simp only
    by_cases hev : (keyLimitUpdate st.limit).1 = .hardLimit
    · exact .inl ⟨.keyExpired, by simp, fun _ _ => by rw [if_pos hev]⟩
    simp only [if_neg hev]
    cases hcheck : rdbxCheck st.rdbx (rdbxEstimateIndex st.rdbx (hdrSeq hdr)).1 with
    | ok =>
      let st' : SrtpStream := { st with
        direction := if st.direction = .unknown then .sender else st.direction
        limit := (keyLimitUpdate st.limit).2
        rdbx := rdbxAddIndex st.rdbx (rdbxEstimateIndex st.rdbx (hdrSeq hdr)).1 }
      have hput : PolicyStreams (ctx.putStream st') := policyStreams_putStream hctx htag hserv
      obtain hfail | ⟨ks, tag, h4, hok⟩ := sealPacket_uniform P st'
        (rdbxEstimateIndex st.rdbx (hdrSeq hdr)).2 size htag hserv hh hs
      · exact .inl ⟨.cipherFail, by simp, hfail⟩
      · refine .inr ⟨ctx.putStream st', ks, tag, hput, h4, ?_⟩
        intro body tail hb ht
        simp only [hok body tail hb ht, st']
    | _ => exact .inl ⟨_, by simp, fun _ _ => rfl⟩

/-! ## One round of the wrapper -/

/-- The contexts of a process that sends: the RTP context of the set-up `c` after `n` packets, and a
session as `initSender` makes it. -/
structure Sending (c : SetUpArgs) (n : Nat) (g : Globals) : Prop where
  rtp : g.rtpContext = some (c.rtpContext n)
  size : g.rtpPacketSize = rtpPacketSizeInBytes c.codec
  send : ∃ ctx, g.srtpContextSend = some ctx ∧ PolicyStreams ctx

theorem run_sending (c : SetUpArgs) : Sending c 0 (c.run {}) := by
  unfold SetUpArgs.run SetUpArgs.sender
  rw [initSender_fresh rfl]
  refine ⟨rfl, rfl, _, rfl, ?_⟩
  rintro st (- | ⟨_, h⟩)
  · exact ⟨rfl, rfl⟩
  · cases h

/-- The array with `pad` between the frame and the tag. -/
def Padded (c : SetUpArgs) (pad buf : Octets) : Prop :=
  ∃ old frame tail : Octets, buf = old ++ (frame ++ pad) ++ tail ∧ old.length = 12 ∧
    frame.length = c.codec.bytesSize ∧
    (frame ++ pad).length = roundUpToMultipleOf4 c.codec.bytesSize ∧ tail.length = 4

theorem padded_new (c : SetUpArgs) :
    Padded c (List.replicate (roundUpToMultipleOf4 c.codec.bytesSize - c.codec.bytesSize) 0)
      (List.replicate (SrtpProtocol.packetSize c.codec) 0) := by
  have hle := bytesSize_le_roundUp c.codec
  refine ⟨List.replicate 12 0, List.replicate c.codec.bytesSize 0, List.replicate 4 0, ?_, by simp,
    by simp, ?_, by simp⟩
  · simp only [List.replicate_append_replicate, SrtpProtocol.packetSize]
    congr 1
    simp only [srtpHeaderSizeInBytes, srtpAuthorizationTagSizeInBytes]
    omega
  · simp
    omega

def protectArg (g : Globals) (packet : Octets) : Option Octets := do
  let rtpContext ← g.rtpContext
  let _ ← g.srtpContextSend
  pure (getNextPacketHeader rtpContext packet).2

theorem protectArg_of_wrap {packet out : Octets} {g g' : Globals} {status : ErrStatus}
    (h : wrapPayloadNative P packet g = some (status, out, g')) :
    ∃ pkt ctx, protectArg g packet = some pkt ∧ g.srtpContextSend = some ctx ∧
      (srtpProtect P ctx pkt g.rtpPacketSize).status = status ∧
      (srtpProtect P ctx pkt g.rtpPacketSize).packet = out := by
  simp only [wrapPayloadNative, Option.bind_eq_bind, Option.bind_eq_some_iff] at h
  obtain ⟨rtp, hr, ctx, hc, h⟩ := h
  cases h
  exact ⟨_, ctx, by simp only [protectArg, hr, hc]; rfl, hc, rfl, rfl⟩

theorem protectArg_eq {n : Nat} {g : Globals} {pad buf frame : Octets} (hg : Sending c n g)
    (hbuf : Padded c pad buf) (hframe : frame.length = c.codec.bytesSize) :
    ∃ tail : Octets, tail.length = 4 ∧
      (frame ++ pad).length = roundUpToMultipleOf4 c.codec.bytesSize ∧
      protectArg g (writeAt buf 12 frame) = some (c.header n ++ (frame ++ pad) ++ tail) := by
  obtain ⟨old, frame', tail, rfl, hold, hframe', hlen, htail⟩ := hbuf
  obtain ⟨ctx, hctx, -⟩ := hg.send
  refine ⟨tail, htail, ?_, ?_⟩
  · rw [List.length_append] at hlen ⊢
    omega
  · have hw : writeAt (old ++ (frame' ++ pad) ++ tail) 12 frame = old ++ (frame ++ pad) ++ tail := by
      have h : writeAt (old ++ frame' ++ (pad ++ tail)) old.length frame = old ++ frame ++ (pad ++ tail) :=
        writeAt_append (hframe.trans hframe'.symm)
      rw [hold] at h
      simpa only [List.append_assoc] using h
    simp only [protectArg, hg.rtp, hctx, Option.bind_eq_bind, Option.bind_some, getNextPacketHeader,
      ← rtpContext_succ, hw]
    show some (writeAt (old ++ (frame ++ pad) ++ tail) 0 (c.header n)) = _
    rw [writeAt_header, List.append_assoc, ← show old.length = 12 from hold, List.drop_left]
    simp only [List.append_assoc]

/-- A round of the wrapper either throws, whatever is in the array and in the frame, or it goes on with
one context, one keystream and one way to make the tag. -/
theorem wrapPayload_uniform (P : Primitives) {w : SrtpWrapper} (hw : w.headerSize = 12) {n : Nat}
    {g : Globals} (hg : Sending c n g) :
    (∃ e, ∀ pad buf frame : Octets, Padded c pad buf → frame.length = c.codec.bytesSize →
      wrapPayload P w (buf, g) frame = .error e) ∨
    ∃ (g' : Globals) (ks : Nat → UInt8) (tag : Octets → Octets), Sending c (n + 1) g' ∧
      (∀ ct, (tag ct).length = 4) ∧
      ∀ pad buf frame : Octets, Padded c pad buf → frame.length = c.codec.bytesSize →
        let ct := xorStream ks (frame ++ pad)
        wrapPayload P w (buf, g) frame =
          .ok ((c.header n ++ ct ++ tag ct, g'), c.header n ++ ct ++ tag ct) := by
  obtain ⟨ctx, hctx, hpol⟩ := hg.send
  have hsize : g.rtpPacketSize = 12 + roundUpToMultipleOf4 c.codec.bytesSize := hg.size
  have hnative : ∀ pad buf frame : Octets, Padded c pad buf → frame.length = c.codec.bytesSize →
      ∃ tail : Octets, tail.length = 4 ∧
        (frame ++ pad).length = roundUpToMultipleOf4 c.codec.bytesSize ∧
        wrapPayloadNative P (writeAt buf w.headerSize frame) g =
          let out := srtpProtect P ctx (c.header n ++ (frame ++ pad) ++ tail)
            (12 + roundUpToMultipleOf4 c.codec.bytesSize)
          some (out.status, out.packet, { g with
            rtpContext := some (c.rtpContext (n + 1)), srtpContextSend := some out.ctx }) := by
    intro pad buf frame hbuf hframe
    obtain ⟨tail, htail, hlen, harg⟩ := protectArg_eq hg hbuf hframe
    refine ⟨tail, htail, hlen, ?_⟩
    simp only [protectArg, hg.rtp, hctx, Option.bind_eq_bind, Option.bind_some, Option.pure_def,
      Option.some.injEq] at harg
    have hnext : (getNextPacketHeader (c.rtpContext n) (writeAt buf 12 frame)).1 = c.rtpContext (n + 1) :=
      (rtpContext_succ c n).symm
    simp only [wrapPayloadNative, hg.rtp, hctx, Option.bind_eq_bind, Option.bind_some, hw, hsize, harg,
      hnext]
    rfl
  obtain ⟨status, hne, hfail⟩ | ⟨ctx', ks, tag, hpol', h4, hok⟩ :=
    srtpProtect_uniform P hpol (roundUpToMultipleOf4 c.codec.bytesSize) (header_length c n)
      (encStart_header c n)
  · refine .inl ⟨.threw (.mainProtocol
      ("native srtp wrapper exited with error code: " ++ toString status.code)), ?_⟩
    intro pad buf frame hbuf hframe
    obtain ⟨tail, htail, hlen, hn⟩ := hnative pad buf frame hbuf hframe
    unfold wrapPayload
    simp only [hn, hfail]
  · refine .inr ⟨{ g with rtpContext := some (c.rtpContext (n + 1)), srtpContextSend := some ctx' },
      ks, tag, ⟨rfl, hg.size, ctx', rfl, hpol'⟩, h4, ?_⟩
    intro pad buf frame hbuf hframe
    obtain ⟨tail, htail, hlen, hn⟩ := hnative pad buf frame hbuf hframe
    unfold wrapPayload
    simp only [hn, hok _ _ hlen htail]

theorem padded_packet {n : Nat} {ks : Nat → UInt8} {pad frame tail : Octets}
    (hframe : frame.length = c.codec.bytesSize)
    (hlen : (frame ++ pad).length = roundUpToMultipleOf4 c.codec.bytesSize) (htail : tail.length = 4) :
    Padded c (xorStream (fun i => ks (i + c.codec.bytesSize)) pad)
      (c.header n ++ xorStream ks (frame ++ pad) ++ tail) := by
  refine ⟨c.header n, xorStream ks frame, tail, ?_, rfl, ?_, ?_, htail⟩
  · rw [xorStream_append, hframe]
  · rw [xorStream_length, hframe]
  · rw [List.length_append, xorStream_length, xorStream_length, ← List.length_append, hlen]

/-! ## Two runs -/

/-- Two runs whose arrays have the same padding write the same packet for the same frame, whatever the
frames before it were. -/
theorem packets_agree {w : SrtpWrapper} (hw : w.headerSize = 12) {frame : Octets} {k : Nat} :
    ∀ {n : Nat} {g : Globals} {pad buf₁ buf₂ : Octets} {frames₁ frames₂ : List Octets}, Sending c n g →
      Padded c pad buf₁ → Padded c pad buf₂ → (∀ f ∈ frames₁, f.length = c.codec.bytesSize) →
      (∀ f ∈ frames₂, f.length = c.codec.bytesSize) → frames₁[k]? = some frame →
      frames₂[k]? = some frame →
      (stepUntil (wrapPayload P w) (buf₁, g) frames₁).1[k]? =
        (stepUntil (wrapPayload P w) (buf₂, g) frames₂).1[k]? := by
  induction k with
  | zero =>
    intro n g pad buf₁ buf₂ frames₁ frames₂ hg hb₁ hb₂ hf₁ hf₂ hk₁ hk₂
    obtain ⟨rest₁, rfl⟩ : ∃ rest, frames₁ = frame :: rest := by
      cases frames₁ with
      | nil => cases hk₁
      | cons f rest => cases hk₁; exact ⟨rest, rfl⟩
    obtain ⟨rest₂, rfl⟩ : ∃ rest, frames₂ = frame :: rest := by
      cases frames₂ with
      | nil => cases hk₂
      | cons f rest => cases hk₂; exact ⟨rest, rfl⟩
    have hlen := hf₁ frame List.mem_cons_self
    obtain ⟨e, herr⟩ | ⟨g', ks, tag, hg', h4, hok⟩ := wrapPayload_uniform P hw hg
    · simp only [stepUntil, herr _ _ _ hb₁ hlen, herr _ _ _ hb₂ hlen]
    · simp only [stepUntil, hok _ _ _ hb₁ hlen, hok _ _ _ hb₂ hlen]
      rfl
  | succ k ih =>
    intro n g pad buf₁ buf₂ frames₁ frames₂ hg hb₁ hb₂ hf₁ hf₂ hk₁ hk₂
    cases frames₁ with
    | nil => cases hk₁
    | cons f₁ rest₁ =>
      cases frames₂ with
      | nil => cases hk₂
      | cons f₂ rest₂ =>
        have hl₁ := hf₁ f₁ List.mem_cons_self
        have hl₂ := hf₂ f₂ List.mem_cons_self
        obtain ⟨e, herr⟩ | ⟨g', ks, tag, hg', h4, hok⟩ := wrapPayload_uniform P hw hg
        · simp only [stepUntil, herr _ _ _ hb₁ hl₁, herr _ _ _ hb₂ hl₂]
        · simp only [stepUntil, hok _ _ _ hb₁ hl₁, hok _ _ _ hb₂ hl₂]
          obtain ⟨_, -, hp₁, -⟩ := protectArg_eq hg hb₁ hl₁
          obtain ⟨_, -, hp₂, -⟩ := protectArg_eq hg hb₂ hl₂
          exact ih hg' (padded_packet hl₁ hp₁ (h4 _)) (padded_packet hl₂ hp₂ (h4 _))
            (fun f hf => hf₁ f (List.mem_cons_of_mem _ hf))
            (fun f hf => hf₂ f (List.mem_cons_of_mem _ hf)) hk₁ hk₂

/-- Two runs from the same contexts, on audio that has the same frame at position `k`: packet number `k`
is the same in both, octet for octet, or missing in both. -/
theorem packets_do_not_leak (P : Primitives) {n : Nat} {g : Globals} (hg : Sending c n g) (s : Session)
    {audio₁ audio₂ : List Octets} {fuel k : Nat} {frame : Octets}
    (hf₁ : audio₁.flatten.length / c.codec.bytesSize < fuel)
    (hf₂ : audio₂.flatten.length / c.codec.bytesSize < fuel)
    (h₁ : (blocks c.codec.bytesSize audio₁.flatten)[k]? = some frame)
    (h₂ : (blocks c.codec.bytesSize audio₂.flatten)[k]? = some frame) :
    ((createWrapper (setSizes c.codec s)).run P fuel g audio₁).1[k]? =
      ((createWrapper (setSizes c.codec s)).run P fuel g audio₂).1[k]? := by
  have hb : 0 < c.codec.bytesSize := by
    by_contra h
    have hz : c.codec.bytesSize = 0 := by omega
    simp [blocks, hz] at h₁
  have hrun : ∀ audio : List Octets, audio.flatten.length / c.codec.bytesSize < fuel →
      (createWrapper (setSizes c.codec s)).run P fuel g audio = _ := fun audio hf => blockLoop_eq hb hf
  rw [hrun audio₁ hf₁, hrun audio₂ hf₂]
  exact packets_agree rfl hg (padded_new c) (padded_new c) (fun _ => mem_blocks) (fun _ => mem_blocks)
    h₁ h₂

/-- Two runs with different first frames and the same second one. -/
theorem second_packet_does_not_leak :
    ((createWrapper (setSizes codec2 {})).run plainPrimitives 3 ((sampleSetUp 1).run {})
      [[1, 2, 3, 4, 5, 6, 7], [8, 9, 10, 11, 12, 13, 14]]).1[1]? =
    ((createWrapper (setSizes codec2 {})).run plainPrimitives 3 ((sampleSetUp 1).run {})
      [[0, 0, 0], [0, 0, 0, 0, 8, 9, 10, 11], [12, 13, 14]]).1[1]? :=
  packets_do_not_leak (c := sampleSetUp 1) (k := 1) plainPrimitives (run_sending _) {} (by decide)
    (by decide) (show _ = some [8, 9, 10, 11, 12, 13, 14] by decide) (by decide)

/-! ## The padding bit -/

/-- The frames and the packets made of them as `srtp_protect` gets them, before encryption. -/
def handed (P : Primitives) (w : SrtpWrapper) : Octets × Globals → List Octets → List (Octets × Octets)
  | _, [] => []
  | s, frame :: frames =>
    match protectArg s.2 (writeAt s.1 w.headerSize frame) with
    | none => []
    | some packet =>
      (frame, packet.take s.2.rtpPacketSize) ::
        match wrapPayload P w s frame with
        | .ok (s', _) => handed P w s' frames
        | .error _ => []

/-- What the padding bit of the header promises: the last octet counts the octets of padding, itself
included, and without them the packet is its header and the frame. -/
def WellPadded (frame packet : Octets) : Prop :=
  ∃ count, packet.getLast? = some count ∧ 1 ≤ count.toNat ∧
    packet.take (packet.length - count.toNat) = packet.take 12 ++ frame

theorem not_wellPadded_zeros {hdr frame : Octets} {k : Nat} (hh : hdr.length = 12)
    (hf : 0 < frame.length) : ¬ WellPadded frame (hdr ++ (frame ++ List.replicate k 0)) := by
  rintro ⟨count, hlast, hone, htake⟩
  cases k with
  | zero =>
    have hl := congrArg List.length htake
    simp [hh] at hl
    omega
  | succ k =>
    rw [List.replicate_succ', ← List.append_assoc, ← List.append_assoc, List.getLast?_concat] at hlast
    cases hlast
    simp at hone

/-- For no frame size and no sequence of frames are the packets padded as their headers say, unless
there is no packet. -/
theorem padding_iff (P : Primitives) {n : Nat} {g : Globals} (hg : Sending c n g) (s : Session)
    (hb : 1 ≤ c.codec.bytesSize) {frames : List Octets}
    (hframes : ∀ f ∈ frames, f.length = c.codec.bytesSize) :
    (∀ made ∈ handed P (createWrapper (setSizes c.codec s))
      (List.replicate (SrtpProtocol.packetSize c.codec) 0, g) frames, WellPadded made.1 made.2) ↔
      frames = [] := by
  constructor
  · intro h
    cases frames with
    | nil => rfl
    | cons frame frames =>
      have hl := hframes frame List.mem_cons_self
      obtain ⟨tail, htail, hlen, harg⟩ := protectArg_eq hg (padded_new c) hl
      have hcut : ∀ body : Octets, body.length = roundUpToMultipleOf4 c.codec.bytesSize →
          (c.header n ++ body ++ tail).take g.rtpPacketSize = c.header n ++ body := by
        intro body hbody
        have hsize : g.rtpPacketSize = (c.header n ++ body).length := by
          rw [hg.size, List.length_append, header_length, hbody]
          rfl
        rw [hsize, List.take_left]
      refine absurd (h (frame, c.header n ++ (frame ++ List.replicate
        (roundUpToMultipleOf4 c.codec.bytesSize - c.codec.bytesSize) 0)) ?_)
        (not_wellPadded_zeros (header_length c n) (hl.symm ▸ hb))
      have hw : (createWrapper (setSizes c.codec s)).headerSize = 12 := rfl
      simp only [handed, hw, harg, hcut _ hlen]
      exact List.mem_cons_self
  · rintro rfl made hmade
    cases hmade

/-- Two frames of Codec2: not all packets are padded. -/
theorem padding_iff_codec2 :
    ¬ ∀ made ∈ handed plainPrimitives (createWrapper (setSizes codec2 {}))
      (List.replicate 24 0, (sampleSetUp 1).run {}) sampleFrames, WellPadded made.1 made.2 := by
  intro h
  have hframes : ∀ f ∈ sampleFrames, f.length = (sampleSetUp 1).codec.bytesSize := by decide
  have hnone := (padding_iff plainPrimitives (run_sending (sampleSetUp 1)) {} (by decide) hframes).1 h
  cases hnone

/-- One frame of Codec2: the header says padding, and the last octet says that there is none. -/
theorem padding_count_zero :
    ¬ ∀ made ∈ handed plainPrimitives (createWrapper (setSizes codec2 {}))
      (List.replicate 24 0, (sampleSetUp 1).run {}) [[1, 2, 3, 4, 5, 6, 7]],
        WellPadded made.1 made.2 := by
  have hmade : handed plainPrimitives (createWrapper (setSizes codec2 {}))
      (List.replicate 24 0, (sampleSetUp 1).run {}) [[1, 2, 3, 4, 5, 6, 7]] =
        [([1, 2, 3, 4, 5, 6, 7],
          (sampleSetUp 1).header 0 ++ ([1, 2, 3, 4, 5, 6, 7] ++ List.replicate 1 0))] := by
    decide
  rw [hmade]
  intro h
  have hpadded := h _ List.mem_cons_self
  exact not_wellPadded_zeros (header_length _ _) (by decide) hpadded

end Media
end OnionPhone
