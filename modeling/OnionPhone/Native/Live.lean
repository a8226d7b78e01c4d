import OnionPhone.Native.Jni
import OnionPhone.Native.Kdf

/-!
# OnionPhone.Native.Live

`srtp_protect` and `srtp_unprotect` on the streams that are in memory: a stream holds a counter mode context
and a hash context, which every packet changes, and not the master key that they were made with.

* `libsrtp`: the keystream and the tag of a packet, as the standard derives them from a master key. These are
  primitives, and so everything that holds for all primitives holds for them.
* `Represents s l`: the stream `l` in memory behaves as the stream `s` with a master key.
* `srtpProtect_live`, `srtpUnprotect_live`: packet by packet, whatever has gone through the contexts before,
  the two levels give the same packet and the same status, and stay in step.
-/

namespace OnionPhone
namespace Native

open Wire Wire.Octets Wire.Aes Wire.Sha1

/-! ## The code -/

structure LiveStream where
  ssrc : Nat
  limit : KeyLimit
  rdbx : Rdbx
  services : SecServ
  direction : Direction
  keys : Keys
  deriving DecidableEq

structure LiveCtx where
  streamList : List LiveStream := []
  deriving DecidableEq

def LiveStream.setCipher (stream : LiveStream) (c : AesIcmCtx) : LiveStream :=
  { stream with keys := { stream.keys with rtpCipher := c } }

def LiveStream.setAuth (stream : LiveStream) (state : HmacCtx) : LiveStream :=
  { stream with keys := { stream.keys with rtpAuth := { stream.keys.rtpAuth with state := state } } }

def LiveCtx.getStream (ctx : LiveCtx) (ssrc : Nat) : Option LiveStream :=
  ctx.streamList.find? (·.ssrc = ssrc)

def LiveCtx.putStream (ctx : LiveCtx) (stream : LiveStream) : LiveCtx :=
  ⟨go ctx.streamList⟩
where
  go : List LiveStream → List LiveStream
    | [] => []
    | s :: rest => if s.ssrc = stream.ssrc then stream :: rest else s :: go rest

/-- `be64_to_cpu`, as the octets that it leaves in memory. -/
def be64 (n : Nat) : Octets := be32 (n / 2 ^ 32) ++ be32 n

/-- The initialisation vector: zeros, the SSRC in network order, and `be64_to_cpu(est << 16)`. -/
def packetIv (ssrc est : Nat) : V128 := v128CopyOctetString (be32 0 ++ be32 ssrc ++ be64 (est * 2 ^ 16))

/-- `cipher_encrypt` on the octets from `enc_start` on. -/
def cipherEncryptLive (c : AesIcmCtx) (pkt : Octets) (len : Nat) : Option (AesIcmCtx × Octets) :=
  if c.hasLeft (encOctetLen pkt len) then
    let out := addKeystream c (slice pkt (encStart pkt) (encOctetLen pkt len))
    some (out.1, writeAt pkt (encStart pkt) out.2)
  else
    none

/-- What the two calls of `sha1_final` find on the stack. -/
structure Stack where
  inner : WordArray
  outer : WordArray

/-- `auth_start`, `auth_update` with the packet, and `auth_compute` with the four first octets of the shifted
index, which are the rollover counter. -/
def authComputeLive (stack : Stack) (auth : Auth) (est : Nat) (pkt : Octets) (len : Nat) :
    HmacCtx × Option Octets :=
  let state := hmacUpdate (hmacStart auth.state) (pkt.take len)
  match hmacCompute stack.inner stack.outer state ((be64 (est * 2 ^ 16)).take 4) auth.outLen with
  | none => (state, none)
  | some (state, tag) => (state, some tag)

structure LiveResult where
  status : ErrStatus
  ctx : LiveCtx
  packet : Octets
  pktOctetLen : Nat

/-- The end of `srtp_protect`. -/
def sealLive (stack : Stack) (stream : LiveStream) (est : Nat) (pkt : Octets) (len : Nat) :
    ErrStatus × LiveStream × Octets × Nat :=
  let c := aesIcmSetIv stream.keys.rtpCipher (packetIv (hdrSsrc pkt) est)
  match (if stream.services.hasConf then cipherEncryptLive c pkt len else some (c, pkt)) with
  | none => (.cipherFail, stream.setCipher c, pkt, len)
  | some (c, pkt) =>
    let stream := stream.setCipher c
    if stream.services.hasAuth then
      match authComputeLive stack stream.keys.rtpAuth est pkt len with
      | (state, none) => (.authFail, stream.setAuth state, pkt, len)
      | (state, some tag) =>
        (.ok, stream.setAuth state, writeAt pkt len tag, len + stream.keys.rtpAuth.outLen)
    else
      (.ok, stream, pkt, len)

def srtpProtectLive (stack : Stack) (ctx : LiveCtx) (pkt : Octets) (len : Nat) : LiveResult :=
  if len < octetsInRtpHeader then
    ⟨.badParam, ctx, pkt, len⟩
  else
    match ctx.getStream (hdrSsrc pkt) with
    | none => ⟨.noCtx, ctx, pkt, len⟩
    | some stream =>
      let direction := if stream.direction = .unknown then .sender else stream.direction
      let event := keyLimitUpdate stream.limit
      let stream := { stream with direction := direction, limit := event.2 }
      if event.1 = .hardLimit then
        ⟨.keyExpired, ctx.putStream stream, pkt, len⟩
      else
        let guess := rdbxEstimateIndex stream.rdbx (hdrSeq pkt)
        match rdbxCheck stream.rdbx guess.1 with
        | .ok =>
          let stream := { stream with rdbx := rdbxAddIndex stream.rdbx guess.1 }
          let out := sealLive stack stream guess.2 pkt len
          ⟨out.1, ctx.putStream out.2.1, out.2.2.1, out.2.2.2⟩
        | status => ⟨status, ctx.putStream stream, pkt, len⟩

/-- The check of the tag at the end of a packet: the authentication context after it, and whether the tag is
wrong. -/
def checkTagLive (stack : Stack) (stream : LiveStream) (est : Nat) (pkt : Octets) (body : Nat) :
    LiveStream × Bool :=
  if stream.services.hasAuth then
    match authComputeLive stack stream.keys.rtpAuth est pkt body with
    | (state, none) => (stream.setAuth state, true)
    | (state, some tag) => (stream.setAuth state, tag ≠ slice pkt body stream.keys.rtpAuth.outLen)
  else
    (stream, false)

/-- `srtp_unprotect` on a packet whose tag is right. -/
def acceptLive (ctx : LiveCtx) (stream : LiveStream) (delta : Int) (pkt : Octets) (len : Nat) : LiveResult :=
  let body := len - stream.keys.rtpAuth.outLen
  let event := keyLimitUpdate stream.limit
  let stream := { stream with limit := event.2 }
  if event.1 = .hardLimit then
    ⟨.keyExpired, ctx.putStream stream, pkt, len⟩
  else
    match (if stream.services.hasConf then cipherEncryptLive stream.keys.rtpCipher pkt body
      else some (stream.keys.rtpCipher, pkt)) with
    | none => ⟨.cipherFail, ctx.putStream stream, pkt, len⟩
    | some (c, pkt) =>
      let stream := stream.setCipher c
      let direction := if stream.direction = .unknown then .receiver else stream.direction
      let stream := { stream with
        direction := direction, rdbx := rdbxAddIndex stream.rdbx delta }
      ⟨.ok, ctx.putStream stream, pkt, body⟩

def srtpUnprotectLive (stack : Stack) (ctx : LiveCtx) (pkt : Octets) (len : Nat) : LiveResult :=
  if len < octetsInRtpHeader then
    ⟨.badParam, ctx, pkt, len⟩
  else
    match ctx.getStream (hdrSsrc pkt) with
    | none => ⟨.noCtx, ctx, pkt, len⟩
    | some stream =>
      let guess := rdbxEstimateIndex stream.rdbx (hdrSeq pkt)
      match rdbxCheck stream.rdbx guess.1 with
      | .ok =>
        let stream := stream.setCipher (aesIcmSetIv stream.keys.rtpCipher (packetIv (hdrSsrc pkt) guess.2))
        let checked := checkTagLive stack stream guess.2 pkt (len - stream.keys.rtpAuth.outLen)
        if checked.2 then
          ⟨.authFail, ctx.putStream checked.1, pkt, len⟩
        else
          acceptLive ctx checked.1 guess.1 pkt len
      | status => ⟨status, ctx, pkt, len⟩

/-! ## The primitives of the standard -/

def authKey (master : Octets) : Octets := derived master .rtpMsgAuth 20

theorem padded_length {mac : Octets} (h : mac.length = 20) (tagLen : Nat) :
    (mac.take tagLen ++ List.replicate (tagLen - 20) 0).length = tagLen := by
  rw [List.length_append, List.length_take, List.length_replicate, h]
  omega

/-- The tag is the beginning of the HMAC; there are no more than twenty octets of it. -/
def libsrtp : Primitives where
  keystream master ssrc est := standardKeystream (sessionKey master .rtpEncryption .rtpSalt) (packetIv ssrc est)
  authTag master tagLen packet roc :=
    (hmac sha1 64 (authKey master) (packet ++ be32 roc)).take tagLen ++ List.replicate (tagLen - 20) 0
  authTag_length _ tagLen _ _ := padded_length (sha1_length _) tagLen

theorem libsrtp_authTag (master : Octets) {tagLen : Nat} (h : tagLen ≤ 20) (packet : Octets) (roc : Nat) :
    libsrtp.authTag master tagLen packet roc =
      (hmac sha1 64 (authKey master) (packet ++ be32 roc)).take tagLen := by
  simp only [libsrtp, Nat.sub_eq_zero_of_le h, List.replicate_zero, List.append_nil]

/-- The four octets in front of the shifted index are the rollover counter. -/
theorem be64_take (est : Nat) : (be64 (est * 2 ^ 16)).take 4 = be32 (est / 2 ^ 16) := by
  rw [be64, List.take_left' (be32_length _), show est * 2 ^ 16 / 2 ^ 32 = est / 2 ^ 16 by omega]

theorem packetIv_isStart (ssrc est : Nat) : IsStart (packetIv ssrc est) := by
  have hzero : ∀ k, 2 ≤ k → k < 4 → (be32 (est * 2 ^ 16)).getD k 0 = 0 := by
    intro k h₂ h₄
    interval_cases k
    · simp only [be32, List.getD_cons_succ, List.getD_cons_zero]
      apply UInt8.toNat_inj.1
      rw [UInt8.toNat_ofNat', show est * 2 ^ 16 / 2 ^ 8 = est * 2 ^ 8 by omega, Nat.mul_mod_left]
      rfl
    · simp only [be32, List.getD_cons_succ, List.getD_cons_zero]
      apply UInt8.toNat_inj.1
      rw [UInt8.toNat_ofNat', show est * 2 ^ 16 = est * 2 ^ 8 * 2 ^ 8 by omega, Nat.mul_mod_left]
      rfl
  have hget : ∀ k, 2 ≤ k → k < 4 →
      (be32 0 ++ be32 ssrc ++ be64 (est * 2 ^ 16)).getD (12 + k) 0 = 0 := by
    intro k h₂ h₄
    rw [be64, ← List.append_assoc, List.getD_append_right _ _ _ _ (by simp)]
    have hk : 12 + k - (be32 0 ++ be32 ssrc ++ be32 (est * 2 ^ 16 / 2 ^ 32)).length = k := by simp
    rw [hk, hzero k h₂ h₄]
  constructor
  · rw [packetIv, v128CopyOctetString, v8_ofV8 _ (by decide), hget 2 (by decide) (by decide)]
    rfl
  · rw [packetIv, v128CopyOctetString, v8_ofV8 _ (by decide), hget 3 (by decide) (by decide)]
    rfl

/-! ## Streams in memory -/

/-- `l` is in memory what `s` says: its contexts were made with the keys of the master key, wherever in their
work they are. -/
structure Represents (s : SrtpStream) (l : LiveStream) : Prop where
  ssrc : l.ssrc = s.ssrc
  limit : l.limit = s.limit
  rdbx : l.rdbx = s.rdbx
  services : l.services = s.services
  direction : l.direction = s.direction
  cipher : HasKey (sessionKey s.key .rtpEncryption .rtpSalt) l.keys.rtpCipher
  auth : Keyed (authKey s.key) l.keys.rtpAuth.state
  outLen : l.keys.rtpAuth.outLen = s.tagLen
  tagLen_le : s.tagLen ≤ octetsInRtpHeader

def CtxRepresents (ctx : SrtpCtx) (live : LiveCtx) : Prop := List.Forall₂ Represents ctx.streamList live.streamList

theorem getStream_represents {ctx : SrtpCtx} {live : LiveCtx} (h : CtxRepresents ctx live) (ssrc : Nat) :
    (srtpGetStream ctx ssrc = none ∧ live.getStream ssrc = none) ∨
      ∃ s l, srtpGetStream ctx ssrc = some s ∧ live.getStream ssrc = some l ∧ Represents s l ∧ s.ssrc = ssrc := by
  obtain ⟨ss⟩ := ctx
  obtain ⟨ls⟩ := live
  simp only [CtxRepresents] at h
  induction h with
  | nil => exact .inl ⟨rfl, rfl⟩
  | @cons s l ss ls hsl _ ih =>
    simp only [srtpGetStream, LiveCtx.getStream, List.find?_cons] at ih ⊢
    by_cases hs : s.ssrc = ssrc
    · have hl : l.ssrc = ssrc := hsl.ssrc.trans hs
      simp only [decide_eq_true hs, decide_eq_true hl]
      exact .inr ⟨s, l, rfl, rfl, hsl, hs⟩
    · have hl : ¬ l.ssrc = ssrc := fun hl => hs (hsl.ssrc.symm.trans hl)
      simp only [decide_eq_false hs, decide_eq_false hl]
      exact ih

theorem putStream_represents {ctx : SrtpCtx} {live : LiveCtx} (h : CtxRepresents ctx live) {s : SrtpStream}
    {l : LiveStream} (hsl : Represents s l) : CtxRepresents (ctx.putStream s) (live.putStream l) := by
  obtain ⟨ss⟩ := ctx
  obtain ⟨ls⟩ := live
  simp only [CtxRepresents, SrtpCtx.putStream, LiveCtx.putStream] at h ⊢
  induction h with
  | nil => exact .nil
  | @cons s' l' ss ls hsl' hrest ih =>
    simp only [SrtpCtx.putStream.go, LiveCtx.putStream.go, hsl.ssrc, hsl'.ssrc]
    split
    · exact .cons hsl hrest
    · exact .cons hsl' ih

theorem putStream_self {ctx : SrtpCtx} {s : SrtpStream} (h : srtpGetStream ctx s.ssrc = some s) :
    ctx.putStream s = ctx := by
  obtain ⟨ss⟩ := ctx
  simp only [srtpGetStream, SrtpCtx.putStream, SrtpCtx.mk.injEq] at h ⊢
  induction ss with
  | nil => rfl
  | cons s' ss ih =>
    rw [List.find?_cons] at h
    rw [SrtpCtx.putStream.go]
    by_cases hs : s'.ssrc = s.ssrc
    · simp only [decide_eq_true hs, Option.some.injEq] at h
      rw [if_pos hs, h]
    · simp only [decide_eq_false hs] at h
      rw [if_neg hs, ih h]

theorem hasLeft_start {key start : V128} {c : AesIcmCtx} (h : At key start 0 c) (hstart : IsStart start)
    (n : Nat) : c.hasLeft n = decide (n % 2 ^ 32 ≤ 0xffff) := by
  rw [AesIcmCtx.hasLeft, h.blockIndex hstart (by decide)]
  rfl

theorem encOctetLen_lt (pkt : Octets) (len : Nat) : encOctetLen pkt len < 2 ^ 32 := by
  rw [encOctetLen]
  omega

theorem cipherEncryptLive_spec {s : SrtpStream} {c : AesIcmCtx}
    (h : HasKey (sessionKey s.key .rtpEncryption .rtpSalt) c) (est : Nat) (pkt : Octets) (len : Nat) :
    match cipherEncryptLive (aesIcmSetIv c (packetIv s.ssrc est)) pkt len with
    | none => cipherEncrypt libsrtp s est pkt len = none
    | some (c', out) => cipherEncrypt libsrtp s est pkt len = some out ∧
        HasKey (sessionKey s.key .rtpEncryption .rtpSalt) c' := by
  have hstart := isStart_xor (sessionKey s.key .rtpEncryption .rtpSalt) (packetIv_isStart s.ssrc est)
  have hat := aesIcmSetIv_at h.expandedKey (packetIv s.ssrc est)
  rw [h.offset] at hat
  have hlt := encOctetLen_lt pkt len
  obtain ⟨hout, hat', hoff⟩ := addKeystream_spec hat (slice pkt (encStart pkt) (encOctetLen pkt len))
  rw [cipherEncryptLive, hasLeft_start hat hstart, Nat.mod_eq_of_lt hlt]
  by_cases hfit : encOctetLen pkt len ≤ 0xffff
  · rw [if_pos (decide_eq_true hfit)]
    refine ⟨?_, ⟨hat'.expandedKey, hoff.trans h.offset⟩⟩
    rw [cipherEncrypt, if_neg (by omega), hout]
    simp only [Nat.zero_add]
    congr 3
    funext i
    exact (icmKeystream_eq hstart _ i).symm
  · rw [if_neg (by simpa using hfit)]
    rw [cipherEncrypt, if_pos (by omega)]

theorem authComputeLive_spec {s : SrtpStream} {auth : Auth} (h : Keyed (authKey s.key) auth.state)
    (hout : auth.outLen = s.tagLen) (htag : s.tagLen ≤ octetsInRtpHeader) (stack : Stack) (est : Nat)
    (pkt : Octets) {len : Nat} (hlen : len < 2 ^ 28) :
    ∃ state, authComputeLive stack auth est pkt len = (state, some (authCompute libsrtp s est pkt len)) ∧
      Keyed (authKey s.key) state := by
  have h12 : octetsInRtpHeader = 12 := rfl
  have hbits : 8 * (64 + ([pkt.take len].flatten ++ be32 (est / 2 ^ 16)).length) < 2 ^ 32 := by
    simp only [List.flatten_cons, List.flatten_nil, List.append_nil, List.length_append, List.length_take,
      be32_length]
    omega
  obtain ⟨state, htag', hkeyed⟩ := tag_eq (by rw [authKey, derived_length]) h [pkt.take len]
    (be32 (est / 2 ^ 16)) hbits stack.inner stack.outer (show s.tagLen ≤ 20 by omega)
  refine ⟨state, ?_, hkeyed⟩
  simp only [tag, List.foldl_cons, List.foldl_nil, List.flatten_cons, List.flatten_nil, List.append_nil] at htag'
  rw [authComputeLive, be64_take, hout]
  simp only [htag']
  rw [authCompute, libsrtp_authTag _ (by omega)]

theorem Represents.setCipher {s : SrtpStream} {l : LiveStream} (h : Represents s l) {c : AesIcmCtx}
    (hc : HasKey (sessionKey s.key .rtpEncryption .rtpSalt) c) : Represents s (l.setCipher c) :=
  { h with cipher := hc }

theorem Represents.setAuth {s : SrtpStream} {l : LiveStream} (h : Represents s l) {state : HmacCtx}
    (hk : Keyed (authKey s.key) state) : Represents s (l.setAuth state) :=
  { h with auth := hk }

theorem aesIcmSetIv_hasKey {key : Octets} {c : AesIcmCtx} (h : HasKey key c) (iv : V128) :
    HasKey key (aesIcmSetIv c iv) :=
  ⟨h.expandedKey, h.offset⟩

/-! ## Packets -/

theorem sealLive_spec {s : SrtpStream} {l : LiveStream} (h : Represents s l) (stack : Stack) (est : Nat)
    {pkt : Octets} (hpkt : hdrSsrc pkt = s.ssrc) {len : Nat} (hlen : len < 2 ^ 28) :
    ∃ l', Represents s l' ∧ sealLive stack l est pkt len =
      let out := sealPacket libsrtp s est pkt len
      (out.1, l', out.2.1, out.2.2) := by
  have hiv := aesIcmSetIv_hasKey h.cipher (packetIv s.ssrc est)
  -- the tag, once the packet is encrypted or has been left as it was
  have hauth : ∀ (c : AesIcmCtx) (pkt : Octets), HasKey (sessionKey s.key .rtpEncryption .rtpSalt) c →
      ∃ l', Represents s l' ∧
        (if (l.setCipher c).services.hasAuth then
          match authComputeLive stack (l.setCipher c).keys.rtpAuth est pkt len with
          | (state, none) => (ErrStatus.authFail, (l.setCipher c).setAuth state, pkt, len)
          | (state, some tag) =>
            (.ok, (l.setCipher c).setAuth state, writeAt pkt len tag, len + (l.setCipher c).keys.rtpAuth.outLen)
        else (.ok, l.setCipher c, pkt, len)) =
          let out := if s.services.hasAuth then
            (ErrStatus.ok, writeAt pkt len (authCompute libsrtp s est pkt len), len + s.tagLen)
            else (.ok, pkt, len)
          (out.1, l', out.2.1, out.2.2) := by
    intro c pkt hc
    have hl := h.setCipher hc
    obtain ⟨state, hstate, hkeyed⟩ := authComputeLive_spec hl.auth hl.outLen hl.tagLen_le stack est pkt hlen
    rw [hl.services, hl.outLen]
    split
    · exact ⟨_, hl.setAuth hkeyed, by rw [hstate]⟩
    · exact ⟨_, hl, rfl⟩
  rw [sealLive, sealPacket, h.services, hpkt]
  by_cases hconf : s.services.hasConf = true
  · simp only [hconf, if_true]
    have henc := cipherEncryptLive_spec h.cipher est pkt len
    revert henc
    cases cipherEncryptLive (aesIcmSetIv l.keys.rtpCipher (packetIv s.ssrc est)) pkt len with
    | none =>
      intro henc
      rw [henc]
      exact ⟨_, h.setCipher hiv, rfl⟩
    | some out =>
      intro henc
      rw [henc.1]
      exact hauth out.1 out.2 henc.2
  · simp only [hconf]
    exact hauth _ pkt hiv

/-- What the two levels answer agrees, and their contexts are in step again. -/
structure Agrees (r : SrtpResult) (l : LiveResult) : Prop where
  status : l.status = r.status
  packet : l.packet = r.packet
  pktOctetLen : l.pktOctetLen = r.pktOctetLen
  ctx : CtxRepresents r.ctx l.ctx

theorem srtpProtect_live {ctx : SrtpCtx} {live : LiveCtx} (h : CtxRepresents ctx live) (stack : Stack)
    (pkt : Octets) {len : Nat} (hlen : len < 2 ^ 28) :
    Agrees (srtpProtect libsrtp ctx pkt len) (srtpProtectLive stack live pkt len) := by
  rw [srtpProtect, srtpProtectLive]
  split
  · exact ⟨rfl, rfl, rfl, h⟩
  · rcases getStream_represents h (hdrSsrc pkt) with ⟨hs, hl⟩ | ⟨s, l, hs, hl, hsl, hssrc⟩
    · rw [hs, hl]
      exact ⟨rfl, rfl, rfl, h⟩
    · rw [hs, hl]
      have hlimited : Represents
          { s with
            direction := if s.direction = .unknown then .sender else s.direction
            limit := (keyLimitUpdate s.limit).2 }
          { l with
            direction := if l.direction = .unknown then .sender else l.direction
            limit := (keyLimitUpdate l.limit).2 } :=
        { hsl with
          direction := by rw [hsl.direction]
          limit := by rw [hsl.limit] }
      simp only [hsl.limit, hsl.rdbx, hsl.direction] at hlimited ⊢
      split
      · exact ⟨rfl, rfl, rfl, putStream_represents h hlimited⟩
      · cases rdbxCheck s.rdbx (rdbxEstimateIndex s.rdbx (hdrSeq pkt)).1 with
        | ok =>
          have hadded : Represents
              { s with
                direction := if s.direction = .unknown then .sender else s.direction
                limit := (keyLimitUpdate s.limit).2
                rdbx := rdbxAddIndex s.rdbx (rdbxEstimateIndex s.rdbx (hdrSeq pkt)).1 }
              { l with
                direction := if s.direction = .unknown then .sender else s.direction
                limit := (keyLimitUpdate s.limit).2
                rdbx := rdbxAddIndex s.rdbx (rdbxEstimateIndex s.rdbx (hdrSeq pkt)).1 } :=
            { hlimited with rdbx := rfl }
          obtain ⟨l', hl', hseal⟩ := sealLive_spec hadded stack
            (rdbxEstimateIndex s.rdbx (hdrSeq pkt)).2 hssrc.symm hlen
          simp only [hseal]
          exact ⟨rfl, rfl, rfl, putStream_represents h hl'⟩
        | _ => exact ⟨rfl, rfl, rfl, putStream_represents h hlimited⟩

theorem checkTagLive_spec {s : SrtpStream} {l : LiveStream} (h : Represents s l) (stack : Stack) (est : Nat)
    (pkt : Octets) {body : Nat} (hbody : body < 2 ^ 28) :
    Represents s (checkTagLive stack l est pkt body).1 ∧
      ((checkTagLive stack l est pkt body).1.keys.rtpCipher = l.keys.rtpCipher) ∧
      ((checkTagLive stack l est pkt body).2 = true ↔
        s.services.hasAuth ∧ authCompute libsrtp s est pkt body ≠ slice pkt body s.tagLen) := by
  obtain ⟨state, hstate, hkeyed⟩ := authComputeLive_spec h.auth h.outLen h.tagLen_le stack est pkt hbody
  rw [checkTagLive, h.services]
  by_cases hauth : s.services.hasAuth = true
  · simp only [hauth, if_true, hstate, h.outLen]
    refine ⟨h.setAuth hkeyed, rfl, ?_⟩
    simp
  · rw [if_neg hauth]
    exact ⟨h, rfl, by simp [hauth]⟩

def acceptPacket (P : Primitives) (ctx : SrtpCtx) (stream : SrtpStream) (delta : Int) (est : Nat) (pkt : Octets)
    (len : Nat) : SrtpResult :=
  let body := len - stream.tagLen
  let event := keyLimitUpdate stream.limit
  let stream := { stream with limit := event.2 }
  if event.1 = .hardLimit then
    ⟨.keyExpired, ctx.putStream stream, pkt, len⟩
  else
    match (if stream.services.hasConf then cipherEncrypt P stream est pkt body else some pkt) with
    | none => ⟨.cipherFail, ctx.putStream stream, pkt, len⟩
    | some pkt =>
      let direction := if stream.direction = .unknown then .receiver else stream.direction
      let stream := { stream with
        direction := direction, rdbx := rdbxAddIndex stream.rdbx delta }
      ⟨.ok, ctx.putStream stream, pkt, body⟩

theorem srtpUnprotect_found {P : Primitives} {ctx : SrtpCtx} {s : SrtpStream} {pkt : Octets} {len : Nat}
    (hlen : ¬ len < octetsInRtpHeader) (hs : srtpGetStream ctx (hdrSsrc pkt) = some s)
    (hcheck : rdbxCheck s.rdbx (rdbxEstimateIndex s.rdbx (hdrSeq pkt)).1 = .ok) :
    srtpUnprotect P ctx pkt len =
      if s.services.hasAuth ∧ authCompute P s (rdbxEstimateIndex s.rdbx (hdrSeq pkt)).2 pkt (len - s.tagLen) ≠
          slice pkt (len - s.tagLen) s.tagLen then
        ⟨.authFail, ctx, pkt, len⟩
      else
        acceptPacket P ctx s (rdbxEstimateIndex s.rdbx (hdrSeq pkt)).1
          (rdbxEstimateIndex s.rdbx (hdrSeq pkt)).2 pkt len := by
  rw [srtpUnprotect, if_neg hlen, hs]
  simp only [hcheck]
  rfl

theorem acceptLive_spec {ctx : SrtpCtx} {live : LiveCtx} (h : CtxRepresents ctx live) {s : SrtpStream}
    {l : LiveStream} (hsl : Represents s l) {c : AesIcmCtx} {est : Nat}
    (hc : HasKey (sessionKey s.key .rtpEncryption .rtpSalt) c)
    (hcipher : l.keys.rtpCipher = aesIcmSetIv c (packetIv s.ssrc est)) (delta : Int) (pkt : Octets) (len : Nat) :
    Agrees (acceptPacket libsrtp ctx s delta est pkt len) (acceptLive live l delta pkt len) := by
  have hlimited : Represents { s with limit := (keyLimitUpdate s.limit).2 }
      { l with limit := (keyLimitUpdate s.limit).2 } := { hsl with limit := rfl }
  rw [acceptPacket, acceptLive, hsl.outLen, hsl.limit]
  simp only
  split
  · exact ⟨rfl, rfl, rfl, putStream_represents h hlimited⟩
  · by_cases hconf : s.services.hasConf = true
    · rw [if_pos hconf, if_pos (show l.services.hasConf = true by rw [hsl.services]; exact hconf), hcipher]
      have henc := cipherEncryptLive_spec (s := { s with limit := (keyLimitUpdate s.limit).2 }) hc est pkt
        (len - s.tagLen)
      simp only at henc
      revert henc
      cases cipherEncryptLive (aesIcmSetIv c (packetIv s.ssrc est)) pkt (len - s.tagLen) with
      | none =>
        intro henc
        rw [henc]
        exact ⟨rfl, rfl, rfl, putStream_represents h hlimited⟩
      | some out =>
        intro henc
        rw [henc.1]
        refine ⟨rfl, rfl, rfl, putStream_represents h ?_⟩
        exact { hlimited.setCipher henc.2 with
          direction := by rw [LiveStream.setCipher, hsl.direction]
          rdbx := by rw [LiveStream.setCipher, hsl.rdbx] }
    · rw [if_neg hconf, if_neg (show ¬ l.services.hasConf = true by rw [hsl.services]; exact hconf)]
      refine ⟨rfl, rfl, rfl, putStream_represents h ?_⟩
      exact { hlimited.setCipher hlimited.cipher with
        direction := by rw [LiveStream.setCipher, hsl.direction]
        rdbx := by rw [LiveStream.setCipher, hsl.rdbx] }

theorem srtpUnprotect_live {ctx : SrtpCtx} {live : LiveCtx} (h : CtxRepresents ctx live) (stack : Stack)
    (pkt : Octets) {len : Nat} (hlen : len < 2 ^ 28) :
    Agrees (srtpUnprotect libsrtp ctx pkt len) (srtpUnprotectLive stack live pkt len) := by
  rw [srtpUnprotectLive]
  split
  · next hshort =>
    rw [srtpUnprotect, if_pos hshort]
    exact ⟨rfl, rfl, rfl, h⟩
  · next hlong =>
    rcases getStream_represents h (hdrSsrc pkt) with ⟨hs, hl⟩ | ⟨s, l, hs, hl, hsl, hssrc⟩
    · rw [srtpUnprotect, if_neg hlong, hs, hl]
      exact ⟨rfl, rfl, rfl, h⟩
    · have hself : ctx.putStream s = ctx := putStream_self (by rw [hssrc]; exact hs)
      rw [hl]
      simp only [hsl.rdbx]
      cases hcheck : rdbxCheck s.rdbx (rdbxEstimateIndex s.rdbx (hdrSeq pkt)).1 with
      | ok =>
        rw [srtpUnprotect_found hlong hs hcheck, ← hssrc]
        -- the initialisation vector is set, and then the tag is checked
        have hiv := hsl.setCipher (aesIcmSetIv_hasKey hsl.cipher
          (packetIv s.ssrc (rdbxEstimateIndex s.rdbx (hdrSeq pkt)).2))
        obtain ⟨hchecked, hcipher, hwrong⟩ := checkTagLive_spec hiv stack
          (rdbxEstimateIndex s.rdbx (hdrSeq pkt)).2 pkt (show len - s.tagLen < 2 ^ 28 by omega)
        simp only [hiv.outLen]
        split
        · next hbad =>
          rw [if_pos (hwrong.2 hbad)]
          have hput := putStream_represents h hchecked
          rw [hself] at hput
          exact ⟨rfl, rfl, rfl, hput⟩
        · next hright =>
          rw [if_neg fun hb => hright (hwrong.1 hb)]
          exact acceptLive_spec h hchecked hsl.cipher hcipher _ pkt len
      | _ =>
        rw [srtpUnprotect, if_neg hlong, hs]
        simp only [hcheck]
        exact ⟨rfl, rfl, rfl, h⟩

end Native
end OnionPhone
