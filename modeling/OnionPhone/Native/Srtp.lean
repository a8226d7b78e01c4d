import OnionPhone.Native.Kernel

/-!
# OnionPhone.Native.Srtp

libsrtp's sessions (`srtp/srtp.c`) and key usage limits (`crypto/kernel/key.c`), for the policies
this program makes: AES in counter mode with a key of 30 octets, HMAC-SHA1 tags, and one stream with
a given SSRC. No session has a template stream, and SRTCP is not used.

AES and HMAC-SHA1 with the key derivation in front of them are `Primitives`: a keystream for each
master key, SSRC and packet index, and a tag for each master key, packet and rollover counter.
-/

namespace OnionPhone
namespace Native

open Wire Wire.Octets

structure Primitives where
  /-- Octet `i` of the keystream of a packet index. -/
  keystream : (key : Octets) → (ssrc est i : Nat) → UInt8
  authTag : (key : Octets) → (tagLen : Nat) → (packet : Octets) → (roc : Nat) → Octets
  authTag_length : ∀ key tagLen packet roc, (authTag key tagLen packet roc).length = tagLen

/-! ## Key usage limits -/

inductive KeyEvent where
  | normal | softLimit | hardLimit
  deriving DecidableEq, Repr

inductive KeyState where
  | normal | pastSoftLimit | expired
  deriving DecidableEq, Repr

/-- `num_left` is a `uint64_t`. -/
structure KeyLimit where
  numLeft : Nat
  state : KeyState
  deriving DecidableEq, Repr

def softLimit : Nat := 0x10000

def keyLimitUpdate (key : KeyLimit) : KeyEvent × KeyLimit :=
  let numLeft := if key.numLeft = 0 then 2 ^ 64 - 1 else key.numLeft - 1
  if numLeft ≥ softLimit then
    (.normal, { key with numLeft := numLeft })
  else
    let state := if key.state = .normal then .pastSoftLimit else key.state
    if numLeft < 1 then
      (.hardLimit, ⟨numLeft, .expired⟩)
    else
      (.softLimit, ⟨numLeft, state⟩)

/-! ## Policies, streams and sessions -/

inductive SecServ where
  | none | conf | auth | confAndAuth
  deriving DecidableEq, Repr

def SecServ.hasConf : SecServ → Bool
  | .conf | .confAndAuth => true
  | _ => false

def SecServ.hasAuth : SecServ → Bool
  | .auth | .confAndAuth => true
  | _ => false

structure CryptoPolicy where
  cipherType : CipherTypeId
  cipherKeyLen : Nat
  authType : AuthTypeId
  authKeyLen : Nat
  authTagLen : Nat
  secServ : SecServ

def aesCm128HmacSha132 : CryptoPolicy := ⟨.aes128Icm, 30, .hmacSha1, 20, 4, .confAndAuth⟩

def rtcpDefault : CryptoPolicy := ⟨.aes128Icm, 30, .hmacSha1, 20, 10, .confAndAuth⟩

/-- A policy with `ssrc.type = ssrc_specific` and no next policy. -/
structure SrtpPolicy where
  ssrc : Nat
  rtp : CryptoPolicy
  rtcp : CryptoPolicy
  key : Octets

inductive Direction where
  | unknown | sender | receiver
  deriving DecidableEq, Repr

/-- `key` is the master key with its salt, from which the stream's keys are derived; `ssrc` is in
host order. -/
structure SrtpStream where
  ssrc : Nat
  key : Octets
  tagLen : Nat
  limit : KeyLimit
  rdbx : Rdbx
  services : SecServ
  direction : Direction
  deriving DecidableEq, Repr

structure SrtpCtx where
  streamList : List SrtpStream := []
  deriving DecidableEq, Repr

def srtpGetStream (ctx : SrtpCtx) (ssrc : Nat) : Option SrtpStream :=
  ctx.streamList.find? (·.ssrc = ssrc)

/-- What the pointer of `srtp_get_stream` writes through: the first stream with that SSRC. -/
def SrtpCtx.putStream (ctx : SrtpCtx) (stream : SrtpStream) : SrtpCtx :=
  ⟨go ctx.streamList⟩
where
  go : List SrtpStream → List SrtpStream
    | [] => []
    | s :: rest => if s.ssrc = stream.ssrc then stream :: rest else s :: go rest

def srtpStreamAlloc (k : CryptoKernel) (p : SrtpPolicy) : ErrStatus :=
  (inOrder [
    fun _ => (allocCipher k p.rtp.cipherType p.rtp.cipherKeyLen, ()),
    fun _ => (allocAuth k p.rtp.authType p.rtp.authKeyLen p.rtp.authTagLen, ()),
    fun _ => (allocCipher k p.rtcp.cipherType p.rtcp.cipherKeyLen, ()),
    fun _ => (allocAuth k p.rtcp.authType p.rtcp.authKeyLen p.rtcp.authTagLen, ())] ()).1

def srtpStreamInit (p : SrtpPolicy) : SrtpStream where
  ssrc := p.ssrc
  key := p.key
  tagLen := p.rtp.authTagLen
  limit := ⟨0xffffffffffff, .normal⟩
  rdbx := rdbxInit
  services := p.rtp.secServ
  direction := .unknown

def srtpAddStream (k : CryptoKernel) (session : SrtpCtx) (p : SrtpPolicy) : ErrStatus × SrtpCtx :=
  match srtpStreamAlloc k p with
  | .ok => (.ok, ⟨srtpStreamInit p :: session.streamList⟩)
  | status => (status, session)

/-- On failure the session is freed again, and its handle dangles. -/
def srtpCreate (k : CryptoKernel) (p : SrtpPolicy) : ErrStatus × Option SrtpCtx :=
  match srtpAddStream k {} p with
  | (.ok, ctx) => (.ok, some ctx)
  | (status, _) => (status, none)

/-! ## Packets -/

def octetsInRtpHeader : Nat := 12

def hdrCc (pkt : Octets) : Nat := (pkt.getD 0 0).toNat % 16
def hdrX (pkt : Octets) : Nat := (pkt.getD 0 0).toNat / 16 % 2
def hdrSeq (pkt : Octets) : Nat := ofBe (slice pkt 2 2)
def hdrSsrc (pkt : Octets) : Nat := ofBe (slice pkt 8 4)

/-- `enc_start`, in octets from the header: after the CSRCs and the header extension. -/
def encStart (pkt : Octets) : Nat :=
  let start := octetsInRtpHeader + 4 * hdrCc pkt
  if hdrX pkt = 1 then start + 4 * (ofBe (slice pkt (start + 2) 2) + 1) else start

/-- `enc_octet_len`, an `unsigned int`. -/
def encOctetLen (pkt : Octets) (len : Nat) : Nat :=
  (((len : Int) - encStart pkt) % 2 ^ 32).toNat

/-- `aes_icm_encrypt` right after the initialisation vector was set; decryption is the same. -/
def cipherEncrypt (P : Primitives) (stream : SrtpStream) (est : Nat) (pkt : Octets) (len : Nat) :
    Option Octets :=
  if encOctetLen pkt len > 0xffff then
    none
  else
    some (writeAt pkt (encStart pkt)
      (xorStream (P.keystream stream.key stream.ssrc est)
        (slice pkt (encStart pkt) (encOctetLen pkt len))))

/-- The tag of the first `len` octets; the rollover counter is the high part of the index. -/
def authCompute (P : Primitives) (stream : SrtpStream) (est : Nat) (pkt : Octets) (len : Nat) :
    Octets :=
  P.authTag stream.key stream.tagLen (pkt.take len) (est / 2 ^ 16)

structure SrtpResult where
  status : ErrStatus
  ctx : SrtpCtx
  packet : Octets
  pktOctetLen : Nat

/-- The end of `srtp_protect`: encrypt the packet under the index `est` and append the tag. -/
def sealPacket (P : Primitives) (stream : SrtpStream) (est : Nat) (pkt : Octets) (len : Nat) :
    ErrStatus × Octets × Nat :=
  match (if stream.services.hasConf then cipherEncrypt P stream est pkt len else some pkt) with
  | none => (.cipherFail, pkt, len)
  | some pkt =>
    if stream.services.hasAuth then
      (.ok, writeAt pkt len (authCompute P stream est pkt len), len + stream.tagLen)
    else
      (.ok, pkt, len)

def srtpProtect (P : Primitives) (ctx : SrtpCtx) (pkt : Octets) (len : Nat) : SrtpResult :=
  if len < octetsInRtpHeader then
    ⟨.badParam, ctx, pkt, len⟩
  else
    match srtpGetStream ctx (hdrSsrc pkt) with
    | none => ⟨.noCtx, ctx, pkt, len⟩
    | some stream =>
      let direction := if stream.direction = .unknown then .sender else stream.direction
      let event := keyLimitUpdate stream.limit
      let stream := { stream with direction := direction, limit := event.2 }
      if event.1 = .hardLimit then
        ⟨.keyExpired, ctx.putStream stream, pkt, len⟩
      else
        let guess := rdbxEstimateIndex stream.rdbx (hdrSeq pkt)
        match rdbxCheck stream.rdbx guess.1 with
        | .ok =>
          let stream := { stream with rdbx := rdbxAddIndex stream.rdbx guess.1 }
          let out := sealPacket P stream guess.2 pkt len
          ⟨out.1, ctx.putStream stream, out.2.1, out.2.2⟩
        | status => ⟨status, ctx.putStream stream, pkt, len⟩

def srtpUnprotect (P : Primitives) (ctx : SrtpCtx) (pkt : Octets) (len : Nat) : SrtpResult :=
  if len < octetsInRtpHeader then
    ⟨.badParam, ctx, pkt, len⟩
  else
    match srtpGetStream ctx (hdrSsrc pkt) with
    | none => ⟨.noCtx, ctx, pkt, len⟩
    | some stream =>
      let guess := rdbxEstimateIndex stream.rdbx (hdrSeq pkt)
      match rdbxCheck stream.rdbx guess.1 with
      | .ok =>
        let body := len - stream.tagLen
        if stream.services.hasAuth ∧
            authCompute P stream guess.2 pkt body ≠ slice pkt body stream.tagLen then
          ⟨.authFail, ctx, pkt, len⟩
        else
          let event := keyLimitUpdate stream.limit
          let stream := { stream with limit := event.2 }
          if event.1 = .hardLimit then
            ⟨.keyExpired, ctx.putStream stream, pkt, len⟩
          else
            match (if stream.services.hasConf then cipherEncrypt P stream guess.2 pkt body
              else some pkt) with
            | none => ⟨.cipherFail, ctx.putStream stream, pkt, len⟩
            | some pkt =>
              let direction := if stream.direction = .unknown then .receiver else stream.direction
              let stream := { stream with
                direction := direction, rdbx := rdbxAddIndex stream.rdbx guess.1 }
              ⟨.ok, ctx.putStream stream, pkt, body⟩
      | status => ⟨status, ctx, pkt, len⟩

end Native
end OnionPhone
