import OnionPhone.Native.AesIcm
import OnionPhone.Native.Hmac

/-!
# OnionPhone.Native.Kdf

The key derivation of libsrtp (`srtp_kdf_init`, `srtp_kdf_generate`, `srtp_stream_init_keys` in
`srtp/srtp.c`), for streams whose ciphers are `aes_icm` and whose authentication is HMAC-SHA1. One counter
mode context makes all the keys, and one array on the stack holds each of them in turn.

* `derived master label n`: the key that the standard derives for a label.
* `srtpStreamInitKeys_spec`: the contexts that a stream gets hold the derived keys, whatever the memory
  held that they were made in, and no two keys come from the same block of the keystream.
-/

namespace OnionPhone
namespace Native

open Wire Wire.Octets Wire.Aes Wire.Sha1

/-! ## The code -/

/-- `srtp_prf_label` -/
inductive SrtpPrfLabel where
  | rtpEncryption | rtpMsgAuth | rtpSalt | rtcpEncryption | rtcpMsgAuth | rtcpSalt
  deriving DecidableEq, Repr

def SrtpPrfLabel.value : SrtpPrfLabel → Byte
  | .rtpEncryption => 0x00
  | .rtpMsgAuth => 0x01
  | .rtpSalt => 0x02
  | .rtcpEncryption => 0x03
  | .rtcpMsgAuth => 0x04
  | .rtcpSalt => 0x05

/-- `kdf` is the memory of the context. -/
def srtpKdfInit (kdf : AesIcmCtx) (key : Octets) : AesIcmCtx := aesIcmContextInit kdf key

/-- Eighth octet of the nonce is the label, the rest of it is zero. -/
def kdfNonce (label : SrtpPrfLabel) : V128 := V128.zero.setV8 7 label.value

/-- The status of `aes_icm_output` is dropped: if it refuses, the key is left all zeros. -/
def srtpKdfGenerate (kdf : AesIcmCtx) (label : SrtpPrfLabel) (length : Nat) : AesIcmCtx × Octets :=
  let kdf := aesIcmSetIv kdf (kdfNonce label)
  match aesIcmOutput kdf length with
  | some (kdf, key) => (kdf, key)
  | none => (kdf, List.replicate length 0)

/-- `auth_t` for HMAC-SHA1 -/
structure Auth where
  outLen : Nat
  keyLen : Nat
  state : HmacCtx
  deriving DecidableEq

def maxSrtpKeyLen : Nat := 256

/-- `cipher_get_key_length` of a cipher whose type is `aes_icm`. -/
def cipherKeyLen : Nat := 30

def baseKeyLen : Nat := 16

/-- What keys are made with: the context for the derivation, and `tmp_key`. -/
structure KeyMemory where
  kdf : AesIcmCtx
  tmpKey : Octets
  tmpKey_length : tmpKey.length = maxSrtpKeyLen

/-- `srtp_kdf_generate` into `tmp_key`, from the offset `off` on. -/
def KeyMemory.generate (m : KeyMemory) (label : SrtpPrfLabel) (off length : Nat)
    (h : off + length ≤ maxSrtpKeyLen) : KeyMemory :=
  let out := srtpKdfGenerate m.kdf label length
  { m with
    kdf := out.1
    tmpKey := writeAt m.tmpKey off (out.2.take length)
    tmpKey_length := by
      rw [writeAt_length, m.tmpKey_length]
      rw [List.length_take, m.tmpKey_length]
      omega }

/-- The keys of RTP, or those of RTCP: the encryption key with its salt behind it, and the authentication key.
`none` is `err_status_init_fail`. -/
def initKeys (encryption salt msgAuth : SrtpPrfLabel) (m : KeyMemory) (cipher : AesIcmCtx) (auth : Auth)
    (hkey : auth.keyLen ≤ maxSrtpKeyLen) : Option (KeyMemory × AesIcmCtx × Auth) :=
  let m := m.generate encryption 0 cipherKeyLen (by decide)
  let m := m.generate salt baseKeyLen (cipherKeyLen - baseKeyLen) (by decide)
  let cipher := aesIcmContextInit cipher m.tmpKey
  let m := m.generate msgAuth 0 auth.keyLen (by omega)
  match hmacInit auth.state (m.tmpKey.take auth.keyLen) with
  | none => none
  | some state => some (m, cipher, { auth with state := state })

structure Keys where
  rtpCipher : AesIcmCtx
  rtpAuth : Auth
  rtcpCipher : AesIcmCtx
  rtcpAuth : Auth
  deriving DecidableEq

/-- `keys` and `m` are memory that has been allocated, with whatever it held. -/
def srtpStreamInitKeys (m : KeyMemory) (keys : Keys) (key : Octets)
    (hrtp : keys.rtpAuth.keyLen ≤ maxSrtpKeyLen) (hrtcp : keys.rtcpAuth.keyLen ≤ maxSrtpKeyLen) :
    Option Keys :=
  let m := { m with kdf := srtpKdfInit m.kdf key }
  match initKeys .rtpEncryption .rtpSalt .rtpMsgAuth m keys.rtpCipher keys.rtpAuth hrtp with
  | none => none
  | some (m, rtpCipher, rtpAuth) =>
    match initKeys .rtcpEncryption .rtcpSalt .rtcpMsgAuth m keys.rtcpCipher keys.rtcpAuth hrtcp with
    | none => none
    | some (_, rtcpCipher, rtcpAuth) => some ⟨rtpCipher, rtpAuth, rtcpCipher, rtcpAuth⟩

/-! ## The keys of the standard -/

def derived (master : Octets) (label : SrtpPrfLabel) (n : Nat) : Octets :=
  (List.range n).map (standardKeystream master (kdfNonce label))

@[simp] theorem derived_length (master : Octets) (label : SrtpPrfLabel) (n : Nat) :
    (derived master label n).length = n := by
  simp [derived]

theorem kdfNonce_isStart (label : SrtpPrfLabel) : IsStart (kdfNonce label) := by
  constructor
  · rw [kdfNonce, v8_setV8 _ (by decide) (by decide)]
    rfl
  · rw [kdfNonce, v8_setV8 _ (by decide) (by decide)]
    rfl

/-- A context that was given the key, wherever in whichever keystream it is. -/
structure HasKey (key : Octets) (c : AesIcmCtx) : Prop where
  expandedKey : c.expandedKey = aesExpandEncryptionKey (v128CopyOctetString key)
  offset : c.offset = icmOffset key

theorem aesIcmContextInit_hasKey (c : AesIcmCtx) (key : Octets) : HasKey key (aesIcmContextInit c key) :=
  ⟨rfl, aesIcmContextInit_offset c key⟩

theorem HasKey.congr {key key' : Octets} {c : AesIcmCtx} (h : HasKey key c)
    (hkey : key.take 30 = key'.take 30) : HasKey key' c :=
  ⟨by rw [h.expandedKey, v128CopyOctetString_congr hkey (by decide)],
    by rw [h.offset, icmOffset_congr hkey]⟩

theorem xorStream_zeros (ks : Nat → UInt8) (n : Nat) :
    xorStream ks (List.replicate n 0) = (List.range n).map ks := by
  apply List.ext_getElem?
  intro i
  simp only [xorStream, List.getElem?_mapIdx, List.getElem?_replicate, List.getElem?_map]
  by_cases hi : i < n
  · simp [hi]
  · simp [hi]

theorem srtpKdfGenerate_spec {master : Octets} {kdf : AesIcmCtx} (h : HasKey master kdf)
    (label : SrtpPrfLabel) {n : Nat} (hn : n ≤ maxSrtpKeyLen) :
    HasKey master (srtpKdfGenerate kdf label n).1 ∧
      (srtpKdfGenerate kdf label n).2 = derived master label n := by
  have hm : maxSrtpKeyLen = 256 := rfl
  have hstart := isStart_xor master (kdfNonce_isStart label)
  have hat := aesIcmSetIv_at h.expandedKey (kdfNonce label)
  rw [h.offset] at hat
  obtain ⟨hout, hat', hoff⟩ := addKeystream_spec hat (List.replicate n 0)
  have hleft : (aesIcmSetIv kdf (kdfNonce label)).hasLeft n = true := by
    rw [hat.hasLeft hstart (by decide) (by omega), show blocksMade 0 = 0 from rfl]
    omega
  have henc : aesIcmOutput (aesIcmSetIv kdf (kdfNonce label)) n =
      some (addKeystream (aesIcmSetIv kdf (kdfNonce label)) (List.replicate n 0)) := by
    rw [aesIcmOutput, aesIcmEncrypt, List.length_replicate, if_pos hleft]
  simp only [srtpKdfGenerate, henc]
  refine ⟨⟨hat'.expandedKey, hoff.trans h.offset⟩, ?_⟩
  rw [hout, xorStream_zeros, derived]
  refine List.map_congr_left fun i _ => ?_
  rw [Nat.zero_add]
  exact icmKeystream_eq hstart _ i

theorem generate_spec {master : Octets} {m : KeyMemory} (h : HasKey master m.kdf) (label : SrtpPrfLabel)
    {off n : Nat} (hn : off + n ≤ maxSrtpKeyLen) :
    HasKey master (m.generate label off n hn).kdf ∧
      (m.generate label off n hn).tmpKey = writeAt m.tmpKey off (derived master label n) := by
  obtain ⟨hkdf, hout⟩ := srtpKdfGenerate_spec h label (n := n) (by omega)
  refine ⟨hkdf, ?_⟩
  show writeAt m.tmpKey off ((srtpKdfGenerate m.kdf label n).2.take n) = _
  rw [hout, List.take_of_length_le (by rw [derived_length])]

theorem take_derived (master : Octets) (label : SrtpPrfLabel) {k n : Nat} (h : k ≤ n) :
    (derived master label n).take k = derived master label k := by
  rw [derived, ← List.map_take, List.take_range, Nat.min_eq_left h, derived]

def sessionKey (master : Octets) (encryption salt : SrtpPrfLabel) : Octets :=
  derived master encryption baseKeyLen ++ derived master salt (cipherKeyLen - baseKeyLen)

theorem take_writeAt_zero (buf bs : Octets) : (writeAt buf 0 bs).take bs.length = bs := by
  rw [writeAt, List.take_zero, List.nil_append, List.take_left]

theorem tmpKey_sessionKey {buf : Octets} (hbuf : buf.length = maxSrtpKeyLen) (master : Octets)
    (encryption salt : SrtpPrfLabel) :
    (writeAt (writeAt buf 0 (derived master encryption cipherKeyLen)) baseKeyLen
      (derived master salt (cipherKeyLen - baseKeyLen))).take 30 = sessionKey master encryption salt := by
  have hlen : (writeAt buf 0 (derived master encryption cipherKeyLen)).length = maxSrtpKeyLen := by
    rw [writeAt_length (by rw [derived_length, hbuf]; decide), hbuf]
  have hfirst : (writeAt buf 0 (derived master encryption cipherKeyLen)).take baseKeyLen =
      derived master encryption baseKeyLen := by
    rw [← take_derived master encryption (show baseKeyLen ≤ cipherKeyLen by decide),
      ← take_writeAt_zero buf (derived master encryption cipherKeyLen), List.take_take, derived_length]
    rfl
  have hcopy : (writeAt (writeAt buf 0 (derived master encryption cipherKeyLen)) baseKeyLen
      (derived master salt (cipherKeyLen - baseKeyLen))).take (baseKeyLen + _) = _ :=
    take_writeAt (by rw [hlen]; decide)
  rw [hfirst, derived_length] at hcopy
  exact hcopy

theorem initKeys_spec {master : Octets} (encryption salt msgAuth : SrtpPrfLabel) {m : KeyMemory}
    (h : HasKey master m.kdf) (cipher : AesIcmCtx) {auth : Auth} (hkey : auth.keyLen ≤ 20)
    (hfit : auth.keyLen ≤ maxSrtpKeyLen) :
    ∃ m' cipher' auth', initKeys encryption salt msgAuth m cipher auth hfit = some (m', cipher', auth') ∧
      HasKey master m'.kdf ∧ HasKey (sessionKey master encryption salt) cipher' ∧
      Keyed (derived master msgAuth auth.keyLen) auth'.state ∧ auth'.outLen = auth.outLen := by
  obtain ⟨h₁, ht₁⟩ := generate_spec h encryption (show 0 + cipherKeyLen ≤ maxSrtpKeyLen by decide)
  obtain ⟨h₂, ht₂⟩ := generate_spec h₁ salt
    (show baseKeyLen + (cipherKeyLen - baseKeyLen) ≤ maxSrtpKeyLen by decide)
  obtain ⟨h₃, ht₃⟩ := generate_spec h₂ msgAuth (show 0 + auth.keyLen ≤ maxSrtpKeyLen by omega)
  rw [ht₁] at ht₂
  have hcipher : HasKey (sessionKey master encryption salt) (aesIcmContextInit cipher
      ((m.generate encryption 0 cipherKeyLen (by decide)).generate salt baseKeyLen
        (cipherKeyLen - baseKeyLen) (by decide)).tmpKey) := by
    refine (aesIcmContextInit_hasKey cipher _).congr ?_
    rw [ht₂, tmpKey_sessionKey m.tmpKey_length, List.take_of_length_le]
    simp [sessionKey, baseKeyLen, cipherKeyLen]
  have htake : (((m.generate encryption 0 cipherKeyLen (by decide)).generate salt baseKeyLen
      (cipherKeyLen - baseKeyLen) (by decide)).generate msgAuth 0 auth.keyLen (by omega)).tmpKey.take
        auth.keyLen = derived master msgAuth auth.keyLen := by
    have hwrite := take_writeAt_zero ((m.generate encryption 0 cipherKeyLen (by decide)).generate salt
      baseKeyLen (cipherKeyLen - baseKeyLen) (by decide)).tmpKey (derived master msgAuth auth.keyLen)
    rw [derived_length] at hwrite
    rw [ht₃, hwrite]
  obtain ⟨state, hstate⟩ : ∃ state, hmacInit auth.state (derived master msgAuth auth.keyLen) = some state := by
    rw [hmacInit, if_neg (by rw [derived_length]; omega)]
    exact ⟨_, rfl⟩
  refine ⟨_, _, { auth with state := state }, ?_, h₃, hcipher, (hmacInit_keyed hstate).1, rfl⟩
  rw [initKeys]
  simp only [htake, hstate]

theorem kdf_block_inj {master : Octets} {label label' : SrtpPrfLabel} {m n : Nat} (hm : m ≤ 0xffff)
    (hn : n ≤ 0xffff)
    (h : counterBlock ((icmOffset master).xor (kdfNonce label)) m =
      counterBlock ((icmOffset master).xor (kdfNonce label')) n) : label = label' ∧ m = n := by
  have hidx := counterBlock_blockIndex ((icmOffset master).xor (kdfNonce label)) m
  rw [h, counterBlock_blockIndex] at hidx
  refine ⟨?_, by omega⟩
  -- the label is in the eighth octet
  have hseven := congrArg (V128.v8 · 7) h
  simp only [v8_counterBlock _ _ (show 7 < 16 by decide), v8_xor _ _ (show 7 < 16 by decide),
    Nat.reduceEqDiff, if_false, kdfNonce, v8_setV8 _ (show 7 < 16 by decide) (show 7 < 16 by decide),
    if_true, BitVec.xor_right_inj] at hseven
  revert hseven
  cases label <;> cases label' <;> simp [SrtpPrfLabel.value]

/-- What `keys` hold that were made of the allocated `alloc`: the keys that are derived from the master key. -/
structure KeysOf (master : Octets) (alloc keys : Keys) : Prop where
  rtpCipher : HasKey (sessionKey master .rtpEncryption .rtpSalt) keys.rtpCipher
  rtpAuth : Keyed (derived master .rtpMsgAuth alloc.rtpAuth.keyLen) keys.rtpAuth.state
  rtpOutLen : keys.rtpAuth.outLen = alloc.rtpAuth.outLen
  rtcpCipher : HasKey (sessionKey master .rtcpEncryption .rtcpSalt) keys.rtcpCipher
  rtcpAuth : Keyed (derived master .rtcpMsgAuth alloc.rtcpAuth.keyLen) keys.rtcpAuth.state
  rtcpOutLen : keys.rtcpAuth.outLen = alloc.rtcpAuth.outLen

theorem srtpStreamInitKeys_spec (m : KeyMemory) {alloc : Keys} {key master : Octets}
    (hmaster : key.take 30 = master.take 30) (hrtp : alloc.rtpAuth.keyLen ≤ 20)
    (hrtcp : alloc.rtcpAuth.keyLen ≤ 20) (hrtp' : alloc.rtpAuth.keyLen ≤ maxSrtpKeyLen)
    (hrtcp' : alloc.rtcpAuth.keyLen ≤ maxSrtpKeyLen) :
    ∃ keys, srtpStreamInitKeys m alloc key hrtp' hrtcp' = some keys ∧ KeysOf master alloc keys := by
  have hkdf : HasKey master ({ m with kdf := srtpKdfInit m.kdf key } : KeyMemory).kdf :=
    (aesIcmContextInit_hasKey m.kdf key).congr hmaster
  obtain ⟨m₁, cipher₁, auth₁, hinit₁, hkdf₁, hc₁, ha₁, ho₁⟩ := initKeys_spec .rtpEncryption .rtpSalt .rtpMsgAuth
    hkdf alloc.rtpCipher hrtp hrtp'
  obtain ⟨m₂, cipher₂, auth₂, hinit₂, -, hc₂, ha₂, ho₂⟩ := initKeys_spec .rtcpEncryption .rtcpSalt .rtcpMsgAuth
    hkdf₁ alloc.rtcpCipher hrtcp hrtcp'
  refine ⟨⟨cipher₁, auth₁, cipher₂, auth₂⟩, ?_, ⟨hc₁, ha₁, ho₁, hc₂, ha₂, ho₂⟩⟩
  simp only [srtpStreamInitKeys, hinit₁, hinit₂]

/-- The contexts of a stream hold the keys that the standard derives from the master key and salt: nothing of
what the memory held before and nothing of what stands behind the thirty octets of the master key is in them.
No two keys are made from one block of the derivation's keystreams. -/
theorem stream_keys_derived (m : KeyMemory) (alloc : Keys) (key master : Octets)
    (hmaster : key.take 30 = master.take 30) (hrtp : alloc.rtpAuth.keyLen ≤ 20)
    (hrtcp : alloc.rtcpAuth.keyLen ≤ 20) :
    (∃ keys, srtpStreamInitKeys m alloc key (Nat.le_trans hrtp (by decide))
      (Nat.le_trans hrtcp (by decide)) = some keys ∧ KeysOf master alloc keys) ∧
    ∀ label label' i j, i ≤ 0xffff → j ≤ 0xffff →
      counterBlock ((icmOffset master).xor (kdfNonce label)) i =
        counterBlock ((icmOffset master).xor (kdfNonce label')) j → label = label' ∧ i = j :=
  ⟨srtpStreamInitKeys_spec m hmaster hrtp hrtcp _ _, fun _ _ _ _ hi hj h => kdf_block_inj hi hj h⟩

/-- Memory that is not zero, and a master key with other octets behind it. -/
theorem stream_keys_derived_sample :
    let c : AesIcmCtx := ⟨⟨1, 2, 3, 4⟩, ⟨5, 6, 7, 8⟩, ⟨9, 10, 11, 12⟩, [⟨13, 14, 15, 16⟩], 7⟩
    let ctx := sha1Init (List.replicate 64 0xaa) rfl
    let alloc : Keys := ⟨c, ⟨4, 20, ⟨[1], ctx, ctx⟩⟩, c, ⟨10, 20, ⟨[2], ctx, ctx⟩⟩⟩
    ∃ keys, srtpStreamInitKeys ⟨c, List.replicate 256 0xbb, List.length_replicate⟩ alloc
      (List.replicate 30 7 ++ [8, 9]) (by decide) (by decide) = some keys ∧
      KeysOf (List.replicate 30 7) alloc keys := by
  intro c ctx alloc
  exact (stream_keys_derived ⟨c, List.replicate 256 0xbb, List.length_replicate⟩ alloc
    (List.replicate 30 7 ++ [8, 9]) (List.replicate 30 7) rfl (Nat.le_refl 20) (Nat.le_refl 20)).1

end Native
end OnionPhone
