import OnionPhone.Native.Rdbx

/-!
# OnionPhone.Native.Kernel

libsrtp's crypto kernel (`crypto/kernel/crypto_kernel.c`): the one global table of cipher types,
authentication functions and debug modules. Memory allocation, the random source and the self-tests
are taken to succeed.

`cryptoKernelInit_loaded`: a second initialisation changes nothing and reports success, but
`loadDebugModule_of_mem` refuses every module that is already loaded.
-/

namespace OnionPhone
namespace Native

/-- Run the functions in turn and stop at the first status that is not `ok`. -/
def inOrder {σ : Type} : List (σ → ErrStatus × σ) → σ → ErrStatus × σ
  | [], s => (.ok, s)
  | f :: fs, s =>
    match f s with
    | (.ok, s') => inOrder fs s'
    | (status, s') => (status, s')

inductive CipherTypeId where
  | nullCipher | aes128Icm | aes128Cbc
  deriving DecidableEq, Repr

inductive AuthTypeId where
  | nullAuth | hmacSha1
  deriving DecidableEq, Repr

structure CryptoKernel where
  secure : Bool := false
  cipherTypeList : List CipherTypeId := []
  authTypeList : List AuthTypeId := []
  debugModuleList : List String := []
  deriving DecidableEq, Repr

def loadDebugModule (name : String) (k : CryptoKernel) : ErrStatus × CryptoKernel :=
  if name ∈ k.debugModuleList then
    (.badParam, k)
  else
    (.ok, { k with debugModuleList := name :: k.debugModuleList })

/-- `debug` is the debug module of the type, if it has one; its status is dropped. -/
def loadCipherType (id : CipherTypeId) (debug : Option String) (k : CryptoKernel) :
    ErrStatus × CryptoKernel :=
  if id ∈ k.cipherTypeList then
    (.badParam, k)
  else
    let k := { k with cipherTypeList := id :: k.cipherTypeList }
    match debug with
    | none => (.ok, k)
    | some name => (.ok, (loadDebugModule name k).2)

def loadAuthType (id : AuthTypeId) (debug : Option String) (k : CryptoKernel) :
    ErrStatus × CryptoKernel :=
  if id ∈ k.authTypeList then
    (.badParam, k)
  else
    let k := { k with authTypeList := id :: k.authTypeList }
    match debug with
    | none => (.ok, k)
    | some name => (.ok, (loadDebugModule name k).2)

/-- With all self-tests passing, this only prints. -/
def cryptoKernelStatus (k : CryptoKernel) : ErrStatus × CryptoKernel := (.ok, k)

def cryptoKernelInit (k : CryptoKernel) : ErrStatus × CryptoKernel :=
  if k.secure then
    cryptoKernelStatus k
  else
    inOrder [
      loadDebugModule "crypto kernel",
      loadDebugModule "auth func",
      loadDebugModule "cipher",
      loadDebugModule "stat test",
      loadDebugModule "alloc",
      loadCipherType .nullCipher none,
      loadCipherType .aes128Icm (some "aes icm"),
      loadCipherType .aes128Cbc (some "aes cbc"),
      loadAuthType .nullAuth none,
      loadAuthType .hmacSha1 (some "hmac sha-1"),
      fun k => (.ok, { k with secure := true })] k

def srtpInit : CryptoKernel → ErrStatus × CryptoKernel :=
  inOrder [cryptoKernelInit, loadDebugModule "srtp"]

/-- `crypto_kernel_alloc_cipher`, with the check of the cipher's own `alloc`. -/
def allocCipher (k : CryptoKernel) (id : CipherTypeId) (keyLen : Nat) : ErrStatus :=
  if !k.secure then
    .initFail
  else if id ∉ k.cipherTypeList then
    .fail
  else if id = .aes128Icm ∧ keyLen ≠ 30 then
    .badParam
  else
    .ok

/-- `crypto_kernel_alloc_auth`, with the checks of the function's own `alloc`. -/
def allocAuth (k : CryptoKernel) (id : AuthTypeId) (keyLen outLen : Nat) : ErrStatus :=
  if !k.secure then
    .initFail
  else if id ∉ k.authTypeList then
    .fail
  else if id = .hmacSha1 ∧ (keyLen > 20 ∨ outLen > 20) then
    .badParam
  else
    .ok

/-! ## The first and the later initialisations -/

/-- The kernel once libsrtp has been initialised. -/
def loadedKernel : CryptoKernel where
  secure := true
  cipherTypeList := [.aes128Cbc, .aes128Icm, .nullCipher]
  authTypeList := [.hmacSha1, .nullAuth]
  debugModuleList := ["srtp", "hmac sha-1", "aes cbc", "aes icm", "alloc", "stat test", "cipher",
    "auth func", "crypto kernel"]

theorem srtpInit_fresh : srtpInit {} = (.ok, loadedKernel) := by decide

theorem loadDebugModule_of_mem {name : String} {k : CryptoKernel}
    (h : name ∈ k.debugModuleList) : loadDebugModule name k = (.badParam, k) := by
  rw [loadDebugModule, if_pos h]

theorem cryptoKernelInit_loaded : cryptoKernelInit loadedKernel = (.ok, loadedKernel) := rfl

theorem srtpInit_loaded : srtpInit loadedKernel = (.badParam, loadedKernel) := by
  have h : loadDebugModule "srtp" loadedKernel = (.badParam, loadedKernel) :=
    loadDebugModule_of_mem (by decide)
  simp only [srtpInit, inOrder, cryptoKernelInit_loaded, h]

end Native
end OnionPhone
