/-
  Spdm.Protocol.Laws — what results assume about the backend.
-/
import Spdm.Protocol.Crypto

namespace Spdm

open Effect Codec

/-! ## §1. The laws. -/

inductive Derivation where
  | expand (hashAlgo : Flags) (prk info : Bytes) (size : Nat)
  | pskHandshake (v : SpdmVersion) (hashAlgo : Flags) (hint info : Bytes)
  | pskMaster (v : SpdmVersion) (hashAlgo : Flags) (hint info : Bytes)
  deriving Repr, DecidableEq

def Derivation.output [Crypto] : Derivation → Option Bytes
  | expand hashAlgo prk info size => hkdfExpand hashAlgo prk info size
  | pskHandshake v hashAlgo hint info => pskHandshakeSecretHkdfExpand v hashAlgo hint info
  | pskMaster v hashAlgo hint info => pskMasterSecretHkdfExpand v hashAlgo hint info

/-! ## §2. Labels tell derivations apart. -/

namespace KeyLabel

theorem eq_of_bytes_append {l l' : KeyLabel} {x x' : Bytes} (h : l.bytes ++ x = l'.bytes ++ x') :
    l = l' := by
  cases l <;> cases l' <;> first | rfl | simp [bytes] at h

end KeyLabel

theorem label_eq_of_binconcat {n n' : Nat} {v v' : SpdmVersion} {l l' : KeyLabel}
    {x x' : Option Bytes} {info : Bytes} (h : binconcat n v l x = some info)
    (h' : binconcat n' v' l' x' = some info) : l = l' := by
  unfold binconcat at h h'
  split_ifs at h h'
  rw [Option.some.injEq] at h h'
  have heq := h.trans h'.symm
  simp only [List.append_assoc] at heq
  have hsize := (List.append_inj heq (by simp)).2
  exact KeyLabel.eq_of_bytes_append (List.append_inj hsize (by simp [versionString])).2

/-! ## §3. A small backend. -/

namespace SmallBackend

def smallHash : Bytes := List.replicate 32 0

def smallInfos : List (Option Bytes) :=
  [binconcat 32 .spdmVersion12 .derived none,
    binconcat 32 .spdmVersion12 .reqHsData (some smallHash),
    binconcat 32 .spdmVersion12 .rspHsData (some smallHash),
    binconcat 32 .spdmVersion12 .reqAppData (some smallHash),
    binconcat 32 .spdmVersion12 .rspAppData (some smallHash),
    binconcat 16 .spdmVersion12 .key none,
    binconcat 12 .spdmVersion12 .iv none,
    binconcat 32 .spdmVersion12 .finished none,
    binconcat 32 .spdmVersion12 .expMaster none,
    binconcat 32 .spdmVersion12 .trafficUpd none]

def infoIndex (info : Bytes) : Option Nat := smallInfos.findIdx? fun i => i == some info

def derived (size root index : Nat) : Bytes := leBytes size (16 * root + index)

def rootBound : Nat := 2 ^ 64

def smallExpand (hashAlgo : Flags) (prk info : Bytes) (size : Nat) : Option Bytes :=
  if hashAlgo = SpdmBaseHashAlgo.tpmAlgSha256 ∧ prk.length = 32 ∧ leNat prk < rootBound ∧
      12 ≤ size then
    (infoIndex info).map (derived size (leNat prk))
  else none

def smallPskExpand (which : Nat) (v : SpdmVersion) (hashAlgo : Flags) (hint info : Bytes) :
    Option Bytes :=
  if hashAlgo = SpdmBaseHashAlgo.tpmAlgSha256 ∧ v = .spdmVersion12 ∧ hint = [] then
    (infoIndex info).map fun i => derived 32 (2 * i + which) 15
  else none

def smallTag (key nonce aad : Bytes) : Option Bytes :=
  if key.length = 32 ∧ leNat key < 256 ^ 4 ∧ nonce.length = 12 ∧ leNat nonce < 256 ^ 3 ∧
      aad.length ≤ 8 then
    some (leBytes 4 (leNat key) ++ leBytes 3 (leNat nonce) ++ [UInt8.ofNat aad.length] ++
      aad ++ List.replicate (8 - aad.length) 0)
  else none

def smallMac (key data : Bytes) : Bytes := leBytes 32 (leNat key + leNat data)

scoped instance smallCrypto : Crypto where
  hashAll _ _ := some smallHash
  hashCtxSupported algo := algo != 0
  hmac _ key data := some (smallMac key data)
  hmacVerify _ key data mac := if mac = smallMac key data then .ok () else .error .cryptoError
  hkdfExtract _ _ _ := some (leBytes 32 1)
  hkdfExpand := smallExpand
  pskHandshakeSecretHkdfExpand := smallPskExpand 0
  pskMasterSecretHkdfExpand := smallPskExpand 1
  aeadEncrypt _ key nonce aad plain :=
    match smallTag key nonce aad with
    | some tag => .ok (plain, tag)
    | none => .error .cryptoError
  aeadDecrypt _ key nonce aad cipher tag :=
    if smallTag key nonce aad = some tag then .ok cipher else .error .cryptoError

end SmallBackend

end Spdm
