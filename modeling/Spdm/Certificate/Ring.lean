/-
  Spdm.Certificate.Ring — certificate chains of the `ring` backend
  (`spdm_ring/cert_operation_impl.rs`, `spdm_ring/asym_verify_impl.rs`).
-/
import Spdm.Certificate.X509
import Spdm.Lib.Prog
import Spdm.Protocol.Device

namespace Spdm

open Effect X509v3

namespace SpdmRing

/-! ## §1. `webpki` and `ring`. -/

inductive SignatureAlgorithm where
  | ecdsa (bits : Nat) (hash : Flags)
  | rsaPkcs1 (hash : Flags)
  | rsaPssLegacyKey (hash : Flags)
  deriving Repr, DecidableEq

structure Webpki where
  /-- `anchor_from_trusted_cert` accepts it -/
  anchorFromTrustedCert : Bytes → Bool
  /-- `EndEntityCert::try_from` accepts it -/
  endEntityCert : Bytes → Bool
  /-- `verify_for_usage` (end entity, anchor, intermediates, time) -/
  verifyForUsage : Bytes → Bytes → List Bytes → Nat → Bool
  /-- `verify_signature` with the key of a certificate (certificate, algorithm, data, signature) -/
  verifySignature : Bytes → SignatureAlgorithm → Bytes → Bytes → Bool
  /-- `UnparsedPublicKey::verify` (hash, algorithm, key, data, signature) -/
  verifyUnparsed : Flags → Flags → Bytes → Bytes → Bytes → Bool
  /-- the time of the system -/
  now : Option Nat

/-! ## §2. Certificate chains. -/

def findCert (index : Int) (offset : Nat) (thisIndex : Int) (rest : Bytes) :
    Except SpdmStatus (Nat × Nat) :=
  match rest with
  | tag :: form :: high :: low :: body =>
    if tag ≠ 0x30 ∨ form ≠ 0x82 then .error .invalidCert
    else
      let size := (high.toNat <<< 8) + low.toNat + 4
      if body.length + 4 < size then .error .invalidCert
      else if thisIndex = index then .ok (offset, offset + size)
      else if size = body.length + 4 ∧ index = -1 then .ok (offset, offset + size)
      else findCert index (offset + size) (thisIndex + 1) (body.drop (size - 4))
  | _ => .error .invalidCert
termination_by rest.length
decreasing_by
  simp only [List.length_drop, List.length_cons]
  omega

def getCertFromCertChain (chain : Bytes) (index : Int) : Except SpdmStatus (Nat × Nat) :=
  findCert index 0 0 chain

def elementSize (chain : Bytes) : Option Nat :=
  match chain with
  | tag :: byte0 :: rest =>
    if tag ≠ 0x30 then none
    -- here the walker is still on the length byte
    else if byte0 &&& 0x80 = 0 then some (1 + byte0.toNat)
    else if byte0 = 0x81 then
      match rest with
      | second :: _ :: _ => if second < 128 then none else some (3 + second.toNat)
      | _ => none
    else if byte0 = 0x82 then
      match rest with
      | second :: third :: _ :: _ =>
        if combined second third < 256 then none else some (4 + combined second third)
      | _ => none
    else none
  | _ => none

def splitCerts (chain : Bytes) : List Bytes :=
  match elementSize chain with
  | none => []
  | some size =>
    -- an element has at least its tag
    if size = 0 ∨ chain.length < size then []
    else chain.take size :: splitCerts (chain.drop size)
termination_by chain.length
decreasing_by
  rw [List.length_drop]
  omega

def pathOf : List Bytes → Option (Bytes × List Bytes × Bytes)
  | [] => none
  | ca :: rest => some (ca, rest.dropLast, rest.getLastD ca)

def verifyCertChain (w : Webpki) (chain : Bytes) : Except SpdmStatus Unit :=
  match pathOf (splitCerts chain) with
  | none => .error .invalidCert
  | some (ca, inters, ee) =>
    if !w.anchorFromTrustedCert ca then .error .invalidCert
    else
      match w.now with
      | none => .error .invalidStateLocal
      | some time =>
        if !w.endEntityCert ee then .error .invalidCert
        else if w.verifyForUsage ee ca inters time then .ok () else .error .invalidCert

/-! ## §3. Signatures. -/

def signatureAlgorithm (hash asym : Flags) : Option SignatureAlgorithm :=
  if asym = SpdmBaseAsymAlgo.tpmAlgEcdsaEccNistP256 then
    if hash = SpdmBaseHashAlgo.tpmAlgSha256 ∨ hash = SpdmBaseHashAlgo.tpmAlgSha384 then
      some (.ecdsa 256 hash)
    else none
  else if asym = SpdmBaseAsymAlgo.tpmAlgEcdsaEccNistP384 then
    if hash = SpdmBaseHashAlgo.tpmAlgSha256 ∨ hash = SpdmBaseHashAlgo.tpmAlgSha384 then
      some (.ecdsa 384 hash)
    else none
  else if hash = SpdmBaseHashAlgo.tpmAlgSha256 ∨ hash = SpdmBaseHashAlgo.tpmAlgSha384 ∨
      hash = SpdmBaseHashAlgo.tpmAlgSha512 then
    if asym = SpdmBaseAsymAlgo.tpmAlgRsassa2048 ∨ asym = SpdmBaseAsymAlgo.tpmAlgRsassa3072 ∨
        asym = SpdmBaseAsymAlgo.tpmAlgRsassa4096 then some (.rsaPkcs1 hash)
    else if asym = SpdmBaseAsymAlgo.tpmAlgRsapss2048 ∨ asym = SpdmBaseAsymAlgo.tpmAlgRsapss3072 ∨
        asym = SpdmBaseAsymAlgo.tpmAlgRsapss4096 then some (.rsaPssLegacyKey hash)
    else none
  else none

def derInteger (half : Bytes) : Bytes :=
  let n := half.dropWhile (· == 0)
  if n.head?.any fun b => decide (0x80 ≤ b) then 0 :: n else n

def eccSignatureBinToDer {σ : Type} (signature : Bytes) : Prog σ SpdmStatus Bytes := do
  assert (signature.length == 64 || signature.length == 96)
  let r := derInteger (signature.take (signature.length / 2))
  let s := derInteger (signature.drop (signature.length / 2))
  if r.isEmpty || s.isEmpty then ret []
  else ret (0x30 :: UInt8.ofNat (r.length + s.length + 4) :: 0x02 :: UInt8.ofNat r.length :: r ++
    0x02 :: UInt8.ofNat s.length :: s)

def parseDerLength (input : Bytes) : Option (Nat × Nat) :=
  match input with
  | [] => none
  | first :: rest =>
    if first &&& 0x80 = 0 then some (1, first.toNat)
    else
      let num := (first &&& 0x7f).toNat
      if rest.length < num then none
      else some (1 + num, (rest.take num).foldl (fun val b => (val * 256 + b.toNat) % 2 ^ 64) 0)

def extractSpkiPubkey (spki : Bytes) : Option Bytes := do
  guard (spki.head? = some 0x30)
  let (consumed, _) ← parseDerLength (spki.drop 1)
  let pos := 1 + consumed
  guard (spki[pos]? = some 0x30)
  let (consumed, algoLength) ← parseDerLength (spki.drop (pos + 1))
  let pos := (pos + 1 + consumed + algoLength) % 2 ^ 64
  guard (spki[pos]? = some 0x03)
  let (consumed, length) ← parseDerLength (spki.drop (pos + 1))
  let pos := pos + 1 + consumed
  guard (1 ≤ length ∧ (pos + length) % 2 ^ 64 ≤ spki.length)
  let unused ← spki[pos]?
  guard (unused ≤ 7 ∧ (pos + 1 + (length - 1)) % 2 ^ 64 ≤ spki.length)
  some ((spki.drop (pos + 1)).take (length - 1))

def bareKeyPairs : List (Flags × Flags) :=
  [(SpdmBaseHashAlgo.tpmAlgSha256, SpdmBaseAsymAlgo.tpmAlgEcdsaEccNistP256),
    (SpdmBaseHashAlgo.tpmAlgSha384, SpdmBaseAsymAlgo.tpmAlgEcdsaEccNistP384),
    (SpdmBaseHashAlgo.tpmAlgSha256, SpdmBaseAsymAlgo.tpmAlgRsassa3072),
    (SpdmBaseHashAlgo.tpmAlgSha384, SpdmBaseAsymAlgo.tpmAlgRsassa3072),
    (SpdmBaseHashAlgo.tpmAlgSha256, SpdmBaseAsymAlgo.tpmAlgRsapss3072),
    (SpdmBaseHashAlgo.tpmAlgSha384, SpdmBaseAsymAlgo.tpmAlgRsapss3072)]

def signingCert (chain : Bytes) (asym : Flags) : Except SpdmStatus Bytes := do
  let _ ← checkCertChainFormat chain asym
  let (leafBegin, leafEnd) ← getCertFromCertChain chain (-1)
  .ok ((chain.take leafEnd).drop leafBegin)

def asymVerify {σ : Type} (w : Webpki) (hash asym : Flags) (der : SpdmDer)
    (data signature : Bytes) : Prog σ SpdmStatus Unit := do
  let size ← orAbort (SpdmBaseAsymAlgo.sigSize? asym)
  guardElse (signature.length == size) .verifFail
  match der with
  | .pubKeyRfc7250 key => do
    let key ← orFail .verifFail (extractSpkiPubkey key)
    guardElse (bareKeyPairs.contains (hash, asym)) .verifFail
    guardElse (w.verifyUnparsed hash asym key data signature) .verifFail
  | .certChain chain => do
    let algorithm ← orAbort (signatureAlgorithm hash asym)
    let cert ← liftResult (signingCert chain asym)
    guardElse (w.endEntityCert cert) .invalidCert
    let signature ← (if asym = SpdmBaseAsymAlgo.tpmAlgEcdsaEccNistP256 ∨
        asym = SpdmBaseAsymAlgo.tpmAlgEcdsaEccNistP384 then eccSignatureBinToDer signature
      else ret signature)
    guardElse (w.verifySignature cert algorithm data signature) .verifFail

/-! ## §4. Where the walkers cut. -/

/-- A sequence with a length in two bytes, and as many bytes behind it. -/
def Element (cert : Bytes) : Prop :=
  ∃ high low body, cert = 0x30 :: 0x82 :: high :: low :: body ∧ body.length = combined high low

def Canonical (cert : Bytes) : Prop := 0x100 + 4 ≤ cert.length

instance (cert : Bytes) : Decidable (Canonical cert) := by
  unfold Canonical
  infer_instance

def canonicalChain (chain : Bytes) : Bool :=
  match chain with
  | _ :: _ :: high :: low :: body =>
    decide (0x100 ≤ combined high low) && canonicalChain (body.drop (combined high low))
  | _ => true
termination_by chain.length

theorem length_pos_of_element {cert : Bytes} (h : Element cert) : 0 < cert.length := by
  obtain ⟨_, _, _, rfl, -⟩ := h
  simp

theorem element_of_size {tag form high low : UInt8} {body : Bytes}
    (hform : ¬ (tag ≠ 0x30 ∨ form ≠ 0x82))
    (hsize : body.length = (high.toNat <<< 8) + low.toNat) :
    Element (tag :: form :: high :: low :: body) := by
  obtain ⟨rfl, rfl⟩ : tag = 0x30 ∧ form = 0x82 := by simpa using hform
  refine ⟨high, low, body, rfl, ?_⟩
  rw [hsize, combined_eq, Nat.shiftLeft_eq]

theorem findCert_last {rest : Bytes} {offset leafBegin leafEnd : Nat} {thisIndex : Int}
    (hindex : 0 ≤ thisIndex)
    (h : findCert (-1) offset thisIndex rest = .ok (leafBegin, leafEnd)) :
    ∃ certs leaf, rest = certs.flatten ++ leaf ∧ (∀ cert ∈ certs ++ [leaf], Element cert) ∧
      leafBegin = offset + certs.flatten.length ∧ leafEnd = offset + rest.length := by
  fun_induction findCert (-1) offset thisIndex rest with
  | case1 | case2 => cases h
  | case3 => omega
  | case4 offset thisIndex tag form high low body hform size hsize hne hlast =>
    cases h
    have hleaf : Element (tag :: form :: high :: low :: body) :=
      element_of_size hform (by omega)
    refine ⟨[], _, rfl, by simpa using hleaf, rfl, ?_⟩
    simp only [List.length_cons]
    omega
  | case5 offset thisIndex tag form high low body hform size hsize hne hnot ih =>
    -- the first element, and what the rest of the chain is made of
    obtain ⟨certs, leaf, hrest, hall, hbegin, hend⟩ := ih (by omega) h
    have hbody : (body.take (size - 4)).length = size - 4 := by
      rw [List.length_take]
      omega
    have hfirst : Element (tag :: form :: high :: low :: body.take (size - 4)) :=
      element_of_size hform (by omega)
    refine ⟨(tag :: form :: high :: low :: body.take (size - 4)) :: certs, leaf, ?_, ?_, ?_, ?_⟩
    · simp [← hrest]
    · intro cert hcert
      obtain rfl | hcert := List.mem_cons.1 hcert
      · exact hfirst
      · exact hall cert hcert
    · simp only [List.flatten_cons, List.length_append, List.length_cons, hbody]
      omega
    · rw [hend, List.length_drop]
      simp only [List.length_cons]
      omega
  | case6 => cases h

theorem lastCert_ok {chain : Bytes} {leafBegin leafEnd : Nat}
    (h : getCertFromCertChain chain (-1) = .ok (leafBegin, leafEnd)) :
    ∃ certs leaf, chain = (certs ++ [leaf]).flatten ∧ (∀ cert ∈ certs ++ [leaf], Element cert) ∧
      (chain.take leafEnd).drop leafBegin = leaf := by
  obtain ⟨certs, leaf, hchain, hall, hbegin, hend⟩ := findCert_last (le_refl 0) h
  refine ⟨certs, leaf, by simpa using hchain, hall, ?_⟩
  rw [hend, Nat.zero_add, List.take_length, hbegin, Nat.zero_add, hchain, List.drop_left]

theorem elementSize_element {cert : Bytes} (h : Element cert) (rest : Bytes) :
    elementSize (cert ++ rest) = if Canonical cert then some cert.length else none := by
  obtain ⟨high, low, body, rfl, hbody⟩ := h
  have hbit : ¬ (0x82 &&& 0x80 : UInt8) = 0 := by decide
  have hcanonical : Canonical (0x30 :: 0x82 :: high :: low :: body) ↔
      ¬ combined high low < 256 := by
    unfold Canonical
    simp only [List.length_cons]
    omega
  simp only [elementSize, List.cons_append, ne_eq, not_true_eq_false, if_false, if_neg hbit,
    if_true, hcanonical, List.length_cons, hbody]
  cases hrest : body ++ rest with
  | nil =>
    -- no byte behind the length: it is zero
    have hzero : body.length = 0 := by
      rw [List.append_eq_nil_iff] at hrest
      simp [hrest.1]
    simp [← hbody, hzero]
  | cons b bs =>
    by_cases hshort : combined high low < 256
    · simp [hshort]
    · simp [hshort]
      omega

theorem splitCerts_elements {certs : List Bytes} (hall : ∀ cert ∈ certs, Element cert) :
    splitCerts certs.flatten = certs.takeWhile fun cert => decide (Canonical cert) := by
  induction certs with
  | nil => rw [splitCerts]; rfl
  | cons cert certs ih =>
    have hcert := hall cert List.mem_cons_self
    have hpos := length_pos_of_element hcert
    rw [List.flatten_cons, splitCerts, elementSize_element hcert]
    by_cases hcanonical : Canonical cert
    · have hfits : ¬ (cert.length = 0 ∨ (cert ++ certs.flatten).length < cert.length) := by
        rw [List.length_append]
        omega
      rw [if_pos hcanonical]
      dsimp only
      rw [if_neg hfits, List.take_left, List.drop_left,
        ih fun c hc => hall c (List.mem_cons_of_mem _ hc), List.takeWhile_cons_of_pos (by simpa)]
    · rw [if_neg hcanonical, List.takeWhile_cons_of_neg (by simpa)]

theorem canonicalChain_elements {certs : List Bytes} (hall : ∀ cert ∈ certs, Element cert) :
    canonicalChain certs.flatten = true ↔ ∀ cert ∈ certs, Canonical cert := by
  induction certs with
  | nil =>
    rw [canonicalChain]
    · simp
    · simp
  | cons cert certs ih =>
    obtain ⟨high, low, body, rfl, hbody⟩ := hall cert List.mem_cons_self
    have hrest : (body ++ certs.flatten).drop (combined high low) = certs.flatten := by
      rw [← hbody, List.drop_left]
    have hcanonical : Canonical (0x30 :: 0x82 :: high :: low :: body) ↔
        0x100 ≤ combined high low := by
      unfold Canonical
      simp only [List.length_cons]
      omega
    simp only [List.flatten_cons, List.cons_append, List.forall_mem_cons]
    rw [canonicalChain, hrest, Bool.and_eq_true, decide_eq_true_eq, hcanonical,
      ih fun c hc => hall c (List.mem_cons_of_mem _ hc)]

theorem canonical_of_format {certs : List Bytes} (hall : ∀ cert ∈ certs, Element cert)
    {baseAsymAlgo : Flags} {count : Nat}
    (h : checkCertChainFormat certs.flatten baseAsymAlgo = .ok count) :
    ∀ cert ∈ certs, Canonical cert := by
  induction certs generalizing count with
  | nil => simp
  | cons cert certs ih =>
    obtain ⟨high, low, body, rfl, hbody⟩ := hall cert List.mem_cons_self
    rw [List.flatten_cons, checkCertChainFormat, if_pos (by simp)] at h
    split at h
    case h_1 => cases h
    case h_2 size hformat =>
      obtain ⟨length, consumed, hlength, rfl⟩ := checkCertFormat_ok hformat
      obtain ⟨rfl, rfl, hlong⟩ := decodeLength_two_octet (checkLength_ok hlength).1
      have hsize : 1 + 3 + combined high low = (0x30 :: 0x82 :: high :: low :: body).length := by
        simp only [List.length_cons]
        omega
      split at h
      case isTrue => cases h
      case isFalse =>
        obtain ⟨count', hcount, -⟩ := Check.bind_eq_ok.1 h
        rw [hsize, List.drop_left] at hcount
        rw [List.forall_mem_cons]
        refine ⟨?_, ih (fun c hc => hall c (List.mem_cons_of_mem _ hc)) hcount⟩
        unfold Canonical
        omega

end SpdmRing

end Spdm
