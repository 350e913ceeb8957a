/-
  Spdm.Requester.CertificateChain — which certificate a peer is known by
  (`verify_spdm_certificate_chain` with the `ring` backend).
-/
import Mathlib.Data.List.TakeWhile
import Spdm.Certificate.Ring
import Spdm.Context.Mild
import Spdm.Context.Small
import Spdm.Requester.Attestation

namespace Spdm

open Effect Codec

namespace Requester

open SpdmContext SpdmRing

/-! ## §1. What is accepted. -/

section
variable [Crypto] [Device] {w : Webpki}

/-- The certificate functions of the party are those of the `ring`
backend. -/
structure UsesRing (w : Webpki) : Prop where
  getCertFromCertChain_eq : ∀ chain index,
    Device.getCertFromCertChain chain index = SpdmRing.getCertFromCertChain chain index
  verifyCertChain_eq : ∀ chain, Device.verifyCertChain chain = SpdmRing.verifyCertChain w chain
  isRootCertificate_eq : ∀ cert,
    Device.isRootCertificate cert = (X509v3.isRootCertificate cert).isOk
  checkLeafCertificate_eq : ∀ cert isAlias,
    Device.checkLeafCertificate cert isAlias = (X509v3.checkLeafCertificate cert isAlias).isOk

def PathAccepted (w : Webpki) (certs ca : Bytes) (inters : List Bytes) (ee : Bytes) : Prop :=
  pathOf (splitCerts certs) = some (ca, inters, ee) ∧
    ∃ time, w.verifyForUsage ee ca inters time = true

def LeafIs (certs leaf : Bytes) : Prop :=
  ∃ leafBegin leafEnd, SpdmRing.getCertFromCertChain certs (-1) = .ok (leafBegin, leafEnd) ∧
    slice leafBegin leafEnd certs = leaf

omit [Crypto] [Device] in
theorem pathAccepted_of_verifyCertChain {certs : Bytes}
    (h : SpdmRing.verifyCertChain w certs = .ok ()) :
    ∃ ca inters ee, PathAccepted w certs ca inters ee := by
  unfold SpdmRing.verifyCertChain at h
  split at h
  case h_1 => cases h
  case h_2 ca inters ee hpath =>
    split at h
    case isTrue => cases h
    case isFalse =>
      split at h
      case h_1 => cases h
      case h_2 time _ =>
        split at h
        case isTrue => cases h
        case isFalse =>
          split at h
          case isTrue hok => exact ⟨ca, inters, ee, hpath, time, hok⟩
          case isFalse => cases h

theorem verifyCertChainBuffer_ok {c c' : SpdmContext} {chain certs : Bytes} {hashSize : Nat}
    (hhash : c.hashSize? = some hashSize) (h : verifyCertChainBuffer chain c = .ok certs c') :
    certs = chain.drop (4 + hashSize) ∧ Device.verifyCertChain certs = .ok () ∧ c' = c := by
  have hstill : c' = c := (verifyCertChainBuffer_still chain).of_ok h
  obtain ⟨c₁, c₂, hread, h⟩ := bind_eq_ok.1 h
  obtain ⟨rfl, rfl⟩ := read_eq_ok.1 hread
  obtain ⟨size, c₃, hsize, h⟩ := bind_eq_ok.1 h
  obtain ⟨hsize', rfl⟩ := orAbort_eq_ok.1 hsize
  obtain rfl : size = hashSize := Option.some.inj (hsize'.symm.trans hhash)
  obtain ⟨_, c₄, -, h⟩ := bind_eq_ok.1 h
  obtain ⟨_, c₅, -, h⟩ := bind_eq_ok.1 h
  obtain ⟨_, c₆, -, h⟩ := bind_eq_ok.1 h
  obtain ⟨_, c₇, hverify, h⟩ := bind_eq_ok.1 h
  obtain ⟨_, c₈, -, h⟩ := bind_eq_ok.1 h
  obtain ⟨_, c₉, -, h⟩ := bind_eq_ok.1 h
  obtain ⟨_, c₁₀, -, h⟩ := bind_eq_ok.1 h
  obtain ⟨rfl, -⟩ := ret_eq_ok.1 h
  refine ⟨rfl, ?_, hstill⟩
  obtain ⟨hok, -⟩ := guardElse_eq_ok.1 hverify
  split at hok
  case h_1 u hdevice => exact hdevice
  case h_2 => cases hok

theorem verifySpdmCertificateChain_ok (hring : UsesRing w) {c c' : SpdmContext} {chain : Bytes}
    {hashSize : Nat} (htemp : c.peerInfo.peerCertChainTemp = some chain)
    (hhash : c.hashSize? = some hashSize)
    (h : verifySpdmCertificateChain c = .ok () c') :
    (∃ ca inters ee, PathAccepted w (chain.drop (4 + hashSize)) ca inters ee) ∧
      ∃ leaf isAlias, LeafIs (chain.drop (4 + hashSize)) leaf ∧
        (X509v3.checkLeafCertificate leaf isAlias).isOk = true := by
  obtain ⟨c₁, c₂, hread, h⟩ := bind_eq_ok.1 h
  obtain ⟨rfl, rfl⟩ := read_eq_ok.1 hread
  obtain ⟨chain', c₃, hchain, h⟩ := bind_eq_ok.1 h
  obtain ⟨hchain', rfl⟩ := orFail_eq_ok.1 hchain
  obtain rfl : chain' = chain := Option.some.inj (hchain'.symm.trans htemp)
  obtain ⟨certs, c₄, hbuffer, h⟩ := bind_eq_ok.1 h
  obtain ⟨rfl, hverify, rfl⟩ := verifyCertChainBuffer_ok hhash hbuffer
  obtain ⟨⟨leafBegin, leafEnd⟩, c₅, hleaf, h⟩ := bind_eq_ok.1 h
  obtain ⟨hlookup, -⟩ := liftResult_eq_ok.1 hleaf
  obtain ⟨_, c₆, -, h⟩ := bind_eq_ok.1 h
  obtain ⟨_, c₇, hcheck, -⟩ := bind_eq_ok.1 h
  obtain ⟨hcheck', -⟩ := guardElse_eq_ok.1 hcheck
  rw [hring.verifyCertChain_eq] at hverify
  rw [hring.getCertFromCertChain_eq] at hlookup
  rw [hring.checkLeafCertificate_eq] at hcheck'
  exact ⟨pathAccepted_of_verifyCertChain hverify, _, _, ⟨leafBegin, leafEnd, hlookup, rfl⟩, hcheck'⟩

/-! ## §2. Which certificates are validated. -/

omit [Crypto] [Device] in
theorem path_of_canonical {certs : List Bytes} {leaf : Bytes}
    (hall : ∀ cert ∈ certs ++ [leaf], Element cert)
    (hcanonical : ∀ cert ∈ certs ++ [leaf], Canonical cert) {ca ee : Bytes} {inters : List Bytes}
    (hpath : pathOf (splitCerts (certs ++ [leaf]).flatten) = some (ca, inters, ee)) :
    splitCerts (certs ++ [leaf]).flatten = certs ++ [leaf] ∧ ee = leaf := by
  have hsplit : splitCerts (certs ++ [leaf]).flatten = certs ++ [leaf] := by
    rw [splitCerts_elements hall]
    simpa using hcanonical
  refine ⟨hsplit, ?_⟩
  rw [hsplit] at hpath
  cases certs with
  | nil =>
    cases hpath
    rfl
  | cons cert certs =>
    cases hpath
    simp

omit [Crypto] [Device] in
theorem leaf_unique {certs leaf : Bytes} (h : LeafIs certs leaf) : ∃ parts : List Bytes,
    certs = (parts ++ [leaf]).flatten ∧ ∀ cert ∈ parts ++ [leaf], Element cert := by
  obtain ⟨leafBegin, leafEnd, hlookup, rfl⟩ := h
  obtain ⟨parts, leaf, hcerts, hall, hleaf⟩ := lastCert_ok hlookup
  have : slice leafBegin leafEnd certs = leaf := hleaf
  rw [this]
  exact ⟨parts, hcerts, hall⟩

/-- **The key that verifies is the key that was validated.**  With the
`ring` backend, a chain that was accepted and a signature that is accepted
with it: the certificate that checks the signature is the end entity the
path validator was given, and the certificates it was given are the whole
chain. -/
theorem signingCert_validated (hring : UsesRing w) {c c' : SpdmContext} {chain : Bytes}
    {hashSize : Nat} (htemp : c.peerInfo.peerCertChainTemp = some chain)
    (hhash : c.hashSize? = some hashSize)
    (haccept : verifySpdmCertificateChain c = .ok () c')
    {σ : Type} {s s' : σ} {hash asym : Flags} {data signature : Bytes}
    (hverify : SpdmRing.asymVerify w hash asym (.certChain (chain.drop (4 + hashSize))) data
      signature s = .ok () s') :
    ∃ ca inters ee, PathAccepted w (chain.drop (4 + hashSize)) ca inters ee ∧
      (splitCerts (chain.drop (4 + hashSize))).flatten = chain.drop (4 + hashSize) ∧
      signingCert (chain.drop (4 + hashSize)) asym = .ok ee ∧
      ∃ algorithm encoded, w.verifySignature ee algorithm data encoded = true := by
  obtain ⟨⟨ca, inters, ee, hpath, htime⟩, -⟩ :=
    verifySpdmCertificateChain_ok hring htemp hhash haccept
  generalize chain.drop (4 + hashSize) = certs at hverify hpath ⊢
  obtain ⟨_, s₁, -, hverify⟩ := bind_eq_ok.1 hverify
  obtain ⟨_, s₂, -, hverify⟩ := bind_eq_ok.1 hverify
  obtain ⟨algorithm, s₃, -, hverify⟩ := bind_eq_ok.1 hverify
  obtain ⟨cert, s₄, hcert, hverify⟩ := bind_eq_ok.1 hverify
  obtain ⟨hsigning, -⟩ := liftResult_eq_ok.1 hcert
  obtain ⟨_, s₅, -, hverify⟩ := bind_eq_ok.1 hverify
  obtain ⟨encoded, s₆, -, hverify⟩ := bind_eq_ok.1 hverify
  obtain ⟨hsignature, -⟩ := guardElse_eq_ok.1 hverify
  -- the three walkers on these certificates
  obtain ⟨_, hformat, hlookup⟩ := X509v3.Check.bind_eq_ok.1 hsigning
  obtain ⟨⟨leafBegin, leafEnd⟩, hlast, hleaf⟩ := X509v3.Check.bind_eq_ok.1 hlookup
  obtain ⟨parts, leaf, rfl, hall, hslice⟩ := lastCert_ok hlast
  obtain ⟨hsplit, rfl⟩ := path_of_canonical hall (canonical_of_format hall hformat) hpath
  have hsame : cert = ee := by
    cases hleaf
    exact hslice
  subst hsame
  exact ⟨ca, inters, cert, ⟨hpath, htime⟩, by rw [hsplit], hsigning, algorithm, encoded, hsignature⟩

/-! ## §3. Chains that are accepted. -/

omit [Crypto] [Device] in
theorem takeWhile_flatten_eq_iff {certs : List Bytes} (hpos : ∀ cert ∈ certs, Element cert) :
    (certs.takeWhile fun cert => decide (Canonical cert)).flatten = certs.flatten ↔
      ∀ cert ∈ certs, Canonical cert := by
  constructor
  · intro h
    have hsplit := List.takeWhile_append_dropWhile (p := fun cert => decide (Canonical cert))
      (l := certs)
    -- what is left behind has no bytes, so there is none of it
    have hrest : (certs.dropWhile fun cert => decide (Canonical cert)) = [] := by
      cases hdrop : certs.dropWhile fun cert => decide (Canonical cert) with
      | nil => rfl
      | cons cert rest =>
        have hmem : cert ∈ certs := by
          rw [← hsplit, hdrop]
          simp
        have hlen := congrArg List.length (h.trans (congrArg List.flatten hsplit.symm))
        rw [hdrop, List.flatten_append, List.flatten_cons, List.length_append,
          List.length_append] at hlen
        have := length_pos_of_element (hpos cert hmem)
        omega
    rw [hrest, List.append_nil] at hsplit
    simpa using hsplit
  · intro h
    rw [List.takeWhile_eq_self_iff.2 (by simpa using h)]

/-- Nothing is left unvalidated: the path validator is given all bytes of the
certificates, the leaf that is checked is its end entity, and no certificate
is malformed or has a length that is not canonical. -/
def LeavesNothing (certs : Bytes) : Prop :=
  (splitCerts certs).flatten = certs ∧
    (∃ ca inters ee, pathOf (splitCerts certs) = some (ca, inters, ee) ∧ LeafIs certs ee) ∧
    ∃ parts : List Bytes, certs = parts.flatten ∧ ∀ cert ∈ parts, Element cert ∧ Canonical cert

/-- **An accepted chain is validated as a whole** if and only if every
length in it is canonical. -/
theorem verifySpdmCertificateChain_validated (hring : UsesRing w) {c c' : SpdmContext}
    {chain : Bytes} {hashSize : Nat} (htemp : c.peerInfo.peerCertChainTemp = some chain)
    (hhash : c.hashSize? = some hashSize)
    (haccept : verifySpdmCertificateChain c = .ok () c') :
    LeavesNothing (chain.drop (4 + hashSize)) ↔
      canonicalChain (chain.drop (4 + hashSize)) = true := by
  obtain ⟨⟨ca, inters, ee, hpath, -⟩, leaf, -, hleaf, -⟩ :=
    verifySpdmCertificateChain_ok hring htemp hhash haccept
  generalize chain.drop (4 + hashSize) = certs at hpath hleaf ⊢
  obtain ⟨parts, hcerts, hall⟩ := leaf_unique hleaf
  rw [hcerts, canonicalChain_elements hall]
  constructor
  · rintro ⟨hflatten, -, -⟩
    rw [splitCerts_elements hall] at hflatten
    exact (takeWhile_flatten_eq_iff hall).1 hflatten
  · intro hcanonical
    rw [hcerts] at hpath hleaf
    obtain ⟨hsplit, rfl⟩ := path_of_canonical hall hcanonical hpath
    exact ⟨by rw [hsplit], ⟨ca, inters, ee, hpath, hleaf⟩, _, rfl,
      fun cert hcert => ⟨hall cert hcert, hcanonical cert hcert⟩⟩

end

/-! ## §4. Two chains. -/

namespace SmallChain

open SmallBackend

def openWebpki : Webpki where
  anchorFromTrustedCert _ := true
  endEntityCert _ := true
  verifyForUsage _ _ _ _ := true
  verifySignature _ _ _ _ := true
  verifyUnparsed _ _ _ _ _ := true
  now := some 0

scoped instance ringDevice : Device :=
  { smallDevice with
    getCertFromCertChain := SpdmRing.getCertFromCertChain
    verifyCertChain := SpdmRing.verifyCertChain openWebpki
    isRootCertificate := fun cert => (X509v3.isRootCertificate cert).isOk
    checkLeafCertificate := fun cert isAlias => (X509v3.checkLeafCertificate cert isAlias).isOk }

theorem usesRing_small : UsesRing openWebpki where
  getCertFromCertChain_eq _ _ := rfl
  verifyCertChain_eq _ := rfl
  isRootCertificate_eq _ := rfl
  checkLeafCertificate_eq _ _ := rfl

def element (tag : UInt8) (body : Bytes) : Bytes :=
  tag :: 0x82 :: UInt8.ofNat (body.length / 256) :: UInt8.ofNat (body.length % 256) :: body

def smallCert (serial : UInt8) : Bytes :=
  let algorithm : Bytes := [0x30, 10, 0x06, 8] ++ X509v3.oidEcdsaSha256
  element 0x30 (element 0x30 ([0xA0, 3, 2, 1, 2] ++ element 0x02 (List.replicate 256 serial) ++
    algorithm ++ [0x30, 0, 0x30, 0, 0x30, 0, 0x30, 0] ++ [0xA3, 2, 0x30, 0]) ++ algorithm ++
      [0x03, 0])

def withHash (certs : Bytes) : Bytes := leBytes 4 (4 + 32 + certs.length) ++ smallHash ++ certs

def collected (certs : Bytes) : SpdmContext :=
  { build :=
      { smallBuild false false with
        config := { smallConfig with maxSpdmCertChainDataSize := 1024 }
        msgSize_ge := by decide
        certChain_le := by decide
        measurement_le := by decide
        sizes_lt := by decide
        whole_fits := fun _ => by decide
        chunk_fits := fun _ => by decide }
    transportEncap := smallTransport 0
    negotiateInfo := { baseHashSel := SpdmBaseHashAlgo.tpmAlgSha256 }
    peerInfo := { peerCertChainTemp := some (withHash certs) } }

def smuggled : Bytes := smallCert 1 ++ [0x30, 0x82, 0, 0] ++ smallCert 2

def honest : Bytes := smallCert 1 ++ smallCert 2

theorem drop_withHash (certs : Bytes) : (withHash certs).drop (4 + 32) = certs := by
  have hhead : (leBytes 4 (4 + 32 + certs.length) ++ smallHash).length = 4 + 32 := by
    rfl
  exact hhead ▸ List.drop_left

theorem signingCert_validated_honest :
    (∃ c', verifySpdmCertificateChain (collected honest) = .ok () c') ∧
      ∃ ca inters ee, PathAccepted openWebpki honest ca inters ee ∧
        (splitCerts honest).flatten = honest ∧
        signingCert honest SpdmBaseAsymAlgo.tpmAlgEcdsaEccNistP256 = .ok ee := by
  obtain ⟨_, c', haccept⟩ := Outcome.exists_of_returned
    (show ((verifySpdmCertificateChain (collected honest)).returned).isSome = true by
      decide +kernel)
  obtain ⟨_, s', hverify⟩ := Outcome.exists_of_returned
    (show ((SpdmRing.asymVerify openWebpki SpdmBaseHashAlgo.tpmAlgSha256
      SpdmBaseAsymAlgo.tpmAlgEcdsaEccNistP256 (.certChain honest) [] (List.replicate 64 1)
      ()).returned).isSome = true by decide +kernel)
  refine ⟨⟨c', haccept⟩, ?_⟩
  rw [← drop_withHash honest] at hverify
  obtain ⟨ca, inters, ee, hpath, hwhole, hsigning, -⟩ :=
    signingCert_validated usesRing_small rfl rfl haccept hverify
  rw [drop_withHash] at hpath hwhole hsigning
  exact ⟨ca, inters, ee, hpath, hwhole, hsigning⟩

theorem leaf_not_validated :
    (∃ c', verifySpdmCertificateChain (collected smuggled) = .ok () c') ∧
      splitCerts smuggled = [smallCert 1] ∧ LeafIs smuggled (smallCert 2) ∧
      ¬ LeavesNothing smuggled := by
  obtain ⟨_, c', haccept⟩ := Outcome.exists_of_returned
    (show ((verifySpdmCertificateChain (collected smuggled)).returned).isSome = true by
      decide +kernel)
  refine ⟨⟨c', haccept⟩, by decide +kernel, ⟨315, 626, by decide +kernel, by decide +kernel⟩, ?_⟩
  rintro ⟨hflatten, -, -⟩
  exact absurd hflatten (by decide +kernel)

theorem honest_validated :
    (∃ c', verifySpdmCertificateChain (collected honest) = .ok () c') ∧ LeavesNothing honest := by
  obtain ⟨_, c', haccept⟩ := Outcome.exists_of_returned
    (show ((verifySpdmCertificateChain (collected honest)).returned).isSome = true by
      decide +kernel)
  have hiff := verifySpdmCertificateChain_validated usesRing_small rfl rfl haccept
  rw [drop_withHash] at hiff
  exact ⟨⟨c', haccept⟩, hiff.2 (by decide +kernel)⟩

end SmallChain

end Requester

end Spdm
