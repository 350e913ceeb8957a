/-
  Spdm.Parties.CertificatePolicy — the two verifiers of a certificate chain
  (`requester/get_certificate_req.rs`, `responder/encap_get_certificate.rs`).
-/
import Spdm.Requester.CertificateChain
import Spdm.Responder.Upkeep

namespace Spdm

open Effect Codec

namespace CertificatePolicy

open SpdmContext

/-! ## §1. One chain, two verifiers. -/

/-- Both hold the same chain, with the same hash, the same roots and room for
the same chain. -/
structure SameChain (rsp req : SpdmContext) : Prop where
  chain : req.peerInfo.peerCertChainTemp = rsp.peerInfo.peerCertChainTemp
  baseHashSel : req.negotiateInfo.baseHashSel = rsp.negotiateInfo.baseHashSel
  roots : req.provisionInfo.peerRootCertData = rsp.provisionInfo.peerRootCertData
  room : req.build.config.maxSpdmCertChainDataSize = rsp.build.config.maxSpdmCertChainDataSize

section
variable [Crypto] [Device] {rsp req : SpdmContext}

def LeafAccepted (c : SpdmContext) : Prop :=
  ∃ chain hashSize leafBegin leafEnd, c.peerInfo.peerCertChainTemp = some chain ∧
    c.hashSize? = some hashSize ∧
    Device.getCertFromCertChain (chain.drop (4 + hashSize)) (-1) = .ok (leafBegin, leafEnd) ∧
    leafBegin ≤ leafEnd ∧ leafEnd ≤ c.build.config.maxSpdmCertChainDataSize ∧
    Device.checkLeafCertificate (slice leafBegin leafEnd (chain.drop (4 + hashSize)))
      (contains c.negotiateInfo.rspCapabilitiesSel SpdmResponseCapabilityFlags.aliasCertCap) = true

omit [Crypto] [Device] in
theorem SameChain.hashSize? (h : SameChain rsp req) : req.hashSize? = rsp.hashSize? := by
  unfold SpdmContext.hashSize?
  rw [h.baseHashSel]

theorem verifyCertChainBuffer_paired (chain : Bytes) :
    Paired SameChain (· = ·) (verifyCertChainBuffer chain) (verifyCertChainBuffer chain) := by
  refine .read_seq (fun c d h => ?_) fun c d _ => ?_
  · simp only [h.hashSize?, h.baseHashSel, h.room]
  · refine .seq (.orAbort _) fun hashSize => .seq (.guardElse _ _) fun _ =>
      .seq (.guardElse _ _) fun _ => .seq (.assert _) fun _ => .seq (.guardElse _ _) fun _ =>
      .seq paired_liftResult fun bounds => .seq (.assert _) fun _ => .seq ?_ fun _ => .ret rfl
    split
    · exact .seq (.orFail _ _) fun _ => .guardElse _ _
    · exact .ret rfl

omit [Crypto] in
theorem verifyProvisionedRoot_paired (certs : Bytes) :
    Paired SameChain (· = ·) (verifyProvisionedRoot certs) (verifyProvisionedRoot certs) := by
  refine .read_seq (fun c d h => ?_) fun c d _ => ?_
  · simp only [h.roots]
  · exact .seq paired_liftResult fun bounds => .guardElse _ _

theorem responder_accepted {rsp' : SpdmContext}
    (h : Responder.verifySpdmCertificateChain rsp = .ok () rsp') :
    ∃ chain certs, rsp.peerInfo.peerCertChainTemp = some chain ∧
      verifyCertChainBuffer chain rsp = .ok certs rsp ∧
      verifyProvisionedRoot certs rsp = .ok () rsp' := by
  obtain ⟨c, c₁, hread, h⟩ := bind_eq_ok.1 h
  obtain ⟨rfl, rfl⟩ := read_eq_ok.1 hread
  obtain ⟨chain, c₂, hchain, h⟩ := bind_eq_ok.1 h
  obtain ⟨hchain', rfl⟩ := orFail_eq_ok.1 hchain
  obtain ⟨certs, c₃, hbuffer, hroot⟩ := bind_eq_ok.1 h
  obtain rfl : c₃ = rsp := (verifyCertChainBuffer_still chain).of_ok hbuffer
  exact ⟨chain, certs, hchain', hbuffer, hroot⟩

theorem requester_accepts_of {chain certs : Bytes} {req' : SpdmContext}
    (hchain : req.peerInfo.peerCertChainTemp = some chain)
    (hbuffer : verifyCertChainBuffer chain req = .ok certs req)
    (hroot : verifyProvisionedRoot certs req = .ok () req') (hleaf : LeafAccepted req) :
    Requester.verifySpdmCertificateChain req = .ok () req' := by
  obtain ⟨chain', hashSize, leafBegin, leafEnd, hchain', hhash, hlookup, horder, hroom, hcheck⟩ :=
    hleaf
  obtain rfl : chain' = chain := Option.some.inj (hchain'.symm.trans hchain)
  obtain ⟨rfl, -, -⟩ := Requester.verifyCertChainBuffer_ok hhash hbuffer
  refine bind_eq_ok.2 ⟨req, req, rfl, bind_eq_ok.2 ⟨chain', req, orFail_eq_ok.2 ⟨hchain, rfl⟩,
    bind_eq_ok.2 ⟨_, req, hbuffer, bind_eq_ok.2 ⟨(leafBegin, leafEnd), req,
      liftResult_eq_ok.2 ⟨hlookup, rfl⟩, ?_⟩⟩⟩⟩
  refine bind_eq_ok.2 ⟨(), req, assert_eq_ok.2 ⟨decide_eq_true ⟨horder, hroom⟩, rfl⟩, ?_⟩
  exact bind_eq_ok.2 ⟨(), req, guardElse_eq_ok.2 ⟨hcheck, rfl⟩, hroot⟩

theorem leafAccepted_of {req' : SpdmContext}
    (h : Requester.verifySpdmCertificateChain req = .ok () req') : LeafAccepted req := by
  obtain ⟨c, c₁, hread, h⟩ := bind_eq_ok.1 h
  obtain ⟨rfl, rfl⟩ := read_eq_ok.1 hread
  obtain ⟨chain, c₂, hchain, h⟩ := bind_eq_ok.1 h
  obtain ⟨hchain', rfl⟩ := orFail_eq_ok.1 hchain
  obtain ⟨certs, c₃, hbuffer, h⟩ := bind_eq_ok.1 h
  obtain rfl : c₃ = req := (verifyCertChainBuffer_still chain).of_ok hbuffer
  obtain ⟨hashSize, hhash⟩ : ∃ n, c₃.hashSize? = some n := by
    obtain ⟨_, _, hread, hrest⟩ := bind_eq_ok.1 hbuffer
    obtain ⟨rfl, rfl⟩ := read_eq_ok.1 hread
    obtain ⟨n, _, hsize, -⟩ := bind_eq_ok.1 hrest
    exact ⟨n, (orAbort_eq_ok.1 hsize).1⟩
  obtain ⟨rfl, -, -⟩ := Requester.verifyCertChainBuffer_ok hhash hbuffer
  obtain ⟨⟨leafBegin, leafEnd⟩, c₄, hlookup, h⟩ := bind_eq_ok.1 h
  obtain ⟨hlookup', rfl⟩ := liftResult_eq_ok.1 hlookup
  obtain ⟨_, c₅, hbounds, h⟩ := bind_eq_ok.1 h
  obtain ⟨hbounds', rfl⟩ := assert_eq_ok.1 hbounds
  obtain ⟨_, c₆, hcheck, -⟩ := bind_eq_ok.1 h
  obtain ⟨horder, hroom⟩ := of_decide_eq_true hbounds'
  exact ⟨chain, hashSize, leafBegin, leafEnd, hchain', hhash, hlookup', horder, hroom,
    (guardElse_eq_ok.1 hcheck).1⟩

/-- **One policy but for the leaf.**  Of the chains the responder accepts,
the requester with the same hash and the same roots accepts those whose leaf
passes its check, and no others. -/
theorem requester_accepts_iff {rsp' : SpdmContext} (hsame : SameChain rsp req)
    (haccept : Responder.verifySpdmCertificateChain rsp = .ok () rsp') :
    (∃ req', Requester.verifySpdmCertificateChain req = .ok () req') ↔ LeafAccepted req := by
  refine ⟨fun ⟨req', h⟩ => leafAccepted_of h, fun hleaf => ?_⟩
  obtain ⟨chain, certs, hchain, hbuffer, hroot⟩ := responder_accepted haccept
  obtain ⟨_, req₁, hbuffer', rfl, -⟩ := (verifyCertChainBuffer_paired chain).of_ok hsame hbuffer
  obtain rfl : req₁ = req := (verifyCertChainBuffer_still chain).of_ok hbuffer'
  obtain ⟨_, req', hroot', -, -⟩ := (verifyProvisionedRoot_paired certs).of_ok hsame hroot
  exact ⟨req', requester_accepts_of (hsame.chain.trans hchain) hbuffer' hroot' hleaf⟩

end

/-! ## §2. A leaf nobody looked at. -/

namespace SmallPolicy

open SmallBackend Requester.SmallChain

def badLeaf : Bytes := smallCert 1 ++ element 0x30 (List.replicate 256 0)

theorem sameChain_collected (certs : Bytes) : SameChain (collected certs) (collected certs) :=
  ⟨rfl, rfl, rfl, rfl⟩

theorem responder_accepts_bad_leaf :
    SameChain (collected badLeaf) (collected badLeaf) ∧
      (∃ rsp', Responder.verifySpdmCertificateChain (collected badLeaf) = .ok () rsp') ∧
      ¬ ∃ req', Requester.verifySpdmCertificateChain (collected badLeaf) = .ok () req' := by
  obtain ⟨_, rsp', haccept⟩ := Outcome.exists_of_returned
    (show ((Responder.verifySpdmCertificateChain (collected badLeaf)).returned).isSome = true by
      decide +kernel)
  refine ⟨sameChain_collected badLeaf, ⟨rsp', haccept⟩, ?_⟩
  rintro ⟨req', h⟩
  have hnone : ((Requester.verifySpdmCertificateChain (collected badLeaf)).returned).isSome =
    false := by
    decide +kernel
  rw [h] at hnone
  cases hnone

theorem both_accept_honest :
    ∃ req', Requester.verifySpdmCertificateChain (collected honest) = .ok () req' := by
  obtain ⟨_, rsp', haccept⟩ := Outcome.exists_of_returned
    (show ((Responder.verifySpdmCertificateChain (collected honest)).returned).isSome = true by
      decide +kernel)
  refine (requester_accepts_iff (sameChain_collected honest) haccept).2 ?_
  refine ⟨withHash honest, 32, 311, 622, rfl, rfl, ?_⟩
  rw [drop_withHash]
  decide +kernel

end SmallPolicy

end CertificatePolicy

end Spdm
