/-
  Spdm.Parties.Digests — the two builders of DIGESTS (`responder/digest_rsp.rs`,
  `requester/encap_digest.rs`, `message/digest.rs`).
-/
import Mathlib.Data.Nat.BitIndices
import Spdm.Requester.Upkeep
import Spdm.Responder.Steps
import Spdm.Context.Small

namespace Spdm

open Effect Codec

variable {α : Type} {c c' : SpdmContext} {p : DigestsPayload} {hashSize : Nat} {message : Bytes}

namespace Digests

open SpdmContext SpdmRequestResponseCode

/-! ## §1. Slots and their mask. -/

theorem slots_sorted (c : SpdmContext) :
    List.SortedLT ((provisionedSlots c).map Fin.val) := by
  have hsorted : List.Pairwise (fun i j : Fin 8 => i.val < j.val) (List.finRange 8) := by decide
  exact List.sortedLT_iff_pairwise.2 (List.pairwise_map.2 (hsorted.filter _))

theorem mask_bitIndices :
    (provisionedMask c).toNat.bitIndices = (provisionedSlots c).map Fin.val := by
  have hbits : ((provisionedSlots c).map fun i : Fin 8 => 2 ^ i.val).sum.bitIndices =
      (provisionedSlots c).map Fin.val := by
    have h := Nat.bitIndices_sum_map_two_pow (slots_sorted c)
    rwa [List.map_map] at h
  -- no slot has a number above seven: the sum fits the byte
  have hlt : ((provisionedSlots c).map fun i : Fin 8 => 2 ^ i.val).sum < 2 ^ 8 := by
    refine Nat.lt_pow_two_of_testBit _ fun i hi => ?_
    rw [← Bool.not_eq_true, ← Nat.mem_bitIndices, hbits, List.mem_map]
    rintro ⟨j, -, rfl⟩
    exact absurd j.isLt (by omega)
  have hbyte : (provisionedMask c).toNat =
      ((provisionedSlots c).map fun i : Fin 8 => 2 ^ i.val).sum := UInt8.toNat_ofNat_of_lt hlt
  rw [hbyte, hbits]

theorem mask_testBit (c : SpdmContext) (i : Fin 8) :
    (provisionedMask c).toNat.testBit i = (c.provisionInfo.myCertChain.get i).isSome := by
  rw [Bool.eq_iff_iff, ← Nat.mem_bitIndices, mask_bitIndices, List.mem_map]
  constructor
  · rintro ⟨j, hj, hij⟩
    obtain rfl := Fin.val_injective hij
    exact (List.mem_filter.1 hj).2
  · intro hi
    exact ⟨i, List.mem_filter.2 ⟨List.mem_finRange i, hi⟩, rfl⟩

theorem slotCount_mask :
    slotCount (provisionedMask c) = (provisionedSlots c).length := by
  have hrange : List.range 8 = (List.finRange 8).map Fin.val := by decide
  unfold slotCount
  rw [hrange, List.filter_map, List.length_map]
  refine congrArg List.length (List.filter_congr fun i _ => ?_)
  exact mask_testBit c i

theorem map_some_filterMap {ι : Type} {f : ι → Option α} {is : List ι} :
    (is.filterMap f).map some = (is.filter fun i => (f i).isSome).map f := by
  induction is with
  | nil => rfl
  | cons i is ih =>
    cases hi : f i with
    | none => simp [hi, ih]
    | some a => simp [hi, ih]

theorem provisionedChains_eq (c : SpdmContext) :
    (provisionedChains c).map some =
      (provisionedSlots c).map fun i => c.provisionInfo.myCertChain.get i :=
  map_some_filterMap

theorem provisionedChains_length :
    (provisionedChains c).length = (provisionedSlots c).length := by
  have h := congrArg List.length (provisionedChains_eq c)
  rwa [List.length_map, List.length_map] at h

/-! ## §2. What DIGESTS should say. -/

section
variable [Crypto]

structure Says (c : SpdmContext) (p : DigestsPayload) : Prop where
  slots : ∀ i : Fin 8, p.slotMask.toNat.testBit i = (c.provisionInfo.myCertChain.get i).isSome
  digests : p.digests.map some = (provisionedChains c).map (hashAll c.negotiateInfo.baseHashSel)
  keyPairId : multiKeyDigests c = true → p.keyPairId.map some =
    (provisionedSlots c).map fun i => c.provisionInfo.localKeyPairId.get i
  certificateInfo : multiKeyDigests c = true → p.certificateInfo.map some =
    (provisionedSlots c).map fun i => c.provisionInfo.localCertInfo.get i
  keyUsageMask : multiKeyDigests c = true → p.keyUsageMask.map some =
    (provisionedSlots c).map fun i => c.provisionInfo.localKeyUsageBitMask.get i

def Correct (c : SpdmContext) (message : Bytes) : Prop :=
  ∃ rest p, message = encodeHeader c.negotiateInfo.spdmVersionSel spdmResponseDigests ++ rest ∧
    parseDigestsResponse c rest = .ok p [] ∧ Says c p

/-- What a party needs to answer: the backend has the negotiated hash, and in
a connection with several keys every slot with a chain has its key
information, of known usages. -/
structure Provisioned (c : SpdmContext) (hashSize : Nat) : Prop where
  hashSize_eq : c.hashSize? = some hashSize
  hashed : ∀ chain ∈ provisionedChains c, ∃ digest,
    hashAll c.negotiateInfo.baseHashSel chain = some digest ∧ digest.length = hashSize
  keys : multiKeyDigests c = true → ∀ i ∈ provisionedSlots c,
    (c.provisionInfo.localKeyPairId.get i).isSome ∧ (c.provisionInfo.localCertInfo.get i).isSome ∧
    ∃ usage, c.provisionInfo.localKeyUsageBitMask.get i = some usage ∧
      usage &&& keyUsageValidMask = usage

def chainDigests (c : SpdmContext) : List Bytes :=
  (provisionedChains c).map fun chain => (hashAll c.negotiateInfo.baseHashSel chain).getD []

end

/-! ## §3. The payload and its bytes. -/

theorem mapM_eq_some {ι : Type} (f : ι → Option α) (is : List ι)
    (h : ∀ i ∈ is, (f i).isSome = true) : ∃ as, is.mapM f = some as ∧ as.map some = is.map f := by
  induction is with
  | nil => exact ⟨[], rfl, rfl⟩
  | cons i is ih =>
    obtain ⟨hi, his⟩ := List.forall_mem_cons.1 h
    obtain ⟨a, ha⟩ := Option.isSome_iff_exists.1 hi
    obtain ⟨as, has, hmap⟩ := ih his
    exact ⟨a :: as, by simp [List.mapM_cons, ha, has], by simp [ha, hmap]⟩

structure KeyLists (c : SpdmContext) (p : DigestsPayload) : Prop where
  keyPairId : p.keyPairId.map some =
    (provisionedSlots c).map fun i => c.provisionInfo.localKeyPairId.get i
  certificateInfo : p.certificateInfo.map some =
    (provisionedSlots c).map fun i => c.provisionInfo.localCertInfo.get i
  keyUsageMask : p.keyUsageMask.map some =
    (provisionedSlots c).map fun i => c.provisionInfo.localKeyUsageBitMask.get i
  usages : ∀ usage ∈ p.keyUsageMask, usage &&& keyUsageValidMask = usage

theorem length_of_map {as : List α} {entries : Slots α}
    (h : as.map some = (provisionedSlots c).map fun i => entries.get i) :
    as.length = (provisionedSlots c).length := by
  have hlength := congrArg List.length h
  rwa [List.length_map, List.length_map] at hlength

def digestsHead (c : SpdmContext) (p : DigestsPayload) : Bytes :=
  encodeHeader c.negotiateInfo.spdmVersionSel spdmResponseDigests ++
    [if c.negotiateInfo.spdmVersionSel.atLeast .spdmVersion13 then p.supportedSlotMask else 0,
      p.slotMask]

def digestsTail (c : SpdmContext) (p : DigestsPayload) : Bytes :=
  if multiKeyDigests c then p.keyPairId ++ (p.certificateInfo ++ p.keyUsageMask.flatMap (leBytes 2))
  else []

theorem encodeDigestsResponse_split :
    encodeDigestsResponse c p = digestsHead c p ++ (p.digests.flatten ++ digestsTail c p) := by
  simp [encodeDigestsResponse, digestsHead, digestsTail]

theorem digestsHead_length (c : SpdmContext) (p : DigestsPayload) : (digestsHead c p).length = 4 :=
  rfl

def digestsBody (c : SpdmContext) (p : DigestsPayload) : Bytes :=
  (if c.negotiateInfo.spdmVersionSel.atLeast .spdmVersion13 then p.supportedSlotMask else 0) ::
    p.slotMask :: (p.digests.flatten ++ digestsTail c p)

theorem encodeDigestsResponse_eq (c : SpdmContext) (p : DigestsPayload) :
    encodeDigestsResponse c p =
      encodeHeader c.negotiateInfo.spdmVersionSel spdmResponseDigests ++ digestsBody c p := by
  rw [encodeDigestsResponse_split]
  rfl

theorem flagsLe_append {mask flags : Flags} (hmask : mask < 2 ^ 16) (h : flags &&& mask = flags)
    (rest : Bytes) : flagsLe 2 mask (leBytes 2 flags ++ rest) = .ok flags rest := by
  have hlt : flags < 256 ^ 2 :=
    calc flags = flags &&& mask := h.symm
      _ ≤ mask := Nat.and_le_right
      _ < 256 ^ 2 := hmask
  unfold flagsLe
  rw [bind_of_ok (uintLe_append rest hlt), h]
  rfl

theorem parseDigest_append {digest : Bytes}
    (h : c.hashSize? = some digest.length) (rest : Bytes) :
    parseDigest c (digest ++ rest) = .ok digest rest := by
  unfold parseDigest
  rw [h]
  exact takeBytes_append rfl

theorem repeatParser_u8 (bs rest : Bytes) :
    repeatParser bs.length u8 (bs ++ rest) = .ok bs rest := by
  have h := @repeatParser_flatMap UInt8 UInt8 u8 (fun b => [b]) id bs rest
    fun b _ tail => u8_cons b tail
  rwa [List.flatMap_singleton', List.map_id] at h

theorem parseDigestsResponse_body
    (hsize : c.hashSize? = some hashSize) (hcount : p.digests.length = slotCount p.slotMask)
    (hdigests : ∀ digest ∈ p.digests, digest.length = hashSize)
    (hslots : slotCount p.slotMask = (provisionedSlots c).length)
    (hkeys : multiKeyDigests c = true → KeyLists c p) :
    ∃ q, parseDigestsResponse c (digestsBody c p) = .ok q [] ∧ q.slotMask = p.slotMask ∧
      q.digests = p.digests ∧ (multiKeyDigests c = true → q.keyPairId = p.keyPairId ∧
        q.certificateInfo = p.certificateInfo ∧ q.keyUsageMask = p.keyUsageMask) := by
  have hread : ∀ rest, repeatParser (slotCount p.slotMask) (parseDigest c)
      (p.digests.flatten ++ rest) = .ok p.digests rest := by
    intro rest
    have h := @repeatParser_flatMap Bytes Bytes (parseDigest c) id id p.digests rest
      fun digest hd tail => parseDigest_append
        (hsize.trans (congrArg some (hdigests digest hd).symm))
        tail
    rwa [List.flatMap_id, List.map_id, hcount] at h
  unfold parseDigestsResponse digestsBody digestsTail
  rw [bind_of_ok (u8_cons _ _), bind_of_ok (u8_cons _ _), bind_of_ok (hread _)]
  by_cases hmulti : multiKeyDigests c = true
  · obtain ⟨hpair, hinfo, husage, husages⟩ := hkeys hmulti
    have hpair' : p.keyPairId.length = slotCount p.slotMask := by rw [length_of_map hpair, hslots]
    have hinfo' : p.certificateInfo.length = slotCount p.slotMask := by
      rw [length_of_map hinfo, hslots]
    have husage' : p.keyUsageMask.length = slotCount p.slotMask := by
      rw [length_of_map husage, hslots]
    have hpairs := repeatParser_u8 p.keyPairId
      (p.certificateInfo ++ p.keyUsageMask.flatMap (leBytes 2))
    have hinfos := repeatParser_u8 p.certificateInfo (p.keyUsageMask.flatMap (leBytes 2))
    have husages' := @repeatParser_flatMap _ _ (flagsLe 2 keyUsageValidMask) _ id
      p.keyUsageMask [] fun usage hu tail => flagsLe_append (by decide) (husages usage hu) tail
    rw [hpair'] at hpairs
    rw [hinfo'] at hinfos
    rw [husage', List.append_nil, List.map_id] at husages'
    simp only [if_pos hmulti]
    rw [bind_of_ok hpairs, bind_of_ok hinfos, bind_of_ok husages']
    exact ⟨_, rfl, rfl, rfl, fun _ => ⟨rfl, rfl, rfl⟩⟩
  · simp only [if_neg hmulti]
    exact ⟨_, rfl, rfl, rfl, fun h => absurd h hmulti⟩

section
variable [Crypto]

theorem correct_encode
    (hc : Provisioned c hashSize) (hmask : p.slotMask = provisionedMask c)
    (hdigests : p.digests = chainDigests c) (hkeys : multiKeyDigests c = true → KeyLists c p) :
    Correct c (encodeDigestsResponse c p) := by
  have hhash : ∀ chain ∈ provisionedChains c,
      hashAll c.negotiateInfo.baseHashSel chain =
          some ((hashAll c.negotiateInfo.baseHashSel chain).getD []) ∧
        ((hashAll c.negotiateInfo.baseHashSel chain).getD []).length = hashSize := by
    intro chain hchain
    obtain ⟨digest, hsome, hlength⟩ := hc.hashed chain hchain
    rw [hsome]
    exact ⟨rfl, hlength⟩
  have hcount : p.digests.length = slotCount p.slotMask := by
    rw [hdigests, hmask, slotCount_mask, ← provisionedChains_length, chainDigests, List.length_map]
  have hlengths : ∀ digest ∈ p.digests, digest.length = hashSize := by
    rw [hdigests, chainDigests, List.forall_mem_map]
    exact fun chain hchain => (hhash chain hchain).2
  obtain ⟨q, hread, hqmask, hqdigests, hqkeys⟩ := parseDigestsResponse_body hc.hashSize_eq hcount
    hlengths (by rw [hmask, slotCount_mask]) hkeys
  refine ⟨digestsBody c p, q, encodeDigestsResponse_eq c p, hread, ?_, ?_, ?_, ?_, ?_⟩
  · intro i
    rw [hqmask, hmask]
    exact mask_testBit c i
  · rw [hqdigests, hdigests, chainDigests, List.map_map]
    exact List.map_congr_left fun chain hchain => ((hhash chain hchain).1).symm
  · intro hmulti
    rw [(hqkeys hmulti).1]
    exact (hkeys hmulti).keyPairId
  · intro hmulti
    rw [(hqkeys hmulti).2.1]
    exact (hkeys hmulti).certificateInfo
  · intro hmulti
    rw [(hqkeys hmulti).2.2]
    exact (hkeys hmulti).keyUsageMask

theorem digestsPayload_ok (hc : Provisioned c hashSize)
    {ε : Type} (s : SpdmContext) :
    ∃ p, (digestsPayload c hashSize : Prog SpdmContext ε _) s = .ok p s ∧
      p.slotMask = provisionedMask c ∧
      p.digests = (provisionedChains c).map (fun _ => List.replicate hashSize 0xff) ∧
      (multiKeyDigests c = true → KeyLists c p) := by
  have hfillers : ((provisionedSlots c).map fun _ => List.replicate hashSize (0xff : UInt8)) =
      (provisionedChains c).map fun _ => List.replicate hashSize 0xff := by
    rw [List.map_const', List.map_const', provisionedChains_length]
  unfold digestsPayload
  by_cases hmulti : multiKeyDigests c = true
  · have hkeys := hc.keys hmulti
    obtain ⟨pairs, hpairs, hpairs'⟩ := mapM_eq_some (fun i => c.provisionInfo.localKeyPairId.get i)
      (provisionedSlots c) fun i hi => (hkeys i hi).1
    obtain ⟨infos, hinfos, hinfos'⟩ := mapM_eq_some (fun i => c.provisionInfo.localCertInfo.get i)
      (provisionedSlots c) fun i hi => (hkeys i hi).2.1
    obtain ⟨usages, husages, husages'⟩ := mapM_eq_some
      (fun i => c.provisionInfo.localKeyUsageBitMask.get i) (provisionedSlots c) fun i hi => by
        obtain ⟨usage, husage, -⟩ := (hkeys i hi).2.2
        rw [husage]
        rfl
    have hknown : ∀ usage ∈ usages, usage &&& keyUsageValidMask = usage := by
      intro usage hu
      have hmem : some usage ∈ usages.map some := List.mem_map_of_mem hu
      rw [husages', List.mem_map] at hmem
      obtain ⟨i, hi, hentry⟩ := hmem
      obtain ⟨usage', husage', hmask⟩ := (hkeys i hi).2.2
      rw [husage'] at hentry
      cases hentry
      exact hmask
    simp only [if_pos hmulti, slotEntries]
    rw [hpairs, hinfos, husages]
    exact ⟨_, rfl, rfl, hfillers, fun _ => ⟨hpairs', hinfos', husages', hknown⟩⟩
  · simp only [if_neg hmulti]
    exact ⟨_, rfl, rfl, hfillers, fun h => absurd h hmulti⟩

/-! ## §4. The responder. -/

structure SameOwn (c c' : SpdmContext) : Prop where
  build : c'.build = c.build
  spdmVersionSel : c'.negotiateInfo.spdmVersionSel = c.negotiateInfo.spdmVersionSel
  baseHashSel : c'.negotiateInfo.baseHashSel = c.negotiateInfo.baseHashSel
  multiKeyConnRsp : c'.negotiateInfo.multiKeyConnRsp = c.negotiateInfo.multiKeyConnRsp
  provisionInfo : c'.provisionInfo = c.provisionInfo

instance : MildRel (fun _ => True) SameOwn where
  refl _ := ⟨rfl, rfl, rfl, rfl, rfl⟩
  trans h h' := ⟨h'.build.trans h.build, h'.spdmVersionSel.trans h.spdmVersionSel,
    h'.baseHashSel.trans h.baseHashSel, h'.multiKeyConnRsp.trans h.multiKeyConnRsp,
    h'.provisionInfo.trans h.provisionInfo⟩
  silent h := ⟨h.build, by rw [h.negotiateInfo], by rw [h.negotiateInfo], by rw [h.negotiateInfo],
    h.provisionInfo⟩
  note _ _ _ := ⟨rfl, rfl, rfl, rfl, rfl⟩

namespace SameOwn
variable {c c' : SpdmContext} (h : SameOwn c c')
include h

section
omit [Crypto]

theorem multiKeyDigests : Spdm.multiKeyDigests c' = Spdm.multiKeyDigests c := by
  unfold Spdm.multiKeyDigests
  rw [h.spdmVersionSel, h.multiKeyConnRsp]

theorem slots : provisionedSlots c' = provisionedSlots c := by
  unfold provisionedSlots
  rw [h.provisionInfo]

theorem chains : provisionedChains c' = provisionedChains c := by
  unfold provisionedChains
  rw [h.provisionInfo]

theorem hashSize? : c'.hashSize? = c.hashSize? := by
  unfold SpdmContext.hashSize?
  rw [h.baseHashSel]

end

theorem provisioned (hc : Provisioned c hashSize) : Provisioned c' hashSize := by
  refine ⟨by rw [h.hashSize?, hc.hashSize_eq], ?_, ?_⟩
  · rw [h.chains, h.baseHashSel]
    exact hc.hashed
  · rw [h.multiKeyDigests, h.slots, h.provisionInfo]
    exact hc.keys

theorem correct (hm : Correct c' message) : Correct c message := by
  obtain ⟨rest, p, hmessage, hread, hslots, hdigests, hpair, hinfo, husage⟩ := hm
  have hparser : parseDigestsResponse c' = parseDigestsResponse c := by
    unfold parseDigestsResponse parseDigest
    rw [h.hashSize?, h.multiKeyDigests, h.spdmVersionSel]
  rw [h.spdmVersionSel] at hmessage
  rw [hparser] at hread
  rw [h.provisionInfo] at hslots
  rw [h.chains, h.baseHashSel] at hdigests
  rw [h.multiKeyDigests, h.slots, h.provisionInfo] at hpair hinfo husage
  exact ⟨rest, p, hmessage, hread, hslots, hdigests, hpair, hinfo, husage⟩

end SameOwn

theorem fillDigests_eq {hashSel : Flags} (chains : List Bytes)
    (hchains : ∀ chain ∈ chains, ∃ digest, hashAll hashSel chain = some digest ∧
      digest.length = hashSize) (before after : Bytes) (c : SpdmContext) :
    Responder.fillDigests hashSel chains before.length
        (before ++ ((chains.map fun _ => List.replicate hashSize 0xff).flatten ++ after)) c =
      .ok (before ++ ((chains.map fun chain => (hashAll hashSel chain).getD []).flatten ++ after))
        c := by
  induction chains generalizing before with
  | nil => rfl
  | cons chain chains ih =>
    obtain ⟨⟨digest, hdigest, hlength⟩, hchains⟩ := List.forall_mem_cons.1 hchains
    subst hlength
    -- the copy replaces the first placeholder and moves the offset behind it
    have hcopy : (before ++ (((chain :: chains).map fun _ =>
          List.replicate digest.length (0xff)).flatten ++ after)).take before.length ++ digest ++
        (before ++ (((chain :: chains).map fun _ =>
          List.replicate digest.length (0xff)).flatten ++ after)).drop
            (before.length + digest.length) =
        (before ++ digest) ++ ((chains.map fun _ =>
          List.replicate digest.length (0xff)).flatten ++ after) := by
      simp [List.drop_append]
    have hstep := ih hchains (before ++ digest)
    rw [List.length_append] at hstep
    unfold Responder.fillDigests
    rw [hdigest]
    dsimp only
    rw [bind_of_ok (assert_of (decide_eq_true (by simp; omega))), hcopy, hstep]
    simp [hdigest]

omit [Crypto] in
theorem respond_eq_ok {m response : Bytes} :
    Responder.respond m c = .ok response c' ↔
      m = response ∧ c = c' ∧ m.length ≤ c.build.config.maxSpdmMsgSize := by
  unfold Responder.respond
  rw [read_bind]
  by_cases hfits : m.length ≤ c.build.config.maxSpdmMsgSize
  · rw [Responder.demand, decide_eq_true hfits, if_pos rfl, ret_bind]
    simp [hfits]
  · rw [decide_eq_false hfits]
    constructor
    · intro h
      cases h
    · rintro ⟨-, -, hle⟩
      exact absurd hle hfits

theorem fillDigests_encode (hc : Provisioned c hashSize)
    (hp : p.digests = (provisionedChains c).map fun _ => List.replicate hashSize 0xff)
    (s : SpdmContext) :
    Responder.fillDigests c.negotiateInfo.baseHashSel (provisionedChains c) 4
        (encodeDigestsResponse c p) s =
      .ok (encodeDigestsResponse c { p with digests := chainDigests c }) s := by
  have hfill := fillDigests_eq (provisionedChains c) hc.hashed (digestsHead c p) (digestsTail c p) s
  rw [← hp] at hfill
  rw [encodeDigestsResponse_split, encodeDigestsResponse_split]
  exact hfill

theorem correct_of_handleSpdmDigest
    (hc : Provisioned c hashSize) {bytes response : Bytes} {sessionId : Option Nat}
    (h : Responder.handleSpdmDigest bytes sessionId c = .ok response c') : Correct c response := by
  obtain ⟨⟨own, _⟩, c₅, hresponse, h₆⟩ := bind_eq_ok.1 h
  obtain ⟨_, c₁, hdemand, h₁⟩ := bind_eq_ok.1 hresponse
  obtain ⟨rest, c₂, hheader, h₂⟩ := bind_eq_ok.1 h₁
  rw [update_bind] at h₂
  obtain ⟨⟨_, left⟩, c₃, hpayload, h₃⟩ := bind_eq_ok.1 h₂
  obtain ⟨_, c₄, happend, h₄⟩ := bind_eq_ok.1 h₃
  -- up to here only the transcripts have changed
  have hsame : SameOwn c c₄ := by
    have hdemand' : SameOwn c c₁ := Responder.within_demandNegotiated.of_ok hdemand
    have hheader' : SameOwn c₁ c₂ := Responder.within_readHeader.of_ok hheader
    have hreset : SameOwn c₂ (resetBufferViaRequestCode spdmRequestGetDigests sessionId c₂) :=
      mild_resetBuffer (fun _ _ => trivial) c₂
    have hpayload' : SameOwn _ c₃ := (Responder.within_readPayload _ _ _).of_ok hpayload
    have happend' : SameOwn c₃ c₄ := Responder.within_appendB.of_ok happend
    exact StepRel.trans hdemand' (StepRel.trans hheader' (StepRel.trans hreset
      (StepRel.trans hpayload' happend')))
  have hc' := hsame.provisioned hc
  rw [read_bind] at h₄
  obtain ⟨size, _, hsize, h₅⟩ := bind_eq_ok.1 h₄
  obtain ⟨hsome, rfl⟩ := orAbort_eq_ok.1 hsize
  obtain rfl : size = hashSize := Option.some.inj (hsome.symm.trans hc'.hashSize_eq)
  obtain ⟨p, hp, hmask, hfillers, hkeys⟩ := digestsPayload_ok hc' c₄
  rw [bind_of_ok hp] at h₅
  obtain ⟨_, c₅', hrespond, hret⟩ := bind_eq_ok.1 h₅
  obtain ⟨rfl, rfl, -⟩ := respond_eq_ok.1 hrespond
  cases hret
  dsimp only at h₆
  rw [bind_of_ok (fillDigests_encode hc' hfillers own)] at h₆
  obtain ⟨_, c₆, -, hret⟩ := bind_eq_ok.1 h₆
  obtain ⟨rfl, rfl⟩ := ret_eq_ok.1 hret
  refine hsame.correct (correct_encode hc' hmask rfl fun hmulti => ?_)
  obtain ⟨hpair, hinfo, husage, husages⟩ := hkeys hmulti
  exact ⟨hpair, hinfo, husage, husages⟩

def digestsSize (c : SpdmContext) (hashSize : Nat) : Nat :=
  4 + (provisionedChains c).length * hashSize +
    if multiKeyDigests c then 4 * (provisionedChains c).length else 0

section
omit [Crypto]

theorem digestsTail_length
    (hkeys : multiKeyDigests c = true → KeyLists c p) :
    (digestsTail c p).length =
      if multiKeyDigests c then 4 * (provisionedChains c).length else 0 := by
  unfold digestsTail
  by_cases hmulti : multiKeyDigests c = true
  · obtain ⟨hpair, hinfo, husage, -⟩ := hkeys hmulti
    have hpair' := length_of_map hpair
    have hinfo' := length_of_map hinfo
    have husage' := length_of_map husage
    have hflat : (p.keyUsageMask.flatMap (leBytes 2)).length = p.keyUsageMask.length * 2 := by
      simp [List.length_flatMap]
    rw [if_pos hmulti, if_pos hmulti, List.length_append, List.length_append,
      provisionedChains_length]
    omega
  · rw [if_neg hmulti, if_neg hmulti]
    rfl

theorem encodeDigestsResponse_length
    (hp : p.digests = (provisionedChains c).map fun _ => List.replicate hashSize 0xff)
    (hkeys : multiKeyDigests c = true → KeyLists c p) :
    (encodeDigestsResponse c p).length = digestsSize c hashSize := by
  have hflat : p.digests.flatten.length = (provisionedChains c).length * hashSize := by
    rw [hp]
    simp
  rw [encodeDigestsResponse_split, List.length_append, List.length_append, digestsHead_length,
    digestsTail_length hkeys, digestsSize]
  omega

theorem SameOwn.digestsSize (h : SameOwn c c') (hashSize : Nat) :
    digestsSize c' hashSize = Digests.digestsSize c hashSize := by
  unfold Digests.digestsSize
  rw [h.chains, h.multiKeyDigests]

end

theorem handleSpdmDigest_answers (hc : Provisioned c hashSize)
    (hstate : c.runtimeInfo.connectionState.before .negotiated = false)
    (hfits : digestsSize c hashSize ≤ c.build.config.maxSpdmMsgSize) (id : Nat) :
    ∃ response c', Responder.handleSpdmDigest (encodeGetDigests c.negotiateInfo.spdmVersionSel)
      (some id) c = .ok response c' := by
  have hdemand : Responder.demandNegotiated c = .ok () c := by
    unfold Responder.demandNegotiated
    rw [read_bind, hstate]
    rfl
  have hheader : Responder.readHeader (encodeGetDigests c.negotiateInfo.spdmVersionSel)
      .invalidMsgField c = .ok [0, 0] c := by
    have hparse : parseHeader (encodeGetDigests c.negotiateInfo.spdmVersionSel) =
        .ok ⟨c.negotiateInfo.spdmVersionSel, spdmRequestGetDigests⟩ [0, 0] :=
      parseHeader_encodeHeader _ _ [0, 0]
    unfold Responder.readHeader
    rw [read_bind, bind_of_ok (parseRest_of_ok hparse)]
    show ((Responder.demand (c.negotiateInfo.spdmVersionSel == c.negotiateInfo.spdmVersionSel)
      _ _ >>= _)) c = _
    rw [beq_self_eq_true]
    rfl
  have hsame : SameOwn c (resetBufferViaRequestCode spdmRequestGetDigests (some id) c) :=
    mild_resetBuffer (fun _ _ => trivial) c
  have hc' := hsame.provisioned hc
  generalize hreset : resetBufferViaRequestCode spdmRequestGetDigests (some id) c = c₁ at hsame hc'
  obtain ⟨p, hp, hmask, hfillers, hkeys⟩ := digestsPayload_ok hc' c₁
  have hlength := encodeDigestsResponse_length hfillers hkeys
  rw [hsame.digestsSize] at hlength
  have hrespond := (respond_eq_ok).2 ⟨rfl, rfl, by
    rw [hlength, hsame.build]
    exact hfits⟩
  have hpayload : Responder.readPayload parseGetDigests [0, 0] .invalidMsgField c₁ =
      .ok ((), []) c₁ := rfl
  have hresponse : Responder.digestsResponse (encodeGetDigests c.negotiateInfo.spdmVersionSel)
      (some id) c = .ok (c₁, encodeDigestsResponse c₁ p) c₁ := by
    unfold Responder.digestsResponse
    rw [bind_of_ok hdemand, bind_of_ok hheader, update_bind, hreset, bind_of_ok hpayload]
    show ((Responder.appendB (some id) _ >>= _)) c₁ = _
    rw [Responder.appendB, ret_bind, read_bind, bind_of_ok (orAbort_eq_ok.2 ⟨hc'.hashSize_eq, rfl⟩),
      bind_of_ok hp, bind_of_ok hrespond]
    rfl
  refine ⟨encodeDigestsResponse c₁ { p with digests := chainDigests c₁ }, c₁, ?_⟩
  unfold Responder.handleSpdmDigest
  rw [bind_of_ok hresponse]
  dsimp only
  rw [bind_of_ok (fillDigests_encode hc' hfillers c₁)]
  rfl

/-! ## §5. The requester. -/

theorem fillEncapDigests_eq {hashSel : Flags} {chains : List Bytes}
    (hchains : ∀ chain ∈ chains, ∃ digest, hashAll hashSel chain = some digest ∧
      digest.length = hashSize) (hroom : hashSize ≤ message.length)
    (c : SpdmContext) :
    Requester.fillEncapDigests hashSel chains message c =
      .ok (match chains.getLast? with
        | none => message
        | some chain => message.take (message.length - hashSize) ++ (hashAll hashSel chain).getD [])
        c := by
  induction chains generalizing message with
  | nil => rfl
  | cons chain chains ih =>
    obtain ⟨⟨digest, hdigest, hlength⟩, hchains⟩ := List.forall_mem_cons.1 hchains
    have hcopied : (message.take (message.length - hashSize) ++ digest).length =
      message.length := by
      simp only [List.length_append, List.length_take]
      omega
    unfold Requester.fillEncapDigests
    rw [hdigest, bind_of_ok (orAbort_eq_ok.2 ⟨rfl, rfl⟩),
      bind_of_ok (assert_of (decide_eq_true (by omega))), hlength,
      ih hchains (by rw [hcopied]; exact hroom), hcopied]
    cases hlast : chains.getLast? with
    | none =>
      rw [List.getLast?_eq_none_iff.1 hlast]
      simp [hdigest]
    | some last =>
      have hcons : (chain :: chains).getLast? = some last := by
        rw [List.getLast?_cons, hlast]
        rfl
      rw [hcons]
      rw [List.take_append_of_le_length (by simp), List.take_take, Nat.min_self]

def endCopied (c : SpdmContext) (hashSize : Nat) (message : Bytes) : Bytes :=
  match (provisionedChains c).getLast? with
  | none => message
  | some chain => message.take (message.length - hashSize) ++
      (hashAll c.negotiateInfo.baseHashSel chain).getD []

structure AsksDigests (c : SpdmContext) (request : Bytes) : Prop where
  certCap : contains c.negotiateInfo.reqCapabilitiesSel SpdmRequestCapabilityFlags.certCap = true
  bytes : ∃ param1 param2 rest, request =
    encodeHeader c.negotiateInfo.spdmVersionSel spdmRequestGetDigests ++ param1 :: param2 :: rest

theorem encapHandleGetDigest_eq (hc : Provisioned c hashSize)
    {header request : Bytes} (hasks : AsksDigests c request)
    (hfits : header.length + digestsSize c hashSize ≤ c.build.config.maxSpdmMsgSize) :
    ∃ p, p.slotMask = provisionedMask c ∧
      p.digests = (provisionedChains c).map (fun _ => List.replicate hashSize 0xff) ∧
      (multiKeyDigests c = true → KeyLists c p) ∧
      Requester.encapHandleGetDigest header request c =
        .ok (header ++ endCopied c hashSize (encodeDigestsResponse c p)) c := by
  obtain ⟨hcap, param1, param2, rest, rfl⟩ := hasks
  obtain ⟨p, hp, hmask, hfillers, hkeys⟩ := digestsPayload_ok hc c
  have hlength := encodeDigestsResponse_length hfillers hkeys
  refine ⟨p, hmask, hfillers, hkeys, ?_⟩
  have hroom : (header ++ encodeDigestsResponse c p).length ≤ c.build.config.maxSpdmMsgSize := by
    rw [List.length_append, hlength]
    exact hfits
  have hheader := parseHeader_encodeHeader c.negotiateInfo.spdmVersionSel spdmRequestGetDigests
    (param1 :: param2 :: rest)
  have hpayload : (parse parseGetDigests (param1 :: param2 :: rest) :
      SpdmResult _) c = .ok (some ()) c :=
    parse_of_ok (@skipBytes_append 2 [param1, param2] _ rfl)
  -- the copies leave the header alone
  have hfill : Requester.fillEncapDigests c.negotiateInfo.baseHashSel (provisionedChains c)
      (header ++ encodeDigestsResponse c p) c =
      .ok (header ++ endCopied c hashSize (encodeDigestsResponse c p)) c := by
    cases hchains : provisionedChains c with
    | nil =>
      rw [endCopied, hchains]
      rfl
    | cons chain chains =>
      have hsize : hashSize ≤ (encodeDigestsResponse c p).length := by
        rw [hlength, digestsSize, hchains, List.length_cons, Nat.add_mul]
        omega
      rw [fillEncapDigests_eq (hchains ▸ hc.hashed) (by rw [List.length_append]; omega), endCopied,
        hchains, List.getLast?_eq_some_getLast (List.cons_ne_nil _ _)]
      simp only
      rw [List.length_append, Nat.add_sub_assoc hsize, List.take_length_add_append,
        List.append_assoc]
  unfold Requester.encapHandleGetDigest
  rw [read_bind]
  simp only [hcap, Bool.not_true, Bool.false_eq_true, if_false]
  rw [bind_of_ok (parseRest_of_ok hheader)]
  simp only [ne_eq, not_true_eq_false, if_false]
  rw [bind_of_ok hpayload]
  simp only
  rw [bind_of_ok (orAbort_eq_ok.2 ⟨hc.hashSize_eq, rfl⟩), bind_of_ok hp, if_pos hroom, hfill]

omit [Crypto] in
theorem repeatParser_digest_eq_ok {n : Nat} {bs rest : Bytes} {ds : List Bytes}
    (h : repeatParser n (parseDigest c) bs = .ok ds rest) : bs = ds.flatten ++ rest := by
  induction n generalizing bs ds with
  | zero =>
    obtain ⟨rfl, rfl⟩ := ret_eq_ok.1 h
    rfl
  | succ n ih =>
    obtain ⟨d, mid, hd, h₁⟩ := bind_eq_ok.1 h
    obtain ⟨ds', rest', hds, hret⟩ := bind_eq_ok.1 h₁
    obtain ⟨rfl, rfl⟩ := ret_eq_ok.1 hret
    obtain ⟨size, _, hsize, htake⟩ := bind_eq_ok.1 hd
    obtain ⟨-, rfl⟩ := orAbort_eq_ok.1 hsize
    obtain ⟨-, rfl⟩ := takeBytes_eq_ok htake
    rw [ih hds, List.flatten_cons, List.append_assoc]

theorem Correct.first {chain : Bytes} {chains : List Bytes}
    (h : Correct c message) (hchains : provisionedChains c = chain :: chains) :
    ∃ digest tail, hashAll c.negotiateInfo.baseHashSel chain = some digest ∧
      message.drop 4 = digest ++ tail := by
  obtain ⟨rest, q, rfl, hread, hsays⟩ := h
  obtain ⟨a, bs₁, ha, h₁⟩ := bind_eq_ok.1 hread
  obtain rfl := u8_eq_ok ha
  obtain ⟨m, bs₂, hm, h₂⟩ := bind_eq_ok.1 h₁
  obtain rfl := u8_eq_ok hm
  obtain ⟨ds, bs₃, hds, h₃⟩ := bind_eq_ok.1 h₂
  obtain rfl := repeatParser_digest_eq_ok hds
  have hq : q.digests = ds := by
    split at h₃
    · obtain ⟨_, _, -, h₄⟩ := bind_eq_ok.1 h₃
      obtain ⟨_, _, -, h₅⟩ := bind_eq_ok.1 h₄
      obtain ⟨_, _, -, hret⟩ := bind_eq_ok.1 h₅
      obtain ⟨rfl, -⟩ := ret_eq_ok.1 hret
      rfl
    · obtain ⟨rfl, -⟩ := ret_eq_ok.1 h₃
      rfl
  have hdigests := hsays.digests
  rw [hq, hchains] at hdigests
  obtain ⟨digest, ds', rfl, hdigest, -⟩ := List.map_eq_cons_iff.1 hdigests
  refine ⟨digest, ds'.flatten ++ bs₃, hdigest.symm, ?_⟩
  simp [encodeHeader]

/-- The last bytes of the message are the only placeholder: there is none,
or one with nothing behind it. -/
def EndsMessage (c : SpdmContext) : Prop :=
  provisionedChains c = [] ∨ (provisionedChains c).length = 1 ∧ multiKeyDigests c = false

omit [Crypto] in
theorem eq_replicate_of_shift {k : Nat} {x : UInt8} {d : Bytes} (hk : 0 < k)
    (h : d = (List.replicate k x ++ d).take d.length) : d = List.replicate d.length x := by
  refine List.eq_replicate_iff.2 ⟨rfl, ?_⟩
  have hget : ∀ (i : Nat) (hi : i < d.length), d[i] = x := by
    intro i
    induction i using Nat.strong_induction_on with
    | _ i ih =>
      intro hi
      have hshift : d[i]? = (List.replicate k x ++ d)[i]? := by
        conv_lhs => rw [h]
        rw [List.getElem?_take, if_pos hi]
      rw [List.getElem?_append, List.length_replicate, List.getElem?_eq_getElem hi] at hshift
      by_cases hik : i < k
      · rw [if_pos hik, List.getElem?_replicate, if_pos hik] at hshift
        exact Option.some.inj hshift
      · rw [if_neg hik, List.getElem?_eq_getElem (by omega)] at hshift
        rw [Option.some.inj hshift]
        exact ih (i - k) (by omega) (by omega)
  intro b hb
  obtain ⟨i, hi, rfl⟩ := List.getElem_of_mem hb
  exact hget i hi

theorem not_correct_endCopied (hc : Provisioned c hashSize)
    (hfillers : p.digests = (provisionedChains c).map fun _ => List.replicate hashSize 0xff)
    (hkeys : multiKeyDigests c = true → KeyLists c p)
    (hplain : ∀ chain ∈ provisionedChains c,
      hashAll c.negotiateInfo.baseHashSel chain ≠ some (List.replicate hashSize 0xff))
    (hends : ¬ EndsMessage c) :
    ¬ Correct c (endCopied c hashSize (encodeDigestsResponse c p)) := by
  intro hcorrect
  cases hchains : provisionedChains c with
  | nil => exact hends (Or.inl hchains)
  | cons chain chains =>
    have hmem : chain ∈ provisionedChains c := by
      rw [hchains]
      exact List.mem_cons_self
    obtain ⟨digest, hdigest, hsize⟩ := hc.hashed chain hmem
    obtain ⟨digest', tail, hdigest', hdrop⟩ := hcorrect.first hchains
    obtain rfl : digest = digest' := Option.some.inj (hdigest.symm.trans hdigest')
    -- `more` is what stands behind the first placeholder
    let more := (chains.map fun _ => List.replicate hashSize (0xff)).flatten ++ digestsTail c p
    have hmessage : encodeDigestsResponse c p =
        digestsHead c p ++ (List.replicate hashSize 0xff ++ more) := by
      rw [encodeDigestsResponse_split, hfillers, hchains, List.map_cons, List.flatten_cons,
        List.append_assoc]
    have hcut : (digestsHead c p ++ (List.replicate hashSize (0xff) ++ more)).length -
        hashSize = (digestsHead c p).length + more.length := by
      rw [List.length_append, List.length_append, List.length_replicate]
      omega
    have hmore : more.length = chains.length * hashSize + (digestsTail c p).length := by simp [more]
    obtain ⟨last, hlast⟩ : ∃ last, (chain :: chains).getLast? = some last :=
      ⟨_, List.getLast?_eq_some_getLast (List.cons_ne_nil _ _)⟩
    have hread : digest ++ tail = (List.replicate hashSize 0xff ++ more).take more.length ++
        (hashAll c.negotiateInfo.baseHashSel last).getD [] := by
      rw [← hdrop, endCopied, hchains, hlast, hmessage]
      simp only
      rw [hcut, List.take_length_add_append]
      exact List.drop_left' (digestsHead_length c p)
    refine hplain chain hmem ?_
    by_cases hlong : hashSize ≤ more.length
    · -- the whole placeholder is left
      rw [List.take_append, List.take_of_length_le (by simpa using hlong),
        List.append_assoc] at hread
      rw [hdigest, (List.append_inj hread (by simp [hsize])).1]
    · -- one slot with keys: the digest is shifted by their size
      have hnil : chains = [] := by
        cases chains with
        | nil => rfl
        | cons x xs =>
          rw [List.length_cons, Nat.add_mul] at hmore
          omega
      subst hnil
      obtain rfl : chain = last := by simpa using hlast
      have hpos : 0 < more.length := by
        have hmulti : multiKeyDigests c = true := by
          by_contra hsingle
          exact hends (Or.inr ⟨by rw [hchains]; rfl, by simpa using hsingle⟩)
        have htail := digestsTail_length hkeys
        rw [if_pos hmulti, hchains] at htail
        simp only [List.length_singleton] at htail
        omega
      rw [List.take_append_of_le_length (by simp; omega), List.take_replicate,
        Nat.min_eq_left (by omega), hdigest] at hread
      have hshift : digest = (List.replicate more.length 0xff ++ digest).take digest.length := by
        have htake := congrArg (List.take digest.length) hread
        rwa [List.take_left] at htake
      rw [hdigest, eq_replicate_of_shift hpos hshift, hsize]

theorem correct_endCopied_iff (hc : Provisioned c hashSize) (hmask : p.slotMask = provisionedMask c)
    (hfillers : p.digests = (provisionedChains c).map fun _ => List.replicate hashSize 0xff)
    (hkeys : multiKeyDigests c = true → KeyLists c p)
    (hplain : ∀ chain ∈ provisionedChains c,
      hashAll c.negotiateInfo.baseHashSel chain ≠ some (List.replicate hashSize 0xff)) :
    Correct c (endCopied c hashSize (encodeDigestsResponse c p)) ↔ EndsMessage c := by
  constructor
  · intro hcorrect
    by_contra hends
    exact not_correct_endCopied hc hfillers hkeys hplain hends hcorrect
  · intro hends
    -- both cases: what was copied is the whole list of digests
    have hcopied : endCopied c hashSize (encodeDigestsResponse c p) =
        encodeDigestsResponse c { p with digests := chainDigests c } := by
      rcases hends with hnone | ⟨hone, hsingle⟩
      · rw [endCopied, chainDigests, hnone]
        rw [hnone] at hfillers
        rw [encodeDigestsResponse_split, encodeDigestsResponse_split, hfillers]
        rfl
      · obtain ⟨chain, hchain⟩ := List.length_eq_one_iff.1 hone
        have htail : ∀ q, digestsTail c q = [] := by
          intro q
          rw [digestsTail, hsingle]
          rfl
        rw [endCopied, chainDigests, hchain]
        rw [hchain] at hfillers
        have hone' : encodeDigestsResponse c p =
            digestsHead c p ++ List.replicate hashSize 0xff := by
          rw [encodeDigestsResponse_split, htail, hfillers]
          simp
        rw [hone', encodeDigestsResponse_split, htail]
        show List.take ((digestsHead c p ++ List.replicate hashSize 0xff).length - hashSize)
          (digestsHead c p ++ List.replicate hashSize 0xff) ++ _ = digestsHead c p ++ _
        simp
    rw [hcopied]
    refine correct_encode hc hmask rfl fun hmulti => ?_
    obtain ⟨hpair, hinfo, husage, husages⟩ := hkeys hmulti
    exact ⟨hpair, hinfo, husage, husages⟩

/-- **DIGESTS.**  The responder always sends the digests and keys of its
slots.  The requester, asked the same in an encapsulated request, does so
exactly when it has no slot, or one slot and no key information to send. -/
theorem digests_content {c : SpdmContext} {hashSize : Nat} (hc : Provisioned c hashSize)
    (hplain : ∀ chain ∈ provisionedChains c,
      hashAll c.negotiateInfo.baseHashSel chain ≠ some (List.replicate hashSize 0xff)) :
    (∀ bytes sessionId response c', Responder.handleSpdmDigest bytes sessionId c = .ok response c' →
      Correct c response) ∧
    (c.runtimeInfo.connectionState.before .negotiated = false →
      digestsSize c hashSize ≤ c.build.config.maxSpdmMsgSize → ∀ id, ∃ response c',
        Responder.handleSpdmDigest (encodeGetDigests c.negotiateInfo.spdmVersionSel) (some id) c =
          .ok response c' ∧ Correct c response) ∧
    (∀ header request, AsksDigests c request →
      header.length + digestsSize c hashSize ≤ c.build.config.maxSpdmMsgSize → ∃ message,
        Requester.encapHandleGetDigest header request c = .ok (header ++ message) c ∧
        (Correct c message ↔ EndsMessage c)) := by
  refine ⟨?_, ?_, ?_⟩
  · intro bytes sessionId response c' h
    exact correct_of_handleSpdmDigest hc h
  · intro hstate hfits id
    obtain ⟨response, c', h⟩ := handleSpdmDigest_answers hc hstate hfits id
    exact ⟨response, c', h, correct_of_handleSpdmDigest hc h⟩
  · intro header request hasks hfits
    obtain ⟨p, hmask, hfillers, hkeys, h⟩ := encapHandleGetDigest_eq hc hasks hfits
    exact ⟨_, h, correct_endCopied_iff hc hmask hfillers hkeys hplain⟩

end

end Digests

namespace SmallBackend

open Digests SpdmRequestResponseCode

def withChains (chains : List Bytes) : SpdmContext :=
  { smallContext {} [] with
    negotiateInfo := { spdmVersionSel := .spdmVersion12
                       baseHashSel := SpdmBaseHashAlgo.tpmAlgSha256
                       reqCapabilitiesSel := SpdmRequestCapabilityFlags.certCap }
    runtimeInfo := { connectionState := .negotiated }
    provisionInfo := { myCertChain := Vector.ofFn fun i => chains[i.val]? } }

def smallGetDigests : Bytes := encodeGetDigests .spdmVersion12

theorem provisioned_withChains (chains : List Bytes) : Provisioned (withChains chains) 32 where
  hashSize_eq := rfl
  hashed _ _ := ⟨smallHash, rfl, rfl⟩
  keys h := by cases h

theorem digests_content_small :
    (∀ chains ∈ [[[1]], [[1], [2]]], ∃ response c',
      Responder.handleSpdmDigest smallGetDigests (some 1) (withChains chains) = .ok response c' ∧
        Correct (withChains chains) response) ∧
    ∃ message, Requester.encapHandleGetDigest [0] smallGetDigests (withChains [[1]]) =
      .ok ([0] ++ message) (withChains [[1]]) ∧ Correct (withChains [[1]]) message := by
  have hplain : ∀ chains ∈ [[[1]], [[1], [2]]], ∀ chain ∈ provisionedChains (withChains chains),
      hashAll (withChains chains).negotiateInfo.baseHashSel chain ≠
        some (List.replicate 32 0xff) := by decide
  have hfits : ∀ chains ∈ [[[1]], [[1], [2]]],
      digestsSize (withChains chains) 32 ≤
        (withChains chains).build.config.maxSpdmMsgSize := by decide
  refine ⟨fun chains h => (digests_content (provisioned_withChains chains)
    (hplain chains h)).2.1 rfl
    (hfits chains h) 1, ?_⟩
  obtain ⟨message, hanswer, hcorrect⟩ := (digests_content (provisioned_withChains [[1]])
    (hplain _ (by simp))).2.2 [0] smallGetDigests ⟨by decide, 0, 0, [], rfl⟩ (by decide)
  exact ⟨message, hanswer, hcorrect.2 (Or.inr ⟨by decide, rfl⟩)⟩

theorem second_slot_lost :
    Requester.encapHandleGetDigest [] smallGetDigests (withChains [[1], [2]]) =
        .ok (encodeHeader .spdmVersion12 spdmResponseDigests ++
          [0, 3] ++ List.replicate 32 0xff ++ smallHash) (withChains [[1], [2]]) ∧
      ¬ Correct (withChains [[1], [2]]) (encodeHeader .spdmVersion12 spdmResponseDigests ++
          [0, 3] ++ List.replicate 32 0xff ++ smallHash) := by
  refine ⟨rfl, ?_⟩
  intro hcorrect
  have hchains : provisionedChains (withChains [[1], [2]]) = [1] :: [[2]] := by decide
  obtain ⟨digest, tail, hdigest, hdrop⟩ := hcorrect.first hchains
  obtain rfl : smallHash = digest := Option.some.inj hdigest
  have hfirst : some (0xff : UInt8) = some 0 := congrArg List.head? hdrop
  exact absurd hfirst (by decide)

end SmallBackend

end Spdm
