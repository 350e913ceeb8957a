/-
  Spdm.Requester.Attested — what a successful attestation established.
-/
import Spdm.Context.Append
import Spdm.Context.Small
import Spdm.Requester.Attestation
import Spdm.Requester.Steps

namespace Spdm

open Effect Codec

variable {c c' c₁ c₂ c₀ : SpdmContext} {slotId : Nat}
    {rest signature request body response : Bytes} {sessionId : Option Nat}

namespace Requester

open SpdmContext SpdmRequestResponseCode

section
variable [Crypto] [Device]

/-! ## §1. What was verified. -/

def SignedUnder (c : SpdmContext) (purpose : SigningContext) (slotId pubKeySlotId : Nat)
    (request body signature : Bytes) : Prop :=
  ∃ der t earlier data, peerKey slotId pubKeySlotId c = .ok der c ∧
    t.bytes = earlier ++ request ++ body ∧
    signedData c.negotiateInfo.spdmVersionSel c.negotiateInfo.baseHashSel purpose t = some data ∧
    spdmAsymVerify c.negotiateInfo.baseHashSel c.negotiateInfo.baseAsymSel
      c.negotiateInfo.pqcAsymSel der data signature = .ok ()

structure SignedResponse {α : Type} (c : SpdmContext) (code : UInt8) (p : Parser α) (a : α)
    (response body signature : Bytes) : Prop where
  layout : ∃ rest, response = body ++ signature ++ rest
  body : ∃ fields, body = encodeHeader c.negotiateInfo.spdmVersionSel code ++ fields ∧
    p fields = .ok a []
  signature : c.asymSigSize? = some signature.length

omit [Crypto] [Device] in
theorem peerKey_congr (h : SameParty c c') {pubKeySlotId : Nat}
    {der : SpdmDer} {c'' : SpdmContext} (hkey : peerKey slotId pubKeySlotId c' = .ok der c'') :
    peerKey slotId pubKeySlotId c = .ok der c := by
  unfold peerKey at hkey ⊢
  rw [read_bind] at hkey ⊢
  split at hkey
  · obtain ⟨key, _, hread, hret⟩ := bind_eq_ok.1 hkey
    obtain ⟨hpub, rfl⟩ := orFail_eq_ok.1 hread
    obtain ⟨rfl, rfl⟩ := ret_eq_ok.1 hret
    rw [if_pos ‹_›, ← h.provisionInfo, hpub]
    rfl
  · obtain ⟨slot, _, hread, hkey⟩ := bind_eq_ok.1 hkey
    obtain ⟨hslot, rfl⟩ := orAbort_eq_ok.1 hread
    obtain ⟨chain, _, hread, hkey⟩ := bind_eq_ok.1 hkey
    obtain ⟨hchain, rfl⟩ := orFail_eq_ok.1 hread
    obtain ⟨size, _, hread, hkey⟩ := bind_eq_ok.1 hkey
    obtain ⟨hsize, rfl⟩ := orAbort_eq_ok.1 hread
    obtain ⟨_, _, hread, hret⟩ := bind_eq_ok.1 hkey
    obtain ⟨hlen, rfl⟩ := assert_eq_ok.1 hread
    obtain ⟨rfl, rfl⟩ := ret_eq_ok.1 hret
    subst hchain
    have hsize' : c.hashSize? = some size := by rwa [hashSize?, ← h.negotiateInfo]
    rw [h.peerInfo] at hslot
    rw [if_neg ‹_›, hslot, hsize']
    show (assert (decide (4 + size ≤ chain.length)) >>= fun _ => _) c = _
    rw [hlen]
    rfl

/-! ## §2. Reading a signed response. -/

omit [Crypto] [Device] in
theorem signedResponse_of_read {α : Type} {p : Parser α} (hp : Framed p)
    (hn : c₁.negotiateInfo = c.negotiateInfo) (code : UInt8) {mid left : Bytes}
    {a : α} (hbody : p rest = .ok a mid) (hsig : parseSignature c₁ mid = .ok signature left) :
    ∃ body, SignedResponse c code p a
        (encodeHeader c.negotiateInfo.spdmVersionSel code ++ rest) body signature ∧
      consumed (encodeHeader c.negotiateInfo.spdmVersionSel code ++ rest) left =
        body ++ signature := by
  obtain ⟨fields, rfl, hfields⟩ := hp _ _ _ hbody
  obtain ⟨size, _, hread, htake⟩ := bind_eq_ok.1 hsig
  obtain ⟨hsize, rfl⟩ := orAbort_eq_ok.1 hread
  obtain ⟨used, rfl, htail⟩ := Framed.takeBytes size _ _ _ htake
  have hused : takeBytes size (used ++ []) = .ok signature [] := htail []
  obtain ⟨rfl, hlen⟩ : used = signature ∧ used.length = size := by
    unfold takeBytes at hused
    split at hused
    · rename_i hle
      simp only [List.append_nil, Outcome.ok.injEq, List.drop_eq_nil_iff] at hused hle
      exact ⟨by rw [← hused.1, List.take_of_length_le hused.2], by omega⟩
    · cases hused
  refine ⟨encodeHeader c.negotiateInfo.spdmVersionSel code ++ fields,
    ⟨⟨left, ?_⟩, ⟨fields, rfl, ?_⟩,
    ?_⟩, ?_⟩
  · simp
  · simpa using hfields []
  · rw [hlen, ← hsize, asymSigSize?, asymSigSize?, hn]
  · rw [← List.append_assoc, ← List.append_assoc, consumed_append]

/-! ## §3. CHALLENGE. -/

theorem verifyTranscript_eq_ok {purpose : SigningContext} {der : SpdmDer}
    {t : Transcript} (h : c.verifyTranscript purpose der t signature = .ok ()) :
    ∃ data, signedData c.negotiateInfo.spdmVersionSel c.negotiateInfo.baseHashSel purpose t =
        some data ∧
      spdmAsymVerify c.negotiateInfo.baseHashSel c.negotiateInfo.baseAsymSel
        c.negotiateInfo.pqcAsymSel der data signature = .ok () := by
  unfold verifyTranscript at h
  split at h
  · cases h
  · rename_i data hdata
    exact ⟨data, hdata, h⟩

omit [Crypto] [Device] in
theorem verifyOrReset_eq_ok {m : SpdmResult Unit}
    (h : verifyOrReset m c = .ok () c') : m c = .ok () c' := by
  obtain ⟨r, c₁, hr, h⟩ := bind_eq_ok.1 h
  obtain ⟨_, hm, rfl⟩ | ⟨e, -, rfl⟩ := attempt_eq_ok.1 hr
  · obtain ⟨-, rfl⟩ := ret_eq_ok.1 h
    exact hm
  · cases h

omit [Device] in
theorem m1m2_of_appendMessageC
    (h₁ : appendMessageC request c = .ok () c₁) (h₂ : appendMessageC body c₁ = .ok () c₂)
    {t : Transcript} (ht : c₂.m1m2 = some t) : ∃ earlier, t.bytes = earlier ++ request ++ body := by
  obtain ⟨earlier, hfed₁, -⟩ := appendMessageC_ok h₁
  obtain ⟨before, hfed₂, hbefore⟩ := appendMessageC_ok h₂
  rw [hbefore _ hfed₁, m1m2Fed_of_m1m2 ht] at hfed₂
  exact ⟨earlier, Option.some.inj hfed₂⟩

theorem signedUnder_of_verifyChallengeAuthSignature {c₃ : SpdmContext} (hparty : SameParty c₀ c₂)
    (h₁ : appendMessageC request c = .ok () c₁) (h₂ : appendMessageC body c₁ = .ok () c₂)
    (h : verifyChallengeAuthSignature slotId signature c₂ = .ok () c₃) :
    SignedUnder c₀ .challengeAuth slotId pubKeySlotIdChallenge request body signature := by
  unfold verifyChallengeAuthSignature at h
  rw [read_bind] at h
  obtain ⟨t, _, hread, h⟩ := bind_eq_ok.1 h
  obtain ⟨ht, rfl⟩ := orFail_eq_ok.1 hread
  obtain ⟨der, _, hkey, h⟩ := bind_eq_ok.1 h
  obtain ⟨hverify, rfl⟩ := liftResult_eq_ok.1 h
  obtain ⟨data, hdata, hok⟩ := verifyTranscript_eq_ok hverify
  obtain ⟨earlier, hbytes⟩ := m1m2_of_appendMessageC h₁ h₂ ht
  rw [hparty.negotiateInfo] at hdata hok
  exact ⟨der, t, earlier, data, peerKey_congr hparty hkey, hbytes, hdata, hok⟩

omit [Crypto] [Device] in
theorem peerIdentity_congr {c'' : SpdmContext} (h : SameParty c c') {pubKeySlotId : Nat}
    {identity : Bytes} (hid : peerIdentity slotId pubKeySlotId c' = .ok identity c'') :
    peerIdentity slotId pubKeySlotId c = .ok identity c ∧ c' = c'' := by
  unfold peerIdentity at hid ⊢
  rw [read_bind] at hid ⊢
  split at hid
  · obtain ⟨hpub, rfl⟩ := orFail_eq_ok.1 hid
    rw [if_pos ‹_›, ← h.provisionInfo, hpub]
    exact ⟨rfl, rfl⟩
  · obtain ⟨slot, _, hread, hchain⟩ := bind_eq_ok.1 hid
    obtain ⟨hslot, rfl⟩ := orAbort_eq_ok.1 hread
    obtain ⟨rfl, rfl⟩ := orFail_eq_ok.1 hchain
    rw [h.peerInfo] at hslot
    rw [if_neg ‹_›, hslot]
    exact ⟨rfl, rfl⟩

omit [Device] in
theorem verifyChallengeAuthCertChainHash_eq_ok {hash : Bytes} (hparty : SameParty c₀ c)
    (h : verifyChallengeAuthCertChainHash slotId hash c = .ok () c') :
    c = c' ∧ ∃ identity, peerIdentity slotId pubKeySlotIdChallenge c₀ = .ok identity c₀ ∧
      hashAll c₀.negotiateInfo.baseHashSel identity = some hash := by
  unfold verifyChallengeAuthCertChainHash at h
  rw [read_bind] at h
  obtain ⟨identity, c₁, hid, h⟩ := bind_eq_ok.1 h
  obtain ⟨hid₀, rfl⟩ := peerIdentity_congr hparty hid
  obtain ⟨expected, _, hread, hguard⟩ := bind_eq_ok.1 h
  obtain ⟨hhash, rfl⟩ := orFail_eq_ok.1 hread
  obtain ⟨heq, rfl⟩ := guardElse_eq_ok.1 hguard
  refine ⟨rfl, identity, hid₀, ?_⟩
  have hsame : hash = expected := by simpa using heq
  rw [← hparty.negotiateInfo, hhash, hsame]

def ChallengeVerified (c : SpdmContext) (slotId : Nat) (t : UInt8) (request response : Bytes) :
    Prop :=
  ∃ payload body signature,
    SignedResponse c spdmResponseChallengeAuth
      (parseChallengeAuthBody (withSummaryHash t c)) payload
      response body signature ∧
    SignedUnder c .challengeAuth slotId pubKeySlotIdChallenge request body signature ∧
    ∃ identity, peerIdentity slotId pubKeySlotIdChallenge c = .ok identity c ∧
      hashAll c.negotiateInfo.baseHashSel identity = some payload.certChainHash

omit [Crypto] [Device] in
theorem parseChallengeAuthBody_congr (h : SameParty c c') (t : UInt8) :
    parseChallengeAuthBody (withSummaryHash t c') = parseChallengeAuthBody
      (withSummaryHash t c) := by
  unfold parseChallengeAuthBody parseDigest hashSize? withSummaryHash
  simp only [h.negotiateInfo]

omit [Crypto] [Device] in
theorem parseChallengeAuth_eq_ok {left : Bytes}
    {p : ChallengeAuthPayload} (h : parseChallengeAuth c rest = .ok (p, signature) left) :
    ∃ mid, parseChallengeAuthBody c rest = .ok p mid ∧
      parseSignature c mid = .ok signature left := by
  obtain ⟨_, mid, hbody, hrest⟩ := bind_eq_ok.1 h
  obtain ⟨_, _, hsig, hret⟩ := bind_eq_ok.1 hrest
  obtain ⟨heq, rfl⟩ := ret_eq_ok.1 hret
  obtain ⟨rfl, rfl⟩ := Prod.mk.inj heq
  exact ⟨mid, hbody, hsig⟩

theorem wp_handleSpdmChallengeResponse {t : UInt8} {context : Bytes} (hparty : SameParty c₀ c) :
    wp (handleSpdmChallengeResponse slotId t context request response)
      (fun _ _ => ChallengeVerified c₀ slotId t request response) (fun _ _ => True) c := by
  have hflag : SameParty c₀ (withSummaryHash t c) :=
    ⟨hparty.build, hparty.negotiateInfo, hparty.provisionInfo, hparty.peerInfo⟩
  unfold handleSpdmChallengeResponse
  refine wp_of_forall_ok fun _ c' h => ?_
  obtain ⟨rest, rfl, hk⟩ := onResponse_eq_ok h
  refine wp_ok (s := withSummaryHash t c) (Q := fun _ _ => _) (E := fun _ _ => True) ?_ hk
  rw [wp_bind]
  refine wp_bind_of_forall_ok fun ⟨⟨p, signature⟩, left⟩ c₁ hread => ?_
  obtain ⟨hparse, rfl⟩ := readResponse_eq_ok hread
  obtain ⟨mid, hbody, hsig⟩ := parseChallengeAuth_eq_ok hparse
  refine wp_bind_of_forall_ok fun _ c₂ hguard => ?_
  obtain ⟨-, rfl⟩ := guardElse_eq_ok.1 hguard
  refine wp_bind_of_forall_ok fun _ c₂ hhash => ?_
  obtain ⟨rfl, identity, hid, hdigest⟩ :=
    verifyChallengeAuthCertChainHash_eq_ok hflag (verifyOrReset_eq_ok hhash)
  refine wp_bind_of_forall_ok fun size c₂ hread => ?_
  obtain ⟨hsize, rfl⟩ := orAbort_eq_ok.1 hread
  refine wp_bind_of_forall_ok fun _ c₃ happ₁ => wp_bind_of_forall_ok fun _ c₄ happ₂ =>
    wp_bind_of_forall_ok fun _ c₅ hverify => ?_
  rw [parseChallengeAuthBody_congr hparty] at hbody
  have hversion : (withSummaryHash t c).negotiateInfo.spdmVersionSel =
      c₀.negotiateInfo.spdmVersionSel := by rw [hflag.negotiateInfo]
  rw [hversion] at happ₂ ⊢
  obtain ⟨body, hresponse, hused⟩ := signedResponse_of_read framed_parseChallengeAuthBody
    hflag.negotiateInfo spdmResponseChallengeAuth hbody hsig
  -- what is appended besides the request is the response without its signature
  have hlen : size = signature.length := by
    have := hresponse.signature
    rw [asymSigSize?, ← hflag.negotiateInfo, ← asymSigSize?, hsize] at this
    exact Option.some.inj this
  rw [hused, hlen, List.length_append, Nat.add_sub_cancel, List.take_left] at happ₂
  have hsame : SameParty c₀ c₄ := StepRel.trans (StepRel.trans hflag
    (appendMessageC_sameParty.of_ok happ₁)) (appendMessageC_sameParty.of_ok happ₂)
  exact ⟨p, body, signature, hresponse,
    signedUnder_of_verifyChallengeAuthSignature hsame happ₁ happ₂ (verifyOrReset_eq_ok hverify),
    identity, hid, hdigest⟩

/-! ## §4. GET_MEASUREMENTS. -/

def MeasurementVerified (c : SpdmContext) (slotId : Nat) (operation : UInt8)
    (request response : Bytes) (result : MeasurementResult) : Prop :=
  ∃ payload body signature,
    SignedResponse c spdmResponseMeasurements (parseMeasurementsBody c) payload
      response body signature ∧
    SignedUnder c .measurements slotId pubKeySlotIdMeasurement request body signature ∧
    result.record = payload.measurementRecord ∧
    result.totalNumber = (if operation = measurementQueryTotalNumber then
      payload.numberOfMeasurement else payload.measurementRecord.numberOfBlocks) ∧
    result.contentChanged = if c.negotiateInfo.spdmVersionSel.atLeast .spdmVersion12 then
      some payload.contentChanged else none

omit [Device] in
theorem l1l2_of_appendMessageM (h₁ : appendMessageM sessionId request c = .ok () c₁)
    (h₂ : appendMessageM sessionId body c₁ = .ok () c₂) :
    ∃ earlier, c₂.l1l2Fed sessionId = some (earlier ++ request ++ body) := by
  obtain ⟨earlier, hfed₁, -⟩ := appendMessageM_ok h₁
  obtain ⟨before, hfed₂, hbefore⟩ := appendMessageM_ok h₂
  exact ⟨earlier, by rw [hfed₂, hbefore _ hfed₁]⟩

theorem signedUnder_of_verifyMeasurementSignature
    {earlier : Bytes} (hparty : SameParty c₀ c)
    (hfed : c.l1l2Fed sessionId = some (earlier ++ request ++ body))
    (h : verifyMeasurementSignature slotId sessionId signature c = .ok () c') :
    SignedUnder c₀ .measurements slotId pubKeySlotIdMeasurement request body signature := by
  unfold verifyMeasurementSignature at h
  rw [read_bind] at h
  obtain ⟨⟨m, ctx⟩, _, hread, h₁⟩ := bind_eq_ok.1 h
  obtain ⟨hm, rfl⟩ := orFail_eq_ok.1 hread
  obtain ⟨t, c₁, ht, h₂⟩ := bind_eq_ok.1 h₁
  unfold l1l2Fed at hfed
  rw [hm] at hfed
  have hbytes : c = c₁ ∧ t.bytes = earlier ++ request ++ body := by
    split at ht
    · rename_i hb
      obtain ⟨ctx', _, hread', hret⟩ := bind_eq_ok.1 ht
      obtain ⟨rfl, rfl⟩ := orFail_eq_ok.1 hread'
      obtain ⟨rfl, rfl⟩ := ret_eq_ok.1 hret
      exact ⟨rfl, by simpa [hb, Transcript.bytes] using hfed⟩
    · rename_i hb
      obtain ⟨hraw, rfl⟩ := orFail_eq_ok.1 ht
      exact ⟨rfl, by simpa [hb, l1l2Raw_bytes hraw] using hfed⟩
  obtain ⟨rfl, hbytes⟩ := hbytes
  obtain ⟨der, _, hkey, h₃⟩ := bind_eq_ok.1 h₂
  obtain ⟨hverify, rfl⟩ := liftResult_eq_ok.1 h₃
  obtain ⟨data, hdata, hok⟩ := verifyTranscript_eq_ok hverify
  rw [hparty.negotiateInfo] at hdata hok
  exact ⟨der, t, earlier, data, peerKey_congr hparty hkey, hbytes, hdata, hok⟩

theorem settleMeasurementSignature_eq_ok
    (h : settleMeasurementSignature true slotId sessionId signature c = .ok () c') :
    ∃ c₁, verifyMeasurementSignature slotId sessionId signature c = .ok () c₁ := by
  unfold settleMeasurementSignature at h
  obtain ⟨r, c₁, hr, h₁⟩ := bind_eq_ok.1 h
  obtain ⟨_, hm, rfl⟩ | ⟨e, -, rfl⟩ := attempt_eq_ok.1 hr
  · exact ⟨c₁, hm⟩
  · cases h₁

section
omit [Crypto] [Device]

theorem parseMeasurementsBody_congr (h : SameParty c c') :
    parseMeasurementsBody c' = parseMeasurementsBody c := by
  unfold parseMeasurementsBody parseMeasurementRecord
  have hblock : parseMeasurementBlock c' = parseMeasurementBlock c := by
    unfold parseMeasurementBlock parseDmtfMeasurement
    simp only [h.build, h.negotiateInfo]
  have hblocks : ∀ n current,
      parseMeasurementBlocks c' n current = parseMeasurementBlocks c n current := by
    intro n
    induction n with
    | zero => intro _; rfl
    | succ n ih => intro _; simp only [parseMeasurementBlocks, hblock, ih]
  have hverify : verifyMeasurementRecord c' = verifyMeasurementRecord c := by
    funext n record
    simp only [verifyMeasurementRecord, hblocks]
  simp only [h.build, h.negotiateInfo, hverify]

theorem parseMeasurements_eq_ok {left : Bytes}
    {p : MeasurementsPayload} (hflag : c.runtimeInfo.needMeasurementSignature = true)
    (h : parseMeasurements c rest = .ok (p, signature) left) :
    ∃ mid, parseMeasurementsBody c rest = .ok p mid ∧
      parseSignature c mid = .ok signature left := by
  obtain ⟨_, mid, hbody, hrest⟩ := bind_eq_ok.1 h
  rw [if_pos hflag] at hrest
  obtain ⟨_, _, hsig, hret⟩ := bind_eq_ok.1 hrest
  obtain ⟨heq, rfl⟩ := ret_eq_ok.1 hret
  obtain ⟨rfl, rfl⟩ := Prod.mk.inj heq
  exact ⟨mid, hbody, hsig⟩

theorem appendCallerTranscript_state {transcript message out : Bytes}
    (h : appendCallerTranscript transcript message c = .ok out c') : c = c' := by
  unfold appendCallerTranscript at h
  exact (orFail_eq_ok.1 h).2

end

theorem wp_handleSpdmMeasurementRecordResponse
    {attributes : Flags} {operation : UInt8} {context transcript : Bytes} (hparty : SameParty c₀ c)
    (hsigned : contains attributes signatureRequested = true) :
    wp (handleSpdmMeasurementRecordResponse sessionId slotId attributes operation context transcript
        request response)
      (fun result _ => MeasurementVerified c₀ slotId operation request response result)
      (fun _ _ => True) c := by
  have hflag : SameParty c₀ (withMeasurementSignature true c) :=
    ⟨hparty.build, hparty.negotiateInfo, hparty.provisionInfo, hparty.peerInfo⟩
  unfold handleSpdmMeasurementRecordResponse
  rw [hsigned, wp_bind, wp_update]
  refine wp_of_forall_ok fun result c' h => ?_
  obtain ⟨rest, rfl, hk⟩ := onResponse_eq_ok h
  refine wp_ok
    (Q := fun result _ => MeasurementVerified c₀ slotId operation request _ result)
    (E := fun _ _ => True) ?_ hk
  rw [wp_bind]
  refine wp_bind_of_forall_ok fun ⟨⟨p, signature⟩, left⟩ c₁ hread => ?_
  obtain ⟨hparse, rfl⟩ := readResponse_eq_ok hread
  obtain ⟨mid, hbody, hsig⟩ := parseMeasurements_eq_ok rfl hparse
  refine wp_bind_of_forall_ok fun _ c₁ hguard => ?_
  obtain ⟨-, rfl⟩ := guardElse_eq_ok.1 hguard
  refine wp_bind_of_forall_ok fun _ c₁ hchanged => ?_
  have hparty₁ : SameParty c₀ c₁ := by
    split at hchanged
    · obtain rfl := update_eq_ok.1 hchanged
      exact ⟨hflag.build, hflag.negotiateInfo, hflag.provisionInfo, hflag.peerInfo⟩
    · obtain ⟨-, rfl⟩ := ret_eq_ok.1 hchanged
      exact hflag
  refine wp_bind_of_forall_ok fun size c₂ hread₂ => ?_
  obtain ⟨hsize, rfl⟩ := orAbort_eq_ok.1 hread₂
  refine wp_bind_of_forall_ok fun _ c₃ happ₁ => wp_bind_of_forall_ok fun _ c₄ happ₂ => ?_
  rw [parseMeasurementsBody_congr hflag] at hbody
  have hversion : (withMeasurementSignature true c).negotiateInfo.spdmVersionSel =
      c₀.negotiateInfo.spdmVersionSel := by rw [hflag.negotiateInfo]
  obtain ⟨body, hresponse, hused⟩ := signedResponse_of_read framed_parseMeasurementsBody
    hflag.negotiateInfo spdmResponseMeasurements hbody hsig
  -- what is appended besides the request is the response without its signature
  have hlen : size = signature.length := by
    have := hresponse.signature
    rw [asymSigSize?, ← hflag.negotiateInfo, ← asymSigSize?, hsize] at this
    exact Option.some.inj this
  rw [hversion, hused, if_pos rfl, hlen, List.length_append, Nat.add_sub_cancel, List.take_left]
    at happ₂
  obtain ⟨earlier, hfed⟩ := l1l2_of_appendMessageM happ₁ happ₂
  have hparty₄ : SameParty c₀ c₄ := StepRel.trans (StepRel.trans hparty₁
    ((appendMessageM_sameParty _ _).of_ok happ₁)) ((appendMessageM_sameParty _ _).of_ok happ₂)
  -- the transcript the caller collects does not touch the context
  refine wp_bind_of_forall_ok fun _ c₅ hkeep₁ => wp_bind_of_forall_ok fun _ c₆ hkeep₂ =>
    wp_bind_of_forall_ok fun _ c₇ hkeep₃ => wp_bind_of_forall_ok fun _ c₈ hguard₂ =>
    wp_bind_of_forall_ok fun _ c₉ hsettle => ?_
  obtain rfl : c₄ = c₅ := appendCallerTranscript_state hkeep₁
  obtain rfl : c₄ = c₆ := appendCallerTranscript_state hkeep₂
  obtain rfl : c₄ = c₇ := by
    obtain ⟨_, c₈, hguard₃, hkeep₄⟩ := bind_eq_ok.1 hkeep₃
    obtain ⟨-, rfl⟩ := guardElse_eq_ok.1 hguard₃
    exact appendCallerTranscript_state hkeep₄
  obtain ⟨-, rfl⟩ := guardElse_eq_ok.1 hguard₂
  obtain ⟨c₁₀, hverify⟩ := settleMeasurementSignature_eq_ok hsettle
  rw [hversion]
  exact ⟨p, body, signature, hresponse,
    signedUnder_of_verifyMeasurementSignature hparty₄ hfed hverify, rfl, rfl, rfl⟩

/-! ## §5. The whole exchanges. -/

instance : RequesterSlotRel (fun _ _ => True) where
  sealing _ _ _ := .trivially _
  opening _ _ _ := .trivially _
  stop _ := trivial
  teardown _ := trivial

section
omit [Crypto] [Device]

theorem sameParty_resetBuffer (code : UInt8) (sessionId : Option Nat) (c : SpdmContext) :
    SameParty c (resetBufferViaRequestCode code sessionId c) := by
  have hM : ∀ c, SameParty c (resetMessageM sessionId c) := by
    intro c
    unfold resetMessageM mapSession
    split
    · exact ⟨rfl, rfl, rfl, rfl⟩
    · exact ⟨rfl, rfl, rfl, rfl⟩
    · split <;> exact ⟨rfl, rfl, rfl, rfl⟩
    · split <;> exact ⟨rfl, rfl, rfl, rfl⟩
  have hB : ∀ c, SameParty c (resetMessageB c) := by
    intro c
    unfold resetMessageB
    split <;> exact ⟨rfl, rfl, rfl, rfl⟩
  have hC : ∀ c, SameParty c (resetMessageC c) := by
    intro c
    unfold resetMessageC
    split <;> exact ⟨rfl, rfl, rfl, rfl⟩
  have hfirst : SameParty c (if code ≠ spdmRequestGetMeasurements then resetMessageM sessionId c
      else c) := by
    split
    · exact hM c
    · exact StepRel.refl c
  unfold resetBufferViaRequestCode
  dsimp only
  generalize (if code ≠ spdmRequestGetMeasurements then resetMessageM sessionId c else c) = c₁
    at hfirst ⊢
  split_ifs
  · exact StepRel.trans hfirst (StepRel.trans (hB _) (hC _))
  · exact hfirst
  · exact StepRel.trans hfirst (hB _)
  · exact hfirst

theorem getRandom_sameParty {n : Nat} : Within SameParty (getRandom n) := by
  refine .bind .read fun c => .bind (.update fun _ => ⟨rfl, rfl, rfl, rfl⟩) fun _ => ?_
  split
  · exact .ret _
  · exact .fail _

theorem chooseNonce_sameParty {nonce : Option Bytes} : Within SameParty (chooseNonce nonce) := by
  cases nonce with
  | some nonce => exact .ret _
  | none => exact getRandom_sameParty

end

omit [Device] in
theorem sendRequest_eq_ok {sent : Bytes}
    (h : sendRequest sessionId request c = .ok sent c') :
    sent = request ∧ sendMessage sessionId request false c = .ok () c' ∧ SameParty c c' := by
  unfold sendRequest at h
  rw [read_bind] at h
  obtain ⟨m, c₁, hwrite, h₁⟩ := bind_eq_ok.1 h
  obtain ⟨rfl, rfl⟩ : request = m ∧ c = c₁ := by
    obtain ⟨_, _, hguard, hret⟩ := bind_eq_ok.1 hwrite
    obtain ⟨-, rfl⟩ := guardElse_eq_ok.1 hguard
    exact ret_eq_ok.1 hret
  obtain ⟨_, c₂, hsend, hret⟩ := bind_eq_ok.1 h₁
  obtain ⟨rfl, rfl⟩ := ret_eq_ok.1 hret
  exact ⟨rfl, hsend, ((within_sendMessage (R := fun _ _ => True) _ _ _).of_ok hsend).sameParty⟩

omit [Device] in
theorem receiveResponse_sameParty
    {crypto : Bool} (h : receiveResponse sessionId crypto c = .ok response c') :
    SameParty c c' := by
  unfold receiveResponse at h
  exact ((within_receiveMessage (R := fun _ _ => True) _ _ _).of_ok h).sameParty

def challengeRequest (c : SpdmContext) (slotId : Nat) (t : UInt8) (nonce : Bytes)
    (context : Option Bytes) : Bytes :=
  encodeChallenge c.negotiateInfo.spdmVersionSel
    { slotId := UInt8.ofNat slotId, measurementSummaryHashType := t, nonce
      context := context.getD (List.replicate requesterContextSize 0) }

def Exchanged (sessionId : Option Nat) (c₁ : SpdmContext) (request response : Bytes) : Prop :=
  ∃ c₂ c₃, sendMessage sessionId request false c₁ = .ok () c₂ ∧
    receiveResponse sessionId true c₂ = .ok response c₃

/-- A challenge drew a nonce, exchanged its request for a response and
verified that. -/
def AttestedChallenge (c : SpdmContext) (slotId : Nat) (t : UInt8)
    (context : Option Bytes) : Prop :=
  ∃ nonce c₁ response,
    getRandom spdmNonceSize (resetBufferViaRequestCode spdmRequestChallenge none c) =
      .ok nonce c₁ ∧
    Exchanged none c₁ (challengeRequest c slotId t nonce context) response ∧
    ChallengeVerified c slotId t (challengeRequest c slotId t nonce context) response

theorem attestedChallenge_of_ok {t : UInt8} {context : Option Bytes}
    (h : sendReceiveSpdmChallenge slotId t context c = .ok () c') :
    AttestedChallenge c slotId t context := by
  refine wp_ok (Q := fun _ _ => AttestedChallenge c slotId t context) (E := fun _ _ => True) ?_ h
  refine wp_bind_of_forall_ok fun _ c₀ hguard => ?_
  obtain ⟨-, rfl⟩ := guardElse_eq_ok.1 hguard
  rw [wp_bind]
  have hparty := sameParty_resetBuffer spdmRequestChallenge none c
  refine wp_bind_of_forall_ok fun nonce c₁ hnonce => ?_
  have hparty₁ := StepRel.trans hparty (getRandom_sameParty.of_ok hnonce)
  rw [wp_bind]
  refine wp_bind_of_forall_ok fun request c₂ hsend => ?_
  obtain ⟨rfl, hsent, hsame₂⟩ := sendRequest_eq_ok hsend
  have hparty₂ := StepRel.trans hparty₁ hsame₂
  refine wp_bind_of_forall_ok fun response c₃ hreceive => ?_
  have hparty₃ := StepRel.trans hparty₂ (receiveResponse_sameParty hreceive)
  rw [hparty₁.negotiateInfo] at hsent ⊢
  exact wp_mono (wp_handleSpdmChallengeResponse hparty₃)
    (fun _ _ hv => ⟨nonce, c₁, response, hnonce, ⟨c₂, c₃, hsent, hreceive⟩, hv⟩) fun _ _ h => h

def measurementRequest (c : SpdmContext) (slotId : Nat) (attributes : Flags) (operation : UInt8)
    (nonce : Bytes) (context : Option Bytes) : Bytes :=
  encodeGetMeasurements c.negotiateInfo.spdmVersionSel
    { measurementAttributes := attributes, measurementOperation := operation, nonce, slotId
      context := context.getD (List.replicate requesterContextSize 0) }

/-- A measurement took or drew a nonce, exchanged its request for a response
and verified that; the result comes from the response. -/
def AttestedMeasurement (c : SpdmContext) (sessionId : Option Nat) (slotId : Nat)
    (attributes : Flags) (operation : UInt8) (nonce? context : Option Bytes)
    (result : MeasurementResult) : Prop :=
  ∃ nonce c₁ response,
    chooseNonce nonce? (resetBufferViaRequestCode spdmRequestGetMeasurements sessionId c) =
      .ok nonce c₁ ∧
    Exchanged sessionId c₁ (measurementRequest c slotId attributes operation nonce context)
      response ∧
    MeasurementVerified c slotId operation
      (measurementRequest c slotId attributes operation nonce context) response result

theorem attestedMeasurement_of_ok {attributes : Flags}
    {operation : UInt8} {nonce? context transcript : Option Bytes} {result : MeasurementResult}
    (hsigned : contains attributes signatureRequested = true)
    (h : sendReceiveSpdmMeasurement sessionId slotId attributes operation nonce? context transcript
      c = .ok result c') :
    AttestedMeasurement c sessionId slotId attributes operation nonce? context result := by
  refine wp_ok (Q := fun result _ =>
    AttestedMeasurement c sessionId slotId attributes operation nonce? context result)
    (E := fun _ _ => True) ?_ h
  refine wp_bind_of_forall_ok fun _ c₀ hguard => ?_
  obtain ⟨-, rfl⟩ := guardElse_eq_ok.1 hguard
  rw [wp_bind]
  have hparty := sameParty_resetBuffer spdmRequestGetMeasurements sessionId c
  refine wp_bind_of_forall_ok fun nonce c₁ hnonce => ?_
  have hparty₁ := StepRel.trans hparty (chooseNonce_sameParty.of_ok hnonce)
  rw [wp_bind]
  refine wp_bind_of_forall_ok fun request c₂ hsend => ?_
  obtain ⟨rfl, hsent, hsame₂⟩ := sendRequest_eq_ok hsend
  have hparty₂ := StepRel.trans hparty₁ hsame₂
  refine wp_bind_of_forall_ok fun response c₃ hreceive => ?_
  have hparty₃ := StepRel.trans hparty₂ (receiveResponse_sameParty hreceive)
  rw [hparty₁.negotiateInfo] at hsent ⊢
  refine wp_bind_of_forall_ok fun r c₄ hr => ?_
  obtain ⟨result', hrun, rfl⟩ | ⟨e, -, rfl⟩ := attempt_eq_ok.1 hr
  · have hv := wp_ok (wp_handleSpdmMeasurementRecordResponse hparty₃ hsigned) hrun
    exact ⟨nonce, c₁, response, hnonce, ⟨c₂, c₃, hsent, hreceive⟩, hv⟩
  · exact wp_bind_of_forall_ok fun _ _ _ => trivial

/-- **Attestation is sound**: from any state, a challenge that returns, and a
measurement with a requested signature that returns, verified a signature
under the key of the requested slot over a transcript that ends with the
request this call sent and the response it got, up to the signature; the
chain hash and what the caller gets are read from the signed bytes. -/
theorem attestation_sound (slotId : Nat) (c c' : SpdmContext) :
    (∀ (t : UInt8) (context : Option Bytes),
      sendReceiveSpdmChallenge slotId t context c = .ok () c' →
      AttestedChallenge c slotId t context) ∧
    (∀ (sessionId : Option Nat) (attributes : Flags) (operation : UInt8)
        (nonce? context transcript : Option Bytes) (result : MeasurementResult),
      contains attributes signatureRequested = true →
      sendReceiveSpdmMeasurement sessionId slotId attributes operation nonce? context transcript c =
        .ok result c' →
      AttestedMeasurement c sessionId slotId attributes operation nonce? context result) :=
  ⟨fun _ _ h => attestedChallenge_of_ok h,
    fun _ _ _ _ _ _ _ hsigned h => attestedMeasurement_of_ok hsigned h⟩

end

/-! ## §6. A challenge and a measurement that return. -/

namespace SmallRun

open SmallBackend

def attestingRequester (response : Bytes) : SpdmContext :=
  { smallContext (smallSession 0 0 0) [some (marked false response)] with
    negotiateInfo := { (smallContext (smallSession 0 0 0) []).negotiateInfo with
      baseAsymSel := SpdmBaseAsymAlgo.tpmAlgEcdsaEccNistP256 }
    peerInfo := { peerCertChain :=
      firstSlotOnly (leBytes 4 40 ++ smallHash ++ [1, 2, 3, 4]) }
    world := { inbox := [some (marked false response)], random := [[5]] } }

def challengeAuth : Bytes :=
  encodeHeader .spdmVersion12 spdmResponseChallengeAuth ++ [0, 1] ++ smallHash ++
    List.replicate 32 9 ++ [0, 0] ++ smallSignature

def measurements : Bytes :=
  encodeHeader .spdmVersion12 spdmResponseMeasurements ++ [0, 0] ++ [0, 0, 0, 0] ++
    List.replicate 32 9 ++ [0, 0] ++ smallSignature

theorem attestation_sound_small :
    AttestedChallenge (attestingRequester challengeAuth) 0 0 none ∧
      ∃ result, AttestedMeasurement (attestingRequester measurements) none 0 signatureRequested
        measurementQueryTotalNumber none none result := by
  obtain ⟨u, c', hchallenge⟩ := Outcome.exists_of_returned
    (o := sendReceiveSpdmChallenge 0 0 none (attestingRequester challengeAuth)) (by decide +kernel)
  obtain ⟨result, c'', hmeasurement⟩ := Outcome.exists_of_returned
    (o := sendReceiveSpdmMeasurement none 0 signatureRequested measurementQueryTotalNumber none none
      none (attestingRequester measurements)) (by decide +kernel)
  exact ⟨(attestation_sound 0 _ c').1 0 none hchallenge,
    result, (attestation_sound 0 _ c'').2 none _ _ none none none result (by decide) hmeasurement⟩

end SmallRun

end Requester

end Spdm
