/-
  Spdm.Responder.Codes — the codes of the responses.
-/
import Spdm.Responder.Upkeep
import Spdm.Responder.Negotiation

namespace Spdm

open Effect Codec

variable {α : Type} {m bytes : Bytes} {code errorCode : UInt8} {e : SpdmStatus} {c : SpdmContext}
    {size id : Nat}

namespace Responder

open SpdmContext SpdmRequestResponseCode SpdmErrorCode

/-! ## §1. Codes of messages. -/

def codeOf (m : Bytes) : Option UInt8 := m[1]?

@[simp] theorem codeOf_header (v : SpdmVersion) (code : UInt8) (rest : Bytes) :
    codeOf (encodeHeader v code ++ rest) = some code := rfl

@[simp] theorem codeOf_errorMessage (c : SpdmContext) (code data : UInt8) :
    codeOf (errorMessage c code data) = some spdmResponseError := rfl

theorem codeOf_append (h : codeOf m = some code) (rest : Bytes) :
    codeOf (m ++ rest) = some code := by
  unfold codeOf at *
  rw [List.getElem?_append_left (List.getElem?_eq_some_iff.1 h).1, h]

def Says (code : UInt8) (m : Bytes) : Prop :=
  ∀ k, codeOf m = some k → k = code ∨ k = spdmResponseError

theorem Says.of_code (h : codeOf m = some code) : Says code m :=
  fun _ hk => .inl (Option.some.inj (hk.symm.trans h))

def RefusesAs (code : UInt8) (e : Refusal) : Prop := ∀ m, e.2 = some m → Says code m

theorem refusesAs_error {data : UInt8} :
    RefusesAs code (e, some (errorMessage c errorCode data)) := fun _ hm _ hk => by
  cases hm
  exact .inr (Option.some.inj hk).symm

structure IsError (c : SpdmContext) (m : Bytes) : Prop where
  length : 4 ≤ m.length
  version : m[0]? = some c.negotiateInfo.spdmVersionSel.toByte
  code : codeOf m = some spdmResponseError

theorem isError_errorMessage (c : SpdmContext) (errorCode data : UInt8) :
    IsError c (errorMessage c errorCode data) := ⟨Nat.le_refl 4, rfl, rfl⟩

theorem IsError.spoken (h : IsError c m) (code : UInt8) : Says code m :=
  fun _ hk => .inr (Option.some.inj (hk.symm.trans h.code))

def Proper (e : Refusal) (c : SpdmContext) : Prop := ∀ m, e.2 = some m → IsError c m

theorem proper_error (e : SpdmStatus) (c : SpdmContext) (errorCode data : UInt8) :
    Proper (e, some (errorMessage c errorCode data)) c := fun _ hm => by
  cases hm
  exact isError_errorMessage c errorCode data

theorem Proper.refusesAs {e : Refusal} (h : Proper e c) (code : UInt8) :
    RefusesAs code e := fun m hm => (h m hm).spoken code

theorem Proper.cleared {e : Refusal} {c' : SpdmContext} (h : Proper e c)
    (hversion : c'.negotiateInfo.spdmVersionSel = c.negotiateInfo.spdmVersionSel) : Proper e c' :=
  fun m hm => ⟨(h m hm).length, by rw [hversion]; exact (h m hm).version, (h m hm).code⟩

/-! ## §2. Steps of handlers. -/

abbrev Plain {α : Type} (code : UInt8) (m : Handler α) : Prop :=
  Ends (fun _ => True) (RefusesAs code) m

abbrev Tidy {α : Type} (m : Handler α) : Prop := EndsIn (fun _ => True) Proper m

theorem Tidy.plain {m : Handler α} (h : Tidy m) (code : UInt8) : Plain code m :=
  h.ends fun _ _ he => he.refusesAs code

section Generic
variable {α : Type} {code : UInt8}

theorem tidy_refuse (e : SpdmStatus) (errorCode : UInt8) {Q : α → Prop} :
    EndsIn Q Proper (refuse e errorCode : Handler α) := fun c => proper_error e c errorCode 0

theorem tidy_demand {b : Bool} :
    Tidy (demand b e errorCode) := by
  cases b with
  | false => exact tidy_refuse _ _
  | true => exact .ret trivial

theorem tidy_expect {o : Option α} :
    Tidy (expect o e errorCode) := by
  cases o with
  | none => exact tidy_refuse _ _
  | some a => exact .ret trivial

theorem ends_orRefuse {Q : α → Prop} {m : SpdmResult α}
    (h : Ends Q (fun _ => True) m) (e : SpdmStatus) (errorCode : UInt8) :
    EndsIn Q Proper (orRefuse m e errorCode) := by
  intro c
  unfold orRefuse
  rw [wp_bind, wp_attempt]
  exact wp_mono (h c) (fun _ _ ha => ha) fun _ c' _ => tidy_refuse e errorCode c'

theorem tidy_orRefuse {m : SpdmResult α} :
    Tidy (orRefuse m e errorCode) := ends_orRefuse (.any m) e errorCode

theorem tidy_parse {p : Parser α} {bs : Bytes} : Tidy (parse p bs) := by
  unfold parse
  split
  · exact .ret trivial
  · exact .ret trivial
  · exact .abort

theorem tidy_parseRest {p : Parser α} {bs : Bytes} : Tidy (parseRest p bs) := by
  unfold parseRest
  split
  · exact .ret trivial
  · exact .ret trivial
  · exact .abort

theorem ends_respond {Q : Bytes → Prop} (h : Q m) :
    EndsIn Q Proper (respond m) :=
  .seq .read fun _ => .seq tidy_demand fun _ => .ret h

theorem tidy_readHeader : Tidy (readHeader bytes e) :=
  .seq .read fun _ => .seq tidy_parseRest fun _ => .seq tidy_expect fun _ =>
    .seq tidy_demand fun _ => .ret trivial

theorem tidy_readPayload {p : Parser α} {rest : Bytes} :
    Tidy (readPayload p rest e) :=
  .seq tidy_parseRest fun _ => tidy_expect

theorem tidy_assertField {n : Nat} {ok : Bool} : Tidy (assertField n ok) := by
  refine .seq .read fun _ => ?_
  split
  · exact .assert _
  · exact .ret trivial

theorem ends_placeSignature {body signature : Bytes} (h : codeOf body = some code) :
    EndsIn (fun m => codeOf m = some code) Proper (placeSignature body signature size) :=
  .seq (.assert _) fun _ => .ret (codeOf_append h _)

theorem ends_placeVerifyData {body mac : Bytes} (h : codeOf body = some code) :
    EndsIn (fun m => codeOf m = some code) Proper (placeVerifyData body mac size) :=
  .seq (.assert _) fun _ => .ret (codeOf_append h _)

theorem ends_ownSession {Q : α → Prop} {m : Handler α} (h : EndsIn Q Proper m) :
    EndsIn Q Proper (ownSession id m) := by
  intro c
  unfold ownSession
  rw [wp_bind, wp_attempt]
  exact wp_mono (h c) (fun _ _ ha => ha) fun e c' he =>
    he.cleared (congrArg (·.spdmVersionSel) (teardownSession_negotiateInfo id c'))

theorem replies_handleErrorRequest (errorCode : UInt8) (bytes : Bytes) :
    EndsIn (Says code) Proper (handleErrorRequest errorCode bytes) :=
  .seq .read fun _ => .seq tidy_parseRest fun _ => .seq tidy_expect fun _ =>
    .seq tidy_demand fun _ => .ret fun _ hk => .inr (Option.some.inj hk).symm

end Generic

abbrev Answers (code : UInt8) (m : Handler Bytes) : Prop := Ends (Says code) (RefusesAs code) m

abbrev Replies (code : UInt8) (m : Handler Bytes) : Prop := EndsIn (Says code) Proper m

theorem Replies.answers {m : Handler Bytes} (h : Replies code m) : Answers code m :=
  h.ends fun _ _ he => he.refusesAs code

section
variable [Crypto] [Device] {code : UInt8}

/-! ## §3. Negotiation. -/

omit [Crypto] [Device] in
theorem replies_handleSpdmVersion (bytes : Bytes) :
    Replies spdmResponseVersion (handleSpdmVersion bytes) :=
  .seq tidy_parseRest fun _ => .seq tidy_expect fun _ =>
    .seq tidy_demand fun _ => .seq (.update _) fun _ =>
    .seq tidy_readPayload fun _ => .seq (.update _) fun _ =>
    .seq tidy_orRefuse fun _ => .seq .read fun _ =>
    .bind (ends_respond (.of_code rfl)) fun _ h =>
    .seq tidy_orRefuse fun _ => .ret h

omit [Crypto] [Device] in
theorem replies_handleSpdmCapability (bytes : Bytes) :
    Replies spdmResponseCapabilities (handleSpdmCapability bytes) :=
  .seq .read fun _ => .seq tidy_demand fun _ => .seq tidy_parseRest fun _ =>
    .seq tidy_expect fun _ => .seq (.update _) fun _ => .seq (.update _) fun _ =>
    .seq .read fun _ => .seq tidy_readPayload fun _ => .seq tidy_demand fun _ =>
    .seq (.update _) fun _ => .seq tidy_orRefuse fun _ => .seq .read fun _ =>
    .bind (ends_respond (.of_code rfl)) fun _ h =>
    .seq tidy_orRefuse fun _ => .ret h

theorem replies_handleSpdmAlgorithm (bytes : Bytes) :
    Replies spdmResponseAlgorithms (handleSpdmAlgorithm bytes) := by
  have hstruct : ∀ a, Tidy (selectStruct a) := fun a => by
    refine .seq .read fun _ => ?_
    split
    · exact .ret trivial
    · exact .seq tidy_demand fun _ => .update _
  refine .seq .read fun _ => .seq tidy_demand fun _ => .seq tidy_readHeader fun _ =>
    .seq (.update _) fun _ => .seq tidy_readPayload fun _ =>
    .seq (.seq (.update _) fun _ => .seq ?_ fun _ => .seq (.update _) fun _ => .forEach hstruct _)
      fun _ => .seq tidy_orRefuse fun _ => .seq (.update _) fun _ => .seq (.update _) fun _ =>
    .seq tidy_orRefuse fun _ => .seq (.update _) fun _ => .seq .read fun _ =>
    .bind (ends_respond (.of_code rfl)) fun _ h =>
    .seq tidy_orRefuse fun _ => .ret h
  split
  · exact .seq .read fun _ => .seq (.update _) fun _ => .seq tidy_demand fun _ => .update _
  · exact .ret trivial

/-! ## §4. Attestation. -/

section
omit [Crypto] [Device]

theorem tidy_demandNegotiated : Tidy demandNegotiated :=
  .seq .read fun _ => tidy_demand

theorem tidy_appendB [Crypto] {sessionId : Option Nat} :
    Tidy (appendB sessionId m) := by
  cases sessionId with
  | none => exact tidy_orRefuse
  | some _ => exact .ret trivial

theorem tidy_digestsPayload : Tidy (digestsPayload c size) := by
  unfold digestsPayload
  split
  · exact .seq (.orAbort _) fun _ => .seq (.orAbort _) fun _ => .seq (.orAbort _) fun _ =>
      .ret trivial
  · exact .ret trivial

end

section
omit [Device]

theorem ends_fillDigests {hashSel : Flags} {chains : List Bytes} {offset : Nat} {message : Bytes}
    (hoffset : 2 ≤ offset) (h : codeOf message = some code) :
    Ends (fun m => codeOf m = some code) (RefusesAs code)
      (fillDigests hashSel chains offset message) := by
  induction chains generalizing offset message with
  | nil => exact .ret h
  | cons chain chains ih =>
    unfold fillDigests
    cases hashAll hashSel chain with
    | none =>
      refine .fail fun m hm => ?_
      cases hm
      exact .of_code h
    | some digest =>
      refine .seq (.assert _) fun _ => ih (by omega) (codeOf_append (codeOf_append ?_ _) _)
      unfold codeOf at *
      rw [List.getElem?_take_of_lt (by omega), h]

theorem ends_digestsResponse (bytes : Bytes) (sessionId : Option Nat) :
    EndsIn (fun r => codeOf r.2 = some spdmResponseDigests) Proper
      (digestsResponse bytes sessionId) :=
  .seq tidy_demandNegotiated fun _ => .seq tidy_readHeader fun _ => .seq (.update _) fun _ =>
    .seq tidy_readPayload fun _ => .seq tidy_appendB fun _ => .seq .read fun _ =>
    .seq (.orAbort _) fun _ => .seq tidy_digestsPayload fun _ =>
    .bind (ends_respond (Q := fun m => codeOf m = some spdmResponseDigests) rfl) fun _ h => .ret h

theorem ends_handleSpdmDigest (bytes : Bytes) (sessionId : Option Nat) :
    Answers spdmResponseDigests (handleSpdmDigest bytes sessionId) :=
  .bind ((ends_digestsResponse bytes sessionId).ends fun _ _ he => he.refusesAs _) fun _ h =>
    .bind (ends_fillDigests (by decide) h) fun _ h =>
    .seq (tidy_appendB.plain _) fun _ => .ret (.of_code h)

theorem replies_handleSpdmCertificate (bytes : Bytes) (sessionId : Option Nat) :
    Replies spdmResponseCertificate (handleSpdmCertificate bytes sessionId) :=
  .seq tidy_demandNegotiated fun _ => .seq tidy_readHeader fun _ => .seq (.update _) fun _ =>
    .seq .read fun _ => .seq tidy_readPayload fun _ => .seq tidy_appendB fun _ =>
    .seq tidy_expect fun _ => .seq tidy_expect fun _ =>
    .seq tidy_demand fun _ =>
    .bind (ends_respond (.of_code rfl)) fun _ h =>
    .seq tidy_appendB fun _ => .ret h

end

omit [Crypto] in
theorem tidy_summaryHash {t : UInt8} : Tidy (summaryHash t e) := by
  refine .seq .read fun _ => ?_
  split
  · exact .seq (.update _) fun _ => .seq tidy_expect fun _ => .seq tidy_demand
      fun _ => .ret trivial
  · exact .seq (.update _) fun _ => .ret trivial

omit [Crypto] [Device] in
theorem tidy_myIdentity {slotId pubKeySlotId : Nat} :
    Tidy (myIdentity c slotId pubKeySlotId) := by
  unfold myIdentity
  split
  · exact tidy_expect
  · exact .seq tidy_expect fun _ => tidy_expect

theorem replies_handleSpdmChallenge (bytes : Bytes) :
    Replies spdmResponseChallengeAuth (handleSpdmChallenge bytes) :=
  .seq tidy_demandNegotiated fun _ => .seq tidy_readHeader fun _ => .seq (.update _) fun _ =>
    .seq .read fun _ => .seq tidy_readPayload fun _ => .seq tidy_summaryHash fun _ =>
    .seq tidy_myIdentity fun _ => .seq tidy_orRefuse fun _ =>
    .seq tidy_expect fun _ => .seq tidy_orRefuse fun _ => .seq .read fun _ =>
    .seq (.orAbort _) fun _ => .seq (.orAbort _) fun _ => .seq tidy_assertField fun _ =>
    .seq tidy_assertField fun _ => .seq tidy_demand fun _ =>
    .seq tidy_orRefuse fun _ => .seq .read fun _ => .seq tidy_expect fun _ =>
    .bind (ends_placeSignature rfl) fun _ h => .seq (.update _) fun _ => .ret (.of_code h)

theorem replies_handleSpdmMeasurement (sessionId : Option Nat) (bytes : Bytes) :
    Replies spdmResponseMeasurements (handleSpdmMeasurement sessionId bytes) := by
  have hslot : ∀ p, Tidy (demandMeasurementSlot p) := fun p => by
    refine .seq .read fun _ => .seq (.update _) fun _ => ?_
    split
    · exact .seq tidy_myIdentity fun _ => .ret trivial
    · exact tidy_demand
  have hrecord : ∀ c operation n,
      Tidy (measurementRecordFor c operation n) := fun c operation n => by
    unfold measurementRecordFor
    split_ifs
    · exact tidy_expect
    · exact .ret trivial
    · exact .seq tidy_demand fun _ => tidy_expect
  have hwrite : Replies spdmResponseMeasurements
    (writeSpdmMeasurementResponse sessionId bytes) := by
    refine .seq tidy_demandNegotiated fun _ => .seq tidy_readHeader fun _ =>
      .seq (.update _) fun _ => .seq .read fun _ => .seq tidy_readPayload fun _ =>
      .seq (.orAbort _) fun _ => .seq (hslot _) fun _ => .seq tidy_orRefuse fun _ =>
      .seq tidy_expect fun _ => .seq (hrecord _ _ _) fun _ =>
      .seq tidy_orRefuse fun _ => .seq .read fun _ => .seq tidy_demand fun _ => ?_
    split
    · exact .seq tidy_orRefuse fun _ => .seq tidy_orRefuse fun _ =>
        .bind (ends_placeSignature rfl) fun _ h => .seq (.update _) fun _ => .ret (.of_code h)
    · exact .seq tidy_orRefuse fun _ => .ret (.of_code rfl)
  intro c
  unfold handleSpdmMeasurement
  rw [wp_bind, wp_attempt]
  refine wp_mono (hwrite c) (fun _ _ ha => ha) fun e c' he => ?_
  dsimp only
  split
  · exact he
  · exact he.cleared (by simp)

/-! ## §5. Sessions. -/

omit [Crypto] [Device] in
theorem tidy_sessionOf : Tidy (sessionOf id) :=
  .seq .read fun _ => tidy_expect

omit [Device] in
theorem tidy_transcriptHash {usePsk isMutAuth : Bool} :
    Tidy (transcriptHash usePsk isMutAuth id) :=
  .seq tidy_sessionOf fun _ => tidy_orRefuse

omit [Crypto] [Device] in
theorem tidy_sessionStep {m : Prog SpdmSession SpdmStatus Unit} :
    Tidy (sessionStep id m) := by
  refine .seq (.attempt_any _) fun r => ?_
  cases r with
  | ok _ => exact .ret trivial
  | error e => exact tidy_refuse _ _

omit [Device] in
theorem tidy_responseMac {hash : Bytes} : Tidy (responseMac id hash) := by
  refine .seq tidy_sessionOf fun s => ?_
  cases s.generateHmacWithResponseFinishedKey hash with
  | some mac => exact .ret trivial
  | none => exact .seq (.update _) fun _ => tidy_refuse _ _

section
omit [Crypto] [Device]

theorem tidy_versionSelOpaque {offer : Bytes} : Tidy (versionSelOpaque offer) := by
  refine .seq .read fun _ => .seq tidy_parse fun offered => ?_
  cases offered with
  | none => exact .ret trivial
  | some _ => exact .seq tidy_expect fun _ => tidy_expect

theorem tidy_readExchangeHeader : Tidy (readExchangeHeader bytes) :=
  .seq tidy_readHeader fun _ => .seq .read fun _ => .seq tidy_demand fun _ =>
    .ret trivial

theorem tidy_nextHalfSessionId : Tidy nextHalfSessionId := by
  refine .seq .read fun c => ?_
  cases c.getNextHalfSessionId false with
  | ok id => exact .ret trivial
  | error _ => exact tidy_refuse _ _

theorem tidy_demandFreeSlot : Tidy demandFreeSlot := .seq .read fun _ => tidy_demand

end

omit [Crypto] in
theorem tidy_exchangeKeys {peer : Bytes} : Tidy (exchangeKeys c peer) := by
  refine .seq (.seq .read fun _ => .seq (.update _) fun _ => .ret trivial) fun _ => ?_
  split
  · exact .seq tidy_expect fun _ => .ret trivial
  · exact .seq tidy_expect fun _ => .seq tidy_expect fun _ => .ret trivial

omit [Crypto] [Device] in
theorem tidy_requestMutAuth : Tidy requestMutAuth := by
  refine .seq .read fun _ => ?_
  split_ifs
  · exact .seq tidy_demand fun _ => .seq (.update _) fun _ => .ret trivial
  · exact .ret trivial
  · exact .ret trivial

omit [Crypto] [Device] in
theorem plain_demandNoEvents {sessionPolicy : UInt8} :
    Plain code (demandNoEvents sessionPolicy) := by
  refine .seq .read fun _ => ?_
  split
  · refine .fail fun m hm k hk => ?_
    cases hm
    cases hk
  · exact .ret trivial

omit [Crypto] in
theorem tidy_readKeyExchange : Tidy (readKeyExchange bytes) :=
  .seq tidy_demandNegotiated fun _ => .seq tidy_readExchangeHeader fun _ =>
    .seq (.update _) fun _ => .seq .read fun _ => .seq tidy_readPayload fun _ =>
    .seq tidy_summaryHash fun _ => .ret trivial

theorem plain_prepareKeyExchange : Plain code (prepareKeyExchange bytes) :=
  .seq (tidy_readKeyExchange.plain _) fun _ => .seq (.update _) fun _ =>
    .seq plain_demandNoEvents fun _ => Tidy.plain (.seq tidy_versionSelOpaque fun _ =>
    .seq tidy_demand fun _ => .seq (.update _) fun _ => .seq tidy_exchangeKeys fun _ =>
    .seq tidy_nextHalfSessionId fun _ => .seq tidy_requestMutAuth fun _ =>
    .seq tidy_expect fun _ => .seq tidy_demandFreeSlot fun _ => .ret trivial) _

omit [Device] in
theorem tidy_openKeyExchangeSession {p : PreparedKeyExchange} :
    Tidy (openKeyExchangeSession p) := by
  refine .seq .read fun _ => .seq (.attempt_any _) fun r => ?_
  cases r with
  | ok _ => exact tidy_orRefuse
  | error _ => exact .seq (.update _) fun _ => tidy_refuse _ _

omit [Device] in
theorem ends_keyExchangeVerifyData {hashSize : Nat} {message : Bytes}
    (h : codeOf message = some code) : EndsIn (fun m => codeOf m = some code) Proper
      (keyExchangeVerifyData id message hashSize) := by
  refine .seq .read fun _ => ?_
  split
  · exact .ret h
  · exact .seq tidy_transcriptHash fun _ => .seq tidy_responseMac fun _ =>
      .seq tidy_orRefuse fun _ => ends_placeVerifyData h

theorem replies_runKeyExchange (p : PreparedKeyExchange) :
    Replies spdmResponseKeyExchangeRsp (ownSession p.sessionId (runKeyExchange p)) := by
  refine ends_ownSession ?_
  refine .seq tidy_openKeyExchangeSession fun _ => .seq tidy_orRefuse fun _ =>
    .seq .read fun _ => .seq (.orAbort _) fun _ => .seq (.orAbort _) fun _ =>
    .seq tidy_assertField fun _ => .seq tidy_demand fun _ =>
    .seq tidy_orRefuse fun _ => .seq tidy_orRefuse fun _ =>
    .seq tidy_sessionOf fun _ => .seq tidy_orRefuse fun _ =>
    .seq tidy_orRefuse fun _ => .bind (ends_placeSignature rfl) fun _ h =>
    .seq tidy_transcriptHash fun _ => .seq (.seq .read fun _ => tidy_sessionStep) fun _ =>
    .bind (ends_keyExchangeVerifyData h) fun _ h => .seq tidy_orRefuse fun _ =>
    .seq ?_ fun _ => .ret (.of_code h)
  split
  · exact .update _
  · exact .ret trivial

theorem ends_handleSpdmKeyExchange (bytes : Bytes) :
    Answers spdmResponseKeyExchangeRsp (handleSpdmKeyExchange bytes) :=
  .seq plain_prepareKeyExchange fun p => (replies_runKeyExchange p).answers

theorem replies_handleSpdmFinish (id : Nat) (bytes : Bytes) :
    EndsIn (fun r => ∀ m, r = some m → Says spdmResponseFinishRsp m) Proper
      (handleSpdmFinish id bytes) := by
  have hsignature : ∀ id signature, Tidy (verifyFinishSignature id signature) :=
    fun _ _ => .seq tidy_sessionOf fun _ => .seq tidy_orRefuse fun _ =>
      tidy_orRefuse
  have hcomplete : ∀ {id isMutAuth body hashSize}, codeOf body = some spdmResponseFinishRsp →
      EndsIn (fun m => codeOf m = some spdmResponseFinishRsp) Proper
        (completeFinishRsp id isMutAuth body hashSize) := fun h => by
    refine .seq .read fun _ => ?_
    split
    · exact .seq tidy_orRefuse fun _ => .seq tidy_transcriptHash fun _ =>
        .seq tidy_sessionOf fun _ => .seq tidy_expect fun _ =>
        .seq tidy_orRefuse fun _ => ends_placeVerifyData h
    · exact .seq tidy_orRefuse fun _ => .ret h
  have hwrite : Replies spdmResponseFinishRsp (writeSpdmFinishResponse id bytes) := by
    refine .seq tidy_readHeader fun _ => .seq (.update _) fun _ => .seq .read fun _ =>
      .seq tidy_readPayload fun _ => .seq tidy_orRefuse fun _ =>
      .seq tidy_sessionOf fun _ => .seq tidy_demand fun _ => .seq ?_ fun _ =>
      .seq (.orAbort _) fun _ => .seq tidy_sessionOf fun _ => .seq tidy_demand fun _ =>
      .seq tidy_transcriptHash fun _ =>
      .seq (.seq tidy_sessionOf fun _ => tidy_demand) fun _ =>
      .seq tidy_orRefuse fun _ => .seq tidy_demand fun _ =>
      .bind (hcomplete rfl) fun _ h => .seq tidy_transcriptHash fun _ =>
      .seq (.seq .read fun _ => tidy_sessionStep) fun _ => .ret (.of_code h)
    split
    · exact hsignature _ _
    · exact .ret trivial
  refine .seq .read fun _ => ?_
  split
  · exact .seq (.update _) fun _ => .ret fun _ h => by cases h
  · refine .bind (ends_ownSession hwrite) fun _ h => .ret fun m hm => ?_
    cases hm
    exact h

theorem replies_handleSpdmPskExchange (bytes : Bytes) :
    Replies spdmResponsePskExchangeRsp (handleSpdmPskExchange bytes) := by
  have hprepare : Tidy (preparePskExchange bytes) := by
    refine .seq tidy_demandNegotiated fun _ => .seq tidy_readExchangeHeader fun _ =>
      .seq (.update _) fun _ => .seq .read fun _ => .seq tidy_readPayload fun _ =>
      .seq tidy_summaryHash fun _ => .seq tidy_versionSelOpaque fun _ => .seq ?_ fun _ =>
      .seq tidy_nextHalfSessionId fun _ => .seq tidy_demandFreeSlot fun _ => .ret trivial
    split
    · exact tidy_orRefuse
    · exact .ret trivial
  have hestablish : ∀ id, Tidy (establishPsk id) := fun _ =>
    .seq tidy_transcriptHash fun _ => .seq .read fun _ => .seq tidy_orRefuse fun _ =>
      .seq tidy_orRefuse fun _ => .update _
  refine .seq hprepare fun p => ends_ownSession ?_
  refine .seq (.seq .read fun _ => tidy_orRefuse) fun _ => .seq .read fun _ =>
    .seq (.orAbort _) fun _ => .seq tidy_assertField fun _ => .seq tidy_demand fun _ =>
    .seq tidy_orRefuse fun _ => .seq tidy_orRefuse fun _ =>
    .seq tidy_transcriptHash fun _ => .seq (.seq .read fun _ => tidy_sessionStep) fun _ =>
    .seq tidy_transcriptHash fun _ => .seq tidy_responseMac fun _ =>
    .seq tidy_orRefuse fun _ => .bind (ends_placeVerifyData rfl) fun _ h =>
    .seq tidy_orRefuse fun _ => .seq ?_ fun _ => .seq tidy_orRefuse fun _ =>
    .ret (.of_code h)
  split
  · exact hestablish _
  · exact .ret trivial

omit [Device] in
theorem replies_handleSpdmPskFinish (id : Nat) (bytes : Bytes) :
    Replies spdmResponsePskFinishRsp (handleSpdmPskFinish id bytes) := by
  refine ends_ownSession ?_
  exact .seq tidy_readHeader fun _ => .seq (.update _) fun _ => .seq .read fun _ =>
    .seq tidy_readPayload fun _ => .seq (.orAbort _) fun _ => .seq tidy_sessionOf fun _ =>
    .seq tidy_demand fun _ => .seq tidy_orRefuse fun _ =>
    .seq tidy_transcriptHash fun _ =>
    .seq (.seq tidy_sessionOf fun _ => tidy_demand) fun _ =>
    .seq tidy_orRefuse fun _ =>
    .bind (ends_respond (.of_code rfl)) fun _ h =>
    .seq tidy_orRefuse fun _ => .seq tidy_transcriptHash fun _ =>
    .seq (.seq .read fun _ => tidy_sessionStep) fun _ => .ret h

/-! ## §6. Running sessions. -/

omit [Device] in
theorem replies_handleSpdmKeyUpdate (id : Nat) (bytes : Bytes) :
    Replies spdmResponseKeyUpdateAck (handleSpdmKeyUpdate id bytes) :=
  .seq tidy_readHeader fun _ => .seq (.update _) fun _ => .seq tidy_readPayload
    fun _ => .seq .read fun _ => .seq tidy_sessionStep fun _ => ends_respond (.of_code rfl)

omit [Crypto] [Device] in
theorem replies_handleSpdmHeartbeat (id : Nat) (bytes : Bytes) :
    Replies spdmResponseHeartbeatAck (handleSpdmHeartbeat id bytes) :=
  .seq tidy_readHeader fun _ => .seq (.update _) fun _ => .seq tidy_readPayload
    fun _ => .seq .read fun _ => ends_respond (.of_code rfl)

omit [Crypto] [Device] in
theorem replies_handleSpdmEndSession (id : Nat) (bytes : Bytes) :
    Replies spdmResponseEndSessionAck (handleSpdmEndSession id bytes) :=
  .seq (.update _) fun _ => .seq tidy_readHeader fun _ => .seq tidy_readPayload
    fun _ => .seq (.update _) fun _ => .seq .read fun _ => ends_respond (.of_code rfl)

/-- The integrator's own handler of vendor defined requests, where there is
one, answers with the code of their responses, or with an ERROR. -/
def VendorAnswers : Prop :=
  ∀ handler, Device.vendorDefinedRequestHandlerEx = some handler → ∀ sessionId bytes response,
    (handler sessionId bytes).2 = some response → Says spdmResponseVendorDefinedResponse response

omit [Crypto] in
theorem replies_writeSpdmVendorDefinedResponse (sessionId : Option Nat) (bytes : Bytes) :
    Replies spdmResponseVendorDefinedResponse (writeSpdmVendorDefinedResponse sessionId bytes) := by
  refine .seq tidy_readHeader fun _ => .seq (.update _) fun _ => .seq .read fun _ =>
    .seq tidy_readPayload fun ⟨p, _⟩ => ?_
  dsimp only
  cases Device.vendorDefinedRequestHandler p.vendorId p.payload with
  | error e => exact tidy_refuse _ _
  | ok payload => exact .seq (.assert _) fun _ => ends_respond (.of_code rfl)

omit [Crypto] in
theorem ends_handleSpdmVendorDefinedRequest (hvendor : VendorAnswers) (sessionId : Option Nat)
    (bytes : Bytes) :
    Ends (fun r => ∀ m, r = some m → Says spdmResponseVendorDefinedResponse m)
      (RefusesAs spdmResponseVendorDefinedResponse)
      (handleSpdmVendorDefinedRequest sessionId bytes) := by
  unfold handleSpdmVendorDefinedRequest
  cases hex : Device.vendorDefinedRequestHandlerEx with
  | none =>
    refine .bind (replies_writeSpdmVendorDefinedResponse sessionId bytes).answers
      fun _ h => .ret fun m hm => ?_
    cases hm
    exact h
  | some handler =>
    dsimp only
    have hspoken := hvendor handler hex sessionId bytes
    generalize handler sessionId bytes = result at hspoken ⊢
    obtain ⟨status, response⟩ := result
    cases status with
    | ok _ => exact .ret hspoken
    | error e => exact .fail hspoken

omit [Crypto] [Device] in
theorem tidy_encapCheckVersionCapState : Tidy encapCheckVersionCapState := by
  intro c
  have hunsupported : ∀ e : SpdmStatus, Proper (e, some (errorMessage c spdmErrorUnsupportedRequest
      spdmRequestGetEncapsulatedRequest)) c := fun e => proper_error _ _ _ _
  unfold encapCheckVersionCapState
  rw [wp_bind, wp_read]
  rw [wp_bind]
  refine wp_ite (fun _ => ?_) fun _ => hunsupported _
  rw [wp_ret, wp_bind]
  exact wp_ite (fun _ => tidy_demand c) fun _ => hunsupported _

omit [Crypto] [Device] in
theorem replies_handleGetEncapsulatedRequest (bytes : Bytes) :
    Replies spdmResponseEncapsulatedRequest (handleGetEncapsulatedRequest bytes) :=
  .seq tidy_encapCheckVersionCapState fun _ => .seq tidy_readHeader fun _ =>
    .seq .read fun _ =>
    .bind (ends_respond (Q := fun m => codeOf m = some spdmResponseEncapsulatedRequest) rfl)
      fun _ h => .seq tidy_demand fun _ => .ret (.of_code (codeOf_append h _))

theorem replies_handleDeliverEncapsulatedResponse (bytes : Bytes) :
    Replies spdmResponseEncapsulatedResponseAck (handleDeliverEncapsulatedResponse bytes) := by
  have hprocess : ∀ requestId response,
      Ends (fun m => codeOf m = some spdmResponseEncapsulatedResponseAck) (fun _ => True)
        (processEncapsulatedResponse requestId response) := by
    intro requestId response
    refine .seq .read fun _ => .seq (.any _) fun _ => .seq (.any _) fun _ =>
      .seq (.any _) fun _ => ?_
    split_ifs
    · exact .seq (.any _) fun _ => .seq (.any _) fun _ => .seq (.any _) fun _ => .ret rfl
    · refine .seq (.any _) fun more => ?_
      split_ifs
      · exact .seq (.any _) fun _ => .ret rfl
      · exact .ret rfl
    · exact .fail trivial
  exact .seq tidy_encapCheckVersionCapState fun _ => .seq tidy_readHeader fun _ =>
    .seq tidy_readPayload fun _ => .bind (ends_orRefuse (hprocess _ _) _ _) fun _ h =>
    .seq .read fun _ => .seq tidy_demand fun _ => .ret (.of_code h)

/-! ## §7. Out of turn. -/

def early (c : SpdmContext) : Bool := c.runtimeInfo.connectionState.before .negotiated

abbrev RefusesAt {α : Type} (m : Handler α) (c : SpdmContext) : Prop :=
  wp m (fun _ _ => False) (fun e _ => RefusesAs spdmResponseError e) c

section
omit [Crypto] [Device]

theorem wp_bind_of_refused {β : Type} {m : Handler α} {f : α → Handler β}
    {Q : β → SpdmContext → Prop} {E : Refusal → SpdmContext → Prop}
    (h : wp m (fun _ _ => False) E c) : wp (m >>= f) Q E c := by
  rw [wp_bind]
  exact wp_mono h (fun _ _ h => h.elim) fun _ _ h => h

theorem refused_demand {b : Bool} (h : b = false) :
    wp (demand b e code) (fun _ _ => False)
      (fun r c' => c' = c ∧ RefusesAs spdmResponseError r) c := by
  subst h
  exact ⟨rfl, refusesAs_error⟩

theorem refused_demandNegotiated (h : early c = true) :
    wp demandNegotiated (fun _ _ => False)
      (fun e c' => c' = c ∧ RefusesAs spdmResponseError e) c := by
  unfold demandNegotiated
  rw [wp_bind]
  have hbefore : c.runtimeInfo.connectionState.before .negotiated = true := h
  exact refused_demand (by rw [hbefore]; rfl)

theorem refusesAt_of_demandNegotiated {f : Unit → Handler α}
    (h : early c = true) : RefusesAt (demandNegotiated >>= f) c :=
  wp_bind_of_refused (wp_mono (refused_demandNegotiated h) (fun _ _ h => h) fun _ _ h => h.2)

theorem refusesAt_handleSpdmCapability
    (h : c.runtimeInfo.connectionState ≠ .afterVersion) :
    RefusesAt (handleSpdmCapability bytes) c := by
  unfold RefusesAt handleSpdmCapability
  rw [wp_bind]
  exact wp_bind_of_refused
    (wp_mono (refused_demand (by simpa using h)) (fun _ _ h => h) fun _ _ h => h.2)

end

theorem refusesAt_handleSpdmAlgorithm
    (h : c.runtimeInfo.connectionState ≠ .afterCapabilities) :
    RefusesAt (handleSpdmAlgorithm bytes) c := by
  unfold RefusesAt handleSpdmAlgorithm
  rw [wp_bind]
  exact wp_bind_of_refused
    (wp_mono (refused_demand (by simpa using h)) (fun _ _ h => h) fun _ _ h => h.2)

theorem refusesAt_handleSpdmMeasurement {sessionId : Option Nat}
    (h : early c = true) : RefusesAt (handleSpdmMeasurement sessionId bytes) c := by
  have hwrite : RefusesAt (writeSpdmMeasurementResponse sessionId bytes) c :=
    refusesAt_of_demandNegotiated h
  unfold RefusesAt handleSpdmMeasurement
  rw [wp_bind, wp_attempt]
  refine wp_mono hwrite (fun _ _ h => h.elim) fun e c' he => ?_
  dsimp only
  split <;> exact he

theorem refused_handleSpdmKeyExchange (h : early c = true) :
    wp (handleSpdmKeyExchange bytes) (fun _ _ => False)
      (fun e c' => c' = c ∧ RefusesAs spdmResponseError e) c :=
  wp_bind_of_refused (wp_bind_of_refused (wp_bind_of_refused (refused_demandNegotiated h)))

theorem refused_handleSpdmPskExchange (h : early c = true) :
    wp (handleSpdmPskExchange bytes) (fun _ _ => False)
      (fun e c' => c' = c ∧ RefusesAs spdmResponseError e) c :=
  wp_bind_of_refused (wp_bind_of_refused (refused_demandNegotiated h))

end

end Responder

end Spdm
