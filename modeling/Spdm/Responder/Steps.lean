/-
  Spdm.Responder.Steps — the responder's handlers as acts.
-/
import Spdm.Context.Mild
import Spdm.Responder.Context

namespace Spdm

open Effect Codec

variable {e : SpdmStatus} {code : UInt8} {bytes body signature m response : Bytes} {size id : Nat}
    {sessionId : Option Nat} {c : SpdmContext} {s : SpdmSession}

namespace Responder

open SpdmContext SpdmRequestResponseCode SpdmErrorCode

variable {α : Type} {touch : Nat → Prop}

/-! ## §1. Steps of handlers. -/

section Generic
variable {R : SpdmContext → SpdmContext → Prop} [StepRel R]

theorem within_refuse : Within R (refuse e code : Handler α) :=
  .bind .read fun _ => .fail _

theorem within_demand (b : Bool) (e : SpdmStatus) (code : UInt8) :
    Within R (demand b e code) := by
  cases b with
  | true => exact .ret _
  | false => exact within_refuse

theorem within_expect {o : Option α} :
    Within R (expect o e code) := by
  cases o with
  | some a => exact .ret _
  | none => exact within_refuse

theorem within_orRefuse {m : SpdmResult α} (hm : Within R m) : Within R (orRefuse m e code) := by
  refine .bind (.attempt hm) fun r => ?_
  cases r with
  | ok a => exact .ret _
  | error _ => exact within_refuse

theorem within_respond (m : Bytes) : Within R (respond m) :=
  .bind .read fun _ => .bind (within_demand _ _ _) fun _ => .ret _

theorem within_readHeader : Within R (readHeader bytes e) :=
  .bind .read fun _ => .bind within_parseRest fun _ => .bind within_expect fun _ =>
    .bind (within_demand _ _ _) fun _ => .ret _

theorem within_readPayload (p : Parser α) (rest : Bytes) (e : SpdmStatus) :
    Within R (readPayload p rest e) :=
  .bind within_parseRest fun _ => within_expect

theorem within_handleErrorRequest :
    Within R (handleErrorRequest code bytes) :=
  .bind .read fun _ => .bind within_parseRest fun _ => .bind within_expect fun _ =>
    .bind (within_demand _ _ _) fun _ => .ret _

theorem within_demandNegotiated : Within R demandNegotiated :=
  .bind .read fun _ => within_demand _ _ _

theorem within_assertField {n : Nat} {ok : Bool} : Within R (assertField n ok) := by
  refine .bind .read fun _ => ?_
  split
  · exact .assert _
  · exact .ret _

theorem within_placeSignature :
    Within R (placeSignature body signature size) :=
  .bind (.assert _) fun _ => .ret _

end Generic

variable {R : SpdmContext → SpdmContext → Prop} [Crypto] [Device]

/-! ## §2. Negotiation. -/

omit [Crypto] [Device] in
theorem within_appendA [SilentRel R] (m : Bytes) : Within R (appendA m) :=
  within_orRefuse (within_appendMessageA m)

section
omit [Crypto] [Device]

theorem within_version [StepRel R] (hnote : ∀ c c', NoteAct (fun _ => False) c c' → R c c')
    (hreset : ∀ c : SpdmContext, R c c.resetContext) (bytes : Bytes) :
    Within R (handleSpdmVersion bytes) := by
  have hnever : ∀ {m : Handler Unit}, Within (Steps (NoteAct fun _ => False)) m → Within R m :=
    fun hm => hm.mono fun _ _ hs => hs.lift hnote
  exact .bind within_parseRest fun _ => .bind within_expect fun _ =>
    .bind (within_demand _ _ _) fun _ =>
    .bind (hnever (.update (mild_resetBuffer fun _ h => by cases h))) fun _ =>
    .bind (within_readPayload _ _ _) fun _ => .bind (.update hreset) fun _ =>
    .bind (hnever (within_appendA _)) fun _ => .bind .read fun _ =>
    .bind (within_respond _) fun _ => .bind (hnever (within_appendA _)) fun _ => .ret _

theorem within_capability [StepRel R]
    (hnote : ∀ c c', NoteAct (fun _ => False) c c' → R c c')
    (hselect : ∀ c c', c' = { c with negotiateInfo := c'.negotiateInfo } → R c c') (bytes : Bytes) :
    Within R (handleSpdmCapability bytes) := by
  have hnever : ∀ {m : Handler Unit}, Within (Steps (NoteAct fun _ => False)) m → Within R m :=
    fun hm => hm.mono fun _ _ hs => hs.lift hnote
  exact .bind .read fun _ => .bind (within_demand _ _ _) fun _ => .bind within_parseRest fun _ =>
    .bind within_expect fun _ => .bind (.update fun _ => hselect _ _ rfl) fun _ =>
    .bind (hnever (.update (mild_resetBuffer fun _ h => by cases h))) fun _ =>
    .bind .read fun _ => .bind (within_readPayload _ _ _) fun _ =>
    .bind (within_demand _ _ _) fun _ => .bind (.update fun _ => hselect _ _ rfl) fun _ =>
    .bind (hnever (within_appendA _)) fun _ => .bind .read fun _ =>
    .bind (within_respond _) fun _ => .bind (hnever (within_appendA _)) fun _ => .ret _

end

structure AlgorithmStep (c c' : SpdmContext) : Prop where
  rest : c' = { c with negotiateInfo := c'.negotiateInfo, provisionInfo := c'.provisionInfo }
  version : c'.negotiateInfo.spdmVersionSel = c.negotiateInfo.spdmVersionSel
  exponent : c'.negotiateInfo.reqCtExponentSel = c.negotiateInfo.reqCtExponentSel

theorem within_algorithm [StepRel R]
    (hnote : ∀ c c', NoteAct (fun _ => False) c c' → R c c')
    (hselect : ∀ c c', AlgorithmStep c c' → R c c') (bytes : Bytes) :
    Within R (handleSpdmAlgorithm bytes) := by
  have hnever : ∀ {m : Handler Unit}, Within (Steps (NoteAct fun _ => False)) m → Within R m :=
    fun hm => hm.mono fun _ _ hs => hs.lift hnote
  have hmulti : ∀ p, Within R (selectMultiKey p) := fun p =>
    .bind .read fun _ => .bind (.update fun _ => hselect _ _ ⟨rfl, rfl, rfl⟩) fun _ =>
      .bind (within_demand _ _ _) fun _ => .update fun _ => hselect _ _ ⟨rfl, rfl, rfl⟩
  have hoffer : ∀ a n, (offerStruct a n).spdmVersionSel = n.spdmVersionSel ∧
      (offerStruct a n).reqCtExponentSel = n.reqCtExponentSel := fun a n => by
    unfold offerStruct
    cases a.algType <;> exact ⟨rfl, rfl⟩
  have hstruct : ∀ a, Within R (selectStruct a) := fun a => by
    refine .bind .read fun _ => ?_
    split
    · exact .ret _
    · exact .bind (within_demand _ _ _) fun _ => .update fun c =>
        hselect _ _ ⟨rfl, (hoffer a _).1, (hoffer a _).2⟩
  have hclassical : ∀ c, R c (preferClassical c) := fun c => by
    unfold preferClassical
    dsimp only
    split
    · exact hselect _ _ ⟨rfl, rfl, rfl⟩
    · exact StepRel.refl c
  have hchain : ∀ slot, Within R (constructCertChain slot) := fun slot => by
    refine .bind .read fun c => ?_
    split
    · exact .bind within_liftResult fun _ => .bind (.assert _) fun _ => .bind (.orFail _ _)
        fun _ => .update fun _ => hselect _ _ ⟨rfl, rfl, rfl⟩
    · exact .ret _
  refine .bind .read fun _ => .bind (within_demand _ _ _) fun _ => .bind within_readHeader fun _ =>
    .bind (hnever (.update (mild_resetBuffer fun _ h => by cases h))) fun _ =>
    .bind (within_readPayload _ _ _) fun _ =>
    .bind (.bind (.update fun _ => hselect _ _ ⟨rfl, rfl, rfl⟩) fun _ => .bind ?_ fun _ =>
      .bind (.update fun _ => hselect _ _ ⟨rfl, rfl, rfl⟩) fun _ => .forEach hstruct _) fun _ =>
    .bind (hnever (within_appendA _)) fun _ =>
    .bind (.update fun _ => hselect _ _ ⟨rfl, rfl, rfl⟩) fun _ =>
    .bind (.update hclassical) fun _ =>
    .bind (within_orRefuse (.forEach hchain _)) fun _ =>
    .bind (.update fun _ => hselect _ _ ⟨rfl, rfl, rfl⟩) fun _ => .bind .read fun _ =>
    .bind (within_respond _) fun _ => .bind (hnever (within_appendA _)) fun _ => .ret _
  split
  · exact hmulti _
  · exact .ret _

section Acts
variable {c c' : SpdmContext}

omit [Device] in
theorem act_never (h : NoteAct (fun _ => False) c c') : Steps (Act false touch) c c' :=
  .single (MildAct.act (h.mild.mono (fun _ _ h => h) fun _ h => h.elim))

omit [Device] in
theorem within_handleSpdmVersion (ht : ∀ id, touch id) :
    Within (Steps (Act false touch)) (handleSpdmVersion bytes) :=
  within_version (fun _ _ => act_never) (fun c => .single (.reset c ht)) bytes

omit [Device] in
theorem within_handleSpdmCapability :
    Within (Steps (Act false touch)) (handleSpdmCapability bytes) :=
  within_capability (fun _ _ => act_never)
    (fun _ _ h => .single (.negotiates (.of_eq (by rw [h])))) bytes

theorem within_handleSpdmAlgorithm :
    Within (Steps (Act false touch)) (handleSpdmAlgorithm bytes) :=
  within_algorithm (fun _ _ => act_never)
    (fun _ _ h => .single (.negotiates (.of_eq (by rw [h.rest])))) bytes

end Acts

/-! ## §3. Attestation. -/

section
omit [Device]

theorem within_appendB [SilentRel R] :
    Within R (appendB sessionId m) := by
  cases sessionId with
  | none => exact within_orRefuse (within_appendMessageB m)
  | some _ => exact .ret _

theorem within_appendC [SilentRel R] : Within R (appendC m) :=
  within_orRefuse (within_appendMessageC m)

theorem within_appendM [MildRel touch R]
    (ht : ∀ id, sessionId = some id → touch id) : Within R (appendM sessionId m) :=
  within_orRefuse (within_appendMessageM ht m)

theorem fillDigests_still (hashSel : Flags) (chains : List Bytes) (offset : Nat) (m : Bytes) :
    Within (fun c c' => c' = c) (fillDigests hashSel chains offset m) := by
  induction chains generalizing offset m with
  | nil => exact .ret _
  | cons chain chains ih =>
    unfold fillDigests
    cases hashAll hashSel chain with
    | none => exact .fail _
    | some digest => exact .bind (.assert _) fun _ => ih _ _

theorem within_digestsResponse [MildRel touch R]
    (ht : ∀ id, sessionId = some id → touch id) :
    Within R (digestsResponse bytes sessionId) :=
  .bind within_demandNegotiated fun _ => .bind within_readHeader fun _ =>
    .bind (.update (mild_resetBuffer ht)) fun _ => .bind (within_readPayload _ _ _) fun _ =>
    .bind within_appendB fun _ => .bind .read fun _ => .bind (.orAbort _) fun _ =>
    .bind (.of_still digestsPayload_still) fun _ => .bind (within_respond _) fun _ => .ret _

theorem within_handleSpdmDigest [MildRel touch R]
    (ht : ∀ id, sessionId = some id → touch id) :
    Within R (handleSpdmDigest bytes sessionId) :=
  .bind (within_digestsResponse ht) fun _ => .bind (.of_still (fillDigests_still _ _ _ _)) fun _ =>
    .bind within_appendB fun _ => .ret _

theorem within_handleSpdmCertificate [MildRel touch R]
    (ht : ∀ id, sessionId = some id → touch id) :
    Within R (handleSpdmCertificate bytes sessionId) :=
  .bind within_demandNegotiated fun _ => .bind within_readHeader fun _ =>
    .bind (.update (mild_resetBuffer ht)) fun _ => .bind .read fun _ =>
    .bind (within_readPayload _ _ _) fun _ => .bind within_appendB fun _ =>
    .bind within_expect fun _ => .bind within_expect fun _ =>
    .bind (within_demand _ _ _) fun _ => .bind (within_respond _) fun _ =>
    .bind within_appendB fun _ => .ret _

end

omit [Crypto] in
theorem within_summaryHash [SilentRel R] {t : UInt8} :
    Within R (summaryHash t e) := by
  refine .bind .read fun _ => ?_
  split
  · exact .bind (within_silentUpdate fun _ => .of_eq rfl) fun _ => .bind within_expect fun _ =>
      .bind (within_demand _ _ _) fun _ => .ret _
  · exact .bind (within_silentUpdate fun _ => .of_eq rfl) fun _ => .ret _

omit [Crypto] [Device] in
theorem within_myIdentity [StepRel R]
    {slotId pubKeySlotId : Nat} : Within R (myIdentity c slotId pubKeySlotId) := by
  unfold myIdentity
  split
  · exact within_expect
  · exact .bind within_expect fun _ => within_expect

theorem within_handleSpdmChallenge [MildRel touch R] :
    Within R (handleSpdmChallenge bytes) :=
  .bind within_demandNegotiated fun _ => .bind within_readHeader fun _ =>
    .bind (.update (mild_resetBuffer fun _ h => by cases h)) fun _ => .bind .read fun _ =>
    .bind (within_readPayload _ _ _) fun _ => .bind within_summaryHash fun _ =>
    .bind within_myIdentity fun _ => .bind within_appendC fun _ =>
    .bind within_expect fun _ => .bind (within_orRefuse within_getRandom) fun _ =>
    .bind .read fun _ => .bind (.orAbort _) fun _ => .bind (.orAbort _) fun _ =>
    .bind within_assertField fun _ => .bind within_assertField fun _ =>
    .bind (within_demand _ _ _) fun _ => .bind within_appendC fun _ => .bind .read fun _ =>
    .bind within_expect fun _ => .bind within_placeSignature fun _ =>
    .bind (.update mild_resetMessageBC) fun _ => .ret _

omit [Crypto] [Device] in
theorem within_demandMeasurementSlot [SilentRel R] {p : GetMeasurementsPayload} :
    Within R (demandMeasurementSlot p) := by
  refine .bind .read fun _ => .bind (within_silentUpdate fun _ => .of_eq rfl) fun _ => ?_
  split
  · exact .bind within_myIdentity fun _ => .ret _
  · exact within_demand _ _ _

omit [Crypto] in
theorem within_measurementRecordFor [StepRel R] {operation number : UInt8} :
    Within R (measurementRecordFor c operation number) := by
  unfold measurementRecordFor
  split
  · exact within_expect
  · split
    · exact .ret _
    · exact .bind (within_demand _ _ _) fun _ => within_expect

theorem within_generateMeasurementSignature [StepRel R] :
    Within R (generateMeasurementSignature sessionId) := by
  refine .bind .read fun _ => .bind (.orFail _ _) fun _ => .bind ?_ fun _ => .orFail _ _
  split
  · exact .bind (.orAbort _) fun _ => .ret _
  · exact .orFail _ _

theorem within_writeSpdmMeasurementResponse [MildRel touch R]
    (ht : ∀ id, sessionId = some id → touch id) :
    Within R (writeSpdmMeasurementResponse sessionId bytes) := by
  refine .bind within_demandNegotiated fun _ => .bind within_readHeader fun _ =>
    .bind (.update (mild_resetBuffer ht)) fun _ => .bind .read fun _ =>
    .bind (within_readPayload _ _ _) fun _ => .bind (.orAbort _) fun _ =>
    .bind within_demandMeasurementSlot fun _ => .bind (within_appendM ht) fun _ =>
    .bind within_expect fun _ => .bind within_measurementRecordFor fun _ =>
    .bind (within_orRefuse within_getRandom) fun _ => .bind .read fun _ =>
    .bind (within_demand _ _ _) fun _ => ?_
  split
  · exact .bind (within_appendM ht) fun _ =>
      .bind (within_orRefuse within_generateMeasurementSignature) fun _ =>
      .bind within_placeSignature fun _ => .bind (.update (mild_resetMessageM ht)) fun _ =>
      .ret _
  · exact .bind (within_appendM ht) fun _ => .ret _

theorem within_handleSpdmMeasurement [MildRel touch R]
    (ht : ∀ id, sessionId = some id → touch id) :
    Within R (handleSpdmMeasurement sessionId bytes) := by
  refine .bind (.attempt (within_writeSpdmMeasurementResponse ht)) fun r => ?_
  cases r with
  | ok response => exact .ret _
  | error e =>
    refine .bind ?_ fun _ => .fail _
    split
    · exact .ret _
    · exact .update (mild_resetMessageM ht)

/-! ## §4. Steps of a handler with a session. -/

section Guarded
variable {I : SpdmContext → Prop} [StepRel R]
  {J : α → SpdmContext → Prop}

omit [Crypto] [Device]

theorem leads_refuse : Leads I R J (refuse e code : Handler α) :=
  fun c _ => StepRel.refl c

theorem leads_orRefuse {m : SpdmResult α} (hm : Leads I R J m) : Leads I R J (orRefuse m e code) :=
  .caught hm (fun _ => .ret fun _ h => h) fun _ => leads_refuse

theorem leads_readPayload {p : Parser α} {rest : Bytes} :
    Leads I R (fun a c => p rest = .ok a.1 a.2 ∧ I c) (readPayload p rest e) := by
  intro c hc
  unfold readPayload
  rw [wp_bind, wp_parseRest]
  exact ⟨fun a left h => ⟨StepRel.refl c, h, hc⟩, fun _ _ _ => StepRel.refl c⟩

theorem leads_sessionStep {J : SpdmContext → Prop}
    {m : Prog SpdmSession SpdmStatus Unit}
    (hm : Leads I R (fun _ => J) (withSession id SpdmStatus.invalidStateLocal m)) :
    Leads I R (fun _ => J) (sessionStep id m) :=
  .caught hm (fun _ => .ret fun _ h => h) fun _ => leads_refuse

end Guarded

omit [Crypto] [Device] in
theorem within_sessionOf [StepRel R] :
    Within R (sessionOf id) :=
  .bind .read fun _ => within_expect

omit [Device] in
theorem act_teardownSession (ht : touch id) (c : SpdmContext) :
    Steps (Act false touch) c (teardownSession id c) :=
  (steps_teardownSession ht c).lift fun _ _ h => .single h.act

omit [Crypto] [Device] in
theorem leads_ownSession {I : SpdmContext → Prop} [StepRel R] {J : α → SpdmContext → Prop}
    (hdown : ∀ c, R c (teardownSession id c)) {m : Handler α} (hm : Leads I R J m) :
    Leads I R J (ownSession id m) :=
  .caught hm (fun _ => .ret fun _ h => h) fun _ =>
    .bind (.of_within (.update hdown)) fun _ => .fail _

section
omit [Device]

theorem within_appendK [MildRel touch R] (ht : touch id) :
    Within R (appendK id m e) :=
  within_orRefuse (within_appendMessageK ht m)

theorem within_appendF [MildRel touch R] (ht : touch id) :
    Within R (appendF id m) :=
  within_orRefuse (within_appendMessageF false ht m)

theorem transcriptHash_still {usePsk isMutAuth : Bool} :
    Within (fun c c' => c' = c) (transcriptHash usePsk isMutAuth id) :=
  .bind within_sessionOf fun _ => within_orRefuse calcRspTranscriptHash_still

end

omit [Crypto] [Device] in
theorem within_versionSelOpaque [StepRel R] {offer : Bytes} :
    Within R (versionSelOpaque offer) := by
  refine .bind .read fun _ => .bind (within_parse _) fun offered => ?_
  cases offered with
  | none => exact .ret _
  | some offered => exact .bind within_expect fun _ => within_expect

omit [Crypto] [Device] in
theorem within_readExchangeHeader [StepRel R] : Within R (readExchangeHeader bytes) :=
  .bind within_readHeader fun _ => .bind .read fun _ => .bind (within_demand _ _ _) fun _ =>
    .ret _

omit [Device] in
theorem within_responseMac (ht : touch id) {hash : Bytes} :
    Within (Steps (MildAct touch)) (responseMac id hash) := by
  refine .bind within_sessionOf fun s => ?_
  cases s.generateHmacWithResponseFinishedKey hash with
  | some mac => exact .ret _
  | none => exact .bind (.update (steps_teardownSession ht)) fun _ => within_refuse

omit [Crypto] [Device] in
theorem within_placeVerifyData [StepRel R]
    {mac : Bytes} : Within R (placeVerifyData body mac size) :=
  .bind (.assert _) fun _ => .ret _

omit [Crypto] [Device] in
theorem leads_nextHalfSessionId {I : SpdmContext → Prop}
    [StepRel R] : Leads I R (fun own c => c.getNextHalfSessionId false = .ok own)
    nextHalfSessionId := by
  intro c _
  unfold nextHalfSessionId
  rw [wp_bind, wp_read]
  cases hnext : c.getNextHalfSessionId false with
  | error e => exact StepRel.refl c
  | ok own => exact ⟨StepRel.refl c, hnext⟩

omit [Device] in
theorem leads_deriveHandshake (ht : touch id) {th1 : Bytes} :
    Leads (Standing false id Fresh) (Steps (Act false touch)) (fun _ => Standing false id Fresh)
      (deriveHandshake id th1) :=
  .bind .read fun _ => .mono
    (leads_sessionStep (leads_withSession ht fun _ _ hs => wp_handshakeKeys hs th1))
    (fun _ h => h.2) fun _ _ h => h

def Handshaking (s : SpdmSession) : Prop := s.sessionState = .handshaking

omit [Crypto] [Device] in
theorem handshaking_transcript {t : SpdmSession} (h : TranscriptStep s t) (hs : Handshaking s) :
    Handshaking t := h.sessionState_eq.trans hs

omit [Device] in
theorem leads_deriveData (ht : touch id) {th2 : Bytes} :
    Leads (Standing false id Handshaking) (Steps (Act false touch))
      (fun _ => Standing false id Handshaking) (deriveData id th2) :=
  .bind .read fun _ => .mono
    (leads_sessionStep (leads_withSession ht fun _ _ hs => wp_dataKeys hs th2))
    (fun _ h => h.2) fun _ _ h => h

omit [Device] in
theorem leads_startHandshake (ht : touch id) {f : SpdmSession → SpdmSession}
    (hf : ∀ s, TranscriptStep (s.setSessionState .handshaking) (f s)) :
    Leads (Standing false id Fresh) (Steps (Act false touch))
      (fun _ => Standing false id Handshaking) (changeSession id f) :=
  leads_orRefuse (leads_withSession ht fun s used hs =>
    (wp_update f).2 (steps_handshaking used hs (hf s)))

/-! ## §5. KEY_EXCHANGE. -/

omit [Crypto] [Device] in
theorem within_requestMutAuth [SilentRel R] : Within R requestMutAuth := by
  refine .bind .read fun c => ?_
  split
  · split
    · exact .bind (within_demand _ _ _) fun _ =>
        .bind (within_silentUpdate fun _ => .of_eq rfl) fun _ => .ret _
    · exact .ret _
  · exact .ret _

omit [Crypto] in
theorem within_exchangeKeys [SilentRel R] {peer : Bytes} :
    Within R (exchangeKeys c peer) := by
  refine .bind within_drawEntropy fun _ => ?_
  split
  · exact .bind within_expect fun _ => .ret _
  · exact .bind within_expect fun _ => .bind within_expect fun _ => .ret _

omit [Crypto] [Device] in
theorem within_demandNoEvents [StepRel R] {policy : UInt8} :
    Within R (demandNoEvents policy) := by
  refine .bind .read fun _ => ?_
  split
  · exact .fail _
  · exact .ret _

omit [Crypto] in
theorem leads_readKeyExchange (bytes : Bytes) :
    Leads (fun _ => True) (Steps (NoteAct fun _ => False))
      (fun r _ => r.payload.reqSessionId < 2 ^ 16 ∧ True) (readKeyExchange bytes) :=
  .bind (.of_within within_demandNegotiated) fun _ =>
    .bind (.of_within within_readExchangeHeader) fun _ =>
    .bind (.of_within (.update (mild_resetBuffer fun _ h => by cases h))) fun _ =>
    .bind (.of_within .read) fun c => .bind leads_readPayload fun _ => .assume fun hp =>
    .bind (.of_within within_summaryHash) fun _ =>
    .ret fun _ _ => ⟨(ends_parseKeyExchange c).of_ok hp, trivial⟩

theorem leads_prepareKeyExchange (bytes : Bytes) :
    Leads (fun _ => True) (Steps (NoteAct fun _ => False)) (fun p => NextFor false p.sessionId)
      (prepareKeyExchange bytes) := by
  refine .bind (leads_readKeyExchange bytes) fun r => .assume fun hlt => ?_
  refine .bind (.of_within (within_silentUpdate fun _ => .of_eq rfl)) fun _ =>
    .bind (.of_within within_demandNoEvents) fun _ =>
    .bind (.of_within within_versionSelOpaque) fun _ =>
    .bind (.of_within (within_demand _ _ _)) fun _ =>
    .bind (.of_within (within_silentUpdate fun _ => .of_eq rfl)) fun _ =>
    .bind (.of_within within_exchangeKeys) fun _ =>
    .bind leads_nextHalfSessionId fun rspSessionId => ?_
  refine .bind
    (.mono (.of_steps within_requestMutAuth (fun _ _ h => .single h) fun _ _ hact h =>
      h.of_session_eq hact.mild.session_eq)
      (fun _ h => nextFor_responder hlt h) fun _ _ h => h) fun _ => ?_
  exact .bind (.of_still within_expect) fun _ =>
    .bind (.of_still (.bind .read fun _ => within_demand _ _ _)) fun _ => .ret fun _ h => h

omit [Device] in
theorem leads_openKeyExchangeSession {p : PreparedKeyExchange} (ht : touch p.sessionId) :
    Leads (fun c => Table false c ∧ NextFor false p.sessionId c) (Steps (Act false touch))
      (fun _ => Standing false p.sessionId Fresh) (openKeyExchangeSession p) := by
  refine .bind .read fun c => ?_
  refine .mono (.caught (leads_opens ht fun s =>
      wp_setup (.bind (.update fun _ => rfl) fun _ => within_setSharedSecret)) (fun _ => ?_)
    fun _ => ?_) (fun _ h => h.2) fun _ _ h => h
  · exact leads_orRefuse (leads_mild (fun _ _ => TranscriptStep.fresh)
      (within_transcript ht (.update fun _ => by rfl)))
  · exact .bind (.of_within (.update (act_teardownSession ht))) fun _ => leads_refuse

theorem within_generateKeyExchangeRspSignature :
    Within (fun c c' => c' = c) (generateKeyExchangeRspSignature s) := by
  refine .bind .read fun c => .bind calcRspTranscriptHash_still fun _ => .bind ?_ fun _ =>
    .orFail _ _
  split
  · exact .bind (.guardElse _ _) fun _ => .ret _
  · exact .bind calcTranscriptData_still fun _ => .ret _

section Exchange
variable {I₀ I J K L : SpdmContext → Prop} {P : Bytes → Prop} [StepRel R]
  {S : SpdmContext → SpdmContext → Prop} [MildRel touch S] {id : Nat}
  (hS : ∀ {β : Type} {m : Handler β}, Within S m → Leads I R (fun _ => I) m)
  (happend : ∀ m rest, P m → P (m ++ rest)) (ht : touch id)
  (hmac : ∀ hash, Within S (responseMac id hash))
  (hderive : ∀ th1, Leads I R (fun _ => I) (deriveHandshake id th1))

include hS happend ht hmac

omit [Device] in
theorem leads_keyExchangeVerifyData {message : Bytes} (hm : P message) :
    Leads I R (fun m c => P m ∧ I c) (keyExchangeVerifyData id message size) := by
  refine .bind .read fun c => .mono (I := I) ?_ (fun _ h => h.2) fun _ _ h => h
  split
  · exact .ret fun _ h => ⟨hm, h⟩
  · exact .bind (hS (.of_still transcriptHash_still)) fun _ => .bind (hS (hmac _)) fun _ =>
      .bind (hS (within_appendK ht)) fun _ => .bind (hS (.assert _)) fun _ =>
      .ret fun _ h => ⟨happend _ _ hm, h⟩

include hderive

theorem leads_keyExchange {p : PreparedKeyExchange} (hid : p.sessionId = id)
    (hopen : Leads I₀ R (fun _ => I) (openKeyExchangeSession p))
    (hbody : ∀ c payload, I c → payload.heartbeatPeriod = c.configInfo.heartbeatPeriod →
      P (encodeKeyExchangeRsp c payload))
    (hstart : ∀ c, I c → Leads I R (fun _ => J) (changeSession id fun s => { s with
      heartbeatPeriod := c.configInfo.heartbeatPeriod
      secureSpdmVersionSel := secureVersionOf p.returnOpaque s.secureSpdmVersionSel
      sessionState := .handshaking }))
    (hlast : Leads J R (fun _ => K) (update fun c => { c with runtimeInfo :=
      { c.runtimeInfo with lastSessionId := some id } } : Handler Unit))
    (hstay : ∀ c, J c → K c) : Leads I₀ R (fun m c => P m ∧ K c) (runKeyExchange p) := by
  subst hid
  refine .bind hopen fun _ => .bind (hS (within_orRefuse within_getRandom)) fun _ =>
    .bind .read fun c => .mono (.assume fun hc => ?_) (fun _ h => ⟨h.1 ▸ h.2, h.2⟩) fun _ _ h => h
  refine .bind (hS (.orAbort _)) fun _ => .bind (hS (.orAbort _)) fun _ =>
    .bind (hS within_assertField) fun _ => .bind (hS (within_demand _ _ _)) fun _ =>
    .bind (hS (within_appendK ht)) fun _ => .bind (hS (within_appendK ht)) fun _ =>
    .bind (hS within_sessionOf) fun _ =>
    .bind (hS (.of_still (within_orRefuse within_generateKeyExchangeRspSignature))) fun _ =>
    .bind (hS (within_appendK ht)) fun _ =>
    .bind (J := fun m c => P m ∧ I c) (.bind (hS (.assert _)) fun _ =>
      .ret fun _ h => ⟨happend _ _ (hbody c _ hc rfl), h⟩) fun _ => .assume fun hmessage =>
    .bind (hS (.of_still transcriptHash_still)) fun _ => .bind (hderive _) fun _ =>
    .bind (leads_keyExchangeVerifyData hS happend ht hmac hmessage) fun _ =>
    .assume fun hresponse => .bind (hstart c hc) fun _ => .bind (J := fun _ => K) ?_ fun _ =>
    .ret fun _ h => ⟨hresponse, h⟩
  split
  · exact hlast
  · exact .ret hstay

omit [Device] in
theorem leads_pskExchange {p : PreparedPskExchange} (hid : p.sessionId = id)
    (hopen : Leads I₀ R (fun _ => I) (openPskSession p))
    (hbody : ∀ c payload, I c → payload.heartbeatPeriod = c.configInfo.heartbeatPeriod →
      P (encodePskExchangeRsp c payload))
    (hstart : Leads I R (fun _ => J) (changeSession id (SpdmSession.setSessionState .handshaking)))
    (hestablish : ∀ c, I c →
      Leads J R (fun _ => K) (if c.pskWithoutContext then establishPsk id else ret ()))
    (hperiod : ∀ c, I c → Leads K R (fun _ => L) (changeSession id fun s => { s with
      heartbeatPeriod := c.configInfo.heartbeatPeriod
      secureSpdmVersionSel := secureVersionOf p.returnOpaque s.secureSpdmVersionSel })) :
    Leads I₀ R (fun m c => P m ∧ L c) (runPskExchange p) := by
  subst hid
  refine .bind hopen fun _ => .bind .read fun c =>
    .mono (.assume fun hc => ?_) (fun _ h => ⟨h.1 ▸ h.2, h.2⟩) fun _ _ h => h
  exact .bind (hS (.orAbort _)) fun _ => .bind (hS within_assertField) fun _ =>
    .bind (hS (within_demand _ _ _)) fun _ => .bind (hS (within_appendK ht)) fun _ =>
    .bind (hS (within_appendK ht)) fun _ => .bind (hS (.of_still transcriptHash_still)) fun _ =>
    .bind (hderive _) fun _ => .bind (hS (.of_still transcriptHash_still)) fun _ =>
    .bind (hS (hmac _)) fun _ => .bind (hS (within_appendK ht)) fun _ =>
    .bind (J := fun m c => P m ∧ I c) (.bind (hS (.assert _)) fun _ =>
      .ret fun _ h => ⟨happend _ _ (hbody c _ hc rfl), h⟩) fun _ => .assume fun hresponse =>
    .bind hstart fun _ => .bind (hestablish c hc) fun _ => .bind (hperiod c hc) fun _ =>
    .ret fun _ h => ⟨hresponse, h⟩

end Exchange

theorem leads_runKeyExchange {p : PreparedKeyExchange} (ht : touch p.sessionId) :
    Leads (fun c => Table false c ∧ NextFor false p.sessionId c) (Steps (Act false touch))
      (fun _ _ => True) (runKeyExchange p) :=
  .mono (leads_keyExchange (S := Steps (MildAct touch)) (P := fun _ => True) (K := fun _ => True)
    (leads_mild fun _ _ => TranscriptStep.fresh) (fun _ _ h => h) ht
    (fun _ => within_responseMac ht) (fun _ => leads_deriveHandshake ht) rfl
    (leads_openKeyExchangeSession ht)
    (fun _ _ _ _ => trivial) (fun _ _ => leads_startHandshake ht fun _ => rfl)
    (.update fun c hc => ⟨.single (.last c fun h => hc.id_ne (Option.some.inj h)), trivial⟩)
    fun _ _ => trivial) (fun _ h => h) fun _ _ _ => trivial

omit [Device] in
theorem leads_exchange {π : Type} {prepare : Handler π} {run : π → Handler α} {id : π → Nat}
    (hprepare : Leads (fun _ => True) (Steps (NoteAct fun _ => False))
      (fun p => NextFor false (id p)) prepare)
    (hrun : ∀ p, touch (id p) → Leads (fun c => Table false c ∧ NextFor false (id p) c)
      (Steps (Act false touch)) (fun _ _ => True) (run p)) :
    Leads (TouchesNew false touch) (Steps (Act false touch)) (fun _ _ => True) (do
      let p ← prepare
      ownSession (id p) (run p)) := by
  have hkeep := hprepare.keep fun _ _ hst h =>
    hst.keep (I := TouchesNew false touch) (fun _ _ hact => Table.touchesNew_mildAct hact.mild) h
  have hprepare := hkeep.weaken (S := Steps (Act false touch)) fun _ _ hst =>
    hst.lift fun _ _ => act_never
  refine .bind (hprepare.mono (fun _ h => ⟨trivial, h⟩) fun _ _ h => h) fun p => ?_
  exact .mono (.assume fun ht => leads_ownSession (act_teardownSession ht) (hrun p ht))
    (fun c h => ⟨h.2.2 _ h.1, h.2.1, h.1⟩) fun _ _ h => h

theorem leads_handleSpdmKeyExchange :
    Leads (TouchesNew false touch) (Steps (Act false touch)) (fun _ _ => True)
      (handleSpdmKeyExchange bytes) :=
  leads_exchange (leads_prepareKeyExchange bytes) fun _ => leads_runKeyExchange

/-! ## §6. PSK_EXCHANGE. -/

omit [Crypto] in
theorem leads_preparePskExchange (bytes : Bytes) :
    Leads (fun _ => True) (Steps (NoteAct fun _ => False)) (fun p => NextFor false p.sessionId)
      (preparePskExchange bytes) := by
  refine .bind (.of_within within_demandNegotiated) fun _ =>
    .bind (.of_within within_readExchangeHeader) fun _ =>
    .bind (.of_within (.update (mild_resetBuffer fun _ h => by cases h))) fun _ =>
    .bind (.of_within .read) fun c => .bind leads_readPayload fun pr => ?_
  refine .assume fun hp => ?_
  refine .bind (.of_within within_summaryHash) fun _ =>
    .bind (.of_within within_versionSelOpaque) fun _ => .bind (.of_within ?_) fun _ =>
    .bind leads_nextHalfSessionId fun _ =>
    .bind (.of_still (.bind .read fun _ => within_demand _ _ _)) fun _ =>
    .ret fun _ h => nextFor_responder ((ends_parsePskExchange c).of_ok hp) h
  split
  · exact within_orRefuse within_getRandom
  · exact .ret _

omit [Device] in
theorem leads_openPskSession {p : PreparedPskExchange} (ht : touch p.sessionId) :
    Leads (fun c => Table false c ∧ NextFor false p.sessionId c) (Steps (Act false touch))
      (fun _ => Standing false p.sessionId Fresh) (openPskSession p) :=
  .bind .read fun _ => .mono (leads_orRefuse (leads_opens ht fun _ =>
    wp_setup (.bind (.update fun _ => by rfl) fun _ => .update fun _ => by rfl)))
    (fun _ h => h.2) fun _ _ h => h

omit [Crypto] [Device] in
theorem within_callWatchdog {ε : Type} {call : SpdmContext → WatchdogCall} :
    Within (Steps (MildAct touch)) (callWatchdog call : Prog SpdmContext ε Unit) := by
  refine within_quietUpdate fun c => ?_
  split
  · exact .of_eq rfl
  · exact .of_eq rfl

omit [Device] in
theorem leads_establishPsk (ht : touch id) :
    Leads (Standing false id Handshaking) (Steps (Act false touch)) (fun _ _ => True)
      (establishPsk id) := by
  have hmild : ∀ {β : Type} {m : Handler β}, Within (Steps (MildAct touch)) m →
      Leads (Standing false id Handshaking) (Steps (Act false touch))
        (fun _ => Standing false id Handshaking) m :=
    fun hm => leads_mild (fun _ _ => handshaking_transcript) hm
  refine .bind (hmild (.of_still transcriptHash_still)) fun th2 => .bind (hmild .read) fun c =>
    .bind (leads_orRefuse (leads_withSession ht fun _ _ hs => wp_dataKeys hs th2)) fun _ =>
    .bind (leads_orRefuse (leads_withSession (Q := fun _ => True) ht
      fun _ used _ => (wp_update _).2 ⟨.single (.established used), trivial⟩)) fun _ =>
    .of_within (within_act_of_mild within_callWatchdog)

omit [Device] in
theorem leads_runPskExchange {p : PreparedPskExchange} (ht : touch p.sessionId) :
    Leads (fun c => Table false c ∧ NextFor false p.sessionId c) (Steps (Act false touch))
      (fun _ _ => True) (runPskExchange p) := by
  refine .mono (leads_pskExchange (S := Steps (MildAct touch)) (P := fun _ => True)
    (K := fun _ => True) (L := fun _ => True) (leads_mild fun _ _ => TranscriptStep.fresh)
    (fun _ _ h => h) ht (fun _ => within_responseMac ht) (fun _ => leads_deriveHandshake ht) rfl
    (leads_openPskSession ht) (fun _ _ _ _ => trivial) (leads_startHandshake ht fun _ => rfl)
    (fun c _ => ?_) fun _ _ => .of_within (within_act_of_mild
      (within_orRefuse (within_transcript ht (.update fun _ => by rfl)))))
    (fun _ h => h) fun _ _ _ => trivial
  split
  · exact leads_establishPsk ht
  · exact .ret fun _ _ => trivial

theorem leads_handleSpdmPskExchange :
    Leads (TouchesNew false touch) (Steps (Act false touch)) (fun _ _ => True)
      (handleSpdmPskExchange bytes) :=
  leads_exchange (leads_preparePskExchange bytes) fun _ => leads_runPskExchange

/-! ## §7. FINISH and PSK_FINISH. -/

theorem verifyFinishReqSignature_still :
    Within (fun c c' => c' = c) (verifyFinishReqSignature signature s) := by
  refine .bind .read fun c => .bind calcRspTranscriptHash_still fun _ =>
    .bind peerKey_still fun _ => .bind ?_ fun _ => within_liftResult
  split_ifs
  · exact .ret _
  · exact .fail _
  · exact .ret _

theorem within_verifyFinishSignature [MildRel touch R] (ht : touch id) :
    Within R (verifyFinishSignature id signature) :=
  .bind within_sessionOf fun _ =>
    .bind (.of_still (within_orRefuse verifyFinishReqSignature_still)) fun _ =>
    within_appendF ht

omit [Device] in
theorem within_verifyRequestMac [StepRel R]
    {hash mac : Bytes} : Within R (verifyRequestMac id hash mac) :=
  .bind within_sessionOf fun _ => within_demand _ _ _

omit [Device] in
theorem within_completeFinishRsp [MildRel touch R] (ht : touch id) {isMutAuth : Bool} :
    Within R (completeFinishRsp id isMutAuth body size) := by
  refine .bind .read fun c => ?_
  split
  · exact .bind (within_appendF ht) fun _ => .bind (.of_still transcriptHash_still) fun _ =>
      .bind within_sessionOf fun _ => .bind within_expect fun _ =>
      .bind (within_appendF ht) fun _ => within_placeVerifyData
  · exact .bind (within_appendF ht) fun _ => .ret _

section Finish
variable {I : SpdmContext → Prop} [StepRel R] {id : Nat}
  (ht : touch id) (hR : ∀ c c', NoteAct touch c c' → R c c')
  (hdown : ∀ c, R c (teardownSession id c)) (hI : ∀ c c', NoteAct touch c c' → I c → I c')
  (hderive : ∀ th2, Leads I R (fun _ _ => True) (deriveData id th2))

include ht hR hI hderive

theorem leads_writeSpdmFinishResponse (bytes : Bytes) :
    Leads I R (fun _ _ => True) (writeSpdmFinishResponse id bytes) := by
  have hmild : ∀ {β : Type} {m : Handler β}, Within (Steps (NoteAct touch)) m →
      Leads I R (fun _ => I) m := fun hm => .of_steps hm hR hI
  refine .bind (hmild within_readHeader) fun _ =>
    .bind (hmild (.update (mild_resetBuffer fun _ h => by cases h; exact ht))) fun _ =>
    .bind (hmild .read) fun c => .bind (hmild (within_readPayload _ _ _)) fun _ =>
    .bind (hmild (within_appendF ht)) fun _ => .bind (hmild within_sessionOf) fun s =>
    .bind (hmild (within_demand _ _ _)) fun _ => .bind (hmild ?_) fun _ =>
    .bind (hmild (.orAbort _)) fun _ => .bind (hmild within_sessionOf) fun _ =>
    .bind (hmild (within_demand _ _ _)) fun _ =>
    .bind (hmild (.of_still transcriptHash_still)) fun _ =>
    .bind (hmild within_verifyRequestMac) fun _ => .bind (hmild (within_appendF ht)) fun _ =>
    .bind (hmild (within_demand _ _ _)) fun _ =>
    .bind (hmild (within_completeFinishRsp ht)) fun _ =>
    .bind (hmild (.of_still transcriptHash_still)) fun _ =>
    .bind (hderive _) fun _ => .ret fun _ _ => trivial
  split
  · exact within_verifyFinishSignature ht
  · exact .ret _

omit [Device] in
theorem leads_writeSpdmPskFinishResponse (bytes : Bytes) :
    Leads I R (fun _ _ => True) (writeSpdmPskFinishResponse id bytes) := by
  have hmild : ∀ {β : Type} {m : Handler β}, Within (Steps (NoteAct touch)) m →
      Leads I R (fun _ => I) m := fun hm => .of_steps hm hR hI
  exact .bind (hmild within_readHeader) fun _ =>
    .bind (hmild (.update (mild_resetBuffer fun _ h => by cases h; exact ht))) fun _ =>
    .bind (hmild .read) fun c => .bind (hmild (within_readPayload _ _ _)) fun _ =>
    .bind (hmild (.orAbort _)) fun _ => .bind (hmild within_sessionOf) fun _ =>
    .bind (hmild (within_demand _ _ _)) fun _ => .bind (hmild (within_appendF ht)) fun _ =>
    .bind (hmild (.of_still transcriptHash_still)) fun _ =>
    .bind (hmild within_verifyRequestMac) fun _ => .bind (hmild (within_appendF ht)) fun _ =>
    .bind (hmild (within_respond _)) fun _ => .bind (hmild (within_appendF ht)) fun _ =>
    .bind (hmild (.of_still transcriptHash_still)) fun _ =>
    .bind (hderive _) fun _ => .ret fun _ _ => trivial

include hdown

theorem leads_finish (bytes : Bytes) :
    Leads I R (fun _ _ => True) (handleSpdmFinish id bytes) := by
  refine .bind .read fun c => ?_
  split
  · exact .of_within (.bind (.update hdown) fun _ => .ret _)
  · exact .mono (.bind (leads_ownSession hdown
      (leads_writeSpdmFinishResponse ht hR hI hderive bytes))
      fun _ => .ret fun _ _ => trivial) (fun _ h => h.2) fun _ _ h => h

omit [Device] in
theorem leads_pskFinish (bytes : Bytes) :
    Leads I R (fun _ _ => True) (handleSpdmPskFinish id bytes) :=
  leads_ownSession hdown (leads_writeSpdmPskFinishResponse ht hR hI hderive bytes)

end Finish

theorem leads_handleSpdmFinish (ht : touch id) (bytes : Bytes) :
    Leads (Standing false id Handshaking) (Steps (Act false touch)) (fun _ _ => True)
      (handleSpdmFinish id bytes) :=
  leads_finish ht (fun _ _ h => .single h.mild.act) (act_teardownSession ht)
    (fun _ _ hact h => h.mildAct (fun _ _ => handshaking_transcript) hact.mild)
    (fun _ => .mono (leads_deriveData ht) (fun _ h => h) fun _ _ _ => trivial) bytes

omit [Device] in
theorem leads_handleSpdmPskFinish (ht : touch id) (bytes : Bytes) :
    Leads (Standing false id Handshaking) (Steps (Act false touch)) (fun _ _ => True)
      (handleSpdmPskFinish id bytes) :=
  leads_pskFinish ht (fun _ _ h => .single h.mild.act) (act_teardownSession ht)
    (fun _ _ hact h => h.mildAct (fun _ _ => handshaking_transcript) hact.mild)
    (fun _ => .mono (leads_deriveData ht) (fun _ h => h) fun _ _ _ => trivial) bytes

/-! ## §8. A running session. -/

section
omit [Device]

theorem within_applyKeyUpdate {v : SpdmVersion} {op : UInt8} :
    Within (Steps (SlotAct false)) (applyKeyUpdate v op) := by
  have hcreate : ∀ req rsp, Within (Steps (SlotAct false))
      (SpdmSession.createDataSecretUpdate v req rsp) :=
    fun req rsp => .of_ran fun _ _ hran => .single (.createUpdate v req rsp hran)
  unfold applyKeyUpdate
  split_ifs
  · exact .bind (.attempt (hcreate _ _)) fun _ => .ret _
  · exact .bind (.attempt (hcreate _ _)) fun _ =>
      .update fun s => .single (.activateUpdate s _ _ _)
  · exact .update fun s => .single (.activateUpdate s _ _ _)

theorem within_keyUpdate [StepRel R]
    (ht : touch id) (hR : ∀ c c', NoteAct touch c c' → R c c')
    (hupdate : ∀ v op, Within R
      (withSession id SpdmStatus.invalidStateLocal (applyKeyUpdate v op))) (bytes : Bytes) :
    Within R (handleSpdmKeyUpdate id bytes) := by
  have hreset : ∀ opcode c, Steps (NoteAct touch) c
    (resetBufferViaRequestCode opcode (some id) c) :=
    fun _ => mild_resetBuffer fun _ h => by cases h; exact ht
  refine .bind within_readHeader fun _ => .bind (.update fun c => (hreset _ c).lift hR) fun _ =>
    .bind (within_readPayload _ _ _) fun _ => .bind .read fun _ =>
    .bind ?_ fun _ => within_respond _
  refine .bind (.attempt (hupdate _ _)) fun r => ?_
  cases r with
  | ok _ => exact .ret _
  | error e => exact within_refuse

theorem within_handleSpdmKeyUpdate (ht : touch id) :
    Within (Steps (Act false touch)) (handleSpdmKeyUpdate id bytes) :=
  within_keyUpdate ht (fun _ _ h => .single h.mild.act)
    (fun _ _ => within_slot ht within_applyKeyUpdate) bytes

end

section
omit [Crypto] [Device]

theorem within_handleSpdmHeartbeat [MildRel touch R] (ht : touch id) :
    Within R (handleSpdmHeartbeat id bytes) :=
  .bind within_readHeader fun _ =>
    .bind (.update (mild_resetBuffer fun _ h => by cases h; exact ht)) fun _ =>
    .bind (within_readPayload _ _ _) fun _ => .bind .read fun _ => within_respond _

theorem within_endSession [MildRel touch R] (ht : touch id)
    (hcall : ∀ call, Within R (callWatchdog call : Handler Unit)) :
    Within R (handleSpdmEndSession id bytes) :=
  .bind (hcall _) fun _ => .bind within_readHeader fun _ =>
    .bind (within_readPayload _ _ _) fun _ =>
    .bind (.update (mild_resetBuffer fun _ h => by cases h; exact ht)) fun _ =>
    .bind .read fun _ => within_respond _

theorem within_handleSpdmEndSession (ht : touch id) :
    Within (Steps (MildAct touch)) (handleSpdmEndSession id bytes) :=
  within_endSession ht fun _ => within_callWatchdog

theorem within_handlerResult [StepRel R]
    {r : HandlerResult} : Within R (handlerResult r) := by
  obtain ⟨status, response⟩ := r
  cases status with
  | ok _ => exact .ret _
  | error e => exact .fail _

end

omit [Crypto] in
theorem within_handleSpdmVendorDefinedRequest [MildRel touch R]
    (ht : ∀ id, sessionId = some id → touch id) :
    Within R (handleSpdmVendorDefinedRequest sessionId bytes) := by
  unfold handleSpdmVendorDefinedRequest
  cases Device.vendorDefinedRequestHandlerEx with
  | some handler => exact within_handlerResult
  | none =>
    refine .bind (.bind within_readHeader fun _ =>
      .bind (.update (mild_resetBuffer ht)) fun _ => .bind .read fun _ =>
      .bind (within_readPayload _ _ _) fun pr => ?_) fun _ => .ret _
    obtain ⟨p, rest⟩ := pr
    dsimp only
    cases Device.vendorDefinedRequestHandler p.vendorId p.payload with
    | error e => exact within_refuse
    | ok payload => exact .bind (.assert _) fun _ => within_respond _

/-! ## §9. Encapsulated requests. -/

section
omit [Crypto] [Device]

theorem within_encapCheckVersionCapState [StepRel R] :
    Within R encapCheckVersionCapState := by
  refine .bind .read fun _ => .bind ?_ fun _ => .bind ?_ fun _ => within_demand _ _ _
  · split
    · exact .ret _
    · exact .fail _
  · split
    · exact .ret _
    · exact .fail _

theorem within_handleGetEncapsulatedRequest [StepRel R] :
    Within R (handleGetEncapsulatedRequest bytes) :=
  .bind within_encapCheckVersionCapState fun _ => .bind within_readHeader fun _ =>
    .bind .read fun _ => .bind (within_respond _) fun _ =>
    .bind (within_demand _ _ _) fun _ => .ret _

theorem within_encapGetCertificate [SilentRel R] : Within R encapGetCertificate :=
  .bind (within_silentUpdate fun _ => .of_eq rfl) fun _ => .bind .read fun _ => .ret _

theorem within_storeEncapPortion [SilentRel R] :
    Within R (storeEncapPortion response) := by
  refine .bind .read fun _ => .bind (within_parse _) fun _ => .bind (.orFail _ _) fun _ =>
    .bind (.orFail _ _) fun _ => .bind (.guardElse _ _) fun _ => .bind (.guardElse _ _) fun _ =>
    .bind (.guardElse _ _) fun _ => .bind ?_ fun _ => .bind .read fun _ =>
    .bind (.guardElse _ _) fun _ => .bind (within_silentUpdate fun _ => .of_eq rfl) fun _ => .ret _
  split
  · exact within_silentUpdate fun _ => .of_eq rfl
  · exact .ret _

end

theorem within_acceptEncapChain [SilentRel R] : Within R acceptEncapChain := by
  refine .bind (.attempt (.of_still (.bind .read fun _ => .bind (.orFail _ _) fun _ =>
    .bind (verifyCertChainBuffer_still _) fun _ => verifyProvisionedRoot_still))) fun r => ?_
  cases r with
  | error e => exact .bind (within_silentUpdate fun _ => .of_eq rfl) fun _ => .fail _
  | ok _ => exact .bind .read fun _ => .bind (.assert _) fun _ => within_silentUpdate fun _ =>
      .of_eq rfl

theorem within_handleEncapResponseCertificate [SilentRel R] :
    Within R (handleEncapResponseCertificate response) := by
  refine .bind within_storeEncapPortion fun _ => .bind .read fun _ => ?_
  split_ifs
  · exact .bind (within_silentUpdate fun _ => .of_eq rfl) fun _ => .fail _
  · exact .bind within_acceptEncapChain fun _ => .ret _
  · exact .ret _

theorem within_processEncapsulatedResponse [SilentRel R] {requestId : UInt8} :
    Within R (processEncapsulatedResponse requestId response) := by
  refine .bind .read fun _ => .bind within_parseRest fun _ => .bind (.orFail _ _) fun _ =>
    .bind (.guardElse _ _) fun _ => ?_
  split_ifs
  · exact .bind (within_parse _) fun _ => .bind (.guardElse _ _) fun _ =>
      .bind within_encapGetCertificate fun _ => .ret _
  · refine .bind within_handleEncapResponseCertificate fun more => ?_
    split
    · exact .bind within_encapGetCertificate fun _ => .ret _
    · exact .ret _
  · exact .fail _

theorem within_handleDeliverEncapsulatedResponse [SilentRel R] :
    Within R (handleDeliverEncapsulatedResponse bytes) :=
  .bind within_encapCheckVersionCapState fun _ => .bind within_readHeader fun _ =>
    .bind (within_readPayload _ _ _) fun _ =>
    .bind (within_orRefuse within_processEncapsulatedResponse) fun _ => .bind .read fun _ =>
    .bind (within_demand _ _ _) fun _ => .ret _

end Responder

end Spdm
