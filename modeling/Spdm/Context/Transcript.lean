/-
  Spdm.Context.Transcript — the running transcripts (`common/mod.rs`).
-/
import Spdm.Context.Def

namespace Spdm

open Effect Codec

/-! ## §1. Bounded buffers. -/

def maxManagedBufferASize : Nat := 150 + 2 * 255

def maxManagedBufferBSize (config : Config) : Nat :=
  24 + spdmMaxHashSize * spdmMaxSlotNumber + config.maxSpdmCertChainDataSize

def maxManagedBufferCSize : Nat :=
  78 + spdmMaxHashSize * 2 + spdmMaxAsymSigSize + maxSpdmOpaqueSize

def maxManagedBufferMSize (config : Config) : Nat :=
  47 + spdmNonceSize + config.maxSpdmMeasurementRecordSize + spdmMaxAsymSigSize +
    maxSpdmOpaqueSize

def maxManagedBufferKSize : Nat :=
  84 + spdmMaxReqKeyExchangeSize + spdmMaxRspKeyExchangeSize + spdmMaxHashSize * 2 +
    spdmMaxAsymSigSize + maxSpdmOpaqueSize * 2

def maxManagedBufferFSize : Nat := 8 + spdmMaxHashSize * 2 + spdmMaxAsymSigSize

def maxManagedBufferM1M2Size (config : Config) : Nat :=
  maxManagedBufferASize + maxManagedBufferBSize config + maxManagedBufferCSize

def maxManagedBufferL1L2Size (config : Config) : Nat :=
  maxManagedBufferASize + maxManagedBufferMSize config

def maxManagedBufferThSize : Nat :=
  maxManagedBufferASize + spdmMaxHashSize + maxManagedBufferKSize + spdmMaxHashSize +
    maxManagedBufferFSize

def appendMessage (max : Nat) (buffer message : Bytes) : Option Bytes :=
  if buffer.length + message.length ≤ max then some (buffer ++ message) else none

theorem appendMessage_eq_some {max : Nat} {buffer message out : Bytes}
    (h : appendMessage max buffer message = some out) : out = buffer ++ message := by
  unfold appendMessage at h
  split at h
  · exact (Option.some.inj h).symm
  · cases h

namespace SpdmContext

variable [Crypto]

/-! ## §2. Messages A, B and C. -/

def appendMessageA (message : Bytes) : SpdmResult Unit := do
  let c ← read
  let a ← orFail .bufferFull (appendMessage maxManagedBufferASize c.runtimeInfo.messageA message)
  update fun c => { c with runtimeInfo := { c.runtimeInfo with messageA := a } }

def feedM1M2 (e : SpdmStatus) (message : Bytes) : SpdmResult Unit := do
  let c ← read
  let ctx ← (match c.runtimeInfo.digestContextM1M2 with
    | some ctx => ret ctx
    | none => do
      let ctx ← orFail e (hashCtxInit c.negotiateInfo.baseHashSel)
      ret (ctx.feed c.runtimeInfo.messageA))
  update fun c => { c with runtimeInfo :=
    { c.runtimeInfo with digestContextM1M2 := some (ctx.feed message) } }

def appendMessageB (message : Bytes) : SpdmResult Unit := do
  let c ← read
  if c.build.hashedTranscriptData then feedM1M2 .invalidStateLocal message
  else do
    let b ← orFail .bufferFull
      (appendMessage (maxManagedBufferBSize c.build.config) c.runtimeInfo.messageB message)
    update fun c => { c with runtimeInfo := { c.runtimeInfo with messageB := b } }

def resetMessageB (c : SpdmContext) : SpdmContext :=
  if c.build.hashedTranscriptData then
    { c with runtimeInfo := { c.runtimeInfo with digestContextM1M2 := none } }
  else { c with runtimeInfo := { c.runtimeInfo with messageB := [] } }

def appendMessageC (message : Bytes) : SpdmResult Unit := do
  let c ← read
  if c.build.hashedTranscriptData then feedM1M2 .cryptoError message
  else do
    let m ← orFail .bufferFull
      (appendMessage maxManagedBufferCSize c.runtimeInfo.messageC message)
    update fun c => { c with runtimeInfo := { c.runtimeInfo with messageC := m } }

def resetMessageC (c : SpdmContext) : SpdmContext :=
  if c.build.hashedTranscriptData then
    { c with runtimeInfo := { c.runtimeInfo with digestContextM1M2 := none } }
  else { c with runtimeInfo := { c.runtimeInfo with messageC := [] } }

/-! ## §3. Message M. -/

def feedL1L2 (c : SpdmContext) (running : Option HashCtx) (message : Bytes) : Option HashCtx := do
  match running with
  | some ctx => some (ctx.feed message)
  | none => do
    let ctx ← hashCtxInit c.negotiateInfo.baseHashSel
    let start := if c.negotiateInfo.spdmVersionSel.atLeast .spdmVersion12 then
      ctx.feed c.runtimeInfo.messageA else ctx
    some (start.feed message)

def appendMessageM (sessionId : Option Nat) (message : Bytes) :
    SpdmResult Unit := do
  let c ← read
  let room := maxManagedBufferMSize c.build.config
  match sessionId, c.build.hashedTranscriptData with
  | none, false => do
    let m ← orFail .bufferFull (appendMessage room c.runtimeInfo.messageM message)
    update fun c => { c with runtimeInfo := { c.runtimeInfo with messageM := m } }
  | none, true => do
    let ctx ← orFail .cryptoError (feedL1L2 c c.runtimeInfo.digestContextL1L2 message)
    update fun c => { c with runtimeInfo := { c.runtimeInfo with digestContextL1L2 := some ctx } }
  | some id, false => withSession id .invalidStateLocal do
    let s ← read
    let m ← orFail .bufferFull (appendMessage room s.runtimeInfo.messageM message)
    update fun s => { s with runtimeInfo := { s.runtimeInfo with messageM := m } }
  | some id, true => withSession id .invalidStateLocal do
    let s ← read
    let ctx ← orFail .cryptoError (feedL1L2 c s.runtimeInfo.digestContextL1L2 message)
    update fun s => { s with runtimeInfo := { s.runtimeInfo with digestContextL1L2 := some ctx } }

def mapSession (id : Nat) (f : SpdmSession → SpdmSession) (c : SpdmContext) : SpdmContext :=
  match c.session.findIdx? fun s => s.sessionId == id with
  | none => c
  | some i => { c with session := c.session.modify i f }

def resetMessageM (sessionId : Option Nat) (c : SpdmContext) : SpdmContext :=
  match sessionId, c.build.hashedTranscriptData with
  | none, false => { c with runtimeInfo := { c.runtimeInfo with messageM := [] } }
  | none, true => { c with runtimeInfo := { c.runtimeInfo with digestContextL1L2 := none } }
  | some id, false => c.mapSession id fun s =>
      { s with runtimeInfo := { s.runtimeInfo with messageM := [] } }
  | some id, true => c.mapSession id fun s =>
      { s with runtimeInfo := { s.runtimeInfo with digestContextL1L2 := none } }

omit [Crypto] in
@[simp] theorem mapSession_negotiateInfo (id : Nat) {f : SpdmSession → SpdmSession}
    (c : SpdmContext) : (c.mapSession id f).negotiateInfo = c.negotiateInfo := by
  unfold mapSession
  split <;> rfl

omit [Crypto] in
@[simp] theorem resetMessageM_negotiateInfo (sessionId : Option Nat) (c : SpdmContext) :
    (resetMessageM sessionId c).negotiateInfo = c.negotiateInfo := by
  unfold resetMessageM
  split <;> simp

/-! ## §4. Messages K and F. -/

def thPreamble (vdm : Option Bytes) (s : SpdmSession) : Bytes :=
  match vdm with
  | some t => t
  | none => s.runtimeInfo.rspCertHash.getD []

def appendMessageK (sessionId : Nat) (message : Bytes) : SpdmResult Unit := do
  let c ← read
  let vdm := c.runtimeInfo.vdmMessageTranscriptBeforeKeyExchange
  withSession sessionId .invalidStateLocal do
    let s ← read
    if c.build.hashedTranscriptData then
      let ctx ← (match s.runtimeInfo.digestContextTh with
        | some ctx => ret ctx
        | none => do
          let ctx ← orFail .cryptoError (hashCtxInit s.cryptoParam.baseHashAlgo)
          ret ((ctx.feed s.runtimeInfo.messageA).feed (thPreamble vdm s)))
      update fun s => { s with runtimeInfo :=
        { s.runtimeInfo with digestContextTh := some (ctx.feed message) } }
    else
      let k ← orFail .bufferFull (appendMessage maxManagedBufferKSize
        s.runtimeInfo.messageK message)
      update fun s => { s with runtimeInfo := { s.runtimeInfo with messageK := k } }

def pubKeySlotIdKeyExchange : Nat := 0xFF
def pubKeySlotIdKeyExchangeRsp : Nat := 0xF

def certChainHash (chains : Slots Bytes) (slotId : Nat) (missing : SpdmStatus) :
    SpdmResult Bytes := do
  let c ← read
  let slot ← orAbort chains[slotId]?
  let chain ← orFail missing slot
  orFail .cryptoError (hashAll c.negotiateInfo.baseHashSel chain)

def pubKeyHash (pubKey : Option Bytes) : SpdmResult Bytes := do
  let c ← read
  let key ← orFail .invalidParameter pubKey
  orFail .cryptoError (hashAll c.negotiateInfo.baseHashSel key)

def mutCertDigest (isRequester : Bool) : SpdmResult Bytes := do
  let c ← read
  let slotId := if isRequester then c.runtimeInfo.localUsedCertChainSlotId
    else c.runtimeInfo.peerUsedCertChainSlotId
  let pubKey := if isRequester then c.provisionInfo.myPubKey else c.provisionInfo.peerPubKey
  let chains := if isRequester then c.provisionInfo.myCertChain else c.peerInfo.peerCertChain
  if slotId = pubKeySlotIdKeyExchangeRsp then do
    let key ← orFail .invalidParameter pubKey
    ret ((hashAll c.negotiateInfo.baseHashSel key).getD [])
  else certChainHash chains slotId .invalidStateLocal

def feedTh (sessionId : Nat) (data : Bytes) : SpdmResult Unit :=
  withSession sessionId .invalidStateLocal do
    let s ← read
    let ctx ← orAbort s.runtimeInfo.digestContextTh
    update fun s => { s with runtimeInfo :=
      { s.runtimeInfo with digestContextTh := some (ctx.feed data) } }

def startMessageF (isRequester : Bool) (sessionId : Nat) (s : SpdmSession) :
    SpdmResult Unit := do
  (if !s.usePsk && s.mutAuthRequested != 0 then
    match s.runtimeInfo.vdmMessageTranscriptBeforeFinish with
    | some vdm => feedTh sessionId vdm
    | none => do
      let digest ← mutCertDigest isRequester
      feedTh sessionId digest
  else ret ())
  withSession sessionId .invalidStateLocal (update fun s =>
    { s with runtimeInfo := { s.runtimeInfo with messageFInitialized := true } })

def appendMessageF (isRequester : Bool) (sessionId : Nat) (message : Bytes) :
    SpdmResult Unit := do
  let c ← read
  if c.build.hashedTranscriptData then
    let s ← orFail .invalidStateLocal (c.sessionViaId sessionId)
    guardElse s.runtimeInfo.digestContextTh.isSome .invalidStateLocal
    (if s.runtimeInfo.messageFInitialized then ret () else startMessageF isRequester sessionId s)
    feedTh sessionId message
  else
    withSession sessionId .invalidStateLocal do
      let s ← read
      let f ← orFail .bufferFull (appendMessage maxManagedBufferFSize
        s.runtimeInfo.messageF message)
      update fun s => { s with runtimeInfo := { s.runtimeInfo with messageF := f } }

/-! ## §5. Transcript hashes. -/

structure TranscriptSide where
  rspSlotId : Nat
  rspPubKey : Option Bytes
  rspChains : Slots Bytes
  rspMissing : SpdmStatus
  reqSlotId : Nat
  reqPubKey : Option Bytes
  reqChains : Slots Bytes

def reqSide (c : SpdmContext) : TranscriptSide :=
  { rspSlotId := c.runtimeInfo.peerUsedCertChainSlotId
    rspPubKey := c.provisionInfo.peerPubKey
    rspChains := c.peerInfo.peerCertChain
    rspMissing := .invalidParameter
    reqSlotId := c.runtimeInfo.localUsedCertChainSlotId
    reqPubKey := c.provisionInfo.myPubKey
    reqChains := c.provisionInfo.myCertChain }

def rspSide (c : SpdmContext) : TranscriptSide :=
  { rspSlotId := c.runtimeInfo.localUsedCertChainSlotId
    rspPubKey := c.provisionInfo.myPubKey
    rspChains := c.provisionInfo.myCertChain
    rspMissing := .invalidStateLocal
    reqSlotId := c.runtimeInfo.peerUsedCertChainSlotId
    reqPubKey := c.provisionInfo.peerPubKey
    reqChains := c.peerInfo.peerCertChain }

def appendTh (buffer message : Bytes) : SpdmResult Bytes :=
  orFail .bufferFull (appendMessage maxManagedBufferThSize buffer message)

def calcTranscriptData (side : TranscriptSide) (usePsk isMutAuth : Bool) (messageK : Bytes)
    (messageF : Option Bytes) (vdmBeforeFinish : Option Bytes) :
    SpdmResult Bytes := do
  let c ← read
  let m ← appendTh [] c.runtimeInfo.messageA
  let m ← (if usePsk then ret m else
    match c.runtimeInfo.vdmMessageTranscriptBeforeKeyExchange with
    | some vdm => appendTh m vdm
    | none => do
      let digest ← (if side.rspSlotId = pubKeySlotIdKeyExchange then pubKeyHash side.rspPubKey
        else certChainHash side.rspChains side.rspSlotId side.rspMissing)
      appendTh m digest)
  let m ← appendTh m messageK
  let m ← (if usePsk || !isMutAuth then ret m else
    match vdmBeforeFinish with
    | some vdm => appendTh m vdm
    | none => do
      let digest ← (if side.reqSlotId = pubKeySlotIdKeyExchangeRsp then pubKeyHash side.reqPubKey
        else certChainHash side.reqChains side.reqSlotId .invalidParameter)
      appendTh m digest)
  match messageF with
  | some f => appendTh m f
  | none => ret m

def calcTranscriptHash (side : TranscriptSide) (usePsk isMutAuth : Bool) (s : SpdmSession) :
    SpdmResult Bytes := do
  let c ← read
  if c.build.hashedTranscriptData then
    let ctx ← orFail .invalidStateLocal s.runtimeInfo.digestContextTh
    orFail .cryptoError (hashCtxFinalize ctx)
  else
    let message ← calcTranscriptData side usePsk isMutAuth s.runtimeInfo.messageK
      (some s.runtimeInfo.messageF) s.runtimeInfo.vdmMessageTranscriptBeforeFinish
    orFail .cryptoError (hashAll c.negotiateInfo.baseHashSel message)

def calcRspTranscriptHash (usePsk isMutAuth : Bool) (s : SpdmSession) :
    SpdmResult Bytes := do
  let c ← read
  calcTranscriptHash c.rspSide usePsk isMutAuth s

/-! ## §6. Resets by request code. -/

def resetsMessageBC (opcode : UInt8) : Bool :=
  opcode ∈ [SpdmRequestResponseCode.spdmRequestGetMeasurements,
    SpdmRequestResponseCode.spdmRequestKeyExchange,
    SpdmRequestResponseCode.spdmRequestFinish,
    SpdmRequestResponseCode.spdmRequestPskExchange,
    SpdmRequestResponseCode.spdmRequestPskFinish,
    SpdmRequestResponseCode.spdmRequestKeyUpdate,
    SpdmRequestResponseCode.spdmRequestHeartbeat,
    SpdmRequestResponseCode.spdmRequestEndSession]

def resetBufferViaRequestCode (opcode : UInt8) (sessionId : Option Nat) (c : SpdmContext) :
    SpdmContext :=
  let c := if opcode ≠ SpdmRequestResponseCode.spdmRequestGetMeasurements then
    c.resetMessageM sessionId else c
  if resetsMessageBC opcode then
    if c.runtimeInfo.connectionState.before .authenticated then c.resetMessageB.resetMessageC else c
  else if opcode = SpdmRequestResponseCode.spdmRequestGetDigests then c.resetMessageB
  else c

omit [Crypto] in
theorem resetBufferViaRequestCode_eq (opcode : UInt8) (sessionId : Option Nat) (c : SpdmContext) :
    ∃ r, resetBufferViaRequestCode opcode sessionId c =
      { (if opcode ≠ SpdmRequestResponseCode.spdmRequestGetMeasurements then
          c.resetMessageM sessionId else c) with runtimeInfo := r } := by
  have hB : ∀ c : SpdmContext, ∃ r, c.resetMessageB = { c with runtimeInfo := r } := fun c => by
    unfold resetMessageB
    split_ifs <;> exact ⟨_, rfl⟩
  have hC : ∀ c : SpdmContext, ∃ r, c.resetMessageC = { c with runtimeInfo := r } := fun c => by
    unfold resetMessageC
    split_ifs <;> exact ⟨_, rfl⟩
  unfold resetBufferViaRequestCode
  dsimp only
  generalize (if opcode ≠ SpdmRequestResponseCode.spdmRequestGetMeasurements then
    c.resetMessageM sessionId else c) = c₁
  split_ifs
  · obtain ⟨r, hr⟩ := hB c₁
    obtain ⟨r', hr'⟩ := hC { c₁ with runtimeInfo := r }
    exact ⟨r', by rw [hr, hr']⟩
  · exact ⟨c₁.runtimeInfo, rfl⟩
  · exact hB c₁
  · exact ⟨c₁.runtimeInfo, rfl⟩

omit [Crypto] in
@[simp] theorem resetBufferViaRequestCode_negotiateInfo {opcode : UInt8} {sessionId : Option Nat}
    {c : SpdmContext} :
    (resetBufferViaRequestCode opcode sessionId c).negotiateInfo = c.negotiateInfo := by
  obtain ⟨r, hr⟩ := resetBufferViaRequestCode_eq opcode sessionId c
  rw [hr]
  split_ifs <;> simp

def resetTranscripts (hashed : Bool) (opcode : UInt8) (r : SpdmRuntimeInfo) : SpdmRuntimeInfo :=
  let keepM := opcode = SpdmRequestResponseCode.spdmRequestGetMeasurements
  let dropBC := resetsMessageBC opcode && r.connectionState.before .authenticated
  let dropB := dropBC || opcode = SpdmRequestResponseCode.spdmRequestGetDigests
  { r with
    messageM := if keepM || hashed then r.messageM else []
    digestContextL1L2 := if keepM || !hashed then r.digestContextL1L2 else none
    messageB := if dropB && !hashed then [] else r.messageB
    messageC := if dropBC && !hashed then [] else r.messageC
    digestContextM1M2 := if dropB && hashed then none else r.digestContextM1M2 }

omit [Crypto] in
theorem resetBufferViaRequestCode_none {opcode : UInt8} {c : SpdmContext} :
    resetBufferViaRequestCode opcode none c =
      { c with runtimeInfo :=
        resetTranscripts c.build.hashedTranscriptData opcode c.runtimeInfo } := by
  have hdigests : resetsMessageBC SpdmRequestResponseCode.spdmRequestGetDigests = false := by decide
  unfold resetBufferViaRequestCode resetTranscripts resetMessageM resetMessageB resetMessageC
  cases hhashed : c.build.hashedTranscriptData <;>
    by_cases hm : opcode = SpdmRequestResponseCode.spdmRequestGetMeasurements <;>
    by_cases hd : opcode = SpdmRequestResponseCode.spdmRequestGetDigests <;>
    cases hbc : resetsMessageBC opcode <;>
    cases hauth : c.runtimeInfo.connectionState.before .authenticated <;> simp_all

/-! ## §7. Opening and closing a session. -/

def sessionParams (c : SpdmContext) (s : SpdmSession) : SpdmSession :=
  (s.setCryptoParam
    { baseHashAlgo := c.negotiateInfo.baseHashSel
      dheAlgo := c.negotiateInfo.dheSel
      kemAlgo := c.negotiateInfo.kemSel
      aeadAlgo := c.negotiateInfo.aeadSel
      keyScheduleAlgo := c.negotiateInfo.keyScheduleSel }).setTransportParam
    c.transportEncap.sequenceNumberCount c.transportEncap.maxRandomCount

def startTranscript (messageA : Bytes) (rspCertHash : Option Bytes) (s : SpdmSession) :
    SpdmSession :=
  { s with runtimeInfo :=
    { s.runtimeInfo with messageA := messageA, rspCertHash := rspCertHash, reqCertHash := none } }

def teardownSession (id : Nat) (c : SpdmContext) : SpdmContext :=
  c.mapSession id SpdmSession.teardown

omit [Crypto] in
@[simp] theorem teardownSession_negotiateInfo (id : Nat) (c : SpdmContext) :
    (teardownSession id c).negotiateInfo = c.negotiateInfo := mapSession_negotiateInfo id c

end SpdmContext

end Spdm
