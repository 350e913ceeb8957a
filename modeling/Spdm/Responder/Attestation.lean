/-
  Spdm.Responder.Attestation — the responder's GET_DIGESTS, GET_CERTIFICATE, CHALLENGE and
  GET_MEASUREMENTS handlers (`responder/digest_rsp.rs`, `responder/certificate_rsp.rs`,
  `responder/challenge_rsp.rs`, `responder/measurement_rsp.rs`).
-/
import Spdm.Message.Attestation
import Spdm.Responder.Error

namespace Spdm

open Effect Codec

namespace Responder

open SpdmContext SpdmRequestResponseCode SpdmErrorCode

variable [Crypto] [Device]

/-! ## §1. Steps several handlers share. -/

def demandNegotiated : Handler Unit := do
  let c ← read
  demand (!c.runtimeInfo.connectionState.before .negotiated) .invalidStatePeer
    spdmErrorUnexpectedRequest

def appendB (sessionId : Option Nat) (m : Bytes) : Handler Unit :=
  match sessionId with
  | none => orRefuse (appendMessageB m) .invalidStateLocal spdmErrorUnspecified
  | some _ => ret ()

def appendC (m : Bytes) : Handler Unit :=
  orRefuse (appendMessageC m) .invalidStateLocal spdmErrorUnspecified

def appendM (sessionId : Option Nat) (m : Bytes) : Handler Unit :=
  orRefuse (appendMessageM sessionId m) .invalidStateLocal spdmErrorUnspecified

def assertField (before : Nat) (ok : Bool) : Handler Unit := do
  let c ← read
  if before ≤ c.build.config.maxSpdmMsgSize then assert ok else ret ()

def placeSignature (body signature : Bytes) (size : Nat) : Handler Bytes := do
  assert (signature.length == size)
  ret (body ++ signature)

/-! ## §2. GET_DIGESTS. -/

def fillDigests (hashSel : Flags) : List Bytes → Nat → Bytes → Handler Bytes
  | [], _, message => ret message
  | chain :: chains, offset, message => do
    match hashAll hashSel chain with
    | none => fail (.cryptoError, some message)
    | some digest => do
      assert (decide (offset + digest.length ≤ message.length))
      fillDigests hashSel chains (offset + digest.length)
        (message.take offset ++ digest ++ message.drop (offset + digest.length))

def digestsResponse (bytes : Bytes) (sessionId : Option Nat) : Handler (SpdmContext × Bytes) := do
  demandNegotiated
  let rest ← readHeader bytes .invalidMsgField
  update (resetBufferViaRequestCode spdmRequestGetDigests sessionId)
  let (_, rest) ← readPayload parseGetDigests rest .invalidMsgField
  appendB sessionId (consumed bytes rest)
  let c ← read
  let digestSize ← orAbort c.hashSize?
  let p ← digestsPayload c digestSize
  let response ← respond (encodeDigestsResponse c p)
  ret (c, response)

def handleSpdmDigest (bytes : Bytes) (sessionId : Option Nat) : Handler Bytes := do
  let (c, response) ← digestsResponse bytes sessionId
  let response ← fillDigests c.negotiateInfo.baseHashSel (provisionedChains c) 4 response
  appendB sessionId response
  ret response

/-! ## §3. GET_CERTIFICATE. -/

def handleSpdmCertificate (bytes : Bytes) (sessionId : Option Nat) : Handler Bytes := do
  demandNegotiated
  let rest ← readHeader bytes .invalidMsgField
  update (resetBufferViaRequestCode spdmRequestGetCertificate sessionId)
  let c ← read
  let (p, rest) ← readPayload (parseCertificateFields c) rest .invalidMsgField
  appendB sessionId (consumed bytes rest)
  let slot ← expect c.provisionInfo.myCertChain[p.slotId]? .invalidMsgField spdmErrorInvalidRequest
  let chain ← expect slot .invalidStateLocal spdmErrorInvalidRequest
  demand (decide (p.first < chain.length)) .invalidMsgField spdmErrorInvalidRequest
  let length := min (min p.second maxSpdmCertPortionLen) (chain.length - p.first)
  let response ← respond (encodeCertificateResponse c p.slotId (chain.length - (length + p.first))
    ((chain.drop p.first).take length))
  appendB sessionId response
  ret response

/-! ## §4. CHALLENGE. -/

def summaryHash (t : UInt8) (e : SpdmStatus) : Handler Bytes := do
  let c ← read
  if wantsSummaryHash t then do
    update fun c => { c with runtimeInfo :=
      { c.runtimeInfo with needMeasurementSummaryHash := true } }
    let hash ← expect (generateMeasurementSummaryHash c.negotiateInfo.spdmVersionSel
      c.negotiateInfo.baseHashSel c.negotiateInfo.measurementSpecificationSel
      c.negotiateInfo.measurementHashSel t) e spdmErrorUnspecified
    demand (hash.length != 0) e spdmErrorUnspecified
    ret hash
  else do
    update fun c => { c with runtimeInfo :=
      { c.runtimeInfo with needMeasurementSummaryHash := false } }
    ret []

def myIdentity (c : SpdmContext) (slotId pubKeySlotId : Nat) : Handler Bytes :=
  if slotId = pubKeySlotId then expect c.provisionInfo.myPubKey .invalidStateLocal
    spdmErrorInvalidRequest
  else do
    let slot ← expect c.provisionInfo.myCertChain[slotId]? .invalidMsgField spdmErrorInvalidRequest
    expect slot .invalidStateLocal spdmErrorInvalidRequest

def pubKeySlotIdChallenge : Nat := 0xFF

def generateChallengeAuthSignature (c : SpdmContext) : Option Bytes := do
  let t ← c.m1m2
  c.signTranscript .challengeAuth t

def challengeAuthPayload (c : SpdmContext) (p : ChallengePayload)
    (certChainHash nonce summary : Bytes) :
    ChallengeAuthPayload :=
  let isPubKeyId := p.slotId.toNat == pubKeySlotIdChallenge
  { slotId := if isPubKeyId then 0xF else p.slotId
    slotMask := if isPubKeyId then 0 else provisionedMask c
    certChainHash := certChainHash
    nonce := nonce
    measurementSummaryHash := summary
    requesterContext := p.context }

def handleSpdmChallenge (bytes : Bytes) : Handler Bytes := do
  demandNegotiated
  let rest ← readHeader bytes .invalidMsgField
  update (resetBufferViaRequestCode spdmRequestChallenge none)
  let c ← read
  let (p, rest) ← readPayload (parseChallenge c) rest .invalidMsgField
  let summary ← summaryHash p.measurementSummaryHashType .invalidStateLocal
  let identity ← myIdentity c p.slotId.toNat pubKeySlotIdChallenge
  appendC (consumed bytes rest)
  let certChainHash ← expect (hashAll c.negotiateInfo.baseHashSel identity) .cryptoError
    spdmErrorUnspecified
  let nonce ← orRefuse (getRandom spdmNonceSize) .invalidStateLocal spdmErrorUnspecified
  let c ← read
  let signatureSize ← orAbort c.asymSigSize?
  let hashSize ← orAbort c.hashSize?
  assertField 4 (certChainHash.length == hashSize)
  assertField (4 + hashSize + spdmNonceSize)
    (!c.runtimeInfo.needMeasurementSummaryHash || summary.length == hashSize)
  let body := encodeChallengeAuth c (challengeAuthPayload c p certChainHash nonce summary)
  demand (decide (body.length + signatureSize ≤ c.build.config.maxSpdmMsgSize)) .invalidStateLocal
    spdmErrorUnspecified
  appendC body
  let c ← read
  let signature ← expect (generateChallengeAuthSignature c) .invalidStateLocal spdmErrorUnspecified
  let response ← placeSignature body signature signatureSize
  update fun c => c.resetMessageB.resetMessageC
  ret response

/-! ## §5. GET_MEASUREMENTS. -/

def demandMeasurementSlot (p : GetMeasurementsPayload) : Handler Unit := do
  let c ← read
  let signed := contains p.measurementAttributes signatureRequested
  update fun c => { c with runtimeInfo := {
    c.runtimeInfo with needMeasurementSignature := signed } }
  if signed then do
    let _ ← myIdentity c p.slotId pubKeySlotIdMeasurement
    ret ()
  else demand (p.slotId == 0) .invalidMsgField spdmErrorInvalidRequest

def collectMeasurements (c : SpdmContext) (index : Nat) : Handler SpdmMeasurementRecordStructure :=
  expect (measurementCollection c.negotiateInfo.spdmVersionSel
    c.negotiateInfo.measurementSpecificationSel c.negotiateInfo.measurementHashSel index)
    .invalidStateLocal spdmErrorUnspecified

def measurementRecordFor (c : SpdmContext) (operation : UInt8) (numberOfMeasurement : UInt8) :
    Handler SpdmMeasurementRecordStructure :=
  if operation = measurementRequestAll then collectMeasurements c operation.toNat
  else if operation = measurementQueryTotalNumber then ret ⟨0, []⟩
  else do
    demand (decide (operation ≤ numberOfMeasurement)) .invalidMsgField spdmErrorInvalidRequest
    collectMeasurements c operation.toNat

def reportedContentChanged (c : SpdmContext) : SpdmMeasurementContentChanged :=
  if c.configInfo.runtimeContentChangeSupport &&
      c.negotiateInfo.spdmVersionSel.atLeast .spdmVersion12 then c.runtimeInfo.contentChanged
  else .notSupported

def generateMeasurementSignature (sessionId : Option Nat) : SpdmResult Bytes := do
  let c ← read
  let (m, ctx) ← orFail .invalidStateLocal (c.messageM sessionId)
  let t ← (if c.build.hashedTranscriptData then do
      let ctx ← orAbort ctx
      ret (.hashed ctx)
    else orFail .bufferFull (c.l1l2Raw m))
  orFail .cryptoError (c.signTranscript .measurements t)

def writeSpdmMeasurementResponse (sessionId : Option Nat) (bytes : Bytes) : Handler Bytes := do
  demandNegotiated
  let rest ← readHeader bytes .invalidMsgField
  update (resetBufferViaRequestCode spdmRequestGetMeasurements sessionId)
  let c ← read
  let (p, rest) ← readPayload (parseGetMeasurements c.negotiateInfo.spdmVersionSel) rest
    .invalidMsgField
  let signatureSize ← orAbort c.asymSigSize?
  demandMeasurementSlot p
  appendM sessionId (consumed bytes rest)
  let total ← collectMeasurements c measurementQueryTotalNumber.toNat
  let record ← measurementRecordFor c p.measurementOperation total.numberOfBlocks
  let nonce ← orRefuse (getRandom spdmNonceSize) .cryptoError spdmErrorUnspecified
  let c ← read
  let signed := c.runtimeInfo.needMeasurementSignature
  let body := encodeMeasurements c p.measurementOperation
    { numberOfMeasurement := total.numberOfBlocks
      contentChanged := reportedContentChanged c
      slotId := p.slotId
      measurementRecord := record
      nonce := nonce
      requesterContext := p.context }
  demand (decide (body.length + (if signed then signatureSize else 0) ≤
    c.build.config.maxSpdmMsgSize)) .invalidStateLocal spdmErrorUnspecified
  if signed then do
    appendM sessionId body
    let signature ← orRefuse (generateMeasurementSignature sessionId) .invalidStateLocal
      spdmErrorUnspecified
    let response ← placeSignature body signature signatureSize
    update (resetMessageM sessionId)
    ret response
  else do
    appendM sessionId body
    ret body

def handleSpdmMeasurement (sessionId : Option Nat) (bytes : Bytes) : Handler Bytes := do
  let r ← attempt (writeSpdmMeasurementResponse sessionId bytes)
  match r with
  | .ok response => ret response
  | .error e => do
    (if e.1 = .notReadyPeer then ret () else update (resetMessageM sessionId))
    fail e

end Responder

end Spdm
