/-
  Spdm.Requester.Attestation — the requester's GET_DIGESTS, GET_CERTIFICATE, CHALLENGE and
  GET_MEASUREMENTS (`requester/get_digests_req.rs`, `requester/get_certificate_req.rs`,
  `requester/challenge_req.rs`, `requester/get_measurements_req.rs`).
-/
import Spdm.Message.Attestation
import Spdm.Message.Chunk
import Spdm.Requester.Negotiation

namespace Spdm

open Effect Codec

namespace Requester

open SpdmContext SpdmRequestResponseCode

variable [Crypto] [Device]

/-! ## §1. GET_DIGESTS. -/

def recordB (sessionId : Option Nat) (request response : Bytes) :
    SpdmResult Unit :=
  match sessionId with
  | none => do
    appendMessageB request
    appendMessageB response
  | some _ => ret ()

/-! ## §2. GET_CERTIFICATE. -/

def setChainTemp (chain : Option Bytes) (c : SpdmContext) : SpdmContext :=
  { c with peerInfo := { c.peerInfo with peerCertChainTemp := chain } }

def u32Sub (a b : Nat) : SpdmResult Nat := do
  let c ← read
  assert (!c.build.overflowChecks || decide (b ≤ a))
  ret ((a + (2 ^ 32 - b % 2 ^ 32)) % 2 ^ 32)

def u32Add (a b : Nat) : SpdmResult Nat := do
  let c ← read
  assert (!c.build.overflowChecks || decide (a + b < 2 ^ 32))
  ret ((a + b) % 2 ^ 32)

def checkPortion (totalSize offset length : Nat) (p : CertificateFields) :
    SpdmResult Unit := do
  let c ← read
  let max := c.build.config.maxSpdmCertChainDataSize
  guardElse (p.first != 0 && decide (p.first ≤ length)) .invalidMsgField
  let room ← u32Sub max offset
  guardElse (decide (p.first ≤ room)) .invalidMsgField
  let room ← u32Sub max offset
  let room ← u32Sub room p.first
  guardElse (decide (p.second < room)) .invalidMsgField
  if totalSize = 0 then ret ()
  else do
    let used ← u32Add offset p.first
    let announced ← u32Add used p.second
    guardElse (totalSize == announced) .invalidMsgField

def storePortion (offset : Nat) (p : CertificateFields) (portion : Bytes) :
    SpdmResult Unit := do
  let c ← read
  let temp ← orFail .invalidStateLocal c.peerInfo.peerCertChainTemp
  assert (decide (offset + p.first ≤ 4 + spdmMaxHashSize + c.build.config.maxSpdmCertChainDataSize))
  assert (decide (p.first ≤ maxSpdmCertPortionLen))
  let size ← u32Add offset p.first
  update (setChainTemp (some (bufTake size (bufTake offset temp ++ portion))))

def handleSpdmCertificatePartialResponse (sessionId : Option Nat)
    (slotId totalSize offset length : Nat) (request response : Bytes) :
    SpdmResult (Nat × Nat) :=
  onResponse sessionId spdmResponseCertificate response fun rest => do
    let c ← read
    let ((p, portion), left) ← readResponse (parseCertificateResponse c) rest
    checkPortion totalSize offset length p
    guardElse (p.slotId == slotId) .invalidMsgField
    storePortion offset p portion
    recordB sessionId request (consumed response left)
    ret (p.first, p.second)

def fetchCertificate (sessionId : Option Nat) (slotId : Nat) :
    Nat → Nat → Nat → Nat → SpdmResult Nat
  | 0, _, _, _ => fail .receiveFail
  | rounds + 1, totalSize, offset, length =>
    if length = 0 then ret totalSize
    else do
      let c ← read
      let request ← sendRequest sessionId (encodeGetCertificate c slotId offset length)
      let response ← receiveResponse sessionId false
      let (portion, remainder) ← handleSpdmCertificatePartialResponse sessionId slotId totalSize
        offset length request response
      let announced ← (if totalSize = 0 then u32Add portion remainder else ret totalSize)
      let offset ← u32Add offset portion
      fetchCertificate sessionId slotId rounds announced offset
        (min remainder maxSpdmCertPortionLen)

def verifySpdmCertificateChain : SpdmResult Unit := do
  let c ← read
  let chain ← orFail .invalidParameter c.peerInfo.peerCertChainTemp
  let certs ← verifyCertChainBuffer chain
  let (leafBegin, leafEnd) ← liftResult (getCertFromCertChain certs (-1))
  assert (decide (leafBegin ≤ leafEnd ∧ leafEnd ≤ c.build.config.maxSpdmCertChainDataSize))
  guardElse (checkLeafCertificate (slice leafBegin leafEnd certs)
    (contains c.negotiateInfo.rspCapabilitiesSel SpdmResponseCapabilityFlags.aliasCertCap))
    .invalidCert
  verifyProvisionedRoot certs

def acceptCertChain (slotId : Nat) : SpdmResult Unit := do
  let r ← attempt verifySpdmCertificateChain
  update fun c => { c with peerInfo := { c.peerInfo with
    peerCertChain := match r with
      | .ok _ => c.peerInfo.peerCertChain.setIfInBounds slotId c.peerInfo.peerCertChainTemp
      | .error _ => c.peerInfo.peerCertChain
    peerCertChainTemp := none } }
  liftResult r

def sendReceiveSpdmCertificate (sessionId : Option Nat) (slotId : Nat) :
    SpdmResult Unit := do
  guardElse (decide (slotId < spdmMaxSlotNumber)) .invalidStateLocal
  update (resetBufferViaRequestCode spdmRequestGetCertificate sessionId)
  update (setChainTemp (some []))
  let c ← read
  let totalSize ← fetchCertificate sessionId slotId
    (c.build.config.maxSpdmCertChainDataSize + 1) 0 0 maxSpdmCertPortionLen
  if totalSize = 0 then do
    update (setChainTemp none)
    fail .invalidCert
  else acceptCertChain slotId

/-! ## §3. CHALLENGE. -/

def pubKeySlotIdChallenge : Nat := 0xFF

def peerIdentity (slotId pubKeySlotId : Nat) : SpdmResult Bytes := do
  let c ← read
  if slotId = pubKeySlotId then orFail .invalidParameter c.provisionInfo.peerPubKey
  else do
    let slot ← orAbort c.peerInfo.peerCertChain[slotId]?
    orFail .invalidParameter slot

def verifyChallengeAuthCertChainHash (slotId : Nat) (certChainHash : Bytes) :
    SpdmResult Unit := do
  let c ← read
  let identity ← peerIdentity slotId pubKeySlotIdChallenge
  let expected ← orFail .invalidParameter (hashAll c.negotiateInfo.baseHashSel identity)
  guardElse (certChainHash == expected) .verifFail

def verifyChallengeAuthSignature (slotId : Nat) (signature : Bytes) :
    SpdmResult Unit := do
  let c ← read
  let t ← orFail .cryptoError c.m1m2
  let der ← peerKey slotId pubKeySlotIdChallenge
  liftResult (c.verifyTranscript .challengeAuth der t signature)

def verifyOrReset (m : SpdmResult Unit) : SpdmResult Unit := do
  let r ← attempt m
  match r with
  | .ok _ => ret ()
  | .error _ => do
    update fun c => c.resetMessageB.resetMessageC
    fail .verifFail

def withSummaryHash (t : UInt8) (c : SpdmContext) : SpdmContext :=
  { c with runtimeInfo :=
    { c.runtimeInfo with needMeasurementSummaryHash := wantsSummaryHash t } }

def handleSpdmChallengeResponse (slotId : Nat) (summaryHashType : UInt8) (context : Bytes)
    (request response : Bytes) : SpdmResult Unit := do
  update (withSummaryHash summaryHashType)
  onResponse (some 0) spdmResponseChallengeAuth response fun rest => do
    let c ← read
    let ((p, signature), left) ← readResponse (parseChallengeAuth c) rest
    guardElse (!c.negotiateInfo.spdmVersionSel.atLeast .spdmVersion13 ||
      p.requesterContext == context) .invalidMsgField
    verifyOrReset (verifyChallengeAuthCertChainHash slotId p.certChainHash)
    let signatureSize ← orAbort c.asymSigSize?
    let used := consumed response left
    appendMessageC request
    appendMessageC (used.take (used.length - signatureSize))
    verifyOrReset (verifyChallengeAuthSignature slotId signature)
    update fun c => c.resetMessageB.resetMessageC

def sendReceiveSpdmChallenge (slotId : Nat) (summaryHashType : UInt8) (context : Option Bytes) :
    SpdmResult Unit := do
  guardElse (decide (slotId < spdmMaxSlotNumber) || slotId == pubKeySlotIdChallenge)
    .invalidParameter
  update (resetBufferViaRequestCode spdmRequestChallenge none)
  let context := context.getD (List.replicate requesterContextSize 0)
  let nonce ← getRandom spdmNonceSize
  let c ← read
  let request ← sendRequest none (encodeChallenge c.negotiateInfo.spdmVersionSel
    { slotId := UInt8.ofNat slotId, measurementSummaryHashType := summaryHashType, nonce, context })
  let response ← receiveResponse none true
  handleSpdmChallengeResponse slotId summaryHashType context request response

/-! ## §4. GET_MEASUREMENTS. -/

/-- What `send_receive_spdm_measurement` gives its caller. -/
structure MeasurementResult where
  contentChanged : Option SpdmMeasurementContentChanged
  totalNumber : UInt8
  record : SpdmMeasurementRecordStructure
  transcript : Bytes
  deriving Repr, DecidableEq

def verifyMeasurementSignature (slotId : Nat) (sessionId : Option Nat) (signature : Bytes) :
    SpdmResult Unit := do
  let c ← read
  let (m, ctx) ← orFail .invalidParameter (c.messageM sessionId)
  let t ← (if c.build.hashedTranscriptData then do
      let ctx ← orFail .cryptoError ctx
      ret (.hashed ctx)
    else orFail .bufferFull (c.l1l2Raw m))
  let der ← peerKey slotId pubKeySlotIdMeasurement
  liftResult (c.verifyTranscript .measurements der t signature)

def appendCallerTranscript (transcript message : Bytes) : SpdmResult Bytes := do
  let c ← read
  orFail .bufferFull (appendMessage (maxManagedBufferMSize c.build.config) transcript message)

def settleMeasurementSignature (signed : Bool) (slotId : Nat) (sessionId : Option Nat)
    (signature : Bytes) : SpdmResult Unit :=
  if signed then do
    let r ← attempt (verifyMeasurementSignature slotId sessionId signature)
    update (resetMessageM sessionId)
    match r with
    | .ok _ => ret ()
    | .error _ => fail .verifFail
  else ret ()

def withMeasurementSignature (signed : Bool) (c : SpdmContext) : SpdmContext :=
  { c with runtimeInfo := { c.runtimeInfo with needMeasurementSignature := signed } }

def setContentChanged (changed : SpdmMeasurementContentChanged) (c : SpdmContext) : SpdmContext :=
  { c with runtimeInfo := { c.runtimeInfo with contentChanged := changed } }

def handleSpdmMeasurementRecordResponse (sessionId : Option Nat) (slotId : Nat) (attributes : Flags)
    (operation : UInt8) (context : Bytes) (transcript : Bytes) (request response : Bytes) :
    SpdmResult MeasurementResult := do
  let signed := contains attributes signatureRequested
  update (withMeasurementSignature signed)
  onResponse sessionId spdmResponseMeasurements response fun rest => do
    let c ← read
    let v := c.negotiateInfo.spdmVersionSel
    let ((p, signature), left) ← readResponse (parseMeasurements c) rest
    guardElse (operation != measurementQueryTotalNumber || p.measurementRecord.numberOfBlocks == 0)
      .invalidMsgField
    (if v.atLeast .spdmVersion12 then update (setContentChanged p.contentChanged) else ret ())
    let signatureSize ← orAbort c.asymSigSize?
    let used := consumed response left
    let body := used.take (used.length - (if signed then signatureSize else 0))
    appendMessageM sessionId request
    appendMessageM sessionId body
    let transcript ← appendCallerTranscript transcript request
    let transcript ← appendCallerTranscript transcript body
    let transcript ← (if signed then do
        guardElse (!signature.isEmpty) .invalidMsgField
        appendCallerTranscript transcript signature
      else ret transcript)
    guardElse (!v.atLeast .spdmVersion13 || p.requesterContext == context) .invalidMsgField
    settleMeasurementSignature signed slotId sessionId signature
    ret { contentChanged := if v.atLeast .spdmVersion12 then some p.contentChanged else none
          totalNumber := if operation = measurementQueryTotalNumber then p.numberOfMeasurement
            else p.measurementRecord.numberOfBlocks
          record := p.measurementRecord
          transcript }

def receiveSpdmMeasurement (sessionId : Option Nat) (slotId : Nat) (attributes : Flags)
    (operation : UInt8) (context transcript request : Bytes) :
    SpdmResult MeasurementResult := do
  let response ← receiveResponse sessionId true
  let r ← attempt (handleSpdmMeasurementRecordResponse sessionId slotId attributes operation context
    transcript request response)
  match r with
  | .ok result => ret result
  | .error e => do
    (if e = .notReadyPeer then ret () else update (resetMessageM sessionId))
    fail e

def chooseNonce (nonce : Option Bytes) : SpdmResult Bytes :=
  match nonce with
  | some nonce => ret nonce
  | none => getRandom spdmNonceSize

def sendReceiveSpdmMeasurement (sessionId : Option Nat) (slotId : Nat) (attributes : Flags)
    (operation : UInt8) (nonce context transcript : Option Bytes) :
    SpdmResult MeasurementResult := do
  let context := context.getD (List.replicate requesterContextSize 0)
  let transcript := transcript.getD []
  guardElse (decide (slotId < spdmMaxSlotNumber) || slotId == pubKeySlotIdMeasurement)
    .invalidParameter
  update (resetBufferViaRequestCode spdmRequestGetMeasurements sessionId)
  let nonce ← chooseNonce nonce
  let c ← read
  let request ← sendRequest sessionId (encodeGetMeasurements c.negotiateInfo.spdmVersionSel
    { measurementAttributes := attributes, measurementOperation := operation, nonce, slotId,
      context })
  receiveSpdmMeasurement sessionId slotId attributes operation context transcript request

end Requester

end Spdm
