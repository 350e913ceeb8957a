/-
  Spdm.Responder.Upkeep — the responder's handlers for a running session and for what travels
  inside one (`responder/key_update_rsp.rs`, `responder/heartbeat_rsp.rs`,
  `responder/end_session_rsp.rs`, `responder/vendor_rsp.rs`, `responder/encap_rsp.rs`,
  `responder/encap_get_digest.rs`, `responder/encap_get_certificate.rs`).
-/
import Spdm.Responder.Session

namespace Spdm

open Effect Codec

namespace Responder

open SpdmContext SpdmRequestResponseCode SpdmErrorCode

variable [Crypto] [Device]

/-! ## §1. KEY_UPDATE, HEARTBEAT and END_SESSION. -/

open SpdmKeyUpdateOperation in
def applyKeyUpdate (v : SpdmVersion) (op : UInt8) : Prog SpdmSession SpdmStatus Unit :=
  if op = spdmUpdateSingleKey then do
    let _ ← attempt (SpdmSession.createDataSecretUpdate v true false)
    ret ()
  else if op = spdmUpdateAllKeys then do
    let _ ← attempt (SpdmSession.createDataSecretUpdate v true true)
    update (SpdmSession.activateDataSecretUpdate false true true)
  else update (SpdmSession.activateDataSecretUpdate true false true)

def handleSpdmKeyUpdate (id : Nat) (bytes : Bytes) : Handler Bytes := do
  let rest ← readHeader bytes .invalidMsgField
  update (resetBufferViaRequestCode spdmRequestKeyUpdate (some id))
  let (p, _) ← readPayload parseKeyUpdate rest .invalidMsgField
  let c ← read
  sessionStep id (applyKeyUpdate c.negotiateInfo.spdmVersionSel p.keyUpdateOperation)
  respond (encodeKeyUpdate c.negotiateInfo.spdmVersionSel spdmResponseKeyUpdateAck
    p.keyUpdateOperation p.tag)

def handleSpdmHeartbeat (id : Nat) (bytes : Bytes) : Handler Bytes := do
  let rest ← readHeader bytes .invalidMsgField
  update (resetBufferViaRequestCode spdmRequestHeartbeat (some id))
  let _ ← readPayload (skipBytes 2) rest .invalidMsgField
  let c ← read
  respond (encodeGeneral c.negotiateInfo.spdmVersionSel spdmResponseHeartbeatAck 0 0)

def handleSpdmEndSession (id : Nat) (bytes : Bytes) : Handler Bytes := do
  callWatchdog fun _ => .stop id
  let rest ← readHeader bytes .invalidMsgField
  let _ ← readPayload (skipBytes 2) rest .invalidMsgField
  update (resetBufferViaRequestCode spdmRequestEndSession (some id))
  let c ← read
  respond (encodeGeneral c.negotiateInfo.spdmVersionSel spdmResponseEndSessionAck 0 0)

/-! ## §2. Vendor defined requests. -/

def handlerResult : HandlerResult → Handler (Option Bytes)
  | (.ok _, response) => ret response
  | (.error e, response) => fail (e, response)

def writeSpdmVendorDefinedResponse (sessionId : Option Nat) (bytes : Bytes) : Handler Bytes := do
  let rest ← readHeader bytes .invalidMsgField
  update (resetBufferViaRequestCode spdmRequestVendorDefinedRequest sessionId)
  let c ← read
  let (p, _) ← readPayload (parseVendor c) rest .invalidMsgField
  match vendorDefinedRequestHandler p.vendorId p.payload with
  | .error e => refuse e spdmErrorUnspecified
  | .ok payload => do
    assert (largeRespNegotiated c || vendorSizesFit c)
    respond (encodeVendor c spdmResponseVendorDefinedResponse { p with payload })

def handleSpdmVendorDefinedRequest (sessionId : Option Nat) (bytes : Bytes) :
    Handler (Option Bytes) :=
  match vendorDefinedRequestHandlerEx with
  | some handler => handlerResult (handler sessionId bytes)
  | none => do
    let response ← writeSpdmVendorDefinedResponse sessionId bytes
    ret (some response)

/-! ## §3. Encapsulated requests. -/

def encapCheckVersionCapState : Handler Unit := do
  let c ← read
  let unsupported (e : SpdmStatus) : Handler Unit :=
    fail (e, some (errorMessage c spdmErrorUnsupportedRequest spdmRequestGetEncapsulatedRequest))
  (if c.negotiateInfo.spdmVersionSel.atLeast .spdmVersion11 then ret ()
    else unsupported .invalidStateLocal)
  (if contains c.negotiateInfo.reqCapabilitiesSel SpdmRequestCapabilityFlags.encapCap &&
      contains c.negotiateInfo.rspCapabilitiesSel SpdmResponseCapabilityFlags.encapCap then ret ()
    else unsupported .unsupportedCap)
  demand (!c.runtimeInfo.connectionState.before .afterCertificate) .invalidStateLocal
    spdmErrorUnexpectedRequest

def handleGetEncapsulatedRequest (bytes : Bytes) : Handler Bytes := do
  encapCheckVersionCapState
  let _ ← readHeader bytes .invalidMsgField
  let c ← read
  let v := c.negotiateInfo.spdmVersionSel
  let head ← respond (encodeGeneral v spdmResponseEncapsulatedRequest c.encapContext.requestId 0)
  let message := head ++ encodeGetDigests v
  demand (decide (message.length ≤ c.build.config.maxSpdmMsgSize)) .invalidMsgField
    spdmErrorInvalidResponseCode
  ret message

def setChainTemp (chain : Option Bytes) (c : SpdmContext) : SpdmContext :=
  { c with peerInfo := { c.peerInfo with peerCertChainTemp := chain } }

def encapGetCertificate : SpdmResult Bytes := do
  update fun c => setChainTemp (some (c.peerInfo.peerCertChainTemp.getD [])) c
  let c ← read
  ret (encodeGetCertificate c c.encapContext.reqSlotId (c.peerInfo.peerCertChainTemp.getD []).length
    maxSpdmCertPortionLen)

def verifySpdmCertificateChain : SpdmResult Unit := do
  let c ← read
  let chain ← orFail .invalidParameter c.peerInfo.peerCertChainTemp
  let certs ← verifyCertChainBuffer chain
  verifyProvisionedRoot certs

def storeEncapPortion (response : Bytes) : SpdmResult Bool := do
  let c ← read
  let r ← parse (do
    let _ ← parseHeader
    parseCertificateResponse c) response
  let (p, portion) ← orFail .invalidMsgField r
  let temp ← orFail .invalidStateLocal c.peerInfo.peerCertChainTemp
  let max := c.build.config.maxSpdmCertChainDataSize
  let offset := temp.length
  guardElse (decide (p.first ≤ maxSpdmCertPortionLen ∧ p.first ≤ max - offset)) .invalidMsgField
  guardElse (decide (p.second < max - offset - p.first)) .invalidMsgField
  guardElse (p.slotId == c.encapContext.reqSlotId) .invalidMsgField
  (if offset = 0 then update fun c => { c with encapContext :=
    { c.encapContext with encapCertSize := p.first + p.second } } else ret ())
  let c ← read
  guardElse (c.encapContext.encapCertSize == 0 ||
    c.encapContext.encapCertSize == offset + p.first + p.second) .invalidMsgField
  update (setChainTemp (some (temp ++ portion)))
  ret (p.second == 0)

def acceptEncapChain : SpdmResult Unit := do
  let r ← attempt verifySpdmCertificateChain
  match r with
  | .error e => do
    update (setChainTemp none)
    fail e
  | .ok _ => do
    let c ← read
    assert (decide (c.encapContext.reqSlotId < spdmMaxSlotNumber))
    update fun c => { c with
      peerInfo := { c.peerInfo with
        peerCertChain := c.peerInfo.peerCertChain.setIfInBounds c.encapContext.reqSlotId
          c.peerInfo.peerCertChainTemp
        peerCertChainTemp := none }
      mutAuthDone := c.mutAuthDone || c.build.mandatoryMutAuth }

def handleEncapResponseCertificate (response : Bytes) : SpdmResult Bool := do
  let completed ← storeEncapPortion response
  let c ← read
  if c.encapContext.encapCertSize = 0 then do
    update (setChainTemp none)
    fail .invalidCert
  else if completed then do
    acceptEncapChain
    ret false
  else ret true

def processEncapsulatedResponse (requestId : UInt8) (response : Bytes) :
    SpdmResult Bytes := do
  let c ← read
  let v := c.negotiateInfo.spdmVersionSel
  let header ← parseRest parseHeader response
  let (header, rest) ← orFail .invalidMsgSize header
  guardElse (header.version == v) .invalidMsgField
  let ack (payloadType : UInt8) : Bytes :=
    encodeEncapAck v ⟨c.encapContext.requestId, payloadType, requestId⟩
  if header.requestResponseCode = spdmResponseDigests then do
    let digests ← parse (parseDigestsResponse c) rest
    guardElse digests.isSome .invalidMsgField
    let next ← encapGetCertificate
    ret (ack encapPayloadPresent ++ next)
  else if header.requestResponseCode = spdmResponseCertificate then do
    let more ← handleEncapResponseCertificate response
    if more then do
      let next ← encapGetCertificate
      ret (ack encapPayloadPresent ++ next)
    else ret (ack encapPayloadReqSlotNumber ++ [UInt8.ofNat c.encapContext.reqSlotId])
  else fail .unsupportedCap

def handleDeliverEncapsulatedResponse (bytes : Bytes) : Handler Bytes := do
  encapCheckVersionCapState
  let rest ← readHeader bytes .invalidMsgField
  let (requestId, rest) ← readPayload (do
    let id ← u8
    skipBytes 1
    ret id) rest .invalidMsgField
  let message ← orRefuse (processEncapsulatedResponse requestId rest) .invalidMsgField
    spdmErrorInvalidResponseCode
  let c ← read
  demand (decide (message.length ≤ c.build.config.maxSpdmMsgSize)) .invalidMsgField
    spdmErrorInvalidResponseCode
  ret message

end Responder

end Spdm
