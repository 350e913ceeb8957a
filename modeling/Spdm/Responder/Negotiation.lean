/-
  Spdm.Responder.Negotiation — the responder's GET_VERSION, GET_CAPABILITIES and
  NEGOTIATE_ALGORITHMS handlers (`responder/version_rsp.rs`, `responder/capability_rsp.rs`,
  `responder/algorithm_rsp.rs`).
-/
import Spdm.Context.Signature
import Spdm.Message.Negotiation
import Spdm.Responder.Error

namespace Spdm

open Effect Codec

namespace Responder

open SpdmContext SpdmRequestResponseCode SpdmErrorCode

variable [Crypto] [Device]

def appendA (m : Bytes) : Handler Unit :=
  orRefuse (appendMessageA m) .invalidStateLocal spdmErrorUnspecified

def handleSpdmVersion (bytes : Bytes) : Handler Bytes := do
  let header ← parseRest parseHeader bytes
  let (header, rest) ← expect header .invalidMsgField spdmErrorInvalidRequest
  demand (header.version == .spdmVersion10) .invalidMsgField spdmErrorVersionMismatch
  update (resetBufferViaRequestCode spdmRequestGetVersion none)
  let (_, rest) ← readPayload parseGetVersion rest .invalidMsgField
  update resetContext
  appendA (consumed bytes rest)
  let c ← read
  let response ← respond (encodeVersionResponse c.configInfo.spdmVersion)
  appendA response
  ret response

def selectCapabilities (p : CapabilitiesPayload) (c : SpdmContext) : SpdmContext :=
  let n := { c.negotiateInfo with
    reqCtExponentSel := p.ctExponent
    reqCapabilitiesSel := p.flags
    rspCtExponentSel := c.configInfo.rspCtExponent
    rspCapabilitiesSel := c.configInfo.rspCapabilities }
  { c with negotiateInfo :=
      if c.negotiateInfo.spdmVersionSel.atLeast .spdmVersion12 then
        { n with
          reqDataTransferSizeSel := p.dataTransferSize
          reqMaxSpdmMsgSizeSel := p.maxSpdmMsgSize
          rspDataTransferSizeSel := c.configInfo.dataTransferSize
          rspMaxSpdmMsgSizeSel := c.configInfo.maxSpdmMsgSize }
      else n }

def rspCapabilitiesPayload (c : SpdmContext) : CapabilitiesPayload :=
  { ctExponent := c.configInfo.rspCtExponent
    flags := c.configInfo.rspCapabilities
    dataTransferSize := c.configInfo.dataTransferSize
    maxSpdmMsgSize := c.configInfo.maxSpdmMsgSize }

def handleSpdmCapability (bytes : Bytes) : Handler Bytes := do
  let c ← read
  demand (c.runtimeInfo.connectionState == .afterVersion) .invalidStatePeer
    spdmErrorUnexpectedRequest
  let header ← parseRest parseHeader bytes
  let (header, rest) ← expect header .invalidStatePeer spdmErrorInvalidRequest
  update fun c => { c with negotiateInfo :=
    { c.negotiateInfo with spdmVersionSel := header.version } }
  update (resetBufferViaRequestCode spdmRequestGetCapabilities none)
  let c ← read
  let (p, rest) ← readPayload (parseGetCapabilities c) rest .invalidMsgField
  demand (!c.build.mandatoryMutAuth || contains p.flags SpdmRequestCapabilityFlags.mutAuthCap)
    .unsupportedCap spdmErrorUnexpectedRequest
  update (selectCapabilities p)
  appendA (consumed bytes rest)
  let c ← read
  let response ← respond (encodeCapabilitiesResponse c.negotiateInfo.spdmVersionSel
    (rspCapabilitiesPayload c))
  appendA response
  ret response

/-! ## NEGOTIATE_ALGORITHMS. -/

def multiKeyRequested (c : SpdmContext) : Bool :=
  let req := contains c.negotiateInfo.reqCapabilitiesSel
  if req SpdmRequestCapabilityFlags.multiKeyCapOnly then true
  else if req SpdmRequestCapabilityFlags.multiKeyCapConnSel then
    contains c.configInfo.otherParamsSupport SpdmAlgoOtherParams.multiKeyConn
  else false

def selectMultiKey (p : NegotiateAlgorithmsPayload) : Handler Unit := do
  let c ← read
  let rsp := contains c.configInfo.rspCapabilities
  let wants := contains p.otherParamsSupport SpdmAlgoOtherParams.multiKeyConn
  update fun c => { c with negotiateInfo :=
    { c.negotiateInfo with multiKeyConnReq := multiKeyRequested c } }
  demand (if wants then rsp SpdmResponseCapabilityFlags.multiKeyCapOnly ||
      rsp SpdmResponseCapabilityFlags.multiKeyCapConnSel
    else !rsp SpdmResponseCapabilityFlags.multiKeyCapOnly) .invalidMsgField spdmErrorInvalidRequest
  update fun c => { c with negotiateInfo := { c.negotiateInfo with multiKeyConnRsp := wants } }

def offerFlags (p : NegotiateAlgorithmsPayload) (c : SpdmContext) : SpdmContext :=
  let v := c.negotiateInfo.spdmVersionSel
  { c with negotiateInfo := { c.negotiateInfo with
      baseHashSel := p.baseHashAlgo
      baseAsymSel := p.baseAsymAlgo
      melSpecificationSel := if v.atLeast .spdmVersion13 &&
        contains c.configInfo.rspCapabilities SpdmResponseCapabilityFlags.melCap
        then p.melSpecification else 0
      pqcAsymSel := if v.atLeast .spdmVersion14 then p.pqcAsymAlgo
        else c.negotiateInfo.pqcAsymSel } }

def offerStruct (a : SpdmAlgStruct) (n : SpdmNegotiateInfo) : SpdmNegotiateInfo :=
  match a.algType with
  | .dhe => { n with dheSel := a.algSupported }
  | .aead => { n with aeadSel := a.algSupported }
  | .reqAsym => { n with reqAsymSel := a.algSupported }
  | .keySchedule => { n with keyScheduleSel := a.algSupported }
  | .pqcReqAsym => { n with pqcReqAsymSel := a.algSupported }
  | .kem => { n with kemSel := a.algSupported }

def ignoredStruct (v : SpdmVersion) (t : SpdmAlgType) : Bool :=
  (t == .pqcReqAsym || t == .kem) && !v.atLeast .spdmVersion14

def selectStruct (a : SpdmAlgStruct) : Handler Unit := do
  let c ← read
  if ignoredStruct c.negotiateInfo.spdmVersionSel a.algType then ret ()
  else do
    demand (isValid a.algType.validMask a.algSupported) .invalidMsgField spdmErrorInvalidRequest
    update fun c => { c with negotiateInfo := offerStruct a c.negotiateInfo }

def prioritizeAlgos (c : SpdmContext) : SpdmContext :=
  let n := c.negotiateInfo
  let v14 := n.spdmVersionSel.atLeast .spdmVersion14
  { c with negotiateInfo := { n with
      measurementSpecificationSel := SpdmMeasurementSpecification.prioritize
        n.measurementSpecificationSel c.configInfo.measurementSpecification
      measurementHashSel := c.configInfo.measurementHashAlgo
      baseHashSel := SpdmBaseHashAlgo.prioritize n.baseHashSel c.configInfo.baseHashAlgo
      baseAsymSel := SpdmBaseAsymAlgo.prioritize n.baseAsymSel c.configInfo.baseAsymAlgo
      pqcAsymSel := SpdmPqcAsymAlgo.prioritize n.pqcAsymSel c.configInfo.pqcAsymAlgo
      melSpecificationSel := SpdmMelSpecification.prioritize n.melSpecificationSel
        c.configInfo.melSpecification
      dheSel := SpdmDheAlgo.prioritize n.dheSel c.configInfo.dheAlgo
      aeadSel := SpdmAeadAlgo.prioritize n.aeadSel c.configInfo.aeadAlgo
      reqAsymSel := SpdmBaseAsymAlgo.prioritize n.reqAsymSel c.configInfo.reqAsymAlgo
      keyScheduleSel := SpdmKeyScheduleAlgo.prioritize n.keyScheduleSel
        c.configInfo.keyScheduleAlgo
      pqcReqAsymSel := if v14 then
          SpdmPqcReqAsymAlgo.prioritize n.pqcReqAsymSel c.configInfo.pqcReqAsymAlgo
        else n.pqcReqAsymSel
      kemSel := if v14 then SpdmKemAlgo.prioritize n.kemSel c.configInfo.kemAlgo
        else n.kemSel } }

def preferClassical (c : SpdmContext) : SpdmContext :=
  let n := c.negotiateInfo
  if n.spdmVersionSel.atLeast .spdmVersion14 then
    { c with negotiateInfo := { n with
        pqcAsymSel := if isValid SpdmPqcAsymAlgo.validMask n.pqcAsymSel &&
          isValid SpdmBaseAsymAlgo.validMask n.baseAsymSel then 0 else n.pqcAsymSel
        pqcReqAsymSel := if isValid SpdmPqcReqAsymAlgo.validMask n.pqcReqAsymSel &&
          isValid SpdmReqAsymAlgo.validMask n.reqAsymSel then 0 else n.pqcReqAsymSel
        kemSel := if isValid SpdmKemAlgo.validMask n.kemSel &&
          isValid SpdmDheAlgo.validMask n.dheSel then 0 else n.kemSel } }
  else c

def selectOtherParams (offered : Flags) (c : SpdmContext) : Flags :=
  let v := c.negotiateInfo.spdmVersionSel
  let req := contains c.negotiateInfo.reqCapabilitiesSel
  let common := if v.atLeast .spdmVersion12 then offered &&& c.configInfo.otherParamsSupport else 0
  if v.atLeast .spdmVersion13 && (req SpdmRequestCapabilityFlags.multiKeyCapOnly ||
      req SpdmRequestCapabilityFlags.multiKeyCapConnSel &&
        contains c.configInfo.otherParamsSupport SpdmAlgoOtherParams.multiKeyConn)
  then common ||| SpdmAlgoOtherParams.multiKeyConn
  else common

def selectedStructs (n : SpdmNegotiateInfo) : List SpdmAlgStruct :=
  let v14 := n.spdmVersionSel.atLeast .spdmVersion14
  [⟨.dhe, n.dheSel⟩, ⟨.aead, n.aeadSel⟩, ⟨.reqAsym, n.reqAsymSel⟩,
    ⟨.keySchedule, n.keyScheduleSel⟩, ⟨.pqcReqAsym, n.pqcReqAsymSel⟩, ⟨.kem, n.kemSel⟩].filter
    fun a => isValid a.algType.validMask a.algSupported &&
      (v14 || !(a.algType == .pqcReqAsym || a.algType == .kem))

def algorithmsPayload (n : SpdmNegotiateInfo) : AlgorithmsPayload :=
  { measurementSpecificationSel := n.measurementSpecificationSel
    otherParamsSelection := n.otherParamsSupport
    measurementHashAlgo := n.measurementHashSel
    baseAsymSel := n.baseAsymSel
    baseHashSel := n.baseHashSel
    pqcAsymSel := n.pqcAsymSel
    melSpecificationSel := n.melSpecificationSel
    algStruct := selectedStructs n }

def takeOffer (v : SpdmVersion) (p : NegotiateAlgorithmsPayload) : Handler Unit := do
  update fun c => { c with negotiateInfo :=
    { c.negotiateInfo with measurementSpecificationSel := p.measurementSpecification } }
  (if v.atLeast .spdmVersion13 then selectMultiKey p else ret ())
  update (offerFlags p)
  forEach selectStruct p.algStruct

def answerAlgorithms (p : NegotiateAlgorithmsPayload) : Handler Bytes := do
  update fun c => { c with negotiateInfo :=
    { c.negotiateInfo with otherParamsSupport := selectOtherParams p.otherParamsSupport c } }
  let c ← read
  let response ← respond (encodeAlgorithmsResponse c.negotiateInfo.spdmVersionSel
    (algorithmsPayload c.negotiateInfo))
  appendA response
  ret response

def settleAlgorithms (p : NegotiateAlgorithmsPayload) : Handler Bytes := do
  update prioritizeAlgos
  update preferClassical
  orRefuse constructMyCertChain .invalidStateLocal spdmErrorUnspecified
  answerAlgorithms p

def handleSpdmAlgorithm (bytes : Bytes) : Handler Bytes := do
  let c ← read
  demand (c.runtimeInfo.connectionState == .afterCapabilities) .invalidStatePeer
    spdmErrorUnexpectedRequest
  let rest ← readHeader bytes .invalidMsgField
  update (resetBufferViaRequestCode spdmRequestNegotiateAlgorithms none)
  let v := c.negotiateInfo.spdmVersionSel
  let (p, rest) ← readPayload (parseNegotiateAlgorithms v) rest .invalidMsgField
  takeOffer v p
  appendA (consumed bytes rest)
  settleAlgorithms p

end Responder

end Spdm
