/-
  Spdm.Requester.Negotiation — the requester's GET_VERSION, GET_CAPABILITIES and
  NEGOTIATE_ALGORITHMS (`requester/get_version_req.rs`, `requester/get_capabilities_req.rs`,
  `requester/negotiate_algorithms_req.rs`).
-/
import Mathlib.Data.List.Sort
import Spdm.Context.Steps
import Spdm.Message.Negotiation
import Spdm.Requester.Context

namespace Spdm

open Effect Codec

namespace Requester

open SpdmContext SpdmRequestResponseCode

variable [Crypto]

/-! ## §1. One exchange. -/

def sendRequest (sessionId : Option Nat) (request : Bytes) : SpdmResult Bytes := do
  let c ← read
  let request ← writeInto c.build.config.maxSpdmMsgSize request
  sendMessage sessionId request false
  ret request

def receiveResponse (sessionId : Option Nat) (cryptoRequest : Bool) :
    SpdmResult Bytes := do
  let c ← read
  receiveMessage sessionId c.build.config.maxSpdmMsgSize cryptoRequest

def onResponseCode {α : Type} (sessionId : Option Nat) (expected : UInt8) (response : Bytes)
    (header : SpdmMessageHeader) (rest : Bytes) (k : Bytes → SpdmResult α) :
    SpdmResult α :=
  if header.requestResponseCode = expected then k rest
  else if header.requestResponseCode = spdmResponseError then do
    spdmHandleErrorResponseMain sessionId response
    fail .errorPeer
  else fail .errorPeer

def onResponse {α : Type} (sessionId : Option Nat) (expected : UInt8) (response : Bytes)
    (k : Bytes → SpdmResult α) : SpdmResult α := do
  let c ← read
  let header ← parseRest parseHeader response
  let (header, rest) ← orFail .invalidMsgField header
  guardElse (header.version == c.negotiateInfo.spdmVersionSel) .invalidMsgField
  onResponseCode sessionId expected response header rest k

def readResponse {α : Type} (p : Parser α) (rest : Bytes) :
    SpdmResult (α × Bytes) := do
  let r ← parseRest p rest
  orFail .invalidMsgField r

omit [Crypto] in
theorem onResponse_eq_ok {α : Type} {sessionId : Option Nat} {expected : UInt8} {response : Bytes}
    {k : Bytes → SpdmResult α} {a : α} {c c' : SpdmContext}
    (h : onResponse sessionId expected response k c = .ok a c') :
    ∃ rest, response = encodeHeader c.negotiateInfo.spdmVersionSel expected ++ rest ∧
      k rest c = .ok a c' := by
  unfold onResponse at h
  rw [read_bind] at h
  obtain ⟨parsed, _, hparse, h⟩ := bind_eq_ok.1 h
  obtain ⟨rfl, hheader⟩ := parseRest_eq_ok hparse
  obtain ⟨⟨header, rest⟩, _, hsome, h⟩ := bind_eq_ok.1 h
  obtain ⟨rfl, rfl⟩ := orFail_eq_ok.1 hsome
  obtain ⟨_, _, hguard, h⟩ := bind_eq_ok.1 h
  obtain ⟨hversion, rfl⟩ := guardElse_eq_ok.1 hguard
  have hbytes := parseHeader_eq_ok (hheader header rest rfl)
  have hv : header.version = c.negotiateInfo.spdmVersionSel := by simpa using hversion
  unfold onResponseCode at h
  split_ifs at h with hcode herror
  · exact ⟨rest, by rw [hbytes, hv, hcode], h⟩
  · obtain ⟨_, _, -, hfail⟩ := bind_eq_ok.1 h
    cases hfail
  · cases h

omit [Crypto] in
theorem readResponse_eq_ok {α : Type} {p : Parser α} {rest left : Bytes} {a : α}
    {c c' : SpdmContext} (h : readResponse p rest c = .ok (a, left) c') :
    p rest = .ok a left ∧ c = c' := by
  obtain ⟨parsed, _, hparse, h⟩ := bind_eq_ok.1 h
  obtain ⟨rfl, hread⟩ := parseRest_eq_ok hparse
  obtain ⟨rfl, rfl⟩ := orFail_eq_ok.1 h
  exact ⟨hread a left rfl, rfl⟩

/-! ## §2. GET_VERSION. -/

def encodeGetVersion : Bytes := encodeHeader .spdmVersion10 spdmRequestGetVersion ++ [0, 0]

def maxSpdmVersionCount : Nat := 5

def paddedVersions (offered : List SpdmVersion) : List SpdmVersion :=
  offered ++ List.replicate (maxSpdmVersionCount - offered.length) .spdmVersion10

def newestFirst (a b : SpdmVersion) : Prop := b.toByte ≤ a.toByte

instance : DecidableRel newestFirst := fun a b => inferInstanceAs (Decidable (b.toByte ≤ a.toByte))

def negotiateVersion (configured offered : List SpdmVersion) : Option SpdmVersion :=
  (((paddedVersions offered).insertionSort newestFirst).take offered.length).find?
    fun v => configured.contains v

def handleSpdmVersionResponse (request response : Bytes) : SpdmResult Unit := do
  let header ← parseRest parseHeader response
  let (header, rest) ← orFail .invalidMsgField header
  onResponseCode (some 0) spdmResponseVersion response header rest fun rest => do
    let (versions, left) ← readResponse parseVersionResponse rest
    let c ← read
    let v ← orFail .negotiationFail (negotiateVersion c.configInfo.spdmVersion versions)
    update fun c => { c with
      negotiateInfo := { c.negotiateInfo with spdmVersionSel := v }, runtimeInfo := {} }
    appendMessageA request
    appendMessageA (consumed response left)

/-! ## §3. GET_CAPABILITIES. -/

def takeCapabilities (p : CapabilitiesPayload) (c : SpdmContext) : SpdmContext :=
  let n := { c.negotiateInfo with
    reqCtExponentSel := c.configInfo.reqCtExponent
    reqCapabilitiesSel := c.configInfo.reqCapabilities
    rspCtExponentSel := p.ctExponent
    rspCapabilitiesSel := p.flags }
  { c with negotiateInfo :=
      if c.negotiateInfo.spdmVersionSel.atLeast .spdmVersion12 then
        { n with
          reqDataTransferSizeSel := c.configInfo.dataTransferSize
          reqMaxSpdmMsgSizeSel := c.configInfo.maxSpdmMsgSize
          rspDataTransferSizeSel := p.dataTransferSize
          rspMaxSpdmMsgSizeSel := p.maxSpdmMsgSize }
      else n }

def handleSpdmCapabilityResponse (request response : Bytes) : SpdmResult Unit :=
  onResponse (some 0) spdmResponseCapabilities response fun rest => do
    let c ← read
    let (p, left) ← readResponse (parseCapabilitiesResponse c) rest
    update (takeCapabilities p)
    appendMessageA request
    appendMessageA (consumed response left)

omit [Crypto] in
theorem handleSpdmCapabilityResponse_eq_ok {request response : Bytes} {c c' : SpdmContext}
    {u : Unit}
    (h : handleSpdmCapabilityResponse request response c = .ok u c') :
    ∃ rest p left, response = encodeHeader c.negotiateInfo.spdmVersionSel
      spdmResponseCapabilities ++
        rest ∧ parseCapabilitiesResponse c rest = .ok p left ∧
      c'.negotiateInfo = (takeCapabilities p c).negotiateInfo := by
  obtain ⟨rest, rfl, hk⟩ := onResponse_eq_ok h
  rw [read_bind] at hk
  obtain ⟨⟨p, left⟩, c₁, hread, hk⟩ := bind_eq_ok.1 hk
  obtain ⟨hget, rfl⟩ := readResponse_eq_ok hread
  dsimp only at hk
  exact ⟨rest, p, left, rfl, hget, (Within.bind (keepsNegotiated_appendMessageA _) fun _ =>
    keepsNegotiated_appendMessageA _).of_ok hk⟩

/-! ## §4. NEGOTIATE_ALGORITHMS. -/

def offeredOtherParams (c : SpdmContext) : Flags :=
  let v := c.negotiateInfo.spdmVersionSel
  let rsp := contains c.negotiateInfo.rspCapabilitiesSel
  let configured := if v.atLeast .spdmVersion12 then c.configInfo.otherParamsSupport else 0
  if v.atLeast .spdmVersion13 && (rsp SpdmResponseCapabilityFlags.multiKeyCapOnly ||
      rsp SpdmResponseCapabilityFlags.multiKeyCapConnSel &&
        contains c.configInfo.otherParamsSupport SpdmAlgoOtherParams.multiKeyConn)
  then configured ||| SpdmAlgoOtherParams.multiKeyConn
  else configured

def offeredStructs (c : SpdmContext) : List SpdmAlgStruct :=
  let v14 := c.negotiateInfo.spdmVersionSel.atLeast .spdmVersion14
  [⟨.dhe, c.configInfo.dheAlgo⟩, ⟨.aead, c.configInfo.aeadAlgo⟩,
    ⟨.reqAsym, c.configInfo.reqAsymAlgo⟩, ⟨.keySchedule, c.configInfo.keyScheduleAlgo⟩,
    ⟨.pqcReqAsym, c.configInfo.pqcReqAsymAlgo⟩, ⟨.kem, c.configInfo.kemAlgo⟩].filter
    fun a => isValid a.algType.validMask a.algSupported &&
      (v14 || !(a.algType == .pqcReqAsym || a.algType == .kem))

def negotiateAlgorithmsPayload (c : SpdmContext) : NegotiateAlgorithmsPayload :=
  let v := c.negotiateInfo.spdmVersionSel
  { measurementSpecification := c.configInfo.measurementSpecification
    otherParamsSupport := offeredOtherParams c
    baseAsymAlgo := c.configInfo.baseAsymAlgo
    baseHashAlgo := c.configInfo.baseHashAlgo
    pqcAsymAlgo := if v.atLeast .spdmVersion14 then c.configInfo.pqcAsymAlgo else 0
    melSpecification := if v.atLeast .spdmVersion13 then c.configInfo.melSpecification else 0
    algStruct := offeredStructs c }

def takeMultiKey (p : AlgorithmsPayload) : SpdmResult Unit := do
  let c ← read
  let rsp := contains c.negotiateInfo.rspCapabilitiesSel
  let req := contains c.configInfo.reqCapabilities
  let selected := contains p.otherParamsSelection SpdmAlgoOtherParams.multiKeyConn
  update fun c => { c with negotiateInfo := { c.negotiateInfo with
    multiKeyConnRsp := rsp SpdmResponseCapabilityFlags.multiKeyCapOnly ||
      (rsp SpdmResponseCapabilityFlags.multiKeyCapConnSel &&
        contains c.configInfo.otherParamsSupport SpdmAlgoOtherParams.multiKeyConn) } }
  guardElse (if selected then req SpdmRequestCapabilityFlags.multiKeyCapOnly ||
      req SpdmRequestCapabilityFlags.multiKeyCapConnSel
    else !req SpdmRequestCapabilityFlags.multiKeyCapOnly) .negotiationFail
  update fun c => { c with negotiateInfo := { c.negotiateInfo with multiKeyConnReq := selected } }

def takeStruct (a : SpdmAlgStruct) : SpdmResult Unit := do
  let c ← read
  let old := (a.algType == .pqcReqAsym || a.algType == .kem) &&
    !c.negotiateInfo.spdmVersionSel.atLeast .spdmVersion14
  if old then ret ()
  else do
    guardElse (isNoMoreThanOneSelected a.algSupported) .invalidMsgField
    update fun c => { c with negotiateInfo := match a.algType with
      | .dhe => { c.negotiateInfo with dheSel := a.algSupported }
      | .aead => { c.negotiateInfo with aeadSel := a.algSupported }
      | .reqAsym => { c.negotiateInfo with reqAsymSel := a.algSupported }
      | .keySchedule => { c.negotiateInfo with keyScheduleSel := a.algSupported }
      | .pqcReqAsym => { c.negotiateInfo with pqcReqAsymSel := a.algSupported }
      | .kem => { c.negotiateInfo with kemSel := a.algSupported } }

def takeSelections (p : AlgorithmsPayload) : SpdmResult Unit := do
  update fun c => { c with negotiateInfo :=
    { c.negotiateInfo with measurementHashSel := p.measurementHashAlgo } }
  guardElse (p.baseHashSel != 0) .negotiationFail
  update fun c => { c with negotiateInfo := { c.negotiateInfo with
    baseHashSel := p.baseHashSel
    baseAsymSel := p.baseAsymSel
    pqcAsymSel := if c.negotiateInfo.spdmVersionSel.atLeast .spdmVersion14 then p.pqcAsymSel
      else c.negotiateInfo.pqcAsymSel } }
  guardElse (p.baseAsymSel != 0 || p.pqcAsymSel != 0) .negotiationFail

def takeMel (p : AlgorithmsPayload) : SpdmResult Unit := do
  let c ← read
  let wanted := c.configInfo.melSpecification != 0 &&
    contains c.negotiateInfo.rspCapabilitiesSel SpdmResponseCapabilityFlags.melCap
  guardElse (p.melSpecificationSel ==
    (if wanted then SpdmMelSpecification.dmtfMelSpec else 0)) .invalidMsgField
  update fun c => { c with negotiateInfo :=
    { c.negotiateInfo with melSpecificationSel := p.melSpecificationSel } }

def handleSpdmAlgorithmResponse (request response : Bytes) : SpdmResult Unit :=
  onResponse (some 0) spdmResponseAlgorithms response fun rest => do
    let c ← read
    let v13 := c.negotiateInfo.spdmVersionSel.atLeast .spdmVersion13
    let (p, left) ← readResponse (parseAlgorithmsResponse c) rest
    update fun c => { c with negotiateInfo := { c.negotiateInfo with
      measurementSpecificationSel := p.measurementSpecificationSel
      otherParamsSupport := p.otherParamsSelection } }
    (if v13 then takeMultiKey p else ret ())
    takeSelections p
    forEach takeStruct p.algStruct
    (if v13 then takeMel p else ret ())
    appendMessageA request
    appendMessageA (consumed response left)

end Requester

end Spdm
