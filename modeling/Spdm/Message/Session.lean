/-
  Spdm.Message.Session — the messages that open, keep and close sessions: KEY_EXCHANGE, FINISH,
  PSK_EXCHANGE, PSK_FINISH, HEARTBEAT, END_SESSION, and the encapsulated and vendor defined
  messages that travel in them (`message/key_exchange.rs`, `message/finish.rs`,
  `message/psk_exchange.rs`, `message/psk_finish.rs`, `message/encapsulated.rs`,
  `message/vendor.rs`, `common/opaque.rs`).
-/
import Spdm.Message.Attestation

namespace Spdm

open Effect Codec

namespace SpdmContext

def reqKeyExchangeSize? (c : SpdmContext) : Option Nat :=
  if c.negotiateInfo.kemSel ≠ 0 then SpdmKemAlgo.encapKeySize? c.negotiateInfo.kemSel
  else SpdmDheAlgo.keySize? c.negotiateInfo.dheSel

def inClearText (c : SpdmContext) : Bool :=
  contains c.negotiateInfo.reqCapabilitiesSel SpdmRequestCapabilityFlags.handshakeInTheClearCap &&
    contains c.negotiateInfo.rspCapabilitiesSel SpdmResponseCapabilityFlags.handshakeInTheClearCap

def pskWithoutContext (c : SpdmContext) : Bool :=
  contains c.negotiateInfo.rspCapabilitiesSel SpdmResponseCapabilityFlags.pskCapWithoutContext

end SpdmContext

/-! ## §1. Secured message versions as opaque data. -/

def SecuredMessageVersion.same (v w : SecuredMessageVersion) : Bool :=
  v.majorVersion == w.majorVersion && v.minorVersion == w.minorVersion

def encodeSecuredMessageVersion (v : SecuredMessageVersion) : Bytes :=
  [UInt8.ofNat (v.updateVersionNumber * 16 + v.alpha),
    UInt8.ofNat (v.majorVersion * 16 + v.minorVersion)]

def parseSecuredMessageVersion : Parser SecuredMessageVersion := do
  let low ← u8
  let high ← u8
  ret ⟨high.toNat / 16, high.toNat % 16, low.toNat / 16, low.toNat % 16⟩

def maxSecureSpdmVersionCount : Nat := 3

def encodeOpaqueHeader (c : SpdmContext) : Option Bytes :=
  if c.negotiateInfo.spdmVersionSel.atLeast .spdmVersion12 then
    if contains c.negotiateInfo.otherParamsSupport SpdmAlgoOtherParams.opaqueDataFmt1 then
      some [1, 0, 0, 0]
    else none
  else some (leBytes 4 0x444D5446 ++ [1, 1, 0, 0])

def parseOpaqueHeader (c : SpdmContext) : Parser Unit :=
  if c.negotiateInfo.spdmVersionSel.atLeast .spdmVersion12 then do
    require (contains c.negotiateInfo.otherParamsSupport SpdmAlgoOtherParams.opaqueDataFmt1)
    let elements ← u8
    skipBytes 3
    require (elements != 0)
  else do
    let specId ← uintLe 4
    let version ← u8
    let elements ← u8
    skipBytes 2
    require (specId == 0x444D5446 && version == 1 && elements != 0)

def encodeSmVersionSel (c : SpdmContext) (v : SecuredMessageVersion) : Option Bytes :=
  (encodeOpaqueHeader c).map fun header =>
    header ++ [0, 0] ++ leBytes 2 4 ++ [1, 0] ++ encodeSecuredMessageVersion v

def parseSmVersionSel (c : SpdmContext) : Parser SecuredMessageVersion := do
  parseOpaqueHeader c
  let id ← u8
  let vendorLen ← u8
  let length ← uintLe 2
  let dataVersion ← u8
  let dataId ← u8
  require (dataId == 0 || dataId == 1)
  let v ← parseSecuredMessageVersion
  require (id == 0 && vendorLen == 0 && length == 4 && dataVersion == 1 && dataId == 0)
  ret v

def verListPadding (count : Nat) : Nat := (4 - (7 + 2 * count) % 4) % 4

def encodeSmSupportedVerList (c : SpdmContext) (vs : List SecuredMessageVersion) : Option Bytes :=
  (encodeOpaqueHeader c).map fun header =>
    header ++ [0, 0] ++ leBytes 2 (3 + 2 * vs.length) ++ [1, 1, UInt8.ofNat vs.length] ++
      vs.flatMap encodeSecuredMessageVersion ++ List.replicate (verListPadding vs.length) 0

def parseSmSupportedVerList (c : SpdmContext) : Parser (List SecuredMessageVersion) := do
  parseOpaqueHeader c
  let id ← u8
  let vendorLen ← u8
  let length ← uintLe 2
  let dataVersion ← u8
  let dataId ← u8
  require (dataId == 0 || dataId == 1)
  let count ← u8
  require (decide (count.toNat ≤ maxSecureSpdmVersionCount))
  let vs ← repeatParser count.toNat parseSecuredMessageVersion
  require (id == 0 && vendorLen == 0 && length == 3 + 2 * count.toNat && dataVersion == 1 &&
    dataId == 1)
  skipBytes (verListPadding count.toNat)
  ret vs

/-! ## §2. KEY_EXCHANGE. -/

def terminationPolicyMask : UInt8 := 0x1
def eventAllPolicyMask : UInt8 := 0x2

def sessionPolicyMask (v : SpdmVersion) : UInt8 :=
  if v.atLeast .spdmVersion13 then terminationPolicyMask ||| eventAllPolicyMask
  else if v.atLeast .spdmVersion12 then terminationPolicyMask
  else 0

structure KeyExchangePayload where
  measurementSummaryHashType : UInt8
  slotId : UInt8
  reqSessionId : Nat
  sessionPolicy : UInt8
  random : Bytes
  exchange : Bytes
  opaqueData : Bytes
  deriving Repr, DecidableEq

def encodeKeyExchange (v : SpdmVersion) (p : KeyExchangePayload) : Bytes :=
  encodeHeader v SpdmRequestResponseCode.spdmRequestKeyExchange ++
    [p.measurementSummaryHashType, p.slotId] ++ leBytes 2 p.reqSessionId ++
    [p.sessionPolicy &&& sessionPolicyMask v, 0] ++ p.random ++ p.exchange ++
    encodeOpaque p.opaqueData

def parseKeyExchange (c : SpdmContext) : Parser KeyExchangePayload := do
  let measurementSummaryHashType ← u8
  require (summaryHashTypeValid c measurementSummaryHashType)
  let slotId ← u8
  require (decide (slotId.toNat < spdmMaxSlotNumber) || slotId == 0xFF)
  let reqSessionId ← uintLe 2
  let policy ← u8
  skipBytes 1
  let random ← takeBytes spdmRandomSize
  let size ← orAbort c.reqKeyExchangeSize?
  let exchange ← takeBytes size
  let opaqueData ← parseOpaque
  ret { measurementSummaryHashType, slotId, reqSessionId
        sessionPolicy := policy &&& sessionPolicyMask c.negotiateInfo.spdmVersionSel
        random, exchange, opaqueData }

theorem ends_parseKeyExchange (c : SpdmContext) :
    Ends (fun p => p.reqSessionId < 2 ^ 16) (fun _ => True) (parseKeyExchange c) :=
  .seq (.any _) fun _ => .seq (.any _) fun _ => .seq (.any _) fun _ => .seq (.any _) fun _ =>
    .bind ends_uintLe fun _ hid => .seq (.any _) fun _ => .seq (.any _) fun _ =>
    .seq (.any _) fun _ => .seq (.any _) fun _ => .seq (.any _) fun _ => .seq (.any _) fun _ =>
    .ret hid

def mutAuthReqWithGetDigests : Flags := 0x4
def mutAuthValidMask : Flags := 0x7

structure KeyExchangeRspPayload where
  heartbeatPeriod : Nat
  rspSessionId : Nat
  mutAuthReq : Flags
  reqSlotId : Nat
  random : Bytes
  exchange : Bytes
  measurementSummaryHash : Bytes
  opaqueData : Bytes
  deriving Repr, DecidableEq

def encodeKeyExchangeRsp (c : SpdmContext) (p : KeyExchangeRspPayload) : Bytes :=
  encodeHeader c.negotiateInfo.spdmVersionSel SpdmRequestResponseCode.spdmResponseKeyExchangeRsp ++
    [UInt8.ofNat p.heartbeatPeriod, 0] ++ leBytes 2 p.rspSessionId ++
    [UInt8.ofNat p.mutAuthReq, UInt8.ofNat p.reqSlotId] ++ p.random ++ p.exchange ++
    (if c.runtimeInfo.needMeasurementSummaryHash then p.measurementSummaryHash else []) ++
    encodeOpaque p.opaqueData

/-! ## §3. FINISH. -/

def signatureIncluded : Flags := 0x1

def encodeOpaqueSince14 (v : SpdmVersion) (data : Bytes) : Bytes :=
  if v.atLeast .spdmVersion14 then encodeOpaque data else []

def parseOpaqueSince14 (v : SpdmVersion) : Parser Bytes :=
  if v.atLeast .spdmVersion14 then parseOpaque else ret []

structure FinishPayload where
  finishRequestAttributes : Flags
  reqSlotId : UInt8
  opaqueData : Bytes
  signature : Bytes
  verifyData : Bytes
  deriving Repr, DecidableEq

def parseFinish (c : SpdmContext) : Parser FinishPayload := do
  let finishRequestAttributes ← flagsLe 1 signatureIncluded
  let reqSlotId ← u8
  require (decide (reqSlotId.toNat < spdmMaxSlotNumber) || reqSlotId == 0xFF)
  let opaqueData ← parseOpaqueSince14 c.negotiateInfo.spdmVersionSel
  let signature ← (if contains finishRequestAttributes signatureIncluded then parseSignature c
    else ret [])
  let verifyData ← parseDigest c
  ret { finishRequestAttributes, reqSlotId, opaqueData, signature, verifyData }

def encodeFinishRsp (v : SpdmVersion) (opaqueData : Bytes) : Bytes :=
  encodeHeader v SpdmRequestResponseCode.spdmResponseFinishRsp ++ [0, 0] ++
    encodeOpaqueSince14 v opaqueData

/-! ## §4. PSK_EXCHANGE and PSK_FINISH. -/

structure PskExchangePayload where
  measurementSummaryHashType : UInt8
  reqSessionId : Nat
  pskHint : Bytes
  pskContextSize : Nat
  pskContext : Bytes
  opaqueData : Bytes
  deriving Repr, DecidableEq

def encodePskExchange (v : SpdmVersion) (p : PskExchangePayload) : Bytes :=
  encodeHeader v SpdmRequestResponseCode.spdmRequestPskExchange ++
    [p.measurementSummaryHashType, 0] ++ leBytes 2 p.reqSessionId ++
    leBytes 2 p.pskHint.length ++ leBytes 2 p.pskContextSize ++ leBytes 2 p.opaqueData.length ++
    p.pskHint ++ p.pskContext ++ p.opaqueData

def parseLength (max : Nat) : Parser Nat := do
  let n ← uintLe 2
  require (decide (n ≤ max))
  ret n

def parsePskExchange (c : SpdmContext) : Parser PskExchangePayload := do
  let measurementSummaryHashType ← u8
  require (summaryHashTypeValid c measurementSummaryHashType)
  skipBytes 1
  let reqSessionId ← uintLe 2
  let hintSize ← parseLength (c.build.config.maxSpdmPskHintSize % 2 ^ 16)
  let contextSize ← parseLength (c.build.config.maxSpdmPskContextSize % 2 ^ 16)
  let opaqueSize ← parseLength maxSpdmOpaqueSize
  let pskHint ← takeBytes hintSize
  let pskContext ← takeBytes contextSize
  let opaqueData ← takeBytes opaqueSize
  ret { measurementSummaryHashType, reqSessionId, pskHint
        pskContextSize := contextSize, pskContext, opaqueData }

theorem ends_parsePskExchange (c : SpdmContext) :
    Ends (fun p => p.reqSessionId < 2 ^ 16) (fun _ => True) (parsePskExchange c) :=
  .seq (.any _) fun _ => .seq (.any _) fun _ => .seq (.any _) fun _ =>
    .bind ends_uintLe fun _ hid => .seq (.any _) fun _ => .seq (.any _) fun _ =>
    .seq (.any _) fun _ => .seq (.any _) fun _ => .seq (.any _) fun _ => .seq (.any _) fun _ =>
    .ret hid

structure PskExchangeRspPayload where
  heartbeatPeriod : Nat
  rspSessionId : Nat
  measurementSummaryHash : Bytes
  pskContext : Bytes
  opaqueData : Bytes
  deriving Repr, DecidableEq

def encodePskExchangeRsp (c : SpdmContext) (p : PskExchangeRspPayload) : Bytes :=
  let context := if c.pskWithoutContext then [] else p.pskContext
  encodeHeader c.negotiateInfo.spdmVersionSel SpdmRequestResponseCode.spdmResponsePskExchangeRsp ++
    [UInt8.ofNat p.heartbeatPeriod, 0] ++ leBytes 2 p.rspSessionId ++ [0, 0] ++
    leBytes 2 context.length ++ leBytes 2 p.opaqueData.length ++
    (if c.runtimeInfo.needMeasurementSummaryHash then p.measurementSummaryHash else []) ++
    context ++ p.opaqueData

def encodePskFinish (v : SpdmVersion) (opaqueData : Bytes) : Bytes :=
  encodeHeader v SpdmRequestResponseCode.spdmRequestPskFinish ++ [0, 0] ++
    encodeOpaqueSince14 v opaqueData

def parsePskFinish (c : SpdmContext) : Parser Bytes := do
  skipBytes 2
  let _ ← parseOpaqueSince14 c.negotiateInfo.spdmVersionSel
  parseDigest c

def encodePskFinishRsp (v : SpdmVersion) (opaqueData : Bytes) : Bytes :=
  encodeHeader v SpdmRequestResponseCode.spdmResponsePskFinishRsp ++ [0, 0] ++
    encodeOpaqueSince14 v opaqueData

/-! ## §5. Messages of two bytes. -/

def encodeGeneral (v : SpdmVersion) (code param1 param2 : UInt8) : Bytes :=
  encodeHeader v code ++ [param1, param2]

/-! ## §6. KEY_UPDATE. -/

namespace SpdmKeyUpdateOperation

def spdmUpdateSingleKey : UInt8 := 0x1
def spdmUpdateAllKeys : UInt8 := 0x2
def spdmVerifyNewKey : UInt8 := 0x3

end SpdmKeyUpdateOperation

structure KeyUpdatePayload where
  keyUpdateOperation : UInt8
  tag : UInt8
  deriving Repr, DecidableEq

open SpdmKeyUpdateOperation in
def isKeyUpdateOperation (op : UInt8) : Bool :=
  op == spdmUpdateSingleKey || op == spdmUpdateAllKeys || op == spdmVerifyNewKey

open SpdmKeyUpdateOperation in
def updatesRequester (op : UInt8) : Bool := op == spdmUpdateSingleKey || op == spdmUpdateAllKeys

open SpdmKeyUpdateOperation in
def updatesResponder (op : UInt8) : Bool := op == spdmUpdateAllKeys

def parseKeyUpdate : Parser KeyUpdatePayload := do
  let op ← u8
  let tag ← u8
  require (isKeyUpdateOperation op)
  ret ⟨op, tag⟩

def encodeKeyUpdate (v : SpdmVersion) (code op tag : UInt8) : Bytes :=
  encodeHeader v code ++ [op, tag]

/-! ## §7. Encapsulated messages. -/
def encapPayloadPresent : UInt8 := 1
def encapPayloadReqSlotNumber : UInt8 := 2

structure EncapAckPayload where
  requestId : UInt8
  payloadType : UInt8
  ackRequestId : UInt8
  deriving Repr, DecidableEq

def encodeEncapAck (v : SpdmVersion) (p : EncapAckPayload) : Bytes :=
  encodeHeader v SpdmRequestResponseCode.spdmResponseEncapsulatedResponseAck ++
    [p.requestId, p.payloadType] ++
    (if v.atLeast .spdmVersion12 then [p.ackRequestId, 0, 0, 0] else [])

/-! ## §8. Vendor defined messages. -/

def maxSpdmVendorDefinedPayloadSize (config : Config) : Nat := config.maxSpdmMsgSize - 13

structure VendorPayload where
  standardId : Nat
  vendorId : Bytes
  payload : Bytes
  deriving Repr, DecidableEq

def vendorSizesFit (c : SpdmContext) : Bool :=
  decide (maxSpdmVendorDefinedPayloadSize c.build.config ≤ 2 ^ 16 - 1)

def encodeVendor (c : SpdmContext) (code : UInt8) (p : VendorPayload) : Bytes :=
  encodeHeader c.negotiateInfo.spdmVersionSel code ++
    [if largeRespNegotiated c then 0x80 else 0, 0] ++ leBytes 2 p.standardId ++
    [UInt8.ofNat p.vendorId.length] ++ p.vendorId ++
    (if largeRespNegotiated c then [0, 0] ++ leBytes 4 p.payload.length
      else leBytes 2 p.payload.length) ++ p.payload

def parseVendor (c : SpdmContext) : Parser VendorPayload := do
  let param1 ← flagsLe 1 0x80
  skipBytes 1
  let large := param1 != 0
  require (!large || largeRespNegotiated c)
  let standardId ← uintLe 2
  let idLength ← u8
  let vendorId ← takeBytes idLength.toNat
  let length ← (if large then do
      skipBytes 2
      uintLe 4
    else do
      assert (vendorSizesFit c)
      uintLe 2)
  require (decide (length ≤ maxSpdmVendorDefinedPayloadSize c.build.config))
  let payload ← takeBytes length
  ret { standardId, vendorId, payload }

end Spdm
