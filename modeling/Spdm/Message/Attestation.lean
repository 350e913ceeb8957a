/-
  Spdm.Message.Attestation — DIGESTS, CERTIFICATE, CHALLENGE_AUTH and MEASUREMENTS with their
  requests (`message/digest.rs`, `message/certificate.rs`, `message/challenge.rs`,
  `message/measurement.rs`, `common/opaque.rs`, `common/spdm_codec.rs`).
-/
import Spdm.Context.Signature
import Spdm.Message.Negotiation

namespace Spdm

open Effect Codec

/-! ## §1. Shared fields. -/

def parseDigest (c : SpdmContext) : Parser Bytes := do
  let size ← orAbort c.hashSize?
  takeBytes size

def parseSignature (c : SpdmContext) : Parser Bytes := do
  let size ← orAbort c.asymSigSize?
  takeBytes size

def encodeOpaque (data : Bytes) : Bytes := leBytes 2 data.length ++ data

def parseOpaque : Parser Bytes := do
  let size ← uintLe 2
  require (decide (size ≤ maxSpdmOpaqueSize))
  takeBytes size

def requesterContextSize : Nat := 8

def encodeRequesterContext (v : SpdmVersion) (context : Bytes) : Bytes :=
  if v.atLeast .spdmVersion13 then context else []

def parseRequesterContext (v : SpdmVersion) : Parser Bytes :=
  if v.atLeast .spdmVersion13 then takeBytes requesterContextSize
  else ret (List.replicate requesterContextSize 0)

/-! ## §2. DIGESTS. -/

structure DigestsPayload where
  slotMask : UInt8
  digests : List Bytes
  supportedSlotMask : UInt8 := 0
  keyPairId : List UInt8 := []
  certificateInfo : List UInt8 := []
  keyUsageMask : List Flags := []
  deriving Repr, DecidableEq

def keyUsageValidMask : Flags := 0xC00F

def slotCount (mask : UInt8) : Nat := ((List.range 8).filter fun i => mask.toNat.testBit i).length

def multiKeyDigests (c : SpdmContext) : Bool :=
  c.negotiateInfo.spdmVersionSel.atLeast .spdmVersion13 && c.negotiateInfo.multiKeyConnRsp

/-! What a party says about its own slots. -/

def provisionedSlots (c : SpdmContext) : List (Fin 8) :=
  (List.finRange 8).filter fun i => (c.provisionInfo.myCertChain.get i).isSome

def provisionedMask (c : SpdmContext) : UInt8 :=
  UInt8.ofNat ((provisionedSlots c).map fun i => 2 ^ i.val).sum

def provisionedChains (c : SpdmContext) : List Bytes :=
  (List.finRange 8).filterMap fun i => c.provisionInfo.myCertChain.get i

def slotEntries {ε α : Type} (entries : Slots α) (slots : List (Fin 8)) :
    Prog SpdmContext ε (List α) :=
  orAbort (slots.mapM fun i => entries.get i)

def digestsPayload {ε : Type} (c : SpdmContext) (digestSize : Nat) :
    Prog SpdmContext ε DigestsPayload := do
  let slots := provisionedSlots c
  let p : DigestsPayload :=
    { slotMask := provisionedMask c
      digests := slots.map fun _ => List.replicate digestSize 0xff
      supportedSlotMask := UInt8.ofNat c.provisionInfo.localSupportedSlotMask }
  if multiKeyDigests c then do
    let keyPairId ← slotEntries c.provisionInfo.localKeyPairId slots
    let certificateInfo ← slotEntries c.provisionInfo.localCertInfo slots
    let keyUsageMask ← slotEntries c.provisionInfo.localKeyUsageBitMask slots
    ret { p with keyPairId, certificateInfo, keyUsageMask }
  else ret p

theorem digestsPayload_still {ε : Type} {c : SpdmContext} {digestSize : Nat} :
    Within (fun c c' => c' = c) (digestsPayload c digestSize : Prog SpdmContext ε _) := by
  unfold digestsPayload
  split
  · exact .bind (.orAbort _) fun _ => .bind (.orAbort _) fun _ => .bind (.orAbort _) fun _ => .ret _
  · exact .ret _

def encodeGetDigests (v : SpdmVersion) : Bytes :=
  encodeHeader v SpdmRequestResponseCode.spdmRequestGetDigests ++ [0, 0]

def parseGetDigests : Parser Unit := skipBytes 2

def encodeDigestsResponse (c : SpdmContext) (p : DigestsPayload) : Bytes :=
  let v := c.negotiateInfo.spdmVersionSel
  encodeHeader v SpdmRequestResponseCode.spdmResponseDigests ++
    [if v.atLeast .spdmVersion13 then p.supportedSlotMask else 0, p.slotMask] ++
    p.digests.flatten ++
    (if multiKeyDigests c then
      p.keyPairId ++ p.certificateInfo ++ p.keyUsageMask.flatMap (leBytes 2)
    else [])

def parseDigestsResponse (c : SpdmContext) : Parser DigestsPayload := do
  let param1 ← u8
  let slotMask ← u8
  let count := slotCount slotMask
  let digests ← repeatParser count (parseDigest c)
  let supportedSlotMask :=
    if c.negotiateInfo.spdmVersionSel.atLeast .spdmVersion13 then param1 else 0
  if multiKeyDigests c then do
    let keyPairId ← repeatParser count u8
    let certificateInfo ← repeatParser count u8
    let keyUsageMask ← repeatParser count (flagsLe 2 keyUsageValidMask)
    ret { slotMask, digests, supportedSlotMask, keyPairId, certificateInfo, keyUsageMask }
  else ret { slotMask, digests, supportedSlotMask }

/-! ## §3. CERTIFICATE. -/

def maxSpdmCertPortionLen : Nat := 512

def largeRespNegotiated (c : SpdmContext) : Bool :=
  c.negotiateInfo.spdmVersionSel.atLeast .spdmVersion14 &&
    contains c.negotiateInfo.rspCapabilitiesSel SpdmResponseCapabilityFlags.largeRespCap &&
    contains c.negotiateInfo.reqCapabilitiesSel SpdmRequestCapabilityFlags.largeRespCap

structure CertificateFields where
  slotId : Nat
  first : Nat
  second : Nat
  deriving Repr, DecidableEq

def encodeCertificateFields (c : SpdmContext) (p : CertificateFields) : Bytes :=
  if largeRespNegotiated c then
    [(UInt8.ofNat p.slotId &&& 0xF) ||| 0x80, 0, 0, 0, 0, 0] ++ leBytes 4 p.first ++
      leBytes 4 p.second
  else [UInt8.ofNat p.slotId &&& 0xF, 0] ++ leBytes 2 p.first ++ leBytes 2 p.second

def parseCertificateFields (c : SpdmContext) : Parser CertificateFields := do
  let param1 ← u8
  let slotId := (param1 &&& 0xF).toNat
  require (decide (slotId < spdmMaxSlotNumber))
  let large := param1 &&& 0x80 != 0
  require (!large || largeRespNegotiated c)
  skipBytes 1
  (if large then skipBytes 4 else ret ())
  let size := if large then 4 else 2
  let first ← uintLe size
  let second ← uintLe size
  ret ⟨slotId, first, second⟩

def encodeGetCertificate (c : SpdmContext) (slotId offset length : Nat) : Bytes :=
  encodeHeader c.negotiateInfo.spdmVersionSel SpdmRequestResponseCode.spdmRequestGetCertificate ++
    encodeCertificateFields c ⟨slotId, offset, length⟩

def encodeCertificateResponse (c : SpdmContext) (slotId remainderLength : Nat) (portion : Bytes) :
    Bytes :=
  encodeHeader c.negotiateInfo.spdmVersionSel SpdmRequestResponseCode.spdmResponseCertificate ++
    encodeCertificateFields c ⟨slotId, portion.length, remainderLength⟩ ++
    portion.take maxSpdmCertPortionLen

def parseCertificateResponse (c : SpdmContext) : Parser (CertificateFields × Bytes) := do
  let p ← parseCertificateFields c
  let portion ← takeBytes (min p.first maxSpdmCertPortionLen)
  ret (p, portion)

/-! ## §4. CHALLENGE. -/

def measurementSummaryHashNone : UInt8 := 0
def measurementSummaryHashTcb : UInt8 := 1
def measurementSummaryHashAll : UInt8 := 0xFF

def wantsSummaryHash (t : UInt8) : Bool :=
  t == measurementSummaryHashTcb || t == measurementSummaryHashAll

def measurementNegotiated (c : SpdmContext) : Bool :=
  contains c.negotiateInfo.rspCapabilitiesSel SpdmResponseCapabilityFlags.measCapSig ||
    contains c.negotiateInfo.rspCapabilitiesSel SpdmResponseCapabilityFlags.measCapNoSig

def summaryHashTypeValid (c : SpdmContext) (t : UInt8) : Bool :=
  t == measurementSummaryHashNone || wantsSummaryHash t && measurementNegotiated c

structure ChallengePayload where
  slotId : UInt8
  measurementSummaryHashType : UInt8
  nonce : Bytes
  context : Bytes
  deriving Repr, DecidableEq

def encodeChallenge (v : SpdmVersion) (p : ChallengePayload) : Bytes :=
  encodeHeader v SpdmRequestResponseCode.spdmRequestChallenge ++
    [p.slotId, p.measurementSummaryHashType] ++ p.nonce ++ encodeRequesterContext v p.context

def parseChallenge (c : SpdmContext) : Parser ChallengePayload := do
  let slotId ← u8
  require (decide (slotId.toNat < spdmMaxSlotNumber) || slotId == 0xFF)
  let measurementSummaryHashType ← u8
  require (summaryHashTypeValid c measurementSummaryHashType)
  let nonce ← takeBytes spdmNonceSize
  let context ← parseRequesterContext c.negotiateInfo.spdmVersionSel
  ret { slotId, measurementSummaryHashType, nonce, context }

def basicMutAuthReq : UInt8 := 0x80

structure ChallengeAuthPayload where
  slotId : UInt8
  slotMask : UInt8
  challengeAuthAttribute : UInt8 := 0
  certChainHash : Bytes
  nonce : Bytes
  measurementSummaryHash : Bytes
  opaqueData : Bytes := []
  requesterContext : Bytes
  deriving Repr, DecidableEq

def encodeChallengeAuth (c : SpdmContext) (p : ChallengeAuthPayload) : Bytes :=
  let v := c.negotiateInfo.spdmVersionSel
  encodeHeader v SpdmRequestResponseCode.spdmResponseChallengeAuth ++
    [p.slotId + p.challengeAuthAttribute, p.slotMask] ++ p.certChainHash ++ p.nonce ++
    (if c.runtimeInfo.needMeasurementSummaryHash then p.measurementSummaryHash else []) ++
    encodeOpaque p.opaqueData ++ encodeRequesterContext v p.requesterContext

def parseChallengeAuthBody (c : SpdmContext) : Parser ChallengeAuthPayload := do
  let param1 ← u8
  let slotId := param1 &&& 0xF
  require (decide (slotId.toNat < spdmMaxSlotNumber) || slotId == 0xF)
  let slotMask ← u8
  let certChainHash ← parseDigest c
  let nonce ← takeBytes spdmNonceSize
  let measurementSummaryHash ← (if c.runtimeInfo.needMeasurementSummaryHash then parseDigest c
    else ret [])
  let opaqueData ← parseOpaque
  let requesterContext ← parseRequesterContext c.negotiateInfo.spdmVersionSel
  ret { slotId, slotMask, challengeAuthAttribute := param1 &&& basicMutAuthReq, certChainHash,
        nonce, measurementSummaryHash, opaqueData, requesterContext }

def parseChallengeAuth (c : SpdmContext) : Parser (ChallengeAuthPayload × Bytes) := do
  let p ← parseChallengeAuthBody c
  let signature ← parseSignature c
  ret (p, signature)

/-! ## §5. MEASUREMENTS. -/

def signatureRequested : Flags := 0x1
def measurementAttributesValidMask : Flags := 0x7

def measurementQueryTotalNumber : UInt8 := 0

def measurementRequestAll : UInt8 := 0xFF

namespace SpdmMeasurementContentChanged

def toByte : SpdmMeasurementContentChanged → UInt8
  | notSupported => 0
  | detectedChange => 0x10
  | noChange => 0x20

def ofByte? (b : UInt8) : Option SpdmMeasurementContentChanged :=
  if b = 0 then some notSupported
  else if b = 0x10 then some detectedChange
  else if b = 0x20 then some noChange
  else none

end SpdmMeasurementContentChanged

structure GetMeasurementsPayload where
  measurementAttributes : Flags
  measurementOperation : UInt8
  nonce : Bytes
  slotId : Nat
  context : Bytes
  deriving Repr, DecidableEq

def encodeGetMeasurements (v : SpdmVersion) (p : GetMeasurementsPayload) : Bytes :=
  encodeHeader v SpdmRequestResponseCode.spdmRequestGetMeasurements ++
    [UInt8.ofNat p.measurementAttributes, p.measurementOperation] ++
    (if contains p.measurementAttributes signatureRequested then
      p.nonce ++ (if v.atLeast .spdmVersion11 then [UInt8.ofNat p.slotId] else [])
    else []) ++ encodeRequesterContext v p.context

def parseMeasurementNonce (v : SpdmVersion) (attributes : Flags) : Parser (Bytes × Nat) :=
  if contains attributes signatureRequested then do
    let nonce ← takeBytes spdmNonceSize
    if v.atLeast .spdmVersion11 then do
      let slotId ← u8
      ret (nonce, (slotId &&& 0xF).toNat)
    else ret (nonce, 0)
  else ret (List.replicate spdmNonceSize 0, 0)

def pubKeySlotIdMeasurement : Nat := 0xF

def parseGetMeasurements (v : SpdmVersion) : Parser GetMeasurementsPayload := do
  let measurementAttributes ← flagsLe 1 measurementAttributesValidMask
  let measurementOperation ← u8
  let (nonce, slotId) ← parseMeasurementNonce v measurementAttributes
  require (decide (slotId < spdmMaxSlotNumber) || slotId == pubKeySlotIdMeasurement)
  let context ← parseRequesterContext v
  ret { measurementAttributes, measurementOperation, nonce, slotId, context }

def representationValid (kind : Nat) (rawBit : Bool) : Bool :=
  if kind ∈ [5, 6, 7, 9] then rawBit else if kind = 8 then !rawBit else true

def parseDmtfMeasurement (c : SpdmContext) : Parser Nat := do
  let final ← u8
  let rawBit := final &&& 0x80 != 0
  require (representationValid (final &&& 0x7f).toNat rawBit)
  let valueSize ← uintLe 2
  require (decide (valueSize ≤ c.build.config.maxSpdmMeasurementValueLen))
  (if rawBit then ret () else do
    let hashSize ← orAbort (SpdmMeasurementHashAlgo.size? c.negotiateInfo.measurementHashSel)
    require (valueSize == hashSize &&
      c.negotiateInfo.measurementHashSel != SpdmMeasurementHashAlgo.rawBitStream))
  skipBytes valueSize
  ret valueSize

def parseMeasurementBlock (c : SpdmContext) : Parser UInt8 := do
  let index ← u8
  let specification ← flagsLe 1 SpdmMeasurementSpecification.validMask
  require (specification == SpdmMeasurementSpecification.dmtf)
  let size ← uintLe 2
  require (decide (size ≤ 3 + c.build.config.maxSpdmMeasurementValueLen))
  let valueSize ← parseDmtfMeasurement c
  require (size == (3 + valueSize) % 2 ^ 16)
  ret index

def parseMeasurementBlocks (c : SpdmContext) : Nat → UInt8 → Parser Unit
  | 0, _ => ret ()
  | n + 1, current => do
    let index ← parseMeasurementBlock c
    require (decide (current < index))
    parseMeasurementBlocks c n index

def verifyMeasurementRecord (c : SpdmContext) (numberOfBlocks : Nat) (record : Bytes) :
    Parser Unit :=
  match parseMeasurementBlocks c numberOfBlocks 0 record with
  | .ok _ rest => require rest.isEmpty
  | .err _ _ => reject
  | .panic => abort

def encodeMeasurementRecord (r : SpdmMeasurementRecordStructure) : Bytes :=
  [r.numberOfBlocks] ++ leBytes 3 r.measurementRecord.length ++ r.measurementRecord

def parseMeasurementRecord (c : SpdmContext) : Parser SpdmMeasurementRecordStructure := do
  let numberOfBlocks ← u8
  let length ← uintLe 3
  require (decide (length ≤ c.build.config.maxSpdmMeasurementRecordSize))
  let record ← takeBytes length
  verifyMeasurementRecord c numberOfBlocks.toNat record
  ret ⟨numberOfBlocks, record⟩

structure MeasurementsPayload where
  numberOfMeasurement : UInt8
  contentChanged : SpdmMeasurementContentChanged
  slotId : Nat
  measurementRecord : SpdmMeasurementRecordStructure
  nonce : Bytes
  opaqueData : Bytes := []
  requesterContext : Bytes
  deriving Repr, DecidableEq

def measurementsParam2 (c : SpdmContext) (p : MeasurementsPayload) : UInt8 :=
  let v := c.negotiateInfo.spdmVersionSel
  if v.atLeast .spdmVersion12 && c.runtimeInfo.needMeasurementSignature then
    UInt8.ofNat p.slotId ||| p.contentChanged.toByte
  else if v.atLeast .spdmVersion11 && c.runtimeInfo.needMeasurementSignature then
    UInt8.ofNat p.slotId
  else 0

def encodeMeasurements (c : SpdmContext) (operation : UInt8) (p : MeasurementsPayload) : Bytes :=
  let v := c.negotiateInfo.spdmVersionSel
  encodeHeader v SpdmRequestResponseCode.spdmResponseMeasurements ++
    [if operation = measurementQueryTotalNumber then p.numberOfMeasurement else 0,
      measurementsParam2 c p] ++
    encodeMeasurementRecord p.measurementRecord ++ p.nonce ++ encodeOpaque p.opaqueData ++
    encodeRequesterContext v p.requesterContext

def parseMeasurementsBody (c : SpdmContext) : Parser MeasurementsPayload := do
  let numberOfMeasurement ← u8
  let param2 ← u8
  let slotId := (param2 &&& 0xF).toNat
  require (decide (slotId < spdmMaxSlotNumber) || slotId == pubKeySlotIdMeasurement)
  let contentChanged ← orFail () (SpdmMeasurementContentChanged.ofByte? (param2 &&& 0x30))
  let measurementRecord ← parseMeasurementRecord c
  let nonce ← takeBytes spdmNonceSize
  let opaqueData ← parseOpaque
  let requesterContext ← parseRequesterContext c.negotiateInfo.spdmVersionSel
  ret { numberOfMeasurement, contentChanged, slotId, measurementRecord, nonce, opaqueData,
        requesterContext }

def parseMeasurements (c : SpdmContext) : Parser (MeasurementsPayload × Bytes) := do
  let p ← parseMeasurementsBody c
  let signature ← (if c.runtimeInfo.needMeasurementSignature then parseSignature c else ret [])
  ret (p, signature)

/-! ## §6. The readers look no further than they read. -/

theorem framed_skipBytes (n : Nat) : Framed (skipBytes n) := .bind (.takeBytes n) fun _ => .ret _

theorem framed_parseDigest (c : SpdmContext) : Framed (parseDigest c) :=
  .bind (.orAbort _) fun _ => .takeBytes _

theorem framed_parseOpaque : Framed parseOpaque :=
  .bind (.uintLe 2) fun _ => .bind (.require _) fun _ => .takeBytes _

theorem framed_parseRequesterContext {v : SpdmVersion} : Framed (parseRequesterContext v) := by
  unfold parseRequesterContext
  split
  · exact .takeBytes _
  · exact .ret _

theorem framed_parseChallengeAuthBody {c : SpdmContext} : Framed (parseChallengeAuthBody c) := by
  refine .bind .u8 fun param1 => .bind (.require _) fun _ => .bind .u8 fun slotMask =>
    .bind (framed_parseDigest c) fun hash => .bind (.takeBytes _) fun nonce =>
    .bind ?_ fun summary =>
    .bind framed_parseOpaque fun opaqueData =>
    .bind framed_parseRequesterContext fun context => .ret _
  split
  · exact framed_parseDigest c
  · exact .ret _

theorem framed_verifyMeasurementRecord (c : SpdmContext) {n : Nat} {record : Bytes} :
    Framed (verifyMeasurementRecord c n record) := by
  unfold verifyMeasurementRecord
  split
  · exact .require _
  · exact .fail _
  · exact .abort

theorem framed_parseMeasurementRecord (c : SpdmContext) : Framed (parseMeasurementRecord c) :=
  .bind .u8 fun _ => .bind (.uintLe 3) fun _ => .bind (.require _) fun _ =>
    .bind (.takeBytes _) fun _ => .bind (framed_verifyMeasurementRecord c) fun _ => .ret _

theorem framed_parseMeasurementsBody {c : SpdmContext} : Framed (parseMeasurementsBody c) :=
  .bind .u8 fun _ => .bind .u8 fun _ => .bind (.require _) fun _ => .bind (.orFail _ _) fun _ =>
    .bind (framed_parseMeasurementRecord c) fun _ => .bind (.takeBytes _) fun _ =>
    .bind framed_parseOpaque fun _ => .bind framed_parseRequesterContext fun _ => .ret _

end Spdm
