/-
  Spdm.Message.Negotiation — VERSION, CAPABILITIES and ALGORITHMS (`message/version.rs`,
  `message/capability.rs`, `message/algorithm.rs`).
-/
import Spdm.Context.Channel

namespace Spdm

open Effect Codec

/-! ## §1. Fields. -/

def flagsLe (n : Nat) (mask : Flags) : Parser Flags := do
  let bits ← uintLe n
  ret (bits &&& mask)

def skipBytes (n : Nat) : Parser Unit := do
  let _ ← takeBytes n
  ret ()

theorem skipBytes_append {n : Nat} {bs rest : Bytes} (h : bs.length = n) :
    skipBytes n (bs ++ rest) = .ok () rest := by
  unfold skipBytes
  rw [bind_of_ok (takeBytes_append h)]
  rfl

theorem skipBytes_eq_ok {n : Nat} {u : Unit} {bs rest : Bytes} (h : skipBytes n bs = .ok u rest) :
    ∃ skipped, skipped.length = n ∧ bs = skipped ++ rest := by
  obtain ⟨skipped, _, htake, hret⟩ := bind_eq_ok.1 h
  obtain ⟨-, rfl⟩ := ret_eq_ok.1 hret
  exact ⟨skipped, takeBytes_eq_ok htake⟩

def consumed (message rest : Bytes) : Bytes := message.take (message.length - rest.length)

theorem consumed_append {message rest : Bytes} : consumed (message ++ rest) rest = message := by
  simp [consumed]

/-! ## §2. VERSION. -/

def parseGetVersion : Parser Unit := skipBytes 2

def encodeVersionResponse (versions : List SpdmVersion) : Bytes :=
  encodeHeader .spdmVersion10 SpdmRequestResponseCode.spdmResponseVersion ++
    [0, 0, 0, UInt8.ofNat versions.length] ++ versions.flatMap fun v => [0, v.toByte]

def collectVersions : List SpdmVersion → Bytes → Option (List SpdmVersion)
  | seen, _ :: b :: rest =>
    match SpdmVersion.ofByte? b with
    | some v => collectVersions (if v ∈ seen then seen else seen ++ [v]) rest
    | none => if b < 0x10 then none else collectVersions seen rest
  | seen, _ => some seen

def parseVersionResponse : Parser (List SpdmVersion) := do
  skipBytes 3
  let count ← u8
  require (count != 0)
  let entries ← takeBytes (count.toNat * 2)
  match collectVersions [] entries with
  | some versions => ret versions
  | none => reject

/-! ## §3. CAPABILITIES. -/

structure CapabilitiesPayload where
  ctExponent : Nat := 0
  flags : Flags := 0
  dataTransferSize : Nat := 0
  maxSpdmMsgSize : Nat := 0
  exFlags : Flags := 0
  deriving Repr, DecidableEq

section Requester
open SpdmRequestCapabilityFlags

def requestFlagsValid (v : SpdmVersion) (flags : Flags) : Bool :=
  let has := contains flags
  let v13 := v.atLeast .spdmVersion13
  !has pskRsvd &&
  (if has keyExCap || has pskCap then has macCap
    else !(has macCap || has encryptCap || has handshakeInTheClearCap || has hbeatCap ||
      has keyUpdCap) && !(v13 && has eventCap)) &&
  !(!has keyExCap && has pskCap && has handshakeInTheClearCap) &&
  (if has certCap || has pubKeyIdCap then
      !(has certCap && has pubKeyIdCap) && (has chalCap || has keyExCap)
    else !(has chalCap || has mutAuthCap) && !(v13 && has epInfoCapSig)) &&
  !(v == .spdmVersion11 && has mutAuthCap && !has encapCap) &&
  !(v13 && (has epInfoCapNoSig && has epInfoCapSig || has multiKeyCapOnly && has multiKeyCapConnSel
    || has pubKeyIdCap && (has multiKeyCapOnly || has multiKeyCapConnSel)))

end Requester

def parseTransferSizes (v : SpdmVersion) : Parser (Nat × Nat) :=
  if v.atLeast .spdmVersion12 then do
    let dataTransferSize ← uintLe 4
    let maxSpdmMsgSize ← uintLe 4
    require (!(dataTransferSize < 42 || maxSpdmMsgSize < dataTransferSize))
    ret (dataTransferSize, maxSpdmMsgSize)
  else ret (0, 0)

def parseRequestFlags (v : SpdmVersion) : Parser (Nat × Flags × Flags) := do
  skipBytes 1
  let ctExponent ← u8
  -- extended flags from 1.4 on, none of them known for requests
  skipBytes 2
  let flags ← flagsLe 4 SpdmRequestCapabilityFlags.validMask
  require (requestFlagsValid v flags)
  ret (ctExponent.toNat, flags, 0)

def supportedAlgosExtCap : Flags := 0x1

def parseGetCapabilities (c : SpdmContext) : Parser CapabilitiesPayload := do
  let v := c.negotiateInfo.spdmVersionSel
  let param1 ← u8
  require (!(v.atLeast .spdmVersion13 && contains param1.toNat supportedAlgosExtCap &&
    !contains c.configInfo.rspCapabilities SpdmResponseCapabilityFlags.chunkCap))
  skipBytes 1
  let (ctExponent, flags, exFlags) ← (if v.atLeast .spdmVersion11 then parseRequestFlags v
    else ret (0, 0, 0))
  let (dataTransferSize, maxSpdmMsgSize) ← parseTransferSizes v
  ret { ctExponent, flags, dataTransferSize, maxSpdmMsgSize, exFlags }

def encodeTransferSizes (v : SpdmVersion) (p : CapabilitiesPayload) : Bytes :=
  if v.atLeast .spdmVersion12 then leBytes 4 p.dataTransferSize ++ leBytes 4 p.maxSpdmMsgSize
  else []

def encodeExFlags (v : SpdmVersion) (p : CapabilitiesPayload) : Bytes :=
  if v.atLeast .spdmVersion14 then leBytes 2 p.exFlags else [0, 0]

def encodeGetCapabilities (v : SpdmVersion) (p : CapabilitiesPayload) : Bytes :=
  encodeHeader v SpdmRequestResponseCode.spdmRequestGetCapabilities ++ [0, 0] ++
    (if v.atLeast .spdmVersion11 then
      [0, UInt8.ofNat p.ctExponent] ++ encodeExFlags v p ++ leBytes 4 p.flags
    else []) ++ encodeTransferSizes v p

def encodeCapabilitiesResponse (v : SpdmVersion) (p : CapabilitiesPayload) : Bytes :=
  encodeHeader v SpdmRequestResponseCode.spdmResponseCapabilities ++
    [0, 0, 0, UInt8.ofNat p.ctExponent] ++ encodeExFlags v p ++ leBytes 4 p.flags ++
    encodeTransferSizes v p

section Responder
open SpdmResponseCapabilityFlags

def responseFlagsValid11 (v : SpdmVersion) (flags : Flags) : Bool :=
  let has := contains flags
  let psk := has pskCapWithoutContext || has pskCapWithContext
  let v13 := v.atLeast .spdmVersion13
  !(has pskCapWithoutContext && has pskCapWithContext) &&
  (if has keyExCap || psk then has macCap
    else !(has macCap || has encryptCap || has handshakeInTheClearCap || has hbeatCap ||
      has keyUpdCap) && !(v13 && has eventCap)) &&
  !(!has keyExCap && psk && has handshakeInTheClearCap) &&
  (if has certCap || has pubKeyIdCap then
      !(has certCap && has pubKeyIdCap) && (has chalCap || has keyExCap || has measCapSig)
    else !(has chalCap || has keyExCap || has measCapSig || has mutAuthCap) &&
      !(v13 && has epInfoCapSig))

def responseFlagsValid (v : SpdmVersion) (flags : Flags) : Bool :=
  let has := contains flags
  !(has measCapNoSig && has measCapSig) &&
  !(!has measCapNoSig && !has measCapSig && has measFreshCap) &&
  (if v.atLeast .spdmVersion11 then responseFlagsValid11 v flags
    else if has measCapSig then has certCap else has certCap == has chalCap) &&
  !(v == .spdmVersion11 && has mutAuthCap && !has encapCap) &&
  !(v.atLeast .spdmVersion12 && (!has certCap && (has aliasCertCap || has setCertCap) ||
    has csrCap && !has setCertCap || has certInstallResetCap && !has csrCap && !has setCertCap)) &&
  !(v.atLeast .spdmVersion13 && (has epInfoCapNoSig && has epInfoCapSig ||
    has multiKeyCapOnly && has multiKeyCapConnSel ||
    (has multiKeyCapOnly || has multiKeyCapConnSel) && (has pubKeyIdCap || !has getKeyPairInfoCap)))

end Responder

def slotMgmtCap : Flags := 0x1

def parseCapabilitiesResponse (c : SpdmContext) : Parser CapabilitiesPayload := do
  let v := c.negotiateInfo.spdmVersionSel
  skipBytes 3
  let ctExponent ← u8
  let exFlags ← (if v.atLeast .spdmVersion14 then flagsLe 2 slotMgmtCap
    else do skipBytes 2; ret 0)
  let flags ← flagsLe 4 SpdmResponseCapabilityFlags.validMask
  require (responseFlagsValid v flags)
  let (dataTransferSize, maxSpdmMsgSize) ← parseTransferSizes v
  ret { ctExponent := ctExponent.toNat, flags, dataTransferSize, maxSpdmMsgSize, exFlags }

/-! ## §4. ALGORITHMS. -/

inductive SpdmAlgType where
  | dhe
  | aead
  | reqAsym
  | keySchedule
  | pqcReqAsym
  | kem
  deriving Repr, DecidableEq

namespace SpdmAlgType

def toByte : SpdmAlgType → UInt8
  | dhe => 2
  | aead => 3
  | reqAsym => 4
  | keySchedule => 5
  | pqcReqAsym => 6
  | kem => 7

def ofByte? (b : UInt8) : Option SpdmAlgType :=
  [dhe, aead, reqAsym, keySchedule, pqcReqAsym, kem].find? fun t => t.toByte == b

def validMask : SpdmAlgType → Flags
  | dhe => SpdmDheAlgo.validMask
  | aead => SpdmAeadAlgo.validMask
  | reqAsym => SpdmReqAsymAlgo.validMask
  | keySchedule => SpdmKeyScheduleAlgo.validMask
  | pqcReqAsym => SpdmPqcReqAsymAlgo.validMask
  | kem => SpdmKemAlgo.validMask

end SpdmAlgType

structure SpdmAlgStruct where
  algType : SpdmAlgType
  algSupported : Flags
  deriving Repr, DecidableEq

def algCount : UInt8 := 0x20

def encodeAlgStruct (a : SpdmAlgStruct) : Bytes :=
  [a.algType.toByte, algCount] ++ leBytes 2 a.algSupported

def parseAlgStruct : Parser SpdmAlgStruct := do
  let algType ← u8
  let count ← u8
  require (count == algCount)
  match SpdmAlgType.ofByte? algType with
  | none => reject
  | some t => do
    let supported ← flagsLe 2 t.validMask
    ret ⟨t, supported⟩

def parseAlgStructs : Nat → UInt8 → Parser (List SpdmAlgStruct)
  | 0, _ => ret []
  | n + 1, current => do
    let a ← parseAlgStruct
    require (decide (current < a.algType.toByte))
    let as ← parseAlgStructs n a.algType.toByte
    ret (a :: as)

def maxSupportedAlgStructureCount : Nat := 6

structure NegotiateAlgorithmsPayload where
  measurementSpecification : Flags := 0
  otherParamsSupport : Flags := 0
  baseAsymAlgo : Flags := 0
  baseHashAlgo : Flags := 0
  pqcAsymAlgo : Flags := 0
  melSpecification : Flags := 0
  algStruct : List SpdmAlgStruct := []
  deriving Repr, DecidableEq

structure AlgorithmsPayload where
  measurementSpecificationSel : Flags := 0
  otherParamsSelection : Flags := 0
  measurementHashAlgo : Flags := 0
  baseAsymSel : Flags := 0
  baseHashSel : Flags := 0
  pqcAsymSel : Flags := 0
  melSpecificationSel : Flags := 0
  algStruct : List SpdmAlgStruct := []
  deriving Repr, DecidableEq

def structCount (v : SpdmVersion) (as : List SpdmAlgStruct) : Nat :=
  if v.atLeast .spdmVersion11 then as.length else 0

def encodeAlgStructs (v : SpdmVersion) (as : List SpdmAlgStruct) : Bytes :=
  if v.atLeast .spdmVersion11 then as.flatMap encodeAlgStruct else []

def encodeSince (v w : SpdmVersion) (n : Nat) (x : Flags) : Bytes :=
  if v.atLeast w then leBytes n x else List.replicate n 0

def parseSince (v w : SpdmVersion) (n : Nat) (mask : Flags) : Parser Flags :=
  if v.atLeast w then flagsLe n mask else do
    skipBytes n
    ret 0

def parseStructCount (v : SpdmVersion) : Parser Nat := do
  let param1 ← u8
  if v.atLeast .spdmVersion11 then do
    require (decide (param1.toNat ≤ maxSupportedAlgStructureCount))
    ret param1.toNat
  else ret 0

def encodeNegotiateAlgorithms (v : SpdmVersion) (p : NegotiateAlgorithmsPayload) : Bytes :=
  encodeHeader v SpdmRequestResponseCode.spdmRequestNegotiateAlgorithms ++
    [UInt8.ofNat (structCount v p.algStruct), 0] ++
    leBytes 2 (32 + 4 * structCount v p.algStruct) ++
    leBytes 1 p.measurementSpecification ++
    encodeSince v .spdmVersion12 1 p.otherParamsSupport ++
    leBytes 4 p.baseAsymAlgo ++ leBytes 4 p.baseHashAlgo ++
    encodeSince v .spdmVersion14 4 p.pqcAsymAlgo ++
    List.replicate 8 0 ++ [0, 0, 0] ++
    encodeSince v .spdmVersion13 1 p.melSpecification ++ encodeAlgStructs v p.algStruct

def parseNegotiateAlgorithms (v : SpdmVersion) : Parser NegotiateAlgorithmsPayload := do
  let count ← parseStructCount v
  skipBytes 1
  let length ← uintLe 2
  let measurementSpecification ← flagsLe 1 SpdmMeasurementSpecification.validMask
  let otherParamsSupport ← parseSince v .spdmVersion12 1 SpdmAlgoOtherParams.validMask
  let baseAsymAlgo ← flagsLe 4 SpdmBaseAsymAlgo.validMask
  let baseHashAlgo ← flagsLe 4 SpdmBaseHashAlgo.validMask
  let pqcAsymAlgo ← parseSince v .spdmVersion14 4 SpdmPqcAsymAlgo.validMask
  skipBytes 8
  let extAsymCount ← u8
  require (extAsymCount == 0)
  let extHashCount ← u8
  require (extHashCount == 0)
  skipBytes 1
  let melSpecification ← parseSince v .spdmVersion13 1 SpdmMelSpecification.validMask
  let algStruct ← parseAlgStructs count 0
  require (length == 32 + 4 * count)
  ret { measurementSpecification, otherParamsSupport, baseAsymAlgo, baseHashAlgo, pqcAsymAlgo,
        melSpecification, algStruct }

def encodeAlgorithmsResponse (v : SpdmVersion) (p : AlgorithmsPayload) : Bytes :=
  encodeHeader v SpdmRequestResponseCode.spdmResponseAlgorithms ++
    [UInt8.ofNat (structCount v p.algStruct), 0] ++
    leBytes 2 (36 + 4 * structCount v p.algStruct) ++
    leBytes 1 p.measurementSpecificationSel ++
    encodeSince v .spdmVersion12 1 p.otherParamsSelection ++
    leBytes 4 p.measurementHashAlgo ++ leBytes 4 p.baseAsymSel ++ leBytes 4 p.baseHashSel ++
    encodeSince v .spdmVersion14 4 p.pqcAsymSel ++
    List.replicate 7 0 ++ encodeSince v .spdmVersion13 1 p.melSpecificationSel ++
    [0, 0, 0, 0] ++ encodeAlgStructs v p.algStruct

structure NegotiatedCaps where
  measurement : Bool
  keyExRsp : Bool
  pskRsp : Bool
  keyExBoth : Bool
  pskBoth : Bool
  certChalMeas : Bool
  secured : Bool
  mutAuthBoth : Bool

def negotiatedCaps (c : SpdmContext) : NegotiatedCaps :=
  let rsp := contains c.negotiateInfo.rspCapabilitiesSel
  let req := contains c.negotiateInfo.reqCapabilitiesSel
  let psk := rsp SpdmResponseCapabilityFlags.pskCapWithoutContext ||
    rsp SpdmResponseCapabilityFlags.pskCapWithContext
  { measurement := rsp SpdmResponseCapabilityFlags.measCapNoSig ||
      rsp SpdmResponseCapabilityFlags.measCapSig
    keyExRsp := rsp SpdmResponseCapabilityFlags.keyExCap
    pskRsp := psk
    keyExBoth := rsp SpdmResponseCapabilityFlags.keyExCap && req SpdmRequestCapabilityFlags.keyExCap
    pskBoth := psk && req SpdmRequestCapabilityFlags.pskCap
    certChalMeas := rsp SpdmResponseCapabilityFlags.certCap ||
      rsp SpdmResponseCapabilityFlags.chalCap || rsp SpdmResponseCapabilityFlags.measCapSig
    secured := rsp SpdmResponseCapabilityFlags.encryptCap &&
        req SpdmRequestCapabilityFlags.encryptCap ||
      rsp SpdmResponseCapabilityFlags.macCap && req SpdmRequestCapabilityFlags.macCap
    mutAuthBoth := rsp SpdmResponseCapabilityFlags.mutAuthCap &&
      req SpdmRequestCapabilityFlags.mutAuthCap }

def selectedStructValid (caps : NegotiatedCaps) (a : SpdmAlgStruct) : Bool :=
  isNoMoreThanOneSelected a.algSupported &&
  match a.algType with
  | .aead => !caps.secured || isValidOneSelect SpdmAeadAlgo.validMask a.algSupported
  | .keySchedule => !(caps.keyExBoth || caps.pskBoth) ||
      isValidOneSelect SpdmKeyScheduleAlgo.validMask a.algSupported
  | _ => true

def selectedOf (t : SpdmAlgType) (as : List SpdmAlgStruct) : Flags :=
  ((as.find? fun a => a.algType == t).map (·.algSupported)).getD 0

def selectedStructsValid (caps : NegotiatedCaps) (as : List SpdmAlgStruct) : Bool :=
  let picked (t : SpdmAlgType) := isValidOneSelect t.validMask (selectedOf t as)
  as.all (selectedStructValid caps) &&
  !(picked .dhe && picked .kem) && !(caps.keyExBoth && !picked .dhe && !picked .kem) &&
  !(picked .reqAsym && picked .pqcReqAsym) &&
  !(caps.mutAuthBoth && !picked .reqAsym && !picked .pqcReqAsym)

def parseAlgorithmsResponse (c : SpdmContext) : Parser AlgorithmsPayload := do
  let v := c.negotiateInfo.spdmVersionSel
  let caps := negotiatedCaps c
  let count ← parseStructCount v
  skipBytes 1
  let length ← uintLe 2
  let measurementSpecificationSel ← flagsLe 1 SpdmMeasurementSpecification.validMask
  require (isNoMoreThanOneSelected measurementSpecificationSel)
  require (!caps.measurement ||
    isValidOneSelect SpdmMeasurementSpecification.validMask measurementSpecificationSel)
  let otherParamsSelection ← parseSince v .spdmVersion12 1 SpdmAlgoOtherParams.validMask
  require (!(v.atLeast .spdmVersion12 && (caps.keyExRsp || caps.pskRsp) &&
    !contains otherParamsSelection SpdmAlgoOtherParams.opaqueDataFmt1))
  let measurementHashAlgo ← flagsLe 4 SpdmMeasurementHashAlgo.validMask
  require (isNoMoreThanOneSelected measurementHashAlgo)
  require (!caps.measurement ||
    isValidOneSelect SpdmMeasurementHashAlgo.validMask measurementHashAlgo)
  let baseAsymSel ← flagsLe 4 SpdmBaseAsymAlgo.validMask
  require (isNoMoreThanOneSelected baseAsymSel)
  let baseHashSel ← flagsLe 4 SpdmBaseHashAlgo.validMask
  require (isNoMoreThanOneSelected baseHashSel)
  require (!(caps.certChalMeas || caps.keyExBoth || caps.pskBoth) ||
    isValidOneSelect SpdmBaseHashAlgo.validMask baseHashSel)
  -- read from version 1.2 on, although written from 1.4 on
  let pqcAsymSel ← parseSince v .spdmVersion12 4 SpdmPqcAsymAlgo.validMask
  require (isNoMoreThanOneSelected pqcAsymSel)
  let baseValid := isValidOneSelect SpdmBaseAsymAlgo.validMask baseAsymSel
  let pqcValid := isValidOneSelect SpdmPqcAsymAlgo.validMask pqcAsymSel
  require (!(baseValid && pqcValid))
  require (!((caps.certChalMeas || caps.keyExBoth) && !baseValid && !pqcValid))
  skipBytes 7
  let melSpecificationSel ← parseSince v .spdmVersion13 1 SpdmMelSpecification.validMask
  let extAsymCount ← u8
  require (extAsymCount == 0)
  let extHashCount ← u8
  require (extHashCount == 0)
  skipBytes 2
  let algStruct ← parseAlgStructs count 0
  require (!v.atLeast .spdmVersion11 || selectedStructsValid caps algStruct)
  require (length == 36 + 4 * count)
  ret { measurementSpecificationSel, otherParamsSelection, measurementHashAlgo, baseAsymSel,
        baseHashSel, pqcAsymSel, melSpecificationSel, algStruct }

end Spdm
