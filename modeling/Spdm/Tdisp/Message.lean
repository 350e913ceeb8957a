/-
  Spdm.Tdisp.Message — the TDISP messages of the interface report (`pci_tdisp.rs`).
-/
import Mathlib.Data.Nat.Bitwise
import Spdm.Message.Session

namespace Spdm

open Effect Codec

namespace Tdisp

/-! ## §1. Interfaces. -/

def tdispProtocolId : UInt8 := 1

structure FunctionId where
  requesterId : UInt16 := 0
  requesterSegment : UInt8 := 0
  requesterSegmentValid : Bool := false
  deriving Repr, DecidableEq

namespace FunctionId

def word (f : FunctionId) : Nat :=
  f.requesterId.toNat ||| (if f.requesterSegmentValid then f.requesterSegment.toNat <<<
    16 else 0) |||
    f.requesterSegmentValid.toNat <<< 24

def encode (f : FunctionId) : Bytes := leBytes 4 f.word

def parse : Parser FunctionId := do
  let word ← uintLe 4
  let requesterId := UInt16.ofNat (word &&& 0x0000FFFF)
  let requesterSegment := UInt8.ofNat ((word &&& 0x00FF0000) >>> 16)
  let requesterSegmentValid := word &&& (1 <<< 24) != 0
  require (!(!requesterSegmentValid && requesterSegment != 0))
  ret { requesterId, requesterSegment, requesterSegmentValid }

def wire (f : FunctionId) : FunctionId :=
  if f.requesterSegmentValid then f else { requesterId := f.requesterId }

end FunctionId

structure InterfaceId where
  functionId : FunctionId := {}
  deriving Repr, DecidableEq

namespace InterfaceId

def encode (i : InterfaceId) : Bytes := i.functionId.encode ++ leBytes 8 0

def parse : Parser InterfaceId := do
  let functionId ← FunctionId.parse
  skipBytes 8
  ret { functionId }

def wire (i : InterfaceId) : InterfaceId := { functionId := i.functionId.wire }

end InterfaceId

/-! ## §2. Codes and versions. -/

inductive TdispRequestResponseCode where
  | getTdispVersion
  | getTdispCapabilities
  | lockInterfaceRequest
  | getDeviceInterfaceReport
  | getDeviceInterfaceState
  | startInterfaceRequest
  | stopInterfaceRequest
  | bindP2pStreamRequest
  | unbindP2pStreamRequest
  | setMmioAttributeRequest
  | vdmRequest
  | tdispVersion
  | tdispCapabilities
  | lockInterfaceResponse
  | deviceInterfaceReport
  | deviceInterfaceState
  | startInterfaceResponse
  | stopInterfaceResponse
  | bindP2pStreamResponse
  | unbindP2pStreamResponse
  | setMmioAttributeResponse
  | vdmResponse
  | tdispError
  deriving Repr, DecidableEq

namespace TdispRequestResponseCode

def toByte : TdispRequestResponseCode → UInt8
  | getTdispVersion => 0x81
  | getTdispCapabilities => 0x82
  | lockInterfaceRequest => 0x83
  | getDeviceInterfaceReport => 0x84
  | getDeviceInterfaceState => 0x85
  | startInterfaceRequest => 0x86
  | stopInterfaceRequest => 0x87
  | bindP2pStreamRequest => 0x88
  | unbindP2pStreamRequest => 0x89
  | setMmioAttributeRequest => 0x8A
  | vdmRequest => 0x8B
  | tdispVersion => 0x01
  | tdispCapabilities => 0x02
  | lockInterfaceResponse => 0x03
  | deviceInterfaceReport => 0x04
  | deviceInterfaceState => 0x05
  | startInterfaceResponse => 0x06
  | stopInterfaceResponse => 0x07
  | bindP2pStreamResponse => 0x08
  | unbindP2pStreamResponse => 0x09
  | setMmioAttributeResponse => 0x0A
  | vdmResponse => 0x0B
  | tdispError => 0x7F

def all : List TdispRequestResponseCode :=
  [getTdispVersion, getTdispCapabilities, lockInterfaceRequest, getDeviceInterfaceReport,
    getDeviceInterfaceState, startInterfaceRequest, stopInterfaceRequest, bindP2pStreamRequest,
    unbindP2pStreamRequest, setMmioAttributeRequest, vdmRequest, tdispVersion, tdispCapabilities,
    lockInterfaceResponse, deviceInterfaceReport, deviceInterfaceState, startInterfaceResponse,
    stopInterfaceResponse, bindP2pStreamResponse, unbindP2pStreamResponse, setMmioAttributeResponse,
    vdmResponse, tdispError]

def ofByte? (b : UInt8) : Option TdispRequestResponseCode := all.find? fun code => code.toByte == b

theorem ofByte?_toByte (code : TdispRequestResponseCode) : ofByte? code.toByte = some code := by
  cases code <;> rfl

end TdispRequestResponseCode

inductive TdispErrorCode where
  | invalidRequest
  | busy
  | invalidInterfaceState
  | unspecified
  | unsupportedRequest
  | versionMismatch
  | vendorSpecificError
  | invalidInterface
  | invalidNonce
  | insufficientEntropy
  | invalidDeviceConfiguration
  deriving Repr, DecidableEq

namespace TdispErrorCode

def toNat : TdispErrorCode → Nat
  | invalidRequest => 0x0001
  | busy => 0x0003
  | invalidInterfaceState => 0x0004
  | unspecified => 0x0005
  | unsupportedRequest => 0x0007
  | versionMismatch => 0x0041
  | vendorSpecificError => 0x00FF
  | invalidInterface => 0x0101
  | invalidNonce => 0x0102
  | insufficientEntropy => 0x0103
  | invalidDeviceConfiguration => 0x0104

def all : List TdispErrorCode :=
  [invalidRequest, busy, invalidInterfaceState, unspecified, unsupportedRequest, versionMismatch,
    vendorSpecificError, invalidInterface, invalidNonce, insufficientEntropy,
    invalidDeviceConfiguration]

def ofNat? (n : Nat) : Option TdispErrorCode := all.find? fun code => code.toNat == n

end TdispErrorCode

structure TdispVersion where
  majorVersion : UInt8 := 1
  minorVersion : UInt8 := 0
  deriving Repr, DecidableEq

def TdispVersion.toByte (v : TdispVersion) : UInt8 := v.majorVersion <<< 4 ||| v.minorVersion

def TdispVersion.ofByte (b : UInt8) : TdispVersion where
  majorVersion := (b &&& 0xF0) >>> 4
  minorVersion := b &&& 0x0F

/-! ## §3. Messages. -/

structure TdispMessageHeader where
  tdispVersion : TdispVersion := {}
  messageType : TdispRequestResponseCode
  interfaceId : InterfaceId
  deriving Repr, DecidableEq

namespace TdispMessageHeader

def encode (h : TdispMessageHeader) : Bytes :=
  [tdispProtocolId, h.tdispVersion.toByte, h.messageType.toByte] ++ leBytes 2 0 ++
    h.interfaceId.encode

def parse : Parser TdispMessageHeader := do
  let protocolId ← u8
  require (protocolId == tdispProtocolId)
  let version ← u8
  let code ← u8
  let messageType ← orFail () (TdispRequestResponseCode.ofByte? code)
  skipBytes 2
  let interfaceId ← InterfaceId.parse
  ret { tdispVersion := .ofByte version, messageType, interfaceId }

end TdispMessageHeader

structure ReqGetDeviceInterfaceReport where
  messageHeader : TdispMessageHeader
  offset : Nat
  length : Nat
  deriving Repr, DecidableEq

namespace ReqGetDeviceInterfaceReport

def encode (r : ReqGetDeviceInterfaceReport) : Bytes :=
  r.messageHeader.encode ++ leBytes 2 r.offset ++ leBytes 2 r.length

def parse : Parser ReqGetDeviceInterfaceReport := do
  let messageHeader ← TdispMessageHeader.parse
  let offset ← uintLe 2
  let length ← uintLe 2
  ret { messageHeader, offset, length }

end ReqGetDeviceInterfaceReport

def maxDeviceReportBuffer (config : Config) : Nat :=
  maxSpdmVendorDefinedPayloadSize config - 1 - 16 - 4

def maxPortionLength (config : Config) : Nat := maxDeviceReportBuffer config

structure RspDeviceInterfaceReport where
  messageHeader : TdispMessageHeader
  portionLength : Nat
  remainderLength : Nat
  report : Bytes
  deriving Repr, DecidableEq

namespace RspDeviceInterfaceReport

def encode (r : RspDeviceInterfaceReport) : Bytes :=
  r.messageHeader.encode ++ leBytes 2 r.portionLength ++ leBytes 2 r.remainderLength ++
    r.report.take r.portionLength

def parse (config : Config) : Parser RspDeviceInterfaceReport := do
  let messageHeader ← TdispMessageHeader.parse
  let portionLength ← uintLe 2
  let remainderLength ← uintLe 2
  require (decide (portionLength ≤ maxPortionLength config))
  let report ← takeBytes portionLength
  ret { messageHeader, portionLength, remainderLength, report }

end RspDeviceInterfaceReport

structure RspTdispError where
  messageHeader : TdispMessageHeader
  errorCode : TdispErrorCode
  errorData : Nat
  deriving Repr, DecidableEq

namespace RspTdispError

def encode (r : RspTdispError) : Bytes :=
  r.messageHeader.encode ++ leBytes 4 r.errorCode.toNat ++ leBytes 4 r.errorData

def parse : Parser RspTdispError := do
  let messageHeader ← TdispMessageHeader.parse
  require (messageHeader.messageType == .tdispError)
  let code ← uintLe 4
  let errorCode ← orFail () (TdispErrorCode.ofNat? code)
  let errorData ← uintLe 4
  ret { messageHeader, errorCode, errorData }

end RspTdispError

def vendorId : Bytes := [0x01, 0x00]

/-! ## §4. Reading what was written. -/

namespace FunctionId

theorem word_eq {f : FunctionId} : f.word = f.requesterId.toNat +
    (if f.requesterSegmentValid then f.requesterSegment.toNat * 2 ^ 16 + 2 ^ 24 else 0) := by
  have hid : f.requesterId.toNat < 2 ^ 16 := f.requesterId.toNat_lt
  have hsegment : f.requesterSegment.toNat < 2 ^ 8 := f.requesterSegment.toNat_lt
  unfold word
  cases f.requesterSegmentValid with
  | false => simp
  | true =>
    have hlow : f.requesterSegment.toNat <<< 16 + f.requesterId.toNat < 2 ^ 24 := by
      omega
    rw [if_pos rfl, if_pos rfl, Nat.lor_comm f.requesterId.toNat,
      ← Nat.shiftLeft_add_eq_or_of_lt hid, Nat.lor_comm, ← Nat.shiftLeft_add_eq_or_of_lt hlow,
      Bool.toNat_true]
    omega

theorem parse_encode (f : FunctionId) (rest : Bytes) :
    parse (f.encode ++ rest) = .ok f.wire rest := by
  have hid : f.requesterId.toNat < 2 ^ 16 := f.requesterId.toNat_lt
  have hsegment : f.requesterSegment.toNat < 2 ^ 8 := f.requesterSegment.toNat_lt
  have hword : f.word < 256 ^ 4 := by
    rw [word_eq]
    split <;> omega
  have hlow : UInt16.ofNat (f.word &&& 0x0000FFFF) = f.requesterId := by
    have hmod : f.word &&& (2 ^ 16 - 1) = f.requesterId.toNat := by
      rw [Nat.and_two_pow_sub_one_eq_mod, word_eq]
      split <;> omega
    show UInt16.ofNat (f.word &&& (2 ^ 16 - 1)) = _
    rw [hmod, UInt16.ofNat_toNat]
  have hmiddle : (f.word &&& 0x00FF0000) >>> 16 = f.word / 2 ^ 16 % 2 ^ 8 := by
    rw [Nat.shiftRight_and_distrib, Nat.shiftRight_eq_div_pow]
    exact Nat.and_two_pow_sub_one_eq_mod _ 8
  have hbit : (f.word &&& (1 <<< 24) != 0) = f.requesterSegmentValid := by
    have hpow : f.word &&& (1 <<< 24) = (f.word.testBit 24).toNat * 2 ^ 24 := Nat.and_two_pow _ 24
    have htest : f.word.testBit 24 = f.requesterSegmentValid := by
      rw [Nat.testBit_eq_decide_div_mod_eq, word_eq]
      cases f.requesterSegmentValid with
      | false =>
        rw [decide_eq_false_iff_not, if_neg (by decide)]
        omega
      | true =>
        rw [decide_eq_true_eq, if_pos rfl]
        omega
    rw [hpow, htest]
    cases f.requesterSegmentValid <;> rfl
  unfold parse encode
  rw [bind_of_ok (uintLe_append rest hword)]
  rw [hlow, hmiddle, hbit, word_eq]
  obtain ⟨id, segment, valid⟩ := f
  cases valid with
  | false =>
    have hzero : UInt8.ofNat ((id.toNat + 0) / 2 ^ 16 % 2 ^ 8) = 0 := by
      rw [show (id.toNat + 0) / 2 ^ 16 % 2 ^ 8 = 0 by dsimp only at hid; omega]
      rfl
    dsimp only
    rw [if_neg (by decide), hzero]
    rfl
  | true =>
    have hsame : UInt8.ofNat ((id.toNat + (segment.toNat * 2 ^ 16 + 2 ^ 24)) / 2 ^ 16 % 2 ^ 8) =
        segment := by
      dsimp only at hid hsegment
      rw [show (id.toNat + (segment.toNat * 2 ^ 16 + 2 ^ 24)) / 2 ^ 16 % 2 ^ 8 = segment.toNat by
        omega, UInt8.ofNat_toNat]
    rw [if_pos rfl, hsame]
    rfl

theorem length_encode (f : FunctionId) : f.encode.length = 4 := leBytes_length _ _

end FunctionId

namespace InterfaceId

theorem parse_encode (i : InterfaceId) (rest : Bytes) :
    parse (i.encode ++ rest) = .ok i.wire rest := by
  unfold parse encode
  rw [List.append_assoc, bind_of_ok (FunctionId.parse_encode _ _)]
  rfl

theorem length_encode (i : InterfaceId) : i.encode.length = 12 := by
  unfold encode
  rw [List.length_append, FunctionId.length_encode, leBytes_length]

end InterfaceId

namespace TdispMessageHeader

theorem parse_encode (code : TdispRequestResponseCode) (i : InterfaceId) (rest : Bytes) :
    parse (encode { messageType := code, interfaceId := i } ++ rest) =
      .ok { messageType := code, interfaceId := i.wire } rest := by
  have hbytes : encode { messageType := code, interfaceId := i } ++ rest =
      tdispProtocolId :: 0x10 :: code.toByte :: (leBytes 2 0 ++ (i.encode ++ rest)) := by
    unfold encode
    rw [show TdispVersion.toByte {} = 0x10 by decide]
    rfl
  unfold parse
  rw [hbytes, bind_of_ok (u8_cons _ _), require, bind_of_ok (guardElse_of (beq_self_eq_true _)),
    bind_of_ok (u8_cons _ _), bind_of_ok (u8_cons _ _),
    bind_of_ok (orFail_eq_ok.2 ⟨code.ofByte?_toByte, rfl⟩),
    bind_of_ok (skipBytes_append (leBytes_length 2 0)), bind_of_ok (InterfaceId.parse_encode _ _)]
  rfl

theorem length_encode (h : TdispMessageHeader) : h.encode.length = 17 := by
  unfold encode
  simp only [List.length_append, List.length_cons, List.length_nil, leBytes_length,
    InterfaceId.length_encode]

end TdispMessageHeader

theorem ReqGetDeviceInterfaceReport.parse_encode {offset length : Nat} (hoffset : offset < 2 ^ 16)
    (hlength : length < 2 ^ 16) (code : TdispRequestResponseCode) (i : InterfaceId)
    (rest : Bytes) :
    parse (encode { messageHeader := { messageType := code, interfaceId := i }, offset, length } ++
      rest) =
      .ok { messageHeader := { messageType := code, interfaceId := i.wire }, offset, length }
      rest := by
  unfold parse encode
  rw [List.append_assoc, List.append_assoc, bind_of_ok (TdispMessageHeader.parse_encode _ _ _),
    bind_of_ok (uintLe_append _ hoffset), bind_of_ok (uintLe_append _ hlength)]
  rfl

theorem ReqGetDeviceInterfaceReport.length_encode (r : ReqGetDeviceInterfaceReport) :
    r.encode.length = 21 := by
  unfold encode
  simp only [List.length_append, leBytes_length, TdispMessageHeader.length_encode]

theorem RspDeviceInterfaceReport.parse_encode {config : Config} {remainderLength : Nat}
    {report : Bytes} (hreport : report.length ≤ maxPortionLength config)
    (hsize : report.length < 2 ^ 16) (hremainder : remainderLength < 2 ^ 16)
    (code : TdispRequestResponseCode) (i : InterfaceId) (rest : Bytes) :
    parse config (encode { messageHeader := { messageType := code, interfaceId := i },
                           portionLength := report.length, remainderLength, report } ++ rest) =
      .ok { messageHeader := { messageType := code, interfaceId := i.wire },
            portionLength := report.length, remainderLength, report } rest := by
  unfold parse encode
  rw [List.take_length, List.append_assoc, List.append_assoc, List.append_assoc,
    bind_of_ok (TdispMessageHeader.parse_encode _ _ _), bind_of_ok (uintLe_append _ hsize),
    bind_of_ok (uintLe_append _ hremainder), require,
    bind_of_ok (guardElse_of (decide_eq_true hreport)), bind_of_ok (takeBytes_append rfl)]
  rfl

theorem RspDeviceInterfaceReport.length_encode (r : RspDeviceInterfaceReport) :
    r.encode.length = 21 + min r.portionLength r.report.length := by
  unfold encode
  simp only [List.length_append, leBytes_length, TdispMessageHeader.length_encode,
    List.length_take]

theorem RspTdispError.parse_other {code : TdispRequestResponseCode} (h : code ≠ .tdispError)
    (i : InterfaceId) (rest : Bytes) :
    (parse (TdispMessageHeader.encode { messageType := code, interfaceId := i } ++ rest)).returned =
      none := by
  have hfalse : (code == TdispRequestResponseCode.tdispError) = false := by simpa using h
  unfold parse
  rw [bind_of_ok (TdispMessageHeader.parse_encode _ _ _)]
  rw [hfalse]
  rfl

end Tdisp

end Spdm
