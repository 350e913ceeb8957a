/-
  Spdm.Protocol.Types — the vocabulary of the protocol.
-/
import Mathlib.Algebra.Group.Nat.Defs
import Mathlib.Tactic.SplitIfs
import Spdm.Lib.Prog

namespace Spdm

open Effect

abbrev Bytes := List UInt8

/-! ## §1. Versions and states. -/

inductive SpdmVersion where
  | spdmVersion10
  | spdmVersion11
  | spdmVersion12
  | spdmVersion13
  | spdmVersion14
  deriving Repr, DecidableEq, Inhabited

namespace SpdmVersion

def toByte : SpdmVersion → UInt8
  | spdmVersion10 => 0x10
  | spdmVersion11 => 0x11
  | spdmVersion12 => 0x12
  | spdmVersion13 => 0x13
  | spdmVersion14 => 0x14

def ofByte? (b : UInt8) : Option SpdmVersion :=
  if b = 0x10 then some spdmVersion10
  else if b = 0x11 then some spdmVersion11
  else if b = 0x12 then some spdmVersion12
  else if b = 0x13 then some spdmVersion13
  else if b = 0x14 then some spdmVersion14
  else none

def atLeast (v w : SpdmVersion) : Bool := decide (w.toByte ≤ v.toByte)

@[simp] theorem ofByte?_toByte (v : SpdmVersion) : ofByte? v.toByte = some v := by
  cases v <;> rfl

theorem toByte_of_ofByte? {b : UInt8} {v : SpdmVersion} (h : ofByte? b = some v) :
    v.toByte = b := by
  unfold ofByte? at h
  split_ifs at h <;> simp_all <;> subst h <;> rfl

end SpdmVersion

inductive SpdmSessionState where
  | notStarted
  | handshaking
  | established
  deriving Repr, DecidableEq, Inhabited

inductive SpdmConnectionState where
  | notStarted
  | afterVersion
  | afterCapabilities
  | negotiated
  | afterDigest
  | afterCertificate
  | authenticated
  deriving Repr, DecidableEq, Inhabited

namespace SpdmConnectionState

def toNat : SpdmConnectionState → Nat
  | notStarted => 0
  | afterVersion => 1
  | afterCapabilities => 2
  | negotiated => 3
  | afterDigest => 4
  | afterCertificate => 5
  | authenticated => 6

def before (s t : SpdmConnectionState) : Bool := decide (s.toNat < t.toNat)

end SpdmConnectionState

/-! ## §2. Message and error codes. -/

abbrev SpdmRequestResponseCode := UInt8

namespace SpdmRequestResponseCode

def spdmResponseDigests : UInt8 := 0x01
def spdmResponseCertificate : UInt8 := 0x02
def spdmResponseChallengeAuth : UInt8 := 0x03
def spdmResponseVersion : UInt8 := 0x04
def spdmResponseChunkSendAck : UInt8 := 0x05
def spdmResponseChunkResponse : UInt8 := 0x06
def spdmResponseMeasurements : UInt8 := 0x60
def spdmResponseCapabilities : UInt8 := 0x61
def spdmResponseAlgorithms : UInt8 := 0x63
def spdmResponseKeyExchangeRsp : UInt8 := 0x64
def spdmResponseFinishRsp : UInt8 := 0x65
def spdmResponsePskExchangeRsp : UInt8 := 0x66
def spdmResponsePskFinishRsp : UInt8 := 0x67
def spdmResponseHeartbeatAck : UInt8 := 0x68
def spdmResponseKeyUpdateAck : UInt8 := 0x69
def spdmResponseEncapsulatedRequest : UInt8 := 0x6A
def spdmResponseEncapsulatedResponseAck : UInt8 := 0x6B
def spdmResponseEndSessionAck : UInt8 := 0x6C
def spdmResponseVendorDefinedResponse : UInt8 := 0x7E
def spdmResponseError : UInt8 := 0x7F
def spdmRequestGetDigests : UInt8 := 0x81
def spdmRequestGetCertificate : UInt8 := 0x82
def spdmRequestChallenge : UInt8 := 0x83
def spdmRequestGetVersion : UInt8 := 0x84
def spdmRequestChunkSend : UInt8 := 0x85
def spdmRequestChunkGet : UInt8 := 0x86
def spdmRequestGetMeasurements : UInt8 := 0xE0
def spdmRequestGetCapabilities : UInt8 := 0xE1
def spdmRequestNegotiateAlgorithms : UInt8 := 0xE3
def spdmRequestKeyExchange : UInt8 := 0xE4
def spdmRequestFinish : UInt8 := 0xE5
def spdmRequestPskExchange : UInt8 := 0xE6
def spdmRequestPskFinish : UInt8 := 0xE7
def spdmRequestHeartbeat : UInt8 := 0xE8
def spdmRequestKeyUpdate : UInt8 := 0xE9
def spdmRequestGetEncapsulatedRequest : UInt8 := 0xEA
def spdmRequestDeliverEncapsulatedResponse : UInt8 := 0xEB
def spdmRequestEndSession : UInt8 := 0xEC
def spdmRequestVendorDefinedRequest : UInt8 := 0xFE
def spdmRequestResponseIfReady : UInt8 := 0xFF

end SpdmRequestResponseCode

abbrev SpdmErrorCode := UInt8

namespace SpdmErrorCode

def spdmErrorInvalidRequest : UInt8 := 0x01
def spdmErrorBusy : UInt8 := 0x03
def spdmErrorUnexpectedRequest : UInt8 := 0x04
def spdmErrorUnspecified : UInt8 := 0x05
def spdmErrorDecryptError : UInt8 := 0x06
def spdmErrorUnsupportedRequest : UInt8 := 0x07
def spdmErrorInvalidResponseCode : UInt8 := 0x09
def spdmErrorSessionLimitExceeded : UInt8 := 0x0A
def spdmErrorSessionRequired : UInt8 := 0x0B
def spdmErrorResetRequired : UInt8 := 0x0C
def spdmErrorResponseTooLarge : UInt8 := 0x0D
def spdmErrorRequestTooLarge : UInt8 := 0x0E
def spdmErrorLargeResponse : UInt8 := 0x0F
def spdmErrorVersionMismatch : UInt8 := 0x41
def spdmErrorResponseNotReady : UInt8 := 0x42
def spdmErrorRequestResynch : UInt8 := 0x43
def spdmErrorVendorDefined : UInt8 := 0xFF

end SpdmErrorCode

/-! ## §3. Statuses.

Two statuses are equal when their severity, source and code are: the
attached error data is not compared, and no modelled function reads it.
-/

inductive SpdmStatus where
  | unsupportedCap
  | invalidStateLocal
  | invalidStatePeer
  | invalidMsgField
  | invalidMsgSize
  | negotiationFail
  | busyPeer
  | notReadyPeer
  | errorPeer
  | resynchPeer
  | bufferFull
  | bufferTooSmall
  | sessionNumberExceed
  | sessionMsgError
  | acquireFail
  | sessionTryDiscardKeyUpdate
  | decodeAeadFail
  | cryptoError
  | verifFail
  | sequenceNumberOverflow
  | verifNoAuthority
  | fipsSelfTestFail
  | invalidCert
  | sendFail
  | receiveFail
  | decapFail
  | decapAppFail
  | encapFail
  | encapAppFail
  | measInvalidIndex
  | measInternalError
  | lowEntropy
  deriving Repr, DecidableEq, Inhabited

abbrev SpdmStatus.invalidParameter : SpdmStatus := SpdmStatus.invalidStateLocal

/-! ## §4. Flag words. -/

abbrev Flags := Nat

def contains (a b : Flags) : Bool := a &&& b == b

def intersects (a b : Flags) : Bool := a &&& b != 0

def isNoMoreThanOneSelected (a : Flags) : Bool := a == 0 || a &&& (a - 1) == 0

def prioritize (prioTable : List Flags) (self peer : Flags) : Flags :=
  (prioTable.find? fun v => self &&& peer &&& v != 0).getD 0

def isValid (mask a : Flags) : Bool := a &&& mask != 0

def isValidOneSelect (mask a : Flags) : Bool := isNoMoreThanOneSelected a && isValid mask a

def sizeIn (table : List (Flags × Nat)) (a : Flags) : Option Nat := table.lookup a

namespace SpdmRequestCapabilityFlags

def certCap : Flags := 0x2
def chalCap : Flags := 0x4
def encryptCap : Flags := 0x40
def macCap : Flags := 0x80
def mutAuthCap : Flags := 0x100
def keyExCap : Flags := 0x200
def pskCap : Flags := 0x400
def pskRsvd : Flags := 0x800
def encapCap : Flags := 0x1000
def hbeatCap : Flags := 0x2000
def keyUpdCap : Flags := 0x4000
def handshakeInTheClearCap : Flags := 0x8000
def pubKeyIdCap : Flags := 0x10000
def chunkCap : Flags := 0x20000
def epInfoCapNoSig : Flags := 0x400000
def epInfoCapSig : Flags := 0x800000
def eventCap : Flags := 0x2000000
def multiKeyCapOnly : Flags := 0x4000000
def multiKeyCapConnSel : Flags := 0x8000000
def largeRespCap : Flags := 0x80000000
def validMask : Flags := 0x8EC3FFC6

end SpdmRequestCapabilityFlags

namespace SpdmResponseCapabilityFlags

def cacheCap : Flags := 0x1
def certCap : Flags := 0x2
def chalCap : Flags := 0x4
def measCapNoSig : Flags := 0x8
def measCapSig : Flags := 0x10
def measFreshCap : Flags := 0x20
def encryptCap : Flags := 0x40
def macCap : Flags := 0x80
def mutAuthCap : Flags := 0x100
def keyExCap : Flags := 0x200
def pskCapWithoutContext : Flags := 0x400
def pskCapWithContext : Flags := 0x800
def encapCap : Flags := 0x1000
def hbeatCap : Flags := 0x2000
def keyUpdCap : Flags := 0x4000
def handshakeInTheClearCap : Flags := 0x8000
def pubKeyIdCap : Flags := 0x10000
def chunkCap : Flags := 0x20000
def aliasCertCap : Flags := 0x40000
def setCertCap : Flags := 0x80000
def csrCap : Flags := 0x100000
def certInstallResetCap : Flags := 0x200000
def epInfoCapNoSig : Flags := 0x400000
def epInfoCapSig : Flags := 0x800000
def melCap : Flags := 0x1000000
def eventCap : Flags := 0x2000000
def multiKeyCapOnly : Flags := 0x4000000
def multiKeyCapConnSel : Flags := 0x8000000
def getKeyPairInfoCap : Flags := 0x10000000
def largeRespCap : Flags := 0x80000000
def validMask : Flags := 0xFFFFFFFF

end SpdmResponseCapabilityFlags

/-! ## §5. Algorithms.

The size functions of the source abort on anything but a single known
algorithm; here they are partial, and a caller that has no size aborts.
-/

namespace SpdmBaseHashAlgo

def tpmAlgSha256 : Flags := 0x1
def tpmAlgSha384 : Flags := 0x2
def tpmAlgSha512 : Flags := 0x4
def validMask : Flags := 0x7

def size? (a : Flags) : Option Nat :=
  if a = tpmAlgSha256 then some 32
  else if a = tpmAlgSha384 then some 48
  else if a = tpmAlgSha512 then some 64
  else none

def getSize {σ ε : Type} (a : Flags) : Prog σ ε Nat := orAbort (size? a)

def prioritize : Flags → Flags → Flags :=
  Spdm.prioritize [tpmAlgSha512, tpmAlgSha384, tpmAlgSha256]

end SpdmBaseHashAlgo

namespace SpdmAeadAlgo

def aes128Gcm : Flags := 0x1
def aes256Gcm : Flags := 0x2
def chacha20Poly1305 : Flags := 0x4
def validMask : Flags := 0x7

def keySize? (a : Flags) : Option Nat :=
  if a = aes128Gcm then some 16
  else if a = aes256Gcm then some 32
  else if a = chacha20Poly1305 then some 32
  else none

def ivSize? (a : Flags) : Option Nat :=
  if a = aes128Gcm ∨ a = aes256Gcm ∨ a = chacha20Poly1305 then some 12 else none

def tagSize? (a : Flags) : Option Nat :=
  if a = aes128Gcm ∨ a = aes256Gcm ∨ a = chacha20Poly1305 then some 16 else none

theorem eq_of_tagSize? {a : Flags} {n : Nat} (h : tagSize? a = some n) : n = 16 := by
  unfold tagSize? at h
  split_ifs at h
  exact (Option.some.inj h).symm

def prioritize : Flags → Flags → Flags :=
  Spdm.prioritize [aes256Gcm, aes128Gcm, chacha20Poly1305]

end SpdmAeadAlgo

namespace SpdmMeasurementSpecification

def dmtf : Flags := 0x1
def validMask : Flags := 0x1
def prioritize : Flags → Flags → Flags := Spdm.prioritize [dmtf]

end SpdmMeasurementSpecification

namespace SpdmAlgoOtherParams

def opaqueDataFmt1 : Flags := 0x2
def multiKeyConn : Flags := 0x10
def validMask : Flags := 0x12

end SpdmAlgoOtherParams

namespace SpdmMeasurementHashAlgo

def rawBitStream : Flags := 0x1
def validMask : Flags := 0xFF

def size? : Flags → Option Nat :=
  sizeIn [(rawBitStream, 0), (0x2, 32), (0x4, 48), (0x8, 64), (0x10, 32), (0x20, 48), (0x40, 64),
    (0x80, 32)]

end SpdmMeasurementHashAlgo

namespace SpdmBaseAsymAlgo

def tpmAlgRsassa2048 : Flags := 0x1
def tpmAlgRsapss2048 : Flags := 0x2
def tpmAlgRsassa3072 : Flags := 0x4
def tpmAlgRsapss3072 : Flags := 0x8
def tpmAlgEcdsaEccNistP256 : Flags := 0x10
def tpmAlgRsassa4096 : Flags := 0x20
def tpmAlgRsapss4096 : Flags := 0x40
def tpmAlgEcdsaEccNistP384 : Flags := 0x80
def validMask : Flags := 0xFF

def sigSize? : Flags → Option Nat :=
  sizeIn [(tpmAlgRsassa2048, 256), (tpmAlgRsapss2048, 256), (tpmAlgRsassa3072, 384),
    (tpmAlgRsapss3072, 384), (tpmAlgRsassa4096, 512), (tpmAlgRsapss4096, 512),
    (tpmAlgEcdsaEccNistP256, 64), (tpmAlgEcdsaEccNistP384, 96)]

def prioritize : Flags → Flags → Flags :=
  Spdm.prioritize [tpmAlgEcdsaEccNistP384, tpmAlgEcdsaEccNistP256, tpmAlgRsapss4096,
    tpmAlgRsapss3072, tpmAlgRsapss2048, tpmAlgRsassa4096, tpmAlgRsassa3072, tpmAlgRsassa2048]

end SpdmBaseAsymAlgo

abbrev SpdmReqAsymAlgo.validMask : Flags := SpdmBaseAsymAlgo.validMask

namespace SpdmPqcAsymAlgo

def algMldsa44 : Flags := 0x1
def algMldsa65 : Flags := 0x2
def algMldsa87 : Flags := 0x4
def validMask : Flags := 0x7

def sigSize? : Flags → Option Nat :=
  sizeIn [(algMldsa44, 2420), (algMldsa65, 3309), (algMldsa87, 4627)]

def prioritize : Flags → Flags → Flags := Spdm.prioritize [algMldsa87, algMldsa65, algMldsa44]

end SpdmPqcAsymAlgo

namespace SpdmPqcReqAsymAlgo

def validMask : Flags := 0x7

def prioritize : Flags → Flags → Flags :=
  Spdm.prioritize [SpdmPqcAsymAlgo.algMldsa44, SpdmPqcAsymAlgo.algMldsa65,
    SpdmPqcAsymAlgo.algMldsa87]

end SpdmPqcReqAsymAlgo

namespace SpdmMelSpecification

def dmtfMelSpec : Flags := 0x1
def validMask : Flags := 0x1
def prioritize : Flags → Flags → Flags := Spdm.prioritize [dmtfMelSpec]

end SpdmMelSpecification

namespace SpdmDheAlgo

def secp256R1 : Flags := 0x8
def secp384R1 : Flags := 0x10
def validMask : Flags := 0x18

def keySize? : Flags → Option Nat := sizeIn [(secp256R1, 64), (secp384R1, 96)]

def prioritize : Flags → Flags → Flags := Spdm.prioritize [secp384R1, secp256R1]

end SpdmDheAlgo

namespace SpdmKemAlgo

def algMlkem512 : Flags := 0x1
def algMlkem768 : Flags := 0x2
def algMlkem1024 : Flags := 0x4
def validMask : Flags := 0x7

def encapKeySize? : Flags → Option Nat :=
  sizeIn [(algMlkem512, 800), (algMlkem768, 1184), (algMlkem1024, 1568)]

def cipherTextSize? : Flags → Option Nat :=
  sizeIn [(algMlkem512, 768), (algMlkem768, 1088), (algMlkem1024, 1568)]

def prioritize : Flags → Flags → Flags :=
  Spdm.prioritize [algMlkem1024, algMlkem768, algMlkem512]

end SpdmKemAlgo

namespace SpdmKeyScheduleAlgo

def spdmKeySchedule : Flags := 0x1
def validMask : Flags := 0x1
def prioritize : Flags → Flags → Flags := Spdm.prioritize [spdmKeySchedule]

end SpdmKeyScheduleAlgo

/-! ## §6. Sizes and the build. -/

def spdmMaxHashSize : Nat := 64
def spdmMaxAeadKeySize : Nat := 32
def spdmMaxAeadIvSize : Nat := 12
def spdmMaxSlotNumber : Nat := 8
def spdmNonceSize : Nat := 32
def spdmRandomSize : Nat := 32
def spdmMaxAsymSigSize : Nat := 4627
def spdmMaxReqKeyExchangeSize : Nat := 1568
def spdmMaxRspKeyExchangeSize : Nat := 1568
def maxSpdmOpaqueSize : Nat := 1024
def invalidSessionId : Nat := 0

def minDataTransferSize : Nat := 42

def transportOverhead : Nat := 64

structure Config where
  maxSpdmCertChainDataSize : Nat
  maxSpdmMeasurementRecordSize : Nat
  maxSpdmMeasurementValueLen : Nat
  maxSpdmPskContextSize : Nat
  maxSpdmPskHintSize : Nat
  maxOpaqueListElementsCount : Nat
  maxSpdmSessionCount : Nat
  senderBufferSize : Nat
  receiverBufferSize : Nat
  maxSpdmMsgSize : Nat
  heartbeatPeriod : Nat
  maxRootCertSupport : Nat
  deriving Repr, DecidableEq

/-- Compile-time switches with the generated sizes, and the checks the
build script makes on them.  With `overflowChecks` (the development profile)
a subtraction of sizes that would wrap aborts.  Sizes fit the fields of four
bytes that announce them. -/
structure Build where
  config : Config
  chunkCap : Bool
  hashedTranscriptData : Bool
  mutAuth : Bool
  mandatoryMutAuth : Bool
  overflowChecks : Bool := false
  mandatory_mutAuth : mandatoryMutAuth = true → mutAuth = true
  msgSize_ge : minDataTransferSize ≤ config.maxSpdmMsgSize
  certChain_le : config.maxSpdmCertChainDataSize ≤ 0xFFFF
  measurement_le : config.maxSpdmMeasurementRecordSize ≤ 0xFFFFFF ∧
    config.maxSpdmMeasurementValueLen ≤ 0xFFFF - 7 ∧
    7 + config.maxSpdmMeasurementValueLen ≤ config.maxSpdmMeasurementRecordSize
  sizes_lt : config.maxSpdmMsgSize < 2 ^ 32 ∧ config.senderBufferSize < 2 ^ 32 ∧
    config.receiverBufferSize < 2 ^ 32
  whole_fits : chunkCap = false →
    config.maxSpdmMsgSize + 24 < config.senderBufferSize ∧
      config.maxSpdmMsgSize + 24 < config.receiverBufferSize
  chunk_fits : chunkCap = true →
    minDataTransferSize + transportOverhead ≤ config.senderBufferSize ∧
      minDataTransferSize + transportOverhead ≤ config.receiverBufferSize

end Spdm
