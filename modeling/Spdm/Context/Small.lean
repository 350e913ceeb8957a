/-
  Spdm.Context.Small — small parties to compute with.
-/
import Spdm.Context.Acts
import Spdm.Message.Session
import Spdm.Protocol.Device
import Spdm.Protocol.Laws
import Spdm.Session.Delivery

namespace Spdm

open Effect Codec

namespace SmallBackend

def smallConfig : Config where
  maxSpdmCertChainDataSize := 64
  maxSpdmMeasurementRecordSize := 64
  maxSpdmMeasurementValueLen := 32
  maxSpdmPskContextSize := 32
  maxSpdmPskHintSize := 16
  maxOpaqueListElementsCount := 3
  maxSpdmSessionCount := 2
  senderBufferSize := 200
  receiverBufferSize := 200
  maxSpdmMsgSize := 150
  heartbeatPeriod := 0
  maxRootCertSupport := 1

def smallBuild (chunkCap hashedTranscriptData : Bool) : Build where
  config := smallConfig
  chunkCap := chunkCap
  hashedTranscriptData := hashedTranscriptData
  mutAuth := false
  mandatoryMutAuth := false
  mandatory_mutAuth := by decide
  msgSize_ge := by decide
  certChain_le := by decide
  measurement_le := by decide
  sizes_lt := by decide
  whole_fits _ := by decide
  chunk_fits _ := by decide

def firstSlotOnly {α : Type} (a : α) : Slots α := (Vector.replicate 8 none).set 0 (some a)

def marked (mark : Bool) (m : Bytes) : Bytes := (if mark then 1 else 0) :: m

def unmarked : Bytes → Except SpdmStatus (Bytes × Bool)
  | [] => .error .decapFail
  | b :: m => .ok (m, b == 1)

def smallTransport (sequenceNumberCount : Nat) : Transport where
  encap m _ secured := .ok (marked secured m)
  decap packet _ := unmarked packet
  encapApp m _ isApp := some (.ok (marked isApp m))
  decapApp m _ := some (unmarked m)
  sequenceNumberCount := sequenceNumberCount
  maxRandomCount := 0

def smallSignature : Bytes := List.replicate 64 7

scoped instance smallDevice : Device where
  asymSign _ _ _ _ := some smallSignature
  pqcAsymSign _ _ _ _ := none
  asymVerify _ _ _ _ signature := if signature = smallSignature then .ok () else .error .cryptoError
  pqcAsymVerify _ _ _ _ _ := .error .cryptoError
  getCertFromCertChain chain _ := .ok (0, chain.length)
  verifyCertChain _ := .ok ()
  isRootCertificate _ := true
  checkLeafCertificate _ _ := true
  dheKeyPair _ entropy := some (leBytes 64 (leNat entropy), entropy)
  dheFinalKey _ mine peer := some (leBytes 64 (leNat mine + leNat peer))
  kemKeyPair _ _ := none
  kemDecap _ _ _ := none
  kemEncap _ _ _ := none
  measurementCollection _ _ _ _ := some ⟨0, []⟩
  generateMeasurementSummaryHash _ _ _ _ _ := some smallHash
  dispatchSecuredAppMessage _ message := (.ok (), some message)
  vendorDefinedRequestHandlerEx := none
  vendorDefinedRequestHandler _ payload := .ok payload

theorem correctAead_small : CorrectAead := by
  constructor
  intro algo key nonce aad plain cipher tag h
  dsimp only [aeadEncrypt, aeadDecrypt, smallCrypto] at h ⊢
  split at h
  · rename_i tag' htag
    obtain ⟨rfl, rfl⟩ := Prod.mk.inj (Except.ok.inj h)
    rw [if_pos htag]
  · cases h

def smallDirection (secret : Nat) (sequenceNumber : Nat) : SpdmSessionSecretParam :=
  { encryptionKey := derived 32 secret 5
    salt := derived 12 secret 6
    sequenceNumber := sequenceNumber }

def smallSession (sequenceNumberCount requestSeq responseSeq : Nat) : SpdmSession :=
  { sessionId := 0xFFFDFFFD
    sessionState := .established
    cryptoParam := { baseHashAlgo := SpdmBaseHashAlgo.tpmAlgSha256
                     aeadAlgo := SpdmAeadAlgo.aes128Gcm }
    applicationSecret :=
      { requestDataSecret := leBytes 32 2
        responseDataSecret := leBytes 32 3
        requestDirection := smallDirection 2 requestSeq
        responseDirection := smallDirection 3 responseSeq }
    transportParam := { sequenceNumberCount := sequenceNumberCount } }

def smallContext (session : SpdmSession) (inbox : List (Option Bytes)) : SpdmContext :=
  { build := smallBuild false false
    transportEncap := smallTransport session.transportParam.sequenceNumberCount
    negotiateInfo := { spdmVersionSel := .spdmVersion12
                       baseHashSel := SpdmBaseHashAlgo.tpmAlgSha256
                       aeadSel := SpdmAeadAlgo.aes128Gcm }
    session := [session, {}]
    world := { inbox := inbox } }

def sealedPacket (fromRequester : Bool) (session : SpdmSession) (m : Bytes) : Option Bytes :=
  match SpdmSession.encodeSpdmSecuredMessage smallConfig (marked false m) 200 fromRequester
    session with
  | .ok secured _ => some (marked true secured)
  | _ => none

/-! ## Packets for a responder that starts from scratch. -/

def smallConfigInfo (rspCapabilities : Flags) : SpdmConfigInfo :=
  { spdmVersion := [.spdmVersion12]
    rspCapabilities := rspCapabilities
    baseHashAlgo := SpdmBaseHashAlgo.tpmAlgSha256
    aeadAlgo := SpdmAeadAlgo.aes128Gcm
    keyScheduleAlgo := SpdmKeyScheduleAlgo.spdmKeySchedule
    dataTransferSize := 136
    maxSpdmMsgSize := 150 }

def smallResponder (chunkCap : Bool) (rspCapabilities : Flags) : SpdmContext :=
  .new (smallBuild chunkCap false) (smallTransport 0) (smallConfigInfo rspCapabilities) {}

theorem started_smallResponder (chunkCap : Bool) (rspCapabilities : Flags) :
    Started (smallResponder chunkCap rspCapabilities) :=
  ⟨_, _, _, _, show (2) ≤ SpdmContext.initialSessionId by decide, rfl⟩

def inClear (m : Bytes) (_ : SpdmContext) : Bytes := marked false m

def inSession (isApp : Bool) (m : Bytes) (c : SpdmContext) : Bytes :=
  match SpdmSession.encodeSpdmSecuredMessage smallConfig (marked isApp m) 200 true
    (c.session.headD {}) with
  | .ok secured _ => marked true secured
  | _ => []

def smallNegotiation (reqCapabilities : Flags) (dataTransferSize : Nat) :
    List (SpdmContext → Bytes) :=
  [inClear (encodeHeader .spdmVersion10 SpdmRequestResponseCode.spdmRequestGetVersion ++ [0, 0]),
    inClear (encodeGetCapabilities .spdmVersion12
      { flags := reqCapabilities, dataTransferSize := dataTransferSize, maxSpdmMsgSize := 150 }),
    inClear (encodeNegotiateAlgorithms .spdmVersion12
      { baseHashAlgo := SpdmBaseHashAlgo.tpmAlgSha256
        algStruct := [⟨.aead, SpdmAeadAlgo.aes128Gcm⟩,
          ⟨.keySchedule, SpdmKeyScheduleAlgo.spdmKeySchedule⟩] })]

def smallPskExchange : SpdmContext → Bytes :=
  inClear (encodePskExchange .spdmVersion12
    { measurementSummaryHashType := 0, reqSessionId := 0xFFFD, pskHint := []
      pskContextSize := 4, pskContext := [1, 2, 3, 4], opaqueData := [] })

end SmallBackend

end Spdm
