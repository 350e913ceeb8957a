/-
  Spdm.Context.Import — a context taken over from stored bytes (`common/mod.rs` `import`, and
  the readers of what it stores).
-/
import Mathlib.Data.List.Nodup
import Spdm.Context.Small
import Spdm.Lib.Writes
import Spdm.Message.Attestation

namespace Spdm

open Effect Codec

/-! ## §1. Readers of fields. -/

def parseFlag : Parser Bool := do
  let b ← u8
  ret (b != 0)

def parsePresent {α : Type} (p : Parser α) : Parser (Option α) := do
  let present ← parseFlag
  if present then do
    let a ← p
    ret (some a)
  else ret none

def parseSized (n max : Nat) : Parser Bytes := do
  let size ← uintLe n
  require (decide (size ≤ max))
  takeBytes size

def parseManagedBuffer (max : Nat) : Parser Bytes := parseSized 8 max

def parseSecret (max : Nat) : Parser Bytes := parseSized 2 max

def parseCertChainData (config : Config) : Parser Bytes := do
  let size ← uintLe 4
  require (decide (size ≤ config.maxSpdmCertChainDataSize))
  let data ← takeBytes config.maxSpdmCertChainDataSize
  ret (data.take size)

def parseCertChainBuffer (config : Config) : Parser Bytes :=
  parseSized 4 (4 + spdmMaxHashSize + config.maxSpdmCertChainDataSize)

def parseMarked {α : Type} (bitmap : Nat) (p : Parser α) : Nat → Nat → Parser (List (Option α))
  | _, 0 => ret []
  | i, n + 1 => do
    let a ← (if bitmap.testBit (i % 32) then do
        let a ← p
        ret (some a)
      else ret none)
    let as ← parseMarked bitmap p (i + 1) n
    ret (a :: as)

def parseEntries {α : Type} (n : Nat) (p : Parser α) : Parser (List (Option α)) := do
  let bitmap ← uintLe 4
  parseMarked bitmap p 0 n

def parseSlots {α : Type} (p : Parser α) : Parser (Slots α) := do
  let entries ← parseEntries spdmMaxSlotNumber p
  ret (Vector.ofFn fun i => entries[i.val]?.join)

def parseSpdmVersion : Parser SpdmVersion := do
  let b ← u8
  orFail () (SpdmVersion.ofByte? b)

def maxSpdmVersionCount : Nat := 5

def parseCounted {α : Type} (max : Nat) (p : Parser α) : Parser (List α) := do
  let count ← u8
  repeatParser (min count.toNat max) p

/-! ## §2. Readers of structures. -/

def parseConfigInfo : Parser SpdmConfigInfo := do
  let spdmVersion ← parseCounted maxSpdmVersionCount parseSpdmVersion
  let reqCapabilities ← flagsLe 4 SpdmRequestCapabilityFlags.validMask
  let rspCapabilities ← flagsLe 4 SpdmResponseCapabilityFlags.validMask
  let reqCtExponent ← u8
  let rspCtExponent ← u8
  let measurementSpecification ← flagsLe 1 SpdmMeasurementSpecification.validMask
  let measurementHashAlgo ← flagsLe 4 SpdmMeasurementHashAlgo.validMask
  let baseHashAlgo ← flagsLe 4 SpdmBaseHashAlgo.validMask
  let baseAsymAlgo ← flagsLe 4 SpdmBaseAsymAlgo.validMask
  let dheAlgo ← flagsLe 2 SpdmDheAlgo.validMask
  let aeadAlgo ← flagsLe 2 SpdmAeadAlgo.validMask
  let reqAsymAlgo ← flagsLe 2 SpdmReqAsymAlgo.validMask
  let keyScheduleAlgo ← flagsLe 2 SpdmKeyScheduleAlgo.validMask
  let otherParamsSupport ← flagsLe 1 SpdmAlgoOtherParams.validMask
  let sessionPolicy ← u8
  let runtimeContentChangeSupport ← parseFlag
  let dataTransferSize ← uintLe 4
  let maxSpdmMsgSize ← uintLe 4
  let heartbeatPeriod ← u8
  let secureSpdmVersion ← parseCounted maxSecureSpdmVersionCount parseSecuredMessageVersion
  let melSpecification ← flagsLe 1 SpdmMelSpecification.validMask
  let pqcAsymAlgo ← flagsLe 4 SpdmPqcAsymAlgo.validMask
  let pqcReqAsymAlgo ← flagsLe 2 SpdmPqcReqAsymAlgo.validMask
  let kemAlgo ← flagsLe 2 SpdmKemAlgo.validMask
  ret { spdmVersion, reqCapabilities, rspCapabilities, reqCtExponent := reqCtExponent.toNat
        rspCtExponent := rspCtExponent.toNat, measurementSpecification, measurementHashAlgo
        baseHashAlgo, baseAsymAlgo, dheAlgo, aeadAlgo, reqAsymAlgo, keyScheduleAlgo
        otherParamsSupport, sessionPolicy, runtimeContentChangeSupport, dataTransferSize
        maxSpdmMsgSize, heartbeatPeriod := heartbeatPeriod.toNat, secureSpdmVersion
        melSpecification, pqcAsymAlgo, pqcReqAsymAlgo, kemAlgo }

def parseNegotiateInfo : Parser SpdmNegotiateInfo := do
  let spdmVersionSel ← parseSpdmVersion
  let reqCapabilitiesSel ← flagsLe 4 SpdmRequestCapabilityFlags.validMask
  let rspCapabilitiesSel ← flagsLe 4 SpdmResponseCapabilityFlags.validMask
  let reqCtExponentSel ← u8
  let rspCtExponentSel ← u8
  let measurementSpecificationSel ← flagsLe 1 SpdmMeasurementSpecification.validMask
  let measurementHashSel ← flagsLe 4 SpdmMeasurementHashAlgo.validMask
  let baseHashSel ← flagsLe 4 SpdmBaseHashAlgo.validMask
  let baseAsymSel ← flagsLe 4 SpdmBaseAsymAlgo.validMask
  let dheSel ← flagsLe 2 SpdmDheAlgo.validMask
  let aeadSel ← flagsLe 2 SpdmAeadAlgo.validMask
  let reqAsymSel ← flagsLe 2 SpdmReqAsymAlgo.validMask
  let keyScheduleSel ← flagsLe 2 SpdmKeyScheduleAlgo.validMask
  let otherParamsSupport ← flagsLe 1 SpdmAlgoOtherParams.validMask
  let terminationPolicySet ← parseFlag
  let reqDataTransferSizeSel ← uintLe 4
  let reqMaxSpdmMsgSizeSel ← uintLe 4
  let rspDataTransferSizeSel ← uintLe 4
  let rspMaxSpdmMsgSizeSel ← uintLe 4
  let melSpecificationSel ← flagsLe 1 SpdmMelSpecification.validMask
  let multiKeyConnReq ← parseFlag
  let multiKeyConnRsp ← parseFlag
  let pqcAsymSel ← flagsLe 4 SpdmPqcAsymAlgo.validMask
  let pqcReqAsymSel ← flagsLe 2 SpdmPqcReqAsymAlgo.validMask
  let kemSel ← flagsLe 2 SpdmKemAlgo.validMask
  ret { spdmVersionSel, reqCapabilitiesSel, rspCapabilitiesSel
        reqCtExponentSel := reqCtExponentSel.toNat, rspCtExponentSel := rspCtExponentSel.toNat
        measurementSpecificationSel, measurementHashSel, baseHashSel, baseAsymSel, dheSel, aeadSel
        reqAsymSel, keyScheduleSel, otherParamsSupport, terminationPolicySet
        reqDataTransferSizeSel, reqMaxSpdmMsgSizeSel, rspDataTransferSizeSel, rspMaxSpdmMsgSizeSel
        melSpecificationSel, multiKeyConnReq, multiKeyConnRsp, pqcAsymSel, pqcReqAsymSel, kemSel }

abbrev OrUnknown (α : Type) := α ⊕ UInt8

def parseConnectionState : Parser (OrUnknown SpdmConnectionState) := do
  let b ← u8
  ret (if b = 0 then .inl .notStarted
    else if b = 1 then .inl .afterVersion
    else if b = 2 then .inl .afterCapabilities
    else if b = 3 then .inl .negotiated
    else if b = 4 then .inl .afterDigest
    else if b = 5 then .inl .afterCertificate
    else if b = 6 then .inl .authenticated
    else .inr b)

def parseSessionState : Parser (OrUnknown SpdmSessionState) := do
  let b ← u8
  ret (if b = 0 then .inl .notStarted
    else if b = 1 then .inl .handshaking
    else if b = 2 then .inl .established
    else .inr b)

def maxManagedVdmBufferSize : Nat := 128

def spdmMaxSharedSecretSize : Nat := 48

/-- How the hash backend takes a running hash over from bytes. -/
abbrev HashCtxDeserialize := Bytes → Option HashCtx

def parseHashCtx (deserialize : HashCtxDeserialize) : Parser HashCtx := do
  let size ← uintLe 2
  let bytes ← takeBytes size
  orFail () (deserialize bytes)

def parseContentChanged : Parser SpdmMeasurementContentChanged := do
  let b ← u8
  orFail () (SpdmMeasurementContentChanged.ofByte? b)

def parseTranscripts (b : Build) (deserialize : HashCtxDeserialize) (info : SpdmRuntimeInfo) :
    Parser SpdmRuntimeInfo := do
  let messageA ← parseManagedBuffer maxManagedBufferASize
  if b.hashedTranscriptData then do
    let digestContextM1M2 ← parsePresent (parseHashCtx deserialize)
    let digestContextL1L2 ← parsePresent (parseHashCtx deserialize)
    ret { info with messageA, digestContextM1M2, digestContextL1L2 }
  else do
    let messageB ← parseManagedBuffer (maxManagedBufferBSize b.config)
    let messageC ← parseManagedBuffer maxManagedBufferCSize
    let messageM ← parseManagedBuffer (maxManagedBufferMSize b.config)
    ret { info with messageA, messageB, messageC, messageM }

def parseRuntimeInfo (b : Build) (deserialize : HashCtxDeserialize) :
    Parser (SpdmRuntimeInfo × Option UInt8) := do
  let state ← parseConnectionState
  let lastSessionId ← parsePresent (uintLe 4)
  let localUsedCertChainSlotId ← u8
  let peerUsedCertChainSlotId ← u8
  let needMeasurementSummaryHash ← parseFlag
  let needMeasurementSignature ← parseFlag
  let info ← parseTranscripts b deserialize
    { connectionState := state.elim id fun _ => .notStarted
      lastSessionId, localUsedCertChainSlotId := localUsedCertChainSlotId.toNat
      peerUsedCertChainSlotId := peerUsedCertChainSlotId.toNat
      needMeasurementSummaryHash, needMeasurementSignature }
  let contentChanged ← parseContentChanged
  let vdmMessageTranscriptBeforeKeyExchange ←
    parsePresent (parseManagedBuffer maxManagedVdmBufferSize)
  ret ({ info with contentChanged, vdmMessageTranscriptBeforeKeyExchange }, state.getRight?)

def parseProvisionInfo (config : Config) : Parser SpdmProvisionInfo := do
  let myCertChainData ← parseSlots (parseCertChainData config)
  let myCertChain ← parseSlots (parseCertChainBuffer config)
  let peerRootCertData ← parseEntries config.maxRootCertSupport (parseCertChainData config)
  let myPubKey ← parsePresent (parseCertChainData config)
  let peerPubKey ← parsePresent (parseCertChainData config)
  let localSupportedSlotMask ← u8
  let localKeyPairId ← parseSlots u8
  let localCertInfo ← parseSlots u8
  let localKeyUsageBitMask ← parseSlots (flagsLe 2 keyUsageValidMask)
  ret { myCertChainData, myCertChain, peerRootCertData, myPubKey, peerPubKey
        localSupportedSlotMask := localSupportedSlotMask.toNat, localKeyPairId, localCertInfo
        localKeyUsageBitMask }

def parsePeerInfo (config : Config) : Parser SpdmPeerInfo := do
  let peerCertChain ← parseSlots (parseCertChainBuffer config)
  let peerCertChainTemp ← parsePresent (parseCertChainBuffer config)
  let peerSupportedSlotMask ← u8
  let peerProvisionedSlotMask ← u8
  let peerKeyPairId ← parseSlots u8
  let peerCertInfo ← parseSlots u8
  let peerKeyUsageBitMask ← parseSlots (flagsLe 2 keyUsageValidMask)
  ret { peerCertChain, peerCertChainTemp, peerSupportedSlotMask := peerSupportedSlotMask.toNat
        peerProvisionedSlotMask := peerProvisionedSlotMask.toNat, peerKeyPairId, peerCertInfo
        peerKeyUsageBitMask }

def parseEncapContext : Parser SpdmEncapContext := do
  let mutAuthRequested ← flagsLe 1 mutAuthValidMask
  let reqSlotId ← u8
  let requestId ← u8
  let encapCertSize ← uintLe 4
  ret { mutAuthRequested, reqSlotId := reqSlotId.toNat, requestId, encapCertSize }

/-! ## §3. Readers of a session. -/

def parseCryptoParam : Parser SpdmSessionCryptoParam := do
  let baseHashAlgo ← flagsLe 4 SpdmBaseHashAlgo.validMask
  let dheAlgo ← flagsLe 2 SpdmDheAlgo.validMask
  let kemAlgo ← flagsLe 2 SpdmKemAlgo.validMask
  let aeadAlgo ← flagsLe 2 SpdmAeadAlgo.validMask
  let keyScheduleAlgo ← flagsLe 2 SpdmKeyScheduleAlgo.validMask
  ret { baseHashAlgo, dheAlgo, kemAlgo, aeadAlgo, keyScheduleAlgo }

def parseSharedSecretRoot : Parser SpdmSessionSharedSecretRoot := do
  let sharedSecret ← parseSecret spdmMaxSharedSecretSize
  let handshakeSecret ← parseSecret spdmMaxHashSize
  let masterSecret ← parseSecret spdmMaxHashSize
  ret { sharedSecret, handshakeSecret, masterSecret }

def parseSecretParam : Parser SpdmSessionSecretParam := do
  let encryptionKey ← parseSecret spdmMaxAeadKeySize
  let salt ← parseSecret spdmMaxAeadIvSize
  let sequenceNumber ← uintLe 8
  ret { encryptionKey, salt, sequenceNumber }

def parseHandshakeSecret : Parser SpdmSessionHandshakeSecret := do
  let requestHandshakeSecret ← parseSecret spdmMaxHashSize
  let responseHandshakeSecret ← parseSecret spdmMaxHashSize
  let requestFinishedKey ← parseSecret spdmMaxHashSize
  let responseFinishedKey ← parseSecret spdmMaxHashSize
  let requestDirection ← parseSecretParam
  let responseDirection ← parseSecretParam
  ret { requestHandshakeSecret, responseHandshakeSecret, requestFinishedKey, responseFinishedKey
        requestDirection, responseDirection }

def parseApplicationSecret : Parser SpdmSessionApplicationSecret := do
  let requestDataSecret ← parseSecret spdmMaxHashSize
  let responseDataSecret ← parseSecret spdmMaxHashSize
  let requestDirection ← parseSecretParam
  let responseDirection ← parseSecretParam
  let exportMasterSecret ← parseSecret spdmMaxHashSize
  ret { requestDataSecret, responseDataSecret, requestDirection, responseDirection
        exportMasterSecret }

def parseTransportParam : Parser SpdmSessionTransportParam := do
  let sequenceNumberCount ← u8
  let maxRandomCount ← uintLe 2
  ret { sequenceNumberCount := sequenceNumberCount.toNat, maxRandomCount }

def parsePskHint (config : Config) : Parser Bytes :=
  parseSized 2 (config.maxSpdmPskHintSize % 2 ^ 16)

def parseSessionRuntimeInfo (b : Build) (deserialize : HashCtxDeserialize) :
    Parser SpdmSessionRuntimeInfo := do
  let pskHint ← parsePresent (parsePskHint b.config)
  let messageA ← parseManagedBuffer maxManagedBufferASize
  if b.hashedTranscriptData then do
    let messageFInitialized ← parseFlag
    let rspCertHash ← parsePresent (parseSecret spdmMaxHashSize)
    let reqCertHash ← parsePresent (parseSecret spdmMaxHashSize)
    let digestContextTh ← parsePresent (parseHashCtx deserialize)
    let digestContextL1L2 ← parsePresent (parseHashCtx deserialize)
    let vdmMessageTranscriptBeforeFinish ← parsePresent (parseManagedBuffer maxManagedVdmBufferSize)
    ret { pskHint, messageA, messageFInitialized, rspCertHash, reqCertHash, digestContextTh
          digestContextL1L2, vdmMessageTranscriptBeforeFinish }
  else do
    let rspCertHash ← parsePresent (parseSecret spdmMaxHashSize)
    let reqCertHash ← parsePresent (parseSecret spdmMaxHashSize)
    let messageK ← parseManagedBuffer maxManagedBufferKSize
    let messageF ← parseManagedBuffer maxManagedBufferFSize
    let messageM ← parseManagedBuffer (maxManagedBufferMSize b.config)
    let vdmMessageTranscriptBeforeFinish ← parsePresent (parseManagedBuffer maxManagedVdmBufferSize)
    ret { pskHint, messageA, rspCertHash, reqCertHash, messageK, messageF, messageM
          vdmMessageTranscriptBeforeFinish }

def parseSession (b : Build) (deserialize : HashCtxDeserialize) :
    Parser (SpdmSession × Option UInt8) := do
  let sessionId ← uintLe 4
  let usePsk ← parseFlag
  let mutAuthRequested ← flagsLe 1 mutAuthValidMask
  let state ← parseSessionState
  let cryptoParam ← parseCryptoParam
  let sharedSecretRoot ← parseSharedSecretRoot
  let handshakeSecret ← parseHandshakeSecret
  let applicationSecret ← parseApplicationSecret
  let applicationSecretBackup ← parseApplicationSecret
  let responderBackupValid ← parseFlag
  let requesterBackupValid ← parseFlag
  let transportParam ← parseTransportParam
  let runtimeInfo ← parseSessionRuntimeInfo b deserialize
  let th1 ← parseSecret spdmMaxHashSize
  let th2 ← parseSecret spdmMaxHashSize
  let heartbeatPeriod ← u8
  let secureSpdmVersionSel ← parseSecuredMessageVersion
  ret ({ sessionId, usePsk, mutAuthRequested, sessionState := state.elim id fun _ => .notStarted
         cryptoParam, sharedSecretRoot, handshakeSecret, applicationSecret, applicationSecretBackup
         responderBackupValid, requesterBackupValid, transportParam, runtimeInfo, th1, th2
         heartbeatPeriod := heartbeatPeriod.toNat, secureSpdmVersionSel }, state.getRight?)

/-! ## §4. The import. -/

/-- A context that takes stored bytes over, with the states it may get that
have no name. -/
structure ImportTarget where
  context : SpdmContext
  connectionUnknown : Option UInt8 := none
  sessionUnknown : Nat → Option UInt8 := fun _ => none

inductive StoredField where
  | configInfo
  | negotiateInfo
  | runtimeInfo
  | provisionInfo
  | peerInfo
  | encapContext
  | mutAuthDone
  | session (i : Nat)
  deriving DecidableEq

inductive StoredValue where
  | configInfo (info : SpdmConfigInfo)
  | negotiateInfo (info : SpdmNegotiateInfo)
  | runtimeInfo (info : SpdmRuntimeInfo) (unknown : Option UInt8)
  | provisionInfo (info : SpdmProvisionInfo)
  | peerInfo (info : SpdmPeerInfo)
  | encapContext (info : SpdmEncapContext)
  | mutAuthDone (done : Bool)
  | session (i : Nat) (s : SpdmSession) (unknown : Option UInt8)

def storedFields (b : Build) (sessions : Nat) : List StoredField :=
  [.configInfo, .negotiateInfo, .runtimeInfo, .provisionInfo, .peerInfo] ++
    (if b.mutAuth then [.encapContext] else []) ++
    (if b.mandatoryMutAuth then [.mutAuthDone] else []) ++
    (List.range sessions).map .session

def StoredField.read (b : Build) (deserialize : HashCtxDeserialize) :
    StoredField → Parser StoredValue
  | configInfo => do
    let info ← parseConfigInfo
    ret (.configInfo info)
  | negotiateInfo => do
    let info ← parseNegotiateInfo
    ret (.negotiateInfo info)
  | runtimeInfo => do
    let (info, unknown) ← parseRuntimeInfo b deserialize
    ret (.runtimeInfo info unknown)
  | provisionInfo => do
    let info ← parseProvisionInfo b.config
    ret (.provisionInfo info)
  | peerInfo => do
    let info ← parsePeerInfo b.config
    ret (.peerInfo info)
  | encapContext => do
    let info ← parseEncapContext
    ret (.encapContext info)
  | mutAuthDone => do
    let done ← parseFlag
    ret (.mutAuthDone done)
  | session i => do
    let (s, unknown) ← parseSession b deserialize
    ret (.session i s unknown)

def SpdmSession.restored (s old : SpdmSession) : SpdmSession :=
  { s with sealed := old.sealed, opened := old.opened }

namespace StoredValue

def store : StoredValue → ImportTarget → ImportTarget
  | configInfo info, t => { t with context := { t.context with configInfo := info } }
  | negotiateInfo info, t => { t with context := { t.context with negotiateInfo := info } }
  | runtimeInfo info unknown, t =>
    { t with context := { t.context with runtimeInfo := info }, connectionUnknown := unknown }
  | provisionInfo info, t => { t with context := { t.context with provisionInfo := info } }
  | peerInfo info, t => { t with context := { t.context with peerInfo := info } }
  | encapContext info, t => { t with context := { t.context with encapContext := info } }
  | mutAuthDone done, t => { t with context := { t.context with mutAuthDone := done } }
  | session i s unknown, t =>
    { t with context := { t.context with session := t.context.session.modify i s.restored }
             sessionUnknown := Function.update t.sessionUnknown i unknown }

def field : StoredValue → StoredField
  | configInfo _ => .configInfo
  | negotiateInfo _ => .negotiateInfo
  | runtimeInfo _ _ => .runtimeInfo
  | provisionInfo _ => .provisionInfo
  | peerInfo _ => .peerInfo
  | encapContext _ => .encapContext
  | mutAuthDone _ => .mutAuthDone
  | session i _ _ => .session i

end StoredValue

def importFields (b : Build) (deserialize : HashCtxDeserialize) :
    List StoredField → Bytes → Prog ImportTarget SpdmStatus Unit
  | [], _ => ret ()
  | f :: fs, data => do
    let read ← parseRest (f.read b deserialize) data
    let (value, rest) ← orFail .invalidParameter read
    update value.store
    importFields b deserialize fs rest

def importContext (deserialize : HashCtxDeserialize) (data : Bytes) :
    Prog ImportTarget SpdmStatus Unit := do
  let t ← read
  let b := t.context.build
  importFields b deserialize (storedFields b t.context.session.length) data

/-! ## §5. What an import stores. -/

def readable (b : Build) (deserialize : HashCtxDeserialize) :
    List StoredField → Bytes → List StoredValue
  | [], _ => []
  | f :: fs, data =>
    match f.read b deserialize data with
    | .ok value rest => value :: readable b deserialize fs rest
    | _ => []

theorem StoredField.read_field {b : Build} {deserialize : HashCtxDeserialize} {f : StoredField}
    {data rest : Bytes} {value : StoredValue} (h : f.read b deserialize data = .ok value rest) :
    value.field = f := by
  cases f with
  | runtimeInfo =>
    obtain ⟨⟨info, unknown⟩, _, -, hret⟩ := bind_eq_ok.1 h
    obtain ⟨rfl, -⟩ := ret_eq_ok.1 hret
    rfl
  | session i =>
    obtain ⟨⟨info, unknown⟩, _, -, hret⟩ := bind_eq_ok.1 h
    obtain ⟨rfl, -⟩ := ret_eq_ok.1 hret
    rfl
  | _ =>
    obtain ⟨info, _, -, hret⟩ := bind_eq_ok.1 h
    obtain ⟨rfl, -⟩ := ret_eq_ok.1 hret
    rfl

theorem importFields_err {b : Build} {deserialize : HashCtxDeserialize} {fs : List StoredField}
    {data : Bytes} {e : SpdmStatus} {t t' : ImportTarget}
    (h : importFields b deserialize fs data t = .err e t') :
    t' = applyAll ((readable b deserialize fs data).map StoredValue.store) t := by
  induction fs generalizing data t with
  | nil => cases h
  | cons f fs ih =>
    unfold importFields at h
    unfold readable
    cases hread : f.read b deserialize data with
    | ok value rest =>
      rw [bind_of_ok (parseRest_of_ok hread)] at h
      exact ih h
    | err e rest =>
      -- nothing more is stored
      rw [parseRest, hread] at h
      exact ((Outcome.err.inj h).2).symm
    | panic =>
      rw [parseRest, hread] at h
      cases h

theorem readable_fields (b : Build) (deserialize : HashCtxDeserialize) (fs : List StoredField)
    (data : Bytes) : (readable b deserialize fs data).map StoredValue.field <+: fs := by
  induction fs generalizing data with
  | nil => exact List.prefix_rfl
  | cons f fs ih =>
    unfold readable
    split
    · rename_i value rest hread
      rw [List.map_cons, StoredField.read_field hread]
      exact List.cons_prefix_cons.2 ⟨rfl, ih rest⟩
    · exact List.nil_prefix

theorem nodup_storedFields (b : Build) (sessions : Nat) : (storedFields b sessions).Nodup := by
  have hsessions : ((List.range sessions).map StoredField.session).Nodup :=
    List.Nodup.map (fun i j h => StoredField.session.inj h) List.nodup_range
  unfold storedFields
  cases b.mutAuth <;> cases b.mandatoryMutAuth <;> simp [hsessions]

namespace StoredValue

theorem store_idem (value : StoredValue) (t : ImportTarget) :
    value.store (value.store t) = value.store t := by
  cases value with
  | session i s unknown =>
    have hsession : (t.context.session.modify i s.restored).modify i s.restored =
        t.context.session.modify i s.restored := by
      rw [List.modify_modify_eq]
      rfl
    simp only [store, hsession, Function.update_idem]
  | _ => rfl

theorem store_comm {v w : StoredValue} (h : v.field ≠ w.field) (t : ImportTarget) :
    v.store (w.store t) = w.store (v.store t) := by
  cases v with
  | session i s unknown =>
    cases w with
    | session j r unknown' =>
      have hij : i ≠ j := fun hij => h (congrArg StoredField.session hij)
      simp only [store, List.modify_modify_ne _ _ _ hij.symm, Function.update_comm hij]
    | _ => rfl
  | _ => cases w <;> first | rfl | exact absurd rfl h

def Held (t : ImportTarget) : StoredValue → Prop
  | configInfo info => t.context.configInfo = info
  | negotiateInfo info => t.context.negotiateInfo = info
  | runtimeInfo info unknown => t.context.runtimeInfo = info ∧ t.connectionUnknown = unknown
  | provisionInfo info => t.context.provisionInfo = info
  | peerInfo info => t.context.peerInfo = info
  | encapContext info => t.context.encapContext = info
  | mutAuthDone done => t.context.mutAuthDone = done
  | session i s unknown =>
    (∀ old, t.context.session[i]? = some old → s.restored old = old) ∧ t.sessionUnknown i = unknown

theorem modify_eq_self_iff {α : Type} {l : List α} {i : Nat} {f : α → α} :
    l.modify i f = l ↔ ∀ a, l[i]? = some a → f a = a := by
  induction l generalizing i with
  | nil => simp
  | cons a l ih => cases i with
    | zero => simp
    | succ i => simp [ih]

theorem store_eq_self_iff (value : StoredValue) (t : ImportTarget) :
    value.store t = t ↔ value.Held t := by
  -- a field of the context is what was stored in it
  have hget : ∀ {α : Type} (get : ImportTarget → α), value.store t = t → get t =
    get (value.store t) :=
    fun get h => congrArg get h.symm
  cases value with
  | configInfo info => exact ⟨hget fun t => t.context.configInfo, by rintro rfl; rfl⟩
  | negotiateInfo info => exact ⟨hget fun t => t.context.negotiateInfo, by rintro rfl; rfl⟩
  | provisionInfo info => exact ⟨hget fun t => t.context.provisionInfo, by rintro rfl; rfl⟩
  | peerInfo info => exact ⟨hget fun t => t.context.peerInfo, by rintro rfl; rfl⟩
  | encapContext info => exact ⟨hget fun t => t.context.encapContext, by rintro rfl; rfl⟩
  | mutAuthDone done => exact ⟨hget fun t => t.context.mutAuthDone, by rintro rfl; rfl⟩
  | runtimeInfo info unknown =>
    refine ⟨fun h => ⟨hget (fun t => t.context.runtimeInfo) h, hget (·.connectionUnknown) h⟩, ?_⟩
    rintro ⟨rfl, rfl⟩
    rfl
  | session i s unknown =>
    constructor
    · intro h
      have hslots := hget (fun t => t.context.session) h
      have hunknown : t.sessionUnknown i = Function.update t.sessionUnknown i unknown i :=
        hget (fun t => t.sessionUnknown i) h
      rw [Function.update_self] at hunknown
      exact ⟨modify_eq_self_iff.1 hslots.symm, hunknown⟩
    · rintro ⟨hslots, rfl⟩
      simp only [store, modify_eq_self_iff.2 hslots, Function.update_eq_self]

end StoredValue

theorem separate_readable (b : Build) (deserialize : HashCtxDeserialize) (sessions : Nat)
    (data : Bytes) : Separate ((readable b deserialize (storedFields b sessions) data).map
      StoredValue.store) := by
  have hnodup := (nodup_storedFields b sessions).sublist
    (readable_fields b deserialize (storedFields b sessions) data).sublist
  constructor
  · intro f hf t
    obtain ⟨value, -, rfl⟩ := List.mem_map.1 hf
    exact value.store_idem t
  · intro f hf g hg t
    obtain ⟨v, hv, rfl⟩ := List.mem_map.1 hf
    obtain ⟨w, hw, rfl⟩ := List.mem_map.1 hg
    by_cases hfield : v.field = w.field
    · rw [List.inj_on_of_nodup_map hnodup hv hw hfield]
    · exact StoredValue.store_comm hfield t

/-- **A failed import leaves no trace** exactly when everything that could be
read, up to the structure that could not, was there before. -/
theorem importContext_unchanged_iff {deserialize : HashCtxDeserialize} {data : Bytes}
    {e : SpdmStatus} {t t' : ImportTarget} (h : importContext deserialize data t = .err e t') :
    t' = t ↔ ∀ value ∈ readable t.context.build deserialize
      (storedFields t.context.build t.context.session.length) data, value.Held t := by
  rw [importFields_err h, (separate_readable _ _ _ _).fixed_iff]
  constructor
  · intro hfixed value hvalue
    exact (value.store_eq_self_iff t).1 (hfixed _ (List.mem_map_of_mem hvalue))
  · intro hheld f hf
    obtain ⟨value, hvalue, rfl⟩ := List.mem_map.1 hf
    exact (value.store_eq_self_iff t).2 (hheld value hvalue)

namespace SmallBackend

def shortImport : Bytes := List.replicate 54 0

def configAfter : Outcome ImportTarget SpdmStatus Unit → Option SpdmConfigInfo
  | .err _ t => some t.context.configInfo
  | _ => none

def unconfigured : ImportTarget := { context := { smallResponder false 0 with configInfo := {} } }

theorem same_import_unchanged : ∃ e t',
    importContext (fun _ => none) shortImport unconfigured = .err e t' ∧ t' = unconfigured := by
  have hread : readable unconfigured.context.build (fun _ => none)
      (storedFields unconfigured.context.build unconfigured.context.session.length) shortImport =
      [.configInfo {}] := rfl
  have hfails : configAfter (importContext (fun _ => none) shortImport unconfigured) = some {} := by
    decide +kernel
  cases hrun : importContext (fun _ => none) shortImport unconfigured with
  | ok a t' => rw [hrun] at hfails; cases hfails
  | panic => rw [hrun] at hfails; cases hfails
  | err e t' =>
    refine ⟨e, t', rfl, (importContext_unchanged_iff hrun).2 ?_⟩
    rw [hread]
    intro value hvalue
    cases List.mem_singleton.1 hvalue
    rfl

theorem configuration_replaced :
    configAfter (importContext (fun _ => none) shortImport
      { context := smallResponder false 0 }) = some {} ∧
    (smallResponder false 0).configInfo.spdmVersion = [.spdmVersion12] := by
  decide +kernel

end SmallBackend

end Spdm
