/-
  Spdm.Responder.Session — the responder's KEY_EXCHANGE, FINISH, PSK_EXCHANGE and PSK_FINISH
  handlers (`responder/key_exchange_rsp.rs`, `responder/finish_rsp.rs`,
  `responder/psk_exchange_rsp.rs`, `responder/psk_finish_rsp.rs`).
-/
import Spdm.Message.Session
import Spdm.Responder.Attestation

namespace Spdm

open Effect Codec

namespace Responder

open SpdmContext SpdmRequestResponseCode SpdmErrorCode

variable [Crypto] [Device]

/-! ## §1. Steps the handlers share. -/

def sessionOf (id : Nat) : Handler SpdmSession := do
  let c ← read
  expect (c.sessionViaId id) .invalidStateLocal spdmErrorUnspecified

def changeSession (id : Nat) (f : SpdmSession → SpdmSession) : Handler Unit :=
  orRefuse (withSession id SpdmStatus.invalidStateLocal (update f)) .invalidStateLocal
    spdmErrorUnspecified

def ownSession {α : Type} (id : Nat) (m : Handler α) : Handler α := do
  let r ← attempt m
  match r with
  | .ok a => ret a
  | .error e => do
    update (teardownSession id)
    fail e

def heartbeatNegotiated (c : SpdmContext) : Bool :=
  contains c.negotiateInfo.reqCapabilitiesSel SpdmRequestCapabilityFlags.hbeatCap &&
    contains c.negotiateInfo.rspCapabilitiesSel SpdmResponseCapabilityFlags.hbeatCap

def callWatchdog {ε : Type} (call : SpdmContext → WatchdogCall) : Prog SpdmContext ε Unit :=
  update fun c => if heartbeatNegotiated c then
    { c with world := { c.world with watchdog := c.world.watchdog ++ [call c] } } else c

def startWatchdog {ε : Type} (id : Nat) : Prog SpdmContext ε Unit :=
  callWatchdog fun c => .start id (((c.sessionViaId id).map (·.heartbeatPeriod)).getD 0 * 2)

def appendK (id : Nat) (m : Bytes) (e : SpdmStatus) : Handler Unit :=
  orRefuse (appendMessageK id m) e spdmErrorUnspecified

def appendF (id : Nat) (m : Bytes) : Handler Unit :=
  orRefuse (appendMessageF false id m) .invalidStateLocal spdmErrorUnspecified

def transcriptHash (usePsk isMutAuth : Bool) (id : Nat) : Handler Bytes := do
  let s ← sessionOf id
  orRefuse (calcRspTranscriptHash usePsk isMutAuth s) .cryptoError spdmErrorUnspecified

def sessionStep (id : Nat) (m : Prog SpdmSession SpdmStatus Unit) : Handler Unit := do
  let r ← attempt (withSession id SpdmStatus.invalidStateLocal m)
  match r with
  | .ok _ => ret ()
  | .error e => refuse e spdmErrorUnspecified

def placeVerifyData (body mac : Bytes) (size : Nat) : Handler Bytes := do
  assert (mac.length == size)
  ret (body ++ mac)

def selectSecureVersion (offered locals : List SecuredMessageVersion) :
    Option SecuredMessageVersion :=
  (offered.flatMap fun o => locals.filter fun l => o.same l).getLast?

def versionSelOpaque (offer : Bytes) : Handler Bytes := do
  let c ← read
  let offered ← parse (parseSmSupportedVerList c) offer
  match offered with
  | none => ret []
  | some offered => do
    let v ← expect (selectSecureVersion offered c.configInfo.secureSpdmVersion) .invalidMsgField
      spdmErrorInvalidRequest
    expect (encodeSmVersionSel c v) .invalidMsgField spdmErrorUnsupportedRequest

def readExchangeHeader (bytes : Bytes) : Handler Bytes := do
  let rest ← readHeader bytes .invalidMsgField
  let c ← read
  demand (c.negotiateInfo.spdmVersionSel.atLeast .spdmVersion11) .invalidMsgField
    spdmErrorUnsupportedRequest
  ret rest

def nextHalfSessionId : Handler Nat := do
  let c ← read
  match c.getNextHalfSessionId false with
  | .ok id => ret id
  | .error _ => refuse .invalidStateLocal spdmErrorSessionLimitExceeded

def demandFreeSlot : Handler Unit := do
  let c ← read
  demand (c.sessionViaId invalidSessionId).isSome .invalidStateLocal spdmErrorSessionLimitExceeded

def deriveHandshake (id : Nat) (th1 : Bytes) : Handler Unit := do
  let c ← read
  sessionStep id do
    update fun s => { s with th1 := th1 }
    SpdmSession.generateHandshakeSecret c.negotiateInfo.spdmVersionSel th1

def deriveData (id : Nat) (th2 : Bytes) : Handler Unit := do
  let c ← read
  sessionStep id do
    update fun s => { s with th2 := th2 }
    SpdmSession.generateDataSecret c.negotiateInfo.spdmVersionSel th2

def responseMac (id : Nat) (hash : Bytes) : Handler Bytes := do
  let s ← sessionOf id
  match s.generateHmacWithResponseFinishedKey hash with
  | some mac => ret mac
  | none => do
    update (teardownSession id)
    refuse .cryptoError spdmErrorUnspecified

def secureVersionOf (data : Bytes) (old : SecuredMessageVersion) : SecuredMessageVersion :=
  match data.getLast? with
  | some b => ⟨b.toNat / 16, b.toNat % 16, 0, 0⟩
  | none => old

/-! ## §2. KEY_EXCHANGE. -/

structure PreparedKeyExchange where
  request : Bytes
  sessionId : Nat
  slotId : Nat
  summary : Bytes
  returnOpaque : Bytes
  finalKey : Bytes
  exchange : Bytes
  rspSessionId : Nat
  mutAuthReq : Flags
  reqSlotId : Nat
  certChainHash : Bytes

def exchangeKeys (c : SpdmContext) (peer : Bytes) : Handler (Bytes × Bytes) := do
  let entropy ← drawEntropy
  if c.negotiateInfo.kemSel ≠ 0 then do
    let (cipherText, key) ← expect (kemEncap c.negotiateInfo.kemSel entropy peer) .cryptoError
      spdmErrorUnspecified
    ret (key, cipherText)
  else do
    let (mine, secret) ← expect (dheKeyPair c.negotiateInfo.dheSel entropy) .cryptoError
      spdmErrorUnspecified
    let key ← expect (dheFinalKey c.negotiateInfo.dheSel secret peer) .cryptoError
      spdmErrorUnspecified
    ret (key, mine)

def requestMutAuth : Handler (Flags × Nat) := do
  let c ← read
  if c.build.mutAuth then
    if c.encapContext.mutAuthRequested = mutAuthReq then do
      let slot := c.encapContext.reqSlotId
      demand (decide (slot < spdmMaxSlotNumber) || slot == pubKeySlotIdKeyExchangeRsp)
        .invalidMsgField spdmErrorUnspecified
      update fun c => { c with runtimeInfo :=
        { c.runtimeInfo with peerUsedCertChainSlotId := slot } }
      ret (mutAuthReq, slot)
    else ret (mutAuthReqWithGetDigests, 0)
  else ret (0, 0)

def myIdentityHash (c : SpdmContext) (slotId : Nat) : Option Bytes :=
  if slotId = pubKeySlotIdKeyExchange then
    c.provisionInfo.myPubKey.bind fun key => hashAll c.negotiateInfo.baseHashSel key
  else (c.provisionInfo.myCertChain[slotId]?.bind id).bind fun chain =>
    hashAll c.negotiateInfo.baseHashSel chain

def demandNoEvents (sessionPolicy : UInt8) : Handler Unit := do
  let c ← read
  if sessionPolicy &&& eventAllPolicyMask == eventAllPolicyMask &&
      contains c.negotiateInfo.rspCapabilitiesSel SpdmResponseCapabilityFlags.eventCap then
    fail (.invalidMsgField, some [])
  else ret ()

structure KeyExchangeRequest where
  context : SpdmContext
  payload : KeyExchangePayload
  rest : Bytes
  summary : Bytes

def readKeyExchange (bytes : Bytes) : Handler KeyExchangeRequest := do
  demandNegotiated
  let rest ← readExchangeHeader bytes
  update (resetBufferViaRequestCode spdmRequestKeyExchange none)
  let c ← read
  let (p, rest) ← readPayload (parseKeyExchange c) rest .invalidMsgField
  let summary ← summaryHash p.measurementSummaryHashType .invalidMsgField
  ret ⟨c, p, rest, summary⟩

def prepareKeyExchange (bytes : Bytes) : Handler PreparedKeyExchange := do
  let ⟨c, p, rest, summary⟩ ← readKeyExchange bytes
  update fun c => { c with negotiateInfo := { c.negotiateInfo with
    terminationPolicySet := p.sessionPolicy &&& terminationPolicyMask == terminationPolicyMask } }
  demandNoEvents p.sessionPolicy
  let returnOpaque ← versionSelOpaque p.opaqueData
  let slotId := p.slotId.toNat
  demand (slotId == pubKeySlotIdKeyExchange ||
    (c.provisionInfo.myCertChain[slotId]?.bind id).isSome) .invalidMsgField spdmErrorInvalidRequest
  update fun c => { c with runtimeInfo :=
    { c.runtimeInfo with localUsedCertChainSlotId := slotId } }
  let (finalKey, exchange) ← exchangeKeys c p.exchange
  let rspSessionId ← nextHalfSessionId
  let (mutAuthReq, reqSlotId) ← requestMutAuth
  let certChainHash ← expect (myIdentityHash c slotId) .invalidMsgField spdmErrorInvalidRequest
  demandFreeSlot
  ret { request := consumed bytes rest
        sessionId := rspSessionId * 2 ^ 16 + p.reqSessionId
        slotId, summary, returnOpaque, finalKey, exchange, rspSessionId, mutAuthReq, reqSlotId
        certChainHash }

def openKeyExchangeSession (p : PreparedKeyExchange) : Handler Unit := do
  let c ← read
  let r ← attempt (withSession invalidSessionId SpdmStatus.invalidStateLocal do
    SpdmSession.setup p.sessionId
    update fun s => { sessionParams c s with usePsk := false, mutAuthRequested := p.mutAuthReq }
    SpdmSession.setSharedSecret c.negotiateInfo.spdmVersionSel p.finalKey)
  match r with
  | .ok _ =>
    changeSession p.sessionId (startTranscript c.runtimeInfo.messageA (some p.certChainHash))
  | .error _ => do
    update (teardownSession p.sessionId)
    refuse .cryptoError spdmErrorUnspecified

def generateKeyExchangeRspSignature (s : SpdmSession) : SpdmResult Bytes := do
  let c ← read
  let v := c.negotiateInfo.spdmVersionSel
  let hash ← calcRspTranscriptHash false false s
  let data ← (if c.build.hashedTranscriptData then do
      guardElse (v.atLeast .spdmVersion12) .invalidStateLocal
      ret (purposedHash v .keyExchangeRsp hash)
    else do
      let message ← calcTranscriptData c.rspSide false false s.runtimeInfo.messageK none none
      ret (if v.atLeast .spdmVersion12 then purposedHash v .keyExchangeRsp hash else message))
  orFail .cryptoError (spdmAsymSign c c.negotiateInfo.baseHashSel c.negotiateInfo.baseAsymSel
    c.negotiateInfo.pqcAsymSel data)

def keyExchangeVerifyData (id : Nat) (message : Bytes) (hashSize : Nat) : Handler Bytes := do
  let c ← read
  if c.inClearText then ret message
  else do
    let hash ← transcriptHash false false id
    let mac ← responseMac id hash
    appendK id mac .invalidStateLocal
    placeVerifyData message mac hashSize

def runKeyExchange (p : PreparedKeyExchange) : Handler Bytes := do
  openKeyExchangeSession p
  let random ← orRefuse (getRandom spdmRandomSize) .cryptoError spdmErrorUnspecified
  let c ← read
  let signatureSize ← orAbort c.asymSigSize?
  let hashSize ← orAbort c.hashSize?
  assertField (40 + p.exchange.length)
    (!c.runtimeInfo.needMeasurementSummaryHash || p.summary.length == hashSize)
  let body := encodeKeyExchangeRsp c
    { heartbeatPeriod := c.configInfo.heartbeatPeriod
      rspSessionId := p.rspSessionId
      mutAuthReq := p.mutAuthReq
      reqSlotId := p.reqSlotId
      random := random
      exchange := p.exchange
      measurementSummaryHash := p.summary
      opaqueData := p.returnOpaque }
  demand (decide (body.length + signatureSize + (if c.inClearText then 0 else hashSize) ≤
    c.build.config.maxSpdmMsgSize)) .invalidStateLocal spdmErrorUnspecified
  appendK p.sessionId p.request .cryptoError
  appendK p.sessionId body .invalidStateLocal
  let s ← sessionOf p.sessionId
  let signature ← orRefuse (generateKeyExchangeRspSignature s) .cryptoError spdmErrorUnspecified
  appendK p.sessionId signature .invalidStateLocal
  let message ← placeSignature body signature signatureSize
  let th1 ← transcriptHash false false p.sessionId
  deriveHandshake p.sessionId th1
  let response ← keyExchangeVerifyData p.sessionId message hashSize
  changeSession p.sessionId fun s => { s with
    heartbeatPeriod := c.configInfo.heartbeatPeriod
    secureSpdmVersionSel := secureVersionOf p.returnOpaque s.secureSpdmVersionSel
    sessionState := .handshaking }
  (if c.inClearText then update fun c => { c with runtimeInfo :=
    { c.runtimeInfo with lastSessionId := some p.sessionId } } else ret ())
  ret response

def handleSpdmKeyExchange (bytes : Bytes) : Handler Bytes := do
  let p ← prepareKeyExchange bytes
  ownSession p.sessionId (runKeyExchange p)

/-! ## §3. FINISH. -/

def verifyFinishReqSignature (signature : Bytes) (s : SpdmSession) :
    SpdmResult Unit := do
  let c ← read
  let v := c.negotiateInfo.spdmVersionSel
  let hash ← calcRspTranscriptHash false true s
  let der ← peerKey c.runtimeInfo.peerUsedCertChainSlotId pubKeySlotIdKeyExchangeRsp
  let data ← (if v.atLeast .spdmVersion12 then ret (purposedHash v .finish hash)
    else if c.build.hashedTranscriptData then fail .invalidStateLocal
    else ret [])
  liftResult (spdmAsymVerify c.negotiateInfo.baseHashSel c.negotiateInfo.reqAsymSel
    c.negotiateInfo.pqcReqAsymSel der data signature)

def verifyFinishSignature (id : Nat) (signature : Bytes) : Handler Unit := do
  let s ← sessionOf id
  orRefuse (verifyFinishReqSignature signature s) .cryptoError spdmErrorDecryptError
  appendF id signature

def verifyRequestMac (id : Nat) (hash mac : Bytes) : Handler Unit := do
  let s ← sessionOf id
  demand (match s.verifyHmacWithRequestFinishedKey hash mac with
    | .ok _ => true
    | .error _ => false) .cryptoError spdmErrorDecryptError

def completeFinishRsp (id : Nat) (isMutAuth : Bool) (body : Bytes) (hashSize : Nat) :
    Handler Bytes := do
  let c ← read
  if c.inClearText then do
    appendF id body
    let hash ← transcriptHash false isMutAuth id
    let s ← sessionOf id
    let mac ← expect (s.generateHmacWithResponseFinishedKey hash) .cryptoError spdmErrorUnspecified
    appendF id mac
    placeVerifyData body mac hashSize
  else do
    appendF id body
    ret body

def writeSpdmFinishResponse (id : Nat) (bytes : Bytes) : Handler Bytes := do
  let rest ← readHeader bytes .invalidMsgField
  update (resetBufferViaRequestCode spdmRequestFinish (some id))
  let c ← read
  let v := c.negotiateInfo.spdmVersionSel
  let (p, _) ← readPayload (parseFinish c) rest .invalidMsgField
  appendF id (bytes.take (4 + (encodeOpaqueSince14 v p.opaqueData).length))
  let s ← sessionOf id
  let isMutAuth := s.mutAuthRequested != 0
  demand (isMutAuth == contains p.finishRequestAttributes signatureIncluded) .invalidMsgField
    spdmErrorInvalidRequest
  (if isMutAuth then verifyFinishSignature id p.signature else ret ())
  let hashSize ← orAbort c.hashSize?
  let s ← sessionOf id
  demand (!s.usePsk) .invalidMsgField spdmErrorInvalidRequest
  let hash ← transcriptHash false isMutAuth id
  verifyRequestMac id hash p.verifyData
  appendF id p.verifyData
  let body := encodeFinishRsp v []
  demand (decide (body.length + (if c.inClearText then hashSize else 0) ≤
    c.build.config.maxSpdmMsgSize)) .invalidStateLocal spdmErrorUnspecified
  let response ← completeFinishRsp id isMutAuth body hashSize
  let th2 ← transcriptHash false isMutAuth id
  deriveData id th2
  ret response

def handleSpdmFinish (id : Nat) (bytes : Bytes) : Handler (Option Bytes) := do
  let c ← read
  if c.build.mandatoryMutAuth && !c.mutAuthDone then do
    update (teardownSession id)
    ret none
  else do
    let response ← ownSession id (writeSpdmFinishResponse id bytes)
    ret (some response)

/-! ## §4. PSK_EXCHANGE. -/

structure PreparedPskExchange where
  request : Bytes
  sessionId : Nat
  summary : Bytes
  returnOpaque : Bytes
  pskHint : Bytes
  pskContext : Bytes
  rspSessionId : Nat

def preparePskExchange (bytes : Bytes) : Handler PreparedPskExchange := do
  demandNegotiated
  let rest ← readExchangeHeader bytes
  update (resetBufferViaRequestCode spdmRequestPskExchange none)
  let c ← read
  let (p, rest) ← readPayload (parsePskExchange c) rest .invalidMsgField
  let summary ← summaryHash p.measurementSummaryHashType .cryptoError
  let returnOpaque ← versionSelOpaque p.opaqueData
  let contextSize := c.build.config.maxSpdmPskContextSize
  let pskContext ← (if c.pskWithoutContext then
      orRefuse (getRandom contextSize) .cryptoError spdmErrorUnspecified
    else ret (List.replicate contextSize 0))
  let rspSessionId ← nextHalfSessionId
  demandFreeSlot
  ret { request := consumed bytes rest
        sessionId := rspSessionId * 2 ^ 16 + p.reqSessionId
        summary, returnOpaque, pskHint := p.pskHint, pskContext, rspSessionId }

def openPskSession (p : PreparedPskExchange) : Handler Unit := do
  let c ← read
  orRefuse (withSession invalidSessionId SpdmStatus.invalidStateLocal do
    SpdmSession.setup p.sessionId
    update fun s => { startTranscript c.runtimeInfo.messageA none (sessionParams c s) with
      usePsk := true }
    update fun s => { s with runtimeInfo := { s.runtimeInfo with pskHint := some p.pskHint } })
    .invalidStateLocal spdmErrorSessionLimitExceeded

def establishPsk (id : Nat) : Handler Unit := do
  let th2 ← transcriptHash true false id
  let c ← read
  orRefuse (withSession id SpdmStatus.invalidStateLocal do
    update fun s => { s with th2 := th2 }
    SpdmSession.generateDataSecret c.negotiateInfo.spdmVersionSel th2) .cryptoError
    spdmErrorUnspecified
  changeSession id (SpdmSession.setSessionState .established)
  startWatchdog id

def runPskExchange (p : PreparedPskExchange) : Handler Bytes := do
  openPskSession p
  let c ← read
  let hashSize ← orAbort c.hashSize?
  assertField 12 (!c.runtimeInfo.needMeasurementSummaryHash || p.summary.length == hashSize)
  let body := encodePskExchangeRsp c
    { heartbeatPeriod := c.configInfo.heartbeatPeriod
      rspSessionId := p.rspSessionId
      measurementSummaryHash := p.summary
      pskContext := p.pskContext
      opaqueData := p.returnOpaque }
  demand (decide (body.length + hashSize ≤ c.build.config.maxSpdmMsgSize)) .invalidStateLocal
    spdmErrorUnspecified
  appendK p.sessionId p.request .invalidStateLocal
  appendK p.sessionId body .invalidStateLocal
  let th1 ← transcriptHash true false p.sessionId
  deriveHandshake p.sessionId th1
  let hash ← transcriptHash true false p.sessionId
  let mac ← responseMac p.sessionId hash
  appendK p.sessionId mac .invalidStateLocal
  let response ← placeVerifyData body mac hashSize
  changeSession p.sessionId (SpdmSession.setSessionState .handshaking)
  (if c.pskWithoutContext then establishPsk p.sessionId else ret ())
  changeSession p.sessionId fun s => { s with
    heartbeatPeriod := c.configInfo.heartbeatPeriod
    secureSpdmVersionSel := secureVersionOf p.returnOpaque s.secureSpdmVersionSel }
  ret response

def handleSpdmPskExchange (bytes : Bytes) : Handler Bytes := do
  let p ← preparePskExchange bytes
  ownSession p.sessionId (runPskExchange p)

/-! ## §5. PSK_FINISH. -/

def writeSpdmPskFinishResponse (id : Nat) (bytes : Bytes) : Handler Bytes := do
  let rest ← readHeader bytes .invalidMsgField
  update (resetBufferViaRequestCode spdmRequestPskFinish (some id))
  let c ← read
  let (verifyData, rest) ← readPayload (parsePskFinish c) rest .invalidMsgField
  let hashSize ← orAbort c.hashSize?
  let s ← sessionOf id
  demand s.usePsk .invalidMsgField spdmErrorInvalidRequest
  let used := consumed bytes rest
  appendF id (used.take (used.length - hashSize))
  let hash ← transcriptHash true false id
  verifyRequestMac id hash verifyData
  appendF id verifyData
  let response ← respond (encodePskFinishRsp c.negotiateInfo.spdmVersionSel [])
  appendF id response
  let th2 ← transcriptHash true false id
  deriveData id th2
  ret response

def handleSpdmPskFinish (id : Nat) (bytes : Bytes) : Handler Bytes :=
  ownSession id (writeSpdmPskFinishResponse id bytes)

end Responder

end Spdm
