/-
  Spdm.Responder.Context — receiving, dispatching and answering a request
  (`responder/context.rs`).
-/
import Spdm.Message.Chunk
import Spdm.Responder.Negotiation
import Spdm.Responder.Upkeep

namespace Spdm

open Effect Codec

namespace Responder

open SpdmContext SpdmRequestResponseCode SpdmErrorCode

variable [Crypto] [Device]

/-! ## §1. Chunk transfers. -/

def chunkNegotiated (c : SpdmContext) : Bool :=
  contains c.negotiateInfo.reqCapabilitiesSel SpdmRequestCapabilityFlags.chunkCap &&
    contains c.negotiateInfo.rspCapabilitiesSel SpdmResponseCapabilityFlags.chunkCap

def dropChunk (c : SpdmContext) : SpdmContext := c.setChunk idleChunk

def keepLargeResponse {ε : Type} (message : Bytes) : Prog SpdmContext ε Unit := do
  let c ← read
  assert (decide (message.length ≤ c.build.config.maxSpdmMsgSize))
  update fun c => { c with
    chunkRspHandle := (c.chunkRspHandle + 1) % 256
    chunkContext :=
      { chunkStatus := .chunkGetAndResponse
        chunkSeqNum := 0
        chunkMessageSize := message.length
        chunkMessageData := bufWrite 0 message c.chunkContext.chunkMessageData
        transferredSize := 0 } }

def largeResponseMessage (c : SpdmContext) : Bytes :=
  errorMessage c spdmErrorLargeResponse 0 ++ [UInt8.ofNat c.chunkRspHandle]

def exceedsTransfer (c : SpdmContext) (length : Nat) : Bool :=
  (c.negotiateInfo.reqDataTransferSizeSel != 0 &&
    decide (c.negotiateInfo.reqDataTransferSizeSel < length)) ||
    decide (spdmSenderDataTransferSize c.build.config < length)

def demandChunks : Handler Unit := do
  let c ← read
  demand (chunkNegotiated c) .unsupportedCap spdmErrorUnsupportedRequest
  demand (c.runtimeInfo.connectionState != .notStarted &&
    c.runtimeInfo.connectionState != .afterVersion) .invalidStatePeer spdmErrorUnexpectedRequest

def readChunkHeader (bytes : Bytes) : Handler Bytes := do
  demandChunks
  let c ← read
  let rest ← readHeader bytes .invalidStatePeer
  demand (c.negotiateInfo.spdmVersionSel.atLeast .spdmVersion12) .invalidMsgField
    spdmErrorUnsupportedRequest
  ret rest

def maxChunkSeqNum (c : SpdmContext) : Nat := if c.largeChunk then 2 ^ 32 - 1 else 2 ^ 16 - 1

/-! ## §2. CHUNK_SEND. -/

def startsTransfer (c : SpdmContext) (p : ChunkPayload) (size : Nat) : Bool :=
  let room := spdmDataTransferSize c.build.config
  let maxLargeRequestSize := (room - offsetOfSpdmChunkInChunkSend) * (2 ^ 16 - 2) + room -
    offsetOfSpdmChunkInFirstChunkSend
  p.chunkSeqNum == 0 &&
    decide (minDataTransferSize ≤ size ∧ size ≤ c.build.config.maxSpdmMsgSize) &&
    decide (size ≤ maxLargeRequestSize) && !contains p.attributes lastChunk &&
    decide (p.chunkSize ≤ room - offsetOfSpdmChunkInFirstChunkSend)

def startChunkSend (p : ChunkPayload) : Handler Unit := do
  let c ← read
  let size ← orAbort p.largeMessageSize
  demand (startsTransfer c p size) .invalidStatePeer spdmErrorInvalidRequest
  update fun c => { c with
    chunkReqHandle := p.handle
    chunkContext := { c.chunkContext with
      chunkSeqNum := p.chunkSeqNum, chunkMessageSize := size, chunkStatus := .chunkSendAndAck } }

def continueChunkSend (p : ChunkPayload) : Handler Unit := do
  let c ← read
  demand (decide (c.chunkContext.chunkSeqNum < maxChunkSeqNum c)) .invalidStatePeer
    spdmErrorInvalidRequest
  update fun c => { c with chunkContext :=
    { c.chunkContext with chunkSeqNum := c.chunkContext.chunkSeqNum + 1 } }
  let c ← read
  demand (p.chunkSeqNum == c.chunkContext.chunkSeqNum && p.handle == c.chunkReqHandle &&
    (contains p.attributes lastChunk ||
      decide (p.chunkSize ≤ spdmDataTransferSize c.build.config - offsetOfSpdmChunkInChunkSend)) &&
    decide (c.chunkContext.transferredSize ≤ c.chunkContext.chunkMessageSize)) .invalidStatePeer
    spdmErrorInvalidRequest

def acceptChunk (p : ChunkPayload) : Handler Unit := do
  let c ← read
  match c.chunkContext.chunkStatus with
  | .idle => startChunkSend p
  | .chunkSendAndAck => continueChunkSend p
  | .chunkGetAndResponse => refuse .invalidStatePeer spdmErrorInvalidRequest

def offsetOfResponseInChunkSendAck (c : SpdmContext) : Nat :=
  if c.largeChunk then offsetOfResponseInChunkSendAck14 else offsetOfResponseInChunkSendAck12

def embedResponse (response : Bytes) : Handler Unit := do
  let c ← read
  assert (decide (response.length ≤ c.build.config.maxSpdmMsgSize))
  update fun c => { c with chunkContext := { c.chunkContext with
    chunkMessageSize := response.length
    chunkMessageData := bufWrite 0 response c.chunkContext.chunkMessageData
    transferredSize := response.length } }

def writeChunkSendAck (size : Nat) : Handler Bytes := do
  let c ← read
  orRefuse (encodeChunkSendAck
    { chunkReceiverAttributes := 0
      handle := c.chunkReqHandle
      chunkSeqNum := c.chunkContext.chunkSeqNum
      responseToLargeRequestSize := size } c.build.config.maxSpdmMsgSize)
    .invalidStateLocal spdmErrorUnspecified

def answerLargeRequest (status : Except SpdmStatus Unit) (response : Option Bytes) :
    Handler (Option Bytes) :=
  match response with
  | none => handlerResult (status, none)
  | some response => do
    let c ← read
    if exceedsTransfer c (response.length + offsetOfResponseInChunkSendAck c) then do
      keepLargeResponse response
      let c ← read
      ret (some (largeResponseMessage c))
    else do
      embedResponse response
      let ack ← writeChunkSendAck response.length
      handlerResult (status, some ack)

def dispatched : Except Refusal (Option Bytes) → Except SpdmStatus Unit × Option Bytes
  | .ok response => (.ok (), response)
  | .error (e, response) => (.error e, response)

def takeRequest (bytes : Bytes) : Handler (Option Bytes) := do
  let rest ← readChunkHeader bytes
  let p ← orRefuse (readChunkSend rest) .invalidStatePeer spdmErrorInvalidRequest
  let p ← expect p .invalidStatePeer spdmErrorInvalidRequest
  acceptChunk p
  if contains p.attributes lastChunk then do
    let c ← read
    demand (c.chunkContext.transferredSize == c.chunkContext.chunkMessageSize) .invalidStatePeer
      spdmErrorInvalidRequest
    ret (some (bufTake c.chunkContext.transferredSize c.chunkContext.chunkMessageData))
  else ret none

def answerChunk (dispatch : Dispatch) (sessionId : Option Nat) :
    Option Bytes → Handler (Option Bytes)
  | none => do
    let ack ← writeChunkSendAck 0
    ret (some ack)
  | some request => do
    let r ← attempt (dispatch sessionId request)
    answerLargeRequest (dispatched r).1 (dispatched r).2

def writeSpdmChunkSendResponse (dispatch : Dispatch)
    (sessionId : Option Nat) (bytes : Bytes) : Handler (Option Bytes) :=
  takeRequest bytes >>= answerChunk dispatch sessionId

def handleSpdmChunkSend (dispatch : Dispatch)
    (sessionId : Option Nat) (bytes : Bytes) : Handler (Option Bytes) := do
  let r ← attempt (writeSpdmChunkSendResponse dispatch sessionId bytes)
  match r with
  | .ok response => ret response
  | .error e => do
    update fun c => { dropChunk c with chunkReqHandle := 0 }
    fail e

/-! ## §3. CHUNK_GET. -/

def demandExpectedChunk (rest : Bytes) : Handler Unit := do
  let c ← read
  let p ← parse (parseChunkGet c.largeChunk) rest
  match p with
  | none => ret ()
  | some p => do
    demand (c.chunkContext.chunkStatus == .chunkGetAndResponse) .invalidStatePeer
      spdmErrorUnexpectedRequest
    demand (p.chunkSeqNum == c.chunkContext.chunkSeqNum && p.handle == c.chunkRspHandle)
      .invalidStatePeer spdmErrorInvalidRequest

def demandChunkGet (bytes : Bytes) : Handler Unit := do
  let c ← read
  let header ← parseRest parseHeader bytes
  match header with
  | none => ret ()
  | some (header, rest) => do
    demand (header.version == c.negotiateInfo.spdmVersionSel) .invalidMsgField
      spdmErrorVersionMismatch
    demand (header.version.atLeast .spdmVersion12) .invalidMsgField spdmErrorUnsupportedRequest
    demandExpectedChunk rest

def demandLargeResponseFits (room : Nat) : Handler Unit := do
  let c ← read
  let chunkRoom ← sizeSub room offsetOfSpdmChunkInChunkResponse
  let maxLargeResponseSize ← sizeSub (chunkRoom * (2 ^ 16 - 2) + room)
    offsetOfSpdmChunkInFirstChunkResponse
  demand (decide (c.chunkContext.chunkMessageSize ≤ maxLargeResponseSize)) .invalidStatePeer
    spdmErrorResponseTooLarge

def responseRoom (c : SpdmContext) : Nat :=
  min (spdmSenderDataTransferSize c.build.config) c.negotiateInfo.reqDataTransferSizeSel

def writeChunk : Handler Bytes := do
  let c ← read
  let chunk := c.chunkContext
  let first := chunk.chunkSeqNum == 0
  let remaining ← sizeSub chunk.chunkMessageSize chunk.transferredSize
  let maxChunkSize ← sizeSub (responseRoom c)
    (if first then offsetOfSpdmChunkInFirstChunkResponse else offsetOfSpdmChunkInChunkResponse)
  let chunkSize := min maxChunkSize remaining % 2 ^ 32
  let response ← orRefuse (encodeChunk spdmResponseChunkResponse
    { attributes := if chunk.chunkMessageSize ≤ chunk.transferredSize + chunkSize then lastChunk
        else 0
      handle := c.chunkRspHandle
      chunkSeqNum := chunk.chunkSeqNum
      chunkSize := chunkSize
      largeMessageSize := if first then some chunk.chunkMessageSize else none }
    c.build.config.maxSpdmMsgSize) .invalidStateLocal spdmErrorUnspecified
  assert (decide (chunk.chunkSeqNum < maxChunkSeqNum c))
  update fun c => { c with chunkContext := { c.chunkContext with
    chunkSeqNum := chunk.chunkSeqNum + 1 } }
  ret response

def emitChunk : Handler Bytes := do
  let c ← read
  (if c.chunkContext.chunkSeqNum = 0 then demandLargeResponseFits (responseRoom c) else ret ())
  writeChunk

def writeSpdmChunkGetResponse (bytes : Bytes) : Handler Bytes := do
  demandChunks
  demandChunkGet bytes
  emitChunk

def handleSpdmChunkGet (bytes : Bytes) : Handler Bytes := do
  let r ← attempt (writeSpdmChunkGetResponse bytes)
  match r with
  | .ok response => ret response
  | .error e => do
    update dropChunk
    fail e

/-! ## §4. Dispatch. -/

def answer (m : Handler Bytes) : Handler (Option Bytes) := do
  let response ← m
  ret (some response)

def unexpected (bytes : Bytes) : Handler (Option Bytes) :=
  answer (handleErrorRequest spdmErrorUnexpectedRequest bytes)

def unsupported (bytes : Bytes) : Handler (Option Bytes) :=
  answer (handleErrorRequest spdmErrorUnsupportedRequest bytes)

def unexpectedInHandshake : List UInt8 :=
  [spdmRequestGetVersion, spdmRequestGetCapabilities, spdmRequestNegotiateAlgorithms,
    spdmRequestGetDigests, spdmRequestGetCertificate, spdmRequestChallenge,
    spdmRequestGetMeasurements, spdmRequestKeyExchange, spdmRequestPskExchange,
    spdmRequestHeartbeat, spdmRequestKeyUpdate, spdmRequestEndSession]

def unexpectedInSession : List UInt8 :=
  [spdmRequestGetVersion, spdmRequestGetCapabilities, spdmRequestNegotiateAlgorithms,
    spdmRequestChallenge, spdmRequestKeyExchange, spdmRequestPskExchange, spdmRequestFinish,
    spdmRequestPskFinish]

def unexpectedOutside : List UInt8 :=
  [spdmRequestPskFinish, spdmRequestHeartbeat, spdmRequestKeyUpdate, spdmRequestEndSession]

def dispatchHandshaking (dispatch : Dispatch) (c : SpdmContext)
    (id : Nat) (code : UInt8) (bytes : Bytes) : Handler (Option Bytes) :=
  if code = spdmRequestGetEncapsulatedRequest ∧ c.build.mutAuth = true then
    answer (handleGetEncapsulatedRequest bytes)
  else if code = spdmRequestDeliverEncapsulatedResponse ∧ c.build.mutAuth = true then
    answer (handleDeliverEncapsulatedResponse bytes)
  else if code = spdmRequestFinish then handleSpdmFinish id bytes
  else if code = spdmRequestPskFinish then answer (handleSpdmPskFinish id bytes)
  else if code = spdmRequestVendorDefinedRequest then handleSpdmVendorDefinedRequest (some id) bytes
  else if code = spdmRequestChunkSend ∧ c.build.chunkCap = true then
    handleSpdmChunkSend dispatch (some id) bytes
  else if code = spdmRequestChunkGet ∧ c.build.chunkCap = true then
    answer (handleSpdmChunkGet bytes)
  else if code ∈ unexpectedInHandshake then unexpected bytes
  else unsupported bytes

def dispatchEstablished (dispatch : Dispatch) (c : SpdmContext)
    (id : Nat) (code : UInt8) (bytes : Bytes) : Handler (Option Bytes) :=
  if code = spdmRequestGetDigests then answer (handleSpdmDigest bytes (some id))
  else if code = spdmRequestGetCertificate then answer (handleSpdmCertificate bytes (some id))
  else if code = spdmRequestGetMeasurements then answer (handleSpdmMeasurement (some id) bytes)
  else if code = spdmRequestHeartbeat then answer (handleSpdmHeartbeat id bytes)
  else if code = spdmRequestKeyUpdate then answer (handleSpdmKeyUpdate id bytes)
  else if code = spdmRequestEndSession then answer (handleSpdmEndSession id bytes)
  else if code = spdmRequestVendorDefinedRequest then handleSpdmVendorDefinedRequest (some id) bytes
  else if code = spdmRequestChunkSend ∧ c.build.chunkCap = true then
    handleSpdmChunkSend dispatch (some id) bytes
  else if code = spdmRequestChunkGet ∧ c.build.chunkCap = true then
    answer (handleSpdmChunkGet bytes)
  else if code ∈ unexpectedInSession then unexpected bytes
  else unsupported bytes

def dispatchSecuredMessage (dispatch : Dispatch) (id : Nat)
    (bytes : Bytes) : Handler (Option Bytes) := do
  let c ← read
  match c.sessionViaId id with
  | none => fail (.unsupportedCap, none)
  | some s => do
    let header ← parse parseHeader bytes
    match s.sessionState, header with
    | .handshaking, some header =>
      if c.inClearText then fail (.unsupportedCap, none)
      else dispatchHandshaking dispatch c id header.requestResponseCode bytes
    | .established, some header =>
        dispatchEstablished dispatch c id header.requestResponseCode bytes
    | _, _ => fail (.unsupportedCap, none)

def clearFinishSession (c : SpdmContext) : Option Nat :=
  if c.inClearText then
    c.runtimeInfo.lastSessionId.filter fun id =>
      (c.sessionViaId id).any fun s => s.sessionState == .handshaking
  else none

def dispatchMessage (dispatch : Dispatch) (bytes : Bytes) :
    Handler (Option Bytes) := do
  let c ← read
  let header ← parse parseHeader bytes
  match header with
  | none => fail (.unsupportedCap, none)
  | some header =>
    let code := header.requestResponseCode
    if code = spdmRequestGetVersion then answer (handleSpdmVersion bytes)
    else if code = spdmRequestGetCapabilities then answer (handleSpdmCapability bytes)
    else if code = spdmRequestNegotiateAlgorithms then answer (handleSpdmAlgorithm bytes)
    else if code = spdmRequestGetDigests then answer (handleSpdmDigest bytes none)
    else if code = spdmRequestGetCertificate then answer (handleSpdmCertificate bytes none)
    else if code = spdmRequestChallenge then answer (handleSpdmChallenge bytes)
    else if code = spdmRequestGetMeasurements then answer (handleSpdmMeasurement none bytes)
    else if code = spdmRequestKeyExchange then answer (handleSpdmKeyExchange bytes)
    else if code = spdmRequestPskExchange then answer (handleSpdmPskExchange bytes)
    else if code = spdmRequestVendorDefinedRequest then handleSpdmVendorDefinedRequest none bytes
    else if code = spdmRequestChunkSend ∧ c.build.chunkCap = true then
      handleSpdmChunkSend dispatch none bytes
    else if code = spdmRequestChunkGet ∧ c.build.chunkCap = true then
      answer (handleSpdmChunkGet bytes)
    else if code = spdmRequestFinish then
      match clearFinishSession c with
      | some id => handleSpdmFinish id bytes
      | none => unexpected bytes
    else if code ∈ unexpectedOutside then unexpected bytes
    else unsupported bytes

def dispatchAt : Nat → Dispatch
  | 0, _, _ => abort
  | depth + 1, some id, bytes => dispatchSecuredMessage (dispatchAt depth) id bytes
  | depth + 1, none, bytes => dispatchMessage (dispatchAt depth) bytes

/-! ## §5. Sending. -/

def outgoing (sessionId : Option Nat) (message : Bytes) (isApp : Bool) :
    SpdmResult Bytes := do
  let c ← read
  if c.negotiateInfo.reqMaxSpdmMsgSizeSel ≠ 0 ∧
      c.negotiateInfo.reqMaxSpdmMsgSizeSel < message.length then
    ret (errorMessage c spdmErrorResponseTooLarge 0)
  else if isApp && sessionId.isNone then ret (errorMessage c spdmErrorSessionRequired 0)
  else if exceedsTransfer c message.length then
    if c.build.chunkCap && chunkNegotiated c then do
      keepLargeResponse message
      let c ← read
      ret (largeResponseMessage c)
    else ret (errorMessage c spdmErrorResponseTooLarge 0)
  else ret message

def chunkComplete (c : SpdmContext) : Bool :=
  c.build.chunkCap && c.chunkContext.chunkStatus != .idle &&
    c.chunkContext.transferredSize == c.chunkContext.chunkMessageSize

def sentCode (message : Bytes) : SpdmResult UInt8 := do
  let code ← orAbort message[1]?
  let c ← read
  if chunkComplete c then do
    update dropChunk
    ret (c.chunkContext.chunkMessageData[1]?.getD 0)
  else ret code

def setConnectionState (st : SpdmConnectionState) (c : SpdmContext) : SpdmContext :=
  { c with runtimeInfo := { c.runtimeInfo with connectionState := st } }

def raiseConnectionState (st : SpdmConnectionState) (c : SpdmContext) : SpdmContext :=
  if c.runtimeInfo.connectionState.before st then setConnectionState st c else c

def establish (id : Nat) : SpdmResult Unit := do
  withSession id .invalidStateLocal (update (SpdmSession.setSessionState .established))
  startWatchdog id

def establishLast : SpdmResult Unit := do
  let c ← read
  let id ← orFail .invalidStateLocal c.runtimeInfo.lastSessionId
  establish id
  update fun c => { c with runtimeInfo := { c.runtimeInfo with lastSessionId := none } }

def afterSend (sessionId : Option Nat) (code : UInt8) : SpdmResult Unit :=
  if code = spdmResponseVersion then update (setConnectionState .afterVersion)
  else if code = spdmResponseCapabilities then update (setConnectionState .afterCapabilities)
  else if code = spdmResponseAlgorithms then update (setConnectionState .negotiated)
  else if code = spdmResponseDigests then update (raiseConnectionState .afterDigest)
  else if code = spdmResponseCertificate then update (raiseConnectionState .afterCertificate)
  else if code = spdmResponseChallengeAuth then update (setConnectionState .authenticated)
  else if code = spdmResponseEndSessionAck then do
    let id ← orAbort sessionId
    withSession id .invalidStateLocal (update SpdmSession.teardown)
  else if code = spdmResponseFinishRsp then
    match sessionId with
    | none => establishLast
    | some id => establish id
  else if code = spdmResponsePskFinishRsp then
    match sessionId with
    | none => ret ()
    | some id => establish id
  else ret ()

def encodeOutgoing (sessionId : Option Nat) (message : Bytes) (isApp : Bool) :
    SpdmResult Bytes := do
  let c ← read
  match sessionId with
  | some id => encodeSecuredMessage id message c.build.config.senderBufferSize false isApp
  | none => encap message c.build.config.senderBufferSize

def sendMessage (sessionId : Option Nat) (message : Bytes) (isApp : Bool) :
    SpdmResult Unit := do
  let message ← outgoing sessionId message isApp
  let packet ← encodeOutgoing sessionId message isApp
  deviceSend packet
  let code ← sentCode message
  afterSend sessionId code

/-! ## §6. Processing. -/

def leaveChunkMode (code : UInt8) (c : SpdmContext) : SpdmContext :=
  match c.chunkContext.chunkStatus with
  | .chunkSendAndAck =>
    if code ≠ spdmRequestChunkSend then { dropChunk c with chunkReqHandle := 0 } else c
  | .chunkGetAndResponse =>
    if code ≠ spdmRequestChunkGet then
      { dropChunk c with chunkRspHandle := (c.chunkRspHandle + 1) % 256 }
    else c
  | .idle => c

abbrev Processed := Except SpdmStatus Unit

def sendResponse (sessionId : Option Nat) (isApp : Bool)
    (r : Except SpdmStatus Unit × Option Bytes) : Prog SpdmContext Nat Processed :=
  match r.2 with
  | none => ret r.1
  | some response => do
    let sent ← attempt (sendMessage sessionId response isApp)
    match sent with
    | .ok _ => ret r.1
    | .error e => ret (.error e)

def serveRequest (depth : Nat) (sessionId : Option Nat) (bytes : Bytes) :
    Prog SpdmContext Nat Processed := do
  let c ← read
  let header ← parse parseHeader bytes
  match c.build.chunkCap, header with
  | true, none => ret (.error .unsupportedCap)
  | true, some header => do
    update (leaveChunkMode header.requestResponseCode)
    serve
  | false, _ => serve
where
  serve : Prog SpdmContext Nat Processed := do
    let r ← attempt (dispatchAt depth sessionId bytes)
    sendResponse sessionId false (dispatched r)

def decodeRequest (id : Nat) (message : Bytes) : Prog SpdmContext Nat (Bytes × Bool) := do
  let c ← read
  let config := c.build.config
  let app ← mapErr (fun _ => message.length) (withSession id .invalidParameter
    (SpdmSession.decodeSpdmSecuredMessage config message config.receiverBufferSize true))
  mapErr (fun _ => message.length)
    (liftCall (c.transportEncap.decapApp app (spdmDataTransferSize config)))

def recordDelivery (id : Nat) (request : Bytes) (c : SpdmContext) : SpdmContext :=
  let state := ((c.sessionViaId id).map (·.sessionState)).getD .notStarted
  { c with world := { c.world with delivered := c.world.delivered ++ [⟨id, state, request⟩] } }

def serveAppMessage (id : Nat) (request : Bytes) : Prog SpdmContext Nat Processed := do
  update (recordDelivery id request)
  sendResponse (some id) true (dispatchSecuredAppMessage id request)

def serveSecured (depth : Nat) (message : Bytes) : Prog SpdmContext Nat Processed := do
  let id ← parse (uintLe 4) message
  let id ← orFail message.length id
  let (request, isApp) ← decodeRequest id message
  callWatchdog fun _ => .reset id
  if isApp then serveAppMessage id request
  else serveRequest depth (some id) request

def receiveMessage : Prog SpdmContext Nat (Bytes × Bool) := do
  let packet ← mapErr (fun _ => 0) deviceReceive
  let c ← read
  mapErr (fun _ => packet.length)
    (liftResult (c.transportEncap.decap packet c.build.config.receiverBufferSize))

def processMessage (depth : Nat) : Prog SpdmContext Nat Processed := do
  let (message, secured) ← receiveMessage
  if secured then serveSecured depth message else serveRequest depth none message

end Responder

end Spdm
