/-
  Spdm.Requester.Context — sending and receiving on the requester side (`requester/context.rs`,
  `requester/handle_error_response_req.rs`).
-/
import Spdm.Message.Chunk

namespace Spdm

open Effect Codec

namespace Requester

open SpdmContext SpdmRequestResponseCode

variable [Crypto]

/-! ## §1. ERROR responses. -/

def spdmHandleSimpleErrorResponse (sessionId : Option Nat) (errorCode : UInt8) :
    SpdmResult SpdmStatus :=
  if errorCode = SpdmErrorCode.spdmErrorResponseNotReady then ret .notReadyPeer
  else if errorCode = SpdmErrorCode.spdmErrorBusy then ret .busyPeer
  else if errorCode = SpdmErrorCode.spdmErrorRequestResynch then do
    let r ← attempt (match sessionId with
      | some id => withSession id SpdmStatus.invalidParameter
          (update (SpdmSession.setSessionState .notStarted))
      | none => ret ())
    match r with
    | .ok _ => ret .invalidStatePeer
    | .error e => ret e
  else ret .errorPeer

def spdmHandleErrorResponseMain (sessionId : Option Nat) (response : Bytes) :
    SpdmResult Unit := do
  let c ← read
  let header ← parseRest parseHeader response
  let (header, rest) ← orFail .invalidMsgField header
  guardElse (header.version == c.negotiateInfo.spdmVersionSel) .invalidMsgField
  guardElse (header.requestResponseCode == spdmResponseError) .invalidMsgField
  let payload ← parse parseGeneralPayload rest
  let (param1, _) ← orFail .invalidMsgField payload
  if param1 = SpdmErrorCode.spdmErrorDecryptError then do
    (match sessionId with
      | some id => withSession id .invalidParameter (update SpdmSession.teardown)
      | none => ret ())
    fail .sessionMsgError
  else do
    let status ← spdmHandleSimpleErrorResponse sessionId param1
    fail status

/-! ## §2. One packet. -/

def tooLargeForOnePacket (c : SpdmContext) (message : Bytes) : Bool :=
  (c.negotiateInfo.rspDataTransferSizeSel != 0 &&
      decide (c.negotiateInfo.rspDataTransferSizeSel < message.length)) ||
    decide (spdmSenderDataTransferSize c.build.config < message.length)

def sendSingleMessage (sessionId : Option Nat) (message : Bytes) (isAppMessage : Bool) :
    SpdmResult Unit := do
  let c ← read
  guardElse (!tooLargeForOnePacket c message) .sendFail
  guardElse (!(isAppMessage && sessionId.isNone)) .sendFail
  let room := c.build.config.senderBufferSize
  let packet ← (match sessionId with
    | some id => encodeSecuredMessage id message room true isAppMessage
    | none => encap message room)
  deviceSend packet

def ctExponent (c : SpdmContext) : Nat := c.negotiateInfo.rspCtExponentSel

def receiveSingleMessage (sessionId : Option Nat) (room : Nat) (cryptoRequest : Bool) :
    Prog SpdmContext (SpdmStatus × Bytes) Bytes := do
  let c ← read
  let _ ← timeoutFor ctExponent cryptoRequest
  let packet ← mapErr (fun e => (e, [])) deviceReceive
  let size := spdmDataTransferSize c.build.config
  assert (decide (size ≤ room))
  match sessionId with
  | some id => mapErr (fun e => (e, [])) (decodeSecuredMessage id packet size)
  | none => decap packet size

/-! ## §3. Fetching a large response. -/

def maxChunkSeqNum (c : SpdmContext) : Nat := if c.largeChunk then 2 ^ 32 - 1 else 2 ^ 16 - 1

def offsetOfResponseInChunkSendAck (c : SpdmContext) : Nat :=
  if c.largeChunk then offsetOfResponseInChunkSendAck14 else offsetOfResponseInChunkSendAck12

def acceptFirstChunk (p : ChunkPayload) : SpdmResult Unit := do
  let c ← read
  let config := c.build.config
  guardElse (decide (minDataTransferSize - offsetOfSpdmChunkInFirstChunkResponse ≤ p.chunkSize))
    .invalidMsgField
  let size ← orFail .invalidMsgField p.largeMessageSize
  guardElse (decide (size ≤ config.maxSpdmMsgSize)) .invalidMsgField
  guardElse (decide (minDataTransferSize - offsetOfResponseInChunkSendAck c ≤ size))
    .invalidMsgField
  let transfer := spdmDataTransferSize config
  guardElse (decide (size ≤ (transfer - offsetOfSpdmChunkInChunkResponse) * (2 ^ 16 - 2) +
    transfer -
    offsetOfResponseInChunkSendAck c)) .invalidMsgField
  update fun c => { c with chunkContext := { c.chunkContext with
    chunkMessageSize := size, chunkSeqNum := c.chunkContext.chunkSeqNum + 1 } }

def acceptNextChunk (p : ChunkPayload) : SpdmResult Unit := do
  let c ← read
  guardElse (p.chunkSeqNum == c.chunkContext.chunkSeqNum) .invalidMsgField
  guardElse (decide (minDataTransferSize - offsetOfSpdmChunkInChunkResponse ≤ p.chunkSize) ||
    contains p.attributes lastChunk) .invalidMsgField
  guardElse (decide (c.chunkContext.chunkSeqNum < maxChunkSeqNum c)) .invalidMsgField
  update fun c => { c with chunkContext := { c.chunkContext with
    chunkSeqNum := c.chunkContext.chunkSeqNum + 1 } }

def handleSpdmChunkResponse (response : Bytes) (sessionId : Option Nat) :
    SpdmResult Unit := do
  let c ← read
  let header ← parseRest parseHeader response
  let (header, rest) ← orFail .invalidMsgField header
  guardElse (header.version == c.negotiateInfo.spdmVersionSel) .invalidMsgField
  if header.requestResponseCode = spdmResponseChunkResponse then do
    let payload ← readChunkResponse rest
    let p ← orFail .invalidMsgField payload
    guardElse (p.handle == c.chunkRspHandle) .invalidMsgField
    (if p.chunkSeqNum = 0 ∧ c.chunkContext.chunkSeqNum = 0 then acceptFirstChunk p
      else acceptNextChunk p)
    let c ← read
    if contains p.attributes lastChunk then
      guardElse (c.chunkContext.transferredSize == c.chunkContext.chunkMessageSize) .invalidMsgField
    else
      guardElse (decide (c.chunkContext.transferredSize < c.chunkContext.chunkMessageSize))
        .errorPeer
  else if header.requestResponseCode = spdmResponseError then
    spdmHandleErrorResponseMain sessionId response
  else fail .errorPeer

def receiveLargeResponse (sessionId : Option Nat) (cryptoRequest : Bool) :
    Nat → SpdmResult Unit
  | 0 => fail .receiveFail
  | rounds + 1 => do
    let c ← read
    let request ← writeInto c.build.config.senderBufferSize
      (encodeChunkGet c.negotiateInfo.spdmVersionSel c.largeChunk
        ⟨c.chunkRspHandle, c.chunkContext.chunkSeqNum⟩)
    sendSingleMessage none request false
    let response ← mapErr Prod.fst
      (receiveSingleMessage none (spdmDataTransferSize c.build.config) cryptoRequest)
    mapErr (fun _ => .receiveFail) (handleSpdmChunkResponse response sessionId)
    let c ← read
    if c.chunkContext.chunkMessageSize ≤ c.chunkContext.transferredSize then ret ()
    else receiveLargeResponse sessionId cryptoRequest rounds

def chunkCapNegotiated (c : SpdmContext) : Bool :=
  contains c.negotiateInfo.rspCapabilitiesSel SpdmResponseCapabilityFlags.chunkCap &&
    contains c.negotiateInfo.reqCapabilitiesSel SpdmRequestCapabilityFlags.chunkCap

def fetchLargeResponse (sessionId : Option Nat) (version : SpdmVersion) (rest : Bytes)
    (room : Nat) (cryptoRequest : Bool) : SpdmResult Bytes := do
  let c ← read
  guardElse (chunkCapNegotiated c) .errorPeer
  guardElse (version == c.negotiateInfo.spdmVersionSel && version.atLeast .spdmVersion12)
    .invalidMsgField
  let handle ← parse u8 rest
  let handle ← orFail .invalidMsgSize handle
  update fun c => { c with
    chunkRspHandle := handle.toNat
    chunkContext := { idleChunk with chunkStatus := .chunkGetAndResponse } }
  let r ← attempt (receiveLargeResponse sessionId cryptoRequest (c.world.inbox.length + 1))
  let c ← read
  let message := bufTake c.chunkContext.transferredSize c.chunkContext.chunkMessageData
  update fun c => { c with chunkRspHandle := 0, chunkContext := idleChunk }
  match r with
  | .error e => fail e
  | .ok _ => do
    assert (decide (message.length ≤ room))
    ret message

def inspectReceived (sessionId : Option Nat) (room : Nat) (buffer : Bytes)
    (result : Except SpdmStatus Bytes) (cryptoRequest : Bool) :
    SpdmResult Bytes := do
  let header ← parseRest parseHeader (bufTake room buffer)
  match header with
  | some (header, rest) =>
    if header.requestResponseCode = spdmResponseError then do
      let payload ← parseRest parseGeneralPayload rest
      match payload with
      | some ((param1, _), rest) =>
        if param1 = SpdmErrorCode.spdmErrorLargeResponse then
          fetchLargeResponse sessionId header.version rest room cryptoRequest
        else liftResult result
      | none => fail .invalidMsgSize
    else liftResult result
  | none => liftResult result

def takeChunkSendResponse (room : Nat) : SpdmResult Bytes := do
  let c ← read
  let response := bufTake c.chunkContext.transferredSize c.chunkContext.chunkMessageData
  assert (decide (response.length ≤ room))
  update (setChunk idleChunk)
  ret response

def receiveMessage (sessionId : Option Nat) (room : Nat) (cryptoRequest : Bool) :
    SpdmResult Bytes := do
  let c ← read
  if c.build.chunkCap then
    if c.chunkContext.chunkStatus = .chunkSendAndAck then do
      let response ← takeChunkSendResponse room
      inspectReceived sessionId room response (.ok response) cryptoRequest
    else do
      let r ← attempt (receiveSingleMessage sessionId room cryptoRequest)
      match r with
      | .ok message => inspectReceived sessionId room message (.ok message) cryptoRequest
      | .error (e, buffer) => inspectReceived sessionId room buffer (.error e) cryptoRequest
  else mapErr Prod.fst (receiveSingleMessage sessionId room cryptoRequest)

/-! ## §4. Sending. -/

def handleSpdmChunkSendAckResponse (response : Bytes) : SpdmResult Bool := do
  let c ← read
  let version := c.negotiateInfo.spdmVersionSel
  let header ← parseRest parseHeader response
  let (header, rest) ← orFail .errorPeer header
  guardElse (header.version == version) .invalidMsgField
  if header.requestResponseCode = spdmResponseChunkSendAck then do
    let payload ← readChunkSendAck rest
    let p ← orFail .invalidMsgField payload
    if contains p.chunkReceiverAttributes earlyErrorDetected then do
      let c ← read
      let early ← parseRest parseHeader
        (bufTake p.responseToLargeRequestSize c.chunkContext.chunkMessageData)
      let (early, rest) ← orFail .invalidMsgSize early
      guardElse (early.requestResponseCode == spdmResponseError && early.version == version)
        .invalidMsgField
      let general ← parse parseGeneralPayload rest
      let (param1, _) ← orAbort general
      guardElse (param1 != SpdmErrorCode.spdmErrorLargeResponse) .invalidMsgField
      ret true
    else do
      guardElse (p.handle == c.chunkReqHandle) .invalidMsgField
      guardElse (p.chunkSeqNum == c.chunkContext.chunkSeqNum) .invalidMsgField
      assert (decide (c.chunkContext.chunkSeqNum < maxChunkSeqNum c))
      update fun c => { c with chunkContext := { c.chunkContext with
        chunkSeqNum := c.chunkContext.chunkSeqNum + 1 } }
      ret false
  else if header.requestResponseCode = spdmResponseError then do
    let payload ← parse parseGeneralPayload rest
    let (param1, _) ← orFail .invalidMsgField payload
    guardElse (param1 == SpdmErrorCode.spdmErrorLargeResponse) .invalidMsgField
    guardElse (decide (response.length ≤ c.build.config.receiverBufferSize)) .invalidMsgField
    assert (decide (response.length ≤ c.build.config.maxSpdmMsgSize))
    update fun c => { c with chunkContext := { c.chunkContext with
      chunkMessageData := bufWrite 0 response c.chunkContext.chunkMessageData
      chunkMessageSize := response.length
      transferredSize := response.length } }
    ret false
  else fail .errorPeer

def sendChunk (sessionId : Option Nat) (dataTransferSize : Nat) :
    SpdmResult Unit := do
  let c ← read
  let chunk := c.chunkContext
  let first := chunk.chunkSeqNum == 0
  let maxChunkSize ← sizeSub dataTransferSize
    (if first then offsetOfSpdmChunkInFirstChunkSend else offsetOfSpdmChunkInChunkSend)
  let remaining ← sizeSub chunk.chunkMessageSize chunk.transferredSize
  let last := decide (remaining ≤ maxChunkSize)
  let request ← encodeChunk spdmRequestChunkSend
    { attributes := if last then lastChunk else 0
      handle := c.chunkReqHandle
      chunkSeqNum := chunk.chunkSeqNum
      chunkSize := if last then remaining else maxChunkSize
      largeMessageSize := if first then some chunk.chunkMessageSize else none }
    c.build.config.senderBufferSize
  sendSingleMessage sessionId request false

def exchangeChunk (sessionId : Option Nat) (dataTransferSize : Nat) :
    SpdmResult Bytes := do
  let c ← read
  sendChunk sessionId dataTransferSize
  mapErr Prod.fst (receiveSingleMessage sessionId (spdmDataTransferSize c.build.config) false)

def sendChunks (sessionId : Option Nat) (dataTransferSize : Nat) :
    Nat → SpdmResult Unit
  | 0 => fail .receiveFail
  | rounds + 1 => do
    let c ← read
    if c.chunkContext.chunkMessageSize ≤ c.chunkContext.transferredSize then ret ()
    else do
      let response ← exchangeChunk sessionId dataTransferSize
      let early ← mapErr (fun _ => .sendFail) (handleSpdmChunkSendAckResponse response)
      if early then ret () else sendChunks sessionId dataTransferSize rounds

def sendLargeRequest (sessionId : Option Nat) (message : Bytes) :
    SpdmResult Unit := do
  let c ← read
  let dataTransferSize := min (spdmSenderDataTransferSize c.build.config)
    c.negotiateInfo.rspDataTransferSizeSel
  let later ← sizeSub dataTransferSize offsetOfSpdmChunkInChunkSend
  let most ← sizeSub ((later * (2 ^ 16 - 2) + dataTransferSize) % 2 ^ 64)
    offsetOfSpdmChunkInFirstChunkSend
  guardElse (decide (message.length ≤ most)) .sendFail
  sendChunks sessionId dataTransferSize (c.world.inbox.length + 2)

def sendMessage (sessionId : Option Nat) (message : Bytes) (isAppMessage : Bool) :
    SpdmResult Unit := do
  let c ← read
  guardElse (!(c.negotiateInfo.rspMaxSpdmMsgSizeSel != 0 &&
    decide (c.negotiateInfo.rspMaxSpdmMsgSizeSel < message.length))) .sendFail
  guardElse (decide (message.length ≤ c.build.config.maxSpdmMsgSize)) .sendFail
  if isAppMessage then sendSingleMessage sessionId message isAppMessage
  else if tooLargeForOnePacket c message then
    if chunkCapNegotiated c && c.negotiateInfo.spdmVersionSel.atLeast .spdmVersion12 &&
        c.build.chunkCap then do
      update fun c => { c with
        chunkReqHandle := (c.chunkReqHandle + 1) % 256
        chunkContext := { c.chunkContext with
          chunkSeqNum := 0
          chunkMessageSize := message.length
          chunkMessageData := bufWrite 0 message c.chunkContext.chunkMessageData
          transferredSize := 0
          chunkStatus := .chunkSendAndAck } }
      let r ← attempt (sendLargeRequest sessionId message)
      match r with
      | .ok _ => ret ()
      | .error e => do
        update (setChunk idleChunk)
        fail e
    else fail .sendFail
  else sendSingleMessage sessionId message isAppMessage

end Requester

end Spdm
