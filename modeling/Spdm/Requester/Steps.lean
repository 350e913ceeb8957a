/-
  Spdm.Requester.Steps — sending and receiving as channel steps.
-/
import Spdm.Requester.Context
import Spdm.Context.Steps

namespace Spdm

open Effect Codec

variable {id : Option Nat} {room : Nat}

class RequesterSlotRel [Crypto] (R : SpdmSession → SpdmSession → Prop) :
  Prop extends StepRel R where
  sealing : ∀ config app room, Within R (SpdmSession.encodeSpdmSecuredMessage config app room true)
  opening : ∀ config secured room,
    Within R (SpdmSession.decodeSpdmSecuredMessage config secured room false)
  stop : ∀ s, R s (s.setSessionState .notStarted)
  teardown : ∀ s, R s s.teardown

namespace Requester

open SpdmContext

variable [Crypto] {R : SpdmSession → SpdmSession → Prop} [RequesterSlotRel R]

theorem within_spdmHandleSimpleErrorResponse {code : UInt8} :
    Within (ChannelStep R) (spdmHandleSimpleErrorResponse id code) := by
  unfold spdmHandleSimpleErrorResponse
  split_ifs
  · exact .ret _
  · exact .ret _
  · refine .bind (.attempt ?_) fun r => ?_
    · cases id with
      | none => exact .ret _
      | some id => exact within_withSession _ (.update RequesterSlotRel.stop)
    · cases r with
      | ok _ => exact .ret _
      | error e => exact .ret _
  · exact .ret _

theorem within_spdmHandleErrorResponseMain (id : Option Nat) (response : Bytes) :
    Within (ChannelStep R) (spdmHandleErrorResponseMain id response) := by
  refine .bind .read fun _ => .bind within_parseRest fun _ => .bind (.orFail _ _) fun _ =>
    .bind (.guardElse _ _) fun _ => .bind (.guardElse _ _) fun _ => .bind (within_parse _) fun _ =>
    .bind (.orFail _ _) fun _ => ?_
  dsimp only
  split
  · refine .bind ?_ fun _ => .fail _
    cases id with
    | none => exact .ret _
    | some id => exact within_withSession _ (.update RequesterSlotRel.teardown)
  · exact .bind within_spdmHandleSimpleErrorResponse fun _ => .fail _

theorem within_sendSingleMessage (id : Option Nat) (m : Bytes) (isApp : Bool) :
    Within (ChannelStep R) (sendSingleMessage id m isApp) := by
  refine .bind .read fun _ => .bind (.guardElse _ _) fun _ => .bind (.guardElse _ _) fun _ =>
    .bind ?_ fun _ => within_deviceSend
  cases id with
  | none => exact within_encap
  | some id => exact within_encodeSecuredMessage RequesterSlotRel.sealing

theorem within_receiveSingleMessage (id : Option Nat) (room : Nat) (crypto : Bool) :
    Within (ChannelStep R) (receiveSingleMessage id room crypto) := by
  refine .bind .read fun _ => .bind within_timeoutFor fun _ =>
    .bind (.mapErr within_deviceReceive) fun _ => .bind (.assert _) fun _ => ?_
  cases id with
  | none => exact within_decap
  | some id => exact .mapErr (within_decodeSecuredMessage RequesterSlotRel.opening)

theorem within_acceptFirstChunk {p : ChunkPayload} :
    Within (ChannelStep R) (acceptFirstChunk p) := by
  refine .bind .read fun _ => .bind (.guardElse _ _) fun _ => .bind (.orFail _ _) fun _ =>
    .bind (.guardElse _ _) fun _ => .bind (.guardElse _ _) fun _ => .bind (.guardElse _ _) fun _ =>
    .update fun c => .of_session_eq rfl

theorem within_acceptNextChunk {p : ChunkPayload} :
    Within (ChannelStep R) (acceptNextChunk p) := by
  refine .bind .read fun _ => .bind (.guardElse _ _) fun _ => .bind (.guardElse _ _) fun _ =>
    .bind (.guardElse _ _) fun _ => .update fun c => .of_session_eq rfl

theorem within_handleSpdmChunkResponse {response : Bytes} :
    Within (ChannelStep R) (handleSpdmChunkResponse response id) := by
  refine .bind .read fun _ => .bind within_parseRest fun _ => .bind (.orFail _ _) fun _ =>
    .bind (.guardElse _ _) fun _ => ?_
  split_ifs
  · refine .bind within_readChunkResponse fun _ => .bind (.orFail _ _) fun _ =>
      .bind (.guardElse _ _) fun _ => .bind ?_ fun _ => .bind .read fun _ => ?_
    · split
      · exact within_acceptFirstChunk
      · exact within_acceptNextChunk
    · split
      · exact .guardElse _ _
      · exact .guardElse _ _
  · exact within_spdmHandleErrorResponseMain _ _
  · exact .fail _

theorem within_receiveLargeResponse (id : Option Nat) (crypto : Bool) (rounds : Nat) :
    Within (ChannelStep R) (receiveLargeResponse id crypto rounds) := by
  induction rounds with
  | zero => exact .fail _
  | succ rounds ih =>
    refine .bind .read fun _ => .bind (within_writeInto _) fun _ =>
      .bind (within_sendSingleMessage _ _ _) fun _ =>
      .bind (.mapErr (within_receiveSingleMessage _ _ _)) fun _ =>
      .bind (.mapErr within_handleSpdmChunkResponse) fun _ => .bind .read fun _ => ?_
    split
    · exact .ret _
    · exact ih

theorem within_fetchLargeResponse {v : SpdmVersion} {rest : Bytes}
    {crypto : Bool} : Within (ChannelStep R) (fetchLargeResponse id v rest room crypto) := by
  refine .bind .read fun _ => .bind (.guardElse _ _) fun _ => .bind (.guardElse _ _) fun _ =>
    .bind (within_parse _) fun _ => .bind (.orFail _ _) fun _ =>
    .bind (.update fun c => .of_session_eq rfl) fun _ =>
    .bind (.attempt (within_receiveLargeResponse _ _ _)) fun r => .bind .read fun _ =>
    .bind (.update fun c => .of_session_eq rfl) fun _ => ?_
  cases r with
  | error e => exact .fail _
  | ok _ => exact .bind (.assert _) fun _ => .ret _

theorem within_inspectReceived {buffer : Bytes}
    {result : Except SpdmStatus Bytes} {crypto : Bool} :
    Within (ChannelStep R) (inspectReceived id room buffer result crypto) := by
  refine .bind within_parseRest fun header => ?_
  cases header with
  | none => exact within_liftResult
  | some header =>
    dsimp only
    split
    · refine .bind within_parseRest fun payload => ?_
      cases payload with
      | none => exact .fail _
      | some payload =>
        dsimp only
        split
        · exact within_fetchLargeResponse
        · exact within_liftResult
    · exact within_liftResult

theorem within_takeChunkSendResponse :
    Within (ChannelStep R) (takeChunkSendResponse room) :=
  .bind .read fun _ => .bind (.assert _) fun _ =>
    .bind (.update fun _ => .of_session_eq rfl) fun _ =>
    .ret _

theorem within_receiveMessage (id : Option Nat) (room : Nat) (crypto : Bool) :
    Within (ChannelStep R) (receiveMessage id room crypto) := by
  refine .bind .read fun _ => ?_
  split_ifs
  · exact .bind within_takeChunkSendResponse fun _ => within_inspectReceived
  · refine .bind (.attempt (within_receiveSingleMessage _ _ _)) fun r => ?_
    cases r with
    | ok m => exact within_inspectReceived
    | error e => exact within_inspectReceived
  · exact .mapErr (within_receiveSingleMessage _ _ _)

theorem within_handleSpdmChunkSendAckResponse {response : Bytes} :
    Within (ChannelStep R) (handleSpdmChunkSendAckResponse response) := by
  refine .bind .read fun _ => .bind within_parseRest fun _ => .bind (.orFail _ _) fun _ =>
    .bind (.guardElse _ _) fun _ => ?_
  split_ifs
  · refine .bind within_readChunkSendAck fun _ => .bind (.orFail _ _) fun _ => ?_
    split
    · exact .bind .read fun _ => .bind within_parseRest fun _ => .bind (.orFail _ _) fun _ =>
        .bind (.guardElse _ _) fun _ => .bind (within_parse _) fun _ =>
        .bind (.orAbort _) fun _ => .bind (.guardElse _ _) fun _ => .ret _
    · exact .bind (.guardElse _ _) fun _ => .bind (.guardElse _ _) fun _ =>
        .bind (.assert _) fun _ => .bind (.update fun c => .of_session_eq rfl) fun _ => .ret _
  · exact .bind (within_parse _) fun _ => .bind (.orFail _ _) fun _ =>
      .bind (.guardElse _ _) fun _ => .bind (.guardElse _ _) fun _ => .bind (.assert _) fun _ =>
      .bind (.update fun c => .of_session_eq rfl) fun _ => .ret _
  · exact .fail _

theorem within_sendChunk {size : Nat} : Within (ChannelStep R) (sendChunk id size) :=
  .bind .read fun _ => .bind within_sizeSub fun _ => .bind within_sizeSub fun _ =>
    .bind (within_encodeChunk _ _ _) fun _ => within_sendSingleMessage _ _ _

theorem within_exchangeChunk {size : Nat} :
    Within (ChannelStep R) (exchangeChunk id size) :=
  .bind .read fun _ => .bind within_sendChunk fun _ => .mapErr (within_receiveSingleMessage _ _ _)

theorem within_sendChunks {size rounds : Nat} :
    Within (ChannelStep R) (sendChunks id size rounds) := by
  induction rounds with
  | zero => exact .fail _
  | succ rounds ih =>
    refine .bind .read fun _ => ?_
    split
    · exact .ret _
    · refine .bind within_exchangeChunk fun _ =>
        .bind (.mapErr within_handleSpdmChunkSendAckResponse) fun _ => ?_
      split
      · exact .ret _
      · exact ih

theorem within_sendLargeRequest {m : Bytes} :
    Within (ChannelStep R) (sendLargeRequest id m) :=
  .bind .read fun _ => .bind within_sizeSub fun _ => .bind within_sizeSub fun _ =>
    .bind (.guardElse _ _) fun _ => within_sendChunks

theorem within_sendMessage (id : Option Nat) (m : Bytes) (isApp : Bool) :
    Within (ChannelStep R) (sendMessage id m isApp) := by
  refine .bind .read fun _ => .bind (.guardElse _ _) fun _ => .bind (.guardElse _ _) fun _ => ?_
  split_ifs
  · exact within_sendSingleMessage _ _ _
  · refine .bind (.update fun c => .of_session_eq rfl) fun _ =>
      .bind (.attempt within_sendLargeRequest) fun r => ?_
    cases r with
    | ok _ => exact .ret _
    | error e => exact .bind (.update fun c => .of_session_eq rfl) fun _ => .fail _
  · exact .fail _
  · exact within_sendSingleMessage _ _ _

end Requester

end Spdm
