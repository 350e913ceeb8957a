/-
  Spdm.Requester.KeyUpdate — KEY_UPDATE on the requester side (`requester/key_update_req.rs`).
-/
import Spdm.Message.Session
import Spdm.Requester.Context

namespace Spdm

open Effect Codec

open SpdmKeyUpdateOperation

namespace Requester

open SpdmContext SpdmRequestResponseCode

variable [Crypto]

def handleSpdmKeyUpdateOpResponse (sessionId : Nat) (updateRequester updateResponder : Bool)
    (response : Bytes) : SpdmResult Unit := do
  let c ← read
  let header ← parseRest parseHeader response
  let (header, rest) ← orFail .invalidMsgField header
  guardElse (header.version == c.negotiateInfo.spdmVersionSel) .invalidMsgField
  if header.requestResponseCode = spdmResponseKeyUpdateAck then do
    let ack ← parse parseKeyUpdate rest
    withSession sessionId .invalidParameter
      (update (SpdmSession.activateDataSecretUpdate updateRequester updateResponder ack.isSome))
    guardElse ack.isSome .invalidMsgField
  else if header.requestResponseCode = spdmResponseError then do
    withSession sessionId .invalidParameter
      (update (SpdmSession.activateDataSecretUpdate updateRequester updateResponder false))
    spdmHandleErrorResponseMain (some sessionId) response
  else fail .errorPeer

def receiveSpdmKeyUpdate (sessionId : Nat) (op : UInt8) : SpdmResult Unit := do
  let c ← read
  withSession sessionId .invalidParameter
    (SpdmSession.createDataSecretUpdate c.negotiateInfo.spdmVersionSel (updatesRequester op)
      (updatesResponder op))
  let response ← receiveMessage (some sessionId) c.build.config.maxSpdmMsgSize false
  handleSpdmKeyUpdateOpResponse sessionId (updatesRequester op) (updatesResponder op) response

end Requester

end Spdm
