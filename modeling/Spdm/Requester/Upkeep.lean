/-
  Spdm.Requester.Upkeep — the requester's answer to an encapsulated GET_DIGESTS
  (`requester/encap_digest.rs`).
-/
import Spdm.Message.Session
import Spdm.Requester.Attestation

namespace Spdm

open Effect Codec

namespace Requester

open SpdmContext SpdmRequestResponseCode SpdmErrorCode

variable [Crypto] [Device]

def encapError (c : SpdmContext) (errorCode : UInt8) : Bytes :=
  encodeHeader c.negotiateInfo.spdmVersionSel spdmResponseError ++ [errorCode, 0]

def fillEncapDigests (hashSel : Flags) : List Bytes → Bytes → SpdmResult Bytes
  | [], message => ret message
  | chain :: chains, message => do
    let digest ← orAbort (hashAll hashSel chain)
    assert (decide (digest.length ≤ message.length))
    fillEncapDigests hashSel chains (message.take (message.length - digest.length) ++ digest)

def encapHandleGetDigest (header request : Bytes) : SpdmResult Bytes := do
  let c ← read
  let room := c.build.config.maxSpdmMsgSize
  if !contains c.negotiateInfo.reqCapabilitiesSel SpdmRequestCapabilityFlags.certCap then
    ret (header ++ encapError c spdmErrorUnsupportedRequest)
  else do
    let parsed ← parseRest parseHeader request
    match parsed with
    | none => ret (header ++ encapError c spdmErrorInvalidRequest)
    | some (h, rest) =>
      if h.version ≠ c.negotiateInfo.spdmVersionSel then
        ret (header ++ encapError c spdmErrorVersionMismatch)
      else do
        let payload ← parse parseGetDigests rest
        match payload with
        | none => ret (header ++ encapError c spdmErrorInvalidRequest)
        | some _ => do
          let digestSize ← orAbort c.hashSize?
          let p ← digestsPayload c digestSize
          let message := header ++ encodeDigestsResponse c p
          -- a response that does not fit leaves a full buffer
          if message.length ≤ room then
            fillEncapDigests c.negotiateInfo.baseHashSel (provisionedChains c) message
          else ret (message.take room)

end Requester

end Spdm
