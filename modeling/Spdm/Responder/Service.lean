/-
  Spdm.Responder.Service — what each handler answers with.
-/
import Spdm.Responder.Codes
import Spdm.Responder.Steady

namespace Spdm

open Effect Codec

variable {bytes : Bytes} {sessionId : Option Nat} {c : SpdmContext} {code : UInt8}

namespace Responder

open SpdmContext SpdmRequestResponseCode SpdmErrorCode

section
variable [Crypto] [Device]

def Service.responseCode : Service → UInt8
  | version => spdmResponseVersion
  | capability => spdmResponseCapabilities
  | algorithm => spdmResponseAlgorithms
  | digest => spdmResponseDigests
  | certificate => spdmResponseCertificate
  | challenge => spdmResponseChallengeAuth
  | measurement => spdmResponseMeasurements
  | keyExchange => spdmResponseKeyExchangeRsp
  | pskExchange => spdmResponsePskExchangeRsp
  | vendorDefined => spdmResponseVendorDefinedResponse
  | chunkSend => spdmResponseChunkSendAck
  | chunkGet => spdmResponseChunkResponse
  | getEncapsulatedRequest => spdmResponseEncapsulatedRequest
  | deliverEncapsulatedResponse => spdmResponseEncapsulatedResponseAck
  | finish _ => spdmResponseFinishRsp
  | pskFinish _ => spdmResponsePskFinishRsp
  | heartbeat _ => spdmResponseHeartbeatAck
  | keyUpdate _ => spdmResponseKeyUpdateAck
  | endSession _ => spdmResponseEndSessionAck
  | error _ => spdmResponseError

def Service.plain : Service → Bool
  | digest | keyExchange | vendorDefined | chunkSend | chunkGet => false
  | _ => true

theorem replies_handle {dispatch : Dispatch} {service : Service} (h : service.plain = true) :
    EndsIn (fun r => ∀ m, r = some m → Says service.responseCode m) Proper
      (service.handle dispatch sessionId bytes) := by
  have hanswer : ∀ {code : UInt8} {m : Handler Bytes}, Replies code m →
      EndsIn (fun r => ∀ m, r = some m → Says code m) Proper (answer m) := fun hm =>
    .bind hm fun _ hr => .ret fun _ hsome => Option.some.inj hsome ▸ hr
  cases service with
  | digest | keyExchange | vendorDefined | chunkSend | chunkGet => cases h
  | version => exact hanswer (replies_handleSpdmVersion bytes)
  | capability => exact hanswer (replies_handleSpdmCapability bytes)
  | algorithm => exact hanswer (replies_handleSpdmAlgorithm bytes)
  | certificate => exact hanswer (replies_handleSpdmCertificate bytes sessionId)
  | challenge => exact hanswer (replies_handleSpdmChallenge bytes)
  | measurement => exact hanswer (replies_handleSpdmMeasurement sessionId bytes)
  | pskExchange => exact hanswer (replies_handleSpdmPskExchange bytes)
  | getEncapsulatedRequest => exact hanswer (replies_handleGetEncapsulatedRequest bytes)
  | deliverEncapsulatedResponse => exact hanswer (replies_handleDeliverEncapsulatedResponse bytes)
  | finish id => exact replies_handleSpdmFinish id bytes
  | pskFinish id => exact hanswer (replies_handleSpdmPskFinish id bytes)
  | heartbeat id => exact hanswer (replies_handleSpdmHeartbeat id bytes)
  | keyUpdate id => exact hanswer (replies_handleSpdmKeyUpdate id bytes)
  | endSession id => exact hanswer (replies_handleSpdmEndSession id bytes)
  | error errorCode => exact hanswer (replies_handleErrorRequest errorCode bytes)

theorem ends_handle (hvendor : VendorAnswers) {dispatch : Dispatch}
    {service : Service} (h : service.chunked = false) :
    Ends (fun r => ∀ m, r = some m → Says service.responseCode m) (RefusesAs service.responseCode)
      (service.handle dispatch sessionId bytes) := by
  have hanswer : ∀ {code : UInt8} {m : Handler Bytes}, Answers code m →
      Ends (fun r => ∀ m, r = some m → Says code m) (RefusesAs code) (answer m) := fun hm =>
    .bind hm fun _ hr => .ret fun _ hsome => Option.some.inj hsome ▸ hr
  cases service with
  | chunkSend | chunkGet => cases h
  | digest => exact hanswer (ends_handleSpdmDigest bytes sessionId)
  | keyExchange => exact hanswer (ends_handleSpdmKeyExchange bytes)
  | vendorDefined => exact ends_handleSpdmVendorDefinedRequest hvendor sessionId bytes
  | _ => exact (replies_handle rfl).ends fun _ _ he => he.refusesAs _

theorem dispatchAt_spoken (hvendor : VendorAnswers)
    (hchunk : c.build.chunkCap = false) (depth : Nat) (sessionId : Option Nat) (bytes : Bytes) :
    let Said r := ∀ m, r = some m →
      ∃ s, serviceOf c sessionId bytes = some s ∧ Says s.responseCode m
    wp (dispatchAt depth sessionId bytes) (fun r _ => Said r) (fun e _ => Said e.2) c := by
  intro Said
  cases depth with
  | zero => trivial
  | succ depth =>
    unfold wp
    rw [dispatchAt_succ]
    cases hservice : serviceOf c sessionId bytes with
    | none => exact fun _ h => by cases h
    | some service =>
      exact wp_mono (ends_handle hvendor (chunked_of_serviceOf hchunk hservice) c)
        (fun _ _ h m hm => ⟨service, hservice, h m hm⟩) fun _ _ h m hm =>
          ⟨service, hservice, h m hm⟩

end

end Responder

end Spdm
