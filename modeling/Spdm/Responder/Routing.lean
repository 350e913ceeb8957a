/-
  Spdm.Responder.Routing — dispatch as a choice among handlers.
-/
import Spdm.Responder.Context

namespace Spdm

open Effect Codec

variable {id depth : Nat} {bytes : Bytes} {sessionId : Option Nat} {c : SpdmContext} {code : UInt8}

namespace Responder

open SpdmContext SpdmRequestResponseCode SpdmErrorCode

section
variable [Crypto] [Device]

/-! ## §1. Which handler serves a request. -/

inductive Service where
  | version | capability | algorithm | digest | certificate | challenge | measurement
  | keyExchange | pskExchange | vendorDefined | chunkSend | chunkGet
  | getEncapsulatedRequest | deliverEncapsulatedResponse
  | finish (id : Nat) | pskFinish (id : Nat) | heartbeat (id : Nat) | keyUpdate (id : Nat)
  | endSession (id : Nat)
  | error (errorCode : UInt8)
  deriving Repr, DecidableEq

def Service.handle (dispatch : Dispatch)
    (sessionId : Option Nat) (bytes : Bytes) : Service → Handler (Option Bytes)
  | version => answer (handleSpdmVersion bytes)
  | capability => answer (handleSpdmCapability bytes)
  | algorithm => answer (handleSpdmAlgorithm bytes)
  | digest => answer (handleSpdmDigest bytes sessionId)
  | certificate => answer (handleSpdmCertificate bytes sessionId)
  | challenge => answer (handleSpdmChallenge bytes)
  | measurement => answer (handleSpdmMeasurement sessionId bytes)
  | keyExchange => answer (handleSpdmKeyExchange bytes)
  | pskExchange => answer (handleSpdmPskExchange bytes)
  | vendorDefined => handleSpdmVendorDefinedRequest sessionId bytes
  | chunkSend => handleSpdmChunkSend dispatch sessionId bytes
  | chunkGet => answer (handleSpdmChunkGet bytes)
  | getEncapsulatedRequest => answer (handleGetEncapsulatedRequest bytes)
  | deliverEncapsulatedResponse => answer (handleDeliverEncapsulatedResponse bytes)
  | finish id => handleSpdmFinish id bytes
  | pskFinish id => answer (handleSpdmPskFinish id bytes)
  | heartbeat id => answer (handleSpdmHeartbeat id bytes)
  | keyUpdate id => answer (handleSpdmKeyUpdate id bytes)
  | endSession id => answer (handleSpdmEndSession id bytes)
  | error errorCode => answer (handleErrorRequest errorCode bytes)

def serviceInHandshake (c : SpdmContext) (id : Nat) (code : UInt8) : Service :=
  if code = spdmRequestGetEncapsulatedRequest ∧ c.build.mutAuth = true then .getEncapsulatedRequest
  else if code = spdmRequestDeliverEncapsulatedResponse ∧ c.build.mutAuth = true then
    .deliverEncapsulatedResponse
  else if code = spdmRequestFinish then .finish id
  else if code = spdmRequestPskFinish then .pskFinish id
  else if code = spdmRequestVendorDefinedRequest then .vendorDefined
  else if code = spdmRequestChunkSend ∧ c.build.chunkCap = true then .chunkSend
  else if code = spdmRequestChunkGet ∧ c.build.chunkCap = true then .chunkGet
  else if code ∈ unexpectedInHandshake then .error spdmErrorUnexpectedRequest
  else .error spdmErrorUnsupportedRequest

def serviceInSession (c : SpdmContext) (id : Nat) (code : UInt8) : Service :=
  if code = spdmRequestGetDigests then .digest
  else if code = spdmRequestGetCertificate then .certificate
  else if code = spdmRequestGetMeasurements then .measurement
  else if code = spdmRequestHeartbeat then .heartbeat id
  else if code = spdmRequestKeyUpdate then .keyUpdate id
  else if code = spdmRequestEndSession then .endSession id
  else if code = spdmRequestVendorDefinedRequest then .vendorDefined
  else if code = spdmRequestChunkSend ∧ c.build.chunkCap = true then .chunkSend
  else if code = spdmRequestChunkGet ∧ c.build.chunkCap = true then .chunkGet
  else if code ∈ unexpectedInSession then .error spdmErrorUnexpectedRequest
  else .error spdmErrorUnsupportedRequest

def serviceOutside (c : SpdmContext) (code : UInt8) : Service :=
  if code = spdmRequestGetVersion then .version
  else if code = spdmRequestGetCapabilities then .capability
  else if code = spdmRequestNegotiateAlgorithms then .algorithm
  else if code = spdmRequestGetDigests then .digest
  else if code = spdmRequestGetCertificate then .certificate
  else if code = spdmRequestChallenge then .challenge
  else if code = spdmRequestGetMeasurements then .measurement
  else if code = spdmRequestKeyExchange then .keyExchange
  else if code = spdmRequestPskExchange then .pskExchange
  else if code = spdmRequestVendorDefinedRequest then .vendorDefined
  else if code = spdmRequestChunkSend ∧ c.build.chunkCap = true then .chunkSend
  else if code = spdmRequestChunkGet ∧ c.build.chunkCap = true then .chunkGet
  else if code = spdmRequestFinish then
    match clearFinishSession c with
    | some id => .finish id
    | none => .error spdmErrorUnexpectedRequest
  else if code ∈ unexpectedOutside then .error spdmErrorUnexpectedRequest
  else .error spdmErrorUnsupportedRequest

def headerOf (bytes : Bytes) : Option SpdmMessageHeader :=
  match parseHeader bytes with
  | .ok header _ => some header
  | _ => none

def serviceOf (c : SpdmContext) (sessionId : Option Nat) (bytes : Bytes) : Option Service :=
  match sessionId, headerOf bytes with
  | _, none => none
  | none, some header => some (serviceOutside c header.requestResponseCode)
  | some id, some header =>
    match (c.sessionViaId id).map SpdmSession.sessionState with
    | some .handshaking =>
      if c.inClearText then none
      else some (serviceInHandshake c id header.requestResponseCode)
    | some .established => some (serviceInSession c id header.requestResponseCode)
    | _ => none

end

/-! ## §2. What a handler tells of its request. -/

def HasCode (bytes : Bytes) (code : UInt8) : Prop :=
  ∃ header rest, parseHeader bytes = .ok header rest ∧ header.requestResponseCode = code

theorem parseHeader_of_headerOf {header : SpdmMessageHeader}
    (h : headerOf bytes = some header) : ∃ rest, parseHeader bytes = .ok header rest := by
  unfold headerOf at h
  split at h
  case h_1 header' rest heq =>
    cases h
    exact ⟨rest, heq⟩
  case h_2 => cases h

theorem clearFinishSession_eq_some (h : clearFinishSession c = some id) :
    ∃ s, c.sessionViaId id = some s ∧ s.sessionState = .handshaking := by
  unfold clearFinishSession at h
  split_ifs at h
  obtain ⟨-, hany⟩ := Option.filter_eq_some_iff.1 h
  cases hs : c.sessionViaId id with
  | none => simp [hs] at hany
  | some s => exact ⟨s, rfl, by simpa [hs] using hany⟩

def InState (c : SpdmContext) (state : SpdmSessionState) (id : Nat) : Prop :=
  ∃ s, c.sessionViaId id = some s ∧ s.sessionState = state

def Service.Routed (c : SpdmContext) (sessionId : Option Nat) (bytes : Bytes) : Service → Prop
  | version => sessionId = none ∧ HasCode bytes spdmRequestGetVersion
  | capability => sessionId = none ∧ HasCode bytes spdmRequestGetCapabilities
  | algorithm => sessionId = none ∧ HasCode bytes spdmRequestNegotiateAlgorithms
  | challenge | keyExchange | pskExchange => sessionId = none
  | chunkSend => HasCode bytes spdmRequestChunkSend ∧ c.build.chunkCap = true
  | chunkGet => HasCode bytes spdmRequestChunkGet ∧ c.build.chunkCap = true
  | finish id => (∀ id', sessionId = some id' → id' = id) ∧ InState c .handshaking id
  | pskFinish id => sessionId = some id ∧ InState c .handshaking id
  | heartbeat id | keyUpdate id | endSession id => sessionId = some id ∧ InState c .established id
  | _ => True

theorem Service.routed_ite {p : Prop} [Decidable p] {s t : Service}
    (hs : p → s.Routed c sessionId bytes) (ht : t.Routed c sessionId bytes) :
    (if p then s else t).Routed c sessionId bytes := by
  split
  case isTrue hp => exact hs hp
  case isFalse => exact ht

open Service in
theorem routed_of_serviceOf {service : Service} (h : serviceOf c sessionId bytes = some service) :
    service.Routed c sessionId bytes := by
  unfold serviceOf at h
  split at h
  case h_1 => cases h
  case h_2 header hheader =>
    obtain ⟨rest, hparse⟩ := parseHeader_of_headerOf hheader
    have hcode : ∀ {code}, header.requestResponseCode = code → HasCode bytes code :=
      fun h => ⟨header, rest, hparse, h⟩
    cases h
    refine routed_ite (fun h => ⟨rfl, hcode h⟩) <| routed_ite (fun h => ⟨rfl, hcode h⟩) <|
      routed_ite (fun h => ⟨rfl, hcode h⟩) <| routed_ite (fun _ => trivial) <|
      routed_ite (fun _ => trivial) <| routed_ite (fun _ => rfl) <|
      routed_ite (fun _ => trivial) <| routed_ite (fun _ => rfl) <| routed_ite (fun _ => rfl) <|
      routed_ite (fun _ => trivial) <| routed_ite (fun h => ⟨hcode h.1, h.2⟩) <|
      routed_ite (fun h => ⟨hcode h.1, h.2⟩) <| routed_ite (fun _ => ?_) <|
      routed_ite (fun _ => trivial) trivial
    -- FINISH outside a session belongs to the last one, if it shakes hands.
    cases hclear : clearFinishSession c with
    | none => trivial
    | some id => exact ⟨(fun _ h => by cases h), clearFinishSession_eq_some hclear⟩
  case h_3 id header hheader =>
    obtain ⟨rest, hparse⟩ := parseHeader_of_headerOf hheader
    have hcode : ∀ {code}, header.requestResponseCode = code → HasCode bytes code :=
      fun h => ⟨header, rest, hparse, h⟩
    split at h
    case h_1 hstate =>
      have hin : InState c .handshaking id := Option.map_eq_some_iff.1 hstate
      split_ifs at h
      cases h
      exact routed_ite (fun _ => trivial) <| routed_ite (fun _ => trivial) <|
        routed_ite (fun _ => ⟨fun _ h => (Option.some.inj h).symm, hin⟩) <|
        routed_ite (fun _ => ⟨rfl, hin⟩) <| routed_ite (fun _ => trivial) <|
        routed_ite (fun h => ⟨hcode h.1, h.2⟩) <| routed_ite (fun h => ⟨hcode h.1, h.2⟩) <|
        routed_ite (fun _ => trivial) trivial
    case h_2 hstate =>
      have hin : InState c .established id := Option.map_eq_some_iff.1 hstate
      cases h
      exact routed_ite (fun _ => trivial) <| routed_ite (fun _ => trivial) <|
        routed_ite (fun _ => trivial) <| routed_ite (fun _ => ⟨rfl, hin⟩) <|
        routed_ite (fun _ => ⟨rfl, hin⟩) <| routed_ite (fun _ => ⟨rfl, hin⟩) <|
        routed_ite (fun _ => trivial) <| routed_ite (fun h => ⟨hcode h.1, h.2⟩) <|
        routed_ite (fun h => ⟨hcode h.1, h.2⟩) <| routed_ite (fun _ => trivial) trivial
    case h_3 => cases h

def Service.chunked : Service → Bool
  | chunkSend | chunkGet => true
  | _ => false

theorem chunked_of_serviceOf {service : Service} (hchunk : c.build.chunkCap = false)
    (h : serviceOf c sessionId bytes = some service) : service.chunked = false := by
  have hrouted := routed_of_serviceOf h
  cases service with
  | chunkSend | chunkGet => cases hchunk.symm.trans hrouted.2
  | _ => rfl

section
variable [Crypto] [Device]

/-! ## §3. Dispatch goes to one handler. -/

omit [Crypto] [Device] in
theorem parse_parseHeader {ε : Type} :
    (parse parseHeader bytes : Prog SpdmContext ε _) = ret (headerOf bytes) := by
  have hread : parseHeader bytes ≠ .panic := by
    intro h
    cases bytes with
    | nil => cases h
    | cons b rest =>
      have hu8 : u8 (b :: rest) = .ok b rest := rfl
      rw [parseHeader, bind_of_ok hu8] at h
      cases hversion : SpdmVersion.ofByte? b with
      | none =>
        rw [hversion] at h
        cases h
      | some v =>
        rw [hversion] at h
        cases rest <;> cases h
  unfold parse headerOf
  split
  · rename_i heq
    rw [heq]
  · rename_i heq
    rw [heq]
  · rename_i heq
    exact absurd heq hread

theorem handle_ite {dispatch : Dispatch} {p : Prop} [Decidable p] {m n : Handler (Option Bytes)}
    {s t : Service}
    (hm : m = s.handle dispatch sessionId bytes) (hn : n = t.handle dispatch sessionId bytes) :
    (if p then m else n) = (if p then s else t).handle dispatch sessionId bytes := by
  split
  · exact hm
  · exact hn

theorem dispatchHandshaking_eq {dispatch : Dispatch} {id : Nat} :
    dispatchHandshaking dispatch c id code bytes =
      (serviceInHandshake c id code).handle dispatch (some id) bytes :=
  handle_ite rfl <| handle_ite rfl <| handle_ite rfl <| handle_ite rfl <| handle_ite rfl <|
    handle_ite rfl <| handle_ite rfl <| handle_ite rfl rfl

theorem dispatchEstablished_eq {dispatch : Dispatch} {id : Nat} :
    dispatchEstablished dispatch c id code bytes =
      (serviceInSession c id code).handle dispatch (some id) bytes :=
  handle_ite rfl <| handle_ite rfl <| handle_ite rfl <| handle_ite rfl <| handle_ite rfl <|
    handle_ite rfl <| handle_ite rfl <| handle_ite rfl <| handle_ite rfl <| handle_ite rfl rfl

def dispatchOnce (dispatch : Dispatch) :
    Dispatch
  | some id, bytes => dispatchSecuredMessage dispatch id bytes
  | none, bytes => dispatchMessage dispatch bytes

theorem dispatchAt_eq_dispatchOnce (depth : Nat) :
    dispatchAt (depth + 1) = dispatchOnce (dispatchAt depth) := by
  funext sessionId bytes
  cases sessionId <;> rfl

theorem dispatchOnce_eq {dispatch : Dispatch} :
    dispatchOnce dispatch sessionId bytes c =
      match serviceOf c sessionId bytes with
      | some service => service.handle dispatch sessionId bytes c
      | none => .err (.unsupportedCap, none) c := by
  cases sessionId with
  | none =>
    rw [dispatchOnce]
    unfold dispatchMessage
    rw [read_bind, parse_parseHeader]
    unfold serviceOf
    cases headerOf bytes with
    | none => rfl
    | some header =>
      refine congrFun ?_ c
      refine handle_ite rfl <| handle_ite rfl <| handle_ite rfl <| handle_ite rfl <|
        handle_ite rfl <| handle_ite rfl <| handle_ite rfl <| handle_ite rfl <| handle_ite rfl <|
        handle_ite rfl <| handle_ite rfl <| handle_ite rfl <| handle_ite ?_ <| handle_ite rfl rfl
      cases clearFinishSession c with
      | none => rfl
      | some id => rfl
  | some id =>
    rw [dispatchOnce]
    unfold dispatchSecuredMessage serviceOf
    rw [read_bind]
    rw [parse_parseHeader]
    cases headerOf bytes with
    | none =>
      cases c.sessionViaId id with
      | none => rfl
      | some s => cases hstate : s.sessionState <;> (dsimp only; rw [hstate]; rfl)
    | some header =>
      dsimp only
      cases c.sessionViaId id with
      | none => rfl
      | some s =>
        dsimp only [Option.map]
        cases s.sessionState with
        | notStarted => rfl
        | handshaking =>
          split
          · rfl
          · exact congrFun dispatchHandshaking_eq c
        | established => exact congrFun dispatchEstablished_eq c

theorem dispatchAt_succ (depth : Nat) (sessionId : Option Nat) (bytes : Bytes) (c : SpdmContext) :
    dispatchAt (depth + 1) sessionId bytes c =
      match serviceOf c sessionId bytes with
      | some service => service.handle (dispatchAt depth) sessionId bytes c
      | none => .err (.unsupportedCap, none) c := by
  rw [dispatchAt_eq_dispatchOnce, dispatchOnce_eq]

theorem wp_dispatchAt {Q : Option Bytes → SpdmContext → Prop} {E : Refusal → SpdmContext → Prop}
    (hnone : serviceOf c sessionId bytes = none → E (.unsupportedCap, none) c)
    (h : ∀ service, serviceOf c sessionId bytes = some service →
      wp (service.handle (dispatchAt depth) sessionId bytes) Q E c) :
    wp (dispatchAt (depth + 1) sessionId bytes) Q E c := by
  unfold wp at h ⊢
  rw [dispatchAt_succ]
  cases hservice : serviceOf c sessionId bytes with
  | none => exact hnone hservice
  | some service => exact h service hservice

end

end Responder

end Spdm
