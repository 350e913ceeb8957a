/-
  Spdm.Responder.Refusals — what goes out with an error status.
-/
import Spdm.Context.Small
import Spdm.Responder.Service

namespace Spdm

open Effect Codec

namespace Responder

open SpdmContext SpdmRequestResponseCode SpdmErrorCode

/-! ## §1. One run of a handler. -/

abbrev ProperAt {α : Type} (m : Handler α) (c : SpdmContext) : Prop :=
  wp m (fun _ _ => True) Proper c

theorem properAt_bind {α β : Type} {Q : α → Prop} {m : Handler α} {f : α → Handler β}
    {P : α → SpdmContext → Prop} (hm : EndsIn Q Proper m)
    (hf : ∀ a, Q a → ∀ c, ProperAt (f a) c ↔ P a c) (c : SpdmContext) :
    ProperAt (m >>= f) c ↔ wp m P (fun _ _ => True) c := by
  have htidy := hm c
  rw [ProperAt, wp_bind]
  unfold wp at htidy ⊢
  cases h : m c with
  | ok a c' =>
    rw [h] at htidy
    exact hf a htidy c'
  | err e c' =>
    rw [h] at htidy
    exact iff_of_true htidy trivial
  | panic => exact Iff.rfl

theorem properAt_bind_tidy {α β : Type} {m : Handler α} {f : α → Handler β}
    (hf : ∀ a, Tidy (f a)) (c : SpdmContext) : ProperAt (m >>= f) c ↔ ProperAt m c := by
  rw [ProperAt, wp_bind]
  unfold ProperAt wp
  cases m c with
  | ok a c' => exact iff_of_true (hf a c') trivial
  | err e c' => exact Iff.rfl
  | panic => exact Iff.rfl

section
variable [Crypto] [Device]

/-! ## §2. GET_DIGESTS. -/

omit [Device] in
def stopsAtHash (hashSel : Flags) : List Bytes → Nat → Nat → Bool
  | [], _, _ => false
  | chain :: chains, offset, length =>
    match hashAll hashSel chain with
    | none => true
    | some digest => decide (offset + digest.length ≤ length) &&
        stopsAtHash hashSel chains (offset + digest.length) length

omit [Device] in
theorem properAt_fillDigests {hashSel : Flags} {chains : List Bytes} {offset : Nat}
    {message : Bytes}
    (hoffset : 2 ≤ offset) (hcode : codeOf message = some spdmResponseDigests) (c : SpdmContext) :
    ProperAt (fillDigests hashSel chains offset message) c ↔
      stopsAtHash hashSel chains offset message.length = false := by
  induction chains generalizing offset message with
  | nil => exact iff_of_true trivial rfl
  | cons chain chains ih =>
    unfold fillDigests stopsAtHash
    cases hashAll hashSel chain with
    | none =>
      refine iff_of_false (fun h => ?_) (by simp)
      have hspoken := (h message rfl).code
      rw [hcode] at hspoken
      exact absurd hspoken (by decide)
    | some digest =>
      by_cases hfits : offset + digest.length ≤ message.length
      · have hlength : (message.take offset ++ digest ++
            message.drop (offset + digest.length)).length = message.length := by
          simp only [List.length_append, List.length_take, List.length_drop]
          omega
        have hkept : codeOf (message.take offset ++ digest ++
            message.drop (offset + digest.length)) = some spdmResponseDigests := by
          refine codeOf_append (codeOf_append ?_ _) _
          unfold codeOf at *
          rw [List.getElem?_take_of_lt (by omega), hcode]
        have hrest := ih (by omega : 2 ≤ offset + digest.length) hkept
        rw [hlength] at hrest
        simpa [hfits] using hrest
      · simp [hfits, ProperAt, wp_bind]

def ChainsHash (bytes : Bytes) (sessionId : Option Nat) (c : SpdmContext) : Prop :=
  wp (digestsResponse bytes sessionId) (fun r _ =>
    stopsAtHash r.1.negotiateInfo.baseHashSel (provisionedChains r.1) 4 r.2.length = false)
    (fun _ _ => True) c

omit [Device] in
theorem properAt_handleSpdmDigest (bytes : Bytes) (sessionId : Option Nat) (c : SpdmContext) :
    ProperAt (handleSpdmDigest bytes sessionId) c ↔ ChainsHash bytes sessionId c := by
  refine properAt_bind (ends_digestsResponse bytes sessionId) (fun r hcode c' => ?_) c
  rw [properAt_bind_tidy (fun _ => .seq tidy_appendB fun _ => .ret trivial) c']
  exact properAt_fillDigests (by decide) hcode c'

/-! ## §3. KEY_EXCHANGE. -/

def NoEvents (bytes : Bytes) (c : SpdmContext) : Prop :=
  wp (readKeyExchange bytes) (fun r c' =>
    (r.payload.sessionPolicy &&& eventAllPolicyMask == eventAllPolicyMask &&
      contains c'.negotiateInfo.rspCapabilitiesSel SpdmResponseCapabilityFlags.eventCap) = false)
    (fun _ _ => True) c

omit [Crypto] [Device] in
theorem properAt_demandNoEvents {policy : UInt8} {c : SpdmContext} :
    ProperAt (demandNoEvents policy) c ↔ (policy &&& eventAllPolicyMask == eventAllPolicyMask &&
      contains c.negotiateInfo.rspCapabilitiesSel SpdmResponseCapabilityFlags.eventCap) =
        false := by
  unfold demandNoEvents
  rw [ProperAt, wp_bind, wp_read]
  split
  · rename_i hrefused
    refine iff_of_false (fun h => ?_) (by rw [hrefused]; simp)
    exact absurd (h [] rfl).length (by decide)
  · rename_i hserved
    exact iff_of_true trivial (Bool.not_eq_true _ ▸ hserved)

theorem properAt_handleSpdmKeyExchange (bytes : Bytes) (c : SpdmContext) :
    ProperAt (handleSpdmKeyExchange bytes) c ↔ NoEvents bytes c := by
  unfold handleSpdmKeyExchange
  rw [properAt_bind_tidy (fun p => fun c' => wp_mono (replies_runKeyExchange p c')
    (fun _ _ _ => trivial) fun _ _ h => h) c]
  refine properAt_bind tidy_readKeyExchange (fun r _ c' => ?_) c
  -- the policy bit of the context is set before the events are looked at
  rw [ProperAt, wp_bind]
  refine (properAt_bind_tidy (fun _ => ?_) _).trans properAt_demandNoEvents
  exact .seq tidy_versionSelOpaque fun _ => .seq tidy_demand fun _ =>
    .seq (.update _) fun _ => .seq tidy_exchangeKeys fun _ =>
    .seq tidy_nextHalfSessionId fun _ => .seq tidy_requestMutAuth fun _ =>
    .seq tidy_expect fun _ => .seq tidy_demandFreeSlot fun _ => .ret trivial

/-! ## §4. Vendor defined requests. -/

def VendorRefusesWell (sessionId : Option Nat) (bytes : Bytes) (c : SpdmContext) : Prop :=
  ∀ handler, Device.vendorDefinedRequestHandlerEx = some handler →
    ∀ e m, handler sessionId bytes = (.error e, some m) → IsError c m

omit [Crypto] in
theorem properAt_handleSpdmVendorDefinedRequest (sessionId : Option Nat) (bytes : Bytes)
    (c : SpdmContext) : ProperAt (handleSpdmVendorDefinedRequest sessionId bytes) c ↔
      VendorRefusesWell sessionId bytes c := by
  unfold handleSpdmVendorDefinedRequest VendorRefusesWell
  cases hex : Device.vendorDefinedRequestHandlerEx with
  | none =>
    refine iff_of_true ?_ (by simp)
    rw [properAt_bind_tidy (fun _ => .ret trivial)]
    exact wp_mono (replies_writeSpdmVendorDefinedResponse sessionId bytes c) (fun _ _ _ => trivial)
      fun _ _ h => h
  | some handler =>
    dsimp only
    cases hresult : handler sessionId bytes with
    | mk status response =>
    cases status with
    | ok _ =>
      refine iff_of_true trivial fun handler' heq e m hfails => ?_
      cases heq
      rw [hresult] at hfails
      cases hfails
    | error e =>
      refine ⟨fun h handler' heq e' m hfails => ?_, fun h m hm => ?_⟩
      · cases heq
        rw [hresult] at hfails
        cases hfails
        exact h m rfl
      · cases hm
        exact h handler rfl e m hresult

/-! ## §5. Chunks. -/

section
omit [Crypto] [Device]

theorem tidy_demandChunks : Tidy demandChunks :=
  .seq .read fun _ => .seq tidy_demand fun _ => tidy_demand

theorem tidy_readChunkHeader {bytes : Bytes} : Tidy (readChunkHeader bytes) :=
  .seq tidy_demandChunks fun _ => .seq .read fun _ => .seq tidy_readHeader fun _ =>
    .seq tidy_demand fun _ => .ret trivial

theorem tidy_acceptChunk {p : ChunkPayload} : Tidy (acceptChunk p) := by
  refine .seq .read fun c => ?_
  split
  · exact .seq .read fun _ => .seq (.orAbort _) fun _ => .seq tidy_demand fun _ => .update _
  · exact .seq .read fun _ => .seq tidy_demand fun _ => .seq (.update _) fun _ =>
      .seq .read fun _ => tidy_demand
  · exact tidy_refuse _ _

theorem tidy_writeChunkSendAck {size : Nat} : Tidy (writeChunkSendAck size) :=
  .seq .read fun _ => tidy_orRefuse

theorem tidy_embedResponse {response : Bytes} : Tidy (embedResponse response) :=
  .seq .read fun _ => .seq (.assert _) fun _ => .update _

theorem tidy_sizeSub {a b : Nat} : Tidy (sizeSub a b) :=
  .seq .read fun _ => .seq (.assert _) fun _ => .ret trivial

theorem tidy_handleSpdmChunkGet (bytes : Bytes) : Tidy (handleSpdmChunkGet bytes) := by
  have hget : Tidy (demandChunkGet bytes) := by
    refine .seq .read fun _ => .seq tidy_parseRest fun header => ?_
    cases header with
    | none => exact .ret trivial
    | some header =>
      refine .seq tidy_demand fun _ => .seq tidy_demand fun _ =>
        .seq .read fun _ => .seq tidy_parse fun p => ?_
      cases p with
      | none => exact .ret trivial
      | some p => exact .seq tidy_demand fun _ => tidy_demand
  have hfits : ∀ room, Tidy (demandLargeResponseFits room) := fun room =>
    .seq .read fun _ => .seq tidy_sizeSub fun _ => .seq tidy_sizeSub fun _ =>
      tidy_demand
  have hchunk : Tidy writeChunk :=
    .seq .read fun _ => .seq tidy_sizeSub fun _ => .seq tidy_sizeSub fun _ =>
      .seq tidy_orRefuse fun _ => .seq (.assert _) fun _ => .seq (.update _) fun _ =>
      .ret trivial
  have hemit : Tidy emitChunk := by
    refine .seq .read fun c => .seq ?_ fun _ => hchunk
    split
    · exact hfits _
    · exact .ret trivial
  have hwrite : Tidy (writeSpdmChunkGetResponse bytes) :=
    .seq tidy_demandChunks fun _ => .seq hget fun _ => hemit
  intro c
  unfold handleSpdmChunkGet
  rw [wp_bind, wp_attempt]
  exact wp_mono (hwrite c) (fun _ _ _ => trivial) fun e c' he => he.cleared rfl

end

def largeRequestResult (dispatch : Dispatch)
    (sessionId : Option Nat) (bytes : Bytes) : Handler (Except Refusal (Option Bytes)) := do
  let request ← takeRequest bytes
  match request with
  | none => ret (.ok none)
  | some request => attempt (dispatch sessionId request)

def Acknowledged (response : Bytes) (c : SpdmContext) : Prop :=
  exceedsTransfer c (response.length + offsetOfResponseInChunkSendAck c) = false ∧
    ∃ ack c', (embedResponse response >>= fun _ => writeChunkSendAck response.length) c = .ok ack c'

def LargeRequestServed (dispatch : Dispatch)
    (sessionId : Option Nat) (bytes : Bytes) (c : SpdmContext) : Prop :=
  wp (largeRequestResult dispatch sessionId bytes) (fun r c' =>
    ∀ e response, r = .error (e, some response) → ¬ Acknowledged response c') (fun _ _ => True) c

section
omit [Crypto] [Device]

theorem codeOf_writeChunkSendAck {size : Nat} {ack : Bytes} {c c' : SpdmContext}
    (h : writeChunkSendAck size c = .ok ack c') : codeOf ack = some spdmResponseChunkSendAck := by
  have hencode : ∀ p room, Ends (fun m => codeOf m = some spdmResponseChunkSendAck) (fun _ => True)
      (encodeChunkSendAck p room) := fun p room =>
    .seq .read fun _ => .bind
      (Q := fun head => codeOf head = some spdmResponseChunkSendAck)
      (.seq (.any _) fun _ => .ret rfl) fun head hhead => .seq (.assert _) fun _ =>
      .seq (.assert _) fun _ => .ret (codeOf_append hhead _)
  have hends : EndsIn (fun m => codeOf m = some spdmResponseChunkSendAck) Proper
      (writeChunkSendAck size) := .seq .read fun _ => ends_orRefuse (hencode _ _) _ _
  have hcode := wp_ok (hends c) h
  exact hcode

theorem properAt_acknowledge (e : SpdmStatus) (response : Bytes) (c : SpdmContext) :
    ProperAt (do
      embedResponse response
      let ack ← writeChunkSendAck response.length
      handlerResult (.error e, some ack)) c ↔
      ¬ ∃ ack c', (embedResponse response >>= fun _ => writeChunkSendAck response.length) c =
        .ok ack c' := by
  have htidy : Tidy (embedResponse response >>= fun _ => writeChunkSendAck response.length) :=
    .seq tidy_embedResponse fun _ => tidy_writeChunkSendAck
  rw [← bind_assoc, ProperAt, wp_bind]
  have hc := htidy c
  unfold wp at hc ⊢
  cases h : (embedResponse response >>= fun _ => writeChunkSendAck response.length) c with
  | ok ack c' =>
    refine iff_of_false (fun hproper => ?_) fun hno => hno ⟨ack, c', rfl⟩
    obtain ⟨_, c₁, -, hack⟩ := bind_eq_ok.1 h
    have hcode := (hproper ack rfl).code
    rw [codeOf_writeChunkSendAck hack] at hcode
    exact absurd hcode (by decide)
  | err e' c' =>
    rw [h] at hc
    refine iff_of_true hc ?_
    rintro ⟨ack, c'', hok⟩
    cases hok
  | panic =>
    refine iff_of_true trivial ?_
    rintro ⟨ack, c'', hok⟩
    cases hok

theorem properAt_answerLargeRequest (r : Except Refusal (Option Bytes)) (c : SpdmContext) :
    ProperAt (answerLargeRequest (dispatched r).1 (dispatched r).2) c ↔
      ∀ e response, r = .error (e, some response) → ¬ Acknowledged response c := by
  have hkeep : ∀ response, Tidy (keepLargeResponse response) := fun response =>
    .seq .read fun _ => .seq (.assert _) fun _ => .update _
  match r with
  | .ok none => exact iff_of_true trivial fun _ _ h => by cases h
  | .error (e, none) => exact iff_of_true (fun _ h => by cases h) fun _ _ h => by cases h
  | .ok (some response) =>
    refine iff_of_true ?_ fun _ _ h => by cases h
    refine EndsIn.seq .read (fun c => ?_) c
    split
    · exact .seq (hkeep _) fun _ => .seq .read fun _ => .ret trivial
    · exact .seq tidy_embedResponse fun _ => .seq tidy_writeChunkSendAck fun _ => .ret trivial
  | .error (e, some response) =>
    have hall : (∀ e' response', (.error (e, some response) : Except Refusal (Option Bytes)) =
        .error (e', some response') → ¬ Acknowledged response' c) ↔ ¬ Acknowledged response c := by
      refine ⟨fun h => h e response rfl, fun h e' response' heq => ?_⟩
      cases heq
      exact h
    rw [hall]
    unfold answerLargeRequest Acknowledged
    dsimp only [dispatched]
    rw [ProperAt, wp_bind, wp_read]
    cases hroom : exceedsTransfer c (response.length + offsetOfResponseInChunkSendAck c) with
    | true =>
      refine iff_of_true ?_ fun h => absurd h.1 (by simp)
      exact EndsIn.seq (hkeep _) (fun _ => .seq .read fun _ => .ret trivial) c
    | false =>
      simpa using properAt_acknowledge e response c

theorem tidy_takeRequest (bytes : Bytes) : Tidy (takeRequest bytes) := by
  refine .seq tidy_readChunkHeader fun _ => .seq tidy_orRefuse fun _ => .seq tidy_expect fun p =>
    .seq tidy_acceptChunk fun _ => ?_
  split
  · exact .seq .read fun _ => .seq tidy_demand fun _ => .ret trivial
  · exact .ret trivial

theorem properAt_handleSpdmChunkSend (dispatch : Dispatch)
    (sessionId : Option Nat) (bytes : Bytes) (c : SpdmContext) :
    ProperAt (handleSpdmChunkSend dispatch sessionId bytes) c ↔
      LargeRequestServed dispatch sessionId bytes c := by
  have hclear : ProperAt (handleSpdmChunkSend dispatch sessionId bytes) c ↔
      ProperAt (writeSpdmChunkSendResponse dispatch sessionId bytes) c := by
    unfold handleSpdmChunkSend
    rw [ProperAt, wp_bind, wp_attempt]
    unfold ProperAt wp
    cases writeSpdmChunkSendResponse dispatch sessionId bytes c with
    | ok response c' => exact Iff.rfl
    | err e c' => exact ⟨fun h => h.cleared rfl, fun h => h.cleared rfl⟩
    | panic => exact Iff.rfl
  rw [hclear, LargeRequestServed, largeRequestResult, wp_bind]
  refine properAt_bind (tidy_takeRequest bytes) (fun request _ c' => ?_) c
  cases request with
  | none =>
    refine iff_of_true ?_ fun _ _ h => by cases h
    exact EndsIn.seq tidy_writeChunkSendAck (fun _ => .ret trivial) c'
  | some request =>
    rw [answerChunk, ProperAt, wp_bind, wp_attempt, wp_attempt]
    unfold wp
    cases dispatch sessionId request c' with
    | ok response c'' => exact properAt_answerLargeRequest (.ok response) c''
    | err e c'' => exact properAt_answerLargeRequest (.error e) c''
    | panic => exact Iff.rfl

end

/-! ## §6. Refusals. -/

/-- The request is refused as it should be: none of the four cases. -/
def Service.RefusesWell (dispatch : Dispatch)
    (sessionId : Option Nat) (bytes : Bytes) (c : SpdmContext) : Service → Prop
  | digest => ChainsHash bytes sessionId c
  | keyExchange => NoEvents bytes c
  | vendorDefined => VendorRefusesWell sessionId bytes c
  | chunkSend => LargeRequestServed dispatch sessionId bytes c
  | _ => True

omit [Crypto] [Device] in
theorem properAt_answer {m : Handler Bytes} (c : SpdmContext) :
    ProperAt (answer m) c ↔ ProperAt m c := properAt_bind_tidy (fun _ => .ret trivial) c

omit [Crypto] [Device] in
theorem properAt_of_replies {α : Type} {Q : α → Prop} {m : Handler α} (h : EndsIn Q Proper m)
    (c : SpdmContext) : ProperAt m c := wp_mono (h c) (fun _ _ _ => trivial) fun _ _ he => he

theorem properAt_handle (dispatch : Dispatch)
    (sessionId : Option Nat) (bytes : Bytes) (c : SpdmContext) (service : Service) :
    ProperAt (service.handle dispatch sessionId bytes) c ↔
      service.RefusesWell dispatch sessionId bytes c := by
  cases service with
  | digest => exact (properAt_answer c).trans (properAt_handleSpdmDigest bytes sessionId c)
  | keyExchange => exact (properAt_answer c).trans (properAt_handleSpdmKeyExchange bytes c)
  | vendorDefined => exact properAt_handleSpdmVendorDefinedRequest sessionId bytes c
  | chunkSend => exact properAt_handleSpdmChunkSend dispatch sessionId bytes c
  | chunkGet =>
    exact iff_of_true ((properAt_answer c).2 (tidy_handleSpdmChunkGet bytes c)) trivial
  | _ => exact iff_of_true (properAt_of_replies (replies_handle rfl) c) trivial

omit [Crypto] [Device] in
theorem properAt_iff {α : Type} {m : Handler α} {c : SpdmContext} :
    ProperAt m c ↔ ∀ e message c', m c = .err (e, some message) c' → IsError c' message := by
  unfold ProperAt wp
  cases m c with
  | ok a c' => exact iff_of_true trivial fun _ _ _ h => by cases h
  | err e c' =>
    refine ⟨fun h e' message c'' heq => ?_, fun h message hm => ?_⟩
    · cases heq
      exact h message rfl
    · exact h e.1 message c' (by rw [← hm])
  | panic => exact iff_of_true trivial fun _ _ _ h => by cases h

/-- **Errors go out as errors**: what a request that fails hands to be sent
is an ERROR of the negotiated version, exactly when the handler that serves
the request meets its condition. -/
theorem refusals_are_errors_iff (depth : Nat) (sessionId : Option Nat) (bytes : Bytes)
    (c : SpdmContext) :
    (∀ e message c', dispatchAt (depth + 1) sessionId bytes c = .err (e, some message) c' →
      IsError c' message) ↔
      ∀ service, serviceOf c sessionId bytes = some service →
        service.RefusesWell (dispatchAt depth) sessionId bytes c := by
  rw [dispatchAt_succ]
  cases serviceOf c sessionId bytes with
  | none => exact iff_of_true (fun _ _ _ h => by cases h) fun _ h => by cases h
  | some service =>
    dsimp only
    rw [← properAt_iff, properAt_handle]
    refine ⟨fun h service' heq => ?_, fun h => h service rfl⟩
    cases heq
    exact h

end

namespace SmallRefusal

open SmallBackend

@[reducible] def hashless : Crypto := { smallCrypto with hashAll := fun _ _ => none }

def negotiated : SpdmContext :=
  { smallContext (smallSession 0 0 0) [] with
    negotiateInfo :=
      { spdmVersionSel := .spdmVersion13
        baseHashSel := SpdmBaseHashAlgo.tpmAlgSha256
        dheSel := SpdmDheAlgo.secp256R1
        rspCapabilitiesSel := SpdmResponseCapabilityFlags.eventCap }
    runtimeInfo := { connectionState := .negotiated }
    provisionInfo := { myCertChain := #v[some [1], none, none, none, none, none, none, none] } }

def getDigests : Bytes := [0x13, 0x81, 0, 0]

def keyExchangeWithEvents : Bytes :=
  encodeKeyExchange .spdmVersion13
    { measurementSummaryHashType := 0
      slotId := 0
      reqSessionId := 1
      sessionPolicy := eventAllPolicyMask
      random := List.replicate 32 0
      exchange := List.replicate 64 0
      opaqueData := [] }

def refusedWith [Crypto] (bytes : Bytes) : Option Bytes :=
  match dispatchAt 1 none bytes negotiated with
  | .err (_, message) _ => message
  | _ => none

theorem exists_of_refusedWith [Crypto] {bytes message : Bytes}
    (h : refusedWith bytes = some message) :
    ∃ e c', dispatchAt 1 none bytes negotiated = .err (e, some message) c' := by
  unfold refusedWith at h
  split at h
  case h_1 e refused c' heq =>
    subst h
    exact ⟨e, c', heq⟩
  case h_2 => cases h

theorem half_and_empty_refusals :
    (∃ e message c', @dispatchAt hashless _ 1 none getDigests negotiated =
      .err (e, some message) c' ∧
      codeOf message = some spdmResponseDigests ∧ ¬ IsError c' message) ∧
    ∃ e c', dispatchAt 1 none keyExchangeWithEvents negotiated = .err (e, some []) c' ∧
      ¬ IsError c' [] := by
  constructor
  · obtain ⟨e, c', hrun⟩ := @exists_of_refusedWith hashless _ _
      (show @refusedWith hashless getDigests =
        some ([0x13, 0x01, 0xFF, 0x01] ++ List.replicate 32 0xFF) by decide +kernel)
    refine ⟨e, _, c', hrun, rfl, fun h => ?_⟩
    exact absurd h.code (by decide)
  · obtain ⟨e, c', hrun⟩ := exists_of_refusedWith
      (show refusedWith keyExchangeWithEvents = some [] by decide +kernel)
    exact ⟨e, c', hrun, fun h => absurd h.length (by decide)⟩

end SmallRefusal

end Responder

end Spdm
