/-
  Spdm.Responder.Run — dispatching and processing as acts.
-/
import Spdm.Responder.AppMessage
import Spdm.Responder.Routing
import Spdm.Responder.Steps

namespace Spdm

open Effect Codec

variable {ε : Type} {id depth : Nat} {bytes message : Bytes} {sessionId : Option Nat}
    {c c' : SpdmContext}

namespace Responder

open SpdmContext SpdmRequestResponseCode SpdmErrorCode

variable [Crypto] [Device]

abbrev anySession : Nat → Prop := fun _ => True

/-! ## §1. Dispatch. -/

section Dispatch
variable {α : Type} {Q : SpdmContext → Prop} {c : SpdmContext}

omit [Device] in
theorem wp_of_acts {m : Handler α} (h : Within (Steps (Act false anySession)) m)
    (hact : ∀ c', Steps (Act false anySession) c c' → Q c') :
    wp m (fun _ => Q) (fun _ => Q) c :=
  wp_mono (h c) (fun _ => hact) fun _ => hact

omit [Device] in
theorem wp_of_leads {m : Handler α} {I : SpdmContext → Prop} {J : α → SpdmContext → Prop}
    (h : Leads I (Steps (Act false anySession)) J m) (hc : I c)
    (hact : ∀ c', Steps (Act false anySession) c c' → Q c') :
    wp m (fun _ => Q) (fun _ => Q) c :=
  wp_mono (h c hc) (fun _ c' hQ => hact c' hQ.1) fun _ => hact

section
omit [Crypto] [Device]

theorem within_answer {R : SpdmContext → SpdmContext → Prop} [StepRel R] {m : Handler Bytes}
    (hm : Within R m) : Within R (answer m) := .bind hm fun _ => .ret _

theorem wp_answer {m : Handler Bytes} (h : wp m (fun _ => Q) (fun _ => Q) c) :
    wp (answer m) (fun _ => Q) (fun _ => Q) c := by
  unfold answer
  rw [wp_bind]
  exact h

theorem InState.slotAt {state : SpdmSessionState} (h : InState c state id)
    (hstate : state ≠ .notStarted) (hc : Table false c) :
    id ≠ invalidSessionId ∧ ∃ i s, SlotAt c id i s ∧ s.sessionState = state := by
  obtain ⟨s, hs, rfl⟩ := h
  obtain ⟨i, hat⟩ := slotAt_of_sessionViaId hs
  exact ⟨fun hid => hstate (hc.free s (List.mem_of_getElem? hat.slot) (hat.sessionId.trans hid)),
    i, s, hat, rfl⟩

theorem InState.standing (h : InState c .handshaking id) (hc : Table false c) :
    Standing false id Handshaking c := by
  obtain ⟨hid, i, s, hat, hstate⟩ := h.slotAt (by decide) hc
  exact .of_slotAt hc hid hat hstate

end

def Service.notes : Service → Bool
  | digest | certificate | challenge | measurement | vendorDefined | getEncapsulatedRequest
  | deliverEncapsulatedResponse | heartbeat _ | error _ => true
  | _ => false

variable {dispatch : Dispatch} {service : Service}

theorem within_handle_notes {R : SpdmContext → SpdmContext → Prop} {touch : Nat → Prop}
    [MildRel touch R] (h : service.notes = true)
    (ht : ∀ id, sessionId = some id ∨ service = .heartbeat id → touch id) :
    Within R (service.handle dispatch sessionId bytes) := by
  have hown : ∀ id, sessionId = some id → touch id := fun id h => ht id (.inl h)
  cases service with
  | digest => exact within_answer (within_handleSpdmDigest hown)
  | certificate => exact within_answer (within_handleSpdmCertificate hown)
  | challenge => exact within_answer within_handleSpdmChallenge
  | measurement => exact within_answer (within_handleSpdmMeasurement hown)
  | vendorDefined => exact within_handleSpdmVendorDefinedRequest hown
  | getEncapsulatedRequest => exact within_answer within_handleGetEncapsulatedRequest
  | deliverEncapsulatedResponse => exact within_answer within_handleDeliverEncapsulatedResponse
  | heartbeat id => exact within_answer (within_handleSpdmHeartbeat (ht id (.inr rfl)))
  | error errorCode => exact within_answer within_handleErrorRequest
  | _ => cases h

theorem wp_handle_acts (hservice : serviceOf c sessionId bytes = some service)
    (hc : Table false c) (hact : ∀ c', Steps (Act false anySession) c c' → Q c')
    (hsend : HasCode bytes spdmRequestChunkSend →
      wp (handleSpdmChunkSend dispatch sessionId bytes) (fun _ => Q) (fun _ => Q) c)
    (hget : wp (handleSpdmChunkGet bytes) (fun _ => Q) (fun _ => Q) c) :
    wp (service.handle dispatch sessionId bytes) (fun _ => Q) (fun _ => Q) c := by
  have hrouted := routed_of_serviceOf hservice
  have hnew : TouchesNew false anySession c := ⟨hc, fun _ _ => trivial⟩
  cases service with
  | version => exact wp_answer (wp_of_acts (within_handleSpdmVersion fun _ => trivial) hact)
  | capability => exact wp_answer (wp_of_acts within_handleSpdmCapability hact)
  | algorithm => exact wp_answer (wp_of_acts within_handleSpdmAlgorithm hact)
  | keyExchange => exact wp_answer (wp_of_leads leads_handleSpdmKeyExchange hnew hact)
  | pskExchange => exact wp_answer (wp_of_leads leads_handleSpdmPskExchange hnew hact)
  | chunkSend => exact hsend hrouted.1
  | chunkGet => exact wp_answer hget
  | finish id =>
    exact wp_of_leads (leads_handleSpdmFinish trivial bytes) (hrouted.2.standing hc) hact
  | pskFinish id =>
    exact wp_answer (wp_of_leads (leads_handleSpdmPskFinish trivial bytes) (hrouted.2.standing hc)
      hact)
  | keyUpdate id => exact wp_answer (wp_of_acts (within_handleSpdmKeyUpdate trivial) hact)
  | endSession id =>
    exact wp_answer (wp_of_acts (within_act_of_mild (within_handleSpdmEndSession trivial)) hact)
  | _ => exact wp_of_acts (within_act_of_mild (within_handle_notes rfl fun _ _ => trivial)) hact

end Dispatch

/-! ## §2. Chunk transfers. -/

section Chunk
variable {R : SpdmContext → SpdmContext → Prop} [StepRel R]
  (hchunk : ∀ c c', ChunkStep c c' → R c c')

include hchunk

omit [Crypto] [Device] [StepRel R] in
theorem within_chunkUpdate {f : SpdmContext → SpdmContext} (h : ∀ c, ChunkStep c (f c)) :
    Within R (update f : Prog SpdmContext ε Unit) :=
  .update fun c => hchunk _ _ (h c)

omit [Crypto] [Device] in
theorem within_readChunkSend : Within R (readChunkSend bytes) := by
  have hstore : ∀ p rest, Within R (readChunkSend.storeSent p rest) := by
    intro p rest
    refine .bind .read fun _ => ?_
    split
    · exact .ret _
    · exact .bind (.assert _) fun _ => .bind (within_chunkUpdate hchunk fun _ => rfl)
        fun _ => .ret _
  refine .bind .read fun c => .bind within_parseRest fun r => ?_
  cases r with
  | none => exact .ret _
  | some r =>
    dsimp only
    split
    · split
      · exact .bind (within_chunkUpdate hchunk fun _ => rfl) fun _ => hstore _ _
      · exact .ret _
    · refine .bind within_sizeSub fun missing => ?_
      split
      · exact .ret _
      · exact hstore _ _

omit [Crypto] [Device] hchunk in
theorem within_demandChunks : Within R demandChunks :=
  .bind .read fun _ => .bind (within_demand _ _ _) fun _ => within_demand _ _ _

omit [Crypto] [Device] hchunk in
theorem within_readChunkHeader : Within R (readChunkHeader bytes) :=
  .bind within_demandChunks fun _ => .bind .read fun _ => .bind within_readHeader fun _ =>
    .bind (within_demand _ _ _) fun _ => .ret _

omit [Crypto] [Device] in
theorem within_acceptChunk {p : ChunkPayload} : Within R (acceptChunk p) := by
  refine .bind .read fun c => ?_
  cases c.chunkContext.chunkStatus with
  | idle =>
    exact .bind .read fun _ => .bind (.orAbort _) fun _ => .bind (within_demand _ _ _) fun _ =>
      within_chunkUpdate hchunk fun _ => rfl
  | chunkSendAndAck =>
    exact .bind .read fun _ => .bind (within_demand _ _ _) fun _ =>
      .bind (within_chunkUpdate hchunk fun _ => rfl) fun _ =>
      .bind .read fun _ => within_demand _ _ _
  | chunkGetAndResponse => exact within_refuse

omit [Crypto] [Device] in
theorem within_keepLargeResponse (message : Bytes) :
    Within R (keepLargeResponse message : Prog SpdmContext ε Unit) :=
  .bind .read fun _ => .bind (.assert _) fun _ => within_chunkUpdate hchunk fun _ => rfl

omit [Crypto] [Device] hchunk in
theorem within_writeChunkSendAck (size : Nat) : Within R (writeChunkSendAck size) :=
  .bind .read fun _ => within_orRefuse (.bind .read fun _ => .bind (within_writeInto _) fun _ =>
    .bind (.assert _) fun _ => .bind (.assert _) fun _ => .ret _)

omit [Crypto] [Device] in
theorem within_answerLargeRequest {status : Except SpdmStatus Unit} {response : Option Bytes} :
    Within R (answerLargeRequest status response) := by
  cases response with
  | none => exact within_handlerResult
  | some response =>
    refine .bind .read fun _ => ?_
    split
    · exact .bind (within_keepLargeResponse hchunk _) fun _ => .bind .read fun _ => .ret _
    · exact .bind (.bind .read fun _ => .bind (.assert _) fun _ =>
        within_chunkUpdate hchunk fun _ => rfl) fun _ =>
        .bind (within_writeChunkSendAck _) fun _ => within_handlerResult

section
omit [Crypto] [Device]
variable {dispatch : Dispatch}

theorem within_takeRequest (bytes : Bytes) : Within R (takeRequest bytes) := by
  refine .bind within_readChunkHeader fun _ =>
    .bind (within_orRefuse (within_readChunkSend hchunk)) fun _ => .bind within_expect fun p =>
    .bind (within_acceptChunk hchunk) fun _ => ?_
  split
  · exact .bind .read fun _ => .bind (within_demand _ _ _) fun _ => .ret _
  · exact .ret _

theorem wp_handleSpdmChunkSend_around {c : SpdmContext} {Q : SpdmContext → Prop}
    (hbefore : ∀ c₁, R c c₁ → Q c₁) (hafter : ∀ c₁ c₂, Q c₁ → R c₁ c₂ → Q c₂)
    (hdispatch : ∀ request c₁, R c c₁ →
      wp (dispatch sessionId request) (fun _ => Q) (fun _ => Q) c₁) (bytes : Bytes) :
    wp (handleSpdmChunkSend dispatch sessionId bytes) (fun _ => Q) (fun _ => Q) c := by
  have herr : ∀ (e : Refusal) c₁, R c c₁ → Q c₁ := fun _ => hbefore
  have hanswer : ∀ (r : Except Refusal (Option Bytes)) c₁, Q c₁ →
      wp (answerLargeRequest (dispatched r).1 (dispatched r).2) (fun _ => Q) (fun _ => Q) c₁ :=
    fun r c₁ h => wp_mono (within_answerLargeRequest hchunk c₁) (fun _ c₂ => hafter c₁ c₂ h)
      fun _ c₂ => hafter c₁ c₂ h
  have hwrite : wp (writeSpdmChunkSendResponse dispatch sessionId bytes) (fun _ => Q) (fun _ => Q)
      c := by
    refine (within_takeRequest hchunk bytes).seq herr (fun request c₁ hc₁ => ?_) c (StepRel.refl c)
    cases request with
    | none =>
      refine (within_writeChunkSendAck 0).seq herr (fun _ c₂ hc₂ => ?_) c₁ hc₁
      exact hbefore c₂ hc₂
    | some request =>
      rw [answerChunk, wp_bind, wp_attempt]
      exact wp_mono (hdispatch _ c₁ hc₁) (fun _ c₂ => hanswer _ c₂) fun _ c₂ => hanswer _ c₂
  rw [handleSpdmChunkSend, wp_bind, wp_attempt]
  exact wp_mono hwrite (fun _ _ h => h) fun _ c₁ h => hafter c₁ _ h (hchunk _ _ rfl)

theorem within_handleSpdmChunkSend (hdispatch : ∀ bytes, Within R (dispatch sessionId bytes))
    (bytes : Bytes) : Within R (handleSpdmChunkSend dispatch sessionId bytes) := fun _ =>
  wp_handleSpdmChunkSend_around hchunk (fun _ h => h) (fun _ _ => StepRel.trans)
    (fun request c₁ h => wp_mono (hdispatch request c₁) (fun _ _ => StepRel.trans h)
      fun _ _ => StepRel.trans h) bytes

end

omit [Crypto] [Device] hchunk in
theorem within_demandChunkGet : Within R (demandChunkGet bytes) := by
  refine .bind .read fun _ => .bind within_parseRest fun header => ?_
  cases header with
  | none => exact .ret _
  | some header =>
    refine .bind (within_demand _ _ _) fun _ => .bind (within_demand _ _ _) fun _ =>
      .bind .read fun _ => .bind (within_parse _) fun p => ?_
    cases p with
    | none => exact .ret _
    | some p => exact .bind (within_demand _ _ _) fun _ => within_demand _ _ _

section
omit [Crypto] [Device]

theorem within_encodeChunk (code : UInt8) (p : ChunkPayload) (room : Nat) :
    Within R (encodeChunk code p room) :=
  .bind .read fun _ => .bind (within_writeInto _) fun _ =>
    .bind (.bind .read fun _ => .bind (.assert _) fun _ =>
      .bind (within_chunkUpdate hchunk fun _ => rfl) fun _ => .ret _) fun _ =>
    .bind (.assert _) fun _ => .ret _

theorem within_writeChunk : Within R writeChunk :=
  .bind .read fun _ => .bind within_sizeSub fun _ => .bind within_sizeSub fun _ =>
    .bind (within_orRefuse (within_encodeChunk hchunk _ _ _)) fun _ => .bind (.assert _) fun _ =>
    .bind (within_chunkUpdate hchunk fun _ => rfl) fun _ => .ret _

theorem within_handleSpdmChunkGet (bytes : Bytes) : Within R (handleSpdmChunkGet bytes) := by
  refine .bind (.attempt (.bind within_demandChunks fun _ =>
    .bind within_demandChunkGet fun _ => .bind .read fun c => .bind ?_ fun _ =>
    within_writeChunk hchunk)) fun r => ?_
  · split
    · exact .bind .read fun _ => .bind within_sizeSub fun _ =>
        .bind within_sizeSub fun _ => within_demand _ _ _
    · exact .ret _
  · cases r with
    | ok response => exact .ret _
    | error e => exact .bind (within_chunkUpdate hchunk fun _ => rfl) fun _ => .fail _

end

end Chunk

/-! ## §3. Processing. -/

def nextRequest : Prog SpdmContext Nat (Option Nat × Bytes × Bool) := do
  let (message, secured) ← receiveMessage
  if secured then do
    let id ← parse (uintLe 4) message
    let id ← orFail message.length id
    let (request, isApp) ← decodeRequest id message
    callWatchdog fun _ => .reset id
    ret (some id, request, isApp)
  else ret (none, message, false)

def serveNext (depth : Nat) : Option Nat × Bytes × Bool → Prog SpdmContext Nat Processed
  | (some id, request, true) => serveAppMessage id request
  | (sessionId, request, _) => serveRequest depth sessionId request

theorem processMessage_eq :
    processMessage depth = nextRequest >>= serveNext depth := by
  unfold processMessage nextRequest
  rw [bind_assoc]
  refine bind_congr fun ⟨message, secured⟩ => ?_
  cases secured with
  | false => rfl
  | true =>
    simp only [if_true, bind_assoc]
    refine bind_congr fun _ => bind_congr fun id => bind_congr fun ⟨request, isApp⟩ =>
      bind_congr fun _ => ?_
    cases isApp <;> rfl

omit [Crypto] [Device] in
theorem within_receiveMessage : Within DeviceStep receiveMessage :=
  .bind (.mapErr (.bind .read fun _ => .bind (.update fun _ => rfl) fun _ =>
    .bind (.orFail _ _) fun _ => .ret _)) fun _ => .bind .read fun _ =>
    .mapErr within_liftResult

structure Takes (R : SpdmContext → SpdmContext → Prop) : Prop where
  act : ∀ {c c'}, Act false anySession c c' → R c c'
  device : ∀ {c c'}, DeviceStep c c' → R c c'
  keep : ∀ message, Within R (keepLargeResponse message : SpdmResult Unit)
  drop : ∀ c, R c (dropChunk c)
  leave : ∀ code c, R c (leaveChunkMode code c)

omit [Crypto] [Device] in
theorem chunkStep_leaveChunkMode (code : UInt8) (c : SpdmContext) :
    ChunkStep c (leaveChunkMode code c) := by
  unfold leaveChunkMode
  cases c.chunkContext.chunkStatus with
  | idle => rfl
  | chunkSendAndAck => dsimp only; split <;> rfl
  | chunkGetAndResponse => dsimp only; split <;> rfl

def dispatchRequest (depth : Nat) (sessionId : Option Nat) (bytes : Bytes) :
    Prog SpdmContext Nat (Except SpdmStatus Unit × Option Bytes) := do
  let c ← read
  let header ← parse parseHeader bytes
  match c.build.chunkCap, header with
  | true, none => ret (.error .unsupportedCap, none)
  | true, some header => do
    update (leaveChunkMode header.requestResponseCode)
    let r ← attempt (dispatchAt depth sessionId bytes)
    ret (dispatched r)
  | false, _ => do
    let r ← attempt (dispatchAt depth sessionId bytes)
    ret (dispatched r)

theorem serveRequest_eq {bytes : Bytes} :
    serveRequest depth sessionId bytes =
      dispatchRequest depth sessionId bytes >>= sendResponse sessionId false := by
  have hserve : serveRequest.serve depth sessionId bytes =
      (attempt (dispatchAt depth sessionId bytes) >>= fun r => ret (dispatched r)) >>=
        sendResponse sessionId false := by
    rw [bind_assoc]
    rfl
  unfold serveRequest dispatchRequest
  simp only [bind_assoc]
  refine bind_congr fun c => bind_congr fun header => ?_
  rw [hserve]
  cases c.build.chunkCap <;> cases header <;> rfl

def requestState (bytes : Bytes) (c : SpdmContext) : SpdmContext :=
  match c.build.chunkCap, headerOf bytes with
  | true, some header => leaveChunkMode header.requestResponseCode c
  | _, _ => c

omit [Crypto] [Device] in
theorem chunkStep_requestState (bytes : Bytes) (c : SpdmContext) :
    ChunkStep c (requestState bytes c) := by
  unfold requestState
  split
  · exact chunkStep_leaveChunkMode _ c
  · rfl

theorem wp_dispatchRequest {P : Option Bytes → SpdmContext → Prop}
    {E : Nat → SpdmContext → Prop}
    (hbad : c.build.chunkCap = true → P none c)
    (h : wp (dispatchAt depth sessionId bytes) P (fun e => P e.2) (requestState bytes c)) :
    wp (dispatchRequest depth sessionId bytes) (fun r => P r.2) E c := by
  have hserve : wp (attempt (dispatchAt depth sessionId bytes) >>= fun r => ret (dispatched r))
      (fun r => P r.2) E (requestState bytes c) := by
    rw [wp_bind, wp_attempt]
    exact wp_mono h (fun _ _ h => h) fun _ _ h => h
  unfold requestState at hserve
  unfold dispatchRequest
  rw [wp_bind, wp_read, parse_parseHeader, wp_bind, wp_ret]
  cases hchunk : c.build.chunkCap with
  | false =>
    rw [hchunk] at hserve
    exact hserve
  | true =>
    cases hheader : headerOf bytes with
    | none => exact hbad hchunk
    | some header =>
      rw [hchunk, hheader] at hserve
      show wp (update (leaveChunkMode header.requestResponseCode) >>= _) _ _ c
      rw [wp_bind, wp_update]
      exact hserve

theorem wp_serve {P : SpdmContext → Prop} (hbad : c.build.chunkCap = true → P c)
    (hdispatch : wp (dispatchAt depth sessionId bytes) (fun _ => P) (fun _ => P)
      (requestState bytes c))
    (hsend : ∀ r c₁, P c₁ → wp (sendResponse sessionId false r) (fun _ => P) (fun _ => P) c₁) :
    wp (serveRequest depth sessionId bytes) (fun _ => P) (fun _ => P) c := by
  rw [serveRequest_eq, wp_bind]
  exact wp_mono (wp_dispatchRequest (P := fun _ => P) hbad hdispatch) hsend fun _ _ h => h

omit [Device] in
theorem within_sendResponse {R : SpdmContext → SpdmContext → Prop} [StepRel R] {isApp : Bool}
    (h : ∀ message, Within R (sendMessage sessionId message isApp))
    (r : Except SpdmStatus Unit × Option Bytes) : Within R (sendResponse sessionId isApp r) := by
  obtain ⟨status, response⟩ := r
  cases response with
  | none => exact .ret _
  | some response =>
    refine .bind (.attempt (h response)) fun sent => ?_
    cases sent with
    | ok _ => exact .ret _
    | error e => exact .ret _

section Process
variable {R : SpdmContext → SpdmContext → Prop} [StepRel R]

omit [Device] in
theorem Takes.of_wire (hact : ∀ {c c'}, Act false anySession c c' → R c c')
    (hwire : ∀ {c c'}, WireStep c c' → R c c') : Takes R where
  act := hact
  device h := hwire h.wire
  keep := within_keepLargeResponse fun _ _ h => hwire h.wire
  drop _ := hwire rfl
  leave code c := hwire (chunkStep_leaveChunkMode code c).wire

omit [Device] in
theorem guarded_of_acts (hact : ∀ {c c'}, Act false anySession c c' → R c c')
    (h : Steps (Act false anySession) c c') : Guarded (Table false) R c c' :=
  fun hc => ⟨h.lift fun _ _ => hact, h.keep (fun _ _ hact hc => hc.act hact) hc⟩

omit [Crypto] [Device] [StepRel R] in
theorem guarded_of_wire (hwire : R c c') (h : WireStep c c') :
    Guarded (Table false) R c c' := by
  refine fun hc => ⟨hwire, ?_⟩
  exact hc.of_session_eq (by rw [h]) (by rw [h]; exact hc.last)

theorem within_dispatchAt (hact : ∀ {c c'}, Act false anySession c c' → R c c')
    (hwire : ∀ {c c'}, WireStep c c' → R c c') (depth : Nat) (sessionId : Option Nat)
    (bytes : Bytes) : Within (Guarded (Table false) R) (dispatchAt depth sessionId bytes) := by
  induction depth generalizing sessionId bytes with
  | zero => exact .abort
  | succ depth ih =>
    have hw : ∀ c c', ChunkStep c c' → Guarded (Table false) R c c' :=
      fun _ _ h => guarded_of_wire (hwire h.wire) h.wire
    exact fun c => wp_of_ran fun _ hran hc => (hran.of_wp (wp_dispatchAt
      (fun _ => StepRel.refl c) fun _ hservice => wp_handle_acts hservice hc
        (fun _ => guarded_of_acts hact)
        (fun _ => within_handleSpdmChunkSend hw (ih sessionId) bytes c)
        (within_handleSpdmChunkGet hw bytes c))) hc

variable (h : Takes R)

include h

section
omit [Device]

theorem guarded_of_mild {α : Type} {m : Prog SpdmContext ε α}
    (hm : Within (Steps (MildAct anySession)) m) : Within (Guarded (Table false) R) m :=
  (within_act_of_mild hm).mono fun _ _ => guarded_of_acts h.act

theorem within_establish (hid : id ≠ invalidSessionId) :
    Within (Guarded (Table false) R) (establish id) := by
  refine .bind (within_withSession_of fun _ _ s t hat hran => ?_) fun _ =>
    guarded_of_mild h within_callWatchdog
  obtain ⟨_, hs⟩ | ⟨_, hs⟩ := hran <;> cases hs
  exact guarded_of_acts h.act (.single (.table (.slot trivial hat (.single
    (.established (hat.sessionId ▸ hid))))))

theorem within_establishLast : Within (Guarded (Table false) R) establishLast := by
  refine within_guarded fun c hc => ?_
  unfold establishLast
  rw [wp_bind, wp_read, wp_bind, wp_orFail]
  refine ⟨fun id hlast => ?_, fun _ => ⟨StepRel.refl c, hc⟩⟩
  have hid : id ≠ invalidSessionId := fun h => hc.last (h ▸ hlast)
  have hrun : Within (Guarded (Table false) R) (do
      establish id
      update fun c => { c with runtimeInfo := { c.runtimeInfo with lastSessionId := none } }) :=
    .bind (within_establish h hid) fun _ => .update fun c =>
      guarded_of_acts h.act (.single (.last c (by simp)))
  exact wp_mono (hrun c) (fun _ _ h => h hc) fun _ _ h => h hc

theorem within_sendMessage
    (hid : ∀ id, sessionId = some id → id ≠ invalidSessionId) (message : Bytes) (isApp : Bool) :
    Within (Guarded (Table false) R) (sendMessage sessionId message isApp) := by
  have hkeep : ∀ message, Within (Guarded (Table false) R)
      (keepLargeResponse message : SpdmResult Unit) := fun message _ =>
    wp_of_ran fun _ hran => guarded_of_wire ((h.keep message).ran hran)
      ((within_keepLargeResponse (fun _ _ h => h.wire) message).ran hran)
  have hseal : ∀ id config app room, Within (Guarded (Table false) R)
      (withSession id SpdmStatus.invalidParameter
        (SpdmSession.encodeSpdmSecuredMessage config app room false)) := fun _ _ _ _ =>
    within_withSession_of fun _ _ _ _ hat hran =>
      guarded_of_acts h.act (.single (.table (.slot trivial hat (.single (.sealing _ _ _ hran)))))
  have hdown : ∀ id, Within (Guarded (Table false) R) (withSession id
      SpdmStatus.invalidStateLocal (update SpdmSession.teardown)) := fun _ =>
    within_withSession_of fun _ _ s t hat hran => by
      obtain ⟨_, hs⟩ | ⟨_, hs⟩ := hran <;> cases hs
      exact guarded_of_acts h.act (.single (.table (.slot trivial hat (.single (.free s)))))
  rw [sendMessage_eq]
  exact .bind (within_sealAndSend hkeep (fun id _ => hseal id)
    (fun _ _ => guarded_of_wire (h.device rfl) rfl) message isApp) fun m =>
    within_settleSent (fun c => guarded_of_wire (h.drop c) rfl)
      (fun _ _ => guarded_of_acts h.act (.single (.negotiates (.of_eq rfl)))) (fun id _ => hdown id)
      (fun id hsome => within_establish h (hid id hsome)) (fun _ => within_establishLast h) m

theorem leads_decodeRequest :
    Leads (Table false) (Guarded (Table false) R)
      (fun _ c => id ≠ invalidSessionId ∧ Table false c) (decodeRequest id message) := by
  have hopen : ∀ config room, Leads (Table false) (Guarded (Table false) R)
      (fun _ c => id ≠ invalidSessionId ∧ Table false c)
      (withSession id SpdmStatus.invalidParameter
        (SpdmSession.decodeSpdmSecuredMessage config message room true)) := by
    intro config room c hc
    have hstep : Within (Guarded (Table false) R) (withSession id SpdmStatus.invalidParameter
        (SpdmSession.decodeSpdmSecuredMessage config message room true)) :=
      within_withSession_of fun _ _ _ _ hat hran =>
        guarded_of_acts h.act (.single (.table (.slot trivial hat (.single (.opening _ _ _ hran)))))
    unfold wp
    cases hrun : withSession id SpdmStatus.invalidParameter
        (SpdmSession.decodeSpdmSecuredMessage config message room true) c with
    | panic => trivial
    | err e c' => exact hstep.of_err hrun
    | ok app c' =>
      refine ⟨hstep.of_ok hrun, fun hid => ?_, (hstep.of_ok hrun hc).2⟩
      -- a free slot is idle, and an idle session opens nothing
      obtain ⟨i, s, t, hat, hs, -⟩ := withSession_eq_ok hrun
      have hidle := hc.free s (List.mem_of_getElem? hat.slot) (hat.sessionId.trans hid)
      rw [SpdmSession.decodeSpdmSecuredMessage_notStarted hidle] at hs
      cases hs
  refine .bind .read fun c => ?_
  refine .bind (.mono (.mapErr (hopen _ _)) (fun _ h => h.2) fun _ _ h => h) fun app => ?_
  exact .mapErr (.of_still within_liftCall)

theorem leads_nextRequest : Leads (Table false) (Guarded (Table false) R)
    (fun r c => (∀ id, r.1 = some id → id ≠ invalidSessionId) ∧ Table false c) nextRequest := by
  have hreceive : Within (Guarded (Table false) R) receiveMessage :=
    within_receiveMessage.mono fun _ _ hd => guarded_of_wire (h.device hd) hd.wire
  refine .bind (fun c hc => wp_mono (hreceive c)
    (fun _ _ h => ⟨h, (h hc).2⟩) fun _ _ h => h) fun ⟨message, secured⟩ => ?_
  cases secured with
  | false => exact .ret fun _ hc => ⟨fun _ h => (by cases h), hc⟩
  | true =>
    refine .bind (.of_still (within_parse _)) fun id => .bind (.of_still (.orFail _ _)) fun id =>
      .bind (leads_decodeRequest h) fun ⟨request, isApp⟩ => .assume fun hid => ?_
    refine .bind (fun c hc => wp_mono
      (guarded_of_mild h within_callWatchdog c) (fun _ _ h => ⟨h, (h hc).2⟩) fun _ _ h => h)
      fun _ => .ret fun _ hc => ⟨fun _ h => ?_, hc⟩
    cases h
    exact hid

end

theorem wp_serveRequest
    (hid : ∀ id, sessionId = some id → id ≠ invalidSessionId) (hc : Table false c)
    (hdispatch : R c (requestState bytes c) → Table false (requestState bytes c) →
      wp (dispatchAt depth sessionId bytes) (fun _ c₂ => R c c₂ ∧ Table false c₂)
        (fun _ c₂ => R c c₂ ∧ Table false c₂) (requestState bytes c)) :
    wp (serveRequest depth sessionId bytes) (fun _ c₂ => R c c₂ ∧ Table false c₂)
      (fun _ c₂ => R c c₂ ∧ Table false c₂) c := by
  have hstate : R c (requestState bytes c) := by
    unfold requestState
    split
    · exact h.leave _ c
    · exact StepRel.refl c
  refine wp_serve (fun _ => ⟨StepRel.refl c, hc⟩) (hdispatch hstate
    (guarded_of_wire hstate (chunkStep_requestState bytes c).wire hc).2) fun r c₁ hc₁ => ?_
  exact wp_mono (within_sendResponse (within_sendMessage h hid · false) r c₁)
    (fun _ _ hg => ⟨StepRel.trans hc₁.1 (hg hc₁.2).1, (hg hc₁.2).2⟩)
    fun _ _ hg => ⟨StepRel.trans hc₁.1 (hg hc₁.2).1, (hg hc₁.2).2⟩

theorem within_serveAppMessage (hdeliver : ∀ id request c, R c (recordDelivery id request c))
    (hid : id ≠ invalidSessionId) (request : Bytes) :
    Within (Guarded (Table false) R) (serveAppMessage id request) :=
  .bind (.update fun c hc => ⟨hdeliver id request c, hc.of_session_eq rfl hc.last⟩) fun _ =>
    within_sendResponse (within_sendMessage h (fun _ h => Option.some.inj h ▸ hid) · true) _

omit h in
theorem within_serveRequest (hact : ∀ {c c'}, Act false anySession c c' → R c c')
    (hwire : ∀ {c c'}, WireStep c c' → R c c') (depth : Nat)
    (hid : ∀ id, sessionId = some id → id ≠ invalidSessionId) (bytes : Bytes) :
    Within (Guarded (Table false) R) (serveRequest depth sessionId bytes) := by
  refine within_guarded fun c hc => ?_
  refine wp_serveRequest (.of_wire hact hwire) hid hc fun hR hc₁ => ?_
  exact wp_mono (within_dispatchAt hact hwire depth sessionId bytes _)
    (fun _ _ hg => ⟨StepRel.trans hR (hg hc₁).1, (hg hc₁).2⟩)
    fun _ _ hg => ⟨StepRel.trans hR (hg hc₁).1, (hg hc₁).2⟩

omit h in
theorem ran_processMessage (hact : ∀ {c c'}, Act false anySession c c' → R c c')
    (hwire : ∀ {c c'}, WireStep c c' → R c c')
    (hdeliver : ∀ id request c, R c (recordDelivery id request c)) (hc : Table false c)
    (h : Ran (processMessage depth) c c') : R c c' ∧ Table false c' := by
  have htakes : Takes R := .of_wire hact hwire
  have hserve : ∀ r : Option Nat × Bytes × Bool, (∀ id, r.1 = some id → id ≠ invalidSessionId) →
      Within (Guarded (Table false) R) (serveNext depth r) := by
    rintro ⟨_ | id, request, _ | _⟩ hid
    · exact within_serveRequest hact hwire depth hid request
    · exact within_serveRequest hact hwire depth hid request
    · exact within_serveRequest hact hwire depth hid request
    · exact within_serveAppMessage htakes hdeliver (hid id rfl) request
  rw [processMessage_eq] at h
  have hrun : Leads (Table false) (Guarded (Table false) R) (fun _ _ => True)
      (nextRequest >>= serveNext depth) :=
    .bind (leads_nextRequest htakes) fun r => .assume fun hid => .of_within (hserve r hid)
  exact hrun.within.ran h hc hc

end Process

/-! ## §4. Runs. -/

/-- A call of `process_message` from a state that meets a condition, or a
move of the surroundings. -/
def StepIf (ok : SpdmContext → Prop) (c c' : SpdmContext) : Prop :=
  ((∃ depth, Ran (processMessage depth) c c') ∧ ok c) ∨ Surroundings c c'

abbrev Step : SpdmContext → SpdmContext → Prop := StepIf fun _ => True

def Reachable (c : SpdmContext) : Prop := ∃ c₀, Started c₀ ∧ Steps Step c₀ c

instance : StepRel (fun _ _ : SpdmContext => True) where
  refl _ := trivial
  trans _ _ := trivial

theorem StepIf.table {ok : SpdmContext → Prop} (h : StepIf ok c c')
    (hc : Table false c) : Table false c' := by
  obtain ⟨⟨depth, h⟩, -⟩ | h := h
  · exact (ran_processMessage (fun _ => trivial) (fun _ => trivial)
      (fun _ _ _ => trivial) hc h).2
  · exact hc.surroundings h

theorem Reachable.table (h : Reachable c) : Table false c := by
  obtain ⟨c₀, hstart, hsteps⟩ := h
  exact hsteps.keep (fun _ _ hstep => hstep.table) (.of_started hstart)

def serveNoting {γ : Type} (note : SpdmContext → SpdmContext → γ → Option γ)
    (random : List Bytes) :
    List (SpdmContext → Bytes) → SpdmContext → γ → Option (SpdmContext × γ)
  | [], c, noted => some (c, noted)
  | packet :: packets, c, noted =>
    let c := { c with world := { c.world with inbox := [some (packet c)], random := random } }
    match processMessage 3 c with
    | .ok _ c' => (note c c' noted).bind (serveNoting note random packets c')
    | .err _ c' => (note c c' noted).bind (serveNoting note random packets c')
    | .panic => none

theorem serveNoting_keep {γ : Type} {note : SpdmContext → SpdmContext → γ → Option γ}
    {random : List Bytes} {packets : List (SpdmContext → Bytes)} {P : SpdmContext → γ → Prop}
    (hmove : ∀ {c noted} inbox, P c noted →
      P { c with world := { c.world with inbox := inbox, random := random } } noted)
    (hcall : ∀ {c c' noted noted'}, P c noted → Ran (processMessage 3) c c' →
      note c c' noted = some noted' → P c' noted')
    {c c' : SpdmContext} {noted noted' : γ} (hc : P c noted)
    (h : serveNoting note random packets c noted = some (c', noted')) : P c' noted' := by
  induction packets generalizing c noted with
  | nil =>
    cases h
    exact hc
  | cons packet packets ih =>
    rw [serveNoting] at h
    dsimp only at h
    generalize hc₁ : ({ c with world := { c.world with
      inbox := [some (packet c)], random := random } }) = c₁ at h
    have hmoved : P c₁ noted := hc₁ ▸ hmove _ hc
    split at h
    case h_1 a c₂ hrun =>
      obtain ⟨noted₁, hnote, h⟩ := Option.bind_eq_some_iff.1 h
      exact ih (hcall hmoved (.inl ⟨a, hrun⟩) hnote) h
    case h_2 e c₂ hrun =>
      obtain ⟨noted₁, hnote, h⟩ := Option.bind_eq_some_iff.1 h
      exact ih (hcall hmoved (.inr ⟨e, hrun⟩) hnote) h
    case h_3 => cases h

def serveAll (ok : SpdmContext → Bool) (random : List Bytes)
    (packets : List (SpdmContext → Bytes)) (c : SpdmContext) : Option SpdmContext :=
  (serveNoting (fun c _ _ => if ok c then some () else none) random packets c ()).map Prod.fst

theorem steps_serveAll {ok : SpdmContext → Bool} {random : List Bytes}
    {packets : List (SpdmContext → Bytes)}
    (h : serveAll ok random packets c = some c') : Steps (StepIf fun c => ok c = true) c c' := by
  obtain ⟨⟨c₁, u⟩, hserve, rfl⟩ := Option.map_eq_some_iff.1 h
  refine serveNoting_keep (P := fun c' _ => Steps (StepIf fun c => ok c = true) c c')
    (fun _ hsteps => hsteps.tail (.inr rfl)) (fun hsteps hran hnote => ?_) .refl hserve
  obtain ⟨hok, -⟩ := Option.ite_none_right_eq_some.1 hnote
  exact hsteps.tail (.inl ⟨⟨3, hran⟩, hok⟩)

theorem reachable_serveAll {ok : SpdmContext → Bool} {random : List Bytes}
    {packets : List (SpdmContext → Bytes)} (hc : Reachable c)
    (h : serveAll ok random packets c = some c') : Reachable c' := by
  obtain ⟨c₀, hstart, hsteps⟩ := hc
  refine ⟨c₀, hstart, hsteps.trans ((steps_serveAll h).lift fun _ _ hstep => .single ?_)⟩
  exact hstep.imp_left fun h => ⟨h.1, trivial⟩

end Responder

end Spdm
