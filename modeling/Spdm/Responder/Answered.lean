/-
  Spdm.Responder.Answered — every answered request gets its answer, but one.
-/
import Mathlib.Data.List.Forall2
import Spdm.Responder.Chunks
import Spdm.Responder.Standing

namespace Spdm

open Effect Codec

variable {depth id : Nat} {sessionId : Option Nat} {c c' : SpdmContext} {isApp : Bool}
    {bytes request response : Bytes} {s t : SpdmSession}

namespace Responder

open SpdmContext SpdmRequestResponseCode SpdmErrorCode

/-! ## §1. Slots that keep what sealing reads. -/

def KeepsSealing (c c' : SpdmContext) : Prop := List.Forall₂ SealKept c.session c'.session

instance : StepRel KeepsSealing where
  refl c := StepRel.refl c.session
  trans h h' := StepRel.trans (R := List.Forall₂ SealKept) h h'

theorem KeepsSealing.of_session_eq (h : c'.session = c.session) : KeepsSealing c c' := by
  unfold KeepsSealing
  rw [h]
  exact StepRel.refl _

theorem KeepsSealing.of_wire (h : WireStep c c') : KeepsSealing c c' :=
  .of_session_eq (by rw [h])

instance : MildRel anySession KeepsSealing where
  silent h := .of_session_eq h.session
  note _ hat h := by
    unfold NoteStep at h
    refine forall₂_set hat.slot ⟨by rw [h], fun ht => ?_⟩
    rw [h] at ht
    exact ht

theorem KeepsSealing.sessionViaId (h : KeepsSealing c c')
    (hs : c.sessionViaId id = some s) : ∃ t, c'.sessionViaId id = some t ∧ SealKept s t := by
  unfold KeepsSealing at h
  unfold SpdmContext.sessionViaId at hs ⊢
  generalize c.session = l at h hs
  generalize c'.session = l' at h ⊢
  induction h with
  | nil => cases hs
  | @cons u v _ _ huv _ ih =>
    have hid : v.sessionId = u.sessionId := by rw [huv.rest]
    rw [List.find?_cons] at hs ⊢
    rw [hid]
    cases hfound : u.sessionId == id with
    | true =>
      rw [hfound] at hs
      cases hs
      exact ⟨v, rfl, huv⟩
    | false =>
      rw [hfound] at hs
      exact ih hs

theorem KeepsSealing.gone (h : KeepsSealing c c') (hc : Table false c)
    (hid : id ≠ invalidSessionId) : (teardownSession id c').sessionViaId id = none := by
  have htable : Table false { c' with runtimeInfo := c.runtimeInfo } := by
    refine ⟨?_, fun i t ht hused => ?_, fun t ht hfree => ?_, hc.last⟩
    · exact (List.Forall₂.length_eq h) ▸ hc.bound
    · obtain ⟨s, hs, hst⟩ := forall₂_getElem?_inv h ht
      have hsame : t.sessionId = s.sessionId := by rw [hst.rest]
      rw [hsame] at hused ⊢
      exact hc.own i s hs hused
    · obtain ⟨i, hi⟩ := List.mem_iff_getElem?.1 ht
      obtain ⟨s, hs, hst⟩ := forall₂_getElem?_inv h hi
      have hsame : t.sessionId = s.sessionId := by rw [hst.rest]
      have hstate : t.sessionState = s.sessionState := by rw [hst.rest]
      exact hstate.trans (hc.free s (List.mem_of_getElem? hs) (hsame.symm.trans hfree))
  have hgone := Table.teardown_gone htable hid
  have hsession : (teardownSession id { c' with runtimeInfo := c.runtimeInfo }).session =
      (teardownSession id c').session := by
    unfold teardownSession mapSession
    dsimp only
    cases c'.session.findIdx? fun s => s.sessionId == id <;> rfl
  rw [hsession] at hgone
  exact List.find?_eq_none.2 fun t ht => by simpa using hgone t ht

/-! ## §2. Handlers of a session. -/

def Service.keepsSealing : Service → Bool
  | digest | certificate | measurement | vendorDefined | chunkGet | getEncapsulatedRequest
  | deliverEncapsulatedResponse | heartbeat _ | keyUpdate _ | endSession _ | error _ => true
  | _ => false

def Service.finishes (id : Nat) (service : Service) : Prop :=
  service = .finish id ∨ service = .pskFinish id

theorem serviceOf_session {service : Service} (h : serviceOf c (some id) bytes = some service) :
    service.keepsSealing = true ∨ service.finishes id ∨ service = .chunkSend := by
  have hrouted := routed_of_serviceOf h
  cases service with
  | version | capability | algorithm => cases hrouted.1
  | challenge | keyExchange | pskExchange => cases hrouted
  | chunkSend => exact .inr (.inr rfl)
  | finish j => exact .inr (.inl (.inl (hrouted.1 id rfl ▸ rfl)))
  | pskFinish j => exact .inr (.inl (.inr (Option.some.inj hrouted.1 ▸ rfl)))
  | _ => exact .inl rfl

section
variable [Crypto] [Device]

theorem within_handle_keepsSealing {dispatch : Dispatch}
    {service : Service} (h : service.keepsSealing = true) :
    Within KeepsSealing (service.handle dispatch sessionId bytes) := by
  have ht : ∀ id : Nat, anySession id := fun _ => trivial
  cases service with
  | chunkGet => exact within_answer (within_handleSpdmChunkGet (fun _ _ h => .of_wire h.wire) bytes)
  | keyUpdate id =>
    exact within_answer (within_keyUpdate (ht id) (fun _ _ => NoteAct.rel) (fun v op =>
      within_withSession_of fun _ _ _ _ hat hran =>
        forall₂_set hat.slot ((within_applyKeyUpdate_kept v op).ran hran)) bytes)
  | endSession id =>
    refine within_answer (within_endSession (ht id) fun call => .update fun c => ?_)
    split
    · exact .of_session_eq rfl
    · exact StepRel.refl c
  | version | capability | algorithm | keyExchange | pskExchange | chunkSend => cases h
  | finish id | pskFinish id => cases h
  | _ => exact within_handle_notes rfl fun _ _ => trivial

theorem wp_handle_finishes {dispatch : Dispatch}
    {service : Service} (h : service.finishes id) (hc : Table false c)
    (hid : id ≠ invalidSessionId) :
    wp (service.handle dispatch sessionId bytes) (fun r c' => r.isSome = true → KeepsSealing c c')
      (fun _ c' => c'.sessionViaId id = none) c := by
  have ht : anySession id := trivial
  have hderive : ∀ th2, Leads (fun _ => True) KeepsSealing (fun _ _ => True) (deriveData id th2) :=
    fun th2 => .of_within (within_deriveData_kept (fun hat h => forall₂_set hat.slot h) th2)
  have hown : ∀ {m : Handler Bytes}, Leads (fun _ => True) KeepsSealing (fun _ _ => True) m →
      wp (answer (ownSession id m)) (fun r c' => r.isSome = true → KeepsSealing c c')
        (fun _ c' => c'.sessionViaId id = none) c := fun hm => by
    unfold answer ownSession
    rw [wp_bind, wp_bind, wp_attempt]
    exact wp_mono (hm c trivial) (fun _ _ h _ => h.1) fun _ _ h => h.gone hc hid
  obtain rfl | rfl := h
  · show wp (handleSpdmFinish id bytes) _ _ c
    unfold handleSpdmFinish
    rw [wp_bind, wp_read]
    exact wp_ite (fun _ h => by cases h) fun _ => hown (leads_writeSpdmFinishResponse ht
      (fun _ _ => NoteAct.rel) (fun _ _ _ h => h) hderive bytes)
  · exact hown (leads_writeSpdmPskFinishResponse ht (fun _ _ => NoteAct.rel) (fun _ _ _ h => h)
      hderive bytes)

/-! ## §3. What a request leaves of its session. -/

inductive FinishRefused (id : Nat) : Bytes → SpdmContext → Prop where
  | finish {bytes : Bytes} {c c' : SpdmContext} {service : Service} {r : Refusal}
      (hservice : serviceOf c (some id) bytes = some service) (hfinishes : service.finishes id)
      (h : service.handle (dispatchAt 0) (some id) bytes c = .err r c') : FinishRefused id bytes c
  | carried {bytes request : Bytes} {c c' : SpdmContext}
      (hservice : serviceOf c (some id) bytes = some .chunkSend)
      (htake : takeRequest bytes c = .ok (some request) c')
      (h : FinishRefused id request c') : FinishRefused id bytes c

def Fate (id : Nat) (bytes : Bytes) (c c' : SpdmContext) : Prop :=
  (¬ FinishRefused id bytes c ∧ KeepsSealing c c') ∨
    (FinishRefused id bytes c ∧ c'.sessionViaId id = none)

abbrev Decides (id : Nat) (bytes : Bytes) (c : SpdmContext) (m : Handler (Option Bytes))
    (c₁ : SpdmContext) : Prop :=
  wp m (fun r c' => r.isSome = true → Fate id bytes c c')
    (fun e c' => e.2.isSome = true → Fate id bytes c c') c₁

theorem Fate.of_wire {c₁ : SpdmContext} (h : Fate id bytes c c₁) (hw : WireStep c₁ c') :
    Fate id bytes c c' := by
  have hsession : c'.session = c₁.session := by rw [hw]
  refine h.imp (fun h => ⟨h.1, StepRel.trans h.2 (.of_wire hw)⟩) fun h => ⟨h.1, ?_⟩
  unfold SpdmContext.sessionViaId
  rw [hsession]
  exact h.2

theorem finishRefused_chunkSend_iff (hservice : serviceOf c (some id) bytes = some .chunkSend) :
    FinishRefused id bytes c ↔ ∃ request c', takeRequest bytes c = .ok (some request) c' ∧
      FinishRefused id request c' := by
  constructor
  · rintro (⟨h, hfinishes, -⟩ | ⟨-, htake, h⟩)
    · cases hservice.symm.trans h
      obtain h | h := hfinishes <;> cases h
    · exact ⟨_, _, htake, h⟩
  · rintro ⟨request, c', htake, h⟩
    exact .carried hservice htake h

theorem decides_answerLargeRequest {c₁ : SpdmContext} {status : Except SpdmStatus Unit}
    {response : Option Bytes} (h : response.isSome = true → Fate id bytes c c₁) :
    Decides id bytes c (answerLargeRequest status response) c₁ := by
  cases response with
  | none => cases status <;> exact fun h => by cases h
  | some response =>
    exact wp_mono (within_answerLargeRequest (R := WireStep) (fun _ _ h => h.wire) c₁)
      (fun _ _ hw _ => (h rfl).of_wire hw) fun _ _ hw _ => (h rfl).of_wire hw

theorem decides_handleSpdmChunkSend {dispatch : Dispatch}
    (hservice : serviceOf c (some id) bytes = some .chunkSend)
    (hdispatch : ∀ request c₁, WireStep c c₁ →
      Decides id request c₁ (dispatch (some id) request) c₁) :
    Decides id bytes c (handleSpdmChunkSend dispatch (some id) bytes) c := by
  have hiff := finishRefused_chunkSend_iff hservice
  have htaken := within_takeRequest (R := WireStep) (fun _ _ h => h.wire) bytes c
  have hwrite : Decides id bytes c (writeSpdmChunkSendResponse dispatch (some id) bytes) c := by
    unfold writeSpdmChunkSendResponse
    rw [Decides, wp_bind]
    unfold wp at htaken ⊢
    cases htake : takeRequest bytes c with
    | panic => trivial
    | err r c₁ =>
      rw [htake] at htaken
      refine fun _ => .inl ⟨fun h => ?_, .of_wire htaken⟩
      obtain ⟨request, c', h, -⟩ := hiff.1 h
      cases htake.symm.trans h
    | ok request c₁ =>
      rw [htake] at htaken
      cases request with
      | none =>
        have hnot : ¬ FinishRefused id bytes c := fun h => by
          obtain ⟨request, c', h, -⟩ := hiff.1 h
          cases htake.symm.trans h
        have hfate : Fate id bytes c c₁ := .inl ⟨hnot, .of_wire htaken⟩
        show wp (writeChunkSendAck 0 >>= fun ack => ret (some ack)) _ _ c₁
        rw [wp_bind]
        exact wp_mono (within_writeChunkSendAck (R := fun c c' => c' = c) 0 c₁)
          (fun _ _ h _ => h ▸ hfate) fun _ _ h _ => h ▸ hfate
      | some request =>
        have hsame : FinishRefused id bytes c ↔ FinishRefused id request c₁ := by
          refine hiff.trans ⟨?_, fun h => ⟨request, c₁, htake, h⟩⟩
          rintro ⟨request', c', h, hrefused⟩
          cases htake.symm.trans h
          exact hrefused
        have hfate : ∀ {c₂}, Fate id request c₁ c₂ → Fate id bytes c c₂ := fun h => by
          unfold Fate at h ⊢
          rw [hsame]
          exact h.imp_left fun h => ⟨h.1, StepRel.trans (.of_wire htaken) h.2⟩
        show wp (attempt (dispatch (some id) request) >>= fun r =>
          answerLargeRequest (dispatched r).1 (dispatched r).2) _ _ c₁
        rw [wp_bind, wp_attempt]
        exact wp_mono (hdispatch request c₁ htaken)
          (fun _ _ h => decides_answerLargeRequest fun hr => hfate (h hr))
          fun _ _ h => decides_answerLargeRequest fun hr => hfate (h hr)
  unfold handleSpdmChunkSend
  rw [Decides, wp_bind, wp_attempt]
  exact wp_mono hwrite (fun _ _ h => h) fun e c₁ h he => (h he).of_wire rfl

theorem fate_dispatchAt (depth : Nat) (hc : Table false c) :
    Decides id bytes c (dispatchAt depth (some id) bytes) c := by
  induction depth generalizing bytes c with
  | zero => exact trivial
  | succ depth ih =>
    refine wp_dispatchAt (fun _ h => by cases h) fun service hservice => ?_
    obtain hkeeps | hfinishes | rfl := serviceOf_session hservice
    · have hnot : ¬ FinishRefused id bytes c := by
        rintro (⟨h, hfinishes, -⟩ | ⟨h, -, -⟩)
        · cases hservice.symm.trans h
          obtain rfl | rfl := hfinishes <;> cases hkeeps
        · cases hservice.symm.trans h
          cases hkeeps
      exact wp_mono (within_handle_keepsSealing hkeeps c) (fun _ _ h _ => .inl ⟨hnot, h⟩)
        fun _ _ h _ => .inl ⟨hnot, h⟩
    · have hid : id ≠ invalidSessionId := by
        have hrouted := routed_of_serviceOf hservice
        obtain rfl | rfl := hfinishes <;> exact (hrouted.2.slotAt (by decide) hc).1
      have hdispatch : service.handle (dispatchAt 0) (some id) bytes =
          service.handle (dispatchAt depth) (some id) bytes := by
        obtain rfl | rfl := hfinishes <;> rfl
      have hwp : wp (service.handle (dispatchAt depth) (some id) bytes) _ _ c :=
        wp_handle_finishes hfinishes hc hid
      unfold wp at hwp ⊢
      cases hrun : service.handle (dispatchAt depth) (some id) bytes c with
      | panic => trivial
      | ok r c' =>
        rw [hrun] at hwp
        refine fun hr => .inl ⟨?_, hwp hr⟩
        rintro (⟨h, -, herr⟩ | ⟨h, -, -⟩)
        · cases hservice.symm.trans h
          rw [hdispatch, hrun] at herr
          cases herr
        · cases hservice.symm.trans h
          obtain h | h := hfinishes <;> cases h
      | err r c' =>
        rw [hrun] at hwp
        exact fun _ => .inr ⟨.finish hservice hfinishes (hdispatch ▸ hrun), hwp⟩
    · exact decides_handleSpdmChunkSend hservice fun request c₁ hw =>
        ih (guarded_of_wire (R := fun _ _ => True) trivial hw hc).2

/-- A request whose ERROR is lost: a refused FINISH that came in on the
session. -/
def TearsDown (id : Nat) (request : Bytes) (isApp : Bool) (c : SpdmContext) : Prop :=
  isApp = false ∧ FinishRefused id request (requestState request c)

theorem fate_dispatchRequest (hc : Table false c) :
    wp (dispatchRequest depth (some id) request)
      (fun r c' => r.2.isSome = true → Fate id request (requestState request c) c')
      (fun _ _ => True) c :=
  wp_dispatchRequest
    (P := fun r c' => r.isSome = true → Fate id request (requestState request c) c') (fun _ h => by cases h) (fate_dispatchAt depth (guarded_of_wire (R := fun _ _ => True) trivial
      (chunkStep_requestState request c).wire hc).2)

theorem fate_answerNext {c₁ : SpdmContext} {a : Answer} (hc : Table false c)
    (h : answerNext depth (sessionId, request, isApp) c = .ok a c₁)
    (hresponse : a.response.isSome = true) :
    a.sessionId = sessionId ∧ ∀ id, sessionId = some id →
      (¬ TearsDown id request isApp c ∧ KeepsSealing c c₁) ∨
        (TearsDown id request isApp c ∧ c₁.sessionViaId id = none) := by
  refine wp_ok (Q := fun a c₁ => a.response.isSome = true → a.sessionId = sessionId ∧
    ∀ id, sessionId = some id → (¬ TearsDown id request isApp c ∧ KeepsSealing c c₁) ∨
      (TearsDown id request isApp c ∧ c₁.sessionViaId id = none)) (E := fun _ _ => True)
    (wp_answerNext (fun id hid happ _ => ?_) fun hplain => ?_) h hresponse
  · refine ⟨hid.symm, fun _ _ => .inl ⟨fun h => ?_, .of_session_eq rfl⟩⟩
    cases happ.symm.trans h.1
  · cases sessionId with
    | none =>
      refine wp_mono (Ends.any _ c) (fun _ _ _ _ => ⟨rfl, fun _ h => ?_⟩) fun _ _ _ => trivial
      cases h
    | some id =>
      refine wp_mono (fate_dispatchRequest hc) (fun _ _ hfate hr => ⟨rfl, fun id' hid => ?_⟩)
        fun _ _ h => h
      cases hid
      refine (hfate hr).imp (fun h => ⟨fun ht => h.1 ht.2, ?_⟩) fun h =>
        ⟨⟨hplain.resolve_left (fun h => by cases h), h.1⟩, h.2⟩
      exact StepRel.trans (.of_wire (chunkStep_requestState request c).wire) h.2

/-! ## §4. Answered requests. -/

structure Sealable (config : Config) (app : Bytes) (s : SpdmSession) : Prop where
  started : s.sessionState ≠ .notStarted
  cipher : SpdmAeadAlgo.tagSize? s.cryptoParam.aeadAlgo = some 16
  counter : (s.direction false).sequenceNumber ≠ maxSequenceNumber
  header : 6 + s.transportParam.sequenceNumberCount ≤ aadBufferSize
  record : 6 + s.transportParam.sequenceNumberCount + (app.length + 2) + 16 ≤
    config.senderBufferSize

omit [Crypto] [Device] in
theorem Sealable.kept {config : Config} {app : Bytes} (h : Sealable config app s)
    (hst : SealKept s t) : Sealable config app t := by
  have hstate : t.sessionState = s.sessionState := by rw [hst.rest]
  have hcipher : t.cryptoParam = s.cryptoParam := by rw [hst.rest]
  have htransport : t.transportParam = s.transportParam := by rw [hst.rest]
  exact ⟨hstate ▸ h.started, hcipher ▸ h.cipher, fun ht => h.counter (hst.direction ht),
    htransport ▸ h.header, htransport ▸ h.record⟩

instance {config : Config} {app : Bytes} : Decidable (Sealable config app s) :=
  decidable_of_iff (_ ∧ _ ∧ _ ∧ _ ∧ _)
    ⟨fun ⟨h₁, h₂, h₃, h₄, h₅⟩ => ⟨h₁, h₂, h₃, h₄, h₅⟩, fun ⟨h₁, h₂, h₃, h₄, h₅⟩ =>
      ⟨h₁, h₂, h₃, h₄, h₅⟩⟩

def Encrypts (app : Bytes) (s : SpdmSession) : Prop :=
  ∃ cipher tag, SpdmSession.encryption app (s.direction false) s = .ok (cipher, tag) ∧
    cipher.length = app.length + 2 ∧ tag.length = 16

omit [Device] in
theorem Sealable.sealOk {config : Config} {app : Bytes} (h : Sealable config app s)
    (hencrypts : Encrypts app s) :
    ∃ record t, SpdmSession.SealOk config app config.senderBufferSize false s record t := by
  obtain ⟨cipher, tag, henc, hcipher, htag⟩ := hencrypts
  have hrecord := h.record
  have hsafe : SpdmSession.SealsSafely config app config.senderBufferSize
    (s.direction false) s := by
    refine ⟨h.cipher, h.counter, fun _ => ⟨by omega, by omega⟩, fun _ => ⟨?_, ?_⟩⟩
    · rw [henc]
      exact fun h => by cases h
    · intro cipher' tag' henc'
      cases henc.symm.trans henc'
      exact ⟨hcipher, htag, hrecord⟩
  exact ⟨_, _, h.started, hsafe.encodeMsg_eq_ok_iff.2 ⟨cipher, tag, h.header, henc, rfl⟩, rfl⟩

/-- **Exactly one message is handed to the device**: up to its send, and
until the call returns, the packet that carries the response or what
replaces it. -/
def Answered (depth : Nat) (c c₁ : SpdmContext) (a : Answer) (response : Bytes) : Prop :=
  ∃ packet c₂, Carries c₁ a (replacement c₁ response) packet ∧
    sealAndSend a.sessionId response a.isApp c₁ = .ok (replacement c₁ response) c₂ ∧
    c₂.world.outbox = c.world.outbox ++ [packet] ∧
    ∀ c', Ran (processMessage depth) c c' → c'.world.outbox = c.world.outbox ++ [packet]

theorem answered_iff_seals {c₁ : SpdmContext} {a : Answer}
    (hdispatch : dispatchNext depth c = .ok a c₁) (hresponse : a.response = some response)
    (hfits : FitsChunkBuffer c₁ response)
    (htransport : Encapsulates c₁ a (replacement c₁ response))
    (hsend : c.world.sendResults.headD true = true) :
    Answered depth c c₁ a response ↔ Seals c₁ a (replacement c₁ response) := by
  have happ := dispatchNext_isApp hdispatch
  have hunsent := (within_dispatchNext_unsent depth).of_ok hdispatch
  constructor
  · rintro ⟨packet, c₂, hcarries, -⟩
    exact hcarries.seals
  · intro hseals
    obtain ⟨packet, hcarries⟩ := hseals.carries htransport
    obtain ⟨c₂, hseal, houtbox⟩ := sealAndSend_of_carries happ hfits hcarries
      (hunsent.sendResults ▸ hsend)
    rw [hunsent.outbox] at houtbox
    refine ⟨packet, c₂, hcarries, hseal, houtbox, fun c' hran => ?_⟩
    -- the rest of the call runs from `c₂`
    refine hran.of_wp (Q := fun c' => c'.world.outbox = c.world.outbox ++ [packet]) ?_
    rw [processMessage_eq_send, wp_bind, wp_of_ok hdispatch]
    unfold sendAnswer sendResponse
    simp only [hresponse]
    rw [wp_bind, wp_attempt, sendMessage_eq, wp_bind, wp_of_ok hseal]
    have hsettle : Within Unsent (settleSent a.sessionId (replacement c₁ response)) :=
      within_settleSent_steady (fun _ _ h => h.toUnsent) (fun _ _ => ⟨rfl, rfl, rfl, rfl⟩) _ _
    exact wp_mono (hsettle c₂)
      (fun _ _ h => h.outbox.trans houtbox) fun _ _ h => h.outbox.trans houtbox

/-- What the responder counts on to get `message` out: the transport takes
it, the device sends and the cipher encrypts; and the session the request
came in on, as it was then, has a response left and room for the record. -/
structure GoesThrough (c c₀ c₁ : SpdmContext) (a : Answer) (message : Bytes) : Prop where
  transport : Encapsulates c₁ a message
  device : c.world.sendResults.headD true = true
  cipher : ∀ id app s, a.sessionId = some id → c₁.sessionViaId id = some s →
    c.transportEncap.encapApp message c.build.config.senderBufferSize a.isApp = some (.ok app) →
    Encrypts app s
  session : ∀ id app, a.sessionId = some id →
    c.transportEncap.encapApp message c.build.config.senderBufferSize a.isApp = some (.ok app) →
    ∃ s, c₀.sessionViaId id = some s ∧ Sealable c.build.config app s

end

/-! ## §5. Small runs. -/

section
variable [Crypto] [Device]

def SameTransport (c c' : SpdmContext) : Prop := c'.transportEncap = c.transportEncap

instance : StepRel SameTransport where
  refl _ := rfl
  trans h h' := Eq.trans h' h

theorem sameTransport_of_steps {ok : SpdmContext → Prop}
    (h : Steps (StepIf ok) c c') : SameTransport c c' := by
  refine h.lift fun c₁ c₂ hstep => ?_
  obtain ⟨⟨depth, hran⟩, -⟩ | hmove := hstep
  · exact (within_processMessage (R := SameTransport) (fun _ _ h => h.transportEncap) (fun _ => rfl)
      (fun _ _ => rfl)
      (fun _ _ => rfl) fun _ _ => (within_dispatchAt_offline depth _ _).mono
        fun _ _ h => h.transportEncap).ran hran
  · rw [hmove]
    rfl

end

namespace SmallRun

open SmallBackend

def wrongPskFinish : Bytes :=
  encodePskFinish .spdmVersion12 [] ++ List.replicate 32 0

def refusedFinish : Option SpdmContext :=
  (serveAll (fun _ => true) [[1]] (smallNegotiation pskPeerCapabilities 136 ++ [smallPskExchange])
    pskWithContextResponder).map fun c => { c with world := { c.world with
      inbox := [some (inSession false wrongPskFinish c)] } }

def unanswered (c : SpdmContext) : Bool :=
  match dispatchNext 3 c, processMessage 3 c with
  | .ok a _, .ok _ c' =>
    decide (a.sessionId = some 0xFFFDFFFD) && decide (a.response = some [0x12, 0x7F, 6, 0]) &&
      decide (c'.world.outbox = c.world.outbox) && c.world.sendResults.headD true
  | _, _ => false

theorem encapsulates_small {n : Nat} (h : c.transportEncap = smallTransport n)
    (a : Answer) (message : Bytes) : Encapsulates c a message := by
  unfold Encapsulates
  rw [h]
  cases a.sessionId with
  | none => exact ⟨_, rfl⟩
  | some id => exact ⟨_, rfl, fun _ _ _ _ => ⟨_, rfl⟩⟩

def heartbeatRequest : SpdmContext :=
  smallContext (smallSession 0 0 0) [some (inSession false
    (encodeHeader .spdmVersion12 spdmRequestHeartbeat ++ [0, 0]) appResponder)]

def heartbeat : Option Nat × Bytes × Bool :=
  (some 0xFFFDFFFD, encodeHeader .spdmVersion12 spdmRequestHeartbeat ++ [0, 0], false)

def heartbeatAck : Bytes := [0x12, spdmResponseHeartbeatAck, 0, 0]

def heartbeatIn (c₀ : SpdmContext) : Bool :=
  (serviceOf (requestState heartbeat.2.1 c₀) heartbeat.1 heartbeat.2.1 ==
      some (.heartbeat 0xFFFDFFFD)) &&
    (c₀.sessionViaId 0xFFFDFFFD).any fun s =>
      decide (Sealable smallConfig (marked false heartbeatAck) s)

def heartbeatOut (a : Answer) (c₁ : SpdmContext) : Bool :=
  a.response == some heartbeatAck && !a.isApp && replacement c₁ heartbeatAck == heartbeatAck &&
    (c₁.sessionViaId 0xFFFDFFFD).all fun s =>
      match SpdmSession.encryption (marked false heartbeatAck) (s.direction false) s with
      | .ok (cipher, tag) => cipher.length == (marked false heartbeatAck).length + 2 &&
          tag.length == 16
      | .error _ => false

theorem table_heartbeatRequest : Table false heartbeatRequest := by
  refine ⟨by decide, fun i s hs hused => ?_, fun s hs hfree => ?_, by decide⟩
  · match i with
    | 0 => cases hs; decide
    | 1 => cases hs; exact absurd rfl hused
    | i + 2 => cases hs
  · obtain rfl | rfl : s = smallSession 0 0 0 ∨ s = {} := by
      simpa [heartbeatRequest, smallContext] using hs
    · cases hfree
    · rfl

end SmallRun

end Responder

end Spdm
