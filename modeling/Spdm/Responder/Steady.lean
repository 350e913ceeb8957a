/-
  Spdm.Responder.Steady — what dispatching leaves alone in any state.
-/
import Spdm.Responder.AppMessage
import Spdm.Responder.Run

namespace Spdm

open Effect Codec

variable {ε α : Type} {c c' : SpdmContext} {id : Nat}

namespace Responder

open SpdmContext SpdmRequestResponseCode

/-! ## §1. Offline and steady steps. -/

structure Unsent (c c' : SpdmContext) : Prop where
  build : c'.build = c.build
  transportEncap : c'.transportEncap = c.transportEncap
  sendResults : c'.world.sendResults = c.world.sendResults
  outbox : c'.world.outbox = c.world.outbox

structure Offline (c c' : SpdmContext) : Prop extends Unsent c c' where
  inbox : c'.world.inbox = c.world.inbox

structure Steady (c c' : SpdmContext) : Prop extends Offline c c' where
  configInfo : c'.configInfo = c.configInfo
  negotiateInfo : c'.negotiateInfo = { c.negotiateInfo with
    terminationPolicySet := c'.negotiateInfo.terminationPolicySet }
  provisionInfo : c'.provisionInfo = c.provisionInfo
  connectionState : c'.runtimeInfo.connectionState = c.runtimeInfo.connectionState

instance : StepRel Unsent where
  refl _ := ⟨rfl, rfl, rfl, rfl⟩
  trans h h' := ⟨h'.1.trans h.1, h'.2.trans h.2, h'.3.trans h.3, h'.4.trans h.4⟩

instance : StepRel Offline where
  refl c := ⟨StepRel.refl (R := Unsent) c, rfl⟩
  trans h h' := ⟨StepRel.trans (R := Unsent) h.toUnsent h'.toUnsent, h'.inbox.trans h.inbox⟩

instance : StepRel Steady where
  refl c := ⟨StepRel.refl (R := Offline) c, rfl, rfl, rfl, rfl⟩
  trans h h' := by
    refine ⟨StepRel.trans (R := Offline) h.toOffline h'.toOffline, h'.configInfo.trans h.configInfo,
      ?_, h'.provisionInfo.trans h.provisionInfo, h'.connectionState.trans h.connectionState⟩
    rw [h'.negotiateInfo, h.negotiateInfo]

theorem Offline.of_negotiate (h : NegotiateStep c c') : Offline c c' :=
  ⟨⟨h.build, h.transportEncap, h.sendResults, h.outbox⟩, h.inbox⟩

theorem Steady.of_quiet (h : QuietStep c c') : Steady c c' :=
  ⟨.of_negotiate h.toNegotiateStep, h.configInfo, h.negotiateInfo, h.provisionInfo,
    h.connectionState⟩

namespace Steady
variable {c c' : SpdmContext}

theorem setSlot (c : SpdmContext) (i : Nat) (t : SpdmSession) : Steady c (c.setSlot i t) :=
  ⟨⟨⟨rfl, rfl, rfl, rfl⟩, rfl⟩, rfl, rfl, rfl, rfl⟩

theorem chunk (h : ChunkStep c c') : Steady c c' := by
  rw [h]
  exact ⟨⟨⟨rfl, rfl, rfl, rfl⟩, rfl⟩, rfl, rfl, rfl, rfl⟩

theorem mildAct {touch : Nat → Prop} (h : MildAct touch c c') : Steady c c' := by
  cases h with
  | quiet h => exact .of_quiet h
  | slot => exact setSlot c _ _

theorem of_mild {m : Prog SpdmContext ε α}
    (h : Within (Steps (MildAct anySession)) m) : Within Steady m :=
  h.mono fun _ _ hs => hs.lift fun _ _ => mildAct

theorem within_session {m : Prog SpdmSession ε α} {e : ε} :
    Within Steady (withSession id e m) :=
  within_withSession_of fun c _ _ _ _ _ => setSlot c _ _

end Steady

open Steady

variable [Crypto] [Device]

/-! ## §2. Handlers that open sessions. -/

omit [Device] in
theorem within_deriveHandshake_steady {th1 : Bytes} :
    Within Steady (deriveHandshake id th1) := by
  refine .bind .read fun _ => .bind (.attempt within_session) fun r => ?_
  cases r with
  | ok _ => exact .ret _
  | error e => exact within_refuse

omit [Device] in
theorem within_deriveData_steady (id : Nat) {th2 : Bytes} : Within Steady (deriveData id th2) := by
  refine .bind .read fun _ => .bind (.attempt within_session) fun r => ?_
  cases r with
  | ok _ => exact .ret _
  | error e => exact within_refuse

section
omit [Crypto] [Device]

theorem within_teardown_steady (id : Nat) :
    Within Steady (update (teardownSession id) : Prog SpdmContext ε Unit) :=
  of_mild (.update fun c => steps_teardownSession trivial c)

theorem within_ownSession_steady {m : Handler α} (hm : Within Steady m) :
    Within Steady (ownSession id m) := by
  refine .bind (.attempt hm) fun r => ?_
  cases r with
  | ok _ => exact .ret _
  | error e => exact .bind (within_teardown_steady id) fun _ => .fail _

theorem steady_of_leads {m : Handler α} {J : α → SpdmContext → Prop}
    (h : Leads (fun _ => True) (Steps (NoteAct fun _ => False)) J m) : Within Steady m :=
  h.within.mono fun _ _ hs => (hs trivial).lift (R := Steady) fun _ _ hact => mildAct hact.mild

end

theorem within_handleSpdmKeyExchange_steady (bytes : Bytes) :
    Within Steady (handleSpdmKeyExchange bytes) := by
  have hopen : ∀ p, Within Steady (openKeyExchangeSession p) := by
    intro p
    refine .bind .read fun _ => .bind (.attempt within_session) fun r => ?_
    cases r with
    | ok _ => exact within_orRefuse within_session
    | error e => exact .bind (within_teardown_steady _) fun _ => within_refuse
  refine .bind (steady_of_leads (leads_prepareKeyExchange bytes)) fun p =>
    within_ownSession_steady ?_
  have ht : anySession p.sessionId := trivial
  have hrun : Leads (fun _ => True) Steady _ (runKeyExchange p) :=
    leads_keyExchange (S := Steps (MildAct anySession)) (P := fun _ => True) (I := fun _ => True)
      (J := fun _ => True) (K := fun _ => True) (fun hm => .of_within (of_mild hm))
      (fun _ _ h => h) ht (fun _ => within_responseMac ht)
      (fun _ => .of_within within_deriveHandshake_steady) rfl (.of_within (hopen p))
      (fun _ _ _ _ => trivial) (fun _ _ => .of_within (within_orRefuse within_session))
      (.of_within (.update fun _ => ⟨⟨⟨rfl, rfl, rfl, rfl⟩, rfl⟩, rfl, rfl, rfl, rfl⟩))
      fun _ h => h
  exact hrun.within.mono fun _ _ h => h trivial

theorem within_handleSpdmPskExchange_steady (bytes : Bytes) :
    Within Steady (handleSpdmPskExchange bytes) := by
  have hestablish : ∀ id, Within Steady (establishPsk id) := fun id =>
    .bind (.of_still transcriptHash_still) fun _ => .bind .read fun _ =>
      .bind (within_orRefuse within_session) fun _ =>
      .bind (within_orRefuse within_session) fun _ => of_mild within_callWatchdog
  refine .bind (steady_of_leads (leads_preparePskExchange bytes)) fun p =>
    within_ownSession_steady ?_
  have ht : anySession p.sessionId := trivial
  have hrun : Leads (fun _ => True) Steady (fun _ _ => True ∧ True) (runPskExchange p) := by
    refine leads_pskExchange (S := Steps (MildAct anySession)) (P := fun _ => True)
      (I := fun _ => True) (J := fun _ => True) (K := fun _ => True) (L := fun _ => True)
      (fun hm => .of_within (of_mild hm)) (fun _ _ h => h) ht (fun _ => within_responseMac ht)
      (fun _ => .of_within within_deriveHandshake_steady) rfl
      (.of_within (.bind .read fun _ => within_orRefuse within_session)) (fun _ _ _ _ => trivial)
      (.of_within (within_orRefuse within_session)) (fun c _ => ?_) fun _ _ =>
        .of_within (within_orRefuse within_session)
    split
    · exact .of_within (hestablish _)
    · exact .ret fun _ h => h
  exact hrun.within.mono fun _ _ h => h trivial

/-! ## §3. Dispatch. -/

omit [Crypto] [Device] in
theorem steady_teardownSession (id : Nat) (c : SpdmContext) : Steady c (c.teardownSession id) :=
  (steps_teardownSession (show anySession id from trivial) c).lift fun _ _ => mildAct

theorem within_handleSpdmFinish_steady (id : Nat) (bytes : Bytes) :
    Within Steady (handleSpdmFinish id bytes) :=
  (leads_finish (show anySession id from trivial) (fun _ _ h => mildAct h.mild)
    (steady_teardownSession id) (fun _ _ _ h => h)
      (fun _ => .of_within (within_deriveData_steady id)) bytes).within.mono
    fun _ _ h => h trivial

omit [Device] in
theorem within_handleSpdmPskFinish_steady (id : Nat) (bytes : Bytes) :
    Within Steady (handleSpdmPskFinish id bytes) :=
  (leads_pskFinish (show anySession id from trivial)
    (fun _ _ h => mildAct h.mild) (steady_teardownSession id) (fun _ _ _ h => h)
      (fun _ => .of_within (within_deriveData_steady id)) bytes).within.mono
    fun _ _ h => h trivial

def Service.moving : Service → Bool
  | version | capability | algorithm | chunkSend => true
  | _ => false

variable {bytes : Bytes} {sessionId : Option Nat}

theorem within_handle_steady {dispatch : Dispatch} {service : Service}
    (h : service.moving = false) :
    Within Steady (service.handle dispatch sessionId bytes) := by
  have hany : ∀ id : Nat, anySession id := fun _ => trivial
  cases service with
  | version | capability | algorithm | chunkSend => cases h
  | keyExchange => exact within_answer (within_handleSpdmKeyExchange_steady bytes)
  | pskExchange => exact within_answer (within_handleSpdmPskExchange_steady bytes)
  | chunkGet => exact within_answer (within_handleSpdmChunkGet (fun _ _ h => chunk h) bytes)
  | finish id => exact within_handleSpdmFinish_steady id bytes
  | pskFinish id => exact within_answer (within_handleSpdmPskFinish_steady id bytes)
  | keyUpdate id =>
    exact within_answer (within_keyUpdate (hany id) (fun _ _ h => mildAct h.mild)
      (fun _ _ => within_session) bytes)
  | endSession id => exact within_answer (of_mild (within_handleSpdmEndSession (hany id)))
  | _ => exact of_mild (within_handle_notes rfl fun _ _ => trivial)

theorem wp_dispatchAt_steady {R : SpdmContext → SpdmContext → Prop} [StepRel R] {depth : Nat}
    (hR : ∀ c c', Steady c c' → R c c')
    (h : ∀ service, serviceOf c sessionId bytes = some service → service.moving = true →
      wp (service.handle (dispatchAt depth) sessionId bytes) (fun _ => R c) (fun _ => R c) c) :
    wp (dispatchAt (depth + 1) sessionId bytes) (fun _ => R c) (fun _ => R c) c := by
  refine wp_dispatchAt (fun _ => StepRel.refl c) fun service hservice => ?_
  cases hmoving : service.moving with
  | true => exact h service hservice hmoving
  | false => exact (within_handle_steady hmoving).mono hR c

omit [Device] in
theorem act_offline {touch : Nat → Prop} (h : Act false touch c c') :
    Offline c c' := by
  cases h with
  | table h =>
    cases h with
    | quiet h => exact (Steady.of_quiet h).toOffline
    | slot => exact (setSlot c _ _).toOffline
  | negotiates h => exact .of_negotiate h
  | opens => exact (setSlot c _ _).toOffline
  | last => exact ⟨⟨rfl, rfl, rfl, rfl⟩, rfl⟩
  | reset => exact ⟨⟨rfl, rfl, rfl, rfl⟩, rfl⟩

theorem within_dispatchAt_offline (depth : Nat) (sessionId : Option Nat) (bytes : Bytes) :
    Within Offline (dispatchAt depth sessionId bytes) := by
  induction depth generalizing sessionId bytes with
  | zero => exact .abort
  | succ depth ih =>
    have hacts : ∀ {m : Handler Bytes}, Within (Steps (Act false anySession)) m →
        Within Offline (answer m) := fun hm =>
      within_answer (hm.mono fun _ _ hs => hs.lift fun _ _ => act_offline)
    refine fun c => wp_dispatchAt_steady (fun _ _ h => h.toOffline) fun service _ hmoving => ?_
    cases service with
    | version => exact hacts (within_handleSpdmVersion fun _ => trivial) c
    | capability => exact hacts within_handleSpdmCapability c
    | algorithm => exact hacts within_handleSpdmAlgorithm c
    | chunkSend =>
      exact within_handleSpdmChunkSend (fun _ _ h => (chunk h).toOffline) (ih sessionId) bytes c
    | _ => cases hmoving

/-! ## §4. Processing. -/

section
variable {R : SpdmContext → SpdmContext → Prop} [StepRel R] (hR : ∀ c c', Steady c c' → R c c')

include hR

section
omit [Device]

theorem within_nextRequest (hreceive : ∀ c : SpdmContext, R c { c with world :=
    { c.world with inbox := c.world.inbox.tail } }) : Within R nextRequest := by
  have hmessage : Within R receiveMessage :=
    .bind (.mapErr (.bind .read fun _ => .bind (.update hreceive) fun _ =>
      .bind (.orFail _ _) fun _ => .ret _)) fun _ => .bind .read fun _ =>
      .mapErr within_liftResult
  have hdecode : ∀ id message, Within R (decodeRequest id message) := fun id message =>
    .bind .read fun _ => .bind (.mapErr (within_session.mono hR)) fun _ =>
      .mapErr within_liftCall
  refine .bind hmessage fun ⟨message, secured⟩ => ?_
  cases secured with
  | false => exact .ret _
  | true =>
    exact .bind (within_parse _) fun _ => .bind (.orFail _ _) fun _ =>
      .bind (hdecode _ _) fun ⟨_, _⟩ =>
      .bind ((of_mild within_callWatchdog).mono hR) fun _ => .ret _

theorem within_sealAndSend_steady (hsend : ∀ packet (c : SpdmContext), R c { c with world :=
      { c.world with outbox := c.world.outbox ++ [packet]
                     sendResults := c.world.sendResults.tail } })
    (sessionId : Option Nat) (message : Bytes) (isApp : Bool) :
    Within R (sealAndSend sessionId message isApp) :=
  within_sealAndSend (fun _ => within_keepLargeResponse (fun _ _ h => hR _ _ (chunk h)) _)
    (fun _ _ _ _ _ => within_session.mono hR) hsend message isApp

end

omit [Crypto] [Device] in
theorem within_settleSent_steady (hstate : ∀ st c, R c (setConnectionState st c))
    (sessionId : Option Nat) (message : Bytes) : Within R (settleSent sessionId message) := by
  have hestablish : ∀ id, Within R (establish id) := fun id =>
    .bind (within_session.mono hR) fun _ => (of_mild within_callWatchdog).mono hR
  exact within_settleSent (fun _ => hR _ _ (chunk rfl)) hstate
    (fun _ _ => within_session.mono hR) (fun id _ => hestablish id)
    (fun _ => .bind .read fun _ => .bind (.orFail _ _) fun id => .bind (hestablish id) fun _ =>
      .update fun _ => hR _ _ ⟨⟨⟨rfl, rfl, rfl, rfl⟩, rfl⟩, rfl, rfl, rfl, rfl⟩) message

theorem wp_processMessage_around
    (hreceive : ∀ c : SpdmContext, R c { c with world :=
      { c.world with inbox := c.world.inbox.tail } })
    (hsend : ∀ packet (c : SpdmContext), R c { c with world :=
      { c.world with outbox := c.world.outbox ++ [packet]
                     sendResults := c.world.sendResults.tail } })
    (hstate : ∀ st c, R c (setConnectionState st c)) {depth : Nat} {Q : SpdmContext → Prop}
    (hbefore : ∀ c₁, R c c₁ → Q c₁) (hafter : ∀ c₁ c₂, Q c₁ → R c₁ c₂ → Q c₂)
    (hdispatch : ∀ sessionId bytes isApp c₀ c₁, nextRequest c = .ok (sessionId, bytes, isApp) c₀ →
      R c c₁ → wp (dispatchAt depth sessionId bytes) (fun _ => Q) (fun _ => Q) c₁) :
    wp (processMessage depth) (fun _ => Q) (fun _ => Q) c := by
  have hresponse : ∀ sessionId isApp r, Within R (sendResponse sessionId isApp r) :=
    fun sessionId isApp => within_sendResponse fun message => by
      rw [sendMessage_eq]
      exact .bind (within_sealAndSend_steady hR hsend _ _ _) fun _ =>
        within_settleSent_steady hR hstate _ _
  have hserve : ∀ sessionId bytes isApp c₁, nextRequest c = .ok (sessionId, bytes, isApp) c₁ →
      R c c₁ → wp (serveRequest depth sessionId bytes) (fun _ => Q) (fun _ => Q) c₁ := by
    intro sessionId bytes isApp c₁ hnext hc₁
    have hstate : R c (requestState bytes c₁) :=
      StepRel.trans hc₁ (hR _ _ (chunk (chunkStep_requestState bytes c₁)))
    exact wp_serve (fun _ => hbefore c₁ hc₁) (hdispatch sessionId bytes isApp c₁ _ hnext hstate)
      fun r c₂ h => wp_mono (hresponse sessionId false r c₂) (fun _ c₃ => hafter c₂ c₃ h)
        fun _ c₃ => hafter c₂ c₃ h
  have hrequest := within_nextRequest hR hreceive c
  rw [processMessage_eq]
  unfold wp at hrequest ⊢
  rw [bind_apply]
  cases hnext : nextRequest c with
  | panic => trivial
  | err e c₁ =>
    rw [hnext] at hrequest
    exact hbefore c₁ hrequest
  | ok r c₁ =>
    rw [hnext] at hrequest
    obtain ⟨_ | id, request, _ | _⟩ := r
    · exact hserve none request false c₁ hnext hrequest
    · exact hserve none request true c₁ hnext hrequest
    · exact hserve (some id) request false c₁ hnext hrequest
    · have happ : Within R (serveAppMessage id request) :=
        .bind (.update fun _ => hR _ _ ⟨⟨⟨rfl, rfl, rfl, rfl⟩, rfl⟩, rfl, rfl, rfl, rfl⟩)
          fun _ => hresponse _ _ _
      exact wp_mono (happ c₁) (fun _ c₂ h => hbefore c₂ (StepRel.trans hrequest h))
        fun _ c₂ h => hbefore c₂ (StepRel.trans hrequest h)

theorem within_processMessage
    (hreceive : ∀ c : SpdmContext, R c { c with world :=
      { c.world with inbox := c.world.inbox.tail } })
    (hsend : ∀ packet (c : SpdmContext), R c { c with world :=
      { c.world with outbox := c.world.outbox ++ [packet]
                     sendResults := c.world.sendResults.tail } })
    (hstate : ∀ st c, R c (setConnectionState st c)) {depth : Nat}
    (hdispatch : ∀ sessionId bytes, Within R (dispatchAt depth sessionId bytes)) :
    Within R (processMessage depth) := fun _ =>
  wp_processMessage_around hR hreceive hsend hstate (fun _ h => h) (fun _ _ => StepRel.trans)
    fun sessionId bytes _ _ c₁ _ h => wp_mono (hdispatch sessionId bytes c₁)
      (fun _ _ => StepRel.trans h) fun _ _ => StepRel.trans h

end

end Responder

end Spdm
