/-
  Spdm.Responder.Answer — a response is handed to the device.
-/
import Spdm.Responder.AppMessage
import Spdm.Responder.Delivered
import Spdm.Responder.Steady

namespace Spdm

open Effect Codec

variable {depth : Nat} {sessionId : Option Nat} {c c' : SpdmContext} {isApp : Bool}
    {response message packet : Bytes}

namespace Responder

open SpdmContext SpdmRequestResponseCode SpdmErrorCode

section
variable [Crypto] [Device]

/-! ## §1. Dispatch, then send. -/

/-- What dispatch comes to: the session of the response, whether it is an
application message, the status, and the response if there is one. -/
structure Answer where
  sessionId : Option Nat
  isApp : Bool
  status : Except SpdmStatus Unit
  response : Option Bytes

def answerNext (depth : Nat) : Option Nat × Bytes × Bool → Prog SpdmContext Nat Answer
  | (some id, request, true) => do
    update (recordDelivery id request)
    let (status, response) ← ret (dispatchSecuredAppMessage id request)
    ret ⟨some id, true, status, response⟩
  | (sessionId, request, _) => do
    let (status, response) ← dispatchRequest depth sessionId request
    ret ⟨sessionId, false, status, response⟩

def dispatchNext (depth : Nat) : Prog SpdmContext Nat Answer := nextRequest >>= answerNext depth

def sendAnswer (a : Answer) : Prog SpdmContext Nat Processed :=
  sendResponse a.sessionId a.isApp (a.status, a.response)

theorem processMessage_eq_send (depth : Nat) :
    processMessage depth = dispatchNext depth >>= sendAnswer := by
  rw [processMessage_eq, dispatchNext, bind_assoc]
  refine bind_congr fun ⟨sessionId, request, isApp⟩ => ?_
  have hrequest : ∀ sessionId, serveRequest depth sessionId request =
      (dispatchRequest depth sessionId request >>= fun r =>
        ret ⟨sessionId, false, r.1, r.2⟩) >>= sendAnswer := fun sessionId => by
    rw [serveRequest_eq, bind_assoc]
    rfl
  cases sessionId with
  | none => exact hrequest none
  | some id =>
    cases isApp with
    | false => exact hrequest (some id)
    | true => rfl

section
variable {bytes : Bytes} {isApp : Bool} {E : Nat → SpdmContext → Prop}

theorem wp_answerNext {Q : Answer → SpdmContext → Prop}
    (happ : ∀ id, sessionId = some id → isApp = true →
      Q ⟨some id, true, (dispatchSecuredAppMessage id bytes).1,
        (dispatchSecuredAppMessage id bytes).2⟩ (recordDelivery id bytes c))
    (hrequest : sessionId = none ∨ isApp = false → wp (dispatchRequest depth sessionId bytes)
      (fun r => Q ⟨sessionId, false, r.1, r.2⟩) E c) :
    wp (answerNext depth (sessionId, bytes, isApp)) Q E c := by
  cases sessionId with
  | none => exact (wp_bind _ _).2 (hrequest (.inl rfl))
  | some id =>
    cases isApp with
    | false => exact (wp_bind _ _).2 (hrequest (.inr rfl))
    | true => exact happ id rfl rfl

theorem answerNext_of_dispatch {P : Option Bytes → SpdmContext → Prop}
    (hchunk : c.build.chunkCap = false)
    (h : wp (dispatchAt depth sessionId bytes) P (fun e => P e.2) c) :
    wp (answerNext depth (sessionId, bytes, false))
      (fun a c' => (a.sessionId = sessionId ∧ a.isApp = false) ∧ P a.response c')
      (fun _ _ => False) c := by
  have hstate : wp (dispatchAt depth sessionId bytes) P (fun e => P e.2)
      (requestState bytes c) := by
    simpa [requestState, hchunk] using h
  exact wp_answerNext (fun _ _ h => by cases h) fun _ =>
    wp_mono (wp_dispatchRequest (fun h => absurd (hchunk.symm.trans h) Bool.false_ne_true) hstate)
      (fun _ _ h => ⟨⟨rfl, rfl⟩, h⟩) fun _ _ h => h

end

theorem within_dispatchNext_unsent (depth : Nat) : Within Unsent (dispatchNext depth) := by
  refine .bind (within_nextRequest (fun _ _ h => h.toUnsent) fun _ => ⟨rfl, rfl, rfl, rfl⟩)
    fun ⟨sessionId, request, isApp⟩ c => wp_answerNext (fun _ _ _ => ⟨rfl, rfl, rfl, rfl⟩) fun _ =>
      wp_dispatchRequest (P := fun _ => Unsent c) (fun _ => StepRel.refl c) ?_
  have hstate := (Steady.chunk (chunkStep_requestState request c)).toUnsent
  exact wp_mono (within_dispatchAt_offline depth sessionId request _)
    (fun _ _ h => StepRel.trans hstate h.toUnsent) fun _ _ h => StepRel.trans hstate h.toUnsent

theorem dispatchNext_isApp {c₁ : SpdmContext} {a : Answer}
    (h : dispatchNext depth c = .ok a c₁) : (a.isApp && a.sessionId.isNone) = false := by
  obtain ⟨⟨sessionId, request, isApp⟩, c₂, -, h⟩ := bind_eq_ok.1 h
  exact wp_ok (Q := fun a _ => (a.isApp && a.sessionId.isNone) = false) (E := fun _ _ => True)
    (wp_answerNext (fun _ _ _ => rfl) fun _ =>
      wp_mono (Ends.any _ c₂) (fun _ _ _ => rfl) fun _ _ _ => trivial) h

/-! ## §2. Handing over. -/

def Carries (c : SpdmContext) (a : Answer) (message packet : Bytes) : Prop :=
  match a.sessionId with
  | none => c.transportEncap.encap message c.build.config.senderBufferSize false = .ok packet
  | some id => ∃ s app record t, c.sessionViaId id = some s ∧
      c.transportEncap.encapApp message c.build.config.senderBufferSize a.isApp = some (.ok app) ∧
      SpdmSession.SealOk c.build.config app c.build.config.senderBufferSize false s record t ∧
      c.transportEncap.encap record c.build.config.senderBufferSize true = .ok packet

def Seals (c : SpdmContext) (a : Answer) (message : Bytes) : Prop :=
  match a.sessionId with
  | none => True
  | some id => ∃ s app record t, c.sessionViaId id = some s ∧
      c.transportEncap.encapApp message c.build.config.senderBufferSize a.isApp = some (.ok app) ∧
      SpdmSession.SealOk c.build.config app c.build.config.senderBufferSize false s record t

def Encapsulates (c : SpdmContext) (a : Answer) (message : Bytes) : Prop :=
  match a.sessionId with
  | none => ∃ packet,
      c.transportEncap.encap message c.build.config.senderBufferSize false = .ok packet
  | some _ => ∃ app,
      c.transportEncap.encapApp message c.build.config.senderBufferSize a.isApp = some (.ok app) ∧
      ∀ s record t,
        SpdmSession.SealOk c.build.config app c.build.config.senderBufferSize false s record t →
        ∃ packet, c.transportEncap.encap record c.build.config.senderBufferSize true = .ok packet

section
omit [Device]

theorem Seals.carries {a : Answer} (h : Seals c a message)
    (htransport : Encapsulates c a message) : ∃ packet, Carries c a message packet := by
  unfold Seals Encapsulates Carries at *
  cases ha : a.sessionId with
  | none =>
    rw [ha] at htransport
    exact htransport
  | some id =>
    rw [ha] at h htransport
    obtain ⟨s, app, record, t, hat, happ, hseal⟩ := h
    obtain ⟨app', happ', hencap⟩ := htransport
    obtain rfl : app = app' := Except.ok.inj (Option.some.inj (happ.symm.trans happ'))
    obtain ⟨packet, hpacket⟩ := hencap s record t hseal
    exact ⟨packet, s, app, record, t, hat, happ, hseal, hpacket⟩

theorem Carries.seals {a : Answer}
    (h : Carries c a message packet) : Seals c a message := by
  unfold Seals Carries at *
  cases ha : a.sessionId with
  | none => trivial
  | some id =>
    rw [ha] at h
    obtain ⟨s, app, record, t, hat, happ, hseal, -⟩ := h
    exact ⟨s, app, record, t, hat, happ, hseal⟩

theorem encodeOutgoing_eq_ok {a : Answer} :
    (∃ c', encodeOutgoing a.sessionId message a.isApp c = .ok packet c' ∧ Unsent c c') ↔
      Carries c a message packet := by
  unfold encodeOutgoing Carries
  rw [read_bind]
  cases a.sessionId with
  | none =>
    constructor
    · rintro ⟨c', h, -⟩
      exact (liftResult_eq_ok.1 h).1
    · intro h
      exact ⟨c, liftResult_eq_ok.2 ⟨h, rfl⟩, StepRel.refl c⟩
  | some id =>
    dsimp only
    unfold encodeSecuredMessage
    rw [read_bind]
    constructor
    · rintro ⟨c', h, -⟩
      obtain ⟨app, c₁, hok, h⟩ := bind_eq_ok.1 h
      obtain ⟨happ, rfl⟩ := liftCall_eq_ok.1 hok
      obtain ⟨record, c₂, hwith, h⟩ := bind_eq_ok.1 h
      obtain ⟨hpacket, -⟩ := liftResult_eq_ok.1 h
      obtain ⟨i, s, t, hat, hseal, -⟩ := withSession_eq_ok hwith
      exact ⟨s, app, record, t, hat.sessionViaId, happ,
        wp_ok (SpdmSession.encodeSpdmSecuredMessage_spec _ _ _ _ s) hseal, hpacket⟩
    · rintro ⟨s, app, record, t, hs, happ, hseal, hpacket⟩
      obtain ⟨i, hat⟩ := slotAt_of_sessionViaId hs
      refine ⟨c.setSlot i t, bind_eq_ok.2 ⟨app, c, liftCall_eq_ok.2 ⟨happ, rfl⟩,
        bind_eq_ok.2 ⟨record, c.setSlot i t, withSession_of_ok hat (hseal.encode),
          liftResult_eq_ok.2 ⟨hpacket, rfl⟩⟩⟩, (Steady.setSlot c i t).toUnsent⟩

theorem sealAndSend_of_carries {a : Answer}
    (happ : (a.isApp && a.sessionId.isNone) = false) (hfits : FitsChunkBuffer c response)
    (hcarries : Carries c a (replacement c response) packet)
    (hsend : c.world.sendResults.headD true = true) :
    ∃ c', sealAndSend a.sessionId response a.isApp c = .ok (replacement c response) c' ∧
      c'.world.outbox = c.world.outbox ++ [packet] := by
  obtain ⟨c₁, hout, hchunk, -⟩ := outgoing_of_fits happ hfits
  have hunsent := (Steady.chunk hchunk).toUnsent
  have hcarries₁ : Carries c₁ a (replacement c response) packet := by
    rw [hchunk]
    exact hcarries
  obtain ⟨c₂, hencode, hunsent₂⟩ := encodeOutgoing_eq_ok.2 hcarries₁
  have hsend₂ : c₂.world.sendResults.headD true = true := by
    rw [hunsent₂.sendResults, hunsent.sendResults]
    exact hsend
  have hdevice : ∃ c₃, deviceSend packet c₂ = .ok () c₃ ∧
      c₃.world.outbox = c₂.world.outbox ++ [packet] := by
    unfold deviceSend
    rw [read_bind, hsend₂]
    exact ⟨_, rfl, rfl⟩
  obtain ⟨c₃, hdevice, houtbox⟩ := hdevice
  refine ⟨c₃, bind_eq_ok.2 ⟨_, c₁, hout, bind_eq_ok.2 ⟨packet, c₂, hencode,
    bind_eq_ok.2 ⟨(), c₃, hdevice, rfl⟩⟩⟩, ?_⟩
  rw [houtbox, hunsent₂.outbox, hunsent.outbox]

end

end

end Responder

end Spdm
