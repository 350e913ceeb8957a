/-
  Spdm.Responder.Delivered — which application messages reach the application (`process_message`
  in `responder/context.rs`).
-/
import Spdm.Context.Small
import Spdm.Responder.Run

namespace Spdm

open Effect Codec

namespace Responder

open SpdmContext

section
variable [Crypto] [Device]

/-! ## §1. Where a secured message comes from. -/

omit [Device] in
theorem opened_state {config : Config} {message app : Bytes} {room : Nat} {requester : Bool}
    {s t : SpdmSession}
    (h : SpdmSession.decodeSpdmSecuredMessage config message room requester s = .ok app t) :
    t.sessionId = s.sessionId ∧ t.sessionState = s.sessionState ∧ s.sessionState ≠ .notStarted := by
  have hopen := wp_ok (SpdmSession.decodeSpdmSecuredMessage_spec config message room requester s) h
  cases hopen with
  | current started decoded =>
    exact ⟨SpdmSession.advanceDirection_sessionId requester s,
      SpdmSession.advanceDirection_sessionState requester s, started⟩
  | backup hreq established valid refused decoded =>
    exact ⟨rfl, rfl, by rw [established]; simp⟩

omit [Device] in
theorem nextRequest_session {c c₁ : SpdmContext} {id : Nat} {request : Bytes} {isApp : Bool}
    (h : nextRequest c = .ok (some id, request, isApp) c₁) :
    ∃ s s₁, c.sessionViaId id = some s ∧ c₁.sessionViaId id = some s₁ ∧
      s₁.sessionState = s.sessionState ∧ s.sessionState ≠ .notStarted := by
  obtain ⟨⟨message, secured⟩, c₂, hreceive, h₁⟩ := bind_eq_ok.1 h
  have hwire : DeviceStep c c₂ := within_receiveMessage.of_ok hreceive
  cases secured with
  | false => cases h₁
  | true =>
    obtain ⟨parsed, c₃, hparse, h₂⟩ := bind_eq_ok.1 h₁
    obtain rfl : c₃ = c₂ := (within_parse (S := fun s t => t = s) _).of_ok hparse
    obtain ⟨id', c₄, hid, h₃⟩ := bind_eq_ok.1 h₂
    obtain ⟨-, rfl⟩ := orFail_eq_ok.1 hid
    obtain ⟨⟨request', isApp'⟩, c₅, hdecode, h₄⟩ := bind_eq_ok.1 h₃
    obtain ⟨_, c₆, hdog, h₅⟩ := bind_eq_ok.1 h₄
    have hsame : c₆.session = c₅.session :=
      Steps.keep (I := fun c => c.session = c₅.session)
        (fun _ _ (hact) h => hact.session_eq.trans h)
        (within_callWatchdog.of_ok hdog) rfl
    cases h₅
    unfold decodeRequest at hdecode
    rw [read_bind] at hdecode
    obtain ⟨app, c₇, hopen, hdecode⟩ := bind_eq_ok.1 hdecode
    obtain ⟨-, rfl⟩ := liftCall_eq_ok.1 (mapErr_eq_ok.1 hdecode)
    obtain ⟨i, s, t, hat, hs, rfl⟩ := withSession_eq_ok (mapErr_eq_ok.1 hopen)
    obtain ⟨hid, hstate, hrunning⟩ := opened_state hs
    have hvia := hat.sessionViaId
    have hvia' := (hat.set (hid.trans hat.sessionId)).sessionViaId
    unfold SpdmContext.sessionViaId at *
    refine ⟨s, t, ?_, hsame ▸ hvia', hstate, hrunning⟩
    rwa [hwire] at hvia

/-! ## §2. Deliveries. -/

/-- Every call of the application handler was for an established session. -/
def DeliveredEstablished (c : SpdmContext) : Prop :=
  ∀ d ∈ c.world.delivered, d.sessionState = .established

def appEarly (c : SpdmContext) : Bool :=
  match nextRequest c with
  | .ok (some id, _, true) _ =>
    (c.sessionViaId id).any fun s => s.sessionState == .handshaking
  | _ => false

def SameDelivered (c c' : SpdmContext) : Prop := c'.world.delivered = c.world.delivered

instance : StepRel SameDelivered where
  refl _ := rfl
  trans h h' := by
    unfold SameDelivered at *
    rw [h', h]

omit [Device] in
theorem sameDelivered_act {c c' : SpdmContext} (h : Act false anySession c c') :
    SameDelivered c c' := by
  cases h with
  | table h =>
    cases h with
    | quiet h => exact h.delivered
    | slot => rfl
  | negotiates h => exact h.delivered
  | opens => rfl
  | last => rfl
  | reset => rfl

omit [Crypto] [Device] in
theorem sameDelivered_wire {c c' : SpdmContext} (h : WireStep c c') : SameDelivered c c' := by
  unfold SameDelivered
  rw [h]

omit [Device] in
theorem not_appEarly_iff {c c₁ : SpdmContext} {id : Nat} {request : Bytes}
    (h : nextRequest c = .ok (some id, request, true) c₁) :
    appEarly c = false ↔
      ((c₁.sessionViaId id).map (·.sessionState)).getD .notStarted = .established := by
  obtain ⟨s, s₁, hs, hs₁, hstate, hrunning⟩ := nextRequest_session h
  unfold appEarly
  rw [hs₁]
  cases hst : s.sessionState <;> simp_all

theorem delivered_processMessage {c c' : SpdmContext} {depth : Nat} (hc : Table false c)
    (h : Ran (processMessage depth) c c') (hall : DeliveredEstablished c) :
    DeliveredEstablished c' ↔ appEarly c = false := by
  have htakes : Takes SameDelivered := .of_wire sameDelivered_act sameDelivered_wire
  have hsame : ∀ {c'}, SameDelivered c c' → DeliveredEstablished c' := fun h => by
    unfold DeliveredEstablished
    rwa [h]
  rw [processMessage_eq] at h
  obtain ⟨e, herr⟩ | ⟨⟨sessionId, request, isApp⟩, c₁, hnext, h⟩ := h.of_bind
  · have hstep := (wp_err
      (leads_nextRequest htakes c hc) herr) hc
    simp [hsame hstep.1, appEarly, herr]
  obtain ⟨hguard, hid, hc₁⟩ := wp_ok (leads_nextRequest htakes c hc) hnext
  have hstep : SameDelivered c c₁ := (hguard hc).1
  have hother : (∀ id, sessionId = some id → isApp = false) →
      Ran (serveRequest depth sessionId request) c₁ c' →
      (DeliveredEstablished c' ↔ appEarly c = false) := fun happ hran => by
    have hserve := ((within_serveRequest sameDelivered_act sameDelivered_wire depth hid request).ran
      hran hc₁).1
    have hearly : appEarly c = false := by
      unfold appEarly
      rw [hnext]
      cases sessionId with
      | none => rfl
      | some id => rw [happ id rfl]
    simp [hsame (StepRel.trans hstep hserve), hearly]
  cases sessionId with
  | none => exact hother (fun _ h => by cases h) (by cases isApp <;> exact h)
  | some id =>
    cases isApp with
    | false => exact hother (fun _ _ => rfl) h
    | true =>
      -- the one case that calls the handler
      obtain ⟨e, herr⟩ | ⟨_, c₂, hrecord, hsend⟩ := Ran.of_bind h
      · cases herr
      cases hrecord
      have hc₂ : Table false (recordDelivery id request c₁) := hc₁.of_session_eq rfl hc₁.last
      have hsent := ((within_sendResponse (within_sendMessage htakes hid · true) _).ran
        hsend hc₂).1
      have hlog : c'.world.delivered = c.world.delivered ++
          [⟨id, ((c₁.sessionViaId id).map (·.sessionState)).getD .notStarted, request⟩] := by
        rw [hsent, ← hstep]
        rfl
      rw [not_appEarly_iff hnext]
      unfold DeliveredEstablished at *
      rw [hlog]
      constructor
      · exact fun h => h _ (List.mem_append_right _ (List.mem_singleton_self _))
      · intro h d hd
        obtain hd | hd := List.mem_append.1 hd
        · exact hall d hd
        · rw [List.mem_singleton.1 hd]
          exact h

/-- **Deliveries in a run.**  Along every run without an early application
message the application handler is called for established sessions only;
and a call of `process_message` that meets one does call it for a session
that is not established. -/
theorem delivered_established {c₀ c : SpdmContext} (hstart : Started c₀)
    (hrun : Steps (StepIf fun c => appEarly c = false) c₀ c) :
    DeliveredEstablished c ∧
      ∀ c' depth, Ran (processMessage depth) c c' → appEarly c = true →
        ¬ DeliveredEstablished c' := by
  have hkeep := hrun.keep (I := fun c => Table false c ∧ DeliveredEstablished c)
    (fun c c' hstep ⟨hc, hall⟩ => ⟨hstep.table hc, ?_⟩) ⟨.of_started hstart, ?_⟩
  · refine ⟨hkeep.2, fun c' depth hran hearly hall => ?_⟩
    have := (delivered_processMessage hkeep.1 hran hkeep.2).1 hall
    rw [this] at hearly
    cases hearly
  · obtain ⟨⟨depth, hran⟩, hok⟩ | hsur := hstep
    · exact (delivered_processMessage hc hran hall).2 hok
    · unfold Surroundings at hsur
      unfold DeliveredEstablished
      rwa [hsur]
  · obtain ⟨_, _, _, _, -, rfl⟩ := hstart
    exact fun d hd => by cases hd

end

/-! ## §3. Two runs. -/

namespace SmallRun

open SmallBackend

def pskCapabilities (psk : Flags) : Flags :=
  psk ||| SpdmResponseCapabilityFlags.macCap ||| SpdmResponseCapabilityFlags.encryptCap

def pskPeerCapabilities : Flags :=
  SpdmRequestCapabilityFlags.pskCap ||| SpdmRequestCapabilityFlags.macCap |||
    SpdmRequestCapabilityFlags.encryptCap

def pskWithContextResponder : SpdmContext :=
  smallResponder false (pskCapabilities SpdmResponseCapabilityFlags.pskCapWithContext)

def pskWithoutContextResponder : SpdmContext :=
  smallResponder false (pskCapabilities SpdmResponseCapabilityFlags.pskCapWithoutContext)

def earlyPackets : List (SpdmContext → Bytes) :=
  smallNegotiation pskPeerCapabilities 136 ++ [smallPskExchange, inSession true [5, 5, 5]]

theorem delivered_while_handshaking :
    ∃ c, Reachable c ∧ ∃ d ∈ c.world.delivered,
      d.sessionState = .handshaking ∧ d.message = [5, 5, 5] := by
  have hrun : ((serveAll (fun _ => true) [[1]] earlyPackets pskWithContextResponder).map
      fun c => c.world.delivered) = some [⟨0xFFFDFFFD, .handshaking, [5, 5, 5]⟩] := by
    decide +kernel
  obtain ⟨c, hc, hlog⟩ := Option.map_eq_some_iff.1 hrun
  refine ⟨c, reachable_serveAll ⟨_, started_smallResponder _ _, .refl⟩ hc, ?_⟩
  rw [hlog]
  exact ⟨_, List.mem_singleton_self _, rfl, rfl⟩

theorem delivered_established_psk :
    ∃ c, Steps (StepIf fun c => appEarly c = false)
        pskWithoutContextResponder c ∧
      c.world.delivered.length = 1 ∧ DeliveredEstablished c := by
  have hrun : ((serveAll (fun c => !appEarly c) [[1]] earlyPackets
      pskWithoutContextResponder).map
      fun c => c.world.delivered.length) = some 1 := by
    decide +kernel
  obtain ⟨c, hc, hlog⟩ := Option.map_eq_some_iff.1 hrun
  have hsteps : Steps (StepIf fun c => appEarly c = false) pskWithoutContextResponder c :=
    (steps_serveAll hc).lift fun _ _ hstep =>
      .single (hstep.imp_left fun h => ⟨h.1, by simpa using h.2⟩)
  exact ⟨c, hsteps, hlog, (delivered_established (started_smallResponder _ _) hsteps).1⟩

end SmallRun

end Responder

end Spdm
