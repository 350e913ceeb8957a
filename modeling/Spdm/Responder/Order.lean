/-
  Spdm.Responder.Order — the order of a connection.
-/
import Spdm.Responder.Answer
import Spdm.Responder.Service

namespace Spdm

open Effect Codec

variable {ε : Type} {c c' : SpdmContext} {code : UInt8} {anew : Bool} {sessionId : Option Nat}
    {depth : Nat} {st : SpdmConnectionState}

namespace Responder

open SpdmContext SpdmRequestResponseCode SpdmErrorCode

section
variable [Crypto] [Device]

/-! ## §1. GET_VERSION. -/

def takesUp (bytes : Bytes) : Bool :=
  match parseHeader bytes with
  | .ok header rest =>
    header.requestResponseCode == spdmRequestGetVersion && header.version == .spdmVersion10 &&
      (match parseGetVersion rest with
        | .ok _ _ => true
        | _ => false)
  | _ => false

def AllFree (c : SpdmContext) : Prop := ∀ s ∈ c.session, s.sessionId = invalidSessionId

abbrev connection (c : SpdmContext) : SpdmConnectionState := c.runtimeInfo.connectionState

structure Idles (c c' : SpdmContext) : Prop where
  connection : connection c' = connection c
  free : AllFree c → AllFree c'

instance : StepRel Idles where
  refl _ := ⟨rfl, id⟩
  trans h h' := ⟨h'.1.trans h.1, fun hc => h'.2 (h.2 hc)⟩

namespace Idles
variable {c c' : SpdmContext}

section
omit [Crypto] [Device]

theorem of_session_eq (hconnection : Responder.connection c' = Responder.connection c)
    (hsession : c'.session = c.session) : Idles c c' :=
  ⟨hconnection, fun hc s hs => hc s (hsession ▸ hs)⟩

theorem setSlot {i : Nat} {s t : SpdmSession} (hs : c.session[i]? = some s)
    (h : s.sessionId = invalidSessionId → t.sessionId = invalidSessionId) :
    Idles c (c.setSlot i t) := by
  refine ⟨rfl, fun hc u hu => ?_⟩
  obtain hu | rfl := List.mem_or_eq_of_mem_set hu
  · exact hc u hu
  · exact h (hc s (List.mem_of_getElem? hs))

theorem mildAct {touch : Nat → Prop} (h : MildAct touch c c') : Idles c c' := by
  cases h with
  | quiet h => exact of_session_eq h.connectionState h.session
  | slot _ hat h =>
    refine setSlot hat.slot fun hs => ?_
    cases h with
    | transcript h => exact h.sessionId_eq.trans hs
    | free => rfl

theorem of_mild {touch : Nat → Prop} {α : Type} {m : Prog SpdmContext ε α}
    (h : Within (Steps (MildAct touch)) m) : Within Idles m :=
  h.mono fun _ _ hs => hs.lift fun _ _ => mildAct

theorem of_never {α : Type} {m : Prog SpdmContext ε α}
    (h : Within (Steps (MildAct fun _ => False)) m) : Within Idles m := of_mild h

end

end Idles

structure Reset (c : SpdmContext) : Prop where
  connection : connection c = .notStarted
  free : AllFree c

omit [Crypto] [Device] in
theorem reset_resetContext (c : SpdmContext) : Reset c.resetContext := by
  refine ⟨rfl, fun s hs => ?_⟩
  obtain ⟨t, -, rfl⟩ := List.mem_map.1 hs
  rfl

omit [Crypto] [Device] in
theorem Reset.idles (hc : Reset c) (h : Idles c c') : Reset c' :=
  ⟨h.connection.trans hc.connection, h.free hc.free⟩

structure StartedOver (c c' : SpdmContext) : Prop extends Reset c' where
  watchdog : c'.world.watchdog = c.world.watchdog

omit [Crypto] [Device] in
theorem handleSpdmVersion_spec {bytes : Bytes} (hcode : HasCode bytes spdmRequestGetVersion)
    (c : SpdmContext) :
    wp (handleSpdmVersion bytes) (fun _ c' => takesUp bytes = true ∧ StartedOver c c')
      (fun e c' => if takesUp bytes then StartedOver c c'
        else SilentStep c c' ∧ RefusesAs spdmResponseError e) c := by
  obtain ⟨header, rest, hheader, hcode⟩ := hcode
  -- what follows the reset leaves it
  have hafter : ∀ left, Within SilentStep (do
      appendA (consumed bytes left)
      let c ← read
      let response ← respond (encodeVersionResponse c.configInfo.spdmVersion)
      appendA response
      ret response) := fun left =>
    .bind (within_appendA _) fun _ => .bind .read fun _ =>
      .bind (within_respond _) fun _ => .bind (within_appendA _) fun _ => .ret _
  have hover : ∀ c₁ c', SilentStep c c₁ → SilentStep c₁.resetContext c' → StartedOver c c' :=
    fun c₁ c' h₁ h => ⟨(reset_resetContext c₁).idles (.of_session_eq h.connectionState h.session),
      h.watchdog.trans h₁.watchdog⟩
  unfold handleSpdmVersion takesUp
  rw [wp_bind, wp_parseRest, hheader]
  refine ⟨fun _ _ heq => ?_, fun _ _ heq => by cases heq⟩
  cases heq
  simp only [hcode, beq_self_eq_true, Bool.true_and]
  change wp (demand _ _ _ >>= _) _ _ c
  cases hversion : header.version == .spdmVersion10 with
  | false =>
    exact wp_bind_of_refused (wp_mono (refused_demand rfl) (fun _ _ h => h)
      fun _ c' h => ⟨h.1 ▸ StepRel.refl (R := SilentStep) c, h.2⟩)
  | true =>
    simp only [Bool.true_and]
    have hnotes : Steps (NoteAct fun _ => False) c
        (resetBufferViaRequestCode spdmRequestGetVersion none c) :=
      mild_resetBuffer (fun _ h => by cases h) c
    have hreset : SilentStep c (resetBufferViaRequestCode spdmRequestGetVersion none c) :=
      hnotes.lift fun _ _ => NoteAct.rel_never
    change wp ((parseRest parseGetVersion rest >>= fun r => expect r _ _) >>= _) _ _
      (resetBufferViaRequestCode spdmRequestGetVersion none c)
    rw [wp_bind, wp_bind, wp_parseRest]
    refine ⟨fun _ left hleft => ?_, fun _ _ herr => ?_⟩
    · simp only [hleft, if_true]
      change wp (update resetContext >>= _) _ _ _
      rw [wp_bind, wp_update]
      exact wp_mono (hafter left _) (fun _ _ h => ⟨trivial, hover _ _ hreset h⟩)
        fun _ _ h => hover _ _ hreset h
    · simp only [herr]
      exact ⟨hreset, refusesAs_error⟩

/-! ## §2. What may be said. -/

def attestedCodes : List UInt8 :=
  [spdmResponseDigests, spdmResponseCertificate, spdmResponseChallengeAuth,
    spdmResponseMeasurements, spdmResponseKeyExchangeRsp, spdmResponsePskExchangeRsp]

structure PermitsCode (c : SpdmContext) (anew : Bool) (code : UInt8) : Prop where
  version : code = spdmResponseVersion → anew = true
  capabilities : code = spdmResponseCapabilities → connection c = .afterVersion
  algorithms : code = spdmResponseAlgorithms → connection c = .afterCapabilities
  attested : code ∈ attestedCodes → early c = false
  anew : anew = true → code = spdmResponseVersion ∨ code = spdmResponseError

def Permits (c : SpdmContext) (anew : Bool) (response : Option Bytes) : Prop :=
  ∀ m, response = some m → ∀ code, codeOf m = some code → PermitsCode c anew code

section
omit [Crypto] [Device]

theorem permitsCode_error (c : SpdmContext) (anew : Bool) : PermitsCode c anew spdmResponseError :=
  ⟨fun h => absurd h (by decide), fun h => absurd h (by decide), fun h => absurd h (by decide),
    fun h => absurd h (by decide), fun _ => .inr rfl⟩

theorem permitsCode_other
    (h : code ∉ [spdmResponseVersion, spdmResponseCapabilities, spdmResponseAlgorithms] ++
      attestedCodes) : PermitsCode c false code := by
  simp only [List.mem_append, List.mem_cons, not_or] at h
  exact ⟨fun hk => absurd hk h.1.1, fun hk => absurd hk h.1.2.1, fun hk => absurd hk h.1.2.2.1,
    fun hk => absurd hk h.2, fun hk => by cases hk⟩

theorem Says.permits {m : Bytes} (h : Says code m)
    (hcode : PermitsCode c anew code) : ∀ k, codeOf m = some k → PermitsCode c anew k := by
  intro k hk
  obtain rfl | rfl := h k hk
  · exact hcode
  · exact permitsCode_error c anew

end

section Permitted
variable {c : SpdmContext} {anew : Bool} {code : UInt8}

abbrev Permitted (c : SpdmContext) (anew : Bool) (m : Handler (Option Bytes)) : Prop :=
  wp m (fun r _ => Permits c anew r) (fun e _ => Permits c anew e.2) c

section
omit [Crypto] [Device]

theorem permitted_of_ends {m : Handler (Option Bytes)}
    (h : Ends (fun r => ∀ m, r = some m → Says code m) (RefusesAs code) m)
    (hcode : PermitsCode c anew code) : Permitted c anew m :=
  wp_mono (h c) (fun _ _ hr m hm => (hr m hm).permits hcode)
    fun _ _ he m hm => (he m hm).permits hcode

theorem permitted_of_turn {m : Handler (Option Bytes)}
    (h : Ends (fun r => ∀ m, r = some m → Says code m) (RefusesAs code) m) (turn : Prop)
    [Decidable turn] (hrefuse : ¬ turn → RefusesAt m c) (hcode : turn → PermitsCode c anew code) :
    Permitted c anew m := by
  by_cases hturn : turn
  · exact permitted_of_ends h (hcode hturn)
  · exact wp_mono (hrefuse hturn) (fun _ _ h => h.elim)
      fun _ _ he m hm => (he m hm).permits (permitsCode_error c anew)

theorem permitted_of_negotiated {m : Handler (Option Bytes)}
    (h : Ends (fun r => ∀ m, r = some m → Says code m) (RefusesAs code) m)
    (hcode : code ∈ attestedCodes) (hrefuse : early c = true → RefusesAt m c) :
    Permitted c false m := by
  refine permitted_of_turn h (early c = false) (fun hearly => hrefuse (by simpa using hearly))
    fun hearly => ?_
  have hnot : code ∉ [spdmResponseVersion, spdmResponseCapabilities, spdmResponseAlgorithms] := by
    intro hmem
    simp only [attestedCodes, List.mem_cons, List.not_mem_nil, or_false] at hcode hmem
    rcases hmem with rfl | rfl | rfl <;> revert hcode <;> decide
  simp only [List.mem_cons, not_or] at hnot
  exact ⟨fun hk => absurd hk hnot.1, fun hk => absurd hk hnot.2.1, fun hk => absurd hk hnot.2.2.1,
    fun _ => hearly, fun hk => by cases hk⟩

end

end Permitted

section Dispatch
variable {c : SpdmContext} {dispatch : Dispatch} {service : Service} {bytes : Bytes}

def startsOver (sessionId : Option Nat) (bytes : Bytes) : Bool := sessionId.isNone && takesUp bytes

omit [Crypto] [Device] in
theorem serviceOf_of_startsOver (h : startsOver sessionId bytes = true) :
    serviceOf c sessionId bytes = some .version := by
  rw [startsOver, Bool.and_eq_true, Option.isNone_iff_eq_none] at h
  obtain ⟨rfl, h⟩ := h
  unfold takesUp at h
  split at h
  case h_2 => cases h
  case h_1 header rest hparse =>
    simp only [Bool.and_eq_true, beq_iff_eq] at h
    simp [serviceOf, headerOf, hparse, serviceOutside, h.1.1]

omit [Crypto] [Device] in
theorem startsOver_of_serviceOf (h : serviceOf c sessionId bytes = some service)
    (hversion : service ≠ .version) : startsOver sessionId bytes = false := by
  by_contra hover
  exact hversion (Option.some.inj (h.symm.trans
    (serviceOf_of_startsOver (Bool.eq_true_of_not_eq_false hover))))

theorem refusesAt_attested (h : service.responseCode ∈ attestedCodes) (hearly : early c = true) :
    RefusesAt (service.handle dispatch sessionId bytes) c := by
  cases service with
  | digest => exact wp_bind_of_refused (wp_bind_of_refused (refusesAt_of_demandNegotiated hearly))
  | certificate | challenge => exact wp_bind_of_refused (refusesAt_of_demandNegotiated hearly)
  | measurement => exact wp_bind_of_refused (refusesAt_handleSpdmMeasurement hearly)
  | keyExchange =>
    exact wp_bind_of_refused (wp_mono (refused_handleSpdmKeyExchange hearly) (fun _ _ h => h)
      fun _ _ h => h.2)
  | pskExchange =>
    exact wp_bind_of_refused (wp_mono (refused_handleSpdmPskExchange hearly) (fun _ _ h => h)
      fun _ _ h => h.2)
  | _ => exact absurd h (by dsimp only [Service.responseCode]; decide)

theorem permitted_handle (hvendor : VendorAnswers) (hchunk : c.build.chunkCap = false)
    (hservice : serviceOf c sessionId bytes = some service) :
    Permitted c (startsOver sessionId bytes) (service.handle dispatch sessionId bytes) := by
  have hchunked := chunked_of_serviceOf hchunk hservice
  have hends : Ends (fun r => ∀ m, r = some m → Says service.responseCode m) _
      (service.handle dispatch sessionId bytes) := ends_handle hvendor hchunked
  have hlater := startsOver_of_serviceOf hservice
  cases service with
  | version =>
    obtain ⟨rfl, hcode⟩ := routed_of_serviceOf hservice
    refine permitted_of_turn hends (takesUp bytes = true) (fun hnot => ?_) fun hover => ?_
    · refine wp_bind_of_refused (wp_mono (handleSpdmVersion_spec hcode c) (fun _ _ h => hnot h.1)
        fun _ _ h => ?_)
      rw [if_neg hnot] at h
      exact h.2
    · exact ⟨fun _ => hover, fun h => absurd h (by decide), fun h => absurd h (by decide),
        fun h => absurd h (by decide), fun _ => .inl rfl⟩
  | capability =>
    rw [hlater (by decide)]
    exact permitted_of_turn hends (connection c = .afterVersion)
      (fun h => wp_bind_of_refused (refusesAt_handleSpdmCapability h)) fun h =>
      ⟨fun h => absurd h (by decide), fun _ => h, fun h => absurd h (by decide),
        fun h => absurd h (by decide), fun h => by cases h⟩
  | algorithm =>
    rw [hlater (by decide)]
    exact permitted_of_turn hends (connection c = .afterCapabilities)
      (fun h => wp_bind_of_refused (refusesAt_handleSpdmAlgorithm h)) fun h =>
      ⟨fun h => absurd h (by decide), fun h => absurd h (by decide), fun _ => h,
        fun h => absurd h (by decide), fun h => by cases h⟩
  | digest | certificate | challenge | measurement | keyExchange | pskExchange =>
    rw [hlater (by decide)]
    exact permitted_of_negotiated hends (by decide) (refusesAt_attested (by decide))
  | chunkSend | chunkGet => cases hchunked
  | _ =>
    rw [hlater (by simp)]
    exact permitted_of_ends hends
      (permitsCode_other (by dsimp only [Service.responseCode]; decide))

theorem dispatchAt_permits (hvendor : VendorAnswers) (hchunk : c.build.chunkCap = false)
    (depth : Nat) (sessionId : Option Nat) :
    Permitted c (startsOver sessionId bytes) (dispatchAt depth sessionId bytes) := by
  cases depth with
  | zero => trivial
  | succ depth =>
    exact wp_dispatchAt (fun _ m hm => by cases hm) fun _ => permitted_handle hvendor hchunk

/-! ## §3. What dispatch moves. -/

structure Waits (c c' : SpdmContext) : Prop where
  connection : connection c' = connection c
  free : early c = true → Table false c → AllFree c → AllFree c'

omit [Crypto] [Device] in
theorem Waits.of_idles (h : Idles c c') : Waits c c' :=
  ⟨h.connection, fun _ _ => h.free⟩

omit [Crypto] [Device] in
theorem waits_of_inState {state : SpdmSessionState} {id : Nat} (h : InState c state id)
    (hstate : state ≠ .notStarted) (hconnection : connection c' = connection c) : Waits c c' := by
  refine ⟨hconnection, fun _ hc hfree => ?_⟩
  obtain ⟨hid, i, s, hat, -⟩ := h.slotAt hstate hc
  exact absurd (hat.sessionId.symm.trans (hfree s (List.mem_of_getElem? hat.slot))) hid

def SameConnection (c c' : SpdmContext) : Prop := connection c' = connection c

instance : StepRel SameConnection where
  refl _ := rfl
  trans h h' := Eq.trans h' h

section
omit [Crypto] [Device]

theorem idles_handleSpdmCapability (bytes : Bytes) : Within Idles (handleSpdmCapability bytes) :=
  within_capability (fun _ _ h => Idles.mildAct h.mild)
    (fun _ _ h => .of_session_eq (by rw [h]) (by rw [h])) bytes

end

theorem idles_handleSpdmAlgorithm (bytes : Bytes) : Within Idles (handleSpdmAlgorithm bytes) :=
  within_algorithm (fun _ _ h => Idles.mildAct h.mild)
    (fun _ _ h => .of_session_eq (by rw [h.rest]) (by rw [h.rest])) bytes

theorem waits_handle (hchunk : c.build.chunkCap = false)
    (hservice : serviceOf c sessionId bytes = some service)
    (hover : startsOver sessionId bytes = false) :
    wp (service.handle dispatch sessionId bytes) (fun _ => Waits c) (fun _ => Waits c) c := by
  have hrouted := routed_of_serviceOf hservice
  have hidles : ∀ {β : Type} {m : Handler β}, Within Idles m →
      wp m (fun _ => Waits c) (fun _ => Waits c) c := fun hm =>
    (hm.mono fun _ _ => Waits.of_idles) c
  have hsteady : ∀ {β : Type} {m : Handler β}, Within Steady m →
      (∀ c', connection c' = connection c → Waits c c') →
      wp m (fun _ => Waits c) (fun _ => Waits c) c := fun hm hwaits =>
    wp_mono (hm c) (fun _ c' h => hwaits c' h.connectionState) fun _ c' h =>
      hwaits c' h.connectionState
  -- out of turn an exchange changes nothing, in turn nothing is asked of the slots
  have hexchange : ∀ {m : Handler Bytes}, Within Steady m →
      (early c = true → wp m (fun _ _ => False)
        (fun e c' => c' = c ∧ RefusesAs spdmResponseError e) c) →
      wp m (fun _ => Waits c) (fun _ => Waits c) c := fun hm hrefused => by
    cases hearly : early c with
    | true =>
      refine wp_mono (hrefused hearly) (fun _ _ h => h.elim) fun _ c' h => ?_
      rw [h.1]
      exact .of_idles (StepRel.refl c)
    | false => exact hsteady hm fun _ h => ⟨h, fun ht => by simp [hearly] at ht⟩
  cases service with
  | version =>
    obtain ⟨rfl, hcode⟩ := hrouted
    have hnot : takesUp bytes = false := hover
    refine wp_answer (wp_mono (handleSpdmVersion_spec hcode c) (fun _ _ h => ?_) fun _ _ h => ?_)
    · simp [hnot] at h
    · simp only [hnot] at h
      exact .of_idles (.of_session_eq h.1.connectionState h.1.session)
  | capability => exact wp_answer (hidles (idles_handleSpdmCapability bytes))
  | algorithm => exact wp_answer (hidles (idles_handleSpdmAlgorithm bytes))
  | keyExchange =>
    exact wp_answer (hexchange (within_handleSpdmKeyExchange_steady bytes)
      refused_handleSpdmKeyExchange)
  | pskExchange =>
    exact wp_answer (hexchange (within_handleSpdmPskExchange_steady bytes)
      refused_handleSpdmPskExchange)
  | chunkSend | chunkGet => cases chunked_of_serviceOf hchunk hservice
  | finish id | pskFinish id | keyUpdate id | endSession id =>
    exact hsteady (within_handle_steady rfl) fun _ => waits_of_inState hrouted.2 (by decide)
  | _ => exact hidles (Idles.of_mild (within_handle_notes rfl fun _ _ => trivial))

theorem dispatchAt_moves (hchunk : c.build.chunkCap = false) (depth : Nat)
    (sessionId : Option Nat) :
    let After (c' : SpdmContext) : Prop :=
      if startsOver sessionId bytes then Reset c' else Waits c c'
    wp (dispatchAt depth sessionId bytes) (fun _ => After) (fun _ => After) c := by
  intro After
  cases depth with
  | zero => trivial
  | succ depth =>
    cases hover : startsOver sessionId bytes with
    | false =>
      have hafter : ∀ c', Waits c c' → After c' := fun c' h => by simpa [After, hover] using h
      refine wp_dispatchAt (fun _ => hafter c (.of_idles (StepRel.refl c))) fun service hservice =>
        wp_mono (waits_handle hchunk hservice hover) (fun _ => hafter) fun _ => hafter
    | true =>
      have hafter : ∀ c', Reset c' → After c' := fun c' h => by simpa [After, hover] using h
      refine wp_dispatchAt (fun hnone => ?_) fun service hservice => ?_
      · cases hnone.symm.trans (serviceOf_of_startsOver hover)
      · cases hservice.symm.trans (serviceOf_of_startsOver hover)
        obtain ⟨rfl, hcode⟩ := routed_of_serviceOf hservice
        have htakes : takesUp bytes = true := hover
        refine wp_answer (wp_mono (handleSpdmVersion_spec hcode c)
          (fun _ c' h => hafter c' h.2.toReset) fun _ c' h => hafter c' ?_)
        rw [if_pos htakes] at h
        exact h.toReset

end Dispatch

/-! ## §4. Receiving and sending. -/

def SameBuild (c c' : SpdmContext) : Prop := c'.build = c.build

instance : StepRel SameBuild where
  refl _ := rfl
  trans h h' := Eq.trans h' h

section Transfer
variable {c : SpdmContext}

section
omit [Device]

theorem sameConnection_nextRequest : Within SameConnection nextRequest :=
  within_nextRequest (fun _ _ h => h.connectionState) fun _ => rfl

theorem nextRequest_free (hc : Table false c) (hfree : AllFree c) :
    wp nextRequest (fun r c' => r.1 = none ∧ AllFree c') (fun _ => AllFree) c := by
  have hreceive : Within (fun c c' => c'.session = c.session) receiveMessage :=
    within_receiveMessage.mono fun _ _ h => by
      rw [h]
  unfold nextRequest
  rw [wp_bind]
  refine wp_mono (hreceive c) (fun ⟨message, secured⟩ c₁ hsession => ?_) fun _ _ hsession s hs =>
    hfree s (hsession ▸ hs)
  have hfree₁ : AllFree c₁ := fun s hs => hfree s (hsession ▸ hs)
  have hidle₁ : ∀ s ∈ c₁.session, s.sessionState = .notStarted := fun s hs =>
    hc.free s (hsession ▸ hs) (hfree₁ s hs)
  cases secured with
  | false => exact ⟨rfl, hfree₁⟩
  | true =>
    -- decoding finds no session, or one that is idle
    have hdecode : ∀ id, wp (decodeRequest id message) (fun _ _ => False)
      (fun _ => AllFree) c₁ := by
      intro id
      unfold decodeRequest
      rw [wp_bind, wp_read, wp_bind, wp_mapErr]
      unfold wp SpdmContext.withSession
      cases hfind : c₁.session.findIdx? fun s => s.sessionId == id with
      | none => exact hfree₁
      | some i =>
        dsimp only
        cases hslot : c₁.session[i]? with
        | none => exact hfree₁
        | some s =>
          dsimp only
          rw [SpdmSession.decodeSpdmSecuredMessage_notStarted
            (hidle₁ s (List.mem_of_getElem? hslot))]
          exact (Idles.setSlot hslot fun h => h).free hfree₁
    dsimp only
    rw [if_pos rfl, wp_bind, wp_parse]
    refine ⟨fun id rest _ => ?_, fun _ _ _ => ?_⟩
    · rw [wp_bind, wp_orFail]
      refine ⟨fun id' _ => ?_, fun h => by cases h⟩
      rw [wp_bind]
      exact wp_mono (hdecode id') (fun _ _ h => h.elim) fun _ _ h => h
    · rw [wp_bind, wp_orFail]
      exact ⟨fun _ h => (by cases h), fun _ => hfree₁⟩

theorem sameConnection_sealAndSend (sessionId : Option Nat) (message : Bytes) (isApp : Bool) :
    Within SameConnection (sealAndSend sessionId message isApp) :=
  within_sealAndSend_steady (R := SameConnection) (fun _ _ h => h.connectionState) (fun _ _ => rfl)
    sessionId message isApp

theorem idles_sealAndSend (message : Bytes) (isApp : Bool) :
    Within Idles (sealAndSend none message isApp) :=
  within_sealAndSend
    (fun _ => within_keepLargeResponse (fun _ _ h => .of_session_eq (by rw [h]) (by rw [h])) _)
    (fun _ h => by cases h) (fun _ _ => .of_session_eq rfl rfl) message isApp

end

def raised (st next : SpdmConnectionState) : SpdmConnectionState :=
  if st.before next then next else st

def advance (st : SpdmConnectionState) (code : UInt8) : SpdmConnectionState :=
  if code = spdmResponseVersion then .afterVersion
  else if code = spdmResponseCapabilities then .afterCapabilities
  else if code = spdmResponseAlgorithms then .negotiated
  else if code = spdmResponseDigests then raised st .afterDigest
  else if code = spdmResponseCertificate then raised st .afterCertificate
  else if code = spdmResponseChallengeAuth then .authenticated
  else st

omit [Crypto] [Device] in
theorem settleSent_advance (hchunk : c.build.chunkCap = false)
    {message : Bytes} (hcode : codeOf message = some code) :
    wp (settleSent sessionId message) (fun _ c' => connection c' = advance (connection c) code)
      (fun _ c' => connection c' = advance (connection c) code) c := by
  have hstay : ∀ {m : SpdmResult Unit}, Within Steady m →
      wp m (fun _ c' => connection c' = connection c) (fun _ c' => connection c' =
        connection c) c :=
    fun hm => hm.mono (fun _ _ h => h.connectionState) c
  have hestablish : ∀ id, Within Steady (establish id) := fun id =>
    .bind Steady.within_session fun _ => Steady.of_mild within_callWatchdog
  have hraise : ∀ st, connection (raiseConnectionState st c) = raised (connection c) st :=
    fun st => by
    unfold raiseConnectionState raised
    split <;> rfl
  rw [wp_settleSent_code hchunk hcode]
  unfold afterSend advance
  split_ifs
  · rfl
  · rfl
  · rfl
  · exact hraise _
  · exact hraise _
  · rfl
  · exact hstay (.bind (.orAbort _) fun _ => Steady.within_session)
  · cases sessionId with
    | none =>
      exact hstay (.bind .read fun _ => .bind (.orFail _ _) fun id => .bind (hestablish id) fun _ =>
        .update fun _ => ⟨⟨⟨rfl, rfl, rfl, rfl⟩, rfl⟩, rfl, rfl, rfl, rfl⟩)
    | some id => exact hstay (hestablish id)
  · cases sessionId with
    | none => rfl
    | some id => exact hstay (hestablish id)
  · rfl

def KeepsFree (c c' : SpdmContext) : Prop := AllFree c → AllFree c'

instance : StepRel KeepsFree where
  refl _ := id
  trans h h' hc := h' (h hc)

omit [Crypto] [Device] in
theorem keepsFree_settleSent (message : Bytes) : Within KeepsFree (settleSent none message) := by
  have hslot : ∀ {id : Nat} {f : SpdmSession → SpdmSession},
      (∀ s, s.sessionId = invalidSessionId → (f s).sessionId = invalidSessionId) →
      Within KeepsFree (withSession id SpdmStatus.invalidStateLocal (update f)) := fun hf =>
    within_withSession_of fun c i s t hat hran => by
      obtain ⟨_, hs⟩ | ⟨_, hs⟩ := hran <;> cases hs
      exact (Idles.setSlot hat.slot (hf s)).free
  have hestablish : ∀ id, Within KeepsFree (establish id) := fun id =>
    .bind (hslot fun _ h => h) fun _ =>
      (Idles.of_never within_callWatchdog).mono fun _ _ h => h.free
  exact within_settleSent (fun _ h => h) (fun _ _ h => h) (fun _ _ => hslot fun _ _ => rfl)
    (fun id _ => hestablish id) (fun _ => .bind .read fun _ => .bind (.orFail _ _) fun id =>
      .bind (hestablish id) fun _ => .update fun _ h => h) message

omit [Device] in
theorem ends_sealAndSend (sessionId : Option Nat) (response : Bytes) (isApp : Bool) :
    Ends (fun m => m = response ∨ codeOf m = some spdmResponseError) (fun _ => True)
      (sealAndSend sessionId response isApp) := by
  have hout : Ends (fun m => m = response ∨ codeOf m = some spdmResponseError) (fun _ => True)
      (outgoing sessionId response isApp) := by
    refine .seq .read fun _ => ?_
    split_ifs
    · exact .ret (.inr rfl)
    · exact .ret (.inr rfl)
    · exact .seq (.any _) fun _ => .seq .read fun _ => .ret (.inr rfl)
    · exact .ret (.inr rfl)
    · exact .ret (.inl rfl)
  exact .bind hout fun _ h => .seq (.any _) fun _ => .seq (.any _) fun _ => .ret h

end Transfer

/-! ## §5. One call. -/

def isGetVersion (c : SpdmContext) : Bool :=
  match nextRequest c with
  | .ok (sessionId, bytes, _) _ => startsOver sessionId bytes
  | _ => false

def isAppMessage (c : SpdmContext) : Bool :=
  match nextRequest c with
  | .ok (_, _, isApp) _ => isApp
  | _ => false

omit [Device] in
theorem nextRequest_of_isAppMessage (happ : isAppMessage c = true) :
    ∃ id bytes c₁, nextRequest c = .ok (some id, bytes, true) c₁ := by
  have hsession : Ends (fun r => r.2.2 = true → r.1.isSome = true) (fun _ => True)
      nextRequest := by
    refine .seq (.any _) fun ⟨message, secured⟩ => ?_
    cases secured with
    | false => exact .ret fun h => by cases h
    | true =>
      exact .seq (.any _) fun _ => .seq (.any _) fun _ => .seq (.any _) fun _ =>
        .seq (.any _) fun _ => .ret fun _ => rfl
  unfold isAppMessage at happ
  split at happ
  case h_1 sessionId bytes isApp c₁ hrequest =>
    subst happ
    obtain ⟨id, rfl⟩ := Option.isSome_iff_exists.1 (wp_ok (hsession c) hrequest rfl)
    exact ⟨id, bytes, c₁, hrequest⟩
  case h_2 => cases happ

omit [Device] in
theorem isGetVersion_of_isAppMessage (happ : isAppMessage c = true) :
    isGetVersion c = false := by
  obtain ⟨id, bytes, c₁, hrequest⟩ := nextRequest_of_isAppMessage happ
  rw [isGetVersion, hrequest]
  rfl

def sentMessage (depth : Nat) (c : SpdmContext) : Option Bytes :=
  match dispatchNext depth c with
  | .ok a c₁ => a.response.bind fun response =>
      (sealAndSend a.sessionId response a.isApp c₁).returned
  | _ => none

def appAnswer (c : SpdmContext) : Option Bytes :=
  match nextRequest c with
  | .ok (some id, bytes, true) _ => (dispatchSecuredAppMessage id bytes).2
  | _ => none

theorem sentMessage_ne_of_app (happ : isAppMessage c = true) (hcode : code ≠ spdmResponseError)
    (h : (appAnswer c).bind codeOf ≠ some code) :
    (sentMessage depth c).bind codeOf ≠ some code := by
  obtain ⟨id, bytes, c₁, hrequest⟩ := nextRequest_of_isAppMessage happ
  have hanswer : dispatchNext depth c = .ok ⟨some id, true, (dispatchSecuredAppMessage id bytes).1,
      (dispatchSecuredAppMessage id bytes).2⟩ (recordDelivery id bytes c₁) := by
    rw [dispatchNext, bind_of_ok hrequest]
    rfl
  rw [appAnswer, hrequest] at h
  rw [sentMessage, hanswer]
  dsimp only at h ⊢
  cases hresponse : (dispatchSecuredAppMessage id bytes).2 with
  | none => simp
  | some response =>
    rw [hresponse] at h
    show ((sealAndSend (some id) response true (recordDelivery id bytes c₁)).returned).bind
      codeOf ≠ _
    cases hseal : sealAndSend (some id) response true (recordDelivery id bytes c₁) with
    | err _ _ => exact fun h => by cases h
    | panic => exact fun h => by cases h
    | ok m c₂ =>
      obtain rfl | herror := wp_ok (ends_sealAndSend (some id) response true _) hseal
      · exact h
      · exact fun hm => hcode (Option.some.inj (hm.symm.trans herror))

theorem answerNext_ne_err (depth : Nat) (r : Option Nat × Bytes × Bool) (c : SpdmContext) :
    wp (answerNext depth r) (fun _ _ => True) (fun _ _ => False) c :=
  wp_answerNext (fun _ _ _ => trivial) fun _ => wp_dispatchRequest (P := fun _ _ => True)
    (fun _ => trivial) (wp_of_ran fun _ _ => trivial)

theorem processMessage_parts (h : Ran (processMessage depth) c c') :
    (∃ e, nextRequest c = .err e c' ∧ sentMessage depth c = none) ∨
    ∃ r c₁ a c₂, nextRequest c = .ok r c₁ ∧ answerNext depth r c₁ = .ok a c₂ ∧
      (a.response = none ∧ c' = c₂ ∧ sentMessage depth c = none ∨
        ∃ response, a.response = some response ∧
          Ran (sendMessage a.sessionId response a.isApp) c₂ c' ∧
          sentMessage depth c = (sealAndSend a.sessionId response a.isApp c₂).returned) := by
  rw [processMessage_eq_send] at h
  unfold sentMessage
  obtain ⟨e, h⟩ | ⟨a, c₂, h, hsend⟩ := h.of_bind
  · rw [h]
    obtain h | ⟨r, c₁, hrequest, h⟩ := bind_eq_err.1 h
    · exact .inl ⟨e, h, rfl⟩
    · exact (wp_err (answerNext_ne_err depth r c₁) h).elim
  · rw [h]
    obtain ⟨r, c₁, hrequest, h⟩ := bind_eq_ok.1 h
    refine .inr ⟨r, c₁, a, c₂, hrequest, h, ?_⟩
    unfold sendAnswer sendResponse at hsend
    cases hresponse : a.response with
    | none =>
      simp only [hresponse] at hsend
      obtain ⟨_, h⟩ | ⟨_, h⟩ := hsend <;> cases h
      exact .inl ⟨rfl, rfl, by simp [hresponse]⟩
    | some response =>
      simp only [hresponse] at hsend
      refine .inr ⟨response, rfl, ?_, by simp [hresponse]⟩
      refine hsend.of_wp ?_
      rw [wp_bind, wp_attempt]
      exact wp_of_ran fun _ h => h

def resumes (anew : Bool) (c : SpdmContext) : SpdmConnectionState :=
  if anew then .notStarted else connection c

structure CallMoves (anew : Bool) (sent : Option Bytes) (c c' : SpdmContext) : Prop where
  silent : sent = none → connection c' = resumes anew c
  speaks : ∀ m, sent = some m → ∃ code, codeOf m = some code ∧ PermitsCode c anew code ∧
    connection c' = advance (resumes anew c) code
  free : (anew = true ∨ early c = true ∧ AllFree c) → AllFree c'

omit [Crypto] [Device] in
theorem PermitsCode.congr
    (h : PermitsCode c' anew code) (hc : connection c' = connection c) : PermitsCode c anew code :=
  ⟨h.version, fun hk => hc ▸ h.capabilities hk, fun hk => hc ▸ h.algorithms hk,
    fun hk => (congrArg (·.before .negotiated) hc).symm.trans (h.attested hk), h.anew⟩

structure Advances (sent : Option Bytes) (st : SpdmConnectionState) (c' : SpdmContext) : Prop where
  silent : sent = none → connection c' = st
  speaks : ∀ m, sent = some m → ∃ code, codeOf m = some code ∧ connection c' = advance st code

section
omit [Device]

theorem sendMessage_advances {response : Bytes}
    {isApp : Bool} (hchunk : c.build.chunkCap = false) :
    let After := Advances (sealAndSend sessionId response isApp c).returned (connection c)
    wp (sendMessage sessionId response isApp) (fun _ => After) (fun _ => After) c := by
  intro After
  have hsame := sameConnection_sealAndSend sessionId response isApp
  rw [sendMessage_eq, wp_bind]
  cases hseal : sealAndSend sessionId response isApp c with
  | panic => exact wp_of_panic hseal
  | err e c₁ =>
    rw [wp_of_err hseal]
    refine ⟨fun _ => hsame.ran (.inr ⟨e, hseal⟩), fun m hm => ?_⟩
    rw [hseal] at hm
    cases hm
  | ok m c₁ =>
    rw [wp_of_ok hseal]
    have hran : Ran (sealAndSend sessionId response isApp) c c₁ := .inl ⟨m, hseal⟩
    have hchunk₁ : c₁.build.chunkCap = false := by
      have hbuild := within_sealAndSend_steady (R := SameBuild) (fun _ _ h => h.build)
        (fun _ _ => rfl) sessionId response isApp
      rw [hbuild.ran hran]
      exact hchunk
    cases hcode : codeOf m with
    | none => exact wp_settleSent_short hcode
    | some code =>
      refine wp_of_ran fun c' hsettle => ?_
      have hadvance := hsettle.of_wp
        (settleSent_advance hchunk₁ hcode)
      rw [hsame.ran hran] at hadvance
      refine ⟨fun h => ?_, fun m' hm' => ?_⟩
      · rw [hseal] at h
        cases h
      · rw [hseal] at hm'
        cases hm'
        exact ⟨code, hcode, hadvance⟩

theorem keepsFree_sendMessage (response : Bytes) (isApp : Bool) :
    Within KeepsFree (sendMessage none response isApp) := by
  rw [sendMessage_eq]
  exact .bind ((idles_sealAndSend response isApp).mono fun _ _ h => h.free) fun m =>
    keepsFree_settleSent m

theorem sendMessage_moves {c₂ : SpdmContext}
    {response : Bytes} {isApp : Bool} (hchunk : c₂.build.chunkCap = false)
    (hconnection : connection c₂ = resumes anew c) (hpermits : Permits c anew (some response))
    (hfree : (anew = true ∨ early c = true ∧ AllFree c) → sessionId = none ∧ AllFree c₂) :
    let After := CallMoves anew (sealAndSend sessionId response isApp c₂).returned c
    wp (sendMessage sessionId response isApp) (fun _ => After) (fun _ => After) c₂ := by
  refine wp_of_ran fun c' hran => ?_
  have hadvances : Advances (sealAndSend sessionId response isApp c₂).returned (connection c₂) c' :=
    hran.of_wp (sendMessage_advances hchunk)
  rw [hconnection] at hadvances
  refine ⟨hadvances.silent, fun m hm => ?_, fun h => ?_⟩
  · obtain ⟨code, hcode, hmoved⟩ := hadvances.speaks m hm
    refine ⟨code, hcode, ?_, hmoved⟩
    obtain ⟨c₃, hseal⟩ := Outcome.returned_eq_some.1 hm
    obtain rfl | herror := wp_ok (ends_sealAndSend sessionId response isApp c₂) hseal
    · exact hpermits _ rfl code hcode
    · obtain rfl : code = spdmResponseError := Option.some.inj (hcode.symm.trans herror)
      exact permitsCode_error c anew
  · -- while the table is free the response is not sealed
    obtain ⟨rfl, hfree₂⟩ := hfree h
    exact (keepsFree_sendMessage response isApp).ran hran hfree₂

end

structure Served (c c₁ : SpdmContext) (sessionId : Option Nat) (bytes : Bytes)
    (response : Option Bytes) (c₂ : SpdmContext) : Prop where
  permits : Permits c (startsOver sessionId bytes) response
  connection : connection c₂ = resumes (startsOver sessionId bytes) c
  chunkCap : c₂.build.chunkCap = false
  reset : startsOver sessionId bytes = true → AllFree c₂
  waits : startsOver sessionId bytes = false → Waits c₁ c₂

section Serve
variable {c c₁ : SpdmContext} {sessionId : Option Nat} {bytes : Bytes}
  (hvendor : VendorAnswers) (hchunk : c₁.build.chunkCap = false)
  (hconnection : connection c₁ = connection c) (depth : Nat)

include hvendor hchunk hconnection

theorem dispatchAt_served : wp (dispatchAt depth sessionId bytes) (Served c c₁ sessionId bytes)
    (fun e => Served c c₁ sessionId bytes e.2) c₁ := by
  have hserved : ∀ r c₂, Permits c₁ (startsOver sessionId bytes) r →
      (if startsOver sessionId bytes then Reset c₂ else Waits c₁ c₂) → Offline c₁ c₂ →
      Served c c₁ sessionId bytes r c₂ := by
    intro r c₂ hpermits hmoves hoffline
    have hpermits' : Permits c (startsOver sessionId bytes) r := fun m hm k hk =>
      (hpermits m hm k hk).congr hconnection
    have hbuild : c₂.build.chunkCap = false := by rw [hoffline.build, hchunk]
    cases hover : startsOver sessionId bytes with
    | true =>
      rw [hover] at hmoves
      refine ⟨hpermits', ?_, hbuild, fun _ => hmoves.free, fun h => ?_⟩
      · rw [hover]
        exact hmoves.connection
      · rw [hover] at h
        cases h
    | false =>
      rw [hover] at hmoves
      refine ⟨hpermits', ?_, hbuild, fun h => ?_, fun _ => hmoves⟩
      · rw [hover]
        exact hmoves.connection.trans hconnection
      · rw [hover] at h
        cases h
  exact wp_mono (wp_and (dispatchAt_permits hvendor hchunk depth sessionId)
    (wp_and (dispatchAt_moves hchunk depth sessionId)
      (within_dispatchAt_offline depth sessionId bytes c₁)))
    (fun r c₂ h => hserved r c₂ h.1 h.2.1 h.2.2) fun e c₂ h => hserved e.2 c₂ h.1 h.2.1 h.2.2

theorem answerNext_served : wp (answerNext depth (sessionId, bytes, false))
    (fun a c₂ => a.sessionId = sessionId ∧ Served c c₁ sessionId bytes a.response c₂)
    (fun _ _ => False) c₁ :=
  wp_mono (answerNext_of_dispatch hchunk (dispatchAt_served hvendor hchunk hconnection depth))
    (fun _ _ h => ⟨h.1.1, h.2⟩) fun _ _ h => h

end Serve

omit [Device] in
theorem nextRequest_waits (hc : Table false c) (hchunk : c.build.chunkCap = false) :
    wp nextRequest (fun r c₁ => connection c₁ = connection c ∧ c₁.build.chunkCap = false ∧
        Table false c₁ ∧ (AllFree c → r.1 = none ∧ AllFree c₁))
      (fun _ c₁ => connection c₁ = connection c ∧ (AllFree c → AllFree c₁)) c := by
  have htable := leads_nextRequest
    (.of_wire (fun _ => trivial) fun _ => trivial) c hc
  have hbuild : Within SameBuild nextRequest :=
    within_nextRequest (fun _ _ h => h.build) fun _ => rfl
  have hfree : wp nextRequest (fun r c₁ => AllFree c → r.1 = none ∧ AllFree c₁)
      (fun _ c₁ => AllFree c → AllFree c₁) c := by
    by_cases hfree : AllFree c
    · exact wp_mono (nextRequest_free hc hfree) (fun _ _ h _ => h) fun _ _ h _ => h
    · unfold wp
      cases nextRequest c <;> first | exact fun h => absurd h hfree | trivial
  refine wp_mono (wp_and (sameConnection_nextRequest c) (wp_and (hbuild c) (wp_and htable hfree)))
    (fun _ c₁ h => ⟨h.1, ?_, h.2.2.1.2.2, h.2.2.2⟩) fun _ _ h => ⟨h.1, h.2.2.2⟩
  rw [show c₁.build = c.build from h.2.1, hchunk]

theorem processMessage_moves (hvendor : VendorAnswers)
    (hc : Table false c) (hchunk : c.build.chunkCap = false) (happ : isAppMessage c = false)
    (hran : Ran (processMessage depth) c c') :
    CallMoves (isGetVersion c) (sentMessage depth c) c c' := by
  have hnext := nextRequest_waits hc hchunk
  unfold isAppMessage at happ
  unfold isGetVersion
  obtain ⟨e, hrequest, hsent⟩ | ⟨⟨sessionId, bytes, isApp⟩, c₁, a, c₂, hrequest, hanswer, hsends⟩ :=
    processMessage_parts hran
  · have herr := wp_err hnext hrequest
    rw [hrequest, hsent]
    exact ⟨fun _ => herr.1, fun _ h => (by cases h),
      fun h => herr.2 (h.resolve_left Bool.false_ne_true).2⟩
  · rw [hrequest] at happ ⊢
    dsimp only at happ ⊢
    subst happ
    obtain ⟨hconnection, hchunk₁, htable₁, hfree₁⟩ := wp_ok hnext hrequest
    obtain ⟨hsession, hserved⟩ := wp_ok
      (answerNext_served hvendor hchunk₁ hconnection depth) hanswer
    have hfree : (startsOver sessionId bytes = true ∨ early c = true ∧ AllFree c) →
        a.sessionId = none ∧ AllFree c₂ := by
      intro hcase
      cases hover : startsOver sessionId bytes with
      | true =>
        refine ⟨?_, hserved.reset hover⟩
        rw [hsession]
        exact Option.isNone_iff_eq_none.1 (Bool.and_eq_true_iff.1 hover).1
      | false =>
        obtain ⟨hearly, hfree⟩ := hcase.resolve_left (by simp [hover])
        obtain ⟨hnone, hfree₁⟩ := hfree₁ hfree
        have hearly₁ : early c₁ = true :=
          (congrArg (·.before .negotiated) hconnection).trans hearly
        exact ⟨hsession.trans hnone, (hserved.waits hover).free hearly₁ htable₁ hfree₁⟩
    obtain ⟨-, rfl, hsent⟩ | ⟨response, hresponse, hsend, hsent⟩ := hsends
    · rw [hsent]
      exact ⟨fun _ => hserved.connection, fun _ h => (by cases h), fun h => (hfree h).2⟩
    · rw [hsent]
      exact hsend.of_wp (sendMessage_moves hserved.chunkCap hserved.connection
        (hresponse ▸ hserved.permits) hfree)

theorem table_processMessage (hc : Table false c)
    (hchunk : c.build.chunkCap = false) (hran : Ran (processMessage depth) c c') :
    Table false c' ∧ c'.build.chunkCap = false := by
  have hstep : StepIf (fun _ => True) c c' := .inl ⟨⟨depth, hran⟩, trivial⟩
  have hbuild : SameBuild c c' := (within_processMessage (R := SameBuild) (fun _ _ h => h.build)
    (fun _ => rfl) (fun _ _ => rfl) (fun _ _ => rfl)
    fun _ _ => (within_dispatchAt_offline depth _ _).mono fun _ _ h => h.build).ran hran
  exact ⟨hstep.table hc, by rw [hbuild, hchunk]⟩

/-! ## §6. Runs. -/

def inUse (c : SpdmContext) (i : Nat) : Bool :=
  c.session[i]?.any fun s => s.sessionId != invalidSessionId

omit [Crypto] [Device] in
theorem AllFree.not_inUse (h : AllFree c) (i : Nat) : inUse c i = false := by
  unfold inUse
  cases hs : c.session[i]? with
  | none => rfl
  | some s => simp [h s (List.mem_of_getElem? hs)]

def takenSlots (c c' : SpdmContext) : List Nat :=
  (List.range c'.session.length).filter fun i => inUse c' i && !inUse c i

omit [Crypto] [Device] in
theorem mem_takenSlots {i : Nat} (hafter : inUse c' i = true)
    (hbefore : inUse c i = false) : i ∈ takenSlots c c' := by
  have hlt : i < c'.session.length := by
    by_contra hge
    rw [inUse, List.getElem?_eq_none (Nat.le_of_not_lt hge)] at hafter
    cases hafter
  simp [takenSlots, hlt, hafter, hbefore]

/-- What is noted since the last GET_VERSION that was taken up: the messages
sent and the slots taken. -/
structure Epoch where
  sent : List Bytes := []
  taken : List Nat := []

namespace Epoch

def codes (e : Epoch) : List UInt8 := e.sent.filterMap codeOf

def resume (e : Epoch) (c : SpdmContext) : Epoch := if isGetVersion c then {} else e

def note (depth : Nat) (c c' : SpdmContext) (e : Epoch) : Epoch :=
  { sent := (e.resume c).sent ++ (sentMessage depth c).toList
    taken := (e.resume c).taken ++ takenSlots c c' }

end Epoch

/-- **A run of a responder without chunks** in which no application message
comes in, with what is noted of it.  The surroundings decide what is received
and which sends succeed. -/
inductive Run : SpdmContext → Epoch → Prop
  | start {c : SpdmContext} (started : Started c) (chunkCap : c.build.chunkCap = false) : Run c {}
  | call {c c' : SpdmContext} {e : Epoch} (depth : Nat) (run : Run c e)
      (plain : isAppMessage c = false) (ran : Ran (processMessage depth) c c') :
      Run c' (e.note depth c c')
  | move {c c' : SpdmContext} {e : Epoch} (run : Run c e) (moved : Surroundings c c') : Run c' e

def negotiationCodes : List UInt8 :=
  [spdmResponseVersion, spdmResponseCapabilities, spdmResponseAlgorithms]

/-- **The order of a connection**: VERSION, CAPABILITIES and ALGORITHMS at
most once each and in this order, nothing attested before ALGORITHMS, no slot
in use before it, and every slot in use taken since. -/
structure Ordered (c : SpdmContext) (e : Epoch) : Prop where
  negotiation : e.codes.filter (· ∈ negotiationCodes) <+: negotiationCodes
  attested : ∀ before code after, e.codes = before ++ code :: after → code ∈ attestedCodes →
    spdmResponseAlgorithms ∈ before
  free : spdmResponseAlgorithms ∉ e.codes → AllFree c
  taken : ∀ i, inUse c i = true → i ∈ e.taken

def negotiated : SpdmConnectionState → List UInt8
  | .notStarted => []
  | .afterVersion => [spdmResponseVersion]
  | .afterCapabilities => [spdmResponseVersion, spdmResponseCapabilities]
  | _ => negotiationCodes

section
omit [Crypto] [Device]

theorem negotiated_of_late (h : st.before .negotiated = false) :
    negotiated st = negotiationCodes := by
  cases st with
  | notStarted => cases h
  | afterVersion => cases h
  | afterCapabilities => cases h
  | negotiated => rfl
  | afterDigest => rfl
  | afterCertificate => rfl
  | authenticated => rfl

theorem negotiated_prefix : negotiated st <+: negotiationCodes := by
  cases st <;> decide

theorem mem_negotiated (st : SpdmConnectionState) :
    spdmResponseAlgorithms ∈ negotiated st ↔ st.before .negotiated = false := by
  cases st <;> decide

theorem raised_late {next : SpdmConnectionState} (h : st.before .negotiated = false)
    (hnext : next.before .negotiated = false) : (raised st next).before .negotiated = false := by
  unfold raised
  split
  · exact hnext
  · exact h

end

section Advance
variable {c : SpdmContext} {anew : Bool} {code : UInt8}

section
omit [Crypto] [Device]

theorem PermitsCode.not_mem (h : PermitsCode c false code) (hlate : early c = false) :
    code ∉ negotiationCodes := by
  have hne : ∀ st : SpdmConnectionState, st.before .negotiated = true → connection c ≠ st :=
    fun st hst heq => by
      rw [← heq, show (connection c).before .negotiated = false from hlate] at hst
      cases hst
  simp only [negotiationCodes, List.mem_cons, List.not_mem_nil, or_false, not_or]
  exact ⟨fun hk => Bool.false_ne_true (h.version hk), fun hk => hne _ rfl (h.capabilities hk),
    fun hk => hne _ rfl (h.algorithms hk)⟩

theorem PermitsCode.advance_late (h : PermitsCode c false code) (hlate : early c = false) :
    (advance (connection c) code).before .negotiated = false := by
  have hnot := h.not_mem hlate
  simp only [negotiationCodes, List.mem_cons, List.not_mem_nil, or_false, not_or] at hnot
  unfold advance
  rw [if_neg hnot.1, if_neg hnot.2.1, if_neg hnot.2.2]
  split_ifs
  · exact raised_late hlate rfl
  · exact raised_late hlate rfl
  · rfl
  · exact hlate

theorem PermitsCode.negotiated_advance (h : PermitsCode c anew code) :
    negotiated (advance (resumes anew c) code) =
      negotiated (resumes anew c) ++ if code ∈ negotiationCodes then [code] else [] := by
  cases anew with
  | true =>
    -- VERSION, or an ERROR in its place
    obtain rfl | rfl := h.anew rfl <;> rfl
  | false =>
    change negotiated (advance (connection c) code) = negotiated (connection c) ++ _
    cases hlate : early c with
    | false =>
      rw [if_neg (h.not_mem hlate), List.append_nil, negotiated_of_late (h.advance_late hlate),
        negotiated_of_late hlate]
    | true =>
      by_cases hcap : code = spdmResponseCapabilities
      · rw [h.capabilities hcap, hcap]
        rfl
      · by_cases halg : code = spdmResponseAlgorithms
        · rw [h.algorithms halg, halg]
          rfl
        · have hver : code ≠ spdmResponseVersion := fun hk => Bool.false_ne_true (h.version hk)
          have hatt : code ∉ attestedCodes := fun hk => by
            rw [h.attested hk] at hlate
            cases hlate
          simp only [attestedCodes, List.mem_cons, not_or] at hatt
          unfold advance
          rw [if_neg hver, if_neg hcap, if_neg halg, if_neg hatt.1, if_neg hatt.2.1,
            if_neg hatt.2.2.1,
            if_neg (by simp [negotiationCodes, hver, hcap, halg]), List.append_nil]

end

end Advance

structure Progress (c : SpdmContext) (e : Epoch) : Prop where
  table : Table false c
  chunkCap : c.build.chunkCap = false
  negotiated : e.codes.filter (· ∈ negotiationCodes) = Responder.negotiated (connection c)
  attested : ∀ before code after, e.codes = before ++ code :: after → code ∈ attestedCodes →
    spdmResponseAlgorithms ∈ before
  free : early c = true → AllFree c
  taken : ∀ i, inUse c i = true → i ∈ e.taken

namespace Progress
variable {c c' : SpdmContext} {e : Epoch}

section
omit [Crypto] [Device]

theorem mem_codes (h : Progress c e) :
    spdmResponseAlgorithms ∈ e.codes ↔ early c = false := by
  rw [show early c = false ↔ _ from (mem_negotiated (connection c)).symm, ← h.negotiated,
    List.mem_filter]
  exact ⟨fun hk => ⟨hk, by decide⟩, fun hk => hk.1⟩

theorem ordered (h : Progress c e) : Ordered c e where
  negotiation := h.negotiated ▸ negotiated_prefix
  attested := h.attested
  free hk := h.free (by rwa [h.mem_codes, Bool.not_eq_false] at hk)
  taken := h.taken

theorem of_started (h : Started c) (hchunk : c.build.chunkCap = false) : Progress c {} := by
  have htable : Table false c := .of_started h
  obtain ⟨build, transportEncap, configInfo, provisionInfo, -, rfl⟩ := h
  have hfree : AllFree (.new build transportEncap configInfo provisionInfo) := fun s hs => by
    rw [(List.mem_replicate.1 hs).2]
  refine ⟨htable, hchunk, rfl, fun before _ _ h => ?_, fun _ => hfree, fun i hi => ?_⟩
  · cases before <;> cases h
  · rw [hfree.not_inUse] at hi
    cases hi

theorem surroundings (h : Progress c e) (hmove : Surroundings c c') : Progress c' e := by
  have htable := h.table.surroundings hmove
  generalize hc' : c' = c'' at hmove htable ⊢
  rw [hmove] at htable ⊢
  exact ⟨htable, h.chunkCap, h.negotiated, h.attested, h.free, h.taken⟩

theorem attested_append {codes : List UInt8}
    (h : ∀ before k after, codes = before ++ k :: after → k ∈ attestedCodes →
      spdmResponseAlgorithms ∈ before)
    (hcode : code ∈ attestedCodes → spdmResponseAlgorithms ∈ codes) :
    ∀ before k after, codes ++ [code] = before ++ k :: after → k ∈ attestedCodes →
      spdmResponseAlgorithms ∈ before := by
  intro before k after heq hk
  rcases List.eq_nil_or_concat after with rfl | ⟨after', last, rfl⟩
  · obtain ⟨hcodes, hlast⟩ := List.append_inj' heq rfl
    rw [← hcodes]
    exact hcode (List.singleton_injective hlast ▸ hk)
  · rw [List.concat_eq_append, ← List.cons_append, ← List.append_assoc] at heq
    exact h before k after' (List.append_inj' heq rfl).1 hk

end

theorem spoken (h : Progress c e)
    (hmoves : CallMoves (isGetVersion c) (sentMessage depth c) c c') :
    (e.note depth c c').codes.filter (· ∈ negotiationCodes) = Responder.negotiated (connection c') ∧
      (∀ before code after, (e.note depth c c').codes = before ++ code :: after →
        code ∈ attestedCodes → spdmResponseAlgorithms ∈ before) ∧
      (isGetVersion c = false → early c = false → early c' = false) := by
  have hnote : (e.note depth c c').codes =
      (e.resume c).codes ++ (sentMessage depth c).toList.filterMap codeOf := List.filterMap_append
  rw [hnote]
  -- what is kept agrees with where the connection resumes
  have hresume : (e.resume c).codes.filter (· ∈ negotiationCodes) =
      Responder.negotiated (resumes (isGetVersion c) c) := by
    unfold Epoch.resume resumes
    cases isGetVersion c with
    | true => rfl
    | false => exact h.negotiated
  have hattested : ∀ before code after, (e.resume c).codes = before ++ code :: after →
      code ∈ attestedCodes → spdmResponseAlgorithms ∈ before := by
    unfold Epoch.resume
    cases isGetVersion c with
    | true =>
      intro before code after heq
      cases before <;> cases heq
    | false => exact h.attested
  cases hsent : sentMessage depth c with
  | none =>
    have hsilent := hmoves.silent hsent
    rw [Option.toList_none, List.filterMap_nil, List.append_nil, hsilent]
    refine ⟨hresume, hattested, fun hover hc => ?_⟩
    rw [hover] at hsilent
    exact (congrArg (·.before .negotiated) hsilent).trans hc
  | some m =>
    obtain ⟨code, hcode, hpermits, hspeaks⟩ := hmoves.speaks m hsent
    have hone : (some m).toList.filterMap codeOf = [code] := by simp [hcode]
    rw [hone, hspeaks, hpermits.negotiated_advance, List.filter_append, hresume]
    refine ⟨by simp [List.filter_cons], attested_append hattested fun hk => ?_, fun hover hc => ?_⟩
    · have hover : isGetVersion c = false := by
        by_contra hc
        obtain rfl | rfl := hpermits.anew (by simpa using hc) <;> revert hk <;> decide
      rw [Epoch.resume, hover]
      exact h.mem_codes.2 (hpermits.attested hk)
    · rw [hover] at hpermits hspeaks
      exact (congrArg (·.before .negotiated) hspeaks).trans (hpermits.advance_late hc)

theorem call (hvendor : VendorAnswers) (h : Progress c e)
    (hplain : isAppMessage c = false) (hran : Ran (processMessage depth) c c') :
    Progress c' (e.note depth c c') := by
  have hmoves := processMessage_moves hvendor h.table h.chunkCap hplain hran
  obtain ⟨htable, hchunk⟩ := table_processMessage h.table h.chunkCap hran
  obtain ⟨hcodes, hattested, hlate⟩ := h.spoken hmoves
  refine ⟨htable, hchunk, hcodes, hattested, fun hearly => ?_, fun i hi => ?_⟩
  · refine hmoves.free ?_
    cases hover : isGetVersion c with
    | true => exact .inl rfl
    | false =>
      have hearlyBefore : early c = true := by
        by_contra hc
        rw [hlate hover (Bool.eq_false_iff.2 hc)] at hearly
        cases hearly
      exact .inr ⟨hearlyBefore, h.free hearlyBefore⟩
  · cases hover : isGetVersion c with
    | true =>
      rw [(hmoves.free (.inl hover)).not_inUse] at hi
      cases hi
    | false =>
      refine List.mem_append.2 ?_
      rw [Epoch.resume, hover]
      cases hbefore : inUse c i with
      | true => exact .inl (h.taken i hbefore)
      | false => exact .inr (mem_takenSlots hi hbefore)

end Progress

/-- **Every run keeps the order of the connection.** -/
theorem connection_order (hvendor : VendorAnswers) {c : SpdmContext} {e : Epoch} (h : Run c e) :
    Ordered c e := by
  suffices hprogress : Progress c e from hprogress.ordered
  induction h with
  | start hstart hchunk => exact .of_started hstart hchunk
  | call depth _ hplain hran ih => exact ih.call hvendor hplain hran
  | move _ hmove ih => exact ih.surroundings hmove

end

namespace SmallRun

open SmallBackend

def serveNoted : List (SpdmContext → Bytes) → SpdmContext → Epoch → Option (SpdmContext × Epoch) :=
  serveNoting (fun c c' e => if isAppMessage c then none else some (e.note 3 c c')) [[1]]

theorem run_serveNoted {packets : List (SpdmContext → Bytes)} {e e' : Epoch}
    (hrun : Run c e) (h : serveNoted packets c e = some (c', e')) : Run c' e' := by
  refine serveNoting_keep (fun _ hrun => hrun.move rfl) (fun {c c'} _ _ hrun hran hnote =>
    ?_) hrun h
  obtain ⟨hplain, hnoted⟩ := Option.ite_none_left_eq_some.1 hnote
  cases hnoted
  exact hrun.call 3 (Bool.eq_false_iff.2 hplain) hran

theorem order_twice : ∃ c e, Run c e ∧ Ordered c e ∧ inUse c 0 = true ∧
    e.codes = [spdmResponseVersion, spdmResponseCapabilities, spdmResponseAlgorithms,
      spdmResponsePskExchangeRsp] := by
  let packets := smallNegotiation pskPeerCapabilities 136 ++ [smallPskExchange]
  have hserve : ((serveNoted (packets ++ packets) pskWithContextResponder {}).map fun r =>
      (inUse r.1 0, r.2.codes)) = some (true, [spdmResponseVersion, spdmResponseCapabilities,
        spdmResponseAlgorithms, spdmResponsePskExchangeRsp]) := by
    decide +kernel
  obtain ⟨⟨c, e⟩, hserve, hcodes⟩ := Option.map_eq_some_iff.1 hserve
  have hrun : Run c e := run_serveNoted (.start (started_smallResponder _ _) rfl) hserve
  simp only [Prod.mk.injEq] at hcodes
  exact ⟨c, e, hrun, connection_order (fun _ h => by cases h) hrun, hcodes⟩

end SmallRun

end Responder

end Spdm
