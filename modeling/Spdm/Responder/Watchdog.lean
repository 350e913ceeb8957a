/-
  Spdm.Responder.Watchdog — the watchdogs of established sessions.
-/
import Spdm.Responder.Standing

namespace Spdm

open Effect Codec

variable {t : SpdmSession} {Q : SpdmContext → Prop} {c c' : SpdmContext} {sessionId : Option Nat}
    {id depth : Nat} {bytes : Bytes}

namespace Responder

open SpdmContext SpdmRequestResponseCode SpdmErrorCode

section
variable [Crypto]

/-! ## §1. Counters that last. -/

structure CipherCounts : Prop where
  encrypt : ∀ algo key nonce aad plain,
    aeadEncrypt algo key nonce aad plain ≠ .error .sequenceNumberOverflow
  decrypt : ∀ algo key nonce aad cipher tag,
    aeadDecrypt algo key nonce aad cipher tag ≠ .error .sequenceNumberOverflow

section Counters
variable {config : Config} {room : Nat} {p : SpdmSessionSecretParam}

abbrev Counts {α : Type} (m : Prog SpdmSession SpdmStatus α) : Prop :=
  Ends (fun _ => True) (· ≠ .sequenceNumberOverflow) m

omit [Crypto] in
theorem counts_guardElse {b : Bool} {e : SpdmStatus} (h : b = false → e ≠ .sequenceNumberOverflow) :
    Counts (guardElse b e) := by
  cases b with
  | false => exact .fail (h rfl)
  | true => exact .ret trivial

omit [Crypto] in
theorem counts_liftResult {α : Type} {r : Except SpdmStatus α}
    (h : r ≠ .error .sequenceNumberOverflow) : Counts (liftResult r) := by
  cases r with
  | ok a => exact .ret trivial
  | error e => exact .fail fun he => h (he ▸ rfl)

theorem counts_encodeMsg (hcipher : CipherCounts) (hp : p.sequenceNumber ≠ maxSequenceNumber)
    (app : Bytes) : Counts (SpdmSession.encodeMsg config app room p) :=
  .seq .read fun _ => .seq (.orAbort _) fun _ =>
    .seq (counts_guardElse fun h => absurd h (by simpa using hp)) fun _ =>
    .seq (counts_guardElse fun _ => by decide) fun _ => .seq (.assert _) fun _ =>
    .seq (.assert _) fun _ => .seq (counts_liftResult (hcipher.encrypt _ _ _ _ _)) fun _ =>
    .seq (.assert _) fun _ => .seq (.assert _) fun _ => .ret trivial

theorem counts_decodeMsg (hcipher : CipherCounts) (hp : p.sequenceNumber ≠ maxSequenceNumber)
    (secured : Bytes) : Counts (SpdmSession.decodeMsg config secured room p) := by
  refine .seq .read fun s => .seq (.orAbort _) fun _ =>
    .seq (counts_guardElse fun h => absurd h (by simpa using hp)) fun _ => .seq ?_ fun _ =>
    .seq (counts_guardElse fun _ => by decide) fun _ =>
    .seq (counts_guardElse fun _ => by decide) fun _ => .seq (.assert _) fun _ =>
    .seq (counts_liftResult (hcipher.decrypt _ _ _ _ _ _)) fun _ =>
    .seq (counts_guardElse fun _ => by decide) fun _ => .seq (.assert _) fun _ => .ret trivial
  cases SpdmSession.parseAad s.sessionId s.transportParam.sequenceNumberCount p.sequenceNumber
      secured with
  | ok n _ => exact .ret trivial
  | err _ _ => exact .fail (by decide)
  | panic => exact EndsIn.abort

variable {s : SpdmSession}

theorem seal_lasts (hcipher : CipherCounts) {requester : Bool}
    (hs : (s.direction requester).sequenceNumber ≠ maxSequenceNumber) (app : Bytes) :
    wp (SpdmSession.encodeSpdmSecuredMessage config app room requester)
      (fun _ t => t = (s.advanceDirection requester).recordSeal requester
        (s.direction requester) app)
      (fun _ t => t = s) s := by
  have hcounts : wp (SpdmSession.encodeMsg config app room (s.direction requester)) _ _ s :=
    counts_encodeMsg hcipher hs app s
  unfold SpdmSession.encodeSpdmSecuredMessage
  simp only [wp_bind, wp_read, wp_attempt]
  split_ifs with hstate
  · simp [SpdmSession.wp_tearDownOnOverflow]
  · obtain ⟨out, henc⟩ | ⟨e, henc⟩ | henc :=
      SpdmSession.encodeMsg_cases config app room (s.direction requester) s
    · rw [wp_of_ok henc]
      rfl
    · rw [wp_of_err henc] at hcounts ⊢
      rw [wp_bind, wp_ret, SpdmSession.wp_tearDownOnOverflow]
      dsimp only
      rw [if_neg hcounts]
    · exact wp_of_panic henc

theorem open_lasts (hcipher : CipherCounts)
    (hs : (s.direction true).sequenceNumber ≠ maxSequenceNumber) (secured : Bytes) :
    wp (SpdmSession.decodeSpdmSecuredMessage config secured room true)
      (fun app t => t = (s.advanceDirection true).recordOpen (s.direction true) secured app)
      (fun _ t => t = s ∨ t = s.advanceDirection true) s := by
  have hcounts : wp (SpdmSession.decodeMsg config secured room (s.direction true)) _ _ s :=
    counts_decodeMsg hcipher hs secured s
  have hopen : wp (SpdmSession.openDirection config secured room true)
      (fun app t => t = (s.advanceDirection true).recordOpen (s.direction true) secured app)
      (fun e t => e ≠ .sequenceNumberOverflow ∧ t = s.advanceDirection true) s := by
    unfold SpdmSession.openDirection
    simp only [wp_bind, wp_read, wp_attempt]
    obtain ⟨app, hdec⟩ | ⟨e, hdec⟩ | hdec :=
      SpdmSession.decodeMsg_cases config secured room (s.direction true) s
    · rw [wp_of_ok hdec, SpdmSession.wp_countDecoded]
    · rw [wp_of_err hdec] at hcounts ⊢
      rw [SpdmSession.wp_countDecoded]
      dsimp only
      rw [if_neg hcounts]
      exact ⟨hcounts, rfl⟩
    · exact wp_of_panic hdec
  have hfinish : wp (attempt (SpdmSession.openDirection config secured room true) >>=
      SpdmSession.tearDownOnOverflow)
      (fun app t => t = (s.advanceDirection true).recordOpen (s.direction true) secured app)
      (fun _ t => t = s ∨ t = s.advanceDirection true) s := by
    rw [wp_bind, wp_attempt]
    refine wp_mono hopen (fun app t h => ?_) fun e t h => ?_
    · exact h
    · rw [SpdmSession.wp_tearDownOnOverflow]
      dsimp only
      rw [if_neg h.1]
      exact .inr h.2
  unfold SpdmSession.decodeSpdmSecuredMessage
  rw [wp_bind, wp_read]
  cases hstate : s.sessionState with
  | notStarted => exact .inl rfl
  | handshaking => exact hfinish
  | established => exact hfinish

structure StandingKept (s t : SpdmSession) : Prop where
  standsFor : ∀ id period, StandsFor t id period ↔ StandsFor s id period
  period : t.sessionId ≠ invalidSessionId →
    s.sessionId = t.sessionId ∧ s.heartbeatPeriod = t.heartbeatPeriod

section
omit [Crypto]

theorem StandingKept.of_eq (hid : t.sessionId = s.sessionId)
    (hstate : t.sessionState = s.sessionState) (hperiod : t.heartbeatPeriod = s.heartbeatPeriod) :
    StandingKept s t := by
  refine ⟨fun id period => ⟨fun h => ?_, fun h => ?_⟩, fun _ => ⟨hid.symm, hperiod.symm⟩⟩
  · exact ⟨hid.symm.trans h.sessionId, hstate.symm.trans h.state, hperiod.symm.trans h.period⟩
  · exact ⟨hid.trans h.sessionId, hstate.trans h.state, hperiod.trans h.period⟩

theorem StandingKept.setDefault (hs : s.sessionState ≠ .established) :
    StandingKept s s.setDefault :=
  ⟨fun _ _ => iff_of_false (fun h => by cases h.state) fun h => hs h.state, fun h => absurd rfl h⟩

theorem advanceDirection_heartbeatPeriod (requester : Bool) (s : SpdmSession) :
    (s.advanceDirection requester).heartbeatPeriod = s.heartbeatPeriod := by
  unfold SpdmSession.advanceDirection
  split <;> rfl

theorem StandingKept.advance (requester : Bool)
    (h : t = { s.advanceDirection requester with sealed := t.sealed, opened := t.opened }) :
    StandingKept s t := by
  rw [h]
  exact .of_eq (SpdmSession.advanceDirection_sessionId requester s)
    (SpdmSession.advanceDirection_sessionState requester s)
    (advanceDirection_heartbeatPeriod requester s)

end

theorem sealed_kept (hcipher : CipherCounts) (hs : ¬ Spent s) {app : Bytes}
    (hran : Ran (SpdmSession.encodeSpdmSecuredMessage config app room false) s t) :
    StandingKept s t := by
  have hsame : StandingKept s s := .of_eq rfl rfl rfl
  by_cases hstate : s.sessionState = .established
  · refine hran.of_wp (wp_mono (seal_lasts hcipher (fun h => hs ⟨hstate, h⟩) app) (fun _ t h => ?_)
      fun _ t h => ?_)
    · rw [h]
      exact .advance false rfl
    · rw [h]
      exact hsame
  · refine hran.of_wp (wp_mono (SpdmSession.encodeSpdmSecuredMessage_spec _ _ _ _ s)
      (fun _ t h => ?_) fun _ t h => ?_)
    · rw [h.after]
      exact .advance false rfl
    · obtain rfl | rfl := h
      · exact hsame
      · exact .setDefault hstate

omit [Crypto] in
theorem spent_advance (h : Spent (s.advanceDirection true)) : Spent s := by
  obtain ⟨hstate, hcount⟩ := h
  rw [SpdmSession.advanceDirection_sessionState] at hstate
  refine ⟨hstate, ?_⟩
  simpa [SpdmSession.direction, SpdmSession.advanceDirection, hstate] using hcount

theorem opened_kept (hcipher : CipherCounts)
    (hs : s.sessionState = .established → (s.direction true).sequenceNumber ≠ maxSequenceNumber)
    {secured : Bytes}
    (hran : Ran (SpdmSession.decodeSpdmSecuredMessage config secured room true) s t) :
    StandingKept s t ∧ (Spent t → Spent s) := by
  have hsame : StandingKept s s ∧ (Spent s → Spent s) := ⟨.of_eq rfl rfl rfl, id⟩
  have hadvance : ∀ {t}, t = { s.advanceDirection true with opened := t.opened } →
      StandingKept s t ∧ (Spent t → Spent s) := fun h => by
    rw [h]
    exact ⟨.advance true rfl, fun h => spent_advance h⟩
  by_cases hstate : s.sessionState = .established
  · refine hran.of_wp (Q := fun t => StandingKept s t ∧ (Spent t → Spent s))
      (wp_mono (open_lasts hcipher (hs hstate) secured) (fun _ t h => ?_) fun _ t h => ?_)
    · rw [h]
      exact hadvance rfl
    · obtain rfl | rfl := h
      · exact hsame
      · exact hadvance rfl
  · refine hran.of_wp (Q := fun t => StandingKept s t ∧ (Spent t → Spent s))
      (wp_mono (SpdmSession.decodeSpdmSecuredMessage_spec _ _ _ _ s) (fun _ t h => ?_)
        fun _ t h => ?_)
    · cases h with
      | current => exact hadvance rfl
      | backup _ h => exact absurd h hstate
    · cases h with
      | idle => exact hsame
      | current => exact hadvance rfl
      | backup _ h => exact absurd h hstate
      | down => exact ⟨.setDefault hstate, fun h => by cases h.1⟩

end Counters

/-! ## §2. Receiving and sending. -/

omit [Crypto] in
theorem wp_liftResult_of {ε α : Type} {r : Except ε α}
    (h : Q c) : wp (liftResult r) (fun _ => Q) (fun _ => Q) c := by
  cases r <;> exact h

omit [Crypto] in
theorem wp_liftCall_of {ε α : Type} {r : Option (Except ε α)}
    (h : Q c) : wp (liftCall r) (fun _ => Q) (fun _ => Q) c := by
  cases r with
  | none => trivial
  | some r => exact wp_liftResult_of h

theorem wp_nextRequest
    (hdevice : ∀ c₁, DeviceStep c c₁ → Q c₁)
    (hopen : ∀ c₁ id i s t config message room, DeviceStep c c₁ → SlotAt c₁ id i s →
      Ran (SpdmSession.decodeSpdmSecuredMessage config message room true) s t → Q (c₁.setSlot i t))
    (hreset : ∀ c₁ id, Q c₁ →
      Q { c₁ with world := { c₁.world with watchdog := c₁.world.watchdog ++ [.reset id] } }) :
    wp nextRequest (fun _ => Q) (fun _ => Q) c := by
  have hdecode : ∀ c₁ id message, DeviceStep c c₁ →
      wp (decodeRequest id message) (fun _ => Q) (fun _ => Q) c₁ := by
    intro c₁ id message hstep
    unfold decodeRequest
    rw [wp_bind, wp_read, wp_bind, wp_mapErr]
    refine wp_withSession_of (fun i s hat => ?_) (hdevice c₁ hstep)
    refine wp_mono (wp_of_ran fun t hran =>
      hopen c₁ id i s t _ _ _ hstep hat hran) (fun app t h => ?_) fun _ _ h => h
    rw [wp_mapErr]
    exact wp_liftCall_of h
  unfold nextRequest
  rw [wp_bind]
  refine wp_mono (within_receiveMessage c) (fun ⟨message, secured⟩ c₁ hstep => ?_)
    fun _ c₁ hstep => hdevice c₁ hstep
  cases secured with
  | false => exact hdevice c₁ hstep
  | true =>
    dsimp only
    rw [if_pos rfl, wp_bind, wp_parse]
    refine ⟨fun id rest _ => ?_, fun _ _ _ => ?_⟩
    · rw [wp_bind, wp_orFail]
      refine ⟨fun id' _ => ?_, fun h => by cases h⟩
      rw [wp_bind]
      refine wp_mono (hdecode c₁ id' message hstep) (fun ⟨request, isApp⟩ c₂ hc₂ => ?_)
        fun _ _ h => h
      rw [wp_bind, callWatchdog, wp_update]
      split
      · exact hreset c₂ id' hc₂
      · exact hc₂
    · rw [wp_bind, wp_orFail]
      exact ⟨fun _ h => (by cases h), fun _ => hdevice c₁ hstep⟩

theorem wp_sealAndSend
    (hwire : ∀ c₁, WireStep c c₁ → Q c₁)
    (hseal : ∀ c₁ id i s t config app room, WireStep c c₁ → SlotAt c₁ id i s →
      Ran (SpdmSession.encodeSpdmSecuredMessage config app room false) s t → Q (c₁.setSlot i t))
    (hdevice : ∀ c₁ c₂, WireStep c₁ c₂ → Q c₁ → Q c₂) {message : Bytes} {isApp : Bool} :
    wp (sealAndSend sessionId message isApp) (fun _ => Q) (fun _ => Q) c := by
  have hout : Within WireStep (outgoing sessionId message isApp) :=
    within_outgoing (within_keepLargeResponse (fun _ _ h => h.wire) _)
  have hencode : ∀ c₁ m, WireStep c c₁ →
      wp (encodeOutgoing sessionId m isApp) (fun _ => Q) (fun _ => Q) c₁ := by
    intro c₁ m hstep
    have hc₁ := hwire c₁ hstep
    unfold encodeOutgoing
    rw [wp_bind, wp_read]
    cases sessionId with
    | none =>
      unfold SpdmContext.encap
      exact wp_liftResult_of hc₁
    | some id =>
      unfold encodeSecuredMessage
      rw [wp_bind, wp_read, wp_bind]
      refine wp_mono (wp_liftCall_of (Q := (· = c₁)) rfl) (fun app c₂ h => ?_)
        fun _ _ h => h ▸ hc₁
      subst h
      rw [wp_bind]
      refine wp_withSession_of (fun i s hat => ?_) hc₁
      exact wp_mono (wp_of_ran (Q := fun t => Q (c₂.setSlot i t)) fun t hran =>
        hseal c₂ id i s t _ _ _ hstep hat hran) (fun _ _ h => wp_liftResult_of h) fun _ _ h => h
  have hsend : ∀ packet, Within WireStep (deviceSend packet) := fun packet =>
    .bind .read fun _ => .bind (.update fun _ => rfl) fun _ => .guardElse _ _
  unfold sealAndSend
  rw [wp_bind]
  refine wp_mono (hout c) (fun m c₁ hstep => ?_) fun _ c₁ hstep => hwire c₁ hstep
  rw [wp_bind]
  refine wp_mono (hencode c₁ m hstep) (fun packet c₂ hc₂ => ?_) fun _ _ h => h
  rw [wp_bind]
  exact wp_mono (hsend packet c₂) (fun _ c₃ h => hdevice c₂ c₃ h hc₂) fun _ c₃ h =>
    hdevice c₂ c₃ h hc₂

def RequestsLast (c : SpdmContext) : Prop :=
  ∀ s ∈ c.session, s.sessionState = .established →
    (s.direction true).sequenceNumber ≠ maxSequenceNumber

theorem stands_nextRequest (hcipher : CipherCounts) (hc : RequestsLast c) :
    let After c₁ := Stands c c₁ ∧ KeepsPeriods (fun _ => False) c c₁
    wp nextRequest (fun _ => After) (fun _ => After) c := by
  intro After
  have hstep : ∀ c₁, DeviceStep c c₁ → After c₁ := fun c₁ h => by
    exact ⟨.of_session_eq (by rw [h]) (by rw [h]), .of_session_eq (by rw [h])⟩
  refine wp_nextRequest hstep (fun c₁ id i s t config message room hdevice hat hran => ?_)
    fun c₁ id hc₁ => ?_
  · have hsession : c₁.session = c.session := by
      rw [hdevice]
    obtain ⟨hkept, hspent⟩ := opened_kept hcipher
      (hc s (hsession ▸ List.mem_of_getElem? hat.slot)) hran
    exact ⟨StepRel.trans (hstep c₁ hdevice).1 (.setSlot hat.slot hkept.standsFor hspent),
      StepRel.trans (hstep c₁ hdevice).2
        (.setSlot hat.slot fun hused _ => hkept.period hused)⟩
  · exact ⟨⟨⟨hc₁.1.live, running_append.trans hc₁.1.running⟩, hc₁.1.unspent⟩, hc₁.2⟩

theorem sameLive_sealAndSend (hcipher : CipherCounts) (hc : Unspent c)
    (sessionId : Option Nat) (message : Bytes) (isApp : Bool) :
    let After c₁ := SameLive c c₁ ∧ KeepsPeriods (fun _ => False) c c₁
    wp (sealAndSend sessionId message isApp) (fun _ => After) (fun _ => After) c := by
  have hwire : ∀ {c c₁ : SpdmContext}, WireStep c c₁ →
      SameLive c c₁ ∧ KeepsPeriods (fun _ => False) c c₁ := fun h => by
    exact ⟨(Stands.of_session_eq (by rw [h]) (by rw [h])).toSameLive, .of_session_eq (by rw [h])⟩
  refine wp_sealAndSend (fun c₁ h => hwire h)
    (fun c₁ id i s t config app room hstep hat hran => ?_) (fun c₁ c₂ h hc₁ => ?_)
  · have hsession : c₁.session = c.session := by
      rw [hstep]
    have hkept := sealed_kept hcipher (hc s (hsession ▸ List.mem_of_getElem? hat.slot)) hran
    exact ⟨StepRel.trans (hwire hstep).1 (.setSlot hat.slot hkept.standsFor),
      StepRel.trans (hwire hstep).2
        (.setSlot hat.slot fun hused _ => hkept.period hused)⟩
  · exact ⟨StepRel.trans hc₁.1 (hwire h).1,
      StepRel.trans hc₁.2 (hwire h).2⟩

theorem table_sealAndSend (hc : Table false c) (sessionId : Option Nat)
    (message : Bytes) (isApp : Bool) :
    wp (sealAndSend sessionId message isApp) (fun _ => Table false) (fun _ => Table false) c := by
  have hwire : ∀ c c₁, WireStep c c₁ → Table false c → Table false c₁ := fun _ _ h hc =>
    hc.partyAct (.wire h : PartyAct false anySession _ _)
  refine wp_sealAndSend (fun c₁ h => hwire c c₁ h hc)
    (fun c₁ id i s t config app room h hat hran => ?_)
    hwire
  have hact : PartyAct false anySession c₁ _ :=
    .act (.table (.slot trivial hat (.single (.sealing config app room hran))))
  exact (hwire c c₁ h hc).partyAct hact

/-! ## §3. Sessions and watchdogs in step. -/

def Watched (c : SpdmContext) : Prop :=
  ∀ id seconds, running c.world.watchdog id = some seconds ↔
    ∃ period, Live c id period ∧ seconds = period * 2

structure WatchedBut (id : Nat) (c : SpdmContext) : Prop where
  stopped : running c.world.watchdog id = none
  others : ∀ j seconds, j ≠ id → (running c.world.watchdog j = some seconds ↔
    ∃ period, Live c j period ∧ seconds = period * 2)

section
omit [Crypto]

theorem Watched.sameLive (h : Watched c) (hs : SameLive c c') : Watched c' := by
  intro id seconds
  rw [hs.running, h]
  simp only [hs.live]

theorem WatchedBut.sameLive (h : WatchedBut id c)
    (hs : SameLive c c') : WatchedBut id c' := by
  refine ⟨by rw [hs.running, h.stopped], fun j seconds hj => ?_⟩
  rw [hs.running, h.others j seconds hj]
  simp only [hs.live]

theorem standsFor_absurd (hc : Table false c) {i j : Nat} {s u : SpdmSession}
    (hid : id ≠ invalidSessionId) (hat : SlotAt c id i s) (hj : j ≠ i) (hu : c.session[j]? = some u)
    {period : Nat} : ¬ StandsFor u id period := fun hfor =>
  hj (hc.injective hu hat.slot (hfor.sessionId ▸ hid) (hfor.sessionId.trans hat.sessionId.symm))

theorem watched_establish (hc : Table false c)
    (hid : id ≠ invalidSessionId) (hagreed : heartbeatNegotiated c = true) (h : Watched c) :
    wp (establish id) (fun _ => Watched) (fun _ => Watched) c := by
  unfold establish
  rw [wp_bind]
  refine wp_withSession_of (fun i s hat => ?_) h
  rw [wp_update]
  have hagreed' : heartbeatNegotiated (c.setSlot i (s.setSessionState .established)) =
    true := hagreed
  have hfound : (c.setSlot i (s.setSessionState .established)).sessionViaId id =
      some (s.setSessionState .established) :=
        (hat.set (t := s.setSessionState .established) hat.sessionId).sessionViaId
  unfold startWatchdog callWatchdog
  rw [wp_update, if_pos hagreed']
  dsimp only
  rw [hfound]
  intro j seconds
  rw [running_append]
  change (if j = id then some (s.heartbeatPeriod * 2) else running c.world.watchdog j) =
    some seconds ↔ ∃ period, Live (c.setSlot i (s.setSessionState .established)) j period ∧
      seconds = period * 2
  simp only [live_setSlot_iff _ hat.slot]
  split_ifs with hj
  · subst hj
    constructor
    · rintro ⟨⟩
      exact ⟨_, .inl ⟨hat.sessionId, rfl, rfl⟩, rfl⟩
    · rintro ⟨period, hfor | ⟨k, u, hk, hu, hfor⟩, rfl⟩
      · rw [← hfor.period]
        rfl
      · exact absurd hfor (standsFor_absurd hc hid hat hk hu)
  · rw [h]
    simp only [live_iff hat.slot]
    refine exists_congr fun period => and_congr_left fun _ => or_congr_left ?_
    exact iff_of_false (fun hfor => hj (hfor.sessionId.symm.trans hat.sessionId)) fun hfor =>
      hj (hfor.sessionId.symm.trans hat.sessionId)

theorem watched_teardown (hc : Table false c)
    (hid : id ≠ invalidSessionId) (h : WatchedBut id c) (hat : ∃ i s, SlotAt c id i s) :
    wp (withSession id SpdmStatus.invalidStateLocal (update SpdmSession.teardown))
      (fun _ => Watched) (fun _ => Watched) c := by
  obtain ⟨i, s, hat⟩ := hat
  rw [wp_withSession hat]
  have hgone : ∀ {j period}, ¬ StandsFor s.teardown j period := fun hfor => by cases hfor.state
  intro j seconds
  simp only [live_setSlot_iff _ hat.slot, hgone, false_or]
  change running c.world.watchdog j = some seconds ↔ _
  by_cases hj : j = id
  · subst hj
    rw [h.stopped]
    refine iff_of_false (fun hsome => by cases hsome) ?_
    rintro ⟨period, ⟨k, u, hk, hu, hfor⟩, -⟩
    exact standsFor_absurd hc hid hat hk hu hfor
  · rw [h.others j seconds hj]
    have hother : ∀ {period}, ¬ StandsFor s j period := fun hfor =>
      hj (hfor.sessionId.symm.trans hat.sessionId)
    simp only [live_iff hat.slot, hother, false_or]

end

section Settle
variable {Q : SpdmContext → Prop} {c : SpdmContext} {sessionId : Option Nat} {message : Bytes}
  {code : UInt8}

def establishes (sessionId : Option Nat) (code : UInt8) (c : SpdmContext) : Option Nat :=
  if code = spdmResponseFinishRsp then sessionId.or c.runtimeInfo.lastSessionId
  else if code = spdmResponsePskFinishRsp then sessionId
  else none

section
omit [Crypto]

theorem wp_settleSent (hchunk : c.build.chunkCap = false) (hcode : codeOf message = some code)
    (hstay : Q c) (hstate : ∀ st, Q (setConnectionState st c))
    (hlast : ∀ c, Q c →
      Q { c with runtimeInfo := { c.runtimeInfo with lastSessionId := none } })
    (hdown : code = spdmResponseEndSessionAck → ∀ id, sessionId = some id →
      wp (withSession id SpdmStatus.invalidStateLocal (update SpdmSession.teardown))
        (fun _ => Q) (fun _ => Q) c)
    (hup : ∀ id, establishes sessionId code c = some id →
      wp (establish id) (fun _ => Q) (fun _ => Q) c) :
    wp (settleSent sessionId message) (fun _ => Q) (fun _ => Q) c := by
  have hraise : ∀ st, Q (raiseConnectionState st c) := fun st => by
    unfold raiseConnectionState
    split
    · exact hstate st
    · exact hstay
  rw [wp_settleSent_code hchunk hcode]
  unfold afterSend
  split_ifs with _ _ _ _ _ _ _ hfinish hpsk
  · exact hstate _
  · exact hstate _
  · exact hstate _
  · exact hraise _
  · exact hraise _
  · exact hstate _
  · rw [wp_bind, wp_orAbort]
    exact hdown ‹_›
  · cases sessionId with
    | none =>
      unfold establishLast
      rw [wp_bind, wp_read, wp_bind, wp_orFail]
      refine ⟨fun id hid => ?_, fun _ => hstay⟩
      rw [wp_bind]
      exact wp_mono (hup id (by simp [establishes, hfinish, hid])) (fun _ c₁ h => hlast c₁ h)
        fun _ _ h => h
    | some id => exact hup id (by simp [establishes, hfinish])
  · cases sessionId with
    | none => exact hstay
    | some id => exact hup id (by simp [establishes, hpsk])
  · exact hstay

theorem watched_settleSent (hc : Table false c) (hchunk : c.build.chunkCap = false)
    (hid : ∀ id, sessionId = some id → id ≠ invalidSessionId)
    (hend : codeOf message ≠ some spdmResponseEndSessionAck)
    (hagreed : codeOf message ∈ [some spdmResponseFinishRsp, some spdmResponsePskFinishRsp] →
      heartbeatNegotiated c = true)
    (h : Watched c) :
    wp (settleSent sessionId message) (fun _ => Watched) (fun _ => Watched) c := by
  cases hcode : codeOf message with
  | none => exact wp_settleSent_short hcode
  | some code =>
    refine wp_settleSent hchunk hcode h (fun _ => h) (fun _ h => h)
      (fun hack => absurd (hack ▸ hcode) hend) fun id hup => ?_
    unfold establishes at hup
    split_ifs at hup with hfinish hpsk
    · refine watched_establish hc ?_ (hagreed (by simp [hcode, hfinish])) h
      cases sessionId with
      | none => exact fun hinvalid => hc.last (hinvalid ▸ hup)
      | some j => exact hid id hup
    · exact watched_establish hc (hid id hup) (hagreed (by simp [hcode, hpsk])) h

theorem watched_settleEnd (hc : Table false c) (hchunk : c.build.chunkCap = false)
    (hid : id ≠ invalidSessionId) (hat : ∃ i s, SlotAt c id i s)
    (hcode : codeOf message = some spdmResponseEndSessionAck) (h : WatchedBut id c) :
    wp (settleSent (some id) message) (fun _ => Watched) (fun _ => Watched) c := by
  rw [wp_settleSent_code hchunk hcode]
  exact watched_teardown hc hid h hat

theorem keepsPeriods_settleSent (hchunk : c.build.chunkCap = false) :
    wp (settleSent sessionId message) (fun _ => KeepsPeriods (fun _ => False) c)
      (fun _ => KeepsPeriods (fun _ => False) c) c := by
  have hsame : ∀ c', c'.session = c.session → KeepsPeriods (fun _ => False) c c' := fun _ =>
    .of_session_eq
  cases hcode : codeOf message with
  | none => exact wp_settleSent_short hcode
  | some code =>
    refine wp_settleSent hchunk hcode (hsame c rfl) (fun _ => hsame _ rfl) (fun _ h => h)
      (fun _ id _ => wp_withSession_of (fun i s hat => ?_) (hsame c rfl)) fun id _ => ?_
    · rw [wp_update]
      exact .setSlot hat.slot fun hused _ => absurd rfl hused
    · unfold establish
      rw [wp_bind]
      refine wp_withSession_of (fun i s hat => ?_) (hsame c rfl)
      have hset : KeepsPeriods (fun _ => False) c (c.setSlot i (s.setSessionState .established)) :=
        .setSlot hat.slot fun _ _ => ⟨rfl, rfl⟩
      unfold startWatchdog callWatchdog
      rw [wp_update, wp_update]
      split_ifs
      · exact hset
      · exact hset

end

end Settle

end

section
variable [Crypto] [Device]

/-! ## §4. One call. -/

structure Dispatched (c : SpdmContext) (service : Option Service) (response : Option Bytes)
    (c' : SpdmContext) : Prop where
  watched : (∀ id, service ≠ some (.endSession id)) → Watched c'
  ending : ∀ id, service = some (.endSession id) → WatchedBut id c'
  unspent : Unspent c'
  periods : ∀ t ∈ c'.session, t.sessionId ≠ invalidSessionId →
    HasPeriod t.sessionId t.heartbeatPeriod c ∨ Opens c response t

section Dispatch
variable {c : SpdmContext} {bytes : Bytes}

section
omit [Crypto] [Device]

theorem watchedBut_stop (h : Watched c) : WatchedBut id
    { c with world := { c.world with watchdog := c.world.watchdog ++ [.stop id] } } := by
  refine ⟨?_, fun j seconds hj => ?_⟩
  · rw [running_append]
    exact if_pos rfl
  · rw [running_append]
    exact (iff_of_eq (congrArg (· = some seconds) (if_neg hj))).trans (h j seconds)

theorem watched_handleSpdmEndSession (hagreed : heartbeatNegotiated c = true)
    (h : Watched c) (hu : Unspent c) :
    let After c' := WatchedBut id c' ∧ Unspent c' ∧ KeepsPeriods (fun _ => False) c c'
    wp (handleSpdmEndSession id bytes) (fun _ => After) (fun _ => After) c := by
  intro After
  have hrest : Within (Steps (NoteAct anySession)) (do
      let rest ← readHeader bytes .invalidMsgField
      let _ ← readPayload (skipBytes 2) rest .invalidMsgField
      update (resetBufferViaRequestCode spdmRequestEndSession (some id))
      let c ← read
      respond (encodeGeneral c.negotiateInfo.spdmVersionSel spdmResponseEndSessionAck 0 0)) :=
    .bind within_readHeader fun _ => .bind (within_readPayload _ _ _) fun _ =>
      .bind (.update (mild_resetBuffer fun _ _ => trivial)) fun _ =>
      .bind .read fun _ => within_respond _
  unfold handleSpdmEndSession callWatchdog
  rw [wp_bind, wp_update, if_pos hagreed]
  have hafter : ∀ {c₁ c₂}, WatchedBut id c₁ → Unspent c₁ → KeepsPeriods (fun _ => False) c c₁ →
      Steps (NoteAct anySession) c₁ c₂ → After c₂ := fun h₁ hu₁ hp₁ hsteps => by
    have hstands : Stands _ _ := hsteps.lift fun _ _ => NoteAct.rel
    have hperiods : KeepsPeriods (fun _ => False) _ _ := hsteps.lift fun _ _ => NoteAct.rel
    exact ⟨h₁.sameLive hstands.toSameLive, hstands.unspent hu₁, StepRel.trans hp₁ hperiods⟩
  exact wp_mono (hrest _) (fun _ _ h' => hafter (watchedBut_stop h) hu (.of_session_eq rfl) h')
    fun _ _ h' => hafter (watchedBut_stop h) hu (.of_session_eq rfl) h'

theorem notLive_of_handshaking (hc : Table false c)
    (hs : InState c .handshaking id) : NotLive c id := by
  obtain ⟨hid, i, s, hat, hstate⟩ := hs.slotAt (by decide) hc
  intro period hlive
  obtain hfor | ⟨j, u, hj, hu, hfor⟩ := (live_iff hat.slot id period).1 hlive
  · cases hstate.symm.trans hfor.state
  · exact standsFor_absurd hc hid hat hj hu hfor

theorem unspent_of_free (hc : Table false c) (hfree : AllFree c) : Unspent c :=
    fun s hs hspent => by
  cases hspent.1.symm.trans (hc.free s hs (hfree s hs))

theorem watched_handleSpdmVersion (hcode : HasCode bytes spdmRequestGetVersion)
    (hover : takesUp bytes = true → ∀ id, NotLive c id) (h : Watched c) (hu : Unspent c) :
    let After c' := Table false c' → Watched c' ∧ Unspent c' ∧ KeepsPeriods (fun _ => False) c c'
    wp (handleSpdmVersion bytes) (fun _ => After) (fun _ => After) c := by
  intro After
  have hreset : takesUp bytes = true → ∀ c', StartedOver c c' → After c' := by
    intro htakes c' hstarted htable
    refine ⟨fun id seconds => ?_, unspent_of_free htable hstarted.free,
      fun t ht hused => absurd (hstarted.free t ht) hused⟩
    rw [hstarted.watchdog, h]
    have hnone : ∀ period, ¬ Live c' id period := fun period ⟨s, hs, hfor⟩ => by
      cases hfor.state.symm.trans (htable.free s hs (hstarted.free s hs))
    simp [hover htakes id _, hnone]
  refine wp_mono (handleSpdmVersion_spec hcode c) (fun _ c' h' => hreset h'.1 c' h'.2)
    fun e c' h' => ?_
  split_ifs at h' with htakes
  · exact hreset htakes c' h'
  · have hstands : Stands c c' := SilentRel.silent h'.1
    exact fun _ => ⟨h.sameLive hstands.toSameLive, hstands.unspent hu, SilentRel.silent h'.1⟩

end

theorem watched_dispatchAt (hc : Table false c)
    (hchunk : c.build.chunkCap = false) (depth : Nat) (sessionId : Option Nat)
    (hover : startsOver sessionId bytes = true → ∀ id, NotLive c id)
    (hend : ∀ id, serviceOf c sessionId bytes = some (.endSession id) →
      heartbeatNegotiated c = true)
    (hpsk : serviceOf c sessionId bytes = some .pskExchange → c.pskWithoutContext = false)
    (h : Watched c) (hu : Unspent c) :
    wp (dispatchAt depth sessionId bytes) (Dispatched c (serviceOf c sessionId bytes))
      (fun e => Dispatched c (serviceOf c sessionId bytes) e.2) c := by
  cases depth with
  | zero => trivial
  | succ depth =>
    have htable := within_dispatchAt (fun _ => trivial) (fun _ => trivial)
      (depth + 1) sessionId bytes c
    unfold wp at htable ⊢
    rw [dispatchAt_succ] at htable ⊢
    cases hservice : serviceOf c sessionId bytes with
    | none =>
      exact ⟨fun _ => h, fun _ h => (by cases h), hu, fun t ht _ => .inl ⟨t, ht, rfl, rfl⟩⟩
    | some service =>
      rw [hservice] at hend hpsk htable
      change wp (service.handle (dispatchAt depth) sessionId bytes) _ _ c at htable ⊢
      have hserved : (∀ id, service ≠ .endSession id) →
          ServedBy c (service.handle (dispatchAt depth) sessionId bytes) →
          wp (service.handle (dispatchAt depth) sessionId bytes) (Dispatched c (some service))
            (fun e => Dispatched c (some service) e.2) c := fun hend hm => by
        have hafter : ∀ {r c'}, SessionsServed c r c' → Dispatched c (some service) r c' :=
          fun h' =>
          ⟨fun _ => h.sameLive h'.stands.toSameLive, fun id hs =>
            absurd (Option.some.inj hs) (hend id),
            h'.stands.unspent hu, h'.periods⟩
        exact wp_mono hm (fun _ _ h' => hafter h') fun _ _ h' => hafter h'
      have hother : (service ≠ .version) → (∀ id, service ≠ .endSession id) →
          ServedBy c (service.handle (dispatchAt depth) sessionId bytes) := fun hversion hend =>
        served_handle hc (chunked_of_serviceOf hchunk hservice) hversion hend
          (fun id hid => notLive_of_handshaking hc (by
            obtain rfl | rfl := hid <;> exact (routed_of_serviceOf hservice).2))
          fun hs => hpsk (congrArg some hs)
      cases service with
      | version =>
        obtain ⟨rfl, hcode⟩ := routed_of_serviceOf hservice
        have hversion := wp_answer (watched_handleSpdmVersion hcode hover h hu)
        have hafter : ∀ {r c'}, Guarded (Table false) (fun _ _ => True) c c' →
            (Table false c' → Watched c' ∧ Unspent c' ∧ KeepsPeriods (fun _ => False) c c') →
            Dispatched c (some .version) r c' := fun htable h' => by
          obtain ⟨hw, hu, hperiods⟩ := h' (htable hc).2
          exact ⟨fun _ => hw, fun _ h => (by cases h), hu,
            fun t ht hused => .inl (hperiods t ht hused id)⟩
        exact wp_mono (wp_and htable hversion) (fun _ _ h' => hafter h'.1 h'.2)
          fun _ _ h' => hafter h'.1 h'.2
      | endSession id =>
        have hafter : ∀ {r c'}, WatchedBut id c' ∧ Unspent c' ∧ KeepsPeriods (fun _ => False) c c' →
            Dispatched c (some (.endSession id)) r c' := fun ⟨hw, hu, hperiods⟩ =>
          ⟨fun h => absurd rfl (h id), fun j hj => (by cases hj; exact hw), hu,
            fun t ht hused => .inl (hperiods t ht hused fun h => h)⟩
        exact wp_mono (wp_answer (watched_handleSpdmEndSession (hend id rfl) h hu))
          (fun _ _ h' => hafter h') fun _ _ h' => hafter h'
      | _ => exact hserved (fun _ h => by cases h) (hother (fun h => by cases h) fun _ h =>
          by cases h)

end Dispatch

structure SameTerms (c c' : SpdmContext) : Prop where
  build : c'.build = c.build
  configInfo : c'.configInfo = c.configInfo
  heartbeat : heartbeatNegotiated c' = heartbeatNegotiated c
  psk : c'.pskWithoutContext = c.pskWithoutContext

instance : StepRel SameTerms where
  refl _ := ⟨rfl, rfl, rfl, rfl⟩
  trans h h' := ⟨h'.1.trans h.1, h'.2.trans h.2, h'.3.trans h.3, h'.4.trans h.4⟩

omit [Crypto] [Device] in
theorem SameTerms.of_steady (h : Steady c c') : SameTerms c c' := by
  refine ⟨h.build, h.configInfo, ?_, ?_⟩
  · unfold heartbeatNegotiated
    rw [h.negotiateInfo]
  · unfold SpdmContext.pskWithoutContext
    rw [h.negotiateInfo]

section Send
variable {c c' : SpdmContext} {sessionId : Option Nat} {response : Bytes} {isApp : Bool}
  (hcipher : CipherCounts) (hc : Table false c) (hu : Unspent c)

include hcipher hc hu

omit [Device] in
theorem sendMessage_parts (hran : Ran (sendMessage sessionId response isApp) c c') :
    (SameLive c c' ∧ KeepsPeriods (fun _ => False) c c' ∧
      (sealAndSend sessionId response isApp c).returned = none) ∨
    ∃ m c₁, sealAndSend sessionId response isApp c = .ok m c₁ ∧ SameLive c c₁ ∧
      KeepsPeriods (fun _ => False) c c₁ ∧ Table false c₁ ∧ SameTerms c c₁ ∧
      Ran (settleSent sessionId m) c₁ c' := by
  have hsame := sameLive_sealAndSend hcipher hu sessionId response isApp
  rw [sendMessage_eq] at hran
  obtain ⟨e, hseal⟩ | ⟨m, c₁, hseal, hran⟩ := hran.of_bind
  · obtain ⟨hlive, hperiods⟩ := wp_err hsame hseal
    exact .inl ⟨hlive, hperiods, by rw [hseal]; rfl⟩
  · obtain ⟨hlive, hperiods⟩ := wp_ok hsame hseal
    have hterms : SameTerms c c₁ := (within_sealAndSend_steady
      (fun _ _ => .of_steady) (fun _ _ => ⟨rfl, rfl, rfl, rfl⟩) sessionId response
        isApp).of_ok hseal
    exact .inr ⟨m, c₁, hseal, hlive, hperiods, wp_ok (Q := fun _ => Table false)
      (table_sealAndSend hc sessionId response isApp) hseal, hterms, hran⟩

variable (hchunk : c.build.chunkCap = false)

include hchunk

section
omit [Device]

theorem keepsPeriods_sendMessage (hran : Ran (sendMessage sessionId response isApp) c c') :
    KeepsPeriods (fun _ => False) c c' := by
  obtain ⟨-, hperiods, -⟩ | ⟨m, c₁, -, -, hperiods, -, hterms, hran⟩ :=
    sendMessage_parts hcipher hc hu hran
  · exact hperiods
  · have hchunk₁ : c₁.build.chunkCap = false := by rw [hterms.build, hchunk]
    exact StepRel.trans hperiods (hran.of_wp (keepsPeriods_settleSent hchunk₁))

theorem watched_sendMessage (hid : ∀ id, sessionId = some id → id ≠ invalidSessionId)
    (hend : (sealAndSend sessionId response isApp c).returned.bind codeOf ≠
      some spdmResponseEndSessionAck)
    (hagreed : (sealAndSend sessionId response isApp c).returned.bind codeOf ∈
      [some spdmResponseFinishRsp, some spdmResponsePskFinishRsp] → heartbeatNegotiated c = true)
    (h : Watched c) (hran : Ran (sendMessage sessionId response isApp) c c') : Watched c' := by
  obtain ⟨hlive, -⟩ | ⟨m, c₁, hseal, hlive, -, htable, hterms, hran⟩ :=
    sendMessage_parts hcipher hc hu hran
  · exact h.sameLive hlive
  · rw [hseal] at hend hagreed
    exact hran.of_wp (watched_settleSent htable (by rw [hterms.build, hchunk]) hid hend
      (fun hm => by rw [hterms.heartbeat, hagreed hm]) (h.sameLive hlive))

theorem watched_sendEnd (hid : id ≠ invalidSessionId)
    (hend : (sealAndSend (some id) response isApp c).returned.bind codeOf =
      some spdmResponseEndSessionAck)
    (h : WatchedBut id c) (hran : Ran (sendMessage (some id) response isApp) c c') :
    Watched c' := by
  obtain ⟨-, -, hsent⟩ | ⟨m, c₁, hseal, hlive, -, htable, hterms, hran⟩ :=
    sendMessage_parts hcipher hc hu hran
  · rw [hsent] at hend
    cases hend
  · rw [hseal] at hend
    obtain ⟨i, s, hat, -⟩ := slotAt_of_sealAndSend hseal
    exact hran.of_wp (watched_settleEnd htable (by rw [hterms.build, hchunk]) hid ⟨i, s, hat⟩ hend
      (h.sameLive hlive))

end

end Send

def nextService (c : SpdmContext) : Option Service :=
  match nextRequest c with
  | .ok (sessionId, bytes, false) c₁ => serviceOf c₁ sessionId bytes
  | _ => none

structure WatchedCall (depth : Nat) (c : SpdmContext) : Prop where
  agreed : AllFree c ∨ heartbeatNegotiated c = true
  -- the configured period is a byte
  period : c.configInfo.heartbeatPeriod < 256
  -- GET_VERSION resets no established session
  anew : isGetVersion c = true → ∀ id, NotLive c id
  -- END_SESSION is taken up and acknowledged
  ended : ∀ id, nextService c = some (.endSession id) →
    (sentMessage depth c).bind codeOf = some spdmResponseEndSessionAck
  -- PSK_EXCHANGE establishes nothing
  psk : nextService c = some .pskExchange → c.pskWithoutContext = false
  -- no answer of the application reads as END_SESSION_ACK
  application : (appAnswer c).bind codeOf ≠ some spdmResponseEndSessionAck
  -- the counters of established sessions last
  requests : RequestsLast c
  responses : Unspent c

def servedNext (depth : Nat) (c : SpdmContext) : Option (SpdmContext × Bytes) :=
  match nextRequest c with
  | .ok (sessionId, bytes, false) c₁ =>
    match answerNext depth (sessionId, bytes, false) c₁ with
    | .ok a _ => a.response.map fun m => (c₁, m)
    | _ => none
  | _ => none

def opensSession (m : Bytes) : Bool :=
  codeOf m ∈ [some spdmResponseKeyExchangeRsp, some spdmResponsePskExchangeRsp]

def noteAnnounced (depth : Nat) (c : SpdmContext) (announced : Nat → Option UInt8) (id : Nat) :
    Option UInt8 :=
  match servedNext depth c with
  | some (c₁, m) => if opensSession m && (c₁.sessionViaId id).isNone then m[2]? else announced id
  | none => announced id

structure Watching (c : SpdmContext) (announced : Nat → Option UInt8) : Prop where
  table : Table false c
  chunkCap : c.build.chunkCap = false
  watched : Watched c
  announced : ∀ s ∈ c.session, s.sessionId ≠ invalidSessionId →
    announced s.sessionId = some (UInt8.ofNat s.heartbeatPeriod) ∧ s.heartbeatPeriod < 256

theorem dispatchAt_terms (depth : Nat) (sessionId : Option Nat) (bytes : Bytes) :
    let Stays c' := ∀ s, serviceOf c sessionId bytes = some s → s.moving = false → SameTerms c c'
    wp (dispatchAt depth sessionId bytes) (fun _ => Stays) (fun _ => Stays) c := by
  intro Stays
  cases depth with
  | zero => trivial
  | succ depth =>
    refine wp_dispatchAt (fun hnone _ h => by cases hnone.symm.trans h) fun service hservice => ?_
    cases hmoving : service.moving with
    | true =>
      refine wp_of_ran fun c' _ s hs hstill => ?_
      cases hservice.symm.trans hs
      cases hmoving.symm.trans hstill
    | false =>
      exact wp_mono (within_handle_steady hmoving c) (fun _ _ h _ _ _ => .of_steady h)
        fun _ _ h _ _ _ => .of_steady h

structure Ready (c : SpdmContext) (service : Option Service) (response : Option Bytes)
    (c' : SpdmContext) : Prop extends Dispatched c service response c' where
  table : Table false c'
  chunkCap : c'.build.chunkCap = false
  code : ∀ m, response = some m → ∃ s, service = some s ∧ Says s.responseCode m
  terms : ∀ s, service = some s → s.moving = false → SameTerms c c'

theorem ready_answerNext (hvendor : VendorAnswers) (hc : Table false c)
    (hchunk : c.build.chunkCap = false) (depth : Nat)
    (hover : startsOver sessionId bytes = true → ∀ id, NotLive c id)
    (hend : ∀ id, serviceOf c sessionId bytes = some (.endSession id) →
      heartbeatNegotiated c = true)
    (hpsk : serviceOf c sessionId bytes = some .pskExchange → c.pskWithoutContext = false)
    (h : Watched c) (hu : Unspent c) :
    wp (answerNext depth (sessionId, bytes, false)) (fun a c' =>
      (a.sessionId = sessionId ∧ a.isApp = false) ∧
        Ready c (serviceOf c sessionId bytes) a.response c') (fun _ _ => False) c := by
  have htable := within_dispatchAt (fun _ => trivial) (fun _ => trivial)
    depth sessionId bytes c
  have hall := wp_and (watched_dispatchAt hc hchunk depth sessionId hover hend hpsk h hu) <|
    wp_and (dispatchAt_spoken hvendor hchunk depth sessionId bytes) <|
    wp_and (dispatchAt_terms depth sessionId bytes) <|
    wp_and htable (within_dispatchAt_offline depth sessionId bytes c)
  refine answerNext_of_dispatch hchunk (wp_mono hall ?_ ?_)
  · exact fun r c' ⟨hserved, hcode, hterms, htable, hoffline⟩ => ⟨hserved, (htable hc).2,
      by rw [hoffline.build, hchunk], hcode, hterms⟩
  · exact fun e c' ⟨hserved, hcode, hterms, htable, hoffline⟩ => ⟨hserved, (htable hc).2,
      by rw [hoffline.build, hchunk], hcode, hterms⟩

omit [Crypto] [Device] in
theorem Ready.sent {service : Option Service} {response m : Bytes}
    {code : UInt8} (h : Ready c service (some response) c')
    (hsent : m = response ∨ codeOf m = some spdmResponseError) (hm : codeOf m = some code)
    (hcode : code ≠ spdmResponseError) : ∃ s, service = some s ∧ s.responseCode = code := by
  obtain rfl | herror := hsent
  · obtain ⟨s, hs, hspoken⟩ := h.code m rfl
    exact ⟨s, hs, ((hspoken code hm).resolve_right hcode).symm⟩
  · exact absurd (Option.some.inj (hm.symm.trans herror)) hcode

omit [Device] in
theorem Ready.watched_send (hcipher : CipherCounts) {c'' : SpdmContext}
    {service : Option Service} {response : Bytes}
    (h : Ready c service (some response) c')
    (hid : ∀ id, sessionId = some id → id ≠ invalidSessionId)
    (hend : ∀ id, service = some (.endSession id) → sessionId = some id ∧
      (sealAndSend sessionId response false c').returned.bind codeOf =
        some spdmResponseEndSessionAck)
    (hagreed : ∀ id, service = some (.finish id) ∨ service = some (.pskFinish id) →
      heartbeatNegotiated c = true)
    (hsend : Ran (sendMessage sessionId response false) c' c'') : Watched c'' := by
  by_cases hending : ∃ id, service = some (.endSession id)
  · obtain ⟨id, hs⟩ := hending
    obtain ⟨rfl, hack⟩ := hend id hs
    exact watched_sendEnd hcipher h.table h.unspent h.chunkCap (hid id rfl) hack
      (h.ending id hs) hsend
  · have hsent : ∀ code, (sealAndSend sessionId response false c').returned.bind codeOf =
      some code →
        code ≠ spdmResponseError → ∃ s, service = some s ∧ s.responseCode = code := by
      intro code hcode hne
      obtain ⟨m, hm, hcode⟩ := Option.bind_eq_some_iff.1 hcode
      obtain ⟨c₃, hseal⟩ := Outcome.returned_eq_some.1 hm
      have hout := wp_ok (ends_sealAndSend sessionId response false c') hseal
      exact h.sent hout hcode hne
    refine watched_sendMessage hcipher h.table h.unspent h.chunkCap hid (fun hack => ?_)
      (fun hm => ?_) (h.watched fun id hs => hending ⟨id, hs⟩) hsend
    · obtain ⟨s, hs, hcode⟩ := hsent _ hack (by decide)
      cases s with
      | endSession id => exact hending ⟨id, hs⟩
      | _ => exact absurd hcode (by dsimp only [Service.responseCode]; decide)
    · have hfinish : ∀ code ∈ [spdmResponseFinishRsp, spdmResponsePskFinishRsp],
          (sealAndSend sessionId response false c').returned.bind codeOf = some code →
          heartbeatNegotiated c' = true := fun code hin hm => by
        obtain ⟨s, hs, rfl⟩ := hsent code hm (fun h => absurd (h ▸ hin) (by decide))
        cases s with
        | finish id => rw [(h.terms _ hs rfl).heartbeat, hagreed id (.inl hs)]
        | pskFinish id => rw [(h.terms _ hs rfl).heartbeat, hagreed id (.inr hs)]
        | _ => exact absurd hin (by dsimp only [Service.responseCode]; decide)
      obtain ⟨code, hin, hm⟩ := List.mem_map.1
        (show _ ∈ [spdmResponseFinishRsp, spdmResponsePskFinishRsp].map some from hm)
      exact hfinish code hin hm.symm

namespace Watching
variable {c c' : SpdmContext} {announced : Nat → Option UInt8}

omit [Crypto] [Device] in
theorem announced_of_periods (h : Watching c announced)
    (hperiods : KeepsPeriods (fun _ => False) c c') :
    ∀ s ∈ c'.session, s.sessionId ≠ invalidSessionId →
      announced s.sessionId = some (UInt8.ofNat s.heartbeatPeriod) ∧ s.heartbeatPeriod < 256 := by
  intro t ht hused
  obtain ⟨s, hs, hid, hperiod⟩ := hperiods t ht hused id
  rw [← hid, ← hperiod]
  exact h.announced s hs (hid ▸ hused)

theorem call_application (hcipher : CipherCounts) (h : Watching c announced)
    (hcall : WatchedCall depth c) (happ : isAppMessage c = true)
    (hran : Ran (processMessage depth) c c') : Watching c' (noteAnnounced depth c announced) := by
  obtain ⟨htable', hchunk'⟩ := table_processMessage h.table h.chunkCap hran
  obtain ⟨id, bytes, c₁, hrequest⟩ := nextRequest_of_isAppMessage happ
  obtain ⟨hstands, hperiods⟩ := wp_ok (stands_nextRequest hcipher hcall.requests) hrequest
  obtain ⟨-, hchunk, htable, hfree⟩ := wp_ok (nextRequest_waits h.table h.chunkCap) hrequest
  have hterms : SameTerms c c₁ := (within_nextRequest (fun _ _ => .of_steady)
    fun _ => ⟨rfl, rfl, rfl, rfl⟩).of_ok hrequest
  have hid := (wp_ok (leads_nextRequest
    (.of_wire (fun _ => trivial) fun _ => trivial) c h.table) hrequest).2.1 id rfl
  -- a session sent it, so the table is not free
  have hagreed : heartbeatNegotiated c₁ = true := by
    rw [hterms.heartbeat]
    exact hcall.agreed.resolve_left fun h => by cases (hfree h).1
  have hnote : noteAnnounced depth c announced = announced := by
    funext j
    simp [noteAnnounced, servedNext, hrequest]
  have hended : (sentMessage depth c).bind codeOf ≠ some spdmResponseEndSessionAck :=
    sentMessage_ne_of_app happ (by decide) hcall.application
  obtain ⟨e, h', -⟩ | ⟨r, c₁', a, c₂, h', hanswer, hsends⟩ := processMessage_parts hran
  · cases hrequest.symm.trans h'
  · cases hrequest.symm.trans h'
    cases hanswer
    rw [hnote]
    have hrecord : Table false (recordDelivery id bytes c₁) := htable.of_session_eq rfl htable.last
    have hwatched : Watched c₁ := h.watched.sameLive hstands.toSameLive
    have hunspent : Unspent (recordDelivery id bytes c₁) := hstands.unspent hcall.responses
    obtain ⟨-, rfl, hsent⟩ | ⟨response, -, hsend, hsent⟩ := hsends
    · exact ⟨htable', hchunk', hwatched, h.announced_of_periods hperiods⟩
    · rw [hsent] at hended
      have hkept := keepsPeriods_sendMessage hcipher hrecord hunspent hchunk hsend
      refine ⟨htable', hchunk', ?_, h.announced_of_periods (StepRel.trans hperiods hkept)⟩
      exact watched_sendMessage hcipher hrecord hunspent hchunk (fun _ h => by cases h; exact hid)
        hended (fun _ => hagreed) hwatched hsend

theorem announced_of_dispatched (h : Watching c announced) {c₁ c₂ : SpdmContext} {a : Answer}
    {service : Option Service}
    (hperiod : c₁.configInfo.heartbeatPeriod < 256)
    (hrequest : nextRequest c = .ok (sessionId, bytes, false) c₁)
    (hanswer : answerNext depth (sessionId, bytes, false) c₁ = .ok a c₂)
    (hreceived : KeepsPeriods (fun _ => False) c c₁)
    (hserved : Dispatched c₁ service a.response c₂) :
    ∀ s ∈ c₂.session, s.sessionId ≠ invalidSessionId →
      noteAnnounced depth c announced s.sessionId = some (UInt8.ofNat s.heartbeatPeriod) ∧
        s.heartbeatPeriod < 256 := by
  intro t ht hused
  have hnext : servedNext depth c = a.response.map fun m => (c₁, m) := by
    simp [servedNext, hrequest, hanswer]
  unfold noteAnnounced
  rw [hnext]
  obtain ⟨s, hs, hid, hkept⟩ | hopens := hserved.periods t ht hused
  · -- a session that was there
    have hin : (c₁.sessionViaId t.sessionId).isNone = false := by
      rw [← Bool.not_eq_true, Option.isNone_iff_eq_none]
      exact fun hnone => List.find?_eq_none.1 hnone s hs (by simp [hid])
    have hsaid := h.announced_of_periods hreceived s hs (hid ▸ hused)
    rw [hid, hkept] at hsaid
    cases a.response with
    | none => exact hsaid
    | some m => simpa [hin] using hsaid
  · -- a session that was opened
    obtain ⟨m, code, hm, hcode, version, hannounced⟩ := hopens.announced
    have hin : (c₁.sessionViaId t.sessionId).isNone = true :=
      Option.isNone_iff_eq_none.2 (List.find?_eq_none.2 fun s hs =>
        by simpa using hopens.absent s hs)
    obtain ⟨rest, rfl⟩ := hannounced
    have hopen : opensSession ([version, code, UInt8.ofNat t.heartbeatPeriod] ++ rest) = true := by
      unfold opensSession
      rw [decide_eq_true_eq]
      exact List.mem_map_of_mem hcode
    rw [hm]
    dsimp only [Option.map]
    rw [hopen, hin]
    exact ⟨rfl, hopens.configured ▸ hperiod⟩

theorem call_request (hvendor : VendorAnswers) (hcipher : CipherCounts) (h : Watching c announced)
    (hcall : WatchedCall depth c)
    {c₁ : SpdmContext} (hrequest : nextRequest c = .ok (sessionId, bytes, false) c₁)
    (hran : Ran (processMessage depth) c c') : Watching c' (noteAnnounced depth c announced) := by
  obtain ⟨htable', hchunk'⟩ := table_processMessage h.table h.chunkCap hran
  obtain ⟨hstands, hperiods⟩ := wp_ok (stands_nextRequest hcipher hcall.requests) hrequest
  obtain ⟨-, hchunk, htable, hfree⟩ := wp_ok (nextRequest_waits h.table h.chunkCap) hrequest
  have hterms : SameTerms c c₁ := (within_nextRequest (fun _ _ => .of_steady)
    fun _ => ⟨rfl, rfl, rfl, rfl⟩).of_ok hrequest
  have hid := (wp_ok (leads_nextRequest
    (.of_wire (fun _ => trivial) fun _ => trivial) c h.table) hrequest).2.1
  have hagreed : ∀ s ∈ c₁.session, s.sessionId ≠ invalidSessionId →
      heartbeatNegotiated c₁ = true := fun s hs hused => by
    rw [hterms.heartbeat]
    exact hcall.agreed.resolve_left fun hnone => hused ((hfree hnone).2 s hs)
  have hservice : nextService c = serviceOf c₁ sessionId bytes := by rw [nextService, hrequest]
  have hover : isGetVersion c = startsOver sessionId bytes := by rw [isGetVersion, hrequest]
  have hpsk : serviceOf c₁ sessionId bytes = some .pskExchange → c₁.pskWithoutContext = false :=
    fun hs => hterms.psk.trans (hcall.psk (hservice.trans hs))
  have hlive : startsOver sessionId bytes = true → ∀ id, NotLive c₁ id := fun hs id period =>
    mt (hstands.live id period).1 (hcall.anew (hover.trans hs) id period)
  have hend : ∀ id, serviceOf c₁ sessionId bytes = some (.endSession id) →
      sessionId = some id ∧ heartbeatNegotiated c₁ = true := fun id hs => by
    have hown := (routed_of_serviceOf hs).1
    refine ⟨hown, ?_⟩
    rw [hterms.heartbeat]
    exact hcall.agreed.resolve_left fun hnone => by cases hown.symm.trans (hfree hnone).1
  obtain ⟨e, h', -⟩ | ⟨r, c₁', a, c₂, h', hanswer, hsends⟩ := processMessage_parts hran
  · cases hrequest.symm.trans h'
  cases hrequest.symm.trans h'
  obtain ⟨⟨hsession, hisApp⟩, hready⟩ := wp_ok (ready_answerNext hvendor htable hchunk depth hlive
    (fun id hs => (hend id hs).2) hpsk (h.watched.sameLive hstands.toSameLive)
    (hstands.unspent hcall.responses)) hanswer
  have hannounced := h.announced_of_dispatched (hterms.configInfo ▸ hcall.period) hrequest hanswer
    hperiods hready.toDispatched
  obtain ⟨-, rfl, hsent⟩ | ⟨response, hresponse, hsend, hsent⟩ := hsends
  · -- without a response there was no END_SESSION
    refine ⟨htable', hchunk', hready.watched fun id hs => ?_, hannounced⟩
    have hack := hcall.ended id (hservice.trans hs)
    rw [hsent] at hack
    cases hack
  · rw [hresponse] at hready
    have hkept := keepsPeriods_sendMessage hcipher hready.table hready.unspent hready.chunkCap hsend
    rw [hsession, hisApp] at hsend hsent
    refine ⟨htable', hchunk', hready.watched_send hcipher hid (fun id hs => ⟨(hend id hs).1, ?_⟩)
      (fun id hs => ?_) hsend, fun t ht hused => ?_⟩
    · rw [← hsent]
      exact hcall.ended id (hservice.trans hs)
    · have hin : InState c₁ .handshaking id := by
        obtain hs | hs := hs <;> exact (routed_of_serviceOf hs).2
      obtain ⟨hused, i, s, hat, -⟩ := hin.slotAt (by decide) htable
      exact hagreed s (List.mem_of_getElem? hat.slot) (hat.sessionId ▸ hused)
    · obtain ⟨u, hu, hid, hperiod⟩ := hkept t ht hused fun h => h
      rw [← hid, ← hperiod]
      exact hannounced u hu (hid ▸ hused)

theorem call (hvendor : VendorAnswers) (hcipher : CipherCounts) (h : Watching c announced)
    (hcall : WatchedCall depth c) (hran : Ran (processMessage depth) c c') :
    Watching c' (noteAnnounced depth c announced) := by
  cases hnext : nextRequest c with
  | panic =>
    obtain ⟨e, h', -⟩ | ⟨_, _, _, _, h', -⟩ := processMessage_parts hran <;>
      cases hnext.symm.trans h'
  | err e c₁ =>
    obtain ⟨e, h', -⟩ | ⟨_, _, _, _, h', -⟩ := processMessage_parts hran
    · cases hnext.symm.trans h'
      obtain ⟨htable, hchunk⟩ := table_processMessage h.table h.chunkCap hran
      obtain ⟨hstands, hperiods⟩ := wp_err (stands_nextRequest hcipher hcall.requests) hnext
      have hnote : noteAnnounced depth c announced = announced := by
        funext j
        simp [noteAnnounced, servedNext, hnext]
      rw [hnote]
      exact ⟨htable, hchunk, h.watched.sameLive hstands.toSameLive, h.announced_of_periods hperiods⟩
    · cases hnext.symm.trans h'
  | ok r c₁ =>
    obtain ⟨sessionId, bytes, isApp⟩ := r
    cases isApp with
    | true => exact h.call_application hcipher hcall (by rw [isAppMessage, hnext]) hran
    | false => exact h.call_request hvendor hcipher hcall hnext hran

end Watching

/-! ## §5. Runs. -/

/-- **A run of a responder without chunks** whose calls lose no session on
the side, with the periods announced to its sessions. -/
inductive WatchedRun : SpdmContext → (Nat → Option UInt8) → Prop
  | start {c : SpdmContext} (started : Started c) (chunkCap : c.build.chunkCap = false) :
      WatchedRun c fun _ => none
  | call {c c' : SpdmContext} {announced : Nat → Option UInt8} (depth : Nat)
      (run : WatchedRun c announced) (watched : WatchedCall depth c)
      (ran : Ran (processMessage depth) c c') : WatchedRun c' (noteAnnounced depth c announced)
  | move {c c' : SpdmContext} {announced : Nat → Option UInt8} (run : WatchedRun c announced)
      (moved : Surroundings c c') : WatchedRun c' announced

namespace Watching
variable {c c' : SpdmContext} {announced : Nat → Option UInt8}

omit [Crypto] [Device] in
theorem of_started (h : Started c) (hchunk : c.build.chunkCap = false) :
    Watching c fun _ => none := by
  have hnew : (∀ s ∈ c.session, s = {}) ∧ c.world.watchdog = [] := by
    obtain ⟨_, _, _, _, -, rfl⟩ := h
    exact ⟨fun s hs => List.eq_of_mem_replicate hs, rfl⟩
  refine ⟨.of_started h, hchunk, fun id seconds => ?_,
    fun s hs hused => absurd (by rw [hnew.1 s hs]) hused⟩
  rw [hnew.2]
  refine iff_of_false (fun h => by cases h) ?_
  rintro ⟨period, ⟨s, hs, hfor⟩, -⟩
  rw [hnew.1 s hs] at hfor
  cases hfor.state

omit [Crypto] [Device] in
theorem surroundings (h : Watching c announced) (hmove : Surroundings c c') :
    Watching c' announced := by
  have htable := h.table.surroundings hmove
  generalize hc' : c' = c'' at hmove htable ⊢
  rw [hmove] at htable ⊢
  exact ⟨htable, h.chunkCap, h.watched, h.announced⟩

end Watching

/-- **The watchdog follows the session.**  In every such run a session is
established exactly when its watchdog runs, and the watchdog was started with
twice the heartbeat period announced to the session. -/
theorem watchdog_follows_session (hvendor : VendorAnswers) (hcipher : CipherCounts)
    {c : SpdmContext} {announced : Nat → Option UInt8} (hrun : WatchedRun c announced) (id : Nat) :
    ((∃ s ∈ c.session, s.sessionId = id ∧ s.sessionState = .established) ↔
      (running c.world.watchdog id).isSome = true) ∧
    ∀ seconds, running c.world.watchdog id = some seconds →
      ∃ period, announced id = some period ∧ seconds = 2 * period.toNat := by
  have h : Watching c announced := by
    induction hrun with
    | start started chunkCap => exact .of_started started chunkCap
    | call depth _ watched ran ih => exact ih.call hvendor hcipher watched ran
    | move _ moved ih => exact ih.surroundings moved
  constructor
  · constructor
    · rintro ⟨s, hs, hid, hstate⟩
      rw [(h.watched id (s.heartbeatPeriod * 2)).2 ⟨_, ⟨s, hs, hid, hstate, rfl⟩, rfl⟩]
      rfl
    · intro hsome
      obtain ⟨seconds, hseconds⟩ := Option.isSome_iff_exists.1 hsome
      obtain ⟨period, ⟨s, hs, hfor⟩, -⟩ := (h.watched id seconds).1 hseconds
      exact ⟨s, hs, hfor.sessionId, hfor.state⟩
  · intro seconds hseconds
    obtain ⟨period, ⟨s, hs, hfor⟩, rfl⟩ := (h.watched id seconds).1 hseconds
    have hused : s.sessionId ≠ invalidSessionId := fun hinvalid => by
      cases hfor.state.symm.trans (h.table.free s hs hinvalid)
    obtain ⟨hannounced, hbyte⟩ := h.announced s hs hused
    rw [hfor.sessionId, hfor.period] at hannounced
    rw [hfor.period] at hbyte
    refine ⟨_, hannounced, ?_⟩
    rw [UInt8.toNat_ofNat_of_lt' hbyte]
    omega

end

/-! ## §6. Two runs. -/

namespace SmallRun

open SmallBackend

def heartbeatResponder : SpdmContext :=
  .new (smallBuild false false) (smallTransport 0)
    { smallConfigInfo (pskCapabilities SpdmResponseCapabilityFlags.pskCapWithContext |||
        SpdmResponseCapabilityFlags.hbeatCap) with heartbeatPeriod := 20 } {}

theorem started_heartbeatResponder : Started heartbeatResponder :=
  ⟨_, _, _, _, show (2) ≤ SpdmContext.initialSessionId by decide, rfl⟩

def smallPskFinish (c : SpdmContext) : Bytes :=
  let body := encodePskFinish .spdmVersion12 []
  let mac : Handler Bytes := do
    appendF 0xFFFDFFFD body
    let hash ← transcriptHash true false 0xFFFDFFFD
    let s ← sessionOf 0xFFFDFFFD
    ret ((s.generateHmacWithRequestFinishedKey hash).getD [])
  inSession false (body ++ (mac c).returned.getD []) c

def watchedPackets : List (SpdmContext → Bytes) :=
  smallNegotiation (pskPeerCapabilities ||| SpdmRequestCapabilityFlags.hbeatCap) 136 ++
    [smallPskExchange, smallPskFinish]

def losesNone (c : SpdmContext) : Bool :=
  (c.session.all (·.sessionId == invalidSessionId) || heartbeatNegotiated c) &&
    decide (c.configInfo.heartbeatPeriod < 256) &&
    (!isGetVersion c || c.session.all (·.sessionState != .established)) &&
    (match nextService c with
      | some (.endSession _) => (sentMessage 3 c).bind codeOf == some spdmResponseEndSessionAck
      | some .pskExchange => !c.pskWithoutContext
      | _ => true) &&
    (appAnswer c).bind codeOf != some spdmResponseEndSessionAck &&
    c.session.all fun s => s.sessionState != .established ||
      (s.direction true).sequenceNumber != maxSequenceNumber &&
        (s.direction false).sequenceNumber != maxSequenceNumber

theorem watchedCall_of_losesNone (h : losesNone c = true) : WatchedCall 3 c := by
  simp only [losesNone, Bool.and_eq_true, Bool.or_eq_true, List.all_eq_true, beq_iff_eq,
    decide_eq_true_eq, bne_iff_ne, Bool.not_eq_true', ne_eq] at h
  obtain ⟨⟨⟨⟨⟨hagreed, hperiod⟩, hover⟩, hservice⟩, happ⟩, hcounters⟩ := h
  refine ⟨hagreed, hperiod, fun hget id period ⟨s, hs, hfor⟩ => ?_, fun id hs => ?_, fun hs => ?_,
    happ, fun s hs hstate => ?_, fun s hs hspent => ?_⟩
  · exact (hover.resolve_left (by simp [hget])) s hs hfor.state
  · rw [hs] at hservice
    simpa using hservice
  · rw [hs] at hservice
    simpa using hservice
  · exact ((hcounters s hs).resolve_left fun h => h hstate).1
  · exact ((hcounters s hs).resolve_left fun h => h hspent.1).2 hspent.2

def serveWatched : List (SpdmContext → Bytes) → SpdmContext → (Nat → Option UInt8) →
    Option (SpdmContext × (Nat → Option UInt8)) :=
  serveNoting (fun c _ announced => if losesNone c then some (noteAnnounced 3 c announced)
    else none)
    [[1]]

theorem watchedRun_serveWatched {packets : List (SpdmContext → Bytes)}
    {announced announced' : Nat → Option UInt8} (hrun : WatchedRun c announced)
    (h : serveWatched packets c announced = some (c', announced')) : WatchedRun c' announced' := by
  refine serveNoting_keep (fun _ hrun => hrun.move rfl) (fun hrun hran hnote => ?_) hrun h
  obtain ⟨hkeeps, hnoted⟩ := Option.ite_none_right_eq_some.1 hnote
  cases hnoted
  exact hrun.call 3 (watchedCall_of_losesNone hkeeps) hran

theorem cipherCounts_small : CipherCounts := by
  refine ⟨fun algo key nonce aad plain h => ?_, fun algo key nonce aad cipher tag h => ?_⟩
  · dsimp only [aeadEncrypt, smallCrypto] at h
    split at h <;> cases h
  · dsimp only [aeadDecrypt, smallCrypto] at h
    split_ifs at h
    cases h

theorem watched_session : ∃ c announced, WatchedRun c announced ∧
    announced 0xFFFDFFFD = some 20 ∧
    (∃ s ∈ c.session, s.sessionId = 0xFFFDFFFD ∧ s.sessionState = .established) ∧
    running c.world.watchdog 0xFFFDFFFD = some 40 := by
  have hserve : ((serveWatched watchedPackets heartbeatResponder fun _ => none).map fun r =>
      (r.2 0xFFFDFFFD, running r.1.world.watchdog 0xFFFDFFFD)) = some (some 20, some 40) := by
    decide +kernel
  obtain ⟨⟨c, announced⟩, hserve, hfacts⟩ := Option.map_eq_some_iff.1 hserve
  simp only [Prod.mk.injEq] at hfacts
  have hrun : WatchedRun c announced :=
    watchedRun_serveWatched (.start started_heartbeatResponder rfl) hserve
  have hfollows := watchdog_follows_session (fun _ h => by cases h) cipherCounts_small
    hrun 0xFFFDFFFD
  exact ⟨c, announced, hrun, hfacts.1, hfollows.1.2 (by rw [hfacts.2]; rfl), hfacts.2⟩

theorem watchdog_stopped_early : ∃ c, Reachable c ∧ heartbeatNegotiated c = true ∧
    (∃ s ∈ c.session, s.sessionId = 0xFFFDFFFD ∧ s.sessionState = .established) ∧
    running c.world.watchdog 0xFFFDFFFD = none := by
  have hserve : ((serveAll (fun _ => true) [[1]] (watchedPackets ++
      [inSession false [0x12, spdmRequestEndSession]]) heartbeatResponder).map fun c =>
        (heartbeatNegotiated c, decide (∃ s ∈ c.session, s.sessionId = 0xFFFDFFFD ∧
          s.sessionState = .established), running c.world.watchdog 0xFFFDFFFD)) =
      some (true, true, none) := by
    decide +kernel
  obtain ⟨c, hserve, hfacts⟩ := Option.map_eq_some_iff.1 hserve
  simp only [Prod.mk.injEq, decide_eq_true_eq] at hfacts
  exact ⟨c, reachable_serveAll ⟨_, started_heartbeatResponder, .refl⟩ hserve, hfacts⟩

end SmallRun

end Responder

end Spdm
