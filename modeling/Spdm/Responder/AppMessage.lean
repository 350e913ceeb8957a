/-
  Spdm.Responder.AppMessage — application messages (`send_message`, `process_message` in
  `responder/context.rs`).
-/
import Spdm.Context.Acts
import Spdm.Context.Append
import Spdm.Context.Small
import Spdm.Responder.Context
import Spdm.Session.Delivery

namespace Spdm

open Effect Codec

variable {c c' : SpdmContext} {sessionId : Option Nat} {isApp : Bool} {response message m : Bytes}
    {id i : Nat} {s : SpdmSession}

namespace Responder

open SpdmContext SpdmRequestResponseCode SpdmErrorCode

section
variable [Crypto]

/-! ## §1. Sealing and sending. -/

def sealAndSend (sessionId : Option Nat) (message : Bytes) (isApp : Bool) :
    SpdmResult Bytes := do
  let message ← outgoing sessionId message isApp
  let packet ← encodeOutgoing sessionId message isApp
  deviceSend packet
  ret message

def settleSent (sessionId : Option Nat) (message : Bytes) : SpdmResult Unit := do
  let code ← sentCode message
  afterSend sessionId code

theorem sendMessage_eq (sessionId : Option Nat) (message : Bytes) (isApp : Bool) :
    sendMessage sessionId message isApp =
      sealAndSend sessionId message isApp >>= settleSent sessionId := by
  unfold sendMessage sealAndSend
  simp only [bind_assoc]
  rfl

section Sending
variable {R : SpdmContext → SpdmContext → Prop} [StepRel R]

omit [Crypto] in
theorem within_outgoing (hkeep : Within R (keepLargeResponse message : SpdmResult Unit)) :
    Within R (outgoing sessionId message isApp) := by
  refine .bind .read fun _ => ?_
  split_ifs
  · exact .ret _
  · exact .ret _
  · exact .bind hkeep fun _ => .bind .read fun _ => .ret _
  · exact .ret _
  · exact .ret _

theorem within_sealAndSend
    (hkeep : ∀ message, Within R (keepLargeResponse message : SpdmResult Unit))
    (hseal : ∀ id, sessionId = some id → ∀ config app room,
      Within R (withSession id SpdmStatus.invalidParameter
        (SpdmSession.encodeSpdmSecuredMessage config app room false)))
    (hsend : ∀ packet (c : SpdmContext), R c { c with world :=
      { c.world with outbox := c.world.outbox ++ [packet]
                     sendResults := c.world.sendResults.tail } })
    (message : Bytes) (isApp : Bool) : Within R (sealAndSend sessionId message isApp) := by
  refine .bind (within_outgoing (hkeep _)) fun _ => .bind (.bind .read fun _ => ?_) fun _ =>
    .bind (.bind .read fun _ => .bind (.update (hsend _)) fun _ => .guardElse _ _) fun _ => .ret _
  cases sessionId with
  | none => exact .bind .read fun _ => within_liftResult
  | some id =>
    exact .bind .read fun _ => .bind within_liftCall fun _ => .bind (hseal id rfl _ _ _) fun _ =>
      within_liftResult

omit [Crypto] in
theorem within_settleSent (hdrop : ∀ c, R c (dropChunk c))
    (hstate : ∀ st c, R c (setConnectionState st c))
    (hdown : ∀ id, sessionId = some id →
      Within R (withSession id SpdmStatus.invalidStateLocal (update SpdmSession.teardown)))
    (hup : ∀ id, sessionId = some id → Within R (establish id))
    (hlast : sessionId = none → Within R establishLast) (message : Bytes) :
    Within R (settleSent sessionId message) := by
  have hraise : ∀ st c, R c (raiseConnectionState st c) := fun st c => by
    unfold raiseConnectionState
    split
    · exact hstate st c
    · exact StepRel.refl c
  refine .bind (.bind (.orAbort _) fun _ => .bind .read fun _ => ?_) fun code => ?_
  · split
    · exact .bind (.update hdrop) fun _ => .ret _
    · exact .ret _
  · unfold afterSend
    split_ifs
    · exact .update (hstate _)
    · exact .update (hstate _)
    · exact .update (hstate _)
    · exact .update (hraise _)
    · exact .update (hraise _)
    · exact .update (hstate _)
    · exact fun c => (wp_bind _ _).2 (wp_orAbort.2 fun id hid => hdown id hid c)
    · cases sessionId with
      | none => exact hlast rfl
      | some id => exact hup id rfl
    · cases sessionId with
      | none => exact .ret _
      | some id => exact hup id rfl
    · exact .ret _

end Sending

theorem slotAt_of_sealAndSend {id : Nat} {message m : Bytes} {isApp : Bool} {c c₁ : SpdmContext}
    (h : sealAndSend (some id) message isApp c = .ok m c₁) :
    ∃ i s, SlotAt c₁ id i s ∧ s.sessionState ≠ .notStarted := by
  obtain ⟨m₀, c₂, -, h₁⟩ := bind_eq_ok.1 h
  obtain ⟨packet, c₃, hencode, h₂⟩ := bind_eq_ok.1 h₁
  obtain ⟨u, c₄, hsend, h₃⟩ := bind_eq_ok.1 h₂
  obtain ⟨rfl, rfl⟩ := ret_eq_ok.1 h₃
  -- the session the message was sealed in
  unfold encodeOutgoing at hencode
  rw [Effect.read_bind] at hencode
  dsimp only at hencode
  unfold encodeSecuredMessage at hencode
  rw [Effect.read_bind] at hencode
  obtain ⟨app, c₅, happ, h₄⟩ := bind_eq_ok.1 hencode
  obtain ⟨encoded, c₆, hwith, h₅⟩ := bind_eq_ok.1 h₄
  obtain ⟨-, rfl⟩ := liftResult_eq_ok.1 h₅
  obtain ⟨i, s, t, hat, hseal, rfl⟩ := withSession_eq_ok hwith
  have hsealed := wp_ok (SpdmSession.encodeSpdmSecuredMessage_spec _ _ _ _ s) hseal
  have htid : t.sessionId = id := by
    rw [hsealed.after, ← hat.sessionId]
    exact SpdmSession.advanceDirection_sessionId false s
  have htstate : t.sessionState ≠ .notStarted := by
    rw [hsealed.after]
    exact (SpdmSession.advanceDirection_sessionState false s).trans_ne hsealed.started
  have hat' := hat.set htid
  unfold deviceSend at hsend
  obtain ⟨-, rfl⟩ := guardElse_eq_ok.1 hsend
  exact ⟨i, t, ⟨hat'.first, hat'.slot⟩, htstate⟩

/-! ## §2. What goes out. -/

section
omit [Crypto]

def tooLong (c : SpdmContext) (length : Nat) : Bool :=
  c.negotiateInfo.reqMaxSpdmMsgSizeSel != 0 &&
    decide (c.negotiateInfo.reqMaxSpdmMsgSizeSel < length)

def keptForChunks (c : SpdmContext) (length : Nat) : Bool :=
  !tooLong c length && exceedsTransfer c length && (c.build.chunkCap && chunkNegotiated c)

def replacement (c : SpdmContext) (response : Bytes) : Bytes :=
  if keptForChunks c response.length then
    errorMessage c spdmErrorLargeResponse 0 ++ [UInt8.ofNat ((c.chunkRspHandle + 1) % 256)]
  else if tooLong c response.length || exceedsTransfer c response.length then
    errorMessage c spdmErrorResponseTooLarge 0
  else response

def FitsChunkBuffer (c : SpdmContext) (response : Bytes) : Prop :=
  keptForChunks c response.length = true → response.length ≤ c.build.config.maxSpdmMsgSize

theorem outgoing_eq
    (happ : (isApp && sessionId.isNone) = false) (response : Bytes) :
    outgoing sessionId response isApp c =
      if keptForChunks c response.length then
        (keepLargeResponse response >>= fun _ => ret (replacement c response)) c
      else .ok (replacement c response) c := by
  unfold outgoing replacement
  rw [read_bind, happ]
  by_cases hlong : tooLong c response.length = true
  · have hcond : c.negotiateInfo.reqMaxSpdmMsgSizeSel ≠ 0 ∧
        c.negotiateInfo.reqMaxSpdmMsgSizeSel < response.length := by simpa [tooLong] using hlong
    simp [hcond, keptForChunks, hlong]
  · have hcond : ¬(c.negotiateInfo.reqMaxSpdmMsgSizeSel ≠ 0 ∧
        c.negotiateInfo.reqMaxSpdmMsgSizeSel < response.length) := by simpa [tooLong] using hlong
    rw [if_neg hcond, if_neg (by decide), keptForChunks]
    simp only [Bool.not_eq_true] at hlong
    rw [hlong]
    by_cases hexceeds : exceedsTransfer c response.length = true
    · by_cases hchunk : (c.build.chunkCap && chunkNegotiated c) = true
      · simp only [hexceeds, hchunk, Bool.not_false, Bool.and_self, if_true]
        unfold keepLargeResponse
        simp only [bind_assoc, read_bind]
        cases decide (response.length ≤ c.build.config.maxSpdmMsgSize) <;> rfl
      · simp [hexceeds, hchunk]
    · simp [hexceeds]

def codeAfter (c : SpdmContext) (message : Bytes) : UInt8 :=
  if chunkComplete c then c.chunkContext.chunkMessageData[1]?.getD 0 else message[1]?.getD 0

def codeSent (c : SpdmContext) (message : Bytes) : UInt8 :=
  if keptForChunks c message.length then spdmResponseError else codeAfter c (replacement c message)

theorem outgoing_of_fits (happ : (isApp && sessionId.isNone) = false)
    (hfits : FitsChunkBuffer c response) :
    ∃ c', outgoing sessionId response isApp c = .ok (replacement c response) c' ∧
      ChunkStep c c' ∧ codeAfter c' (replacement c response) = codeSent c response := by
  rw [outgoing_eq happ]
  unfold codeSent
  split
  case isTrue hkept =>
    unfold keepLargeResponse
    simp only [bind_assoc, read_bind, decide_eq_true (hfits hkept)]
    refine ⟨_, rfl, rfl, ?_⟩
    -- what is kept is not empty, so the transfer just begun is not complete
    have hpos : response.length ≠ 0 := fun hzero => by
      simp [keptForChunks, exceedsTransfer, hzero] at hkept
    rw [codeAfter, if_neg (by simp [chunkComplete, hpos.symm]), replacement, if_pos hkept]
    rfl
  case isFalse => exact ⟨c, rfl, rfl, rfl⟩

end

/-! ## §3. What a code does. -/

def inertCode (c : SpdmContext) (id : Nat) (code : UInt8) : Bool :=
  let state := c.runtimeInfo.connectionState
  if code = spdmResponseVersion then state == .afterVersion
  else if code = spdmResponseCapabilities then state == .afterCapabilities
  else if code = spdmResponseAlgorithms then state == .negotiated
  else if code = spdmResponseDigests then !state.before .afterDigest
  else if code = spdmResponseCertificate then !state.before .afterCertificate
  else if code = spdmResponseChallengeAuth then state == .authenticated
  else if code = spdmResponseEndSessionAck then false
  else if code = spdmResponseFinishRsp ∨ code = spdmResponsePskFinishRsp then
    (c.sessionViaId id).any (fun s => s.sessionState == .established) && !heartbeatNegotiated c
  else true

def Stays (c : SpdmContext) : Outcome SpdmContext SpdmStatus Unit → Prop
  | .ok _ c' | .err _ c' => c'.session.map (·.sessionState) = c.session.map (·.sessionState) ∧
      c'.runtimeInfo.connectionState = c.runtimeInfo.connectionState ∧
      c'.world.watchdog = c.world.watchdog
  | .panic => False

omit [Crypto] in
theorem states_setSlot (hat : SlotAt c id i s) (t : SpdmSession) :
    (c.session.set i t).map (·.sessionState) = c.session.map (·.sessionState) ↔
      t.sessionState = s.sessionState := by
  obtain ⟨hlt, rfl⟩ := List.getElem?_eq_some_iff.1 hat.slot
  rw [List.map_set]
  constructor
  · intro h
    have hi := congrArg (fun l => l[i]?) h
    simpa [List.getElem?_set_self, hlt] using hi
  · intro h
    rw [h, ← List.map_set, List.set_getElem_self]

omit [Crypto] in
theorem establish_eq (hat : SlotAt c id i s) :
    establish id c = startWatchdog id (c.setSlot i (s.setSessionState .established)) := by
  unfold establish
  rw [bind_apply, withSession_of_ok (m := update _) hat rfl]

omit [Crypto] in
theorem stays_establish_iff (hat : SlotAt c id i s) :
    Stays c (establish id c) ↔ ((c.sessionViaId id).any (fun s => s.sessionState == .established) &&
      !heartbeatNegotiated c) = true := by
  rw [establish_eq hat, hat.sessionViaId]
  have hflag : heartbeatNegotiated (c.setSlot i (s.setSessionState .established)) =
      heartbeatNegotiated c := rfl
  have hsame := states_setSlot hat (s.setSessionState .established)
  unfold startWatchdog callWatchdog
  rw [update_apply, hflag]
  cases heartbeatNegotiated c with
  | true => simp [Stays]
  | false =>
    simp only [Option.any_some, Bool.not_false, Bool.and_true, beq_iff_eq]
    exact (and_iff_left ⟨rfl, rfl⟩).trans (hsame.trans eq_comm)

omit [Crypto] in
theorem stays_afterSend_iff (code : UInt8) (hat : SlotAt c id i s)
    (hstate : s.sessionState ≠ .notStarted) :
    Stays c (afterSend (some id) code c) ↔ inertCode c id code = true := by
  have hset (st : SpdmConnectionState) :
      Stays c (update (setConnectionState st) c) ↔ (c.runtimeInfo.connectionState == st) =
        true := by
    simp only [Stays, setConnectionState, update_apply, true_and, and_true, beq_iff_eq]
    exact eq_comm
  have hraise (st : SpdmConnectionState) : Stays c (update (raiseConnectionState st) c) ↔
      (!c.runtimeInfo.connectionState.before st) = true := by
    unfold raiseConnectionState
    rw [update_apply]
    cases hb : c.runtimeInfo.connectionState.before st with
    | false => simp [Stays]
    | true =>
      have hne : st ≠ c.runtimeInfo.connectionState := by
        rintro rfl
        simp [SpdmConnectionState.before] at hb
      simp [Stays, setConnectionState, hne]
  have hend : ¬ Stays c (withSession id SpdmStatus.invalidStateLocal
      (update SpdmSession.teardown) c) := by
    rw [withSession_of_ok (m := update SpdmSession.teardown) hat rfl]
    exact fun h => hstate ((states_setSlot hat s.teardown).1 h.1).symm
  unfold afterSend inertCode
  split_ifs with h₁ h₂ h₃ h₄ h₅ h₆ h₇ h₈ h₉ h₁₀ h₁₁
  · exact hset _
  · exact hset _
  · exact hset _
  · exact hraise _
  · exact hraise _
  · exact hset _
  · exact iff_of_false hend (by decide)
  · exact stays_establish_iff hat
  · exact absurd (.inl h₈) h₉
  · exact stays_establish_iff hat
  · exact absurd (.inr h₁₀) h₁₁
  · rename_i h
    exact absurd h (not_or.2 ⟨h₈, h₁₀⟩)
  · simp [Stays]

omit [Crypto] in
theorem session_afterSend {code : UInt8} (hat : SlotAt c id i s)
    (h : inertCode c id code = true) :
    wp (afterSend (some id) code) (fun _ c' => c'.session = c.session)
      (fun _ c' => c'.session = c.session) c := by
  have hestablish (hinert : ((c.sessionViaId id).any (fun s => s.sessionState == .established) &&
      !heartbeatNegotiated c) = true) : wp (establish id) (fun _ c' => c'.session = c.session)
      (fun _ c' => c'.session = c.session) c := by
    rw [hat.sessionViaId] at hinert
    have hs : s.setSessionState .established = s := by
      have hstate : s.sessionState = .established := by simp_all
      rw [SpdmSession.setSessionState, ← hstate]
    unfold wp
    rw [establish_eq hat, hs, setSlot_self hat.slot]
    unfold startWatchdog callWatchdog
    rw [update_apply]
    dsimp only
    split_ifs <;> rfl
  have hraise (st : SpdmConnectionState) : (raiseConnectionState st c).session = c.session := by
    unfold raiseConnectionState
    split_ifs <;> rfl
  unfold afterSend
  unfold inertCode at h
  split_ifs at h ⊢ with h₁ h₂ h₃ h₄ h₅ h₆ h₇ h₈ h₉ h₁₀
  · rfl
  · rfl
  · rfl
  · exact hraise _
  · exact hraise _
  · rfl
  · exact hestablish h
  · exact absurd (.inl h₈) h₉
  · exact hestablish h
  · exact absurd (Or.inr h₁₀) ‹¬(_ ∨ _)›
  · exact absurd ‹_ ∨ _› (not_or.2 ⟨h₈, h₁₀⟩)
  · rfl

/-! ## §4. Application messages. -/

def afterSealing (app : Bytes) (s : SpdmSession) : SpdmSession :=
  (s.advanceDirection false).recordSeal false (s.direction false) app

def Quiet (id : Nat) (c : SpdmContext) : Outcome SpdmContext SpdmStatus Unit → Prop
  | .ok _ c' | .err _ c' => (c'.session = c.session ∨
      ∃ i s app, SlotAt c id i s ∧ c'.session = c.session.set i (afterSealing app s)) ∧
      c'.runtimeInfo.connectionState = c.runtimeInfo.connectionState ∧
      c'.world.watchdog = c.world.watchdog
  | .panic => False

/-- **Sending an application message does nothing else.** -/
def OnlySends (id : Nat) (message : Bytes) (c : SpdmContext) : Prop :=
  Quiet id c (sendMessage (some id) message true c)

def GoesOut (c : SpdmContext) (s : SpdmSession) (app : Bytes) : Prop :=
  c.world.sendResults.headD true = true ∧ ∃ cipher tag packet,
    6 + s.transportParam.sequenceNumberCount ≤ aadBufferSize ∧
    s.encryption app (s.direction false) = .ok (cipher, tag) ∧
    c.transportEncap.encap (SpdmSession.recordOf app (s.direction false) s cipher tag)
      c.build.config.senderBufferSize true = .ok packet

def SendsQuietly (c : SpdmContext) (id : Nat) (m app : Bytes) (code : UInt8) (s : SpdmSession) :
    Prop :=
  s.SealsSafely c.build.config app c.build.config.senderBufferSize (s.direction false) ∧
    (GoesOut c s app → 2 ≤ m.length ∧ inertCode c id code = true)

/-- **When that is so**, as the responder stands: a message kept for chunks
fits their buffer, the transport does not abort, and a running session
sends what goes out quietly. -/
structure Inert (id : Nat) (message : Bytes) (c : SpdmContext) : Prop where
  fits : FitsChunkBuffer c message
  transport : c.transportEncap.encapApp (replacement c message) c.build.config.senderBufferSize
    true ≠ none
  session : ∀ app s, c.transportEncap.encapApp (replacement c message)
      c.build.config.senderBufferSize true = some (.ok app) →
    c.sessionViaId id = some s → s.sessionState ≠ .notStarted →
    SendsQuietly c id (replacement c message) app (codeSent c message) s

section
omit [Crypto]

@[simp] theorem afterSealing_sessionState (app : Bytes) (s : SpdmSession) :
    (afterSealing app s).sessionState = s.sessionState :=
  SpdmSession.advanceDirection_sessionState false s

theorem Quiet.stays {o : Outcome SpdmContext SpdmStatus Unit} (h : Quiet id c o) : Stays c o := by
  have hstates : ∀ c' : SpdmContext, (c'.session = c.session ∨ ∃ i s app, SlotAt c id i s ∧
      c'.session = c.session.set i (afterSealing app s)) →
      c'.session.map (·.sessionState) = c.session.map (·.sessionState) := by
    rintro c' (heq | ⟨i, s, app, hat, heq⟩)
    · rw [heq]
    · rw [heq, states_setSlot hat, afterSealing_sessionState]
  cases o with
  | ok u c' => exact ⟨hstates c' h.1, h.2⟩
  | err e c' => exact ⟨hstates c' h.1, h.2⟩
  | panic => exact h

theorem settleSent_eq (sessionId : Option Nat) (m : Bytes) (c : SpdmContext) :
    settleSent sessionId m c =
      if 2 ≤ m.length then
        afterSend sessionId (codeAfter c m) (if chunkComplete c then dropChunk c else c)
      else .panic := by
  unfold settleSent sentCode codeAfter
  by_cases hlen : 2 ≤ m.length
  · rw [if_pos hlen, List.getElem?_eq_getElem (show 1 < m.length by omega)]
    by_cases hc : chunkComplete c = true
    · simp [bind_apply, orAbort, hc]
    · simp [bind_apply, orAbort, hc]
  · rw [if_neg hlen, List.getElem?_eq_none (by omega)]
    rfl

theorem wp_settleSent_code {Q : Unit → SpdmContext → Prop} {E : SpdmStatus → SpdmContext → Prop}
    {code : UInt8} (hchunk : c.build.chunkCap = false) (hcode : m[1]? = some code) :
    wp (settleSent sessionId m) Q E c ↔ wp (afterSend sessionId code) Q E c := by
  have hlen : 2 ≤ m.length := (List.getElem?_eq_some_iff.1 hcode).1
  have hnot : chunkComplete c = false := by simp [chunkComplete, hchunk]
  unfold wp
  rw [settleSent_eq, if_pos hlen, codeAfter, hnot, hcode]
  rfl

theorem wp_settleSent_short {Q : Unit → SpdmContext → Prop} {E : SpdmStatus → SpdmContext → Prop}
    (hcode : m[1]? = none) : wp (settleSent sessionId m) Q E c := by
  unfold wp
  rw [settleSent_eq, if_neg (Nat.not_le.2 (Nat.lt_succ_of_le (List.getElem?_eq_none_iff.1 hcode)))]
  trivial

theorem quiet_settleSent_iff (app : Bytes) (world : World) (hat : SlotAt c id i s)
    (hstate : s.sessionState ≠ .notStarted) (hwatchdog : world.watchdog = c.world.watchdog) :
    Quiet id c (settleSent (some id) m
        { c.setSlot i (afterSealing app s) with world := world }) ↔
      2 ≤ m.length ∧ inertCode c id (codeAfter c m) = true := by
  rw [settleSent_eq]
  by_cases hlen : 2 ≤ m.length
  swap
  · rw [if_neg hlen]
    exact iff_of_false (fun h => h) fun h => hlen h.1
  rw [if_pos hlen, and_iff_right hlen]
  -- the code is looked at in a state with the same sessions, but for one counter
  have hafter : ∀ c₂ : SpdmContext, c₂.session = c.session.set i (afterSealing app s) →
      c₂.runtimeInfo.connectionState = c.runtimeInfo.connectionState →
      c₂.world.watchdog = c.world.watchdog → c₂.negotiateInfo = c.negotiateInfo →
      (Quiet id c (afterSend (some id) (codeAfter c m) c₂) ↔
        inertCode c id (codeAfter c m) = true) := by
    intro c₂ hsession hconnection hcalls hnegotiate
    have hset : SlotAt (c.setSlot i (afterSealing app s)) id i (afterSealing app s) :=
      hat.set ((SpdmSession.advanceDirection_sessionId false s).trans hat.sessionId)
    have hat₂ : SlotAt c₂ id i (afterSealing app s) :=
      ⟨by rw [hsession]; exact hset.first, by rw [hsession]; exact hset.slot⟩
    have hinert : inertCode c₂ id (codeAfter c m) = inertCode c id (codeAfter c m) := by
      unfold inertCode heartbeatNegotiated
      simp only [hat₂.sessionViaId, hat.sessionViaId, hconnection, hnegotiate, Option.any_some,
        afterSealing_sessionState]
    rw [← hinert, ← stays_afterSend_iff _ hat₂ (by rwa [afterSealing_sessionState])]
    have hstays : ∀ o, Stays c o ↔ Stays c₂ o := fun o => by
      have hstates := (states_setSlot hat (afterSealing app s)).2 (afterSealing_sessionState app s)
      cases o <;> simp only [Stays, hsession, hstates, hconnection, hcalls]
    refine ⟨fun h => (hstays _).1 h.stays, fun h => ?_⟩
    have hkept := session_afterSend hat₂ ((stays_afterSend_iff _ hat₂
      (by rwa [afterSealing_sessionState])).1 h)
    have hsame := (hstays _).2 h
    cases hrun : afterSend (some id) (codeAfter c m) c₂ with
    | ok u c' =>
      rw [hrun] at hsame
      exact ⟨.inr ⟨i, s, app, hat, (wp_ok hkept hrun).trans hsession⟩, hsame.2⟩
    | err e c' =>
      rw [hrun] at hsame
      exact ⟨.inr ⟨i, s, app, hat, (wp_err hkept hrun).trans hsession⟩, hsame.2⟩
    | panic =>
      rw [hrun] at hsame
      exact hsame
  split_ifs
  · exact hafter _ rfl rfl hwatchdog rfl
  · exact hafter _ rfl rfl hwatchdog rfl

end

theorem encodeSecuredMessage_of_app {app : Bytes} (id room : Nat) (requester : Bool)
    (happ : c.transportEncap.encapApp m c.build.config.senderBufferSize isApp = some (.ok app)) :
    encodeSecuredMessage id m room requester isApp c =
      (withSession id SpdmStatus.invalidParameter (SpdmSession.encodeSpdmSecuredMessage
        c.build.config app c.build.config.senderBufferSize requester) >>= fun record =>
          liftResult (c.transportEncap.encap record room true)) c := by
  unfold encodeSecuredMessage
  rw [read_bind, happ]
  rfl

theorem quiet_inSession_iff {app : Bytes}
    (happ : c.transportEncap.encapApp m c.build.config.senderBufferSize true = some (.ok app))
    (hat : SlotAt c id i s) (hstate : s.sessionState ≠ .notStarted) :
    Quiet id c ((encodeSecuredMessage id m c.build.config.senderBufferSize false true >>=
        fun packet => deviceSend packet >>= fun _ => settleSent (some id) m) c) ↔
      SendsQuietly c id m app (codeAfter c m) s := by
  have hcases := SpdmSession.encodeMsg_cases c.build.config app c.build.config.senderBufferSize
    (s.direction false) s
  have hrun := encodeSecuredMessage_of_app id c.build.config.senderBufferSize false happ
  unfold SendsQuietly
  -- what goes out was sealed
  have hsealed (hsafe : s.SealsSafely c.build.config app c.build.config.senderBufferSize
      (s.direction false)) (hgoes : GoesOut c s app) : ∃ record packet,
      SpdmSession.encodeMsg c.build.config app c.build.config.senderBufferSize
        (s.direction false) s = .ok record s ∧
      c.transportEncap.encap record c.build.config.senderBufferSize true = .ok packet := by
    obtain ⟨-, cipher, tag, packet, haad, hencrypted, hpacket⟩ := hgoes
    exact ⟨_, packet, hsafe.encodeMsg_eq_ok_iff.2 ⟨cipher, tag, haad, hencrypted, rfl⟩, hpacket⟩
  obtain ⟨record, henc⟩ | ⟨e, henc⟩ | henc := hcases
  · have hsafe := SpdmSession.sealsSafely_iff.2 (show _ ∧ _ by
      rw [henc]
      exact ⟨(fun h => by cases h), fun h => by cases h⟩)
    have hseal : SpdmSession.SealOk c.build.config app c.build.config.senderBufferSize false s
      record (afterSealing app s) := ⟨hstate, henc, rfl⟩
    rw [bind_of_ok (withSession_of_ok hat hseal.encode)] at hrun
    rw [and_iff_right hsafe]
    cases hpacket : c.transportEncap.encap record c.build.config.senderBufferSize true with
    | error e =>
      rw [hpacket] at hrun
      rw [bind_of_err hrun]
      refine iff_of_true ⟨.inr ⟨i, s, app, hat, rfl⟩, rfl, rfl⟩ fun hgoes => ?_
      obtain ⟨record', packet, henc', hpacket'⟩ := hsealed hsafe hgoes
      obtain rfl : record = record' := by simpa using henc.symm.trans henc'
      rw [hpacket] at hpacket'
      cases hpacket'
    | ok packet =>
      rw [hpacket] at hrun
      rw [bind_of_ok hrun, bind_apply]
      unfold deviceSend
      rw [read_bind, update_bind]
      cases hsend : c.world.sendResults.headD true with
      | false =>
        have hsend' : (c.setSlot i (afterSealing app s)).world.sendResults.headD true =
          false := hsend
        rw [hsend']
        refine iff_of_true ⟨.inr ⟨i, s, app, hat, rfl⟩, rfl, rfl⟩ fun hgoes => ?_
        rw [hgoes.1] at hsend
        cases hsend
      | true =>
        have hsend' : (c.setSlot i (afterSealing app s)).world.sendResults.headD true =
          true := hsend
        obtain ⟨cipher, tag, haad, hencrypted, rfl⟩ := hsafe.encodeMsg_eq_ok_iff.1 henc
        have hgoes : GoesOut c s app := ⟨hsend, cipher, tag, packet, haad, hencrypted, hpacket⟩
        rw [hsend', guardElse_of rfl]
        exact (quiet_settleSent_iff app { c.world with
            outbox := c.world.outbox ++ [packet], sendResults := c.world.sendResults.tail }
          hat hstate rfl).trans ⟨fun h _ => h, fun h => h hgoes⟩
  · have hfail : SpdmSession.encodeSpdmSecuredMessage c.build.config app
        c.build.config.senderBufferSize false s =
        .err e (if e = .sequenceNumberOverflow then s.setDefault else s) := by
      unfold SpdmSession.encodeSpdmSecuredMessage
      rw [read_bind, if_neg hstate, bind_apply]
      simp only [attempt, henc]
      unfold SpdmSession.tearDownOnOverflow
      dsimp only
      split_ifs <;> rfl
    rw [bind_of_err (withSession_of_err hat hfail)] at hrun
    rw [bind_of_err hrun]
    by_cases he : e = .sequenceNumberOverflow
    · subst he
      refine iff_of_false (fun h => ?_) fun h =>
        (SpdmSession.sealsSafely_iff.1 h.1).2 henc
      rw [if_pos rfl] at h
      exact hstate ((states_setSlot hat s.setDefault).1 h.stays.1).symm
    · rw [if_neg he, setSlot_self hat.slot]
      have hsafe := SpdmSession.sealsSafely_iff.2 (show _ ∧ _ by
        rw [henc]
        exact ⟨(fun h => by cases h), fun h => he (by cases h; rfl)⟩)
      refine iff_of_true ⟨.inl rfl, rfl, rfl⟩ ⟨hsafe, fun hgoes => ?_⟩
      obtain ⟨record, packet, henc', -⟩ := hsealed hsafe hgoes
      rw [henc] at henc'
      cases henc'
  · have hpanic : SpdmSession.encodeSpdmSecuredMessage c.build.config app
        c.build.config.senderBufferSize false s = .panic := by
      unfold SpdmSession.encodeSpdmSecuredMessage
      rw [read_bind, if_neg hstate, bind_apply]
      simp only [attempt, henc]
    have hwith : withSession id SpdmStatus.invalidParameter (SpdmSession.encodeSpdmSecuredMessage
        c.build.config app c.build.config.senderBufferSize false) c = .panic := by
      simp only [withSession, hat.first, hat.slot, hpanic]
    rw [bind_of_panic hwith] at hrun
    rw [bind_of_panic hrun]
    exact iff_of_false (fun h => h) fun h => (SpdmSession.sealsSafely_iff.1 h.1).1 henc

theorem quiet_sendOut_iff (id : Nat) (m : Bytes) (c : SpdmContext) :
    Quiet id c ((encodeOutgoing (some id) m true >>= fun packet => deviceSend packet >>= fun _ =>
        settleSent (some id) m) c) ↔
      c.transportEncap.encapApp m c.build.config.senderBufferSize true ≠ none ∧
      ∀ app s, c.transportEncap.encapApp m c.build.config.senderBufferSize true =
          some (.ok app) → c.sessionViaId id = some s → s.sessionState ≠ .notStarted →
        SendsQuietly c id m app (codeAfter c m) s := by
  have houtgoing : encodeOutgoing (some id) m true c =
      encodeSecuredMessage id m c.build.config.senderBufferSize false true c := rfl
  have hquiet : ∀ e, Quiet id c (.err e c) := fun e => ⟨.inl rfl, rfl, rfl⟩
  rw [bind_apply, houtgoing, ← bind_apply]
  cases happ : c.transportEncap.encapApp m c.build.config.senderBufferSize true with
  | none =>
    have hpanic : encodeSecuredMessage id m c.build.config.senderBufferSize false true c =
        .panic := by
      unfold encodeSecuredMessage
      rw [read_bind, happ]
      rfl
    rw [bind_of_panic hpanic]
    exact iff_of_false (fun h => h) fun h => h.1 rfl
  | some r =>
  cases r with
  | error e =>
    have herr : encodeSecuredMessage id m c.build.config.senderBufferSize false true c =
        .err e c := by
      unfold encodeSecuredMessage
      rw [read_bind, happ]
      rfl
    rw [bind_of_err herr]
    exact iff_of_true (hquiet e) ⟨(fun h => by cases h), fun _ _ h => by cases h⟩
  | ok app =>
  have hfail : ∀ e, withSession id SpdmStatus.invalidParameter
      (SpdmSession.encodeSpdmSecuredMessage c.build.config app c.build.config.senderBufferSize
        false) c = .err e c →
      encodeSecuredMessage id m c.build.config.senderBufferSize false true c = .err e c :=
    fun e h => by rw [encodeSecuredMessage_of_app _ _ _ happ, bind_of_err h]
  cases hsession : c.sessionViaId id with
  | none =>
    have hnone : (c.session.findIdx? fun s => s.sessionId == id) = none :=
      List.findIdx?_eq_none_iff.2 fun s hs => by simpa using List.find?_eq_none.1 hsession s hs
    rw [bind_of_err (hfail .invalidParameter (by simp only [withSession, hnone]))]
    exact iff_of_true (hquiet _) ⟨(fun h => by cases h), fun _ _ _ h => by cases h⟩
  | some s =>
    obtain ⟨i, hat⟩ := slotAt_of_sessionViaId hsession
    by_cases hstate : s.sessionState = .notStarted
    · have hidle : SpdmSession.encodeSpdmSecuredMessage c.build.config app
          c.build.config.senderBufferSize false s = .err .invalidStateLocal s := by
        unfold SpdmSession.encodeSpdmSecuredMessage
        rw [read_bind, if_pos hstate]
        rfl
      rw [bind_of_err (hfail .invalidStateLocal (by
        rw [withSession_of_err hat hidle, setSlot_self hat.slot]))]
      refine iff_of_true (hquiet _) ⟨(fun h => by cases h), fun _ _ _ hs hne => ?_⟩
      cases hs
      exact absurd hstate hne
    · rw [quiet_inSession_iff happ hat hstate]
      refine ⟨fun h => ⟨(fun h => by cases h), fun app' s' happ' hs' _ => ?_⟩,
        fun h => h.2 app s rfl rfl hstate⟩
      cases happ'
      cases hs'
      exact h

/-- **Application messages.**  Sending one does nothing but send it exactly
when the responder and the message are as `Inert` says. -/
theorem sendAppMessage_only_sends_iff (id : Nat) (message : Bytes) (c : SpdmContext) :
    OnlySends id message c ↔ Inert id message c := by
  have hsend : sendMessage (some id) message true c = (outgoing (some id) message true >>=
      fun m => encodeOutgoing (some id) m true >>= fun packet => deviceSend packet >>= fun _ =>
        settleSent (some id) m) c := rfl
  unfold OnlySends
  rw [hsend]
  by_cases hfits : FitsChunkBuffer c message
  swap
  · obtain ⟨hkept, hlong⟩ := Classical.not_imp.1 hfits
    have hpanic : outgoing (some id) message true c = .panic := by
      rw [outgoing_eq rfl, if_pos hkept]
      unfold keepLargeResponse
      simp only [bind_assoc, read_bind, decide_eq_false hlong]
      rfl
    rw [bind_of_panic hpanic]
    exact iff_of_false (fun h => h) fun h => hfits h.fits
  obtain ⟨c₁, hout, hchunk, hcode⟩ := outgoing_of_fits
    (show (true && (some id).isNone) = false from rfl) hfits
  rw [bind_of_ok hout]
  -- only the chunk buffer changed
  obtain ⟨chunk, reqHandle, rspHandle, rfl⟩ : ∃ chunk reqHandle rspHandle, c₁ = { c with
      chunkContext := chunk, chunkReqHandle := reqHandle, chunkRspHandle := rspHandle } :=
    ⟨_, _, _, hchunk⟩
  have hquiet : ∀ o, Quiet id c o ↔ Quiet id { c with
      chunkContext := chunk, chunkReqHandle := reqHandle, chunkRspHandle := rspHandle } o := by
    have hat : ∀ i s, SlotAt c id i s ↔ SlotAt { c with
        chunkContext := chunk, chunkReqHandle := reqHandle, chunkRspHandle := rspHandle } id i s :=
      fun i s => ⟨fun h => ⟨h.first, h.slot⟩, fun h => ⟨h.first, h.slot⟩⟩
    intro o
    cases o <;> simp only [Quiet, hat]
  rw [hquiet, quiet_sendOut_iff, hcode]
  exact ⟨fun h => ⟨hfits, h.1, h.2⟩, fun h => ⟨h.transport, h.session⟩⟩

end

namespace SmallRun

open SmallBackend

def appResponder : SpdmContext := smallContext (smallSession 0 0 0) []

theorem sendAppMessage_sends : OnlySends 0xFFFDFFFD [7, 8] appResponder := by
  refine (sendAppMessage_only_sends_iff _ _ _).2 ⟨fun h => absurd h (by decide), by decide, ?_⟩
  intro app s happ hs _
  obtain rfl : marked true [7, 8] = app := Except.ok.inj (Option.some.inj happ)
  obtain rfl : smallSession 0 0 0 = s := Option.some.inj hs
  refine ⟨⟨by decide, by decide, fun _ => by decide, fun _ => ⟨by decide +kernel, ?_⟩⟩,
    fun _ => by decide⟩
  intro cipher tag hencrypted
  have hsizes : ((smallSession 0 0 0).encryption (marked true [7, 8])
      ((smallSession 0 0 0).direction false)).map (fun r => (r.1.length, r.2.length)) =
      .ok (5, 16) := by decide +kernel
  rw [hencrypted] at hsizes
  obtain ⟨hcipher, htag⟩ := Prod.mk.inj (Except.ok.inj hsizes)
  exact ⟨hcipher, htag, by decide⟩

theorem sendAppMessage_harms :
    sendMessage (some 0xFFFDFFFD) [7] true appResponder = .panic ∧
      (match sendMessage (some 0xFFFDFFFD) [7, spdmResponseEndSessionAck] true appResponder with
        | .ok _ c' => c'.session.map (·.sessionId)
        | _ => []) = [0, 0] := by
  constructor
  · rfl
  · decide +kernel

end SmallRun

end Responder

end Spdm
