/-
  Spdm.Session.Acts — everything that can happen to the slot of a session, said once.
-/
import Spdm.Session.KeyUpdate

namespace Spdm

open Effect Codec

variable {isRequester : Bool} {s t : SpdmSession} {v : SpdmVersion}

/-! ## §1. The acts. -/

def TranscriptStep (s t : SpdmSession) : Prop :=
  t = { s with
    runtimeInfo := t.runtimeInfo
    th1 := t.th1
    th2 := t.th2
    heartbeatPeriod := t.heartbeatPeriod
    secureSpdmVersionSel := t.secureSpdmVersionSel }

structure Fresh (s : SpdmSession) : Prop where
  state : s.sessionState = .notStarted
  sealed_eq : s.sealed = []
  opened_eq : s.opened = []
  data : s.applicationSecret = {}
  requestSeq : s.handshakeSecret.requestDirection.sequenceNumber = 0
  responseSeq : s.handshakeSecret.responseDirection.sequenceNumber = 0

section
variable [Crypto]

inductive SlotAct (isRequester : Bool) : SpdmSession → SpdmSession → Prop
  | transcript {s t : SpdmSession} (h : TranscriptStep s t) : SlotAct isRequester s t
  | free (s : SpdmSession) : SlotAct isRequester s s.setDefault
  | handshakeKeys {s t : SpdmSession} (v : SpdmVersion) (th1 : Bytes) (fresh : Fresh s)
      (h : Ran (SpdmSession.generateHandshakeSecret v th1) s t) : SlotAct isRequester s t
  | handshaking {s : SpdmSession} (used : s.sessionId ≠ invalidSessionId) (fresh : Fresh s) :
      SlotAct isRequester s (s.setSessionState .handshaking)
  | dataKeys {s t : SpdmSession} (v : SpdmVersion) (th2 : Bytes)
      (state : s.sessionState = .handshaking)
      (h : Ran (SpdmSession.generateDataSecret v th2) s t) : SlotAct isRequester s t
  | established {s : SpdmSession} (used : s.sessionId ≠ invalidSessionId) :
      SlotAct isRequester s (s.setSessionState .established)
  | stopped (s : SpdmSession) (h : isRequester = true) :
      SlotAct isRequester s (s.setSessionState .notStarted)
  | createUpdate {s t : SpdmSession} (v : SpdmVersion) (req rsp : Bool)
      (h : Ran (SpdmSession.createDataSecretUpdate v req rsp) s t) : SlotAct isRequester s t
  | activateUpdate (s : SpdmSession) (req rsp useNewKey : Bool) :
      SlotAct isRequester s (s.activateDataSecretUpdate req rsp useNewKey)
  | sealing {s t : SpdmSession} (config : Config) (app : Bytes) (room : Nat)
      (h : Ran (SpdmSession.encodeSpdmSecuredMessage config app room isRequester) s t) :
      SlotAct isRequester s t
  | opening {s t : SpdmSession} (config : Config) (message : Bytes) (room : Nat)
      (h : Ran (SpdmSession.decodeSpdmSecuredMessage config message room (!isRequester)) s t) :
      SlotAct isRequester s t

end

inductive MildSlot : SpdmSession → SpdmSession → Prop
  | transcript {s t : SpdmSession} (h : TranscriptStep s t) : MildSlot s t
  | free (s : SpdmSession) : MildSlot s s.setDefault

theorem MildSlot.slotAct [Crypto] (h : MildSlot s t) :
    SlotAct isRequester s t := by
  cases h with
  | transcript h => exact .transcript h
  | free => exact .free s

/-! ## §2. What the programs behind them change. -/

namespace SpdmSession

variable [Crypto]

def HandshakeKeysStep (s t : SpdmSession) : Prop :=
  t = { s with handshakeSecret := t.handshakeSecret } ∧
    t.handshakeSecret.requestDirection.sequenceNumber =
      s.handshakeSecret.requestDirection.sequenceNumber ∧
    t.handshakeSecret.responseDirection.sequenceNumber =
      s.handshakeSecret.responseDirection.sequenceNumber

omit [Crypto] in
theorem HandshakeKeysStep.trans {u : SpdmSession} (h : HandshakeKeysStep s t)
    (h' : HandshakeKeysStep t u) : HandshakeKeysStep s u := by
  refine ⟨?_, h'.2.1.trans h.2.1, h'.2.2.trans h.2.2⟩
  rw [h'.1, h.1]

instance : StepRel HandshakeKeysStep where
  refl _ := ⟨rfl, rfl, rfl⟩
  trans := HandshakeKeysStep.trans

def DataKeysStep (s t : SpdmSession) : Prop :=
  t = { s with applicationSecret := t.applicationSecret }

instance : StepRel DataKeysStep where
  refl _ := rfl
  trans h h' := by
    unfold DataKeysStep at *
    rw [h', h]

def UpdateStep (s t : SpdmSession) : Prop :=
  t = { s with
    applicationSecret := t.applicationSecret
    applicationSecretBackup := t.applicationSecretBackup
    responderBackupValid := t.responderBackupValid
    requesterBackupValid := t.requesterBackupValid }

instance : StepRel UpdateStep where
  refl _ := rfl
  trans h h' := by
    unfold UpdateStep at *
    rw [h', h]

omit [Crypto] in
theorem within_derivation {σ ε α β : Type} {R : σ → σ → Prop} [StepRel R] {o : Option α}
    {f : α → Option β} {e : ε} :
    Within R (do orFail e (← (do
      let a ← orAbort o
      ret (f a))) : Prog σ ε β) :=
  .bind (.bind (.orAbort _) fun _ => .ret _) fun _ => .orFail _ _

theorem within_keyIvDerivation {σ : Type} {R : σ → σ → Prop} [StepRel R]
    {hashAlgo aeadAlgo : Flags} {secret : Bytes} :
    Within R (do orFail SpdmStatus.cryptoError (← deriveAeadKeyIv v hashAlgo aeadAlgo secret) :
      Prog σ SpdmStatus (Bytes × Bytes)) :=
  .bind (.bind (.orAbort _) fun _ => .bind (.orAbort _) fun _ => .ret _) fun _ => .orFail _ _

theorem within_generateHandshakeSecret (v : SpdmVersion) (th1 : Bytes) :
    Within HandshakeKeysStep (generateHandshakeSecret v th1) := by
  refine .bind .read fun _ => ?_
  refine .bind within_derivation fun _ => .bind (.update fun _ => ⟨rfl, rfl, rfl⟩) fun _ => ?_
  refine .bind within_derivation fun _ => .bind (.update fun _ => ⟨rfl, rfl, rfl⟩) fun _ => ?_
  refine .bind within_derivation fun _ => .bind (.update fun _ => ⟨rfl, rfl, rfl⟩) fun _ => ?_
  refine .bind within_derivation fun _ => .bind (.update fun _ => ⟨rfl, rfl, rfl⟩) fun _ => ?_
  refine .bind within_keyIvDerivation fun _ =>
    .bind (.update fun _ => ⟨rfl, rfl, rfl⟩) fun _ => ?_
  exact .bind within_keyIvDerivation fun _ => .update fun _ => ⟨rfl, rfl, rfl⟩

theorem within_generateDataSecret (v : SpdmVersion) (th2 : Bytes) :
    Within DataKeysStep (generateDataSecret v th2) := by
  refine .bind .read fun _ => ?_
  refine .bind within_derivation fun _ => .bind (.update fun _ => rfl) fun _ => ?_
  refine .bind within_derivation fun _ => .bind (.update fun _ => rfl) fun _ => ?_
  refine .bind within_keyIvDerivation fun _ => .bind (.update fun _ => rfl) fun _ => ?_
  refine .bind within_keyIvDerivation fun _ => .bind (.update fun _ => rfl) fun _ => ?_
  exact .bind within_derivation fun _ => .update fun _ => rfl

theorem within_createDataSecretUpdate (v : SpdmVersion) (req rsp : Bool) :
    Within UpdateStep (createDataSecretUpdate v req rsp) := by
  have hreq : Within UpdateStep (createRequesterUpdate v) :=
    .bind (.update fun _ => rfl) fun _ => .bind .read fun _ => .bind within_derivation fun _ =>
      .bind (.update fun _ => rfl) fun _ => .bind within_keyIvDerivation fun _ =>
      .update fun _ => rfl
  have hrsp : Within UpdateStep (createResponderUpdate v) :=
    .bind (.update fun _ => rfl) fun _ => .bind .read fun _ => .bind within_derivation fun _ =>
      .bind (.update fun _ => rfl) fun _ => .bind within_keyIvDerivation fun _ =>
      .update fun _ => rfl
  refine .bind ?_ fun _ => ?_
  · cases req with
    | false => exact .ret _
    | true => exact hreq
  · cases rsp with
    | false => exact .ret _
    | true => exact hrsp

section
omit [Crypto]

theorem updateStep_applyWhen {f : SpdmSession → SpdmSession} (h : ∀ s, UpdateStep s (f s))
    (update : Bool) : UpdateStep s (applyWhen update f s) := by
  cases update with
  | false => exact StepRel.refl s
  | true => exact h s

theorem updateStep_restoreRequester (s : SpdmSession) : UpdateStep s s.restoreRequester := by
  unfold restoreRequester
  split <;> rfl

theorem updateStep_restoreResponder (s : SpdmSession) : UpdateStep s s.restoreResponder := by
  unfold restoreResponder
  split <;> rfl

theorem updateStep_activate (s : SpdmSession) (req rsp useNewKey : Bool) :
    UpdateStep s (s.activateDataSecretUpdate req rsp useNewKey) := by
  cases useNewKey with
  | true =>
    exact StepRel.trans (updateStep_applyWhen (f := dropRequesterBackup) (fun _ => rfl) _)
      (updateStep_applyWhen (f := dropResponderBackup) (fun _ => rfl) _)
  | false =>
    exact StepRel.trans (updateStep_applyWhen updateStep_restoreRequester _)
      (updateStep_applyWhen updateStep_restoreResponder _)

end

end SpdmSession

/-! ## §3. Ids and fresh sessions. -/

theorem TranscriptStep.fresh (h : TranscriptStep s t) (hs : Fresh s) :
    Fresh t := by
  rw [h]
  exact ⟨hs.state, hs.sealed_eq, hs.opened_eq, hs.data, hs.requestSeq, hs.responseSeq⟩

theorem SpdmSession.HandshakeKeysStep.fresh
    (h : SpdmSession.HandshakeKeysStep s t) (hs : Fresh s) : Fresh t := by
  obtain ⟨ht, hreq, hrsp⟩ := h
  refine ⟨?_, ?_, ?_, ?_, hreq.trans hs.requestSeq, hrsp.trans hs.responseSeq⟩ <;> rw [ht]
  · exact hs.state
  · exact hs.sealed_eq
  · exact hs.opened_eq
  · exact hs.data

theorem TranscriptStep.sessionId_eq (h : TranscriptStep s t) :
    t.sessionId = s.sessionId := by
  rw [h]

theorem TranscriptStep.sessionState_eq (h : TranscriptStep s t) :
    t.sessionState = s.sessionState := by
  rw [h]

namespace SpdmSession

theorem HandshakeKeysStep.sessionId_eq (h : HandshakeKeysStep s t) :
    t.sessionId = s.sessionId := by
  rw [h.1]

theorem DataKeysStep.sessionId_eq (h : DataKeysStep s t) :
    t.sessionId = s.sessionId := by
  rw [h]

theorem DataKeysStep.sessionState_eq (h : DataKeysStep s t) :
    t.sessionState = s.sessionState := by
  rw [h]

theorem UpdateStep.sessionId_eq (h : UpdateStep s t) :
    t.sessionId = s.sessionId := by
  rw [h]

theorem UpdateStep.sessionState_eq (h : UpdateStep s t) :
    t.sessionState = s.sessionState := by
  rw [h]

end SpdmSession

theorem SlotAct.sessionId [Crypto]
    (h : SlotAct isRequester s t) :
    t.sessionId = s.sessionId ∨ t.sessionId = invalidSessionId := by
  cases h with
  | transcript h => exact .inl h.sessionId_eq
  | free => exact .inr rfl
  | handshakeKeys v th1 _ h =>
    exact .inl ((SpdmSession.within_generateHandshakeSecret v th1).ran h).sessionId_eq
  | handshaking => exact .inl rfl
  | dataKeys v th2 _ h =>
    exact .inl ((SpdmSession.within_generateDataSecret v th2).ran h).sessionId_eq
  | established => exact .inl rfl
  | stopped => exact .inl rfl
  | createUpdate v req rsp h =>
    exact .inl ((SpdmSession.within_createDataSecretUpdate v req rsp).ran h).sessionId_eq
  | activateUpdate req rsp useNewKey =>
    exact .inl (SpdmSession.updateStep_activate s req rsp useNewKey).sessionId_eq
  | sealing config app room h =>
    have hspec := SpdmSession.encodeSpdmSecuredMessage_spec config app room isRequester s
    obtain ⟨out, h⟩ | ⟨e, h⟩ := h
    · have hseal := wp_ok hspec h
      rw [hseal.after]
      exact .inl (SpdmSession.advanceDirection_sessionId _ _)
    · obtain rfl | rfl := wp_err hspec h
      · exact .inl rfl
      · exact .inr rfl
  | opening config message room h =>
    have hspec := SpdmSession.decodeSpdmSecuredMessage_spec config message room (!isRequester) s
    obtain ⟨out, h⟩ | ⟨e, h⟩ := h
    · have hopen := wp_ok hspec h
      cases hopen with
      | current => exact .inl (SpdmSession.advanceDirection_sessionId _ _)
      | backup => exact .inl rfl
    · have hopen := wp_err hspec h
      cases hopen with
      | idle => exact .inl rfl
      | current => exact .inl (SpdmSession.advanceDirection_sessionId _ _)
      | backup => exact .inl rfl
      | down => exact .inr rfl

theorem SlotAct.freeIdle [Crypto]
    (h : SlotAct isRequester s t)
    (hs : s.sessionId = invalidSessionId → s.sessionState = .notStarted)
    (ht : t.sessionId = invalidSessionId) : t.sessionState = .notStarted := by
  cases h with
  | transcript h => exact h.sessionState_eq.trans (hs (h.sessionId_eq.symm.trans ht))
  | free => rfl
  | handshakeKeys v th1 fresh h =>
    exact (((SpdmSession.within_generateHandshakeSecret v th1).ran h).fresh fresh).state
  | handshaking used => exact absurd ht used
  | dataKeys v th2 state h =>
    have hdata := (SpdmSession.within_generateDataSecret v th2).ran h
    rw [hdata.sessionState_eq]
    exact hs (hdata.sessionId_eq.symm.trans ht)
  | established used => exact absurd ht used
  | stopped => rfl
  | createUpdate v req rsp h =>
    have hupdate := (SpdmSession.within_createDataSecretUpdate v req rsp).ran h
    rw [hupdate.sessionState_eq]
    exact hs (hupdate.sessionId_eq.symm.trans ht)
  | activateUpdate req rsp useNewKey =>
    have hupdate := SpdmSession.updateStep_activate s req rsp useNewKey
    rw [hupdate.sessionState_eq]
    exact hs (hupdate.sessionId_eq.symm.trans ht)
  | sealing config app room h =>
    have hspec := SpdmSession.encodeSpdmSecuredMessage_spec config app room isRequester s
    obtain ⟨out, h⟩ | ⟨e, h⟩ := h
    · have hseal := wp_ok hspec h
      rw [hseal.after] at ht
      exact absurd (hs (by simpa [SpdmSession.recordSeal] using ht)) hseal.started
    · obtain rfl | rfl := wp_err hspec h
      · exact hs ht
      · rfl
  | opening config message room h =>
    have hspec := SpdmSession.decodeSpdmSecuredMessage_spec config message room (!isRequester) s
    obtain ⟨out, h⟩ | ⟨e, h⟩ := h
    · have hopen := wp_ok hspec h
      cases hopen with
      | current started =>
        exact absurd (hs (by simpa [SpdmSession.recordOpen] using ht)) started
      | backup _ established =>
        have hidle := hs ht
        rw [established] at hidle
        cases hidle
    · have hopen := wp_err hspec h
      cases hopen with
      | idle => exact hs ht
      | current started => exact absurd (hs (by simpa using ht)) started
      | backup _ established =>
        have hidle := hs ht
        rw [established] at hidle
        cases hidle
      | down => rfl

theorem SlotAct.steps_freeIdle [Crypto]
    (h : Steps (SlotAct isRequester) s t)
    (hs : s.sessionId = invalidSessionId → s.sessionState = .notStarted) :
    t.sessionId = invalidSessionId → t.sessionState = .notStarted :=
  h.keep
    (fun _ _ hact => hact.freeIdle) hs

theorem SlotAct.steps_sessionId [Crypto]
    (h : Steps (SlotAct isRequester) s t) :
    t.sessionId = s.sessionId ∨ t.sessionId = invalidSessionId := by
  induction h with
  | refl => exact .inl rfl
  | tail _ hlast ih =>
    obtain hlast | hlast := hlast.sessionId
    · rw [hlast]
      exact ih
    · exact .inr hlast

/-! ## §4. The acts of a handshake. -/

section Handshake
variable [Crypto] {isRequester : Bool} {s : SpdmSession}

omit [Crypto] in
def SetupStep (s t : SpdmSession) : Prop :=
  t = { s with
    usePsk := t.usePsk
    mutAuthRequested := t.mutAuthRequested
    cryptoParam := t.cryptoParam
    sharedSecretRoot := t.sharedSecretRoot
    transportParam := t.transportParam
    runtimeInfo := t.runtimeInfo }

instance : StepRel SetupStep where
  refl _ := rfl
  trans h h' := by
    unfold SetupStep at *
    rw [h', h]

theorem within_setSharedSecret {secret : Bytes} :
    Within SetupStep (SpdmSession.setSharedSecret v secret) :=
  .bind (.update fun _ => rfl) fun _ => .bind .read fun _ =>
    .bind SpdmSession.within_derivation fun _ => .bind SpdmSession.within_derivation fun _ =>
    .update fun _ => rfl

omit [Crypto] in
theorem wp_setup {α : Type} {id : Nat} {k : Prog SpdmSession SpdmStatus α}
    (hk : Within SetupStep k) :
    wp (SpdmSession.setup id >>= fun _ => k) (fun _ t => Fresh t ∧ t.sessionId = id)
      (fun _ t => Fresh t ∧ t.sessionId = id) s := by
  unfold SpdmSession.setup
  rw [wp_bind, wp_bind, wp_read, wp_bind, wp_assert]
  intro _
  refine wp_of_ran fun t hran => ?_
  have ht := hk.ran hran
  rw [ht]
  exact ⟨⟨rfl, rfl, rfl, rfl, rfl, rfl⟩, rfl⟩

theorem wp_handshakeKeys (hs : Fresh s) (th1 : Bytes) :
    wp (do
        update fun s => { s with th1 := th1 }
        SpdmSession.generateHandshakeSecret v th1)
      (fun _ t => Steps (SlotAct isRequester) s t ∧ Fresh t)
      (fun _ t => Steps (SlotAct isRequester) s t) s := by
  have hth : TranscriptStep s { s with th1 := th1 } := rfl
  rw [wp_bind, wp_update]
  refine wp_mono (wp_of_ran fun t hran => ?_)
    (fun _ _ h => h) fun _ _ h => h.1
  have hfresh := hth.fresh hs
  exact ⟨.tail (.single (.transcript hth)) (.handshakeKeys v th1 hfresh hran),
    ((SpdmSession.within_generateHandshakeSecret v th1).ran hran).fresh hfresh⟩

theorem wp_dataKeys (hs : s.sessionState = .handshaking) (th2 : Bytes) :
    wp (do
        update fun s => { s with th2 := th2 }
        SpdmSession.generateDataSecret v th2)
      (fun _ t => Steps (SlotAct isRequester) s t ∧ t.sessionState = .handshaking)
      (fun _ t => Steps (SlotAct isRequester) s t) s := by
  rw [wp_bind, wp_update]
  refine wp_mono (wp_of_ran fun t hran => ?_) (fun _ _ h => h) fun _ _ h => h.1
  have hth : TranscriptStep s { s with th2 := th2 } := rfl
  have hdata := (SpdmSession.within_generateDataSecret v th2).ran hran
  refine ⟨.tail (.single (.transcript hth))
    (.dataKeys v th2 (hth.sessionState_eq.trans hs) hran), ?_⟩
  rw [hdata]
  exact hs

theorem steps_handshaking (used : s.sessionId ≠ invalidSessionId) (hs : Fresh s)
    (ht : TranscriptStep (s.setSessionState .handshaking) t) :
    Steps (SlotAct isRequester) s t ∧ t.sessionState = .handshaking :=
  ⟨.tail (.single (.handshaking used hs)) (.transcript ht), ht.sessionState_eq⟩

end Handshake

end Spdm
