/-
  Spdm.Requester.Rollback — when a failed key update goes back to the old keys.
-/
import Spdm.Context.Small
import Spdm.Requester.KeyUpdate
import Spdm.Requester.Steps
import Spdm.Session.KeyUpdate

namespace Spdm

open Effect Codec

variable {s t : SpdmSession} {updateRequester updateResponder : Bool} {i id : Nat}
    {c : SpdmContext}

namespace SpdmSession

/-! ## §1. The channel keeps the key material. -/

section Simp
variable (requester : Bool) (p : SpdmSessionSecretParam) (app secured : Bytes) (s : SpdmSession)

@[simp] theorem advanceDirection_keyMaterial :
    (s.advanceDirection requester).keyMaterial = s.keyMaterial := by
  unfold advanceDirection
  split <;> rfl

@[simp] theorem advanceDirection_applicationSecretBackup :
    (s.advanceDirection requester).applicationSecretBackup = s.applicationSecretBackup := by
  unfold advanceDirection
  split <;> rfl

@[simp] theorem advanceDirection_requesterBackupValid :
    (s.advanceDirection requester).requesterBackupValid = s.requesterBackupValid := by
  unfold advanceDirection
  split <;> rfl

@[simp] theorem advanceDirection_responderBackupValid :
    (s.advanceDirection requester).responderBackupValid = s.responderBackupValid := by
  unfold advanceDirection
  split <;> rfl

end Simp

def KeepsKeys (s t : SpdmSession) : Prop :=
  t.sessionId = invalidSessionId ∨
    (t.sessionId = s.sessionId ∧ t.keyMaterial = s.keyMaterial ∧
      t.backupMaterial = s.backupMaterial ∧ t.requesterBackupValid = s.requesterBackupValid ∧
      t.responderBackupValid = s.responderBackupValid)

theorem keepsKeys_setDefault (s : SpdmSession) : KeepsKeys s s.setDefault := .inl rfl

theorem keepsKeys_advanceDirection (requester : Bool) (s : SpdmSession) :
    KeepsKeys s (s.advanceDirection requester) :=
  .inr (by simp [backupMaterial])

theorem keepsKeys_advanceBackup (s : SpdmSession) : KeepsKeys s s.advanceBackup :=
  .inr ⟨rfl, rfl, rfl, rfl, rfl⟩

theorem keepsKeys_recordOpen {p : SpdmSessionSecretParam} {secured app : Bytes}
    (h : KeepsKeys s t) : KeepsKeys s (t.recordOpen p secured app) := h

instance : StepRel KeepsKeys where
  refl s := .inr ⟨rfl, rfl, rfl, rfl, rfl⟩
  trans := by
    rintro s t u (h | ⟨h1, h2, h3, h4, h5⟩) (h' | ⟨h1', h2', h3', h4', h5'⟩)
    · exact .inl h'
    · exact .inl (h1'.trans h)
    · exact .inl h'
    · exact .inr ⟨h1'.trans h1, h2'.trans h2, h3'.trans h3, h4'.trans h4, h5'.trans h5⟩

variable [Crypto]

instance : RequesterSlotRel KeepsKeys where
  sealing config app room s := by
    refine wp_mono (encodeSpdmSecuredMessage_spec config app room true s) ?_ ?_
    · rintro out t ⟨-, -, rfl⟩
      exact keepsKeys_advanceDirection true s
    · rintro e t (rfl | rfl)
      · exact StepRel.refl (R := KeepsKeys) _
      · exact keepsKeys_setDefault s
  opening config secured room s := by
    refine wp_mono (decodeSpdmSecuredMessage_spec config secured room false s) ?_ ?_
    · rintro app t (_ | _)
      · exact keepsKeys_recordOpen (keepsKeys_advanceDirection false s)
      · exact keepsKeys_recordOpen (keepsKeys_advanceBackup s)
    · rintro e t (_ | _ | _ | _)
      · exact StepRel.refl (R := KeepsKeys) _
      · exact keepsKeys_advanceDirection false s
      · exact keepsKeys_advanceBackup s
      · exact keepsKeys_setDefault s
  stop s := .inr ⟨rfl, rfl, rfl, rfl, rfl⟩
  teardown s := keepsKeys_setDefault s

/-! ## §2. Going back. -/

structure Undoable (updateRequester updateResponder : Bool) (s t : SpdmSession) : Prop where
  sessionId : t.sessionId = s.sessionId
  request : if updateRequester then
      t.requesterBackupValid = true ∧ t.backupMaterial.request = s.keyMaterial.request
    else t.keyMaterial.request = s.keyMaterial.request
  response : if updateResponder then
      t.responderBackupValid = true ∧ t.backupMaterial.response = s.keyMaterial.response
    else t.keyMaterial.response = s.keyMaterial.response

theorem createDataSecretUpdate_spec (v : SpdmVersion) (updateRequester updateResponder : Bool)
    (s : SpdmSession) :
    wp (createDataSecretUpdate v updateRequester updateResponder)
      (fun _ t => Undoable updateRequester updateResponder s t)
      (fun _ t => t.sessionId = s.sessionId) s := by
  unfold createDataSecretUpdate
  rw [wp_bind]
  have hresponder (t : SpdmSession) (ht : Undoable updateRequester false s t) :
      wp (if updateResponder then createResponderUpdate v else ret ())
        (fun _ t => Undoable updateRequester updateResponder s t)
        (fun _ t => t.sessionId = s.sessionId) t := by
    cases updateResponder with
    | false => exact ht
    | true =>
      refine wp_mono (createResponderUpdate_spec v t) ?_ ?_
      · rintro _ _ ⟨secret, key, salt, -, -, rfl⟩
        exact ⟨ht.sessionId, ht.request, rfl, ht.response⟩
      · rintro _ _ (_ | _) <;> exact ht.sessionId
  cases updateRequester with
  | false => exact hresponder s ⟨rfl, rfl, rfl⟩
  | true =>
    refine wp_mono (createRequesterUpdate_spec v s) ?_ ?_
    · rintro _ _ ⟨secret, key, salt, -, -, rfl⟩
      exact hresponder _ ⟨rfl, ⟨rfl, rfl⟩, rfl⟩
    · rintro _ _ (_ | _) <;> rfl

section
omit [Crypto]

@[simp] theorem applyWhen_sessionId {f : SpdmSession → SpdmSession} {update : Bool}
    (hf : ∀ s, (f s).sessionId = s.sessionId) (s : SpdmSession) :
    (s.applyWhen update f).sessionId = s.sessionId := by
  unfold applyWhen
  split
  · exact hf s
  · rfl

@[simp] theorem dropRequesterBackup_sessionId (s : SpdmSession) :
    s.dropRequesterBackup.sessionId = s.sessionId := rfl

@[simp] theorem dropResponderBackup_sessionId (s : SpdmSession) :
    s.dropResponderBackup.sessionId = s.sessionId := rfl

@[simp] theorem restoreRequester_sessionId (s : SpdmSession) :
    s.restoreRequester.sessionId = s.sessionId := by
  unfold restoreRequester
  split <;> rfl

@[simp] theorem restoreResponder_sessionId (s : SpdmSession) :
    s.restoreResponder.sessionId = s.sessionId := by
  unfold restoreResponder
  split <;> rfl

@[simp] theorem activateDataSecretUpdate_sessionId {useNewKey : Bool}
    (s : SpdmSession) :
    (s.activateDataSecretUpdate updateRequester updateResponder useNewKey).sessionId =
      s.sessionId := by
  unfold activateDataSecretUpdate
  split
  · rw [applyWhen_sessionId dropResponderBackup_sessionId,
      applyWhen_sessionId dropRequesterBackup_sessionId]
  · rw [applyWhen_sessionId restoreResponder_sessionId,
      applyWhen_sessionId restoreRequester_sessionId]

theorem Undoable.restored
    (h : Undoable updateRequester updateResponder s t) :
    (t.activateDataSecretUpdate updateRequester updateResponder false).keyMaterial =
      s.keyMaterial := by
  obtain ⟨-, hreq, hrsp⟩ := h
  cases updateRequester <;> cases updateResponder <;>
    simp_all [activateDataSecretUpdate, applyWhen, restoreRequester,
      restoreResponder, keyMaterial, backupMaterial, materialOf, setRequestDataSecret,
      setRequestDirection, setResponseDataSecret, setResponseDirection]

theorem Undoable.channel {u : SpdmSession}
    (h : Undoable updateRequester updateResponder s t) (hu : KeepsKeys t u)
    (hlive : u.sessionId ≠ invalidSessionId) : Undoable updateRequester updateResponder s u := by
  obtain ⟨hid, hreq, hrsp⟩ := h
  obtain hend | ⟨hid', hkey, hback, hrv, hpv⟩ := hu
  · exact absurd hend hlive
  · exact ⟨hid'.trans hid, by rw [hkey, hback, hrv]; exact hreq,
      by rw [hkey, hback, hpv]; exact hrsp⟩

theorem KeepsKeys.sessionId (h : KeepsKeys s t) :
    t.sessionId = invalidSessionId ∨ t.sessionId = s.sessionId := h.imp id And.left

end

def KeepsId (s t : SpdmSession) : Prop :=
  t.sessionId = invalidSessionId ∨ t.sessionId = s.sessionId

instance : StepRel KeepsId where
  refl _ := .inr rfl
  trans := by
    rintro s t u (h | h) (h' | h')
    · exact .inl h'
    · exact .inl (h'.trans h)
    · exact .inl h'
    · exact .inr (h'.trans h)

instance : RequesterSlotRel KeepsId where
  sealing config app room :=
    (RequesterSlotRel.sealing (R := KeepsKeys) config app room).mono fun _ _ h => h.sessionId
  opening config secured room :=
    (RequesterSlotRel.opening (R := KeepsKeys) config secured room).mono fun _ _ h => h.sessionId
  stop _ := .inr rfl
  teardown _ := .inl rfl

end SpdmSession

namespace Requester

open SpdmContext SpdmSession SpdmRequestResponseCode SpdmKeyUpdateOperation

/-! ## §3. Receiving the acknowledgement. -/

def KeysKept (i : Nat) (s : SpdmSession) (c : SpdmContext) : Prop :=
  ∀ t, c.session[i]? = some t → t.sessionId = s.sessionId → t.keyMaterial = s.keyMaterial

def Ended (i id : Nat) (c : SpdmContext) : Prop :=
  ∀ t, c.session[i]? = some t → t.sessionId ≠ id

def AnswersUpdate (v : SpdmVersion) (response : Bytes) : Prop :=
  ∃ header rest, parseHeader response = .ok header rest ∧ header.version = v ∧
    (header.requestResponseCode = spdmResponseKeyUpdateAck ∨
      header.requestResponseCode = spdmResponseError)

section Backend
variable [Crypto]

def NothingNew (v : SpdmVersion) (op : UInt8) (s : SpdmSession) : Prop :=
  wp (createDataSecretUpdate v (updatesRequester op) (updatesResponder op))
    (fun _ t => t.keyMaterial = s.keyMaterial) (fun _ t => t.keyMaterial = s.keyMaterial) s

def AnswerArrives (id i : Nat) (op : UInt8) (c : SpdmContext) : Prop :=
  ∃ c', withSession id .invalidParameter (createDataSecretUpdate c.negotiateInfo.spdmVersionSel
      (updatesRequester op) (updatesResponder op)) c = .ok () c' ∧
    wp (receiveMessage (some id) c.build.config.maxSpdmMsgSize false)
      (fun response c'' => AnswersUpdate c.negotiateInfo.spdmVersionSel response ∨ Ended i id c'')
      (fun _ c'' => Ended i id c'') c'

/-- The condition under which a failed key update goes back. -/
def RollsBack (id i : Nat) (op : UInt8) (s : SpdmSession) (c : SpdmContext) : Prop :=
  NothingNew c.negotiateInfo.spdmVersionSel op s ∨ AnswerArrives id i op c

section
omit [Crypto]

theorem keysKept_iff (hslot : c.session[i]? = some t) :
    KeysKept i s c ↔ (t.sessionId = s.sessionId → t.keyMaterial = s.keyMaterial) := by
  simp [KeysKept, hslot]

theorem ended_iff (hslot : c.session[i]? = some t) :
    Ended i id c ↔ t.sessionId ≠ id := by
  simp [Ended, hslot]

theorem KeysKept.channel {c' : SpdmContext}
    (h : KeysKept i s c) (hid : s.sessionId ≠ invalidSessionId)
    (hstep : ChannelStep KeepsKeys c c') : KeysKept i s c' := by
  intro u hu huid
  obtain ⟨t, ht, hkeep⟩ := forall₂_getElem?_inv hstep.slots hu
  obtain hend | ⟨hid', hkey, -⟩ := hkeep
  · exact absurd (huid.symm.trans hend) hid
  · exact hkey.trans (h t ht (hid'.symm.trans huid))

theorem Ended.step {c' : SpdmContext} (h : Ended i id c)
    (hid : id ≠ invalidSessionId) (hstep : ChannelStep KeepsId c c') : Ended i id c' := by
  intro u hu huid
  obtain ⟨t, ht, hkeep⟩ := forall₂_getElem?_inv hstep.slots hu
  obtain hend | hid' := hkeep
  · exact hid (huid.symm.trans hend)
  · exact h t ht (hid'.symm.trans huid)

theorem Ended.keysKept
    (h : Ended i s.sessionId c) : KeysKept i s c :=
  fun t ht hid => absurd hid (h t ht)

end

theorem within_handleSpdmKeyUpdateOpResponse (id : Nat) (updateRequester updateResponder : Bool)
    (response : Bytes) : Within (ChannelStep KeepsId)
      (handleSpdmKeyUpdateOpResponse id updateRequester updateResponder response) := by
  have hactivate (useNewKey : Bool) : Within (ε := SpdmStatus) KeepsId
      (update (activateDataSecretUpdate updateRequester updateResponder useNewKey)) :=
    .update fun s => .inr (activateDataSecretUpdate_sessionId s)
  refine .bind .read fun _ => .bind within_parseRest fun _ => .bind (.orFail _ _) fun _ =>
    .bind (.guardElse _ _) fun _ => ?_
  split_ifs
  · exact .bind (within_parse _) fun _ => .bind (within_withSession _ (hactivate _)) fun _ =>
      .guardElse _ _
  · exact .bind (within_withSession _ (hactivate _)) fun _ => within_spdmHandleErrorResponseMain _ _
  · exact .fail _

theorem handleSpdmKeyUpdateOpResponse_keysKept (response : Bytes) (hid : id ≠ invalidSessionId)
    (hsid : s.sessionId = id) (hslot : SlotAt c id i t)
    (hundo : Undoable updateRequester updateResponder s t) :
    wp (handleSpdmKeyUpdateOpResponse id updateRequester updateResponder response)
      (fun _ _ => True)
      (fun _ c' => KeysKept i s c' ↔
        AnswersUpdate c.negotiateInfo.spdmVersionSel response ∨ t.keyMaterial =
          s.keyMaterial) c := by
  have hunchanged : KeysKept i s c ↔ t.keyMaterial = s.keyMaterial := by
    rw [keysKept_iff hslot.slot]
    exact ⟨fun h => h (hslot.sessionId.trans hsid.symm), fun h _ => h⟩
  have hrestored (u : SpdmSession)
      (hu : u = t.activateDataSecretUpdate updateRequester updateResponder false) :
      KeysKept i s (c.setSlot i u) := by
    intro w hw _
    obtain rfl : u = w := by simpa [(List.getElem?_eq_some_iff.1 hslot.slot).1] using hw
    rw [hu, hundo.restored]
  -- a response that is refused before any rollback
  have hother (hno : ¬ AnswersUpdate c.negotiateInfo.spdmVersionSel response) :
      KeysKept i s c ↔
        AnswersUpdate c.negotiateInfo.spdmVersionSel response ∨ t.keyMaterial = s.keyMaterial :=
    hunchanged.trans (or_iff_right hno).symm
  unfold handleSpdmKeyUpdateOpResponse
  cases hhead : parseHeader response with
  | panic => simp [parseRest, hhead]
  | err e rest =>
    simp only [wp_bind, wp_read, parseRest, hhead, wp_ret, wp_orFail]
    exact ⟨by simp, fun _ => hother (by simp [AnswersUpdate, hhead])⟩
  | ok header rest =>
    simp only [wp_bind, wp_read, parseRest, hhead, wp_ret, wp_orFail, wp_guardElse, beq_iff_eq,
      beq_eq_false_iff_ne]
    refine ⟨?_, by simp⟩
    rintro _ ⟨⟩
    refine ⟨fun hversion => ?_, fun hversion => hother (by simp [AnswersUpdate, hhead, hversion])⟩
    have hanswers (hcode : header.requestResponseCode = spdmResponseKeyUpdateAck ∨
        header.requestResponseCode = spdmResponseError) :
        AnswersUpdate c.negotiateInfo.spdmVersionSel response :=
      ⟨header, rest, hhead, hversion, hcode⟩
    split_ifs with hack herror
    · -- an acknowledgement fails only when it does not parse
      simp only [wp_bind, wp_parse, wp_withSession hslot, wp_update, wp_guardElse]
      refine ⟨by simp, fun _ _ _ => ⟨fun _ => trivial, fun _ => ?_⟩⟩
      exact iff_of_true (hrestored _ rfl) (.inl (hanswers (.inl hack)))
    · simp only [wp_bind, wp_withSession hslot, wp_update]
      refine wp_mono (within_spdmHandleErrorResponseMain (R := KeepsKeys) (some id) response _)
        (fun _ _ _ => trivial) fun e c' hstep => ?_
      exact iff_of_true ((hrestored _ rfl).channel (hsid ▸ hid) hstep)
        (.inl (hanswers (.inr herror)))
    · exact hother (by simp [AnswersUpdate, hhead, hack, herror])

theorem rollsBack_iff {op : UInt8}
    (hslot : SlotAt c id i s)
    (hcreate : createDataSecretUpdate c.negotiateInfo.spdmVersionSel (updatesRequester op)
      (updatesResponder op) s = .ok () t) :
    RollsBack id i op s c ↔ t.keyMaterial = s.keyMaterial ∨
      wp (receiveMessage (some id) c.build.config.maxSpdmMsgSize false)
        (fun response c'' => AnswersUpdate c.negotiateInfo.spdmVersionSel response ∨ Ended i id c'')
        (fun _ c'' => Ended i id c'') (c.setSlot i t) := by
  unfold RollsBack NothingNew AnswerArrives
  rw [wp_of_ok hcreate, withSession_of_ok hslot hcreate]
  simp

/-- **When a failed key update goes back.**  The session ends a failed
`receive_spdm_key_update` with its old key material exactly when the update
derived nothing new, or the message received is an acknowledgement or an
ERROR with the negotiated version. -/
theorem receiveSpdmKeyUpdate_keeps_keys_iff {c c' : SpdmContext} {id i : Nat} {op : UInt8}
    {s : SpdmSession} {e : SpdmStatus} (hid : id ≠ invalidSessionId) (hslot : SlotAt c id i s)
    (herr : receiveSpdmKeyUpdate id op c = .err e c') :
    (∀ t, c'.session[i]? = some t → t.sessionId = id → t.keyMaterial = s.keyMaterial) ↔
      RollsBack id i op s c := by
  obtain rfl : s.sessionId = id := hslot.sessionId
  suffices h : wp (receiveSpdmKeyUpdate s.sessionId op) (fun _ _ => True)
      (fun _ c' => KeysKept i s c' ↔ RollsBack s.sessionId i op s c) c by
    have hiff := wp_err h herr
    exact hiff
  unfold receiveSpdmKeyUpdate
  simp only [wp_bind, wp_read, wp_withSession hslot]
  have hspec := createDataSecretUpdate_spec c.negotiateInfo.spdmVersionSel (updatesRequester op)
    (updatesResponder op) s
  cases hcreate : createDataSecretUpdate c.negotiateInfo.spdmVersionSel (updatesRequester op)
    (updatesResponder op) s with
  | panic => exact wp_of_panic hcreate
  | err e t =>
    -- the derivations failed: nothing is received
    have hsame := wp_err hspec hcreate
    rw [wp_of_err hcreate, keysKept_iff (hslot.set hsame).slot, RollsBack, NothingNew,
      wp_of_err hcreate, AnswerArrives, withSession_of_err hslot hcreate]
    simp [hsame]
  | ok _ t =>
    have hundo := wp_ok hspec hcreate
    rw [wp_of_ok hcreate, rollsBack_iff hslot hcreate]
    have hrecv := within_receiveMessage (R := KeepsKeys) (some s.sessionId)
      c.build.config.maxSpdmMsgSize false
    cases hres : receiveMessage (some s.sessionId) c.build.config.maxSpdmMsgSize false
      (c.setSlot i t) with
    | panic => exact wp_of_panic hres
    | err e c2 =>
      obtain ⟨u, hu, hkeep, -⟩ := (hslot.set hundo.sessionId).channel
        (fun _ _ h => h.sessionId) hid (hrecv.of_err hres)
      rw [wp_of_err hres, wp_of_err hres, keysKept_iff hu, ended_iff hu]
      obtain hend | ⟨hsame, hkey, -⟩ := hkeep
      · have hdead : u.sessionId ≠ s.sessionId := fun h => hid (h.symm.trans hend)
        exact iff_of_true (fun h => absurd h hdead) (.inr hdead)
      · simp [hkey, hsame.trans hundo.sessionId]
    | ok response c2 =>
      have hstep := hrecv.of_ok hres
      obtain ⟨u, hu, hkeep, hlive⟩ := (hslot.set hundo.sessionId).channel
        (fun _ _ h => h.sessionId) hid hstep
      rw [wp_of_ok hres, wp_of_ok hres]
      by_cases huid : u.sessionId = s.sessionId
      · have hundo' := hundo.channel hkeep (huid ▸ hid)
        refine wp_mono (handleSpdmKeyUpdateOpResponse_keysKept response hid rfl (hlive huid) hundo')
          (fun _ _ _ => trivial) fun e c' h => ?_
        have hkey : u.keyMaterial = t.keyMaterial := by
          obtain hend | ⟨-, hkey, -⟩ := hkeep
          · exact absurd (huid.symm.trans hend) hid
          · exact hkey
        have hversion : c2.negotiateInfo = c.negotiateInfo := hstep.negotiateInfo
        rw [h, hversion, hkey, ended_iff hu]
        simp only [huid, ne_eq, not_true_eq_false, or_false]
        exact or_comm
      · have hended : Ended i s.sessionId c2 := (ended_iff hu).2 huid
        refine wp_mono (within_handleSpdmKeyUpdateOpResponse _ _ _ response c2)
          (fun _ _ _ => trivial) fun e c' hstep' => ?_
        exact iff_of_true (hended.step hid hstep').keysKept (.inr (.inr hended))

end Backend

/-! ## §4. A refused update. -/

open SmallBackend

def refusal : Bytes := encodeHeader .spdmVersion12 spdmResponseError ++ [1, 0]

def refusedUpdate (count : Nat) : SpdmContext :=
  smallContext (smallSession count 1 3) [sealedPacket false (smallSession count 1 3) refusal]

def failedKeys :
    Outcome SpdmContext SpdmStatus Unit → Option (SpdmStatus × Option (Nat × KeyMaterial))
  | .err e c => some (e, c.session[0]?.map fun s => (s.sessionId, s.keyMaterial))
  | _ => none

theorem exists_of_failedKeys {o : Outcome SpdmContext SpdmStatus Unit} {e : SpdmStatus}
    {k : KeyMaterial} (h : failedKeys o = some (e, some (id, k))) :
    ∃ c t, o = .err e c ∧ c.session[0]? = some t ∧ t.sessionId = id ∧ t.keyMaterial = k := by
  cases o with
  | ok a c => simp [failedKeys] at h
  | panic => simp [failedKeys] at h
  | err e' c =>
    simp only [failedKeys, Option.some.injEq, Prod.mk.injEq, Option.map_eq_some_iff] at h
    obtain ⟨rfl, t, ht, hid, hk⟩ := h
    exact ⟨c, t, rfl, ht, hid, hk⟩

theorem slotAt_refusedUpdate (count : Nat) :
    SlotAt (refusedUpdate count) 0xFFFDFFFD 0 (smallSession count 1 3) := ⟨rfl, rfl⟩

theorem refused_update_rolls_back :
    RollsBack 0xFFFDFFFD 0 spdmUpdateAllKeys (smallSession 0 1 3) (refusedUpdate 0) := by
  have hrun : failedKeys (receiveSpdmKeyUpdate 0xFFFDFFFD spdmUpdateAllKeys (refusedUpdate 0)) =
      some (.errorPeer, some (0xFFFDFFFD, (smallSession 0 1 3).keyMaterial)) := by decide +kernel
  obtain ⟨c', t, herr, ht, -, hkeys⟩ := exists_of_failedKeys hrun
  refine (receiveSpdmKeyUpdate_keeps_keys_iff (by decide) (slotAt_refusedUpdate 0) herr).1 ?_
  intro u hu _
  rw [ht, Option.some.injEq] at hu
  rw [← hu, hkeys]

theorem receiveSpdmKeyUpdate_loses_keys :
    ¬ ∀ (c c' : SpdmContext) (id i : Nat) (op : UInt8) (s : SpdmSession) (e : SpdmStatus),
      id ≠ invalidSessionId → SlotAt c id i s → receiveSpdmKeyUpdate id op c = .err e c' →
      ∀ t, c'.session[i]? = some t → t.sessionId = id → t.keyMaterial = s.keyMaterial := by
  intro hall
  have hrun : failedKeys (receiveSpdmKeyUpdate 0xFFFDFFFD spdmUpdateAllKeys (refusedUpdate 1)) =
      some (.decodeAeadFail, some (0xFFFDFFFD,
        ⟨⟨leBytes 32 41, derived 32 41 5, derived 12 41 6⟩,
          ⟨leBytes 32 57, derived 32 57 5, derived 12 57 6⟩⟩)) := by decide +kernel
  obtain ⟨c', t, herr, ht, hid, hkeys⟩ := exists_of_failedKeys hrun
  have hkept := hall _ c' _ 0 _ _ _ (by decide) (slotAt_refusedUpdate 1) herr t ht hid
  rw [hkeys] at hkept
  revert hkept
  decide

end Requester

end Spdm
