/-
  Spdm.Responder.KeyUpdate — what a KEY_UPDATE_ACK stands for.
-/
import Spdm.Session.KeyUpdate
import Spdm.Responder.Steps
import Spdm.Responder.Codes
import Spdm.Context.Small

namespace Spdm

open Effect Codec SpdmContext SpdmKeyUpdateOperation SpdmRequestResponseCode

variable {op : UInt8} {s t : SpdmSession} {c : SpdmContext}

namespace SpdmSession

variable [Crypto]

/-! ## §1. The secrets an update asks for. -/

def renewRequest (v : SpdmVersion) (s : SpdmSession) (a : SpdmSessionApplicationSecret) :
    Option SpdmSessionApplicationSecret := do
  let secret ← nextDataSecret v s a.requestDataSecret
  let keyIv ← dataKeyIv v s secret
  pure { a with requestDataSecret := secret, requestDirection := ⟨keyIv.1, keyIv.2, 0⟩ }

def renewResponse (v : SpdmVersion) (s : SpdmSession) (a : SpdmSessionApplicationSecret) :
    Option SpdmSessionApplicationSecret := do
  let secret ← nextDataSecret v s a.responseDataSecret
  let keyIv ← dataKeyIv v s secret
  pure { a with responseDataSecret := secret, responseDirection := ⟨keyIv.1, keyIv.2, 0⟩ }

def renewedSecrets (v : SpdmVersion) (updateRequester updateResponder : Bool) (s : SpdmSession) :
    Option SpdmSessionApplicationSecret :=
  (if updateRequester then renewRequest v s s.applicationSecret
    else some s.applicationSecret).bind fun a =>
  if updateResponder then renewResponse v s a else some a

structure Renewed (v : SpdmVersion) (updateRequester updateResponder : Bool) (s t : SpdmSession) :
    Prop where
  secrets : renewedSecrets v updateRequester updateResponder s = some t.applicationSecret
  requester : t.requesterBackupValid = (updateRequester || s.requesterBackupValid)
  responder : t.responderBackupValid = (updateResponder || s.responderBackupValid)

theorem createDataSecretUpdate_renews (v : SpdmVersion) {updateRequester updateResponder : Bool}
    (s : SpdmSession) :
    wp (createDataSecretUpdate v updateRequester updateResponder)
      (fun _ => Renewed v updateRequester updateResponder s)
      (fun _ _ => renewedSecrets v updateRequester updateResponder s = none) s := by
  -- the first half, stated alike with and without the request direction
  have hfirst : wp (if updateRequester then createRequesterUpdate v else ret ())
      (fun _ t => (if updateRequester then renewRequest v s s.applicationSecret
          else some s.applicationSecret) = some t.applicationSecret ∧
        t.cryptoParam = s.cryptoParam ∧
        t.requesterBackupValid = (updateRequester || s.requesterBackupValid) ∧
        t.responderBackupValid = s.responderBackupValid)
      (fun _ _ => updateRequester = true ∧ renewRequest v s s.applicationSecret = none) s := by
    cases updateRequester with
    | false => exact ⟨rfl, rfl, rfl, rfl⟩
    | true =>
      refine wp_mono (createRequesterUpdate_spec v s) ?_ ?_
      · rintro _ t ⟨secret, key, salt, hsecret, hkey, rfl⟩
        simp [renewRequest, hsecret, hkey, setRequestDirection, setRequestDataSecret,
          backupRequester]
      · rintro e t (hsecret | ⟨secret, hsecret, hkey⟩)
        · exact ⟨rfl, by simp [renewRequest, hsecret]⟩
        · exact ⟨rfl, by simp [renewRequest, hsecret, hkey]⟩
  unfold createDataSecretUpdate
  rw [wp_bind]
  refine wp_mono hfirst ?_ ?_
  · rintro _ t ⟨hsecrets, hparam, hrequester, hresponder⟩
    have hnext : nextDataSecret v t = nextDataSecret v s := by unfold nextDataSecret; rw [hparam]
    have hkeyIv : dataKeyIv v t = dataKeyIv v s := by unfold dataKeyIv; rw [hparam]
    cases updateResponder with
    | false => exact ⟨by simpa [renewedSecrets] using hsecrets, hrequester, hresponder⟩
    | true =>
      refine wp_mono (createResponderUpdate_spec v t) ?_ ?_
      · rintro _ u ⟨secret, key, salt, hsecret, hkey, rfl⟩
        rw [hnext] at hsecret
        rw [hkeyIv] at hkey
        refine ⟨?_, hrequester, rfl⟩
        rw [renewedSecrets, hsecrets]
        simp [renewResponse, hsecret, hkey, setResponseDirection, setResponseDataSecret,
          backupResponder]
      · rintro e u (hsecret | ⟨secret, hsecret, hkey⟩)
        · rw [hnext] at hsecret
          rw [renewedSecrets, hsecrets]
          simp [renewResponse, hsecret]
        · rw [hnext] at hsecret
          rw [hkeyIv] at hkey
          rw [renewedSecrets, hsecrets]
          simp [renewResponse, hsecret, hkey]
  · rintro e t ⟨rfl, hnone⟩
    simp [renewedSecrets, hnone]

structure Updated (v : SpdmVersion) (op : UInt8) (s t : SpdmSession) : Prop where
  secrets : renewedSecrets v (updatesRequester op) (updatesResponder op) s =
    some t.applicationSecret
  requester : t.requesterBackupValid = updatesRequester op
  responder : updatesResponder op = true → t.responderBackupValid = false

end SpdmSession

namespace Responder

section
variable [Crypto]

/-! ## §2. One KEY_UPDATE at a session. -/

def switchKeys (op : UInt8) (s : SpdmSession) : SpdmSession :=
  if op = spdmUpdateSingleKey then s
  else if op = spdmUpdateAllKeys then s.dropResponderBackup
  else s.dropRequesterBackup

omit [Crypto] in
theorem keyUpdateOperation_cases (hop : isKeyUpdateOperation op = true) :
    op = spdmUpdateSingleKey ∨ op = spdmUpdateAllKeys ∨ op = spdmVerifyNewKey := by
  simpa [isKeyUpdateOperation, or_assoc] using hop

def deriveUpdate (v : SpdmVersion) (op : UInt8) : Prog SpdmSession SpdmStatus Unit :=
  SpdmSession.createDataSecretUpdate v (updatesRequester op) (updatesResponder op)

theorem applyKeyUpdate_eq (hop : isKeyUpdateOperation op = true) (v : SpdmVersion)
    (s : SpdmSession) :
    applyKeyUpdate v op s = match deriveUpdate v op s with
      | .ok _ t => .ok () (switchKeys op t)
      | .err _ t => .ok () (switchKeys op t)
      | .panic => .panic := by
  obtain rfl | rfl | rfl := keyUpdateOperation_cases hop
  · have hderive : deriveUpdate v spdmUpdateSingleKey =
        SpdmSession.createDataSecretUpdate v true false := rfl
    rw [hderive, applyKeyUpdate, if_pos rfl, bind_apply, attempt]
    cases SpdmSession.createDataSecretUpdate v true false s <;> rfl
  · have hderive : deriveUpdate v spdmUpdateAllKeys =
        SpdmSession.createDataSecretUpdate v true true := rfl
    rw [hderive, applyKeyUpdate, if_neg (by decide), if_pos rfl, bind_apply, attempt]
    cases SpdmSession.createDataSecretUpdate v true true s <;> rfl
  · rfl

omit [Crypto] in
@[simp] theorem switchKeys_applicationSecret :
    (switchKeys op s).applicationSecret = s.applicationSecret := by
  unfold switchKeys
  split_ifs <;> rfl

theorem updated_iff {v : SpdmVersion}
    (hop : isKeyUpdateOperation op = true) (h : applyKeyUpdate v op s = .ok () t) :
    SpdmSession.Updated v op s t ↔ ∀ e u, deriveUpdate v op s ≠ .err e u := by
  have hspec : wp (deriveUpdate v op) _ _ s := SpdmSession.createDataSecretUpdate_renews v s
  rw [applyKeyUpdate_eq hop] at h
  cases hderive : deriveUpdate v op s with
  | panic => rw [hderive] at h; cases h
  | err e u =>
    rw [wp_of_err hderive] at hspec
    refine iff_of_false (fun hupdated => ?_) fun hall => hall e u rfl
    rw [hupdated.secrets] at hspec
    cases hspec
  | ok a u =>
    rw [wp_of_ok hderive] at hspec
    rw [hderive] at h
    cases h
    refine iff_of_true ⟨?_, ?_, ?_⟩ fun _ _ h => by cases h
    · rw [switchKeys_applicationSecret]
      exact hspec.secrets
    · obtain rfl | rfl | rfl := keyUpdateOperation_cases hop
      · exact hspec.requester
      · exact hspec.requester
      · rfl
    · obtain rfl | rfl | rfl := keyUpdateOperation_cases hop
      · exact fun h => absurd h (by decide)
      · exact fun _ => rfl
      · exact fun h => absurd h (by decide)

/-! ## §3. The request. -/

def keyUpdateOf (c : SpdmContext) (bytes : Bytes) : Option KeyUpdatePayload :=
  payloadOf parseKeyUpdate c.negotiateInfo.spdmVersionSel bytes

omit [Crypto] in
theorem parseKeyUpdate_operation {rest left : Bytes} {p : KeyUpdatePayload}
    (h : parseKeyUpdate rest = .ok p left) : isKeyUpdateOperation p.keyUpdateOperation = true := by
  obtain ⟨op, _, -, h⟩ := bind_eq_ok.1 h
  obtain ⟨tag, _, -, h⟩ := bind_eq_ok.1 h
  obtain ⟨_, _, hop, h⟩ := bind_eq_ok.1 h
  obtain ⟨rfl, -⟩ := ret_eq_ok.1 h
  exact (guardElse_eq_ok.1 hop).1

theorem handleSpdmKeyUpdate_of_some {bytes : Bytes} {p : KeyUpdatePayload}
    (id : Nat) (h : keyUpdateOf c bytes = some p) :
    handleSpdmKeyUpdate id bytes c =
      (sessionStep id (applyKeyUpdate c.negotiateInfo.spdmVersionSel p.keyUpdateOperation) >>=
        fun _ => respond (encodeKeyUpdate c.negotiateInfo.spdmVersionSel spdmResponseKeyUpdateAck
          p.keyUpdateOperation p.tag))
      (resetBufferViaRequestCode spdmRequestKeyUpdate (some id) c) := by
  obtain ⟨rest, hrest, hp⟩ := Option.bind_eq_some_iff.1 h
  obtain ⟨left, hparse⟩ := Outcome.returned_eq_some.1 hp
  unfold handleSpdmKeyUpdate
  rw [bind_of_ok (readHeader_of_some _ hrest), update_bind,
    bind_of_ok (readPayload_of_ok hparse)]
  dsimp only
  rw [read_bind, resetBufferViaRequestCode_negotiateInfo]

theorem handleSpdmKeyUpdate_of_none {bytes : Bytes} (id : Nat)
    (h : keyUpdateOf c bytes = none) :
    wp (handleSpdmKeyUpdate id bytes) (fun _ _ => False)
      (fun _ c' => c' = c ∨ c' = resetBufferViaRequestCode spdmRequestKeyUpdate (some id) c) c := by
  unfold handleSpdmKeyUpdate
  rw [wp_bind]
  cases hrest : headerRest c.negotiateInfo.spdmVersionSel bytes with
  | none =>
    exact wp_mono (readHeader_of_none _ hrest) (fun _ _ h => h.elim) fun _ _ h => .inl h
  | some rest =>
    rw [wp_of_ok (readHeader_of_some _ hrest), wp_bind, wp_update, wp_bind]
    refine wp_mono (readPayload_of_none ?_) (fun _ _ h => h.elim) fun _ _ h => .inr h
    simpa [keyUpdateOf, payloadOf, hrest] using h

/-! ## §4. What an acknowledgement stands for. -/

def SecretsKept (i : Nat) (s : SpdmSession) (c : SpdmContext) : Prop :=
  ∃ t, c.session[i]? = some t ∧ t.applicationSecret = s.applicationSecret

/-- **KEY_UPDATE at session `s` is sound**: an acknowledgement stands for the
complete update, VerifyNewKey is acknowledged only while an update is
pending, and an ERROR leaves the data secrets. -/
def KeyUpdateSound (id i : Nat) (bytes : Bytes) (s : SpdmSession) (c : SpdmContext) : Prop :=
  wp (handleSpdmKeyUpdate id bytes)
    (fun _ c' => ∃ p t, keyUpdateOf c bytes = some p ∧ c'.session[i]? = some t ∧
      SpdmSession.Updated c.negotiateInfo.spdmVersionSel p.keyUpdateOperation s t ∧
      (p.keyUpdateOperation = spdmVerifyNewKey → s.requesterBackupValid = true))
    (fun _ c' => SecretsKept i s c') c

/-- What the request has to meet: no derivation it asks for fails, and there
is an update to verify. -/
def UpdateMeets (v : SpdmVersion) (s : SpdmSession) (op : UInt8) : Prop :=
  (∀ e t, deriveUpdate v op s ≠ .err e t) ∧
    (op = spdmVerifyNewKey → s.requesterBackupValid = true)

omit [Crypto] in
def SameSecrets (s t : SpdmSession) : Prop :=
  t.cryptoParam = s.cryptoParam ∧ t.applicationSecret = s.applicationSecret

theorem paired_deriveUpdate (v : SpdmVersion) (op : UInt8) :
    Paired SameSecrets (· = ·) (deriveUpdate v op) (deriveUpdate v op) := by
  have hread : ∀ {k : SpdmSession → Prog SpdmSession SpdmStatus Unit},
      (∀ s t, SameSecrets s t → k t = k s) → (∀ s, Paired SameSecrets (· = ·) (k s) (k s)) →
      Paired SameSecrets (· = ·) (Effect.read >>= k) (Effect.read >>= k) :=
    fun hk hp => .read_seq hk fun s _ _ => hp s
  have hnext : ∀ hashAlgo secret, Paired SameSecrets (· = ·)
      (deriveUpdateSecret v hashAlgo secret >>= fun o => orFail SpdmStatus.cryptoError o) _ :=
    fun _ _ => .seq (.seq (.orAbort _) fun _ => .ret rfl) fun _ => .orFail _ _
  have hkeyIv : ∀ hashAlgo aeadAlgo secret, Paired SameSecrets (· = ·)
      (deriveAeadKeyIv v hashAlgo aeadAlgo secret >>= fun o => orFail SpdmStatus.cryptoError o) _ :=
    fun _ _ _ => .seq (.seq (.orAbort _) fun _ => .seq (.orAbort _) fun _ => .ret rfl)
      fun _ => .orFail _ _
  have hrequester : Paired SameSecrets (· = ·) (SpdmSession.createRequesterUpdate v)
      (SpdmSession.createRequesterUpdate v) :=
    .seq (.update fun _ _ h => h) fun _ => hread (fun s t h => by rw [h.1, h.2]) fun s =>
      .seq (hnext _ _) fun secret => .seq (.update fun _ _ h => ⟨h.1, by
        dsimp only [SpdmSession.setRequestDataSecret]; rw [h.2]⟩) fun _ =>
      .seq (hkeyIv _ _ _) fun keyIv => .update fun _ _ h => ⟨h.1, by
        dsimp only [SpdmSession.setRequestDirection]; rw [h.2]⟩
  have hresponder : Paired SameSecrets (· = ·) (SpdmSession.createResponderUpdate v)
      (SpdmSession.createResponderUpdate v) :=
    .seq (.update fun _ _ h => h) fun _ => hread (fun s t h => by rw [h.1, h.2]) fun s =>
      .seq (hnext _ _) fun secret => .seq (.update fun _ _ h => ⟨h.1, by
        dsimp only [SpdmSession.setResponseDataSecret]; rw [h.2]⟩) fun _ =>
      .seq (hkeyIv _ _ _) fun keyIv => .update fun _ _ h => ⟨h.1, by
        dsimp only [SpdmSession.setResponseDirection]; rw [h.2]⟩
  refine .seq ?_ fun _ => ?_
  · split_ifs
    · exact hrequester
    · exact .ret rfl
  · split_ifs
    · exact hresponder
    · exact .ret rfl

theorem deriveUpdate_err_iff (v : SpdmVersion) (op : UInt8)
    (h : SameSecrets s t) :
    (∃ e u, deriveUpdate v op s = .err e u) ↔ ∃ e u, deriveUpdate v op t = .err e u := by
  have hend := paired_deriveUpdate v op s t h
  cases hs : deriveUpdate v op s <;> cases ht : deriveUpdate v op t <;> rw [hs, ht] at hend <;>
    simp at hend ⊢

section
omit [Crypto]

theorem sessionStep_of_ok {id i : Nat}
    {m : Prog SpdmSession SpdmStatus Unit} (hat : SlotAt c id i s) (h : m s = .ok () t) :
    sessionStep id m c = .ok () (c.setSlot i t) := by
  unfold sessionStep
  rw [bind_apply, attempt, withSession_of_ok hat h]
  rfl

theorem sessionStep_of_panic {id i : Nat}
    {m : Prog SpdmSession SpdmStatus Unit} (hat : SlotAt c id i s) (h : m s = .panic) :
    sessionStep id m c = .panic := by
  unfold sessionStep
  rw [bind_apply, attempt, withSession]
  simp only [hat.first, hat.slot, h]

theorem respond_of_le {m : Bytes} (c : SpdmContext) (h : m.length ≤ minDataTransferSize) :
    respond m c = .ok m c := by
  have hle : m.length ≤ c.build.config.maxSpdmMsgSize := h.trans c.build.msgSize_ge
  unfold respond
  rw [read_bind, demand, if_pos (decide_eq_true hle)]
  rfl

end

/-- **An acknowledgement stands for a complete update exactly when no
derivation fails and there is an update to verify.** -/
theorem keyUpdate_sound_iff {c : SpdmContext} {id i : Nat} {s : SpdmSession} (bytes : Bytes)
    (hat : SlotAt c id i s) :
    KeyUpdateSound id i bytes s c ↔
      ∀ p, keyUpdateOf c bytes = some p →
        UpdateMeets c.negotiateInfo.spdmVersionSel s p.keyUpdateOperation := by
  obtain ⟨r, r', hreset⟩ := resetBuffer_of_slotAt hat spdmRequestKeyUpdate
  have hat' : SlotAt (resetBufferViaRequestCode spdmRequestKeyUpdate (some id) c) id i
      { s with runtimeInfo := r } := by
    have hset : SlotAt (c.setSlot i { s with runtimeInfo := r }) id i _ := hat.set hat.sessionId
    rw [hreset]
    exact ⟨hset.first, hset.slot⟩
  unfold KeyUpdateSound
  cases hread : keyUpdateOf c bytes with
  | none =>
    refine iff_of_true (wp_mono (handleSpdmKeyUpdate_of_none id hread) (fun _ _ h => h.elim) ?_)
      fun p h => by cases h
    rintro e c' (rfl | rfl)
    · exact ⟨s, hat.slot, rfl⟩
    · exact ⟨_, hat'.slot, rfl⟩
  | some p =>
    have hrun := handleSpdmKeyUpdate_of_some id hread
    obtain ⟨rest, -, hp⟩ := Option.bind_eq_some_iff.1 hread
    obtain ⟨left, hparse⟩ := Outcome.returned_eq_some.1 hp
    have hop := parseKeyUpdate_operation hparse
    have hsame : SameSecrets s { s with runtimeInfo := r } := ⟨rfl, rfl⟩
    have hfails := deriveUpdate_err_iff c.negotiateInfo.spdmVersionSel p.keyUpdateOperation hsame
    have heq := applyKeyUpdate_eq hop c.negotiateInfo.spdmVersionSel { s with runtimeInfo := r }
    cases happly : applyKeyUpdate c.negotiateInfo.spdmVersionSel p.keyUpdateOperation
        { s with runtimeInfo := r } with
    | ok a t =>
      have hroom : (encodeKeyUpdate c.negotiateInfo.spdmVersionSel spdmResponseKeyUpdateAck
          p.keyUpdateOperation p.tag).length ≤ minDataTransferSize :=
        show (4 : Nat) ≤ 42 by decide
      rw [bind_of_ok (sessionStep_of_ok hat' happly), respond_of_le _ hroom] at hrun
      have hslot : ((resetBufferViaRequestCode spdmRequestKeyUpdate (some id) c).setSlot i
          t).session[i]? = some t := by
        simp [SpdmContext.setSlot, (List.getElem?_eq_some_iff.1 hat'.slot).1]
      have hiff : SpdmSession.Updated c.negotiateInfo.spdmVersionSel p.keyUpdateOperation s t ↔ _ :=
        Iff.trans ⟨fun h => ⟨h.secrets, h.requester, h.responder⟩,
          fun h => ⟨h.secrets, h.requester, h.responder⟩⟩ (updated_iff hop happly)
      rw [wp_of_ok hrun]
      constructor
      · rintro ⟨p', t', hp', ht', hdone, hpending⟩ q hq
        obtain rfl : p = p' := Option.some.inj hp'
        obtain rfl : p = q := Option.some.inj hq
        obtain rfl : t = t' := Option.some.inj (hslot.symm.trans ht')
        refine ⟨fun e u herr => ?_, hpending⟩
        obtain ⟨e', u', herr'⟩ := hfails.1 ⟨e, u, herr⟩
        exact hiff.1 hdone e' u' herr'
      · intro hmeets
        obtain ⟨hderives, hpending⟩ := hmeets p rfl
        refine ⟨p, t, rfl, hslot, hiff.2 fun e u herr => ?_, hpending⟩
        obtain ⟨e', u', herr'⟩ := hfails.2 ⟨e, u, herr⟩
        exact hderives e' u' herr'
    | err e t =>
      rw [happly] at heq
      cases hderive : deriveUpdate c.negotiateInfo.spdmVersionSel p.keyUpdateOperation
        { s with runtimeInfo := r } <;> rw [hderive] at heq <;> cases heq
    | panic =>
      rw [bind_apply, sessionStep_of_panic hat' happly] at hrun
      refine iff_of_true (wp_of_panic hrun) fun q hq => ?_
      obtain rfl : p = q := Option.some.inj hq
      refine ⟨fun e u herr => ?_, fun hverify => ?_⟩
      · obtain ⟨e', u', herr'⟩ := hfails.1 ⟨e, u, herr⟩
        rw [herr', happly] at heq
        cases heq
      · rw [hverify] at happly
        cases happly

end

/-! ## §5. Acknowledged without an update. -/

namespace SmallRun

open SmallBackend

def updatingResponder : SpdmContext := smallContext (smallSession 0 1 3) []

def updateRequest (op : UInt8) : Bytes := encodeKeyUpdate .spdmVersion12 spdmRequestKeyUpdate op 1

theorem slotAt_updatingResponder : SlotAt updatingResponder 0xFFFDFFFD 0 (smallSession 0 1 3) :=
  ⟨rfl, rfl⟩

theorem keyUpdate_sound_allKeys :
    KeyUpdateSound 0xFFFDFFFD 0 (updateRequest spdmUpdateAllKeys) (smallSession 0 1 3)
      updatingResponder := by
  refine (keyUpdate_sound_iff _ slotAt_updatingResponder).2 fun p hp => ?_
  have hread : keyUpdateOf updatingResponder (updateRequest spdmUpdateAllKeys) =
      some ⟨spdmUpdateAllKeys, 1⟩ := by decide
  obtain rfl := Option.some.inj (hread.symm.trans hp)
  obtain ⟨a, t, hok⟩ := Outcome.exists_of_returned
    (show (deriveUpdate .spdmVersion12 spdmUpdateAllKeys
      (smallSession 0 1 3)).returned.isSome = true
      by decide +kernel)
  refine ⟨fun e u herr => ?_, fun h => absurd h (by decide)⟩
  exact absurd (hok.symm.trans herr) (by simp)

@[reducible] def failingCrypto : Crypto := { smallCrypto with hkdfExpand := fun _ _ _ _ => none }

theorem keyUpdate_acked_without_update :
    (@handleSpdmKeyUpdate failingCrypto 0xFFFDFFFD (updateRequest spdmUpdateSingleKey)
        updatingResponder).returned =
      some (encodeKeyUpdate .spdmVersion12 spdmResponseKeyUpdateAck spdmUpdateSingleKey 1) ∧
    ¬ @KeyUpdateSound failingCrypto 0xFFFDFFFD 0 (updateRequest spdmUpdateSingleKey)
        (smallSession 0 1 3) updatingResponder ∧
    (handleSpdmKeyUpdate 0xFFFDFFFD (updateRequest spdmVerifyNewKey) updatingResponder).returned =
      some (encodeKeyUpdate .spdmVersion12 spdmResponseKeyUpdateAck spdmVerifyNewKey 1) ∧
    ¬ KeyUpdateSound 0xFFFDFFFD 0 (updateRequest spdmVerifyNewKey) (smallSession 0 1 3)
        updatingResponder := by
  have hsingle : (@handleSpdmKeyUpdate failingCrypto 0xFFFDFFFD (updateRequest spdmUpdateSingleKey)
      updatingResponder).returned =
    some (encodeKeyUpdate .spdmVersion12 spdmResponseKeyUpdateAck spdmUpdateSingleKey 1) := by
    decide +kernel
  have hverify : (handleSpdmKeyUpdate 0xFFFDFFFD (updateRequest spdmVerifyNewKey)
      updatingResponder).returned =
    some (encodeKeyUpdate .spdmVersion12 spdmResponseKeyUpdateAck spdmVerifyNewKey 1) := by
    decide +kernel
  refine ⟨hsingle, fun hsound => ?_, hverify, fun hsound => ?_⟩
  · obtain ⟨c', hok⟩ := Outcome.returned_eq_some.1 hsingle
    obtain ⟨p, t, hp, -, hupdated, -⟩ := wp_ok hsound hok
    have hread : keyUpdateOf updatingResponder (updateRequest spdmUpdateSingleKey) =
        some ⟨spdmUpdateSingleKey, 1⟩ := by decide
    have hnone : @SpdmSession.renewedSecrets failingCrypto .spdmVersion12 true false
        (smallSession 0 1 3) = none := by decide +kernel
    obtain rfl := Option.some.inj (hread.symm.trans hp)
    have hsecrets := @SpdmSession.Updated.secrets failingCrypto _ _ _ _ hupdated
    exact absurd (hnone.symm.trans hsecrets) (by simp)
  · obtain ⟨c', hok⟩ := Outcome.returned_eq_some.1 hverify
    obtain ⟨p, t, hp, -, -, hpending⟩ := wp_ok hsound hok
    have hread : keyUpdateOf updatingResponder (updateRequest spdmVerifyNewKey) =
        some ⟨spdmVerifyNewKey, 1⟩ := by decide
    obtain rfl := Option.some.inj (hread.symm.trans hp)
    exact absurd (hpending rfl) (by decide)

end SmallRun

end Responder

end Spdm
