/-
  Spdm.Session.Reuse — a slot that is used again (`common/session.rs`).
-/
import Spdm.Context.Small

namespace Spdm

open Effect Codec

variable {α : Type} {hashAlgo : Flags} {config : Config} {room : Nat} {p : SpdmSessionSecretParam}
    {secured : Bytes}

/-! ## §1. Operations on a slot. -/

inductive SessionOp where
  | teardown
  | setup (sessionId : Nat)
  | setUsePsk (usePsk : Bool)
  | setMutAuthRequested (mutAuthRequested : Flags)
  | setCryptoParam (p : SpdmSessionCryptoParam)
  | setTransportParam (sequenceNumberCount maxRandomCount : Nat)
  | setSessionState (st : SpdmSessionState)
  | setRuntimeInfo (r : SpdmSessionRuntimeInfo)
  | setApplicationSecret (a : SpdmSessionApplicationSecret)
  | getApplicationSecret
  | setSharedSecret (v : SpdmVersion) (sharedSecret : Bytes)
  | generateHandshakeSecret (v : SpdmVersion) (th1 : Bytes)
  | generateDataSecret (v : SpdmVersion) (th2 : Bytes)
  | createDataSecretUpdate (v : SpdmVersion) (updateRequester updateResponder : Bool)
  | activateDataSecretUpdate (updateRequester updateResponder useNewKey : Bool)
  | encode (config : Config) (app : Bytes) (room : Nat) (isRequester : Bool)
  | decode (config : Config) (secured : Bytes) (room : Nat) (isRequester : Bool)

inductive SessionResult where
  | done
  | message (m : Bytes)
  | secret (a : SpdmSessionApplicationSecret)
  deriving Repr, DecidableEq

namespace SpdmSession

def returning (m : Prog SpdmSession SpdmStatus Bytes) :
    Prog SpdmSession SpdmStatus SessionResult := do
  let out ← m
  ret (.message out)

def doing (m : Prog SpdmSession SpdmStatus Unit) : Prog SpdmSession SpdmStatus SessionResult := do
  m
  ret .done

end SpdmSession

open SpdmSession in
def SessionOp.run [Crypto] : SessionOp → Prog SpdmSession SpdmStatus SessionResult
  | teardown => doing (update SpdmSession.teardown)
  | setup id => doing (SpdmSession.setup id)
  | setUsePsk b => doing (update fun s => { s with usePsk := b })
  | setMutAuthRequested m => doing (update fun s => { s with mutAuthRequested := m })
  | setCryptoParam p => doing (update (SpdmSession.setCryptoParam p))
  | setTransportParam n m => doing (update (SpdmSession.setTransportParam n m))
  | setSessionState st => doing (update (SpdmSession.setSessionState st))
  | setRuntimeInfo r => doing (update fun s => { s with runtimeInfo := r })
  | setApplicationSecret a => doing (update fun s => { s with applicationSecret := a })
  | getApplicationSecret => do
    let s ← read
    ret (.secret s.applicationSecret)
  | setSharedSecret v b => doing (SpdmSession.setSharedSecret v b)
  | generateHandshakeSecret v th1 => doing (SpdmSession.generateHandshakeSecret v th1)
  | generateDataSecret v th2 => doing (SpdmSession.generateDataSecret v th2)
  | createDataSecretUpdate v q p => doing (SpdmSession.createDataSecretUpdate v q p)
  | activateDataSecretUpdate q p n => doing (update (SpdmSession.activateDataSecretUpdate q p n))
  | encode config app room q => returning (encodeSpdmSecuredMessage config app room q)
  | decode config secured room q => returning (decodeSpdmSecuredMessage config secured room q)

def SpdmSession.results [Crypto] :
    List SessionOp → SpdmSession → List (Option (Except SpdmStatus SessionResult))
  | [], _ => []
  | op :: ops, s =>
    match op.run s with
    | .ok r t => some (.ok r) :: results ops t
    | .err e t => some (.error e) :: results ops t
    | .panic => [none]

/-! ## §2. No operation looks at the transcript hashes. -/

namespace SpdmSession

def withTh (th1 th2 : Bytes) (s : SpdmSession) : SpdmSession := { s with th1 := th1, th2 := th2 }

def SameButTh (s t : SpdmSession) : Prop := ∃ th1 th2, t = withTh th1 th2 s

abbrev HashBlind {α : Type} (m : Prog SpdmSession SpdmStatus α) :
    Prop := Paired SameButTh (· = ·) m m

theorem blind_update {g : SpdmSession → SpdmSession}
    (h : ∀ th1 th2 s, g (withTh th1 th2 s) = withTh th1 th2 (g s)) : HashBlind (update g) := by
  refine .update ?_
  rintro s _ ⟨th1, th2, rfl⟩
  exact ⟨th1, th2, h th1 th2 s⟩

theorem blind_read {k : SpdmSession → Prog SpdmSession SpdmStatus α}
    (h : ∀ th1 th2 s, k (withTh th1 th2 s) = k s) (hk : ∀ s, HashBlind (k s)) :
    HashBlind (read >>= k) := by
  refine .read_seq ?_ fun s _ _ => hk s
  rintro s _ ⟨th1, th2, rfl⟩
  exact h th1 th2 s

variable [Crypto]

omit [Crypto] in
theorem blind_derive {d : Prog SpdmSession SpdmStatus (Option α)}
    (hd : HashBlind d) : HashBlind (do orFail SpdmStatus.cryptoError (← d)) :=
  .seq hd fun _ => .orFail _ _

omit [Crypto] in
theorem blind_getSize :
    HashBlind (SpdmBaseHashAlgo.getSize hashAlgo) := .orAbort _

theorem blind_deriveAeadKeyIv {v : SpdmVersion} {aeadAlgo : Flags}
    {secret : Bytes} : HashBlind (deriveAeadKeyIv v hashAlgo aeadAlgo secret) :=
  .seq (.orAbort _) fun _ => .seq (.orAbort _) fun _ => .ret rfl

theorem blind_deriveDirectionSecret
    {expand : SpdmVersion → Flags → Bytes → Bytes → Option Bytes} {label : KeyLabel}
    {usePsk : Bool} {v : SpdmVersion} {key hint th : Option Bytes} :
    HashBlind (deriveDirectionSecret expand label usePsk v hashAlgo key hint th) :=
  .seq blind_getSize fun _ => .ret rfl

theorem blind_setSharedSecret (v : SpdmVersion) (secret : Bytes) :
    HashBlind (setSharedSecret v secret) :=
  .seq (blind_update fun _ _ _ => rfl) fun _ => blind_read (fun _ _ _ => rfl) fun _ =>
    .seq (blind_derive (.seq blind_getSize fun _ => .ret rfl)) fun _ =>
    .seq (blind_derive (.seq blind_getSize fun _ => .ret rfl)) fun _ =>
    blind_update fun _ _ _ => rfl

theorem blind_generateHandshakeSecret (v : SpdmVersion) (th : Bytes) :
    HashBlind (generateHandshakeSecret v th) := by
  refine blind_read (fun _ _ _ => rfl) fun s => ?_
  refine .seq (blind_derive blind_deriveDirectionSecret) fun _ => ?_
  refine .seq (blind_update fun _ _ _ => rfl) fun _ => ?_
  refine .seq (blind_derive blind_deriveDirectionSecret) fun _ => ?_
  refine .seq (blind_update fun _ _ _ => rfl) fun _ => ?_
  refine .seq (blind_derive (.seq blind_getSize fun _ => .ret rfl)) fun _ => ?_
  refine .seq (blind_update fun _ _ _ => rfl) fun _ => ?_
  refine .seq (blind_derive (.seq blind_getSize fun _ => .ret rfl)) fun _ => ?_
  refine .seq (blind_update fun _ _ _ => rfl) fun _ => ?_
  refine .seq (blind_derive blind_deriveAeadKeyIv) fun _ => ?_
  refine .seq (blind_update fun _ _ _ => rfl) fun _ => ?_
  exact .seq (blind_derive blind_deriveAeadKeyIv) fun _ => blind_update fun _ _ _ => rfl

theorem blind_generateDataSecret (v : SpdmVersion) (th : Bytes) :
    HashBlind (generateDataSecret v th) := by
  refine blind_read (fun _ _ _ => rfl) fun s => ?_
  refine .seq (blind_derive blind_deriveDirectionSecret) fun _ => ?_
  refine .seq (blind_update fun _ _ _ => rfl) fun _ => ?_
  refine .seq (blind_derive blind_deriveDirectionSecret) fun _ => ?_
  refine .seq (blind_update fun _ _ _ => rfl) fun _ => ?_
  refine .seq (blind_derive blind_deriveAeadKeyIv) fun _ => ?_
  refine .seq (blind_update fun _ _ _ => rfl) fun _ => ?_
  refine .seq (blind_derive blind_deriveAeadKeyIv) fun _ => ?_
  refine .seq (blind_update fun _ _ _ => rfl) fun _ => ?_
  exact .seq (blind_derive blind_deriveDirectionSecret) fun _ => blind_update fun _ _ _ => rfl

theorem blind_createRequesterUpdate (v : SpdmVersion) :
    HashBlind (createRequesterUpdate v) :=
  .seq (blind_update fun _ _ _ => rfl) fun _ => blind_read (fun _ _ _ => rfl) fun _ =>
    .seq (blind_derive (.seq blind_getSize fun _ => .ret rfl)) fun _ =>
    .seq (blind_update fun _ _ _ => rfl) fun _ =>
    .seq (blind_derive blind_deriveAeadKeyIv) fun _ => blind_update fun _ _ _ => rfl

theorem blind_createResponderUpdate (v : SpdmVersion) :
    HashBlind (createResponderUpdate v) :=
  .seq (blind_update fun _ _ _ => rfl) fun _ => blind_read (fun _ _ _ => rfl) fun _ =>
    .seq (blind_derive (.seq blind_getSize fun _ => .ret rfl)) fun _ =>
    .seq (blind_update fun _ _ _ => rfl) fun _ =>
    .seq (blind_derive blind_deriveAeadKeyIv) fun _ => blind_update fun _ _ _ => rfl

theorem blind_createDataSecretUpdate (v : SpdmVersion) (q p : Bool) :
    HashBlind (createDataSecretUpdate v q p) := by
  refine .seq ?_ fun _ => ?_
  · cases q with
    | false => exact .ret rfl
    | true => exact blind_createRequesterUpdate v
  · cases p with
    | false => exact .ret rfl
    | true => exact blind_createResponderUpdate v

section
omit [Crypto]

theorem restoreRequester_withTh (th1 th2 : Bytes) (s : SpdmSession) :
    (withTh th1 th2 s).restoreRequester = withTh th1 th2 s.restoreRequester := by
  unfold restoreRequester
  cases h : s.requesterBackupValid <;> simp [withTh, h, setRequestDataSecret, setRequestDirection]

theorem restoreResponder_withTh (th1 th2 : Bytes) (s : SpdmSession) :
    (withTh th1 th2 s).restoreResponder = withTh th1 th2 s.restoreResponder := by
  unfold restoreResponder
  cases h : s.responderBackupValid <;> simp [withTh, h, setResponseDataSecret, setResponseDirection]

theorem applyWhen_withTh {th1 th2 : Bytes} (b : Bool) {f : SpdmSession → SpdmSession}
    (hf : ∀ s, f (withTh th1 th2 s) = withTh th1 th2 (f s)) (s : SpdmSession) :
    applyWhen b f (withTh th1 th2 s) = withTh th1 th2 (applyWhen b f s) := by
  cases b with
  | false => rfl
  | true => exact hf s

theorem activateDataSecretUpdate_withTh (q p n : Bool) (th1 th2 : Bytes) (s : SpdmSession) :
    activateDataSecretUpdate q p n (withTh th1 th2 s) =
      withTh th1 th2 (activateDataSecretUpdate q p n s) := by
  cases n with
  | true =>
    show applyWhen p dropResponderBackup (applyWhen q dropRequesterBackup _) = _
    rw [applyWhen_withTh (f := dropRequesterBackup) q fun _ => rfl,
      applyWhen_withTh (f := dropResponderBackup) p fun _ => rfl]
    rfl
  | false =>
    show applyWhen p restoreResponder (applyWhen q restoreRequester _) = _
    rw [applyWhen_withTh q (restoreRequester_withTh th1 th2),
      applyWhen_withTh p (restoreResponder_withTh th1 th2)]
    rfl

end

theorem blind_encodeMsg {app : Bytes} :
    HashBlind (encodeMsg config app room p) :=
  blind_read (fun _ _ _ => rfl) fun _ => .seq (.orAbort _) fun _ => .seq (.guardElse _ _) fun _ =>
    .seq (.guardElse _ _) fun _ => .seq (.assert _) fun _ => .seq (.assert _) fun _ =>
    .seq paired_liftResult fun _ => .seq (.assert _) fun _ => .seq (.assert _) fun _ => .ret rfl

theorem blind_decodeMsg :
    HashBlind (decodeMsg config secured room p) := by
  refine blind_read (fun _ _ _ => rfl) fun s => .seq (.orAbort _) fun _ =>
    .seq (.guardElse _ _) fun _ => .seq ?_ fun _ => .seq (.guardElse _ _) fun _ =>
    .seq (.guardElse _ _) fun _ => .seq (.assert _) fun _ => .seq paired_liftResult fun _ =>
    .seq (.guardElse _ _) fun _ => .seq (.assert _) fun _ => .ret rfl
  cases parseAad s.sessionId s.transportParam.sequenceNumberCount p.sequenceNumber secured with
  | ok n _ => exact .ret rfl
  | err _ _ => exact .fail _
  | panic => exact .abort

section
omit [Crypto]

theorem blind_tearDownOnOverflow (r : Except SpdmStatus α) :
    HashBlind (tearDownOnOverflow r) := by
  cases r with
  | ok a => exact .ret rfl
  | error e =>
    refine .seq ?_ fun _ => .fail _
    split_ifs
    · exact blind_update fun _ _ _ => rfl
    · exact .ret rfl

theorem advanceDirection_withTh (q : Bool) (th1 th2 : Bytes) (s : SpdmSession) :
    (withTh th1 th2 s).advanceDirection q = withTh th1 th2 (s.advanceDirection q) := by
  unfold advanceDirection
  cases h : s.sessionState <;> cases q <;> simp [withTh, h]

theorem blind_countDecoded {advance : SpdmSession → SpdmSession}
    (hadv : ∀ th1 th2 s, advance (withTh th1 th2 s) = withTh th1 th2 (advance s))
    {r : Except SpdmStatus Bytes} : HashBlind (countDecoded p advance secured r) := by
  cases r with
  | ok app =>
    refine .seq (blind_update fun th1 th2 s => ?_) fun _ => .ret rfl
    rw [hadv]
    rfl
  | error e =>
    refine .seq ?_ fun _ => .fail _
    split_ifs
    · exact .ret rfl
    · exact blind_update hadv

end

theorem blind_encodeSpdmSecuredMessage (config : Config) (app : Bytes) (room : Nat) (q : Bool) :
    HashBlind (encodeSpdmSecuredMessage config app room q) := by
  refine blind_read (fun _ _ _ => rfl) fun s => .seq (.tried ?_) fun r =>
    .seq ?_ fun _ => blind_tearDownOnOverflow r
  · split_ifs
    · exact .fail _
    · exact blind_encodeMsg
  · cases r with
    | ok out =>
      refine blind_update fun th1 th2 s => ?_
      rw [advanceDirection_withTh]
      rfl
    | error e => exact .ret rfl

theorem blind_openEstablishedResponse :
    HashBlind (openEstablishedResponse config secured room) := by
  refine blind_read (fun _ _ _ => rfl) fun s => .seq (.tried blind_decodeMsg) fun r => ?_
  split_ifs
  · exact .seq (.tried blind_decodeMsg) fun _ =>
      blind_countDecoded (show ∀ th1 th2 s, advanceBackup (withTh th1 th2 s) =
        _ from fun _ _ _ => rfl)
  · exact blind_countDecoded (advanceDirection_withTh false)

theorem blind_openDirection {q : Bool} :
    HashBlind (openDirection config secured room q) :=
  blind_read (fun _ _ _ => rfl) fun _ => .seq (.tried blind_decodeMsg) fun _ =>
    blind_countDecoded (advanceDirection_withTh q)

theorem blind_decodeSpdmSecuredMessage (config : Config) (secured : Bytes) (room : Nat) (q : Bool) :
    HashBlind (decodeSpdmSecuredMessage config secured room q) := by
  refine blind_read (fun _ _ _ => rfl) fun s => .seq (.tried ?_) fun r => blind_tearDownOnOverflow r
  cases s.sessionState <;> cases q
  · exact .fail _
  · exact .fail _
  · exact blind_openDirection
  · exact blind_openDirection
  · exact blind_openEstablishedResponse
  · exact blind_openDirection

omit [Crypto] in
theorem blind_setup (id : Nat) : HashBlind (setup id) :=
  blind_read (fun _ _ _ => rfl) fun _ => .seq (.assert _) fun _ => blind_update fun _ _ _ => rfl

end SpdmSession

open SpdmSession in
theorem SessionOp.blind_run [Crypto] (op : SessionOp) :
    HashBlind op.run := by
  have doing {m : Prog SpdmSession SpdmStatus Unit} (h : HashBlind m) :
      HashBlind (SpdmSession.doing m) := .seq h fun _ => .ret rfl
  have returning {m : Prog SpdmSession SpdmStatus Bytes} (h : HashBlind m) :
      HashBlind (SpdmSession.returning m) := .seq h fun _ => .ret rfl
  cases op with
  | teardown => exact doing (blind_update fun _ _ _ => rfl)
  | setup id => exact doing (blind_setup id)
  | setUsePsk b => exact doing (blind_update fun _ _ _ => rfl)
  | setMutAuthRequested m => exact doing (blind_update fun _ _ _ => rfl)
  | setCryptoParam p => exact doing (blind_update fun _ _ _ => rfl)
  | setTransportParam n m => exact doing (blind_update fun _ _ _ => rfl)
  | setSessionState st => exact doing (blind_update fun _ _ _ => rfl)
  | setRuntimeInfo r => exact doing (blind_update fun _ _ _ => rfl)
  | setApplicationSecret a => exact doing (blind_update fun _ _ _ => rfl)
  | getApplicationSecret => exact blind_read (fun _ _ _ => rfl) fun _ => .ret rfl
  | setSharedSecret v b => exact doing (blind_setSharedSecret v b)
  | generateHandshakeSecret v th => exact doing (blind_generateHandshakeSecret v th)
  | generateDataSecret v th => exact doing (blind_generateDataSecret v th)
  | createDataSecretUpdate v q p => exact doing (blind_createDataSecretUpdate v q p)
  | activateDataSecretUpdate q p n =>
    exact doing (blind_update (activateDataSecretUpdate_withTh q p n))
  | encode config app room q => exact returning (blind_encodeSpdmSecuredMessage config app room q)
  | decode config secured room q =>
    exact returning (blind_decodeSpdmSecuredMessage config secured room q)

namespace SpdmSession

variable [Crypto]

theorem results_eq_of_sameButTh (ops : List SessionOp) {s t : SpdmSession} (h : SameButTh s t) :
    results ops t = results ops s := by
  induction ops generalizing s t with
  | nil => rfl
  | cons op ops ih =>
    have hrun := op.blind_run s t h
    unfold results
    cases hs : op.run s <;> cases ht : op.run t <;> rw [hs, ht] at hrun <;> try exact hrun.elim
    · simp only [hrun.1, ih hrun.2]
    · simp only [hrun.1, ih hrun.2]

/-! ## §3. Reuse. -/

def reused (id : Nat) (s : SpdmSession) : SpdmSession := { s.setDefault with sessionId := id }

theorem results_reuse (s : SpdmSession) (id : Nat) (ops : List SessionOp) :
    results (.teardown :: .setup id :: ops) s =
      some (.ok .done) :: some (.ok .done) :: results ops (reused id s) := rfl

theorem results_new (id : Nat) (ops : List SessionOp) :
    results (.setup id :: ops) {} = some (.ok .done) :: results ops { sessionId := id } := rfl

def markedSecret : SpdmSessionApplicationSecret :=
    { requestDataSecret := [1], responseDataSecret := [1] }

def rollbackProbe (q p : Bool) : List SessionOp :=
  [.setApplicationSecret markedSecret, .activateDataSecretUpdate q p false, .getApplicationSecret]

theorem flags_of_like_new {s : SpdmSession} {id : Nat}
    (h : ∀ ops, results ops (reused id s) = results ops { sessionId := id }) :
    s.requesterBackupValid = false ∧ s.responderBackupValid = false := by
  constructor
  · by_contra hflag
    rw [Bool.not_eq_false] at hflag
    have hprobe := h (rollbackProbe true false)
    simp [rollbackProbe, results, SessionOp.run, doing, bind_apply, reused, setDefault, hflag,
      activateDataSecretUpdate, applyWhen, restoreRequester, setRequestDataSecret,
      setRequestDirection, markedSecret] at hprobe
  · by_contra hflag
    rw [Bool.not_eq_false] at hflag
    have hprobe := h (rollbackProbe false true)
    simp [rollbackProbe, results, SessionOp.run, doing, bind_apply, reused, setDefault, hflag,
      activateDataSecretUpdate, applyWhen, restoreResponder, setResponseDataSecret,
      setResponseDirection, markedSecret] at hprobe

/-- **Reuse of a slot.**  Whatever a slot went through, after `teardown` and
`setup` it gives the results of a new session, on every sequence of later
operations, exactly when no key update was pending at its teardown. -/
theorem reuse_like_new_iff (s : SpdmSession) (id : Nat) :
    (∀ ops, (results (.teardown :: .setup id :: ops) s).tail = results (.setup id :: ops) {}) ↔
      s.requesterBackupValid = false ∧ s.responderBackupValid = false := by
  simp only [results_reuse, results_new, List.tail_cons, List.cons.injEq, true_and]
  refine ⟨flags_of_like_new, fun ⟨hreq, hrsp⟩ ops => ?_⟩
  have hth : reused id s = withTh s.th1 s.th2 { sessionId := id } := by
    simp [reused, setDefault, withTh, hreq, hrsp]
  exact results_eq_of_sameButTh ops ⟨_, _, hth⟩

end SpdmSession

/-! ## §4. A pending update. -/

namespace SmallBackend

open SpdmSession

def enterDataPhase : List SessionOp :=
  [.setCryptoParam (smallSession 0 0 0).cryptoParam, .setTransportParam 0 0,
    .setApplicationSecret (smallSession 0 0 0).applicationSecret, .setSessionState .established]

def pendingHistory : List SessionOp :=
  .setup 0xFFFDFFFD :: enterDataPhase ++ [.createDataSecretUpdate .spdmVersion12 true true]

def firstMessage : Bytes :=
  match encodeSpdmSecuredMessage smallConfig [5] 200 false (smallSession 0 0 0) with
  | .ok m _ => m
  | _ => []

def spoiltThenFirst : List SessionOp :=
  enterDataPhase ++ [.decode smallConfig (firstMessage.dropLast ++ [1]) 200 false,
    .decode smallConfig firstMessage 200 false]

theorem pending_update_survives_reuse :
    (results (pendingHistory ++ .teardown :: .setup 0xFFFDFFFD :: spoiltThenFirst) {}).drop 13 =
        [some (.ok (.message [5]))] ∧
      (results (.setup 0xFFFDFFFD :: spoiltThenFirst) {}).drop 6 =
        [some (.error .cryptoError)] := by
  decide +kernel

end SmallBackend

end Spdm
