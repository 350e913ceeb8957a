/-
  Spdm.Session.Steps — what sealing and opening do to a session, said once.
-/
import Spdm.Context.Steps

namespace Spdm

open Effect Codec

variable {s : SpdmSession} {secured : Bytes}

namespace SpdmSession

variable [Crypto]

/-! ## §1. Under one key the session does not change. -/

theorem encodeMsg_still (config : Config) (app : Bytes) (room : Nat) (p : SpdmSessionSecretParam) :
    Within (fun s t => t = s) (encodeMsg config app room p) :=
  .bind .read fun _ => .bind (.orAbort _) fun _ => .bind (.guardElse _ _) fun _ =>
    .bind (.guardElse _ _) fun _ => .bind (.assert _) fun _ => .bind (.assert _) fun _ =>
    .bind within_liftResult fun _ => .bind (.assert _) fun _ => .bind (.assert _) fun _ => .ret _

theorem decodeMsg_still (config : Config) (secured : Bytes) (room : Nat)
    (p : SpdmSessionSecretParam) :
    Within (fun s t => t = s) (decodeMsg config secured room p) := by
  refine .bind .read fun s => .bind (.orAbort _) fun _ => .bind (.guardElse _ _) fun _ =>
    .bind ?_ fun _ => .bind (.guardElse _ _) fun _ => .bind (.guardElse _ _) fun _ =>
    .bind (.assert _) fun _ => .bind within_liftResult fun _ => .bind (.guardElse _ _) fun _ =>
    .bind (.assert _) fun _ => .ret _
  cases parseAad s.sessionId s.transportParam.sequenceNumberCount p.sequenceNumber secured with
  | ok n _ => exact .ret _
  | err _ _ => exact .fail _
  | panic => exact .abort

/-! ## §2. How the calls end. -/

structure SealOk (config : Config) (app : Bytes) (room : Nat) (requester : Bool) (s : SpdmSession)
    (out : Bytes) (t : SpdmSession) : Prop where
  started : s.sessionState ≠ .notStarted
  encoded : encodeMsg config app room (s.direction requester) s = .ok out s
  after : t = (s.advanceDirection requester).recordSeal requester (s.direction requester) app

inductive OpenOk (config : Config) (secured : Bytes) (room : Nat) (requester : Bool)
    (s : SpdmSession) (app : Bytes) : SpdmSession → Prop
  | current (started : s.sessionState ≠ .notStarted)
      (decoded : decodeMsg config secured room (s.direction requester) s = .ok app s) :
      OpenOk config secured room requester s app
        ((s.advanceDirection requester).recordOpen (s.direction requester) secured app)
  | backup (hreq : requester = false) (established : s.sessionState = .established)
      (valid : s.responderBackupValid = true)
      (refused : decodeMsg config secured room s.applicationSecret.responseDirection s =
        .err .cryptoError s)
      (decoded : decodeMsg config secured room s.applicationSecretBackup.responseDirection s =
        .ok app s) :
      OpenOk config secured room requester s app
        (s.advanceBackup.recordOpen s.applicationSecretBackup.responseDirection secured app)

inductive Refused (requester : Bool) (s : SpdmSession) : SpdmSession → Prop
  | idle (h : s.sessionState = .notStarted) : Refused requester s s
  | current (h : s.sessionState ≠ .notStarted) : Refused requester s (s.advanceDirection requester)
  | backup (hreq : requester = false) (h : s.sessionState = .established)
      (valid : s.responderBackupValid = true) : Refused requester s s.advanceBackup

inductive OpenErr (requester : Bool) (s : SpdmSession) : SpdmSession → Prop
  | idle (h : s.sessionState = .notStarted) : OpenErr requester s s
  | current (h : s.sessionState ≠ .notStarted) : OpenErr requester s (s.advanceDirection requester)
  | backup (hreq : requester = false) (h : s.sessionState = .established)
      (valid : s.responderBackupValid = true) : OpenErr requester s s.advanceBackup
  | down : OpenErr requester s s.setDefault

omit [Crypto] in
theorem wp_tearDownOnOverflow {α : Type} {Q : α → SpdmSession → Prop}
    {E : SpdmStatus → SpdmSession → Prop} (r : Except SpdmStatus α) :
    wp (tearDownOnOverflow r) Q E s ↔ match r with
      | .ok a => Q a s
      | .error e => if e = .sequenceNumberOverflow then E e s.setDefault else E e s := by
  cases r with
  | ok a => rfl
  | error e =>
    unfold tearDownOnOverflow
    dsimp only
    split_ifs <;> rfl

theorem encodeMsg_cases (config : Config) (app : Bytes) (room : Nat)
    (p : SpdmSessionSecretParam) (s : SpdmSession) :
    (∃ out, encodeMsg config app room p s = .ok out s) ∨
      (∃ e, encodeMsg config app room p s = .err e s) ∨
      encodeMsg config app room p s = .panic := by
  have hstill := encodeMsg_still config app room p
  cases henc : encodeMsg config app room p s with
  | ok out t => exact .inl ⟨out, by rw [hstill.of_ok henc]⟩
  | err e t => exact .inr (.inl ⟨e, by rw [hstill.of_err henc]⟩)
  | panic => exact .inr (.inr rfl)

theorem decodeMsg_cases (config : Config) (secured : Bytes) (room : Nat)
    (p : SpdmSessionSecretParam) (s : SpdmSession) :
    (∃ app, decodeMsg config secured room p s = .ok app s) ∨
      (∃ e, decodeMsg config secured room p s = .err e s) ∨
      decodeMsg config secured room p s = .panic := by
  have hstill := decodeMsg_still config secured room p
  cases hdec : decodeMsg config secured room p s with
  | ok app t => exact .inl ⟨app, by rw [hstill.of_ok hdec]⟩
  | err e t => exact .inr (.inl ⟨e, by rw [hstill.of_err hdec]⟩)
  | panic => exact .inr (.inr rfl)

theorem encodeSpdmSecuredMessage_spec (config : Config) (app : Bytes) (room : Nat)
    (requester : Bool) (s : SpdmSession) :
    wp (encodeSpdmSecuredMessage config app room requester)
      (fun out t => SealOk config app room requester s out t)
      (fun _ t => t = s ∨ t = s.setDefault) s := by
  unfold encodeSpdmSecuredMessage
  simp only [wp_bind, wp_read, wp_attempt]
  split_ifs with hstate
  · simp [wp_tearDownOnOverflow]
  · obtain ⟨out, henc⟩ | ⟨e, henc⟩ | henc :=
      encodeMsg_cases config app room (s.direction requester) s
    · rw [wp_of_ok henc]
      exact ⟨hstate, henc, rfl⟩
    · rw [wp_of_err henc, wp_bind, wp_ret, wp_tearDownOnOverflow]
      dsimp only
      split_ifs <;> simp
    · exact wp_of_panic henc

theorem SealOk.encode {config : Config} {app record : Bytes} {room : Nat} {requester : Bool}
    {t : SpdmSession} (h : SealOk config app room requester s record t) :
    encodeSpdmSecuredMessage config app room requester s = .ok record t := by
  unfold encodeSpdmSecuredMessage
  rw [read_bind, if_neg h.started, bind_apply]
  simp only [attempt, h.encoded]
  rw [h.after]
  rfl

omit [Crypto] in
theorem wp_countDecoded {Q : Bytes → SpdmSession → Prop} {E : SpdmStatus → SpdmSession → Prop}
    {p : SpdmSessionSecretParam} {advance : SpdmSession → SpdmSession}
    {r : Except SpdmStatus Bytes} :
    wp (countDecoded p advance secured r) Q E s ↔ match r with
      | .ok app => Q app ((advance s).recordOpen p secured app)
      | .error e => if e = .sequenceNumberOverflow then E e s else E e (advance s) := by
  cases r with
  | ok a => rfl
  | error e =>
    unfold countDecoded
    dsimp only
    split_ifs <;> rfl

theorem openDirection_spec {config : Config} {room : Nat} {requester : Bool}
    (hstate : s.sessionState ≠ .notStarted) :
    wp (openDirection config secured room requester)
      (fun app t => OpenOk config secured room requester s app t)
      (fun e t => if e = .sequenceNumberOverflow then t = s else Refused requester s t) s := by
  unfold openDirection
  simp only [wp_bind, wp_read, wp_attempt]
  obtain ⟨app, hdec⟩ | ⟨e, hdec⟩ | hdec :=
    decodeMsg_cases config secured room (s.direction requester) s
  · rw [wp_of_ok hdec]
    exact .current hstate hdec
  · rw [wp_of_err hdec, wp_countDecoded]
    dsimp only
    split_ifs with he
    · rfl
    · exact .current hstate
  · exact wp_of_panic hdec

theorem openEstablishedResponse_spec {config : Config} {room : Nat}
    (hstate : s.sessionState = .established) :
    wp (openEstablishedResponse config secured room)
      (fun app t => OpenOk config secured room false s app t)
      (fun e t => if e = .sequenceNumberOverflow then t = s else Refused false s t) s := by
  have hdir : s.direction false = s.applicationSecret.responseDirection := by
    simp [direction, hstate]
  have hstarted : s.sessionState ≠ .notStarted := by simp [hstate]
  unfold openEstablishedResponse
  simp only [wp_bind, wp_read, wp_attempt]
  obtain ⟨app, hdec⟩ | ⟨e, hdec⟩ | hdec :=
    decodeMsg_cases config secured room s.applicationSecret.responseDirection s
  · -- accepted under the current key
    rw [wp_of_ok hdec]
    simp only [refusedByCipher, Bool.false_and, Bool.false_eq_true, if_false]
    rw [← hdir]
    exact .current hstarted (hdir ▸ hdec)
  · rw [wp_of_err hdec]
    split_ifs with hretry
    · -- refused by the cipher: the backup key is tried
      simp only [refusedByCipher, Bool.and_eq_true, beq_iff_eq] at hretry
      obtain ⟨rfl, hvalid⟩ := hretry
      simp only [wp_bind, wp_attempt]
      obtain ⟨app, hback⟩ | ⟨e', hback⟩ | hback :=
        decodeMsg_cases config secured room s.applicationSecretBackup.responseDirection s
      · rw [wp_of_ok hback]
        exact .backup rfl hstate hvalid hdec hback
      · rw [wp_of_err hback, wp_countDecoded]
        dsimp only
        split_ifs with he
        · rfl
        · exact .backup rfl hstate hvalid
      · exact wp_of_panic hback
    · rw [wp_countDecoded]
      dsimp only
      split_ifs with he
      · rfl
      · exact .current hstarted
  · exact wp_of_panic hdec

theorem decodeSpdmSecuredMessage_ends (config : Config) (secured : Bytes) (room : Nat)
    (requester : Bool) (s : SpdmSession) :
    wp (decodeSpdmSecuredMessage config secured room requester)
      (fun app t => OpenOk config secured room requester s app t)
      (fun e t => if e = .sequenceNumberOverflow then t = s.setDefault
        else Refused requester s t) s := by
  unfold decodeSpdmSecuredMessage
  simp only [wp_bind, wp_read, wp_attempt]
  -- an overflow tears the session down, whichever way the message was opened
  have hends : ∀ opened : Prog SpdmSession SpdmStatus Bytes,
      wp opened (fun app t => OpenOk config secured room requester s app t)
        (fun e t => if e = .sequenceNumberOverflow then t = s else Refused requester s t) s →
      wp opened
        (fun app t => wp (tearDownOnOverflow (.ok app))
          (fun app t => OpenOk config secured room requester s app t)
          (fun e t => if e = .sequenceNumberOverflow then t = s.setDefault
            else Refused requester s t) t)
        (fun e t => wp (tearDownOnOverflow (.error e))
          (fun app t => OpenOk config secured room requester s app t)
          (fun e t => if e = .sequenceNumberOverflow then t = s.setDefault
            else Refused requester s t) t) s := by
    intro opened hopened
    refine wp_mono hopened (fun app t hok => (wp_tearDownOnOverflow (.ok app)).2 hok)
      fun e t herr => ?_
    rw [wp_tearDownOnOverflow]
    dsimp only
    split_ifs at herr ⊢
    · rw [herr]
    · exact herr
  cases hstate : s.sessionState with
  | notStarted => exact hends _ (Refused.idle hstate)
  | handshaking => exact hends _ (openDirection_spec (by simp [hstate]))
  | established =>
    cases requester with
    | true => exact hends _ (openDirection_spec (by simp [hstate]))
    | false => exact hends _ (openEstablishedResponse_spec hstate)

theorem decodeSpdmSecuredMessage_spec (config : Config) (secured : Bytes) (room : Nat)
    (requester : Bool) (s : SpdmSession) :
    wp (decodeSpdmSecuredMessage config secured room requester)
      (fun app t => OpenOk config secured room requester s app t)
      (fun _ t => OpenErr requester s t) s := by
  refine wp_mono (decodeSpdmSecuredMessage_ends config secured room requester s)
    (fun _ _ hok => hok) fun e t herr => ?_
  split_ifs at herr
  · rw [herr]
    exact .down
  · cases herr with
    | idle h => exact .idle h
    | current h => exact .current h
    | backup hreq h valid => exact .backup hreq h valid

end SpdmSession

end Spdm
