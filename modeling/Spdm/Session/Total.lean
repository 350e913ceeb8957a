/-
  Spdm.Session.Total — sealing and opening do not abort.
-/
import Spdm.Message.Total
import Spdm.Session.Steps

namespace Spdm

open Effect Codec

variable {config : Config} {room : Nat} {secured : Bytes}

structure SizedAead [Crypto] : Prop where
  seal_sizes : ∀ {algo : Flags} {key nonce aad plain cipher tag : Bytes} {tagSize : Nat},
    SpdmAeadAlgo.tagSize? algo = some tagSize →
    aeadEncrypt algo key nonce aad plain = .ok (cipher, tag) →
    cipher.length = plain.length ∧ tag.length = tagSize
  open_size : ∀ {algo : Flags} {key nonce aad cipher tag plain : Bytes},
    aeadDecrypt algo key nonce aad cipher tag = .ok plain → plain.length ≤ cipher.length

namespace SpdmSession

def Keyed (s : SpdmSession) : Prop :=
  s.sessionState ≠ .notStarted → ∃ n, SpdmAeadAlgo.tagSize? s.cryptoParam.aeadAlgo = some n

theorem total_parseAad {sessionId count seq : Nat} : Total (parseAad sessionId count seq) := by
  have hrequire : ∀ b, Total (require b) := fun b => by
    cases b <;> exact fun _ h => by cases h
  exact .bind (total_uintLe 4) fun _ => .bind (hrequire _) fun _ =>
    .bind (total_takeBytes _) fun _ => .bind (hrequire _) fun _ => total_uintLe 2

variable [Crypto] {s : SpdmSession}

def sealOverhead : Nat := 2 + aadBufferSize + 16

theorem twp_encodeMsg (haead : SizedAead) {n : Nat}
    (hs : SpdmAeadAlgo.tagSize? s.cryptoParam.aeadAlgo = some n) {app : Bytes}
    (hsender : app.length + sealOverhead ≤ config.senderBufferSize)
    (hroom : app.length + sealOverhead ≤ room) {p : SpdmSessionSecretParam} :
    twp (encodeMsg config app room p) (fun _ _ => True) (fun _ _ => True) s := by
  obtain rfl := SpdmAeadAlgo.eq_of_tagSize? hs
  unfold sealOverhead at hsender hroom
  refine twp_seq (twp_seq (twp_orAbort.2 ⟨16, hs, ?_⟩))
  refine twp_seq (twp_guardElse (fun _ => twp_seq (twp_guardElse (fun haad => ?_) trivial)) trivial)
  have hlen : (aadBytes s.sessionId s.transportParam.sequenceNumberCount p.sequenceNumber
      (app.length + 2 + 16)).length ≤ aadBufferSize := by simpa using haad
  refine twp_seq (twp_assert.2 ⟨decide_eq_true (by omega), ?_⟩)
  refine twp_seq (twp_assert.2 ⟨decide_eq_true (by omega), ?_⟩)
  refine twp_seq (twp_liftResult (fun ⟨cipher, tag⟩ hseal => ?_) fun _ _ => trivial)
  obtain ⟨hcipher, htag⟩ := haead.seal_sizes hs hseal
  have hsize : cipher.length = app.length + 2 := by
    rw [hcipher]
    simp [Nat.add_comm]
  refine twp_seq (twp_assert.2 ⟨by simp [htag, hsize], ?_⟩)
  refine twp_seq (twp_assert.2 ⟨?_, trivial⟩)
  simp only [Bool.and_eq_true, decide_eq_true_eq, beq_self_eq_true, and_true]
  omega

theorem twp_decodeMsg (haead : SizedAead) {n : Nat}
    (hs : SpdmAeadAlgo.tagSize? s.cryptoParam.aeadAlgo = some n)
    (hreceiver : secured.length ≤ config.receiverBufferSize)
    (hroom : secured.length ≤ room) (p : SpdmSessionSecretParam) :
    twp (decodeMsg config secured room p) (fun _ _ => True) (fun _ _ => True) s := by
  refine twp_seq (twp_seq (twp_orAbort.2 ⟨n, hs, ?_⟩))
  refine twp_seq (twp_guardElse (fun _ => twp_seq ?_) trivial)
  cases hparse : parseAad s.sessionId s.transportParam.sequenceNumberCount p.sequenceNumber
      secured with
  | panic => exact absurd hparse (total_parseAad _)
  | err e left => exact trivial
  | ok length left =>
    refine twp_seq (twp_guardElse (fun hlen => twp_seq (twp_guardElse (fun htag => ?_) trivial))
      trivial)
    have hlen' := of_decide_eq_true hlen
    refine twp_seq (twp_assert.2 ⟨decide_eq_true (by omega), ?_⟩)
    refine twp_seq (twp_liftResult (fun plain hopen => ?_) fun _ _ => trivial)
    have hplain := haead.open_size hopen
    rw [List.length_take] at hplain
    refine twp_seq (twp_guardElse (fun happ => ?_) trivial)
    have happ' := of_decide_eq_true happ
    exact twp_seq (twp_assert.2 ⟨decide_eq_true (by omega), trivial⟩)

omit [Crypto] in
theorem twp_tearDownOnOverflow {α : Type} (r : Except SpdmStatus α) {t : SpdmSession} :
    twp (tearDownOnOverflow r) (fun _ _ => True) (fun _ _ => True) t := by
  cases r with
  | ok a => exact trivial
  | error e => exact twp_seq (twp_ite (fun _ => trivial) fun _ => trivial)

omit [Crypto] in
theorem twp_countDecoded {p : SpdmSessionSecretParam} {advance : SpdmSession → SpdmSession}
    {r : Except SpdmStatus Bytes} {t : SpdmSession} :
    twp (countDecoded p advance secured r) (fun _ _ => True) (fun _ _ => True) t := by
  cases r with
  | ok app => exact trivial
  | error e => exact twp_seq (twp_ite (fun _ => trivial) fun _ => trivial)

theorem twp_encodeSpdmSecuredMessage (haead : SizedAead) (hs : Keyed s)
    {app : Bytes} (hsender : app.length + sealOverhead ≤ config.senderBufferSize)
    (hroom : app.length + sealOverhead ≤ room) (isRequester : Bool) :
    twp (encodeSpdmSecuredMessage config app room isRequester) (fun _ _ => True)
      (fun _ _ => True) s := by
  refine twp_seq (twp_seq (twp_attempt.2 (twp_mono (Q := fun _ _ => True)
    (E := fun _ _ => True) ?_ (fun a t _ => ?_) fun e t _ => ?_)))
  · refine twp_ite (fun _ => trivial) fun hstarted => ?_
    obtain ⟨n, hn⟩ := hs hstarted
    exact twp_encodeMsg haead hn hsender hroom
  · exact twp_seq (twp_update.2 (twp_tearDownOnOverflow (.ok a)))
  · exact twp_seq (twp_ret.2 (twp_tearDownOnOverflow (.error e)))

theorem twp_decodeSpdmSecuredMessage (haead : SizedAead) (hs : Keyed s)
    (hreceiver : secured.length ≤ config.receiverBufferSize)
    (hroom : secured.length ≤ room) (isRequester : Bool) :
    twp (decodeSpdmSecuredMessage config secured room isRequester) (fun _ _ => True)
      (fun _ _ => True) s := by
  refine twp_seq (twp_seq (twp_attempt.2 (twp_mono (Q := fun _ _ => True)
    (E := fun _ _ => True) ?_ (fun a t _ => ?_) fun e t _ => ?_)))
  · have hmsg : s.sessionState ≠ .notStarted → ∀ p,
        twp (decodeMsg config secured room p) (fun _ t => t = s) (fun _ t => t = s) s := by
      intro hstarted p
      obtain ⟨n, hn⟩ := hs hstarted
      exact twp_of_wp (decodeMsg_still config secured room p s)
        (twp_decodeMsg haead hn hreceiver hroom p).ne_panic
    have hone : s.sessionState ≠ .notStarted →
        twp (openDirection config secured room isRequester) (fun _ _ => True) (fun _ _ => True) s :=
      fun hstarted => twp_seq (twp_seq (twp_attempt.2 (twp_mono (hmsg hstarted _)
        (fun _ _ _ => twp_countDecoded) fun _ _ _ => twp_countDecoded)))
    have htwo : s.sessionState ≠ .notStarted →
        twp (openEstablishedResponse config secured room) (fun _ _ => True)
          (fun _ _ => True) s := by
      intro hstarted
      -- the backup key is tried in the session the first attempt left, which is the same
      have hrest : ∀ r : Except SpdmStatus Bytes, twp (
          if refusedByCipher r && s.responderBackupValid then do
            let rBackup ← attempt (decodeMsg config secured room
              s.applicationSecretBackup.responseDirection)
            countDecoded s.applicationSecretBackup.responseDirection advanceBackup secured rBackup
          else countDecoded s.applicationSecret.responseDirection (advanceDirection false)
            secured r)
          (fun _ _ => True) (fun _ _ => True) s := fun r => by
        refine twp_ite (fun _ => twp_seq (twp_attempt.2 ?_)) fun _ => twp_countDecoded
        exact twp_mono (hmsg hstarted _) (fun _ _ _ => twp_countDecoded)
          fun _ _ _ => twp_countDecoded
      refine twp_seq (twp_seq (twp_attempt.2 (twp_mono (hmsg hstarted _)
        (fun a t ht => ?_) fun e t ht => ?_)))
      · exact hrest (.ok a)
      · subst ht
        exact hrest (.error e)
    cases hstate : s.sessionState with
    | notStarted => exact trivial
    | handshaking => exact hone (by simp [hstate])
    | established =>
      cases isRequester with
      | true => exact hone (by simp [hstate])
      | false => exact htwo (by simp [hstate])
  · exact twp_tearDownOnOverflow (.ok a)
  · exact twp_tearDownOnOverflow (.error e)

end SpdmSession

end Spdm
