/-
  Spdm.Session.Refused — what a packet that does not decode leaves behind (`common/session.rs`,
  `decode_spdm_secured_message`).
-/
import Spdm.Context.Small

namespace Spdm

open Effect Codec

namespace SpdmSession

/-! ## §1. Harmless packets. -/

structure SameSecrets (s t : SpdmSession) : Prop where
  handshake : t.handshakeSecret = s.handshakeSecret
  application : t.applicationSecret = s.applicationSecret
  backup : t.applicationSecretBackup = s.applicationSecretBackup

theorem advance_ne {p : SpdmSessionSecretParam} : p.advance ≠ p := by
  intro h
  have hcount := congrArg SpdmSessionSecretParam.sequenceNumber h
  rw [SpdmSessionSecretParam.advance_sequenceNumber] at hcount
  omega

theorem not_sameSecrets_advanceDirection (requester : Bool) (s : SpdmSession) :
    ¬ SameSecrets s (s.advanceDirection requester) := by
  rintro ⟨hhandshake, happlication, -⟩
  unfold advanceDirection at hhandshake happlication
  cases hstate : s.sessionState <;> cases requester <;> rw [hstate] at hhandshake happlication
  case established.true =>
    exact advance_ne (congrArg SpdmSessionApplicationSecret.requestDirection happlication)
  case established.false =>
    exact advance_ne (congrArg SpdmSessionApplicationSecret.responseDirection happlication)
  case notStarted.true | handshaking.true =>
    exact advance_ne (congrArg SpdmSessionHandshakeSecret.requestDirection hhandshake)
  case notStarted.false | handshaking.false =>
    exact advance_ne (congrArg SpdmSessionHandshakeSecret.responseDirection hhandshake)

theorem not_sameSecrets_advanceBackup (s : SpdmSession) : ¬ SameSecrets s s.advanceBackup := by
  rintro ⟨-, -, hbackup⟩
  exact advance_ne (congrArg SpdmSessionApplicationSecret.responseDirection hbackup)

variable [Crypto]

/-- A packet that led from `s` to `t` was harmless: the secrets are as
before, and what would have been accepted still is. -/
structure Harmless (config : Config) (room : Nat) (requester : Bool) (s t : SpdmSession) :
    Prop where
  secrets : SameSecrets s t
  accepts : ∀ secured app s',
    decodeSpdmSecuredMessage config secured room requester s = .ok app s' →
      ∃ t', decodeSpdmSecuredMessage config secured room requester t = .ok app t'

/-- **A refused packet is harmless exactly in a session that has not
started.**  The one error left out is that of a worn-out counter. -/
theorem harmless_iff (config : Config) (secured : Bytes) (room : Nat) (requester : Bool)
    (s t : SpdmSession) (e : SpdmStatus)
    (hrun : decodeSpdmSecuredMessage config secured room requester s = .err e t)
    (he : e ≠ .sequenceNumberOverflow) :
    Harmless config room requester s t ↔ s.sessionState = .notStarted := by
  have hends := wp_err (decodeSpdmSecuredMessage_ends config secured room requester s) hrun
  rw [if_neg he] at hends
  constructor
  · rintro ⟨hsecrets, -⟩
    cases hends with
    | idle h => exact h
    | current h => exact absurd hsecrets (not_sameSecrets_advanceDirection requester s)
    | backup _ _ _ => exact absurd hsecrets (not_sameSecrets_advanceBackup s)
  · intro hidle
    cases hends with
    | idle h => exact ⟨⟨rfl, rfl, rfl⟩, fun _ _ s' hok => ⟨s', hok⟩⟩
    | current h => exact absurd hidle h
    | backup _ h _ => rw [hidle] at h; cases h

end SpdmSession

/-! ## §2. One empty packet. -/

namespace SmallBackend

open SpdmSession

def nextFromRequester : Bytes :=
  match encodeSpdmSecuredMessage smallConfig [5] 200 true (smallSession 0 0 0) with
  | .ok m _ => m
  | _ => []

theorem harmless_notStarted :
    decodeSpdmSecuredMessage smallConfig nextFromRequester 200 true {} =
      .err .invalidStateLocal ({} : SpdmSession) ∧
    Harmless smallConfig 200 true ({} : SpdmSession) {} := by
  have hrun : decodeSpdmSecuredMessage smallConfig nextFromRequester 200 true {} =
      .err .invalidStateLocal ({} : SpdmSession) := rfl
  exact ⟨hrun, (harmless_iff _ _ _ _ _ _ _ hrun (by decide)).2 rfl⟩

theorem refused_packet_desynchronises :
    (decodeSpdmSecuredMessage smallConfig nextFromRequester 200 true
        (smallSession 0 0 0)).returned = some [5] ∧
      decodeSpdmSecuredMessage smallConfig [] 200 true (smallSession 0 0 0) =
        .err .decodeAeadFail (smallSession 0 1 0) ∧
      (decodeSpdmSecuredMessage smallConfig nextFromRequester 200 true
        (smallSession 0 1 0)).returned = none ∧
      ¬ Harmless smallConfig 200 true (smallSession 0 0 0) (smallSession 0 1 0) := by
  refine ⟨by decide +kernel, by decide +kernel, by decide +kernel, ?_⟩
  rintro ⟨⟨-, happlication, -⟩, -⟩
  exact absurd happlication (by decide +kernel)

end SmallBackend

end Spdm
