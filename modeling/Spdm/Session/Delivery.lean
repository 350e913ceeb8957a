/-
  Spdm.Session.Delivery — what one party seals, the other opens.
-/
import Spdm.Session.Steps

namespace Spdm

open Effect Codec

variable {config : Config} {app out : Bytes} {room : Nat} {p : SpdmSessionSecretParam}
    {s s' t : SpdmSession} {requester : Bool}

structure CorrectAead [Crypto] : Prop where
  opens : ∀ {algo : Flags} {key nonce aad plain cipher tag : Bytes},
    aeadEncrypt algo key nonce aad plain = .ok (cipher, tag) →
    aeadDecrypt algo key nonce aad cipher tag = .ok plain

namespace SpdmSession

variable [Crypto]

/-! ## §1. Under one key. -/

omit [Crypto] in
theorem aadBytes_length (id count seq length : Nat) :
    (aadBytes id count seq length).length = 6 + count := by
  simp [aadBytes, seqPrefix]
  omega

structure Sealed (app : Bytes) (p : SpdmSessionSecretParam) (s : SpdmSession) (out : Bytes)
    (cipher tag : Bytes) : Prop where
  tagSize : SpdmAeadAlgo.tagSize? s.cryptoParam.aeadAlgo = some tag.length
  counter : (p.sequenceNumber != maxSequenceNumber) = true
  aadSize : 6 + s.transportParam.sequenceNumberCount ≤ aadBufferSize
  encrypted : aeadEncrypt s.cryptoParam.aeadAlgo p.encryptionKey p.nonce
    (aadBytes s.sessionId s.transportParam.sequenceNumberCount p.sequenceNumber
      (app.length + 2 + tag.length)) (leBytes 2 app.length ++ app) = .ok (cipher, tag)
  cipherSize : cipher.length = app.length + 2
  out_eq : out = aadBytes s.sessionId s.transportParam.sequenceNumberCount p.sequenceNumber
    (app.length + 2 + tag.length) ++ cipher ++ tag

theorem encodeMsg_eq_ok
    (h : encodeMsg config app room p s = .ok out s') :
    ∃ cipher tag, Sealed app p s out cipher tag := by
  unfold encodeMsg at h
  rw [read_bind] at h
  obtain ⟨tagSize, _, htag, h₁⟩ := bind_eq_ok.1 h
  obtain ⟨htagSize, rfl⟩ := orAbort_eq_ok.1 htag
  obtain ⟨_, _, hcounter, h₂⟩ := bind_eq_ok.1 h₁
  obtain ⟨hcount, rfl⟩ := guardElse_eq_ok.1 hcounter
  obtain ⟨_, _, haad, h₃⟩ := bind_eq_ok.1 h₂
  obtain ⟨hguard, rfl⟩ := guardElse_eq_ok.1 haad
  have haadSize := of_decide_eq_true hguard
  obtain ⟨_, _, hplain, h₄⟩ := bind_eq_ok.1 h₃
  obtain ⟨_, _, hroom, h₅⟩ := bind_eq_ok.1 h₄
  obtain ⟨⟨cipher, tag⟩, _, hencrypt, h₆⟩ := bind_eq_ok.1 h₅
  obtain ⟨hencrypted, rfl⟩ := liftResult_eq_ok.1 hencrypt
  obtain ⟨_, _, hsizes, h₇⟩ := bind_eq_ok.1 h₆
  obtain ⟨hsize, rfl⟩ := assert_eq_ok.1 hsizes
  obtain ⟨htaglen, hcipherlen⟩ := Bool.and_eq_true_iff.1 hsize
  obtain rfl := beq_iff_eq.1 htaglen
  rw [aadBytes_length] at haadSize
  obtain ⟨_, _, hwhole, hret⟩ := bind_eq_ok.1 h₇
  obtain ⟨rfl, -⟩ := ret_eq_ok.1 hret
  exact ⟨cipher, tag, htagSize, hcount, haadSize, hencrypted, beq_iff_eq.1 hcipherlen, rfl⟩

def encryption (app : Bytes) (p : SpdmSessionSecretParam) (s : SpdmSession) :
    Except SpdmStatus (Bytes × Bytes) :=
  aeadEncrypt s.cryptoParam.aeadAlgo p.encryptionKey p.nonce
    (aadBytes s.sessionId s.transportParam.sequenceNumberCount p.sequenceNumber
      (app.length + 2 + 16)) (leBytes 2 app.length ++ app)

structure SealsSafely (config : Config) (app : Bytes) (room : Nat) (p : SpdmSessionSecretParam)
    (s : SpdmSession) : Prop where
  cipher : SpdmAeadAlgo.tagSize? s.cryptoParam.aeadAlgo = some 16
  counter : p.sequenceNumber ≠ maxSequenceNumber
  plain : 6 + s.transportParam.sequenceNumberCount ≤ aadBufferSize →
    app.length + 2 ≤ config.senderBufferSize ∧
      6 + s.transportParam.sequenceNumberCount + (app.length + 2) ≤ room
  record : 6 + s.transportParam.sequenceNumberCount ≤ aadBufferSize →
    encryption app p s ≠ .error .sequenceNumberOverflow ∧
      ∀ cipher tag, encryption app p s = .ok (cipher, tag) →
        cipher.length = app.length + 2 ∧ tag.length = 16 ∧
        6 + s.transportParam.sequenceNumberCount + (app.length + 2) + 16 ≤ room

theorem sealsSafely_iff : SealsSafely config app room p s ↔
    encodeMsg config app room p s ≠ .panic ∧
      encodeMsg config app room p s ≠ .err .sequenceNumberOverflow s := by
  unfold encodeMsg
  rw [read_bind]
  cases htag : SpdmAeadAlgo.tagSize? s.cryptoParam.aeadAlgo with
  | none =>
    exact iff_of_false (fun h => by rw [h.cipher] at htag; cases htag) fun h => h.1 rfl
  | some n =>
    obtain rfl := SpdmAeadAlgo.eq_of_tagSize? htag
    rw [orAbort, ret_bind, bind_apply]
    by_cases hseq : p.sequenceNumber = maxSequenceNumber
    · rw [hseq]
      exact iff_of_false (fun h => h.counter hseq) fun h => h.2 rfl
    rw [guardElse_of (bne_iff_ne.2 hseq)]
    dsimp only
    rw [bind_apply]
    by_cases haad : 6 + s.transportParam.sequenceNumberCount ≤ aadBufferSize
    swap
    · rw [aadBytes_length, decide_eq_false haad]
      exact iff_of_true ⟨htag, hseq, fun h => absurd h haad, fun h => absurd h haad⟩
        ⟨(fun h => by cases h), fun h => by cases h⟩
    rw [aadBytes_length, guardElse_of (decide_eq_true haad)]
    dsimp only
    by_cases hplain : app.length + 2 ≤ config.senderBufferSize
    swap
    · rw [decide_eq_false hplain]
      exact iff_of_false (fun h => hplain (h.plain haad).1) fun h => h.1 rfl
    by_cases hroom : 6 + s.transportParam.sequenceNumberCount + (app.length + 2) ≤ room
    swap
    · rw [decide_eq_true hplain, decide_eq_false hroom]
      exact iff_of_false (fun h => hroom (h.plain haad).2) fun h => h.1 rfl
    rw [decide_eq_true hplain, decide_eq_true hroom, assert, if_pos rfl, ret_bind, ret_bind,
      ← encryption]
    have hiff : SealsSafely config app room p s ↔ _ :=
      ⟨fun h => h.record haad, fun h => ⟨htag, hseq, fun _ => ⟨hplain, hroom⟩, fun _ => h⟩⟩
    rw [hiff]
    cases encryption app p s with
    | error e =>
      rw [bind_of_err (show liftResult (.error e) s = .err e s from rfl)]
      simp
    | ok r =>
      obtain ⟨cipher, tag⟩ := r
      rw [liftResult, ret_bind, bind_apply]
      dsimp only
      by_cases hsizes : tag.length = 16 ∧ cipher.length = app.length + 2
      swap
      · rw [assert, if_neg (by simpa using hsizes)]
        exact iff_of_false (fun h => hsizes ⟨(h.2 cipher tag rfl).2.1, (h.2 cipher tag rfl).1⟩)
          fun h => h.1 rfl
      rw [assert_of (by simpa using hsizes)]
      dsimp only
      by_cases hwhole : 6 + s.transportParam.sequenceNumberCount + (app.length + 2) + 16 ≤ room
      · rw [decide_eq_true hwhole]
        exact iff_of_true ⟨(fun h => by cases h), fun _ _ h => by
            cases h
            exact ⟨hsizes.2, hsizes.1, hwhole⟩⟩
          ⟨(fun h => by cases h), fun h => by cases h⟩
      · rw [decide_eq_false hwhole]
        exact iff_of_false (fun h => hwhole (h.2 cipher tag rfl).2.2) fun h => h.1 rfl

def recordOf (app : Bytes) (p : SpdmSessionSecretParam) (s : SpdmSession) (cipher tag : Bytes) :
    Bytes :=
  aadBytes s.sessionId s.transportParam.sequenceNumberCount p.sequenceNumber
    (app.length + 2 + 16) ++ cipher ++ tag

theorem SealsSafely.encodeMsg_eq_ok_iff (h : SealsSafely config app room p s) :
    encodeMsg config app room p s = .ok out s ↔ ∃ cipher tag,
      6 + s.transportParam.sequenceNumberCount ≤ aadBufferSize ∧
      encryption app p s = .ok (cipher, tag) ∧ out = recordOf app p s cipher tag := by
  constructor
  · intro hencode
    obtain ⟨cipher, tag, hsealed⟩ := encodeMsg_eq_ok hencode
    have hsixteen := SpdmAeadAlgo.eq_of_tagSize? hsealed.tagSize
    refine ⟨cipher, tag, hsealed.aadSize, ?_, ?_⟩
    · rw [encryption, ← hsixteen]
      exact hsealed.encrypted
    · rw [recordOf, ← hsixteen]
      exact hsealed.out_eq
  · rintro ⟨cipher, tag, haad, hencrypted, rfl⟩
    obtain ⟨hplain, hroom⟩ := h.plain haad
    obtain ⟨hcipher, htag, hwhole⟩ := (h.record haad).2 cipher tag hencrypted
    unfold encodeMsg
    rw [read_bind, h.cipher, orAbort, ret_bind, bind_of_ok (guardElse_of (bne_iff_ne.2 h.counter)),
      aadBytes_length, bind_of_ok (guardElse_of (decide_eq_true haad)),
      bind_of_ok (assert_of (decide_eq_true hplain)), bind_of_ok (assert_of (decide_eq_true hroom)),
      ← encryption, hencrypted, liftResult, ret_bind]
    dsimp only
    rw [hcipher, htag, bind_of_ok (assert_of (by simp)),
      bind_of_ok (assert_of (by simpa using hwhole))]
    rfl

/-- A message of this size fits the length fields and the buffers of the
party that opens it. -/
structure FitsSealed (config : Config) (room : Nat) (app : Bytes) : Prop where
  field : app.length + 2 + 16 < 2 ^ 16
  plain : app.length + 2 ≤ config.receiverBufferSize
  room : app.length ≤ room

omit [Crypto] in
theorem parseAad_aadBytes {id count seq length : Nat} (hid : id < 2 ^ 32)
    (hlength : length < 2 ^ 16)
    (rest : Bytes) :
    parseAad id count seq (aadBytes id count seq length ++ rest) = .ok length rest := by
  have hseq : (seqPrefix count seq).length = count := by simp [seqPrefix]
  unfold parseAad aadBytes
  rw [List.append_assoc, List.append_assoc, bind_of_ok (uintLe_append _ hid), require,
    bind_of_ok (guardElse_of (beq_self_eq_true _)), bind_of_ok (takeBytes_append hseq), require,
    bind_of_ok (guardElse_of (beq_self_eq_true _)), uintLe_append _ hlength]

theorem decodeMsg_padded (haead : CorrectAead) {cipher tag : Bytes}
    (hsealed : Sealed app p s out cipher tag)
    (hid : t.sessionId = s.sessionId) (hid_lt : s.sessionId < 2 ^ 32)
    (halgo : t.cryptoParam.aeadAlgo = s.cryptoParam.aeadAlgo)
    (hcount : t.transportParam.sequenceNumberCount = s.transportParam.sequenceNumberCount)
    (hfits : FitsSealed config room app) (padding : Bytes) :
    decodeMsg config (out ++ padding) room p t = .ok app t := by
  obtain ⟨htag, hcounter, -, hencrypted, hcipher, rfl⟩ := hsealed
  obtain ⟨hfield, hplain, hroom⟩ := hfits
  have hsixteen := SpdmAeadAlgo.eq_of_tagSize? htag
  have haad := aadBytes_length s.sessionId s.transportParam.sequenceNumberCount p.sequenceNumber
    (app.length + 2 + tag.length)
  have hparse := @parseAad_aadBytes s.sessionId s.transportParam.sequenceNumberCount
    p.sequenceNumber (app.length + 2 + tag.length) hid_lt (by omega) (cipher ++ (tag ++ padding))
  have hdecrypt := haead.opens hencrypted
  have hlength : leNat ((leBytes 2 app.length ++ app).take 2) = app.length := by
    rw [List.take_left' (leBytes_length 2 _), leNat_leBytes_of_lt (by norm_num; omega)]
  have hdrop : (leBytes 2 app.length ++ app).drop 2 = app := List.drop_left' (leBytes_length 2 _)
  rw [List.append_assoc, List.append_assoc]
  unfold decodeMsg
  rw [read_bind, halgo, htag, bind_of_ok (orAbort_eq_ok.2 ⟨rfl, rfl⟩),
    bind_of_ok (guardElse_of hcounter), hid, hcount, hparse]
  generalize aadBytes s.sessionId s.transportParam.sequenceNumberCount p.sequenceNumber
    (app.length + 2 + tag.length) = aad at haad hdecrypt ⊢
  -- the parts of the packet are found where they were put
  have hfirst : (aad ++ (cipher ++ (tag ++ padding))).take
      (6 + s.transportParam.sequenceNumberCount) = aad := List.take_left' haad
  have hrest : (aad ++ (cipher ++ (tag ++ padding))).drop
      (6 + s.transportParam.sequenceNumberCount) = cipher ++ (tag ++ padding) :=
    List.drop_left' haad
  have hmiddle : (cipher ++ (tag ++ padding)).take (app.length + 2) = cipher :=
    List.take_left' hcipher
  have hlast : (aad ++ (cipher ++ (tag ++ padding))).drop
      (6 + s.transportParam.sequenceNumberCount + (app.length + 2)) = tag ++ padding := by
    rw [← List.drop_drop, hrest, List.drop_left' hcipher]
  have hsub : app.length + 2 + tag.length - tag.length = app.length + 2 := by omega
  rw [ret_bind, bind_of_ok (guardElse_of (decide_eq_true (by
      simp only [List.length_append, haad, hcipher]; omega))),
    bind_of_ok (guardElse_of (decide_eq_true (by omega))), hsub,
    bind_of_ok (assert_of (decide_eq_true hplain)), hfirst, hrest, hmiddle, hlast,
    List.take_left, hdecrypt, bind_of_ok (liftResult_eq_ok.2 ⟨rfl, rfl⟩), hlength, hdrop,
    bind_of_ok (guardElse_of (decide_eq_true (by simp; omega))),
    bind_of_ok (assert_of (decide_eq_true hroom)), List.take_length]
  rfl

/-! ## §2. Two sessions. -/

structure InStep (requester : Bool) (s t : SpdmSession) : Prop where
  sessionState : t.sessionState = s.sessionState
  sessionId : t.sessionId = s.sessionId
  sessionId_lt : s.sessionId < 2 ^ 32
  aeadAlgo : t.cryptoParam.aeadAlgo = s.cryptoParam.aeadAlgo
  counterSize : t.transportParam.sequenceNumberCount = s.transportParam.sequenceNumberCount
  direction : t.direction requester = s.direction requester

def afterOpen (requester : Bool) (secured app : Bytes) (t : SpdmSession) : SpdmSession :=
  (t.advanceDirection requester).recordOpen (t.direction requester) secured app

theorem decodeSpdmSecuredMessage_padded (haead : CorrectAead) {config' : Config} {room' : Nat}
    (hseal : encodeSpdmSecuredMessage config app room requester s = .ok out s')
    (hstep : InStep requester s t) (hfits : FitsSealed config' room' app) (padding : Bytes) :
    decodeSpdmSecuredMessage config' (out ++ padding) room' requester t =
      .ok app (t.afterOpen requester (out ++ padding) app) := by
  have hok := (wp_of_ok hseal).1 (encodeSpdmSecuredMessage_spec config app room requester s)
  obtain ⟨cipher, tag, hsealed⟩ := encodeMsg_eq_ok hok.encoded
  have hdecode : decodeMsg config' (out ++ padding) room' (t.direction requester) t =
    .ok app t := by
    rw [hstep.direction]
    exact decodeMsg_padded haead hsealed hstep.sessionId hstep.sessionId_lt hstep.aeadAlgo
      hstep.counterSize hfits padding
  generalize out ++ padding = secured at hdecode ⊢
  have hstarted : t.sessionState ≠ .notStarted := by
    rw [hstep.sessionState]
    exact hok.started
  have hcurrent : openDirection config' secured room' requester t =
      .ok app (t.afterOpen requester secured app) := by
    unfold openDirection
    rw [read_bind, bind_of_ok (attempt_of_ok hdecode)]
    rfl
  unfold decodeSpdmSecuredMessage
  rw [read_bind]
  cases hstate : t.sessionState with
  | notStarted => exact absurd hstate hstarted
  | handshaking =>
    rw [bind_of_ok (attempt_of_ok hcurrent)]
    rfl
  | established =>
    cases requester with
    | true =>
      rw [bind_of_ok (attempt_of_ok hcurrent)]
      rfl
    | false =>
      -- the current key opens it: the backup is not tried
      have hdirection : t.direction false = t.applicationSecret.responseDirection := by
        simp [SpdmSession.direction, hstate]
      rw [hdirection] at hdecode
      have hopen : openEstablishedResponse config' secured room' t =
          .ok app (t.afterOpen false secured app) := by
        unfold openEstablishedResponse afterOpen
        rw [read_bind, bind_of_ok (attempt_of_ok hdecode), hdirection]
        rfl
      rw [bind_of_ok (attempt_of_ok hopen)]
      rfl

end SpdmSession

end Spdm
