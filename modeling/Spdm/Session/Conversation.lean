/-
  Spdm.Session.Conversation — two sessions over a channel that loses nothing.
-/
import Spdm.Context.Small

namespace Spdm

open Effect Codec

/-! ## §1. Ends that agree. -/

namespace SpdmSession

/-- Two sessions agree on everything that keys and secured messages depend
on; backups, transcripts and histories are their own. -/
structure Agree (s t : SpdmSession) : Prop where
  same : t = { s with
    mutAuthRequested := t.mutAuthRequested
    applicationSecretBackup := t.applicationSecretBackup
    responderBackupValid := t.responderBackupValid
    requesterBackupValid := t.requesterBackupValid
    runtimeInfo := { t.runtimeInfo with pskHint := s.runtimeInfo.pskHint }
    th1 := t.th1
    th2 := t.th2
    heartbeatPeriod := t.heartbeatPeriod
    secureSpdmVersionSel := t.secureSpdmVersionSel
    sealed := t.sealed
    opened := t.opened }
  id_lt : s.sessionId < 2 ^ 32

variable {s t : SpdmSession}

theorem Agree.symm (h : Agree s t) : Agree t s := by
  obtain ⟨hsame, hlt⟩ := h
  exact ⟨by rw [hsame], by rw [hsame]; exact hlt⟩

theorem Agree.inStep (h : Agree s t) (requester : Bool) : InStep requester s t := by
  obtain ⟨hsame, hlt⟩ := h
  refine ⟨by rw [hsame], by rw [hsame], hlt, by rw [hsame], by rw [hsame], ?_⟩
  rw [hsame]
  rfl

theorem Agree.advance (h : Agree s t) (requester : Bool) :
    Agree (s.advanceDirection requester) (t.advanceDirection requester) := by
  obtain ⟨hsame, hlt⟩ := h
  refine ⟨?_, by simpa using hlt⟩
  rw [hsame]
  unfold advanceDirection
  cases s.sessionState <;> cases requester <;> rfl

/-! ## §2. Keys. -/

inductive KeyOp where
  | setSharedSecret (v : SpdmVersion) (sharedSecret : Bytes)
  | generateHandshakeSecret (v : SpdmVersion) (th1 : Bytes)
  | generateDataSecret (v : SpdmVersion) (th2 : Bytes)
  | createDataSecretUpdate (v : SpdmVersion) (updateRequester updateResponder : Bool)
  | activateDataSecretUpdate (updateRequester updateResponder : Bool)
  | setSessionState (st : SpdmSessionState)

variable [Crypto]

def KeyOp.run : KeyOp → Prog SpdmSession SpdmStatus Unit
  | setSharedSecret v secret => SpdmSession.setSharedSecret v secret
  | generateHandshakeSecret v th1 => SpdmSession.generateHandshakeSecret v th1
  | generateDataSecret v th2 => SpdmSession.generateDataSecret v th2
  | createDataSecretUpdate v q p => SpdmSession.createDataSecretUpdate v q p
  | activateDataSecretUpdate q p => update (SpdmSession.activateDataSecretUpdate q p true)
  | setSessionState st => update (SpdmSession.setSessionState st)

abbrev InTune {α : Type} (m : Prog SpdmSession SpdmStatus α) : Prop := Paired Agree (· = ·) m m

theorem inTune_keyOp (op : KeyOp) : InTune op.run := by
  have hderive : ∀ {α : Type} {d : Prog SpdmSession SpdmStatus (Option α)}, InTune d →
      InTune (do orFail SpdmStatus.cryptoError (← d)) := fun hd => .seq hd fun _ => .orFail _ _
  have hsecret : ∀ {a : Flags} {k : Nat → Option Bytes},
      InTune (SpdmBaseHashAlgo.getSize a >>= fun n => ret (k n)) :=
    .seq (.orAbort _) fun _ => .ret rfl
  have hkeyIv : ∀ {v : SpdmVersion} {hash aead : Flags} {secret : Bytes},
      InTune (deriveAeadKeyIv v hash aead secret) :=
    .seq (.orAbort _) fun _ => .seq (.orAbort _) fun _ => .ret rfl
  cases op with
  | setSharedSecret v secret =>
    exact .seq (.update fun _ _ h => ⟨by rw [h.same], h.id_lt⟩) fun _ =>
      .read_seq (fun _ _ h => by rw [h.same]) fun _ _ _ => .seq (hderive hsecret) fun _ =>
      .seq (hderive hsecret) fun _ => .update fun _ _ h => ⟨by rw [h.same], h.id_lt⟩
  | generateHandshakeSecret v th1 =>
    exact .read_seq (fun _ _ h => by rw [h.same]; rfl) fun _ _ _ =>
      .seq (hderive hsecret) fun _ => .seq (.update fun _ _ h => ⟨by rw [h.same], h.id_lt⟩) fun _ =>
      .seq (hderive hsecret) fun _ => .seq (.update fun _ _ h => ⟨by rw [h.same], h.id_lt⟩) fun _ =>
      .seq (hderive hsecret) fun _ => .seq (.update fun _ _ h => ⟨by rw [h.same], h.id_lt⟩) fun _ =>
      .seq (hderive hsecret) fun _ => .seq (.update fun _ _ h => ⟨by rw [h.same], h.id_lt⟩) fun _ =>
      .seq (hderive hkeyIv) fun _ => .seq (.update fun _ _ h => ⟨by rw [h.same], h.id_lt⟩) fun _ =>
      .seq (hderive hkeyIv) fun _ => .update fun _ _ h => ⟨by rw [h.same], h.id_lt⟩
  | generateDataSecret v th2 =>
    exact .read_seq (fun _ _ h => by rw [h.same]; rfl) fun _ _ _ =>
      .seq (hderive hsecret) fun _ => .seq (.update fun _ _ h => ⟨by rw [h.same], h.id_lt⟩) fun _ =>
      .seq (hderive hsecret) fun _ => .seq (.update fun _ _ h => ⟨by rw [h.same], h.id_lt⟩) fun _ =>
      .seq (hderive hkeyIv) fun _ => .seq (.update fun _ _ h => ⟨by rw [h.same], h.id_lt⟩) fun _ =>
      .seq (hderive hkeyIv) fun _ => .seq (.update fun _ _ h => ⟨by rw [h.same], h.id_lt⟩) fun _ =>
      .seq (hderive hsecret) fun _ => .update fun _ _ h => ⟨by rw [h.same], h.id_lt⟩
  | createDataSecretUpdate v q p =>
    refine .seq ?_ fun _ => ?_
    · cases q with
      | false => exact .ret rfl
      | true =>
        exact .seq (.update fun _ _ h => ⟨by rw [h.same]; rfl, h.id_lt⟩) fun _ =>
          .read_seq (fun _ _ h => by rw [h.same]) fun _ _ _ => .seq (hderive hsecret) fun _ =>
          .seq (.update fun _ _ h => ⟨by rw [h.same]; rfl, h.id_lt⟩) fun _ =>
          .seq (hderive hkeyIv) fun _ => .update fun _ _ h => ⟨by rw [h.same]; rfl, h.id_lt⟩
    · cases p with
      | false => exact .ret rfl
      | true =>
        exact .seq (.update fun _ _ h => ⟨by rw [h.same]; rfl, h.id_lt⟩) fun _ =>
          .read_seq (fun _ _ h => by rw [h.same]) fun _ _ _ => .seq (hderive hsecret) fun _ =>
          .seq (.update fun _ _ h => ⟨by rw [h.same]; rfl, h.id_lt⟩) fun _ =>
          .seq (hderive hkeyIv) fun _ => .update fun _ _ h => ⟨by rw [h.same]; rfl, h.id_lt⟩
  | activateDataSecretUpdate q p =>
    refine .update fun _ _ h => ⟨?_, ?_⟩
    · rw [h.same]
      cases q <;> cases p <;> rfl
    · cases q <;> cases p <;> exact h.id_lt
  | setSessionState st => exact .update fun _ _ h => ⟨by rw [h.same]; rfl, h.id_lt⟩

/-! ## §3. Conversations. -/

/-- What happens in a conversation: both ends work on their keys, or one of
them sends a message, with what the transport puts behind it. -/
inductive Event where
  | both (op : KeyOp)
  | message (fromRequester : Bool) (app padding : Bytes)

inductive Ending where
  | finished
  | stopped
  | apart
  deriving DecidableEq

def converse (config : Config) (room : Nat) :
    List Event → (Bool → SpdmSession) → List Bytes × Ending
  | [], _ => ([], .finished)
  | .both op :: events, ends =>
    match op.run (ends true), op.run (ends false) with
    | .ok _ s, .ok _ t => converse config room events fun side => if side then s else t
    | .err _ _, .err _ _ => ([], .stopped)
    | .panic, .panic => ([], .stopped)
    | _, _ => ([], .apart)
  | .message side app padding :: events, ends =>
    match encodeSpdmSecuredMessage config app room side (ends side) with
    | .ok out s =>
      match decodeSpdmSecuredMessage config (out ++ padding) room side (ends !side) with
      | .ok opened t =>
        let r := converse config room events fun j => if j = side then s else t
        (opened :: r.1, r.2)
      | _ => ([], .apart)
    | _ => ([], .stopped)

def said : List Event → List Bytes
  | [] => []
  | .both _ :: events => said events
  | .message _ app _ :: events => app :: said events

/-- What was heard is what was said so far, in this order, and the ends did
not fall apart. -/
structure Heard (events : List Event) (r : List Bytes × Ending) : Prop where
  heard : r.1 <+: said events
  together : r.2 ≠ .apart
  complete : r.2 = .finished → r.1 = said events

omit [Crypto] in
theorem Heard.stopped (events : List Event) : Heard events ([], .stopped) :=
  ⟨List.nil_prefix, by simp, by simp⟩

omit [Crypto] in
theorem Agree.noted (h : Agree s t) {side : Bool} {p q : SpdmSessionSecretParam}
    {app secured : Bytes} : Agree (s.recordSeal side p app) (t.recordOpen q secured app) :=
  ⟨by rw [h.same]; rfl, h.id_lt⟩

/-- **What one end says, the other hears**, in every conversation of two ends
that agree; only an end that cannot seal or derive stops it. -/
theorem conversation_heard (haead : CorrectAead) (config : Config) (room : Nat)
    (events : List Event) (ends : Bool → SpdmSession) (h : Agree (ends true) (ends false))
    (hfits : ∀ app ∈ said events, FitsSealed config room app) :
    Heard events (converse config room events ends) := by
  induction events generalizing ends with
  | nil => exact ⟨List.prefix_rfl, by simp [converse], fun _ => rfl⟩
  | cons event events ih =>
    cases event with
    | both op =>
      have hrun := inTune_keyOp op _ _ h
      unfold converse
      cases hs : op.run (ends true) <;> cases ht : op.run (ends false) <;> rw [hs, ht] at hrun <;>
        first | exact hrun.elim | exact .stopped _ | skip
      obtain ⟨hheard, htogether, hcomplete⟩ :=
        ih (fun side => if side then _ else _) hrun.2 hfits
      exact ⟨hheard, htogether, hcomplete⟩
    | message side app padding =>
      have hsides : Agree (ends side) (ends !side) := by
        cases side with
        | true => exact h
        | false => exact h.symm
      unfold converse
      cases hseal : encodeSpdmSecuredMessage config app room side (ends side) with
      | err _ _ => exact .stopped _
      | panic => exact .stopped _
      | ok out s =>
        have hok := (wp_of_ok hseal).1 (encodeSpdmSecuredMessage_spec config app room side _)
        dsimp only
        rw [decodeSpdmSecuredMessage_padded haead hseal (hsides.inStep side)
          (hfits app List.mem_cons_self) padding]
        -- both ends counted the message, and agree again
        have hnext : Agree s ((ends !side).afterOpen side (out ++ padding) app) :=
          hok.after ▸ (hsides.advance side).noted
        generalize (ends !side).afterOpen side (out ++ padding) app = t at hnext
        obtain ⟨hheard, htogether, hcomplete⟩ := ih (fun j => if j = side then s else t) (by
          cases side with
          | true => exact hnext
          | false => exact hnext.symm) fun app happ => hfits app (List.mem_cons_of_mem _ happ)
        exact ⟨List.cons_prefix_cons.2 ⟨rfl, hheard⟩, htogether, fun hend => by
          rw [said, ← hcomplete hend]⟩

end SpdmSession

namespace SmallBackend

open SpdmSession

def smallTalk : List Event :=
  [.message true [1] [], .message false [2] [0],
    .both (.createDataSecretUpdate .spdmVersion12 true false),
    .both (.activateDataSecretUpdate true false), .message true [3] []]

theorem smallTalk_heard :
    converse smallConfig 200 smallTalk (fun _ => smallSession 2 0 0) =
        ([[1], [2], [3]], .finished) ∧
      Heard smallTalk ([[1], [2], [3]], .finished) := by
  have hrun : converse smallConfig 200 smallTalk (fun _ => smallSession 2 0 0) =
      ([[1], [2], [3]], .finished) := by decide +kernel
  have hone : ∀ app ∈ said smallTalk, app.length = 1 := by decide
  have hfits : ∀ app ∈ said smallTalk, FitsSealed smallConfig 200 app := fun app happ => by
    have := hone app happ
    have hbuffer : smallConfig.receiverBufferSize = 200 := rfl
    exact ⟨by omega, by omega, by omega⟩
  exact ⟨hrun, hrun ▸ conversation_heard correctAead_small smallConfig 200 smallTalk _
    ⟨rfl, by decide⟩ hfits⟩

end SmallBackend

end Spdm
