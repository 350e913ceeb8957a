/-
  Spdm.Context.Append — what appending does to a transcript, in either build.
-/
import Spdm.Context.Signature
import Spdm.Context.Steps

namespace Spdm

open Effect Codec

variable {c c' : SpdmContext} {m : Bytes}

/-! ## §1. Identities and negotiated parameters stay. -/

structure SameParty (c c' : SpdmContext) : Prop where
  build : c'.build = c.build
  negotiateInfo : c'.negotiateInfo = c.negotiateInfo
  provisionInfo : c'.provisionInfo = c.provisionInfo
  peerInfo : c'.peerInfo = c.peerInfo

instance : StepRel SameParty where
  refl _ := ⟨rfl, rfl, rfl, rfl⟩
  trans h h' := ⟨h'.build.trans h.build, h'.negotiateInfo.trans h.negotiateInfo,
    h'.provisionInfo.trans h.provisionInfo, h'.peerInfo.trans h.peerInfo⟩

theorem ChannelStep.sameParty {R : SpdmSession → SpdmSession → Prop}
    (h : ChannelStep R c c') : SameParty c c' :=
  ⟨h.build, h.negotiateInfo, h.provisionInfo, h.peerInfo⟩

namespace SpdmContext

variable [Crypto]

/-! ## §2. M1/M2. -/

def m1m2Fed (c : SpdmContext) : Option Bytes :=
  if c.build.hashedTranscriptData then c.runtimeInfo.digestContextM1M2.map HashCtx.fed
  else some (c.runtimeInfo.messageA ++ c.runtimeInfo.messageB ++ c.runtimeInfo.messageC)

omit [Crypto] in
theorem joinMessages_append {max : Nat} {start out : Bytes} {messages : List Bytes}
    (h : messages.foldlM (appendMessage max) start = some out) :
    out = start ++ messages.flatten := by
  induction messages generalizing start with
  | nil => simpa using h.symm
  | cons m messages ih =>
    obtain ⟨mid, hmid, hrest⟩ := Option.bind_eq_some_iff.1 h
    rw [ih hrest, appendMessage_eq_some hmid, List.flatten_cons, List.append_assoc]

omit [Crypto] in
theorem m1m2Fed_of_m1m2 {t : Transcript} (h : c.m1m2 = some t) :
    c.m1m2Fed = some t.bytes := by
  unfold m1m2 at h
  unfold m1m2Fed
  split at h
  · rename_i hb
    obtain ⟨ctx, hctx, rfl⟩ := Option.map_eq_some_iff.1 h
    simp [hb, hctx, Transcript.bytes]
  · rename_i hb
    obtain ⟨out, hout, rfl⟩ := Option.map_eq_some_iff.1 h
    simp [hb, Transcript.bytes, joinMessages_append hout]

theorem feedM1M2_sameParty {e : SpdmStatus} : Within SameParty (feedM1M2 e m) := by
  refine .bind .read fun c => .bind ?_ fun _ => .update fun _ => ⟨rfl, rfl, rfl, rfl⟩
  split
  · exact .ret _
  · exact .bind (.orFail _ _) fun _ => .ret _

theorem appendMessageC_sameParty : Within SameParty (appendMessageC m) := by
  refine .bind .read fun c => ?_
  split
  · exact feedM1M2_sameParty
  · exact .bind (.orFail _ _) fun _ => .update fun _ => ⟨rfl, rfl, rfl, rfl⟩

theorem feedM1M2_ok {e : SpdmStatus}
    (hb : c.build.hashedTranscriptData = true) (h : feedM1M2 e m c = .ok () c') :
    ∃ before, c'.m1m2Fed = some (before ++ m) ∧ ∀ b, c.m1m2Fed = some b → before = b := by
  unfold feedM1M2 at h
  rw [read_bind, bind_eq_ok] at h
  obtain ⟨ctx, c₁, hctx, hupdate⟩ := h
  obtain rfl := update_eq_ok.1 hupdate
  unfold m1m2Fed
  cases hd : c.runtimeInfo.digestContextM1M2 with
  | some ctx₀ =>
    rw [hd] at hctx
    obtain ⟨rfl, rfl⟩ := ret_eq_ok.1 hctx
    refine ⟨ctx₀.fed, by simp [hb, HashCtx.feed], fun b hfed => ?_⟩
    simpa [hb] using hfed
  | none =>
    rw [hd] at hctx
    obtain ⟨ctx₀, c₂, hinit, hret⟩ := bind_eq_ok.1 hctx
    obtain ⟨-, rfl⟩ := orFail_eq_ok.1 hinit
    obtain ⟨rfl, rfl⟩ := ret_eq_ok.1 hret
    refine ⟨(ctx₀.feed c.runtimeInfo.messageA).fed, by simp [hb, HashCtx.feed], fun b hfed => ?_⟩
    simp [hb] at hfed

theorem appendMessageC_ok (h : appendMessageC m c = .ok () c') :
    ∃ before, c'.m1m2Fed = some (before ++ m) ∧ ∀ b, c.m1m2Fed = some b → before = b := by
  unfold appendMessageC at h
  rw [read_bind] at h
  split at h
  · rename_i hb
    exact feedM1M2_ok hb h
  · rename_i hb
    obtain ⟨out, c₁, hroom, hupdate⟩ := bind_eq_ok.1 h
    obtain ⟨happ, rfl⟩ := orFail_eq_ok.1 hroom
    obtain rfl := update_eq_ok.1 hupdate
    refine ⟨c.runtimeInfo.messageA ++ c.runtimeInfo.messageB ++ c.runtimeInfo.messageC, ?_, ?_⟩
    · simp [m1m2Fed, hb, appendMessage_eq_some happ]
    · simp [m1m2Fed, hb]

/-! ## §3. L1/L2. -/

def l1l2Fed (sessionId : Option Nat) (c : SpdmContext) : Option Bytes :=
  (c.messageM sessionId).bind fun (m, ctx) =>
    if c.build.hashedTranscriptData then ctx.map HashCtx.fed
    else some ((if c.negotiateInfo.spdmVersionSel.atLeast .spdmVersion12 then
      c.runtimeInfo.messageA else []) ++ m)

omit [Crypto] in
theorem l1l2Raw_bytes {t : Transcript} (h : c.l1l2Raw m = some t) :
    t.bytes = (if c.negotiateInfo.spdmVersionSel.atLeast .spdmVersion12 then
      c.runtimeInfo.messageA else []) ++ m := by
  obtain ⟨out, hout, rfl⟩ := Option.map_eq_some_iff.1 h
  have := joinMessages_append hout
  split at this <;> simp_all [Transcript.bytes]

theorem appendMessageM_sameParty (sessionId : Option Nat) (m : Bytes) :
    Within SameParty (appendMessageM sessionId m) := by
  have hsession {m : Prog SpdmSession SpdmStatus Unit} (id : Nat) :
      Within SameParty (withSession id .invalidStateLocal m) :=
    (within_withSession id (.trivially m)).mono fun _ _ h => h.sameParty
  refine .bind .read fun c => ?_
  dsimp only
  split
  · exact .bind (.orFail _ _) fun _ => .update fun _ => ⟨rfl, rfl, rfl, rfl⟩
  · exact .bind (.orFail _ _) fun _ => .update fun _ => ⟨rfl, rfl, rfl, rfl⟩
  · exact hsession _
  · exact hsession _

theorem feedL1L2_fed {running : Option HashCtx} {ctx : HashCtx}
    (h : feedL1L2 c running m = some ctx) :
    ∃ before, ctx.fed = before ++ m ∧ ∀ r, running = some r → before = r.fed := by
  cases running with
  | some r =>
    obtain rfl := Option.some.inj h
    exact ⟨r.fed, rfl, fun r' hr => by rw [Option.some.inj hr]⟩
  | none =>
    obtain ⟨start, -, hstart⟩ := Option.bind_eq_some_iff.1 h
    obtain rfl := Option.some.inj hstart
    exact ⟨_, rfl, fun r hr => by cases hr⟩

omit [Crypto] in
theorem messageM_of_slotAt {id i : Nat} {s : SpdmSession} (h : SlotAt c id i s) :
    c.messageM (some id) = some (s.runtimeInfo.messageM, s.runtimeInfo.digestContextL1L2) := by
  show (c.sessionViaId id).map _ = _
  rw [h.sessionViaId]
  rfl

omit [Crypto] in
theorem appended_l1l2 {hashed : Bool} {start : Bytes} {old new : Bytes × Option HashCtx}
    (hraw : hashed = false → new.1 = old.1 ++ m)
    (hhash : hashed = true → ∃ ctx before, new.2 = some ctx ∧ ctx.fed = before ++ m ∧
      ∀ r, old.2 = some r → before = r.fed) :
    ∃ before, (if hashed then new.2.map HashCtx.fed else some (start ++ new.1)) =
        some (before ++ m) ∧
      ∀ b, (if hashed then old.2.map HashCtx.fed else some (start ++ old.1)) = some b →
        before = b := by
  cases hashed with
  | false =>
    refine ⟨start ++ old.1, by simp [hraw rfl], fun b hb => by simpa using hb⟩
  | true =>
    obtain ⟨ctx, before, hctx, hfed, hold⟩ := hhash rfl
    refine ⟨before, by simp [hctx, hfed], fun b hb => ?_⟩
    obtain ⟨r, hr, rfl⟩ := Option.map_eq_some_iff.1 (by simpa using hb)
    exact hold r hr

theorem appendMessageM_messageM {sessionId : Option Nat}
    (h : appendMessageM sessionId m c = .ok () c') :
    ∃ old new, c.messageM sessionId = some old ∧ c'.messageM sessionId = some new ∧
      c'.runtimeInfo.messageA = c.runtimeInfo.messageA ∧
      (c.build.hashedTranscriptData = false → new.1 = old.1 ++ m) ∧
      (c.build.hashedTranscriptData = true → ∃ ctx before, new.2 = some ctx ∧
        ctx.fed = before ++ m ∧ ∀ r, old.2 = some r → before = r.fed) := by
  unfold appendMessageM at h
  rw [read_bind] at h
  cases sessionId with
  | none =>
    cases hb : c.build.hashedTranscriptData with
    | false =>
      rw [hb] at h
      obtain ⟨out, c₁, hroom, hupdate⟩ := bind_eq_ok.1 h
      obtain ⟨happ, rfl⟩ := orFail_eq_ok.1 hroom
      obtain rfl := update_eq_ok.1 hupdate
      exact ⟨_, _, rfl, rfl, rfl, fun _ => appendMessage_eq_some happ, by simp⟩
    | true =>
      rw [hb] at h
      obtain ⟨ctx, c₁, hstart, hupdate⟩ := bind_eq_ok.1 h
      obtain ⟨hfeed, rfl⟩ := orFail_eq_ok.1 hstart
      obtain rfl := update_eq_ok.1 hupdate
      obtain ⟨before, hfed, hold⟩ := feedL1L2_fed hfeed
      exact ⟨_, _, rfl, rfl, rfl, by simp, fun _ => ⟨ctx, before, rfl, hfed, hold⟩⟩
  | some id =>
    cases hb : c.build.hashedTranscriptData with
    | false =>
      rw [hb] at h
      obtain ⟨i, s, s', hslot, hrun, rfl⟩ := withSession_eq_ok h
      rw [read_bind] at hrun
      obtain ⟨out, s₁, hroom, hupdate⟩ := bind_eq_ok.1 hrun
      obtain ⟨happ, rfl⟩ := orFail_eq_ok.1 hroom
      obtain rfl := update_eq_ok.1 hupdate
      exact ⟨_, _, messageM_of_slotAt hslot,
        messageM_of_slotAt (hslot.set (by exact hslot.sessionId)),
        rfl, fun _ => appendMessage_eq_some happ, by simp⟩
    | true =>
      rw [hb] at h
      obtain ⟨i, s, s', hslot, hrun, rfl⟩ := withSession_eq_ok h
      rw [read_bind] at hrun
      obtain ⟨ctx, s₁, hstart, hupdate⟩ := bind_eq_ok.1 hrun
      obtain ⟨hfeed, rfl⟩ := orFail_eq_ok.1 hstart
      obtain rfl := update_eq_ok.1 hupdate
      obtain ⟨before, hfed, hold⟩ := feedL1L2_fed hfeed
      exact ⟨_, _, messageM_of_slotAt hslot,
        messageM_of_slotAt (hslot.set (by exact hslot.sessionId)),
        rfl, by simp, fun _ => ⟨ctx, before, rfl, hfed, hold⟩⟩

theorem appendMessageM_ok {sessionId : Option Nat}
    (h : appendMessageM sessionId m c = .ok () c') :
    ∃ before, c'.l1l2Fed sessionId = some (before ++ m) ∧
      ∀ b, c.l1l2Fed sessionId = some b → before = b := by
  have hsame : SameParty c c' := (appendMessageM_sameParty sessionId m).of_ok h
  obtain ⟨old, new, hold, hnew, hA, hraw, hhash⟩ := appendMessageM_messageM h
  unfold l1l2Fed
  rw [hold, hnew, hsame.build, hsame.negotiateInfo, hA]
  exact appended_l1l2 hraw hhash

end SpdmContext

end Spdm
