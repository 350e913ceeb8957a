/-
  Spdm.Context.Mild — the shared functions of a context as mild acts.
-/
import Spdm.Context.Acts
import Spdm.Context.Signature

namespace Spdm

open Effect Codec

variable {c c' : SpdmContext} {s : SpdmSession} {R : SpdmContext → SpdmContext → Prop} {id : Nat}
    {sessionId : Option Nat} {usePsk isMutAuth : Bool}

variable {ε α : Type} {touch : Nat → Prop}

/-! ## §1. Quiet updates and programs on a session. -/

theorem NegotiateStep.of_eq (h : c' = { c with
      configInfo := c'.configInfo, negotiateInfo := c'.negotiateInfo
      runtimeInfo := { c'.runtimeInfo with lastSessionId := c.runtimeInfo.lastSessionId }
      provisionInfo := c'.provisionInfo, peerInfo := c'.peerInfo, encapContext := c'.encapContext
      mutAuthDone := c'.mutAuthDone, world := { c.world with
        random := c'.world.random, watchdog := c'.world.watchdog } }) : NegotiateStep c c' := by
  constructor <;> rw [h]

theorem QuietStep.of_eq (h : c' = { c with
      negotiateInfo := { c.negotiateInfo with
        terminationPolicySet := c'.negotiateInfo.terminationPolicySet }
      runtimeInfo := { c'.runtimeInfo with
        lastSessionId := c.runtimeInfo.lastSessionId
        connectionState := c.runtimeInfo.connectionState }
      peerInfo := c'.peerInfo, encapContext := c'.encapContext
      mutAuthDone := c'.mutAuthDone, world := { c.world with
        random := c'.world.random, watchdog := c'.world.watchdog } }) : QuietStep c c' := by
  refine ⟨.of_eq ?_, ?_, ?_, ?_, ?_⟩ <;> rw [h]

instance : StepRel QuietStep where
  refl c := ⟨StepRel.refl c, rfl, rfl, rfl, rfl⟩
  trans h h' := by
    refine ⟨StepRel.trans h.toNegotiateStep h'.toNegotiateStep,
      h'.configInfo.trans h.configInfo, ?_,
      h'.provisionInfo.trans h.provisionInfo, h'.connectionState.trans h.connectionState⟩
    rw [h'.negotiateInfo, h.negotiateInfo]

structure SilentStep (c c' : SpdmContext) : Prop extends QuietStep c c' where
  watchdog : c'.world.watchdog = c.world.watchdog

theorem SilentStep.of_eq (h : c' = { c with
      negotiateInfo := { c.negotiateInfo with
        terminationPolicySet := c'.negotiateInfo.terminationPolicySet }
      runtimeInfo := { c'.runtimeInfo with
        lastSessionId := c.runtimeInfo.lastSessionId
        connectionState := c.runtimeInfo.connectionState }
      peerInfo := c'.peerInfo, encapContext := c'.encapContext
      mutAuthDone := c'.mutAuthDone, world := { c.world with random := c'.world.random } }) :
    SilentStep c c' := by
  refine ⟨.of_eq ?_, ?_⟩ <;> rw [h]

instance : StepRel SilentStep where
  refl c := ⟨StepRel.refl c, rfl⟩
  trans h h' := ⟨StepRel.trans h.toQuietStep h'.toQuietStep, h'.watchdog.trans h.watchdog⟩

def NoteStep (s t : SpdmSession) : Prop :=
  t = { s with runtimeInfo := t.runtimeInfo, th1 := t.th1, th2 := t.th2 }

instance : StepRel NoteStep where
  refl _ := rfl
  trans h h' := by
    unfold NoteStep at *
    rw [h', h]

theorem NoteStep.transcript {t : SpdmSession} (h : NoteStep s t) : TranscriptStep s t := by
  unfold TranscriptStep
  rw [h]

class SilentRel (R : SpdmContext → SpdmContext → Prop) : Prop extends StepRel R where
  silent : ∀ {c c' : SpdmContext}, SilentStep c c' → R c c'

instance : SilentRel SilentStep where
  silent h := h

class MildRel (touch : outParam (Nat → Prop)) (R : SpdmContext → SpdmContext → Prop) : Prop
    extends SilentRel R where
  note : ∀ {c : SpdmContext} {id i : Nat} {s t : SpdmSession}, touch id → SlotAt c id i s →
    NoteStep s t → R c (c.setSlot i t)

instance (touch : Nat → Prop) : MildRel touch (Steps (MildAct touch)) where
  silent h := .single (.quiet h.toQuietStep)
  note ht hat h := .single (.slot ht hat (.transcript h.transcript))

inductive NoteAct (touch : Nat → Prop) (c : SpdmContext) : SpdmContext → Prop where
  | silent {c' : SpdmContext} (h : SilentStep c c') : NoteAct touch c c'
  | note {id i : Nat} {s t : SpdmSession} (ht : touch id) (hat : SlotAt c id i s)
      (h : NoteStep s t) : NoteAct touch c (c.setSlot i t)

instance (touch : Nat → Prop) : MildRel touch (Steps (NoteAct touch)) where
  silent h := .single (.silent h)
  note ht hat h := .single (.note ht hat h)

theorem NoteAct.rel [MildRel touch R]
    (h : NoteAct touch c c') : R c c' := by
  cases h with
  | silent h => exact SilentRel.silent h
  | note ht hat h => exact MildRel.note ht hat h

theorem NoteAct.rel_never [SilentRel R]
    (h : NoteAct (fun _ => False) c c') : R c c' := by
  cases h with
  | silent h => exact SilentRel.silent h
  | note ht => exact ht.elim

theorem NoteAct.mild (h : NoteAct touch c c') : MildAct touch c c' := by
  cases h with
  | silent h => exact .quiet h.toQuietStep
  | note ht hat h => exact .slot ht hat (.transcript h.transcript)

theorem within_quietUpdate {f : SpdmContext → SpdmContext} (h : ∀ c, QuietStep c (f c)) :
    Within (Steps (MildAct touch)) (update f : Prog SpdmContext ε Unit) :=
  .update fun c => .single (.quiet (h c))

theorem within_transcript {m : Prog SpdmSession ε α} {e : ε} (ht : touch id)
    (hm : Within TranscriptStep m) :
    Within (Steps (MildAct touch)) (SpdmContext.withSession id e m) :=
  within_withSession_of fun _ _ _ _ hat hran => .single (.slot ht hat (.transcript (hm.ran hran)))

theorem within_silentUpdate [SilentRel R]
    {f : SpdmContext → SpdmContext} (h : ∀ c, SilentStep c (f c)) :
    Within R (update f : Prog SpdmContext ε Unit) :=
  .update fun c => SilentRel.silent (h c)

theorem within_note [MildRel touch R]
    {m : Prog SpdmSession ε α} {e : ε} (ht : touch id) (hm : Within NoteStep m) :
    Within R (SpdmContext.withSession id e m) :=
  within_withSession_of fun _ _ _ _ hat hran => MildRel.note ht hat (hm.ran hran)

namespace SpdmContext

theorem mapSession_of [StepRel R]
    {f : SpdmSession → SpdmSession}
    (hset : ∀ {i : Nat} {s : SpdmSession}, SlotAt c id i s → R c (c.setSlot i (f s))) :
    R c (c.mapSession id f) := by
  unfold mapSession
  cases hfirst : c.session.findIdx? fun s => s.sessionId == id with
  | none => exact StepRel.refl _
  | some i =>
    obtain ⟨hlt, -, -⟩ := List.findIdx?_eq_some_iff_getElem.1 hfirst
    have hslot : c.session[i]? = some c.session[i] := List.getElem?_eq_getElem hlt
    have hmodify : c.session.modify i f = c.session.set i (f c.session[i]) := by
      rw [List.modify_eq_set_get f hlt]
      rfl
    show R c { c with session := c.session.modify i f }
    rw [hmodify]
    exact hset ⟨hfirst, hslot⟩

theorem steps_mapSession {R : SpdmSession → SpdmSession → Prop} (ht : touch id)
    {f : SpdmSession → SpdmSession} (hf : ∀ s, R s (f s)) (c : SpdmContext) :
    Steps (TableAct R touch) c (c.mapSession id f) :=
  mapSession_of fun hat => .single (.slot ht hat (hf _))

theorem steps_teardownSession (ht : touch id) (c : SpdmContext) :
    Steps (MildAct touch) c (teardownSession id c) :=
  steps_mapSession ht MildSlot.free c

/-! ## §2. The random source. -/

section
variable {R : SpdmContext → SpdmContext → Prop} [SilentRel R]

theorem within_getRandom {n : Nat} : Within R (getRandom n) := by
  refine .bind .read fun c => .bind (within_silentUpdate fun _ => .of_eq rfl) fun _ => ?_
  cases c.world.random.head? with
  | none => exact .fail _
  | some bytes => exact .ret _

theorem within_drawEntropy :
    Within R (drawEntropy : Prog SpdmContext ε Bytes) :=
  .bind .read fun _ => .bind (within_silentUpdate fun _ => .of_eq rfl) fun _ => .ret _

/-! ## §3. Transcripts. -/

variable [Crypto]

omit [Crypto] in
theorem within_appendMessageA (m : Bytes) : Within R (appendMessageA m) :=
  .bind .read fun _ => .bind (.orFail _ _) fun _ => within_silentUpdate fun _ => .of_eq rfl

theorem within_feedM1M2 {e : SpdmStatus} {m : Bytes} :
    Within R (feedM1M2 e m) := by
  refine .bind .read fun c => .bind ?_ fun _ => within_silentUpdate fun _ => .of_eq rfl
  cases c.runtimeInfo.digestContextM1M2 with
  | none => exact .bind (.orFail _ _) fun _ => .ret _
  | some ctx => exact .ret _

theorem within_appendMessageB (m : Bytes) : Within R (appendMessageB m) := by
  refine .bind .read fun c => ?_
  split
  · exact within_feedM1M2
  · exact .bind (.orFail _ _) fun _ => within_silentUpdate fun _ => .of_eq rfl

theorem within_appendMessageC (m : Bytes) : Within R (appendMessageC m) := by
  refine .bind .read fun c => ?_
  split
  · exact within_feedM1M2
  · exact .bind (.orFail _ _) fun _ => within_silentUpdate fun _ => .of_eq rfl

section
omit [Crypto]

theorem silent_resetMessageB (c : SpdmContext) : SilentStep c c.resetMessageB := by
  unfold resetMessageB
  split <;> exact .of_eq rfl

theorem silent_resetMessageC : SilentStep c c.resetMessageC := by
  unfold resetMessageC
  split <;> exact .of_eq rfl

theorem mild_resetMessageBC (c : SpdmContext) : R c c.resetMessageB.resetMessageC :=
  StepRel.trans (SilentRel.silent (silent_resetMessageB c))
    (SilentRel.silent silent_resetMessageC)

end

end

section
variable {R : SpdmContext → SpdmContext → Prop} [MildRel touch R] [Crypto]

omit [Crypto] in
theorem within_sessionUpdate {β : Type} {e : SpdmStatus} {o : SpdmSession → Option β}
    {e' : SpdmStatus} {f : β → SpdmSession → SpdmSession} (ht : touch id)
    (hf : ∀ b s, NoteStep s (f b s)) :
    Within R (withSession id e (do
      let s ← read
      let b ← orFail e' (o s)
      update (f b))) :=
  within_note ht (.bind .read fun _ => .bind (.orFail _ _) fun b => .update (hf b))

theorem within_appendMessageM (ht : ∀ id, sessionId = some id → touch id)
    (m : Bytes) : Within R (appendMessageM sessionId m) := by
  refine .bind .read fun c => ?_
  cases sessionId with
  | none =>
    cases c.build.hashedTranscriptData <;>
      exact .bind (.orFail _ _) fun _ => within_silentUpdate fun _ => .of_eq rfl
  | some id =>
    cases c.build.hashedTranscriptData <;>
      exact within_sessionUpdate (ht id rfl) fun _ _ => rfl

theorem within_appendMessageK (ht : touch id) (m : Bytes) :
    Within R (appendMessageK id m) := by
  refine .bind .read fun c => within_note ht (.bind .read fun s => ?_)
  split
  · refine .bind ?_ fun _ => .update fun _ => rfl
    cases s.runtimeInfo.digestContextTh with
    | none => exact .bind (.orFail _ _) fun _ => .ret _
    | some ctx => exact .ret _
  · exact .bind (.orFail _ _) fun _ => .update fun _ => rfl

theorem certChainHash_still {chains : Slots Bytes} {slotId : Nat} {missing : SpdmStatus} :
    Within (fun c c' => c' = c) (certChainHash chains slotId missing) :=
  .bind .read fun _ => .bind (.orAbort _) fun _ => .bind (.orFail _ _) fun _ => .orFail _ _

theorem pubKeyHash_still {pubKey : Option Bytes} :
    Within (fun c c' => c' = c) (pubKeyHash pubKey) :=
  .bind .read fun _ => .bind (.orFail _ _) fun _ => .orFail _ _

theorem mutCertDigest_still {isRequester : Bool} :
    Within (fun c c' => c' = c) (mutCertDigest isRequester) := by
  refine .bind .read fun c => ?_
  dsimp only
  generalize (if isRequester then c.runtimeInfo.localUsedCertChainSlotId
    else c.runtimeInfo.peerUsedCertChainSlotId) = slotId
  split
  · exact .bind (.orFail _ _) fun _ => .ret _
  · exact certChainHash_still

omit [Crypto] in
theorem within_feedTh (ht : touch id) {data : Bytes} :
    Within R (feedTh id data) :=
  within_note ht (.bind .read fun _ => .bind (.orAbort _) fun _ => .update fun _ => rfl)

theorem within_startMessageF {isRequester : Bool} (ht : touch id) :
    Within R (startMessageF isRequester id s) := by
  refine .bind ?_ fun _ => within_note ht (.update fun _ => rfl)
  split
  · cases s.runtimeInfo.vdmMessageTranscriptBeforeFinish with
    | some vdm => exact within_feedTh ht
    | none => exact .bind (.of_still mutCertDigest_still) fun _ => within_feedTh ht
  · exact .ret _

theorem within_appendMessageF (isRequester : Bool) (ht : touch id) (m : Bytes) :
    Within R (appendMessageF isRequester id m) := by
  refine .bind .read fun c => ?_
  split
  · refine .bind (.orFail _ _) fun s => .bind (.guardElse _ _) fun _ => .bind ?_ fun _ =>
      within_feedTh ht
    split
    · exact .ret _
    · exact within_startMessageF ht
  · exact within_sessionUpdate ht fun _ _ => rfl

section
omit [Crypto]

theorem mild_resetMessageM (ht : ∀ id, sessionId = some id → touch id)
    (c : SpdmContext) : R c (resetMessageM sessionId c) := by
  unfold resetMessageM
  cases sessionId with
  | none => cases c.build.hashedTranscriptData <;> exact SilentRel.silent (.of_eq rfl)
  | some id =>
    cases c.build.hashedTranscriptData <;>
      exact mapSession_of fun hat => MildRel.note (ht id rfl) hat rfl

theorem mild_resetBuffer {opcode : UInt8}
    (ht : ∀ id, sessionId = some id → touch id) (c : SpdmContext) :
    R c (resetBufferViaRequestCode opcode sessionId c) := by
  have hM : R c
      (if opcode ≠ SpdmRequestResponseCode.spdmRequestGetMeasurements then
        c.resetMessageM sessionId else c) := by
    split
    · exact mild_resetMessageM ht c
    · exact StepRel.refl _
  unfold resetBufferViaRequestCode
  dsimp only
  generalize (if opcode ≠ SpdmRequestResponseCode.spdmRequestGetMeasurements then
    c.resetMessageM sessionId else c) = c₁ at hM ⊢
  refine StepRel.trans hM ?_
  split_ifs
  · exact mild_resetMessageBC _
  · exact StepRel.refl _
  · exact SilentRel.silent (silent_resetMessageB _)
  · exact StepRel.refl _

theorem appendTh_still {buffer m : Bytes} : Within (fun c c' => c' = c) (appendTh buffer m) :=
  .orFail _ _

end

theorem calcTranscriptData_still {side : TranscriptSide} {k : Bytes}
    {f vdm : Option Bytes} :
    Within (fun c c' => c' = c) (calcTranscriptData side usePsk isMutAuth k f vdm) := by
  refine .bind .read fun c => .bind appendTh_still fun _ => .bind ?_ fun _ =>
    .bind appendTh_still fun _ => .bind ?_ fun _ => ?_
  · split
    · exact .ret _
    · cases c.runtimeInfo.vdmMessageTranscriptBeforeKeyExchange with
      | some vdm => exact appendTh_still
      | none =>
        refine .bind ?_ fun _ => appendTh_still
        split
        · exact pubKeyHash_still
        · exact certChainHash_still
  · split
    · exact .ret _
    · cases vdm with
      | some vdm => exact appendTh_still
      | none =>
        refine .bind ?_ fun _ => appendTh_still
        split
        · exact pubKeyHash_still
        · exact certChainHash_still
  · cases f with
    | some f => exact appendTh_still
    | none => exact .ret _

theorem calcTranscriptHash_still {side : TranscriptSide} :
    Within (fun c c' => c' = c) (calcTranscriptHash side usePsk isMutAuth s) := by
  refine .bind .read fun c => ?_
  split
  · exact .bind (.orFail _ _) fun _ => .orFail _ _
  · exact .bind calcTranscriptData_still fun _ => .orFail _ _

theorem calcRspTranscriptHash_still :
    Within (fun c c' => c' = c) (calcRspTranscriptHash usePsk isMutAuth s) :=
  .bind .read fun _ => calcTranscriptHash_still

end

variable [Crypto]

/-! ## §4. Keys and certificate chains. -/

omit [Crypto] in
theorem peerKey_still {slotId pubKeySlotId : Nat} :
    Within (fun c c' => c' = c) (peerKey slotId pubKeySlotId) := by
  refine .bind .read fun c => ?_
  split
  · exact .bind (.orFail _ _) fun _ => .ret _
  · exact .bind (.orAbort _) fun _ => .bind (.orFail _ _) fun _ => .bind (.orAbort _) fun _ =>
      .bind (.assert _) fun _ => .ret _

variable [Device]

theorem verifyCertChainBuffer_still (chain : Bytes) :
    Within (fun c c' => c' = c) (verifyCertChainBuffer chain) := by
  refine .bind .read fun c => .bind (.orAbort _) fun _ => .bind (.guardElse _ _) fun _ =>
    .bind (.guardElse _ _) fun _ => .bind (.assert _) fun _ => .bind (.guardElse _ _) fun _ =>
    .bind within_liftResult fun _ => .bind (.assert _) fun _ => .bind ?_ fun _ => .ret _
  split
  · exact .bind (.orFail _ _) fun _ => .guardElse _ _
  · exact .ret _

omit [Crypto] in
theorem verifyProvisionedRoot_still {certs : Bytes} :
    Within (fun c c' => c' = c) (verifyProvisionedRoot certs) :=
  .bind .read fun _ => .bind within_liftResult fun _ => .guardElse _ _

end SpdmContext

end Spdm
