/-
  Spdm.Context.Steps — what the channel does to a context, said once.
-/
import Mathlib.Data.List.Basic
import Spdm.Message.Chunk

namespace Spdm

open Effect Codec

variable {ε α σ : Type} {i id room : Nat} {s t : SpdmSession} {c c' : SpdmContext}
    {bs m packet : Bytes}

/-! ## §1. Slot-wise steps. -/

section Slots
variable {R : SpdmSession → SpdmSession → Prop} [StepRel R]

instance : StepRel (List.Forall₂ R) where
  refl l := by
    induction l with
    | nil => exact .nil
    | cons s l ih => exact .cons (StepRel.refl s) ih
  trans := by
    intro l m n hlm hmn
    induction hlm generalizing n with
    | nil => cases hmn; exact .nil
    | cons h _ ih =>
      cases hmn with
      | cons h' ht => exact .cons (StepRel.trans h h') (ih ht)

theorem forall₂_set {l : List SpdmSession} {s' : SpdmSession}
    (hi : l[i]? = some s) (h : R s s') : List.Forall₂ R l (l.set i s') := by
  induction l generalizing i with
  | nil => simp at hi
  | cons t l ih =>
    cases i with
    | zero =>
      obtain rfl : t = s := by simpa using hi
      exact .cons h (StepRel.refl l)
    | succ i => exact .cons (StepRel.refl t) (ih (by simpa using hi))

omit [StepRel R] in
theorem forall₂_getElem? {l l' : List SpdmSession} {i : Nat} {s : SpdmSession}
    (h : List.Forall₂ R l l') (hi : l[i]? = some s) : ∃ s', l'[i]? = some s' ∧ R s s' := by
  induction h generalizing i with
  | nil => simp at hi
  | cons hab _ ih =>
    cases i with
    | zero => exact ⟨_, rfl, by simpa [← (by simpa using hi)] using hab⟩
    | succ i => simpa using ih (by simpa using hi)

end Slots

structure ChannelStep (R : SpdmSession → SpdmSession → Prop) (c c' : SpdmContext) : Prop where
  build : c'.build = c.build
  transportEncap : c'.transportEncap = c.transportEncap
  configInfo : c'.configInfo = c.configInfo
  negotiateInfo : c'.negotiateInfo = c.negotiateInfo
  runtimeInfo : c'.runtimeInfo = c.runtimeInfo
  provisionInfo : c'.provisionInfo = c.provisionInfo
  peerInfo : c'.peerInfo = c.peerInfo
  encapContext : c'.encapContext = c.encapContext
  mutAuthDone : c'.mutAuthDone = c.mutAuthDone
  slots : List.Forall₂ R c.session c'.session

section ChannelStep
variable {R : SpdmSession → SpdmSession → Prop} [StepRel R]

instance : StepRel (ChannelStep R) where
  refl c := ⟨rfl, rfl, rfl, rfl, rfl, rfl, rfl, rfl, rfl, StepRel.refl c.session⟩
  trans h h' :=
    ⟨h'.build.trans h.build, h'.transportEncap.trans h.transportEncap,
      h'.configInfo.trans h.configInfo, h'.negotiateInfo.trans h.negotiateInfo,
      h'.runtimeInfo.trans h.runtimeInfo, h'.provisionInfo.trans h.provisionInfo,
      h'.peerInfo.trans h.peerInfo, h'.encapContext.trans h.encapContext,
      h'.mutAuthDone.trans h.mutAuthDone, StepRel.trans h.slots h'.slots⟩

theorem ChannelStep.of_session_eq (hc : c' = { c with
      world := c'.world, chunkContext := c'.chunkContext, chunkReqHandle := c'.chunkReqHandle
      chunkRspHandle := c'.chunkRspHandle }) : ChannelStep R c c' := by
  rw [hc]
  exact ⟨rfl, rfl, rfl, rfl, rfl, rfl, rfl, rfl, rfl, StepRel.refl c.session⟩

/-! ## §2. The slot of a session. -/

omit [StepRel R] in
theorem forall₂_getElem?_inv {l l' : List SpdmSession} {i : Nat} {s' : SpdmSession}
    (h : List.Forall₂ R l l') (hi : l'[i]? = some s') : ∃ s, l[i]? = some s ∧ R s s' := by
  induction h generalizing i with
  | nil => simp at hi
  | cons hab _ ih =>
    cases i with
    | zero => exact ⟨_, rfl, by simpa [← (by simpa using hi)] using hab⟩
    | succ i => simpa using ih (by simpa using hi)

/-- Slot `i` is the one found under `id`, and holds `s`. -/
structure SlotAt (c : SpdmContext) (id i : Nat) (s : SpdmSession) : Prop where
  first : (c.session.findIdx? fun s => s.sessionId == id) = some i
  slot : c.session[i]? = some s

theorem SlotAt.sessionId (h : SlotAt c id i s) :
    s.sessionId = id := by
  obtain ⟨hlt, hp, -⟩ := List.findIdx?_eq_some_iff_getElem.1 h.first
  have hs := h.slot
  rw [List.getElem?_eq_getElem hlt, Option.some.injEq] at hs
  rw [← hs]
  simpa using hp

theorem findIdx?_of_getElem? {l l' : List SpdmSession} {id i : Nat} {s' : SpdmSession}
    (hfirst : (l.findIdx? fun s => s.sessionId == id) = some i) (hi : l'[i]? = some s')
    (hs' : s'.sessionId = id)
    (hback : ∀ j t', l'[j]? = some t' → t'.sessionId = id → j < i →
      ∃ t, l[j]? = some t ∧ t.sessionId = id) :
    (l'.findIdx? fun s => s.sessionId == id) = some i := by
  obtain ⟨hlt, -, hbefore⟩ := List.findIdx?_eq_some_iff_getElem.1 hfirst
  obtain ⟨hlt', hget⟩ := List.getElem?_eq_some_iff.1 hi
  refine List.findIdx?_eq_some_iff_getElem.2 ⟨hlt', by simpa [hget] using hs', fun j hj => ?_⟩
  intro hfound
  obtain ⟨t, ht, hid⟩ := hback j _ (List.getElem?_eq_getElem (hj.trans hlt'))
    (by simpa using hfound) hj
  obtain ⟨hjl, hgetj⟩ := List.getElem?_eq_some_iff.1 ht
  exact hbefore j hj (by simpa [hgetj] using hid)

theorem SlotAt.set (h : SlotAt c id i s)
    (ht : t.sessionId = id) : SlotAt (c.setSlot i t) id i t := by
  have hlt : i < c.session.length := (List.getElem?_eq_some_iff.1 h.slot).1
  have hslot : (c.session.set i t)[i]? = some t := by simp [hlt]
  refine ⟨findIdx?_of_getElem? h.first hslot ht fun j t' hj hid hlt => ?_, hslot⟩
  rw [SpdmContext.setSlot, List.getElem?_set_ne (by omega)] at hj
  exact ⟨t', hj, hid⟩

omit [StepRel R] in
theorem SlotAt.channel
    (hR : ∀ s t, R s t → t.sessionId = invalidSessionId ∨ t.sessionId = s.sessionId)
    (hid : id ≠ invalidSessionId) (h : SlotAt c id i s) (hstep : ChannelStep R c c') :
    ∃ t, c'.session[i]? = some t ∧ R s t ∧ (t.sessionId = id → SlotAt c' id i t) := by
  obtain ⟨t, ht, hst⟩ := forall₂_getElem? hstep.slots h.slot
  refine ⟨t, ht, hst, fun htid => ⟨?_, ht⟩⟩
  refine findIdx?_of_getElem? h.first ht htid fun j u' hj hu _ => ?_
  obtain ⟨u, hget, huu'⟩ := forall₂_getElem?_inv hstep.slots hj
  refine ⟨u, hget, ?_⟩
  obtain hfree | hkeep := hR u u' huu'
  · exact absurd (hu.symm.trans hfree) hid
  · exact hkeep.symm.trans hu

theorem SlotAt.sessionViaId (h : SlotAt c id i s) :
    c.sessionViaId id = some s := by
  obtain ⟨hlt, hp, hbefore⟩ := List.findIdx?_eq_some_iff_getElem.1 h.first
  have hs : c.session[i] = s := by
    have := h.slot
    rwa [List.getElem?_eq_getElem hlt, Option.some.injEq] at this
  refine List.find?_eq_some_iff_getElem.2 ⟨hs ▸ hp, i, hlt, hs, fun j hj => ?_⟩
  simpa using hbefore j hj

theorem slotAt_of_sessionViaId
    (h : c.sessionViaId id = some s) : ∃ i, SlotAt c id i s := by
  obtain ⟨hp, i, hlt, hs, hbefore⟩ := List.find?_eq_some_iff_getElem.1 h
  refine ⟨i, List.findIdx?_eq_some_iff_getElem.2 ⟨hlt, hs ▸ hp, fun j hj => ?_⟩, ?_⟩
  · simpa using hbefore j hj
  · rw [List.getElem?_eq_getElem hlt, hs]

theorem withSession_eq_ok {e : ε} {m : Prog SpdmSession ε α} {a : α}
    (h : SpdmContext.withSession id e m c = .ok a c') :
    ∃ i s s', SlotAt c id i s ∧ m s = .ok a s' ∧ c' = c.setSlot i s' := by
  unfold SpdmContext.withSession at h
  split at h
  · cases h
  · rename_i i hi
    split at h
    · cases h
    · rename_i s hs
      split at h
      · rename_i b s' hm
        simp only [Outcome.ok.injEq] at h
        obtain ⟨rfl, rfl⟩ := h
        exact ⟨i, s, s', ⟨hi, hs⟩, hm, rfl⟩
      · cases h
      · cases h

theorem wp_withSession {Q : α → SpdmContext → Prop} {E : ε → SpdmContext → Prop}
    (h : SlotAt c id i s) (e : ε)
    (m : Prog SpdmSession ε α) :
    wp (SpdmContext.withSession id e m) Q E c ↔
      wp m (fun a t => Q a (c.setSlot i t)) (fun e t => E e (c.setSlot i t)) s := by
  unfold wp SpdmContext.withSession
  simp only [h.first, h.slot]
  cases m s <;> rfl

theorem wp_withSession_of {Q : α → SpdmContext → Prop} {E : ε → SpdmContext → Prop} {e : ε}
    {m : Prog SpdmSession ε α}
    (hat : ∀ i s, SlotAt c id i s →
      wp m (fun a t => Q a (c.setSlot i t)) (fun e t => E e (c.setSlot i t)) s) (hnone : E e c) :
    wp (SpdmContext.withSession id e m) Q E c := by
  cases hfirst : c.session.findIdx? fun s => s.sessionId == id with
  | none =>
    unfold wp SpdmContext.withSession
    simpa only [hfirst] using hnone
  | some i =>
    obtain ⟨hlt, -⟩ := List.findIdx?_eq_some_iff_getElem.1 hfirst
    have hslot : SlotAt c id i c.session[i] := ⟨hfirst, List.getElem?_eq_getElem hlt⟩
    rw [wp_withSession hslot]
    exact hat i _ hslot

theorem withSession_of_ok {a : α}
    {e : ε} {m : Prog SpdmSession ε α} (h : SlotAt c id i s) (hm : m s = .ok a t) :
    SpdmContext.withSession id e m c = .ok a (c.setSlot i t) := by
  simp only [SpdmContext.withSession, h.first, h.slot, hm]

theorem withSession_of_err
    {e e' : ε} {m : Prog SpdmSession ε α} (h : SlotAt c id i s) (hm : m s = .err e' t) :
    SpdmContext.withSession id e m c = .err e' (c.setSlot i t) := by
  simp only [SpdmContext.withSession, h.first, h.slot, hm]

theorem withSession_update (hat : SlotAt c id i s)
    (e : SpdmStatus) (f : SpdmSession → SpdmSession) :
    SpdmContext.withSession id e (update f) c = .ok () (c.setSlot i (f s)) :=
  withSession_of_ok hat rfl

theorem setSlot_self (h : c.session[i]? = some s) :
    c.setSlot i s = c := by
  obtain ⟨hlt, rfl⟩ := List.getElem?_eq_some_iff.1 h
  simp [SpdmContext.setSlot]

theorem setSlot_setSlot :
    (c.setSlot i s).setSlot i t = c.setSlot i t := by
  simp [SpdmContext.setSlot]

theorem mapSession_of_slotAt
    (hat : SlotAt c id i s) {f : SpdmSession → SpdmSession} :
    c.mapSession id f = c.setSlot i (f s) := by
  unfold SpdmContext.mapSession
  rw [hat.first]
  dsimp only [SpdmContext.setSlot]
  rw [List.modify_eq_set_getElem?, hat.slot]
  rfl

theorem resetBuffer_of_slotAt
    (hat : SlotAt c id i s) (code : UInt8) :
    ∃ t r, SpdmContext.resetBufferViaRequestCode code (some id) c =
      { c.setSlot i { s with runtimeInfo := t } with runtimeInfo := r } := by
  have hM : ∃ t, (if code ≠ SpdmRequestResponseCode.spdmRequestGetMeasurements then
      c.resetMessageM (some id) else c) = c.setSlot i { s with runtimeInfo := t } := by
    split_ifs
    · unfold SpdmContext.resetMessageM
      cases c.build.hashedTranscriptData <;> exact ⟨_, mapSession_of_slotAt hat⟩
    · exact ⟨s.runtimeInfo, (setSlot_self hat.slot).symm⟩
  obtain ⟨t, ht⟩ := hM
  obtain ⟨r, hr⟩ := SpdmContext.resetBufferViaRequestCode_eq code (some id) c
  exact ⟨t, r, by rw [hr, ht]⟩

/-! ## §3. The channel functions. -/

variable {ε α : Type}

omit [StepRel R] in
theorem within_withSession_of {T : SpdmContext → SpdmContext → Prop} [StepRel T]
    {m : Prog SpdmSession ε α} {e : ε}
    (h : ∀ c i s t, SlotAt c id i s → Ran m s t → T c (c.setSlot i t)) :
    Within T (SpdmContext.withSession id e m) := by
  intro c
  unfold wp SpdmContext.withSession
  cases hfirst : c.session.findIdx? fun s => s.sessionId == id with
  | none => exact StepRel.refl c
  | some i =>
    dsimp only
    cases hi : c.session[i]? with
    | none => exact StepRel.refl c
    | some s =>
      dsimp only
      cases hs : m s with
      | ok a s' => exact h c i s s' ⟨hfirst, hi⟩ (.inl ⟨a, hs⟩)
      | err e' s' => exact h c i s s' ⟨hfirst, hi⟩ (.inr ⟨e', hs⟩)
      | panic => trivial

theorem within_withSession {m : Prog SpdmSession ε α} (id : Nat) {e : ε} (hm : Within R m) :
    Within (ChannelStep R) (SpdmContext.withSession id e m) :=
  within_withSession_of fun _ _ _ _ hat hran =>
    ⟨rfl, rfl, rfl, rfl, rfl, rfl, rfl, rfl, rfl, forall₂_set hat.slot (hm.ran hran)⟩

theorem within_liftResult {S : σ → σ → Prop} [StepRel S] {r : Except ε α} :
    Within S (liftResult r : Prog σ ε α) := by
  cases r with
  | ok a => exact Within.ret a
  | error e => exact Within.fail e

theorem within_liftCall {S : σ → σ → Prop} [StepRel S] {r : Option (Except ε α)} :
    Within S (liftCall r : Prog σ ε α) := by
  cases r with
  | none => exact Within.abort
  | some r => exact within_liftResult

theorem within_parse {S : σ → σ → Prop} [StepRel S] (p : Parser α) :
    Within S (parse p bs : Prog σ ε (Option α)) := by
  unfold parse
  cases p bs with
  | ok a _ => exact Within.ret _
  | err _ _ => exact Within.ret _
  | panic => exact Within.abort

theorem within_parseRest {S : σ → σ → Prop} [StepRel S] {p : Parser α} :
    Within S (parseRest p bs : Prog σ ε (Option (α × Bytes))) := by
  unfold parseRest
  cases p bs with
  | ok a _ => exact Within.ret _
  | err _ _ => exact Within.ret _
  | panic => exact Within.abort

theorem within_writeInto {S : σ → σ → Prop} [StepRel S] (room : Nat) :
    Within S (writeInto room m : Prog σ SpdmStatus Bytes) :=
  .bind (.guardElse _ _) fun _ => .ret _

def KeepsNegotiated (c c' : SpdmContext) : Prop := c'.negotiateInfo = c.negotiateInfo

instance : StepRel KeepsNegotiated where
  refl _ := rfl
  trans h h' := h'.trans h

theorem keepsNegotiated_appendMessageA (m : Bytes) :
    Within KeepsNegotiated (SpdmContext.appendMessageA m) :=
  .bind .read fun _ => .bind (.orFail _ _) fun _ => .update fun _ => rfl

namespace SpdmContext

theorem within_sizeSub {S : SpdmContext → SpdmContext → Prop} [StepRel S] {a b : Nat} :
    Within S (sizeSub a b : Prog SpdmContext ε Nat) :=
  .bind .read fun _ => .bind (.assert _) fun _ => .ret _

theorem within_timeoutFor {S : SpdmContext → SpdmContext → Prop} [StepRel S]
    {exponent : SpdmContext → Nat} {crypto : Bool} :
    Within S (timeoutFor exponent crypto : Prog SpdmContext ε Nat) := by
  refine .bind .read fun _ => ?_
  split
  · exact .bind .read fun _ => .bind (.assert _) fun _ => .ret _
  · exact .ret _

theorem within_deviceSend : Within (ChannelStep R) (deviceSend packet) := by
  refine .bind .read fun _ => .bind (.update fun c => ?_) fun _ => .guardElse _ _
  exact .of_session_eq rfl

theorem within_deviceReceive : Within (ChannelStep R) deviceReceive := by
  refine .bind .read fun _ => .bind (.update fun c => ?_) fun _ =>
    .bind (.orFail _ _) fun _ => .ret _
  exact .of_session_eq rfl

theorem within_encap [Crypto] : Within (ChannelStep R) (encap m room) :=
  .bind .read fun _ => within_liftResult

theorem within_decap [Crypto] :
    Within (ChannelStep R) (decap packet room) := by
  refine .bind .read fun c => ?_
  cases c.transportEncap.decap packet room with
  | error e => exact .fail _
  | ok r =>
    dsimp only
    split
    · exact .fail _
    · exact .ret _

theorem within_encodeSecuredMessage [Crypto] {isRequester : Bool}
    (henc : ∀ config app room,
      Within R (SpdmSession.encodeSpdmSecuredMessage config app room isRequester)) {isApp : Bool} :
    Within (ChannelStep R) (encodeSecuredMessage id m room isRequester isApp) :=
  .bind .read fun _ => .bind within_liftCall fun _ =>
    .bind (within_withSession _ (henc _ _ _)) fun _ => within_liftResult

theorem within_decodeSecuredMessage [Crypto]
    (hdec : ∀ config secured room,
      Within R (SpdmSession.decodeSpdmSecuredMessage config secured room false)) :
    Within (ChannelStep R) (decodeSecuredMessage id packet room) :=
  .bind .read fun _ => .bind within_liftResult fun _ => .bind (.guardElse _ _) fun _ =>
    .bind (within_withSession _ (hdec _ _ _)) fun _ => .bind within_liftCall fun _ => .ret _

theorem within_loadChunk {n : Nat} : Within (ChannelStep R) (loadChunk n : Prog _ ε _) := by
  refine .bind .read fun _ => .bind (.assert _) fun _ => .bind (.update fun c => ?_) fun _ => .ret _
  exact .of_session_eq rfl

theorem within_encodeChunk (code : UInt8) (p : ChunkPayload) (room : Nat) :
    Within (ChannelStep R) (encodeChunk code p room) :=
  .bind .read fun _ => .bind (within_writeInto _) fun _ => .bind within_loadChunk fun _ =>
    .bind (.assert _) fun _ => .ret _

theorem channelStep_storeChunk {data : Bytes} (c : SpdmContext) :
    ChannelStep R c (storeChunk data c) := .of_session_eq rfl

theorem within_readChunkResponse : Within (ChannelStep R) (readChunkResponse bs) := by
  refine .bind .read fun _ => .bind within_parseRest fun r => ?_
  cases r with
  | none => exact .ret _
  | some r =>
    dsimp only
    split
    · exact .ret _
    · exact .bind (.update channelStep_storeChunk) fun _ => .ret _

theorem within_readChunkSendAck : Within (ChannelStep R) (readChunkSendAck bs) := by
  refine .bind .read fun _ => .bind within_parseRest fun r => ?_
  cases r with
  | none => exact .ret _
  | some r =>
    dsimp only
    split_ifs
    · exact .bind (.update fun c => .of_session_eq rfl) fun _ => .ret _
    · exact .ret _
    · exact .ret _

end SpdmContext

end ChannelStep

end Spdm
