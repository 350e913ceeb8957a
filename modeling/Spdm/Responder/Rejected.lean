/-
  Spdm.Responder.Rejected — what a NEGOTIATE_ALGORITHMS answered with ERROR leaves
  (`write_spdm_algorithm`).
-/
import Spdm.Message.Attestation
import Spdm.Responder.Order

namespace Spdm

open Effect Codec

variable {bytes rest : Bytes} {c : SpdmContext}

/-! ## §1. The request is read from its front. -/

theorem framed_flagsLe (n : Nat) (mask : Flags) : Framed (flagsLe n mask) :=
  .bind (.uintLe n) fun _ => .ret _

theorem framed_parseSince {v w : SpdmVersion} {n : Nat} {mask : Flags} :
    Framed (parseSince v w n mask) := by
  unfold parseSince
  split_ifs
  · exact framed_flagsLe n mask
  · exact .bind (framed_skipBytes n) fun _ => .ret _

theorem framed_parseAlgStruct : Framed parseAlgStruct := by
  refine .bind .u8 fun t => .bind .u8 fun _ => .bind (.require _) fun _ => ?_
  cases SpdmAlgType.ofByte? t with
  | none => exact .fail ()
  | some t => exact .bind (framed_flagsLe _ _) fun _ => .ret _

theorem framed_parseAlgStructs (n : Nat) (current : UInt8) :
    Framed (parseAlgStructs n current) := by
  induction n generalizing current with
  | zero => exact .ret _
  | succ n ih =>
    exact .bind framed_parseAlgStruct fun _ => .bind (.require _) fun _ => .bind (ih _) fun _ =>
      .ret _

theorem framed_parseNegotiateAlgorithms (v : SpdmVersion) :
    Framed (parseNegotiateAlgorithms v) := by
  have hcount : Framed (parseStructCount v) := by
    refine .bind .u8 fun _ => ?_
    split_ifs
    · exact .bind (.require _) fun _ => .ret _
    · exact .ret _
  exact .bind hcount fun _ => .bind (framed_skipBytes _) fun _ => .bind (.uintLe _) fun _ =>
    .bind (framed_flagsLe _ _) fun _ => .bind framed_parseSince fun _ =>
    .bind (framed_flagsLe _ _) fun _ => .bind (framed_flagsLe _ _) fun _ =>
    .bind framed_parseSince fun _ => .bind (framed_skipBytes _) fun _ =>
    .bind .u8 fun _ => .bind (.require _) fun _ => .bind .u8 fun _ => .bind (.require _) fun _ =>
    .bind (framed_skipBytes _) fun _ => .bind framed_parseSince fun _ =>
    .bind (framed_parseAlgStructs _ _) fun _ => .bind (.require _) fun _ => .ret _

theorem consumed_ne_nil {α : Type} {p : Parser α} (hp : Framed p) {left : Bytes}
    {header : SpdmMessageHeader} {a : α} (hheader : parseHeader bytes = .ok header rest)
    (hparse : p rest = .ok a left) : consumed bytes left ≠ [] := by
  obtain rfl := parseHeader_eq_ok hheader
  obtain ⟨used, rfl, -⟩ := hp _ _ _ hparse
  intro hnil
  have hlength := congrArg List.length hnil
  simp only [consumed, List.length_take, List.length_append, List.length_nil, encodeHeader,
    List.length_cons] at hlength
  omega

namespace Responder

open SpdmContext SpdmRequestResponseCode SpdmErrorCode

/-! ## §2. What the parts write. -/

section
variable [Crypto] [Device]

def dropTranscripts (c : SpdmContext) : SpdmContext :=
  resetBufferViaRequestCode spdmRequestNegotiateAlgorithms none c

def OnlyNegotiated (c c' : SpdmContext) : Prop := c' = { c with negotiateInfo := c'.negotiateInfo }

omit [Crypto] [Device] in
theorem wp_appendA (m : Bytes) :
    wp (appendA m)
      (fun _ c' => (c.runtimeInfo.messageA ++ m).length ≤ maxManagedBufferASize ∧
        c'.runtimeInfo.messageA = c.runtimeInfo.messageA ++ m)
      (fun _ c' => maxManagedBufferASize < (c.runtimeInfo.messageA ++ m).length ∧ c' = c) c := by
  unfold appendA orRefuse appendMessageA
  simp only [wp_bind, wp_attempt, wp_read, wp_orFail, wp_update, wp_ret, appendMessage,
    List.length_append]
  split_ifs with hroom
  · exact ⟨fun out hout => ⟨hroom, (Option.some.inj hout).symm⟩, fun h => by cases h⟩
  · exact ⟨(fun out hout => by cases hout), fun _ => ⟨not_le.1 hroom, rfl⟩⟩

def GrowsA (c c' : SpdmContext) : Prop :=
  c.runtimeInfo.messageA.length ≤ c'.runtimeInfo.messageA.length

instance : StepRel GrowsA where
  refl _ := Nat.le_refl _
  trans h h' := Nat.le_trans h h'

omit [Crypto] [Device] in
theorem growsA_appendA {m : Bytes} : Within GrowsA (appendA m) := fun c =>
  wp_mono (wp_appendA m) (fun _ c' h => by simp [GrowsA, h.2]) fun _ c' h => by
    rw [h.2]
    exact Nat.le_refl _

theorem growsA_settleAlgorithms (p : NegotiateAlgorithmsPayload) :
    Within GrowsA (settleAlgorithms p) := by
  have hchains : Within GrowsA constructMyCertChain := by
    refine .forEach (fun slot => .bind .read fun c => ?_) _
    split
    · exact .bind within_liftResult fun _ => .bind (.assert _) fun _ => .bind (.orFail _ _)
        fun _ => .update fun _ => Nat.le_refl _
    · exact .ret _
  have hsame : ∀ {f : SpdmContext → SpdmContext}, (∀ c, (f c).runtimeInfo = c.runtimeInfo) →
      Within GrowsA (update f : Handler Unit) := fun hf => .update fun c => by
    simp [GrowsA, hf]
  have hclassical : ∀ c, (preferClassical c).runtimeInfo = c.runtimeInfo := fun c => by
    unfold preferClassical
    dsimp only
    split_ifs <;> rfl
  exact .bind (hsame fun _ => rfl) fun _ => .bind (hsame hclassical) fun _ =>
    .bind (within_orRefuse hchains) fun _ => .bind (hsame fun _ => rfl) fun _ =>
    .bind .read fun _ => .bind (within_respond _) fun _ => .bind growsA_appendA fun _ => .ret _

section
omit [Crypto] [Device]

@[simp] theorem dropTranscripts_negotiateInfo (c : SpdmContext) :
    (dropTranscripts c).negotiateInfo = c.negotiateInfo :=
  resetBufferViaRequestCode_negotiateInfo

theorem dropTranscripts_messageA (c : SpdmContext) :
    (dropTranscripts c).runtimeInfo.messageA = c.runtimeInfo.messageA := by
  rw [dropTranscripts, resetBufferViaRequestCode_none]
  rfl

theorem dropTranscripts_connectionState (c : SpdmContext) :
    (dropTranscripts c).runtimeInfo.connectionState = c.runtimeInfo.connectionState := by
  rw [dropTranscripts, resetBufferViaRequestCode_none]
  rfl

theorem resetTranscripts_idem {hashed : Bool} {opcode : UInt8} {r : SpdmRuntimeInfo} :
    resetTranscripts hashed opcode (resetTranscripts hashed opcode r) =
      resetTranscripts hashed opcode r := by
  unfold resetTranscripts
  dsimp only
  congr 1 <;> split_ifs <;> rfl

theorem dropTranscripts_idem :
    dropTranscripts (dropTranscripts c) = dropTranscripts c := by
  simp only [dropTranscripts, resetBufferViaRequestCode_none, resetTranscripts_idem]

end

/-! ## §4. A rejection. -/

def UnreadOffer (c : SpdmContext) (bytes : Bytes) : Prop :=
  c.runtimeInfo.connectionState ≠ .afterCapabilities ∨
    payloadOf (parseNegotiateAlgorithms c.negotiateInfo.spdmVersionSel)
      c.negotiateInfo.spdmVersionSel bytes = none

structure ReadOffer (c : SpdmContext) (bytes rest left : Bytes) (p : NegotiateAlgorithmsPayload) :
    Prop where
  state : c.runtimeInfo.connectionState = .afterCapabilities
  header : headerRest c.negotiateInfo.spdmVersionSel bytes = some rest
  payload : parseNegotiateAlgorithms c.negotiateInfo.spdmVersionSel rest = .ok p left

omit [Crypto] [Device] in
theorem unread_or_read (c : SpdmContext) (bytes : Bytes) :
    UnreadOffer c bytes ∨ ∃ rest left p, ReadOffer c bytes rest left p := by
  by_cases hstate : c.runtimeInfo.connectionState = .afterCapabilities
  · cases hpayload : payloadOf (parseNegotiateAlgorithms c.negotiateInfo.spdmVersionSel)
        c.negotiateInfo.spdmVersionSel bytes with
    | none => exact .inl (.inr hpayload)
    | some p =>
      obtain ⟨rest, hrest, hp⟩ := Option.bind_eq_some_iff.1 hpayload
      obtain ⟨left, hparse⟩ := Outcome.returned_eq_some.1 hp
      exact .inr ⟨rest, left, p, hstate, hrest, hparse⟩
  · exact .inl (.inl hstate)

omit [Crypto] [Device] in
theorem ReadOffer.not_unread {left : Bytes}
    {p : NegotiateAlgorithmsPayload} (h : ReadOffer c bytes rest left p) :
    ¬ UnreadOffer c bytes := by
  rintro (hstate | hnone)
  · exact hstate h.state
  · simp [payloadOf, h.header, h.payload, Outcome.returned] at hnone

theorem handleSpdmAlgorithm_of_unread (h : UnreadOffer c bytes) :
    wp (handleSpdmAlgorithm bytes) (fun _ _ => False)
      (fun _ c' => c' = c ∨ c' = dropTranscripts c) c := by
  unfold handleSpdmAlgorithm
  rw [wp_bind, wp_read, wp_bind]
  by_cases hstate : c.runtimeInfo.connectionState = .afterCapabilities
  · have hdemand : demand (c.runtimeInfo.connectionState == .afterCapabilities)
        .invalidStatePeer spdmErrorUnexpectedRequest c = .ok () c := by
      rw [hstate]
      rfl
    rw [wp_of_ok hdemand, wp_bind]
    cases hrest : headerRest c.negotiateInfo.spdmVersionSel bytes with
    | none => exact wp_mono (readHeader_of_none _ hrest) (fun _ _ h => h.elim) fun _ _ h => .inl h
    | some rest =>
      rw [wp_of_ok (readHeader_of_some _ hrest), wp_bind, wp_update, wp_bind]
      have hnone := h.resolve_left fun hne => hne hstate
      refine wp_mono (readPayload_of_none ?_) (fun _ _ h => h.elim) fun _ _ h => .inr h
      simpa [payloadOf, hrest] using hnone
  · rw [beq_eq_false_iff_ne.2 hstate]
    exact .inl rfl

theorem ReadOffer.handle {left : Bytes}
    {p : NegotiateAlgorithmsPayload} (h : ReadOffer c bytes rest left p) :
    handleSpdmAlgorithm bytes c =
      (takeOffer c.negotiateInfo.spdmVersionSel p >>= fun _ => appendA (consumed bytes left) >>=
        fun _ => settleAlgorithms p) (dropTranscripts c) := by
  have hdemand : demand (c.runtimeInfo.connectionState == .afterCapabilities)
      .invalidStatePeer spdmErrorUnexpectedRequest c = .ok () c := by
    rw [h.state]
    rfl
  unfold handleSpdmAlgorithm
  rw [read_bind, bind_of_ok hdemand, bind_of_ok (readHeader_of_some _ h.header), update_bind,
    bind_of_ok (readPayload_of_ok h.payload)]
  rfl

/-- **A rejected request leaves nothing behind**: `negotiate_info` and
message A are as before, and a later request is accepted, with the same
answer and the same state, exactly when it would have been. -/
structure Harmless (c c' : SpdmContext) : Prop where
  negotiateInfo : c'.negotiateInfo = c.negotiateInfo
  messageA : c'.runtimeInfo.messageA = c.runtimeInfo.messageA
  later : ∀ bytes m c'', handleSpdmAlgorithm bytes c' = .ok m c'' ↔
    handleSpdmAlgorithm bytes c = .ok m c''

theorem harmless_dropTranscripts (c : SpdmContext) : Harmless c (dropTranscripts c) := by
  refine ⟨dropTranscripts_negotiateInfo c, dropTranscripts_messageA c, fun bytes m c'' => ?_⟩
  obtain hunread | ⟨rest, left, p, hread⟩ := unread_or_read c bytes
  · have hunread' : UnreadOffer (dropTranscripts c) bytes := by
      unfold UnreadOffer
      rwa [dropTranscripts_connectionState, dropTranscripts_negotiateInfo]
    exact iff_of_false (fun h => wp_ok (handleSpdmAlgorithm_of_unread hunread') h)
      fun h => wp_ok (handleSpdmAlgorithm_of_unread hunread) h
  · have hread' : ReadOffer (dropTranscripts c) bytes rest left p :=
      ⟨by rw [dropTranscripts_connectionState, hread.state],
        by rw [dropTranscripts_negotiateInfo, hread.header],
        by rw [dropTranscripts_negotiateInfo, hread.payload]⟩
    rw [hread.handle, hread'.handle, dropTranscripts_idem, dropTranscripts_negotiateInfo]

/-! ## §5. The exits and the writes before them. -/

section
omit [Crypto] [Device]

def held (n : SpdmNegotiateInfo) : SpdmAlgType → Flags
  | .dhe => n.dheSel
  | .aead => n.aeadSel
  | .reqAsym => n.reqAsymSel
  | .keySchedule => n.keyScheduleSel
  | .pqcReqAsym => n.pqcReqAsymSel
  | .kem => n.kemSel

def unstructured (n : SpdmNegotiateInfo) : SpdmNegotiateInfo :=
  { n with dheSel := 0, aeadSel := 0, reqAsymSel := 0, keyScheduleSel := 0, pqcReqAsymSel := 0,
           kemSel := 0 }

theorem eq_of_unstructured {n n' : SpdmNegotiateInfo} (h : unstructured n = unstructured n')
    (hheld : ∀ t, held n t = held n' t) : n = n' := by
  have hdhe := hheld .dhe
  have haead := hheld .aead
  have hreq := hheld .reqAsym
  have hschedule := hheld .keySchedule
  have hpqc := hheld .pqcReqAsym
  have hkem := hheld .kem
  cases n
  cases n'
  simp_all [unstructured, held]

def soundStruct (v : SpdmVersion) (a : SpdmAlgStruct) : Bool :=
  ignoredStruct v a.algType || isValid a.algType.validMask a.algSupported

structure Wrote (as : List SpdmAlgStruct) (c c' : SpdmContext) : Prop where
  rest : OnlyNegotiated c c'
  unstructured : unstructured c'.negotiateInfo = unstructured c.negotiateInfo
  written : ∀ a ∈ as, ignoredStruct c.negotiateInfo.spdmVersionSel a.algType = false →
    held c'.negotiateInfo a.algType = a.algSupported
  kept : ∀ t, (∀ a ∈ as, ignoredStruct c.negotiateInfo.spdmVersionSel a.algType = false →
    a.algType ≠ t) → held c'.negotiateInfo t = held c.negotiateInfo t

theorem Wrote.eq_iff {as : List SpdmAlgStruct} {c' : SpdmContext} {n : SpdmNegotiateInfo}
    (h : Wrote as c c') (hheld : ∀ t, held c.negotiateInfo t = held n t) :
    c'.negotiateInfo = n ↔ Responder.unstructured c.negotiateInfo = Responder.unstructured n ∧
      ∀ a ∈ as, ignoredStruct c.negotiateInfo.spdmVersionSel a.algType = false →
        held n a.algType = a.algSupported := by
  constructor
  · rintro rfl
    exact ⟨h.unstructured.symm, h.written⟩
  · rintro ⟨hrest, hsame⟩
    refine eq_of_unstructured (h.unstructured.trans hrest) fun t => ?_
    by_cases ht : ∀ a ∈ as, ignoredStruct c.negotiateInfo.spdmVersionSel a.algType = false →
        a.algType ≠ t
    · rw [h.kept t ht, hheld]
    · simp only [not_forall, ne_eq, not_not] at ht
      obtain ⟨a, ha, htaken, rfl⟩ := ht
      rw [h.written a ha htaken, hsame a ha htaken]

theorem unstructured_offerStruct (a : SpdmAlgStruct) (n : SpdmNegotiateInfo) :
    Responder.unstructured (offerStruct a n) = Responder.unstructured n := by
  unfold offerStruct
  cases a.algType <;> rfl

theorem held_offerStruct (a : SpdmAlgStruct) (n : SpdmNegotiateInfo) (t : SpdmAlgType) :
    held (offerStruct a n) t = if a.algType = t then a.algSupported else held n t := by
  unfold offerStruct
  cases a.algType <;> cases t <;> rfl

namespace Wrote
variable {a : SpdmAlgStruct} {as : List SpdmAlgStruct} {c' : SpdmContext}

theorem nil (c : SpdmContext) : Wrote [] c c :=
  ⟨rfl, rfl, (fun _ h => by cases h), fun _ _ => rfl⟩

theorem cons_ignored (ha : ignoredStruct c.negotiateInfo.spdmVersionSel a.algType = true)
    (h : Wrote as c c') : Wrote (a :: as) c c' := by
  refine ⟨h.rest, h.unstructured, fun b hb htaken => ?_, fun t ht => h.kept t fun b hb =>
    ht b (.tail _ hb)⟩
  obtain rfl | hb := List.mem_cons.1 hb
  · rw [ha] at htaken
    cases htaken
  · exact h.written b hb htaken

theorem cons_taken (ha : ignoredStruct c.negotiateInfo.spdmVersionSel a.algType = false)
    (hfirst : ∀ b ∈ as, a.algType ≠ b.algType)
    (h : Wrote as { c with negotiateInfo := offerStruct a c.negotiateInfo } c') :
    Wrote (a :: as) c c' := by
  have hversion : (offerStruct a c.negotiateInfo).spdmVersionSel =
      c.negotiateInfo.spdmVersionSel :=
    congrArg (·.spdmVersionSel) (unstructured_offerStruct a c.negotiateInfo)
  obtain ⟨hrest, hflags, hwritten, hkept⟩ := h
  simp only [hversion, held_offerStruct] at hwritten hkept
  refine ⟨by unfold OnlyNegotiated at hrest ⊢; rw [hrest],
    hflags.trans (unstructured_offerStruct a _), fun b hb htaken => ?_, fun t ht => ?_⟩
  · obtain rfl | hb := List.mem_cons.1 hb
    · rw [hkept b.algType fun d hd _ => (hfirst d hd).symm, if_pos rfl]
    · exact hwritten b hb htaken
  · rw [hkept t fun b hb => ht b (.tail _ hb), if_neg (ht a (.head _) ha)]

end Wrote

theorem wp_selectStructs (as : List SpdmAlgStruct) (c : SpdmContext)
    (hdistinct : as.Pairwise fun a b => a.algType ≠ b.algType) :
    wp (forEach selectStruct as)
      (fun _ c' => (∀ a ∈ as, soundStruct c.negotiateInfo.spdmVersionSel a = true) ∧
        Wrote (as.takeWhile (soundStruct c.negotiateInfo.spdmVersionSel)) c c')
      (fun _ c' => (∃ a ∈ as, soundStruct c.negotiateInfo.spdmVersionSel a = false) ∧
        Wrote (as.takeWhile (soundStruct c.negotiateInfo.spdmVersionSel)) c c') c := by
  induction as generalizing c with
  | nil => exact ⟨(fun _ h => by cases h), .nil c⟩
  | cons a as ih =>
    obtain ⟨hfirst, hdistinct⟩ := List.pairwise_cons.1 hdistinct
    have hfirst' : ∀ b ∈ as.takeWhile (soundStruct c.negotiateInfo.spdmVersionSel),
        a.algType ≠ b.algType := fun b hb => hfirst b (List.takeWhile_subset _ hb)
    -- a sound structure is passed, and the rest follows from the state it leaves
    have hpass : ∀ c₁, soundStruct c.negotiateInfo.spdmVersionSel a = true →
        c₁.negotiateInfo.spdmVersionSel = c.negotiateInfo.spdmVersionSel →
        (∀ c', Wrote (as.takeWhile (soundStruct c.negotiateInfo.spdmVersionSel)) c₁ c' →
          Wrote (a :: as.takeWhile (soundStruct c.negotiateInfo.spdmVersionSel)) c c') →
        wp (forEach selectStruct as)
          (fun _ c' => (∀ b ∈ a :: as, soundStruct c.negotiateInfo.spdmVersionSel b = true) ∧
            Wrote ((a :: as).takeWhile (soundStruct c.negotiateInfo.spdmVersionSel)) c c')
          (fun _ c' => (∃ b ∈ a :: as, soundStruct c.negotiateInfo.spdmVersionSel b = false) ∧
            Wrote ((a :: as).takeWhile (soundStruct c.negotiateInfo.spdmVersionSel)) c c') c₁ := by
      intro c₁ hsound hversion hwrote
      have hrest := ih c₁ hdistinct
      rw [hversion] at hrest
      rw [List.takeWhile_cons, if_pos hsound]
      exact wp_mono hrest
        (fun _ c' h => ⟨List.forall_mem_cons.2 ⟨hsound, h.1⟩, hwrote c' h.2⟩)
        fun _ c' ⟨⟨b, hb, hbad⟩, h⟩ => ⟨⟨b, .tail _ hb, hbad⟩, hwrote c' h⟩
    unfold forEach selectStruct
    rw [wp_bind, wp_bind, wp_read]
    cases hignored : ignoredStruct c.negotiateInfo.spdmVersionSel a.algType with
    | true =>
      exact hpass c (by simp [soundStruct, hignored]) rfl fun _ h => h.cons_ignored hignored
    | false =>
      rw [if_neg Bool.false_ne_true, wp_bind]
      cases hvalid : isValid a.algType.validMask a.algSupported with
      | true =>
        exact hpass _ (by simp [soundStruct, hvalid])
          (congrArg (·.spdmVersionSel) (unstructured_offerStruct a c.negotiateInfo))
          fun _ h => h.cons_taken hignored hfirst'
      | false =>
        have hbad : soundStruct c.negotiateInfo.spdmVersionSel a = false := by
          simp [soundStruct, hignored, hvalid]
        refine ⟨⟨a, .head _, hbad⟩, ?_⟩
        rw [List.takeWhile_cons, hbad]
        exact .nil c

def refusesMultiKey (c : SpdmContext) (p : NegotiateAlgorithmsPayload) : Bool :=
  c.negotiateInfo.spdmVersionSel.atLeast .spdmVersion13 &&
    if contains p.otherParamsSupport SpdmAlgoOtherParams.multiKeyConn then
      !(contains c.configInfo.rspCapabilities SpdmResponseCapabilityFlags.multiKeyCapOnly ||
        contains c.configInfo.rspCapabilities SpdmResponseCapabilityFlags.multiKeyCapConnSel)
    else contains c.configInfo.rspCapabilities SpdmResponseCapabilityFlags.multiKeyCapOnly

structure RepeatsFirst (c : SpdmContext) (p : NegotiateAlgorithmsPayload) : Prop where
  measurementSpecification :
    p.measurementSpecification = c.negotiateInfo.measurementSpecificationSel
  multiKeyConnReq : c.negotiateInfo.spdmVersionSel.atLeast .spdmVersion13 = true →
    multiKeyRequested c = c.negotiateInfo.multiKeyConnReq

structure RepeatsFlags (c : SpdmContext) (p : NegotiateAlgorithmsPayload) : Prop
    extends RepeatsFirst c p where
  multiKeyConnRsp : c.negotiateInfo.spdmVersionSel.atLeast .spdmVersion13 = true →
    contains p.otherParamsSupport SpdmAlgoOtherParams.multiKeyConn =
      c.negotiateInfo.multiKeyConnRsp
  baseHash : p.baseHashAlgo = c.negotiateInfo.baseHashSel
  baseAsym : p.baseAsymAlgo = c.negotiateInfo.baseAsymSel
  melSpecification : (if c.negotiateInfo.spdmVersionSel.atLeast .spdmVersion13 &&
      contains c.configInfo.rspCapabilities SpdmResponseCapabilityFlags.melCap
    then p.melSpecification else 0) = c.negotiateInfo.melSpecificationSel
  pqcAsym : c.negotiateInfo.spdmVersionSel.atLeast .spdmVersion14 = true →
    p.pqcAsymAlgo = c.negotiateInfo.pqcAsymSel

def withFlags (c : SpdmContext) (p : NegotiateAlgorithmsPayload) : SpdmNegotiateInfo :=
  { c.negotiateInfo with
    measurementSpecificationSel := p.measurementSpecification
    multiKeyConnReq := if c.negotiateInfo.spdmVersionSel.atLeast .spdmVersion13
      then multiKeyRequested c else c.negotiateInfo.multiKeyConnReq
    multiKeyConnRsp := if c.negotiateInfo.spdmVersionSel.atLeast .spdmVersion13
      then contains p.otherParamsSupport SpdmAlgoOtherParams.multiKeyConn
      else c.negotiateInfo.multiKeyConnRsp
    baseHashSel := p.baseHashAlgo
    baseAsymSel := p.baseAsymAlgo
    melSpecificationSel := if c.negotiateInfo.spdmVersionSel.atLeast .spdmVersion13 &&
      contains c.configInfo.rspCapabilities SpdmResponseCapabilityFlags.melCap
      then p.melSpecification else 0
    pqcAsymSel := if c.negotiateInfo.spdmVersionSel.atLeast .spdmVersion14 then p.pqcAsymAlgo
      else c.negotiateInfo.pqcAsymSel }

theorem unstructured_withFlags_iff (p : NegotiateAlgorithmsPayload) :
    Responder.unstructured (withFlags c p) = Responder.unstructured c.negotiateInfo ↔
      RepeatsFlags c p := by
  constructor
  · intro h
    have hreq := congrArg (·.multiKeyConnReq) h
    have hrsp := congrArg (·.multiKeyConnRsp) h
    have hpqc := congrArg (·.pqcAsymSel) h
    simp only [Responder.unstructured, withFlags] at hreq hrsp hpqc
    exact ⟨⟨congrArg (·.measurementSpecificationSel) h, fun hv => by rwa [if_pos hv] at hreq⟩,
      fun hv => by rwa [if_pos hv] at hrsp, congrArg (·.baseHashSel) h, congrArg (·.baseAsymSel) h,
      congrArg (·.melSpecificationSel) h, fun hv => by rwa [if_pos hv] at hpqc⟩
  · rintro ⟨⟨hspecification, hreq⟩, hrsp, hhash, hasym, hmel, hpqc⟩
    unfold withFlags
    rw [hspecification, hhash, hasym, hmel, ite_eq_right_iff.2 hreq, ite_eq_right_iff.2 hrsp,
      ite_eq_right_iff.2 hpqc]

def RepeatsStructs (c : SpdmContext) (p : NegotiateAlgorithmsPayload) : Prop :=
  ∀ a ∈ p.algStruct.takeWhile (soundStruct c.negotiateInfo.spdmVersionSel),
    ignoredStruct c.negotiateInfo.spdmVersionSel a.algType = false →
      held c.negotiateInfo a.algType = a.algSupported

inductive RefusedUnwritten (c : SpdmContext) (p : NegotiateAlgorithmsPayload) (request : Bytes) :
    Prop
  | multiKey (refuses : refusesMultiKey c p = true) (first : RepeatsFirst c p)
  | struct (passes : refusesMultiKey c p = false) (flags : RepeatsFlags c p)
      (structs : RepeatsStructs c p)
      (exit : ∃ a ∈ p.algStruct, soundStruct c.negotiateInfo.spdmVersionSel a = false)
  | full (passes : refusesMultiKey c p = false) (flags : RepeatsFlags c p)
      (structs : RepeatsStructs c p)
      (sound : ∀ a ∈ p.algStruct, soundStruct c.negotiateInfo.spdmVersionSel a = true)
      (exit : maxManagedBufferASize < (c.runtimeInfo.messageA ++ request).length)

/-- The request leaves nothing: it comes at the wrong time or cannot be
read, or is refused with nothing new written. -/
def RejectedEarly (c : SpdmContext) (bytes : Bytes) : Prop :=
  UnreadOffer c bytes ∨ ∃ rest left p, ReadOffer c bytes rest left p ∧
    RefusedUnwritten c p (consumed bytes left)

theorem pairwise_of_parseAlgStructs {n : Nat} {current : UInt8} {left : Bytes}
    {as : List SpdmAlgStruct} (h : parseAlgStructs n current rest = .ok as left) :
    (∀ a ∈ as, current < a.algType.toByte) ∧ as.Pairwise fun a b => a.algType ≠ b.algType := by
  induction n generalizing current rest as left with
  | zero =>
    obtain ⟨rfl, -⟩ := ret_eq_ok.1 h
    exact ⟨(fun _ h => by cases h), .nil⟩
  | succ n ih =>
    obtain ⟨a, _, -, h⟩ := bind_eq_ok.1 h
    obtain ⟨_, _, hrequire, h⟩ := bind_eq_ok.1 h
    obtain ⟨as', _, hrest, h⟩ := bind_eq_ok.1 h
    obtain ⟨rfl, -⟩ := ret_eq_ok.1 h
    have hlt : current < a.algType.toByte := of_decide_eq_true (guardElse_eq_ok.1 hrequire).1
    obtain ⟨habove, hdistinct⟩ := ih hrest
    refine ⟨List.forall_mem_cons.2 ⟨hlt, fun b hb => UInt8.lt_trans hlt (habove b hb)⟩,
      .cons (fun b hb heq => ?_) hdistinct⟩
    exact UInt8.lt_irrefl _ (heq ▸ habove b hb)

theorem ReadOffer.distinct {left : Bytes} {p : NegotiateAlgorithmsPayload}
    (h : ReadOffer c bytes rest left p) :
    p.algStruct.Pairwise fun a b => a.algType ≠ b.algType := by
  have hparse := h.payload
  unfold parseNegotiateAlgorithms at hparse
  iterate 15 obtain ⟨_, _, -, hparse⟩ := bind_eq_ok.1 hparse
  obtain ⟨as, _, hstructs, hparse⟩ := bind_eq_ok.1 hparse
  obtain ⟨_, _, -, hparse⟩ := bind_eq_ok.1 hparse
  obtain ⟨rfl, -⟩ := ret_eq_ok.1 hparse
  exact (pairwise_of_parseAlgStructs hstructs).2

def OfferTaken (c : SpdmContext) (r : SpdmRuntimeInfo) (p : NegotiateAlgorithmsPayload)
    (c' : SpdmContext) : Prop :=
  OnlyNegotiated { c with runtimeInfo := r } c' ∧ refusesMultiKey c p = false ∧
    (∀ a ∈ p.algStruct, soundStruct c.negotiateInfo.spdmVersionSel a = true) ∧
    (c'.negotiateInfo = c.negotiateInfo ↔ RepeatsFlags c p ∧ RepeatsStructs c p)

def OfferRefused (c : SpdmContext) (r : SpdmRuntimeInfo) (p : NegotiateAlgorithmsPayload)
    (c' : SpdmContext) : Prop :=
  OnlyNegotiated { c with runtimeInfo := r } c' ∧
    (refusesMultiKey c p = true ∧ (c'.negotiateInfo = c.negotiateInfo ↔ RepeatsFirst c p) ∨
      refusesMultiKey c p = false ∧
      (∃ a ∈ p.algStruct, soundStruct c.negotiateInfo.spdmVersionSel a = false) ∧
      (c'.negotiateInfo = c.negotiateInfo ↔ RepeatsFlags c p ∧ RepeatsStructs c p))

theorem wp_takeOffer {p : NegotiateAlgorithmsPayload} (r : SpdmRuntimeInfo)
    (hdistinct : p.algStruct.Pairwise fun a b => a.algType ≠ b.algType) :
    wp (takeOffer c.negotiateInfo.spdmVersionSel p) (fun _ => OfferTaken c r p)
      (fun _ => OfferRefused c r p) { c with runtimeInfo := r } := by
  -- past the multi-key settings, the structures decide
  have hstructs (hpasses : refusesMultiKey c p = false) : wp (forEach selectStruct p.algStruct)
      (fun _ => OfferTaken c r p) (fun _ => OfferRefused c r p)
      { c with runtimeInfo := r, negotiateInfo := withFlags c p } := by
    have hwrote : ∀ c', Wrote (p.algStruct.takeWhile (soundStruct c.negotiateInfo.spdmVersionSel))
        { c with runtimeInfo := r, negotiateInfo := withFlags c p } c' →
          OnlyNegotiated { c with runtimeInfo := r } c' ∧
          (c'.negotiateInfo = c.negotiateInfo ↔ RepeatsFlags c p ∧ RepeatsStructs c p) := by
      intro c' h
      have hrest := h.rest
      unfold OnlyNegotiated at hrest ⊢
      refine ⟨by rw [hrest], ?_⟩
      rw [h.eq_iff (n := c.negotiateInfo) fun t => by cases t <;> rfl]
      exact and_congr (unstructured_withFlags_iff p) Iff.rfl
    exact wp_mono (wp_selectStructs p.algStruct _ hdistinct)
      (fun _ c' h => ⟨(hwrote c' h.2).1, hpasses, h.1, (hwrote c' h.2).2⟩)
      fun _ c' h => ⟨(hwrote c' h.2).1, .inr ⟨hpasses, h.1, (hwrote c' h.2).2⟩⟩
  unfold takeOffer
  rw [wp_bind, wp_update, wp_bind]
  cases hv : c.negotiateInfo.spdmVersionSel.atLeast .spdmVersion13 with
  | false =>
    have hpasses : refusesMultiKey c p = false := by simp [refusesMultiKey, hv]
    rw [if_neg Bool.false_ne_true, wp_ret, wp_bind, wp_update]
    convert hstructs hpasses using 1
    simp only [offerFlags, withFlags, hv]
    rfl
  | true =>
    have hagrees : (if contains p.otherParamsSupport SpdmAlgoOtherParams.multiKeyConn then
          contains c.configInfo.rspCapabilities SpdmResponseCapabilityFlags.multiKeyCapOnly ||
          contains c.configInfo.rspCapabilities SpdmResponseCapabilityFlags.multiKeyCapConnSel
        else !contains c.configInfo.rspCapabilities SpdmResponseCapabilityFlags.multiKeyCapOnly) =
        !refusesMultiKey c p := by
      unfold refusesMultiKey
      rw [hv]
      split_ifs <;> simp
    rw [if_pos rfl]
    unfold selectMultiKey
    simp only [wp_bind, wp_read, wp_update, hagrees]
    by_cases hrefuses : refusesMultiKey c p = true
    · have hfirst : ∀ n : SpdmNegotiateInfo, n = { c.negotiateInfo with
          measurementSpecificationSel := p.measurementSpecification
          multiKeyConnReq := multiKeyRequested c } →
          (n = c.negotiateInfo ↔ RepeatsFirst c p) := by
        rintro _ rfl
        refine ⟨fun h => ⟨congrArg (·.measurementSpecificationSel) h, fun _ =>
          congrArg (·.multiKeyConnReq) h⟩, fun h => ?_⟩
        rw [h.measurementSpecification, h.multiKeyConnReq hv]
      rw [hrefuses]
      exact ⟨rfl, .inl ⟨hrefuses, hfirst _ rfl⟩⟩
    · have hpasses : refusesMultiKey c p = false := by simpa using hrefuses
      have hdemand : ∀ c₁ : SpdmContext, demand (!refusesMultiKey c p) .invalidMsgField
          spdmErrorInvalidRequest c₁ = .ok () c₁ := fun c₁ => by
        rw [hpasses]
        rfl
      rw [wp_of_ok (hdemand _), wp_update, wp_bind, wp_update]
      convert hstructs hpasses using 1
      simp only [offerFlags, withFlags, hv]
      rfl

end

/-- **A rejected request leaves nothing behind exactly when** it was rejected
before the first write, or repeats what is there up to where it is
refused. -/
theorem rejection_harmless_iff {bytes : Bytes} {r : Refusal} {c c' : SpdmContext}
    (h : handleSpdmAlgorithm bytes c = .err r c') :
    Harmless c c' ↔ RejectedEarly c bytes := by
  obtain hunread | ⟨rest, left, p, hread⟩ := unread_or_read c bytes
  · refine iff_of_true ?_ (.inl hunread)
    obtain rfl | rfl := wp_err (handleSpdmAlgorithm_of_unread hunread) h
    · exact ⟨rfl, rfl, fun _ _ _ => Iff.rfl⟩
    · exact harmless_dropTranscripts c
  -- the reading is unique, so the condition is about this one
  have hiff : RejectedEarly c bytes ↔ RefusedUnwritten c p (consumed bytes left) := by
    constructor
    · rintro (hunread | ⟨rest', left', p', hread', hrefused⟩)
      · exact absurd hunread hread.not_unread
      · obtain rfl : rest = rest' := Option.some.inj (hread.header.symm.trans hread'.header)
        obtain ⟨rfl, rfl⟩ : p = p' ∧ left = left' := by
          simpa using hread.payload.symm.trans hread'.payload
        exact hrefused
    · exact fun hrefused => .inr ⟨rest, left, p, hread, hrefused⟩
  rw [hiff]
  have hdrop : dropTranscripts c = { c with runtimeInfo := (dropTranscripts c).runtimeInfo } := by
    rw [dropTranscripts, resetBufferViaRequestCode_none]
  have hoffer := wp_takeOffer (c := c) (dropTranscripts c).runtimeInfo hread.distinct
  unfold OfferTaken OfferRefused at hoffer
  rw [← hdrop] at hoffer
  rw [hread.handle] at h
  -- a rejection that left `negotiate_info` only dropped transcripts
  have hleft : ∀ {P : Prop}, OnlyNegotiated (dropTranscripts c) c' →
      (c'.negotiateInfo = c.negotiateInfo ↔ P) → P → Harmless c c' := fun honly hsame hP => by
    have hc' : c' = dropTranscripts c := by
      rw [honly, hsame.2 hP, ← dropTranscripts_negotiateInfo c]
    rw [hc']
    exact harmless_dropTranscripts c
  obtain herr | ⟨u, c₁, hok, htail⟩ := bind_eq_err.1 h
  · obtain ⟨honly, ⟨hrefuses, hsame⟩ | ⟨hpasses, hexit, hsame⟩⟩ := wp_err hoffer herr
    · constructor
      · exact fun hharmless => .multiKey hrefuses (hsame.1 hharmless.negotiateInfo)
      · rintro (⟨-, hfirst⟩ | ⟨hpasses, -⟩ | ⟨hpasses, -⟩)
        · exact hleft honly hsame hfirst
        · exact absurd (hpasses.symm.trans hrefuses) Bool.false_ne_true
        · exact absurd (hpasses.symm.trans hrefuses) Bool.false_ne_true
    · constructor
      · intro hharmless
        obtain ⟨hflags, hstructs⟩ := hsame.1 hharmless.negotiateInfo
        exact .struct hpasses hflags hstructs hexit
      · rintro (⟨hrefuses, -⟩ | ⟨-, hflags, hstructs, -⟩ | ⟨-, -, -, hsound, -⟩)
        · exact absurd (hpasses.symm.trans hrefuses) Bool.false_ne_true
        · exact hleft honly hsame ⟨hflags, hstructs⟩
        · obtain ⟨a, ha, hbad⟩ := hexit
          exact absurd (hbad.symm.trans (hsound a ha)) Bool.false_ne_true
  obtain ⟨honly, hpasses, hsound, hsame⟩ := wp_ok hoffer hok
  have hA : c₁.runtimeInfo.messageA = c.runtimeInfo.messageA := by
    rw [honly]
    exact dropTranscripts_messageA c
  obtain hfull | ⟨u', c₂, hkept, hsettle⟩ := bind_eq_err.1 htail
  · -- the request does not fit message A
    obtain ⟨hlong, rfl⟩ := wp_err (wp_appendA _) hfull
    rw [hA] at hlong
    constructor
    · intro hharmless
      obtain ⟨hflags, hstructs⟩ := hsame.1 hharmless.negotiateInfo
      exact .full hpasses hflags hstructs hsound hlong
    · rintro (⟨hrefuses, -⟩ | ⟨-, -, -, a, ha, hbad⟩ | ⟨-, hflags, hstructs, -⟩)
      · exact absurd (hpasses.symm.trans hrefuses) Bool.false_ne_true
      · exact absurd (hbad.symm.trans (hsound a ha)) Bool.false_ne_true
      · exact hleft honly hsame ⟨hflags, hstructs⟩
  · -- rejected after the request was kept: message A has grown
    obtain ⟨hroom, hgrown⟩ := wp_ok (wp_appendA _) hkept
    rw [hA] at hroom hgrown
    refine iff_of_false (fun hharmless => ?_) ?_
    · have hlater : GrowsA c₂ c' := (growsA_settleAlgorithms p).of_err hsettle
      obtain ⟨header, hheader, -⟩ := headerRest_eq_some hread.header
      have hne := consumed_ne_nil (framed_parseNegotiateAlgorithms _) hheader hread.payload
      have hpos := List.length_pos_iff.2 hne
      rw [GrowsA, hgrown, hharmless.messageA, List.length_append] at hlater
      omega
    · rintro (⟨hrefuses, -⟩ | ⟨-, -, -, a, ha, hbad⟩ | ⟨-, -, -, -, hlong⟩)
      · exact absurd (hpasses.symm.trans hrefuses) Bool.false_ne_true
      · exact absurd (hbad.symm.trans (hsound a ha)) Bool.false_ne_true
      · omega

end

/-! ## §6. A rejected offer that counts. -/

namespace SmallRun

open SmallBackend

def classicalResponder : SpdmContext :=
  { SpdmContext.new (smallBuild false false) (smallTransport 0)
      { smallConfigInfo SpdmResponseCapabilityFlags.certCap with
        baseAsymAlgo := SpdmBaseAsymAlgo.tpmAlgEcdsaEccNistP256
        dheAlgo := SpdmDheAlgo.secp256R1 } {} with
    negotiateInfo := { spdmVersionSel := .spdmVersion12
                       rspCapabilitiesSel := SpdmResponseCapabilityFlags.certCap }
    runtimeInfo := { connectionState := .afterCapabilities } }

def classicalOffer : NegotiateAlgorithmsPayload :=
  { baseHashAlgo := SpdmBaseHashAlgo.tpmAlgSha256
    baseAsymAlgo := SpdmBaseAsymAlgo.tpmAlgEcdsaEccNistP256
    algStruct := [⟨.dhe, SpdmDheAlgo.secp256R1⟩, ⟨.aead, SpdmAeadAlgo.aes128Gcm⟩] }

theorem short_rejection_harmless : ∃ r c', handleSpdmAlgorithm
    (encodeHeader .spdmVersion12 spdmRequestNegotiateAlgorithms) classicalResponder = .err r c' ∧
      Harmless classicalResponder c' := by
  have hnone : payloadOf (parseNegotiateAlgorithms .spdmVersion12) .spdmVersion12
      (encodeHeader .spdmVersion12 spdmRequestNegotiateAlgorithms) = none := by decide
  have hfails : (handleSpdmAlgorithm (encodeHeader .spdmVersion12
      spdmRequestNegotiateAlgorithms) classicalResponder).errWith (fun _ _ => true) = true := by
    decide +kernel
  obtain ⟨r, c', hrun, -⟩ := Outcome.exists_of_errWith hfails
  exact ⟨r, c', hrun, (rejection_harmless_iff hrun).2 (.inl (.inr hnone))⟩

def brokenOffer : NegotiateAlgorithmsPayload :=
  { classicalOffer with algStruct := [⟨.dhe, SpdmDheAlgo.secp256R1⟩, ⟨.aead, 0⟩] }

def plainOffer : NegotiateAlgorithmsPayload :=
  { classicalOffer with algStruct := [⟨.aead, SpdmAeadAlgo.aes128Gcm⟩] }

def settledGroup (p : NegotiateAlgorithmsPayload) (c : SpdmContext) : Option Flags :=
  match handleSpdmAlgorithm (encodeNegotiateAlgorithms .spdmVersion12 p) c with
  | .ok _ c' => some c'.negotiateInfo.dheSel
  | _ => none

theorem rejected_group_selected : ∃ r c', handleSpdmAlgorithm
    (encodeNegotiateAlgorithms .spdmVersion12 brokenOffer) classicalResponder = .err r c' ∧
      c'.negotiateInfo.dheSel ≠ classicalResponder.negotiateInfo.dheSel ∧
      settledGroup plainOffer classicalResponder = some 0 ∧
      settledGroup plainOffer c' = some SpdmDheAlgo.secp256R1 := by
  have hfacts : (handleSpdmAlgorithm (encodeNegotiateAlgorithms .spdmVersion12 brokenOffer)
      classicalResponder).errWith (fun _ c' =>
        c'.negotiateInfo.dheSel != classicalResponder.negotiateInfo.dheSel &&
          settledGroup plainOffer c' == some SpdmDheAlgo.secp256R1) = true := by decide +kernel
  have hplain : settledGroup plainOffer classicalResponder = some 0 := by decide +kernel
  obtain ⟨r, c', hrun, hfacts⟩ := Outcome.exists_of_errWith hfacts
  simp only [Bool.and_eq_true, bne_iff_ne, beq_iff_eq] at hfacts
  exact ⟨r, c', hrun, hfacts.1, hplain, hfacts.2⟩

end SmallRun

end Responder

end Spdm
