/-
  Spdm.Requester.Algorithms — what the requester stores of ALGORITHMS
  (`requester/negotiate_algorithms_req.rs`).
-/
import Spdm.Message.Selection
import Spdm.Requester.Negotiation
import Spdm.Context.Small

namespace Spdm

open Effect Codec

namespace Requester

open SpdmContext SpdmRequestResponseCode

/-! ## §1. What a response selects. -/

def selection (v : SpdmVersion) (p : AlgorithmsPayload) : Algorithm → Option Flags
  | .measurementHash => some p.measurementHashAlgo
  | .baseHash => some p.baseHashSel
  | .baseAsym => some p.baseAsymSel
  | .pqcAsym => if v.atLeast .spdmVersion14 then some p.pqcAsymSel else none
  | .struct t => takenOf v t p.algStruct

def offer (c : SpdmContext) : Algorithm → Option Flags
  | .measurementHash => none
  | .baseHash => some (negotiateAlgorithmsPayload c).baseHashAlgo
  | .baseAsym => some (negotiateAlgorithmsPayload c).baseAsymAlgo
  | .pqcAsym => some (negotiateAlgorithmsPayload c).pqcAsymAlgo
  | .struct t => some (if c.negotiateInfo.spdmVersionSel.atLeast .spdmVersion11 then
      selectedOf t (negotiateAlgorithmsPayload c).algStruct else 0)

def algorithmsOf (c : SpdmContext) (response : Bytes) : Option AlgorithmsPayload :=
  match parseHeader response with
  | .ok _ rest => (parseAlgorithmsResponse c rest).returned
  | _ => none

/-! ## §2. What is stored. -/

theorem takeStruct_selected (a : SpdmAlgStruct) (c : SpdmContext) :
    let taken := takenFrom c.negotiateInfo.spdmVersionSel [a]
    wp (takeStruct a) (fun _ c' => Selecting taken c c' ∧ ∀ k s, taken k = some s → AtMostOne s)
      (fun _ _ => True) c := by
  intro taken
  have htaken : ∀ k, taken k = _ := takenFrom_singleton _ a
  obtain ⟨t, bits⟩ := a
  unfold takeStruct
  rw [wp_bind, wp_read]
  rw [passedOver_eq]
  cases hkept : !sinceVersion14 t || c.negotiateInfo.spdmVersionSel.atLeast .spdmVersion14 with
  | false =>
    -- a kind that the version does not have is passed over
    rw [hkept] at htaken
    refine ⟨⟨rfl, rfl, fun k => by simp [htaken]⟩, fun k s hs => ?_⟩
    simp [htaken] at hs
  | true =>
    rw [hkept] at htaken
    rw [Bool.not_true, if_neg Bool.false_ne_true, wp_bind, wp_guardElse]
    refine ⟨fun hone => ⟨⟨rfl, ?_, fun k => ?_⟩, fun k s hs => ?_⟩, fun _ => trivial⟩
    · cases t <;> rfl
    · rw [htaken]
      cases k with
      | struct t' => cases t <;> cases t' <;> rfl
      | _ => cases t <;> rfl
    · rw [htaken] at hs
      obtain rfl : bits = s := by
        split at hs
        · exact Option.some.inj hs
        · cases hs
      exact isNoMoreThanOneSelected_iff.1 hone

theorem takeStructs_selected (as : List SpdmAlgStruct) (c : SpdmContext) :
    let taken := takenFrom c.negotiateInfo.spdmVersionSel as
    wp (forEach takeStruct as) (fun _ c' => Selecting taken c c' ∧
      ∀ k s, taken k = some s → AtMostOne s) (fun _ _ => True) c := by
  induction as generalizing c with
  | nil => exact ⟨⟨rfl, rfl, fun k => by cases k <;> rfl⟩, fun k _ h => by cases k <;> cases h⟩
  | cons a as ih =>
    rw [forEach, wp_bind]
    refine wp_mono (takeStruct_selected a c) (fun _ c₁ ⟨hone, hsingle⟩ => ?_) fun _ _ _ => trivial
    refine wp_mono (ih c₁) (fun _ c₂ h => ?_) fun _ _ _ => trivial
    rw [hone.version] at h
    obtain ⟨hrest, hsingles⟩ := h
    rw [takenFrom_cons]
    refine ⟨hone.trans hrest, fun k s hs => ?_⟩
    rcases Option.or_eq_some_iff.1 hs with hs | ⟨-, hs⟩
    · exact hsingles k s hs
    · exact hsingle k s hs

theorem unselected_takeMultiKey (p : AlgorithmsPayload) : Within Unselected (takeMultiKey p) :=
  .bind .read fun _ =>
    .bind (.update fun _ => ⟨rfl, rfl, by rintro (_ | _ | _ | _ | (_ | _)) <;> rfl⟩) fun _ =>
    .bind (.guardElse _ _) fun _ =>
    .update fun _ => ⟨rfl, rfl, by rintro (_ | _ | _ | _ | (_ | _)) <;> rfl⟩

theorem unselected_takeMel (p : AlgorithmsPayload) : Within Unselected (takeMel p) :=
  .bind .read fun _ => .bind (.guardElse _ _) fun _ =>
    .update fun _ => ⟨rfl, rfl, by rintro (_ | _ | _ | _ | (_ | _)) <;> rfl⟩

def takenFields (v : SpdmVersion) (p : AlgorithmsPayload) : Algorithm → Option Flags
  | .struct _ => none
  | k => selection v p k

theorem takeSelections_selected (p : AlgorithmsPayload) (c : SpdmContext) :
    wp (takeSelections p)
      (fun _ => Selecting (takenFields c.negotiateInfo.spdmVersionSel p) c)
        (fun _ _ => True) c := by
  unfold takeSelections
  rw [wp_bind, wp_update, wp_bind, wp_guardElse]
  refine ⟨fun _ => ?_, fun _ => trivial⟩
  rw [wp_bind, wp_update, wp_guardElse]
  refine ⟨fun _ => ⟨rfl, rfl, ?_⟩, fun _ => trivial⟩
  rintro (_ | _ | _ | _ | (_ | _)) <;> try rfl
  dsimp only [takenFields, selection, SpdmNegotiateInfo.selected]
  split <;> rfl

theorem algorithmResponse_selected {request response : Bytes} {c c' : SpdmContext}
    (h : handleSpdmAlgorithmResponse request response c = .ok () c') :
    ∃ p, algorithmsOf c response = some p ∧ WellSelected c p ∧
      Selecting (selection c.negotiateInfo.spdmVersionSel p) c c' ∧
      ∀ k s, takenFrom c.negotiateInfo.spdmVersionSel p.algStruct k = some s → AtMostOne s := by
  obtain ⟨rest, hresponse, h⟩ := onResponse_eq_ok h
  rw [read_bind] at h
  obtain ⟨⟨p, left⟩, _, hread, h⟩ := bind_eq_ok.1 h
  obtain ⟨hparse, rfl⟩ := readResponse_eq_ok hread
  have hpayload : algorithmsOf c response = some p := by
    unfold algorithmsOf
    rw [hresponse, parseHeader_encodeHeader]
    dsimp only
    rw [hparse]
    rfl
  have hwell := wp_ok (ends_parseAlgorithmsResponse c rest) hparse
  refine ⟨p, hpayload, hwell, ?_⟩
  -- the settings before and after select nothing
  obtain ⟨_, c₁, hupdate, h⟩ := bind_eq_ok.1 h
  obtain ⟨_, c₂, hmulti, h⟩ := bind_eq_ok.1 h
  obtain ⟨_, c₃, hfields, h⟩ := bind_eq_ok.1 h
  obtain ⟨_, c₄, hstructs, h⟩ := bind_eq_ok.1 h
  have hbefore : Unselected c c₂ := by
    have h₁ : Unselected c c₁ := by
      cases hupdate
      exact ⟨rfl, rfl, by rintro (_ | _ | _ | _ | (_ | _)) <;> rfl⟩
    refine StepRel.trans h₁ ?_
    split at hmulti
    · exact (unselected_takeMultiKey p).ran (.inl ⟨_, hmulti⟩)
    · cases hmulti
      exact StepRel.refl _
  have hafter : Unselected c₄ c' := by
    have htail : Within Unselected (do
        (if c.negotiateInfo.spdmVersionSel.atLeast .spdmVersion13 then takeMel p else ret ())
        appendMessageA request
        appendMessageA (consumed response left)) := by
      refine .bind ?_ fun _ => .bind (unselected_appendMessageA _) fun _ =>
        unselected_appendMessageA _
      split
      · exact unselected_takeMel p
      · exact .ret _
    exact htail.ran (.inl ⟨_, h⟩)
  have hselections := wp_ok (takeSelections_selected p c₂) hfields
  have hfields := Selecting.before hbefore hselections
  obtain ⟨hstructs, hsingles⟩ := wp_ok (takeStructs_selected p.algStruct c₃) hstructs
  rw [hfields.version] at hstructs hsingles
  rw [hbefore.version] at hfields
  refine ⟨?_, hsingles⟩
  have hall := (hfields.trans hstructs).after hafter
  refine ⟨hall.configInfo, hall.version, fun k => (hall.selected k).trans ?_⟩
  cases k with
  | struct t =>
    change ((takenOf _ t _).or none).getD _ = (takenOf _ t _).getD _
    rw [Option.or_none]
  | _ => rfl

theorem atMostOne_of_selection {c : SpdmContext} {v : SpdmVersion}
    {p : AlgorithmsPayload} (h : WellSelected c p)
    (hsingles : ∀ k s, takenFrom v p.algStruct k = some s → AtMostOne s) {k : Algorithm} {s : Flags}
    (hs : selection v p k = some s) : AtMostOne s := by
  cases k with
  | measurementHash => exact Option.some.inj hs ▸ h.measurementHash
  | baseHash => exact Option.some.inj hs ▸ h.baseHash
  | baseAsym => exact Option.some.inj hs ▸ h.baseAsym
  | pqcAsym =>
    rw [selection] at hs
    split at hs
    · exact Option.some.inj hs ▸ h.pqcAsym
    · cases hs
  | struct t => exact hsingles (.struct t) s hs

/-! ## §3. Sound selections. -/

/-- **What ALGORITHMS is to leave**: of each kind at most one algorithm, and
one that was offered; one signature where the responder signs. -/
structure SoundSelection (c c' : SpdmContext) : Prop where
  offered : ∀ k o, offer c k = some o → contains o (c'.negotiateInfo.selected k) = true
  single : ∀ k, AtMostOne (c'.negotiateInfo.selected k)
  signature : (negotiatedCaps c).signs = true →
    (c'.negotiateInfo.baseAsymSel = 0 ∧ c'.negotiateInfo.pqcAsymSel ≠ 0 ∨
      c'.negotiateInfo.baseAsymSel ≠ 0 ∧ c'.negotiateInfo.pqcAsymSel = 0)

/-- The response selects from the offer; a kind it does not select was sound
before; below version 1.4 the signature is classical. -/
structure SelectsOffered (c : SpdmContext) (p : AlgorithmsPayload) : Prop where
  offered : ∀ k o s, offer c k = some o →
    selection c.negotiateInfo.spdmVersionSel p k = some s → contains o s = true
  stale : ∀ k, selection c.negotiateInfo.spdmVersionSel p k = none →
    AtMostOne (c.negotiateInfo.selected k) ∧
      ∀ o, offer c k = some o → contains o (c.negotiateInfo.selected k) = true
  classical : c.negotiateInfo.spdmVersionSel.atLeast .spdmVersion14 = false →
    (negotiatedCaps c).signs = true → p.baseAsymSel ≠ 0

theorem offer_pqcAsym {c : SpdmContext}
    (hv : c.negotiateInfo.spdmVersionSel.atLeast .spdmVersion14 = false) :
    offer c .pqcAsym = some 0 := by
  simp [offer, negotiateAlgorithmsPayload, hv]

theorem contains_zero {a : Flags} : contains 0 a = true ↔ a = 0 := by
  rw [contains, Nat.zero_and, beq_iff_eq]
  exact eq_comm

/-- **An accepted ALGORITHMS response leaves a sound selection exactly when
it selects from the offer.** -/
theorem algorithms_sound_iff {request response : Bytes} {c c' : SpdmContext}
    (h : handleSpdmAlgorithmResponse request response c = .ok () c') :
    SoundSelection c c' ↔ ∃ p, algorithmsOf c response = some p ∧ SelectsOffered c p := by
  obtain ⟨p, hp, hwell, htakes, hsingles⟩ := algorithmResponse_selected h
  have hselected : ∀ {k s}, selection c.negotiateInfo.spdmVersionSel p k = some s →
      c'.negotiateInfo.selected k = s := fun {k s} hs => by rw [htakes.selected, hs]; rfl
  have hkept : ∀ {k}, selection c.negotiateInfo.spdmVersionSel p k = none →
      c'.negotiateInfo.selected k = c.negotiateInfo.selected k := fun {k} hs => by
    rw [htakes.selected, hs]
    rfl
  have hbase : c'.negotiateInfo.baseAsymSel = p.baseAsymSel := hselected (k := .baseAsym) rfl
  constructor
  · intro hsound
    refine ⟨p, hp, fun k o s ho hs => hselected hs ▸ hsound.offered k o ho, fun k hs =>
      ⟨hkept hs ▸ hsound.single k, fun o ho => hkept hs ▸ hsound.offered k o ho⟩,
        fun hv hsigns => ?_⟩
    have hpqc : c'.negotiateInfo.pqcAsymSel = 0 :=
      contains_zero.1 (hsound.offered .pqcAsym 0 (offer_pqcAsym hv))
    rw [← hbase]
    obtain ⟨-, h⟩ | ⟨h, -⟩ := hsound.signature hsigns
    · exact absurd hpqc h
    · exact h
  · rintro ⟨p', hp', hoffered⟩
    obtain rfl : p = p' := Option.some.inj (hp.symm.trans hp')
    refine ⟨fun k o ho => ?_, fun k => ?_, fun hsigns => ?_⟩
    · cases hs : selection c.negotiateInfo.spdmVersionSel p k with
      | none => exact hkept hs ▸ (hoffered.stale k hs).2 o ho
      | some s => exact hselected hs ▸ hoffered.offered k o s ho hs
    · cases hs : selection c.negotiateInfo.spdmVersionSel p k with
      | none => exact hkept hs ▸ (hoffered.stale k hs).1
      | some s =>
        rw [hselected hs]
        exact atMostOne_of_selection hwell hsingles hs
    · rw [hbase]
      cases hv : c.negotiateInfo.spdmVersionSel.atLeast .spdmVersion14 with
      | false =>
        have hnone : selection c.negotiateInfo.spdmVersionSel p .pqcAsym = none := by
          simp [selection, hv]
        have hpqc : c'.negotiateInfo.pqcAsymSel = 0 := (hkept hnone).trans
          (contains_zero.1 ((hoffered.stale .pqcAsym hnone).2 0 (offer_pqcAsym hv)))
        exact .inr ⟨hoffered.classical hv hsigns, hpqc⟩
      | true =>
        have hpqc : c'.negotiateInfo.pqcAsymSel = p.pqcAsymSel :=
          hselected (k := .pqcAsym) (by simp [selection, hv])
        rw [hpqc]
        have hsome := hwell.signature hsigns
        have hnot := hwell.notBoth
        tauto

namespace SmallAlgorithms

open SmallBackend

def smallOfferer : SpdmContext :=
  { SpdmContext.new (smallBuild false false) (smallTransport 0) { smallConfigInfo 0 with
      baseAsymAlgo := SpdmBaseAsymAlgo.tpmAlgEcdsaEccNistP256 } {} with
    negotiateInfo := { spdmVersionSel := .spdmVersion12
                       rspCapabilitiesSel := SpdmResponseCapabilityFlags.certCap } }

def algorithmsResponse (p : AlgorithmsPayload) : Bytes :=
  encodeHeader .spdmVersion12 spdmResponseAlgorithms ++
    (encodeAlgorithmsResponse .spdmVersion14 p).drop 2

def leaves (p : AlgorithmsPayload) : Option (Flags × Flags × Flags) :=
  match handleSpdmAlgorithmResponse [] (algorithmsResponse p) smallOfferer with
  | .ok _ c' => some (c'.negotiateInfo.baseHashSel, c'.negotiateInfo.baseAsymSel,
      c'.negotiateInfo.pqcAsymSel)
  | _ => none

theorem exists_of_leaves {p : AlgorithmsPayload} {s : Flags × Flags × Flags}
    (h : leaves p = some s) :
    ∃ c', handleSpdmAlgorithmResponse [] (algorithmsResponse p) smallOfferer = .ok () c' ∧
      c'.negotiateInfo.baseHashSel = s.1 ∧ c'.negotiateInfo.baseAsymSel = s.2.1 ∧
      c'.negotiateInfo.pqcAsymSel = s.2.2 := by
  unfold leaves at h
  split at h
  case h_1 c' hok =>
    cases h
    exact ⟨c', hok, rfl, rfl, rfl⟩
  case h_2 => cases h

def offeredSelection : AlgorithmsPayload :=
  { baseHashSel := SpdmBaseHashAlgo.tpmAlgSha256
    baseAsymSel := SpdmBaseAsymAlgo.tpmAlgEcdsaEccNistP256 }

theorem sound_small : ∃ c', handleSpdmAlgorithmResponse [] (algorithmsResponse offeredSelection)
    smallOfferer = .ok () c' ∧ SoundSelection smallOfferer c' := by
  have hleaves : leaves offeredSelection = some (SpdmBaseHashAlgo.tpmAlgSha256,
      SpdmBaseAsymAlgo.tpmAlgEcdsaEccNistP256, 0) := by decide +kernel
  obtain ⟨c', hok, -⟩ := exists_of_leaves hleaves
  have hread : algorithmsOf smallOfferer (algorithmsResponse offeredSelection) =
      some offeredSelection := by decide +kernel
  refine ⟨c', hok, (algorithms_sound_iff hok).2 ⟨_, hread, ?_, ?_, fun _ _ => by decide⟩⟩
  · rintro (_ | _ | _ | _ | (_ | _)) o s ho hs <;> cases ho <;> cases hs <;> decide
  · rintro (_ | _ | _ | _ | (_ | _)) hs <;> cases hs
    all_goals exact ⟨.inl rfl, fun o ho => by cases ho; decide⟩

theorem unoffered_hash :
    offer smallOfferer .baseHash = some SpdmBaseHashAlgo.tpmAlgSha256 ∧
    (∃ c', handleSpdmAlgorithmResponse [] (algorithmsResponse
        { offeredSelection with baseHashSel := SpdmBaseHashAlgo.tpmAlgSha384 }) smallOfferer =
          .ok () c' ∧ c'.negotiateInfo.baseHashSel = SpdmBaseHashAlgo.tpmAlgSha384) ∧
    (negotiatedCaps smallOfferer).signs = true ∧
    ∃ c', handleSpdmAlgorithmResponse [] (algorithmsResponse { offeredSelection with
        baseAsymSel := 0, pqcAsymSel := SpdmPqcAsymAlgo.algMldsa44 }) smallOfferer = .ok () c' ∧
      c'.negotiateInfo.baseAsymSel = 0 ∧ c'.negotiateInfo.pqcAsymSel = 0 := by
  have hhash : leaves { offeredSelection with baseHashSel := SpdmBaseHashAlgo.tpmAlgSha384 } =
      some (SpdmBaseHashAlgo.tpmAlgSha384, SpdmBaseAsymAlgo.tpmAlgEcdsaEccNistP256, 0) := by
    decide +kernel
  have hsignature : leaves { offeredSelection with
      baseAsymSel := 0, pqcAsymSel := SpdmPqcAsymAlgo.algMldsa44 } =
      some (SpdmBaseHashAlgo.tpmAlgSha256, 0, 0) := by decide +kernel
  obtain ⟨c₁, hok₁, hsel₁, -⟩ := exists_of_leaves hhash
  obtain ⟨c₂, hok₂, -, hbase, hpqc⟩ := exists_of_leaves hsignature
  exact ⟨rfl, ⟨c₁, hok₁, hsel₁⟩, rfl, c₂, hok₂, hbase, hpqc⟩

end SmallAlgorithms

end Requester

end Spdm
