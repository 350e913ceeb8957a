/-
  Spdm.Responder.CertChains — the certificate chains of a responder (`construct_my_cert_chain`,
  `reset_context` in `common/mod.rs`).
-/
import Spdm.Context.Small
import Spdm.Responder.Order
import Spdm.Responder.Service

namespace Spdm

open Effect Codec

variable {α : Type} {hash : Flags} {p : SpdmProvisionInfo} {slot : Fin 8} {c c' : SpdmContext}

namespace Responder

open SpdmContext SpdmRequestResponseCode

section
variable [Crypto] [Device]

/-! ## §1. Building chains. -/

def chainOf (hash : Flags) (certs : Bytes) : Option Bytes :=
  match getCertFromCertChain certs 0 with
  | .error _ => none
  | .ok (rootBegin, rootEnd) =>
    (hashAll hash ((certs.take rootEnd).drop rootBegin)).map fun rootHash =>
      leBytes 4 (4 + rootHash.length + certs.length) ++ rootHash ++ certs

/-- **Every provisioned slot has the chain of the selected base hash.** -/
def ChainsBuilt (c : SpdmContext) : Prop :=
  ∀ (slot : Fin 8) certs, c.provisionInfo.myCertChainData.get slot = some certs →
    ∃ chain, chainOf c.negotiateInfo.baseHashSel certs = some chain ∧
      c.provisionInfo.myCertChain.get slot = some chain

def FillsSlot (hash : Flags) (p p' : SpdmProvisionInfo) (slot : Fin 8) : Prop :=
  p'.myCertChain.get slot = p.myCertChain.get slot ∨
    p.myCertChain.get slot = none ∧ ∃ certs chain, p.myCertChainData.get slot = some certs ∧
      chainOf hash certs = some chain ∧ p'.myCertChain.get slot = some chain

structure Fills (hash : Flags) (p p' : SpdmProvisionInfo) : Prop where
  data : p'.myCertChainData = p.myCertChainData
  slots : ∀ slot, FillsSlot hash p p' slot

theorem Fills.refl (hash : Flags) (p : SpdmProvisionInfo) : Fills hash p p :=
  ⟨rfl, fun _ => .inl rfl⟩

theorem Fills.trans {q r : SpdmProvisionInfo} (h : Fills hash p q)
    (h' : Fills hash q r) : Fills hash p r := by
  refine ⟨h'.data.trans h.data, fun slot => ?_⟩
  obtain hsame | ⟨hnone, certs, chain, hdata, hchain, hset⟩ := h'.slots slot
  · obtain hkept | ⟨hempty, certs, chain, hdata, hchain, hset⟩ := h.slots slot
    · exact .inl (hsame.trans hkept)
    · exact .inr ⟨hempty, certs, chain, hdata, hchain, hsame.trans hset⟩
  · obtain hkept | ⟨hempty, _, _, -, -, hfilled⟩ := h.slots slot
    · exact .inr ⟨hkept ▸ hnone, certs, chain, h.data ▸ hdata, hchain, hset⟩
    · rw [hnone] at hfilled
      cases hfilled

theorem Fills.isSome {p' : SpdmProvisionInfo} (h : Fills hash p p')
    (hs : (p.myCertChain.get slot).isSome) : (p'.myCertChain.get slot).isSome := by
  obtain hkept | ⟨hnone, -⟩ := h.slots slot
  · rwa [hkept]
  · rw [hnone] at hs
    cases hs

structure Builds (c c' : SpdmContext) : Prop where
  negotiateInfo : c'.negotiateInfo = c.negotiateInfo
  fills : Fills c.negotiateInfo.baseHashSel c.provisionInfo c'.provisionInfo

instance : StepRel Builds where
  refl _ := ⟨rfl, .refl _ _⟩
  trans h h' := ⟨h'.negotiateInfo.trans h.negotiateInfo,
    h.fills.trans (h.negotiateInfo ▸ h'.fills)⟩

def HasChain (p : SpdmProvisionInfo) (slot : Fin 8) : Prop :=
  (p.myCertChainData.get slot).isSome → (p.myCertChain.get slot).isSome

theorem Builds.hasChain (h : Builds c c')
    (hs : HasChain c.provisionInfo slot) : HasChain c'.provisionInfo slot := fun hdata =>
  h.fills.isSome (hs (h.fills.data ▸ hdata))

theorem fills_set {certs chain : Bytes}
    (hempty : p.myCertChain.get slot = none) (hdata : p.myCertChainData.get slot = some certs)
    (hchain : chainOf hash certs = some chain) {chains : Slots Bytes}
    (hset : chains.get slot = some chain)
    (hother : ∀ other, other ≠ slot → chains.get other = p.myCertChain.get other) :
    Fills hash p { p with myCertChain := chains } := by
  refine ⟨rfl, fun other => ?_⟩
  by_cases hslot : other = slot
  · subst hslot
    exact .inr ⟨hempty, certs, chain, hdata, hchain, hset⟩
  · exact .inl (hother other hslot)

theorem constructCertChain_spec (slot : Fin 8) (c : SpdmContext) :
    wp (constructCertChain slot) (fun _ c' => Builds c c' ∧ HasChain c'.provisionInfo slot)
      (fun _ c' => Builds c c') c := by
  have hrefl : Builds c c := StepRel.refl c
  unfold constructCertChain
  rw [wp_bind, wp_read]
  split
  case h_1 certs hempty hdata =>
    rw [wp_bind, wp_liftResult]
    refine ⟨fun ⟨rootBegin, rootEnd⟩ hroot => ?_, fun _ _ => hrefl⟩
    rw [wp_bind, wp_assert]
    intro _
    rw [wp_bind, wp_orFail]
    refine ⟨fun rootHash hhash => ?_, fun _ => hrefl⟩
    have hchain : chainOf c.negotiateInfo.baseHashSel certs = some
        (leBytes 4 (4 + rootHash.length + certs.length) ++ rootHash ++ certs) := by
      unfold chainOf
      rw [hroot]
      dsimp only
      rw [hhash]
      rfl
    have hget : ∀ (chains : Slots Bytes) (i : Fin 8), chains.get i = chains[i] := fun _ _ => rfl
    refine ⟨⟨rfl, fills_set hempty hdata hchain (by simp [hget]) ?_⟩, fun _ => by simp [hget]⟩
    intro other hother
    have hne : (slot : Nat) ≠ other := fun h => hother (Fin.ext h.symm)
    simp [hget, hne]
  case h_2 hnot =>
    refine ⟨hrefl, fun hdata => ?_⟩
    cases hchain : c.provisionInfo.myCertChain.get slot with
    | some _ => rfl
    | none =>
      obtain ⟨certs, hdata⟩ := Option.isSome_iff_exists.1 hdata
      exact absurd hdata (hnot certs hchain)

theorem constructMyCertChain_spec (c : SpdmContext) :
    wp constructMyCertChain (fun _ c' => Builds c c' ∧ ∀ slot, HasChain c'.provisionInfo slot)
      (fun _ c' => Builds c c') c := by
  have hlist : ∀ (slots : List (Fin 8)) c, wp (forEach constructCertChain slots)
      (fun _ c' => Builds c c' ∧ ∀ slot ∈ slots, HasChain c'.provisionInfo slot)
      (fun _ c' => Builds c c') c := by
    intro slots
    induction slots with
    | nil => exact fun c => ⟨StepRel.refl c, fun _ h => nomatch h⟩
    | cons slot slots ih =>
      intro c
      rw [forEach, wp_bind]
      refine wp_mono (constructCertChain_spec slot c) (fun _ c₁ h₁ => ?_) fun _ _ h => h
      -- what the first slot got stays while the others are built
      refine wp_mono (ih c₁) (fun _ c₂ h₂ => ⟨StepRel.trans h₁.1 h₂.1, fun other hother => ?_⟩)
        fun _ _ h => StepRel.trans h₁.1 h
      obtain rfl | hother := List.mem_cons.1 hother
      · exact h₂.1.hasChain h₁.2
      · exact h₂.2 other hother
  exact wp_mono (hlist _ c) (fun _ _ h => ⟨h.1, fun slot => h.2 slot (List.mem_finRange slot)⟩)
    fun _ _ h => h

/-! ## §2. Negotiating algorithms. -/

def SameProvision (c c' : SpdmContext) : Prop := c'.provisionInfo = c.provisionInfo

instance : StepRel SameProvision where
  refl _ := rfl
  trans h h' := Eq.trans h' h

structure SameChoice (c c' : SpdmContext) : Prop where
  provisionInfo : c'.provisionInfo = c.provisionInfo
  baseHashSel : c'.negotiateInfo.baseHashSel = c.negotiateInfo.baseHashSel

instance : StepRel SameChoice where
  refl _ := ⟨rfl, rfl⟩
  trans h h' := ⟨h'.1.trans h.1, h'.2.trans h.2⟩

section
omit [Crypto] [Device]

theorem SameChoice.of_steady (h : Steady c c') : SameChoice c c' :=
  ⟨h.provisionInfo, by rw [h.negotiateInfo]⟩

theorem SameChoice.of_mild {ε : Type} {m : Prog SpdmContext ε α}
    (h : Within (Steps (MildAct anySession)) m) : Within SameChoice m :=
  (Steady.of_mild h).mono fun _ _ => .of_steady

theorem wp_orRefuse {m : SpdmResult α} {Q : α → SpdmContext → Prop}
    {E : Refusal → SpdmContext → Prop} {e : SpdmStatus} {code : UInt8}
    (h : wp m Q (fun _ c' => ∀ r, E r c') c) : wp (orRefuse m e code) Q E c := by
  unfold orRefuse
  rw [wp_bind, wp_attempt]
  exact wp_mono h (fun _ _ h => h) fun _ _ hE => hE _

end

theorem handleSpdmAlgorithm_spec (bytes : Bytes) (c : SpdmContext) :
    wp (handleSpdmAlgorithm bytes)
      (fun _ c' => Fills c'.negotiateInfo.baseHashSel c.provisionInfo c'.provisionInfo ∧
        ∀ slot, HasChain c'.provisionInfo slot)
      (fun _ c' => Fills c'.negotiateInfo.baseHashSel c.provisionInfo c'.provisionInfo) c := by
  have herr : ∀ (e : Refusal) c₁, SameProvision c c₁ →
      Fills c₁.negotiateInfo.baseHashSel c.provisionInfo c₁.provisionInfo := fun _ c₁ h => by
    rw [show c₁.provisionInfo = c.provisionInfo from h]
    exact .refl _ _
  have hmild : ∀ {α : Type} {m : Handler α}, Within (Steps (MildAct anySession)) m →
      Within SameProvision m := fun hm => (SameChoice.of_mild hm).mono fun _ _ h => h.provisionInfo
  have hmulti : ∀ p, Within SameProvision (selectMultiKey p) := fun p =>
    .bind .read fun _ => .bind (.update fun _ => rfl) fun _ =>
      .bind (within_demand _ _ _) fun _ => .update fun _ => rfl
  have hstruct : ∀ a, Within SameProvision (selectStruct a) := fun a => by
    refine .bind .read fun _ => ?_
    split
    · exact .ret _
    · exact .bind (within_demand _ _ _) fun _ => .update fun _ => rfl
  have hclassical : ∀ c, SameProvision c (preferClassical c) := fun c => by
    unfold preferClassical
    dsimp only
    split <;> rfl
  have hafter : ∀ p, Within SameChoice (answerAlgorithms p) := fun p =>
    .bind (.update fun _ => ⟨rfl, rfl⟩) fun _ => .bind .read fun _ =>
    .bind (within_respond _) fun _ =>
      .bind (SameChoice.of_mild (within_appendA _)) fun _ => .ret _
  refine Within.read.seq herr (fun _ => (within_demand _ _ _).seq herr fun _ =>
    within_readHeader.seq herr fun _ =>
    (hmild (.update (mild_resetBuffer fun _ h => by cases h))).seq herr fun _ =>
    (within_readPayload _ _ _).seq herr fun ⟨p, rest⟩ => ?_) c rfl
  have hoffer : ∀ v, Within SameProvision (takeOffer v p) := fun v => by
    refine .bind (.update fun _ => rfl) fun _ => .bind ?_ fun _ => .bind (.update fun _ => rfl)
      fun _ => .forEach hstruct _
    split
    · exact hmulti p
    · exact .ret _
  refine (hoffer _).seq herr fun _ => (hmild (within_appendA _)).seq herr fun _ =>
    Within.seq (R := SameProvision) (.update fun _ => rfl) herr fun _ =>
    Within.seq (R := SameProvision) (.update hclassical) herr fun _ c₁ hc₁ => ?_
  have hfrom : ∀ {c₂ c₃}, Builds c₁ c₂ → SameChoice c₂ c₃ →
      Fills c₃.negotiateInfo.baseHashSel c.provisionInfo c₃.provisionInfo := fun hb hs => by
    rw [hs.baseHashSel, hs.provisionInfo, hb.negotiateInfo,
      ← show c₁.provisionInfo = c.provisionInfo from hc₁]
    exact hb.fills
  rw [wp_bind]
  refine wp_orRefuse ?_
  refine wp_mono (constructMyCertChain_spec c₁) (fun _ c₂ h => ?_) fun _ c₂ h _ =>
    hfrom h (StepRel.refl c₂)
  exact wp_mono (hafter p c₂)
    (fun _ c₃ hs => ⟨hfrom h.1 hs, fun slot => hs.provisionInfo ▸ h.2 slot⟩)
    fun _ c₃ hs => hfrom h.1 hs

/-! ## §3. Runs. -/

def FillsNow (c c' : SpdmContext) : Prop :=
  Fills c'.negotiateInfo.baseHashSel c.provisionInfo c'.provisionInfo

theorem FillsNow.of_same (h : SameProvision c c') : FillsNow c c' := by
  rw [FillsNow, show c'.provisionInfo = c.provisionInfo from h]
  exact .refl _ _

theorem FillsNow.before {c₁ : SpdmContext} (h : SameProvision c c₁) (h' : FillsNow c₁ c') :
    FillsNow c c' := by
  rw [FillsNow, ← show c₁.provisionInfo = c.provisionInfo from h]
  exact h'

theorem FillsNow.after {c₁ : SpdmContext} (h : FillsNow c c₁) (h' : SameChoice c₁ c') :
    FillsNow c c' := by
  rw [FillsNow, h'.provisionInfo, h'.baseHashSel]
  exact h

theorem dispatchAt_fillsNow (depth : Nat) (sessionId : Option Nat) (bytes : Bytes)
    (c : SpdmContext) :
    wp (dispatchAt depth sessionId bytes) (fun _ => FillsNow c) (fun _ => FillsNow c) c := by
  induction depth generalizing sessionId bytes c with
  | zero => trivial
  | succ depth ih =>
    have hsame : ∀ {β : Type} {m : Handler β}, Within SameProvision m →
        wp m (fun _ => FillsNow c) (fun _ => FillsNow c) c := fun hm =>
      (hm.mono fun _ _ => FillsNow.of_same) c
    refine wp_dispatchAt (fun _ => FillsNow.of_same rfl) fun service _ => ?_
    cases service with
    | version =>
      exact wp_answer (hsame (within_version (R := SameProvision)
        (fun _ _ h => (Steady.mildAct h.mild).provisionInfo) (fun _ => rfl) bytes))
    | capability =>
      refine wp_answer (hsame (within_capability (R := SameProvision)
        (fun _ _ h => (Steady.mildAct h.mild).provisionInfo) (fun c c' h => ?_) bytes))
      rw [SameProvision, h]
    | algorithm =>
      exact wp_answer (wp_mono (handleSpdmAlgorithm_spec bytes c) (fun _ _ h => h.1) fun _ _ h => h)
    | chunkSend =>
      exact wp_handleSpdmChunkSend_around (R := SameChoice) (fun _ _ h =>
        .of_steady (Steady.chunk h))
        (fun _ h => .of_same h.provisionInfo) (fun _ _ => FillsNow.after)
        (fun request c₁ h => wp_mono (ih sessionId request c₁)
          (fun _ _ => FillsNow.before h.provisionInfo) fun _ _ => FillsNow.before h.provisionInfo)
        bytes
    | _ => exact hsame ((within_handle_steady rfl).mono fun _ _ h => h.provisionInfo)

theorem processMessage_fillsNow {depth : Nat} (h : Ran (processMessage depth) c c') :
    FillsNow c c' :=
  h.of_wp (wp_processMessage_around (R := SameChoice) (fun _ _ => .of_steady) (fun _ => ⟨rfl, rfl⟩)
    (fun _ _ => ⟨rfl, rfl⟩) (fun _ _ => ⟨rfl, rfl⟩) (fun _ h => .of_same h.provisionInfo)
    (fun _ _ => FillsNow.after) fun sessionId bytes _ _ c₁ _ h =>
      wp_mono (dispatchAt_fillsNow depth sessionId bytes c₁)
        (fun _ _ => FillsNow.before h.provisionInfo) fun _ _ => FillsNow.before h.provisionInfo)

/-- A call of `process_message` that fills slots only under one base hash, or
a move of the surroundings that leaves provisioning alone. -/
def StepWith (hash : Flags) (c c' : SpdmContext) : Prop :=
  (∃ depth, Ran (processMessage depth) c c') ∧
      (c'.provisionInfo ≠ c.provisionInfo → c'.negotiateInfo.baseHashSel = hash) ∨
    Surroundings c c' ∧ c'.provisionInfo = c.provisionInfo

def ChainsOf (hash : Flags) (p : SpdmProvisionInfo) : Prop :=
  ∀ (slot : Fin 8) certs chain, p.myCertChainData.get slot = some certs →
    p.myCertChain.get slot = some chain → chainOf hash certs = some chain

theorem ChainsOf.fills {p' : SpdmProvisionInfo} (hp : ChainsOf hash p)
    (h : Fills hash p p') : ChainsOf hash p' := by
  intro slot certs chain hdata hchain
  rw [h.data] at hdata
  obtain hkept | ⟨-, certs', chain', hdata', hbuilt, hset⟩ := h.slots slot
  · exact hp slot certs chain hdata (hkept ▸ hchain)
  · obtain rfl : certs = certs' := Option.some.inj (hdata.symm.trans hdata')
    rw [hbuilt, ← hset, hchain]

theorem ChainsOf.step (h : StepWith hash c c')
    (hc : ChainsOf hash c.provisionInfo) : ChainsOf hash c'.provisionInfo := by
  by_cases hsame : c'.provisionInfo = c.provisionInfo
  · rwa [hsame]
  · obtain ⟨⟨depth, hran⟩, hhash⟩ | ⟨-, hmoved⟩ := h
    · have hfills := processMessage_fillsNow hran
      rw [FillsNow, hhash hsame] at hfills
      exact hc.fills hfills
    · exact absurd hmoved hsame

/-- **Along a run in which slots are filled under one base hash**, a
negotiation that is answered leaves every provisioned slot with the chain of
the hash it selects if and only if that is what the slots that had a chain
were built with. -/
theorem chainsBuilt_iff {hash : Flags} {c₀ c c' : SpdmContext} {bytes response : Bytes}
    (hstart : ChainsOf hash c₀.provisionInfo) (hrun : Steps (StepWith hash) c₀ c)
    (hok : handleSpdmAlgorithm bytes c = .ok response c') :
    ChainsBuilt c' ↔ ∀ (slot : Fin 8) certs, c.provisionInfo.myCertChainData.get slot = some certs →
      (c.provisionInfo.myCertChain.get slot).isSome →
      chainOf c'.negotiateInfo.baseHashSel certs = chainOf hash certs := by
  have hc : ChainsOf hash c.provisionInfo :=
    hrun.keep (I := fun c => ChainsOf hash c.provisionInfo) (fun _ _ h hc => hc.step h) hstart
  obtain ⟨hfills, hall⟩ := wp_ok (handleSpdmAlgorithm_spec bytes c) hok
  constructor
  · intro hbuilt slot certs hdata hchain
    obtain ⟨chain, hchain⟩ := Option.isSome_iff_exists.1 hchain
    obtain ⟨chain', hof, hnow⟩ := hbuilt slot certs (by rw [hfills.data]; exact hdata)
    obtain hkept | ⟨hnone, -⟩ := hfills.slots slot
    · rw [hkept, hchain] at hnow
      rw [hof, hc slot certs chain hdata hchain, ← hnow]
    · rw [hchain] at hnone
      cases hnone
  · intro hsame slot certs hdata
    rw [hfills.data] at hdata
    obtain hkept | ⟨-, certs', chain', hdata', hbuilt, hset⟩ := hfills.slots slot
    · obtain ⟨chain, hchain⟩ := Option.isSome_iff_exists.1
        (hall slot (by rw [hfills.data, hdata]; rfl))
      rw [hkept] at hchain
      refine ⟨chain, ?_, hkept.trans hchain⟩
      rw [hsame slot certs hdata (by rw [hchain]; rfl)]
      exact hc slot certs chain hdata hchain
    · obtain rfl : certs = certs' := Option.some.inj (hdata.symm.trans hdata')
      exact ⟨chain', hbuilt, hset⟩

end

/-! ## §4. Two negotiations. -/

namespace SizedHash

open SmallBackend

scoped instance sizedCrypto : Crypto :=
  { smallCrypto with
    hashAll := fun algo _ => (SpdmBaseHashAlgo.size? algo).map fun n => List.replicate n 0 }

def certResponder : SpdmContext :=
  .new (smallBuild false false) (smallTransport 0)
    { smallConfigInfo SpdmResponseCapabilityFlags.certCap with
      baseHashAlgo := SpdmBaseHashAlgo.tpmAlgSha256 ||| SpdmBaseHashAlgo.tpmAlgSha384 }
    { myCertChainData := firstSlotOnly [1, 2, 3] }

theorem started_certResponder : Started certResponder :=
  ⟨_, _, _, _, show (2) ≤ SpdmContext.initialSessionId by decide, rfl⟩

def algorithmsWith (hash : Flags) : Bytes :=
  encodeNegotiateAlgorithms .spdmVersion12 { baseHashAlgo := hash, algStruct := [] }

def capabilitiesPackets : List (SpdmContext → Bytes) := (smallNegotiation 0 136).take 2

def secondNegotiation : Option SpdmContext :=
  serveAll (fun _ => true) [] (capabilitiesPackets ++
    [inClear (algorithmsWith SpdmBaseHashAlgo.tpmAlgSha256)] ++ capabilitiesPackets) certResponder

def firstSlot (c : SpdmContext) : Flags × Option Bytes × Option Bytes :=
  (c.negotiateInfo.baseHashSel, c.provisionInfo.myCertChainData.get 0,
    c.provisionInfo.myCertChain.get 0)

theorem chains_stale : ∃ c c' bytes response, Reachable c ∧
    handleSpdmAlgorithm bytes c = .ok response c' ∧ ¬ ChainsBuilt c' := by
  have hrun : (secondNegotiation.map fun c =>
      (handleSpdmAlgorithm (algorithmsWith SpdmBaseHashAlgo.tpmAlgSha384) c).okWith fun _ c' =>
        decide (firstSlot c' = (SpdmBaseHashAlgo.tpmAlgSha384, some [1, 2, 3],
          chainOf SpdmBaseHashAlgo.tpmAlgSha256 [1, 2, 3]))) = some true := by
    decide +kernel
  obtain ⟨c, hc, hrun⟩ := Option.map_eq_some_iff.1 hrun
  obtain ⟨response, c', hok, hslot⟩ := Outcome.exists_of_okWith hrun
  simp only [firstSlot, decide_eq_true_eq, Prod.mk.injEq] at hslot
  obtain ⟨hhash, hdata, hchain⟩ := hslot
  refine ⟨c, c', _, response, reachable_serveAll ⟨_, started_certResponder, .refl⟩ hc, hok,
    fun hbuilt => ?_⟩
  obtain ⟨chain, hof, hnow⟩ := hbuilt 0 [1, 2, 3] hdata
  rw [hhash] at hof
  have hsame : chainOf SpdmBaseHashAlgo.tpmAlgSha384 [1, 2, 3] =
      chainOf SpdmBaseHashAlgo.tpmAlgSha256 [1, 2, 3] := hof.trans (hnow.symm.trans hchain)
  exact absurd hsame (by decide +kernel)

def serveWith (hash : Flags) (packets : List (SpdmContext → Bytes)) (c : SpdmContext) :
    Option SpdmContext :=
  (serveNoting (fun c c' _ => if c'.provisionInfo = c.provisionInfo ∨
    c'.negotiateInfo.baseHashSel = hash then some () else none) [] packets c ()).map Prod.fst

theorem steps_serveWith {packets : List (SpdmContext → Bytes)}
    (h : serveWith hash packets c = some c') : Steps (StepWith hash) c c' := by
  obtain ⟨⟨c₁, u⟩, hserve, rfl⟩ := Option.map_eq_some_iff.1 h
  refine serveNoting_keep (P := fun c' _ => Steps (StepWith hash) c c')
    (fun _ hsteps => hsteps.tail (.inr ⟨rfl, rfl⟩)) (fun hsteps hran hnote => ?_) .refl hserve
  obtain ⟨hkept, -⟩ := Option.ite_none_right_eq_some.1 hnote
  exact hsteps.tail (.inl ⟨⟨3, hran⟩, hkept.resolve_left⟩)

theorem chainsBuilt_twice : ∃ c c' bytes response,
    Steps (StepWith SpdmBaseHashAlgo.tpmAlgSha256) certResponder c ∧
    handleSpdmAlgorithm bytes c = .ok response c' ∧
    (c.provisionInfo.myCertChain.get 0).isSome ∧ ChainsBuilt c' := by
  have hrun : ((serveWith SpdmBaseHashAlgo.tpmAlgSha256 (capabilitiesPackets ++
      [inClear (algorithmsWith SpdmBaseHashAlgo.tpmAlgSha256)] ++ capabilitiesPackets)
      certResponder).map fun c => (c.provisionInfo.myCertChain.get 0).isSome &&
        (handleSpdmAlgorithm (algorithmsWith SpdmBaseHashAlgo.tpmAlgSha256) c).okWith fun _ c' =>
          decide (c'.negotiateInfo.baseHashSel = SpdmBaseHashAlgo.tpmAlgSha256)) = some true := by
    decide +kernel
  obtain ⟨c, hc, hrun⟩ := Option.map_eq_some_iff.1 hrun
  rw [Bool.and_eq_true] at hrun
  obtain ⟨response, c', hok, hhash⟩ := Outcome.exists_of_okWith hrun.2
  have hstart : ChainsOf SpdmBaseHashAlgo.tpmAlgSha256 certResponder.provisionInfo := by
    intro slot certs chain _ hset
    have hnone : (Vector.replicate 8 none : Slots Bytes).get slot = none := by
      show (Vector.replicate 8 none : Slots Bytes)[slot] = none
      simp
    cases hnone.symm.trans hset
  refine ⟨c, c', _, response, steps_serveWith hc, hok, hrun.1,
    (chainsBuilt_iff hstart (steps_serveWith hc) hok).2 fun _ _ _ _ => ?_⟩
  rw [of_decide_eq_true hhash]

end SizedHash

end Responder

end Spdm
