/-
  Spdm.Message.Selection — the algorithms a connection settles on.
-/
import Spdm.Context.Transcript
import Spdm.Message.Negotiation

namespace Spdm

open Effect Codec

variable {v : SpdmVersion} {c c₁ c₂ : SpdmContext}

/-! ## §1. Selections. -/

inductive Algorithm where
  | measurementHash
  | baseHash
  | baseAsym
  | pqcAsym
  | struct (t : SpdmAlgType)
  deriving Repr, DecidableEq

def SpdmNegotiateInfo.selected (n : SpdmNegotiateInfo) : Algorithm → Flags
  | .measurementHash => n.measurementHashSel
  | .baseHash => n.baseHashSel
  | .baseAsym => n.baseAsymSel
  | .pqcAsym => n.pqcAsymSel
  | .struct .dhe => n.dheSel
  | .struct .aead => n.aeadSel
  | .struct .reqAsym => n.reqAsymSel
  | .struct .keySchedule => n.keyScheduleSel
  | .struct .pqcReqAsym => n.pqcReqAsymSel
  | .struct .kem => n.kemSel

def AtMostOne (a : Flags) : Prop := a = 0 ∨ a.isPowerOfTwo

theorem isNoMoreThanOneSelected_iff {a : Flags} :
    isNoMoreThanOneSelected a = true ↔ AtMostOne a := by
  unfold isNoMoreThanOneSelected AtMostOne
  by_cases ha : a = 0
  · simp [ha]
  · simp [ha, Nat.and_sub_one_eq_zero_iff_isPowerOfTwo ha]

theorem isValidOneSelect_iff {mask a : Flags} (hmask : a &&& mask = a) (hone : AtMostOne a) :
    isValidOneSelect mask a = true ↔ a ≠ 0 := by
  rw [isValidOneSelect, isNoMoreThanOneSelected_iff.2 hone, isValid, hmask]
  simp

def sinceVersion14 : SpdmAlgType → Bool
  | .pqcReqAsym => true
  | .kem => true
  | _ => false

def takenOf (v : SpdmVersion) (t : SpdmAlgType) : List SpdmAlgStruct → Option Flags
  | [] => none
  | a :: as => (takenOf v t as).or
      (if a.algType = t && (!sinceVersion14 t || v.atLeast .spdmVersion14) then some a.algSupported
        else none)

def takenFrom (v : SpdmVersion) (as : List SpdmAlgStruct) : Algorithm → Option Flags
  | .struct t => takenOf v t as
  | _ => none

theorem takenFrom_cons {a : SpdmAlgStruct} {as : List SpdmAlgStruct} :
    takenFrom v (a :: as) = fun k => (takenFrom v as k).or (takenFrom v [a] k) := by
  funext k
  cases k <;> rfl

theorem takenFrom_singleton (v : SpdmVersion) (a : SpdmAlgStruct) (k : Algorithm) :
    takenFrom v [a] k = if k = .struct a.algType &&
      (!sinceVersion14 a.algType || v.atLeast .spdmVersion14) then some a.algSupported
        else none := by
  cases k with
  | struct t =>
    by_cases h : a.algType = t
    · simp [takenFrom, takenOf, h]
    · simp [takenFrom, takenOf, h, Ne.symm h]
  | _ => simp [takenFrom]

theorem passedOver_eq {t : SpdmAlgType} :
    ((t == .pqcReqAsym || t == .kem) && !v.atLeast .spdmVersion14) =
      !(!sinceVersion14 t || v.atLeast .spdmVersion14) := by
  cases t <;> simp [sinceVersion14]

def NegotiatedCaps.signs (caps : NegotiatedCaps) : Bool := caps.certChalMeas || caps.keyExBoth

/-! ## §2. Steps of a selection. -/

structure Selecting (f : Algorithm → Option Flags) (c c' : SpdmContext) : Prop where
  configInfo : c'.configInfo = c.configInfo
  version : c'.negotiateInfo.spdmVersionSel = c.negotiateInfo.spdmVersionSel
  selected : ∀ k, c'.negotiateInfo.selected k = (f k).getD (c.negotiateInfo.selected k)

theorem Selecting.trans {f g : Algorithm → Option Flags} (h : Selecting f c c₁)
    (h' : Selecting g c₁ c₂) : Selecting (fun k => (g k).or (f k)) c c₂ := by
  refine ⟨h'.configInfo.trans h.configInfo, h'.version.trans h.version, fun k => ?_⟩
  rw [h'.selected, h.selected]
  cases g k <;> rfl

abbrev Unselected : SpdmContext → SpdmContext → Prop := Selecting fun _ => none

instance : StepRel Unselected where
  refl _ := ⟨rfl, rfl, fun _ => rfl⟩
  trans := Selecting.trans

theorem Selecting.after {f : Algorithm → Option Flags} (h : Selecting f c c₁)
    (h' : Unselected c₁ c₂) : Selecting f c c₂ :=
  ⟨h'.configInfo.trans h.configInfo, h'.version.trans h.version,
    fun k => (h'.selected k).trans (h.selected k)⟩

theorem Selecting.before {f : Algorithm → Option Flags} (h : Unselected c c₁)
    (h' : Selecting f c₁ c₂) : Selecting f c c₂ :=
  ⟨h'.configInfo.trans h.configInfo, h'.version.trans h.version,
    fun k => by rw [h'.selected, h.selected]; rfl⟩

theorem unselected_appendMessageA (m : Bytes) : Within Unselected (SpdmContext.appendMessageA m) :=
  .bind .read fun _ => .bind (.orFail _ _) fun _ => .update fun _ => ⟨rfl, rfl, fun _ => rfl⟩

/-! ## §3. The reader of ALGORITHMS. -/

theorem ends_require {b : Bool} :
    Ends (fun _ => b = true) (fun _ => True) (require b) := fun s => by
  cases b <;> trivial

theorem ends_flagsLe (n : Nat) (mask : Flags) :
    Ends (fun a => a &&& mask = a) (fun _ => True) (flagsLe n mask) :=
  .seq (.any _) fun _ => .ret (by rw [Nat.and_assoc, Nat.and_self])

theorem ends_parseSince {w : SpdmVersion} {n : Nat} {mask : Flags} :
    Ends (fun a => a &&& mask = a ∧ (v.atLeast w = false → a = 0)) (fun _ => True)
      (parseSince v w n mask) := by
  unfold parseSince
  split
  · rename_i hv
    exact fun s => wp_mono (ends_flagsLe n mask s)
      (fun _ _ h => ⟨h, fun hn => by simp [hv] at hn⟩) fun _ _ h => h
  · exact .seq (.any _) fun _ => .ret ⟨Nat.zero_and mask, fun _ => rfl⟩

structure WellSelected (c : SpdmContext) (p : AlgorithmsPayload) : Prop where
  measurementHash : AtMostOne p.measurementHashAlgo
  baseHash : AtMostOne p.baseHashSel
  baseAsym : AtMostOne p.baseAsymSel
  pqcAsym : AtMostOne p.pqcAsymSel
  notBoth : ¬ (p.baseAsymSel ≠ 0 ∧ p.pqcAsymSel ≠ 0)
  signature : (negotiatedCaps c).signs = true → p.baseAsymSel ≠ 0 ∨ p.pqcAsymSel ≠ 0

theorem ends_parseAlgorithmsResponse (c : SpdmContext) :
    Ends (WellSelected c) (fun _ => True) (parseAlgorithmsResponse c) := by
  refine .seq (.any _) fun _ => .seq (.any _) fun _ => .seq (.any _) fun _ => .seq (.any _) fun _ =>
    .seq (.any _) fun _ => .seq (.any _) fun _ => .seq (.any _) fun _ => .seq (.any _) fun _ =>
    .seq (.any _) fun hash => .bind ends_require fun _ hhash => .seq (.any _) fun _ =>
    .bind (ends_flagsLe _ _) fun base hbase => .bind ends_require fun _ hbaseOne =>
    .seq (.any _) fun baseHash => .bind ends_require fun _ hbaseHash =>
    .seq (.any _) fun _ => .bind ends_parseSince fun pqc hpqc =>
    .bind ends_require fun _ hpqcOne => .bind ends_require fun _ hnotBoth =>
    .bind ends_require fun _ hsome => .seq (.any _) fun _ => .seq (.any _) fun _ =>
    .seq (.any _) fun _ => .seq (.any _) fun _ => .seq (.any _) fun _ => .seq (.any _) fun _ =>
    .seq (.any _) fun _ => .seq (.any _) fun _ => .seq (.any _) fun _ => .seq (.any _) fun _ =>
    .ret ?_
  rw [isNoMoreThanOneSelected_iff] at hhash hbaseOne hbaseHash hpqcOne
  have hbaseValid := isValidOneSelect_iff hbase hbaseOne
  have hpqcValid := isValidOneSelect_iff hpqc.1 hpqcOne
  refine ⟨hhash, hbaseHash, hbaseOne, hpqcOne, fun hboth => ?_, fun hsigns => ?_⟩
  · rw [hbaseValid.2 hboth.1, hpqcValid.2 hboth.2] at hnotBoth
    cases hnotBoth
  · by_contra hneither
    obtain ⟨hnobase, hnopqc⟩ := not_or.1 hneither
    rw [← hbaseValid, Bool.not_eq_true] at hnobase
    rw [← hpqcValid, Bool.not_eq_true] at hnopqc
    rw [show ((negotiatedCaps c).certChalMeas || (negotiatedCaps c).keyExBoth) = true from hsigns,
      hnobase, hnopqc] at hsome
    cases hsome

end Spdm
