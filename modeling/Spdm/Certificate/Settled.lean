/-
  Spdm.Certificate.Settled — the certificate walkers neither abort nor run on.
-/
import Spdm.Certificate.Walk

namespace Spdm

open Effect

variable {α : Type} {b isLeafCert : Bool} {p : Prop} {tag first : UInt8}
    {data rest target : Bytes} {length index turns size walker : Nat} {oid : Option Bytes}
    {baseAsymAlgo : Flags}

namespace X509v3.Indexed

/-! ## §1. Tags and lengths. -/

theorem settle_require :
    settle (require b) = (if b then ret () else verifFail : Walker Unit) := by
  cases b with
  | true => rfl
  | false => rfl

theorem accept_or [Decidable p] (hb : b = true ↔ p)
    {w : Walker α} {r : Check α} (h : p → w = settle r) :
    (if p then w else verifFail) = settle (require b >>= fun _ => r) := by
  by_cases hp : p
  · rw [if_pos hp, hb.2 hp, h hp]
    rfl
  · have hfalse : b = false := by
      cases b with
      | false => rfl
      | true => exact absurd (hb.1 rfl) hp
    rw [if_neg hp, hfalse]
    rfl

theorem refuse_or [Decidable p] (hb : b = true ↔ ¬ p)
    {w : Walker α} {r : Check α} (h : ¬ p → w = settle r) :
    (if p then verifFail else w) = settle (require b >>= fun _ => r) := by
  rw [← ite_not]
  exact accept_or hb h

theorem checkTag_eq :
    checkTag tag data = settle (X509v3.checkTag tag data) := by
  unfold X509v3.checkTag
  rw [settle_require]
  cases data with
  | nil => rfl
  | cons first rest =>
    unfold checkTag
    rw [indexAt_bind rfl]
    simp

theorem decodeLength_eq {byte0 : UInt8} :
    decodeLength (byte0 :: rest) byte0 = settle (X509v3.decodeLength (byte0 :: rest)) := by
  refine settle_ite (fun _ => rfl) fun _ => settle_ite (fun _ => ?_) fun _ =>
    settle_ite (fun _ => ?_) fun _ => rfl
  · cases rest with
    | nil => rfl
    | cons second rest =>
      rw [if_neg (by simp)]
      exact settle_ite (fun _ => rfl) fun _ => rfl
  · cases rest with
    | nil => rfl
    | cons second rest =>
      cases rest with
      | nil => rfl
      | cons third rest =>
        rw [if_neg (by simp), indexAt_bind rfl]
        exact settle_ite (fun _ => rfl) fun _ => rfl

theorem checkLength_eq : checkLength data = settle (X509v3.checkLength data) := by
  cases data with
  | nil => rfl
  | cons byte0 rest =>
    unfold checkLength X509v3.checkLength
    rw [indexAt_bind rfl, decodeLength_eq]
    refine settle_bind ?_
    rintro ⟨length, consumed⟩ -
    exact settle_ite (fun _ => rfl) fun _ => rfl

theorem bounds {consumed : Nat}
    (h : X509v3.checkLength data = .ok (length, consumed)) :
    1 ≤ consumed ∧ consumed + length ≤ data.length := by
  obtain ⟨hdecode, hfits⟩ := checkLength_ok h
  cases data with
  | nil => cases hdecode
  | cons byte0 rest =>
    unfold X509v3.decodeLength at hdecode
    dsimp only at hdecode
    split_ifs at hdecode with hshort hone htwo
    · cases hdecode
      omega
    · cases rest with
      | nil => cases hdecode
      | cons second rest =>
        dsimp only at hdecode
        split_ifs at hdecode
        · cases hdecode
        · cases hdecode
          omega
    · cases rest with
      | nil => cases hdecode
      | cons second rest =>
        cases rest with
        | nil => cases hdecode
        | cons third rest =>
          dsimp only at hdecode
          split_ifs at hdecode
          · cases hdecode
          · cases hdecode
            omega
    · cases hdecode

theorem length_from {f : Nat × Nat → Walker α} {g : Nat × Nat → Check α}
    (hindex : index ≤ data.length)
    (h : ∀ length consumed, 1 ≤ consumed → index + (consumed + length) ≤ data.length →
      f (length, consumed) = settle (g (length, consumed))) :
    (sliceFrom data index >>= fun rest => checkLength rest >>= f) =
      settle (X509v3.checkLength (data.drop index) >>= g) := by
  rw [sliceFrom_bind hindex, checkLength_eq]
  refine settle_bind ?_
  rintro ⟨length, consumed⟩ hlength
  obtain ⟨hpos, hroom⟩ := bounds hlength
  rw [List.length_drop] at hroom
  exact h length consumed hpos (by omega)

theorem skip_from {w : Bytes → Walker Nat} {r : Bytes → Check Nat} {f : Nat → Walker α}
    {g : Nat → Check α} (hw : ∀ {data}, w data = settle (r data))
    (hr : ∀ {data size}, r data = .ok size → size ≤ data.length) (hindex : index ≤ data.length)
    (h : ∀ size, index + size ≤ data.length → f size = settle (g size)) :
    (sliceFrom data index >>= fun rest => w rest >>= f) =
      settle (r (data.drop index) >>= g) := by
  rw [sliceFrom_bind hindex, hw]
  refine settle_bind fun size hsize => ?_
  have hroom := hr hsize
  rw [List.length_drop] at hroom
  exact h size (by omega)

theorem objectIdentifiersAreSame_eq (a b : Bytes) :
    objectIdentifiersAreSame a b = decide (a = b) := by
  unfold objectIdentifiersAreSame
  induction a generalizing b with
  | nil =>
    cases b with
    | nil => rfl
    | cons y b => rfl
  | cons x a ih =>
    cases b with
    | nil => rfl
    | cons y b =>
      have hab := ih b
      by_cases hlength : a.length = b.length
      · rw [if_neg (by simpa using hlength)] at hab
        rw [if_neg (by simpa using hlength), List.zip_cons_cons, List.all_cons, hab]
        by_cases hxy : x = y
        · simp [hxy]
        · simp [hxy]
      · have hne : x :: a ≠ y :: b := by
          intro h
          exact hlength (congrArg List.length (List.cons.inj h).2)
        rw [if_pos (by simpa using hlength), decide_eq_false hne]

/-! ## §2. Elements. -/

theorem checkAndSkipCommonTag_eq :
    checkAndSkipCommonTag data = settle (X509v3.checkAndSkipCommonTag data) := by
  refine refuse_or (by rw [decide_eq_true_eq]; omega) fun hdata =>
    length_from (by omega) fun length consumed _ _ => ?_
  exact refuse_or (by rw [decide_eq_true_eq]; omega) fun _ => rfl

theorem checkAndGetCommonTag_eq :
    checkAndGetCommonTag data = settle (X509v3.checkAndGetCommonTag data) := by
  refine refuse_or (by rw [decide_eq_true_eq]; omega) fun hdata =>
    length_from (by omega) fun length consumed _ _ => ?_
  refine refuse_or (by rw [decide_eq_true_eq]; omega) fun hfits => ?_
  rw [slice_bind (by omega) (by omega)]
  rfl

theorem refuse_unless_tag {w : Walker α} {r : Check α}
    (h : 1 ≤ data.length → w = settle r) :
    (if data.length < 1 then verifFail
      else indexAt data 0 >>= fun first => if first ≠ tag then verifFail else w) =
      settle (X509v3.checkTag tag data >>= fun _ => r) := by
  cases data with
  | nil => rfl
  | cons first rest =>
    rw [if_neg (by simp)]
    exact refuse_or (by simp) fun _ => h (by simp)

theorem checkAndSkipCommonSequence_eq :
    checkAndSkipCommonSequence data = settle (X509v3.checkAndSkipCommonSequence data) := by
  refine refuse_unless_tag fun hdata => ?_
  rw [← checkAndSkipCommonTag_eq]
  unfold checkAndSkipCommonTag
  rw [if_neg (by omega)]

theorem checkVersion_eq :
    checkVersion data = settle (X509v3.checkVersion data) := by
  unfold checkVersion X509v3.checkVersion
  by_cases hshort : data.length < 5
  · have hne : (data.take 5 == [0xA0, 3, asn1TagNumberInteger, 1, x509v3Version]) = false := by
      rw [beq_eq_false_iff_ne]
      intro h
      have hlength := congrArg List.length h
      exact absurd hlength (by simp; omega)
    rw [if_pos hshort, hne]
    rfl
  · obtain ⟨b0, b1, b2, b3, b4, rest, rfl⟩ : ∃ b0 b1 b2 b3 b4 rest,
        data = b0 :: b1 :: b2 :: b3 :: b4 :: rest := by
      rcases data with _ | ⟨b0, _ | ⟨b1, _ | ⟨b2, _ | ⟨b3, _ | ⟨b4, rest⟩⟩⟩⟩⟩
      all_goals first | exact ⟨_, _, _, _, _, _, rfl⟩ | exact absurd (by simp) hshort
    rw [indexAt_bind rfl, indexAt_bind rfl,
      indexAt_bind rfl, indexAt_bind rfl, indexAt_bind rfl]
    by_cases hhead : b0 ≠ 0xA0 ∨ b1 ≠ 3 ∨ b2 ≠ asn1TagNumberInteger ∨ b3 ≠ 1
    · have hne : ((b0 :: b1 :: b2 :: b3 :: b4 :: rest).take 5 ==
          [0xA0, 3, asn1TagNumberInteger, 1, x509v3Version]) = false := by
        rw [beq_eq_false_iff_ne]
        intro h
        simp only [List.take_succ_cons, List.take_zero, List.cons.injEq, and_true] at h
        rcases hhead with h₀ | h₁ | h₂ | h₃
        · exact h₀ h.1
        · exact h₁ h.2.1
        · exact h₂ h.2.2.1
        · exact h₃ h.2.2.2.1
      rw [if_pos hhead, hne]
      rfl
    · obtain ⟨rfl, rfl, rfl, rfl⟩ : b0 = 0xA0 ∧ b1 = 3 ∧ b2 = asn1TagNumberInteger ∧ b3 = 1 := by
        simpa using hhead
      by_cases hversion : b4 = x509v3Version
      · subst hversion
        rfl
      · have hne : ((0xA0 :: 3 :: asn1TagNumberInteger :: 1 :: b4 :: rest : Bytes).take 5 ==
            [0xA0, 3, asn1TagNumberInteger, 1, x509v3Version]) = false := by
          simp [hversion]
        rw [if_neg hversion, hne]
        rfl

theorem checkObjectIdentifier_eq :
    checkObjectIdentifier data oid = settle (X509v3.checkObjectIdentifier data oid) := by
  rcases data with _ | ⟨tag, _ | ⟨length, rest⟩⟩
  · rfl
  · rfl
  · unfold checkObjectIdentifier X509v3.checkObjectIdentifier
    rw [if_neg (by simp), indexAt_bind rfl]
    refine refuse_or (by simp) fun _ => ?_
    refine refuse_or ?_ fun hfits => ?_
    · rw [decide_eq_true_eq]
      simp only [List.length_cons, not_or, UInt8.not_le]
      exact and_congr (by omega) Iff.rfl
    · have hroom : length.toNat ≤ rest.length := by
        simp only [List.length_cons] at hfits
        omega
      cases oid with
      | none => rfl
      | some oid =>
        have hid : ((tag :: length :: rest).take (2 + length.toNat)).drop 2 =
            rest.take length.toNat := by
          rw [Nat.add_comm]
          rfl
        dsimp only
        rw [slice_bind (by omega) (by simp only [List.length_cons]; omega), hid,
          objectIdentifiersAreSame_eq]
        by_cases hsame : rest.take length.toNat = oid
        · simp [hsame, require]
          rfl
        · simp [hsame, require]
          rfl

theorem checkAndGetExtensions_eq :
    checkAndGetExtensions data = settle (X509v3.checkAndGetExtensions data) := by
  cases data with
  | nil => rfl
  | cons tag rest =>
    unfold checkAndGetExtensions X509v3.checkAndGetExtensions
    rw [if_neg (by simp), indexAt_bind (a := tag) rfl]
    by_cases htag : tag = asn1TagExplicitExtension
    · rw [if_neg (by simpa using htag), if_pos (by simpa using htag), ← checkAndGetCommonTag_eq]
      rfl
    · rw [if_pos htag, if_neg (by simpa using htag)]
      rfl

theorem checkAndGetExtnId_eq :
    checkAndGetExtnId data = settle (X509v3.checkAndGetExtnId data) := by
  refine refuse_unless_tag fun hdata => length_from hdata fun length consumed _ _ => ?_
  refine refuse_or (by rw [decide_eq_true_eq]; omega) fun hfits => ?_
  rw [sliceFrom_bind (by omega)]
  generalize data.drop (1 + consumed) = extnId
  cases extnId with
  | nil => rfl
  | cons tag rest =>
    rw [if_neg (by simp)]
    refine refuse_or (by simp) fun _ => length_from (by simp) fun idLength idConsumed _ hroom => ?_
    dsimp only
    rw [slice_bind (by omega) (by omega)]
    rfl

/-! ## §3. KeyUsage. -/

theorem exists_drop {data : Bytes} {index : Nat} (h : index < data.length) :
    ∃ first rest, data.drop index = first :: rest ∧ data[index]? = some first ∧
      data.drop (index + 1) = rest ∧ data.length = index + rest.length + 1 := by
  cases hdrop : data.drop index with
  | nil =>
    have hlength := congrArg List.length hdrop
    rw [List.length_drop] at hlength
    simp at hlength
    omega
  | cons first rest =>
    have hlength := congrArg List.length hdrop
    rw [List.length_drop, List.length_cons] at hlength
    refine ⟨first, rest, rfl, ?_, ?_, by omega⟩
    · rw [← List.head?_drop, hdrop]
      rfl
    · rw [← List.drop_drop, hdrop]
      rfl

theorem tag_or_refuse {w : Walker α} {r : Check α}
    (h : first = tag → w = settle r) :
    (if first = tag then w else verifFail) =
      settle (X509v3.checkTag tag (first :: rest) >>= fun _ => r) := by
  by_cases htag : first = tag
  · rw [h htag, htag]
    simp [X509v3.checkTag, require]
    rfl
  · have hno : X509v3.checkTag tag (first :: rest) = reject := by
      simp [X509v3.checkTag, require, htag]
    rw [if_neg htag, hno]
    rfl

theorem length_at {α : Type} {data : Bytes} {index : Nat} {f : Nat × Nat → Walker α}
    {g : Nat × Nat → Check α}
    (h : ∀ length consumed, 1 ≤ consumed → index + 1 + (consumed + length) ≤ data.length →
      f (length, consumed) = settle (g (length, consumed))) :
    (if data.length ≤ index + 1 then verifFail
      else sliceFrom data (index + 1) >>= fun rest => checkLength rest >>= f) =
      settle (X509v3.checkLength (data.drop (index + 1)) >>= g) := by
  by_cases hend : data.length ≤ index + 1
  · rw [if_pos hend, List.drop_eq_nil_of_le hend]
    rfl
  · rw [if_neg hend]
    exact length_from (by omega) h

theorem keyUsageBits_eq (hindex : index < data.length) :
    keyUsageBits data index = settle (X509v3.keyUsageBits (data.drop index)) := by
  obtain ⟨tag, rest, hdrop, htag, hrest, -⟩ := exists_drop hindex
  unfold keyUsageBits X509v3.keyUsageBits
  rw [indexAt_bind htag, hdrop, show (tag :: rest).drop 1 = data.drop (index + 1) from hrest.symm]
  refine tag_or_refuse fun _ => length_at fun length consumed hpos hroom => ?_
  have hskip : (tag :: rest).drop (1 + consumed) = data.drop (index + (1 + consumed)) := by
    rw [← hdrop, List.drop_drop]
  dsimp only
  rw [hskip]
  refine refuse_or (by simp) fun hmore => ?_
  obtain ⟨tag', rest', hdrop', htag', hrest', hlength'⟩ :=
    @exists_drop data (index + (1 + consumed)) (by omega)
  rw [indexAt_bind htag', hdrop', List.head?_cons]
  by_cases hbits : tag' = asn1TagBitString
  · subst hbits
    rw [show (asn1TagBitString :: rest').drop 1 =
      data.drop (index + (1 + consumed) + 1) from hrest'.symm]
    refine length_at fun length consumed' _ hroom' => ?_
    have hvalue : (asn1TagBitString :: rest')[consumed' + length]? =
        data[index + (1 + consumed) + (consumed' + length)]? := by
      rw [← hdrop', List.getElem?_drop]
    rw [if_neg (by omega), hvalue]
    cases hget : data[index + (1 + consumed) + (consumed' + length)]? with
    | none => exact absurd (List.getElem?_eq_none_iff.1 hget) (by omega)
    | some value =>
      rw [indexAt_bind hget]
      rfl
  · rw [if_neg hbits, if_neg (by simpa using hbits)]
    rfl

theorem checkAndSkipCommonTag_cons :
    X509v3.checkAndSkipCommonTag (first :: rest) =
      X509v3.checkLength rest >>= fun x => .ok (1 + x.2 + x.1) := by
  unfold X509v3.checkAndSkipCommonTag
  have hfirst : decide (1 ≤ (first :: rest).length) = true := by simp
  show (X509v3.checkLength rest >>= fun x =>
    require (decide (1 + x.2 + x.1 ≤ (first :: rest).length)) >>= fun _ => .ok (1 + x.2 + x.1)) = _
  cases hlength : X509v3.checkLength rest with
  | error e => rfl
  | ok x =>
    obtain ⟨length, consumed⟩ := x
    obtain ⟨-, hroom⟩ := bounds hlength
    have hfits : decide (1 + consumed + length ≤ (first :: rest).length) = true := by
      rw [decide_eq_true_eq, List.length_cons]
      omega
    show (require (decide (1 + consumed + length ≤ (first :: rest).length)) >>= fun _ =>
      Except.ok (1 + consumed + length)) = _
    rw [hfits]
    rfl

theorem keyUsageValue_eq :
    keyUsageValue data index = settle (X509v3.keyUsageValue (data.drop index)) := by
  unfold keyUsageValue
  by_cases hend : data.length ≤ index
  · rw [if_pos hend, List.drop_eq_nil_of_le hend]
    rfl
  · obtain ⟨tag, rest, hdrop, htag, hrest, hlength⟩ := @exists_drop data index (by omega)
    rw [if_neg hend, indexAt_bind htag, hdrop, X509v3.keyUsageValue, List.head?_cons]
    simp only [Option.some.injEq]
    refine settle_ite (fun _ => ?_) fun _ => by rw [keyUsageBits_eq (by omega), hdrop]
    rw [checkAndSkipCommonTag_cons, LawfulMonad.bind_assoc, ← hdrop, ← hrest]
    refine length_at fun length consumed _ _ => ?_
    show (if data.length ≤ index + (1 + consumed + length) then verifFail
      else keyUsageBits data (index + (1 + consumed + length))) =
        settle (X509v3.keyUsageBits ((data.drop index).drop (1 + consumed + length)))
    rw [List.drop_drop]
    by_cases hlast : data.length ≤ index + (1 + consumed + length)
    · rw [if_pos hlast, List.drop_eq_nil_of_le hlast]
      rfl
    · rw [if_neg hlast, keyUsageBits_eq (by omega)]

theorem drop_drop_assoc {n : Nat} :
    (data.drop (index + 1)).drop n = data.drop (index + (1 + n)) := by
  rw [List.drop_drop, Nat.add_assoc]

theorem payload_at {consumed : Nat} :
    (data.take (index + (1 + consumed) + length)).drop (index + (1 + consumed)) =
      ((data.drop (index + 1)).take (consumed + length)).drop consumed := by
  rw [List.take_drop, List.drop_drop, ← Nat.add_assoc index, Nat.add_assoc (index + 1)]

theorem payload_length {consumed : Nat}
    (h : index + 1 + (consumed + length) ≤ data.length) :
    (((data.drop (index + 1)).take (consumed + length)).drop consumed).length = length := by
  rw [List.length_drop, List.length_take, List.length_drop]
  omega

theorem searchKeyUsage_eq (hindex : index ≤ data.length)
    (hturns : data.length - index < turns) :
    searchKeyUsage data turns index = settle (X509v3.searchKeyUsage (data.drop index)) := by
  induction turns generalizing index with
  | zero => omega
  | succ turns ih =>
    unfold searchKeyUsage
    by_cases hend : index < data.length
    · obtain ⟨tag, rest, hdrop, htag, hrest, hlength⟩ := exists_drop hend
      rw [if_pos hend, hdrop, X509v3.searchKeyUsage, ← hrest]
      refine length_at fun length consumed hpos hroom => ?_
      dsimp only
      rw [minus_bind (by omega), if_neg (by omega), indexAt_bind htag, drop_drop_assoc,
        drop_drop_assoc, ← Nat.add_assoc 1]
      refine settle_ite (fun _ => ih (by omega) (by omega)) fun _ => ?_
      have hfound : (if tag = asn1TagNumberObjectIdentifier ∧ length = oidKeyUsage.length then
            slice data (index + (1 + consumed)) (index + (1 + consumed) + length) >>= fun id =>
              ret (objectIdentifiersAreSame id oidKeyUsage)
          else ret false : Walker Bool) = ret (decide (tag = asn1TagNumberObjectIdentifier ∧
            ((data.drop (index + 1)).take (consumed + length)).drop consumed = oidKeyUsage)) := by
        by_cases hid : tag = asn1TagNumberObjectIdentifier ∧ length = oidKeyUsage.length
        · rw [if_pos hid, slice_bind (by omega) (by omega), payload_at, objectIdentifiersAreSame_eq]
          simp [hid.1]
        · have hno : ¬ (tag = asn1TagNumberObjectIdentifier ∧
              ((data.drop (index + 1)).take (consumed + length)).drop consumed = oidKeyUsage) := by
            rintro ⟨htag, hsame⟩
            refine hid ⟨htag, ?_⟩
            rw [← hsame, payload_length (by omega)]
          rw [if_neg hid, decide_eq_false hno]
      rw [hfound]
      show (if decide _ = true then _ else _) = _
      simp only [decide_eq_true_eq]
      exact settle_ite (fun _ => keyUsageValue_eq)
        fun _ => ih (by omega) (by omega)
    · rw [if_neg hend, List.drop_eq_nil_of_le (by omega), X509v3.searchKeyUsage]
      rfl

theorem getKeyUsageValue_eq :
    getKeyUsageValue data = settle (X509v3.getKeyUsageValue data) := by
  refine refuse_unless_tag fun hdata => length_from hdata fun length consumed _ hroom => ?_
  dsimp only
  rw [if_neg (by omega)]
  exact searchKeyUsage_eq (by omega) (by omega)

/-! ## §4. Extensions. -/

theorem searchObjectIdentifier_eq
    (htarget : target.length ≤ data.length) (hindex : index ≤ data.length)
    (hturns : data.length - index < turns) :
    searchObjectIdentifier target data turns index =
      settle (X509v3.searchObjectIdentifier target (data.drop index)) := by
  induction turns generalizing index with
  | zero => omega
  | succ turns ih =>
    unfold searchObjectIdentifier
    rw [minus_bind htarget, X509v3.searchObjectIdentifier.eq_def, List.length_drop]
    by_cases hmore : index < data.length - target.length
    · obtain ⟨tag, rest, hdrop, htag, hrest, hlength⟩ := @exists_drop data index (by omega)
      have hlist : target.length < data.length - index := by omega
      rw [if_pos hmore, if_pos hlist, hdrop, ← hrest]
      refine length_at fun length consumed hpos hroom => ?_
      dsimp only
      rw [minus_bind (by omega), if_neg (by omega), indexAt_bind htag, drop_drop_assoc,
        drop_drop_assoc, ← Nat.add_assoc 1]
      refine settle_ite (fun _ => ?_) fun _ => ?_
      · rw [slice_bind (by omega) (by omega), payload_at, objectIdentifiersAreSame_eq]
        have hsame : decide (((data.drop (index + 1)).take (consumed + length)).drop consumed =
            target) = true ∧ length = target.length ↔
              ((data.drop (index + 1)).take (consumed + length)).drop consumed = target := by
          rw [decide_eq_true_eq]
          refine ⟨And.left, fun h => ⟨h, ?_⟩⟩
          rw [← h, payload_length (by omega)]
        simp only [hsame]
        exact settle_ite (fun _ => rfl) fun _ => ih (by omega) (by omega)
      · exact settle_ite (fun _ => ih (by omega) (by omega)) fun _ => ih (by omega) (by omega)
    · rw [if_neg hmore, if_neg (by omega)]
      rfl

theorem findTargetObjectIdentifierInSingleExtension_eq :
    findTargetObjectIdentifierInSingleExtension data target =
      settle (X509v3.findTargetObjectIdentifierInSingleExtension data target) := by
  refine refuse_or ?_ fun hdata => ?_
  · cases data with
    | nil => simp
    | cons b rest => simp
  · by_cases hshort : data.length < target.length
    · rw [if_pos hshort, X509v3.searchObjectIdentifier.eq_def, if_neg (by omega)]
      rfl
    · rw [if_neg hshort]
      exact searchObjectIdentifier_eq (by omega) (by omega) (by omega)

theorem checkAndGetExtnId_size {extnId : Bytes}
    (h : X509v3.checkAndGetExtnId data = .ok (extnId, size)) : 0 < size ∧ size ≤ data.length := by
  obtain ⟨_, -, h⟩ := Check.bind_eq_ok.1 h
  obtain ⟨⟨length, consumed⟩, -, h⟩ := Check.bind_eq_ok.1 h
  obtain ⟨_, hfits, h⟩ := Check.bind_eq_ok.1 h
  obtain ⟨_, -, h⟩ := Check.bind_eq_ok.1 h
  obtain ⟨_, -, h⟩ := Check.bind_eq_ok.1 h
  cases h
  rw [require_eq_ok, decide_eq_true_eq] at hfits
  omega

theorem walkExtensions_eq {sequences : Bytes} {payload : Nat} {responder requester : Bool}
    (hpayload : payload ≤ sequences.length) (hindex : index ≤ payload)
    (hturns : payload - index < turns) :
    walkExtensions sequences payload turns index responder requester =
      settle (X509v3.walkExtensions (payload - index) (sequences.drop index)
        (responder || requester)) := by
  induction turns generalizing index responder requester with
  | zero => omega
  | succ turns ih =>
    unfold walkExtensions
    rw [X509v3.walkExtensions.eq_def]
    by_cases hmore : index < payload
    · have hlist : 0 < payload - index := by omega
      rw [if_pos hmore, if_pos hlist, sliceFrom_bind (by omega), checkAndGetExtnId_eq]
      cases hid : X509v3.checkAndGetExtnId (sequences.drop index) with
      | error e => rfl
      | ok x =>
        obtain ⟨extnId, size⟩ := x
        obtain ⟨hpos, hroom⟩ := checkAndGetExtnId_size hid
        show (minus payload index >>= _) = _
        rw [minus_bind (by omega)]
        dsimp only
        by_cases hlong : payload - index < size
        · rw [if_pos hlong, if_pos (.inr hlong)]
          rfl
        · have hfits : ¬ (size = 0 ∨ payload - index < size) := by omega
          have hnext : ∀ r q, walkExtensions sequences payload turns (index + size) r q =
              settle (X509v3.walkExtensions (payload - index - size)
                ((sequences.drop index).drop size) (r || q)) := by
            intro r q
            rw [ih (by omega) (by omega), List.drop_drop, Nat.sub_sub]
          have hflags : ∀ {b b' : Bool}, b = b' →
              (settle (X509v3.walkExtensions (payload - index - size)
                ((sequences.drop index).drop size) b)) =
              settle (X509v3.walkExtensions (payload - index - size)
                ((sequences.drop index).drop size) b') := fun h => by rw [h]
          have hslice : (sequences.take (index + size)).drop index =
              (sequences.drop index).take size := by rw [List.take_drop]
          rw [if_neg hlong, if_neg hfits]
          unfold extensionNamesAuth
          simp only [objectIdentifiersAreSame_eq, decide_eq_true_eq]
          by_cases hname : extnId = oidSubjectAlternativeName
          · rw [if_pos hname, if_pos hname, slice_bind (by omega) (by omega), hslice,
              findTargetObjectIdentifierInSingleExtension_eq, LawfulMonad.bind_assoc]
            refine settle_bind fun _ _ => ?_
            exact (hnext responder requester).trans (hflags (Bool.or_false _).symm)
          rw [if_neg hname, if_neg hname]
          by_cases husage : extnId = oidExtKeyUsage
          · rw [if_pos husage, if_pos husage, slice_bind (by omega) (by omega), hslice,
              findTargetObjectIdentifierInSingleExtension_eq, LawfulMonad.bind_assoc]
            refine settle_bind fun found _ => ?_
            cases found with
            | true => exact (hnext true requester).trans (hflags (by simp))
            | false =>
              rw [slice_bind (by omega) (by omega), hslice,
                findTargetObjectIdentifierInSingleExtension_eq]
              refine settle_bind fun found _ => ?_
              cases found with
              | true => exact (hnext responder true).trans (hflags (by simp))
              | false => exact (hnext responder requester).trans (hflags (Bool.or_false _).symm)
          rw [if_neg husage, if_neg husage]
          by_cases hspdm : extnId = oidDmtfSpdmExtension
          · rw [if_pos hspdm, if_pos hspdm, slice_bind (by omega) (by omega), hslice,
              findTargetObjectIdentifierInSingleExtension_eq, LawfulMonad.bind_assoc]
            refine settle_bind fun found _ => ?_
            cases found with
            | true => exact (hnext responder requester).trans (hflags (Bool.or_false _).symm)
            | false =>
              rw [if_neg (by decide), if_neg (by decide), slice_bind (by omega) (by omega), hslice,
                findTargetObjectIdentifierInSingleExtension_eq, LawfulMonad.bind_assoc]
              refine settle_bind fun _ _ => ?_
              exact (hnext responder requester).trans (hflags (Bool.or_false _).symm)
          rw [if_neg hspdm, if_neg hspdm]
          exact (hnext responder requester).trans (hflags (Bool.or_false _).symm)
    · have hlist : ¬ 0 < payload - index := by omega
      rw [if_neg hmore, if_neg hlist]
      rfl

theorem checkExtensionsSpdmOid_eq {extensions : Bytes} :
    checkExtensionsSpdmOid extensions isLeafCert =
      settle (X509v3.checkExtensionsSpdmOid extensions isLeafCert) := by
  unfold checkExtensionsSpdmOid X509v3.checkExtensionsSpdmOid
  refine refuse_unless_tag fun hdata => length_from hdata fun payload consumed _ hroom => ?_
  dsimp only
  rw [sliceFrom_bind (by omega), List.length_drop, if_neg (by omega),
    walkExtensions_eq (by rw [List.length_drop]; omega) (by omega) (by omega)]
  refine settle_bind fun found _ => ?_
  cases isLeafCert with
  | true => rfl
  | false => rfl

theorem refuse_bind {β : Type} [Decidable p] {w : Walker α} {f : α → Walker β} :
    ((if p then verifFail else w) >>= f) = if p then verifFail else w >>= f := by
  by_cases hp : p
  · rw [if_pos hp, if_pos hp]
    rfl
  · rw [if_neg hp, if_neg hp]

theorem enter_bind
    {f : Nat × Nat → Walker α} {g : Nat × Bytes → Check α} (hwalker : walker ≤ data.length)
    (h : ∀ length walker', walker < walker' → walker' < data.length →
      walker' + length ≤ data.length →
      f (length, walker') = settle (g (length, data.drop walker'))) :
    (enter tag data walker >>= f) = settle (X509v3.enter tag (data.drop walker) >>= g) := by
  unfold enter X509v3.enter
  rw [sliceFrom_bind hwalker, checkTag_eq, Effect.bind_assoc, LawfulMonad.bind_assoc]
  refine settle_bind fun _ _ => ?_
  rw [refuse_bind, Effect.bind_assoc, LawfulMonad.bind_assoc, List.drop_drop]
  simp only [Effect.bind_assoc]
  refine length_at fun length consumed hpos hroom => ?_
  rw [refuse_bind, LawfulMonad.bind_assoc, List.length_drop, List.drop_drop]
  refine refuse_or ?_ fun hmore => ?_
  · rw [decide_eq_true_eq]
    omega
  · exact h length (walker + (1 + consumed)) (by omega) (by omega) (by omega)

theorem valueHolds_eq (hwalker : walker ≤ data.length) :
    valueHolds target data walker = settle (X509v3.valueHolds target (data.drop walker)) := by
  refine enter_bind hwalker fun _ walker₁ _ hlt₁ _ => ?_
  refine enter_bind hlt₁.le fun _ walker₂ _ hlt₂ _ => ?_
  refine enter_bind hlt₂.le fun _ walker₃ _ hlt₃ _ => ?_
  refine enter_bind hlt₃.le fun length walker₄ _ hlt₄ hroom => ?_
  refine refuse_or (by simp) fun _ => ?_
  rw [if_pos hroom, slice_bind (by omega) hroom, objectIdentifiersAreSame_eq, List.take_drop]
  congr 1
  rw [Bool.eq_iff_iff]
  simp

theorem extensionHolds_eq (hwalker : walker < data.length) :
    extensionHolds target data walker =
      settle (X509v3.extensionHolds target (data.drop walker)) := by
  obtain ⟨tag, rest, hdrop, -⟩ := exists_drop hwalker
  unfold extensionHolds X509v3.extensionHolds
  rw [if_neg (by omega), sliceFrom_bind (by omega), checkTag_eq, List.drop_drop, hdrop,
    List.head?_cons]
  by_cases hbool : tag = asn1TagBoolean
  · subst hbool
    rw [if_pos rfl]
    show (if data.length ≤ walker + 3 then verifFail else valueHolds target data (walker + 3)) = _
    by_cases hend : data.length ≤ walker + 3
    · rw [if_pos hend, List.drop_eq_nil_of_le hend]
      rfl
    · rw [if_neg hend, valueHolds_eq (by omega)]
  · have hno : X509v3.checkTag asn1TagBoolean (tag :: rest) = reject := by
      simp [X509v3.checkTag, require, hbool]
    have hother : ¬ some tag = some asn1TagBoolean := by simpa using hbool
    rw [hno, if_neg hother, ← hdrop]
    exact valueHolds_eq hwalker.le

theorem searchExtensions_cons {body : Bytes} :
    X509v3.searchExtensions target (tag :: body) =
      (X509v3.enter asn1TagSequence (tag :: body) >>= fun x =>
        X509v3.enter asn1TagNumberObjectIdentifier x.2 >>= fun y =>
        (if y.1 < y.2.length ∧ y.2.take y.1 = oidDmtfSpdmExtension then
          X509v3.extensionHolds target (y.2.drop y.1) else .ok false) >>= fun holds =>
        if holds then .ok true else X509v3.searchExtensions target (x.2.drop x.1)) := by
  rw [X509v3.searchExtensions]
  have htag : X509v3.checkTag asn1TagSequence (tag :: body) = require (tag == asn1TagSequence) := by
    congr 1
  have henter : X509v3.enter asn1TagSequence (tag :: body) =
      (require (tag == asn1TagSequence) >>= fun _ => X509v3.checkLength body >>= fun x =>
        require (!(body.drop x.2).isEmpty) >>= fun _ => .ok (x.1, body.drop x.2)) := by
    unfold X509v3.enter
    rw [htag]
    have hmore : ∀ consumed, decide (consumed + 1 < (tag :: body).length) =
        !(body.drop consumed).isEmpty := by
      intro consumed
      rw [Bool.eq_iff_iff]
      simp [List.drop_eq_nil_iff]
    simp only [Nat.add_comm 1, hmore, List.drop_succ_cons, List.drop_zero]
  have hok : ∀ (x : Nat × Bytes) (f : Nat × Bytes → Check Bool), (Except.ok x >>= f) = f x :=
    fun _ _ => rfl
  rw [henter]
  simp only [LawfulMonad.bind_assoc, hok, List.drop_drop]

theorem searchExtensions_eq
    (hwalker : walker ≤ data.length) (hturns : data.length - walker < turns) :
    searchExtensions target data turns walker =
      settle (X509v3.searchExtensions target (data.drop walker)) := by
  induction turns generalizing walker with
  | zero => omega
  | succ turns ih =>
    unfold searchExtensions
    by_cases hmore : walker < data.length
    · obtain ⟨tag, body, hdrop, -⟩ := exists_drop hmore
      rw [if_pos hmore, hdrop, searchExtensions_cons, ← hdrop]
      refine enter_bind hwalker fun extensionLength start hstart hlt hext => ?_
      refine enter_bind hlt.le fun length id hid hidlt hroom => ?_
      dsimp only
      rw [List.length_drop, List.drop_drop, List.drop_drop]
      have hspdm : (if id + length < data.length then
          slice data id (id + length) >>= fun extnId =>
            ret (objectIdentifiersAreSame extnId oidDmtfSpdmExtension)
          else ret false : Walker Bool) = ret (decide (length < data.length - id ∧
            (data.drop id).take length = oidDmtfSpdmExtension)) := by
        by_cases hinner : id + length < data.length
        · rw [if_pos hinner, slice_bind (by omega) (by omega), objectIdentifiersAreSame_eq,
            List.take_drop]
          have hlist : length < data.length - id := by omega
          simp only [hlist, true_and]
        · have hlist : ¬ length < data.length - id := by omega
          simp only [hinner, hlist, if_false, false_and, decide_false]
      rw [hspdm]
      show ((if decide _ = true then extensionHolds target data (id + length) else ret false) >>=
        fun holds => if holds = true then ret true
          else searchExtensions target data turns (start + extensionLength)) = _
      simp only [decide_eq_true_eq]
      have hholds : (if length < data.length - id ∧ (data.drop id).take length =
        oidDmtfSpdmExtension
          then extensionHolds target data (id + length) else ret false) =
          settle (if length < data.length - id ∧ (data.drop id).take length = oidDmtfSpdmExtension
            then X509v3.extensionHolds target (data.drop (id + length)) else .ok false) :=
        settle_ite (fun hinner => extensionHolds_eq (by omega)) fun _ => rfl
      rw [hholds]
      refine settle_bind fun holds _ => ?_
      exact settle_ite (fun _ => rfl) fun _ => ih (by omega) (by omega)
    · rw [if_neg hmore, List.drop_eq_nil_of_le (by omega), X509v3.searchExtensions]
      rfl

theorem findTargetObjectIdentifierInExtensions_eq :
    findTargetObjectIdentifierInExtensions data target =
      settle (X509v3.findTargetObjectIdentifierInExtensions data target) := by
  unfold findTargetObjectIdentifierInExtensions X509v3.findTargetObjectIdentifierInExtensions
  cases data with
  | nil => rfl
  | cons tag body =>
    rw [sliceFrom_bind (by simp), checkTag_eq]
    refine settle_bind fun _ _ => ?_
    refine @length_at _ (tag :: body) 0 _ _ fun payload consumed hpos hroom => ?_
    dsimp only
    rw [minus_bind (by omega), if_neg (by omega), slice_bind (by omega) (by omega),
      searchExtensions_eq (by omega) ?_, List.drop_zero, List.take_drop]
    rw [List.length_drop, List.length_take]
    omega

/-! ## §5. Certificates. -/

theorem checkAndSkipCommonTag_size
    (h : X509v3.checkAndSkipCommonTag data = .ok size) : size ≤ data.length := by
  obtain ⟨_, -, h⟩ := Check.bind_eq_ok.1 h
  obtain ⟨⟨length, consumed⟩, -, h⟩ := Check.bind_eq_ok.1 h
  obtain ⟨_, hfits, h⟩ := Check.bind_eq_ok.1 h
  cases h
  rwa [require_eq_ok, decide_eq_true_eq] at hfits

theorem checkAndSkipCommonSequence_size
    (h : X509v3.checkAndSkipCommonSequence data = .ok size) : size ≤ data.length := by
  obtain ⟨_, -, h⟩ := Check.bind_eq_ok.1 h
  exact checkAndSkipCommonTag_size h

theorem checkAndGetCommonTag_size {payload : Bytes}
    (h : X509v3.checkAndGetCommonTag data = .ok (size, payload)) : size ≤ data.length := by
  obtain ⟨_, -, h⟩ := Check.bind_eq_ok.1 h
  obtain ⟨⟨length, consumed⟩, -, h⟩ := Check.bind_eq_ok.1 h
  obtain ⟨_, hfits, h⟩ := Check.bind_eq_ok.1 h
  cases h
  rwa [require_eq_ok, decide_eq_true_eq] at hfits

theorem checkVersion_size (h : X509v3.checkVersion data = .ok size) :
    size = 5 ∧ 5 ≤ data.length := by
  obtain ⟨_, hversion, h⟩ := Check.bind_eq_ok.1 h
  cases h
  rw [require_eq_ok, beq_iff_eq] at hversion
  have hlength := congrArg List.length hversion
  rw [List.length_take] at hlength
  simp only [List.length_cons, List.length_nil] at hlength
  omega

theorem checkTag_length {u : Unit}
    (h : X509v3.checkTag tag data = .ok u) : 1 ≤ data.length := by
  cases data with
  | nil => cases h
  | cons first rest => simp

theorem skipToIssuer_eq :
    skipToIssuer data oid = settle (X509v3.skipToIssuer data oid) := by
  unfold skipToIssuer X509v3.skipToIssuer X509v3.checkTagIsSequence
  rw [checkTag_eq]
  refine settle_bind fun _ htag => ?_
  refine length_from (checkTag_length htag) fun tbsLength consumed _ _ => ?_
  refine refuse_or (by rw [decide_eq_true_eq]; omega) fun hfits => ?_
  rw [sliceFrom_bind (by omega), checkVersion_eq]
  refine settle_bind fun version hversion => ?_
  obtain ⟨rfl, hroom₁⟩ := checkVersion_size hversion
  rw [List.length_drop] at hroom₁
  refine skip_from checkAndSkipCommonTag_eq checkAndSkipCommonTag_size (by omega)
    fun serial hroom₂ => ?_
  rw [sliceFrom_bind (by omega), checkTag_eq]
  refine settle_bind fun _ halgorithm => ?_
  have hroom₃ := checkTag_length halgorithm
  rw [List.length_drop] at hroom₃
  refine length_from (by omega) fun idLength idConsumed _ hroom₄ => ?_
  dsimp only
  rw [sliceFrom_bind (by omega), checkObjectIdentifier_eq]
  exact settle_bind fun _ _ => rfl

theorem skipToIssuer_ok {start tbsLength : Nat}
    (h : X509v3.skipToIssuer data oid = .ok (start, tbsLength, walker)) :
    ∃ consumed, X509v3.checkTag asn1TagSequence data = .ok () ∧
      X509v3.checkLength (data.drop 1) = .ok (tbsLength, consumed) ∧ start = 1 + consumed ∧
      start + tbsLength ≤ data.length ∧ X509v3.checkVersion (data.drop start) = .ok 5 ∧
      start + 5 ≤ walker ∧ walker ≤ data.length := by
  obtain ⟨_, htag, h⟩ := Check.bind_eq_ok.1 h
  obtain ⟨⟨tbsLength', consumed⟩, hlength, h⟩ := Check.bind_eq_ok.1 h
  obtain ⟨_, hfits, h⟩ := Check.bind_eq_ok.1 h
  obtain ⟨version, hversion, h⟩ := Check.bind_eq_ok.1 h
  obtain ⟨serial, hserial, h⟩ := Check.bind_eq_ok.1 h
  obtain ⟨_, halgorithm, h⟩ := Check.bind_eq_ok.1 h
  obtain ⟨⟨idLength, idConsumed⟩, hid, h⟩ := Check.bind_eq_ok.1 h
  obtain ⟨_, -, h⟩ := Check.bind_eq_ok.1 h
  cases h
  obtain ⟨rfl, hroom₁⟩ := checkVersion_size hversion
  have hroom₂ := checkAndSkipCommonTag_size hserial
  have hroom₃ := checkTag_length halgorithm
  obtain ⟨-, hroom₄⟩ := bounds hid
  rw [require_eq_ok, decide_eq_true_eq] at hfits
  rw [List.length_drop] at hroom₁ hroom₂ hroom₃ hroom₄
  exact ⟨consumed, htag, hlength, rfl, hfits, hversion, by omega, by omega⟩

theorem skipToExtensions_eq (hwalker : walker ≤ data.length) :
    skipToExtensions data walker = settle (X509v3.skipToExtensions data walker) := by
  unfold skipToExtensions X509v3.skipToExtensions checkName checkValidity checkPublicKeyInfo
  have hskip : ∀ {index : Nat} {f : Nat → Walker Nat} {g : Nat → Check Nat},
      index ≤ data.length → (∀ size, index + size ≤ data.length → f size = settle (g size)) →
      (sliceFrom data index >>= fun rest => checkAndSkipCommonSequence rest >>= f) =
        settle (X509v3.checkAndSkipCommonSequence (data.drop index) >>= g) :=
    skip_from checkAndSkipCommonSequence_eq checkAndSkipCommonSequence_size
  -- issuer, validity, subject and public key
  exact hskip hwalker fun _ h => hskip h fun _ h => hskip h fun _ h => hskip h fun _ _ => rfl

theorem skipToExtensions_ok {next : Nat} (hwalker : walker ≤ data.length)
    (h : X509v3.skipToExtensions data walker = .ok next) : walker ≤ next ∧ next ≤ data.length := by
  unfold X509v3.skipToExtensions checkName checkValidity checkPublicKeyInfo at h
  obtain ⟨issuer, hissuer, h⟩ := Check.bind_eq_ok.1 h
  obtain ⟨validity, hvalidity, h⟩ := Check.bind_eq_ok.1 h
  obtain ⟨subject, hsubject, h⟩ := Check.bind_eq_ok.1 h
  obtain ⟨key, hkey, h⟩ := Check.bind_eq_ok.1 h
  cases h
  have hroom₁ := checkAndSkipCommonSequence_size hissuer
  have hroom₂ := checkAndSkipCommonSequence_size hvalidity
  have hroom₃ := checkAndSkipCommonSequence_size hsubject
  have hroom₄ := checkAndSkipCommonSequence_size hkey
  rw [List.length_drop] at hroom₁ hroom₂ hroom₃ hroom₄
  omega

theorem checkTbsCertificate_eq :
    checkTbsCertificate data baseAsymAlgo isLeafCert =
      settle (X509v3.checkTbsCertificate data baseAsymAlgo isLeafCert) := by
  unfold checkTbsCertificate X509v3.checkTbsCertificate
  rw [skipToIssuer_eq]
  refine settle_bind ?_
  rintro ⟨start, tbsLength, walker⟩ hissuer
  obtain ⟨_, -, -, -, -, -, -, hroom⟩ := skipToIssuer_ok hissuer
  dsimp only
  rw [skipToExtensions_eq hroom]
  refine settle_bind fun next hnext => ?_
  obtain ⟨-, hroom'⟩ := skipToExtensions_ok hroom hnext
  rw [sliceFrom_bind hroom', checkAndGetExtensions_eq]
  refine settle_bind ?_
  rintro ⟨size, extensions⟩ -
  rw [getKeyUsageValue_eq]
  refine settle_bind ?_
  rintro ⟨findKeyUsage, keyUsage⟩ -
  rw [checkExtensionsSpdmOid_eq]
  refine settle_bind fun spdmSuccess _ => ?_
  refine accept_or ?_ fun _ => rfl
  rw [Bool.and_eq_true, Bool.and_eq_true, beq_iff_eq, and_assoc]

theorem checkTbsCertificate_size
    (h : X509v3.checkTbsCertificate data baseAsymAlgo isLeafCert = .ok size) :
    size ≤ data.length := by
  obtain ⟨⟨start, tbsLength, walker⟩, hissuer, h⟩ := Check.bind_eq_ok.1 h
  obtain ⟨_, -, -, -, hfits, -⟩ := skipToIssuer_ok hissuer
  obtain ⟨next, -, h⟩ := Check.bind_eq_ok.1 h
  obtain ⟨⟨_, extensions⟩, -, h⟩ := Check.bind_eq_ok.1 h
  obtain ⟨⟨findKeyUsage, keyUsage⟩, -, h⟩ := Check.bind_eq_ok.1 h
  obtain ⟨spdmSuccess, -, h⟩ := Check.bind_eq_ok.1 h
  obtain ⟨_, -, h⟩ := Check.bind_eq_ok.1 h
  cases h
  exact hfits

theorem checkSignatureAlgorithm_eq :
    checkSignatureAlgorithm data baseAsymAlgo isLeafCert =
      settle (X509v3.checkSignatureAlgorithm data baseAsymAlgo isLeafCert) := by
  unfold checkSignatureAlgorithm X509v3.checkSignatureAlgorithm X509v3.checkTagIsSequence
  rw [sliceFrom_bind (by omega), List.drop_zero, checkTag_eq]
  refine settle_bind fun _ htag =>
    length_from (checkTag_length htag) fun length consumed _ hroom => ?_
  dsimp only
  rw [sliceFrom_bind (by omega), checkObjectIdentifier_eq]
  exact settle_bind fun _ _ => rfl

theorem checkSignatureAlgorithm_ok
    (h : X509v3.checkSignatureAlgorithm data baseAsymAlgo isLeafCert = .ok size) :
    ∃ length consumed, X509v3.checkTag asn1TagSequence data = .ok () ∧
      X509v3.checkLength (data.drop 1) = .ok (length, consumed) ∧ size = 1 + consumed + length ∧
      size ≤ data.length := by
  obtain ⟨_, htag, h⟩ := Check.bind_eq_ok.1 h
  obtain ⟨⟨length, consumed⟩, hlength, h⟩ := Check.bind_eq_ok.1 h
  obtain ⟨_, -, h⟩ := Check.bind_eq_ok.1 h
  cases h
  obtain ⟨hpos, hroom⟩ := bounds hlength
  rw [List.length_drop] at hroom
  exact ⟨length, consumed, htag, hlength, rfl, by omega⟩

theorem checkCertFormat_eq {cert : Bytes} :
    checkCertFormat cert baseAsymAlgo = settle (X509v3.checkCertFormat cert baseAsymAlgo) := by
  unfold checkCertFormat X509v3.checkCertFormat X509v3.checkTagIsSequence checkSignatureValue
  rw [checkTag_eq]
  refine settle_bind fun _ htag =>
    length_from (checkTag_length htag) fun bodySize consumed _ hroom => ?_
  refine skip_from checkTbsCertificate_eq checkTbsCertificate_size (by omega) fun tbs hroom₁ => ?_
  refine skip_from checkSignatureAlgorithm_eq
    (fun h => (checkSignatureAlgorithm_ok h).elim fun _ h => h.elim fun _ h => h.2.2.2) hroom₁
    fun algorithm hroom₂ => ?_
  rw [sliceFrom_bind (by omega), checkAndSkipCommonTag_eq]
  refine settle_bind fun value _ => ?_
  exact accept_or beq_iff_eq fun _ => rfl

theorem checkCertFormat_size {cert : Bytes}
    (h : X509v3.checkCertFormat cert baseAsymAlgo = .ok size) : 0 < size ∧ size ≤ cert.length := by
  obtain ⟨length, consumed, hlength, rfl⟩ := checkCertFormat_ok h
  obtain ⟨hpos, hroom⟩ := bounds hlength
  rw [List.length_drop] at hroom
  omega

theorem walkChain_eq {chain : Bytes} {count : Nat}
    (hwalker : walker ≤ chain.length) (hturns : chain.length - walker < turns) :
    walkChain chain baseAsymAlgo turns walker count =
      settle (X509v3.checkCertChainFormat (chain.drop walker) baseAsymAlgo >>= fun n =>
        .ok (count + n)) := by
  induction turns generalizing walker count with
  | zero => omega
  | succ turns ih =>
    unfold walkChain
    rw [X509v3.checkCertChainFormat, List.length_drop]
    by_cases hmore : walker < chain.length
    · have hlist : 0 < chain.length - walker := by omega
      rw [if_pos hmore, if_pos hlist, sliceFrom_bind (by omega), checkCertFormat_eq]
      cases hformat : X509v3.checkCertFormat (chain.drop walker) baseAsymAlgo with
      | error e => rfl
      | ok size =>
        obtain ⟨hpos, hroom⟩ := checkCertFormat_size hformat
        rw [List.length_drop] at hroom
        have hfits : ¬ (size = 0 ∨ chain.length - walker < size) := by omega
        show walkChain chain baseAsymAlgo turns (walker + size) (count + 1) = _
        rw [ih (by omega) (by omega)]
        dsimp only
        rw [if_neg hfits, List.drop_drop]
        cases X509v3.checkCertChainFormat (chain.drop (walker + size)) baseAsymAlgo with
        | error e => rfl
        | ok n =>
          show ret (count + 1 + n) = ret (count + (n + 1))
          congr 1
          omega
    · have hlist : ¬ 0 < chain.length - walker := by omega
      rw [if_neg hmore, if_neg hlist, if_pos (by omega)]
      rfl

theorem checkCertChainFormat_eq (chain : Bytes) (baseAsymAlgo : Flags) :
    checkCertChainFormat chain baseAsymAlgo =
      settle (X509v3.checkCertChainFormat chain baseAsymAlgo) := by
  unfold checkCertChainFormat
  rw [walkChain_eq (by omega) (by omega), List.drop_zero]
  cases X509v3.checkCertChainFormat chain baseAsymAlgo with
  | error e => rfl
  | ok n =>
    show ret (0 + n) = ret n
    rw [Nat.zero_add]

theorem isRootCertificate_eq (cert : Bytes) :
    isRootCertificate cert = settle (X509v3.isRootCertificate cert) := by
  unfold isRootCertificate X509v3.isRootCertificate X509v3.checkTagIsSequence checkValidity
  rw [checkTag_eq]
  refine settle_bind fun _ htag => length_from (checkTag_length htag) fun _ consumed _ hroom => ?_
  dsimp only
  rw [sliceFrom_bind (by omega), skipToIssuer_eq]
  refine settle_bind ?_
  rintro ⟨start, tbsLength, walker⟩ hissuer
  obtain ⟨_, -, -, -, -, -, -, hroom₁⟩ := skipToIssuer_ok hissuer
  rw [sliceFrom_bind hroom₁, checkAndGetCommonTag_eq]
  refine settle_bind ?_
  rintro ⟨size, issuer⟩ hname
  have hroom₂ := checkAndGetCommonTag_size hname
  rw [List.length_drop] at hroom₂
  dsimp only
  refine skip_from checkAndSkipCommonSequence_eq checkAndSkipCommonSequence_size (by omega)
    fun validity hroom₃ => ?_
  rw [sliceFrom_bind (by omega), checkAndGetCommonTag_eq]
  refine settle_bind ?_
  rintro ⟨_, subject⟩ -
  rw [settle_require]
  simp only [beq_iff_eq]

theorem checkLeafCertificate_eq (cert : Bytes) (isAliasCertModel : Bool) :
    checkLeafCertificate cert isAliasCertModel =
      settle (X509v3.checkLeafCertificate cert isAliasCertModel) := by
  unfold checkLeafCertificate X509v3.checkLeafCertificate X509v3.checkTagIsSequence
  rw [checkTag_eq]
  refine settle_bind fun _ htag => length_from (checkTag_length htag) fun _ consumed _ hroom => ?_
  dsimp only
  rw [sliceFrom_bind (by omega), skipToIssuer_eq]
  refine settle_bind ?_
  rintro ⟨start, tbsLength, walker⟩ hissuer
  obtain ⟨_, -, -, -, -, -, -, hroom₁⟩ := skipToIssuer_ok hissuer
  rw [skipToExtensions_eq hroom₁]
  refine settle_bind fun next hnext => ?_
  obtain ⟨-, hroom₂⟩ := skipToExtensions_ok hroom₁ hnext
  rw [sliceFrom_bind hroom₂, checkAndGetExtensions_eq]
  refine settle_bind ?_
  rintro ⟨_, extensions⟩ -
  rw [findTargetObjectIdentifierInExtensions_eq]
  cases isAliasCertModel with
  | true =>
    refine settle_bind fun hardware _ => ?_
    cases hardware with
    | true => rfl
    | false => rfl
  | false => exact settle_bind fun _ _ => rfl

end X509v3.Indexed

namespace SpdmRing.Indexed

theorem findCert_eq {chain : Bytes} {index : Int} {offset : Nat} {thisIndex : Int}
    (hoffset : offset ≤ chain.length) (hturns : chain.length - offset < turns) :
    findCert chain index turns offset thisIndex =
      settle (SpdmRing.findCert index offset thisIndex (chain.drop offset)) := by
  induction turns generalizing offset thisIndex with
  | zero => omega
  | succ turns ih =>
    have hsize : (chain.drop offset).length = chain.length - offset := List.length_drop
    have hget : ∀ k, chain[offset + k]? = (chain.drop offset)[k]? := by
      intro k
      rw [List.getElem?_drop]
    unfold findCert
    rw [sliceFrom_bind hoffset, SpdmRing.findCert.eq_def]
    rcases hdrop : chain.drop offset with _ | ⟨tag, _ | ⟨form, _ | ⟨high, _ | ⟨low, body⟩⟩⟩⟩
    case cons.cons.cons.cons =>
      rw [hdrop] at hsize hget
      simp only [List.length_cons] at hsize
      have hthere : ¬ ((tag :: form :: high :: low :: body).length < 4 ∨
          chain.length < offset) := by
        simp only [List.length_cons]
        omega
      have hfirst : chain[offset]? = some tag := hget 0
      rw [if_neg hthere, indexAt_bind hfirst, indexAt_bind (hget 1)]
      refine settle_ite (fun _ => rfl) fun _ => ?_
      rw [indexAt_bind (hget 2), indexAt_bind (hget 3), minus_bind hoffset]
      generalize hlength : (high.toNat <<< 8) + low.toNat + 4 = size
      by_cases hlong : chain.length - offset < size
      · have hlist : body.length + 4 < size := by omega
        rw [if_pos hlong, if_pos hlist]
        rfl
      · have hlist : ¬ body.length + 4 < size := by omega
        rw [if_neg hlong, if_neg hlist]
        refine settle_ite (fun _ => rfl) fun _ => ?_
        have hlast : offset + size = chain.length ∧ index = -1 ↔
            size = body.length + 4 ∧ index = -1 := by omega
        simp only [hlast]
        refine settle_ite (fun _ => rfl) fun _ => ?_
        have hskip : body.drop (size - 4) = chain.drop (offset + size) := by
          rw [← List.drop_drop, hdrop, show size = size - 4 + 4 by omega]
          rfl
        rw [ih (by omega) (by omega), hskip]
    all_goals
      rfl

theorem getCertFromCertChain_eq (chain : Bytes) (index : Int) :
    getCertFromCertChain chain index = settle (SpdmRing.getCertFromCertChain chain index) := by
  unfold getCertFromCertChain SpdmRing.getCertFromCertChain
  rw [findCert_eq (by omega) (by omega), List.drop_zero]

end SpdmRing.Indexed

end Spdm
