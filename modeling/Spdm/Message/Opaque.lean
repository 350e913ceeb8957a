/-
  Spdm.Message.Opaque — the secured message versions as opaque data (`common/opaque.rs`).
-/
import Spdm.Message.Session
import Spdm.Context.Small

namespace Spdm

open Effect Codec

variable {v : SecuredMessageVersion} {c c' : SpdmContext} {data : Bytes}

/-! ## §1. One version. -/

def SecuredMessageVersion.FourBits (v : SecuredMessageVersion) : Prop :=
  v.majorVersion < 16 ∧ v.minorVersion < 16 ∧ v.updateVersionNumber < 16 ∧ v.alpha < 16

instance (v : SecuredMessageVersion) : Decidable v.FourBits :=
  inferInstanceAs (Decidable (_ ∧ _ ∧ _ ∧ _))

theorem nibbles {high low : Nat} (hhigh : high < 16) (hlow : low < 16) :
    (UInt8.ofNat (high * 16 + low)).toNat / 16 = high ∧
      (UInt8.ofNat (high * 16 + low)).toNat % 16 = low := by
  have hbyte : (UInt8.ofNat (high * 16 + low)).toNat = high * 16 + low :=
    UInt8.toNat_ofNat_of_lt (by show high * 16 + low < 256; omega)
  omega

theorem parseSecuredMessageVersion_append (h : v.FourBits)
    (rest : Bytes) :
    parseSecuredMessageVersion (encodeSecuredMessageVersion v ++ rest) = .ok v rest := by
  obtain ⟨hmajor, hminor, hupdate, halpha⟩ := h
  obtain ⟨hmajor', hminor'⟩ := nibbles hmajor hminor
  obtain ⟨hupdate', halpha'⟩ := nibbles hupdate halpha
  unfold parseSecuredMessageVersion encodeSecuredMessageVersion
  rw [List.cons_append, bind_of_ok (u8_cons _ _), List.singleton_append, bind_of_ok (u8_cons _ _),
    hmajor', hminor', hupdate', halpha']
  rfl

/-! ## §2. The header. -/

/-- Two parties negotiated the same version and the same opaque format. -/
def SameOpaqueFormat (c c' : SpdmContext) : Prop :=
  c.negotiateInfo.spdmVersionSel = c'.negotiateInfo.spdmVersionSel ∧
    c.negotiateInfo.otherParamsSupport = c'.negotiateInfo.otherParamsSupport

def opaqueFormatKnown (c : SpdmContext) : Bool :=
  !c.negotiateInfo.spdmVersionSel.atLeast .spdmVersion12 ||
    contains c.negotiateInfo.otherParamsSupport SpdmAlgoOtherParams.opaqueDataFmt1

def opaqueHeaderSize (c : SpdmContext) : Nat :=
  if c.negotiateInfo.spdmVersionSel.atLeast .spdmVersion12 then 4 else 8

theorem opaqueHeaderSize_eq (c : SpdmContext) :
    opaqueHeaderSize c = 4 ∨ opaqueHeaderSize c = 8 := by
  unfold opaqueHeaderSize
  split_ifs <;> simp

theorem encodeOpaqueHeader_isSome (c : SpdmContext) :
    (encodeOpaqueHeader c).isSome = opaqueFormatKnown c := by
  unfold encodeOpaqueHeader opaqueFormatKnown
  split_ifs with hversion hformat <;> simp_all

theorem encodeOpaqueHeader_length {header : Bytes}
    (h : encodeOpaqueHeader c = some header) : header.length = opaqueHeaderSize c := by
  unfold encodeOpaqueHeader at h
  unfold opaqueHeaderSize
  split_ifs at h ⊢
  · cases h
    rfl
  · cases h
    rfl

theorem parseOpaqueHeader_append (hsame : SameOpaqueFormat c c')
    {header : Bytes} (h : encodeOpaqueHeader c = some header) {rest : Bytes} :
    parseOpaqueHeader c' (header ++ rest) = .ok () rest := by
  obtain ⟨hversion, hparams⟩ := hsame
  unfold encodeOpaqueHeader at h
  unfold parseOpaqueHeader
  rw [← hversion, ← hparams]
  by_cases h12 : c.negotiateInfo.spdmVersionSel.atLeast .spdmVersion12 = true
  · rw [if_pos h12] at h ⊢
    by_cases hfmt : contains c.negotiateInfo.otherParamsSupport
        SpdmAlgoOtherParams.opaqueDataFmt1 = true
    · rw [if_pos hfmt] at h
      cases h
      rw [require, bind_of_ok (guardElse_of hfmt)]
      rfl
    · rw [if_neg hfmt] at h
      cases h
  · rw [if_neg h12] at h ⊢
    cases h
    rw [List.append_assoc, bind_of_ok (uintLe_append _ (by norm_num))]
    rfl

/-! ## §3. The two elements. -/

theorem dvd_verListPadding (count : Nat) : 4 ∣ 7 + 2 * count + verListPadding count := by
  unfold verListPadding
  omega

theorem flatMap_version_length (vs : List SecuredMessageVersion) :
    (vs.flatMap encodeSecuredMessageVersion).length = 2 * vs.length := by
  induction vs with
  | nil => rfl
  | cons v vs ih =>
    rw [List.flatMap_cons, List.length_append, ih]
    show 2 + 2 * vs.length = 2 * (vs.length + 1)
    omega

def smSupportedVerListSize (c : SpdmContext) (count : Nat) : Nat :=
  opaqueHeaderSize c + (7 + 2 * count + verListPadding count)

theorem encodeSmSupportedVerList_length {vs : List SecuredMessageVersion}
    (h : encodeSmSupportedVerList c vs = some data) :
    data.length = smSupportedVerListSize c vs.length := by
  obtain ⟨header, hheader, rfl⟩ := Option.map_eq_some_iff.1 h
  have hsize := encodeOpaqueHeader_length hheader
  have hversions := flatMap_version_length vs
  simp only [List.length_append, List.length_cons, List.length_nil, leBytes_length,
    List.length_replicate, smSupportedVerListSize]
  omega

theorem parseSmSupportedVerList_encode (hsame : SameOpaqueFormat c c')
    {vs : List SecuredMessageVersion} (hcount : vs.length ≤ maxSecureSpdmVersionCount)
    (hbits : ∀ v ∈ vs, v.FourBits) (h : encodeSmSupportedVerList c vs = some data) :
    parseSmSupportedVerList c' data = .ok vs [] := by
  obtain ⟨header, hheader, rfl⟩ := Option.map_eq_some_iff.1 h
  have hthree : maxSecureSpdmVersionCount = 3 := rfl
  have hbyte : (UInt8.ofNat vs.length).toNat = vs.length :=
    UInt8.toNat_ofNat_of_lt (by show vs.length < 256; omega)
  have hversions : repeatParser vs.length parseSecuredMessageVersion
      (vs.flatMap encodeSecuredMessageVersion ++ List.replicate (verListPadding vs.length) 0) =
      .ok vs (List.replicate (verListPadding vs.length) 0) := by
    have hread := @repeatParser_flatMap _ _ _ _ id vs
      (List.replicate (verListPadding vs.length) 0)
      fun v hv tail => parseSecuredMessageVersion_append (hbits v hv) tail
    rwa [List.map_id] at hread
  have hknown : (((1 : UInt8) == 0) || ((1 : UInt8) == 1)) = true := rfl
  have hlist : ((0 : UInt8) == 0 && (0 : UInt8) == 0 &&
      3 + 2 * vs.length == 3 + 2 * vs.length && (1 : UInt8) == 1 && (1 : UInt8) == 1) = true := by
    simp
  have hpadding : skipBytes (verListPadding vs.length)
      (List.replicate (verListPadding vs.length) 0) = .ok () [] := by
    have hskip := @skipBytes_append _ _ []
      (List.length_replicate (n := verListPadding vs.length) (a := (0)))
    rwa [List.append_nil] at hskip
  unfold parseSmSupportedVerList
  simp only [List.append_assoc]
  rw [bind_of_ok (parseOpaqueHeader_append hsame hheader)]
  simp only [List.cons_append, List.nil_append]
  rw [bind_of_ok (u8_cons _ _), bind_of_ok (u8_cons _ _),
    bind_of_ok (uintLe_append _ (by norm_num; omega)), bind_of_ok (u8_cons _ _),
    bind_of_ok (u8_cons _ _), require, bind_of_ok (guardElse_of hknown), bind_of_ok (u8_cons _ _),
    hbyte, require, bind_of_ok (guardElse_of (decide_eq_true hcount)), bind_of_ok hversions,
    require, bind_of_ok (guardElse_of hlist), bind_of_ok hpadding]
  rfl

theorem encodeSmVersionSel_length
    (h : encodeSmVersionSel c v = some data) : data.length = opaqueHeaderSize c + 8 := by
  obtain ⟨header, hheader, rfl⟩ := Option.map_eq_some_iff.1 h
  rw [← encodeOpaqueHeader_length hheader]
  simp [encodeSecuredMessageVersion]

theorem parseSmVersionSel_encode (hsame : SameOpaqueFormat c c') (hbits : v.FourBits)
    (h : encodeSmVersionSel c v = some data) : parseSmVersionSel c' data = .ok v [] := by
  obtain ⟨header, hheader, rfl⟩ := Option.map_eq_some_iff.1 h
  have hversion := parseSecuredMessageVersion_append hbits []
  rw [List.append_nil] at hversion
  have hknown : (((0 : UInt8) == 0) || ((0 : UInt8) == 1)) = true := rfl
  have hselection : ((0 : UInt8) == 0 && (0 : UInt8) == 0 && 4 == 4 && (1 : UInt8) == 1 &&
      (0 : UInt8) == 0) = true := rfl
  unfold parseSmVersionSel
  simp only [List.append_assoc]
  rw [bind_of_ok (parseOpaqueHeader_append hsame hheader)]
  simp only [List.cons_append, List.nil_append]
  rw [bind_of_ok (u8_cons _ _), bind_of_ok (u8_cons _ _),
    bind_of_ok (uintLe_append _ (by norm_num)), bind_of_ok (u8_cons _ _),
    bind_of_ok (u8_cons _ _), require, bind_of_ok (guardElse_of hknown), bind_of_ok hversion,
    require]
  rfl

/-! ## §4. The round trip. -/

theorem parseOpaque_encodeOpaque (h : data.length ≤ maxSpdmOpaqueSize)
    (rest : Bytes) : parseOpaque (encodeOpaque data ++ rest) = .ok data rest := by
  have hmax : maxSpdmOpaqueSize = 1024 := rfl
  unfold parseOpaque encodeOpaque
  rw [List.append_assoc, bind_of_ok (uintLe_append _ (by norm_num; omega)), require,
    bind_of_ok (guardElse_of (decide_eq_true h)), takeBytes_append rfl]

/-- **Opaque data round trip.**  Parties that negotiated the same version and
format, versions of four-bit numbers: opaque data is built exactly when the
format is known, the party at the other end reads out what was put in, and
the size is the one announced, a multiple of four. -/
theorem opaque_round_trip {req rsp : SpdmContext} (hsame : SameOpaqueFormat req rsp)
    {vs : List SecuredMessageVersion}
    (hcount : 1 ≤ vs.length ∧ vs.length ≤ maxSecureSpdmVersionCount)
    (hlist : ∀ v ∈ vs, v.FourBits) {v : SecuredMessageVersion} (hv : v.FourBits) (rest : Bytes) :
    ((encodeSmSupportedVerList req vs).isSome = opaqueFormatKnown req ∧
      (encodeSmVersionSel rsp v).isSome = opaqueFormatKnown rsp) ∧
    (∀ data, encodeSmSupportedVerList req vs = some data →
      parseOpaque (encodeOpaque data ++ rest) = .ok data rest ∧
      parseSmSupportedVerList rsp data = .ok vs [] ∧
      data.length = smSupportedVerListSize req vs.length ∧ 4 ∣ data.length) ∧
    (∀ data, encodeSmVersionSel rsp v = some data →
      parseOpaque (encodeOpaque data ++ rest) = .ok data rest ∧
      parseSmVersionSel req data = .ok v [] ∧
      data.length = opaqueHeaderSize rsp + 8 ∧ 4 ∣ data.length) := by
  have hback : SameOpaqueFormat rsp req := ⟨hsame.1.symm, hsame.2.symm⟩
  have hmax : maxSpdmOpaqueSize = 1024 := rfl
  have hthree : maxSecureSpdmVersionCount = 3 := rfl
  refine ⟨⟨?_, ?_⟩, ?_, ?_⟩
  · rw [← encodeOpaqueHeader_isSome, encodeSmSupportedVerList, Option.isSome_map]
  · rw [← encodeOpaqueHeader_isSome, encodeSmVersionSel, Option.isSome_map]
  · intro data hdata
    have hlength := encodeSmSupportedVerList_length hdata
    have hpadded := dvd_verListPadding vs.length
    have hheader := opaqueHeaderSize_eq req
    have hpadding : verListPadding vs.length < 4 := Nat.mod_lt _ (by decide)
    unfold smSupportedVerListSize at hlength
    exact ⟨parseOpaque_encodeOpaque (by omega) rest,
      parseSmSupportedVerList_encode hsame hcount.2 hlist hdata, hlength, by omega⟩
  · intro data hdata
    have hlength := encodeSmVersionSel_length hdata
    have hheader := opaqueHeaderSize_eq rsp
    exact ⟨parseOpaque_encodeOpaque (by omega) rest, parseSmVersionSel_encode hback hv hdata,
      hlength, by omega⟩

namespace SmallBackend

theorem opaque_round_trip_small :
    parseSmSupportedVerList (smallResponder false 0)
        ((encodeSmSupportedVerList (smallResponder false 0) [{}, { minorVersion := 0 }]).getD []) =
      .ok [{}, { minorVersion := 0 }] [] ∧
    parseSmVersionSel (smallResponder false 0)
        ((encodeSmVersionSel (smallResponder false 0) {}).getD []) = .ok {} [] := by
  have htrip := @opaque_round_trip (smallResponder false 0) (smallResponder false 0) ⟨rfl, rfl⟩
    [{}, { minorVersion := 0 }] (by decide) (by decide) {} (by decide) []
  exact ⟨(htrip.2.1 _ (by decide)).2.1, (htrip.2.2 _ (by decide)).2.1⟩

def wideVersion : SecuredMessageVersion := { majorVersion := 17 }

theorem wide_version_changed :
    ∃ data, encodeSmVersionSel (smallResponder false 0) wideVersion = some data ∧
      parseSmVersionSel (smallResponder false 0) data = .ok {} [] ∧
      wideVersion ≠ ({} : SecuredMessageVersion) := by
  refine ⟨(encodeSmVersionSel (smallResponder false 0) wideVersion).getD [], ?_, ?_, ?_⟩
  · decide
  · decide
  · decide

end SmallBackend

end Spdm
