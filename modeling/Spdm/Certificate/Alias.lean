/-
  Spdm.Certificate.Alias — the hardware identity in an alias certificate.
-/
import Spdm.Certificate.Leaf

namespace Spdm

open Effect Der

namespace X509v3

/-! ## §1. Leaf certificates. -/

structure CertOid where
  spdmOid : Bytes
  definition : Option Bytes := none

def CertOid.content (o : CertOid) : Bytes :=
  element asn1TagNumberObjectIdentifier o.spdmOid ++ optional asn1TagOctetString o.definition

inductive Extension where
  | spdm (critical : Option UInt8) (entries : List CertOid)
  | other (extnId : Bytes) (critical : Option UInt8) (extnValue : Bytes)
      (ne : extnId ≠ oidDmtfSpdmExtension)

namespace Extension

def extnId : Extension → Bytes
  | spdm _ _ => oidDmtfSpdmExtension
  | other extnId _ _ _ => extnId

def critical : Extension → Option UInt8
  | spdm critical _ => critical
  | other _ critical _ _ => critical

def extnValue : Extension → Bytes
  | spdm _ entries => element asn1TagSequence
      (entries.map fun o => element asn1TagSequence o.content).flatten
  | other _ _ extnValue _ => extnValue

def content (e : Extension) : Bytes := extension e.extnId e.critical e.extnValue

end Extension

structure LeafCertificate where
  fields : Fields
  extensions : Option (List Extension)
  encodable : Der.Encodable (fields.content (extensions.map fun es => es.map (·.content))).length

namespace LeafCertificate

def contents (leaf : LeafCertificate) : Option (List Bytes) :=
  leaf.extensions.map fun es => es.map (·.content)

def encode (leaf : LeafCertificate) : Bytes := leaf.fields.encode leaf.contents

/-- The hardware identity is in an entry of the SPDM extension. -/
def NamesHardware (leaf : LeafCertificate) : Prop :=
  ∃ es critical entries o, leaf.extensions = some es ∧ Extension.spdm critical entries ∈ es ∧
    o ∈ entries ∧ o.spdmOid = oidDmtfSpdmHardwareIdentity

/-- An alias certificate is refused if, and only if, it names the hardware
identity. -/
def AliasRule (leaf : LeafCertificate) : Prop :=
  (leaf.NamesHardware → ∃ e, checkLeafCertificate leaf.encode true = .error e) ∧
    (¬ leaf.NamesHardware → checkLeafCertificate leaf.encode true = .ok ())

end LeafCertificate

/-! ## §2. The extensions that pass. -/

def examined (entries : List CertOid) (behind : List Extension) : Option Bytes :=
  (entries.map (·.spdmOid) ++ behind.map (·.extnId)).head?

def admits : List Extension → Bool
  | [] => true
  | .other _ _ _ _ :: behind => admits behind
  | .spdm _ entries :: behind =>
    (examined entries behind).any (fun oid =>
      oid.length == oidDmtfSpdmHardwareIdentity.length && oid != oidDmtfSpdmHardwareIdentity) &&
      admits behind

section Enter

variable {tag : UInt8} {payload : Bytes}

theorem enter_element (rest : Bytes) (h : payload.length < 0x10000) (hmore : payload ++ rest ≠ []) :
    enter tag (element tag payload ++ rest) = .ok (payload.length, payload ++ rest) := by
  have hlength := length_element tag payload
  have hpos : 0 < (payload ++ rest).length := List.length_pos_iff.2 hmore
  have hwhole : 1 + (lengthBytes payload.length).length < (element tag payload ++ rest).length := by
    rw [List.length_append] at hpos ⊢
    omega
  unfold enter
  rw [Check.bind_of_ok (checkTag_element rest), Check.bind_of_ok (checkLength_element rest h)]
  dsimp only
  rw [Check.bind_of_ok (require_of (decide_eq_true hwhole)), drop_header]

end Enter

theorem extensionHolds_flag {target : Bytes} {critical : Option UInt8} {value rest : Bytes} :
    extensionHolds target (flag critical ++ (element asn1TagOctetString value ++ rest)) =
      extensionHolds target (element asn1TagOctetString value ++ rest) := by
  have hother : ¬ (element asn1TagOctetString value ++ rest).head? = some asn1TagBoolean := by
    intro h
    exact absurd (Option.some.inj h) (by decide)
  cases critical with
  | none => rfl
  | some b =>
    have hflag : flag (some b) = [asn1TagBoolean, 1, b] := rfl
    have hbool : ([asn1TagBoolean, 1, b] ++ (element asn1TagOctetString value ++ rest)).head? =
        some asn1TagBoolean := rfl
    unfold extensionHolds
    rfl

theorem extensionHolds_oid {target inner rest oid tail more : Bytes} (htarget : target ≠ [])
    (hfirst : inner ++ rest = element asn1TagSequence
      (element asn1TagNumberObjectIdentifier oid ++ tail) ++ more)
    (hinner : (element asn1TagSequence inner).length < 0x10000)
    (hoid : (element asn1TagNumberObjectIdentifier oid ++ tail).length < 0x10000) :
    extensionHolds target (element asn1TagOctetString (element asn1TagSequence inner) ++ rest) =
      if oid.length = target.length then .ok (oid == target) else reject := by
  have hother : ¬ (element asn1TagOctetString (element asn1TagSequence inner) ++ rest).head? =
      some asn1TagBoolean := by
    intro h
    exact absurd (Option.some.inj h) (by decide)
  have hlength := length_element asn1TagSequence inner
  have hshort : oid.length < 0x10000 := by
    rw [List.length_append, length_element] at hoid
    omega
  have hne : ∀ (tag : UInt8) (a b : Bytes), element tag a ++ b ≠ [] := by
    simp [element]
  unfold extensionHolds valueHolds
  rw [if_neg hother]
  rw [Check.bind_of_ok (enter_element rest hinner (hne _ _ _))]
  dsimp only
  rw [Check.bind_of_ok (enter_element rest (by omega) (by rw [hfirst]; exact hne _ _ _))]
  rw [hfirst, Check.bind_of_ok (enter_element more hoid
    (by rw [List.append_assoc]; exact hne _ _ _))]
  rw [List.append_assoc]
  by_cases hempty : oid ++ (tail ++ more) = []
  · -- an empty identifier at the very end
    obtain ⟨rfl, hnil⟩ := List.append_eq_nil_iff.1 hempty
    rw [hnil, if_neg]
    · rfl
    · intro hzero
      exact htarget (List.length_eq_zero_iff.1 hzero.symm)
  · rw [Check.bind_of_ok (enter_element _ hshort hempty)]
    by_cases hsame : oid.length = target.length
    · rw [if_pos hsame, Check.bind_of_ok (require_of (by simpa using hsame)), List.take_left]
    · rw [if_neg hsame]
      have hfalse : (oid.length == target.length) = false := by simpa using hsame
      rw [hfalse]
      rfl

theorem extensionHolds_end {target : Bytes} :
    extensionHolds target (element asn1TagOctetString (element asn1TagSequence []) ++ []) =
      reject := rfl

theorem searchExtensions_extension {target : Bytes} {e : Extension} {rest : Bytes}
    (hsmall : (element asn1TagSequence e.content).length < 0x10000) :
    searchExtensions target (element asn1TagSequence e.content ++ rest) =
      ((if e.extnId = oidDmtfSpdmExtension then
        extensionHolds target (element asn1TagOctetString e.extnValue ++ rest) else .ok false) >>=
        fun holds => if holds then .ok true else searchExtensions target rest) := by
  have hcons : element asn1TagSequence e.content ++ rest =
      asn1TagSequence :: (lengthBytes e.content.length ++ e.content ++ rest) := rfl
  have hlength := length_element asn1TagSequence e.content
  have hcontent : e.content = element asn1TagNumberObjectIdentifier e.extnId ++
      (flag e.critical ++ element asn1TagOctetString e.extnValue) := by
    simp only [Extension.content, extension, List.append_assoc]
  have hid := length_element asn1TagNumberObjectIdentifier e.extnId
  have hvalue := length_element asn1TagOctetString e.extnValue
  have hparts := congrArg List.length hcontent
  rw [List.length_append] at hparts
  rw [hcons, Indexed.searchExtensions_cons, ← hcons,
    Check.bind_of_ok (enter_element rest (by omega) (by rw [hcontent]; simp [element]))]
  rw [List.drop_left, hcontent, List.append_assoc, List.append_assoc,
    Check.bind_of_ok (enter_element _ (by omega) (by simp [element]))]
  rw [List.take_left, List.drop_left, extensionHolds_flag]
  have hmore : e.extnId.length < (e.extnId ++ (flag e.critical ++
      (element asn1TagOctetString e.extnValue ++ rest))).length := by
    simp only [List.length_append]
    omega
  simp only [hmore, true_and]

theorem extensionHolds_spdm {entries : List CertOid} {behind : List Extension}
    (hsmall : (element asn1TagSequence
      (entries.map fun o => element asn1TagSequence o.content).flatten).length +
      ((behind.map (·.content)).map (element asn1TagSequence)).flatten.length < 0x10000) :
    extensionHolds oidDmtfSpdmHardwareIdentity (element asn1TagOctetString
        (element asn1TagSequence (entries.map fun o =>
          element asn1TagSequence o.content).flatten) ++
          ((behind.map (·.content)).map (element asn1TagSequence)).flatten) =
      (examined entries behind).elim reject fun oid =>
        if oid.length = oidDmtfSpdmHardwareIdentity.length then
          .ok (oid == oidDmtfSpdmHardwareIdentity) else reject := by
  have hinner := length_element asn1TagSequence
    (entries.map fun o => element asn1TagSequence o.content).flatten
  cases entries with
  | cons o entries =>
    have hcontent := length_element asn1TagSequence o.content
    rw [List.map_cons, List.flatten_cons] at hsmall hinner ⊢
    rw [List.length_append] at hinner
    exact extensionHolds_oid (by decide) (List.append_assoc _ _ _) (by omega)
      (show o.content.length < _ by omega)
  | nil =>
    cases behind with
    | cons e behind =>
      -- the header of the next extension is taken for that of an entry
      have hcontent := length_element asn1TagSequence e.content
      have hshape : e.content = element asn1TagNumberObjectIdentifier e.extnId ++
          (flag e.critical ++ element asn1TagOctetString e.extnValue) := by
        simp only [Extension.content, extension, List.append_assoc]
      rw [List.map_cons, List.map_cons, List.flatten_cons] at hsmall ⊢
      rw [List.length_append] at hsmall
      have hfirst : ([]) ++ (element asn1TagSequence e.content ++
          ((behind.map (·.content)).map (element asn1TagSequence)).flatten) =
          element asn1TagSequence (element asn1TagNumberObjectIdentifier e.extnId ++
            (flag e.critical ++ element asn1TagOctetString e.extnValue)) ++
          ((behind.map (·.content)).map (element asn1TagSequence)).flatten := by
        rw [← hshape]
        rfl
      exact extensionHolds_oid (by decide) hfirst (by decide) (by rw [← hshape]; omega)
    | nil => exact extensionHolds_end

theorem searchExtensions_eq_false {es : List Extension}
    (hsmall : ((es.map (·.content)).map (element asn1TagSequence)).flatten.length < 0x10000) :
    searchExtensions oidDmtfSpdmHardwareIdentity
      ((es.map (·.content)).map (element asn1TagSequence)).flatten = .ok false ↔
      admits es = true := by
  induction es with
  | nil => simp [searchExtensions, admits]
  | cons e behind ih =>
    rw [List.map_cons, List.map_cons, List.flatten_cons] at hsmall ⊢
    rw [List.length_append] at hsmall
    rw [searchExtensions_extension (by omega)]
    cases e with
    | other extnId critical extnValue ne =>
      rw [if_neg (show ¬ (Extension.other extnId critical extnValue ne).extnId = _ from ne)]
      exact ih (by omega)
    | spdm critical entries =>
      have hcontent := length_element asn1TagSequence (Extension.spdm critical entries).content
      have hvalue := length_element asn1TagOctetString (Extension.spdm critical entries).extnValue
      have hparts : (element asn1TagOctetString
        (Extension.spdm critical entries).extnValue).length ≤
          (Extension.spdm critical entries).content.length := by
        simp only [Extension.content, extension, List.length_append]
        omega
      show (extensionHolds _ (element asn1TagOctetString (element asn1TagSequence _) ++ _) >>= _) =
        _ ↔ _
      have hroom : (element asn1TagSequence
          (entries.map fun o => element asn1TagSequence o.content).flatten).length =
          (Extension.spdm critical entries).extnValue.length := rfl
      rw [extensionHolds_spdm (by omega), admits, Bool.and_eq_true, ← ih (by omega)]
      cases hoid : examined entries behind with
      | none =>
        refine ⟨fun h => ?_, fun h => absurd h.1 (by simp)⟩
        cases h
      | some oid =>
        rw [Option.elim_some, Option.any_some, Bool.and_eq_true, beq_iff_eq, bne_iff_ne]
        by_cases hlength : oid.length = oidDmtfSpdmHardwareIdentity.length
        · rw [if_pos hlength]
          by_cases hsame : oid = oidDmtfSpdmHardwareIdentity
          · subst hsame
            refine ⟨fun h => ?_, fun h => absurd rfl h.1.2⟩
            cases h
          · have hfalse : (oid == oidDmtfSpdmHardwareIdentity) = false := by simpa using hsame
            rw [hfalse]
            exact ⟨fun h => ⟨⟨hlength, hsame⟩, h⟩, fun h => h.2⟩
        · rw [if_neg hlength]
          refine ⟨fun h => ?_, fun h => absurd h.1.1 hlength⟩
          cases h

/-! ## §3. The certificates that pass. -/

theorem checkObjectIdentifier_any {oid : Bytes} (rest : Bytes) (hn : Der.Encodable oid.length) :
    (∃ size, checkObjectIdentifier (element asn1TagNumberObjectIdentifier oid ++ rest) none =
      .ok size) ↔ oid.length < 0x80 := by
  by_cases hshort : oid.length < 0x80
  · have hbyte : (UInt8.ofNat oid.length).toNat = oid.length :=
      UInt8.toNat_ofNat_of_lt (by show _ < 256; omega)
    have hlt : UInt8.ofNat oid.length < 0x80 := by
      rw [UInt8.lt_iff_toNat_lt, hbyte]
      exact hshort
    have hshape : element asn1TagNumberObjectIdentifier oid ++ rest =
        asn1TagNumberObjectIdentifier :: UInt8.ofNat oid.length :: (oid ++ rest) := by
      unfold element lengthBytes
      rw [if_pos hshort]
      rfl
    refine ⟨fun _ => hshort, fun _ => ⟨oid.length + 2, ?_⟩⟩
    rw [hshape]
    unfold checkObjectIdentifier
    dsimp only
    rw [hbyte, Check.bind_of_ok (require_of (beq_self_eq_true _)),
      Check.bind_of_ok (require_of (decide_eq_true ⟨by simp, hlt⟩))]
    rfl
  · -- the first byte of a longer length has its high bit set
    refine ⟨fun ⟨size, h⟩ => ?_, fun h => absurd h hshort⟩
    unfold Der.Encodable at hn
    have hbyte : (UInt8.ofNat (0x80 + (beBytes oid.length).length)).toNat =
        0x80 + (beBytes oid.length).length := UInt8.toNat_ofNat_of_lt (by show _ < 256; omega)
    have hshape : element asn1TagNumberObjectIdentifier oid ++ rest =
        asn1TagNumberObjectIdentifier :: UInt8.ofNat (0x80 + (beBytes oid.length).length) ::
          (beBytes oid.length ++ oid ++ rest) := by
      unfold element lengthBytes
      rw [if_neg hshort]
      rfl
    rw [hshape] at h
    obtain ⟨_, -, h⟩ := Check.bind_eq_ok.1 h
    obtain ⟨_, hroom, -⟩ := Check.bind_eq_ok.1 h
    rw [require_eq_ok, decide_eq_true_eq, UInt8.lt_iff_toNat_lt] at hroom
    exact absurd hroom.2 (by show ¬ _ < 128; omega)

theorem findTarget_element {payload : Bytes} (target rest : Bytes) (h : payload.length < 0x10000) :
    findTargetObjectIdentifierInExtensions (element asn1TagSequence payload ++ rest) target =
      searchExtensions target payload := by
  unfold findTargetObjectIdentifierInExtensions checkTagIsSequence
  rw [Check.bind_of_ok (checkTag_element rest), Check.bind_of_ok (checkLength_element rest h)]
  dsimp only
  rw [drop_header, List.take_left]

namespace LeafCertificate

/-- The alias certificates that are let pass: not too large, with extensions
and nothing between these and the public key. -/
def Passes (leaf : LeafCertificate) : Prop :=
  (leaf.fields.content leaf.contents).length < 0x10000 ∧
    leaf.fields.signature.algorithm.length < 0x80 ∧
    leaf.fields.issuerUniqueId = none ∧ leaf.fields.subjectUniqueId = none ∧
    leaf.extensions.any admits = true

theorem checkExtensions_ok_iff (leaf : LeafCertificate)
    (hsmall : (leaf.fields.content leaf.contents).length < 0x10000) :
    (checkAndGetExtensions (leaf.fields.tail leaf.contents ++ leaf.fields.signed) >>= fun x =>
      findTargetObjectIdentifierInExtensions x.2 oidDmtfSpdmHardwareIdentity) = .ok false ↔
      leaf.fields.issuerUniqueId = none ∧ leaf.fields.subjectUniqueId = none ∧
        leaf.extensions.any admits = true := by
  by_cases hids : leaf.fields.issuerUniqueId = none ∧ leaf.fields.subjectUniqueId = none
  · rw [leaf.fields.tail_of_no_id _ hids, ← and_assoc, and_iff_right hids]
    have htbs := length_element asn1TagSequence (leaf.fields.tbs leaf.contents)
    unfold Fields.content Fields.signed at hsmall
    simp only [List.length_append] at hsmall
    cases hes : leaf.extensions with
    | none =>
      -- the signature's algorithm is taken for the list of extensions
      have hcontents : leaf.contents = none := by rw [contents, hes]; rfl
      have hlength := length_element asn1TagSequence leaf.fields.signatureAlgorithm.content
      rw [hcontents]
      show (checkAndGetExtensions (element asn1TagSequence leaf.fields.signatureAlgorithm.content ++
        _) >>= _) = _ ↔ _
      rw [Check.bind_of_ok (checkAndGetExtensions_other (by decide)),
        findTarget_element _ _ (by omega)]
      refine ⟨fun h => ?_, fun h => by cases h⟩
      rw [show leaf.fields.signatureAlgorithm.content = asn1TagNumberObjectIdentifier :: _ from rfl,
        searchExtensions] at h
      cases h
    | some es =>
      have hcontents : leaf.contents = some (es.map (·.content)) := by rw [contents, hes]; rfl
      have hshape : extensionsField (some (es.map (·.content))) = element asn1TagExplicitExtension
        (element asn1TagSequence ((es.map (·.content)).map
          (element asn1TagSequence)).flatten) := rfl
      have houter := length_element asn1TagExplicitExtension
        (element asn1TagSequence ((es.map (·.content)).map (element asn1TagSequence)).flatten)
      have hlist := length_element asn1TagSequence
        ((es.map (·.content)).map (element asn1TagSequence)).flatten
      have hle : (extensionsField leaf.contents).length ≤
          (leaf.fields.tbs leaf.contents).length := by
        simp only [Fields.tbs, Fields.tail, List.length_append]
        omega
      rw [hcontents, hshape] at hle
      rw [hcontents] at hsmall htbs ⊢
      rw [Check.bind_of_ok (checkAndGetExtensions_field _ (by rw [hshape]; omega))]
      have hfind := @findTarget_element ((es.map (·.content)).map
        (element asn1TagSequence)).flatten oidDmtfSpdmHardwareIdentity [] (by omega)
      rw [List.append_nil] at hfind
      rw [hfind, searchExtensions_eq_false (by omega), Option.any_some]
  · obtain ⟨tag, payload, rest, htail, hext, hseq⟩ := leaf.fields.tail_of_id leaf.contents hids
    refine ⟨fun h => ?_, fun h => absurd ⟨h.1, h.2.1⟩ hids⟩
    rw [htail, List.append_assoc, Check.bind_of_ok (checkAndGetExtensions_other hext)] at h
    unfold findTargetObjectIdentifierInExtensions checkTagIsSequence at h
    rw [Check.bind_of_reject (checkTag_other _ hseq)] at h
    cases h

theorem require_not_hardware {m : Check Bool} :
    (m >>= fun hardware => require (!(true && hardware))) = .ok () ↔ m = .ok false := by
  cases m with
  | error e =>
    refine ⟨fun h => ?_, fun h => ?_⟩
    · cases h
    · cases h
  | ok hardware =>
    cases hardware with
    | false => exact ⟨fun _ => rfl, fun _ => rfl⟩
    | true =>
      refine ⟨fun h => ?_, fun h => ?_⟩
      · cases h
      · cases h

theorem checkLeafCertificate_alias (leaf : LeafCertificate) :
    checkLeafCertificate leaf.encode true = .ok () ↔ leaf.Passes := by
  have hn : Der.Encodable (leaf.fields.content leaf.contents).length := leaf.encodable
  have htag := @checkTag_element asn1TagSequence (leaf.fields.content leaf.contents) []
  have hdrop := @drop_header asn1TagSequence (leaf.fields.content leaf.contents) []
  rw [List.append_nil] at htag hdrop
  unfold checkLeafCertificate checkTagIsSequence encode Fields.encode Passes
  rw [Check.bind_of_ok htag]
  by_cases hsmall : (leaf.fields.content leaf.contents).length < 0x10000
  · have hlength := @checkLength_element asn1TagSequence _ [] hsmall
    rw [List.append_nil] at hlength
    rw [Check.bind_of_ok hlength, and_iff_right hsmall]
    dsimp only
    rw [hdrop, List.append_nil]
    have htbs := length_element asn1TagSequence (leaf.fields.tbs leaf.contents)
    have hparts : (leaf.fields.content leaf.contents).length =
        (element asn1TagSequence (leaf.fields.tbs leaf.contents)).length +
          leaf.fields.signed.length := List.length_append
    have halgorithm : leaf.fields.signature.algorithm.length ≤
        (leaf.fields.tbs leaf.contents).length := by
      simp only [Fields.tbs, AlgorithmIdentifier.content, List.length_append, length_element]
      omega
    obtain ⟨issuerAt, extensionsAt, rest, hissuer, hskip, hbehind, -⟩ :=
      leaf.fields.skip leaf.contents none leaf.fields.signed (by omega)
    have hidentifier := @checkObjectIdentifier_any leaf.fields.signature.algorithm
      (leaf.fields.signature.parameters ++ rest) (hn.mono (by omega))
    rw [← List.append_assoc] at hidentifier
    unfold Fields.content
    rw [hissuer]
    by_cases hoid : leaf.fields.signature.algorithm.length < 0x80
    · obtain ⟨size, hsize⟩ := hidentifier.2 hoid
      have hcontent : checkObjectIdentifier (leaf.fields.signature.content ++ rest) none =
          .ok size := hsize
      rw [and_iff_right hoid, Check.bind_of_ok hcontent,
        Check.bind_of_ok (Eq.refl (Except.ok _))]
      rw [Check.bind_of_ok hskip, hbehind, ← leaf.checkExtensions_ok_iff hsmall,
        ← require_not_hardware, LawfulMonad.bind_assoc]
    · refine ⟨fun h => ?_, fun h => absurd h.1 hoid⟩
      obtain ⟨_, h, -⟩ := Check.bind_eq_ok.1 h
      obtain ⟨size, hsize, -⟩ := Check.bind_eq_ok.1 h
      exact absurd (hidentifier.1 ⟨size, hsize⟩) hoid
  · have hlong := @checkLength_long asn1TagSequence _ [] (Nat.le_of_not_lt hsmall) hn
    rw [List.append_nil] at hlong
    rw [Check.bind_of_reject hlong]
    refine ⟨fun h => ?_, fun h => absurd h.1 hsmall⟩
    cases h

/-- **When the rule holds of a certificate.** -/
theorem aliasRule_iff (leaf : LeafCertificate) :
    leaf.AliasRule ↔ (leaf.NamesHardware ↔ ¬ leaf.Passes) := by
  unfold AliasRule
  rw [← checkLeafCertificate_alias]
  cases hcheck : checkLeafCertificate leaf.encode true with
  | ok u =>
    cases u
    refine ⟨fun h => ⟨fun hnames => ?_, fun hnot => absurd rfl hnot⟩, fun h =>
      ⟨fun hnames => absurd rfl (h.1 hnames), fun _ => rfl⟩⟩
    obtain ⟨e, he⟩ := h.1 hnames
    cases he
  | error e =>
    refine ⟨fun h => ⟨fun _ => by simp, fun _ => ?_⟩, fun h => ⟨fun _ => ⟨e, rfl⟩, fun hnot =>
      absurd (h.2 (by simp)) hnot⟩⟩
    by_contra hnot
    cases h.2 hnot

def secondEntry : LeafCertificate where
  fields := smallFields
  extensions := some [.spdm none [⟨oidDmtfMutableCertificate, none⟩,
    ⟨oidDmtfSpdmHardwareIdentity, none⟩]]
  encodable := encodable_of_lt (k := 1) (by decide +kernel) (by decide)

theorem second_entry_passes :
    secondEntry.NamesHardware ∧ checkLeafCertificate secondEntry.encode true = .ok () ∧
      ¬ secondEntry.AliasRule := by
  have hnames : secondEntry.NamesHardware :=
    ⟨_, none, _, ⟨oidDmtfSpdmHardwareIdentity, none⟩, rfl, List.mem_singleton.2 rfl, by simp, rfl⟩
  have hcheck : checkLeafCertificate secondEntry.encode true = .ok () := by decide +kernel
  refine ⟨hnames, hcheck, fun hrule => ?_⟩
  obtain ⟨e, he⟩ := hrule.1 hnames
  rw [hcheck] at he
  cases he

end LeafCertificate

end X509v3

end Spdm
