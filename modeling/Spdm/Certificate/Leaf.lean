/-
  Spdm.Certificate.Leaf — the checks on a certificate built field by field.
-/
import Spdm.Certificate.Format

namespace Spdm

open Effect Der

namespace X509v3

/-! ## §1. The fields. -/

def optional (tag : UInt8) (payload : Option Bytes) : Bytes := (payload.map (element tag)).getD []

structure AlgorithmIdentifier where
  algorithm : Bytes
  parameters : Bytes

def AlgorithmIdentifier.content (a : AlgorithmIdentifier) : Bytes :=
  element asn1TagNumberObjectIdentifier a.algorithm ++ a.parameters

structure Fields where
  serialNumber : Bytes
  signature : AlgorithmIdentifier
  issuer : Bytes
  validity : Bytes
  subject : Bytes
  subjectPublicKeyInfo : Bytes
  issuerUniqueId : Option Bytes := none
  subjectUniqueId : Option Bytes := none
  signatureAlgorithm : AlgorithmIdentifier
  signatureValue : Bytes

def extensionsField (extensions : Option (List Bytes)) : Bytes :=
  optional asn1TagExplicitExtension (extensions.map fun contents =>
    element asn1TagSequence (contents.map (element asn1TagSequence)).flatten)

def Fields.tail (f : Fields) (extensions : Option (List Bytes)) : Bytes :=
  optional 0x81 f.issuerUniqueId ++ optional 0x82 f.subjectUniqueId ++ extensionsField extensions

def Fields.tbs (f : Fields) (extensions : Option (List Bytes)) : Bytes :=
  version3 ++ element asn1TagNumberInteger f.serialNumber ++
    element asn1TagSequence f.signature.content ++ element asn1TagSequence f.issuer ++
    element asn1TagSequence f.validity ++ element asn1TagSequence f.subject ++
    element asn1TagSequence f.subjectPublicKeyInfo ++ f.tail extensions

def Fields.signed (f : Fields) : Bytes :=
  element asn1TagSequence f.signatureAlgorithm.content ++ element asn1TagBitString f.signatureValue

def Fields.content (f : Fields) (extensions : Option (List Bytes)) : Bytes :=
  element asn1TagSequence (f.tbs extensions) ++ f.signed

def Fields.encode (f : Fields) (extensions : Option (List Bytes)) : Bytes :=
  element asn1TagSequence (f.content extensions)

def smallFields : Fields where
  serialNumber := [1]
  signature := ⟨oidEcdsaSha256, []⟩
  issuer := []
  validity := []
  subject := []
  subjectPublicKeyInfo := []
  signatureAlgorithm := ⟨oidEcdsaSha256, []⟩
  signatureValue := [0]

def flag (critical : Option UInt8) : Bytes := optional asn1TagBoolean (critical.map fun b => [b])

def extension (extnId : Bytes) (critical : Option UInt8) (extnValue : Bytes) : Bytes :=
  element asn1TagNumberObjectIdentifier extnId ++ flag critical ++
    element asn1TagOctetString extnValue

/-! ## §2. Lengths and elements. -/

theorem Check.bind_of_ok {α β : Type} {m : Check α} {a : α} (h : m = .ok a) (f : α → Check β) :
    (m >>= f) = f a := by
  rw [h]
  rfl

theorem Check.bind_of_reject {α β : Type} {m : Check α} (h : m = reject) (f : α → Check β) :
    (m >>= f) = reject := by
  rw [h]
  rfl

theorem require_of {b : Bool} (h : b = true) : require b = .ok () := if_pos h

theorem length_element (tag : UInt8) (payload : Bytes) :
    (element tag payload).length = 1 + (lengthBytes payload.length).length + payload.length := by
  unfold element
  rw [List.length_cons, List.length_append]
  omega

theorem decodeLength_lengthBytes {n : Nat} (h : n < 0x10000) (rest : Bytes) :
    decodeLength (lengthBytes n ++ rest) = .ok (n, (lengthBytes n).length) := by
  by_cases hshort : n < 0x80
  · have hbyte : (UInt8.ofNat n).toNat = n := UInt8.toNat_ofNat_of_lt (by show _ < 256; omega)
    have hbytes : lengthBytes n = [UInt8.ofNat n] := if_pos hshort
    have hbit : UInt8.ofNat n &&& 0x80 = 0 := by
      rw [← UInt8.toNat_inj, UInt8.toNat_and, hbyte]
      exact (by decide : ∀ m < 0x80, m &&& 0x80 = 0) n hshort
    rw [hbytes, List.singleton_append, decodeLength.eq_def]
    dsimp only
    rw [if_pos hbit, hbyte]
    rfl
  by_cases hone : n < 0x100
  · have hbyte : (UInt8.ofNat n).toNat = n := UInt8.toNat_ofNat_of_lt hone
    have hbytes := lengthBytes_one (b := UInt8.ofNat n) (by omega)
    rw [hbyte] at hbytes
    rw [hbytes]
    show decodeLength (0x81 :: UInt8.ofNat n :: rest) = _
    rw [decodeLength, hbyte, if_neg hshort]
    rfl
  · have hhigh : (UInt8.ofNat (n / 256)).toNat = n / 256 :=
      UInt8.toNat_ofNat_of_lt (by show _ < 256; omega)
    have hlow : (UInt8.ofNat (n % 256)).toNat = n % 256 :=
      UInt8.toNat_ofNat_of_lt (by show _ < 256; omega)
    have hvalue : combined (UInt8.ofNat (n / 256)) (UInt8.ofNat (n % 256)) = n := by
      rw [combined_eq]
      omega
    have hbytes := @lengthBytes_two (UInt8.ofNat (n / 256)) (UInt8.ofNat (n % 256))
      (by omega)
    rw [hvalue] at hbytes
    rw [hbytes]
    show decodeLength (0x82 :: UInt8.ofNat (n / 256) :: UInt8.ofNat (n % 256) :: rest) = _
    rw [decodeLength]
    dsimp only
    rw [hvalue, if_neg hone]
    rfl

theorem decodeLength_long {n : Nat} (h : 0x10000 ≤ n) (hn : Der.Encodable n) (rest : Bytes) :
    decodeLength (lengthBytes n ++ rest) = reject := by
  have hcount : 2 < (beBytes n).length := by
    by_contra hle
    have hlt := length_beBytes_le.1 (Nat.le_of_not_lt hle)
    omega
  unfold Der.Encodable at hn
  have hbyte : (UInt8.ofNat (0x80 + (beBytes n).length)).toNat = 0x80 + (beBytes n).length :=
    UInt8.toNat_ofNat_of_lt (by show _ < 256; omega)
  have hbytes : lengthBytes n = UInt8.ofNat (0x80 + (beBytes n).length) :: beBytes n :=
    if_neg (by omega)
  generalize UInt8.ofNat (0x80 + (beBytes n).length) = first at hbyte hbytes
  rw [hbytes, List.cons_append, decodeLength.eq_def]
  dsimp only
  rw [if_neg, if_neg, if_neg]
  · rintro rfl
    exact absurd hbyte (by show (130) ≠ _; omega)
  · rintro rfl
    exact absurd hbyte (by show (129) ≠ _; omega)
  · intro hshort
    have hlt := toNat_lt_of_short hshort
    omega

section Element

variable {tag : UInt8} {payload : Bytes} (rest : Bytes)

theorem drop_tag : (element tag payload ++ rest).drop 1 =
    lengthBytes payload.length ++ (payload ++ rest) := by
  unfold element
  rw [List.cons_append, List.drop_succ_cons, List.drop_zero, List.append_assoc]

theorem drop_header : (element tag payload ++ rest).drop (1 + (lengthBytes payload.length).length) =
    payload ++ rest := by
  rw [← List.drop_drop, drop_tag, List.drop_left]

theorem checkTag_element : checkTag tag (element tag payload ++ rest) = .ok () := by
  unfold checkTag element require
  simp

theorem checkTag_other {tag' : UInt8} (h : tag' ≠ tag) :
    checkTag tag (element tag' payload ++ rest) = reject := by
  unfold checkTag element require
  simp [h]

theorem checkLength_element (h : payload.length < 0x10000) :
    checkLength ((element tag payload ++ rest).drop 1) =
      .ok (payload.length, (lengthBytes payload.length).length) := by
  unfold checkLength
  rw [drop_tag, decodeLength_lengthBytes h]
  show (if _ then _ else _) = _
  rw [if_neg]
  simp only [List.length_append]
  omega

theorem checkLength_long (h : 0x10000 ≤ payload.length) (hn : Der.Encodable payload.length) :
    checkLength ((element tag payload ++ rest).drop 1) = reject := by
  unfold checkLength
  rw [drop_tag, decodeLength_long h hn]
  rfl

theorem checkAndSkipCommonTag_element (h : payload.length < 0x10000) :
    checkAndSkipCommonTag (element tag payload ++ rest) = .ok (element tag payload).length := by
  have hlength := length_element tag payload
  have hwhole := @List.length_append _ (element tag payload) rest
  unfold checkAndSkipCommonTag
  rw [Check.bind_of_ok (require_of (decide_eq_true (by omega))),
    Check.bind_of_ok (checkLength_element rest h)]
  dsimp only
  rw [Check.bind_of_ok (require_of (decide_eq_true (by omega))), hlength]

theorem checkAndGetCommonTag_element (h : payload.length < 0x10000) :
    checkAndGetCommonTag (element tag payload ++ rest) =
      .ok ((element tag payload).length, payload) := by
  have hlength := length_element tag payload
  have hwhole := @List.length_append _ (element tag payload) rest
  unfold checkAndGetCommonTag
  rw [Check.bind_of_ok (require_of (decide_eq_true (by omega))),
    Check.bind_of_ok (checkLength_element rest h)]
  dsimp only
  rw [Check.bind_of_ok (require_of (decide_eq_true (by omega))), ← hlength, List.take_left]
  have hdrop := @drop_header tag payload []
  rw [List.append_nil, List.append_nil] at hdrop
  rw [hdrop]

theorem checkAndSkipCommonSequence_element (h : payload.length < 0x10000) :
    checkAndSkipCommonSequence (element asn1TagSequence payload ++ rest) =
      .ok (element asn1TagSequence payload).length := by
  unfold checkAndSkipCommonSequence checkTagIsSequence
  rw [Check.bind_of_ok (checkTag_element rest), checkAndSkipCommonTag_element rest h]

end Element

/-! ## §3. The way to the extensions. -/

theorem drop_past {data first after : Bytes} {walker : Nat}
    (h : data.drop walker = first ++ after) :
    data.drop (walker + first.length) = after := by
  rw [← List.drop_drop, h, List.drop_left]

theorem skipToIssuer_tbs {serial algorithm fields after : Bytes} (oid : Option Bytes)
    (hsmall : (version3 ++ element asn1TagNumberInteger serial ++
      element asn1TagSequence algorithm ++ fields).length < 0x10000) :
    let tbs := version3 ++ element asn1TagNumberInteger serial ++
      element asn1TagSequence algorithm ++ fields
    let data := element asn1TagSequence tbs ++ after
    ∃ walker, skipToIssuer data oid =
        (checkObjectIdentifier (algorithm ++ fields ++ after) oid >>= fun _ =>
          .ok (1 + (lengthBytes tbs.length).length, tbs.length, walker)) ∧
      data.drop walker = fields ++ after ∧
      walker + fields.length = (element asn1TagSequence tbs).length := by
  intro tbs data
  have hlt : tbs.length < 0x10000 := hsmall
  have hserial := length_element asn1TagNumberInteger serial
  have halgorithm := length_element asn1TagSequence algorithm
  have htbs := length_element asn1TagSequence tbs
  have hparts : tbs.length = version3.length + (element asn1TagNumberInteger serial).length +
      (element asn1TagSequence algorithm).length + fields.length := by
    simp only [tbs, List.length_append]
  have hdata : data.length = (element asn1TagSequence tbs).length + after.length :=
    List.length_append
  -- where the walker stands behind the header, the version, the serial number and the algorithm
  have hstart : data.drop (1 + (lengthBytes tbs.length).length) = version3 ++
      (element asn1TagNumberInteger serial ++ (element asn1TagSequence algorithm ++
        (fields ++ after))) := by
    rw [drop_header]
    simp only [tbs, List.append_assoc]
  have hversion := drop_past hstart
  have hnext := drop_past hversion
  have hend := drop_past hnext
  have htag : data.drop (1 + (lengthBytes tbs.length).length + version3.length +
      (element asn1TagNumberInteger serial).length + 1) =
      (element asn1TagSequence algorithm ++ (fields ++ after)).drop 1 := by
    rw [← hnext, List.drop_drop]
  have hinner : data.drop (1 + (lengthBytes tbs.length).length + version3.length +
      (element asn1TagNumberInteger serial).length + 1 + (lengthBytes algorithm.length).length) =
      algorithm ++ fields ++ after := by
    rw [← List.drop_drop, htag, drop_tag, List.drop_left, List.append_assoc]
  refine ⟨1 + (lengthBytes tbs.length).length + version3.length +
    (element asn1TagNumberInteger serial).length + 1 + (lengthBytes algorithm.length).length +
    algorithm.length, ?_, ?_, by omega⟩
  · unfold skipToIssuer checkTagIsSequence
    rw [Check.bind_of_ok (checkTag_element after),
      Check.bind_of_ok (checkLength_element after hsmall)]
    dsimp only
    have hroom : 1 + (lengthBytes tbs.length).length + tbs.length ≤ data.length := by omega
    rw [Check.bind_of_ok (require_of (decide_eq_true hroom)), hstart]
    have hok : checkVersion (version3 ++ (element asn1TagNumberInteger serial ++
        (element asn1TagSequence algorithm ++ (fields ++ after)))) = .ok version3.length := by
      unfold checkVersion
      rfl
    rw [Check.bind_of_ok hok, hversion,
      Check.bind_of_ok (checkAndSkipCommonTag_element _ (by omega)), hnext,
      Check.bind_of_ok (checkTag_element _), htag,
      Check.bind_of_ok (checkLength_element _ (by omega))]
    rw [hinner]
  · rw [← hend]
    congr 1
    omega

theorem skipToExtensions_tbs {issuer validity subject key fields data : Bytes} {walker : Nat}
    (hdrop : data.drop walker = element asn1TagSequence issuer ++
      element asn1TagSequence validity ++
      element asn1TagSequence subject ++ element asn1TagSequence key ++ fields)
    (hsmall : (element asn1TagSequence issuer ++ element asn1TagSequence validity ++
      element asn1TagSequence subject ++ element asn1TagSequence key).length < 0x10000) :
    skipToExtensions data walker = .ok (walker + (element asn1TagSequence issuer ++
        element asn1TagSequence validity ++ element asn1TagSequence subject ++
        element asn1TagSequence key).length) ∧
      data.drop (walker + (element asn1TagSequence issuer ++ element asn1TagSequence validity ++
        element asn1TagSequence subject ++ element asn1TagSequence key).length) = fields := by
  have hissuer := length_element asn1TagSequence issuer
  have hvalidity := length_element asn1TagSequence validity
  have hsubject := length_element asn1TagSequence subject
  have hkey := length_element asn1TagSequence key
  have hfields := drop_past hdrop
  refine ⟨?_, hfields⟩
  simp only [List.append_assoc, List.length_append] at hdrop hsmall ⊢
  have hfirst := drop_past hdrop
  have hsecond := drop_past hfirst
  have hthird := drop_past hsecond
  unfold skipToExtensions checkName checkValidity checkPublicKeyInfo
  dsimp only
  rw [hdrop, Check.bind_of_ok (checkAndSkipCommonSequence_element _ (by omega)), hfirst,
    Check.bind_of_ok (checkAndSkipCommonSequence_element _ (by omega)), hsecond,
    Check.bind_of_ok (checkAndSkipCommonSequence_element _ (by omega)), hthird,
    Check.bind_of_ok (checkAndSkipCommonSequence_element _ (by omega))]
  simp only [Nat.add_assoc]

theorem Fields.skip (f : Fields) (extensions : Option (List Bytes)) (oid : Option Bytes)
    (after : Bytes) (hsmall : (f.tbs extensions).length < 0x10000) :
    let data := element asn1TagSequence (f.tbs extensions) ++ after
    ∃ issuerAt extensionsAt rest,
      skipToIssuer data oid = (checkObjectIdentifier (f.signature.content ++ rest) oid >>= fun _ =>
        .ok (1 + (lengthBytes (f.tbs extensions).length).length, (f.tbs extensions).length,
          issuerAt)) ∧
      skipToExtensions data issuerAt = .ok extensionsAt ∧
      data.drop extensionsAt = f.tail extensions ++ after ∧
      extensionsAt + (f.tail extensions).length =
        (element asn1TagSequence (f.tbs extensions)).length := by
  have htbs : f.tbs extensions = version3 ++ element asn1TagNumberInteger f.serialNumber ++
      element asn1TagSequence f.signature.content ++ (element asn1TagSequence f.issuer ++
        element asn1TagSequence f.validity ++ element asn1TagSequence f.subject ++
        element asn1TagSequence f.subjectPublicKeyInfo ++ f.tail extensions) := by
    simp only [Fields.tbs, List.append_assoc]
  rw [htbs] at hsmall
  obtain ⟨issuerAt, hissuer, hdrop, hend⟩ := @skipToIssuer_tbs _ _ _ after oid hsmall
  rw [← htbs] at hissuer hdrop hend
  rw [List.append_assoc] at hdrop
  obtain ⟨hskip, hbehind⟩ := skipToExtensions_tbs hdrop (by
    simp only [List.length_append] at hsmall ⊢
    omega)
  rw [List.append_assoc] at hissuer
  refine ⟨issuerAt, _, _, hissuer, hskip, hbehind, ?_⟩
  rw [← hend]
  simp only [List.length_append]
  omega

theorem Fields.tail_of_id {f : Fields} (extensions : Option (List Bytes))
    (h : ¬ (f.issuerUniqueId = none ∧ f.subjectUniqueId = none)) :
    ∃ tag payload rest, f.tail extensions = element tag payload ++ rest ∧
      tag ≠ asn1TagExplicitExtension ∧ tag ≠ asn1TagSequence := by
  unfold Fields.tail optional
  cases hissuer : f.issuerUniqueId with
  | some id =>
    exact ⟨0x81, id, _, List.append_assoc _ _ _, by decide, by decide⟩
  | none =>
    cases hsubject : f.subjectUniqueId with
    | some id =>
      exact ⟨0x82, id, _, rfl, by decide, by decide⟩
    | none => exact absurd ⟨hissuer, hsubject⟩ h

theorem Fields.tail_of_no_id {f : Fields} (extensions : Option (List Bytes))
    (h : f.issuerUniqueId = none ∧ f.subjectUniqueId = none) :
    f.tail extensions = extensionsField extensions := by
  unfold Fields.tail
  rw [h.1, h.2]
  rfl

theorem checkAndGetExtensions_other {tag : UInt8} {payload : Bytes} {rest : Bytes}
    (h : tag ≠ asn1TagExplicitExtension) :
    checkAndGetExtensions (element tag payload ++ rest) =
      .ok ((element tag payload ++ rest).length, element tag payload ++ rest) := by
  unfold checkAndGetExtensions
  rw [if_neg]
  intro hhead
  exact h (Option.some.inj hhead)

theorem checkAndGetExtensions_field {contents : List Bytes} (after : Bytes)
    (hsmall : (extensionsField (some contents)).length < 0x10000) :
    checkAndGetExtensions (extensionsField (some contents) ++ after) =
      .ok ((extensionsField (some contents)).length,
        element asn1TagSequence (contents.map (element asn1TagSequence)).flatten) := by
  have hfield : extensionsField (some contents) = element asn1TagExplicitExtension
      (element asn1TagSequence (contents.map (element asn1TagSequence)).flatten) := rfl
  have hlength := length_element asn1TagExplicitExtension
    (element asn1TagSequence (contents.map (element asn1TagSequence)).flatten)
  rw [hfield] at hsmall ⊢
  exact (if_pos rfl).trans (checkAndGetCommonTag_element after (by omega))

end X509v3

end Spdm
