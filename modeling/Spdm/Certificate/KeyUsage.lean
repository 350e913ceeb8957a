/-
  Spdm.Certificate.KeyUsage — the digitalSignature bit of a leaf.
-/
import Spdm.Certificate.Leaf

namespace Spdm

open Effect Der

variable {payload rest : Bytes} {critical : Option UInt8} {baseAsymAlgo : Flags} {size n : Nat}

namespace X509v3

/-! ## §1. The search. -/

theorem searchKeyUsage_element {tag : UInt8} (rest : Bytes)
    (h : payload.length < 0x10000) :
    searchKeyUsage (element tag payload ++ rest) =
      if tag = asn1TagSequence then searchKeyUsage (payload ++ rest)
      else if tag = asn1TagNumberObjectIdentifier ∧ payload = oidKeyUsage then keyUsageValue rest
      else searchKeyUsage rest := by
  have hcheck := @checkLength_element tag payload rest h
  have hcons : element tag payload ++ rest =
      tag :: (lengthBytes payload.length ++ (payload ++ rest)) := by
    unfold element
    rw [List.cons_append, List.append_assoc]
  rw [hcons, List.drop_succ_cons, List.drop_zero] at hcheck
  rw [hcons, searchKeyUsage, Check.bind_of_ok hcheck]
  have hpast : (lengthBytes payload.length ++ (payload ++ rest)).drop
      ((lengthBytes payload.length).length + payload.length) = rest := by
    rw [← List.append_assoc, ← List.length_append, List.drop_left]
  have htake : ((lengthBytes payload.length ++ (payload ++ rest)).take
      ((lengthBytes payload.length).length + payload.length)).drop
        (lengthBytes payload.length).length = payload := by
    rw [← List.append_assoc, ← List.length_append, List.take_left, List.drop_left]
  dsimp only
  rw [hpast, htake, List.drop_left]

def OtherExtension (content : Bytes) : Prop :=
  ∃ extnId critical extnValue, extnId ≠ oidKeyUsage ∧
    content = extension extnId critical extnValue

theorem searchKeyUsage_flag :
    searchKeyUsage (flag critical ++ rest) = searchKeyUsage rest := by
  cases critical with
  | none => rfl
  | some b =>
    show searchKeyUsage (element asn1TagBoolean [b] ++ rest) = _
    rw [searchKeyUsage_element rest (by simp), if_neg (by decide), if_neg fun h =>
      absurd h.1 (by decide)]

theorem searchKeyUsage_other {content : Bytes} (h : OtherExtension content)
    (hsmall : (element asn1TagSequence content).length < 0x10000) :
    searchKeyUsage (element asn1TagSequence content ++ rest) = searchKeyUsage rest := by
  obtain ⟨extnId, critical, extnValue, hother, rfl⟩ := h
  have hcontent := length_element asn1TagSequence (extension extnId critical extnValue)
  have hid := length_element asn1TagNumberObjectIdentifier extnId
  have hvalue := length_element asn1TagOctetString extnValue
  have hparts : (extension extnId critical extnValue).length =
      (element asn1TagNumberObjectIdentifier extnId).length + (flag critical).length +
        (element asn1TagOctetString extnValue).length := by
    simp only [extension, List.length_append]
  rw [searchKeyUsage_element rest (by omega), if_pos rfl]
  unfold extension
  rw [List.append_assoc, List.append_assoc, searchKeyUsage_element _ (by omega),
    if_neg (by decide), if_neg (by simp [hother]), searchKeyUsage_flag,
    searchKeyUsage_element _ (by omega), if_neg (by decide), if_neg fun h => absurd h.1 (by decide)]

theorem searchKeyUsage_others {front : List Bytes}
    (h : ∀ content ∈ front, OtherExtension content)
    (hsmall : (front.map (element asn1TagSequence)).flatten.length < 0x10000) :
    searchKeyUsage ((front.map (element asn1TagSequence)).flatten ++ rest) =
      searchKeyUsage rest := by
  induction front with
  | nil => rfl
  | cons content front ih =>
    rw [List.map_cons, List.flatten_cons] at hsmall ⊢
    rw [List.length_append] at hsmall
    rw [List.append_assoc, searchKeyUsage_other (h content List.mem_cons_self) (by omega)]
    exact ih (fun c hc => h c (List.mem_cons_of_mem _ hc)) (by omega)

def keyUsage (critical : Option UInt8) (unused : UInt8) (value : Bytes) : Bytes :=
  extension oidKeyUsage critical (element asn1TagBitString (unused :: value))

theorem keyUsageValue_flag :
    keyUsageValue (flag critical ++ (element asn1TagOctetString payload ++ rest)) =
      keyUsageValue (element asn1TagOctetString payload ++ rest) := by
  cases critical with
  | none => rfl
  | some b =>
    have hskip := @checkAndSkipCommonTag_element asn1TagBoolean [b]
      (element asn1TagOctetString payload ++ rest) (by simp)
    have hflag : flag (some b) = element asn1TagBoolean [b] := rfl
    have hbool : (element asn1TagBoolean [b] ++
        (element asn1TagOctetString payload ++ rest)).head? = some asn1TagBoolean := rfl
    have hother : ¬ (element asn1TagOctetString payload ++ rest).head? = some asn1TagBoolean := by
      intro h
      exact absurd (Option.some.inj h) (by decide)
    unfold keyUsageValue
    rw [hflag, if_pos hbool, if_neg hother, Check.bind_of_ok hskip, List.drop_left]

theorem keyUsageValue_bits {bits : Bytes} (hbits : bits ≠ [])
    (hsmall : (element asn1TagBitString bits).length < 0x10000) :
    keyUsageValue (element asn1TagOctetString (element asn1TagBitString bits) ++ rest) =
      .ok (true, bits.getLast hbits) := by
  have hother : ¬ (element asn1TagOctetString (element asn1TagBitString bits) ++ rest).head? =
      some asn1TagBoolean := by
    intro h
    exact absurd (Option.some.inj h) (by decide)
  have hbit : (element asn1TagBitString bits ++ rest).head? = some asn1TagBitString := rfl
  have hlength := length_element asn1TagBitString bits
  have hpos : 0 < bits.length := List.length_pos_iff.2 hbits
  have hlast : (element asn1TagBitString bits ++ rest)[(lengthBytes bits.length).length +
      bits.length]? = some (bits.getLast hbits) := by
    rw [List.getElem?_append_left (by omega)]
    unfold element
    rw [← Nat.sub_add_cancel hpos, ← Nat.add_assoc, List.getElem?_cons_succ,
      List.getElem?_append_right (by omega), Nat.add_sub_cancel_left,
      List.getLast_eq_getElem, List.getElem?_eq_getElem (by omega)]
  unfold keyUsageValue keyUsageBits
  have htag : checkTag asn1TagExtnValue
    (element asn1TagOctetString (element asn1TagBitString bits) ++
      rest) = .ok () := checkTag_element rest
  rw [if_neg hother, Check.bind_of_ok htag,
    Check.bind_of_ok (checkLength_element rest hsmall)]
  dsimp only
  rw [drop_header, Check.bind_of_ok (require_of (by rfl)), if_pos hbit,
    Check.bind_of_ok (checkLength_element rest (by omega))]
  rw [hlast]

theorem searchKeyUsage_keyUsage {unused : UInt8} {value : Bytes}
    (hsmall : (element asn1TagSequence (keyUsage critical unused value)).length < 0x10000) :
    searchKeyUsage (element asn1TagSequence (keyUsage critical unused value) ++ rest) =
      .ok (true, (unused :: value).getLast (by simp)) := by
  have hcontent := length_element asn1TagSequence (keyUsage critical unused value)
  have hvalue := length_element asn1TagOctetString (element asn1TagBitString (unused :: value))
  have hparts : (keyUsage critical unused value).length =
      (element asn1TagNumberObjectIdentifier oidKeyUsage).length + (flag critical).length +
        (element asn1TagOctetString (element asn1TagBitString (unused :: value))).length := by
    simp only [keyUsage, extension, List.length_append]
  rw [searchKeyUsage_element rest (by omega), if_pos rfl]
  unfold keyUsage extension
  rw [List.append_assoc, List.append_assoc, searchKeyUsage_element _ (by decide),
    if_neg (by decide), if_pos ⟨rfl, rfl⟩, keyUsageValue_flag,
    keyUsageValue_bits (by simp) (by omega)]

theorem getKeyUsageValue_element (h : payload.length < 0x10000) :
    getKeyUsageValue (element asn1TagSequence payload) = searchKeyUsage payload := by
  have htag := @checkTag_element asn1TagSequence payload []
  have hlength := @checkLength_element asn1TagSequence payload [] h
  have hdrop := @drop_header asn1TagSequence payload []
  rw [List.append_nil] at htag hlength hdrop
  unfold getKeyUsageValue checkTagIsSequence
  rw [Check.bind_of_ok htag, Check.bind_of_ok hlength]
  dsimp only
  rw [hdrop, List.append_nil]

/-! ## §2. The leaf of an accepted chain. -/

theorem length_lt_of_checkLength {tag : UInt8} {length consumed : Nat}
    (hn : Der.Encodable payload.length)
    (h : checkLength ((element tag payload ++ rest).drop 1) = .ok (length, consumed)) :
    payload.length < 0x10000 ∧ length = payload.length ∧
      consumed = (lengthBytes payload.length).length := by
  by_cases hsmall : payload.length < 0x10000
  · rw [checkLength_element rest hsmall] at h
    cases h
    exact ⟨hsmall, rfl, rfl⟩
  · rw [checkLength_long rest (by omega) hn] at h
    cases h

theorem checkCertFormat_element
    (hn : Der.Encodable payload.length)
    (h : checkCertFormat (element asn1TagSequence payload ++ rest) baseAsymAlgo = .ok size) :
    size = (element asn1TagSequence payload).length := by
  obtain ⟨length, consumed, hlength, rfl⟩ := checkCertFormat_ok h
  obtain ⟨-, rfl, rfl⟩ := length_lt_of_checkLength hn hlength
  exact (length_element _ _).symm

theorem checkCertChainFormat_cons
    (hn : Der.Encodable payload.length)
    (h : checkCertChainFormat (element asn1TagSequence payload ++ rest) baseAsymAlgo = .ok n) :
    (∃ size, checkCertFormat (element asn1TagSequence payload ++ rest) baseAsymAlgo = .ok size) ∧
      ∃ count, checkCertChainFormat rest baseAsymAlgo = .ok count := by
  have hpos : 0 < (element asn1TagSequence payload ++ rest).length := by
    rw [List.length_append, length_element]
    omega
  rw [checkCertChainFormat, if_pos hpos] at h
  cases hformat : checkCertFormat (element asn1TagSequence payload ++ rest) baseAsymAlgo with
  | error e =>
    rw [hformat] at h
    cases h
  | ok size =>
    rw [hformat] at h
    have hsize := checkCertFormat_element hn hformat
    dsimp only at h
    split at h
    · cases h
    · obtain ⟨count, hcount, -⟩ := Check.bind_eq_ok.1 h
      rw [hsize, List.drop_left] at hcount
      exact ⟨⟨size, rfl⟩, count, hcount⟩

theorem checkCertChainFormat_last {before : List Bytes}
    (hn : Der.Encodable ((before.map (element asn1TagSequence)).flatten ++
      element asn1TagSequence payload).length)
    (h : checkCertChainFormat ((before.map (element asn1TagSequence)).flatten ++
      element asn1TagSequence payload) baseAsymAlgo = .ok n) :
    ∃ size, checkCertFormat (element asn1TagSequence payload) baseAsymAlgo = .ok size := by
  induction before generalizing n with
  | nil =>
    have hpayload := hn.mono (m := payload.length) (by
      rw [List.length_append, length_element]
      omega)
    have hchain : checkCertChainFormat (element asn1TagSequence payload ++ []) baseAsymAlgo =
        .ok n := by
      rw [List.append_nil]
      exact h
    obtain ⟨⟨size, hsize⟩, -⟩ := checkCertChainFormat_cons hpayload hchain
    rw [List.append_nil] at hsize
    exact ⟨size, hsize⟩
  | cons cert before ih =>
    rw [List.map_cons, List.flatten_cons, List.append_assoc] at hn h
    have hcert := hn.mono (m := cert.length) (by
      rw [List.length_append, length_element]
      omega)
    obtain ⟨-, count, hcount⟩ := checkCertChainFormat_cons hcert h
    exact ih (hn.mono (by rw [@List.length_append _ (element _ _)]; omega)) hcount

theorem checkTbsCertificate_of_last
    (hn : Der.Encodable payload.length)
    (h : checkCertFormat (element asn1TagSequence payload) baseAsymAlgo = .ok size) :
    ∃ size, checkTbsCertificate payload baseAsymAlgo true = .ok size := by
  have hdrop := @drop_header asn1TagSequence payload []
  rw [List.append_nil, List.append_nil] at hdrop
  obtain ⟨_, -, h⟩ := Check.bind_eq_ok.1 h
  obtain ⟨⟨length, consumed⟩, hlength, h⟩ := Check.bind_eq_ok.1 h
  obtain ⟨tbsSize, htbs, -⟩ := Check.bind_eq_ok.1 h
  rw [← List.append_nil (element asn1TagSequence payload)] at hlength
  obtain ⟨-, rfl, rfl⟩ := length_lt_of_checkLength hn hlength
  have hleaf : ((element asn1TagSequence payload).length ==
      1 + (lengthBytes payload.length).length + payload.length) = true := by
    rw [length_element]
    exact beq_self_eq_true _
  rw [hdrop, hleaf] at htbs
  exact ⟨tbsSize, htbs⟩

theorem bit_of_checkTbsCertificate {f : Fields} {contents : List Bytes} {value : UInt8}
    (hn : Der.Encodable (f.content (some contents)).length)
    (h : checkTbsCertificate (f.content (some contents)) baseAsymAlgo true = .ok size)
    (hvalue : (contents.map (element asn1TagSequence)).flatten.length < 0x10000 →
      searchKeyUsage (contents.map (element asn1TagSequence)).flatten = .ok (true, value)) :
    keyUsageDigitalSignatureBit &&& value = keyUsageDigitalSignatureBit := by
  have hdata : f.content (some contents) =
      element asn1TagSequence (f.tbs (some contents)) ++ f.signed := rfl
  have htbs := length_element asn1TagSequence (f.tbs (some contents))
  have hparts : (f.content (some contents)).length =
      (element asn1TagSequence (f.tbs (some contents))).length + f.signed.length := by
    rw [hdata, List.length_append]
  obtain ⟨⟨start, tbsLength, walker⟩, hissuer, h⟩ := Check.bind_eq_ok.1 h
  obtain ⟨next, hnext, h⟩ := Check.bind_eq_ok.1 h
  obtain ⟨⟨extensionSize, extensions⟩, hextensions, h⟩ := Check.bind_eq_ok.1 h
  obtain ⟨⟨findKeyUsage, usage⟩, husage, h⟩ := Check.bind_eq_ok.1 h
  obtain ⟨spdmSuccess, -, h⟩ := Check.bind_eq_ok.1 h
  obtain ⟨_, hall, -⟩ := Check.bind_eq_ok.1 h
  -- the walkers go the way the fields lay out
  rw [hdata] at hissuer hnext hextensions
  obtain ⟨consumed, -, hlength, -⟩ := Indexed.skipToIssuer_ok hissuer
  obtain ⟨hsmall, -, -⟩ := length_lt_of_checkLength (hn.mono (by omega)) hlength
  obtain ⟨issuerAt, extensionsAt, rest, hissuer', hskip, hdrop, hend⟩ :=
    f.skip (some contents) (requiredOid baseAsymAlgo true) f.signed hsmall
  rw [hissuer'] at hissuer
  obtain ⟨_, -, hissuer⟩ := Check.bind_eq_ok.1 hissuer
  cases hissuer
  rw [hskip] at hnext
  cases hnext
  rw [hdrop] at hextensions
  by_cases hids : f.issuerUniqueId = none ∧ f.subjectUniqueId = none
  · have hfield := f.tail_of_no_id (some contents) hids
    have hinside := length_element asn1TagExplicitExtension
      (element asn1TagSequence (contents.map (element asn1TagSequence)).flatten)
    have hlist := length_element asn1TagSequence (contents.map (element asn1TagSequence)).flatten
    have hle : (f.tail (some contents)).length ≤ (f.tbs (some contents)).length := by
      simp only [Fields.tbs, List.length_append]
      omega
    have hshape : extensionsField (some contents) = element asn1TagExplicitExtension
      (element asn1TagSequence (contents.map (element asn1TagSequence)).flatten) := rfl
    rw [hfield] at hextensions hle
    rw [checkAndGetExtensions_field f.signed (by omega)] at hextensions
    cases hextensions
    rw [hshape] at hle
    have hroom : (contents.map (element asn1TagSequence)).flatten.length < 0x10000 := by omega
    rw [getKeyUsageValue_element hroom, hvalue hroom] at husage
    cases husage
    rw [require_eq_ok] at hall
    simp only [Bool.and_eq_true, Bool.true_and, Bool.not_eq_true', bne_eq_false_iff_eq] at hall
    exact hall.1.2
  · -- a unique identifier is taken for the extensions, and it is no sequence
    obtain ⟨tag, payload, rest, htail, hext, hseq⟩ := f.tail_of_id (some contents) hids
    rw [htail, List.append_assoc, checkAndGetExtensions_other hext] at hextensions
    cases hextensions
    unfold getKeyUsageValue checkTagIsSequence at husage
    rw [Check.bind_of_reject (checkTag_other _ hseq)] at husage
    cases husage

/-- **A KeyUsage extension in the last certificate of a chain**, behind these
other extensions: a bit string of at least one value byte, whose unused bits
are zero. -/
structure HoldsKeyUsage (chain : Bytes) (front : List Bytes) (critical : Option UInt8)
    (unused first : UInt8) (more : Bytes) : Prop where
  encodable : Der.Encodable chain.length
  unused_lt : unused.toNat < 8
  unused_zero : ((first :: more).getLast (by simp)).toNat % 2 ^ unused.toNat = 0
  leaf : ∃ (before : List Bytes) (f : Fields) (behind : List Bytes),
    chain = (before.map (element asn1TagSequence)).flatten ++
      f.encode (some (front ++ keyUsage critical unused (first :: more) :: behind))

theorem lastByte_signs {chain : Bytes} {front : List Bytes} {unused first : UInt8} {more : Bytes}
    (h : checkCertChainFormat chain baseAsymAlgo = .ok n)
    (hholds : HoldsKeyUsage chain front critical unused first more)
    (hfront : ∀ content ∈ front, OtherExtension content) :
    keyUsageDigitalSignatureBit &&& (first :: more).getLast (by simp) =
      keyUsageDigitalSignatureBit := by
  obtain ⟨before, f, behind, rfl⟩ := hholds.leaf
  have hn := hholds.encodable
  unfold Fields.encode at h hn
  obtain ⟨size, hformat⟩ := checkCertChainFormat_last hn h
  have hcontent := hn.mono
    (m := (f.content (some (front ++ keyUsage critical unused (first :: more) :: behind))).length)
    (by rw [List.length_append, length_element]; omega)
  obtain ⟨size, htbs⟩ := checkTbsCertificate_of_last hcontent hformat
  refine bit_of_checkTbsCertificate hcontent htbs fun hroom => ?_
  rw [List.map_append, List.flatten_append, List.map_cons, List.flatten_cons] at hroom ⊢
  simp only [List.length_append] at hroom
  rw [searchKeyUsage_others hfront (by omega), searchKeyUsage_keyUsage (by omega)]
  rfl

/-- The bit for digital signatures, in the first value byte. -/
def KeyUsageRule (chain : Bytes) : Prop :=
  ∀ front critical unused first more, HoldsKeyUsage chain front critical unused first more →
    keyUsageDigitalSignatureBit &&& first = keyUsageDigitalSignatureBit

/-- **When the rule holds of an accepted chain**: when every KeyUsage
extension of the leaf has the bit that is longer than one byte, or is behind
another KeyUsage extension or one out of form. -/
theorem keyUsageRule_iff {chain : Bytes} {baseAsymAlgo : Flags} {n : Nat}
    (h : checkCertChainFormat chain baseAsymAlgo = .ok n) :
    KeyUsageRule chain ↔
      ∀ front critical unused first more, HoldsKeyUsage chain front critical unused first more →
        (more ≠ [] ∨ ∃ content ∈ front, ¬ OtherExtension content) →
        keyUsageDigitalSignatureBit &&& first = keyUsageDigitalSignatureBit := by
  refine ⟨fun hrule front critical unused first more hholds _ =>
    hrule front critical unused first more hholds, fun hrest front critical unused first more
    hholds => ?_⟩
  by_cases hread : more ≠ [] ∨ ∃ content ∈ front, ¬ OtherExtension content
  · exact hrest front critical unused first more hholds hread
  · -- a single byte is first and last
    rw [not_or, not_not, not_exists] at hread
    obtain ⟨rfl, hfront⟩ := hread
    refine lastByte_signs h hholds fun content hmem => ?_
    by_contra hother
    exact hfront content ⟨hmem, hother⟩

def signingLeaf : Bytes := smallFields.encode (some [keyUsage (some 0xFF) 7 [0x80]])

theorem keyUsageRule_signingLeaf :
    checkCertChainFormat signingLeaf SpdmBaseAsymAlgo.tpmAlgEcdsaEccNistP256 = .ok 1 ∧
    (KeyUsageRule signingLeaf ↔ ∀ front critical unused first more,
      HoldsKeyUsage signingLeaf front critical unused first more →
      (more ≠ [] ∨ ∃ content ∈ front, ¬ OtherExtension content) →
      keyUsageDigitalSignatureBit &&& first = keyUsageDigitalSignatureBit) := by
  have hformat : checkCertChainFormat signingLeaf SpdmBaseAsymAlgo.tpmAlgEcdsaEccNistP256 =
      .ok 1 := by decide +kernel
  exact ⟨hformat, keyUsageRule_iff hformat⟩

def decipheringLeaf : Bytes := smallFields.encode (some [keyUsage (some 0xFF) 7 [0x00, 0x80]])

theorem deciphering_accepted :
    checkCertChainFormat decipheringLeaf SpdmBaseAsymAlgo.tpmAlgEcdsaEccNistP256 = .ok 1 ∧
      HoldsKeyUsage decipheringLeaf [] (some 0xFF) 7 0x00 [0x80] ∧
      ¬ KeyUsageRule decipheringLeaf := by
  have hholds : HoldsKeyUsage decipheringLeaf [] (some 0xFF) 7 0x00 [0x80] :=
    { encodable := encodable_of_lt (k := 1) (by decide +kernel) (by decide)
      unused_lt := by decide
      unused_zero := by decide
      leaf := ⟨[], smallFields, [], rfl⟩ }
  refine ⟨by decide +kernel, hholds, fun hrule => ?_⟩
  exact absurd (hrule _ _ _ _ _ hholds) (by decide)

end X509v3

end Spdm
