/-
  Spdm.Certificate.Format — what the certificate checks accept.
-/
import Spdm.Certificate.Settled
import Spdm.Lib.Der

namespace Spdm

open Effect Der

variable {data : Bytes} {baseAsymAlgo : Flags} {size : Nat}

namespace X509v3

/-! ## §1. Lengths. -/

theorem toNat_lt_of_short {b : UInt8} (h : b &&& 0x80 = 0) : b.toNat < 0x80 := by
  have hb := b.toNat_lt
  have hand : b.toNat &&& 0x80 = 0 := by
    have hsame := congrArg UInt8.toNat h
    rwa [UInt8.toNat_and] at hsame
  have htest : b.toNat.testBit 7 = false := by
    have hbit := congrArg (Nat.testBit · 7) hand
    simpa [show Nat.testBit 0x80 7 = true by decide] using hbit
  rw [Nat.testBit_eq_decide_div_mod_eq, decide_eq_false_iff_not] at htest
  omega

theorem lengthBytes_one {b : UInt8} (h : 0x80 ≤ b.toNat) : lengthBytes b.toNat = [0x81, b] := by
  have hbytes : beBytes b.toNat = [b] := by
    have hvalue : beNat [b] = b.toNat := by simp [beNat]
    rw [← hvalue]
    refine beBytes_beNat_of_head fun hzero => ?_
    cases hzero
    exact absurd h (by decide)
  unfold lengthBytes
  rw [if_neg (by omega), hbytes]
  rfl

theorem lengthBytes_two {high low : UInt8} (h : 0x100 ≤ combined high low) :
    lengthBytes (combined high low) = [0x82, high, low] := by
  have hbytes : beBytes (combined high low) = [high, low] := by
    have hvalue : beNat [high, low] = combined high low := by
      rw [combined_eq]
      simp [beNat, Nat.ofDigits]
      omega
    rw [← hvalue]
    refine beBytes_beNat_of_head fun hzero => ?_
    cases hzero
    rw [combined_eq] at h
    have hlow := low.toNat_lt
    have hhigh : (0 : UInt8).toNat = 0 := rfl
    omega
  unfold lengthBytes
  rw [if_neg (by omega), hbytes]
  rfl

theorem decodeLength_ok {length consumed : Nat}
    (h : decodeLength data = .ok (length, consumed)) :
    ∃ rest, data = lengthBytes length ++ rest ∧ consumed = (lengthBytes length).length := by
  cases data with
  | nil => cases h
  | cons byte0 rest =>
    unfold decodeLength at h
    dsimp only at h
    split_ifs at h with hshort hone htwo
    · cases h
      have hbytes : lengthBytes byte0.toNat = [byte0] := by
        unfold lengthBytes
        rw [if_pos (toNat_lt_of_short hshort), UInt8.ofNat_toNat]
      rw [hbytes]
      exact ⟨rest, rfl, rfl⟩
    · subst hone
      cases rest with
      | nil => cases h
      | cons second rest =>
        dsimp only at h
        split_ifs at h with hsmall
        · cases h
        · cases h
          rw [lengthBytes_one (by omega)]
          exact ⟨rest, rfl, rfl⟩
    · subst htwo
      cases rest with
      | nil => cases h
      | cons second rest =>
        cases rest with
        | nil => cases h
        | cons third rest =>
          dsimp only at h
          split_ifs at h with hsmall
          · cases h
          · cases h
            rw [lengthBytes_two (by omega)]
            exact ⟨rest, rfl, rfl⟩
    · cases h

/-! ## §2. Certificates. -/

theorem exists_of_checkTag {tag : UInt8} {u : Unit} (h : checkTag tag data = .ok u) :
    ∃ rest, data = tag :: rest := by
  cases data with
  | nil => cases h
  | cons first rest =>
    rw [checkTag, require_eq_ok] at h
    simp only [List.head?_cons, beq_iff_eq, Option.some.injEq] at h
    exact ⟨rest, by rw [h]⟩

theorem exists_element {tag : UInt8} {u : Unit} {length consumed : Nat}
    (htag : checkTag tag data = .ok u)
    (hlength : checkLength (data.drop 1) = .ok (length, consumed)) :
    ∃ payload after, data = element tag payload ++ after ∧ payload.length = length ∧
      data.drop (1 + consumed) = payload ++ after ∧
      (element tag payload).length = 1 + consumed + length := by
  obtain ⟨rest, rfl⟩ := exists_of_checkTag htag
  obtain ⟨hdecode, hroom⟩ := checkLength_ok hlength
  obtain ⟨behind, hrest, rfl⟩ := decodeLength_ok hdecode
  have hsame : rest = lengthBytes length ++ behind := hrest
  subst hsame
  have hbehind : length ≤ behind.length := by
    simp only [List.drop_succ_cons, List.drop_zero, List.length_append] at hroom
    omega
  have hpayload : (behind.take length).length = length := by
    rw [List.length_take]
    omega
  refine ⟨behind.take length, behind.drop length, ?_, hpayload, ?_, ?_⟩
  · unfold element
    rw [hpayload, List.cons_append, List.append_assoc, List.take_append_drop]
  · rw [Nat.add_comm, List.drop_succ_cons, List.drop_left, List.take_append_drop]
  · unfold element
    rw [List.length_cons, List.length_append, hpayload]
    omega

def version3 : Bytes := [0xA0, 3, asn1TagNumberInteger, 1, x509v3Version]

/-- A SEQUENCE of exactly a version-3 `TBSCertificate`, an algorithm and one
element more. -/
def IsCertificate (cert : Bytes) : Prop :=
  ∃ tbs algorithm tag value, cert = element asn1TagSequence
    (element asn1TagSequence (version3 ++ tbs) ++ element asn1TagSequence algorithm ++
      element tag value)

theorem checkTbsCertificate_ok {isLeafCert : Bool}
    (h : checkTbsCertificate data baseAsymAlgo isLeafCert = .ok size) :
    ∃ tbs after, data = element asn1TagSequence (version3 ++ tbs) ++ after ∧
      size = (element asn1TagSequence (version3 ++ tbs)).length := by
  obtain ⟨⟨start, tbsLength, walker⟩, hissuer, h⟩ := Check.bind_eq_ok.1 h
  obtain ⟨next, hnext, h⟩ := Check.bind_eq_ok.1 h
  obtain ⟨⟨extensionSize, extensions⟩, -, h⟩ := Check.bind_eq_ok.1 h
  obtain ⟨⟨findKeyUsage, keyUsage⟩, -, h⟩ := Check.bind_eq_ok.1 h
  obtain ⟨spdmSuccess, -, h⟩ := Check.bind_eq_ok.1 h
  obtain ⟨_, hall, h⟩ := Check.bind_eq_ok.1 h
  cases h
  obtain ⟨consumed, htag, hlength, rfl, -, hversion, hstart, hroom⟩ :=
    Indexed.skipToIssuer_ok hissuer
  obtain ⟨hmore, -⟩ := Indexed.skipToExtensions_ok hroom hnext
  -- the fields fill the sequence, so the version is inside it
  have hfill : next + extensionSize = 1 + consumed + tbsLength := by
    rw [require_eq_ok] at hall
    simp only [Bool.and_eq_true, beq_iff_eq] at hall
    exact hall.1.1
  obtain ⟨payload, after, hdata, hpayload, hdrop, hsize⟩ := exists_element htag hlength
  obtain ⟨tbs, rfl⟩ : ∃ tbs, payload = version3 ++ tbs := by
    obtain ⟨_, htake, -⟩ := Check.bind_eq_ok.1 hversion
    rw [require_eq_ok, beq_iff_eq, hdrop, List.take_append_of_le_length (by omega)] at htake
    refine ⟨payload.drop 5, ?_⟩
    conv => lhs; rw [← List.take_append_drop 5 payload, htake]
    rfl
  exact ⟨tbs, after, hdata, hsize.symm⟩

theorem drop_behind {first after : Bytes} (h : data = first ++ after) :
    data.drop first.length = after := by
  rw [h, List.drop_left]

theorem exists_common (h : checkAndSkipCommonTag data = .ok size) :
    ∃ tag payload after, data = element tag payload ++ after ∧
      size = (element tag payload).length := by
  obtain ⟨_, hpos, h⟩ := Check.bind_eq_ok.1 h
  obtain ⟨⟨length, consumed⟩, hlength, h⟩ := Check.bind_eq_ok.1 h
  obtain ⟨_, -, h⟩ := Check.bind_eq_ok.1 h
  cases h
  cases data with
  | nil => cases hpos
  | cons tag rest =>
    have htag : checkTag tag (tag :: rest) = .ok () := by simp [checkTag, require]
    obtain ⟨payload, after, hdata, -, -, hsize⟩ := exists_element htag hlength
    exact ⟨tag, payload, after, hdata, hsize.symm⟩

theorem isCertificate_of_format {cert : Bytes}
    (h : checkCertFormat cert baseAsymAlgo = .ok size) : IsCertificate (cert.take size) := by
  obtain ⟨_, htag, h⟩ := Check.bind_eq_ok.1 h
  obtain ⟨⟨bodySize, consumed⟩, hlength, h⟩ := Check.bind_eq_ok.1 h
  obtain ⟨tbsSize, htbs, h⟩ := Check.bind_eq_ok.1 h
  obtain ⟨algorithmSize, halgorithm, h⟩ := Check.bind_eq_ok.1 h
  obtain ⟨valueSize, hvalue, h⟩ := Check.bind_eq_ok.1 h
  obtain ⟨_, htotal, h⟩ := Check.bind_eq_ok.1 h
  cases h
  rw [require_eq_ok, beq_iff_eq] at htotal
  obtain ⟨body, after, rfl, hbody, hdrop, hsize⟩ := exists_element htag hlength
  obtain ⟨tbs, after₁, hdata₁, rfl⟩ := checkTbsCertificate_ok htbs
  have hrest₁ := drop_behind hdata₁
  rw [List.drop_drop] at hrest₁
  rw [hrest₁] at halgorithm
  obtain ⟨length₂, consumed₂, htag₂, hlength₂, rfl, -⟩ :=
    Indexed.checkSignatureAlgorithm_ok halgorithm
  obtain ⟨algorithm, after₂, rfl, -, -, hsize₂⟩ := exists_element htag₂ hlength₂
  have hrest₂ := drop_behind hrest₁
  rw [List.drop_drop, hsize₂] at hrest₂
  rw [hrest₂] at hvalue
  obtain ⟨tag, value, after₃, rfl, rfl⟩ := exists_common hvalue
  refine ⟨tbs, algorithm, tag, value, ?_⟩
  have hbodies : body ++ after = (element asn1TagSequence (version3 ++ tbs) ++
      element asn1TagSequence algorithm ++ element tag value) ++ after₃ := by
    rw [← hdrop, hdata₁]
    simp only [List.append_assoc]
  obtain ⟨rfl, -⟩ := List.append_inj hbodies (by
    simp only [List.length_append, hsize₂]
    omega)
  rw [htotal, ← hsize, List.take_left]

theorem checkCertChainFormat_ok {chain : Bytes} {n : Nat}
    (h : checkCertChainFormat chain baseAsymAlgo = .ok n) :
    ∃ certs : List Bytes, certs.length = n ∧ certs.flatten = chain ∧
      ∀ cert ∈ certs, IsCertificate cert := by
  fun_induction checkCertChainFormat chain baseAsymAlgo generalizing n with
  | case1 => cases h
  | case2 => cases h
  | case3 chain hmore size hformat hfits ih =>
    -- the first certificate, and what the rest of the chain is made of
    obtain ⟨count, hcount, h⟩ := Check.bind_eq_ok.1 h
    cases h
    obtain ⟨certs, hlength, hflatten, hall⟩ := ih hcount
    refine ⟨chain.take size :: certs, by rw [List.length_cons, hlength], ?_, ?_⟩
    · rw [List.flatten_cons, hflatten, List.take_append_drop]
    · intro cert hcert
      rcases List.mem_cons.1 hcert with rfl | hcert
      · exact isCertificate_of_format hformat
      · exact hall cert hcert
  | case4 chain hempty =>
    cases h
    have hnil : chain = [] := List.length_eq_zero_iff.1 (by omega)
    exact ⟨[], rfl, hnil.symm, by simp⟩

end X509v3

namespace SpdmRing

/-! ## §3. Ranges. -/

theorem element_take {tag form high low : UInt8} {body : Bytes} {size : Nat}
    (hform : ¬ (tag ≠ 0x30 ∨ form ≠ 0x82)) (hsize : (high.toNat <<< 8) + low.toNat + 4 = size)
    (hfits : ¬ body.length + 4 < size) :
    Element (tag :: form :: high :: low :: body.take (size - 4)) ∧
      (tag :: form :: high :: low :: body.take (size - 4)).length = size := by
  have hbody : (body.take (size - 4)).length = size - 4 := by
    rw [List.length_take]
    omega
  refine ⟨element_of_size hform (by omega), ?_⟩
  simp only [List.length_cons, hbody]
  omega

theorem findCert_ok {rest : Bytes} {index thisIndex : Int} {offset first last : Nat}
    (h : findCert index offset thisIndex rest = .ok (first, last)) :
    ∃ (before : List Bytes) (cert after : Bytes), rest = before.flatten ++ cert ++ after ∧
      (∀ c ∈ before, Element c) ∧ Element cert ∧ first = offset + before.flatten.length ∧
      last = first + cert.length := by
  fun_induction findCert index offset thisIndex rest with
  | case1 | case2 => cases h
  | case3 offset tag form high low body hform size hfits =>
    cases h
    obtain ⟨hcert, hlength⟩ := @element_take _ _ _ _ _ size hform rfl hfits
    exact ⟨[], _, body.drop (size - 4), by simp, by simp, hcert, rfl, by rw [hlength]⟩
  | case4 offset thisIndex tag form high low body hform size hfits hne hlast =>
    cases h
    obtain ⟨hcert, hlength⟩ := @element_take _ _ _ _ _ size hform rfl hfits
    exact ⟨[], _, body.drop (size - 4), by simp, by simp, hcert, rfl, by rw [hlength]⟩
  | case5 offset thisIndex tag form high low body hform size hfits hne hnot ih =>
    obtain ⟨before, cert, after, hrest, hall, hcert, hfirst, hlast⟩ := ih h
    obtain ⟨helement, hlength⟩ := @element_take _ _ _ _ _ size hform rfl hfits
    refine ⟨(tag :: form :: high :: low :: body.take (size - 4)) :: before, cert, after, ?_, ?_,
      hcert, ?_, hlast⟩
    · rw [List.flatten_cons, List.append_assoc, List.append_assoc,
        ← List.append_assoc before.flatten, ← hrest]
      simp
    · intro c hc
      rcases List.mem_cons.1 hc with rfl | hc
      · exact helement
      · exact hall c hc
    · rw [List.flatten_cons, List.length_append]
      omega
  | case6 => cases h

end SpdmRing

open X509v3 SpdmRing in
/-- **The walkers on any bytes**: none of them aborts or runs on; a chain is
in form only as a row of certificates without a byte left over; and a range
that is found is an element of the chain. -/
theorem certificates_hostile (data : Bytes) (baseAsymAlgo : Flags) (isAliasCertModel : Bool)
    (index : Int) :
    Settles (X509v3.Indexed.checkCertChainFormat data baseAsymAlgo) ∧
    Settles (X509v3.Indexed.checkLeafCertificate data isAliasCertModel) ∧
    Settles (X509v3.Indexed.isRootCertificate data) ∧
    Settles (SpdmRing.Indexed.getCertFromCertChain data index) ∧
    (∀ n, X509v3.Indexed.checkCertChainFormat data baseAsymAlgo () = .ok n () →
      ∃ certs : List Bytes, certs.length = n ∧ certs.flatten = data ∧
        ∀ cert ∈ certs, IsCertificate cert) ∧
    (∀ first last, SpdmRing.Indexed.getCertFromCertChain data index () = .ok (first, last) () →
      first ≤ last ∧ last ≤ data.length ∧ Element ((data.take last).drop first)) := by
  rw [X509v3.Indexed.checkCertChainFormat_eq, X509v3.Indexed.checkLeafCertificate_eq,
    X509v3.Indexed.isRootCertificate_eq, SpdmRing.Indexed.getCertFromCertChain_eq]
  refine ⟨settles_settle _, settles_settle _, settles_settle _, settles_settle _, ?_, ?_⟩
  · intro n hok
    exact checkCertChainFormat_ok (settle_eq_ok.1 hok)
  · intro first last hok
    obtain ⟨before, cert, after, rfl, -, hcert, rfl, rfl⟩ := findCert_ok (settle_eq_ok.1 hok)
    refine ⟨by omega, by simp, ?_⟩
    rw [Nat.zero_add, ← List.length_append, List.take_left, List.drop_left]
    exact hcert

end Spdm
