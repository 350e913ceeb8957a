/-
  Spdm.Certificate.EccDer — ECDSA signatures as `webpki` reads them
  (`spdm_ring/asym_verify_impl.rs`).
-/
import Spdm.Certificate.Ring
import Spdm.Lib.Buffer
import Spdm.Lib.Der

namespace Spdm

open Effect Codec Der

namespace SpdmRing

/-! ## §1. The conversion. -/

def store (offs : Nat) (field : Bytes) : Prog Bytes SpdmStatus Unit := do
  let buf ← read
  assert (decide (offs + field.length ≤ buf.length))
  update (overwrite offs field)

def storeNumber (offs : Nat) (first : UInt8) (number : Bytes) : Prog Bytes SpdmStatus Unit :=
  if first < 0x80 then store offs number
  else do
    store offs [0]
    store (offs + 1) number

def eccSignatureBinToDerInto (signature : Bytes) : Prog Bytes SpdmStatus Nat := do
  assert (signature.length == 64 || signature.length == 96)
  let halfSize := signature.length / 2
  let rIndex := (signature.take halfSize).findIdx (· != 0)
  let rSize := halfSize - rIndex
  let r := (signature.take halfSize).drop rIndex
  let sIndex := (signature.drop halfSize).findIdx (· != 0)
  let sSize := halfSize - sIndex
  let s := (signature.drop halfSize).drop sIndex
  if rSize = 0 ∨ sSize = 0 then ret 0
  else do
    let rFirst ← orAbort r.head?
    let sFirst ← orAbort s.head?
    let derRSize := if rFirst < 0x80 then rSize else rSize + 1
    let derSSize := if sFirst < 0x80 then sSize else sSize + 1
    -- 0x30 _ 0x02 _ [derRSize] 0x02 _ [derSSize]
    let derSignSize := derRSize + derSSize + 6
    let der ← read
    guardElse (decide (derSignSize ≤ der.length)) .verifFail
    guardElse (decide (derRSize ≤ 0xff ∧ derSSize ≤ 0xff ∧ derSignSize ≤ 0xff)) .verifFail
    store 0 [0x30]
    store 1 [UInt8.ofNat (derSignSize - 2)]
    store 2 [0x02]
    store 3 [UInt8.ofNat derRSize]
    storeNumber 4 rFirst r
    store (4 + derRSize) [0x02]
    store (5 + derRSize) [UInt8.ofNat derSSize]
    storeNumber (6 + derRSize) sFirst s
    ret derSignSize

def rOf (signature : Bytes) : Nat := beNat (signature.take (signature.length / 2))

def sOf (signature : Bytes) : Nat := beNat (signature.drop (signature.length / 2))

def derSignature (r s : Nat) : Bytes := element 0x30 (integer r ++ integer s)

/-! ## §2. Numbers without leading zeros. -/

theorem drop_findIdx {half : Bytes} : half.drop (half.findIdx (· != 0)) = stripZeros half := by
  induction half with
  | nil => rfl
  | cons b half ih =>
    unfold stripZeros
    by_cases hb : b = 0
    · subst hb
      rw [List.findIdx_cons]
      exact ih
    · have hfound : (b :: half).findIdx (· != 0) = 0 := by
        rw [List.findIdx_cons, bne_iff_ne.2 hb]
        rfl
      rw [List.dropWhile_cons_of_neg (by simpa using hb), hfound, List.drop_zero]

def signed (first : UInt8) (number : Bytes) : Bytes := if first < 0x80 then number else 0 :: number

theorem signed_length (first : UInt8) (number : Bytes) :
    (signed first number).length = if first < 0x80 then number.length else number.length + 1 := by
  unfold signed
  split_ifs
  · rfl
  · rfl

theorem unsigned_of_strip {half number : Bytes} {first : UInt8}
    (h : stripZeros half = first :: number) :
    unsigned (beNat half) = signed first (first :: number) := by
  have hne : beNat half ≠ 0 := by
    intro hzero
    rw [← stripZeros_eq_nil, h] at hzero
    cases hzero
  unfold unsigned signed
  rw [if_neg hne, beBytes_beNat, h]
  by_cases hsign : first < 0x80
  · simp [hsign]
  · have hle : (0x80) ≤ first := UInt8.not_lt.1 hsign
    simp [hsign, hle]

/-! ## §3. The buffer. -/

theorem store_of {offs : Nat} {written field left : Bytes} (hoffs : offs = written.length)
    (h : field.length ≤ left.length) :
    store offs field (written ++ left) = .ok () (written ++ field ++ left.drop field.length) := by
  subst hoffs
  have hroom : decide (written.length + field.length ≤ (written ++ left).length) = true := by
    simp only [List.length_append, decide_eq_true_eq]
    omega
  unfold store
  rw [read_bind, bind_of_ok (assert_of hroom)]
  show Outcome.ok () (overwrite written.length field (written ++ left)) = _
  rw [overwrite_append]

theorem storeNumber_of {offs : Nat} {first : UInt8} {written number left : Bytes}
    (hoffs : offs = written.length) (h : (signed first number).length ≤ left.length) :
    storeNumber offs first number (written ++ left) =
      .ok () (written ++ signed first number ++ left.drop (signed first number).length) := by
  unfold storeNumber
  by_cases hsign : first < 0x80
  · have hsigned : signed first number = number := if_pos hsign
    rw [hsigned] at h ⊢
    rw [if_pos hsign]
    exact store_of hoffs h
  · have hsigned : signed first number = 0 :: number := if_neg hsign
    rw [hsigned] at h ⊢
    have hroom : number.length + 1 ≤ left.length := h
    have hzero : ([0]).length ≤ left.length := by
      show 1 ≤ left.length
      omega
    have hrest : number.length ≤ (left.drop 1).length := by
      rw [List.length_drop]
      omega
    have hnext : offs + 1 = (written ++ [0]).length := by
      rw [hoffs, List.length_append]
      rfl
    rw [if_neg hsign, bind_of_ok (store_of hoffs hzero)]
    refine (store_of hnext hrest).trans ?_
    simp

theorem derSignature_eq {r s : Nat} {rBytes sBytes : Bytes} (hr : unsigned r = rBytes)
    (hs : unsigned s = sBytes) (hshort : rBytes.length + sBytes.length + 4 < 0x80) :
    derSignature r s = [0x30] ++ [UInt8.ofNat (rBytes.length + sBytes.length + 4)] ++ [0x02] ++
      [UInt8.ofNat rBytes.length] ++ rBytes ++ [0x02] ++ [UInt8.ofNat sBytes.length] ++ sBytes := by
  have hsmall : ∀ {n : Nat}, n < 0x80 → lengthBytes n = [UInt8.ofNat n] := fun h => if_pos h
  unfold derSignature integer element
  rw [hr, hs, @hsmall rBytes.length (by omega), @hsmall sBytes.length (by omega)]
  have htotal : (0x02 :: ([UInt8.ofNat rBytes.length] ++ rBytes) ++
      0x02 :: ([UInt8.ofNat sBytes.length] ++ sBytes)).length =
        rBytes.length + sBytes.length + 4 := by
    simp only [List.length_append, List.length_cons, List.length_nil]
    omega
  rw [htotal, hsmall hshort]
  simp

theorem length_le_of_strip {half number : Bytes} (h : stripZeros half = number) :
    number.length ≤ half.length := by
  rw [← h]
  exact (List.dropWhile_sublist _).length_le

theorem eccSignatureBinToDerInto_eq {signature buffer : Bytes}
    (hsize : signature.length = 64 ∨ signature.length = 96) (hr : rOf signature ≠ 0)
    (hs : sOf signature ≠ 0) (hroom : 96 + 8 ≤ buffer.length) :
    eccSignatureBinToDerInto signature buffer =
      .ok (derSignature (rOf signature) (sOf signature)).length
        (derSignature (rOf signature) (sOf signature) ++
          buffer.drop (derSignature (rOf signature) (sOf signature)).length) := by
  unfold rOf at hr ⊢
  unfold sOf at hs ⊢
  generalize hrHalf : signature.take (signature.length / 2) = rHalf at hr ⊢
  generalize hsHalf : signature.drop (signature.length / 2) = sHalf at hs ⊢
  have hrLength : rHalf.length = signature.length / 2 := by
    rw [← hrHalf, List.length_take]
    omega
  have hsLength : sHalf.length = signature.length / 2 := by
    rw [← hsHalf, List.length_drop]
    omega
  cases hrStrip : stripZeros rHalf with
  | nil => exact absurd (stripZeros_eq_nil.1 hrStrip) hr
  | cons rFirst rRest =>
  cases hsStrip : stripZeros sHalf with
  | nil => exact absurd (stripZeros_eq_nil.1 hsStrip) hs
  | cons sFirst sRest =>
    have hassert : (signature.length == 64 || signature.length == 96) = true := by
      simpa using hsize
    have hrSize : signature.length / 2 - rHalf.findIdx (· != 0) = (rFirst :: rRest).length := by
      rw [← hrStrip, ← drop_findIdx, List.length_drop, hrLength]
    have hsSize : signature.length / 2 - sHalf.findIdx (· != 0) = (sFirst :: sRest).length := by
      rw [← hsStrip, ← drop_findIdx, List.length_drop, hsLength]
    have hnonzero : ¬ ((rFirst :: rRest).length = 0 ∨ (sFirst :: sRest).length = 0) := by simp
    have hrDer := (signed_length rFirst (rFirst :: rRest)).symm
    have hsDer := (signed_length sFirst (sFirst :: sRest)).symm
    have hrInteger := unsigned_of_strip hrStrip
    have hsInteger := unsigned_of_strip hsStrip
    generalize hrBytes : signed rFirst (rFirst :: rRest) = rBytes at hrDer hrInteger
    generalize hsBytes : signed sFirst (sFirst :: sRest) = sBytes at hsDer hsInteger
    -- 48 bytes and a zero at most
    have hrFits : rBytes.length ≤ 49 := by
      split_ifs at hrDer <;> omega
    have hsFits : sBytes.length ≤ 49 := by
      split_ifs at hsDer <;> omega
    have henough : decide (rBytes.length + sBytes.length + 6 ≤ buffer.length) = true := by
      rw [decide_eq_true_eq]
      omega
    have hbytes : decide (rBytes.length ≤ 0xff ∧ sBytes.length ≤ 0xff ∧
        rBytes.length + sBytes.length + 6 ≤ 0xff) = true := by
      rw [decide_eq_true_eq]
      omega
    rw [derSignature_eq hrInteger hsInteger (by omega)]
    have hrHead : (orAbort (rFirst :: rRest).head? : Prog Bytes SpdmStatus UInt8) buffer =
        .ok rFirst buffer := rfl
    have hsHead : (orAbort (sFirst :: sRest).head? : Prog Bytes SpdmStatus UInt8) buffer =
        .ok sFirst buffer := rfl
    have hstart : store 0 [0x30] buffer = .ok () ([0x30] ++ buffer.drop 1) :=
      @store_of 0 [] [0x30] buffer rfl (by show 1 ≤ buffer.length; omega)
    unfold eccSignatureBinToDerInto
    rw [bind_of_ok (assert_of hassert)]
    rw [hrHalf, hsHalf, hrSize, hsSize, drop_findIdx, drop_findIdx, hrStrip, hsStrip,
      if_neg hnonzero, bind_of_ok hrHead, bind_of_ok hsHead, hrDer, hsDer, read_bind,
      bind_of_ok (guardElse_of henough), bind_of_ok (guardElse_of hbytes),
      bind_of_ok hstart]
    -- each write starts where the one before ended
    rw [bind_of_ok (store_of (by simp) (by simp; omega)),
      bind_of_ok (store_of (by simp) (by simp; omega)),
      bind_of_ok (store_of (by simp) (by simp; omega)),
      bind_of_ok (storeNumber_of (by simp) (by rw [hrBytes]; simp; omega)), hrBytes,
      bind_of_ok (store_of (by simp; omega) (by simp; omega)),
      bind_of_ok (store_of (by simp; omega) (by simp; omega)),
      bind_of_ok (storeNumber_of (by simp; omega) (by rw [hsBytes]; simp; omega)), hsBytes]
    have hsub : rBytes.length + sBytes.length + 6 - 2 = rBytes.length + sBytes.length +
      4 := by omega
    rw [hsub]
    congr 1
    · simp
      omega
    · simp only [List.drop_drop, List.length_append, List.length_cons, List.length_nil]

theorem unsigned_length_le (half : Bytes) : (unsigned (beNat half)).length ≤ half.length + 1 := by
  have hstrip := @length_le_of_strip half _ rfl
  unfold unsigned
  rw [beBytes_beNat]
  split_ifs
  · simp
  · rw [List.length_cons]
    omega
  · omega

theorem unsigned_ne_nil {n : Nat} : unsigned n ≠ [] := by
  intro hnil
  have hvalue := beNat_unsigned n
  rw [hnil] at hvalue
  rw [← hvalue] at hnil
  cases hnil

theorem eccSignatureBinToDer_eq {σ : Type} {signature : Bytes}
    (hsize : signature.length = 64 ∨ signature.length = 96) (hr : rOf signature ≠ 0)
    (hs : sOf signature ≠ 0) (c : σ) :
    eccSignatureBinToDer signature c = .ok (derSignature (rOf signature) (sOf signature)) c := by
  have hinteger : ∀ {half : Bytes}, beNat half ≠ 0 → derInteger half = unsigned (beNat half) := by
    intro half hne
    unfold derInteger unsigned
    rw [if_neg hne, beBytes_beNat]
    rfl
  have hassert : (signature.length == 64 || signature.length == 96) = true := by simpa using hsize
  have hrMost := unsigned_length_le (signature.take (signature.length / 2))
  have hsMost := unsigned_length_le (signature.drop (signature.length / 2))
  rw [List.length_take] at hrMost
  rw [List.length_drop] at hsMost
  unfold eccSignatureBinToDer
  rw [bind_of_ok (assert_of hassert)]
  rw [hinteger hr, hinteger hs]
  have hfull : ((unsigned (rOf signature)).isEmpty || (unsigned (sOf signature)).isEmpty) =
    false := by
    simp [unsigned_ne_nil]
  unfold rOf sOf at *
  rw [hfull, derSignature_eq rfl rfl (by omega)]
  simp [ret]

theorem derSignature_inj {signature signature' : Bytes}
    (hsize : signature.length = 64 ∨ signature.length = 96)
    (hlength : signature'.length = signature.length)
    (h : derSignature (rOf signature') (sOf signature') =
      derSignature (rOf signature) (sOf signature)) : signature' = signature := by
  have hhalves : ∀ {a : Bytes}, a.length = 64 ∨ a.length = 96 →
      (unsigned (rOf a)).length ≤ 49 ∧ (unsigned (sOf a)).length ≤ 49 := by
    intro a ha
    have hr := unsigned_length_le (a.take (a.length / 2))
    have hs := unsigned_length_le (a.drop (a.length / 2))
    rw [List.length_take] at hr
    rw [List.length_drop] at hs
    unfold rOf sOf
    omega
  have hencodable : ∀ {n : Nat}, n < 0x80 → Encodable n := fun hn =>
    @encodable_of_lt _ 1 (by omega) (by decide)
  have htotal : ∀ {r s : Nat}, (unsigned r).length ≤ 49 → (unsigned s).length ≤ 49 →
      (integer r ++ integer s).length < 0x80 := by
    intro r s hr hs
    unfold integer element lengthBytes
    rw [if_pos (by omega), if_pos (by omega)]
    simp only [List.length_append, List.length_cons, List.length_nil]
    omega
  obtain ⟨hr, hs⟩ := hhalves hsize
  obtain ⟨hr', hs'⟩ := @hhalves signature' (by omega)
  have hone : ∀ {n : Nat}, (unsigned n).length ≤ 49 → Encodable (unsigned n).length := fun hn =>
    hencodable (by omega)
  obtain ⟨-, hpayload⟩ := element_inj (hencodable (htotal hr' hs')) (hencodable (htotal hr hs)) h
  obtain ⟨hrSame, hrest⟩ := integer_append_inj (hone hr') (hone hr) hpayload
  have hsSame := integer_inj (hone hs') (hone hs) hrest
  unfold rOf at hrSame
  unfold sOf at hsSame
  rw [hlength] at hrSame hsSame
  have hfirst := beNat_inj (by simp [hlength]) hrSame
  have hsecond := beNat_inj (by simp [hlength]) hsSame
  rw [← List.take_append_drop (signature.length / 2) signature', hfirst, hsecond,
    List.take_append_drop]

/-! ## §4. Signatures of 64 and 96 bytes. -/

/-- **The conversion.**  For a signature of 64 or 96 bytes with two numbers
that are not zero, and the buffer of `asym_verify`: the buffer starts with the
encoding of the two numbers, the rest of it is as it was, and the length is
returned, so that this is what `asym_verify` hands on.  Different signatures
of one size have different encodings. -/
theorem ecc_signature_bin_to_der {signature buffer : Bytes}
    (hsize : signature.length = 64 ∨ signature.length = 96) (hr : rOf signature ≠ 0)
    (hs : sOf signature ≠ 0) (hbuffer : buffer.length = 96 + 8) :
    (∃ der, der = derSignature (rOf signature) (sOf signature) ∧
      eccSignatureBinToDerInto signature buffer = .ok der.length (der ++ buffer.drop der.length) ∧
      ∀ (σ : Type) (c : σ), eccSignatureBinToDer signature c = .ok der c) ∧
    ∀ signature', signature'.length = signature.length → rOf signature' ≠ 0 →
      sOf signature' ≠ 0 → signature' ≠ signature →
      derSignature (rOf signature') (sOf signature') ≠
        derSignature (rOf signature) (sOf signature) := by
  refine ⟨⟨_, rfl, eccSignatureBinToDerInto_eq hsize hr hs (by omega),
    fun _ c => eccSignatureBinToDer_eq hsize hr hs c⟩, ?_⟩
  intro signature' hlength _ _ hne hsame
  exact hne (derSignature_inj hsize hlength hsame)

def ones (width : Nat) : Bytes :=
  List.replicate (width - 1) 0 ++ [1] ++ List.replicate (width - 1) 0 ++ [1]

theorem rOf_ones : rOf (ones 32) = 1 ∧ rOf (ones 48) = 1 := by decide +kernel

theorem sOf_ones : sOf (ones 32) = 1 ∧ sOf (ones 48) = 1 := by decide +kernel

theorem ecc_signature_ones : (ones 32).length = 64 ∧
    eccSignatureBinToDerInto (ones 32) (List.replicate 104 0) =
      .ok 8 ([0x30, 6, 2, 1, 1, 2, 1, 1] ++ List.replicate 96 0) := by
  refine ⟨by decide, ?_⟩
  obtain ⟨⟨der, hder, hrun, -⟩, -⟩ := @ecc_signature_bin_to_der (ones 32) (List.replicate 104 0)
    (.inl (by decide)) (by rw [rOf_ones.1]; decide) (by rw [sOf_ones.1]; decide) (by decide)
  have hbytes : der = [0x30, 6, 2, 1, 1, 2, 1, 1] := by
    rw [hder, rOf_ones.1, sOf_ones.1]
    decide +kernel
  rw [hrun, hbytes]
  rfl

theorem widths_not_told_apart : ∃ a b : Bytes, a.length = 64 ∧ b.length = 96 ∧ a ≠ b ∧
    rOf a ≠ 0 ∧ sOf a ≠ 0 ∧ rOf b ≠ 0 ∧ sOf b ≠ 0 ∧
    eccSignatureBinToDerInto a (List.replicate 104 0) =
      eccSignatureBinToDerInto b (List.replicate 104 0) := by
  have ha : (ones 32).length = 64 := by decide
  have hb : (ones 48).length = 96 := by decide
  have hra : rOf (ones 32) ≠ 0 := by rw [rOf_ones.1]; decide
  have hsa : sOf (ones 32) ≠ 0 := by rw [sOf_ones.1]; decide
  have hrb : rOf (ones 48) ≠ 0 := by rw [rOf_ones.2]; decide
  have hsb : sOf (ones 48) ≠ 0 := by rw [sOf_ones.2]; decide
  have hroom : 96 + 8 ≤ (List.replicate 104 (0 : UInt8)).length := by decide
  refine ⟨ones 32, ones 48, ha, hb, by decide, hra, hsa, hrb, hsb, ?_⟩
  rw [eccSignatureBinToDerInto_eq (.inl ha) hra hsa hroom,
    eccSignatureBinToDerInto_eq (.inr hb) hrb hsb hroom, rOf_ones.1, sOf_ones.1, rOf_ones.2,
    sOf_ones.2]

end SpdmRing

end Spdm
