/-
  Spdm.Lib.Der — elements of the distinguished encoding rules.
-/
import Mathlib.Data.Nat.Digits.Lemmas
import Mathlib.Tactic.SplitIfs

namespace Der

/-! ## §1. Numbers. -/

def beNat (bs : List UInt8) : Nat := Nat.ofDigits 256 (bs.reverse.map UInt8.toNat)

def beBytes (n : Nat) : List UInt8 := ((Nat.digits 256 n).map UInt8.ofNat).reverse

def stripZeros (bs : List UInt8) : List UInt8 := bs.dropWhile (· == 0)

theorem toNat_ofNat_digits {n : Nat} :
    ((Nat.digits 256 n).map UInt8.ofNat).map UInt8.toNat = Nat.digits 256 n := by
  rw [List.map_map]
  refine (List.map_congr_left fun d hd => ?_).trans (List.map_id _)
  have hlt : d < 256 := Nat.digits_lt_base (by decide) hd
  exact UInt8.toNat_ofNat_of_lt hlt

theorem beNat_beBytes (n : Nat) : beNat (beBytes n) = n := by
  unfold beNat beBytes
  rw [List.reverse_reverse, toNat_ofNat_digits, Nat.ofDigits_digits]

theorem beNat_cons_zero {bs : List UInt8} : beNat (0 :: bs) = beNat bs := by
  unfold beNat
  simp

theorem beNat_stripZeros {bs : List UInt8} : beNat (stripZeros bs) = beNat bs := by
  induction bs with
  | nil => rfl
  | cons b bs ih =>
    unfold stripZeros
    by_cases hb : b = 0
    · subst hb
      rw [beNat_cons_zero]
      exact ih
    · rw [List.dropWhile_cons_of_neg (by simpa using hb)]

theorem beBytes_beNat_of_head {bs : List UInt8} (h : bs.head? ≠ some 0) :
    beBytes (beNat bs) = bs := by
  unfold beBytes beNat
  rw [Nat.digits_ofDigits 256 (by decide)]
  · rw [List.map_map]
    have hid : bs.reverse.map (UInt8.ofNat ∘ UInt8.toNat) = bs.reverse :=
      (List.map_congr_left fun b _ => UInt8.ofNat_toNat).trans (List.map_id _)
    rw [hid, List.reverse_reverse]
  · intro d hd
    obtain ⟨b, -, rfl⟩ := List.mem_map.1 hd
    exact b.toNat_lt
  · intro hne hzero
    -- the last digit is the first byte
    have hbs : bs ≠ [] := by
      intro hnil
      subst hnil
      exact hne rfl
    rw [List.getLast_map, List.getLast_reverse] at hzero
    have hhead : bs.head hbs = 0 := UInt8.toNat_inj.1 hzero
    exact h (by rw [List.head?_eq_some_head hbs, hhead])

theorem beBytes_beNat {bs : List UInt8} : beBytes (beNat bs) = stripZeros bs := by
  rw [← beNat_stripZeros]
  refine beBytes_beNat_of_head fun hhead => ?_
  unfold stripZeros at hhead
  have hnot := List.head?_dropWhile_not (· == (0)) bs
  rw [hhead] at hnot
  simp at hnot

theorem stripZeros_eq_nil {bs : List UInt8} : stripZeros bs = [] ↔ beNat bs = 0 := by
  constructor
  · intro h
    rw [← beNat_stripZeros, h]
    rfl
  · intro h
    rw [← beBytes_beNat, h]
    rfl

theorem lt_of_mem_digits {bs : List UInt8} {d : Nat} (h : d ∈ bs.reverse.map UInt8.toNat) :
    d < 256 := by
  obtain ⟨b, -, rfl⟩ := List.mem_map.1 h
  exact b.toNat_lt

theorem beNat_inj {bs cs : List UInt8} (hlength : bs.length = cs.length)
    (h : beNat bs = beNat cs) : bs = cs := by
  have hdigits : bs.reverse.map UInt8.toNat = cs.reverse.map UInt8.toNat :=
    Nat.ofDigits_inj_of_len_eq (by decide) (by simp [hlength]) (fun _ => lt_of_mem_digits)
      (fun _ => lt_of_mem_digits) h
  exact List.reverse_inj.1 (List.map_injective_iff.2 (fun _ _ => UInt8.toNat_inj.1) hdigits)

/-! ## §2. Elements. -/

def lengthBytes (n : Nat) : List UInt8 :=
  if n < 0x80 then [UInt8.ofNat n] else UInt8.ofNat (0x80 + (beBytes n).length) :: beBytes n

def element (tag : UInt8) (payload : List UInt8) : List UInt8 :=
  tag :: (lengthBytes payload.length ++ payload)

def Encodable (n : Nat) : Prop := (beBytes n).length < 0x80

theorem length_beBytes_le {n k : Nat} : (beBytes n).length ≤ k ↔ n < 256 ^ k := by
  unfold beBytes
  rw [List.length_reverse, List.length_map]
  exact Nat.digits_length_le_iff (by decide) n

theorem encodable_of_lt {n k : Nat} (h : n < 256 ^ k) (hk : k < 0x80) : Encodable n := by
  have hle := length_beBytes_le.2 h
  unfold Encodable
  omega

theorem Encodable.mono {m n : Nat} (h : Encodable n) (hle : m ≤ n) : Encodable m := by
  exact encodable_of_lt (hle.trans_lt (length_beBytes_le.1 le_rfl)) h

theorem lengthBytes_append_inj {m n : Nat} {rest rest' : List UInt8} (hm : Encodable m)
    (hn : Encodable n) (h : lengthBytes m ++ rest = lengthBytes n ++ rest') :
    m = n ∧ rest = rest' := by
  have hfirst : ∀ {k : Nat}, Encodable k → ¬ k < 0x80 →
      (UInt8.ofNat (0x80 + (beBytes k).length)).toNat = 0x80 + (beBytes k).length := by
    intro k hk _
    unfold Encodable at hk
    exact UInt8.toNat_ofNat_of_lt (by show _ < 256; omega)
  have hshort : ∀ {k : Nat}, k < 0x80 → (UInt8.ofNat k).toNat = k := fun hk =>
    UInt8.toNat_ofNat_of_lt (by show _ < 256; omega)
  unfold lengthBytes at h
  by_cases hm' : m < 0x80
  · rw [if_pos hm'] at h
    by_cases hn' : n < 0x80
    · rw [if_pos hn', List.singleton_append, List.singleton_append, List.cons.injEq] at h
      refine ⟨?_, h.2⟩
      rw [← hshort hm', ← hshort hn', h.1]
    · rw [if_neg hn', List.singleton_append, List.cons_append, List.cons.injEq] at h
      have hsame := congrArg UInt8.toNat h.1
      rw [hshort hm', hfirst hn hn'] at hsame
      omega
  · rw [if_neg hm'] at h
    by_cases hn' : n < 0x80
    · rw [if_pos hn', List.singleton_append, List.cons_append, List.cons.injEq] at h
      have hsame := congrArg UInt8.toNat h.1
      rw [hshort hn', hfirst hm hm'] at hsame
      omega
    · rw [if_neg hn', List.cons_append, List.cons_append, List.cons.injEq] at h
      have hcount := congrArg UInt8.toNat h.1
      rw [hfirst hm hm', hfirst hn hn'] at hcount
      obtain ⟨hbytes, hrest⟩ := List.append_inj h.2 (by omega)
      refine ⟨?_, hrest⟩
      rw [← beNat_beBytes m, hbytes, beNat_beBytes]

theorem element_append_inj {tag tag' : UInt8} {payload payload' rest rest' : List UInt8}
    (hp : Encodable payload.length) (hp' : Encodable payload'.length)
    (h : element tag payload ++ rest = element tag' payload' ++ rest') :
    tag = tag' ∧ payload = payload' ∧ rest = rest' := by
  unfold element at h
  rw [List.cons_append, List.cons_append, List.cons.injEq, List.append_assoc,
    List.append_assoc] at h
  obtain ⟨hlength, hpayload⟩ := lengthBytes_append_inj hp hp' h.2
  obtain ⟨hsame, hrest⟩ := List.append_inj hpayload hlength
  exact ⟨h.1, hsame, hrest⟩

theorem element_inj {tag tag' : UInt8} {payload payload' : List UInt8}
    (hp : Encodable payload.length) (hp' : Encodable payload'.length)
    (h : element tag payload = element tag' payload') : tag = tag' ∧ payload = payload' := by
  obtain ⟨htag, hpayload, -⟩ := @element_append_inj tag tag' payload payload' [] [] hp
    hp' (by rw [h])
  exact ⟨htag, hpayload⟩

/-! ## §3. INTEGER. -/

def unsigned (n : Nat) : List UInt8 :=
  if n = 0 then [0]
  else if (beBytes n).head?.any fun b => decide (0x80 ≤ b) then 0 :: beBytes n else beBytes n

def integer (n : Nat) : List UInt8 := element 0x02 (unsigned n)

theorem beNat_unsigned (n : Nat) : beNat (unsigned n) = n := by
  unfold unsigned
  split_ifs with hzero hsign
  · rw [hzero]
    rfl
  · rw [beNat_cons_zero, beNat_beBytes]
  · exact beNat_beBytes n

theorem integer_append_inj {m n : Nat} {rest rest' : List UInt8}
    (hm : Encodable (unsigned m).length) (hn : Encodable (unsigned n).length)
    (h : integer m ++ rest = integer n ++ rest') : m = n ∧ rest = rest' := by
  obtain ⟨-, hpayload, hrest⟩ := element_append_inj hm hn h
  refine ⟨?_, hrest⟩
  rw [← beNat_unsigned m, hpayload, beNat_unsigned]

theorem integer_inj {m n : Nat} (hm : Encodable (unsigned m).length)
    (hn : Encodable (unsigned n).length) (h : integer m = integer n) : m = n := by
  obtain ⟨-, hpayload⟩ := element_inj hm hn h
  rw [← beNat_unsigned m, hpayload, beNat_unsigned]

end Der
