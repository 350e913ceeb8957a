/-
  Spdm.Lib.Codec — little-endian numbers and byte parsers.
-/
import Mathlib.Tactic.Ring
import Mathlib.Tactic.Linarith
import Spdm.Lib.Prog

namespace Codec

open Effect

/-! ## §1. Little-endian numbers. -/

def leBytes : Nat → Nat → List UInt8
  | 0, _ => []
  | n + 1, v => UInt8.ofNat v :: leBytes n (v / 256)

def leNat : List UInt8 → Nat
  | [] => 0
  | b :: bs => b.toNat + 256 * leNat bs

@[simp] theorem leBytes_length (n v : Nat) : (leBytes n v).length = n := by
  induction n generalizing v with
  | zero => rfl
  | succ n ih => simp [leBytes, ih]

theorem leNat_leBytes (n v : Nat) : leNat (leBytes n v) = v % 256 ^ n := by
  induction n generalizing v with
  | zero => simp [leBytes, leNat, Nat.mod_one]
  | succ n ih =>
    have hbyte : (UInt8.ofNat v).toNat = v % 256 := by simp
    rw [leBytes, leNat, ih, hbyte, pow_succ, mul_comm (256 ^ n) 256, Nat.mod_mul]

@[simp] theorem leNat_leBytes_of_lt {n v : Nat} (h : v < 256 ^ n) :
    leNat (leBytes n v) = v := by
  rw [leNat_leBytes, Nat.mod_eq_of_lt h]

theorem leBytes_injective {n v w : Nat} (hv : v < 256 ^ n) (hw : w < 256 ^ n)
    (h : leBytes n v = leBytes n w) : v = w := by
  rw [← leNat_leBytes_of_lt hv, h, leNat_leBytes_of_lt hw]

@[simp] theorem leBytes_leNat {bs : List UInt8} : leBytes bs.length (leNat bs) = bs := by
  induction bs with
  | nil => rfl
  | cons b bs ih =>
    have hlow : UInt8.ofNat (b.toNat + 256 * leNat bs) = b := by
      simp
    have hhigh : (b.toNat + 256 * leNat bs) / 256 = leNat bs := by
      have := b.toNat_lt
      omega
    rw [List.length_cons, leNat, leBytes, hlow, hhigh, ih]

theorem leNat_lt (bs : List UInt8) : leNat bs < 256 ^ bs.length := by
  induction bs with
  | nil => simp [leNat]
  | cons b bs ih =>
    have := b.toNat_lt
    rw [leNat, List.length_cons]
    omega

/-! ## §2. Parsers. -/

abbrev Parser (α : Type) := Prog (List UInt8) Unit α

def takeBytes (n : Nat) : Parser (List UInt8) := fun bs =>
  if n ≤ bs.length then .ok (bs.take n) (bs.drop n) else .err () bs

def u8 : Parser UInt8 := fun bs =>
  match bs with
  | [] => .err () []
  | b :: rest => .ok b rest

def uintLe (n : Nat) : Parser Nat := do
  let bs ← takeBytes n
  ret (leNat bs)

def reject {α : Type} : Parser α := fail ()

def require (c : Bool) : Parser Unit := guardElse c ()

def repeatParser {α : Type} (n : Nat) (p : Parser α) : Parser (List α) :=
  match n with
  | 0 => ret []
  | n + 1 => do
    let a ← p
    let as ← repeatParser n p
    ret (a :: as)

theorem takeBytes_append {n : Nat} {bs rest : List UInt8} (h : bs.length = n) :
    takeBytes n (bs ++ rest) = .ok bs rest := by
  subst h
  simp [takeBytes]

theorem takeBytes_eq_ok {n : Nat} {bs taken rest : List UInt8}
    (h : takeBytes n bs = .ok taken rest) : taken.length = n ∧ bs = taken ++ rest := by
  unfold takeBytes at h
  split at h
  · rename_i hn
    cases h
    exact ⟨by simp [hn], (List.take_append_drop n bs).symm⟩
  · cases h

@[simp] theorem u8_cons (b : UInt8) (rest : List UInt8) : u8 (b :: rest) = .ok b rest := rfl

theorem u8_eq_ok {b : UInt8} {bs rest : List UInt8} (h : u8 bs = .ok b rest) : bs = b :: rest := by
  cases bs with
  | nil => cases h
  | cons b' bs =>
    cases h
    rfl

theorem uintLe_append {n v : Nat} (rest : List UInt8) (h : v < 256 ^ n) :
    uintLe n (leBytes n v ++ rest) = .ok v rest := by
  unfold uintLe
  rw [bind_of_ok (takeBytes_append (leBytes_length n v)), leNat_leBytes_of_lt h]
  rfl

theorem uintLe_eq_ok {n v : Nat} {bs rest : List UInt8} (h : uintLe n bs = .ok v rest) :
    bs = leBytes n v ++ rest := by
  obtain ⟨taken, mid, htake, hret⟩ := bind_eq_ok.1 h
  obtain ⟨rfl, rfl⟩ := ret_eq_ok.1 hret
  obtain ⟨rfl, rfl⟩ := takeBytes_eq_ok htake
  rw [leBytes_leNat]

theorem uintLe_lt {n v : Nat} {bs rest : List UInt8} (h : uintLe n bs = .ok v rest) :
    v < 256 ^ n := by
  obtain ⟨taken, mid, htake, hret⟩ := bind_eq_ok.1 h
  obtain ⟨rfl, rfl⟩ := ret_eq_ok.1 hret
  obtain ⟨rfl, -⟩ := takeBytes_eq_ok htake
  exact leNat_lt taken

theorem ends_uintLe {n : Nat} : Ends (fun v => v < 256 ^ n) (fun _ => True) (uintLe n) := by
  intro bs
  unfold wp
  cases h : uintLe n bs with
  | ok v rest => exact uintLe_lt h
  | err _ _ => trivial
  | panic => trivial

theorem repeatParser_flatMap {α β : Type} {p : Parser β} {encode : α → List UInt8} {value : α → β}
    (as : List α) (rest : List UInt8)
    (h : ∀ a ∈ as, ∀ tail, p (encode a ++ tail) = .ok (value a) tail) :
    repeatParser as.length p (as.flatMap encode ++ rest) = .ok (as.map value) rest := by
  induction as with
  | nil => rfl
  | cons a as ih =>
    obtain ⟨ha, has⟩ := List.forall_mem_cons.1 h
    rw [List.length_cons, repeatParser, List.flatMap_cons, List.append_assoc, bind_of_ok (ha _),
      bind_of_ok (ih has)]
    rfl

/-! ## §3. Parsers that look no further than they read. -/

def Framed {α : Type} (p : Parser α) : Prop :=
  ∀ bs a rest, p bs = .ok a rest →
    ∃ used, bs = used ++ rest ∧ ∀ tail, p (used ++ tail) = .ok a tail

namespace Framed
variable {α β : Type}

theorem bind {p : Parser α} {f : α → Parser β} (hp : Framed p) (hf : ∀ a, Framed (f a)) :
    Framed (p >>= f) := by
  intro bs b rest h
  obtain ⟨a, mid, ha, hb⟩ := bind_eq_ok.1 h
  obtain ⟨used, rfl, hused⟩ := hp _ _ _ ha
  obtain ⟨used', rfl, hused'⟩ := hf a _ _ _ hb
  refine ⟨used ++ used', (List.append_assoc _ _ _).symm, fun tail => ?_⟩
  rw [List.append_assoc, bind_of_ok (hused _), hused']

theorem of_keep {p : Parser α} (h : ∀ {bs a rest}, p bs = .ok a rest →
    rest = bs ∧ ∀ tail, p tail = .ok a tail) : Framed p := by
  intro bs a rest hp
  obtain ⟨rfl, hall⟩ := h hp
  exact ⟨[], rfl, hall⟩

theorem ret (a : α) : Framed (Effect.ret a : Parser α) :=
  of_keep fun h => by
    obtain ⟨rfl, rfl⟩ := ret_eq_ok.1 h
    exact ⟨rfl, fun _ => rfl⟩

theorem orFail (e : Unit) (o : Option α) : Framed (Effect.orFail e o : Parser α) :=
  of_keep fun h => by
    obtain ⟨rfl, rfl⟩ := orFail_eq_ok.1 h
    exact ⟨rfl, fun _ => rfl⟩

theorem orAbort (o : Option α) : Framed (Effect.orAbort o : Parser α) :=
  of_keep fun h => by
    obtain ⟨rfl, rfl⟩ := orAbort_eq_ok.1 h
    exact ⟨rfl, fun _ => rfl⟩

theorem require (c : Bool) : Framed (Codec.require c) :=
  of_keep fun h => by
    obtain ⟨rfl, rfl⟩ := guardElse_eq_ok.1 h
    exact ⟨rfl, fun _ => rfl⟩

theorem fail (e : Unit) : Framed (Effect.fail e : Parser α) := by
  intro bs a rest h
  simp at h

theorem abort : Framed (Effect.abort : Parser α) := by
  intro bs a rest h
  simp at h

theorem takeBytes (n : Nat) : Framed (Codec.takeBytes n) := by
  intro bs a rest h
  unfold Codec.takeBytes at h
  split at h
  · rename_i hn
    obtain ⟨rfl, rfl⟩ := h
    exact ⟨bs.take n, (List.take_append_drop n bs).symm,
      fun tail => takeBytes_append (by simp [hn])⟩
  · cases h

theorem u8 : Framed Codec.u8 := by
  intro bs a rest h
  cases bs with
  | nil => cases h
  | cons b bs =>
    rw [u8_cons, Outcome.ok.injEq] at h
    obtain ⟨rfl, rfl⟩ := h
    exact ⟨[b], rfl, fun _ => rfl⟩

theorem uintLe (n : Nat) : Framed (Codec.uintLe n) := .bind (.takeBytes n) fun _ => .ret _

end Framed

end Codec
