/-
  Spdm.Lib.Slice — walks over a list by index, and what they compute.
-/
import Spdm.Lib.Prog

namespace Effect

inductive Fault (ε : Type) where
  | error (e : ε)
  | endless
  deriving Repr, DecidableEq

abbrev Walk (ε α : Type) := Prog Unit (Fault ε) α

variable {ε ι α β : Type}

def stop (e : ε) : Walk ε α := fail (.error e)

def indexAt (data : List ι) (i : Nat) : Walk ε ι := orAbort data[i]?

def sliceFrom (data : List ι) (i : Nat) : Walk ε (List ι) := do
  assert (decide (i ≤ data.length))
  ret (data.drop i)

def slice (data : List ι) (i j : Nat) : Walk ε (List ι) := do
  assert (decide (i ≤ j ∧ j ≤ data.length))
  ret ((data.take j).drop i)

def minus (a b : Nat) : Walk ε Nat := do
  assert (decide (b ≤ a))
  ret (a - b)

def settle : Except ε α → Walk ε α
  | .ok a => ret a
  | .error e => stop e

def Settles (w : Walk ε α) : Prop := w () ≠ .panic ∧ w () ≠ .err .endless ()

theorem settles_settle (r : Except ε α) : Settles (settle r) := by
  cases r with
  | ok a => exact ⟨nofun, nofun⟩
  | error e => exact ⟨nofun, nofun⟩

theorem settle_eq_ok {r : Except ε α} {a : α} : settle r () = .ok a () ↔ r = .ok a := by
  cases r with
  | ok b =>
    constructor
    · intro h
      cases h
      rfl
    · intro h
      cases h
      rfl
  | error e =>
    constructor
    · intro h
      cases h
    · intro h
      cases h

theorem settle_bind {m : Except ε α} {f : α → Walk ε β} {g : α → Except ε β}
    (h : ∀ a, m = .ok a → f a = settle (g a)) : (settle m >>= f) = settle (m >>= g) := by
  cases m with
  | ok a => exact h a rfl
  | error e => rfl

theorem settle_ite {p : Prop} [Decidable p] {w w' : Walk ε α} {r r' : Except ε α}
    (h : p → w = settle r) (h' : ¬ p → w' = settle r') :
    (if p then w else w') = settle (if p then r else r') := by
  by_cases hp : p
  · rw [if_pos hp, if_pos hp, h hp]
  · rw [if_neg hp, if_neg hp, h' hp]

theorem indexAt_bind {data : List ι} {i : Nat} {a : ι} (h : data[i]? = some a)
    (f : ι → Walk ε β) : (indexAt data i >>= f) = f a := by
  unfold indexAt
  rw [h]
  rfl

theorem sliceFrom_bind {data : List ι} {i : Nat} (h : i ≤ data.length)
    (f : List ι → Walk ε β) : (sliceFrom data i >>= f) = f (data.drop i) := by
  unfold sliceFrom assert
  rw [if_pos (decide_eq_true h)]
  rfl

theorem slice_bind {data : List ι} {i j : Nat} (h : i ≤ j) (h' : j ≤ data.length)
    (f : List ι → Walk ε β) : (slice data i j >>= f) = f ((data.take j).drop i) := by
  unfold slice assert
  rw [if_pos (decide_eq_true ⟨h, h'⟩)]
  rfl

theorem minus_bind {a b : Nat} (h : b ≤ a) (f : Nat → Walk ε β) :
    (minus a b >>= f) = f (a - b) := by
  unfold minus assert
  rw [if_pos (decide_eq_true h)]
  rfl

end Effect
