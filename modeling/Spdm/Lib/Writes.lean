/-
  Spdm.Lib.Writes — writes to separate places.
-/
import Mathlib.Logic.Function.Basic

namespace Effect

variable {σ : Type}

def applyAll : List (σ → σ) → σ → σ
  | [], s => s
  | f :: fs, s => applyAll fs (f s)

structure Separate (fs : List (σ → σ)) : Prop where
  idem : ∀ f ∈ fs, ∀ s, f (f s) = f s
  comm : ∀ f ∈ fs, ∀ g ∈ fs, ∀ s, f (g s) = g (f s)

theorem Separate.tail {f : σ → σ} {fs : List (σ → σ)} (h : Separate (f :: fs)) : Separate fs :=
  ⟨fun g hg => h.idem g (.tail _ hg), fun g hg k hk => h.comm g (.tail _ hg) k (.tail _ hk)⟩

theorem applyAll_comm {f : σ → σ} {fs : List (σ → σ)} (h : ∀ g ∈ fs, ∀ s, f (g s) = g (f s))
    (s : σ) : f (applyAll fs s) = applyAll fs (f s) := by
  induction fs generalizing s with
  | nil => rfl
  | cons g fs ih =>
    show f (applyAll fs (g s)) = applyAll fs (g (f s))
    rw [ih (fun k hk => h k (.tail _ hk)), h g (.head _)]

theorem Separate.absorbs {fs : List (σ → σ)} (h : Separate fs) {f : σ → σ} (hf : f ∈ fs) (s : σ) :
    f (applyAll fs s) = applyAll fs s := by
  induction fs generalizing s with
  | nil => cases hf
  | cons g fs ih =>
    show f (applyAll fs (g s)) = applyAll fs (g s)
    rcases List.mem_cons.1 hf with rfl | hf'
    · rw [applyAll_comm fun k hk => h.comm f (.head _) k (.tail _ hk), h.idem f (.head _)]
    · exact ih h.tail hf' (g s)

theorem Separate.fixed_iff {fs : List (σ → σ)} (h : Separate fs) (s : σ) :
    applyAll fs s = s ↔ ∀ f ∈ fs, f s = s := by
  constructor
  · intro hall f hf
    have habsorbs := h.absorbs hf s
    rwa [hall] at habsorbs
  · intro heach
    induction fs with
    | nil => rfl
    | cons f fs ih =>
      show applyAll fs (f s) = s
      rw [heach f (.head _)]
      exact ih h.tail fun g hg => heach g (.tail _ hg)

end Effect
