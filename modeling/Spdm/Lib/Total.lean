/-
  Spdm.Lib.Total — runs that do not abort.
-/
import Spdm.Lib.Codec

namespace Effect

variable {σ τ ε δ α β : Type}

def Outcome.isPanic : Outcome σ ε α → Bool
  | .panic => true
  | _ => false

theorem Outcome.isPanic_iff {o : Outcome σ ε α} : o.isPanic = true ↔ o = .panic := by
  cases o <;> simp [Outcome.isPanic]

def twp (m : Prog σ ε α) (Q : α → σ → Prop) (E : ε → σ → Prop) (s : σ) : Prop :=
  match m s with
  | .ok a s' => Q a s'
  | .err e s' => E e s'
  | .panic => False

variable {Q : α → σ → Prop} {E : ε → σ → Prop} {s : σ}

@[simp] theorem twp_ret {a : α} : twp (ret a) Q E s ↔ Q a s := Iff.rfl

@[simp] theorem twp_fail (e : ε) : twp (fail e : Prog σ ε α) Q E s ↔ E e s := Iff.rfl

@[simp] theorem twp_read {Q : σ → σ → Prop} : twp (read : Prog σ ε σ) Q E s ↔ Q s s := Iff.rfl

@[simp] theorem twp_update {Q : Unit → σ → Prop} {f : σ → σ} :
    twp (update f : Prog σ ε Unit) Q E s ↔ Q () (f s) := Iff.rfl

@[simp] theorem twp_bind (m : Prog σ ε β) (f : β → Prog σ ε α) :
    twp (m >>= f) Q E s ↔ twp m (fun b => twp (f b) Q E) E s := by
  unfold twp
  rw [bind_apply]
  cases m s <;> rfl

theorem twp_seq {m : Prog σ ε β} {f : β → Prog σ ε α} (h : twp m (fun b => twp (f b) Q E) E s) :
    twp (m >>= f) Q E s :=
  (twp_bind m f).2 h

@[simp] theorem twp_attempt {Q : Except ε α → σ → Prop} {D : δ → σ → Prop} {m : Prog σ ε α} :
    twp (attempt m) Q D s ↔ twp m (fun a => Q (.ok a)) (fun e => Q (.error e)) s := by
  unfold twp attempt
  cases m s <;> rfl

@[simp] theorem twp_orAbort {o : Option α} :
    twp (orAbort o : Prog σ ε α) Q E s ↔ ∃ a, o = some a ∧ Q a s := by
  cases o <;> simp [orAbort, twp]

@[simp] theorem twp_mapErr {E : δ → σ → Prop} {g : ε → δ} {m : Prog σ ε α} :
    twp (mapErr g m) Q E s ↔ twp m Q (fun e => E (g e)) s := by
  unfold twp mapErr
  cases m s <;> rfl

theorem twp_orFail {e : ε} {o : Option α} (h : ∀ a, o = some a → Q a s) (hE : E e s) :
    twp (orFail e o) Q E s := by
  cases o with
  | some a => exact h a rfl
  | none => exact hE

theorem twp_guardElse {Q : Unit → σ → Prop} {e : ε} {b : Bool} (h : b = true → Q () s)
    (hE : E e s) : twp (guardElse b e) Q E s := by
  cases b with
  | true => exact h rfl
  | false => exact hE

@[simp] theorem twp_assert {Q : Unit → σ → Prop} {c : Bool} :
    twp (assert c : Prog σ ε Unit) Q E s ↔ c = true ∧ Q () s := by
  cases c <;> simp [assert, twp]

theorem twp_ite {p : Prop} [Decidable p] {m n : Prog σ ε α} (hm : p → twp m Q E s)
    (hn : ¬p → twp n Q E s) : twp (if p then m else n) Q E s := by
  split
  case isTrue h => exact hm h
  case isFalse h => exact hn h

theorem twp_mono {Q' : α → σ → Prop} {E' : ε → σ → Prop} {m : Prog σ ε α}
    (h : twp m Q E s) (hQ : ∀ a t, Q a t → Q' a t) (hE : ∀ e t, E e t → E' e t) :
    twp m Q' E' s := by
  unfold twp at *
  cases hm : m s with
  | ok a t => rw [hm] at h; exact hQ a t h
  | err e t => rw [hm] at h; exact hE e t h
  | panic => rw [hm] at h; exact h

theorem twp_congr {m m' : Prog σ ε α} (h : twp m Q E s) (heq : m' s = m s) : twp m' Q E s := by
  unfold twp at *
  rwa [heq]

theorem twp.with_run {m : Prog σ ε α} (h : twp m Q E s) :
    twp m (fun a t => m s = .ok a t ∧ Q a t) (fun e t => m s = .err e t ∧ E e t) s := by
  unfold twp at *
  cases hm : m s with
  | ok a t => rw [hm] at h; exact ⟨rfl, h⟩
  | err e t => rw [hm] at h; exact ⟨rfl, h⟩
  | panic => rw [hm] at h; exact h

theorem twp.ne_panic {m : Prog σ ε α} (h : twp m Q E s) : m s ≠ .panic := by
  unfold twp at h
  intro hm
  rwa [hm] at h

theorem twp.wp {m : Prog σ ε α} (h : twp m Q E s) : wp m Q E s := by
  unfold twp at h
  unfold Effect.wp
  cases hrun : m s with
  | ok a t => rwa [hrun] at h
  | err e t => rwa [hrun] at h
  | panic => trivial

theorem twp.of_ok {m : Prog σ ε α} {a : α} {t : σ} (h : twp m Q E s) (hm : m s = .ok a t) :
    Q a t := wp_ok h.wp hm

theorem twp_of_wp {m : Prog σ ε α} (h : wp m Q E s) (hm : m s ≠ .panic) : twp m Q E s := by
  unfold wp at h
  unfold twp
  cases hrun : m s with
  | ok a t => rwa [hrun] at h
  | err e t => rwa [hrun] at h
  | panic => exact hm hrun

def Total (m : Prog σ ε α) : Prop := ∀ s, m s ≠ .panic

namespace Total

theorem ret (a : α) : Total (Effect.ret a : Prog σ ε α) := fun _ h => by cases h

theorem bind {m : Prog σ ε α} {f : α → Prog σ ε β} (hm : Total m) (hf : ∀ a, Total (f a)) :
    Total (m >>= f) := by
  intro s h
  rw [bind_apply] at h
  cases hrun : m s with
  | ok a t => rw [hrun] at h; exact hf a t h
  | err e t => rw [hrun] at h; cases h
  | panic => exact hm s hrun

theorem read : Total (Effect.read : Prog σ ε σ) := fun _ h => by cases h

theorem update (f : σ → σ) : Total (Effect.update f : Prog σ ε Unit) := fun _ h => by cases h

theorem orFail (e : ε) (o : Option α) : Total (Effect.orFail e o : Prog σ ε α) := by
  cases o <;> exact fun _ h => by cases h

theorem guardElse (c : Bool) (e : ε) : Total (Effect.guardElse c e : Prog σ ε Unit) := by
  cases c <;> exact fun _ h => by cases h

end Total

end Effect

namespace Codec

open Effect

theorem total_u8 : Total u8 := by
  intro bs h
  cases bs <;> cases h

theorem total_takeBytes (n : Nat) : Total (takeBytes n) := by
  intro bs h
  unfold takeBytes at h
  split at h <;> cases h

theorem total_uintLe (n : Nat) : Total (uintLe n) :=
  .bind (total_takeBytes n) fun _ => .ret _

end Codec
