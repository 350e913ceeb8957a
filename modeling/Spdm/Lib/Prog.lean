/-
  Spdm.Lib.Prog — stateful programs that may fail or abort.
-/
import Mathlib.Logic.Relation
import Mathlib.Tactic.Cases

namespace Effect

/-! ## §1. Outcomes and programs. -/

inductive Outcome (σ ε α : Type) where
  | ok (a : α) (s : σ)
  | err (e : ε) (s : σ)
  | panic
  deriving Repr, DecidableEq

def Outcome.returned {σ ε α : Type} : Outcome σ ε α → Option α
  | .ok a _ => some a
  | _ => none

theorem Outcome.returned_eq_some {σ ε α : Type} {o : Outcome σ ε α} {a : α} :
    o.returned = some a ↔ ∃ s, o = .ok a s := by
  cases o <;> simp [Outcome.returned]

theorem Outcome.exists_of_returned {σ ε α : Type} {o : Outcome σ ε α}
    (h : o.returned.isSome = true) : ∃ a s, o = .ok a s := by
  obtain ⟨a, ha⟩ := Option.isSome_iff_exists.1 h
  exact ⟨a, Outcome.returned_eq_some.1 ha⟩

def Outcome.okWith {σ ε α : Type} (f : α → σ → Bool) : Outcome σ ε α → Bool
  | .ok a s => f a s
  | _ => false

theorem Outcome.exists_of_okWith {σ ε α : Type} {f : α → σ → Bool} {o : Outcome σ ε α}
    (h : o.okWith f = true) : ∃ a s, o = .ok a s ∧ f a s = true := by
  cases o with
  | ok a s => exact ⟨a, s, rfl, h⟩
  | err e s => cases h
  | panic => cases h

def Outcome.errWith {σ ε α : Type} (f : ε → σ → Bool) : Outcome σ ε α → Bool
  | .err e s => f e s
  | _ => false

theorem Outcome.exists_of_errWith {σ ε α : Type} {f : ε → σ → Bool} {o : Outcome σ ε α}
    (h : o.errWith f = true) : ∃ e s, o = .err e s ∧ f e s = true := by
  cases o with
  | err e s => exact ⟨e, s, rfl, h⟩
  | ok a s => cases h
  | panic => cases h

def Prog (σ ε α : Type) : Type := σ → Outcome σ ε α

variable {σ τ ε δ α β : Type}

def ret (a : α) : Prog σ ε α := fun s => .ok a s

def andThen (m : Prog σ ε α) (f : α → Prog σ ε β) : Prog σ ε β := fun s =>
  match m s with
  | .ok a s' => f a s'
  | .err e s' => .err e s'
  | .panic => .panic

instance : Monad (Prog σ ε) where
  pure := ret
  bind := andThen

def fail (e : ε) : Prog σ ε α := fun s => .err e s

def abort : Prog σ ε α := fun _ => .panic

def read : Prog σ ε σ := fun s => .ok s s

def update (f : σ → σ) : Prog σ ε Unit := fun s => .ok () (f s)

def attempt (m : Prog σ ε α) : Prog σ δ (Except ε α) := fun s =>
  match m s with
  | .ok a s' => .ok (.ok a) s'
  | .err e s' => .ok (.error e) s'
  | .panic => .panic

def mapErr (g : ε → δ) (m : Prog σ ε α) : Prog σ δ α := fun s =>
  match m s with
  | .ok a s' => .ok a s'
  | .err e s' => .err (g e) s'
  | .panic => .panic

def orFail (e : ε) : Option α → Prog σ ε α
  | some a => ret a
  | none => fail e

def orAbort : Option α → Prog σ ε α
  | some a => ret a
  | none => abort

def guardElse (c : Bool) (e : ε) : Prog σ ε Unit := if c then ret () else fail e

def assert (c : Bool) : Prog σ ε Unit := if c then ret () else abort

def forEach {ι : Type} (f : ι → Prog σ ε Unit) : List ι → Prog σ ε Unit
  | [] => ret ()
  | i :: is => do
    f i
    forEach f is

/-! ## §2. Evaluation. -/

@[simp] theorem pure_apply (a : α) (s : σ) : (pure a : Prog σ ε α) s = .ok a s := rfl

@[simp] theorem ret_apply (a : α) (s : σ) : (ret a : Prog σ ε α) s = .ok a s := rfl

theorem bind_apply (m : Prog σ ε α) (f : α → Prog σ ε β) (s : σ) :
    (m >>= f) s = match m s with
      | .ok a s' => f a s'
      | .err e s' => .err e s'
      | .panic => .panic := rfl

@[simp] theorem fail_apply (e : ε) (s : σ) : (fail e : Prog σ ε α) s = .err e s := rfl

@[simp] theorem abort_apply (s : σ) : (abort : Prog σ ε α) s = .panic := rfl

@[simp] theorem read_apply (s : σ) : (read : Prog σ ε σ) s = .ok s s := rfl

@[simp] theorem update_apply {f : σ → σ} {s : σ} :
    (update f : Prog σ ε Unit) s = .ok () (f s) := rfl

theorem bind_of_ok {m : Prog σ ε α} {f : α → Prog σ ε β} {s s' : σ} {a : α}
    (h : m s = .ok a s') : (m >>= f) s = f a s' := by
  rw [bind_apply, h]

theorem bind_of_err {m : Prog σ ε α} {f : α → Prog σ ε β} {s s' : σ} {e : ε}
    (h : m s = .err e s') : (m >>= f) s = .err e s' := by
  rw [bind_apply, h]

theorem bind_of_panic {m : Prog σ ε α} {f : α → Prog σ ε β} {s : σ} (h : m s = .panic) :
    (m >>= f) s = .panic := by
  rw [bind_apply, h]

theorem bind_eq_ok {m : Prog σ ε α} {f : α → Prog σ ε β} {s s'' : σ} {b : β} :
    (m >>= f) s = .ok b s'' ↔ ∃ a s', m s = .ok a s' ∧ f a s' = .ok b s'' := by
  rw [bind_apply]
  cases h : m s with
  | ok a s' =>
    exact ⟨fun hf => ⟨a, s', rfl, hf⟩, by rintro ⟨_, _, heq, hf⟩; cases heq; exact hf⟩
  | err e s' => simp
  | panic => simp

theorem bind_eq_err {m : Prog σ ε α} {f : α → Prog σ ε β} {s s'' : σ} {e : ε} :
    (m >>= f) s = .err e s'' ↔
      m s = .err e s'' ∨ ∃ a s', m s = .ok a s' ∧ f a s' = .err e s'' := by
  rw [bind_apply]
  cases h : m s with
  | ok a s' =>
    refine ⟨fun hf => .inr ⟨a, s', rfl, hf⟩, ?_⟩
    rintro (heq | ⟨_, _, heq, hf⟩)
    · cases heq
    · cases heq; exact hf
  | err e' s' => simp
  | panic => simp

theorem bind_assoc {γ : Type} {m : Prog σ ε α} {f : α → Prog σ ε β} {g : β → Prog σ ε γ} :
    m >>= f >>= g = m >>= fun a => f a >>= g := by
  funext s
  simp only [bind_apply]
  cases m s <;> rfl

theorem read_bind (f : σ → Prog σ ε α) (s : σ) : (read >>= f) s = f s s := rfl

theorem update_bind {g : σ → σ} {f : Unit → Prog σ ε α} {s : σ} :
    (update g >>= f) s = f () (g s) := rfl

theorem ret_bind {a : α} {f : α → Prog σ ε β} {s : σ} : (ret a >>= f) s = f a s := rfl

/-! What a primitive that returned did. -/

theorem ret_eq_ok {a b : α} {s t : σ} : (ret a : Prog σ ε α) s = .ok b t ↔ a = b ∧ s = t := by
  simp

theorem read_eq_ok {a s t : σ} : (read : Prog σ ε σ) s = .ok a t ↔ s = a ∧ s = t := by
  simp

theorem update_eq_ok {f : σ → σ} {u : Unit} {s t : σ} :
    (update f : Prog σ ε Unit) s = .ok u t ↔ t = f s := by
  simp [eq_comm]

theorem orFail_eq_ok {e : ε} {o : Option α} {a : α} {s t : σ} :
    orFail e o s = .ok a t ↔ o = some a ∧ s = t := by
  cases o <;> simp [orFail]

theorem orAbort_eq_ok {o : Option α} {a : α} {s t : σ} :
    (orAbort o : Prog σ ε α) s = .ok a t ↔ o = some a ∧ s = t := by
  cases o <;> simp [orAbort]

theorem guardElse_of {c : Bool} {e : ε} {s : σ} (h : c = true) :
    (guardElse c e : Prog σ ε Unit) s = .ok () s := by
  rw [guardElse, if_pos h]
  rfl

theorem guardElse_eq_ok {c : Bool} {e : ε} {u : Unit} {s t : σ} :
    guardElse c e s = .ok u t ↔ c = true ∧ s = t := by
  cases c <;> simp [guardElse]

theorem assert_of {c : Bool} {s : σ} (h : c = true) :
    (assert c : Prog σ ε Unit) s = .ok () s := by
  rw [assert, if_pos h]
  rfl

theorem assert_eq_ok {c : Bool} {u : Unit} {s t : σ} :
    (assert c : Prog σ ε Unit) s = .ok u t ↔ c = true ∧ s = t := by
  cases c <;> simp [assert]

theorem mapErr_eq_ok {g : ε → δ} {m : Prog σ ε α} {a : α} {s t : σ} :
    mapErr g m s = .ok a t ↔ m s = .ok a t := by
  unfold mapErr
  cases m s <;> simp

theorem attempt_eq_ok {m : Prog σ ε α} {r : Except ε α} {s t : σ} :
    (attempt m : Prog σ δ (Except ε α)) s = .ok r t ↔
      (∃ a, m s = .ok a t ∧ r = .ok a) ∨ ∃ e, m s = .err e t ∧ r = .error e := by
  unfold attempt
  cases m s with
  | ok a s' => constructor <;> simp +contextual [eq_comm]
  | err e s' => constructor <;> simp +contextual [eq_comm]
  | panic => simp

theorem attempt_of_ok {m : Prog σ ε α} {a : α} {s t : σ} (h : m s = .ok a t) :
    (attempt m : Prog σ δ (Except ε α)) s = .ok (.ok a) t :=
  attempt_eq_ok.2 (Or.inl ⟨a, h, rfl⟩)

/-! ## §3. Weakest preconditions. -/

def wp (m : Prog σ ε α) (Q : α → σ → Prop) (E : ε → σ → Prop) (s : σ) : Prop :=
  match m s with
  | .ok a s' => Q a s'
  | .err e s' => E e s'
  | .panic => True

variable {Q : α → σ → Prop} {E : ε → σ → Prop} {s : σ}

@[simp] theorem wp_ret {a : α} : wp (ret a) Q E s ↔ Q a s := Iff.rfl

@[simp] theorem wp_pure (a : α) : wp (pure a : Prog σ ε α) Q E s ↔ Q a s := Iff.rfl

@[simp] theorem wp_fail (e : ε) : wp (fail e : Prog σ ε α) Q E s ↔ E e s := Iff.rfl

@[simp] theorem wp_abort : wp (abort : Prog σ ε α) Q E s := trivial

@[simp] theorem wp_read {Q : σ → σ → Prop} : wp (read : Prog σ ε σ) Q E s ↔ Q s s := Iff.rfl

@[simp] theorem wp_update {Q : Unit → σ → Prop} (f : σ → σ) :
    wp (update f : Prog σ ε Unit) Q E s ↔ Q () (f s) := Iff.rfl

@[simp] theorem wp_bind (m : Prog σ ε β) (f : β → Prog σ ε α) :
    wp (m >>= f) Q E s ↔ wp m (fun b => wp (f b) Q E) E s := by
  unfold wp
  rw [bind_apply]
  cases m s <;> rfl

@[simp] theorem wp_attempt {Q : Except ε α → σ → Prop} {D : δ → σ → Prop} (m : Prog σ ε α) :
    wp (attempt m) Q D s ↔ wp m (fun a => Q (.ok a)) (fun e => Q (.error e)) s := by
  unfold wp attempt
  cases m s <;> rfl

@[simp] theorem wp_mapErr {D : δ → σ → Prop} (g : ε → δ) (m : Prog σ ε α) :
    wp (mapErr g m) Q D s ↔ wp m Q (fun e => D (g e)) s := by
  unfold wp mapErr
  cases m s <;> rfl

@[simp] theorem wp_orFail {e : ε} {o : Option α} :
    wp (orFail e o) Q E s ↔ (∀ a, o = some a → Q a s) ∧ (o = none → E e s) := by
  cases o <;> simp [orFail]

@[simp] theorem wp_orAbort {o : Option α} :
    wp (orAbort o : Prog σ ε α) Q E s ↔ ∀ a, o = some a → Q a s := by
  cases o <;> simp [orAbort]

@[simp] theorem wp_guardElse {Q : Unit → σ → Prop} {c : Bool} {e : ε} :
    wp (guardElse c e) Q E s ↔ (c = true → Q () s) ∧ (c = false → E e s) := by
  cases c <;> simp [guardElse]

@[simp] theorem wp_assert {Q : Unit → σ → Prop} {c : Bool} :
    wp (assert c : Prog σ ε Unit) Q E s ↔ (c = true → Q () s) := by
  cases c <;> simp [assert]

theorem wp_ite {p : Prop} [Decidable p] {m n : Prog σ ε α} (hm : p → wp m Q E s)
    (hn : ¬p → wp n Q E s) : wp (if p then m else n) Q E s := by
  split
  case isTrue h => exact hm h
  case isFalse h => exact hn h

theorem wp_mono {Q' : α → σ → Prop} {E' : ε → σ → Prop} {m : Prog σ ε α}
    (h : wp m Q E s) (hQ : ∀ a t, Q a t → Q' a t) (hE : ∀ e t, E e t → E' e t) :
    wp m Q' E' s := by
  unfold wp at *
  cases hm : m s with
  | ok a t => rw [hm] at h; exact hQ a t h
  | err e t => rw [hm] at h; exact hE e t h
  | panic => trivial

theorem wp_and {Q' : α → σ → Prop} {E' : ε → σ → Prop} {m : Prog σ ε α} (h : wp m Q E s)
    (h' : wp m Q' E' s) : wp m (fun a t => Q a t ∧ Q' a t) (fun e t => E e t ∧ E' e t) s := by
  unfold wp at *
  cases hm : m s with
  | ok a t => exact ⟨by rwa [hm] at h, by rwa [hm] at h'⟩
  | err e t => exact ⟨by rwa [hm] at h, by rwa [hm] at h'⟩
  | panic => trivial

theorem wp_of_ok {m : Prog σ ε α} {a : α} {t : σ} (hm : m s = .ok a t) :
    wp m Q E s ↔ Q a t := by
  unfold wp; rw [hm]

theorem wp_of_err {m : Prog σ ε α} {e : ε} {t : σ} (hm : m s = .err e t) :
    wp m Q E s ↔ E e t := by
  unfold wp; rw [hm]

theorem wp_of_panic {m : Prog σ ε α} (hm : m s = .panic) : wp m Q E s := by
  unfold wp; rw [hm]; trivial

theorem wp_of_forall_ok {m : Prog σ ε α} (h : ∀ a t, m s = .ok a t → Q a t) :
    wp m Q (fun _ _ => True) s := by
  unfold wp
  cases hm : m s with
  | ok a t => exact h a t hm
  | err e t => trivial
  | panic => trivial

theorem wp_bind_of_forall_ok {m : Prog σ ε β} {f : β → Prog σ ε α}
    (h : ∀ b t, m s = .ok b t → wp (f b) Q (fun _ _ => True) t) :
    wp (m >>= f) Q (fun _ _ => True) s :=
  (wp_bind m f).2 (wp_of_forall_ok h)

theorem wp_ok {m : Prog σ ε α} {a : α} {t : σ} (h : wp m Q E s) (hm : m s = .ok a t) : Q a t := by
  unfold wp at h; rwa [hm] at h

theorem wp_err {m : Prog σ ε α} {e : ε} {t : σ} (h : wp m Q E s) (hm : m s = .err e t) :
    E e t := by
  unfold wp at h; rwa [hm] at h

/-! ## §4. Programs that move the state along a relation. -/

class StepRel (R : σ → σ → Prop) : Prop where
  refl : ∀ s, R s s
  trans : ∀ {s t u}, R s t → R t u → R s u

instance : StepRel (fun s t : σ => t = s) where
  refl _ := rfl
  trans h h' := h'.trans h

instance : StepRel (fun _ _ : σ => True) where
  refl _ := trivial
  trans _ _ := trivial

def Ran (m : Prog σ ε α) (s t : σ) : Prop := (∃ a, m s = .ok a t) ∨ ∃ e, m s = .err e t

theorem Ran.of_wp {Q : σ → Prop} {m : Prog σ ε α} {s t : σ} (hm : Ran m s t)
    (h : wp m (fun _ => Q) (fun _ => Q) s) : Q t := by
  unfold wp at h
  obtain ⟨a, hm⟩ | ⟨e, hm⟩ := hm <;> rwa [hm] at h

theorem Ran.of_bind {m : Prog σ ε α} {f : α → Prog σ ε β} {s t : σ} (h : Ran (m >>= f) s t) :
    (∃ e, m s = .err e t) ∨ ∃ a u, m s = .ok a u ∧ Ran (f a) u t := by
  unfold Ran at h
  rw [bind_apply] at h
  cases hm : m s with
  | ok a u => exact .inr ⟨a, u, rfl, by rwa [hm] at h⟩
  | err e u =>
    rw [hm] at h
    obtain ⟨_, h⟩ | ⟨_, h⟩ := h <;> cases h
    exact .inl ⟨e, rfl⟩
  | panic =>
    rw [hm] at h
    obtain ⟨_, h⟩ | ⟨_, h⟩ := h <;> cases h

def Within (R : σ → σ → Prop) (m : Prog σ ε α) : Prop :=
  ∀ s, wp m (fun _ t => R s t) (fun _ t => R s t) s

namespace Within
variable {R S : σ → σ → Prop}

theorem mono {m : Prog σ ε α} (h : Within R m) (hRS : ∀ s t, R s t → S s t) : Within S m :=
  fun s => wp_mono (h s) (fun _ t => hRS s t) (fun _ t => hRS s t)

theorem trivially (m : Prog σ ε α) : Within (fun _ _ => True) m := by
  intro s
  unfold wp
  cases m s <;> exact True.intro

theorem bind [StepRel R] {m : Prog σ ε α} {f : α → Prog σ ε β} (hm : Within R m)
    (hf : ∀ a, Within R (f a)) : Within R (m >>= f) := by
  intro s
  rw [wp_bind]
  refine wp_mono (hm s) (fun a t hst => ?_) (fun _ _ h => h)
  exact wp_mono (hf a t) (fun _ u => StepRel.trans hst) (fun _ u => StepRel.trans hst)

theorem seq [StepRel R] {m : Prog σ ε α} {f : α → Prog σ ε β} {Q : β → σ → Prop}
    {E : ε → σ → Prop} {s : σ} (hm : Within R m) (hE : ∀ e t, R s t → E e t)
    (hf : ∀ a t, R s t → wp (f a) Q E t) : ∀ t, R s t → wp (m >>= f) Q E t := by
  intro t ht
  rw [wp_bind]
  exact wp_mono (hm t) (fun a u h => hf a u (StepRel.trans ht h))
    fun e u h => hE e u (StepRel.trans ht h)

theorem attempt {m : Prog σ ε α} (hm : Within R m) :
    Within R (Effect.attempt m : Prog σ δ (Except ε α)) :=
  fun s => (wp_attempt m).2 (hm s)

theorem mapErr {g : ε → δ} {m : Prog σ ε α} (hm : Within R m) : Within R (Effect.mapErr g m) :=
  fun s => (wp_mapErr g m).2 (hm s)

theorem update {f : σ → σ} (h : ∀ s, R s (f s)) : Within R (Effect.update f : Prog σ ε Unit) := h

theorem ret [StepRel R] (a : α) : Within R (Effect.ret a : Prog σ ε α) :=
  fun s => StepRel.refl s

theorem fail [StepRel R] (e : ε) : Within R (Effect.fail e : Prog σ ε α) :=
  fun s => StepRel.refl s

theorem abort : Within R (Effect.abort : Prog σ ε α) := fun _ => trivial

theorem read [StepRel R] : Within R (Effect.read : Prog σ ε σ) :=
  fun s => StepRel.refl s

theorem orFail [StepRel R] (e : ε) (o : Option α) : Within R (Effect.orFail e o : Prog σ ε α) := by
  cases o with
  | none => exact Within.fail e
  | some a => exact Within.ret a

theorem orAbort [StepRel R] (o : Option α) : Within R (Effect.orAbort o : Prog σ ε α) := by
  cases o with
  | none => exact Within.abort
  | some a => exact Within.ret a

theorem guardElse [StepRel R] (c : Bool) (e : ε) :
    Within R (Effect.guardElse c e : Prog σ ε Unit) := by
  cases c with
  | false => exact Within.fail e
  | true => exact Within.ret ()

theorem assert [StepRel R] (c : Bool) : Within R (Effect.assert c : Prog σ ε Unit) := by
  cases c with
  | false => exact Within.abort
  | true => exact Within.ret ()

theorem forEach [StepRel R] {ι : Type} {f : ι → Prog σ ε Unit} (h : ∀ i, Within R (f i))
    (is : List ι) : Within R (Effect.forEach f is) := by
  induction is with
  | nil => exact .ret ()
  | cons i is ih => exact .bind (h i) fun _ => ih

theorem of_ran {m : Prog σ ε α} (h : ∀ s t, Ran m s t → R s t) : Within R m := by
  intro s
  unfold wp
  cases hm : m s with
  | ok a t => exact h s t (.inl ⟨a, hm⟩)
  | err e t => exact h s t (.inr ⟨e, hm⟩)
  | panic => trivial

theorem of_still [StepRel R] {m : Prog σ ε α} (h : Within (fun s t => t = s) m) : Within R m :=
  h.mono fun s _ ht => ht ▸ StepRel.refl (R := R) s

theorem ran {m : Prog σ ε α} {s t : σ} (h : Within R m) (hm : Ran m s t) : R s t :=
  hm.of_wp (h s)

theorem of_ok {m : Prog σ ε α} {s t : σ} {a : α} (h : Within R m) (hm : m s = .ok a t) : R s t := by
  have hs := h s
  unfold wp at hs
  rwa [hm] at hs

theorem of_err {m : Prog σ ε α} {s t : σ} {e : ε} (h : Within R m) (hm : m s = .err e t) :
    R s t := by
  have hs := h s
  unfold wp at hs
  rwa [hm] at hs

end Within

theorem wp_of_ran {Q : σ → Prop} {m : Prog σ ε α} {s : σ} (h : ∀ t, Ran m s t → Q t) :
    wp m (fun _ t => Q t) (fun _ t => Q t) s := by
  unfold wp
  cases hm : m s with
  | ok a t => exact h t (.inl ⟨a, hm⟩)
  | err e t => exact h t (.inr ⟨e, hm⟩)
  | panic => trivial

def EndsIn (Q : α → Prop) (E : ε → σ → Prop) (m : Prog σ ε α) : Prop :=
  ∀ s, wp m (fun a _ => Q a) E s

namespace EndsIn
variable {Q : α → Prop} {E : ε → σ → Prop}

theorem bind {P : β → Prop} {m : Prog σ ε α} {f : α → Prog σ ε β} (hm : EndsIn Q E m)
    (hf : ∀ a, Q a → EndsIn P E (f a)) : EndsIn P E (m >>= f) := fun s => by
  rw [wp_bind]
  exact wp_mono (hm s) (fun a t ha => hf a ha t) fun _ _ h => h

theorem seq {P : β → Prop} {m : Prog σ ε α} {f : α → Prog σ ε β}
    (hm : EndsIn (fun _ => True) E m) (hf : ∀ a, EndsIn P E (f a)) : EndsIn P E (m >>= f) :=
  hm.bind fun a _ => hf a

theorem ret {a : α} (h : Q a) : EndsIn Q E (Effect.ret a : Prog σ ε α) := fun _ => h

theorem abort : EndsIn Q E (Effect.abort : Prog σ ε α) := fun _ => trivial

theorem read : EndsIn (fun _ => True) E (Effect.read : Prog σ ε σ) := fun _ => trivial

theorem update (f : σ → σ) : EndsIn (fun _ => True) E (Effect.update f : Prog σ ε Unit) :=
  fun _ => trivial

theorem assert (c : Bool) : EndsIn (fun _ => True) E (Effect.assert c : Prog σ ε Unit) := by
  cases c with
  | false => exact .abort
  | true => exact .ret trivial

theorem orAbort (o : Option α) : EndsIn (fun _ => True) E (Effect.orAbort o : Prog σ ε α) := by
  cases o with
  | none => exact .abort
  | some a => exact .ret trivial

theorem attempt_any {D : δ → σ → Prop} (m : Prog σ ε α) :
    EndsIn (fun _ => True) D (Effect.attempt m : Prog σ δ (Except ε α)) := fun s => by
  unfold wp Effect.attempt
  cases m s <;> trivial

theorem forEach {ι : Type} {f : ι → Prog σ ε Unit} (h : ∀ i, EndsIn (fun _ => True) E (f i))
    (is : List ι) : EndsIn (fun _ => True) E (Effect.forEach f is) := by
  induction is with
  | nil => exact .ret trivial
  | cons i is ih => exact .seq (h i) fun _ => ih

end EndsIn

def Ends (Q : α → Prop) (E : ε → Prop) (m : Prog σ ε α) : Prop :=
  ∀ s, wp m (fun a _ => Q a) (fun e _ => E e) s

theorem EndsIn.ends {Q : α → Prop} {E : ε → σ → Prop} {D : ε → Prop} {m : Prog σ ε α}
    (hm : EndsIn Q E m) (h : ∀ e s, E e s → D e) : Ends Q D m :=
  fun s => wp_mono (hm s) (fun _ _ ha => ha) h

namespace Ends
variable {Q : α → Prop} {E : ε → Prop}

theorem bind {P : β → Prop} {m : Prog σ ε α} {f : α → Prog σ ε β} (hm : Ends Q E m)
    (hf : ∀ a, Q a → Ends P E (f a)) : Ends P E (m >>= f) := EndsIn.bind hm hf

theorem seq {P : β → Prop} {m : Prog σ ε α} {f : α → Prog σ ε β}
    (hm : Ends (fun _ => True) E m) (hf : ∀ a, Ends P E (f a)) : Ends P E (m >>= f) :=
  hm.bind fun a _ => hf a

theorem ret {a : α} (h : Q a) : Ends Q E (Effect.ret a : Prog σ ε α) := fun _ => h

theorem fail {e : ε} (h : E e) : Ends Q E (Effect.fail e : Prog σ ε α) := fun _ => h

theorem read : Ends (fun _ => True) E (Effect.read : Prog σ ε σ) := fun _ => trivial

theorem update (f : σ → σ) : Ends (fun _ => True) E (Effect.update f : Prog σ ε Unit) :=
  fun _ => trivial

theorem assert (c : Bool) : Ends (fun _ => True) E (Effect.assert c : Prog σ ε Unit) :=
  EndsIn.assert c

theorem orAbort (o : Option α) : Ends (fun _ => True) E (Effect.orAbort o : Prog σ ε α) :=
  EndsIn.orAbort o

theorem of_ok {m : Prog σ ε α} {a : α} {s t : σ} (hm : Ends Q E m) (h : m s = .ok a t) : Q a :=
  wp_ok (Q := fun a _ => Q a) (hm s) h

theorem any (m : Prog σ ε α) : Ends (fun _ => True) (fun _ => True) m := fun s => by
  unfold wp
  cases m s <;> trivial

end Ends

/-! ## §5. Steps and guarded runs. -/

abbrev Steps (A : σ → σ → Prop) : σ → σ → Prop := Relation.ReflTransGen A

instance (A : σ → σ → Prop) : StepRel (Steps A) where
  refl _ := .refl
  trans h h' := h.trans h'

theorem Steps.lift {A R : σ → σ → Prop} [StepRel R] (h : ∀ s t, A s t → R s t) {s t : σ}
    (hst : Steps A s t) : R s t := by
  induction hst with
  | refl => exact StepRel.refl s
  | tail _ hlast ih => exact StepRel.trans ih (h _ _ hlast)

theorem Steps.keep {A : σ → σ → Prop} {I : σ → Prop} (h : ∀ s t, A s t → I s → I t) {s t : σ}
    (hst : Steps A s t) (hs : I s) : I t := by
  induction hst with
  | refl => exact hs
  | tail _ hlast ih => exact h _ _ hlast ih

def Guarded (I : σ → Prop) (R : σ → σ → Prop) (s t : σ) : Prop := I s → R s t ∧ I t

instance (I : σ → Prop) (R : σ → σ → Prop) [StepRel R] : StepRel (Guarded I R) where
  refl s := fun h => ⟨StepRel.refl (R := R) s, h⟩
  trans h h' := fun hs => ⟨StepRel.trans (h hs).1 (h' (h hs).2).1, (h' (h hs).2).2⟩

theorem within_guarded {I : σ → Prop} {R : σ → σ → Prop} {m : Prog σ ε α}
    (h : ∀ s, I s → wp m (fun _ t => R s t ∧ I t) (fun _ t => R s t ∧ I t) s) :
    Within (Guarded I R) m :=
  fun s => wp_of_ran fun _ hran hs => hran.of_wp (h s hs)

def Leads (I : σ → Prop) (R : σ → σ → Prop) (J : α → σ → Prop) (m : Prog σ ε α) : Prop :=
  ∀ s, I s → wp m (fun a t => R s t ∧ J a t) (fun _ t => R s t) s

namespace Leads
variable {I I' : σ → Prop} {R : σ → σ → Prop} {J J' : α → σ → Prop}

theorem mono {m : Prog σ ε α} (hm : Leads I R J m) (hI : ∀ s, I' s → I s)
    (hJ : ∀ a s, J a s → J' a s) : Leads I' R J' m :=
  fun s hs => wp_mono (hm s (hI s hs)) (fun a t h => ⟨h.1, hJ a t h.2⟩) fun _ _ h => h

theorem bind [StepRel R] {K : β → σ → Prop} {m : Prog σ ε α} {f : α → Prog σ ε β}
    (hm : Leads I R J m) (hf : ∀ a, Leads (J a) R K (f a)) : Leads I R K (m >>= f) := by
  intro s hs
  rw [wp_bind]
  refine wp_mono (hm s hs) (fun a t hst => ?_) (fun _ _ h => h)
  exact wp_mono (hf a t hst.2) (fun _ u h => ⟨StepRel.trans hst.1 h.1, h.2⟩)
    fun _ u h => StepRel.trans hst.1 h

theorem ret [StepRel R] {a : α} (h : ∀ s, I s → J a s) : Leads I R J (Effect.ret a : Prog σ ε α) :=
  fun s hs => ⟨StepRel.refl s, h s hs⟩

theorem fail [StepRel R] (e : ε) : Leads I R J (Effect.fail e : Prog σ ε α) :=
  fun s _ => StepRel.refl s

theorem read [StepRel R] : Leads I R (fun a s => a = s ∧ I s) (Effect.read : Prog σ ε σ) :=
  fun s hs => ⟨StepRel.refl s, rfl, hs⟩

theorem update {J : Unit → σ → Prop} {f : σ → σ} (h : ∀ s, I s → R s (f s) ∧ J () (f s)) :
    Leads I R J (Effect.update f : Prog σ ε Unit) := h

theorem weaken {S : σ → σ → Prop} {m : Prog σ ε α} (hm : Leads I R J m)
    (hRS : ∀ s t, R s t → S s t) : Leads I S J m :=
  fun s hs => wp_mono (hm s hs) (fun _ t h => ⟨hRS s t h.1, h.2⟩) fun _ t h => hRS s t h

theorem keep {K : σ → Prop} {m : Prog σ ε α} (hm : Leads I R J m)
    (hK : ∀ s t, R s t → K s → K t) :
    Leads (fun s => I s ∧ K s) R (fun a s => J a s ∧ K s) m :=
  fun s hs => wp_mono (hm s hs.1) (fun _ t h => ⟨h.1, h.2, hK s t h.1 hs.2⟩) fun _ _ h => h

theorem assume {φ : Prop} {m : Prog σ ε α} (h : φ → Leads I R J m) :
    Leads (fun s => φ ∧ I s) R J m := fun s hs => h hs.1 s hs.2

theorem of_within {m : Prog σ ε α} (hm : Within R m) : Leads I R (fun _ _ => True) m :=
  fun s _ => wp_mono (hm s) (fun _ _ h => ⟨h, trivial⟩) fun _ _ h => h

theorem of_steps [StepRel R] {A : σ → σ → Prop} {m : Prog σ ε α} (hm : Within (Steps A) m)
    (hR : ∀ s t, A s t → R s t) (hI : ∀ s t, A s t → I s → I t) : Leads I R (fun _ => I) m :=
  fun s hs => wp_mono (hm s) (fun _ _ h => ⟨h.lift hR, h.keep hI hs⟩) fun _ _ h => h.lift hR

theorem of_still [StepRel R] {m : Prog σ ε α} (hm : Within (fun s t => t = s) m) :
    Leads I R (fun _ => I) m := by
  intro s hs
  refine wp_mono (hm s) (fun _ t h => ?_) fun _ t h => ?_
  · rw [h]
    exact ⟨StepRel.refl s, hs⟩
  · rw [h]
    exact StepRel.refl s

theorem caught [StepRel R] {K : β → σ → Prop} {m : Prog σ δ α} {f : Except δ α → Prog σ ε β}
    (hm : Leads I R J m) (hok : ∀ a, Leads (J a) R K (f (.ok a)))
    (herr : ∀ e, Leads (fun _ => True) R K (f (.error e))) :
    Leads I R K (Effect.attempt m >>= f) := by
  intro s hs
  rw [wp_bind, wp_attempt]
  refine wp_mono (hm s hs) (fun a t hst => ?_) (fun e t hst => ?_)
  · exact wp_mono (hok a t hst.2) (fun _ u h => ⟨StepRel.trans hst.1 h.1, h.2⟩)
      fun _ u h => StepRel.trans hst.1 h
  · exact wp_mono (herr e t trivial) (fun _ u h => ⟨StepRel.trans hst h.1, h.2⟩)
      fun _ u h => StepRel.trans hst h

theorem mapErr {g : ε → δ} {m : Prog σ ε α} (hm : Leads I R J m) :
    Leads I R J (Effect.mapErr g m) :=
  fun s hs => (wp_mapErr g m).2 (hm s hs)

theorem within {m : Prog σ ε α} (hm : Leads I R J m) :
    Within (fun s t => I s → R s t) m := by
  intro s
  unfold wp
  cases h : m s with
  | ok a t => exact fun hs => (wp_ok (hm s hs) h).1
  | err e t => exact fun hs => wp_err (E := fun _ t => R s t) (hm s hs) h
  | panic => trivial

end Leads

/-! ## §6. Two runs side by side. -/

def Paired (P : σ → σ → Prop) (V : α → β → Prop) (m : Prog σ ε α) (m' : Prog σ ε β) : Prop :=
  ∀ s t, P s t → match m s, m' t with
    | .ok a s', .ok b t' => V a b ∧ P s' t'
    | .err e s', .err e' t' => e = e' ∧ P s' t'
    | .panic, .panic => True
    | _, _ => False

namespace Paired
variable {P : σ → σ → Prop} {V : α → α → Prop}

theorem ret {a b : α} (h : V a b) :
    Paired P V (Effect.ret a : Prog σ ε α) (Effect.ret b) := fun _ _ hP => ⟨h, hP⟩

theorem fail (e : ε) : Paired P V (Effect.fail e : Prog σ ε α) (Effect.fail e) :=
  fun _ _ hP => ⟨rfl, hP⟩

theorem abort : Paired P V (Effect.abort : Prog σ ε α) Effect.abort := fun _ _ _ => trivial

theorem update {g : σ → σ} (h : ∀ s t, P s t → P (g s) (g t)) :
    Paired P (· = ·) (Effect.update g : Prog σ ε Unit) (Effect.update g) :=
  fun s t hP => ⟨rfl, h s t hP⟩

theorem bind {W : β → β → Prop} {m m' : Prog σ ε α} {k k' : α → Prog σ ε β}
    (hm : Paired P V m m') (hk : ∀ a b, V a b → Paired P W (k a) (k' b)) :
    Paired P W (m >>= k) (m' >>= k') := by
  intro s t hP
  rw [bind_apply, bind_apply]
  have hst := hm s t hP
  cases hs : m s <;> cases ht : m' t <;> rw [hs, ht] at hst <;> try exact hst.elim
  · exact hk _ _ hst.1 _ _ hst.2
  · exact hst
  · trivial

theorem seq {W : β → β → Prop} {m : Prog σ ε α} {k : α → Prog σ ε β}
    (hm : Paired P (· = ·) m m) (hk : ∀ a, Paired P W (k a) (k a)) :
    Paired P W (m >>= k) (m >>= k) :=
  bind hm fun a _ h => h ▸ hk a

theorem read_seq {k k' : σ → Prog σ ε α} (hread : ∀ s t, P s t → k' t = k s)
    (hk : ∀ s t, P s t → Paired P V (k s) (k s)) :
    Paired P V (Effect.read >>= k) (Effect.read >>= k') := by
  intro s t hP
  rw [Effect.read_bind, Effect.read_bind, hread s t hP]
  exact hk s t hP s t hP

theorem of_ok {W : α → β → Prop} {m : Prog σ ε α} {m' : Prog σ ε β} {s s' t : σ} {a : α}
    (hm : Paired P W m m') (hP : P s t) (h : m s = .ok a s') :
    ∃ b t', m' t = .ok b t' ∧ W a b ∧ P s' t' := by
  have hend := hm s t hP
  rw [h] at hend
  cases h' : m' t with
  | ok b t' =>
    rw [h'] at hend
    exact ⟨b, t', rfl, hend⟩
  | err e t' => rw [h'] at hend; exact hend.elim
  | panic => rw [h'] at hend; exact hend.elim

theorem mono {W : α → α → Prop} {m m' : Prog σ ε α} (hm : Paired P V m m')
    (h : ∀ a b, V a b → W a b) : Paired P W m m' := by
  intro s t hP
  have hst := hm s t hP
  cases hs : m s <;> cases ht : m' t <;> rw [hs, ht] at hst <;> try exact hst.elim
  · exact ⟨h _ _ hst.1, hst.2⟩
  · exact hst
  · trivial

def Alike (V : α → α → Prop) : Except ε α → Except ε α → Prop
  | .ok a, .ok b => V a b
  | .error e, .error e' => e = e'
  | _, _ => False

theorem attempt {m m' : Prog σ ε α} (hm : Paired P V m m') :
    Paired P (Alike V) (Effect.attempt m : Prog σ δ (Except ε α)) (Effect.attempt m') := by
  intro s t hP
  unfold Effect.attempt
  have hst := hm s t hP
  cases hs : m s <;> cases ht : m' t <;> rw [hs, ht] at hst <;> try exact hst.elim
  · exact hst
  · exact hst
  · trivial

theorem tried {m : Prog σ ε α} (hm : Paired P (· = ·) m m) :
    Paired P (· = ·) (Effect.attempt m : Prog σ δ (Except ε α)) (Effect.attempt m) := by
  refine mono (attempt hm) fun x y h => ?_
  cases x <;> cases y <;> try exact h.elim
  · exact congrArg _ h
  · exact congrArg _ h

theorem orFail (e : ε) (o : Option α) :
    Paired P (· = ·) (Effect.orFail e o : Prog σ ε α) (Effect.orFail e o) := by
  cases o with
  | none => exact fail e
  | some a => exact ret rfl

theorem orAbort (o : Option α) :
    Paired P (· = ·) (Effect.orAbort o : Prog σ ε α) (Effect.orAbort o) := by
  cases o with
  | none => exact abort
  | some a => exact ret rfl

theorem guardElse (c : Bool) (e : ε) :
    Paired P (· = ·) (Effect.guardElse c e : Prog σ ε Unit) (Effect.guardElse c e) := by
  cases c with
  | false => exact fail e
  | true => exact ret rfl

theorem assert (c : Bool) :
    Paired P (· = ·) (Effect.assert c : Prog σ ε Unit) (Effect.assert c) := by
  cases c with
  | false => exact abort
  | true => exact ret rfl

end Paired

end Effect
