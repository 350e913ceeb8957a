/-
  Spdm.Lib.Loop — loops with a bound on their turns.
-/
import Spdm.Lib.Total

namespace Effect

inductive Turn (α β : Type) where
  | again (a : α)
  | done (b : β)
  deriving Repr, DecidableEq

variable {σ ε α β γ : Type}

def loop (turn : α → Prog σ ε (Turn α β)) (dry : ε) : Nat → α → Prog σ ε β
  | 0, _ => fail dry
  | n + 1, a => do
    let t ← turn a
    match t with
    | .again a' => loop turn dry n a'
    | .done b => ret b

def trace (turn : α → Prog σ ε (Turn α β)) (obs : α → σ → γ) : Nat → α → σ → List γ
  | 0, _, _ => []
  | n + 1, a, s => obs a s :: match turn a s with
    | .ok (.again a') s' => trace turn obs n a' s'
    | _ => []

theorem ite_turn {p : Prop} [Decidable p] {a : α} {b : β} {f : Turn α β → Prog σ ε γ} :
    ((if p then ret (.done b) else ret (.again a) : Prog σ ε (Turn α β)) >>= f) =
      if p then f (.done b) else f (.again a) := by
  split <;> rfl

section Unfold
variable {turn : α → Prog σ ε (Turn α β)} {dry : ε} {obs : α → σ → γ} {n : Nat} {a : α} {s : σ}

theorem loop_succ_again {a' : α} {s' : σ} (h : turn a s = .ok (.again a') s') :
    loop turn dry (n + 1) a s = loop turn dry n a' s' := by
  rw [loop, bind_of_ok h]

theorem loop_succ_done {b : β} {s' : σ} (h : turn a s = .ok (.done b) s') :
    loop turn dry (n + 1) a s = .ok b s' := by
  rw [loop, bind_of_ok h]
  rfl

theorem loop_succ_err {e : ε} {s' : σ} (h : turn a s = .err e s') :
    loop turn dry (n + 1) a s = .err e s' := by
  rw [loop, bind_of_err h]

theorem loop_succ_panic (h : turn a s = .panic) : loop turn dry (n + 1) a s = .panic := by
  rw [loop, bind_apply, h]

theorem trace_succ_again {a' : α} {s' : σ} (h : turn a s = .ok (.again a') s') :
    trace turn obs (n + 1) a s = obs a s :: trace turn obs n a' s' := by
  rw [trace, h]

theorem trace_succ_done {b : β} {s' : σ} (h : turn a s = .ok (.done b) s') :
    trace turn obs (n + 1) a s = [obs a s] := by
  rw [trace, h]

end Unfold

def TurnPost (I : α → σ → Prop) (m : α → σ → Nat) (Q : β → σ → Prop) (k : Nat) :
    Turn α β → σ → Prop
  | .again a, s => I a s ∧ m a s < k
  | .done b, s => Q b s

section Rules
variable {turn : α → Prog σ ε (Turn α β)} {dry : ε} {I : α → σ → Prop} {m : α → σ → Nat}
  {Q : β → σ → Prop} {E : ε → σ → Prop} {n : Nat} {a : α} {s : σ}

theorem loop_eq_of_lt (hturn : ∀ a s, I a s → wp (turn a) (TurnPost I m Q (m a s)) E s)
    {n' : Nat} (ha : I a s) (hn : m a s < n) (hn' : m a s < n') :
    loop turn dry n a s = loop turn dry n' a s := by
  induction n generalizing n' a s with
  | zero => omega
  | succ n ih =>
    obtain ⟨n', rfl⟩ : ∃ k, n' = k + 1 := ⟨n' - 1, by omega⟩
    cases ht : turn a s with
    | panic => rw [loop_succ_panic ht, loop_succ_panic ht]
    | err e s' => rw [loop_succ_err ht, loop_succ_err ht]
    | ok t s' =>
      cases t with
      | done b => rw [loop_succ_done ht, loop_succ_done ht]
      | again a' =>
        obtain ⟨ha', hlt⟩ := wp_ok (hturn a s ha) ht
        rw [loop_succ_again ht, loop_succ_again ht]
        exact ih ha' (by omega) (by omega)

theorem twp_loop_unless {bad : α → σ → Bool}
    (hturn : ∀ a s, I a s → bad a s = false → twp (turn a) (TurnPost I m Q (m a s)) E s)
    (ha : I a s) (hn : m a s < n) (hgood : true ∉ trace turn bad n a s) :
    twp (loop turn dry n a) Q E s := by
  induction n generalizing a s with
  | zero => omega
  | succ n ih =>
    have hfirst : bad a s = false := by
      cases hbad : bad a s with
      | false => rfl
      | true => exact absurd (by rw [trace, hbad]; exact List.mem_cons_self) hgood
    rw [loop, twp_bind]
    refine twp_mono (hturn a s ha hfirst).with_run (fun t s' ht => ?_) fun _ _ hE => hE.2
    cases t with
    | done b => exact ht.2
    | again a' =>
      have hlt := ht.2.2
      refine ih ht.2.1 (by omega) fun hmem => hgood ?_
      rw [trace_succ_again ht.1]
      exact List.mem_cons_of_mem _ hmem

theorem twp_loop (hturn : ∀ a s, I a s → twp (turn a) (TurnPost I m Q (m a s)) E s)
    (ha : I a s) (hn : m a s < n) : twp (loop turn dry n a) Q E s := by
  have hall : ∀ n a s, true ∉ trace turn (fun _ _ => false) n a s := by
    intro n
    induction n with
    | zero => exact fun _ _ => List.not_mem_nil
    | succ n ih =>
      intro a s hmem
      obtain h | h := List.mem_cons.1 hmem
      · cases h
      · split at h
        · exact ih _ _ h
        · cases h
  exact twp_loop_unless (fun a s h _ => hturn a s h) ha hn (hall n a s)

theorem twp_loop_dry (hturn : ∀ a s, I a s → twp (turn a) (TurnPost I (fun _ _ => 0) Q 1) E s)
    (hdry : ∀ s, E dry s) (ha : I a s) : twp (loop turn dry n a) Q E s := by
  induction n generalizing a s with
  | zero => exact hdry s
  | succ n ih =>
    rw [loop, twp_bind]
    refine twp_mono (hturn a s ha) (fun t s' ht => ?_) fun _ _ hE => hE
    cases t with
    | done b => exact ht
    | again a' => exact ih ht.1

theorem loop_of_bad {bad : α → σ → Bool} (hbad : ∀ a s, bad a s = true → turn a s = .panic)
    (hmem : true ∈ trace turn bad n a s) : loop turn dry n a s = .panic := by
  induction n generalizing a s with
  | zero => cases hmem
  | succ n ih =>
    obtain h | h := List.mem_cons.1 hmem
    · exact loop_succ_panic (hbad a s h.symm)
    · split at h
      · rename_i a' s' hturn
        rw [loop_succ_again hturn]
        exact ih h
      · cases h

end Rules

theorem loop_trace {turn : α → Prog σ ε (Turn α β)} {dry : ε} {obs : α → σ → γ}
    {J : List γ → α → σ → Prop} {K : List γ → β → σ → Prop}
    (hagain : ∀ h a s a' s', J h a s → turn a s = .ok (.again a') s' → J (h ++ [obs a s]) a' s')
    (hdone : ∀ h a s b s', J h a s → turn a s = .ok (.done b) s' → K (h ++ [obs a s]) b s')
    {n : Nat} {h : List γ} {a : α} {s s' : σ} {b : β} (hJ : J h a s)
    (hrun : loop turn dry n a s = .ok b s') : K (h ++ trace turn obs n a s) b s' := by
  induction n generalizing h a s with
  | zero => cases hrun
  | succ n ih =>
    cases ht : turn a s with
    | panic => rw [loop_succ_panic ht] at hrun; cases hrun
    | err e t => rw [loop_succ_err ht] at hrun; cases hrun
    | ok r t =>
      cases r with
      | done b' =>
        rw [loop_succ_done ht] at hrun
        cases hrun
        rw [trace_succ_done ht]
        exact hdone h a s b s' hJ ht
      | again a' =>
        rw [loop_succ_again ht] at hrun
        rw [trace_succ_again ht, List.append_cons]
        exact ih (hagain h a s a' t hJ ht) hrun

theorem count_trace_le {turn : α → Prog σ ε (Turn α β)} {kind : α → σ → Bool} {I : α → σ → Prop}
    {m : α → σ → Nat} (hpos : ∀ a s, I a s → kind a s = true → 0 < m a s)
    (hagain : ∀ a s a' s', I a s → turn a s = .ok (.again a') s' →
      I a' s' ∧ m a' s' + (kind a s).toNat ≤ m a s)
    (n : Nat) {a : α} {s : σ} (ha : I a s) : (trace turn kind n a s).count true ≤ m a s := by
  induction n generalizing a s with
  | zero => exact Nat.zero_le _
  | succ n ih =>
    have hfirst : (kind a s).toNat ≤ m a s := by
      cases hkind : kind a s with
      | false => exact Nat.zero_le _
      | true => exact hpos a s ha hkind
    have hhead : ∀ l : List Bool, (kind a s :: l).count true = l.count true + (kind a s).toNat := by
      cases kind a s <;> simp
    rw [trace, hhead]
    split
    · rename_i a' s' hturn
      obtain ⟨ha', hdrop⟩ := hagain a s a' s' ha hturn
      have hrest := ih ha'
      omega
    · rw [List.count_nil]
      omega

end Effect
