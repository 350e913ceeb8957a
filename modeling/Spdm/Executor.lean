/-
  Spdm.Executor — the task queue of the asynchronous builds (`executor`).
-/
import Mathlib.Data.List.Basic

namespace Spdm

namespace Executor

/-! ## §1. The queue. -/

structure Polled (τ ω : Type) where
  isPending : Bool
  task : τ
  rest : ω

variable {τ ω : Type}

structure Queue (τ : Type) where
  tasks : Option (List τ) := none

def Queue.list (e : Queue τ) : List τ := e.tasks.getD []

def addTask (task : τ) (e : Queue τ) : Queue τ := { tasks := some (e.list ++ [task]) }

section
variable (poll : τ → ω → Option (Polled τ ω))

def pollLoop : Nat → List τ → ω → Option (List τ × ω)
  | 0, tasks, w => some (tasks, w)
  | _ + 1, [], _ => none
  | n + 1, task :: tasks, w => do
    let p ← poll task w
    pollLoop n (if p.isPending then tasks ++ [p.task] else tasks) p.rest

def pollTasks (e : Queue τ) (w : ω) : Option (Bool × Queue τ × ω) := do
  let r ← pollLoop poll e.list.length e.list w
  some (!r.1.isEmpty, { tasks := some r.1 }, r.2)

inductive Call (τ : Type) where
  | addTask (task : τ)
  | pollTasks

def runAll : List (Call τ) → Queue τ → ω → Option (Queue τ × ω)
  | [], e, w => some (e, w)
  | .addTask task :: calls, e, w => runAll calls (addTask task e) w
  | .pollTasks :: calls, e, w => do
    let r ← pollTasks poll e w
    runAll calls r.2.1 r.2.2

/-! ## §2. One pass. -/

def pass : List τ → ω → Option (List τ × ω)
  | [], w => some ([], w)
  | task :: tasks, w => do
    let p ← poll task w
    let r ← pass tasks p.rest
    some (if p.isPending then p.task :: r.1 else r.1, r.2)

theorem pollLoop_append (tasks kept : List τ) (w : ω) :
    pollLoop poll tasks.length (tasks ++ kept) w =
      (pass poll tasks w).map fun r => (kept ++ r.1, r.2) := by
  induction tasks generalizing kept w with
  | nil => simp [pollLoop, pass]
  | cons task tasks ih =>
    simp only [List.length_cons, List.cons_append, pollLoop, pass]
    cases poll task w with
    | none => rfl
    | some p =>
      cases hp : p.isPending with
      | true =>
        simp only [Option.bind_eq_bind, Option.bind_some, hp, if_true, List.append_assoc, ih]
        cases pass poll tasks p.rest <;> simp
      | false =>
        simp only [Option.bind_eq_bind, Option.bind_some, hp, Bool.false_eq_true, if_false, ih]
        cases pass poll tasks p.rest <;> simp

theorem pollTasks_eq (e : Queue τ) (w : ω) :
    pollTasks poll e w =
      (pass poll e.list w).map fun r => (!r.1.isEmpty, { tasks := some r.1 }, r.2) := by
  have hloop := pollLoop_append poll e.list [] w
  rw [List.append_nil] at hloop
  rw [pollTasks, hloop]
  cases pass poll e.list w <;> rfl

end

/-! ## §3. Runs. -/

variable {poll : τ → ω → Option (Polled τ ω)} {P Q : τ → Prop}

theorem pass_keeps (hpoll : ∀ task w, P task → ∃ p, poll task w = some p ∧
      (p.isPending = true → Q p.task)) {tasks : List τ} (h : ∀ task ∈ tasks, P task) (w : ω) :
    ∃ r, pass poll tasks w = some r ∧ ∀ task ∈ r.1, Q task := by
  induction tasks generalizing w with
  | nil => exact ⟨([], w), rfl, fun _ ht => by cases ht⟩
  | cons task tasks ih =>
    obtain ⟨p, hp, hnext⟩ := hpoll task w (h task List.mem_cons_self)
    obtain ⟨r, hr, hkept⟩ := ih (fun t ht => h t (List.mem_cons_of_mem _ ht)) p.rest
    refine ⟨(if p.isPending then p.task :: r.1 else r.1, r.2), ?_, fun t ht => ?_⟩
    · simp [pass, hp, hr]
    · dsimp only at ht
      split at ht
      case isFalse => exact hkept t ht
      case isTrue hpending =>
        obtain rfl | ht := List.mem_cons.1 ht
        · exact hnext hpending
        · exact hkept t ht

/-- **No run panics.**  A future that is `pending` can be polled, and stays so
until it is ready; nothing is asked of one that was ready.  Then in every run
of `add_task` and `poll_tasks` each poll is of a pending future. -/
theorem runAll_never_panics {pending : τ → Prop}
    (hpoll : ∀ task w, pending task → ∃ p, poll task w = some p ∧
      (p.isPending = true → pending p.task))
    (calls : List (Call τ)) (hcalls : ∀ task, .addTask task ∈ calls → pending task) (w : ω) :
    ∃ e w', runAll poll calls {} w = some (e, w') ∧ ∀ task ∈ e.list, pending task := by
  suffices hrun : ∀ e : Queue τ, (∀ task ∈ e.list, pending task) →
      ∃ e' w', runAll poll calls e w = some (e', w') ∧ ∀ task ∈ e'.list, pending task from
    hrun {} fun _ ht => by cases ht
  induction calls generalizing w with
  | nil => exact fun e he => ⟨e, w, rfl, he⟩
  | cons call calls ih =>
    intro e he
    have hlater := fun t ht => hcalls t (List.mem_cons_of_mem _ ht)
    cases call with
    | addTask task =>
      refine ih hlater w _ fun t ht => ?_
      obtain ht | ht := List.mem_append.1 (show t ∈ e.list ++ [task] from ht)
      · exact he t ht
      · rw [List.mem_singleton.1 ht]
        exact hcalls task List.mem_cons_self
    | pollTasks =>
      obtain ⟨r, hr, hkept⟩ := pass_keeps hpoll he w
      simp only [runAll, pollTasks_eq, hr, Option.map_some, Option.bind_eq_bind, Option.bind_some]
      exact ih hlater r.2 _ hkept

/-- **No task is left waiting**: when every poll that leaves a task pending
brings it nearer to its end, as many calls as the slowest task needs polls
empty the queue. -/
theorem pollRounds_drains {pending : τ → Prop} {μ : τ → Nat}
    (hpoll : ∀ task w, pending task → ∃ p, poll task w = some p ∧
      (p.isPending = true → pending p.task ∧ μ p.task < μ task))
    (n : Nat) (e : Queue τ) (he : ∀ task ∈ e.list, pending task ∧ μ task < n) (w : ω) :
    ∃ e' w', runAll poll (List.replicate n .pollTasks) e w = some (e', w') ∧ e'.list = [] := by
  induction n generalizing e w with
  | zero =>
    exact ⟨e, w, rfl, List.eq_nil_iff_forall_not_mem.2 fun t ht => by simpa using (he t ht).2⟩
  | succ n ih =>
    have hnearer : ∀ task w, pending task ∧ μ task < n + 1 → ∃ p, poll task w = some p ∧
        (p.isPending = true → pending p.task ∧ μ p.task < n) := fun task w htask => by
      obtain ⟨p, hp, hnext⟩ := hpoll task w htask.1
      exact ⟨p, hp, fun h => ⟨(hnext h).1, by have := (hnext h).2; omega⟩⟩
    obtain ⟨r, hr, hkept⟩ := pass_keeps (Q := fun t => pending t ∧ μ t < n) hnearer he w
    simp only [List.replicate_succ, runAll, pollTasks_eq, hr, Option.map_some, Option.bind_eq_bind,
      Option.bind_some]
    exact ih { tasks := some r.1 } hkept r.2

def countdown (n w : Nat) : Option (Polled Nat Nat) :=
  if n = 0 then none else some ⟨decide (1 < n), n - 1, w + 1⟩

theorem countdown_polled (n w : Nat) (h : 0 < n) : ∃ p, countdown n w = some p ∧
    (p.isPending = true → 0 < p.task ∧ p.task < n) := by
  refine ⟨_, if_neg (by omega), fun hp => ?_⟩
  have := of_decide_eq_true hp
  dsimp only
  omega

theorem countdowns_never_panic : ∃ e w', runAll countdown
    [.addTask 2, .pollTasks, .addTask 1, .pollTasks, .pollTasks] {} 0 = some (e, w') ∧
      ∀ task ∈ e.list, 0 < task :=
  runAll_never_panics (fun n w h => (countdown_polled n w h).imp fun _ hp =>
    ⟨hp.1, fun h => (hp.2 h).1⟩) _ (by simp) 0

theorem countdowns_drain : ∃ e' w', runAll countdown (List.replicate 4 .pollTasks)
    (addTask 1 (addTask 3 {})) 0 = some (e', w') ∧ e'.list = [] :=
  pollRounds_drains (μ := fun n => n) countdown_polled 4 _ (by decide) 0

end Executor

end Spdm
