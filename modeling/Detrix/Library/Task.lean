/-
**Tasks made of atomic actions.**

A task is the list of the actions it has still to carry out. An action changes a shared state and may
put further actions in front of the rest: that is how a branch or a loop goes on with what it has
read. An action that has to wait is not carried out. Whether a call to the outside fails comes with
the task, one answer for each action.

`Completes`: a task runs alone to its end. `System.step`: the tasks take turns, one action at a time.
The rules give invariants of both: `Completes.keeps` for a relation of the state and the actions to
come, `System.step_cases` for the steps of the system.
-/

import Detrix.Library.Run
import Mathlib.Algebra.Order.BigOperators.Group.List
import Mathlib.Algebra.Order.Group.Nat

namespace Detrix.Library

open List

/-- How an action is carried out, with an answer of the outside (`true`: it fails); the state after it
and the actions that come next, or `none` while it has to wait. -/
abbrev Perform (σ α : Type) : Type := Bool → σ → α → Option (σ × List α)

structure Task (α : Type) where
  todo : List α
  answers : List Bool

/-- Which action fails is fixed beforehand. -/
def answeredBy {σ α : Type} (perform : Perform σ α) (faults : α → Bool) : Perform σ α :=
  fun _ s action => perform (faults action) s action

namespace Task

variable {σ α : Type} (perform : Perform σ α)

def next (s : σ) (task : Task α) : Option (σ × Task α) :=
  match task.todo with
  | [] => none
  | action :: rest =>
    (perform (task.answers.headD false) s action).map fun done =>
      (done.1, ⟨done.2 ++ rest, task.answers.tail⟩)

variable {perform} {s t : σ} {task : Task α} {answers : List Bool} {todo : List α}

theorem next_eq_some {after : Task α} (moved : task.next perform s = some (t, after)) :
    ∃ action rest more, task.todo = action :: rest ∧
      perform (task.answers.headD false) s action = some (t, more) ∧
      after = ⟨more ++ rest, task.answers.tail⟩ := by
  unfold next at moved
  split at moved
  · cases moved
  next action rest isTodo =>
    obtain ⟨⟨u, more⟩, done, same⟩ := Option.map_eq_some_iff.mp moved
    obtain ⟨rfl, rfl⟩ := same
    exact ⟨action, rest, more, isTodo, done, rfl⟩

variable (perform)

/-! ### A task alone -/

/-- **The task runs alone, from `s` to its end in `t`.** -/
inductive Completes : σ → Task α → σ → Prop
  | done {s : σ} {task : Task α} (nothing : task.todo = []) : Completes s task s
  | step {s t u : σ} {task after : Task α} (moved : task.next perform s = some (t, after))
      (rest : Completes t after u) : Completes s task u

/-- The state and the task after at most `n` actions. -/
def runFor : Nat → σ → Task α → σ × Task α
  | 0, s, task => (s, task)
  | n + 1, s, task =>
    match task.next perform s with
    | some (t, after) => runFor n t after
    | none => (s, task)

variable {perform}

/-- What is true of the state and the actions to come, and stays true with every action, is true at
the end. -/
theorem Completes.keeps {inv : σ → List α → Prop}
    (step : ∀ fails s t action rest more, perform fails s action = some (t, more) →
      inv s (action :: rest) → inv t (more ++ rest)) (run : Completes perform s task t)
    (start : inv s task.todo) :
    inv t [] := by
  induction run with
  | done none => exact none ▸ start
  | step moved _ ih =>
    obtain ⟨action, rest, more, isTodo, done, rfl⟩ := next_eq_some moved
    rw [isTodo] at start
    exact ih (step _ _ _ _ _ _ done start)

variable {action : α}

theorem completes_cons {rest : List α} :
    Completes perform s ⟨action :: rest, answers⟩ t ↔
      ∃ u more, perform (answers.headD false) s action = some (u, more) ∧
        Completes perform u ⟨more ++ rest, answers.tail⟩ t := by
  constructor
  · intro run
    cases run with
    | done none => exact absurd none (cons_ne_nil _ _)
    | step moved later =>
      obtain ⟨_, _, more, isTodo, done, rfl⟩ := next_eq_some moved
      obtain ⟨rfl, rfl⟩ := cons.inj isTodo
      exact ⟨_, more, done, later⟩
  · rintro ⟨u, more, done, later⟩
    refine .step ?_ later
    simp only [next, done, Option.map_some]

theorem completes_nil : Completes perform s ⟨[], answers⟩ t ↔ t = s := by
  constructor
  · intro run
    cases run with
    | done _ => rfl
    | step moved _ =>
      exact nomatch moved
  · rintro rfl
    exact .done rfl

theorem completes_single :
    Completes perform s ⟨[action], answers⟩ t ↔
      ∃ u more, perform (answers.headD false) s action = some (u, more) ∧
        Completes perform u ⟨more, answers.tail⟩ t := by
  simp [completes_cons, append_nil]

variable {u : σ}

theorem completes_step {rest more : List α}
    (done : perform (answers.headD false) s action = some (u, more)) :
    Completes perform s ⟨action :: rest, answers⟩ t ↔ Completes perform u ⟨more ++ rest, answers.tail⟩ t := by
  rw [completes_cons, done]
  constructor
  · rintro ⟨_, _, same, later⟩
    cases same
    exact later
  · exact fun later => ⟨u, more, rfl, later⟩

theorem completes_last (done : perform (answers.headD false) s action = some (u, [])) :
    Completes perform s ⟨[action], answers⟩ t ↔ t = u := by
  rw [completes_step done, append_nil, completes_nil]

/-! ### One part after another -/

/-- A run of two parts passes through a state in which the first is done; the answers that are left go
to the second. -/
theorem Completes.split (run : Completes perform s task t) :
    ∀ {first second : List α}, task.todo = first ++ second →
      ∃ u k, Completes perform s ⟨first, task.answers⟩ u ∧
        Completes perform u ⟨second, task.answers.drop k⟩ t := by
  induction run with
  | done none =>
    intro first second parts
    obtain ⟨rfl, rfl⟩ := append_eq_nil_iff.mp (parts.symm.trans none)
    exact ⟨_, 0, .done rfl, .done rfl⟩
  | @step s t u task after moved rest ih =>
    intro first second parts
    obtain ⟨action, later, more, isTodo, done, rfl⟩ := next_eq_some moved
    cases first with
    | nil =>
      refine ⟨s, 0, .done rfl, ?_⟩
      rw [drop_zero, ← show task.todo = second from parts]
      exact .step moved rest
    | cons head tail =>
      obtain ⟨rfl, rfl⟩ := cons.inj (isTodo.symm.trans parts)
      obtain ⟨middle, k, one, two⟩ := ih (append_assoc more tail second).symm
      refine ⟨middle, k + 1, completes_cons.mpr ⟨t, more, done, one⟩, ?_⟩
      simpa using two

theorem Completes.followed (run : Completes perform s task u) :
    ∃ k, ∀ {later : List α} {t : σ}, Completes perform u ⟨later, task.answers.drop k⟩ t →
      Completes perform s ⟨task.todo ++ later, task.answers⟩ t := by
  induction run with
  | @done s task none =>
    refine ⟨0, fun {later t} after => ?_⟩
    rw [none]
    exact after
  | @step s t u task after moved _ ih =>
    obtain ⟨action, rest, more, isTodo, done, rfl⟩ := next_eq_some moved
    obtain ⟨k, follows⟩ := ih
    refine ⟨k + 1, fun {later v} after => ?_⟩
    rw [isTodo, cons_append]
    refine completes_cons.mpr ⟨t, more, done, ?_⟩
    rw [← append_assoc]
    refine follows ?_
    simpa using after

/-- What each action of a task, with all that it leads to, does to a view of the state, the task does
from left to right. -/
theorem Completes.fold {ν : Type} {view : σ → ν} {effect : ν → α → ν}
    (each : ∀ action ∈ todo, ∀ s t k, Completes perform s ⟨[action], answers.drop k⟩ t →
      view t = effect (view s) action) {k : Nat}
    (run : Completes perform s ⟨todo, answers.drop k⟩ t) : view t = todo.foldl effect (view s) := by
  induction todo generalizing s k with
  | nil => rw [completes_nil.mp run, foldl_nil]
  | cons action rest ih =>
    obtain ⟨u, j, one, others⟩ := run.split
      (show (⟨action :: rest, answers.drop k⟩ : Task α).todo = [action] ++ rest from rfl)
    rw [drop_drop] at others
    rw [foldl_cons, ← each action (.head _) s u k one]
    exact ih (fun other mem => each other (.tail _ mem)) others

/-- What each action, with all that it leads to, leaves alone, the task leaves alone. -/
theorem Completes.unchanged {ν : Type} {view : σ → ν}
    (each : ∀ action ∈ todo, ∀ s t answers, Completes perform s ⟨[action], answers⟩ t →
      view t = view s) (run : Completes perform s ⟨todo, answers⟩ t) :
    view t = view s := by
  have whole : answers = answers.drop 0 := rfl
  rw [whole] at run
  have folded := @Completes.fold _ _ _ _ _ _ _ _ view (fun before _ => before)
    (fun action mem s t k => each action mem s t _) _ run
  exact folded.trans (foldl_fixed _)

/-- **Actions that never wait, and lead to actions of lower rank only, come to an end.** -/
theorem completes_of_rank {ready : α → Prop} {rank : α → Nat}
    (goes : ∀ fails s action, ready action → ∃ t more, perform fails s action = some (t, more) ∧
      ∀ next ∈ more, ready next ∧ rank next < rank action) :
    ∀ (n : Nat) (todo : List α), (∀ action ∈ todo, ready action ∧ rank action < n) →
      ∀ (s : σ) (answers : List Bool), ∃ t, Completes perform s ⟨todo, answers⟩ t := by
  intro n
  induction n with
  | zero =>
    intro todo low s answers
    cases todo with
    | nil => exact ⟨s, .done rfl⟩
    | cons action rest => exact absurd (low action (.head _)).2 (Nat.not_lt_zero _)
  | succ n ih =>
    intro todo low
    induction todo with
    | nil => exact fun s answers => ⟨s, .done rfl⟩
    | cons action rest others =>
      intro s answers
      obtain ⟨isReady, below⟩ := low action (.head _)
      obtain ⟨u, more, done, lower⟩ := goes (answers.headD false) s action isReady
      obtain ⟨v, first⟩ := ih more (fun next mem =>
        ⟨(lower next mem).1, Nat.lt_of_lt_of_le (lower next mem).2 (Nat.le_of_lt_succ below)⟩)
        u answers.tail
      obtain ⟨k, follows⟩ := first.followed
      obtain ⟨t, second⟩ := others (fun other mem => low other (.tail _ mem)) v
        (answers.tail.drop k)
      exact ⟨t, completes_cons.mpr ⟨u, more, done, follows second⟩⟩

theorem completes_of_ready {ready : α → Prop} {rank : α → Nat}
    (goes : ∀ fails s action, ready action → ∃ t more, perform fails s action = some (t, more) ∧
      ∀ next ∈ more, ready next ∧ rank next < rank action) (all : ∀ action ∈ todo, ready action)
    (s : σ) (answers : List Bool) :
    ∃ t, Completes perform s ⟨todo, answers⟩ t := by
  refine completes_of_rank goes ((todo.map rank).sum + 1) todo (fun action mem => ⟨all action mem, ?_⟩)
    s answers
  exact Nat.lt_succ_of_le (single_le_sum (fun _ _ => Nat.zero_le _) _ (mem_map_of_mem mem))

theorem completes_of_runFor {n : Nat} (finished : (runFor perform n s task).2.todo = []) :
    Completes perform s task (runFor perform n s task).1 := by
  induction n generalizing s task with
  | zero => exact .done finished
  | succ n ih =>
    unfold runFor at finished ⊢
    split
    next t after moved =>
      rw [moved] at finished
      exact .step moved (ih finished)
    next stuck =>
      rw [stuck] at finished
      exact .done finished

/-! ### Tasks that take turns -/

structure System (σ α : Type) where
  shared : σ
  tasks : List (Task α)

inductive Turn (α : Type) where
  | begin (task : Task α)
  | advance (i : Nat)

variable (perform)

def System.step (s : System σ α) : Turn α → System σ α
  | .begin task => { s with tasks := s.tasks ++ [task] }
  | .advance i =>
    match s.tasks[i]? with
    | none => s
    | some task =>
      match task.next perform s.shared with
      | none => s
      | some (shared, after) => ⟨shared, s.tasks.set i after⟩

variable {perform}

theorem System.step_cases (s : System σ α) (turn : Turn α) :
    s.step perform turn = s ∨
    (∃ task, turn = .begin task ∧ s.step perform turn = { s with tasks := s.tasks ++ [task] }) ∨
    ∃ i task action rest shared more, turn = .advance i ∧ s.tasks[i]? = some task ∧
      task.todo = action :: rest ∧
      perform (task.answers.headD false) s.shared action = some (shared, more) ∧
      s.step perform turn = ⟨shared, s.tasks.set i ⟨more ++ rest, task.answers.tail⟩⟩ := by
  cases turn with
  | begin task => exact .inr (.inl ⟨task, rfl, rfl⟩)
  | advance i =>
    cases known : s.tasks[i]? with
    | none => exact .inl (by simp [step, known])
    | some task =>
      cases moved : task.next perform s.shared with
      | none => exact .inl (by simp [step, known, moved])
      | some result =>
        obtain ⟨shared, after⟩ := result
        obtain ⟨action, rest, more, isTodo, done, rfl⟩ := next_eq_some moved
        refine .inr (.inr ⟨i, task, action, rest, shared, more, rfl, known, isTodo, done, ?_⟩)
        simp [step, known, moved]

end Task

end Detrix.Library
