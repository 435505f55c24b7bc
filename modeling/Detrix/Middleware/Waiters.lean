/-
**Waiting for a reconnection.**

The first call of `attempt_reconnect` sets a flag and reconnects; a call that finds the flag set waits
to be notified. The flag is cleared, and the calls that wait are notified, when the first one is done.

- `calls_return`: at most one call reconnects at a time, and every call returns unless a guard notifies
  while a call has found the flag set and does not wait yet.
-/

import Detrix.Middleware.ReconnectingAdapter
import Mathlib.Algebra.Order.BigOperators.Group.Finset
import Mathlib.Data.Fintype.BigOperators

namespace Detrix.Middleware.Waiters

open Library.Run

/-- Where a call of `attempt_reconnect` is. -/
inductive Phase where
  | start
  /-- The flag was found set, and `notified()` is not called yet. -/
  | refused
  | waiting (woken : Bool)
  /-- In `do_reconnect`, with the attempts that are left. -/
  | reconnecting (left : Nat)
  /-- The two statements of `ReconnectGuard::drop`. -/
  | clearing | notifying
  | returned
  deriving DecidableEq

structure Calls (n : Nat) where
  flag : Bool
  phase : Fin n → Phase

def attempts (config : ReconnectConfig) : Nat :=
  if config.maxAttempts = 0 then 4294967295 else config.maxAttempts

/-- The flag and the phase after the next action of a call, or `none` if it has none or is asleep. -/
def advance (config : ReconnectConfig) (flag succeeds : Bool) : Phase → Option (Bool × Phase)
  | .start => some (if !config.enabled then (flag, .returned) else if flag then (flag, .refused)
    else (true, .reconnecting (attempts config)))
  | .refused => some (flag, .waiting false)
  | .waiting true => some (flag, .returned)
  | .reconnecting 0 => some (flag, .clearing)
  | .reconnecting (left + 1) => some (flag, if succeeds then .clearing else .reconnecting left)
  | .clearing => some (false, .notifying)
  | .notifying => some (flag, .returned)
  | .waiting false | .returned => none

def wake : Phase → Phase
  | .waiting _ => .waiting true
  | phase => phase

variable {n : Nat} (config : ReconnectConfig)

/-- A call goes on, with whether the inner `start` succeeds. -/
def step (s : Calls n) (turn : Fin n × Bool) : Calls n :=
  match advance config s.flag turn.2 (s.phase turn.1) with
  | none => s
  | some (flag, next) =>
    let told := if s.phase turn.1 = .notifying then wake else id
    ⟨flag, fun i => if i = turn.1 then next else told (s.phase i)⟩

def initial (n : Nat) : Calls n := ⟨false, fun _ => .start⟩

namespace Phase

/-- The guard exists, and the flag is not cleared. -/
def holds : Phase → Bool
  | .reconnecting _ | .clearing => true
  | _ => false

/-- The call will notify those that wait. -/
def notifies (phase : Phase) : Bool := phase.holds || phase = .notifying

def asleep : Phase → Bool
  | .refused | .waiting false => true
  | _ => false

end Phase

/-- A guard does not notify while a call has still to wait, unless another call will notify. -/
def InTime (s : Calls n) (turn : Fin n × Bool) : Prop :=
  s.phase turn.1 = .notifying → ∀ i, s.phase i = .refused →
    ∃ j, j ≠ turn.1 ∧ (s.phase j).notifies = true

/-! ### One action -/

variable {config} {flag later succeeds : Bool} {phase next : Phase}

theorem advance_holds (moved : advance config flag succeeds phase = some (later, next)) :
    later = flag ∧ next.holds = phase.holds ∨
      phase.holds = false ∧ flag = false ∧ later = true ∧ next.holds = true ∨
      phase.holds = true ∧ later = false ∧ next.holds = false := by
  revert moved
  fun_cases advance <;> grind [Phase.holds]

theorem advance_notifies (moved : advance config flag succeeds phase = some (later, next))
    (notifies : phase.notifies = true) : phase = .notifying ∨ next.notifies = true := by
  revert moved
  fun_cases advance <;> grind [Phase.notifies, Phase.holds]

theorem advance_asleep (moved : advance config flag succeeds phase = some (later, next))
    (asleep : next.asleep = true) : phase = .refused ∨ phase = .start ∧ flag = true := by
  revert moved
  fun_cases advance <;> grind [Phase.asleep]

theorem advance_none (stuck : advance config flag succeeds phase = none) :
    phase = .waiting false ∨ phase = .returned := by
  revert stuck
  fun_cases advance <;> simp

/-- How many actions a call has at most before it. -/
def rank (config : ReconnectConfig) : Phase → Nat
  | .start => attempts config + 4
  | .reconnecting left => left + 3
  | .refused | .clearing => 2
  | .waiting _ | .notifying => 1
  | .returned => 0

theorem rank_advance (moved : advance config flag succeeds phase = some (later, next)) :
    rank config next < rank config phase := by
  revert moved
  fun_cases advance <;> grind [rank]

/-! ### All calls -/

variable {s : Calls n} {turn : Fin n × Bool}

/-- **What a turn does**: nothing, or the next action of a call; the others are told at most that they
need not wait. -/
theorem step_cases : advance config s.flag turn.2 (s.phase turn.1) = none ∧ step config s turn = s ∨
    ∃ later next, advance config s.flag turn.2 (s.phase turn.1) = some (later, next) ∧
      (step config s turn).flag = later ∧ (step config s turn).phase turn.1 = next ∧
      ∀ i ≠ turn.1, ((step config s turn).phase i).holds = (s.phase i).holds ∧
        ((step config s turn).phase i).notifies = (s.phase i).notifies ∧
        rank config ((step config s turn).phase i) = rank config (s.phase i) ∧
        (((step config s turn).phase i).asleep = true →
          (s.phase i).asleep = true ∧ (s.phase turn.1 = .notifying → s.phase i = .refused)) := by
  unfold step
  split
  next stuck => exact .inl ⟨stuck, rfl⟩
  next later next moved =>
    refine .inr ⟨later, next, moved, rfl, if_pos rfl, fun i other => ?_⟩
    by_cases notifies : s.phase turn.1 = .notifying
    · simp only [if_neg other, if_pos notifies]
      cases s.phase i <;> simp [notifies, wake, Phase.holds, Phase.notifies, Phase.asleep, rank]
    · simp [other, notifies]

/-- **The flag is set by the one call that holds the guard.** -/
def Guarded (s : Calls n) : Prop :=
  ∃ owner : Option (Fin n), s.flag = owner.isSome ∧ ∀ i, (s.phase i).holds = decide (owner = some i)

theorem guarded_step (guarded : Guarded s) : Guarded (step config s turn) := by
  rcases @step_cases n config s turn with ⟨-, same⟩ | ⟨later, next, moved, isFlag, isNext, others⟩
  · rwa [same]
  obtain ⟨owner, flagged, held⟩ := guarded
  rcases advance_holds moved with ⟨same, keeps⟩ | ⟨-, free, set, holds⟩ | ⟨holds, unset, free⟩
  · refine ⟨owner, by rw [isFlag, same, flagged], fun i => ?_⟩
    by_cases own : i = turn.1
    · rw [own, isNext, keeps, held]
    · rw [(others i own).1, held]
  · refine ⟨some turn.1, by rw [isFlag, set]; rfl, fun i => ?_⟩
    grind
  · refine ⟨none, by rw [isFlag, unset]; rfl, fun i => ?_⟩
    grind

/-- **A call that sleeps will be notified.** -/
def Awaited (s : Calls n) : Prop :=
  ∀ i, (s.phase i).asleep = true → ∃ j, (s.phase j).notifies = true

theorem awaited_step (guarded : Guarded s) (awaited : Awaited s) (inTime : InTime s turn) :
    Awaited (step config s turn) := by
  rcases @step_cases n config s turn with ⟨-, same⟩ | ⟨later, next, moved, -, isNext, others⟩
  · rwa [same]
  intro i asleep
  -- a call that will notify, other than the one that does so in this turn
  obtain ⟨j, notifies, goesOn⟩ : ∃ j, (s.phase j).notifies = true ∧
      (j = turn.1 → s.phase turn.1 ≠ .notifying) := by
    by_cases own : i = turn.1
    · rw [own, isNext] at asleep
      rcases advance_asleep moved asleep with no | ⟨start, set⟩
      · obtain ⟨j, notifies⟩ := awaited turn.1 (by rw [no]; rfl)
        exact ⟨j, notifies, by simp [no]⟩
      · obtain ⟨owner, flagged, held⟩ := guarded
        obtain ⟨j, isOwner⟩ := Option.isSome_iff_exists.mp (flagged.symm.trans set)
        exact ⟨j, by simp [Phase.notifies, held, isOwner], by simp [start]⟩
    · obtain ⟨was, no⟩ := (others i own).2.2.2 asleep
      by_cases notifying : s.phase turn.1 = .notifying
      · obtain ⟨j, other, notifies⟩ := inTime notifying i (no notifying)
        exact ⟨j, notifies, fun same => absurd same other⟩
      · obtain ⟨j, notifies⟩ := awaited i was
        exact ⟨j, notifies, fun _ => notifying⟩
  refine ⟨j, ?_⟩
  by_cases own : j = turn.1
  · rw [own] at notifies ⊢
    rw [isNext]
    exact (advance_notifies moved notifies).resolve_left (goesOn own)
  · rwa [(others j own).2.1]

def measure (config : ReconnectConfig) (s : Calls n) : Nat := ∑ i, rank config (s.phase i)

theorem measure_step : advance config s.flag turn.2 (s.phase turn.1) = none ∧ step config s turn = s ∨
    measure config (step config s turn) < measure config s := by
  rcases @step_cases n config s turn with stuck | ⟨later, next, moved, -, isNext, others⟩
  · exact .inl stuck
  · have lower := rank_advance moved
    rw [← isNext] at lower
    refine .inr (Finset.sum_lt_sum (fun i _ => ?_) ⟨turn.1, Finset.mem_univ _, lower⟩)
    by_cases own : i = turn.1
    · rw [own]
      exact Nat.le_of_lt lower
    · exact (others i own).2.2.1.le

/-- As long as a call has not returned, one can go on. -/
theorem goes_on (awaited : Awaited s) {i : Fin n} (unfinished : s.phase i ≠ .returned) :
    ∃ turn, step config s turn ≠ s := by
  by_contra stuck
  have asleep : ∀ j, s.phase j = .waiting false ∨ s.phase j = .returned := by
    intro j
    rcases @measure_step n config s (j, true) with ⟨none, -⟩ | lower
    · exact advance_none none
    · rw [not_exists_not.mp stuck] at lower
      exact absurd lower (Nat.lt_irrefl _)
  obtain ⟨j, notifies⟩ := awaited i (by rw [(asleep i).resolve_right unfinished]; rfl)
  rcases asleep j with same | same <;> rw [same] at notifies <;> cases notifies

/-- **Every call returns, and at most one reconnects at a time**, in every run that goes on as long as
it can: if no guard notifies too early. -/
theorem calls_return (config : ReconnectConfig) (n : Nat) (run : Nat → Fin n × Bool) :
    let state := stateAt (step config) (initial n) run
    (∀ t i j left more, (state t).phase i = .reconnecting left →
      (state t).phase j = .reconnecting more → i = j) ∧
    ((∀ t, InTime (state t) (run t)) →
      (∀ t, (∃ turn, step config (state t) turn ≠ state t) →
        ∃ later ≥ t, state (later + 1) ≠ state later) →
      ∃ t, ∀ i, (state t).phase i = .returned) := by
  intro state
  have guarded : ∀ t, Guarded (state t) := by
    intro t
    induction t with
    | zero => exact ⟨none, rfl, fun _ => rfl⟩
    | succ t ih => exact guarded_step ih
  refine ⟨fun t i j left more one other => ?_, fun inTime goesOn => ?_⟩
  · obtain ⟨owner, -, held⟩ := guarded t
    have first := held i
    have second := held j
    rw [one] at first
    rw [other] at second
    exact Option.some.inj ((of_decide_eq_true first.symm).symm.trans (of_decide_eq_true second.symm))
  · have awaited : ∀ t, Awaited (state t) := by
      intro t
      induction t with
      | zero => exact fun i asleep => Bool.noConfusion asleep
      | succ t ih => exact awaited_step (guarded t) ih (inTime t)
    have falls : Antitone fun t => measure config (state t) := antitone_nat_of_succ_le fun t =>
      (@measure_step n config (state t) (run t)).elim (fun same => (congrArg _ same.2).le) Nat.le_of_lt
    have returns : ∀ m t, measure config (state t) = m → ∃ t, ∀ i, (state t).phase i = .returned := by
      intro m
      induction m using Nat.strong_induction_on with
      | _ m ih =>
        rintro t rfl
        by_cases finished : ∀ i, (state t).phase i = .returned
        · exact ⟨t, finished⟩
        · obtain ⟨i, unfinished⟩ := not_forall.mp finished
          obtain ⟨later, after, moved⟩ := goesOn t (goes_on (awaited t) unfinished)
          have lower := measure_step.resolve_left fun stuck => moved stuck.2
          exact ih _ (lower.trans_le (falls after)) (later + 1) rfl
    exact returns _ 0 rfl

/-- The second call finds the flag set, and waits only after the first one has notified. -/
def race : List (Fin 2 × Bool) :=
  [(0, true), (1, true), (0, true), (0, true), (0, true), (1, true)]

theorem missed_notification :
    (after (step ⟨true, 1, false⟩) (initial 2) race).phase 1 = .waiting false ∧
      ∀ turn, step ⟨true, 1, false⟩ (after (step ⟨true, 1, false⟩) (initial 2) race) turn =
        after (step ⟨true, 1, false⟩) (initial 2) race :=
  ⟨rfl, fun
    | (0, _) => rfl
    | (1, _) => rfl⟩

end Detrix.Middleware.Waiters
