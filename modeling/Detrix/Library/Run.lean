/-
**Runs of a step function.**

A run is a list of events, each applied to the state that the ones before it have left. `Allowed`
says that every event of a run meets a condition on the state it is applied to; `invariant_after` is
the induction over such runs. `related_to_own` compares a run with the run of the events of one party
alone. `answers_eq` compares what two machines answer. `stateAt` is the sequence of states of an endless
run.
-/

import Mathlib.Init

namespace Detrix.Library.Run

variable {σ ε : Type*} (step : σ → ε → σ)

def after (s : σ) (events : List ε) : σ := events.foldl step s

theorem after_cons (s : σ) (event : ε) (events : List ε) :
    after step s (event :: events) = after step (step s event) events := rfl

/-- Every event is allowed in the state it is applied to. -/
def Allowed (allowed : σ → ε → Prop) : σ → List ε → Prop
  | _, [] => True
  | s, event :: events => allowed s event ∧ Allowed allowed (step s event) events

instance (allowed : σ → ε → Prop) [∀ s event, Decidable (allowed s event)] :
    ∀ (s : σ) (events : List ε), Decidable (Allowed step allowed s events)
  | _, [] => .isTrue trivial
  | s, event :: events =>
    have := instDecidableAllowed allowed (step s event) events
    inferInstanceAs (Decidable (_ ∧ _))

variable {allowed : σ → ε → Prop} {inv : σ → Prop}

/-- **What one allowed step preserves, an allowed run preserves.** -/
theorem invariant_after (keeps : ∀ s event, inv s → allowed s event → inv (step s event)) :
    ∀ (events : List ε) (s : σ), inv s → Allowed step allowed s events →
      inv (after step s events)
  | [], _, start, _ => start
  | event :: events, s, start, ⟨now, later⟩ => by
    rw [after_cons]
    exact invariant_after keeps events (step s event) (keeps s event start now) later

/-- What every step preserves, every run preserves. -/
theorem invariant_always (keeps : ∀ s event, inv s → inv (step s event)) :
    ∀ (events : List ε) (s : σ), inv s → inv (after step s events)
  | [], _, start => start
  | event :: events, s, start => by
    rw [after_cons]
    exact invariant_always keeps events (step s event) (keeps s event start)

/-- **A measure that no step lowers is what it was exactly after the runs of steps that leave it alone.** -/
theorem unchanged_iff_allowed {measure : σ → Int} (keeps : ∀ s event, inv s → inv (step s event))
    (grows : ∀ s event, inv s → measure s ≤ measure (step s event))
    (exactly : ∀ s event, inv s → (measure (step s event) = measure s ↔ allowed s event)) :
    ∀ (events : List ε) (s : σ), inv s →
      (measure (after step s events) = measure s ↔ Allowed step allowed s events)
  | [], _, _ => ⟨fun _ => trivial, fun _ => rfl⟩
  | event :: events, s, start => by
    have now := grows s event start
    have next := keeps s event start
    have later : measure (step s event) ≤ measure (after step (step s event) events) ∧ inv _ :=
      @invariant_always _ _ step (fun t => measure (step s event) ≤ measure t ∧ inv t)
        (fun t other held => ⟨Int.le_trans held.1 (grows t other held.2), keeps t other held.2⟩)
        events _ ⟨Int.le_refl _, next⟩
    rw [after_cons]
    show _ ↔ allowed s event ∧ Allowed step allowed (step s event) events
    rw [← exactly s event start, ← unchanged_iff_allowed keeps grows exactly events (step s event) next]
    constructor
    · intro same
      have below := later.1
      exact ⟨by omega, by omega⟩
    · rintro ⟨first, rest⟩
      rw [rest, first]

/-- **A run and the events of one party in it.** If the events of the others keep two states related on
the left, and the party's own events on both sides, then the state after the run is related to the
state after the party's own events. -/
theorem related_to_own {related : σ → σ → Prop} {own : ε → Bool}
    (others : ∀ s alone event, own event = false → related s alone → related (step s event) alone)
    (both : ∀ s alone event, own event = true → allowed s event → related s alone →
      related (step s event) (step alone event)) :
    ∀ (events : List ε) (s alone : σ), related s alone → Allowed step allowed s events →
      related (after step s events) (after step alone (events.filter own))
  | [], _, _, start, _ => start
  | event :: events, s, alone, start, ⟨now, later⟩ => by
    rw [after_cons]
    cases whose : own event with
    | false =>
      rw [List.filter_cons_of_neg (by simp [whose])]
      exact related_to_own others both events _ _ (others s alone event whose start) later
    | true =>
      rw [List.filter_cons_of_pos whose, after_cons]
      exact related_to_own others both events _ _ (both s alone event whose now start) later

/-! ### What a run answers -/

def answers {α : Type*} (serve : σ → ε → α × σ) : σ → List ε → List α
  | _, [] => []
  | s, event :: events => (serve s event).1 :: answers serve (serve s event).2 events

/-- **Machines that answer alike in related states, and stay related, answer alike in every run.** -/
theorem answers_eq {α τ : Type*} {serve : σ → ε → α × σ} {other : τ → ε → α × τ}
    {related : σ → τ → Prop} (alike : ∀ s t event, related s t →
      (serve s event).1 = (other t event).1 ∧ related (serve s event).2 (other t event).2) :
    ∀ (events : List ε) (s : σ) (t : τ), related s t → answers serve s events = answers other t events
  | [], _, _, _ => rfl
  | event :: events, s, t, start => by
    obtain ⟨now, next⟩ := alike s t event start
    rw [answers, answers, now, answers_eq alike events _ _ next]

/-! ### Endless runs -/

/-- The state in which the `n`-th event of an endless run happens. -/
def stateAt (start : σ) (run : Nat → ε) : Nat → σ
  | 0 => start
  | n + 1 => step (stateAt start run n) (run n)

end Detrix.Library.Run
