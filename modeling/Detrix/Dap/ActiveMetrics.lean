/-
**The metrics that an adapter tracks.**

`active_metrics` maps the name of a metric to the metric, so a metric that is set takes the place of
any other one of its name. That every metric stands under its own name is a field of the map.
`get_insert` and `get_erase` say what the two writes do; `mem_metrics` is membership in the values.
`set` is what `set_metric` leaves, by the reply of the debugger.
-/

import Detrix.Core.Metric
import Mathlib.Data.List.AList

namespace Detrix.Dap

open Detrix.Core List

structure ActiveMetrics where
  table : AList fun _ : String => Metric
  keyed : ∀ name m, table.lookup name = some m → m.name = name

namespace ActiveMetrics

def empty : ActiveMetrics := ⟨∅, by simp⟩

variable (active : ActiveMetrics)

def get (name : String) : Option Metric := active.table.lookup name

def metrics : List Metric := active.table.entries.map (·.2)

def insert (m : Metric) : ActiveMetrics where
  table := active.table.insert m.name m
  keyed := by
    intro name stored found
    by_cases isName : name = m.name
    · subst isName
      rw [AList.lookup_insert, Option.some.injEq] at found
      rw [found]
    · rw [AList.lookup_insert_ne isName] at found
      exact active.keyed name stored found

def erase (name : String) : ActiveMetrics where
  table := active.table.erase name
  keyed := by
    intro other stored found
    by_cases isName : other = name
    · subst isName
      rw [AList.lookup_erase] at found
      exact absurd found (by simp)
    · rw [AList.lookup_erase_ne isName] at found
      exact active.keyed other stored found

end ActiveMetrics

/-- What a debugger does with a request: it carries it out, refuses it, or the request is not sent or
not answered. -/
inductive Reply where
  | accepted
  | rejected
  | lost
  deriving DecidableEq

namespace ActiveMetrics

variable {active : ActiveMetrics}

/-- What is tracked after `set_metric`: the metric is there before the request is sent, and is taken
out again if the debugger refuses it. -/
def set (active : ActiveMetrics) (m : Metric) : Reply → ActiveMetrics
  | .rejected => (active.insert m).erase m.name
  | .accepted | .lost => active.insert m

def leaves (m : Metric) : Reply → Option Metric
  | .rejected => none
  | .accepted | .lost => some m

variable {m : Metric}

theorem get_name {name : String} (found : active.get name = some m) : m.name = name :=
  active.keyed name m found

theorem get_insert (m : Metric) (name : String) :
    (active.insert m).get name = if name = m.name then some m else active.get name := by
  split
  next isName => rw [isName]; exact AList.lookup_insert active.table
  next ne => exact AList.lookup_insert_ne ne

theorem get_erase (name other : String) :
    (active.erase name).get other = if other = name then none else active.get other := by
  split
  next isName => rw [isName]; exact AList.lookup_erase name active.table
  next ne => exact AList.lookup_erase_ne ne

theorem get_set (m : Metric) (reply : Reply) (name : String) :
    (active.set m reply).get name = if name = m.name then leaves m reply else active.get name := by
  cases reply with
  | accepted | lost => exact get_insert m name
  | rejected =>
    rw [set, get_erase]
    split
    · rfl
    next ne => rw [get_insert, if_neg ne]

theorem mem_metrics : m ∈ active.metrics ↔ active.get m.name = some m := by
  rw [metrics, mem_map]
  constructor
  · rintro ⟨⟨name, stored⟩, mem, rfl⟩
    have found := AList.mem_lookup_iff.mpr mem
    rw [active.keyed name stored found]
    exact found
  · intro found
    exact ⟨⟨m.name, m⟩, AList.mem_lookup_iff.mp found, rfl⟩

theorem mem_metrics_insert (a : Metric) : a ∈ (active.insert m).metrics ↔
    a = m ∨ (a.name ≠ m.name ∧ a ∈ active.metrics) := by
  rw [mem_metrics, mem_metrics, get_insert]
  split
  next isName =>
    rw [Option.some.injEq]
    exact ⟨fun isM => .inl isM.symm, fun isM => isM.elim Eq.symm fun other => absurd isName other.1⟩
  next ne =>
    exact ⟨fun found => .inr ⟨ne, found⟩, fun isIn => isIn.elim
      (fun isM => absurd (congrArg Metric.name isM) ne) (·.2)⟩

theorem mem_metrics_erase {name : String} (a : Metric) : a ∈ (active.erase name).metrics ↔
    a.name ≠ name ∧ a ∈ active.metrics := by
  rw [mem_metrics, mem_metrics, get_erase]
  split
  next isName => exact ⟨fun found => absurd found (by simp), fun other => absurd isName other.1⟩
  next ne => exact ⟨fun found => ⟨ne, found⟩, fun other => other.2⟩

theorem find_metrics (active : ActiveMetrics) (name : String) :
    active.metrics.find? (·.name = name) = active.get name := by
  cases found : active.metrics.find? (·.name = name) with
  | none =>
    rw [find?_eq_none] at found
    cases stored : active.get name with
    | none => rfl
    | some m =>
      have isName := get_name stored
      exact absurd (decide_eq_true isName) (found m (mem_metrics.mpr (isName.symm ▸ stored)))
  | some m =>
    have isName : m.name = name := by simpa using find?_some found
    rw [← isName]
    exact (mem_metrics.mp (mem_of_find?_eq_some found)).symm

theorem metrics_nodup (active : ActiveMetrics) : active.metrics.Nodup := by
  have names : (active.metrics.map (·.name)) = active.table.entries.keys := by
    rw [metrics, map_map]
    refine map_congr_left fun entry mem => ?_
    exact active.keyed entry.1 entry.2 (AList.mem_lookup_iff.mpr mem)
  refine .of_map (·.name) ?_
  rw [names]
  exact active.table.nodupKeys

end ActiveMetrics

end Detrix.Dap
