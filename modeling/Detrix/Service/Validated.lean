/-
**What is stored has been validated.**

Importing, adding and updating validate a metric before it is written, and toggling changes nothing
that the validation reads. The exception is the merge of `add_metric`: the new expressions were
validated under the submitted language and safety level, but are stored under those of the existing
metric, next to its expressions.

- `FieldsPass.merge`: when a merged metric passes.
- `stored_metrics_pass`: in a run whose merges all pass, every stored metric passes.
- `merged_metric_fails`: an expression that was not checked is merged into a strict metric.
-/

import Detrix.Service.Runs

namespace Detrix.Service

open Detrix.Core Library Safety List Repository

/-! ### What the validation reads -/

variable {env : Env} {m : Metric}

theorem FieldsPass.storedAs (passes : FieldsPass env m) (id : MetricId) :
    FieldsPass env (Service.storedAs id m) :=
  passes.congr rfl rfl rfl rfl rfl

theorem FieldsPass.writeColumns (passes : FieldsPass env m) (row : Metric) :
    FieldsPass env (Service.writeColumns row m) :=
  passes.congr rfl rfl rfl rfl rfl

theorem FieldsPass.anchored (passes : FieldsPass env m) :
    FieldsPass env (Service.anchored env m).1 := by
  obtain ⟨anchor, anchorStatus, isAnchored⟩ := anchored_eq env m
  rw [isAnchored]
  exact passes.congr rfl rfl rfl rfl rfl

theorem FieldsPass.of_validateMetric {vfs : Vfs} {warns : List OperationWarning}
    (valid : validateMetric env vfs m = .ok warns) :
    FieldsPass env m := by
  obtain ⟨first, fields, -⟩ := except_bind_eq_ok.mp valid
  exact ⟨first, fields⟩

/-! ### Merging -/

/-- The new expressions fit into the existing metric: there is room for them, and each passes in its
language, at its level. -/
def MergePasses (env : Env) (existing m : Metric) : Prop :=
  existing.expressions.length + (newExpressions existing m).length ≤
      env.limits.maxExpressionsPerMetric ∧
    ∀ e ∈ newExpressions existing m,
      ExpressionPasses env existing.language existing.safetyLevel existing.location.file e

/-- **A merged metric passes exactly if the new expressions fit in.** -/
theorem FieldsPass.merge {existing : Metric} (passes : FieldsPass env existing) :
    FieldsPass env (mergeExpressions existing m) ↔ MergePasses env existing m := by
  rw [fieldsPass_iff] at passes ⊢
  obtain ⟨named, ⟨solid, mem, notBlank⟩, -, each⟩ := passes
  constructor
  · rintro ⟨-, -, room, merged⟩
    refine ⟨?_, fun e isNew => merged e (mem_append_right _ isNew)⟩
    exact length_append ▸ room
  · rintro ⟨room, new⟩
    refine ⟨named, ⟨solid, mem_append_left _ mem, notBlank⟩, ?_, fun e merged => ?_⟩
    · exact length_append.symm ▸ room
    · rcases mem_append.mp merged with old | isNew
      · exact each e old
      · exact new e isNew

/-! ### One effect -/

def RowsPass (env : Env) (w : World) : Prop := ∀ row ∈ w.repo.rows, FieldsPass env row

/-- Rows that pass stay so if what is written passes. -/
theorem RowsPass.change {a b : World} {e : Effect} (passes : RowsPass env a) (change : Change a e b)
    (saved : ∀ m, e = .saved m → FieldsPass env m)
    (updated : ∀ m, e = .updated m → FieldsPass env m) : RowsPass env b := by
  cases change with
  | @saved m id repo done =>
    intro row mem
    rw [(save_eq_ok done).2.1] at mem
    rcases mem_append.mp mem with old | new
    · exact passes row old
    · rw [mem_singleton.mp new]
      exact (saved m rfl).storedAs _
  | @updated m repo done =>
    intro row mem
    obtain ⟨id, -, rows, -⟩ := update_eq_ok done
    rw [rows] at mem
    obtain ⟨old, has, rfl⟩ := mem_map.mp mem
    unfold rewrite
    split
    · exact (updated m rfl).writeColumns old
    · exact passes old has
  | deleted done =>
    intro row mem
    rw [(delete_eq_ok done).1] at mem
    exact passes row (mem_filter.mp mem).1
  | handed | registered | unregistered => exact passes

/-- Where a request merges, the merged metric passes. -/
def MergesPass (env : Env) (w : World) : Request → Prop
  | .addMetric m false _ => ∀ existing,
    w.repo.findByLocation m.connectionId m.location m.userId = some existing →
      MergePasses env existing m
  | _ => True

/-- **Every effect of a request writes what passes**, if its merge does. -/
theorem RowsPass.effect {w a b : World} {e : Effect} {req : Request} (start : RowsPass env w)
    (merges : MergesPass env w req) (may : req.permitted env w a.repo e)
    (change : Change a e b) (passes : RowsPass env a) : RowsPass env b := by
  have toggled : ∀ scope m, ToggleEffect scope a.repo (.updated m) → FieldsPass env m := by
    rintro scope m ⟨row, mem, -, isOn, rfl⟩
    exact (passes row mem).congr rfl rfl rfl rfl rfl
  refine passes.change change ?_ ?_
  · rintro m rfl
    cases req with
    | importMetric imported =>
      obtain ⟨rfl, fields, -⟩ := may
      exact fields
    | addMetric added replace text =>
      obtain ⟨⟨-, -, warns, valid⟩, rfl, -⟩ := may
      exact (FieldsPass.of_validateMetric valid).anchored
    | updateMetric submitted scope => exact may.2.elim
    | _ => exact may.elim
  · rintro m rfl
    cases req with
    | addMetric added replace text =>
      obtain ⟨-, rfl, -, old, found, -, rfl⟩ := may
      have mem := (findByLocation_eq_some found).1
      exact (start old mem).merge.mpr (merges old found)
    | updateMetric submitted scope =>
      obtain ⟨⟨-, -, warns, valid⟩, rfl, -⟩ := may
      exact .of_validateMetric valid
    | toggleMetric id isOn scope | enableGroup group scope | disableGroup group scope =>
      exact toggled scope m may
    | _ => exact may.elim

/-! ### Runs -/

theorem rowsPass_step (w : World) (event : Request × List Answer) (passes : RowsPass env w)
    (merges : MergesPass env w event.1) :
    RowsPass env (step env w event) :=
  step_keeps (fun _ _ _ _ before => before)
    (fun _ _ _ may change before => passes.effect merges may change before) passes

/-- **Every stored metric passes the validation**, after every run from an empty repository whose
merges pass, whatever the storage and the adapters answer. -/
theorem stored_metrics_pass (env : Env) (w : World) (noRows : w.repo.rows = [])
    (events : List (Request × List Answer))
    (merges : Run.Allowed (step env) (fun w event => MergesPass env w event.1) w events) :
    ∀ row ∈ (Run.after (step env) w events).repo.rows,
      ∃ warnings, validateMetricFields env row = .ok warnings := by
  have start : RowsPass env w := by
    intro row mem
    rw [noRows] at mem
    cases mem
  exact Run.invariant_after (step env) rowsPass_step events w start merges

/-- A metric is imported and added again. -/
def importAndAdd : List (Request × List Answer) :=
  [(.importMetric smallMetric, []), (.addMetric smallMetric false none, [])]

theorem importAndAdd_pass :
    (step smallService emptyWorld (.importMetric smallMetric, [])).repo.rows =
        [storedAs 1 smallMetric] ∧
      ∀ row ∈ (Run.after (step smallService) emptyWorld importAndAdd).repo.rows,
        ∃ warnings, validateMetricFields smallService row = .ok warnings := by
  have rows : (storedWorld [smallMetric]).repo.rows = [storedAs 1 smallMetric] := by decide
  have nothingNew : newExpressions (storedAs 1 smallMetric) smallMetric = [] := by decide
  have first := step_import_first smallMetric_passes
  refine ⟨first ▸ rows, stored_metrics_pass smallService emptyWorld rfl importAndAdd
    ⟨trivial, fun old found => ?_, trivial⟩⟩
  rw [first] at found
  have mem := (findByLocation_eq_some found).1
  rw [rows, mem_singleton] at mem
  rw [mem, MergePasses, nothingNew]
  exact ⟨by decide, nofun⟩

/-! ### A merge across languages -/

/-- A metric at the same place in a language without validator, which is not checked. -/
def scriptMetric : Metric :=
  { smallMetric with expressions := ["f(x)"], language := .javaScript }

/-- The two expressions under the name and the language of the first metric. -/
def mergedMetric : Metric := { storedAs 1 smallMetric with expressions := ["x", "f(x)"] }

theorem scriptMetric_merged :
    (addMetric smallService scriptMetric false none (storedWorld [smallMetric])).1.toOption.isSome ∧
      mergedMetric ∈
        (addMetric smallService scriptMetric false none (storedWorld [smallMetric])).2.repo.rows := by
  decide +kernel

/-- In strict Python the unknown function is refused. -/
theorem mergedMetric_not_fieldsPass : ¬ FieldsPass smallService mergedMetric := by
  have no : (validate smallService.rt .python ((smallService.config .python).validator .python)
      mergedMetric.safetyLevel (smallService.parse .python (Language.python.wrap "f(x)"))).isSafe =
        false := by
    decide +kernel
  rw [fieldsPass_iff]
  rintro ⟨-, -, -, each⟩
  obtain ⟨warns, passes⟩ := (each "f(x)" (by decide)).2 .python rfl
  exact nomatch passes

/-- Both requests succeed, and the stored metric does not pass in its own language. -/
theorem merged_metric_fails :
    (importMetric smallService smallMetric emptyWorld).1 = .ok 1 ∧
      (addMetric smallService scriptMetric false none
        (step smallService emptyWorld (.importMetric smallMetric, []))).1.toOption.isSome ∧
      mergedMetric ∈ (Run.after (step smallService) emptyWorld
        [(.importMetric smallMetric, []), (.addMetric scriptMetric false none, [])]).repo.rows ∧
      ¬ ∃ warnings, validateMetricFields smallService mergedMetric = .ok warnings := by
  have saved : emptyWorld.repo.save smallMetric = .ok (1, saveAll [smallMetric]) := rfl
  have imported := importMetric_quiet (w := emptyWorld) rfl smallMetric_passes saved
  obtain ⟨ok, merged⟩ := scriptMetric_merged
  refine ⟨congrArg Prod.fst imported, ok, ?_, mergedMetric_not_fieldsPass⟩
  exact merged

end Detrix.Service
