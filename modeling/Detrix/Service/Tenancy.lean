/-
**What a scoped caller changes.**

`remove_metric`, `toggle_metric` and the group operations check the stored metric before they write
it. `update_metric` checks the submitted metric and writes the row with its id, and `add_metric`
looks for a metric of the user at the location and merges into it or replaces it, whichever agent of
the user it belongs to.

- `ChangesOwn`: the rows that these two write are the caller's own, or nothing is written.
- `others_unchanged_iff`: a call leaves what the caller may not mutate unchanged exactly then.
- `foreign_metrics_changed`: an agent replaces the metric of another one, and a user edits the
  metric of another one.
-/

import Detrix.Service.Runs

namespace Detrix.Service

open Detrix.Core Library Repository List Program
open Library.Program (Moves)

/-! ### Calls under a scope -/

/-- A call of the service under a scope. -/
inductive ScopedCall where
  | addMetric (m : Metric) (replace : Bool) (content : Option String)
  | updateMetric (m : Metric)
  | removeMetric (id : MetricId)
  | toggleMetric (id : MetricId) (enabled : Bool)
  | enableGroup (group : String)
  | disableGroup (group : String)

/-- The metric with the identity of the caller, as the handlers stamp it. -/
def stamped (scope : MetricScope) (m : Metric) : Metric :=
  { m with userId := scope.userId, agentId := scope.agentId }

/-- The request that the handlers make of a call. -/
def ScopedCall.request (scope : MetricScope) : ScopedCall → Request
  | addMetric m replace content => .addMetric (stamped scope m) replace content
  | updateMetric m => .updateMetric m scope
  | removeMetric id => .removeMetric id scope
  | toggleMetric id enabled => .toggleMetric id enabled scope
  | enableGroup group => .enableGroup group scope
  | disableGroup group => .disableGroup group scope

/-- Whatever the storage and the adapters answer, the metrics that the caller may not mutate are
stored afterwards as before. -/
def OthersUnchanged (env : Env) (scope : MetricScope) (w : World) (request : Request) : Prop :=
  ∀ answers, ∀ row ∈ w.repo.rows, scope.canMutate row = false →
    row ∈ (step env w (request, answers)).repo.rows

/-- **The rows that are written without a check are the caller's own.** A metric to be added finds
an own metric at its location, or is refused, or has nothing to merge; an update names an own row,
or is refused, or the location it asks for is taken, or it writes what is there. -/
def ChangesOwn (env : Env) (scope : MetricScope) (w : World) : ScopedCall → Prop
  | .addMetric m replace content => ∀ existing,
    w.repo.findByLocation m.connectionId m.location scope.userId = some existing →
      scope.canMutate existing = true ∨ ¬ AddAccepted env w (stamped scope m) content ∨
        (replace = false ∧ newExpressions existing m = [])
  | .updateMetric m => ∀ row ∈ w.repo.rows, row.id = m.id →
    scope.canMutate row = true ∨ ¬ UpdateAccepted env w m scope ∨
      (∃ other ∈ w.repo.rows, other ≠ row ∧ slot other = slot (writeColumns row m)) ∨
      writeColumns row m = row
  | _ => True

/-! ### Own rows -/

variable {m : Metric} {content : Option String}

section Kept

variable {env : Env} {scope : MetricScope} {w a b : World} {row : Metric} {e : Effect}

/-- A stored row outlives the effects that do not name its id. -/
theorem row_kept (mem : row ∈ a.repo.rows) (change : Change a e b)
    (gone : ∀ id, e = .deleted id → row.id ≠ some id)
    (new : ∀ m, e = .updated m → row.id = m.id → (∃ repo, a.repo.update m = .ok repo) →
      writeColumns row m = row) : row ∈ b.repo.rows := by
  cases change with
  | saved done =>
    rw [(save_eq_ok done).2.1]
    exact mem_append_left _ mem
  | @updated m repo done =>
    obtain ⟨id, isId, rows, -⟩ := update_eq_ok done
    rw [rows, mem_map]
    refine ⟨row, mem, ?_⟩
    unfold rewrite
    split
    next isRow => exact new m rfl (isRow.trans isId.symm) ⟨repo, done⟩
    next => rfl
  | @deleted id repo done =>
    rw [(delete_eq_ok done).1, mem_filter]
    exact ⟨mem, by simpa using gone id rfl⟩
  | handed | registered | unregistered => exact mem

theorem ne_of_canMutate {own : Metric} (may : scope.canMutate own = true)
    (mayNot : scope.canMutate row = false) : row ≠ own := by
  rintro rfl
  rw [may] at mayNot
  exact Bool.noConfusion mayNot

theorem id_ne_of_canMutate {own : Metric} {repo : Repository} (mem : row ∈ repo.rows)
    (has : own ∈ repo.rows) (may : scope.canMutate own = true)
    (mayNot : scope.canMutate row = false) : row.id ≠ own.id :=
  fun same => ne_of_canMutate may mayNot (repo.eq_of_id mem has same)

theorem addMetric_keeps {replace : Bool}
    (own : ChangesOwn env scope w (.addMetric m replace content)) (mem : row ∈ w.repo.rows)
    (mayNot : scope.canMutate row = false) (ok : AddAccepted env w (stamped scope m) content)
    (permitted : AddEffect env w (stamped scope m) replace a.repo e) (change : Change a e b)
    (has : row ∈ a.repo.rows) : row ∈ b.repo.rows := by
  -- the metric at the location is written only if it is the caller's
  have notExisting : ∀ old,
      w.repo.findByLocation m.connectionId m.location scope.userId = some old →
      (replace = false → newExpressions old m ≠ []) → row.id ≠ old.id := by
    intro old found changes
    rcases own old found with may | no | ⟨merges, nothingNew⟩
    · exact id_ne_of_canMutate mem (findByLocation_eq_some found).1 may mayNot
    · exact absurd ok no
    · exact absurd nothingNew (changes merges)
  refine row_kept has change ?_ ?_
  · rintro id rfl
    rcases permitted with ⟨replaces, old, found, isId⟩ | isNext
    · rw [← isId]
      exact notExisting old found fun merges => by simp [replaces] at merges
    · obtain ⟨other, ne, below⟩ := w.repo.numbered row mem
      rw [isNext, ne, ne_eq, Option.some.injEq]
      exact Nat.ne_of_lt below
  · rintro merged rfl same -
    obtain ⟨-, -, old, found, isNew, rfl⟩ := permitted
    exact absurd same (notExisting old found fun _ => isNew)

theorem updateMetric_keeps (own : ChangesOwn env scope w (.updateMetric m))
    (mem : row ∈ w.repo.rows) (mayNot : scope.canMutate row = false)
    (ok : UpdateAccepted env w m scope) (permitted : UpdateEffect w m a.repo e)
    (change : Change a e b) (has : row ∈ a.repo.rows) : row ∈ b.repo.rows := by
  refine row_kept has change ?_ ?_
  · rintro id rfl
    exact permitted.elim
  · rintro put rfl same succeeds
    obtain ⟨rfl, sameRepo⟩ := permitted
    rw [sameRepo] at succeeds
    rcases own row mem same with may | no | ⟨other, isIn, ne, taken⟩ | unchanged
    · cases ne_of_canMutate may mayNot rfl
    · exact absurd ok no
    · exact absurd taken ((update_succeeds_iff mem same).mp succeeds other isIn ne)
    · exact unchanged

/-- **Own rows only**: what the caller may not mutate is kept. -/
theorem others_kept {call : ScopedCall} (own : ChangesOwn env scope w call) :
    OthersUnchanged env scope w (call.request scope) := by
  intro answers row mem mayNot
  have quiet : ∀ (v : World) vfs answers tracked, row ∈ v.repo.rows →
      row ∈ ({ v with vfs, answers, tracked } : World).repo.rows := fun _ _ _ _ before => before
  refine step_keeps quiet (fun a b e permitted change has => ?_) mem
  have toggled : ToggleEffect scope a.repo e → row ∈ b.repo.rows := by
    intro isToggle
    refine row_kept has change ?_ ?_
    · rintro id rfl
      exact isToggle.elim
    · rintro m rfl same -
      obtain ⟨own, ownIn, may, isOn, rfl⟩ := isToggle
      have ne : row.id ≠ own.id := id_ne_of_canMutate has ownIn may mayNot
      exact absurd same ne
  cases call with
  | addMetric m replace content =>
    exact addMetric_keeps own mem mayNot permitted.1 permitted.2 change has
  | updateMetric m => exact updateMetric_keeps own mem mayNot permitted.1 permitted.2 change has
  | removeMetric id =>
    refine row_kept has change ?_ ?_
    · rintro other rfl
      obtain ⟨rfl, own, ownIn, isId, may⟩ := permitted
      rw [← isId]
      exact id_ne_of_canMutate has ownIn may mayNot
    · rintro m rfl
      exact permitted.elim
  | toggleMetric id isOn | enableGroup group | disableGroup group => exact toggled permitted

end Kept

/-! ### Foreign rows

If a row of someone else would be written, it is: the calls are followed with a storage and adapters
that do not fail. -/

section Changed

variable {env : Env} {scope : MetricScope} {w : World}

/-- No row with an id appears again while another metric is inserted. -/
theorem insertMetric_keeps_absent {id : MetricId} {warns : List OperationWarning}
    (absent : ∀ row ∈ w.repo.rows, row.id ≠ some id) (old : id < w.repo.nextId) :
    ∀ row ∈ (insertMetric env m warns w).2.repo.rows, row.id ≠ some id := by
  have moves : Moves (Moved fun _ e => ∀ m, e ≠ .updated m) (insertMetric env m warns) w :=
    insertMetric_moves (by simp) (by simp) (by simp)
  have step : ∀ a b : World, Moved (fun _ e => ∀ m, e ≠ .updated m) a b →
      (∀ row ∈ a.repo.rows, row.id ≠ some id) ∧ id < a.repo.nextId →
        (∀ row ∈ b.repo.rows, row.id ≠ some id) ∧ id < b.repo.nextId := by
    rintro a b moved ⟨absent, old⟩
    cases moved with
    | quiet vfs answers => exact ⟨absent, old⟩
    | effect may change =>
      cases change with
      | saved done =>
        obtain ⟨-, rows, next⟩ := save_eq_ok done
        refine ⟨fun row mem => ?_, ?_⟩
        · rw [rows] at mem
          rcases mem_append.mp mem with before | new
          · exact absent row before
          · rw [mem_singleton.mp new]
            intro same
            exact Nat.ne_of_gt old (Option.some.inj same)
        · rw [next]
          exact Nat.lt_succ_of_lt old
      | updated done => cases may _ rfl
      | deleted done =>
        obtain ⟨rows, next⟩ := delete_eq_ok done
        refine ⟨fun row mem => ?_, ?_⟩
        · rw [rows] at mem
          exact absent row (mem_filter.mp mem).1
        · rw [next]
          exact old
      | handed | registered | unregistered => exact ⟨absent, old⟩
  exact (moves.keeps step ⟨absent, old⟩).1

theorem replaced_gone {existing : Metric} (quiet : w.answers = [])
    (ok : AddAccepted env w m content)
    (found : w.repo.findByLocation m.connectionId m.location m.userId = some existing) :
    existing ∉ (addMetric env m true content w).2.repo.rows := by
  obtain ⟨mem, -⟩ := findByLocation_eq_some found
  obtain ⟨id, isId, old⟩ := w.repo.numbered existing mem
  obtain ⟨repo, done⟩ := delete_succeeds mem isId
  obtain ⟨rows, next⟩ := delete_eq_ok done
  obtain ⟨warns, isRun⟩ := addMetric_quiet quiet ok found true
  obtain ⟨warning, replaced⟩ := replaceExisting_quiet (m := m)
    (w := w.keeps m content) quiet isId done
  rw [isRun, if_pos rfl, bind_of_ok replaced]
  intro has
  refine insertMetric_keeps_absent (fun row kept => ?_) (by exact next ▸ old) existing has isId
  rw [rows] at kept
  simpa using (mem_filter.mp kept).2

theorem merged_gone {old : Metric} (quiet : w.answers = [])
    (ok : AddAccepted env w m content)
    (found : w.repo.findByLocation m.connectionId m.location m.userId = some old)
    (isNew : newExpressions old m ≠ []) :
    old ∉ (addMetric env m false content w).2.repo.rows := by
  obtain ⟨mem, -⟩ := findByLocation_eq_some found
  obtain ⟨id, isId, -⟩ := w.repo.numbered old mem
  have isMerged : old.id = (mergeExpressions old m).id := rfl
  have free : ∀ other ∈ w.repo.rows, other ≠ old →
      slot other ≠ slot (writeColumns old (mergeExpressions old m)) :=
    fun other has ne taken => ne (w.repo.slot_eq_of_slot has mem taken)
  obtain ⟨repo, done⟩ := (update_succeeds_iff mem isMerged).mpr free
  have changes : writeColumns old (mergeExpressions old m) ≠ old := by
    intro same
    have exprs : old.expressions ++ newExpressions old m = old.expressions :=
      congrArg Metric.expressions same
    exact isNew (by simpa using exprs)
  obtain ⟨warns, isRun⟩ := addMetric_quiet quiet ok found false
  have new := storageUpdate_quiet (w := w.keeps m content) quiet done
  rw [isRun, if_neg (by simp), mergeInto, isId]
  dsimp only
  rw [if_neg isNew, bind_of_ok new]
  have rest : ∀ v : World, Moves (Moved Hands) (if old.enabled = true then do
      resetLogpoint m.connectionId old (mergeExpressions old m)
      pure (id, warns ++ [.expressionsMerged old.name id (newExpressions old m)
        (locationText m.location)])
    else pure (id, warns ++ [.expressionsMerged old.name id (newExpressions old m)
        (locationText m.location)])) v := by
    intro v
    split
    · exact .bind (resetLogpoint_moves trivial) fun _ _ _ => .ret _
    · exact .ret _
  rw [hands_repo (rest _)]
  exact not_mem_of_update mem isMerged changes done

theorem updated_gone {row : Metric} (quiet : w.answers = [])
    (ok : UpdateAccepted env w m scope) (mem : row ∈ w.repo.rows) (isRow : row.id = m.id)
    (free : ∀ other ∈ w.repo.rows, other ≠ row → slot other ≠ slot (writeColumns row m))
    (changes : writeColumns row m ≠ row) : row ∉ (updateMetric env m scope w).2.repo.rows := by
  obtain ⟨repo, done⟩ := (update_succeeds_iff mem isRow).mpr free
  obtain ⟨may, safe, warns, valid⟩ := ok
  have first : checkMutateAccess scope m w = (.ok (), w) := by
    rw [checkMutateAccess, if_pos may, pure_apply]
  obtain ⟨old, fetched⟩ := fetchOld_quiet m quiet
  unfold updateMetric
  rw [bind_of_ok first, bind_of_ok (checkSafeMode_of safe), bind_of_ok (checkMetric_of valid),
    bind_of_ok fetched]
  dsimp only
  rw [bind_of_ok (storageUpdate_quiet quiet done)]
  rw [hands_repo (syncUpdate_moves (fun _ => trivial) _)]
  exact not_mem_of_update mem isRow changes done

/-- **Where a call keeps what is not the caller's, it writes own rows only.** -/
theorem changesOwn_of_unchanged {call : ScopedCall}
    (unchanged : OthersUnchanged env scope w (call.request scope)) :
    ChangesOwn env scope w call := by
  have kept := unchanged []
  cases call with
  | addMetric m replace content =>
    intro old found
    by_contra notOwn
    simp only [not_or, not_not, not_and, Bool.not_eq_true] at notOwn
    obtain ⟨mayNot, ok, isNew⟩ := notOwn
    have mem := (findByLocation_eq_some found).1
    have stays := kept old mem mayNot
    simp only [step, ScopedCall.request, Request.serve, discard_state] at stays
    cases replace with
    | true => exact replaced_gone (w := { w with answers := [] }) rfl ok found stays
    | false => exact merged_gone (w := { w with answers := [] }) rfl ok found (isNew rfl) stays
  | updateMetric m =>
    intro row mem isRow
    by_contra notOwn
    simp only [not_or, not_not, not_exists, not_and, Bool.not_eq_true] at notOwn
    obtain ⟨mayNot, ok, free, changes⟩ := notOwn
    have stays := kept row mem mayNot
    simp only [step, ScopedCall.request, Request.serve, discard_state] at stays
    exact updated_gone (w := { w with answers := [] }) rfl ok mem isRow free changes stays
  | removeMetric id | toggleMetric id isOn | enableGroup group | disableGroup group => trivial

end Changed

/-- **A scoped call leaves everything that the caller may not mutate unchanged exactly if the rows it
writes without a check are the caller's own.** -/
theorem others_unchanged_iff (env : Env) (scope : MetricScope) (w : World) (call : ScopedCall) :
    (∀ answers, ∀ row ∈ w.repo.rows, scope.canMutate row = false →
      row ∈ (step env w (call.request scope, answers)).repo.rows) ↔ ChangesOwn env scope w call :=
  ⟨changesOwn_of_unchanged, others_kept⟩

/-! ### Two calls that change foreign metrics -/

/-- A metric of the agent `a` of the user `u`. -/
def agentMetric : Metric := { smallMetric with userId := some "u", agentId := some "a" }

/-- The same metric under another name and the caller's user id. -/
def foreignUpdate : Metric := { smallMetric with id := some 1, name := "n", userId := some "v" }

/-- The agent `b` replaces the metric of the agent `a`, and the user `v` renames it. -/
theorem foreign_metrics_changed :
    (∃ row ∈ (storedWorld [agentMetric]).repo.rows,
      (MetricScope.agent "u" "b").canMutate row = false ∧
      row ∉ (step smallService (storedWorld [agentMetric]) (ScopedCall.request (.agent "u" "b")
        (.addMetric smallMetric true none), [])).repo.rows) ∧
    ∃ row ∈ (storedWorld [agentMetric]).repo.rows, (MetricScope.user "v").canMutate row = false ∧
      row ∉ (step smallService (storedWorld [agentMetric]) (ScopedCall.request (.user "v")
        (.updateMetric foreignUpdate), [])).repo.rows := by
  decide

end Detrix.Service
