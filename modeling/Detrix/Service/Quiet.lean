/-
**Runs of the operations without a failing call.**

What the operations leave if neither the storage nor the adapter fails and the connection has its
adapter: the world is as before, or it is the one named here. `World.synced`, `World.toggled`,
`World.followed` and `World.installed` are what the adapter is left with.
-/

import Detrix.Service.Effects

namespace Detrix.Service

open Detrix.Core Dap Library Program List Repository World

/-! ### Worlds -/

section
variable (w : World) (connectionId : ConnectionId)

def World.sets (m : Metric) : World :=
  { w.tracks connectionId ((w.tracked connectionId).insert m) with
    handed := w.handed ++ [(connectionId, m)] }

def World.removes (m : Metric) : World :=
  w.tracks connectionId ((w.tracked connectionId).erase m.name)

def World.enabledAt (location : Location) : List Metric :=
  (w.repo.findAllAtLocation connectionId location).filter (·.enabled)

def World.setsLogpoint (enabled : List Metric) : World :=
  match logpoint enabled with
  | some merged => w.sets connectionId merged
  | none => w

def World.synced (location : Location)
    (reference : Metric) : World :=
  if mergedExpressions (w.enabledAt connectionId location) = [] then
    w.removes connectionId reference
  else w.setsLogpoint connectionId (w.enabledAt connectionId location)

def World.toggled (m : Metric) : World :=
  let cleared := if m.enabled then w else w.removes m.connectionId m
  cleared.setsLogpoint m.connectionId (w.enabledAt m.connectionId m.location)

def World.followed (old m : Metric) : World :=
  match old.enabled, m.enabled with
  | false, true => w.sets m.connectionId m
  | true, false => w.removes m.connectionId m
  | true, true => (w.removes m.connectionId old).sets m.connectionId m
  | false, false => w

def World.installed (m : Metric) (id : MetricId) : World :=
  if m.enabled then w.sets m.connectionId { m with id := some id } else w

end

/-! ### Calls -/

section Calls

variable {w : World}

theorem getAdapter_running {c : ConnectionId}
    (runs : w.hasAdapter c = true) : getAdapter c w = (.ok (), w) := by
  rw [getAdapter_apply, if_pos runs]

theorem syncLogpoint_quiet (quiet : w.answers = []) {c : ConnectionId}
    (runs : w.hasAdapter c = true) (loc : Location) (fallback : Metric) :
    syncLogpoint c loc (some fallback) w =
      (.ok (), w.synced c loc fallback) := by
  have asked := query_quiet (·.findAllAtLocation c loc) quiet
  have got := attempt_of (getAdapter_running runs)
  unfold syncLogpoint synced setsLogpoint enabledAt
  rw [bind_of_ok asked, bind_of_ok got]
  dsimp only [Option.some_or]
  split
  · have removed := attempt_of (adapterRemove_quiet c fallback quiet)
    rw [bind_of_ok removed]
    rfl
  · cases logpoint ((w.repo.findAllAtLocation c loc).filter (·.enabled)) with
    | none => rfl
    | some merged =>
      exact bind_of_ok (attempt_of (adapterSet_quiet c merged quiet)) _

variable {m row : Metric} {repo : Repository} {id : MetricId} {scope : MetricScope}

theorem checkMutateAccess_reads (scope : MetricScope) (m : Metric) (w : World) :
    (checkMutateAccess scope m w).2 = w := by
  unfold checkMutateAccess
  split <;> rfl

section
variable (quiet : w.answers = [])
include quiet

/-- The checks of an operation on a stored metric: it ends there, or it goes on with the metric. -/
theorem findAllowed_quiet (id : MetricId) (scope : MetricScope) (next : Metric → Operation α) :
    ((findMetric id >>= fun m => checkMutateAccess scope m >>= fun _ => next m) w).2 = w ∨
      ∃ m ∈ w.repo.rows, m.id = some id ∧
        (findMetric id >>= fun m => checkMutateAccess scope m >>= fun _ => next m) w = next m w := by
  have reads : (findMetric id w).2 = w := by
    rw [findMetric, bind_of_ok (query_quiet _ quiet)]
    cases w.repo.findById id <;> rfl
  rcases bind_of_reads reads _ with missing | ⟨m, found, isRun⟩
  · exact .inl missing
  obtain ⟨mem, isId, -⟩ := findMetric_ok found
  rw [isRun]
  rcases bind_of_reads (checkMutateAccess_reads scope m w) _ with no | ⟨_, -, isRun⟩
  · exact .inl no
  · exact .inr ⟨m, mem, isId, isRun⟩

/-! ### Removing and toggling -/

/-- **`remove_metric`** does nothing, or deletes the row and synchronises its location. -/
theorem removeMetric_quiet (id : MetricId) (scope : MetricScope)
    (runs : ∀ row ∈ w.repo.rows, w.hasAdapter row.connectionId = true) :
    (removeMetric id scope w).2 = w ∨
      ∃ m repo, m ∈ w.repo.rows ∧ m.id = some id ∧ w.repo.delete id = .ok repo ∧
        (removeMetric id scope w).2 =
          ({ w with repo } : World).synced m.connectionId m.location m := by
  unfold removeMetric
  rcases findAllowed_quiet quiet id scope _ with unchanged | ⟨m, mem, isId, isRun⟩
  · exact .inl unchanged
  · obtain ⟨repo, done⟩ := delete_succeeds mem isId
    refine .inr ⟨m, repo, mem, isId, done, ?_⟩
    rw [isRun, bind_of_ok (storageDelete_quiet quiet done),
      syncLogpoint_quiet (by exact quiet) (by exact runs m mem)]

theorem toggleLogpoint_quiet (m : Metric) (runs : w.hasAdapter m.connectionId = true) :
    toggleLogpoint m m.enabled w = (.ok (), w.toggled m) := by
  have asked := query_quiet (·.findAllAtLocation m.connectionId m.location) quiet
  unfold toggleLogpoint toggled setsLogpoint enabledAt
  rw [bind_of_ok (getAdapter_running runs), bind_of_ok asked]
  cases m.enabled with
  | true =>
    cases logpoint ((w.repo.findAllAtLocation m.connectionId m.location).filter (·.enabled)) with
    | none => rfl
    | some merged => exact bind_of_ok (adapterSet_quiet m.connectionId merged quiet) _
  | false =>
    have removed := adapterRemove_quiet m.connectionId m quiet
    cases logpoint ((w.repo.findAllAtLocation m.connectionId m.location).filter (·.enabled)) with
    | none => exact bind_of_ok removed _
    | some merged =>
      refine (bind_of_ok removed _).trans ?_
      exact bind_of_ok (adapterSet_quiet m.connectionId merged (by exact quiet)) _

end

theorem update_flag_succeeds (mem : m ∈ repo.rows) (enabled : Bool) :
    ∃ after, repo.update { m with enabled } = .ok after := by
  refine (update_succeeds_iff (m := { m with enabled }) mem rfl).mpr ?_
  intro other has ne taken
  exact ne (repo.slot_eq_of_slot has mem taken)

theorem rewrite_flag (mem : m ∈ repo.rows) (isId : m.id = some id) (enabled : Bool)
    (has : row ∈ repo.rows) :
    rewrite id { m with enabled } row = if row = m then { m with enabled } else row := by
  by_cases same : row = m
  · subst same
    rw [if_pos rfl, rewrite, if_pos isId]
    exact writeColumns_flag mem enabled
  · rw [if_neg same, rewrite, if_neg]
    exact fun isRow => same (repo.eq_of_id has mem (isRow.trans isId.symm))

/-- **`toggle_metric`** does nothing, or writes the flag and lets the adapter follow. -/
theorem toggleMetric_quiet (quiet : w.answers = []) (id : MetricId) (enabled : Bool)
    (scope : MetricScope) (runs : ∀ row ∈ w.repo.rows, w.hasAdapter row.connectionId = true) :
    (toggleMetric id enabled scope w).2 = w ∨
      ∃ m repo, m ∈ w.repo.rows ∧ m.enabled ≠ enabled ∧
        w.repo.update { m with enabled } = .ok repo ∧
        (toggleMetric id enabled scope w).2 = ({ w with repo } : World).toggled { m with enabled } := by
  unfold toggleMetric
  rcases findAllowed_quiet quiet id scope _ with unchanged | ⟨m, mem, -, isRun⟩
  · exact .inl unchanged
  rw [isRun]
  by_cases same : m.enabled = enabled
  · left
    rw [if_pos same, pure_apply]
  · right
    obtain ⟨repo, done⟩ := update_flag_succeeds mem enabled
    refine ⟨m, repo, mem, same, done, ?_⟩
    have toggled := toggleLogpoint_quiet (w := { w with repo }) quiet { m with enabled }
      (by exact runs m mem)
    rw [if_neg same, bind_of_ok (storageUpdate_quiet quiet done), bind_of_ok (attempt_of toggled)]
    rfl

/-! ### Updating -/

theorem followUpdate_quiet (quiet : w.answers = []) (old m : Metric) :
    (followUpdate m (some old) w) = (.ok (), w.followed old m) := by
  have set : ∀ t : World, t.answers = [] →
      (do let _ ← adapterSet m.connectionId m : Operation Unit) t =
        (.ok (), t.sets m.connectionId m) :=
    fun t isQuiet => bind_of_ok (adapterSet_quiet m.connectionId m isQuiet) _
  unfold followUpdate followed
  dsimp only
  cases old.enabled <;> cases m.enabled
  · rfl
  · exact set w quiet
  · exact adapterRemove_quiet m.connectionId m quiet
  · refine (bind_of_ok (adapterRemove_quiet m.connectionId old quiet) _).trans ?_
    exact set _ quiet

theorem fetchOld_stored (quiet : w.answers = []) (mem : row ∈ w.repo.rows)
    (isRow : row.id = m.id) : fetchOld m w = (.ok (some row, []), w) := by
  obtain ⟨id, isId, -⟩ := w.repo.numbered row mem
  have asked := query_quiet (·.findById id) quiet
  rw [findById_of_mem mem isId] at asked
  unfold fetchOld
  rw [← isRow, isId]
  exact bind_of_ok (attempt_of asked) _

variable (env : Env)

/-- **`update_metric`** does nothing, or writes the row and lets the adapter follow. -/
theorem updateMetric_quiet (quiet : w.answers = []) (m : Metric) (scope : MetricScope)
    (runs : w.hasAdapter m.connectionId = true) :
    (updateMetric env m scope w).2 = w ∨
      ∃ old repo, old ∈ w.repo.rows ∧ old.id = m.id ∧ w.repo.update m = .ok repo ∧
        (updateMetric env m scope w).2 = ({ w with repo } : World).followed old m := by
  unfold updateMetric
  rcases bind_of_reads (checkMutateAccess_reads scope m w) _ with no | ⟨_, -, isRun⟩
  · exact .inl no
  rw [isRun]
  rcases bind_of_reads (p := checkSafeMode m) rfl _ with no | ⟨_, -, isRun⟩
  · exact .inl no
  rw [isRun]
  rcases bind_of_reads (p := checkMetric env m) rfl _ with no | ⟨warns, -, isRun⟩
  · exact .inl no
  rw [isRun]
  cases done : w.repo.update m with
  | error e =>
    left
    obtain ⟨old, fetched⟩ := fetchOld_quiet m quiet
    have failed : storageUpdate m w = (.error e, w) := by
      rw [storageUpdate, bind_of_ok (call_quiet _ quiet), commit, done]
      rfl
    rw [bind_of_ok fetched]
    exact congrArg Prod.snd (bind_of_error failed _)
  | ok repo =>
    right
    obtain ⟨row, mem, isRow⟩ := row_of_update done
    refine ⟨row, repo, mem, isRow, rfl, ?_⟩
    have got := attempt_of (getAdapter_running (w := { w with repo }) runs)
    have follows := followUpdate_quiet (w := { w with repo }) quiet row m
    rw [bind_of_ok (fetchOld_stored quiet mem isRow)]
    dsimp only
    rw [bind_of_ok (storageUpdate_quiet quiet done), syncUpdate, bind_of_ok got]
    exact congrArg Prod.snd (bind_of_ok follows _)

/-! ### Adding -/

/-- `add_metric` goes no further than its checks, or it goes on with what it finds. -/
theorem addMetric_accepted (quiet : w.answers = []) (m : Metric) (replace : Bool)
    (text : Option String) :
    (addMetric env m replace text w).2 = w.keeps m text ∨
      ∃ warns, addMetric env m replace text w = addFound env m replace warns
        (w.repo.findByLocation m.connectionId m.location m.userId) (w.keeps m text) := by
  rcases addMetric_checked env m replace text w with ⟨-, e, no⟩ | ⟨-, warns, asked⟩
  · exact .inl (by rw [no])
  · have answer := query_quiet (w := w.keeps m text)
      (·.findByLocation m.connectionId m.location m.userId) quiet
    exact .inr ⟨warns, asked.trans (bind_of_ok answer _)⟩

theorem insertMetric_quiet (quiet : w.answers = []) (warns : List OperationWarning)
    (runs : w.hasAdapter m.connectionId = true)
    (done : w.repo.save (anchored env m).1 = .ok (id, repo)) :
    (insertMetric env m warns w).2 =
      ({ w with repo } : World).installed (anchored env m).1 id := by
  unfold insertMetric installed
  rw [bind_of_ok (storageSave_quiet quiet done)]
  by_cases isOn : (anchored env m).1.enabled = true
  · rw [← anchored_connectionId env m] at runs
    have got := getAdapter_running (w := { w with repo }) runs
    have set := attempt_of (adapterSet_quiet (w := { w with repo })
      (anchored env m).1.connectionId { (anchored env m).1 with id := some id } quiet)
    have installs : installMetric (anchored env m).1 id { w with repo } = (.ok [],
        ({ w with repo } : World).sets (anchored env m).1.connectionId
          { (anchored env m).1 with id := some id }) := by
      rw [installMetric, bind_of_ok got, bind_of_ok set]
      rfl
    rw [if_pos isOn, if_pos isOn]
    exact congrArg Prod.snd (bind_of_ok installs _)
  · rw [if_neg isOn, if_neg isOn]
    rfl

theorem save_succeeds (free : ∀ row ∈ repo.rows, slot row ≠ slot m) :
    ∃ after, repo.save m = .ok (repo.nextId, after) := by
  unfold save
  rw [dif_neg]
  · exact ⟨_, rfl⟩
  · intro taken
    obtain ⟨row, mem, isSlot⟩ := mem_map.mp taken
    exact free row mem isSlot

theorem anchored_slot (m : Metric) : slot (anchored env m).1 = slot m := by
  obtain ⟨_, _, isAnchored⟩ := anchored_eq env m
  rw [isAnchored]
  rfl

theorem findByLocation_eq_none
    (missing : repo.findByLocation m.connectionId m.location m.userId = none) :
    ∀ row ∈ repo.rows, slot row ≠ slot m := by
  intro row mem same
  have failed := find?_eq_none.mp missing row mem
  simp only [slot, Prod.mk.injEq] at same
  simp [same.1, same.2.1, same.2.2] at failed

theorem mergeInto_quiet (quiet : w.answers = []) {old : Metric}
    (warns : List OperationWarning) (isId : old.id = some id)
    (runs : w.hasAdapter m.connectionId = true) (isNew : newExpressions old m ≠ [])
    (done : w.repo.update (mergeExpressions old m) = .ok repo) :
    (mergeInto m old warns w).2 =
      if old.enabled then (({ w with repo } : World).removes m.connectionId old).sets
        m.connectionId (mergeExpressions old m)
      else { w with repo } := by
  unfold mergeInto
  rw [isId]
  dsimp only
  rw [if_neg isNew, bind_of_ok (storageUpdate_quiet quiet done)]
  cases old.enabled with
  | false => rfl
  | true =>
    have got := attempt_of (getAdapter_running (w := { w with repo }) runs)
    have removed := attempt_of (adapterRemove_quiet (w := { w with repo }) m.connectionId
      old quiet)
    have set := attempt_of (adapterSet_quiet
      (w := ({ w with repo } : World).removes m.connectionId old) m.connectionId
      (mergeExpressions old m) quiet)
    have resets : resetLogpoint m.connectionId old (mergeExpressions old m)
        { w with repo } = (.ok (), (({ w with repo } : World).removes m.connectionId old).sets
          m.connectionId (mergeExpressions old m)) := by
      rw [resetLogpoint, bind_of_ok got]
      refine (bind_of_ok removed _).trans ?_
      exact bind_of_ok set _
    exact congrArg Prod.snd (bind_of_ok resets _)

/-! ### Groups -/

/-- The row is one that the caller may mutate and that has another flag. -/
def Flips (target : Bool) (scope : MetricScope) (m : Metric) : Prop :=
  scope.canMutate m = true ∧ m.enabled ≠ target

instance (target : Bool) (scope : MetricScope) (m : Metric) : Decidable (Flips target scope m) :=
  inferInstanceAs (Decidable (_ ∧ _))

def flagged (target : Bool) (scope : MetricScope) (metrics : List Metric) (row : Metric) : Metric :=
  if row ∈ metrics ∧ Flips target scope row then { row with enabled := target } else row

def locationEntry (target : Bool) (m : Metric) : (ConnectionId × Location) × Metric :=
  ((m.connectionId, m.location), { m with enabled := target })

/-- What the loop over a group has left in the map of the locations. -/
structure GroupLocations (target : Bool) (scope : MetricScope) (metrics : List Metric)
    (before after : List ((ConnectionId × Location) × Metric)) : Prop where
  kept : before ⊆ after
  known : ∀ entry ∈ after, entry ∈ before ∨
    ∃ m ∈ metrics, Flips target scope m ∧ entry = locationEntry target m
  found : ∀ m ∈ metrics, Flips target scope m →
    ∃ entry ∈ after, entry.1 = (m.connectionId, m.location)

theorem flagged_of_ne {target : Bool} (ne : row ≠ m) : flagged target scope [m] row = row := by
  rw [flagged, if_neg]
  exact fun both => ne (mem_singleton.mp both.1)

/-- One metric of a group. -/
theorem groupStep_quiet (quiet : w.answers = []) (target : Bool) (scope : MetricScope)
    (so : GroupOperation) (mem : m ∈ w.repo.rows) :
    ∃ next repo, groupStep target scope so m w = (.ok next, { w with repo }) ∧
      repo.rows = w.repo.rows.map (flagged target scope [m]) ∧
      GroupLocations target scope [m] so.locations next.locations := by
  have unchanged : ¬ Flips target scope m →
      w.repo.rows = w.repo.rows.map (flagged target scope [m]) ∧
        GroupLocations target scope [m] so.locations so.locations := by
    intro stays
    constructor
    · refine (map_id _).symm.trans (map_congr_left fun row _ => ?_)
      rw [flagged, if_neg, id]
      rintro ⟨isRow, flips⟩
      exact stays (mem_singleton.mp isRow ▸ flips)
    · refine ⟨fun _ isIn => isIn, fun _ isIn => .inl isIn, fun other ne flips => ?_⟩
      exact absurd (mem_singleton.mp ne ▸ flips) stays
  unfold groupStep
  cases may : scope.canMutate m with
  | false =>
    obtain ⟨rows, locations⟩ := unchanged fun flips => by simp [flips.1] at may
    exact ⟨_, w.repo, rfl, rows, locations⟩
  | true =>
    by_cases same : m.enabled = target
    · obtain ⟨rows, locations⟩ := unchanged fun flips => flips.2 same
      rw [if_neg (by simp), if_pos same]
      exact ⟨_, w.repo, rfl, rows, locations⟩
    · obtain ⟨repo, done⟩ := update_flag_succeeds mem target
      obtain ⟨id, isId, rows, -⟩ := update_eq_ok done
      have put := attempt_of (storageUpdate_quiet quiet done)
      rw [if_neg (by simp), if_neg same, bind_of_ok put]
      refine ⟨_, repo, rfl, ?_, ?_⟩
      · rw [rows]
        refine map_congr_left fun row has => ?_
        rw [rewrite_flag mem isId target has]
        split
        next isRow => rw [isRow, flagged, if_pos ⟨mem_singleton.mpr rfl, may, same⟩]
        next ne => rw [flagged_of_ne ne]
      · split
        next known =>
          obtain ⟨entry, isIn, isKey⟩ := any_eq_true.mp known
          refine ⟨fun _ isIn => isIn, fun _ isIn => .inl isIn, fun other ne _ => ?_⟩
          rw [mem_singleton.mp ne]
          exact ⟨entry, isIn, of_decide_eq_true isKey⟩
        next =>
          refine ⟨fun _ isIn => mem_append_left _ isIn, fun entry isIn => ?_,
            fun other ne _ => ?_⟩
          · rcases mem_append.mp isIn with old | new
            · exact .inl old
            · exact .inr ⟨m, mem_singleton.mpr rfl, ⟨may, same⟩, mem_singleton.mp new⟩
          · rw [mem_singleton.mp ne]
            exact ⟨_, mem_append_right _ (mem_singleton.mpr rfl), rfl⟩

theorem flagged_of_stays {target : Bool} (stays : ¬ Flips target scope row)
    (metrics : List Metric) : flagged target scope metrics row = row := by
  rw [flagged, if_neg fun both => stays both.2]

theorem flagged_flagged (target : Bool) (scope : MetricScope) {rest : List Metric}
    (distinct : m ∉ rest) (row : Metric) :
    flagged target scope rest (flagged target scope [m] row) =
      flagged target scope (m :: rest) row := by
  by_cases isRow : row = m
  · subst isRow
    by_cases flips : Flips target scope row
    · -- a row that was written has the flag of the target
      have isFlagged : flagged target scope [row] row = { row with enabled := target } := by
        rw [flagged, if_pos ⟨mem_singleton.mpr rfl, flips⟩]
      rw [isFlagged, flagged, if_neg fun both => both.2.2 rfl, flagged, if_pos ⟨.head _, flips⟩]
    · rw [flagged_of_stays flips, flagged_of_stays flips, flagged_of_stays flips]
  · rw [flagged_of_ne isRow]
    simp [flagged, mem_cons, or_iff_right isRow]

/-- **The loop over a group**, by induction on its metrics. -/
theorem groupLoop_quiet (target : Bool) (scope : MetricScope) :
    ∀ (metrics : List Metric) (so : GroupOperation) (w : World), w.answers = [] → metrics.Nodup →
      (∀ m ∈ metrics, m ∈ w.repo.rows) →
        ∃ result repo, groupLoop target scope so metrics w = (.ok result, { w with repo }) ∧
          repo.rows = w.repo.rows.map (flagged target scope metrics) ∧
          GroupLocations target scope metrics so.locations result.locations
  | [], so, w, _, _, _ => by
    refine ⟨so, w.repo, rfl, ?_, fun _ isIn => isIn, fun _ isIn => .inl isIn,
      fun m isIn => absurd isIn not_mem_nil⟩
    refine (map_id _).symm.trans (map_congr_left fun row _ => ?_)
    rw [flagged, if_neg fun both => absurd both.1 not_mem_nil, id]
  | m :: rest, so, w, quiet, distinct, stored => by
    obtain ⟨notAgain, distinct⟩ := nodup_cons.mp distinct
    obtain ⟨next, repo, ran, rows, first⟩ := groupStep_quiet quiet target scope so
      (stored m (.head _))
    have stillStored : ∀ other ∈ rest, other ∈ repo.rows := by
      intro other isIn
      rw [rows, mem_map]
      refine ⟨other, stored other (.tail _ isIn), flagged_of_ne ?_⟩
      rintro rfl
      exact notAgain isIn
    obtain ⟨result, last, loops, lastRows, others⟩ := groupLoop_quiet target scope rest next
      { w with repo } quiet distinct stillStored
    refine ⟨result, last, (bind_of_ok ran _).trans loops, ?_, ?_, ?_, ?_⟩
    · rw [lastRows, rows, map_map]
      exact map_congr_left fun row _ => flagged_flagged target scope notAgain row
    · exact fun entry isIn => others.kept (first.kept isIn)
    · intro entry isIn
      rcases others.known entry isIn with old | ⟨n, isRest, flips, isEntry⟩
      · rcases first.known entry old with older | ⟨n, isFirst, flips, isEntry⟩
        · exact .inl older
        · rw [mem_singleton] at isFirst
          exact .inr ⟨n, isFirst ▸ (.head _), flips, isEntry⟩
      · exact .inr ⟨n, .tail _ isRest, flips, isEntry⟩
    · intro n isIn flips
      rcases mem_cons.mp isIn with rfl | isRest
      · obtain ⟨entry, isEntry, isKey⟩ := first.found n (mem_singleton.mpr rfl) flips
        exact ⟨entry, others.kept isEntry, isKey⟩
      · exact others.found n isRest flips

/-- Synchronising changes what is tracked and handed over. -/
theorem synced_same (w : World) (c : ConnectionId) (loc : Location)
    (ref : Metric) :
    ∃ tracked handed, w.synced c loc ref = { w with tracked, handed } := by
  unfold synced setsLogpoint
  split
  · exact ⟨_, w.handed, rfl⟩
  · split
    · exact ⟨_, _, rfl⟩
    · exact ⟨w.tracked, w.handed, rfl⟩

def World.syncedAll (w : World) (entries : List ((ConnectionId × Location) × Metric)) : World :=
  entries.foldl (fun v entry => v.synced entry.1.1 entry.1.2 entry.2) w

theorem syncAll_quiet : ∀ (entries : List ((ConnectionId × Location) × Metric)) (w : World),
    w.answers = [] → (∀ entry ∈ entries, w.hasAdapter entry.1.1 = true) →
      forEach (fun entry => do
        let _ ← (syncLogpoint entry.1.1 entry.1.2 (some entry.2)).attempt
        return ()) entries w = (.ok (), w.syncedAll entries)
  | [], _, _, _ => rfl
  | entry :: rest, w, quiet, runs => by
    have synced := attempt_of (syncLogpoint_quiet quiet
      (runs entry (.head _)) entry.1.2 entry.2)
    obtain ⟨tracked, handed, isSynced⟩ := synced_same w entry.1.1 entry.1.2 entry.2
    have next := syncAll_quiet rest (w.synced entry.1.1 entry.1.2 entry.2)
      (by rw [isSynced]; exact quiet)
      (by rw [isSynced]; exact fun other isIn => runs other (.tail _ isIn))
    have first : (do
        let _ ← (syncLogpoint entry.1.1 entry.1.2 (some entry.2)).attempt
        return () : Operation Unit) w = (.ok (), w.synced entry.1.1 entry.1.2 entry.2) :=
      bind_of_ok synced _
    rw [forEach, bind_of_ok first]
    exact next

/-- **`enable_group` and `disable_group`** write the flags of the group and synchronise its
locations. -/
theorem setGroup_quiet (quiet : w.answers = []) (target : Bool) (group : String)
    (scope : MetricScope) (runs : ∀ row ∈ w.repo.rows, w.hasAdapter row.connectionId = true) :
    ∃ repo entries, (setGroup env target group scope w).2 =
        ({ w with repo } : World).syncedAll (env.order entries) ∧
      repo.rows = w.repo.rows.map (flagged target scope (w.repo.findByGroup group)) ∧
      GroupLocations target scope (w.repo.findByGroup group) [] entries := by
  have stored : ∀ m ∈ w.repo.findByGroup group, m ∈ w.repo.rows :=
    fun m isIn => (mem_findByGroup.mp isIn).1
  obtain ⟨result, repo, loops, rows, locations⟩ := groupLoop_quiet target scope
    (w.repo.findByGroup group) ⟨0, [], 0, []⟩ w quiet findByGroup_nodup stored
  refine ⟨repo, result.locations, ?_, rows, locations⟩
  have isRunning : ∀ entry ∈ env.order result.locations,
      ({ w with repo } : World).hasAdapter entry.1.1 = true := by
    intro entry isIn
    rcases locations.known entry ((env.order_perm _).subset isIn) with none | ⟨m, isM, -, rfl⟩
    · cases none
    · exact runs m (stored m isM)
  have synced := syncAll_quiet (env.order result.locations) { w with repo } quiet isRunning
  unfold setGroup
  rw [bind_of_ok (query_quiet _ quiet), bind_of_ok loops]
  exact congrArg Prod.snd (bind_of_ok synced _)

end Calls

end Detrix.Service
