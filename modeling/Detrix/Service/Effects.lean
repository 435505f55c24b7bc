/-
**What the operations of the metric service can do.**

For each operation the effects it can have, together with what it has checked before: an operation
moves the world by these effects and by nothing else, whatever the storage and the adapters answer.
All facts about runs of the service are derived from here; no other proof opens the programs.

- `Synced`: a logpoint that is handed over is made of the stored metrics at its location.
- `addMetric_moves`, `updateMetric_moves`, `removeMetric_moves`, `toggleMetric_moves`,
  `setGroup_moves`, `importMetric_moves`, `syncMetrics_moves`, `startAdapter_moves`,
  `stopAdapter_moves`: one lemma for each operation.
-/

import Detrix.Service.MetricService

namespace Detrix.Service

open Detrix.Core Library Repository Program List

/-! ### Programs that succeed -/

variable {m existing : Metric} {t : World} {id : MetricId} {scope : MetricScope} {repo : Repository}
  {warnings : List OperationWarning} {α : Type} {c : ConnectionId} {e : Effect}
  {target : Bool} {w : World}

theorem ofExcept_ok {result : Except ServiceError α} {a : α}
    (ran : (ofExcept result : Operation α) w = (.ok a, t)) : result = .ok a ∧ t = w := by
  have parts : (result, w) = (.ok a, t) := ran
  rw [Prod.mk.injEq] at parts
  exact ⟨parts.1, parts.2.symm⟩

theorem checkSafeMode_of {result : Except ServiceError Unit}
    (isResult : validateSafeMode (w.isSafeMode m.connectionId) m = result) :
    checkSafeMode m w = (result, w) :=
  congrArg (·, w) isResult

theorem checkMetric_of {env : Env} {result : Except ServiceError (List OperationWarning)}
    (isResult : validateMetric env w.vfs m = result) : checkMetric env m w = (result, w) :=
  congrArg (·, w) isResult

theorem checkMutateAccess_ok (ran : checkMutateAccess scope m w = (.ok (), t)) :
    scope.canMutate m = true ∧ t = w := by
  unfold checkMutateAccess at ran
  split at ran
  next may =>
    rw [pure_apply, Prod.mk.injEq] at ran
    exact ⟨may, ran.2.symm⟩
  next => exact absurd (congrArg Prod.fst ran) (by simp [fail])

theorem query_ok {read : Repository → α} {a : α} (ran : query read w = (.ok a, t)) :
    a = read w.repo ∧ t.repo = w.repo := by
  obtain ⟨same, value⟩ := query_result ran
  exact ⟨value a rfl, same.repo⟩

theorem getAdapter_attempt {out : Except ServiceError Unit}
    (ran : (getAdapter c).attempt w = (.ok out, t)) : t = w := by
  have inner := attempt_apply ran
  rw [getAdapter_apply, Prod.mk.injEq] at inner
  exact inner.2.symm

theorem findMetric_ok (ran : findMetric id w = (.ok m, t)) :
    m ∈ w.repo.rows ∧ m.id = some id ∧ t.repo = w.repo := by
  obtain ⟨found, s, asked, back⟩ := bind_eq_ok ran
  obtain ⟨value, same⟩ := query_ok asked
  cases found with
  | none => exact absurd (congrArg Prod.fst back) (by simp [fail])
  | some row =>
    have parts : (.ok row, s) = ((.ok m, t) : Except ServiceError Metric × World) := back
    obtain ⟨rfl, rfl⟩ := parts
    obtain ⟨mem, isId⟩ := findById_eq_some value.symm
    exact ⟨mem, isId, same⟩

variable {may : Repository → Effect → Prop}

theorem findMetric_moves (id : MetricId) (w : World) : Moves (Moved may) (findMetric id) w := by
  refine .bind (query_moves _) fun found t _ => ?_
  cases found with
  | none => exact .fail _
  | some m => exact .ret m

theorem checkMutateAccess_moves (scope : MetricScope)
    (m : Metric) (w : World) : Moves (Moved may) (checkMutateAccess scope m) w := by
  unfold checkMutateAccess
  split
  · exact .ret ()
  · exact .fail _

theorem storageUpdate_rows (isId : m.id = some id) (ran : storageUpdate m w = (.ok (), t)) :
    t.repo.rows = w.repo.rows.map (rewrite id m) := by
  rcases storageUpdate_result ran with ⟨e, isError, -⟩ | ⟨repo, new, -, same⟩
  · cases isError
  · obtain ⟨other, ne, rows, -⟩ := update_eq_ok new
    rw [isId, Option.some.injEq] at ne
    rw [same.repo, rows, ne]

/-- A row to which no column that an update leaves alone was changed is there after the update. -/
theorem storageUpdate_mem {row : Metric} (mem : row ∈ w.repo.rows)
    (isRow : row.id = some id) (isId : m.id = some id) (ran : storageUpdate m w = (.ok (), t)) :
    writeColumns row m ∈ t.repo.rows := by
  rw [storageUpdate_rows isId ran, mem_map]
  exact ⟨row, mem, by rw [rewrite, if_pos isRow]⟩

/-! ### Logpoints -/

/-- **What is handed over to keep an adapter up to date**: the logpoint of the enabled metrics at a
location, or a stored metric of the connection. -/
def Synced (repo : Repository) : Effect → Prop
  | .handed connectionId m =>
    (∃ location, logpoint ((repo.findAllAtLocation connectionId location).filter (·.enabled)) =
      some m) ∨ (m ∈ repo.rows ∧ m.connectionId = connectionId)
  | _ => False

section Logpoints

variable {may : Repository → Effect → Prop} (synced : ∀ repo e, Synced repo e → may repo e)
include synced

theorem syncLogpoint_moves (c : ConnectionId) (loc : Location)
    (fallback : Option Metric) (w : World) :
    Moves (Moved may) (syncLogpoint c loc fallback) w := by
  refine .bind (query_moves _) fun all t asked => ?_
  obtain ⟨isAll, same⟩ := query_ok asked
  refine .bind (.attempt (getAdapter_moves _)) fun out s tried => ?_
  obtain rfl := getAdapter_attempt tried
  cases out with
  | error e => exact .ret ()
  | ok _ =>
    dsimp only
    split
    · split
      · exact .bind (.attempt (adapterRemove_same _ _ _).moves) fun _ _ _ => .ret ()
      · exact .ret ()
    · split
      next merged isMerged =>
        refine .bind (.attempt (adapterSet_moves (synced _ _ (.inl ⟨loc, ?_⟩))))
          fun _ _ _ => .ret ()
        rw [same, ← isAll]
        exact isMerged
      next => exact .ret ()

theorem setMetricsBatch_moves (c : ConnectionId) :
    ∀ (metrics : List Metric) (w : World),
      (∀ m ∈ metrics, m ∈ w.repo.rows ∧ m.connectionId = c) →
        Moves (Moved may) (setMetricsBatch c metrics) w
  | [], _, _ => .ret _
  | m :: rest, w, stored => by
    have permitted := synced w.repo (.handed c m) (Or.inr (stored m (.head _)))
    refine .bind (.attempt (adapterSet_moves permitted)) fun out t ran => ?_
    -- the adapter leaves the repository alone, so the rest is stored as before
    have same : t.repo = w.repo := by
      have state : (adapterSet c m w).2 = t := congrArg Prod.snd (attempt_apply ran)
      rw [← state]
      exact (call_same _ _).repo
    refine .bind (setMetricsBatch_moves c rest t fun n mem => ?_)
      fun _ _ _ => .ret _
    rw [same]
    exact stored n (.tail _ mem)

end Logpoints

def Hands (_ : Repository) : Effect → Prop
  | .handed _ _ => True
  | _ => False

/-- Only what is handed over is `Synced`. -/
@[elab_as_elim]
theorem Synced.permits {may : Effect → Prop} (synced : Synced repo e)
    (hands : ∀ c m, Synced repo (.handed c m) → may (.handed c m)) : may e := by
  cases e with
  | handed c m => exact hands c m synced
  | _ => exact synced.elim

theorem Synced.hands (synced : Synced repo e) : Hands repo e := synced.permits fun _ _ _ => trivial

theorem hands_repo {p : Operation α} (moves : Moves (Moved Hands) p w) : (p w).2.repo = w.repo := by
  have step : ∀ a b, Moved Hands a b → a.repo = w.repo → b.repo = w.repo := by
    intro a b moved isRepo
    cases moved with
    | quiet vfs answers tracked => exact isRepo
    | effect may change =>
      cases change with
      | handed c m => exact isRepo
      | _ => exact may.elim
  exact moves.keeps step rfl

/-! ### Importing, synchronising, starting and stopping -/

def ImportEffect (env : Env) (w : World) (m : Metric) (repo : Repository) : Effect → Prop
  | .saved stored => stored = m ∧ FieldsPass env m ∧ repo = w.repo
  | _ => False

variable (env : Env)

theorem importMetric_moves (m : Metric) (w : World) :
    Moves (Moved (ImportEffect env w m)) (importMetric env m) w := by
  refine .bind (.ofExcept _) fun warnings t checked => ?_
  obtain ⟨passes, rfl⟩ := ofExcept_ok checked
  exact storageSave_moves ⟨rfl, ⟨warnings, passes⟩, rfl⟩

theorem syncMetrics_moves (c : ConnectionId) (w : World) :
    Moves (Moved Synced) (syncMetricsForConnection c) w := by
  refine .bind (getAdapter_moves _) fun _ t _ => ?_
  refine .bind (query_moves _) fun metrics s asked => ?_
  obtain ⟨isMetrics, same⟩ := query_ok asked
  refine setMetricsBatch_moves (fun _ _ h => h) c _ s fun m mem => ?_
  rw [same, ← mem_findByConnectionId, ← isMetrics]
  exact (mem_filter.mp mem).1

def StartEffect (connectionId : ConnectionId) (safeMode : Bool) (repo : Repository) : Effect → Prop
  | .registered other mode => other = connectionId ∧ mode = safeMode
  | .unregistered other => other = connectionId
  | e => Synced repo e

theorem Synced.starts {safeMode : Bool} (synced : Synced repo e) : StartEffect c safeMode repo e :=
  synced.permits fun _ _ handed => handed

def StopEffect (connectionId : ConnectionId) (_ : Repository) : Effect → Prop
  | .unregistered other => other = connectionId
  | _ => False

theorem stopAdapter_moves (c : ConnectionId) (w : World) :
    Moves (Moved (StopEffect c)) (stopAdapter c) w := by
  refine .bind .get fun seen t _ => ?_
  split
  · refine .bind (.single (.effect (e := .unregistered c) rfl (.unregistered c))) fun _ s _ => ?_
    exact .bind (.attempt (call_moves _)) fun _ _ _ => .ret ()
  · exact .ret ()

theorem startAdapter_moves (connectionId : ConnectionId) (lang : SourceLanguage)
    (managedByAgent safeMode : Bool) (w : World) :
    Moves (Moved (StartEffect connectionId safeMode))
      (startAdapter connectionId lang managedByAgent safeMode) w := by
  have stops : ∀ repo e, StopEffect connectionId repo e → StartEffect connectionId safeMode repo e := by
    intro repo e isStop
    cases e with
    | unregistered other => exact isStop
    | _ => exact isStop.elim
  refine .bind (moves_wider stops (stopAdapter_moves connectionId w)) fun _ a _ => ?_
  split
  · exact .fail _
  · refine .bind (call_moves _) fun _ b _ => .bind (.single (.quiet _ _ _)) fun _ _ _ =>
      Moves.bind (call_moves _) fun _ c _ => .bind (call_moves _) fun _ d _ => ?_
    refine .bind (.attempt (query_moves _)) fun out s asked => ?_
    refine .bind ?_ fun _ _ _ => .bind (call_moves _) fun _ _ _ =>
      register_moves ⟨rfl, rfl⟩
    refine setMetricsBatch_moves (fun _ _ synced => synced.starts) connectionId _ s fun m mem => ?_
    cases out with
    | error e => simp at mem
    | ok metrics =>
      obtain ⟨isMetrics, same⟩ := query_ok (attempt_apply asked)
      rw [same, ← mem_findByConnectionId, ← isMetrics]
      exact (mem_filter.mp mem).1

/-! ### Adding -/

def AddAccepted (env : Env) (w : World) (m : Metric) (content : Option String) : Prop :=
  validateSafeMode (w.isSafeMode m.connectionId) m = .ok () ∧
    validateTenantIds m.userId m.agentId = .ok () ∧
    ∃ warnings, validateMetric env (keepContent m content w.vfs) m = .ok warnings

/-- The effects of `add_metric` once it has accepted the metric. -/
def AddEffect (env : Env) (w : World) (m : Metric) (replace : Bool) (repo : Repository) :
    Effect → Prop
  | .deleted id =>
    (replace = true ∧ ∃ existing, w.repo.findByLocation m.connectionId m.location m.userId =
      some existing ∧ existing.id = some id) ∨ id = w.repo.nextId
  | .updated merged =>
    replace = false ∧ repo = w.repo ∧
      ∃ existing, w.repo.findByLocation m.connectionId m.location m.userId = some existing ∧
        newExpressions existing m ≠ [] ∧ merged = mergeExpressions existing m
  | .saved stored => stored = (anchored env m).1 ∧ repo.rows ⊆ w.repo.rows
  | .handed connectionId installed =>
    (connectionId = m.connectionId ∧ ∃ id, installed = { (anchored env m).1 with id := some id }) ∨
      Synced repo (.handed connectionId installed)
  | _ => False

/-- The anchor is all that `add_metric` changes before it saves. -/
theorem anchored_eq (m : Metric) :
    ∃ anchor anchorStatus, (anchored env m).1 = { m with anchor, anchorStatus } := by
  unfold anchored
  split
  · exact ⟨_, _, rfl⟩
  · exact ⟨m.anchor, _, rfl⟩

theorem anchored_connectionId (m : Metric) : (anchored env m).1.connectionId = m.connectionId := by
  obtain ⟨_, _, isAnchored⟩ := anchored_eq env m
  rw [isAnchored]

section Adding

variable {may : Repository → Effect → Prop} {w : World}

theorem installMetric_moves
    (handed : ∀ repo, may repo (.handed m.connectionId { m with id := some id }))
    (rolledBack : ∀ repo, may repo (.deleted id)) : Moves (Moved may) (installMetric m id) w := by
  refine .bind (getAdapter_moves _) fun _ t _ => ?_
  refine .bind (.attempt (adapterSet_moves (handed _))) fun out s _ => ?_
  rcases out with e | answer
  · refine .bind (.attempt (storageDelete_moves (rolledBack _))) fun gone _ _ => ?_
    cases gone <;> exact .fail _
  · cases answer <;> exact .ret _

theorem insertMetric_moves {env : Env} (saved : may w.repo (.saved (anchored env m).1))
    (handed : ∀ repo id, may repo (.handed m.connectionId { (anchored env m).1 with id := some id }))
    (rolledBack : ∀ repo, may repo (.deleted w.repo.nextId)) :
    Moves (Moved may) (insertMetric env m warnings) w := by
  refine .bind (storageSave_moves saved) fun id t stored => ?_
  have isNext : id = w.repo.nextId := by
    rcases storageSave_result stored with ⟨e, isError, -⟩ | ⟨other, repo, done, isOk, -⟩
    · cases isError
    · rw [Except.ok.inj isOk]
      exact (save_eq_ok done).1
  split
  · refine .bind (installMetric_moves (fun repo => ?_) fun repo => ?_) fun _ _ _ => .ret _
    · have permitted := handed repo id
      rw [← anchored_connectionId env m] at permitted
      exact permitted
    · rw [isNext]
      exact rolledBack repo
  · exact .bind (.ret _) fun _ _ _ => .ret _

theorem resetLogpoint_moves (handed : may w.repo (.handed c m)) :
    Moves (Moved may) (resetLogpoint c existing m) w := by
  refine .bind (.attempt (getAdapter_moves _)) fun out t tried => ?_
  obtain rfl := getAdapter_attempt tried
  cases out with
  | error e => exact .ret ()
  | ok _ =>
    refine .bind (.attempt (adapterRemove_same _ _ _).moves) fun _ s removed => ?_
    refine .bind (.attempt (adapterSet_moves ?_)) fun _ _ _ => .ret ()
    have same := adapterRemove_same c existing t
    rw [attempt_apply removed] at same
    rw [same.repo]
    exact handed

theorem mergeInto_moves (mem : existing ∈ w.repo.rows) (isId : existing.id = some id)
    (sameConnection : existing.connectionId = m.connectionId)
    (merged : newExpressions existing m ≠ [] → may w.repo (.updated (mergeExpressions existing m)))
    (synced : ∀ repo e, Synced repo e → may repo e) :
    Moves (Moved may) (mergeInto m existing warnings) w := by
  unfold mergeInto
  rw [isId]
  dsimp only
  split
  · exact .ret _
  next isNew =>
    refine .bind (storageUpdate_moves (merged isNew)) fun _ t new => ?_
    -- the merged metric is what is stored now
    have isMerged : (mergeExpressions existing m).id = some id := isId
    have stored : mergeExpressions existing m ∈ t.repo.rows := by
      rw [← writeColumns_eq (m := mergeExpressions existing m) (w.repo.readable existing mem) rfl]
      exact storageUpdate_mem mem isId isMerged new
    split
    · exact .bind (resetLogpoint_moves (synced _ _ (.inr ⟨stored, sameConnection⟩)))
        fun _ _ _ => .ret _
    · exact .ret _

theorem clearLogpoint_same (c : ConnectionId) (existing : Metric) (w : World) :
    SameButTracked w (clearLogpoint c existing w).2 := by
  refine .of_moves ?_
  unfold clearLogpoint
  split
  · refine .bind (.attempt ?_) fun out t _ => ?_
    · unfold Moves
      rw [getAdapter_apply]
    · cases out with
      | error e => exact .ret ()
      | ok _ =>
        exact .bind (.attempt (.single (adapterRemove_same c existing t)))
          fun _ _ _ => .ret ()
  · exact .ret ()

theorem replaceExisting_moves (isId : existing.id = some id) (gone : may w.repo (.deleted id)) :
    Moves (Moved may) (replaceExisting m existing) w := by
  unfold replaceExisting
  rw [isId]
  have same := clearLogpoint_same m.connectionId existing w
  refine .bind same.moves fun _ t cleared => ?_
  rw [cleared] at same
  refine .bind (storageDelete_moves ?_) fun _ _ _ => .ret _
  rw [same.repo]
  exact gone

theorem replaceExisting_ok {warning : OperationWarning} (isId : existing.id = some id)
    (ran : replaceExisting m existing w = (.ok warning, t)) : w.repo.delete id = .ok t.repo := by
  unfold replaceExisting at ran
  rw [isId] at ran
  obtain ⟨_, a, cleared, rest⟩ := bind_eq_ok ran
  have same := clearLogpoint_same m.connectionId existing w
  rw [cleared] at same
  obtain ⟨_, b, gone, back⟩ := bind_eq_ok rest
  have isLast : b = t := congrArg Prod.snd back
  rcases storageDelete_result gone with ⟨e, isError, -⟩ | ⟨repo, done, -, last⟩
  · cases isError
  · have isRepo : b.repo = repo := last.repo
    rw [← same.repo, done, ← isLast, isRepo]

end Adding

/-- The world with the content that was handed in. -/
def World.keeps (w : World) (m : Metric) (content : Option String) : World :=
  { w with vfs := keepContent m content w.vfs }

/-- What `add_metric` does with what it finds at the location. -/
def addFound (env : Env) (m : Metric) (replace : Bool) (warnings : List OperationWarning) :
    Option Metric → Operation (MetricId × List OperationWarning)
  | some existing =>
    if replace then do
      let warning ← replaceExisting m existing
      insertMetric env m (warnings ++ [warning])
    else mergeInto m existing warnings
  | none => insertMetric env m warnings

/-- **`add_metric` after its checks**: it refuses the metric, or asks what is at its location. -/
theorem addMetric_checked (m : Metric) (replace : Bool) (text : Option String) (w : World) :
    (¬ AddAccepted env w m text ∧
      ∃ e, addMetric env m replace text w = (.error e, w.keeps m text)) ∨
    (AddAccepted env w m text ∧ ∃ warnings, addMetric env m replace text w =
      (query (·.findByLocation m.connectionId m.location m.userId) >>=
        addFound env m replace warnings) (w.keeps m text)) := by
  have kept : storeContent m text w = (.ok (), w.keeps m text) := rfl
  unfold AddAccepted addMetric
  rw [bind_of_ok kept]
  cases safe : validateSafeMode (w.isSafeMode m.connectionId) m with
  | error e => exact .inl ⟨nofun, e, bind_of_error (checkSafeMode_of (w := w.keeps m text) safe) _⟩
  | ok _ =>
    rw [bind_of_ok (checkSafeMode_of (w := w.keeps m text) safe)]
    cases tenant : validateTenantIds m.userId m.agentId with
    | error e => exact .inl ⟨nofun, e, rfl⟩
    | ok _ =>
      cases valid : validateMetric env (keepContent m text w.vfs) m with
      | error e => exact .inl ⟨nofun, e, bind_of_error (checkMetric_of (w := w.keeps m text) valid) _⟩
      | ok warnings =>
        refine .inr ⟨⟨rfl, rfl, warnings, rfl⟩, warnings, ?_⟩
        refine (bind_of_ok (checkMetric_of (w := w.keeps m text) valid) _).trans ?_
        congr 2

/-- **`add_metric`** has no effect before it has accepted the metric, and these after. -/
theorem addMetric_moves (m : Metric) (replace : Bool) (text : Option String) (w : World) :
    Moves (Moved fun repo e => AddAccepted env w m text ∧ AddEffect env w m replace repo e)
      (addMetric env m replace text) w := by
  unfold Moves
  rcases addMetric_checked env m replace text w with ⟨-, e, no⟩ | ⟨ok, warnings, isRun⟩
  · rw [no]
    exact .single (.quiet _ _ _)
  rw [isRun]
  refine .head (.quiet _ _ _) (Moves.bind (query_moves _) fun found t asked => ?_)
  obtain ⟨isFound, same⟩ := query_ok asked
  cases found with
  | none =>
    refine insertMetric_moves ⟨ok, rfl, by rw [same]; exact fun _ mem => mem⟩ ?_ ?_
    · exact fun repo id => ⟨ok, .inl ⟨rfl, id, rfl⟩⟩
    · exact fun repo => ⟨ok, .inr (by rw [same])⟩
  | some existing =>
    obtain ⟨mem, sameConnection, -⟩ := findByLocation_eq_some isFound.symm
    obtain ⟨id, isId, -⟩ := w.repo.numbered existing mem
    cases replace with
    | false =>
      exact mergeInto_moves (by rw [same]; exact mem) isId sameConnection
        (fun isNew => ⟨ok, rfl, same, existing, isFound.symm, isNew, rfl⟩)
        fun _ _ isSynced => isSynced.permits fun _ _ handed => ⟨ok, .inr handed⟩
    | true =>
      refine .bind (replaceExisting_moves isId
        ⟨ok, .inl ⟨rfl, existing, isFound.symm, isId⟩⟩) fun warning s replaced => ?_
      obtain ⟨rows, next⟩ := delete_eq_ok (replaceExisting_ok isId replaced)
      rw [same] at rows next
      refine insertMetric_moves ⟨ok, rfl, fun row mem => ?_⟩ ?_ ?_
      · rw [rows] at mem
        exact (mem_filter.mp mem).1
      · exact fun repo id => ⟨ok, .inl ⟨rfl, id, rfl⟩⟩
      · exact fun repo => ⟨ok, .inr next⟩

/-! ### Updating and removing -/

def UpdateAccepted (env : Env) (w : World) (m : Metric) (scope : MetricScope) : Prop :=
  scope.canMutate m = true ∧ validateSafeMode (w.isSafeMode m.connectionId) m = .ok () ∧
    ∃ warnings, validateMetric env w.vfs m = .ok warnings

/-- The effects of `update_metric` once it has accepted the metric. -/
def UpdateEffect (w : World) (m : Metric) (repo : Repository) : Effect → Prop
  | .updated written => written = m ∧ repo = w.repo
  | .handed connectionId installed => connectionId = m.connectionId ∧ installed = m
  | _ => False

theorem fetchOld_same (m : Metric) (w : World) : SameButAnswers w (fetchOld m w).2 := by
  refine .of_moves ?_
  unfold fetchOld
  split
  · exact .ret _
  · refine .bind (.attempt (.single (query_same _ w))) fun out t _ => ?_
    cases out <;> exact .ret _

theorem followUpdate_moves {old : Option Metric}
    (handed : ∀ repo, may repo (.handed m.connectionId m)) (w : World) :
    Moves (Moved may) (followUpdate m old) w := by
  have set : ∀ t, Moves (Moved may) (do let _ ← adapterSet m.connectionId m) t := fun t =>
    Moves.bind (adapterSet_moves (handed _)) fun _ _ _ => .ret ()
  unfold followUpdate
  split
  · split
    · exact set w
    · exact (adapterRemove_same _ _ w).moves
    · exact .bind (adapterRemove_same _ _ w).moves fun _ t _ => set t
    · exact .ret ()
  · split
    · exact set w
    · exact .ret ()

theorem syncUpdate_moves {old : Option Metric}
    (handed : ∀ repo, may repo (.handed m.connectionId m)) (w : World) :
    Moves (Moved may) (syncUpdate m old warnings) w := by
  refine .bind (.attempt (getAdapter_moves _)) fun out t _ => ?_
  cases out with
  | error e => exact .ret _
  | ok _ => exact .bind (followUpdate_moves handed t) fun _ _ _ => .ret _

/-- **`update_metric`.** -/
theorem updateMetric_moves (m : Metric) (scope : MetricScope) (w : World) :
    Moves (Moved fun repo e => UpdateAccepted env w m scope ∧ UpdateEffect w m repo e)
      (updateMetric env m scope) w := by
  refine .bind (checkMutateAccess_moves scope m w) fun _ a first => ?_
  obtain ⟨may, rfl⟩ := checkMutateAccess_ok first
  refine .bind (.ofExcept _) fun _ b second => ?_
  obtain ⟨safe, rfl⟩ := ofExcept_ok second
  refine .bind (.ofExcept _) fun warnings c third => ?_
  obtain ⟨valid, rfl⟩ := ofExcept_ok third
  have ok : UpdateAccepted env c m scope := ⟨may, safe, warnings, valid⟩
  have same := fetchOld_same m c
  refine .bind same.moves fun old t fetched => ?_
  rw [fetched] at same
  refine .bind (storageUpdate_moves ⟨ok, rfl, same.repo⟩) fun _ s _ => ?_
  exact syncUpdate_moves (fun repo => ⟨ok, rfl, rfl⟩) s

def RemoveEffect (id : MetricId) (scope : MetricScope) (repo : Repository) : Effect → Prop
  | .deleted other => other = id ∧ ∃ row ∈ repo.rows, row.id = some id ∧ scope.canMutate row = true
  | e => Synced repo e

/-- **`remove_metric`.** -/
theorem removeMetric_moves (id : MetricId) (scope : MetricScope) (w : World) :
    Moves (Moved (RemoveEffect id scope)) (removeMetric id scope) w := by
  refine .bind (findMetric_moves id w) fun m a found => ?_
  obtain ⟨mem, isId, same⟩ := findMetric_ok found
  refine .bind (checkMutateAccess_moves scope m a) fun _ b checked => ?_
  obtain ⟨may, rfl⟩ := checkMutateAccess_ok checked
  refine .bind (storageDelete_moves ⟨rfl, m, by rw [same]; exact mem, isId, may⟩)
    fun _ c _ => ?_
  refine syncLogpoint_moves (fun _ _ synced => ?_) _ _ _ c
  exact synced.permits fun _ _ handed => handed

/-! ### Toggling -/

/-- The effects of `toggle_metric` and of the group operations. -/
def ToggleEffect (scope : MetricScope) (repo : Repository) : Effect → Prop
  | .updated m => ∃ row ∈ repo.rows, scope.canMutate row = true ∧ ∃ enabled, m = { row with enabled }
  | e => Synced repo e

theorem Synced.toggles (synced : Synced repo e) : ToggleEffect scope repo e :=
  synced.permits fun _ _ handed => handed

theorem toggleLogpoint_moves (m : Metric) (enabled : Bool) (w : World) :
    Moves (Moved Synced) (toggleLogpoint m enabled) w := by
  refine .bind (getAdapter_moves _) fun _ a got => ?_
  refine .bind (query_moves _) fun all b asked => ?_
  obtain ⟨isAll, same⟩ := query_ok asked
  have hand : ∀ (t : World) (merged : Metric), t.repo = a.repo →
      logpoint (all.filter (·.enabled)) = some merged →
      Moves (Moved Synced) (do let _ ← adapterSet m.connectionId merged) t := by
    intro t merged sameRepo isMerged
    refine .bind (adapterSet_moves (Or.inl ⟨m.location, ?_⟩)) fun _ _ _ => .ret ()
    rw [sameRepo, ← isAll]
    exact isMerged
  have removal := adapterRemove_same m.connectionId m b
  dsimp only
  cases isMerged : logpoint (all.filter (·.enabled)) with
  | none =>
    split
    · exact .bind removal.moves fun _ _ _ => .ret ()
    · exact .ret ()
  | some merged =>
    split
    · refine .bind removal.moves fun _ t removed => ?_
      rw [removed] at removal
      exact hand t merged (removal.repo.trans same) isMerged
    · exact hand b merged same isMerged

/-- **`toggle_metric`**: also the row that is written back after a failure is the stored one with
another flag. -/
theorem toggleMetric_moves (id : MetricId) (enabled : Bool) (scope : MetricScope) (w : World) :
    Moves (Moved (ToggleEffect scope)) (toggleMetric id enabled scope) w := by
  refine .bind (findMetric_moves id w) fun m a found => ?_
  obtain ⟨mem, isId, same⟩ := findMetric_ok found
  rw [← same] at mem
  refine .bind (checkMutateAccess_moves scope m a) fun _ b checked => ?_
  obtain ⟨may, rfl⟩ := checkMutateAccess_ok checked
  split
  · exact .ret _
  · refine .bind (storageUpdate_moves ⟨m, mem, may, enabled, rfl⟩) fun _ c new => ?_
    have isToggled : ({ m with enabled } : Metric).id = some id := isId
    have stored : { m with enabled } ∈ c.repo.rows := by
      rw [← writeColumns_flag mem enabled]
      exact storageUpdate_mem mem isId isToggled new
    have moves := toggleLogpoint_moves { m with enabled } enabled c
    have sameRepo := hands_repo (moves_wider (fun _ _ synced => synced.hands) moves)
    refine .bind (.attempt ?_) fun out d tried => ?_
    · exact moves_wider (fun _ _ synced => synced.toggles) moves
    · cases out with
      | ok _ => exact .ret _
      | error e =>
        rw [attempt_apply tried] at sameRepo
        refine .bind (.attempt (storageUpdate_moves ⟨{ m with enabled }, ?_, ?_,
          m.enabled, rfl⟩)) fun rollback _ _ => ?_
        · rw [sameRepo]
          exact stored
        · cases scope <;> exact may
        · cases rollback <;> exact .fail _

theorem groupStep_keeps {so next : GroupOperation} {other : Metric}
    (mem : m ∈ w.repo.rows) (has : other ∈ w.repo.rows) (ne : m ≠ other)
    (ran : groupStep target scope so m w = (.ok next, t)) : other ∈ t.repo.rows := by
  unfold groupStep at ran
  split at ran
  · have isLast : w = t := congrArg Prod.snd ran
    exact isLast ▸ has
  · split at ran
    · have isLast : w = t := congrArg Prod.snd ran
      exact isLast ▸ has
    · obtain ⟨out, s, tried, back⟩ := bind_eq_ok ran
      have isLast : s = t := by
        cases out <;> exact congrArg Prod.snd back
      subst isLast
      rcases storageUpdate_result (attempt_apply tried) with
        ⟨e, -, same⟩ | ⟨repo, new, -, same⟩
      · rw [same.repo]
        exact has
      · obtain ⟨id, isId, rows, -⟩ := update_eq_ok new
        rw [same.repo, rows, mem_map]
        refine ⟨other, has, ?_⟩
        rw [rewrite, if_neg]
        exact fun isOther => ne (w.repo.eq_of_id mem has (isId.trans isOther.symm))

theorem groupStep_moves {so : GroupOperation} (mem : m ∈ w.repo.rows) :
    Moves (Moved (ToggleEffect scope)) (groupStep target scope so m) w := by
  unfold groupStep
  split
  · exact .ret _
  next may =>
    split
    · exact .ret _
    · refine .bind (.attempt (storageUpdate_moves ⟨m, mem, by simpa using may, target,
        rfl⟩)) fun out _ _ => ?_
      cases out <;> exact .ret _

/-- The induction is over the metrics of the group, which are different stored rows. -/
theorem groupLoop_moves :
    ∀ (metrics : List Metric) (so : GroupOperation) (w : World), metrics.Nodup →
      (∀ m ∈ metrics, m ∈ w.repo.rows) →
        Moves (Moved (ToggleEffect scope)) (groupLoop target scope so metrics) w
  | [], _, _, _, _ => .ret _
  | m :: rest, so, w, distinct, stored => by
    have mem := stored m (.head _)
    refine .bind (groupStep_moves mem) fun next t ran => ?_
    refine groupLoop_moves rest next t distinct.of_cons fun other has => ?_
    refine groupStep_keeps mem (stored other (.tail _ has)) ?_ ran
    rintro rfl
    exact (nodup_cons.mp distinct).1 has

/-- **`enable_group` and `disable_group`.** -/
theorem setGroup_moves (target : Bool) (group : String) (scope : MetricScope)
    (w : World) : Moves (Moved (ToggleEffect scope)) (setGroup env target group scope) w := by
  refine .bind (query_moves _) fun metrics a asked => ?_
  obtain ⟨isMetrics, same⟩ := query_ok asked
  have distinct : metrics.Nodup := isMetrics ▸ findByGroup_nodup
  have stored : ∀ m ∈ metrics, m ∈ a.repo.rows := by
    intro m mem
    rw [isMetrics] at mem
    rw [same]
    exact (mem_findByGroup.mp mem).1
  refine .bind (groupLoop_moves metrics _ a distinct stored) fun result b _ => ?_
  refine .bind (.forEach fun entry _ t => ?_) fun _ _ _ => .ret _
  exact .bind (.attempt (syncLogpoint_moves (fun _ _ synced => synced.toggles) _ _ _ t))
    fun _ _ _ => .ret ()

/-! ### Runs without failing calls -/

section Quiet

variable {env : Env} {w : World}

theorem importMetric_quiet (quiet : w.answers = []) (passes : FieldsPass env m)
    (done : w.repo.save m = .ok (id, repo)) :
    importMetric env m w = (.ok id, { w with repo }) := by
  obtain ⟨warnings, valid⟩ := passes
  have checked : (ofExcept (validateMetricFields env m) :
      Operation (List OperationWarning)) w = (.ok warnings, w) := congrArg (·, w) valid
  rw [importMetric, bind_of_ok checked]
  exact storageSave_quiet quiet done

def World.cleared (w : World) (connectionId : ConnectionId) (existing : Metric) : World :=
  if existing.enabled && w.hasAdapter connectionId then
    w.tracks connectionId ((w.tracked connectionId).erase existing.name)
  else w

theorem cleared_same (w : World) (c : ConnectionId) (existing : Metric) :
    ∃ tracked, w.cleared c existing = { w with tracked } := by
  unfold World.cleared
  split
  · exact ⟨_, rfl⟩
  · exact ⟨w.tracked, rfl⟩

theorem clearLogpoint_quiet (c : ConnectionId) (existing : Metric)
    (quiet : w.answers = []) :
    clearLogpoint c existing w = (.ok (), w.cleared c existing) := by
  unfold clearLogpoint World.cleared
  cases existing.enabled with
  | false => rfl
  | true =>
    rw [if_pos rfl, bind_of_ok (attempt_of (getAdapter_apply c w))]
    cases w.hasAdapter c with
    | false => rfl
    | true =>
      exact bind_of_ok (attempt_of (adapterRemove_quiet c existing quiet)) _

theorem replaceExisting_quiet (quiet : w.answers = []) (isId : existing.id = some id)
    (done : w.repo.delete id = .ok repo) :
    ∃ warning, replaceExisting m existing w =
      (.ok warning, { w.cleared m.connectionId existing with repo }) := by
  refine ⟨.metricReplaced existing.name id (locationText m.location), ?_⟩
  unfold replaceExisting
  rw [isId]
  dsimp only
  rw [bind_of_ok (clearLogpoint_quiet _ _ quiet)]
  obtain ⟨tracked, isCleared⟩ := cleared_same w m.connectionId existing
  have gone := storageDelete_quiet (w := { w with tracked }) quiet done
  rw [isCleared, bind_of_ok gone, pure_apply]

/-- An accepted metric that finds another one at its location, without failing calls. -/
theorem addMetric_quiet {text : Option String} (quiet : w.answers = [])
    (ok : AddAccepted env w m text)
    (found : w.repo.findByLocation m.connectionId m.location m.userId = some existing)
    (replace : Bool) :
    ∃ warnings, addMetric env m replace text w =
      (if replace then do
          let warning ← replaceExisting m existing
          insertMetric env m (warnings ++ [warning])
        else mergeInto m existing warnings) (w.keeps m text) := by
  rcases addMetric_checked env m replace text w with ⟨no, -⟩ | ⟨-, warnings, asked⟩
  · exact absurd ok no
  · have answer := query_quiet (w := w.keeps m text)
      (·.findByLocation m.connectionId m.location m.userId) quiet
    rw [bind_of_ok answer, World.keeps, found] at asked
    exact ⟨warnings, asked⟩

theorem fetchOld_quiet (m : Metric) (quiet : w.answers = []) : ∃ old, fetchOld m w = (.ok old, w) := by
  unfold fetchOld
  cases m.id with
  | none => exact ⟨_, rfl⟩
  | some id => exact ⟨_, bind_of_ok (attempt_of (query_quiet _ quiet)) _⟩

end Quiet

end Detrix.Service
