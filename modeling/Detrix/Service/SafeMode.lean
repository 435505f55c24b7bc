/-
**A connection in safe mode gets no breakpoint.**

What is handed to the adapter of a connection comes from a submitted metric or from the rows that
are stored for the connection. `SafeStore` is the invariant of the rows: their capture flags are
off, and where a Go metric stands, no expression of any metric at its location calls a function,
because the logpoint there has the language of the first metric and the expressions of all.

- `safe_connection_gets_no_breakpoint`: in a run of careful requests with safe mode on throughout,
  nothing that is handed to the adapter needs a breakpoint.
- `imported_trace_handed_over`: an imported metric is not checked and reaches the adapter.
-/

import Detrix.Service.Runs

namespace Detrix.Service

open Detrix.Core Library List Repository

/-! ### Metrics without breakpoint -/

/-- Nothing is captured, and no Go expression calls a function. -/
def NoBreakpoint (m : Metric) : Prop :=
  m.captureStackTrace = false ∧ m.captureMemorySnapshot = false ∧
    (m.language = .go → ∀ e ∈ m.expressions, expressionContainsFunctionCall e = false)

theorem noBreakpoint_iff (m : Metric) : NoBreakpoint m ↔ requiresBreakpoint m = false := by
  simp [NoBreakpoint, requiresBreakpoint, isGoFunctionCall, and_assoc]

/-- In the language of the one metric, the expressions of the other need no breakpoint. -/
def Hosts (host guest : Metric) : Prop :=
  host.language = .go → ∀ e ∈ guest.expressions, expressionContainsFunctionCall e = false

/-- The metric goes together with the rows of a connection at its location. -/
def GoesWith (connectionId : ConnectionId) (rows : List Metric) (m : Metric) : Prop :=
  ∀ row ∈ rows, row.connectionId = connectionId → row.location = m.location →
    Hosts m row ∧ Hosts row m

/-! ### The invariant -/

/-- The rows of a connection from which no logpoint needs a breakpoint. -/
structure SafeStore (connectionId : ConnectionId) (rows : List Metric) : Prop where
  flags : ∀ row ∈ rows, row.connectionId = connectionId →
    row.captureStackTrace = false ∧ row.captureMemorySnapshot = false
  together : ∀ row ∈ rows, row.connectionId = connectionId → GoesWith connectionId rows row

/-- The rows are safe, what was handed over is safe, and the adapter is in safe mode. -/
structure SafeWorld (connectionId : ConnectionId) (w : World) : Prop where
  store : SafeStore connectionId w.repo.rows
  handed : ∀ m, (connectionId, m) ∈ w.handed → NoBreakpoint m
  mode : w.isSafeMode connectionId ≠ some false

variable {m : Metric} {repo : Repository} {id : MetricId}

namespace SafeStore

variable {c : ConnectionId} {rows : List Metric}

section
variable (safe : SafeStore c rows)
include safe

theorem row (mem : m ∈ rows) (isConn : m.connectionId = c) : NoBreakpoint m := by
  obtain ⟨noTrace, noSnapshot⟩ := safe.flags m mem isConn
  exact ⟨noTrace, noSnapshot, (safe.together m mem isConn m mem isConn rfl).1⟩

theorem sublist {fewer : List Metric} (subset : fewer ⊆ rows) : SafeStore c fewer :=
  ⟨fun m mem => safe.flags m (subset mem), fun m mem isConn other has =>
    safe.together m (subset mem) isConn other (subset has)⟩

/-- The logpoint of the metrics at a location: the first one hosts the expressions of all. -/
theorem logpoint {loc : Location} {metrics : List Metric} (subset : metrics ⊆ rows)
    (isConn : ∀ n ∈ metrics, n.connectionId = c)
    (isLoc : ∀ n ∈ metrics, n.location = loc) (isLogpoint : logpoint metrics = some m) :
    NoBreakpoint m := by
  cases metrics with
  | nil => simp [Service.logpoint] at isLogpoint
  | cons first rest =>
    rw [Service.logpoint, Option.some.injEq] at isLogpoint
    have mem : first ∈ first :: rest := (.head _)
    obtain ⟨noTrace, noSnapshot⟩ := safe.flags first (subset mem) (isConn first mem)
    subst isLogpoint
    refine ⟨noTrace, noSnapshot, fun isGo e merged => ?_⟩
    obtain ⟨n, has, hasExpression⟩ := mem_mergedExpressions.mp merged
    have sameLocation : n.location = first.location := by
      rw [isLoc n has, isLoc first mem]
    exact (safe.together first (subset mem) (isConn first mem) n (subset has)
      (isConn n has) sameLocation).1 isGo e hasExpression

theorem append
    (fits : m.connectionId = c → NoBreakpoint m ∧ GoesWith c rows m) :
    SafeStore c (rows ++ [m]) := by
  constructor
  · intro row mem isConn
    rcases mem_append.mp mem with old | new
    · exact safe.flags row old isConn
    · obtain rfl := mem_singleton.mp new
      exact ⟨(fits isConn).1.1, (fits isConn).1.2.1⟩
  · intro row mem isConn other has ne sameLocation
    rcases mem_append.mp mem with old | new <;>
      rcases mem_append.mp has with oldOther | newOther
    · exact safe.together row old isConn other oldOther ne sameLocation
    · obtain rfl := mem_singleton.mp newOther
      exact ((fits ne).2 row old isConn sameLocation.symm).symm
    · obtain rfl := mem_singleton.mp new
      exact (fits isConn).2 other oldOther ne sameLocation
    · obtain rfl := mem_singleton.mp new
      obtain rfl := mem_singleton.mp newOther
      exact ⟨(fits isConn).1.2.2, (fits isConn).1.2.2⟩

/-- A row is rewritten: it has to go with the other rows. -/
theorem rewrite
    (fits : ∀ row ∈ rows, row.id = some id → row.connectionId = c →
      Hosts m m ∧ GoesWith c (rows.filter (·.id ≠ some id)) m) :
    SafeStore c (rows.map (Repository.rewrite id m)) := by
  constructor
  · intro row mem isConn
    obtain ⟨old, has, rfl⟩ := mem_map.mp mem
    unfold Repository.rewrite at isConn ⊢
    split at isConn
    next isOld =>
      rw [if_pos isOld]
      exact safe.flags old has isConn
    next isOld =>
      rw [if_neg isOld]
      exact safe.flags old has isConn
  · intro row mem isConn other has isOther sameLocation
    obtain ⟨a, left, rfl⟩ := mem_map.mp mem
    obtain ⟨b, right, rfl⟩ := mem_map.mp has
    have kept : ∀ n ∈ rows, n.id ≠ some id → n ∈ rows.filter (·.id ≠ some id) := by
      intro n mem ne
      exact mem_filter.mpr ⟨mem, by simpa using ne⟩
    unfold Repository.rewrite at *
    by_cases isA : a.id = some id <;> by_cases isB : b.id = some id
    · simp only [if_pos isA, if_pos isB] at *
      exact ⟨(fits a left isA isConn).1, (fits a left isA isConn).1⟩
    · simp only [if_pos isA, if_neg isB] at *
      exact (fits a left isA isConn).2 b (kept b right isB) isOther sameLocation
    · simp only [if_neg isA, if_pos isB] at *
      exact ((fits b right isB isOther).2 a (kept a left isA) isConn sameLocation.symm).symm
    · simp only [if_neg isA, if_neg isB] at *
      exact safe.together a left isConn b right isOther sameLocation

end

end SafeStore

/-! ### One effect -/

/-- What is handed over from a safe store needs no breakpoint. -/
theorem Synced.noBreakpoint {c : ConnectionId}
    (synced : Synced repo (.handed c m)) (safe : SafeStore c repo.rows) :
    NoBreakpoint m := by
  rcases synced with ⟨loc, isLogpoint⟩ | ⟨mem, isConn⟩
  · have stored : ∀ n ∈ (repo.findAllAtLocation c loc).filter (·.enabled),
        n ∈ repo.rows ∧ n.connectionId = c ∧ n.location = loc :=
      fun n mem => mem_findAllAtLocation.mp (mem_filter.mp mem).1
    exact safe.logpoint (fun n mem => (stored n mem).1) (fun n mem => (stored n mem).2.1)
      (fun n mem => (stored n mem).2.2) isLogpoint
  · exact safe.row mem isConn

namespace SafeWorld

variable {c : ConnectionId} {w : World} {other : ConnectionId}

section
variable (safe : SafeWorld c w)
include safe

theorem hand (noBreakpoint : other = c → NoBreakpoint m) :
    SafeWorld c { w with handed := w.handed ++ [(other, m)] } := by
  refine ⟨safe.store, fun n mem => ?_, safe.mode⟩
  rcases mem_append.mp mem with old | new
  · exact safe.handed n old
  · rw [mem_singleton, Prod.mk.injEq] at new
    rw [new.2]
    exact noBreakpoint new.1.symm

theorem handSynced (synced : Synced w.repo (.handed other m)) :
    SafeWorld c { w with handed := w.handed ++ [(other, m)] } := by
  refine safe.hand fun isConn => ?_
  subst isConn
  exact synced.noBreakpoint safe.store

theorem delete (done : w.repo.delete id = .ok repo) : SafeWorld c { w with repo } := by
  refine ⟨?_, safe.handed, safe.mode⟩
  rw [(delete_eq_ok done).1]
  exact safe.store.sublist filter_sublist.subset

theorem save (done : w.repo.save m = .ok (id, repo))
    (fits : m.connectionId = c → NoBreakpoint m ∧ GoesWith c w.repo.rows m) :
    SafeWorld c { w with repo } := by
  refine ⟨?_, safe.handed, safe.mode⟩
  rw [(save_eq_ok done).2.1]
  exact safe.store.append fits

theorem update (done : w.repo.update m = .ok repo)
    (fits : ∀ row ∈ w.repo.rows, row.id = m.id → row.connectionId = c →
      Hosts m m ∧ GoesWith c (w.repo.rows.filter (·.id ≠ m.id)) m) :
    SafeWorld c { w with repo } := by
  obtain ⟨id, isId, rows, -⟩ := update_eq_ok done
  refine ⟨?_, safe.handed, safe.mode⟩
  rw [rows]
  rw [isId] at fits
  exact safe.store.rewrite fits

theorem unregister (other : ConnectionId) : SafeWorld c { w with adapters := w.without other } := by
  refine ⟨safe.store, safe.handed, ?_⟩
  show (w.without other).lookup c ≠ some false
  rw [World.lookup_without]
  split
  · simp
  · exact safe.mode

theorem register {safeMode : Bool} (isSafe : other = c → safeMode = true) :
    SafeWorld c { w with adapters := (other, safeMode) :: w.without other } := by
  refine ⟨safe.store, safe.handed, ?_⟩
  show ((other, safeMode) :: w.without other).lookup c ≠ some false
  by_cases ne : c = other
  · subst ne
    simp [isSafe rfl]
  · have skipped : (c == other) = false := by simpa using ne
    rw [lookup_cons, skipped]
    exact (safe.unregister other).mode

theorem toggle {row : Metric} {enabled : Bool} (mem : row ∈ w.repo.rows)
    (done : w.repo.update { row with enabled } = .ok repo) :
    SafeWorld c { w with repo } := by
  refine safe.update done fun other has ne isConn => ?_
  obtain rfl := w.repo.eq_of_id has mem ne
  have together := safe.store.together other has isConn
  exact ⟨(together other has isConn rfl).1, fun n kept =>
    together n (mem_filter.mp kept).1⟩

/-- A merge is safe if the submitted metric goes with the rows at its location. -/
theorem merge {existing : Metric} (mem : existing ∈ w.repo.rows)
    (isConn : existing.connectionId = m.connectionId)
    (sameLocation : existing.location = m.location)
    (fits : m.connectionId = c → GoesWith c w.repo.rows m)
    (done : w.repo.update (mergeExpressions existing m) = .ok repo) :
    SafeWorld c { w with repo } := by
  refine safe.update done fun row has isRow ofConnection => ?_
  obtain rfl := w.repo.eq_of_id has mem isRow
  have together := safe.store.together row has ofConnection
  have goesWith := fits (isConn.symm.trans ofConnection)
  have exprs : ∀ e ∈ (mergeExpressions row m).expressions,
      e ∈ row.expressions ∨ e ∈ m.expressions := by
    intro e merged
    rcases mem_append.mp merged with old | new
    · exact .inl old
    · exact .inr (mem_filter.mp new).1
  constructor
  · intro isGo e merged
    rcases exprs e merged with old | new
    · exact (together row has ofConnection rfl).1 isGo e old
    · exact (goesWith row has ofConnection sameLocation).2 isGo e new
  · intro other kept ne atLocation
    have stored := (mem_filter.mp kept).1
    have pair := together other stored ne atLocation
    refine ⟨pair.1, fun isGo e merged => ?_⟩
    rcases exprs e merged with old | new
    · exact pair.2 isGo e old
    · exact (goesWith other stored ne (atLocation.trans sameLocation)).2 isGo e new

end

end SafeWorld

/-! ### Careful requests -/

/-- Adapters of the connection are started in safe mode. -/
def StartsSafe (connectionId : ConnectionId) : Request → Prop
  | .startAdapter other _ _ safeMode => other = connectionId → safeMode = true
  | _ => True

/-- What the service does not check itself: an imported metric needs no breakpoint, a submitted one
goes with the other metrics at its location, and an update names the connection of its row. -/
def Careful (connectionId : ConnectionId) (w : World) : Request → Prop
  | .importMetric m => m.connectionId = connectionId →
    NoBreakpoint m ∧ GoesWith connectionId w.repo.rows m
  | .addMetric m _ _ => m.connectionId = connectionId → GoesWith connectionId w.repo.rows m
  | .updateMetric m _ =>
    (∀ row ∈ w.repo.rows, row.id = m.id → row.connectionId = connectionId →
      m.connectionId = connectionId) ∧
    (m.connectionId = connectionId →
      GoesWith connectionId (w.repo.rows.filter (·.id ≠ m.id)) m)
  | _ => True

namespace SafeWorld

variable {c : ConnectionId} {env : Env} {w a b : World} {e : Effect}

section
variable (start : SafeWorld c w)
include start

/-- What passes the safe mode check of a safe connection needs no breakpoint. -/
theorem checked (passes : validateSafeMode (w.isSafeMode m.connectionId) m = .ok ())
    (isConn : m.connectionId = c) : NoBreakpoint m := by
  rw [noBreakpoint_iff]
  rcases (validateSafeMode_eq_ok _ m).mp passes with harmless | unsafeMode
  · exact harmless
  · rw [isConn] at unsafeMode
    exact absurd unsafeMode start.mode

theorem addEffect {replace : Bool} {text : Option String}
    (careful : Careful c w (.addMetric m replace text))
    (ok : AddAccepted env w m text) (may : AddEffect env w m replace a.repo e)
    (change : Change a e b) (safe : SafeWorld c a) : SafeWorld c b := by
  obtain ⟨anchor, anchorStatus, isAnchored⟩ := anchored_eq env m
  cases change with
  | saved done =>
    obtain ⟨rfl, subset⟩ := may
    rw [isAnchored] at done
    refine safe.save done fun isConn => ⟨start.checked ok.1 isConn, ?_⟩
    exact fun row mem => careful isConn row (subset mem)
  | updated done =>
    obtain ⟨-, same, old, found, -, rfl⟩ := may
    obtain ⟨mem, isConn, sameLocation, -⟩ := findByLocation_eq_some found
    rw [← same] at mem
    refine safe.merge mem isConn sameLocation ?_ done
    rw [same]
    exact careful
  | deleted done => exact safe.delete done
  | handed other installed =>
    rcases may with ⟨rfl, id, rfl⟩ | synced
    · refine safe.hand fun isConn => ?_
      rw [isAnchored]
      exact start.checked ok.1 isConn
    · exact safe.handSynced synced
  | registered | unregistered => exact may.elim

theorem updateEffect {scope : MetricScope}
    (careful : Careful c w (.updateMetric m scope))
    (ok : UpdateAccepted env w m scope) (may : UpdateEffect w m a.repo e)
    (change : Change a e b) (safe : SafeWorld c a) : SafeWorld c b := by
  cases change with
  | updated done =>
    obtain ⟨rfl, same⟩ := may
    refine safe.update done fun row mem isRow ofConnection => ?_
    rw [same] at mem ⊢
    have isConn := careful.1 row mem isRow ofConnection
    exact ⟨(start.checked ok.2.1 isConn).2.2, careful.2 isConn⟩
  | handed other installed =>
    obtain ⟨rfl, rfl⟩ := may
    exact safe.hand (start.checked ok.2.1)
  | saved | deleted | registered | unregistered => exact may.elim

/-- **Every effect of a careful request keeps the connection safe.** -/
theorem effect {req : Request} (startsSafe : StartsSafe c req)
    (careful : Careful c w req) (may : req.permitted env w a.repo e)
    (change : Change a e b) (safe : SafeWorld c a) : SafeWorld c b := by
  have toggled : ∀ scope, ToggleEffect scope a.repo e → SafeWorld c b := by
    intro scope may
    cases change with
    | updated done =>
      obtain ⟨row, mem, -, enabled, rfl⟩ := may
      exact safe.toggle mem done
    | handed other m => exact safe.handSynced may
    | _ => exact may.elim
  cases req with
  | importMetric m =>
    cases change with
    | saved done =>
      obtain ⟨rfl, -, same⟩ := may
      refine safe.save done ?_
      rw [same]
      exact careful
    | _ => exact may.elim
  | addMetric m replace text =>
    exact start.addEffect careful may.1 may.2 change safe
  | updateMetric m scope => exact start.updateEffect careful may.1 may.2 change safe
  | removeMetric id scope =>
    cases change with
    | deleted done => exact safe.delete done
    | handed other m => exact safe.handSynced may
    | _ => exact may.elim
  | toggleMetric id enabled scope | enableGroup group scope | disableGroup group scope =>
    exact toggled scope may
  | syncMetrics other =>
    cases change with
    | handed one m => exact safe.handSynced may
    | _ => exact may.elim
  | startAdapter other lang managedByAgent safeMode =>
    cases change with
    | registered one mode =>
      obtain ⟨rfl, rfl⟩ := may
      exact safe.register startsSafe
    | unregistered one => exact safe.unregister one
    | handed other m => exact safe.handSynced may
    | _ => exact may.elim
  | stopAdapter other =>
    cases change with
    | unregistered one => exact safe.unregister one
    | _ => exact may.elim

end

end SafeWorld

/-! ### Runs -/

/-- A request with safe mode on and within the conditions. -/
def SafeStep (connectionId : ConnectionId) (w : World) (event : Request × List Answer) : Prop :=
  StartsSafe connectionId event.1 ∧ Careful connectionId w event.1

theorem safeWorld_step {c : ConnectionId} {env : Env} (w : World)
    (event : Request × List Answer) (safe : SafeWorld c w)
    (allowed : SafeStep c w event) : SafeWorld c (step env w event) := by
  refine step_keeps (fun w vfs answers tracked before => ?_)
    (fun a b e may change before => ?_) safe
  · exact ⟨before.store, before.handed, before.mode⟩
  · exact safe.effect allowed.1 allowed.2 may change before

/-- **A connection in safe mode gets no breakpoint.** From an empty repository, in every run whose
requests are careful, whatever the storage and the adapters answer. -/
theorem safe_connection_gets_no_breakpoint (env : Env) (connectionId : ConnectionId) (w : World)
    (noRows : w.repo.rows = []) (nothingHanded : w.handed = [])
    (safeMode : w.isSafeMode connectionId ≠ some false) (events : List (Request × List Answer))
    (careful : Run.Allowed (step env) (SafeStep connectionId) w events) :
    ∀ m, (connectionId, m) ∈ (Run.after (step env) w events).handed →
      m.captureStackTrace = false ∧ m.captureMemorySnapshot = false ∧
        (m.language = .go → ∀ e ∈ m.expressions, expressionContainsFunctionCall e = false) := by
  have start : SafeWorld connectionId w := by
    refine ⟨⟨?_, ?_⟩, ?_, safeMode⟩
    · simp [noRows]
    · simp [noRows]
    · simp [nothingHanded]
  exact (Run.invariant_after (step env) safeWorld_step events w start careful).handed

/-- A metric is imported, and the adapter of its connection is started. -/
def importAndStart (m : Metric) : List (Request × List Answer) :=
  [(.importMetric m, []), (.startAdapter "c" .python false true, [])]

theorem importAndStart_gets_no_breakpoint :
    ("c", storedAs 1 smallMetric) ∈
        (Run.after (step smallService) emptyWorld (importAndStart smallMetric)).handed ∧
      ∀ m, ("c", m) ∈ (Run.after (step smallService) emptyWorld (importAndStart smallMetric)).handed →
        m.captureStackTrace = false ∧ m.captureMemorySnapshot = false ∧
          (m.language = .go → ∀ e ∈ m.expressions, expressionContainsFunctionCall e = false) := by
  constructor
  · rw [importAndStart, Run.after_cons, step_import_first smallMetric_passes]
    decide
  · have noBreakpoint : NoBreakpoint smallMetric := ⟨rfl, rfl, nofun⟩
    refine safe_connection_gets_no_breakpoint smallService "c" emptyWorld rfl rfl (by decide)
      (importAndStart smallMetric) ⟨⟨trivial, fun _ => ⟨noBreakpoint, ?_⟩⟩, ⟨fun _ => rfl, trivial⟩,
        trivial⟩
    exact fun row mem => absurd mem not_mem_nil

/-! ### A metric that is imported -/

def tracingMetric : Metric := { smallMetric with captureStackTrace := true }

/-- `import_metric` does not check for safe mode, and `start_adapter` hands the metric over. -/
theorem imported_trace_handed_over :
    ∃ m, ("c", m) ∈
        (Run.after (step smallService) emptyWorld (importAndStart tracingMetric)).handed ∧
      m.captureStackTrace = true := by
  refine ⟨storedAs 1 tracingMetric, ?_, rfl⟩
  decide

end Detrix.Service
