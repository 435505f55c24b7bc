/-
**The operations of the metric service.**

`import_metric`, `add_metric`, `update_metric`, `remove_metric`, `toggle_metric`, the group
operations, `sync_metrics_for_connection`, and `start_adapter` with its synchronisation, as programs
over the world. A failed call leaves what was done before it: a metric that was saved stays saved
when its adapter cannot be found, and is deleted again only when the adapter refuses it.
-/

import Detrix.Service.World
import Mathlib.Data.List.Dedup
import Mathlib.Data.List.Sort

namespace Detrix.Service

open Detrix.Core Library Program

/-! ### Logpoints -/

def locationText (location : Location) : String :=
  location.file ++ ":" ++ toString location.line

def mergedExpressions (metrics : List Metric) : List String :=
  (metrics.flatMap (·.expressions)).dedup.insertionSort (· ≤ ·)

theorem mem_mergedExpressions {metrics : List Metric} {e : String} :
    e ∈ mergedExpressions metrics ↔ ∃ m ∈ metrics, e ∈ m.expressions := by
  simp [mergedExpressions]

/-- The logpoint of the enabled metrics at a location: the first one with all expressions. -/
def logpoint : List Metric → Option Metric
  | [] => none
  | first :: rest => some { first with expressions := mergedExpressions (first :: rest) }

def syncLogpoint (connectionId : ConnectionId) (location : Location) (fallback : Option Metric) :
    Operation Unit := do
  let all ← query (·.findAllAtLocation connectionId location)
  let enabled := all.filter (·.enabled)
  match ← (getAdapter connectionId).attempt with
  | .error _ => return ()
  | .ok _ =>
    if mergedExpressions enabled = [] then
      match fallback.or all.head? with
      | some reference =>
        let _ ← (adapterRemove connectionId reference).attempt
      | none => return ()
    else
      match logpoint enabled with
      | some merged =>
        let _ ← (adapterSet connectionId merged).attempt
      | none => return ()

/-- `set_metrics_batch`, with the number of metrics that were set. -/
def setMetricsBatch (connectionId : ConnectionId) : List Metric → Operation Nat
  | [] => return 0
  | m :: rest => do
    let outcome ← (adapterSet connectionId m).attempt
    let count ← setMetricsBatch connectionId rest
    return match outcome with
      | .ok _ => count + 1
      | .error _ => count

/-! ### Checks that read the world -/

def checkMutateAccess (scope : MetricScope) (m : Metric) : Operation Unit :=
  if scope.canMutate m then return ()
  else
    let id := match m.id with
      | some id => "Some(" ++ toString id ++ ")"
      | none => "None"
    fail (.accessDenied ("Cannot mutate metric '" ++ m.name ++ "' (id=" ++ id ++ ")"))

def checkSafeMode (m : Metric) : Operation Unit := do
  let w ← get
  ofExcept (validateSafeMode (w.isSafeMode m.connectionId) m)

section MetricService

variable (env : Env)

def checkMetric (m : Metric) : Operation (List OperationWarning) := do
  let w ← get
  ofExcept (validateMetric env w.vfs m)

/-! ### Importing and synchronising -/

/-- `import_metric`: no safe mode check, as there is no connection yet. -/
def importMetric (m : Metric) : Operation MetricId := do
  let _ ← ofExcept (validateMetricFields env m)
  storageSave m

def syncMetricsForConnection (connectionId : ConnectionId) : Operation Nat := do
  getAdapter connectionId
  let metrics ← query (·.findByConnectionId connectionId)
  setMetricsBatch connectionId (metrics.filter (·.enabled))

def hasDapAdapter (language : SourceLanguage) : Bool :=
  language = .python || language = .go || language = .rust

def stopAdapter (connectionId : ConnectionId) : Operation Unit := do
  if (← get).hasAdapter connectionId then
    unregister connectionId
    let _ ← (call .adapter).attempt

/-- `start_adapter`: the adapter is created, started and subscribed to, the enabled metrics of the
connection are handed to it, and it is registered unless a newer request has taken over. -/
def startAdapter (connectionId : ConnectionId) (language : SourceLanguage)
    (managedByAgent safeMode : Bool) : Operation Unit := do
  stopAdapter connectionId
  if !managedByAgent && !hasDapAdapter language then
    fail (.invalidConfig ("Unsupported language '" ++ languageName language ++
      "'. Supported: python, go, rust"))
  else
    let _ ← call .adapter
    newAdapter connectionId
    let _ ← call .adapter
    let _ ← call .adapter
    let metrics := match ← (query (·.findByConnectionId connectionId)).attempt with
      | .ok metrics => metrics
      | .error _ => []
    let _ ← setMetricsBatch connectionId (metrics.filter (·.enabled))
    let _ ← call fun _ => .adapter
      ("Connection " ++ connectionId ++ " start was superseded by a newer request")
    register connectionId safeMode

/-! ### Adding -/

def newExpressions (existing m : Metric) : List String :=
  m.expressions.filter (· ∉ existing.expressions)

def mergeExpressions (existing m : Metric) : Metric :=
  { existing with expressions := existing.expressions ++ newExpressions existing m }

/-- The logpoint of a metric is removed and set for another one; failures are ignored. -/
def resetLogpoint (connectionId : ConnectionId) (existing m : Metric) : Operation Unit := do
  match ← (getAdapter connectionId).attempt with
  | .error _ => return ()
  | .ok _ =>
    let _ ← (adapterRemove connectionId existing).attempt
    let _ ← (adapterSet connectionId m).attempt

def mergeInto (m existing : Metric) (warnings : List OperationWarning) :
    Operation (MetricId × List OperationWarning) :=
  match existing.id with
  | none => fail (.storage ("Existing metric '" ++ existing.name ++ "' at " ++
      locationText m.location ++ " missing ID - database integrity issue"))
  | some id =>
    if newExpressions existing m = [] then return (id, warnings)
    else do
      storageUpdate (mergeExpressions existing m)
      if existing.enabled then
        resetLogpoint m.connectionId existing (mergeExpressions existing m)
      return (id, warnings ++ [.expressionsMerged existing.name id (newExpressions existing m)
        (locationText m.location)])

def clearLogpoint (connectionId : ConnectionId) (existing : Metric) : Operation Unit :=
  if existing.enabled then do
    match ← (getAdapter connectionId).attempt with
    | .ok _ =>
      let _ ← (adapterRemove connectionId existing).attempt
    | .error _ => return ()
  else return ()

/-- The existing metric is removed before the submitted one is inserted. -/
def replaceExisting (m existing : Metric) : Operation OperationWarning :=
  match existing.id with
  | none => fail (.storage "Stored metric missing ID - database integrity issue")
  | some id => do
    clearLogpoint m.connectionId existing
    storageDelete id
    return .metricReplaced existing.name id (locationText m.location)

/-- The metric with its anchor, or the warning that there is none. -/
def anchored (m : Metric) : Metric × List OperationWarning :=
  match env.captureAnchor m.location m.language with
  | .ok anchor => ({ m with anchor := some anchor, anchorStatus := .verified }, [])
  | .error e => ({ m with anchorStatus := .unanchored },
      [.anchorCaptureFailed m.name (locationText m.location) e])

/-- The saved metric is handed to its adapter, and deleted again if that fails. -/
def installMetric (m : Metric) (id : MetricId) : Operation (List OperationWarning) := do
  getAdapter m.connectionId
  match ← (adapterSet m.connectionId { m with id := some id }).attempt with
  | .ok (.unverified line message) =>
    return [.breakpointNotVerified m.location.file line message]
  | .ok _ => return []
  | .error e =>
    match ← (storageDelete id).attempt with
    | .error rollback => fail (.operationWithRollbackFailure e.message rollback.message
        ("metric_id=" ++ toString id))
    | .ok _ => fail e

def insertMetric (m : Metric) (warnings : List OperationWarning) :
    Operation (MetricId × List OperationWarning) := do
  let withAnchor := (anchored env m).1
  let id ← storageSave withAnchor
  let installed ← if withAnchor.enabled then installMetric withAnchor id else pure []
  return (id, warnings ++ (anchored env m).2 ++ installed)

/-- The files after the content of a metric's file was handed in. -/
def keepContent (m : Metric) (content : Option String) (vfs : Vfs) : Vfs :=
  match content with
  | some content => ((m.connectionId, m.location.file), content) :: vfs
  | none => vfs

def storeContent (m : Metric) (content : Option String) : Operation Unit :=
  modify fun w => { w with vfs := keepContent m content w.vfs }

def addMetric (m : Metric) (replace : Bool) (content : Option String) :
    Operation (MetricId × List OperationWarning) := do
  storeContent m content
  checkSafeMode m
  ofExcept (validateTenantIds m.userId m.agentId)
  let warnings ← checkMetric env m
  match ← query (·.findByLocation m.connectionId m.location m.userId) with
  | some existing =>
    if replace then
      let warning ← replaceExisting m existing
      insertMetric env m (warnings ++ [warning])
    else mergeInto m existing warnings
  | none => insertMetric env m warnings

/-! ### Updating and removing -/

/-- The adapter follows an update, by whether the metric was and is enabled. -/
def followUpdate (m : Metric) (old : Option Metric) : Operation Unit :=
  match old with
  | some old =>
    match old.enabled, m.enabled with
    | false, true => do
      let _ ← adapterSet m.connectionId m
    | true, false => adapterRemove m.connectionId m
    | true, true => do
      adapterRemove m.connectionId old
      let _ ← adapterSet m.connectionId m
    | false, false => return ()
  | none => if m.enabled then do
      let _ ← adapterSet m.connectionId m
    else return ()

/-- The metric as it was before an update, or the warning that it could not be read. -/
def fetchOld (m : Metric) : Operation (Option Metric × List OperationWarning) :=
  match m.id with
  | none => return (none, [])
  | some id => do
    match ← (query (·.findById id)).attempt with
    | .ok old => return (old, [])
    | .error e => return (none,
        [.fetchFailed ("old metric (id=" ++ toString id ++ ") for comparison") e.message])

/-- The adapter of the connection, if there is one, follows an update. -/
def syncUpdate (m : Metric) (old : Option Metric) (warnings : List OperationWarning) :
    Operation (List OperationWarning) := do
  match ← (getAdapter m.connectionId).attempt with
  | .error e => return warnings ++ [.adapterSyncFailed m.name
      ("Failed to get adapter for connection: " ++ e.message)]
  | .ok _ =>
    followUpdate m old
    return warnings

/-- `update_metric`: the scope is checked on the submitted metric. -/
def updateMetric (m : Metric) (scope : MetricScope) : Operation (List OperationWarning) := do
  checkMutateAccess scope m
  checkSafeMode m
  let _ ← checkMetric env m
  let (old, warnings) ← fetchOld m
  storageUpdate m
  syncUpdate m old warnings

def findMetric (id : MetricId) : Operation Metric := do
  match ← query (·.findById id) with
  | some m => return m
  | none => fail (.metricNotFound ("Metric " ++ toString id))

def removeMetric (id : MetricId) (scope : MetricScope) : Operation Unit := do
  let m ← findMetric id
  checkMutateAccess scope m
  storageDelete id
  syncLogpoint m.connectionId m.location (some m)

/-! ### Toggling -/

structure ToggleMetricResult where
  storageUpdated : Bool
  dapConfirmed : Bool
  actualLine : Option Nat
  dapMessage : Option String
  deriving DecidableEq

/-- The logpoint at the location of a metric that was toggled; failures are reported. -/
def toggleLogpoint (m : Metric) (enabled : Bool) : Operation Unit := do
  getAdapter m.connectionId
  let all ← query (·.findAllAtLocation m.connectionId m.location)
  if !enabled then adapterRemove m.connectionId m
  match logpoint (all.filter (·.enabled)) with
  | some merged =>
    let _ ← adapterSet m.connectionId merged
  | none => return ()

def toggleMetric (id : MetricId) (enabled : Bool) (scope : MetricScope) :
    Operation ToggleMetricResult := do
  let m ← findMetric id
  checkMutateAccess scope m
  if m.enabled = enabled then return ⟨false, true, none, some "No change needed"⟩
  else
    storageUpdate { m with enabled }
    match ← (toggleLogpoint { m with enabled } enabled).attempt with
    | .ok _ => return ⟨true, true, if enabled then some m.location.line else none, none⟩
    | .error e =>
      match ← (storageUpdate m).attempt with
      | .error rollback => fail (.operationWithRollbackFailure e.message rollback.message
          ("toggle metric '" ++ m.name ++ "'"))
      | .ok _ => fail e

structure GroupOperation where
  succeeded : Nat
  failed : List (String × String)
  skipped : Nat
  locations : List ((ConnectionId × Location) × Metric)

def groupStep (target : Bool) (scope : MetricScope) (so : GroupOperation) (m : Metric) :
    Operation GroupOperation :=
  if !scope.canMutate m then return { so with skipped := so.skipped + 1 }
  else if m.enabled = target then return so
  else do
    let toggled := { m with enabled := target }
    match ← (storageUpdate toggled).attempt with
    | .error e => return { so with failed := so.failed ++ [(m.name, "Storage error: " ++ e.message)] }
    | .ok _ =>
      let key := (m.connectionId, m.location)
      let known := so.locations.any (·.1 = key)
      return { so with
        succeeded := so.succeeded + 1
        locations := if known then so.locations else so.locations ++ [(key, toggled)] }

def groupLoop (target : Bool) (scope : MetricScope) : GroupOperation → List Metric →
    Operation GroupOperation
  | so, [] => return so
  | so, m :: rest => do
    let next ← groupStep target scope so m
    groupLoop target scope next rest

/-- The metrics of a group are enabled or disabled, and the logpoints follow. -/
def setGroup (target : Bool) (group : String) (scope : MetricScope) : Operation GroupOperation := do
  let metrics ← query (·.findByGroup group)
  let result ← groupLoop target scope ⟨0, [], 0, []⟩ metrics
  forEach (fun entry => do
    let _ ← (syncLogpoint entry.1.1 entry.1.2 (some entry.2)).attempt
    return ()) (env.order result.locations)
  return result

def enableGroup (group : String) (scope : MetricScope) : Operation GroupOperation :=
  setGroup env true group scope

def disableGroup (group : String) (scope : MetricScope) : Operation GroupOperation :=
  setGroup env false group scope

/-! ### Reading -/

def getMetricByNameScoped (name : String) (scope : MetricScope) : Operation (Option Metric) := do
  let m ← query (·.findByName name)
  return m.filter scope.canRead

end MetricService

end Detrix.Service
