/-
**Runs of the metric service.**

A run is a sequence of requests to the service, each with the answers that the storage and the
adapters give while it is served. `Request.permitted` collects the effects of the operations;
`step_keeps` reduces an invariant of runs to the effects that a request permits.
-/

import Detrix.Library.Run
import Detrix.Service.Effects

namespace Detrix.Service

open Detrix.Core Library
open Library.Program (Moves)

/-- A request to the service or to the manager of the adapters. -/
inductive Request where
  | importMetric (m : Metric)
  | addMetric (m : Metric) (replace : Bool) (content : Option String)
  | updateMetric (m : Metric) (scope : MetricScope)
  | removeMetric (id : MetricId) (scope : MetricScope)
  | toggleMetric (id : MetricId) (enabled : Bool) (scope : MetricScope)
  | enableGroup (group : String) (scope : MetricScope)
  | disableGroup (group : String) (scope : MetricScope)
  | syncMetrics (connectionId : ConnectionId)
  | startAdapter (connectionId : ConnectionId) (language : SourceLanguage)
      (managedByAgent safeMode : Bool)
  | stopAdapter (connectionId : ConnectionId)

namespace Request

variable (env : Env)

/-- The operation of a request; its result is not kept. -/
def serve : Request → Operation Unit
  | importMetric m => do
    let _ ← Service.importMetric env m
  | addMetric m replace content => do
    let _ ← Service.addMetric env m replace content
  | updateMetric m scope => do
    let _ ← Service.updateMetric env m scope
  | removeMetric id scope => Service.removeMetric id scope
  | toggleMetric id enabled scope => do
    let _ ← Service.toggleMetric id enabled scope
  | enableGroup group scope => do
    let _ ← Service.enableGroup env group scope
  | disableGroup group scope => do
    let _ ← Service.disableGroup env group scope
  | syncMetrics connectionId => do
    let _ ← syncMetricsForConnection connectionId
  | startAdapter connectionId language managedByAgent safeMode =>
    Service.startAdapter connectionId language managedByAgent safeMode
  | stopAdapter connectionId => Service.stopAdapter connectionId

/-- The effects that a request can have in a world. -/
def permitted (w : World) : Request → Repository → Effect → Prop
  | importMetric m => ImportEffect env w m
  | addMetric m replace content => fun repo e =>
    AddAccepted env w m content ∧ AddEffect env w m replace repo e
  | updateMetric m scope => fun repo e => UpdateAccepted env w m scope ∧ UpdateEffect w m repo e
  | removeMetric id scope => RemoveEffect id scope
  | toggleMetric _ _ scope | enableGroup _ scope | disableGroup _ scope => ToggleEffect scope
  | syncMetrics _ => Synced
  | startAdapter connectionId _ _ safeMode => StartEffect connectionId safeMode
  | stopAdapter connectionId => StopEffect connectionId

/-- **A request has permitted effects only.** -/
theorem moves (req : Request) (w : World) : Moves (Moved (req.permitted env w)) (req.serve env) w := by
  cases req with
  | importMetric m => exact .bind (importMetric_moves env m w) fun _ _ _ => .ret ()
  | addMetric m replace text =>
    exact .bind (addMetric_moves env m replace text w) fun _ _ _ => .ret ()
  | updateMetric m scope => exact .bind (updateMetric_moves env m scope w) fun _ _ _ => .ret ()
  | removeMetric id scope => exact removeMetric_moves id scope w
  | toggleMetric id isOn scope =>
    exact .bind (toggleMetric_moves id isOn scope w) fun _ _ _ => .ret ()
  | enableGroup group scope =>
    exact .bind (setGroup_moves env true group scope w) fun _ _ _ => .ret ()
  | disableGroup group scope =>
    exact .bind (setGroup_moves env false group scope w) fun _ _ _ => .ret ()
  | syncMetrics c => exact .bind (syncMetrics_moves c w) fun _ _ _ => .ret ()
  | startAdapter c lang managedByAgent safeMode =>
    exact startAdapter_moves c lang managedByAgent safeMode w
  | stopAdapter c => exact stopAdapter_moves c w

end Request

def step (env : Env) (w : World) (event : Request × List Answer) : World :=
  (event.1.serve env { w with answers := event.2 }).2

/-- **What every permitted effect of a request keeps, the request keeps.** The invariant does not
look at the answers, the files and the tracked metrics. -/
theorem step_keeps {env : Env} {inv : World → Prop} {w : World} {event : Request × List Answer}
    (quiet : ∀ w vfs answers tracked, inv w → inv { w with vfs, answers, tracked })
    (effects : ∀ a b e, event.1.permitted env w a.repo e → Change a e b → inv a → inv b)
    (start : inv w) : inv (step env w event) := by
  have entered : inv { w with answers := event.2 } := quiet w w.vfs event.2 w.tracked start
  refine (event.1.moves env { w with answers := event.2 }).keeps (fun a b moved before => ?_) entered
  cases moved with
  | quiet vfs answers tracked => exact quiet a vfs answers tracked before
  | effect may change =>
    refine effects a b _ ?_ change before
    cases isRequest : event.1 <;> rw [isRequest] at may <;> exact may

/-! ### A small service

The default lists and limits, a parser that knows two expressions, no language server, and files
that cannot be inspected. -/

section SmallService

open Safety

/-- The tree of the Python expression `x`. -/
def pythonName : SyntaxTree.Node PythonKind Field :=
  .mk (.other "module") none "x"
    [.mk (.other "expression_statement") none "x" [.mk .identifier none "x" []]]

/-- The tree of the Python expression `f(x)`. -/
def pythonCall : SyntaxTree.Node PythonKind Field :=
  .mk (.other "module") none "f(x)"
    [.mk (.other "expression_statement") none "f(x)"
      [.mk .call none "f(x)"
        [.mk .identifier (some .function) "f" [],
         .mk (.other "argument_list") (some (.other "arguments")) "(x)"
          [.mk (.other "(") none "(" [], .mk .identifier none "x" [],
           .mk (.other ")") none ")" []]]]]

def smallParse : (l : Language) → String → Option (Parsed l)
  | .python, text =>
    if text = "x" then some ⟨pythonName, false⟩
    else if text = "f(x)" then some ⟨pythonCall, false⟩
    else none
  | .go, _ | .rust, _ => none

def smallService : Env where
  rt := .ascii
  config := SafetyConfig.default
  parse := smallParse
  limits := ⟨20, 10000⟩
  analyzers := fun _ => none
  inspect := fun _ _ => none
  captureAnchor := fun _ _ => .error "not found"
  order := id
  order_perm := fun _ => List.Perm.refl _

/-- A Python metric `x` of no one, in `app.py`, line 1. -/
def smallMetric : Metric where
  name := "m"
  connectionId := "c"
  location := ⟨"app.py", 1⟩
  expressions := ["x"]
  language := .python

def emptyWorld : World := ⟨.empty, [], [], fun _ => .empty, [], []⟩

/-- The repository in which the metrics were saved in turn. -/
def saveAll (metrics : List Metric) : Repository :=
  metrics.foldl (fun repo m => match repo.save m with
    | .ok (_, after) => after
    | .error _ => repo) .empty

def storedWorld (metrics : List Metric) : World := { emptyWorld with repo := saveAll metrics }

theorem smallMetric_passes : FieldsPass smallService smallMetric := by decide

theorem step_import_first {m : Metric} (passes : FieldsPass smallService m) :
    step smallService emptyWorld (.importMetric m, []) = storedWorld [m] := by
  have saved : emptyWorld.repo.save m = .ok (1, saveAll [m]) := rfl
  have imported := importMetric_quiet (w := emptyWorld) rfl passes saved
  rw [step, Request.serve, Program.discard_state]
  exact congrArg Prod.snd imported

end SmallService

end Detrix.Service
