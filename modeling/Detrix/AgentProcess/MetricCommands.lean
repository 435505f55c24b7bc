/-
**The metric commands of the agent process.**

The read loop hands `SetMetric` and `RemoveMetric` to the adapter of the connection and answers with an
acknowledgement. A `RemoveMetric` has only the name of the metric, so the agent makes up the rest; the
metric manager of a DAP adapter then sends the breakpoints of the file that the agent has made up. The
acknowledgement is positive whenever the adapter returns a result, whatever the result says.

- `handleRemoveMetric_served`: what a removal on a connection with a DAP adapter does and answers.
- `removal_disarms_iff`: after a confirmed removal the debugger has forgotten the metric, and nothing
  else, exactly if it has carried out the request, the metric had no breakpoint outside the path that
  the empty file name stands for, and the list of that path was up to date.
-/

import Detrix.Dap.MetricManager
import Detrix.Storage.Encodings

namespace Detrix.AgentProcess.Commands

open Detrix.Core Dap Library Function List

/-! ### Messages -/

structure SetMetric where
  requestId : String
  connectionId : String
  metricName : String
  file : String
  line : Nat
  expressions : List String
  enabled : Bool
  metricId : Nat

structure RemoveMetric where
  requestId : String
  connectionId : String
  metricName : String

structure SetMetricAck where
  requestId : String
  verified : Bool
  actualLine : Nat
  message : String
  error : String
  deriving DecidableEq

structure RemoveMetricAck where
  requestId : String
  confirmed : Bool
  error : String
  deriving DecidableEq

structure SetMetricResult where
  verified : Bool
  line : Nat
  message : Option String

structure RemoveMetricResult where
  confirmed : Bool
  message : Option String

/-! ### The handlers -/

def parseLanguageLossy (value : String) : SourceLanguage :=
  (Storage.languageOf (Text.asciiLowercase value)).getD .unknown

/-- `connection_language`, with the text of the error. -/
def connectionLanguage (languages : String → Option String) (connectionId : String) :
    Except String SourceLanguage :=
  match languages connectionId with
  | some value => .ok (parseLanguageLossy value)
  | none => .error ("Scanner error: no language record for connection " ++ connectionId)

def protoSetMetricToMetric (msg : SetMetric) (language : SourceLanguage) :
    Except ServiceError Metric :=
  .ok
    { id := some msg.metricId
      name := msg.metricName
      connectionId := msg.connectionId
      group := none
      location := ⟨msg.file, msg.line⟩
      expressions := msg.expressions
      language := language
      enabled := msg.enabled
      mode := .stream
      condition := none
      safetyLevel := .strict
      userId := none
      agentId := none
      captureStackTrace := false
      stackTraceTtl := none
      stackTraceSlice := none
      captureMemorySnapshot := false
      snapshotScope := none
      snapshotTtl := none
      anchor := none
      anchorStatus := .unanchored }

/-- The metric that `handle_remove_metric` makes up: it has the name, and no place. -/
def removedMetric (msg : RemoveMetric) (language : SourceLanguage) : Metric where
  id := none
  name := msg.metricName
  connectionId := msg.connectionId
  group := none
  location := ⟨"", 0⟩
  expressions := []
  language := language
  enabled := false
  mode := .stream
  condition := none
  safetyLevel := .strict
  userId := none
  agentId := none
  captureStackTrace := false
  stackTraceTtl := none
  stackTraceSlice := none
  captureMemorySnapshot := false
  snapshotScope := none
  snapshotTtl := none
  anchor := none
  anchorStatus := .unanchored

/-- What the handlers call of an adapter; an error is given by its text. -/
structure MetricAdapter (σ : Type) where
  setMetric : Metric → σ → Except String SetMetricResult × σ
  removeMetric : Metric → σ → Except String RemoveMetricResult × σ

section Handlers

variable {σ : Type} (languages : String → Option String)
  (adapters : String → Option (MetricAdapter σ))

def SetMetricAck.failed (requestId error : String) : SetMetricAck := ⟨requestId, false, 0, "", error⟩

/-- `handle_set_metric`, with the one message it sends. -/
def handleSetMetric (msg : SetMetric) (s : σ) : SetMetricAck × σ :=
  match connectionLanguage languages msg.connectionId with
  | .error error => (.failed msg.requestId error, s)
  | .ok language =>
    match protoSetMetricToMetric msg language with
    | .error error => (.failed msg.requestId error.message, s)
    | .ok metric =>
      match adapters msg.connectionId with
      | none => (.failed msg.requestId "Connection not found", s)
      | some adapter =>
        match adapter.setMetric metric s with
        | (.ok result, s) =>
          (⟨msg.requestId, result.verified, result.line, result.message.getD "", ""⟩, s)
        | (.error error, s) => (.failed msg.requestId error, s)

/-- `handle_remove_metric`, with the one message it sends. -/
def handleRemoveMetric (msg : RemoveMetric) (s : σ) : RemoveMetricAck × σ :=
  match connectionLanguage languages msg.connectionId with
  | .error error => (⟨msg.requestId, false, error⟩, s)
  | .ok language =>
    match adapters msg.connectionId with
    | none => (⟨msg.requestId, false, "Connection not found"⟩, s)
    | some adapter =>
      match adapter.removeMetric (removedMetric msg language) s with
      -- What the result says is not looked at.
      | (.ok _, s) => (⟨msg.requestId, true, ""⟩, s)
      | (.error error, s) => (⟨msg.requestId, false, error⟩, s)

theorem handleSetMetric_requestId (msg : SetMetric) (s : σ) :
    (handleSetMetric languages adapters msg s).1.requestId = msg.requestId := by
  unfold handleSetMetric
  repeat' split
  all_goals rfl

theorem handleRemoveMetric_requestId (msg : RemoveMetric) (s : σ) :
    (handleRemoveMetric languages adapters msg s).1.requestId = msg.requestId := by
  unfold handleRemoveMetric
  repeat' split
  all_goals rfl

end Handlers

/-! ### A debugger that knows whose breakpoints it has -/

/-- The manager of a DAP adapter, and the metrics whose breakpoints the debugger has for each path. -/
structure Debugger (adapter : Adapter) where
  manager : Manager
  held : String → List Metric
  same : ∀ path, manager.accepted path = (held path).map (Manager.breakpointOf adapter)

/-- What the debugger replies to a `setBreakpoints` request, the parsed body of the response, and the
text of the error that the adapter makes of a refusal or a failure. -/
structure Answer where
  reply : Reply
  result : SetMetricResult
  message : Option String
  error : String

def fileMetrics (adapter : Adapter) (active : ActiveMetrics) (file : String) : List Metric :=
  (adapter.traverse active.metrics).filter (·.location.file = file)

namespace Debugger

variable {adapter : Adapter}

def new : Debugger adapter := ⟨.new, fun _ => [], fun _ => rfl⟩

def heldAfter (d : Debugger adapter) (active : ActiveMetrics) (file : String) :
    Reply → String → List Metric
  | .accepted => update d.held (Manager.resolvePath adapter file)
      (fileMetrics adapter active file)
  | .rejected | .lost => d.held

theorem accept_same (d : Debugger adapter) (active : ActiveMetrics) (file path : String) :
    (d.manager.accept adapter active file).accepted path =
      (d.heldAfter active file .accepted path).map (Manager.breakpointOf adapter) := by
  show update d.manager.accepted _ _ path = (update d.held _ _ path).map _
  by_cases isPath : path = Manager.resolvePath adapter file
  · rw [isPath, update_self, update_self]
    rfl
  · rw [update_of_ne isPath, update_of_ne isPath]
    exact d.same path

def setMetric (d : Debugger adapter) (m : Metric) (reply : Reply) : Debugger adapter where
  manager := (d.manager.setMetric adapter m reply).2
  held := d.heldAfter (d.manager.active.set m reply) m.location.file reply
  same := by
    cases reply with
    | accepted => exact d.accept_same _ _
    | rejected | lost => exact d.same

def removeMetric (d : Debugger adapter) (m : Metric) (reply : Reply) : Debugger adapter where
  manager := (d.manager.removeMetric adapter m reply).2
  held := d.heldAfter (d.manager.active.erase m.name) m.location.file reply
  same := by
    cases reply with
    | accepted => exact d.accept_same _ _
    | rejected | lost => exact d.same

end Debugger

/-- `set_metric` returns an error if the debugger refuses; `remove_metric` says so in its result. -/
def dapAdapter (adapter : Adapter) (answer : Answer) : MetricAdapter (Debugger adapter) where
  setMetric m d := (match answer.reply with
    | .accepted => .ok answer.result
    | .rejected | .lost => .error answer.error, d.setMetric m answer.reply)
  removeMetric m d := (match answer.reply with
    | .accepted => .ok ⟨true, answer.message⟩
    | .rejected => .ok ⟨false, answer.message⟩
    | .lost => .error answer.error, d.removeMetric m answer.reply)

/-! ### A connection with a DAP adapter -/

/-- The connection that is registered, and its language. -/
structure Served where
  connectionId : String
  language : String
  adapter : Adapter

namespace Served

variable (served : Served)

def languages (id : String) : Option String :=
  if id = served.connectionId then some served.language else none

def adapters (answer : Answer) (id : String) : Option (MetricAdapter (Debugger served.adapter)) :=
  if id = served.connectionId then some (dapAdapter served.adapter answer) else none

inductive Command where
  | set (msg : SetMetric) (answer : Answer)
  | remove (msg : RemoveMetric) (answer : Answer)

def removal (d : Debugger served.adapter) (msg : RemoveMetric) (answer : Answer) :
    RemoveMetricAck × Debugger served.adapter :=
  handleRemoveMetric served.languages (served.adapters answer) msg d

def step (d : Debugger served.adapter) : Command → Debugger served.adapter
  | .set msg answer => (handleSetMetric served.languages (served.adapters answer) msg d).2
  | .remove msg answer => (served.removal d msg answer).2

variable (d : Debugger served.adapter)

theorem handleRemoveMetric_served (msg : RemoveMetric) (answer : Answer) :
    (served.removal d msg answer).1.confirmed = true ↔
      msg.connectionId = served.connectionId ∧ answer.reply ≠ .lost := by
  unfold removal handleRemoveMetric connectionLanguage languages adapters
  by_cases isServed : msg.connectionId = served.connectionId
  · cases replied : answer.reply <;> simp [isServed, dapAdapter, replied]
  · simp [isServed]

theorem removal_state {msg : RemoveMetric} (answer : Answer)
    (isServed : msg.connectionId = served.connectionId) : (served.removal d msg answer).2 =
      d.removeMetric (removedMetric msg (parseLanguageLossy served.language)) answer.reply := by
  unfold removal handleRemoveMetric connectionLanguage languages adapters
  cases replied : answer.reply <;> simp [isServed, dapAdapter, replied]

end Served

/-! ### What a confirmed removal promises -/

section Disarmed

variable {adapter : Adapter}

def others (name : String) (metrics : List Metric) : List Metric := metrics.filter (·.name ≠ name)

/-- The debugger has confirmed the change, it has no breakpoint of the metric in any file, and those of
the other metrics are as they were. -/
structure Disarmed (name : String) (reply : Reply) (before after : Debugger adapter) : Prop where
  confirmed : reply = .accepted
  gone : ∀ path, ∀ m ∈ after.held path, m.name ≠ name
  kept : ∀ path, (others name (after.held path)).Perm (others name (before.held path))

def removalPath (adapter : Adapter) : String := Manager.resolvePath adapter ""

/-- The debugger carries out the request; it has no breakpoint of the metric for another path than the
one of the request, and for that path it has, apart from the metric, what the tracked metrics without a
file name are. -/
structure AtRemovalPath (name : String) (reply : Reply) (before : Debugger adapter) : Prop where
  accepted : reply = .accepted
  nowhereElse : ∀ path, path ≠ removalPath adapter → ∀ m ∈ before.held path, m.name ≠ name
  upToDate : (others name (before.held (removalPath adapter))).Perm
    (before.manager.active.metrics.filter fun m => m.location.file = "" ∧ m.name ≠ name)

variable (active : ActiveMetrics)

theorem fileMetrics_erase (name file : String) : (fileMetrics adapter (active.erase name) file).Perm
      (active.metrics.filter fun m => m.location.file = file ∧ m.name ≠ name) := by
  refine ((adapter.traverse_perm _).filter _).trans ?_
  rw [perm_ext_iff_of_nodup ((active.erase name).metrics_nodup.filter _)
    (active.metrics_nodup.filter _)]
  intro m
  rw [mem_filter, mem_filter, ActiveMetrics.mem_metrics_erase, decide_eq_true_iff, decide_eq_true_iff]
  constructor
  · rintro ⟨⟨other, mem⟩, isFile⟩
    exact ⟨mem, isFile, other⟩
  · rintro ⟨mem, isFile, other⟩
    exact ⟨⟨other, mem⟩, isFile⟩

theorem not_sent (name file : String) :
    ∀ m ∈ fileMetrics adapter (active.erase name) file, m.name ≠ name := by
  intro m mem
  have isIn := (fileMetrics_erase active name file).subset mem
  exact (of_decide_eq_true (mem_filter.mp isIn).2).2

theorem others_of_not_mem {name : String} {metrics : List Metric} (none : ∀ m ∈ metrics, m.name ≠ name) :
    others name metrics = metrics :=
  filter_eq_self.mpr fun m mem => decide_eq_true (none m mem)

theorem removed_held (d : Debugger adapter) (msg : RemoveMetric) (lang : SourceLanguage)
    (path : String) :
    (d.removeMetric (removedMetric msg lang) .accepted).held path =
      if path = removalPath adapter then
        fileMetrics adapter (d.manager.active.erase msg.metricName) "" else d.held path := by
  show update d.held (removalPath adapter)
    (fileMetrics adapter (d.manager.active.erase msg.metricName) "") path = _
  rw [update_apply]

theorem removeMetric_disarms_iff (d : Debugger adapter) (msg : RemoveMetric)
    (lang : SourceLanguage) (reply : Reply) :
    Disarmed msg.metricName reply d (d.removeMetric (removedMetric msg lang) reply) ↔
      AtRemovalPath msg.metricName reply d := by
  constructor
  · rintro ⟨rfl, gone, kept⟩
    refine ⟨rfl, fun path other m mem => ?_, ?_⟩
    · have stays := removed_held d msg lang path
      rw [if_neg other] at stays
      exact gone path m (stays ▸ mem)
    · have same := kept (removalPath adapter)
      rw [removed_held, if_pos rfl, others_of_not_mem (not_sent _ _ _)] at same
      exact same.symm.trans (fileMetrics_erase _ _ _)
  · rintro ⟨rfl, nowhereElse, upToDate⟩
    refine ⟨rfl, fun path => ?_, fun path => ?_⟩
    · rw [removed_held]
      split
      · exact not_sent _ _ _
      next other => exact nowhereElse path other
    · rw [removed_held]
      split
      next isPath =>
        rw [isPath, others_of_not_mem (not_sent _ _ _)]
        exact (fileMetrics_erase _ _ _).trans upToDate.symm
      · rfl

end Disarmed

/-- **What a confirmed removal is worth**, after any commands on a connection with a DAP adapter. -/
theorem removal_disarms_iff (served : Served) (history : List Served.Command) (msg : RemoveMetric)
    (answer : Answer)
    (confirmed :
      (served.removal (Run.after served.step .new history) msg answer).1.confirmed = true) :
    Disarmed msg.metricName answer.reply (Run.after served.step .new history)
        (served.removal (Run.after served.step .new history) msg answer).2 ↔
      AtRemovalPath msg.metricName answer.reply (Run.after served.step .new history) := by
  obtain ⟨isServed, -⟩ := (served.handleRemoveMetric_served _ msg answer).mp confirmed
  rw [served.removal_state _ answer isServed]
  exact removeMetric_disarms_iff _ msg _ _

/-! ### A metric in a file -/

section Sample

def sampleServed : Served := ⟨"c", "python", Session.sampleAdapter⟩

def carriedOut : Answer := ⟨.accepted, ⟨true, 1, none⟩, none, ""⟩

def refused : Answer := ⟨.rejected, ⟨false, 1, none⟩, some "not stopped", ""⟩

def sampleSet (name file : String) : SetMetric := ⟨"s", "c", name, file, 1, ["x"], true, 7⟩

def sampleRemove (name : String) : RemoveMetric := ⟨"r", "c", name⟩

/-- The removal is confirmed, and the file has its breakpoint as before; a removal that the debugger has
refused is confirmed as well. -/
theorem confirmed_removal_leaves_breakpoint :
    let history := [Served.Command.set (sampleSet "a" "f") carriedOut]
    let after := sampleServed.removal (Run.after sampleServed.step .new history) (sampleRemove "a")
    (after carriedOut).1 = ⟨"r", true, ""⟩ ∧
      ((after carriedOut).2.held "/p/f").map (·.name) = ["a"] ∧
      (after carriedOut).2.manager.accepted "/p/f" = [.logpoint 1 "a"] ∧
      (after refused).1 = ⟨"r", true, ""⟩ ∧
      (after refused).2.manager.accepted "/p/f" = [.logpoint 1 "a"] := by
  decide

/-- A metric that was set in another file stays where it is, and one without a file name goes. -/
theorem removal_of_unplaced_metric :
    let history := [Served.Command.set (sampleSet "b" "f") carriedOut,
      .set (sampleSet "a" "") carriedOut]
    let before := Run.after sampleServed.step .new history
    (before.held "/p/").map (·.name) = ["a"] ∧
      Disarmed "a" .accepted before (sampleServed.removal before (sampleRemove "a") carriedOut).2 := by
  refine ⟨by decide, ?_⟩
  refine (removal_disarms_iff sampleServed _ (sampleRemove "a") carriedOut (by decide)).mpr ?_
  refine ⟨rfl, fun path other m mem => ?_, by decide⟩
  -- Outside the path of the request, only the list of `b` is not empty.
  replace mem : m ∈ update (update (fun _ => []) _ _)
    (removalPath sampleServed.adapter) _ path := mem
  rw [update_of_ne other, update_apply] at mem
  split at mem
  · revert m
    decide
  · cases mem

end Sample

end Detrix.AgentProcess.Commands
