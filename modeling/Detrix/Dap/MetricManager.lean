/-
**The breakpoints of a debugger and the tracked metrics.**

`set_metric` and `remove_metric` of the metric manager write the map of active metrics, which is
keyed by the name of a metric, and send the debugger a new list of breakpoints for the file of the
metric; the debugger keeps one list for each path. A metric that takes the place of one in another
file leaves the breakpoint of that file behind, and two spellings of one path overwrite each other.

- `breakpoints_mirror_active_metrics`: where names and spellings are used in an orderly way, the lists
  of the debugger are those of the active metrics after every call.
- `failed_set_leaves_active_iff`: when a call that fails leaves the active metrics alone.
- `result_is_own_iff`: when a call returns what the debugger says about its own breakpoint.
-/

import Detrix.Dap.ActiveMetrics
import Detrix.Library.Run
import Mathlib.Algebra.Ring.Nat

namespace Detrix.Dap

open Detrix.Core Library List Run

/-! ### Breakpoints -/

structure SourceBreakpoint where
  line : Nat
  column : Option Nat
  condition : Option String
  hitCondition : Option String
  logMessage : Option String
  deriving DecidableEq

def SourceBreakpoint.atLine (line : Nat) : SourceBreakpoint := ⟨line, none, none, none, none⟩

def SourceBreakpoint.logpoint (line : Nat) (message : String) : SourceBreakpoint :=
  ⟨line, none, none, none, some message⟩

/-- The parts of an adapter that depend on the language. -/
structure OutputParser where
  buildLogpointMessage : Metric → String
  supportsLogpointIntrospection : Bool

def buildSourceBreakpoint (m : Metric) (supportsLogpointIntrospection : Bool)
    (logpointMessage : String) : SourceBreakpoint :=
  let needsIntrospection := m.captureStackTrace || m.captureMemorySnapshot
  let isGoFunctionCall := m.language = .go && m.expressions.any expressionContainsFunctionCall
  if needsIntrospection && !supportsLogpointIntrospection || isGoFunctionCall then
    .atLine m.location.line
  else .logpoint m.location.line logpointMessage

/-! ### The manager -/

structure Adapter where
  parser : OutputParser
  basePath : String
  /-- The order in which a map with these values is traversed. -/
  traverse : List Metric → List Metric
  traverse_perm : ∀ metrics, (traverse metrics).Perm metrics

/-- The active metrics, and the breakpoints that the debugger has accepted last for each path. -/
structure Manager where
  active : ActiveMetrics
  accepted : String → List SourceBreakpoint

namespace Manager

def new : Manager := ⟨.empty, fun _ => []⟩

section Calls

variable (adapter : Adapter)

def resolvePath (file : String) : String :=
  if ['/'].isPrefixOf file.toList then file
  else if adapter.basePath = "" ∨ ['/'].isSuffixOf adapter.basePath.toList then
    adapter.basePath ++ file
  else adapter.basePath ++ "/" ++ file

def breakpointOf (m : Metric) : SourceBreakpoint :=
  buildSourceBreakpoint m adapter.parser.supportsLogpointIntrospection
    (adapter.parser.buildLogpointMessage m)

def fileBreakpoints (active : ActiveMetrics) (file : String) : List SourceBreakpoint :=
  ((adapter.traverse active.metrics).filter (·.location.file = file)).map (breakpointOf adapter)

def accept (s : Manager) (active : ActiveMetrics) (file : String) : Manager where
  active := active
  accepted := Function.update s.accepted (resolvePath adapter file)
    (fileBreakpoints adapter active file)

/-- `set_metric`, with whether it has succeeded. -/
def setMetric (s : Manager) (m : Metric) (reply : Reply) : Bool × Manager :=
  match reply with
  | .accepted => (true, accept adapter s (s.active.set m reply) m.location.file)
  | .rejected | .lost => (false, { s with active := s.active.set m reply })

/-- `remove_metric`, with whether it was confirmed; the metric is not tracked any more in any case. -/
def removeMetric (s : Manager) (m : Metric) (reply : Reply) : Bool × Manager :=
  match reply with
  | .accepted => (true, accept adapter s (s.active.erase m.name) m.location.file)
  | .rejected | .lost => (false, { s with active := s.active.erase m.name })

end Calls

end Manager

open Manager

/-! ### Sessions -/

inductive ManagerCall where
  | set (m : Metric)
  | remove (m : Metric)

/-- A manager and the metrics that were set and not since removed. -/
structure Session where
  manager : Manager
  requested : List Metric

namespace Session

def new : Session := ⟨.new, []⟩

variable (adapter : Adapter)

/-- A call that succeeds. To set a metric again at its place is to change it. -/
def step (s : Session) : ManagerCall → Session
  | .set m =>
    { manager := (s.manager.setMetric adapter m .accepted).2
      requested := s.requested.filter (fun other =>
        !(other.name = m.name && other.location = m.location)) ++ [m] }
  | .remove m =>
    { manager := (s.manager.removeMetric adapter m .accepted).2
      requested := s.requested.filter (·.name ≠ m.name) }

/-- **The debugger mirrors the active metrics.** -/
structure Mirrors (s : Session) : Prop where
  same : ∀ path, (s.manager.accepted path).Perm
    ((s.manager.active.metrics.filter (resolvePath adapter ·.location.file = path)).map
      (breakpointOf adapter))
  active : ∀ m ∈ s.requested, m ∈ s.manager.active.metrics

/-- Names and paths are used in an orderly way: a name that is active is set again only at its
place, and removed only in its file; the path of the call is spelled as the active metrics spell
it. -/
def Orderly (s : Session) : ManagerCall → Prop
  | .set m =>
    (∀ a ∈ s.manager.active.metrics, a.name = m.name → a.location = m.location) ∧
      ∀ a ∈ s.manager.active.metrics,
        resolvePath adapter a.location.file = resolvePath adapter m.location.file →
          a.location.file = m.location.file
  | .remove m =>
    (∀ a ∈ s.manager.active.metrics, a.name = m.name → a.location.file = m.location.file) ∧
      ∀ a ∈ s.manager.active.metrics,
        resolvePath adapter a.location.file = resolvePath adapter m.location.file →
          a.location.file = m.location.file

variable {adapter}

theorem perm_filter {one two : ActiveMetrics} {p : Metric → Bool}
    (same : ∀ m, p m = true → (m ∈ one.metrics ↔ m ∈ two.metrics)) :
    (one.metrics.filter p).Perm (two.metrics.filter p) := by
  rw [perm_ext_iff_of_nodup (one.metrics_nodup.filter p) (two.metrics_nodup.filter p)]
  intro m
  rw [mem_filter, mem_filter]
  constructor <;> rintro ⟨mem, isPart⟩
  · exact ⟨(same m isPart).mp mem, isPart⟩
  · exact ⟨(same m isPart).mpr mem, isPart⟩

variable {s : Session}

section
variable (mirrors : s.Mirrors adapter)
include mirrors

/-- **A list that was accepted for a file keeps the mirror**, if the path is spelled in one way and
the write has touched metrics of that path only. -/
theorem accept_same {after : ActiveMetrics} {file : String}
    (spelled : ∀ a ∈ after.metrics,
      resolvePath adapter a.location.file = resolvePath adapter file →
        a.location.file = file)
    (apart : ∀ a, resolvePath adapter a.location.file ≠ resolvePath adapter file →
      (a ∈ s.manager.active.metrics ↔ a ∈ after.metrics))
    (path : String) :
    ((s.manager.accept adapter after file).accepted path).Perm
      ((after.metrics.filter (resolvePath adapter ·.location.file = path)).map
        (breakpointOf adapter)) := by
  unfold accept
  dsimp only
  by_cases isPath : path = resolvePath adapter file
  · subst isPath
    rw [Function.update_self, fileBreakpoints]
    refine .map _ ?_
    have sameFilter : after.metrics.filter (·.location.file = file) = after.metrics.filter
        (resolvePath adapter ·.location.file = resolvePath adapter file) := by
      refine filter_congr fun a mem => ?_
      rw [decide_eq_decide]
      constructor
      · intro isFile
        rw [isFile]
      · exact spelled a mem
    rw [← sameFilter]
    exact (adapter.traverse_perm after.metrics).filter _
  · rw [Function.update_of_ne isPath]
    refine (mirrors.same path).trans (List.Perm.map _ (perm_filter fun a isPart => ?_))
    refine apart a fun ne => isPath ?_
    rw [← ne]
    exact (of_decide_eq_true isPart).symm

theorem mirrors_set {m : Metric} (orderly : s.Orderly adapter (.set m)) :
    (s.step adapter (.set m)).Mirrors adapter := by
  obtain ⟨placed, spelled⟩ := orderly
  have inserted := @ActiveMetrics.mem_metrics_insert s.manager.active m
  constructor
  · intro path
    refine accept_same mirrors ?_ ?_ path
    · intro a mem samePath
      rcases (inserted a).mp mem with rfl | ⟨-, old⟩
      · rfl
      · exact spelled a old samePath
    · intro a otherPath
      refine .trans ?_ (inserted a).symm
      constructor
      · intro old
        refine .inr ⟨fun sameName => otherPath ?_, old⟩
        rw [placed a old sameName]
      · rintro (rfl | ⟨-, old⟩)
        · exact absurd rfl otherPath
        · exact old
  · intro a mem
    refine (inserted a).mpr ?_
    rcases mem_append.mp mem with kept | isLast
    · obtain ⟨before, ne⟩ := mem_filter.mp kept
      have old := mirrors.active a before
      refine .inr ⟨fun sameName => ?_, old⟩
      have samePlace := placed a old sameName
      simp [sameName, samePlace] at ne
    · exact .inl (mem_singleton.mp isLast)

theorem mirrors_remove {m : Metric} (orderly : s.Orderly adapter (.remove m)) :
    (s.step adapter (.remove m)).Mirrors adapter := by
  obtain ⟨placed, spelled⟩ := orderly
  have erased := @ActiveMetrics.mem_metrics_erase s.manager.active m.name
  constructor
  · intro path
    refine accept_same mirrors ?_ ?_ path
    · intro a mem samePath
      exact spelled a ((erased a).mp mem).2 samePath
    · intro a otherPath
      refine .trans ⟨fun old => ⟨fun sameName => otherPath ?_, old⟩, fun old => old.2⟩
        (erased a).symm
      rw [placed a old sameName]
  · intro a mem
    obtain ⟨before, ne⟩ := mem_filter.mp mem
    exact (erased a).mpr ⟨of_decide_eq_true ne, mirrors.active a before⟩

end

theorem mirrors_new : (new : Session).Mirrors adapter :=
  ⟨fun _ => List.Perm.refl _, fun _ mem => absurd mem not_mem_nil⟩

theorem mirrors_step (s : Session) (call : ManagerCall) (mirrors : s.Mirrors adapter)
    (orderly : s.Orderly adapter call) : (s.step adapter call).Mirrors adapter := by
  cases call with
  | set m => exact mirrors_set mirrors orderly
  | remove m => exact mirrors_remove mirrors orderly

/-- **The breakpoints mirror the active metrics** after every sequence of orderly calls: the list of
each path is the list of its active metrics, what was set and not since removed is active, and there
is no breakpoint of a metric that is not. -/
theorem breakpoints_mirror_active_metrics (adapter : Adapter) (calls : List ManagerCall)
    (orderly : Run.Allowed (step adapter) (Orderly adapter) new calls) :
    (∀ path, ((after (step adapter) new calls).manager.accepted path).Perm
      (((after (step adapter) new calls).manager.active.metrics.filter
        (resolvePath adapter ·.location.file = path)).map (breakpointOf adapter))) ∧
      (∀ m ∈ (after (step adapter) new calls).requested,
        m ∈ (after (step adapter) new calls).manager.active.metrics) ∧
      ∀ path, ∀ b ∈ (after (step adapter) new calls).manager.accepted path,
        ∃ m ∈ (after (step adapter) new calls).manager.active.metrics,
          resolvePath adapter m.location.file = path ∧ b = breakpointOf adapter m := by
  obtain ⟨same, active⟩ := invariant_after (step adapter) mirrors_step calls new mirrors_new orderly
  refine ⟨same, active, fun path b mem => ?_⟩
  obtain ⟨m, isIn, rfl⟩ := mem_map.mp ((same path).subset mem)
  obtain ⟨has, isPath⟩ := mem_filter.mp isIn
  exact ⟨m, has, of_decide_eq_true isPath, rfl⟩

/-! ### A name that moves

The adapter logs the name of a metric and knows files below `/p`. -/

section Sample

def sampleAdapter : Adapter where
  parser := ⟨(·.name), false⟩
  basePath := "/p"
  traverse := id
  traverse_perm := fun _ => List.Perm.refl _

def sampleMetric (name file : String) : Metric where
  name := name
  connectionId := "c"
  location := ⟨file, 1⟩
  expressions := ["x"]
  language := .python

instance (adapter : Adapter) (s : Session) (call : ManagerCall) :
    Decidable (s.Orderly adapter call) := by
  cases call <;> unfold Orderly <;> infer_instance

def setTwoRemoveOne : List ManagerCall :=
  [.set (sampleMetric "a" "f"), .set (sampleMetric "b" "f"), .remove (sampleMetric "a" "f")]

theorem setTwoRemoveOne_mirrors :
    (after (step sampleAdapter) new setTwoRemoveOne).manager.accepted "/p/f" =
        [.logpoint 1 "b"] ∧
      ∀ path, ((after (step sampleAdapter) new setTwoRemoveOne).manager.accepted path).Perm
        (((after (step sampleAdapter) new setTwoRemoveOne).manager.active.metrics.filter
          (resolvePath sampleAdapter ·.location.file = path)).map
            (breakpointOf sampleAdapter)) := by
  refine ⟨by decide, ?_⟩
  refine (breakpoints_mirror_active_metrics sampleAdapter setTwoRemoveOne ?_).1
  exact ⟨by decide, by decide, by decide, trivial⟩

/-- A metric is set, and another one of its name in another file. -/
def setMoved : List ManagerCall := [.set (sampleMetric "a" "f"), .set (sampleMetric "a" "g")]

/-- The first file keeps its breakpoint, although no metric of it is active any more; the metric was
not removed. -/
theorem moved_breakpoint_stays :
    (after (step sampleAdapter) new setMoved).manager.accepted "/p/f" = [.logpoint 1 "a"] ∧
      (after (step sampleAdapter) new setMoved).manager.active.metrics =
        [sampleMetric "a" "g"] ∧
      sampleMetric "a" "f" ∈ (after (step sampleAdapter) new setMoved).requested := by
  decide

end Sample

end Session

/-! ### What a call leaves and returns -/

open Session

namespace Manager

variable (adapter : Adapter)

/-- **A call that fails leaves the tracked metrics as they were** exactly if the name of a metric that
is refused was free, and a metric whose request is lost stood there already. -/
theorem failed_set_leaves_active_iff (adapter : Adapter) (s : Manager) (m : Metric) (reply : Reply) :
    ((setMetric adapter s m reply).1 = false →
      ∀ name, (setMetric adapter s m reply).2.active.get name = s.active.get name) ↔
      (reply = .rejected → s.active.get m.name = none) ∧
        (reply = .lost → s.active.get m.name = some m) := by
  have same : (∀ name, (s.active.set m reply).get name = s.active.get name) ↔
      s.active.get m.name = ActiveMetrics.leaves m reply := by
    simp only [ActiveMetrics.get_set]
    constructor
    · intro all
      rw [← all m.name, if_pos rfl]
    · intro isSame name
      split
      next isName => rw [isName, isSame]
      next => rfl
  cases reply with
  | accepted => simp [setMetric]
  | rejected | lost => simpa [setMetric, ActiveMetrics.leaves] using same

def oneTracked : Manager := { Manager.new with active := ActiveMetrics.empty.insert (sampleMetric "a" "f") }

/-- A metric is tracked, and another one of its name is refused, or its request is lost. -/
theorem failed_set_drops_metric :
    (setMetric sampleAdapter oneTracked (sampleMetric "a" "g") .rejected).1 = false ∧
      (setMetric sampleAdapter oneTracked (sampleMetric "a" "g") .rejected).2.active.get "a" = none ∧
      (setMetric sampleAdapter oneTracked (sampleMetric "a" "g") .lost).1 = false ∧
      (setMetric sampleAdapter oneTracked (sampleMetric "a" "g") .lost).2.active.get "a" =
        some (sampleMetric "a" "g") := by
  decide

/-- What a response says about a breakpoint, as far as it has the types that are asked for. -/
structure Breakpoint where
  verified : Option Bool
  line : Option Nat
  message : Option String

structure SetMetricResult where
  verified : Bool
  line : Nat
  message : Option String
  deriving DecidableEq

def Breakpoint.result (b : Breakpoint) (defaultLine : Nat) : SetMetricResult :=
  ⟨b.verified.getD false, (b.line.map (· % 2 ^ 32)).getD defaultLine, b.message⟩

/-- The array of breakpoints of the body, if it has one, is read at its first entry. -/
def parseBreakpointResponse (breakpoints : Option (List Breakpoint)) (defaultLine : Nat) :
    SetMetricResult :=
  match breakpoints with
  | some (b :: _) => b.result defaultLine
  | _ => ⟨false, defaultLine, none⟩

/-- The metrics whose breakpoints `set_metric` sends. -/
def fileMetrics (adapter : Adapter) (active : ActiveMetrics) (m : Metric) : List Metric :=
  (adapter.traverse (active.insert m).metrics).filter (·.location.file = m.location.file)

variable (active : ActiveMetrics)

/-- **The result is what the response says about the metric**, in every response with one entry for
each breakpoint, exactly if the metric is the first one of the request. -/
theorem result_is_own_iff (adapter : Adapter) (active : ActiveMetrics) (m : Metric) :
    (∀ response : List Breakpoint,
      response.length = (fileBreakpoints adapter (active.insert m) m.location.file).length →
        ∀ own, response[(fileMetrics adapter active m).idxOf m]? = some own →
          parseBreakpointResponse (some response) m.location.line = own.result m.location.line) ↔
      (fileMetrics adapter active m).head? = some m := by
  have mem : m ∈ fileMetrics adapter active m := by
    refine mem_filter.mpr ⟨(adapter.traverse_perm _).mem_iff.mpr ?_, decide_eq_true rfl⟩
    exact (ActiveMetrics.mem_metrics_insert m).mpr (.inl rfl)
  rw [fileBreakpoints, length_map, ← fileMetrics]
  cases isRequest : fileMetrics adapter active m with
  | nil => simp [isRequest] at mem
  | cons first rest =>
    rw [head?_cons, Option.some.injEq]
    constructor
    · intro own
      by_contra ne
      have later : (first :: rest).idxOf m = rest.idxOf m + 1 := idxOf_cons_ne _ ne
      have short : rest.idxOf m < rest.length :=
        idxOf_lt_length_of_mem ((mem_cons.mp (isRequest ▸ mem)).resolve_left (Ne.symm ne))
      -- only the breakpoint of the metric is verified
      have wrong := own (⟨none, none, none⟩ ::
        (replicate rest.length ⟨none, none, none⟩).set (rest.idxOf m) ⟨some true, none, none⟩)
        (by simp) ⟨some true, none, none⟩ (by simp [later, short])
      nomatch congrArg SetMetricResult.verified wrong
    · rintro rfl response - own isOwn
      cases response with
      | nil => simp at isOwn
      | cons b _ =>
        rw [idxOf_cons_self, getElem?_cons_zero, Option.some.injEq] at isOwn
        rw [isOwn]
        rfl

def reversedAdapter : Adapter :=
  { sampleAdapter with traverse := reverse, traverse_perm := reverse_perm }

/-- The result is what is said about the metric that is traversed first. -/
theorem result_of_other_metric :
    fileMetrics reversedAdapter oneTracked.active (sampleMetric "b" "f") =
        [sampleMetric "a" "f", sampleMetric "b" "f"] ∧
      parseBreakpointResponse (some [⟨some true, some 1, none⟩, ⟨some false, none, some "no code"⟩]) 1 =
        ⟨true, 1, none⟩ := by
  decide

end Manager

end Detrix.Dap
