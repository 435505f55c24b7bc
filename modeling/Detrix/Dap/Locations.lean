/-
**Metrics at a location.**

A stop of the program and an error of the debugger are attributed to active metrics by their file and
line. The map of active metrics is traversed in an arbitrary order.

- `nearest_metrics`: a stop selects the metrics of its file that are nearest to its line.
- `error_names_metric_iff`: an error is looked up under a key that is not how metrics are stored, so it
  names a metric only if the metric is called like its place or is traversed first.
-/

import Detrix.Dap.Logpoint
import Detrix.Dap.MetricManager

namespace Detrix.Dap

open Detrix.Core Library List Session Option Text

/-! ### Files -/

/-- `Path::file_name`: the last component, unless it leads to the parent. -/
def fileName (path : String) : Option String :=
  ((split '/' path).filter fun part => part ≠ "" && part ≠ ".").getLast?.filter (· ≠ "..")

def fileMatches (file : String) (m : Metric) : Bool :=
  m.location.file = file || (fileName file).isSome && fileName m.location.file = fileName file

/-! ### Stops -/

section Stops

variable (file : String) (line : Nat)

def distance (m : Metric) : Nat := (line - m.location.line) + (m.location.line - line)

def dapLineTolerance : Nat := 5

structure Candidates where
  exactMatches : List Metric
  closestDistance : Nat
  toleranceMatches : List Metric

def Candidates.consider (found : Candidates) (m : Metric) : Candidates :=
  if !fileMatches file m then found
  else if distance line m = 0 then { found with exactMatches := found.exactMatches ++ [m] }
  else if distance line m ≤ dapLineTolerance then
    if distance line m < found.closestDistance then
      { found with closestDistance := distance line m, toleranceMatches := [m] }
    else if distance line m = found.closestDistance then
      { found with toleranceMatches := found.toleranceMatches ++ [m] }
    else found
  else found

/-- The metrics are the values of the map as they are traversed. -/
def findMetricsAtLocation (metrics : List Metric) : List Metric :=
  let found := metrics.foldl (Candidates.consider file line) ⟨[], 2 ^ 32 - 1, []⟩
  if found.exactMatches ≠ [] then found.exactMatches
  else if found.toleranceMatches ≠ [] then found.toleranceMatches
  else []

def Near (m : Metric) : Prop :=
  fileMatches file m = true ∧ 0 < distance line m ∧ distance line m ≤ dapLineTolerance

/-- **What was found so far**: the metrics at the line, and those beside it at the least distance. -/
structure Candidates.Best (found : Candidates) (seen : List Metric) : Prop where
  exact : ∀ a, a ∈ found.exactMatches ↔ a ∈ seen ∧ fileMatches file a = true ∧ distance line a = 0
  ties : ∀ a, a ∈ found.toleranceMatches ↔
    a ∈ seen ∧ Near file line a ∧ distance line a = found.closestDistance
  least : ∀ b ∈ seen, Near file line b → found.closestDistance ≤ distance line b
  reached : found.closestDistance ≤ dapLineTolerance →
    ∃ a ∈ seen, Near file line a ∧ distance line a = found.closestDistance

variable {file line}

theorem Candidates.Best.consider {found : Candidates} {seen : List Metric} {m : Metric}
    (best : found.Best file line seen) : (found.consider file line m).Best file line (seen ++ [m]) := by
  obtain ⟨exact, ties, least, reached⟩ := best
  unfold Candidates.consider
  split
  next other => constructor <;> grind [Near]
  next same =>
    split
    next here => constructor <;> grind [Near]
    next beside =>
      split
      next near =>
        split
        next closer => constructor <;> grind [Near]
        next => split <;> constructor <;> grind [Near]
      next far => constructor <;> grind [Near]

theorem Candidates.Best.foldl (metrics : List Metric) {found : Candidates} {seen : List Metric}
    (best : found.Best file line seen) :
    (metrics.foldl (Candidates.consider file line) found).Best file line (seen ++ metrics) := by
  induction metrics generalizing found seen with
  | nil => rwa [append_nil]
  | cons m rest ih => simpa using ih best.consider

/-- **A stop selects the nearest metrics**, in every order of the traversal: those of its file that no
other one of the file is nearer to the line, if they are within the tolerance. -/
theorem nearest_metrics (adapter : Adapter) (active : ActiveMetrics) (file : String) (line : Nat)
    (a : Metric) :
    a ∈ findMetricsAtLocation file line (adapter.traverse active.metrics) ↔
      a ∈ active.metrics ∧ fileMatches file a = true ∧ distance line a ≤ dapLineTolerance ∧
        ∀ b ∈ active.metrics, fileMatches file b = true → distance line a ≤ distance line b := by
  have begins : (⟨[], 2 ^ 32 - 1, []⟩ : Candidates).Best file line [] :=
    ⟨by simp, by simp, by simp, nofun⟩
  obtain ⟨exact, ties, least, reached⟩ := begins.foldl (adapter.traverse active.metrics)
  simp only [nil_append, (adapter.traverse_perm active.metrics).mem_iff] at exact ties least reached
  rw [findMetricsAtLocation]
  generalize (adapter.traverse active.metrics).foldl _ _ = found at *
  by_cases none : found.exactMatches = []
  · -- without a metric at the line, all that match are beside it
    have beside : ∀ b ∈ active.metrics, fileMatches file b = true → 0 < distance line b := by
      intro b mem same
      refine Nat.pos_of_ne_zero fun here => ?_
      exact absurd ((exact b).mpr ⟨mem, same, here⟩) (by simp [none])
    have whole : (if found.toleranceMatches ≠ [] then found.toleranceMatches else []) =
        found.toleranceMatches := by
      split <;> simp_all
    rw [if_neg (not_not.mpr none), whole, ties]
    constructor
    · rintro ⟨mem, ⟨same, -, near⟩, isLeast⟩
      refine ⟨mem, same, near, fun b among isFile => ?_⟩
      by_cases far : distance line b ≤ dapLineTolerance
      · exact isLeast ▸ least b among ⟨isFile, beside b among isFile, far⟩
      · omega
    · rintro ⟨mem, same, near, nearest⟩
      have isNear : Near file line a := ⟨same, beside a mem same, near⟩
      have bound := least a mem isNear
      obtain ⟨b, among, ⟨isFile, -⟩, isLeast⟩ := reached (bound.trans near)
      exact ⟨mem, isNear, le_antisymm (isLeast ▸ nearest b among isFile) bound⟩
  · obtain ⟨m, isIn⟩ := exists_mem_of_ne_nil _ none
    obtain ⟨isActive, isFile, here⟩ := (exact m).mp isIn
    rw [if_pos none, exact]
    constructor
    · rintro ⟨mem, same, zero⟩
      exact ⟨mem, same, by omega, fun b _ _ => by omega⟩
    · rintro ⟨mem, same, -, nearest⟩
      exact ⟨mem, same, Nat.le_zero.mp (here ▸ nearest m isActive isFile)⟩

end Stops

/-! ### Errors -/

section Errors

variable {TypedValue : Type}

inductive MatchMode where
  | startsWith
  | startsWithIgnoreCase
  | contains

structure ErrorPattern where
  pattern : String
  mode : MatchMode
  errorType : String

def ErrorPattern.matches (p : ErrorPattern) (output outputLower : String) : Bool :=
  match p.mode with
  | .startsWith => startsWith output p.pattern
  | .startsWithIgnoreCase => startsWith outputLower (asciiLowercase p.pattern)
  | .contains => contains outputLower (asciiLowercase p.pattern)

/-- The type and the message of the first pattern that matches. -/
def detectError (output : String) (patterns : List ErrorPattern) : Option (String × String) :=
  (patterns.find? (·.matches output (asciiLowercase output))).map fun p => (p.errorType, output)

structure Source where
  path : Option String

structure OutputEventBody where
  output : String
  source : Option Source
  line : Option Nat

def locationKey (path : String) (line : Nat) : String :=
  (fileName path).getD path ++ "#" ++ toString line

/-- The key is looked up in the map; without it, the metric that is traversed first is taken. -/
def findMetricForError (adapter : Adapter) (active : ActiveMetrics) (output : OutputEventBody) :
    Option (MetricId × String × ConnectionId) := do
  let byLocation := do
    let source ← output.source
    let line ← output.line
    let path ← source.path
    active.get (locationKey path line)
  let m ← byLocation.or (adapter.traverse active.metrics).head?
  let id ← m.id
  return (id, m.name, m.connectionId)

/-- `MetricEvent::error`, at the time `now`. -/
def MetricEvent.error (now : Int64) (metricId : MetricId) (metricName : String)
    (connectionId : ConnectionId) (errorType errorMessage : String) : MetricEvent TypedValue where
  id := none
  metricId := metricId
  metricName := metricName
  connectionId := connectionId
  timestamp := now
  threadName := none
  threadId := none
  values := []
  isError := true
  errorType := some errorType
  errorMessage := some errorMessage
  requestId := none
  sessionId := none
  stackTrace := none
  memorySnapshot := none

def parseErrorOutputCommon (now : Int64) (adapter : Adapter) (active : ActiveMetrics)
    (patterns : List ErrorPattern) (output : OutputEventBody) : Option (MetricEvent TypedValue) := do
  let (errorType, message) ← detectError (trim output.output) patterns
  let (id, name, connectionId) ← findMetricForError adapter active output
  return .error now id name connectionId errorType message

/-- **An error names a metric** exactly if the metric has an id and is called like the place of the
error, or is traversed first while none is called so. -/
theorem error_names_metric_iff (now : Int64) (adapter : Adapter) (active : ActiveMetrics)
    (patterns : List ErrorPattern) (output : String) (path : String) (line : Nat) {a : Metric}
    (isActive : a ∈ active.metrics)
    (isError : (detectError (trim output) patterns).isSome = true) :
    (∃ event : MetricEvent TypedValue,
      parseErrorOutputCommon now adapter active patterns ⟨output, some ⟨some path⟩, some line⟩ = some event ∧
        some event.metricId = a.id ∧ event.metricName = a.name) ↔
      a.id.isSome = true ∧ (a.name = locationKey path line ∨
        active.get (locationKey path line) = none ∧ (adapter.traverse active.metrics).head? = some a) := by
  obtain ⟨⟨errorType, msg⟩, detected⟩ := isSome_iff_exists.mp isError
  have stored := ActiveMetrics.mem_metrics.mp isActive
  -- a metric with the name of `a` is `a`
  have carried (m : Metric) (among : active.get m.name = some m) :
      (∃ event : MetricEvent TypedValue,
        (m.id.map fun id => .error now id m.name m.connectionId errorType msg) = some event ∧
          some event.metricId = a.id ∧ event.metricName = a.name) ↔ a.id.isSome = true ∧ m = a := by
    constructor
    · rintro ⟨event, made, isId, isName⟩
      obtain ⟨id, hasId, rfl⟩ := map_eq_some_iff.mp made
      have same : m.name = a.name := isName
      exact ⟨isId ▸ rfl, some.inj ((same ▸ among).symm.trans stored)⟩
    · rintro ⟨hasId, rfl⟩
      obtain ⟨id, isId⟩ := isSome_iff_exists.mp hasId
      exact ⟨_, by rw [isId]; rfl, isId.symm, rfl⟩
  have whole : (parseErrorOutputCommon now adapter active patterns
      ⟨output, some ⟨some path⟩, some line⟩ : Option (MetricEvent TypedValue)) =
        ((active.get (locationKey path line)).or (adapter.traverse active.metrics).head?).bind fun m =>
          m.id.map fun id => .error now id m.name m.connectionId errorType msg := by
    simp [parseErrorOutputCommon, findMetricForError, detected, bind_assoc, map_eq_bind,
      Function.comp_def]
  rw [whole]
  cases got : active.get (locationKey path line) with
  | some m =>
    have isKey := ActiveMetrics.get_name got
    refine (carried m (isKey.symm ▸ got)).trans (and_congr_right fun _ => ⟨?_, ?_⟩)
    · rintro rfl
      exact .inl isKey
    · rintro (isName | ⟨absent, -⟩)
      · exact some.inj (got.symm.trans (isName ▸ stored))
      · cases absent
  | none =>
    have noName : a.name ≠ locationKey path line := fun isName => by simp [← isName, stored] at got
    rw [or_iff_right noName, and_iff_right rfl, none_or]
    cases first : (adapter.traverse active.metrics).head? with
    | none => simp
    | some m =>
      have among := (adapter.traverse_perm active.metrics).subset (mem_of_mem_head? first)
      rw [some.injEq]
      exact carried m (ActiveMetrics.mem_metrics.mp among)

section Sample

def samplePatterns : List ErrorPattern := [⟨"Error", .startsWith, "Error"⟩]

theorem named_metric_gets_error :
    ∃ event : MetricEvent Unit,
      parseErrorOutputCommon 0 sampleAdapter
        (ActiveMetrics.empty.insert { sampleMetric "f#1" "f" with id := some 1 }) samplePatterns
        ⟨"Error", some ⟨some "f"⟩, some 1⟩ = some event ∧
          some event.metricId = some 1 ∧ event.metricName = "f#1" :=
  (error_names_metric_iff 0 sampleAdapter _ samplePatterns "Error" "f" 1
    (a := { sampleMetric "f#1" "f" with id := some 1 })
    (by decide) (by decide)).mpr ⟨rfl, .inl (by decide)⟩

/-- An error at the line of one metric is put down to the other one, of another file. -/
theorem error_of_another_file :
    ∃ active : ActiveMetrics, ∃ event : MetricEvent Unit,
      (active.metrics.map fun m => (m.name, m.location)) = [("b", ⟨"g", 1⟩), ("a", ⟨"f", 1⟩)] ∧
      parseErrorOutputCommon 0 sampleAdapter active samplePatterns
        ⟨"Error", some ⟨some "/p/f"⟩, some 1⟩ = some event ∧ event.metricName = "b" := by
  refine ⟨(ActiveMetrics.empty.insert { sampleMetric "a" "f" with id := some 1 }).insert
    { sampleMetric "b" "g" with id := some 2 }, _, by decide, rfl, by decide⟩

end Sample

end Errors

end Detrix.Dap
