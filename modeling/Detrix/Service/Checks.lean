/-
**The checks of the metric service.**

What the service is configured with and asks from outside (`Env`), the scope of a caller, the safe
mode check, and the validation of the fields of a metric: name, number and length of the
expressions, the verdict of the language's validator and the purity that the language server
resolves.

- `validateSafeMode_eq_ok`: what passes the safe mode check.
- `resolvePurity_asStrict_iff`: when the resolved verdict is as strict as the validator's.
- `fieldsPass_iff`: the validation of the fields, condition by condition. None of them reads the
  owner of the metric or whether it is enabled.
-/

import Detrix.Core.Metric
import Detrix.Library.Program
import Detrix.Safety.Validator

namespace Detrix.Service

open Detrix.Core Library Safety List Text

/-! ### The environment -/

/-- A purity analyzer: whether it can be started, and its analysis of a function of a file. -/
structure PurityAnalyzer where
  ready : Bool
  analyze : String → String → Option PurityAnalysis

structure Limits where
  maxExpressionsPerMetric : Nat
  maxExpressionLength : Nat

/-- Files that were handed in: connection and path with the content. -/
abbrev Vfs : Type := List ((ConnectionId × String) × String)

/-- What the service is configured with and asks from outside. -/
structure Env where
  rt : Runtime
  config : Language → SafetyConfig
  parse : (l : Language) → String → Option (Parsed l)
  limits : Limits
  analyzers : SourceLanguage → Option PurityAnalyzer
  /-- The variables in scope at a location, if the file can be inspected. -/
  inspect : Vfs → Location → Option (List String)
  captureAnchor : Location → SourceLanguage → Except String MetricAnchor
  /-- The order in which a hash map of locations is iterated. -/
  order : List ((ConnectionId × Location) × Metric) → List ((ConnectionId × Location) × Metric)
  order_perm : ∀ entries, (order entries).Perm entries

inductive OperationWarning where
  | noSafetyValidator (language metricName : String)
  | adapterSyncFailed (metricName error : String)
  | breakpointNotVerified (location : String) (line : Nat) (message : Option String)
  | metricReplaced (replacedName : String) (replacedId : MetricId) (location : String)
  | fetchFailed (context error : String)
  | expressionsMerged (metricName : String) (metricId : MetricId) (added : List String)
      (location : String)
  | anchorCaptureFailed (metricName location error : String)
  | purityResolution (functionName resolution source : String)
  deriving DecidableEq

/-! ### The scope of a caller -/

inductive MetricScope where
  | admin
  | user (userId : String)
  | agent (userId agentId : String)

namespace MetricScope

def canRead (scope : MetricScope) (m : Metric) : Bool :=
  match scope with
  | admin => true
  | user userId | agent userId _ => m.userId = some userId

def canMutate (scope : MetricScope) (m : Metric) : Bool :=
  match scope with
  | admin => true
  | user userId => m.userId = some userId
  | agent userId agentId => m.userId = some userId && m.agentId = some agentId

def userId : MetricScope → Option String
  | admin => none
  | user userId | agent userId _ => some userId

def agentId : MetricScope → Option String
  | admin | user _ => none
  | agent _ agentId => some agentId

end MetricScope

/-! ### Safe mode -/

def isGoFunctionCall (m : Metric) : Bool :=
  m.language = .go && m.expressions.any expressionContainsFunctionCall

def requiresBreakpoint (m : Metric) : Bool :=
  m.captureStackTrace || m.captureMemorySnapshot || isGoFunctionCall m

/-- `validate_safe_mode`, with the safe mode of the metric's adapter if there is one. -/
def validateSafeMode (safeMode : Option Bool) (m : Metric) : Except ServiceError Unit :=
  let needsIntrospection := m.captureStackTrace || m.captureMemorySnapshot
  if !requiresBreakpoint m then .ok ()
  else match safeMode with
    | some true =>
      let operation :=
        if isGoFunctionCall m && !needsIntrospection then "Go function call (requires breakpoint)"
        else " and ".intercalate
          ((if m.captureStackTrace then ["capture_stack_trace"] else []) ++
            (if m.captureMemorySnapshot then ["capture_memory_snapshot"] else []) ++
            (if isGoFunctionCall m then ["Go function call"] else []))
      .error (.safeModeViolation operation m.connectionId)
    | some false => .ok ()
    | none =>
      let feature :=
        if isGoFunctionCall m && !needsIntrospection then
          "Go function calls (they require breakpoints)"
        else "capture_stack_trace or capture_memory_snapshot"
      .error (.connectionNotFound ("Connection '" ++ m.connectionId ++
        "' not active. Start the connection before adding metrics with " ++ feature ++ "."))

theorem validateSafeMode_eq_ok (safeMode : Option Bool) (m : Metric) :
    validateSafeMode safeMode m = .ok () ↔ requiresBreakpoint m = false ∨ safeMode = some false := by
  unfold validateSafeMode
  by_cases needs : requiresBreakpoint m = true
  · rcases safeMode with _ | _ | _ <;> simp [needs]
  · simp [needs]

/-! ### The purity of unknown functions -/

/-- The result after the analysis of one unknown function. -/
def resolveFunction (file : String) (analyzer : PurityAnalyzer) (result : ValidationResult)
    (func : String) : ValidationResult :=
  match analyzer.analyze func file with
  | none => result
  | some analysis =>
    match analysis.level with
    | .pure =>
      { result with
        unknownFunctions := result.unknownFunctions.filter (· ≠ func)
        warnings := result.warnings.filter fun w => !contains w ("'" ++ func ++ "'")
        resolvedFunctions := result.resolvedFunctions ++
          [⟨func, "pure", "LSP call hierarchy analysis"⟩] }
    | .impure =>
      { result with
        unknownFunctions := result.unknownFunctions.filter (· ≠ func)
        impureFunctions := result.impureFunctions.insert func
        isSafe := false
        errors := result.errors ++ ["Function '" ++ func ++ "' is impure (LSP analysis): " ++
          ", ".intercalate (analysis.impureCalls.map fun c => c.functionName ++ ": " ++ c.reason)]
        resolvedFunctions := result.resolvedFunctions ++
          [⟨func, "impure", "LSP call hierarchy analysis"⟩] }
    | .unknown => result

def resolvePurity (env : Env) (language : SourceLanguage) (file : String)
    (result : ValidationResult) : ValidationResult :=
  match env.analyzers language with
  | none => result
  | some analyzer =>
    if !analyzer.ready then result
    else
      let resolved := (env.rt.iter result.unknownFunctions).foldl (resolveFunction file analyzer)
        result
      if resolved.unknownFunctions.isEmpty && resolved.impureFunctions.isEmpty then
        { resolved with purity := .pure, isSafe := true }
      else if !resolved.impureFunctions.isEmpty then
        { resolved with purity := .impure, isSafe := false }
      else resolved

/-! ### What a resolved verdict keeps -/

section Resolve

variable (env : Env) (language : SourceLanguage) (file : String) (analyzer : PurityAnalyzer)

def PurityAnalyzer.level (func : String) : Option PurityLevel :=
  (analyzer.analyze func file).map (·.level)

/-- What the loop over unknown functions does to a result. -/
structure Looped (funcs : List String) (before after : ValidationResult) : Prop where
  unknown : ∀ f, f ∈ after.unknownFunctions ↔ f ∈ before.unknownFunctions ∧
    (f ∈ funcs → analyzer.level file f ≠ some .pure ∧ analyzer.level file f ≠ some .impure)
  impure : ∀ f, f ∈ after.impureFunctions ↔
    f ∈ before.impureFunctions ∨ f ∈ funcs ∧ analyzer.level file f = some .impure
  errors : before.errors <+: after.errors
  quiet : (∀ f ∈ funcs, analyzer.level file f ≠ some .impure) →
    after.errors = before.errors ∧ after.isSafe = before.isSafe
  warnings : ∀ w, w ∈ after.warnings ↔ w ∈ before.warnings ∧
    ∀ f ∈ funcs, analyzer.level file f = some .pure → contains w ("'" ++ f ++ "'") = false

theorem looped (funcs : List String) (before : ValidationResult) :
    Looped file analyzer funcs before (funcs.foldl (resolveFunction file analyzer) before) := by
  induction funcs generalizing before with
  | nil => constructor <;> simp
  | cons func funcs ih =>
    obtain ⟨unknown, impure, errors, quiet, warns⟩ := ih (resolveFunction file analyzer before func)
    rw [foldl_cons]
    generalize funcs.foldl _ _ = after at *
    rcases answer : analyzer.analyze func file with _ | ⟨_ | _ | _, calls⟩
    all_goals
      have level : analyzer.level file func = _ := congrArg (Option.map _) answer
      simp only [resolveFunction, answer, Option.map] at *
      constructor
      case errors => first | exact errors | exact (prefix_append _ _).trans errors
      all_goals grind

def readyAnalyzer : Option PurityAnalyzer := (env.analyzers language).filter (·.ready)

/-- A warning about a variable that is sensitive or not in the whitelist. -/
def AboutVariable (w : String) : Prop :=
  (∃ var, w = whitelistWarning var) ∨ ∃ var pattern, w = sensitiveWarning var pattern

/-- The verdict after the resolution is as strict as the one before it. -/
structure AsStrict (before after : ValidationResult) : Prop where
  safe : after.isSafe = true → before.isSafe = true ∧ after.errors = []
  errors : before.errors <+: after.errors
  warnings : ∀ w ∈ before.warnings, AboutVariable w → w ∈ after.warnings
  impure : ∀ analyzer ∈ readyAnalyzer env language, ∀ f ∈ before.unknownFunctions,
    analyzer.level file f = some .impure → f ∈ after.impureFunctions ∧ after.isSafe = false

/-- **A resolved verdict is as strict as the validator's** exactly when, with an analyzer at hand, an
unsafe verdict comes with a function that is impure or not resolved as pure, and no warning about a
variable quotes the name of a function that is resolved as pure. -/
theorem resolvePurity_asStrict_iff (l : Language) (v : ValidatorData) (level : SafetyLevel)
    (parsed : Option (Parsed l)) :
    let r := validate env.rt l v level parsed
    AsStrict env language file r (resolvePurity env language file r) ↔
      ∀ analyzer ∈ readyAnalyzer env language,
        (r.isSafe = false → (∃ f, f ∈ r.impureFunctions) ∨
          ∃ f ∈ r.unknownFunctions, analyzer.level file f ≠ some .pure) ∧
        ∀ f ∈ r.unknownFunctions, analyzer.level file f = some .pure →
          ∀ w ∈ r.warnings, AboutVariable w → contains w ("'" ++ f ++ "'") = false := by
  intro r
  have clean : r.isSafe = true → r.errors = [] := by
    simp only [r, validate, validateAstResult]
    grind
  generalize r = r at *
  generalize after_eq : resolvePurity env language file r = after
  unfold resolvePurity at after_eq
  cases active : readyAnalyzer env language with
  | none =>
    have same : r = after := by grind [readyAnalyzer]
    exact ⟨by simp, fun _ => ⟨by grind, by simp [same], by grind, by grind⟩⟩
  | some analyzer =>
    obtain ⟨found, ready⟩ := Option.filter_eq_some_iff.mp active
    obtain ⟨unknown, impure, errors, quiet, warns⟩ :=
      looped file analyzer (env.rt.iter r.unknownFunctions) r
    simp only [found, ready, Runtime.mem_iter] at *
    generalize (env.rt.iter r.unknownFunctions).foldl _ r = resolved at *
    have rest : after.errors = resolved.errors ∧ after.warnings = resolved.warnings ∧
        after.impureFunctions = resolved.impureFunctions := by
      grind
    have verdict : after.isSafe = true ↔ resolved.impureFunctions = [] ∧
        (resolved.unknownFunctions = [] ∨ resolved.isSafe = true) := by
      grind
    rw [eq_nil_iff_forall_not_mem, eq_nil_iff_forall_not_mem] at verdict
    -- no error is added unless a function is found to be impure
    have silent (noImpure : ∀ f, f ∉ resolved.impureFunctions) := quiet (by grind)
    clear after_eq quiet
    constructor
    · rintro ⟨kept, -, quoted, -⟩ _ ⟨⟩
      grind
    · intro strict
      obtain ⟨refused, quoted⟩ := strict analyzer rfl
      constructor
      all_goals grind

theorem parse_error_resolved_as_safe :
    ∃ env : Env, (validate .ascii .python ⟨[], [], [], []⟩ .trusted none).isSafe = false ∧
      (resolvePurity env .python "m.py"
        (validate .ascii .python ⟨[], [], [], []⟩ .trusted none)).isSafe = true :=
  ⟨⟨.ascii, fun l => .default l, fun _ _ => none, ⟨1, 1⟩, fun _ => some ⟨true, fun _ _ => none⟩,
    fun _ _ => none, fun _ _ => .error "", id, fun _ => .refl _⟩, by decide, by decide⟩

end Resolve

/-! ### The fields of a metric -/

/-- `SourceLanguage::as_str`. -/
def languageName : SourceLanguage → String
  | .python => "python"
  | .go => "go"
  | .rust => "rust"
  | .javaScript => "javascript"
  | .typeScript => "typescript"
  | .java => "java"
  | .cpp => "cpp"
  | .c => "c"
  | .ruby => "ruby"
  | .php => "php"
  | .unknown => "unknown"

/-- The language whose validator is registered. -/
def validatorFor : SourceLanguage → Option Language
  | .python => some .python
  | .go => some .go
  | .rust => some .rust
  | _ => none

/-- The validation of one expression: the static verdict, and for unknown functions in trusted mode
the resolved one. -/
def validateExpression (env : Env) (language : SourceLanguage) (l : Language)
    (level : SafetyLevel) (file expression : String) :
    Except ServiceError (List OperationWarning) :=
  let result := validate env.rt l ((env.config l).validator l) level
    (env.parse l (l.wrap expression))
  if !result.isSafe then .error (.safetyViolation result.errors)
  else if level = .trusted ∧ result.unknownFunctions ≠ [] then
    let resolved := resolvePurity env language file result
    if !resolved.isSafe then .error (.safetyViolation resolved.errors)
    else .ok (resolved.resolvedFunctions.map fun func =>
      .purityResolution func.name func.resolution func.source)
  else .ok []

/-- The loop over the expressions; the first that fails ends it. -/
def validateExpressions (env : Env) (language : SourceLanguage) (l : Language)
    (level : SafetyLevel) (file : String) :
    List String → Except ServiceError (List OperationWarning)
  | [] => .ok []
  | expression :: rest => do
    let warnings ← validateExpression env language l level file expression
    let others ← validateExpressions env language l level file rest
    return warnings ++ others

/-- The check by the language's validator; a language without one is only warned about. -/
def validateSafety (env : Env) (m : Metric) : Except ServiceError (List OperationWarning) :=
  match validatorFor m.language with
  | some l =>
    validateExpressions env m.language l m.safetyLevel m.location.file m.expressions
  | none => .ok [.noSafetyValidator (languageName m.language) m.name]

def validateMetricFields (env : Env) (m : Metric) : Except ServiceError (List OperationWarning) := do
  validateName m.name
  if m.expressions.all fun e => (trimChars e.toList).isEmpty then
    throw (.invalidExpression "Expression cannot be empty")
  if m.expressions.length > env.limits.maxExpressionsPerMetric then
    throw (.invalidExpression ("Too many expressions: " ++ toString m.expressions.length ++
      " (max " ++ toString env.limits.maxExpressionsPerMetric ++ ")"))
  validateExpressionsLength env.limits.maxExpressionLength m.expressions
  validateSafety env m

def hasScopeValidation (language : SourceLanguage) : Bool :=
  language = .python || language = .go || language = .rust

def simpleExpressions (m : Metric) : List String :=
  (m.expressions.map trim).filter fun e =>
    '.' ∉ e.toList && '(' ∉ e.toList && '[' ∉ e.toList

/-- `validate_expression_scope`: a file that cannot be inspected is not checked. -/
def validateExpressionScope (env : Env) (vfs : Vfs) (m : Metric) : Except ServiceError Unit :=
  if !hasScopeValidation m.language then .ok ()
  else match env.inspect vfs m.location with
    | none => .ok ()
    | some available =>
      match (simpleExpressions m).find? fun e => e ∉ available with
      | none => .ok ()
      | some e => .error (.invalidExpression ("Variable '" ++ e ++ "' is not in scope at " ++
          m.location.file ++ ":" ++ toString m.location.line ++ ". Available variables: " ++
          (if available.isEmpty then "none" else ", ".intercalate available)))

def validateMetric (env : Env) (vfs : Vfs) (m : Metric) :
    Except ServiceError (List OperationWarning) := do
  let warnings ← validateMetricFields env m
  validateExpressionScope env vfs m
  return warnings

/-! ### What passes -/

/-- An expression passes the checks of a metric of this language, level and file. -/
def ExpressionPasses (env : Env) (language : SourceLanguage) (level : SafetyLevel)
    (file expression : String) : Prop :=
  byteLength expression.toList ≤ env.limits.maxExpressionLength ∧
    ∀ l, validatorFor language = some l →
      ∃ warnings, validateExpression env language l level file expression = .ok warnings

/-- The metric passes `validate_metric_fields`. -/
def FieldsPass (env : Env) (m : Metric) : Prop :=
  ∃ warnings, validateMetricFields env m = .ok warnings

instance (env : Env) (m : Metric) : Decidable (FieldsPass env m) :=
  match fields : validateMetricFields env m with
  | .ok warnings => .isTrue ⟨warnings, fields⟩
  | .error e => .isFalse fun ⟨warnings, passes⟩ => by simp [fields] at passes

theorem validateExpressionsLength_eq_ok (maxLength : Nat) (exprs : List String) :
    validateExpressionsLength maxLength exprs = .ok () ↔
      ∀ e ∈ exprs, byteLength e.toList ≤ maxLength := by
  induction exprs with
  | nil => simp [validateExpressionsLength]
  | cons e rest ih =>
    rw [validateExpressionsLength, except_bind_eq_ok, forall_mem_cons, ← ih]
    unfold validateExpressionLength
    by_cases long : byteLength e.toList > maxLength
    · simp [long, Nat.not_le.mpr long]
    · simp [long, Nat.not_lt.mp long]

theorem validateExpressions_eq_ok (env : Env) (language : SourceLanguage) (l : Language)
    (level : SafetyLevel) (file : String) (exprs : List String) :
    (∃ warns, validateExpressions env language l level file exprs = .ok warns) ↔
      ∀ e ∈ exprs, ∃ warns, validateExpression env language l level file e = .ok warns := by
  induction exprs with
  | nil => simp [validateExpressions]
  | cons e rest ih =>
    rw [forall_mem_cons, ← ih]
    simp only [validateExpressions, except_bind_eq_ok]
    constructor
    · rintro ⟨_, first, isFirst, others, isOthers, -⟩
      exact ⟨⟨first, isFirst⟩, others, isOthers⟩
    · rintro ⟨⟨first, isFirst⟩, others, isOthers⟩
      exact ⟨first ++ others, first, isFirst, others, isOthers, rfl⟩

theorem validateSafety_eq_ok (env : Env) (m : Metric) :
    (∃ warns, validateSafety env m = .ok warns) ↔
      ∀ e ∈ m.expressions, ∀ l, validatorFor m.language = some l →
        ∃ warns, validateExpression env m.language l m.safetyLevel m.location.file e =
          .ok warns := by
  unfold validateSafety
  cases validator : validatorFor m.language with
  | none => simp
  | some l =>
    rw [validateExpressions_eq_ok]
    simp

theorem fieldsPass_iff (env : Env) (m : Metric) :
    FieldsPass env m ↔ validateName m.name = .ok () ∧
      (∃ e ∈ m.expressions, trimChars e.toList ≠ []) ∧
      m.expressions.length ≤ env.limits.maxExpressionsPerMetric ∧
      ∀ e ∈ m.expressions, ExpressionPasses env m.language m.safetyLevel m.location.file e := by
  unfold FieldsPass validateMetricFields
  by_cases blank : (m.expressions.all fun e => (trimChars e.toList).isEmpty) = true
  · have none : ¬ ∃ e ∈ m.expressions, trimChars e.toList ≠ [] := by
      rintro ⟨e, mem, solid⟩
      exact solid (isEmpty_iff.mp (all_eq_true.mp blank e mem))
    simp [except_bind_eq_ok, blank, none, throw, throwThe, MonadExceptOf.throw]
  · have some : ∃ e ∈ m.expressions, trimChars e.toList ≠ [] := by
      simpa using blank
    by_cases many : m.expressions.length > env.limits.maxExpressionsPerMetric
    · simp [except_bind_eq_ok, blank, many, Nat.not_le.mpr many, throw, throwThe, MonadExceptOf.throw]
    · have safety := validateSafety_eq_ok env m
      have lengths := validateExpressionsLength_eq_ok env.limits.maxExpressionLength m.expressions
      simp only [except_bind_eq_ok, blank, many, if_false, Bool.false_eq_true]
      constructor
      · rintro ⟨warns, ⟨⟩, named, ⟨⟩, short, isSafe⟩
        refine ⟨named, some, Nat.not_lt.mp many, fun e mem => ⟨?_, ?_⟩⟩
        · exact lengths.mp short e mem
        · exact safety.mp ⟨warns, isSafe⟩ e mem
      · rintro ⟨named, -, -, each⟩
        obtain ⟨warns, isSafe⟩ := safety.mpr fun e mem => (each e mem).2
        exact ⟨warns, (), named, (), lengths.mpr fun e mem => (each e mem).1, isSafe⟩

/-- The validation reads the name, the expressions, the language, the level and the file. -/
theorem FieldsPass.congr {env : Env} {m n : Metric} (passes : FieldsPass env m)
    (name : n.name = m.name) (exprs : n.expressions = m.expressions)
    (language : n.language = m.language) (level : n.safetyLevel = m.safetyLevel)
    (loc : n.location = m.location) : FieldsPass env n := by
  rw [fieldsPass_iff] at passes ⊢
  rw [name, exprs, language, level, loc]
  exact passes

end Detrix.Service
