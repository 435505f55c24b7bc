/-
**The expression validators.**

The allowed and prohibited sets that a configuration builds, the classification of each function
call (whitelist, then blacklist, then unknown), the check of each variable access, and the verdict.
The three validators differ in the base name of a callee, in the sensitive-pattern test and in the
purity a walk starts from.

- `mem_classifyCalls_warnings`: the warnings of the classification are those of the unknown calls.
- `validateAst_isSafe_iff`: the verdict, from the walk's result.
-/

import Detrix.Config.FunctionLists
import Detrix.Safety.TreeSitter

namespace Detrix.Safety

open Detrix.Core Library Text List

/-! ### Configuration -/

/-- `PythonSafetyConfig`, `GoSafetyConfig` and `RustSafetyConfig` have the same fields. -/
structure SafetyConfig where
  userAllowedFunctions : List String
  userProhibitedFunctions : List String
  sensitivePatterns : List String
  variableWhitelist : List String

namespace Language

def pureFunctions : Language → List String
  | python => Config.pythonPureFunctions
  | go => Config.goPureFunctions
  | rust => Config.rustPureFunctions

def acceptableImpure : Language → List String
  | python => Config.pythonAcceptableImpure
  | go => Config.goAcceptableImpure
  | rust => Config.rustAcceptableImpure

def impureFunctions : Language → List String
  | python => Config.pythonImpureFunctions
  | go => Config.goImpureFunctions
  | rust => Config.rustImpureFunctions

def defaultSensitivePatterns : Language → List String
  | python => Config.defaultPythonSensitivePatterns
  | go => Config.defaultGoSensitivePatterns
  | rust => Config.defaultRustSensitivePatterns

end Language

namespace SafetyConfig

def default (l : Language) : SafetyConfig := ⟨[], [], l.defaultSensitivePatterns, []⟩

/-- `allowed_set`: pure, acceptable and the user's functions. -/
def allowedSet (l : Language) (config : SafetyConfig) : List String :=
  l.pureFunctions ++ l.acceptableImpure ++ config.userAllowedFunctions

/-- `prohibited_set`: impure and the user's functions. -/
def prohibitedSet (l : Language) (config : SafetyConfig) : List String :=
  l.impureFunctions ++ config.userProhibitedFunctions

end SafetyConfig

structure ValidatorData where
  allowedFunctions : List String
  prohibitedFunctions : List String
  sensitivePatterns : List String
  variableWhitelist : List String

/-- The validator of a configuration (`PythonValidator::new` and its two siblings). -/
def SafetyConfig.validator (l : Language) (config : SafetyConfig) : ValidatorData :=
  ⟨config.allowedSet l, config.prohibitedSet l, config.sensitivePatterns,
    config.variableWhitelist⟩

/-! ### Base names and sensitive patterns -/

/-- `extract_base_name`: after the last dot; in Rust after the last path separator first. -/
def Language.extractBaseName : Language → String → String
  | .python, func | .go, func => afterLast "." func
  | .rust, func => afterLast "." (afterLast "::" func)

section Patterns

variable (rt : Runtime) (v : ValidatorData)

/-- The first pattern that, rewritten and in lowercase, occurs in the lowercase name. -/
def findPattern (rewrite : String → String) (name : String) : Option String :=
  v.sensitivePatterns.find? fun pattern =>
    contains (rt.toLowercase name) (rt.toLowercase (rewrite pattern))

def matchesSensitivePatternBase (name : String) : Option String :=
  findPattern rt v id name

/-- `check_sensitive_pattern`: Go also tries the pattern without underscores, Rust also with
hyphens turned into underscores. -/
def checkSensitivePattern : Language → String → Option String
  | .python, name => matchesSensitivePatternBase rt v name
  | .go, name =>
    (matchesSensitivePatternBase rt v name).or (findPattern rt v (replaceChar '_' "") name)
  | .rust, name =>
    (matchesSensitivePatternBase rt v name).or (findPattern rt v (replaceChar '-' "_") name)

end Patterns

/-! ### Classification of the calls -/

/-- The running result of the classification loop. -/
structure Tally where
  errors : List String
  warnings : List String
  unknownFunctions : List String
  impureFunctions : List String
  purity : PurityLevel

def prohibitedError (name : String) : String :=
  "Prohibited function '" ++ name ++ "' detected (blacklisted)"

def unknownWarning (func : String) : String :=
  "Unknown function '" ++ func ++ "' - purity cannot be determined without LSP analysis"

def Tally.prohibit (t : Tally) (func name : String) : Tally :=
  { t with errors := t.errors ++ [prohibitedError name]
           impureFunctions := t.impureFunctions.insert func
           purity := t.purity.combine .impure }

def Tally.unknown (t : Tally) (func : String) : Tally :=
  { t with unknownFunctions := t.unknownFunctions.insert func
           purity := t.purity.combine .unknown
           warnings := t.warnings ++ [unknownWarning func] }

section Classify

variable (l : Language) (v : ValidatorData)

/-- The classifier takes a callee as whitelisted: it or its base name is in the allowed set. -/
def whitelisted (func : String) : Bool :=
  func ∈ v.allowedFunctions || l.extractBaseName func ∈ v.allowedFunctions

/-- The classifier finds a callee in the blacklist: it or its base name is in the prohibited
set. -/
def blacklisted (func : String) : Bool :=
  func ∈ v.prohibitedFunctions || l.extractBaseName func ∈ v.prohibitedFunctions

def classifyCall (t : Tally) (func : String) : Tally :=
  let baseName := l.extractBaseName func
  if func ∈ v.allowedFunctions ∨ baseName ∈ v.allowedFunctions then t
  else if func ∈ v.prohibitedFunctions then t.prohibit func func
  else if baseName ∈ v.prohibitedFunctions ∧
      ¬ t.errors.any (fun e => contains e func) then t.prohibit func baseName
  else t.unknown func

def classifyCalls (calls : List String) (t : Tally) : Tally :=
  calls.foldl (classifyCall l v) t

end Classify

/-! ### Check of the variables -/

def whitelistWarning (var : String) : String :=
  "Variable '" ++ var ++ "' is not in the allowed variable whitelist"

def sensitiveWarning (var pattern : String) : String :=
  "Sensitive variable '" ++ var ++ "' detected (matches pattern '" ++ pattern ++ "')"

section Variables

variable (rt : Runtime) (l : Language) (v : ValidatorData)

/-- The name equals an entry of the variable whitelist up to case. -/
def inVariableWhitelist (var : String) : Bool :=
  v.variableWhitelist.any fun w => rt.toLowercase w = rt.toLowercase var

/-- The warning that the check of one variable adds, if any. A whitelist that is not empty takes
precedence over the sensitive patterns. -/
def variableWarning (var : String) : Option String :=
  if v.variableWhitelist ≠ [] then
    if inVariableWhitelist rt v var then none else some (whitelistWarning var)
  else (checkSensitivePattern rt v l var).map (sensitiveWarning var)

end Variables

/-- The verdict recognises the warnings about variables by these phrases. -/
def mentionsVariable (warning : String) : Bool :=
  contains warning "Sensitive variable" ||
    contains warning "not in the allowed variable whitelist"

/-! ### The verdict -/

/-- A function whose purity the language server resolved. -/
structure ResolvedFunction where
  name : String
  resolution : String
  source : String

structure ValidationResult where
  isSafe : Bool
  purity : PurityLevel
  errors : List String
  warnings : List String
  functionCalls : List String
  unknownFunctions : List String
  impureFunctions : List String
  resolvedFunctions : List ResolvedFunction

section Validate

variable (rt : Runtime) (l : Language) (v : ValidatorData)

def validateAstResult (ast : TreeSitterResult) (initialPurity : PurityLevel) :
    ValidationResult :=
  let tally := classifyCalls l v (rt.iter ast.functionCalls) ⟨ast.violations, [], [], [],
    initialPurity⟩
  let warnings := tally.warnings ++
    (rt.iter ast.variableAccesses).filterMap (variableWarning rt l v)
  let hasSensitiveVars := warnings.any mentionsVariable
  { isSafe := tally.errors.isEmpty && ast.isSafe && !hasSensitiveVars
    purity := tally.purity
    errors := tally.errors
    warnings := warnings
    functionCalls := ast.functionCalls
    unknownFunctions := tally.unknownFunctions
    impureFunctions := tally.impureFunctions
    resolvedFunctions := [] }

/-- The purity a validation starts from: impure for a Rust expression with an unsafe block. -/
def initialPurity (l : Language) (ast : TreeSitterResult) : PurityLevel :=
  match l with
  | .rust => if ast.hasUnsafe then .impure else .pure
  | .python | .go => .pure

/-- `ExpressionValidator::validate`, from the parser's answer on. -/
def validate (level : SafetyLevel) (parsed : Option (Parsed l)) : ValidationResult :=
  let ast := parseAndAnalyze rt l level v.allowedFunctions parsed
  validateAstResult rt l v ast (initialPurity l ast)

end Validate

/-! ### What the classification loop does -/

section Classify

variable (l : Language) (v : ValidatorData)

theorem classifyCall_errors_eq_nil (t : Tally) (func : String) :
    (classifyCall l v t func).errors = [] ↔
      t.errors = [] ∧ (whitelisted l v func = true ∨ blacklisted l v func = false) := by
  unfold classifyCall whitelisted blacklisted
  by_cases allowed : func ∈ v.allowedFunctions ∨ l.extractBaseName func ∈ v.allowedFunctions
  · simp [allowed]
  · by_cases listed : func ∈ v.prohibitedFunctions
    · simp [allowed, listed, Tally.prohibit]
    · by_cases base : l.extractBaseName func ∈ v.prohibitedFunctions
      · by_cases empty : t.errors = []
        · simp [allowed, listed, base, empty, Tally.prohibit]
        · -- a second mention makes the call unknown, but then an error is there already
          by_cases mentioned : t.errors.any (fun e => contains e func) = true
          · simp [allowed, listed, base, empty, mentioned, Tally.unknown]
          · simp [allowed, listed, base, empty, mentioned, Tally.prohibit]
      · simp [allowed, listed, base, Tally.unknown]

variable (calls : List String)

/-- **The classification adds no error exactly when every call is whitelisted or unlisted.** -/
theorem classifyCalls_errors_eq_nil (t : Tally) :
    (classifyCalls l v calls t).errors = [] ↔
      t.errors = [] ∧
        ∀ func ∈ calls, whitelisted l v func = true ∨ blacklisted l v func = false := by
  induction calls generalizing t with
  | nil => simp [classifyCalls]
  | cons func calls ih =>
    rw [classifyCalls, foldl_cons, ← classifyCalls, ih, classifyCall_errors_eq_nil]
    simp [and_assoc]

theorem classifyCall_warnings (t : Tally) (func : String) :
    (classifyCall l v t func).warnings = t.warnings ∨
      (whitelisted l v func = false ∧
        (classifyCall l v t func).warnings = t.warnings ++ [unknownWarning func]) := by
  unfold classifyCall whitelisted
  by_cases allowed : func ∈ v.allowedFunctions ∨ l.extractBaseName func ∈ v.allowedFunctions
  · left
    simp [allowed]
  · by_cases listed : func ∈ v.prohibitedFunctions
    · left
      simp [allowed, listed, Tally.prohibit]
    · by_cases base : l.extractBaseName func ∈ v.prohibitedFunctions ∧
          ¬ t.errors.any (fun e => contains e func) = true
      · left
        simp only [if_neg allowed, if_neg listed, if_pos base, Tally.prohibit]
      · right
        refine ⟨by simpa using allowed, ?_⟩
        simp only [if_neg allowed, if_neg listed, if_neg base, Tally.unknown]

theorem classifyCall_unknown (t : Tally) (func : String)
    (out : whitelisted l v func = false) (unlisted : blacklisted l v func = false) :
    classifyCall l v t func = t.unknown func := by
  unfold whitelisted at out
  unfold blacklisted at unlisted
  simp only [Bool.or_eq_false_iff, decide_eq_false_iff_not] at out unlisted
  simp [classifyCall, out, unlisted]

/-- Every warning of the classification is that of a call outside the whitelist. -/
theorem mem_classifyCalls_warnings (t : Tally) (w : String)
    (member : w ∈ (classifyCalls l v calls t).warnings) :
    w ∈ t.warnings ∨ ∃ func ∈ calls, whitelisted l v func = false ∧ w = unknownWarning func := by
  induction calls generalizing t with
  | nil => exact .inl member
  | cons func calls ih =>
    rcases ih (classifyCall l v t func) member with old | ⟨other, mem, out, same⟩
    · rcases classifyCall_warnings l v t func with kept | ⟨out, added⟩
      · exact .inl (kept ▸ old)
      · rw [added, mem_append, mem_singleton] at old
        rcases old with old | same
        · exact .inl old
        · exact .inr ⟨func, (.head _), out, same⟩
    · exact .inr ⟨other, .tail _ mem, out, same⟩

theorem classifyCalls_warnings_mono (t : Tally) (w : String) (member : w ∈ t.warnings) :
    w ∈ (classifyCalls l v calls t).warnings := by
  refine foldlRecOn (motive := fun t : Tally => w ∈ t.warnings) calls _ member fun t member func _ => ?_
  rcases classifyCall_warnings l v t func with kept | ⟨-, added⟩
  · rwa [kept]
  · rw [added]
    exact mem_append_left _ member

theorem unknownWarning_mem_classifyCalls (t : Tally) (func : String) (mem : func ∈ calls)
    (out : whitelisted l v func = false) (unlisted : blacklisted l v func = false) :
    unknownWarning func ∈ (classifyCalls l v calls t).warnings := by
  induction calls generalizing t with
  | nil => cases mem
  | cons first calls ih =>
    rcases mem_cons.mp mem with rfl | later
    · refine classifyCalls_warnings_mono l v calls _ _ ?_
      rw [classifyCall_unknown l v t func out unlisted]
      simp [Tally.unknown]
    · exact ih (classifyCall l v t first) later

end Classify

/-! ### What the verdict says -/

section Verdict

variable (rt : Runtime) (l : Language) (v : ValidatorData)

/-- The classification lets a call pass: it is whitelisted, or it is in no list and its warning is
not taken for one about a variable. -/
def classifierAdmits (func : String) : Bool :=
  whitelisted l v func || (!blacklisted l v func && !mentionsVariable (unknownWarning func))

theorem mentionsVariable_whitelistWarning (var : String) :
    mentionsVariable (whitelistWarning var) = true := by
  have phrase : contains (whitelistWarning var) "not in the allowed variable whitelist" :=
    contains_append_right _ (by decide)
  simp [mentionsVariable, phrase]

theorem mentionsVariable_sensitiveWarning (var pattern : String) :
    mentionsVariable (sensitiveWarning var pattern) = true := by
  have opening : contains "Sensitive variable '" "Sensitive variable" = true := by decide
  have phrase : contains (sensitiveWarning var pattern) "Sensitive variable" := by
    exact contains_append_left (contains_append_left (contains_append_left
      (contains_append_left opening _) _) _) _
  simp [mentionsVariable, phrase]

theorem mentionsVariable_of_variableWarning {var w : String}
    (warned : variableWarning rt l v var = some w) : mentionsVariable w = true := by
  unfold variableWarning at warned
  split at warned
  · split at warned
    · cases warned
    · rw [Option.some.injEq] at warned
      exact warned ▸ mentionsVariable_whitelistWarning var
  · obtain ⟨pattern, -, same⟩ := Option.map_eq_some_iff.mp warned
    exact same ▸ mentionsVariable_sensitiveWarning var pattern

/-- **The verdict from the walk's result**: no violation, every call admitted, no variable
warned about. -/
theorem validateAst_isSafe_iff {ast : TreeSitterResult} (coherent : ast.Coherent)
    (initial : PurityLevel) :
    (validateAstResult rt l v ast initial).isSafe = true ↔
      ast.violations = [] ∧ (∀ func ∈ ast.functionCalls, classifierAdmits l v func = true) ∧
        ∀ var ∈ ast.variableAccesses, variableWarning rt l v var = none := by
  simp only [validateAstResult, Bool.and_eq_true, List.isEmpty_iff, Bool.not_eq_true',
    any_eq_false, classifyCalls_errors_eq_nil, Runtime.mem_iter]
  constructor
  · rintro ⟨⟨⟨clean, calls⟩, -⟩, quiet⟩
    refine ⟨clean, fun func mem => ?_, fun var mem => ?_⟩
    · by_cases out : whitelisted l v func = false
      · have unlisted : blacklisted l v func = false :=
          (calls func mem).resolve_left (by simp [out])
        have silent := quiet (unknownWarning func) (mem_append_left _
          (unknownWarning_mem_classifyCalls l v _ _ func (by simpa using mem) out
            unlisted))
        simp [classifierAdmits, unlisted, silent]
      · simp [classifierAdmits, eq_true_of_ne_false out]
    · by_contra warned
      obtain ⟨w, found⟩ := Option.ne_none_iff_exists'.mp warned
      have member : w ∈ (rt.iter ast.variableAccesses).filterMap (variableWarning rt l v) :=
        mem_filterMap.mpr ⟨var, by simpa using mem, found⟩
      exact quiet w (mem_append_right _ member)
        (mentionsVariable_of_variableWarning rt l v found)
  · rintro ⟨clean, calls, quiet⟩
    refine ⟨⟨⟨clean, fun func mem => ?_⟩, coherent.mpr clean⟩, fun w member => ?_⟩
    · have admitted := calls func mem
      simp only [classifierAdmits, Bool.or_eq_true, Bool.and_eq_true, Bool.not_eq_true'] at admitted
      exact admitted.imp_right And.left
    · rcases List.mem_append.mp member with ofCall | ofVariable
      · rcases mem_classifyCalls_warnings l v _ _ w ofCall with old | ⟨func, mem, out, same⟩
        · cases old
        · have admitted := calls func (by simpa using mem)
          simp only [classifierAdmits, out, Bool.false_or, Bool.and_eq_true,
            Bool.not_eq_true'] at admitted
          rw [same, admitted.2]
          exact Bool.false_ne_true
      · obtain ⟨var, mem, found⟩ := mem_filterMap.mp ofVariable
        rw [quiet var (by simpa using mem)] at found
        cases found

end Verdict

end Detrix.Safety
