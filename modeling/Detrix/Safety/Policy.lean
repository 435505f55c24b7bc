/-
**The acceptance policy on syntax trees.**

What a validator is for, stated on the tree and not on the walk: an expression is accepted when its
tree holds no statement with an effect, every call in it is admitted, and every node whose text is
shown as a variable may be seen.

- `validate_isSafe_iff`: the validators decide exactly this policy.
- `validate_isSafe_none`: a text that does not parse is refused.
-/

import Detrix.Safety.Validator

namespace Detrix.Safety

open Detrix.Core Library
open Library.SyntaxTree (Node Place places)

/-! ### The nodes the policy is about -/

def pythonStatement (p : Place PythonKind Field) : Bool :=
  match p.kind with
  | .assignment | .augmentedAssignment | .annotatedAssignment | .deleteStatement
  | .importStatement | .importFromStatement | .globalStatement | .nonlocalStatement => true
  | _ => false

def goStatement (p : Place GoKind Field) : Bool :=
  match p.kind with
  | .assignmentStatement => !Text.startsWith p.text "_ ="
  | .shortVarDeclaration | .incStatement | .decStatement | .goStatement | .deferStatement
  | .sendStatement => true
  | _ => false

def rustStatement (p : Place RustKind Field) : Bool :=
  match p.kind with
  | .assignmentExpression | .compoundAssignmentExpr | .unsafeBlock => true
  | _ => false

/-- The Python nodes whose text is checked as a variable: an identifier that is no callee and no
part of an attribute, and an attribute that is no callee. -/
def pythonShows (p : Place PythonKind Field) : Bool :=
  match p.kind with
  | .identifier =>
    !isCallee .call p && p.parentKind ≠ some .attributeExpr && p.text ≠ ""
  | .attributeExpr => !isCallee .call p
  | _ => false

def goShows (p : Place GoKind Field) : Bool :=
  match p.kind with
  | .identifier =>
    !isCallee .callExpression p && p.parentKind ≠ some .selectorExpression &&
      p.parentKind ≠ some .packageClause && p.parentKind ≠ some .functionDeclaration &&
      p.text ≠ "_" && p.text ≠ "main"
  | .selectorExpression => !isCallee .callExpression p
  | _ => false

def rustShows (p : Place RustKind Field) : Bool :=
  match p.kind with
  | .identifier =>
    !isCallee .callExpression p && p.parentKind ≠ some .scopedIdentifier &&
      p.parentKind ≠ some .fieldExpression && p.parentKind ≠ some .methodCallExpression &&
      p.text ≠ "" && p.text ≠ "_" && p.text ≠ "main"
  | .fieldExpression =>
    !(p.parentKind = some .methodCallExpression && p.isFieldOfParent .receiver)
  | .scopedIdentifier => !isCallee .callExpression p
  | _ => false

namespace Language

def isStatement : (l : Language) → l.NodePlace → Bool
  | python => pythonStatement
  | go => goStatement
  | rust => rustStatement

def callees (l : Language) (root : Node l.Kind Field) : List String :=
  (places root).filterMap fun p => l.callee p.node

def shows : (l : Language) → l.NodePlace → Bool
  | python => pythonShows
  | go => goShows
  | rust => rustShows

end Language

open Language

/-! ### One visit, read as the policy reads it -/

/-- **What the visit of a node finds**, in the policy's terms. -/
structure VisitSpec {l : Language} (p : l.NodePlace) (found : Finding) : Prop where
  call : ∀ name, found = .functionCall name ↔ l.callee p.node = some name
  access : ∀ name, found = .variableAccess name ↔ l.shows p = true ∧ name = p.text
  statement : (∃ message, found = .violation message ∨ found = .unsafeBlock message) ↔
    l.isStatement p = true

/-- An arm that reports a call. -/
theorem VisitSpec.ofCall {l : Language} {p : l.NodePlace} {finding : Finding}
    (isCall : finding = callFinding (l.callee p.node)) (hidden : l.shows p = false)
    (mild : l.isStatement p = false) : VisitSpec p finding := by
  rw [isCall]
  cases found : l.callee p.node with
  | none | some name => exact ⟨by simp [callFinding, found], by simp [callFinding, hidden],
      by simp [callFinding, mild]⟩

theorem VisitSpec.ofAccess {l : Language} {p : l.NodePlace} (noCall : l.callee p.node = none)
    (mild : l.isStatement p = false) :
    VisitSpec p (if l.shows p then .variableAccess p.text else .nothing) := by
  cases shown : l.shows p with
  | false => exact ⟨by simp [noCall], by simp [shown], by simp [mild]⟩
  | true => exact ⟨by simp [noCall], by simp [shown, eq_comm], by simp [mild]⟩

theorem analyzePythonNode_access {p : Place PythonKind Field}
    (kind : p.node.kind = .identifier ∨ p.node.kind = .attributeExpr) :
    analyzePythonNode p = if pythonShows p then .variableAccess p.text else .nothing := by
  rcases kind with kind | kind <;> simp only [analyzePythonNode, pythonShows, Place.kind, kind]
  · by_cases callee : isCallee PythonKind.call p = true
    · simp [callee]
    · by_cases inChain : p.parentKind = some PythonKind.attributeExpr
      · simp [callee, inChain]
      · by_cases empty : p.text = "" <;> simp [callee, inChain, empty]
  · by_cases callee : isCallee PythonKind.call p = true <;> simp [callee]

theorem analyzePythonNode_spec (p : Place PythonKind Field) :
    VisitSpec (l := .python) p (analyzePythonNode p) := by
  cases kind : p.node.kind with
  | call =>
    exact .ofCall (l := .python) (by simp [analyzePythonNode, callee, Place.kind, kind])
      (by simp [shows, pythonShows, Place.kind, kind]) (by simp [isStatement, pythonStatement, Place.kind, kind])
  | identifier | attributeExpr =>
    rw [analyzePythonNode_access (by simp [kind])]
    exact .ofAccess (l := .python) (by simp [callee, pythonCallee, kind])
      (by simp [isStatement, pythonStatement, Place.kind, kind])
  | _ =>
    constructor <;> simp [analyzePythonNode, callee, pythonCallee, shows,
      pythonShows, isStatement, pythonStatement, Place.kind, kind]

theorem analyzeGoNode_access {p : Place GoKind Field}
    (kind : p.node.kind = .identifier ∨ p.node.kind = .selectorExpression) :
    analyzeGoNode p = if goShows p then .variableAccess p.text else .nothing := by
  rcases kind with kind | kind <;> simp only [analyzeGoNode, goShows, Place.kind, kind]
  · by_cases callee : isCallee GoKind.callExpression p = true
    · simp [callee]
    · by_cases inChain : p.parentKind = some GoKind.selectorExpression
      · simp [callee, inChain]
      · by_cases decl : p.parentKind = some .packageClause ∨
            p.parentKind = some .functionDeclaration
        · rcases decl with decl | decl <;> simp [callee, decl]
        · rw [not_or] at decl
          simp [callee, inChain, decl]
  · by_cases callee : isCallee GoKind.callExpression p = true <;> simp [callee]

theorem analyzeGoNode_spec (p : Place GoKind Field) : VisitSpec (l := .go) p (analyzeGoNode p) := by
  cases kind : p.node.kind with
  | callExpression =>
    exact .ofCall (l := .go) (by simp [analyzeGoNode, callee, Place.kind, kind])
      (by simp [shows, goShows, Place.kind, kind]) (by simp [isStatement, goStatement, Place.kind, kind])
  | identifier | selectorExpression =>
    rw [analyzeGoNode_access (by simp [kind])]
    exact .ofAccess (l := .go) (by simp [callee, goCallee, kind])
      (by simp [isStatement, goStatement, Place.kind, kind])
  | assignmentStatement =>
    by_cases wrapper : Text.startsWith p.text "_ =" = true
    all_goals constructor <;> simp [analyzeGoNode, callee, goCallee, shows,
      goShows, isStatement, goStatement, Place.kind, kind, wrapper]
  | _ =>
    constructor <;> simp [analyzeGoNode, callee, goCallee, shows, goShows,
      isStatement, goStatement, Place.kind, kind]

theorem analyzeRustNode_access {p : Place RustKind Field}
    (kind : p.node.kind = .identifier ∨ p.node.kind = .fieldExpression ∨
      p.node.kind = .scopedIdentifier) :
    analyzeRustNode p = if rustShows p then .variableAccess p.text else .nothing := by
  rcases kind with kind | kind | kind <;> simp only [analyzeRustNode, rustShows, Place.kind, kind]
  · by_cases callee : isCallee RustKind.callExpression p = true
    · simp [callee]
    · by_cases inChain : p.parentKind = some .scopedIdentifier ∨
          p.parentKind = some .fieldExpression ∨ p.parentKind = some .methodCallExpression
      · rcases inChain with inChain | inChain | inChain <;> simp [callee, inChain]
      · simp only [not_or] at inChain
        -- the wrapper's names are filtered again by the last test
        by_cases wrapper : (p.parentKind = some .functionItem ∨
            p.parentKind = some .letDeclaration) ∧ (p.text = "main" ∨ p.text = "_")
        · rcases wrapper with ⟨parent, named | named⟩ <;> simp [callee, inChain, parent, named]
        · simp [callee, inChain, wrapper, and_assoc]
  · by_cases receiver : (p.parentKind = some RustKind.methodCallExpression &&
      p.isFieldOfParent .receiver) = true <;> simp [receiver]
  · by_cases callee : isCallee RustKind.callExpression p = true <;> simp [callee]

theorem analyzeRustNode_spec (p : Place RustKind Field) :
    VisitSpec (l := .rust) p (analyzeRustNode p) := by
  cases kind : p.node.kind with
  | callExpression | methodCallExpression | macroInvocation =>
    exact .ofCall (l := .rust) (by simp only [analyzeRustNode, callee, Place.kind, kind])
      (by simp [shows, rustShows, Place.kind, kind]) (by simp [isStatement, rustStatement, Place.kind, kind])
  | identifier | fieldExpression | scopedIdentifier =>
    rw [analyzeRustNode_access (by simp [kind])]
    exact .ofAccess (l := .rust) (by simp [callee, rustCallee, kind])
      (by simp [isStatement, rustStatement, Place.kind, kind])
  | _ =>
    constructor <;> simp [analyzeRustNode, callee, rustCallee, shows, rustShows,
      isStatement, rustStatement, Place.kind, kind]

/-- **Every visit meets its specification.** -/
theorem analyzeNode_spec (l : Language) (p : l.NodePlace) : VisitSpec p (l.analyzeNode p) :=
  match l with
  | .python => analyzePythonNode_spec p
  | .go => analyzeGoNode_spec p
  | .rust => analyzeRustNode_spec p

/-! ### The policy -/

section Policy

variable (rt : Runtime) (l : Language) (v : ValidatorData)

/-- A call may be made at the level: the classifier admits it and, in strict mode, the whitelist
check of the analyzer does too. -/
def callAdmitted (level : SafetyLevel) (func : String) : Bool :=
  classifierAdmits l v func && (level ≠ .strict || strictAllows l v.allowedFunctions func)

/-- A name may be shown: it is on the variable whitelist, or there is none and no sensitive
pattern matches. -/
def mayShow (name : String) : Bool :=
  if v.variableWhitelist ≠ [] then inVariableWhitelist rt v name
  else (checkSensitivePattern rt v l name).isNone

theorem variableWarning_eq_none (name : String) :
    variableWarning rt l v name = none ↔ mayShow rt l v name = true := by
  unfold variableWarning mayShow
  by_cases noList : v.variableWhitelist = []
  · simp [noList]
  · by_cases mem : inVariableWhitelist rt v name = true <;> simp [noList, mem]

/-- **The acceptance policy.** -/
structure Accepts (level : SafetyLevel) (root : Node l.Kind Field) : Prop where
  statements : ∀ p ∈ places root, l.isStatement p = false
  calls : ∀ func ∈ l.callees root, callAdmitted l v level func = true
  visible : ∀ p ∈ places root, l.shows p = true → mayShow rt l v p.text = true

/-- The policy as three tests. -/
theorem accepts_iff_tests (level : SafetyLevel) (root : Node l.Kind Field) :
    Accepts rt l v level root ↔ ((places root).all fun p => !l.isStatement p) = true ∧
      (l.callees root).all (callAdmitted l v level) = true ∧
      ((places root).all fun p => !l.shows p || mayShow rt l v p.text) = true := by
  simp only [List.all_eq_true, Bool.not_eq_true', Bool.or_eq_true]
  constructor <;> rintro ⟨stmts, calls, visible⟩
  · refine ⟨stmts, calls, fun p mem => ?_⟩
    cases shown : l.shows p with
    | false => exact .inl rfl
    | true => exact .inr (visible p mem shown)
  · refine ⟨stmts, calls, fun p mem shown => ?_⟩
    exact (visible p mem).resolve_left (by simp [shown])

instance (level : SafetyLevel) (root : Node l.Kind Field) : Decidable (Accepts rt l v level root) :=
  decidable_of_iff _ (accepts_iff_tests rt l v level root).symm

theorem Accepts.of_strict {rt : Runtime} {l : Language} {v : ValidatorData}
    {root : Node l.Kind Field} (accepts : Accepts rt l v .strict root) (level : SafetyLevel) :
    Accepts rt l v level root := by
  refine ⟨accepts.statements, fun func called => ?_, accepts.visible⟩
  have admitted := accepts.calls func called
  simp only [callAdmitted, Bool.and_eq_true] at admitted ⊢
  obtain ⟨classified, strict⟩ := admitted
  cases level with
  | strict => exact ⟨classified, strict⟩
  | trusted => exact ⟨classified, by simp⟩

variable (root : Node l.Kind Field)

theorem walk_violations_eq_nil :
    (walk l root).violations = [] ↔ ∀ p ∈ places root, l.isStatement p = false := by
  rw [List.eq_nil_iff_forall_not_mem]
  simp only [mem_walk_violations, not_exists, not_and]
  constructor
  · intro clean p mem
    by_contra effect
    obtain ⟨msg, found⟩ :=
      (analyzeNode_spec l p).statement.mpr (eq_true_of_ne_false effect)
    exact clean msg p mem found
  · intro mild msg p mem found
    have effect := (analyzeNode_spec l p).statement.mp ⟨msg, found⟩
    rw [mild p mem] at effect
    exact Bool.false_ne_true effect

theorem mem_walk_functionCalls_iff_callees (func : String) :
    func ∈ (walk l root).functionCalls ↔ func ∈ l.callees root := by
  simp [mem_walk_functionCalls, (analyzeNode_spec l _).call, callees, List.mem_filterMap]

theorem forall_walk_variableAccesses (Q : String → Prop) :
    (∀ var ∈ (walk l root).variableAccesses, Q var) ↔
      ∀ p ∈ places root, l.shows p = true → Q p.text := by
  simp only [mem_walk_variableAccesses, (analyzeNode_spec l _).access]
  constructor
  · intro every p mem shown
    exact every p.text ⟨p, mem, shown, rfl⟩
  · rintro every var ⟨p, mem, shown, rfl⟩
    exact every p mem shown

theorem validate_isSafe_iff (level : SafetyLevel) (tree : Parsed l) :
    (validate rt l v level (some tree)).isSafe = true ↔
      tree.hasError = false ∧ Accepts rt l v level tree.root := by
  cases error : tree.hasError with
  | true =>
    have broken : (TreeSitterResult.unsafeWithViolations [l.syntaxErrMsg]).Coherent := by
      simp [TreeSitterResult.Coherent, TreeSitterResult.unsafeWithViolations]
    simp only [validate, parseAndAnalyze, error, if_true, validateAst_isSafe_iff rt l v broken]
    simp [TreeSitterResult.unsafeWithViolations]
  | false =>
    simp only [validate, parseAndAnalyze, error, Bool.false_eq_true, if_false, true_and]
    cases level with
    | trusted =>
      rw [validateAst_isSafe_iff rt l v (walk_coherent tree.root), walk_violations_eq_nil,
        forall_walk_variableAccesses]
      simp only [variableWarning_eq_none, mem_walk_functionCalls_iff_callees]
      constructor <;> rintro ⟨stmts, calls, visible⟩
      · exact ⟨stmts, by simpa [callAdmitted] using calls, visible⟩
      · exact ⟨stmts, by simpa [callAdmitted] using calls, visible⟩
    | strict =>
      obtain ⟨calls, accesses, violations, coherent⟩ :=
        checkStrict_spec (walk l tree.root) rt l v.allowedFunctions
      rw [validateAst_isSafe_iff rt l v (coherent (walk_coherent tree.root)), violations, calls,
        accesses, walk_violations_eq_nil, forall_walk_variableAccesses]
      simp only [variableWarning_eq_none, mem_walk_functionCalls_iff_callees]
      constructor
      · rintro ⟨⟨stmts, strict⟩, calls, visible⟩
        refine ⟨stmts, fun func called => ?_, visible⟩
        simp [callAdmitted, calls func called, strict func called]
      · rintro ⟨stmts, calls, visible⟩
        have both := fun func called => Bool.and_eq_true_iff.mp (calls func called)
        refine ⟨⟨stmts, fun func called => ?_⟩, fun func called => (both func called).1,
          visible⟩
        simpa using (both func called).2

/-- What a tree is refused for. -/
theorem validate_refuses_iff (level : SafetyLevel) (tree : Parsed l) :
    (validate rt l v level (some tree)).isSafe = false ↔
      tree.hasError = true ∨ (∃ p ∈ places tree.root, l.isStatement p = true) ∨
        (∃ func ∈ l.callees tree.root, callAdmitted l v level func = false) ∨
        ∃ p ∈ places tree.root, l.shows p = true ∧ mayShow rt l v p.text = false := by
  rw [← Bool.not_eq_true, validate_isSafe_iff]
  constructor
  · intro no
    by_contra ok
    simp only [not_or, not_exists, not_and, Bool.not_eq_true, Bool.not_eq_false] at ok
    obtain ⟨parsed, stmts, calls, visible⟩ := ok
    exact no ⟨parsed, stmts, calls, visible⟩
  · rintro reason ⟨parsed, ok⟩
    rcases reason with error | ⟨p, mem, effect⟩ | ⟨func, called, no⟩ |
      ⟨p, mem, shown, hidden⟩
    · exact absurd error (by simp [parsed])
    · exact absurd effect (by simp [ok.statements p mem])
    · exact absurd (ok.calls func called) (by simp [no])
    · exact absurd (ok.visible p mem shown) (by simp [hidden])

end Policy

end Detrix.Safety
