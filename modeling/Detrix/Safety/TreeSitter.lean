/-
**The tree-sitter analyzers.**

The walk over the syntax tree of an expression that collects the violations, the function calls and
the variable accesses, for Python, Go and Rust, and the strict-mode check of the calls it found.
The parser is not part of the program: an analysis starts from what the parser returned, a tree or
nothing, with the flag that the tree has a syntax error.
-/

import Detrix.Core.Levels
import Detrix.Library.SyntaxTree
import Detrix.Library.Text

namespace Detrix.Safety

open Detrix.Core Library Text
open Library.SyntaxTree (Node Place)

/-- What the standard library leaves open: the Unicode lowercase of a text, and the order in which
a hash set is iterated. -/
structure Runtime where
  toLowercase : String → String
  iter : List String → List String
  iter_perm : ∀ set, (iter set).Perm set

@[simp] theorem Runtime.mem_iter (rt : Runtime) (set : List String) (s : String) :
    s ∈ rt.iter set ↔ s ∈ set :=
  (rt.iter_perm set).mem_iff

/-- The runtime on ASCII texts that iterates a set as it is listed. -/
def Runtime.ascii : Runtime := ⟨asciiLowercase, id, fun _ => List.Perm.refl _⟩

/-! ### The result of a walk -/

/-- `TreeSitterResult`. A hash set is the list of its elements. -/
structure TreeSitterResult where
  isSafe : Bool
  violations : List String
  functionCalls : List String
  variableAccesses : List String
  hasUnsafe : Bool

namespace TreeSitterResult

def safe : TreeSitterResult := ⟨true, [], [], [], false⟩

def unsafeWithViolations (violations : List String) : TreeSitterResult :=
  ⟨false, violations, [], [], false⟩

def addViolation (r : TreeSitterResult) (violation : String) : TreeSitterResult :=
  { r with isSafe := false, violations := r.violations ++ [violation] }

def addFunctionCall (r : TreeSitterResult) (name : String) : TreeSitterResult :=
  { r with functionCalls := r.functionCalls.insert name }

def addVariableAccess (r : TreeSitterResult) (name : String) : TreeSitterResult :=
  { r with variableAccesses := r.variableAccesses.insert name }

end TreeSitterResult

open TreeSitterResult

/-- What the visit of one node does to the result: every arm of the analyzers makes at most one of
these changes. -/
inductive Finding where
  | nothing
  | violation (message : String)
  | unsafeBlock (message : String)
  | functionCall (name : String)
  | variableAccess (name : String)

def Finding.record : Finding → TreeSitterResult → TreeSitterResult
  | nothing, r => r
  | violation message, r => r.addViolation message
  | unsafeBlock message, r => { r with hasUnsafe := true }.addViolation message
  | functionCall name, r => r.addFunctionCall name
  | variableAccess name, r => r.addVariableAccess name

/-! ### Node kinds and field labels -/

/-- The field labels of the grammars that the analyzers ask for, and any other. -/
inductive Field where
  | function | name | receiver | macroName | attributeName
  | other (label : String)
  deriving DecidableEq

inductive PythonKind where
  | assignment | augmentedAssignment | annotatedAssignment | deleteStatement
  | importStatement | importFromStatement | globalStatement | nonlocalStatement
  | call | identifier | attributeExpr
  | other (kind : String)
  deriving DecidableEq

inductive GoKind where
  | assignmentStatement | shortVarDeclaration | incStatement | decStatement
  | goStatement | deferStatement | sendStatement
  | callExpression | identifier | selectorExpression | packageClause | functionDeclaration
  | other (kind : String)
  deriving DecidableEq

inductive RustKind where
  | assignmentExpression | compoundAssignmentExpr | unsafeBlock
  | callExpression | methodCallExpression | macroInvocation
  | identifier | scopedIdentifier | fieldExpression | functionItem | letDeclaration
  | other (kind : String)
  deriving DecidableEq

/-! ### One node -/

/-- A message with the text of the node in quotes. -/
def quoted (what text : String) : String := what ++ ": '" ++ text ++ "'"

def isCallee {κ : Type} [DecidableEq κ] (call : κ) (p : Place κ Field) : Bool :=
  p.parentKind = some call && p.isFieldOfParent .function

def pythonCallee (n : Node PythonKind Field) : Option String :=
  match n.kind with
  | .call => (n.childByField .function).map Node.text
  | _ => none

def goCallee (n : Node GoKind Field) : Option String :=
  match n.kind with
  | .callExpression => (n.childByField .function).map Node.text
  | _ => none

/-- The callee text of a Rust node, if it is a call, a method call or a macro invocation. -/
def rustCallee (n : Node RustKind Field) : Option String :=
  match n.kind with
  | .callExpression => (n.childByField .function).map Node.text
  | .methodCallExpression =>
    (n.childByField .name).map fun method =>
      match n.childByField .receiver with
      | some receiver => receiver.text ++ "." ++ method.text
      | none => method.text
  | .macroInvocation => (n.childByField .macroName).map fun name => name.text ++ "!"
  | _ => none

def callFinding : Option String → Finding
  | some name => .functionCall name
  | none => .nothing

def analyzePythonNode (p : Place PythonKind Field) : Finding :=
  match p.kind with
  | .assignment | .augmentedAssignment | .annotatedAssignment =>
    .violation (quoted "Assignment detected" p.text)
  | .deleteStatement => .violation (quoted "Delete statement detected" p.text)
  | .importStatement | .importFromStatement =>
    .violation (quoted "Import statement detected" p.text)
  | .globalStatement | .nonlocalStatement =>
    .violation (quoted "Global/nonlocal statement detected" p.text)
  | .call => callFinding (pythonCallee p.node)
  | .identifier =>
    if isCallee .call p then .nothing
    -- left to the attribute node, which in turn leaves a callee to the call node
    else if p.parentKind = some .attributeExpr then .nothing
    else if p.text = "" then .nothing
    else .variableAccess p.text
  | .attributeExpr => if isCallee .call p then .nothing else .variableAccess p.text
  | .other _ => .nothing

/-- `analyze_go_node`. The wrapper assignment `_ = expr` is not a violation. -/
def analyzeGoNode (p : Place GoKind Field) : Finding :=
  match p.kind with
  | .assignmentStatement =>
    if startsWith p.text "_ =" then .nothing
    else .violation (quoted "Assignment detected" p.text)
  | .shortVarDeclaration => .violation (quoted "Short variable declaration detected" p.text)
  | .incStatement | .decStatement => .violation (quoted "Increment/decrement detected" p.text)
  | .goStatement => .violation (quoted "Goroutine detected" p.text)
  | .deferStatement => .violation (quoted "Defer statement detected" p.text)
  | .sendStatement => .violation (quoted "Channel send detected" p.text)
  | .callExpression => callFinding (goCallee p.node)
  | .identifier =>
    if isCallee .callExpression p then .nothing
    else if p.parentKind = some .selectorExpression then .nothing
    else if p.parentKind = some .packageClause ∨ p.parentKind = some .functionDeclaration then
      .nothing
    else if p.text ≠ "_" ∧ p.text ≠ "main" then .variableAccess p.text
    else .nothing
  | .selectorExpression =>
    if isCallee .callExpression p then .nothing else .variableAccess p.text
  | .packageClause | .functionDeclaration | .other _ => .nothing

def analyzeRustNode (p : Place RustKind Field) : Finding :=
  match p.kind with
  | .assignmentExpression => .violation (quoted "Assignment detected" p.text)
  | .compoundAssignmentExpr => .violation (quoted "Compound assignment detected" p.text)
  | .unsafeBlock => .unsafeBlock (quoted "Unsafe block detected" p.text)
  | .callExpression | .methodCallExpression | .macroInvocation =>
    callFinding (rustCallee p.node)
  | .identifier =>
    if isCallee .callExpression p then .nothing
    else if p.parentKind = some .scopedIdentifier ∨ p.parentKind = some .fieldExpression ∨
        p.parentKind = some .methodCallExpression then .nothing
    else if (p.parentKind = some .functionItem ∨ p.parentKind = some .letDeclaration) ∧
        (p.text = "main" ∨ p.text = "_") then .nothing
    else if p.text ≠ "" ∧ p.text ≠ "_" ∧ p.text ≠ "main" then .variableAccess p.text
    else .nothing
  | .fieldExpression =>
    if p.parentKind = some .methodCallExpression && p.isFieldOfParent .receiver then .nothing
    else .variableAccess p.text
  | .scopedIdentifier =>
    if isCallee .callExpression p then .nothing else .variableAccess p.text
  | .functionItem | .letDeclaration | .other _ => .nothing

/-! ### The languages with an analyzer -/

/-- The languages that have an expression validator. -/
inductive Language where
  | python | go | rust

namespace Language

def Kind : Language → Type
  | python => PythonKind
  | go => GoKind
  | rust => RustKind

abbrev NodePlace (l : Language) : Type := Place l.Kind Field

def callee : (l : Language) → Node l.Kind Field → Option String
  | python => pythonCallee
  | go => goCallee
  | rust => rustCallee

def analyzeNode : (l : Language) → l.NodePlace → Finding
  | python => analyzePythonNode
  | go => analyzeGoNode
  | rust => analyzeRustNode

def source : Language → SourceLanguage
  | python => .python
  | go => .go
  | rust => .rust

def parseFailMsg : Language → String
  | python => "Failed to parse Python expression"
  | go => "Failed to parse Go expression"
  | rust => "Failed to parse Rust expression"

def syntaxErrMsg : Language → String
  | python => "Syntax error in Python expression"
  | go => "Syntax error in Go expression"
  | rust => "Syntax error in Rust expression"

/-- The text handed to the parser: Go and Rust expressions are wrapped in a function. -/
def wrap : Language → String → String
  | python, expression => expression
  | go, expression => "package main\nfunc main() \x7b _ = " ++ expression ++ " \x7d"
  | rust, expression => "fn main() \x7b let _ = " ++ expression ++ "; \x7d"

end Language

/-! ### Names of callees -/

/-- `extract_simple_base_name`: the part after the last dot. -/
def extractSimpleBaseName (func : String) : List String :=
  [afterLast "." func]

/-- `extract_rust_base_name`: cut the turbofish, keep the last path segment and the last method,
cut at a parenthesis; for a macro the name without its `!` too. -/
def extractRustBaseName (func : String) : List String :=
  let withoutTurbofish := beforeFirst "::<" func
  let afterPath := afterLast "::" withoutTurbofish
  let baseName := beforeFirst "(" (afterLast "." afterPath)
  match stripSuffix "!" baseName with
  | some macroBase => [baseName, macroBase]
  | none => [baseName]

/-- The names under which the strict-mode check looks a callee up, besides the callee itself. -/
def Language.extractBase : Language → String → List String
  | .python | .go => extractSimpleBaseName
  | .rust => extractRustBaseName

/-! ### The whole tree -/

/-- The strict-mode check accepts a callee: it or one of its base names is whitelisted. -/
def strictAllows (l : Language) (allowed : List String) (func : String) : Bool :=
  func ∈ allowed || (l.extractBase func).any (· ∈ allowed)

def checkStrictModeViolations (rt : Runtime) (l : Language) (allowed : List String)
    (r : TreeSitterResult) : TreeSitterResult :=
  let nonWhitelisted := (rt.iter r.functionCalls).filter fun func => !strictAllows l allowed func
  nonWhitelisted.foldl (fun r func =>
    r.addViolation ("Non-whitelisted function call '" ++ func ++ "' in strict mode")) r

/-- What the parser returned: the root, and whether the tree has a syntax error. -/
structure Parsed (l : Language) where
  root : Node l.Kind Field
  hasError : Bool

def walk (l : Language) (root : Node l.Kind Field) : TreeSitterResult :=
  SyntaxTree.traverse (fun p r => (l.analyzeNode p).record r) [] root safe

/-- `parse_and_analyze`, from the parser's answer on. -/
def parseAndAnalyze (rt : Runtime) (l : Language) (level : SafetyLevel) (allowed : List String)
    (parsed : Option (Parsed l)) : TreeSitterResult :=
  match parsed with
  | none => unsafeWithViolations [l.parseFailMsg]
  | some tree =>
    if tree.hasError then unsafeWithViolations [l.syntaxErrMsg]
    else
      let result := walk l tree.root
      match level with
      | .strict => checkStrictModeViolations rt l allowed result
      | .trusted => result

/-! ### What a walk collects -/

/-- The flag and the list of violations agree. -/
def TreeSitterResult.Coherent (r : TreeSitterResult) : Prop :=
  r.isSafe = true ↔ r.violations = []

variable (r : TreeSitterResult)

theorem TreeSitterResult.coherent_addViolation (v : String) : (r.addViolation v).Coherent := by
  simp [TreeSitterResult.Coherent, addViolation]

theorem TreeSitterResult.Coherent.record {r : TreeSitterResult} (coherent : r.Coherent)
    (f : Finding) : (f.record r).Coherent := by
  cases f with
  | nothing => exact coherent
  | violation msg => exact coherent_addViolation r msg
  | unsafeBlock msg => exact coherent_addViolation _ msg
  | functionCall name | variableAccess name => exact coherent

section Walk

variable {l : Language} (root : Node l.Kind Field)

theorem mem_walk_functionCalls (name : String) :
    name ∈ (walk l root).functionCalls ↔
      ∃ p ∈ SyntaxTree.places root, l.analyzeNode p = .functionCall name := by
  rw [walk, SyntaxTree.mem_traverse_iff _ functionCalls
    (fun p name => l.analyzeNode p = .functionCall name)
    fun p r name => by
      cases l.analyzeNode p <;>
        simp [Finding.record, addViolation, addFunctionCall, addVariableAccess, or_comm, eq_comm]]
  simp [safe]

theorem mem_walk_variableAccesses (name : String) :
    name ∈ (walk l root).variableAccesses ↔
      ∃ p ∈ SyntaxTree.places root, l.analyzeNode p = .variableAccess name := by
  rw [walk, SyntaxTree.mem_traverse_iff _ variableAccesses
    (fun p name => l.analyzeNode p = .variableAccess name)
    fun p r name => by
      cases l.analyzeNode p <;>
        simp [Finding.record, addViolation, addFunctionCall, addVariableAccess, or_comm, eq_comm]]
  simp [safe]

theorem mem_walk_violations (msg : String) :
    msg ∈ (walk l root).violations ↔
      ∃ p ∈ SyntaxTree.places root,
        l.analyzeNode p = .violation msg ∨ l.analyzeNode p = .unsafeBlock msg := by
  rw [walk, SyntaxTree.mem_traverse_iff _ violations
    (fun p msg => l.analyzeNode p = .violation msg ∨
      l.analyzeNode p = .unsafeBlock msg)
    fun p r msg => by
      cases l.analyzeNode p <;>
        simp [Finding.record, addViolation, addFunctionCall, addVariableAccess, eq_comm]]
  simp [safe]

theorem walk_coherent : (walk l root).Coherent :=
  SyntaxTree.traverse_invariant _ TreeSitterResult.Coherent
    (fun _ _ coherent => coherent.record _) root _ (by simp [TreeSitterResult.Coherent,
      safe])

end Walk

/-! ### The strict-mode check -/

section Strict

variable (rt : Runtime) (l : Language) (allowed : List String)

theorem foldl_addViolation (msg : String → String) :
    ∀ (funcs : List String) (r : TreeSitterResult),
      let last := funcs.foldl (fun r func => r.addViolation (msg func)) r
      last.functionCalls = r.functionCalls ∧ last.variableAccesses = r.variableAccesses ∧
        last.violations = r.violations ++ funcs.map msg ∧ (r.Coherent → last.Coherent)
  | [], r => by simp
  | func :: funcs, r => by
    obtain ⟨calls, accesses, violations, coherent⟩ :=
      foldl_addViolation msg funcs (r.addViolation (msg func))
    refine ⟨calls, accesses, ?_, fun _ => coherent (r.coherent_addViolation _)⟩
    rw [List.foldl_cons, violations]
    simp [addViolation]

theorem checkStrict_spec :
    let checked := checkStrictModeViolations rt l allowed r
    checked.functionCalls = r.functionCalls ∧ checked.variableAccesses = r.variableAccesses ∧
      (checked.violations = [] ↔
        r.violations = [] ∧ ∀ func ∈ r.functionCalls, strictAllows l allowed func = true) ∧
      (r.Coherent → checked.Coherent) := by
  refine ⟨(foldl_addViolation _ _ r).1, (foldl_addViolation _ _ r).2.1, ?_,
    (foldl_addViolation _ _ r).2.2.2⟩
  rw [checkStrictModeViolations, (foldl_addViolation _ _ r).2.2.1]
  simp [List.filter_eq_nil_iff]

end Strict

end Detrix.Safety
