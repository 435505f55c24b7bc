/-
**The analysis of a Python function body.**

The textual analysis that stands in for the call hierarchy: a first pass over the lines builds the
scope context, a second one looks for mutation methods called on a target that is not local, then
the whole body is searched for calls of impure functions and the calls of other functions are
collected.

- `analyzePythonBody_silent`: a body without an opening parenthesis has no impure call, whatever it
  assigns.
-/

import Detrix.Config.FunctionLists
import Detrix.Core.Levels
import Detrix.Lsp.Scope

namespace Detrix.Lsp

open Detrix.Core Library Text
open Library.Text (Unicode)

/-- What a body analyzer returns: the verdict, the impure calls and the functions to look into. -/
structure BodyAnalysis where
  isPure : Bool
  impureCalls : List ImpureCall
  userCalls : List String

section Python

variable (uc : Unicode)

/-! ### The scope pass -/

/-- The names of a declaration list `x, y, z`. -/
def declaredNames (list : String) : List String :=
  ((split ',' list).map trim).filter (· ≠ "")

/-- The text after a known beginning. -/
def afterStart (start s : String) : String :=
  String.ofList (s.toList.drop start.length)

/-- The variable that a line assigns, if it is a plain assignment to a name. The character after
the sign is looked up at the sign's byte position, as the source does. -/
def pythonAssignedName (trimmed : List Char) : Option String :=
  match beforeFirstOf ['='] trimmed with
  | none => none
  | some before =>
    if before.getLast? ∈ [some '!', some '<', some '>', some '='] then none
    else if byteLength trimmed > byteLength before + 1 ∧
        trimmed[byteLength before + 1]? = some '=' then none
    else if before.getLast? ∈ [some '+', some '-', some '*', some '/', some '%', some '|',
        some '&', some '^'] then none
    else
      let varPart := trimChars ((beforeFirstOf [':'] before).getD before)
      if varPart.all (fun c => uc.isAlphanumeric c || c = '_') ∧ varPart ≠ [] then
        some (String.ofList varPart)
      else none

def pythonScopeLine (ctx : PythonScope) (line : String) : PythonScope :=
  let trimmed := trim line
  if startsWith trimmed "#" then ctx
  else if startsWith trimmed "global " then
    (declaredNames (afterStart "global " trimmed)).foldl PythonScope.addGlobal ctx
  else if startsWith trimmed "nonlocal " then
    (declaredNames (afterStart "nonlocal " trimmed)).foldl PythonScope.addNonlocal ctx
  else match pythonAssignedName uc trimmed.toList with
    | some name => ctx.addLocal name
    | none => ctx

def buildPythonScope (body : String) (parameters : List String) : PythonScope :=
  (lines body).foldl (pythonScopeLine uc) (PythonScope.new parameters)

/-! ### Mutation methods -/

def classifyPythonTarget (ctx : PythonScope) (target : String) : PythonMutationTarget :=
  if startsWith target "self." ∨ target = "self" then .selfAttribute
  else
    let baseName := trim (beforeFirst "[" (beforeFirst "." target))
    if baseName ∈ ctx.globalVars then .global
    else if baseName ∈ ctx.nonlocalVars then .nonlocal
    else if baseName ∈ ctx.parameters then .parameter
    else if ctx.isLocal baseName then .local
    else .unknown

/-- The loop of `extract_mutation_target` over the characters before the method, last one first. It
takes one or two characters a turn. At a closing bracket the counter is raised without a move, until
it overflows: no result. -/
def extractTargetChars : List Char → List Char → Option (List Char)
  | [], target => some target
  | [c], target =>
    if c = ')' ∨ c = ']' then none
    else if c = '.' ∨ c = '_' ∨ uc.isAlphanumeric c then some (c :: target)
    else some target
  | c :: prev :: rest, target =>
    if c = ')' ∨ c = ']' then none
    else if c = '.' ∨ c = '_' ∨ uc.isAlphanumeric c then
      if uc.isAlphanumeric prev ∨ prev = '_' ∨ prev = '.' ∨ prev = ')' ∨ prev = ']' then
        extractTargetChars rest (prev :: c :: target)
      else extractTargetChars (prev :: rest) (c :: target)
    else some target

def extractMutationTarget (expr : List Char) : Option String :=
  (extractTargetChars uc (trimChars expr).reverse []).map String.ofList

/-- The text `.method(`. -/
def methodPattern (method : String) : List Char := '.' :: method.toList ++ ['(']

/-- The loop of `detect_impure_mutation` over the mutation methods: the first one called on an
impure target. -/
def detectPythonMutation (ctx : PythonScope) (line : List Char) :
    List String → Option (Option (String × String × PythonMutationTarget))
  | [] => some none
  | method :: methods =>
    match beforeFirstOf (methodPattern method) line with
    | none => detectPythonMutation ctx line methods
    | some before =>
      match extractMutationTarget uc before with
      | none => none
      | some target =>
        let targetType := classifyPythonTarget ctx target
        if target ≠ "" ∧ targetType.isImpure then some (some (target, method, targetType))
        else detectPythonMutation ctx line methods

def detectImpureMutation (ctx : PythonScope) (line : String) :
    Option (Option (String × String × PythonMutationTarget)) :=
  let trimmed := trimChars line.toList
  if startsWith (String.ofList trimmed) "#" then some none
  else detectPythonMutation uc ctx trimmed Config.pythonMutationMethods

def pythonMutationCall : String × String × PythonMutationTarget → Option ImpureCall
  | (target, method, targetType) =>
    targetType.impurityReason.map fun reason =>
      ⟨target ++ "." ++ method, reason, target ++ "." ++ method⟩

def pythonMutations (ctx : PythonScope) : List String → Option (List ImpureCall)
  | [] => some []
  | line :: lines => do
    let found ← detectImpureMutation uc ctx line
    let others ← pythonMutations ctx lines
    return (found.bind pythonMutationCall).toList ++ others

/-! ### Calls -/

/-- The body contains a call of the function, alone or after a blank, a tab or a parenthesis. -/
def callsImpure (body func : String) : Bool :=
  contains body (func ++ "(") || contains body (" " ++ func ++ "(") ||
    contains body ("\t" ++ func ++ "(") || contains body ("(" ++ func ++ "(")

def pythonImpureCalls (body : String) : List ImpureCall :=
  (Config.pythonImpureFunctions.filter fun func =>
      func ∉ Config.pythonAcceptableImpure && callsImpure body func).map fun func =>
    ⟨func, "Truly impure function call: " ++ func, func⟩

/-- The words that are no function although a parenthesis follows. -/
def pythonKeywords : List String :=
  ["if", "else", "elif", "for", "while", "with", "try", "except", "finally", "def", "class",
   "return", "yield", "raise", "import", "from", "as", "in", "and", "or", "not", "is", "lambda",
   "pass", "break", "continue", "assert", "global", "nonlocal", "True", "False", "None"]

/-- A called name that is not collected: a keyword, or a function in one of the lists. -/
def skippedCall (name : String) : Bool :=
  name ∈ pythonKeywords ||
    Config.pythonPureFunctions.any (fun p => name = p || ("." ++ p).toList.isSuffixOf name.toList) ||
    name ∈ Config.pythonImpureFunctions || name ∈ Config.pythonAcceptableImpure

/-- `extract_function_calls`: the names directly followed by a parenthesis, method names apart. The
number bounds the turns of the loop, `prev` is the character before. -/
def extractFunctionCalls : Nat → Option Char → List Char → List String → List String
  | 0, _, _, calls => calls
  | _, _, [], calls => calls
  | turns + 1, prev, c :: cs, calls =>
    if uc.isAlphabetic c || c = '_' then
      let name := (c :: cs).takeWhile fun d => uc.isAlphanumeric d || d = '_'
      let rest := (c :: cs).dropWhile fun d => uc.isAlphanumeric d || d = '_'
      match rest with
      | '(' :: rest =>
        if prev = some '.' ∨ skippedCall (String.ofList name) then
          extractFunctionCalls turns (some '(') rest calls
        else
          let called := String.ofList name
          extractFunctionCalls turns (some '(') rest
            (if called ∈ calls then calls else calls ++ [called])
      | _ => extractFunctionCalls turns name.getLast? rest calls
    else extractFunctionCalls turns (some c) cs calls

def pythonUserCalls (calls : List String) (line : String) : List String :=
  let trimmed := trimChars line.toList
  if startsWith (String.ofList trimmed) "#" then calls
  else extractFunctionCalls uc trimmed.length none trimmed calls

/-- `analyze_function_body_with_params`; no result if the target of a mutation method cannot be
extracted. -/
def analyzePythonBody (body : String) (parameters : List String) : Option BodyAnalysis := do
  let ctx := buildPythonScope uc body parameters
  let mutations ← pythonMutations uc ctx (lines body)
  let impureCalls := mutations ++ pythonImpureCalls body
  let userCalls := (lines body).foldl (pythonUserCalls uc) []
  return ⟨impureCalls.isEmpty, impureCalls, userCalls⟩

/-! ### Bodies without calls -/

theorem detectPythonMutation_silent (ctx : PythonScope) {line : List Char} (absent : '(' ∉ line) :
    ∀ methods, detectPythonMutation uc ctx line methods = some none
  | [] => rfl
  | method :: methods => by
    have needed : '(' ∈ methodPattern method := by simp [methodPattern]
    rw [detectPythonMutation, beforeFirstOf_eq_none needed absent]
    exact detectPythonMutation_silent ctx absent methods

theorem detectImpureMutation_silent (ctx : PythonScope) {line : String}
    (absent : '(' ∉ line.toList) : detectImpureMutation uc ctx line = some none := by
  have quiet := detectPythonMutation_silent uc ctx
    (fun here => absent (mem_of_mem_trimChars here)) Config.pythonMutationMethods
  simp [detectImpureMutation, quiet, ite_self]

theorem pythonMutations_silent (ctx : PythonScope) :
    ∀ lines : List String, (∀ line ∈ lines, '(' ∉ line.toList) →
      pythonMutations uc ctx lines = some []
  | [], _ => rfl
  | line :: lines, absent => by
    rw [pythonMutations, detectImpureMutation_silent uc ctx (absent line (.head _)),
      pythonMutations_silent ctx lines fun other mem =>
        absent other (.tail _ mem)]
    rfl

theorem pythonImpureCalls_silent {body : String} (absent : '(' ∉ body.toList) :
    pythonImpureCalls body = [] := by
  unfold pythonImpureCalls
  rw [List.map_eq_nil_iff, List.filter_eq_nil_iff]
  intro func _
  have quiet : ∀ start : String, contains body (start ++ "(") = false := fun start =>
    contains_eq_false (by simp) absent
  simp [callsImpure, quiet]

theorem analyzePythonBody_silent {body : String} (params : List String)
    (absent : '(' ∉ body.toList) :
    ∃ result, analyzePythonBody uc body params = some result ∧ result.impureCalls = [] ∧
      result.isPure = true := by
  have mutations := pythonMutations_silent uc (buildPythonScope uc body params)
    (lines body) fun line mem here => absent (mem_of_mem_lines mem here).1
  refine ⟨⟨true, [], (lines body).foldl (pythonUserCalls uc) []⟩, ?_, rfl, rfl⟩
  simp [analyzePythonBody, mutations, pythonImpureCalls_silent absent]

end Python

end Detrix.Lsp
