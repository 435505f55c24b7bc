/-
**The analysis of a Go function body.**

A pass over the lines builds the scope context; a second one searches each line with regular
expressions for calls, mutation methods, assignments to fields and elements, and for increments and
assignments of a variable at the beginning of the line. Every finding on a target that is not local
is an impure call.

- `buildGoScope_signature`: the pass over the lines keeps the parameters and the receiver.
- `analyzeGoBody_reports`: a finding in one line makes the analysis report an impure call.
-/

import Detrix.Library.Regex
import Detrix.Lsp.PythonBody

namespace Detrix.Lsp

open Detrix.Core Library Text List
open Library.Regex (Rx)

/-! ### The patterns -/

/-- `[a-zA-Z_]`. -/
def idStart (c : Char) : Bool :=
  (97 ≤ c.toNat && c.toNat ≤ 122) || (65 ≤ c.toNat && c.toNat ≤ 90) || c.toNat = 95

/-- `[a-zA-Z0-9_]`. -/
def idChar (c : Char) : Bool := idStart c || (48 ≤ c.toNat && c.toNat ≤ 57)

/-- `[a-zA-Z_][a-zA-Z0-9_]*`. -/
def identifierRx : Rx := .seq (.one idStart) (.many idChar)

/-- `\s*`. -/
def blanksRx : Rx := .many isWhitespace

def charRx (c : Char) : Rx := .one fun d => d = c

/-- `\[[^\]]*\]`. -/
def indexRx : Rx := .seq (charRx '[') (.seq (.many fun d => d ≠ ']') (charRx ']'))

/-- `\+\+|--`. -/
def incrDecrRx : Rx :=
  .alt (.seq (charRx '+') (charRx '+')) (.seq (charRx '-') (charRx '-'))

/-- Function calls: `package.Function(` or `Function(`. -/
def goCallPattern : Rx :=
  .seq (.group (.seq identifierRx (.rep (.seq (charRx '.') identifierRx))))
    (.seq blanksRx (charRx '('))

/-- Method calls: `target.Method(`. -/
def goMethodPattern : Rx :=
  .seq (.group identifierRx) (.seq blanksRx (.seq (charRx '.') (.seq blanksRx
    (.seq (.group identifierRx) (.seq blanksRx (charRx '('))))))

/-- Field assignments: `target.field = value` or `target.field[index] = value`. -/
def fieldAssignPattern : Rx :=
  .seq (.group identifierRx) (.seq blanksRx (.seq (charRx '.') (.seq blanksRx
    (.seq identifierRx (.seq (.opt indexRx) (.seq blanksRx (charRx '=')))))))

/-- Element assignments: `target[index] = value`. -/
def indexAssignPattern : Rx :=
  .seq (.group identifierRx) (.seq blanksRx (.seq indexRx (.seq blanksRx (charRx '='))))

/-- Field increments: `target.field++` or `target.field--`. -/
def fieldIncrDecrPattern : Rx :=
  .seq (.group identifierRx) (.seq blanksRx (.seq (charRx '.') (.seq blanksRx
    (.seq identifierRx (.seq blanksRx (.group incrDecrRx))))))

def directIncrDecrPattern : Rx :=
  .seq blanksRx (.seq (.group identifierRx) (.seq blanksRx (.group incrDecrRx)))

/-- Assignments of a variable at the beginning of the line, augmented by `+`, `-`, `*` or `/`. -/
def directAssignPattern : Rx :=
  .seq blanksRx (.seq (.group identifierRx) (.seq blanksRx
    (.seq (.opt (.one fun c => c ∈ ['+', '-', '*', '/'])) (.seq (charRx '=')
      (.seq blanksRx (.one fun c => c ≠ '='))))))

/-! ### The scope pass -/

/-- One line of the scope pass: `name := value` and `var name`. -/
def goScopeLine (ctx : GoScope) (line : String) : GoScope :=
  let trimmed := trim line
  if startsWith trimmed "//" then ctx
  else
    let ctx := match beforeFirstOf [':', '='] trimmed.toList with
      | some lhs =>
        (((splitChars ',' (trimChars lhs)).map trimChars).filter fun var =>
          var ≠ [] && '.' ∉ var).foldl (fun ctx var => ctx.addLocal (String.ofList var)) ctx
      | none => ctx
    if startsWith trimmed "var " then
      let rest := (trimmed.toList.drop 4).dropWhile isWhitespace
      let word := rest.takeWhile fun c => !isWhitespace c
      let name := (word.reverse.dropWhile fun c => c = ',').reverse
      if name ≠ [] then ctx.addLocal (String.ofList name) else ctx
    else ctx

def buildGoScope (body : String) (parameters : List String) (receiver : Option String) : GoScope :=
  (lines body).foldl goScopeLine (GoScope.new parameters receiver)

/-! ### The findings of one line -/

def firstGroups (pattern : Rx) (line : List Char) : List String :=
  (Regex.captures pattern line).filterMap fun groups => groups.head?.map String.ofList

/-- The impure call of a mutation of `target`, unless it is local. -/
def goTargetCall (ctx : GoScope) (target name : String) : Option ImpureCall :=
  (ctx.classify target).impurityReason.map fun reason => ⟨name, reason, ""⟩

def isGoPureFunction (name : String) : Bool :=
  name ∈ Config.goPureFunctions || name ∈ Config.goAcceptableImpure

def goKnownImpure (line : List Char) : List ImpureCall :=
  ((firstGroups goCallPattern line).filter (· ∈ Config.goImpureFunctions)).map fun func =>
    ⟨func, "Known impure function", ""⟩

def goUserCalls (line : List Char) : List String :=
  (firstGroups goCallPattern line).filter fun func =>
    func ∉ Config.goImpureFunctions && !isGoPureFunction func &&
      !startsWith func "fmt." && !startsWith func "log." &&
      !startsWith func "math." && !startsWith func "strings."

def goMethodCalls (ctx : GoScope) (line : List Char) : List ImpureCall :=
  (Regex.captures goMethodPattern line).filterMap fun groups =>
    match groups with
    | [target, method] =>
      let target := String.ofList target
      let method := String.ofList method
      if method ∈ Config.goReceiverMutationMethods ∨ method ∈ Config.goMutationOperations then
        goTargetCall ctx target (target ++ "." ++ method)
      else none
    | _ => none

/-- The mutations that a pattern finds in the line, each named with a label. -/
def goTargetCalls (pattern : Rx) (label : String) (ctx : GoScope) (line : List Char) :
    List ImpureCall :=
  (firstGroups pattern line).filterMap fun target =>
    goTargetCall ctx target (target ++ " (" ++ label ++ ")")

/-- The variable that a pattern finds at the beginning of the line. -/
def leadingVariable (pattern : Rx) (line : List Char) : Option String :=
  (Regex.matchHere pattern line).bind fun m => m.2.head?.map String.ofList

def checkDirectMutation (ctx : GoScope) (trimmed : List Char) : Option ImpureCall :=
  (leadingVariable directIncrDecrPattern trimmed).bind fun name =>
    goTargetCall ctx name (name ++ " (direct increment/decrement)")

/-- `check_direct_assignment`: `err` and the blank are taken for local variables. -/
def checkDirectAssignment (ctx : GoScope) (trimmed : List Char) : Option ImpureCall :=
  (leadingVariable directAssignPattern trimmed).bind fun name =>
    if name = "err" ∨ name = "_" then none
    else goTargetCall ctx name (name ++ " (direct assignment)")

def goLineImpure (ctx : GoScope) (line : String) : List ImpureCall :=
  let chars := line.toList
  let trimmed := trimChars chars
  if startsWith (String.ofList trimmed) "//" then []
  else
    goKnownImpure chars ++ goMethodCalls ctx chars ++
      goTargetCalls fieldAssignPattern "field assignment" ctx chars ++
      goTargetCalls indexAssignPattern "index assignment" ctx chars ++
      goTargetCalls fieldIncrDecrPattern "field increment/decrement" ctx chars ++
      (checkDirectMutation ctx trimmed).toList ++
      (if occurs [':', '='] trimmed then []
        else (checkDirectAssignment ctx trimmed).toList)

def goLineUserCalls (line : String) : List String :=
  if startsWith (trim line) "//" then [] else goUserCalls line.toList

/-- `analyze_function_body_with_params`. -/
def analyzeGoBody (body : String) (parameters : List String) (receiver : Option String) :
    BodyAnalysis :=
  let ctx := buildGoScope body parameters receiver
  let impureCalls := (lines body).flatMap (goLineImpure ctx)
  ⟨impureCalls.isEmpty, impureCalls, (lines body).flatMap goLineUserCalls⟩

/-! ### The scope pass keeps the signature -/

def GoScope.SameSignature (a b : GoScope) : Prop :=
  a.parameters = b.parameters ∧ a.receiver = b.receiver

theorem addLocal_sameSignature (ctx : GoScope) (name : String) :
    (ctx.addLocal name).SameSignature ctx := by
  unfold GoScope.addLocal
  split <;> exact ⟨rfl, rfl⟩

theorem foldl_sameSignature {α : Type} {step : GoScope → α → GoScope}
    (keeps : ∀ ctx a, (step ctx a).SameSignature ctx) (items : List α) (ctx : GoScope) :
    (items.foldl step ctx).SameSignature ctx :=
  foldlRecOn (motive := (GoScope.SameSignature · ctx)) items step ⟨rfl, rfl⟩ fun now same item _ =>
    ⟨(keeps now item).1.trans same.1, (keeps now item).2.trans same.2⟩

theorem goScopeLine_sameSignature (ctx : GoScope) (line : String) :
    (goScopeLine ctx line).SameSignature ctx := by
  have inner : ∀ names : List (List Char),
      (names.foldl (fun ctx var => ctx.addLocal (String.ofList var)) ctx).SameSignature ctx :=
    fun names => foldl_sameSignature (fun ctx var => addLocal_sameSignature ctx _) names ctx
  have outer : ∀ (other : GoScope) (name : String), other.SameSignature ctx →
      (other.addLocal name).SameSignature ctx := fun other name same =>
    ⟨(addLocal_sameSignature other name).1.trans same.1,
      (addLocal_sameSignature other name).2.trans same.2⟩
  simp only [goScopeLine]
  repeat' split
  all_goals first | exact ⟨rfl, rfl⟩ | exact inner _ | exact outer _ _ (inner _) |
    exact outer _ _ ⟨rfl, rfl⟩

theorem buildGoScope_signature (body : String) (params : List String)
    (receiver : Option String) :
    (buildGoScope body params receiver).parameters = params ∧
      (buildGoScope body params receiver).receiver = receiver :=
  foldl_sameSignature goScopeLine_sameSignature (lines body) (GoScope.new params receiver)

/-! ### Findings are reported -/

theorem goTargetCall_isSome {ctx : GoScope} {target : String} (out : ctx.isLocal target = false)
    (name : String) : (goTargetCall ctx target name).isSome = true := by
  have notLocal : ctx.classify target ≠ .local := by
    rw [ne_eq, GoScope.classify_eq_local, out]
    exact Bool.false_ne_true
  cases kind : ctx.classify target <;>
    simp_all [goTargetCall, GoMutationTarget.impurityReason]

theorem goTargetCalls_ne_nil {pattern : Rx} {label : String} {ctx : GoScope} {line : List Char}
    {target : String} (captured : target ∈ firstGroups pattern line)
    (out : ctx.isLocal target = false) : goTargetCalls pattern label ctx line ≠ [] := by
  obtain ⟨call, found⟩ := Option.isSome_iff_exists.mp
    (goTargetCall_isSome out (target ++ " (" ++ label ++ ")"))
  exact ne_nil_of_mem (mem_filterMap.mpr ⟨target, captured, found⟩)

theorem analyzeGoBody_reports {body line : String} {params : List String}
    {receiver : Option String} (mem : line ∈ lines body)
    (found : goLineImpure (buildGoScope body params receiver) line ≠ []) :
    (analyzeGoBody body params receiver).impureCalls ≠ [] := by
  obtain ⟨call, member⟩ := exists_mem_of_ne_nil _ found
  exact ne_nil_of_mem (mem_flatMap.mpr ⟨line, mem, member⟩)

end Detrix.Lsp
