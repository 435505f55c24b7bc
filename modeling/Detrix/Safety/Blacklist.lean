/-
**When a blacklisted call is refused.**

A call is blacklisted when its callee, with the type arguments of a turbofish taken off, is in the
prohibited set and the callee itself is not in the allowed set. The classifier looks the callee up
under its base name too, and the whitelist is asked first, so a whitelisted method name shadows a
blacklisted qualified function.

- `callAdmitted_of_prohibited`: a blacklisted call is admitted exactly when it is shadowed.
- `prohibited_call_refused_iff`: an expression with a blacklisted call is refused exactly when one
  of these calls is not shadowed, or the expression is refused for another reason.
-/

import Detrix.Safety.Policy

namespace Detrix.Safety

open Detrix.Core Library
open Library.SyntaxTree (Node Place places)

/-! ### Blacklisted calls -/

/-- The characters without the bracketed type arguments of a turbofish; the number counts the
brackets that are open. The arrow of a function type closes none. -/
def dropTurbofish : Nat → List Char → List Char
  | _, [] => []
  | 0, ':' :: ':' :: '<' :: rest => dropTurbofish 1 rest
  | 0, c :: rest => c :: dropTurbofish 0 rest
  | depth + 1, '-' :: '>' :: rest => dropTurbofish (depth + 1) rest
  | depth + 1, '<' :: rest => dropTurbofish (depth + 2) rest
  | depth + 1, '>' :: rest => dropTurbofish depth rest
  | depth + 1, _ :: rest => dropTurbofish (depth + 1) rest

/-- The callee without type arguments. Only Rust has a turbofish. -/
def Language.withoutTypeArguments : Language → String → String
  | .python, func | .go, func => func
  | .rust, func => String.ofList (dropTurbofish 0 func.toList)

example : Language.rust.withoutTypeArguments "parse::<Vec<u8>>" = "parse" := by decide

section Blacklist

variable (rt : Runtime) (l : Language) (v : ValidatorData)

def prohibitedCall (func : String) : Bool :=
  l.withoutTypeArguments func ∈ v.prohibitedFunctions && func ∉ v.allowedFunctions

def CallsProhibited (root : Node l.Kind Field) : Prop :=
  ∃ func ∈ l.callees root, prohibitedCall l v func = true

/-- **A name that hides a callee from the blacklist.** In Python and Go its base name is
whitelisted. In Rust the base name is whitelisted, or the turbofish keeps the callee and its base
name out of the blacklist; in strict mode one of the extracted names is whitelisted as well. -/
def shadowed (level : SafetyLevel) (func : String) : Bool :=
  match l with
  | .python | .go => l.extractBaseName func ∈ v.allowedFunctions
  | .rust =>
    (level ≠ .strict || (extractRustBaseName func).any (· ∈ v.allowedFunctions)) &&
      (l.extractBaseName func ∈ v.allowedFunctions ||
        (!blacklisted l v func && !mentionsVariable (unknownWarning func)))

theorem callAdmitted_of_prohibited {func : String} (prohibited : prohibitedCall l v func = true)
    (level : SafetyLevel) : callAdmitted l v level func = shadowed l v level func := by
  simp only [prohibitedCall, Bool.and_eq_true, decide_eq_true_eq] at prohibited
  obtain ⟨listed, out⟩ := prohibited
  have simple : ∀ base, l.extractBaseName func = base → l.extractBase func = [base] →
      func ∈ v.prohibitedFunctions →
      callAdmitted l v level func = decide (base ∈ v.allowedFunctions) := by
    intro base same names inList
    by_cases shadow : base ∈ v.allowedFunctions
    · simp [callAdmitted, classifierAdmits, whitelisted, strictAllows, same, names, shadow]
    · simp [callAdmitted, classifierAdmits, whitelisted, blacklisted, same, out, shadow, inList]
  cases l with
  | python | go => exact simple _ rfl rfl listed
  | rust =>
    unfold callAdmitted classifierAdmits whitelisted shadowed strictAllows Language.extractBase
    simp only [decide_eq_false out, Bool.false_or]
    exact Bool.and_comm _ _

/-- The expression is refused, blacklisted calls apart: a syntax error, a statement, a call that is
not blacklisted and not admitted, or a variable that may not be shown. -/
def RefusedOtherwise (level : SafetyLevel) (tree : Parsed l) : Prop :=
  tree.hasError = true ∨ (∃ p ∈ places tree.root, l.isStatement p = true) ∨
    (∃ func ∈ l.callees tree.root, prohibitedCall l v func = false ∧
      callAdmitted l v level func = false) ∨
    ∃ p ∈ places tree.root, l.shows p = true ∧ mayShow rt l v p.text = false

/-- A refusal has a blacklisted call that is not shadowed, or another reason. -/
theorem refused_iff (level : SafetyLevel) (tree : Parsed l) :
    (validate rt l v level (some tree)).isSafe = false ↔
      (∃ func ∈ l.callees tree.root, prohibitedCall l v func = true ∧
        shadowed l v level func = false) ∨
      RefusedOtherwise rt l v level tree := by
  have calls : (∃ func ∈ l.callees tree.root, callAdmitted l v level func = false) ↔
      (∃ func ∈ l.callees tree.root, prohibitedCall l v func = true ∧ shadowed l v level func = false) ∨
        ∃ func ∈ l.callees tree.root, prohibitedCall l v func = false ∧
          callAdmitted l v level func = false := by
    constructor
    · rintro ⟨func, called, no⟩
      cases prohibited : prohibitedCall l v func with
      | true =>
        rw [callAdmitted_of_prohibited l v prohibited level] at no
        exact .inl ⟨func, called, prohibited, no⟩
      | false => exact .inr ⟨func, called, prohibited, no⟩
    · rintro (⟨func, called, prohibited, unshadowed⟩ | ⟨func, called, -, no⟩)
      · exact ⟨func, called, (callAdmitted_of_prohibited l v prohibited level).trans unshadowed⟩
      · exact ⟨func, called, no⟩
  rw [validate_refuses_iff, calls, RefusedOtherwise]
  simp [or_assoc, or_left_comm]

end Blacklist

/-- **Blacklisted calls and refusal**, for every configuration: an expression that contains one is
refused exactly when one of them is not shadowed or it is refused for another reason. -/
theorem prohibited_call_refused_iff (rt : Runtime) (l : Language) (config : SafetyConfig)
    (level : SafetyLevel) (tree : Parsed l) :
    (CallsProhibited l (config.validator l) tree.root →
        (validate rt l (config.validator l) level (some tree)).isSafe = false) ↔
      (CallsProhibited l (config.validator l) tree.root →
        (∃ func ∈ l.callees tree.root, prohibitedCall l (config.validator l) func = true ∧
          shadowed l (config.validator l) level func = false) ∨
        RefusedOtherwise rt l (config.validator l) level tree) :=
  imp_congr_right fun _ => refused_iff rt l (config.validator l) level tree

/-- The tree of the Python expression `shutil.copy(a, b)`. -/
def shutilCopy : Node PythonKind Field :=
  .mk (.other "module") none "shutil.copy(a, b)"
    [.mk (.other "expression_statement") none "shutil.copy(a, b)"
      [.mk .call none "shutil.copy(a, b)"
        [.mk .attributeExpr (some .function) "shutil.copy"
          [.mk .identifier (some (.other "object")) "shutil" [],
           .mk (.other ".") none "." [],
           .mk .identifier (some .attributeName) "copy" []],
         .mk (.other "argument_list") (some (.other "arguments")) "(a, b)"
          [.mk (.other "(") none "(" [], .mk .identifier none "a" [],
           .mk (.other ",") none "," [], .mk .identifier none "b" [],
           .mk (.other ")") none ")" []]]]]

/-- `shutil.copy` is blacklisted by default, but its base name is whitelisted: the call is
accepted, in strict mode too. -/
theorem shutil_copy_accepted :
    CallsProhibited .python ((SafetyConfig.default .python).validator .python) shutilCopy ∧
      ∀ level, (validate .ascii .python ((SafetyConfig.default .python).validator .python) level
        (some ⟨shutilCopy, false⟩)).isSafe = true := by
  refine ⟨⟨"shutil.copy", by decide, by decide +kernel⟩, fun level =>
    (validate_isSafe_iff _ _ _ level _).mpr ⟨rfl, Accepts.of_strict ?_ level⟩⟩
  decide +kernel

end Detrix.Safety
