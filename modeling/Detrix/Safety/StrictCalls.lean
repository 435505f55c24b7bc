/-
**What strict mode guarantees about calls.**

In strict mode every call node of an accepted expression, wherever it stands in the tree, is a call
of a whitelisted function. A function that is only referenced, as the argument of a higher-order
function say, is recorded as a variable access and not looked up, and the arguments of a Rust macro
are raw tokens without call nodes.

- `callee_mem_callees`: a node in callee position is among the callees of the tree.
- `strict_calls_whitelisted`: the guarantee, for Python and Rust.
-/

import Detrix.Safety.Policy

namespace Detrix.Safety

open Detrix.Core Library List
open Library.SyntaxTree (Node Place places)

def defaultValidator (l : Language) : ValidatorData :=
  (SafetyConfig.default l).validator l

/-! ### Callee positions -/

theorem callee_mem_callees {root : Node PythonKind Field} {p : Place PythonKind Field}
    (mem : p ∈ places root) (callee : isCallee .call p = true) :
    p.text ∈ Language.python.callees root := by
  simp only [isCallee, Bool.and_eq_true, decide_eq_true_eq] at callee
  obtain ⟨underCall, atField⟩ := callee
  cases path : p.ancestors with
  | nil => simp [Place.isFieldOfParent, path] at atField
  | cons top above =>
    obtain ⟨q, index⟩ := top
    simp only [Place.isFieldOfParent, path, decide_eq_true_eq] at atField
    simp only [Place.parentKind, Place.parent, path, Option.map_some, Option.some.injEq,
      Place.kind] at underCall
    obtain ⟨parentInside, child⟩ := SyntaxTree.parent_mem_places mem path
    refine mem_filterMap.mpr ⟨⟨q, above⟩, parentInside, ?_⟩
    show pythonCallee q = some p.text
    rw [pythonCallee, underCall]
    rw [SyntaxTree.childByField_of_fieldIndex atField child]
    rfl

/-- A Python identifier or attribute chain that names a prohibited function, whitelisted neither
itself nor by its base name. -/
def namesProhibited (v : ValidatorData) (p : Place PythonKind Field) : Bool :=
  (p.kind = .identifier || p.kind = .attributeExpr) && p.text ∈ v.prohibitedFunctions &&
    p.text ∉ v.allowedFunctions && Language.python.extractBaseName p.text ∉ v.allowedFunctions

theorem strictAllows_of_accepted {rt : Runtime} {l : Language} {v : ValidatorData}
    {tree : Parsed l} (ok : (validate rt l v .strict (some tree)).isSafe = true)
    {func : String} (called : func ∈ l.callees tree.root) :
    strictAllows l v.allowedFunctions func = true := by
  have admitted := ((validate_isSafe_iff rt l v .strict tree).mp ok).2.calls func called
  simpa [callAdmitted] using (Bool.and_eq_true_iff.mp admitted).2

/-- **Calls in strict mode.** In an accepted Python expression no prohibited name stands in callee
position, wherever the call is; in an accepted Rust expression every call, method call and macro
invocation is of a whitelisted function. -/
theorem strict_calls_whitelisted (rt : Runtime) :
    (∀ tree : Parsed .python,
        (validate rt .python (defaultValidator .python) .strict (some tree)).isSafe = true →
        ∀ p ∈ places tree.root, namesProhibited (defaultValidator .python) p = true →
          isCallee PythonKind.call p = false) ∧
      ∀ tree : Parsed .rust,
        (validate rt .rust (defaultValidator .rust) .strict (some tree)).isSafe = true →
        ∀ func ∈ Language.rust.callees tree.root,
          func ∈ (defaultValidator .rust).allowedFunctions ∨
            ∃ name ∈ extractRustBaseName func,
              name ∈ (defaultValidator .rust).allowedFunctions := by
  constructor
  · intro tree ok p mem named
    by_contra callee
    have allowed := strictAllows_of_accepted ok
      (callee_mem_callees mem (eq_true_of_ne_false callee))
    simp only [namesProhibited, Bool.and_eq_true, decide_eq_true_eq] at named
    obtain ⟨⟨-, notItself⟩, notBase⟩ := named
    simp only [strictAllows, Bool.or_eq_true, decide_eq_true_eq, any_eq_true] at allowed
    rcases allowed with itself | ⟨name, extracted, base⟩
    · exact notItself itself
    · rw [mem_singleton.mp extracted] at base
      exact notBase base
  · intro tree ok func called
    have allowed := strictAllows_of_accepted ok called
    simpa only [strictAllows, Language.extractBase, Bool.or_eq_true, decide_eq_true_eq,
      any_eq_true] using allowed

/-! ### Names that are not called, and macro arguments -/

/-- The tree of the Python expression `map(eval, xs)`. -/
def mapEval : Node PythonKind Field :=
  .mk (.other "module") none "map(eval, xs)"
    [.mk (.other "expression_statement") none "map(eval, xs)"
      [.mk .call none "map(eval, xs)"
        [.mk .identifier (some .function) "map" [],
         .mk (.other "argument_list") (some (.other "arguments")) "(eval, xs)"
          [.mk (.other "(") none "(" [], .mk .identifier none "eval" [],
           .mk (.other ",") none "," [], .mk .identifier none "xs" [],
           .mk (.other ")") none ")" []]]]]

/-- The function paths in a list of raw tokens that a parenthesised group follows. -/
def tokenCallees : String → List (Node RustKind Field) → List String
  | _, [] => []
  | path, n :: rest =>
    if n.kind = .identifier ∨ n.text = "::" then tokenCallees (path ++ n.text) rest
    else if path ≠ "" ∧ n.kind = .other "token_tree" ∧ Text.startsWith n.text "(" then
      path :: tokenCallees "" rest
    else tokenCallees "" rest

/-- The tree of the Rust expression `println!("\x7b\x7d", std::process::exit(1))` in its wrapper. -/
def printlnExit : Node RustKind Field :=
  .mk (.other "source_file") none
    "fn main() \x7b let _ = println!(\"\x7b\x7d\", std::process::exit(1)); \x7d"
    [.mk .functionItem none
      "fn main() \x7b let _ = println!(\"\x7b\x7d\", std::process::exit(1)); \x7d"
      [.mk (.other "fn") none "fn" [],
       .mk .identifier (some .name) "main" [],
       .mk (.other "parameters") (some (.other "parameters")) "()" [],
       .mk (.other "block") (some (.other "body"))
        "\x7b let _ = println!(\"\x7b\x7d\", std::process::exit(1)); \x7d"
        [.mk .letDeclaration none "let _ = println!(\"\x7b\x7d\", std::process::exit(1));"
          [.mk (.other "let") none "let" [],
           .mk (.other "_") (some (.other "pattern")) "_" [],
           .mk (.other "=") none "=" [],
           .mk .macroInvocation (some (.other "value"))
            "println!(\"\x7b\x7d\", std::process::exit(1))"
            [.mk .identifier (some .macroName) "println" [],
             .mk (.other "!") none "!" [],
             .mk (.other "token_tree") none "(\"\x7b\x7d\", std::process::exit(1))"
              [.mk (.other "(") none "(" [],
               .mk (.other "string_literal") none "\"\x7b\x7d\"" [],
               .mk (.other ",") none "," [],
               .mk .identifier none "std" [], .mk (.other "::") none "::" [],
               .mk .identifier none "process" [], .mk (.other "::") none "::" [],
               .mk .identifier none "exit" [],
               .mk (.other "token_tree") none "(1)"
                [.mk (.other "(") none "(" [], .mk (.other "integer_literal") none "1" [],
                 .mk (.other ")") none ")" []],
               .mk (.other ")") none ")" []]],
           .mk (.other ";") none ";" []]]]]

theorem mapEval_accepted :
    (validate .ascii .python (defaultValidator .python) .strict
      (some ⟨mapEval, false⟩)).isSafe = true := by
  refine (validate_isSafe_iff _ _ _ _ _).mpr ⟨rfl, ?_⟩
  decide +kernel

theorem mapEval_namesProhibited :
    ∃ p ∈ places mapEval, namesProhibited (defaultValidator .python) p = true := by
  decide +kernel

theorem printlnExit_accepted :
    (validate .ascii .rust (defaultValidator .rust) .strict
      (some ⟨printlnExit, false⟩)).isSafe = true := by
  refine (validate_isSafe_iff _ _ _ _ _).mpr ⟨rfl, (accepts_iff_tests _ _ _ _ _).mpr ⟨?_, ?_, ?_⟩⟩
  · decide +kernel
  · decide +kernel
  · decide +kernel

/-- Strict mode accepts `map(eval, xs)`, which passes a prohibited function on, and a macro whose
arguments call one that is not whitelisted. -/
theorem references_and_macro_arguments_accepted :
    ((validate .ascii .python (defaultValidator .python) .strict
        (some ⟨mapEval, false⟩)).isSafe = true ∧
      ∃ p ∈ places mapEval, namesProhibited (defaultValidator .python) p = true) ∧
    (validate .ascii .rust (defaultValidator .rust) .strict
        (some ⟨printlnExit, false⟩)).isSafe = true ∧
      ∃ p ∈ places printlnExit, p.kind = RustKind.other "token_tree" ∧
        ∃ func ∈ tokenCallees "" p.node.children,
          strictAllows .rust (defaultValidator .rust).allowedFunctions func = false :=
  ⟨⟨mapEval_accepted, mapEval_namesProhibited⟩, printlnExit_accepted, by decide +kernel⟩

/-- The guarantee at these two expressions: `eval` is not called, `println` is whitelisted. -/
theorem strict_calls_whitelisted_mapEval_printlnExit :
    (∃ p ∈ places mapEval, namesProhibited (defaultValidator .python) p = true ∧
        isCallee PythonKind.call p = false) ∧
      ∀ func ∈ Language.rust.callees printlnExit,
        func ∈ (defaultValidator .rust).allowedFunctions ∨
          ∃ name ∈ extractRustBaseName func, name ∈ (defaultValidator .rust).allowedFunctions := by
  obtain ⟨p, mem, named⟩ := mapEval_namesProhibited
  exact ⟨⟨p, mem, named, (strict_calls_whitelisted .ascii).1 ⟨mapEval, false⟩ mapEval_accepted p
      mem named⟩,
    (strict_calls_whitelisted .ascii).2 ⟨printlnExit, false⟩ printlnExit_accepted⟩

end Detrix.Safety
