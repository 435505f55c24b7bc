/-
**The analysis of a Rust function body.**

The scope context collects `let` bindings, mutable parameters and statics; a body with an unsafe
block is impure, and each line is searched with regular expressions for calls, mutation methods and
assignments through a dereferenced name.

- `analyzeRustBody_reports`: a finding in one line makes the analysis report an impure call.
- `buildRustScope_mutableParameters`: the pass over the lines keeps the mutable parameters.
-/

import Detrix.Lsp.GoBody

namespace Detrix.Lsp

open Detrix.Core Library Text RustScope List
open Library.Regex (Rx)
open Library.Text (Unicode)

/-! ### The patterns -/

/-- Function calls: `path::function(` or `function<`. -/
def rustCallPattern : Rx :=
  .seq (.group (.seq identifierRx
      (.rep (.seq (charRx ':') (.seq (charRx ':') identifierRx)))))
    (.seq blanksRx (.one fun c => c = '(' || c = '<'))

/-- Method calls: `target.method(`. -/
def rustMethodPattern : Rx := goMethodPattern

/-- Assignments through a dereference: `*var = …` or `*var op= …`. -/
def rustDerefPattern : Rx :=
  .seq (charRx '*') (.seq (.group identifierRx) (.seq blanksRx
    (.seq (.opt (.one fun c => c ∈ ['+', '-', '*', '/', '%', '&', '|'])) (charRx '='))))

variable {body : String}

section Rust

variable (uc : Unicode)

/-! ### The scope pass -/

/-- The text without any leading `mut `. -/
def dropMut : List Char → List Char
  | 'm' :: 'u' :: 't' :: ' ' :: rest => dropMut rest
  | text => text

/-- The name that a `let` line binds. -/
def letName (trimmed : List Char) : List Char :=
  let rest := dropMut (trimmed.drop 4)
  let beforeType := (beforeFirstOf [':'] rest).getD rest
  trimChars ((beforeFirstOf ['='] beforeType).getD beforeType)

/-- The static named in a line, from the text `STATIC_` on. -/
def staticName (trimmed : List Char) : Option (List Char) :=
  (beforeFirstOf "STATIC_".toList trimmed).map fun before =>
    (trimmed.drop before.length).takeWhile fun c => uc.isAlphanumeric c || c = '_'

def rustScopeLine (ctx : RustScope) (line : String) : RustScope :=
  let trimmed := trimChars line.toList
  if startsWith (String.ofList trimmed) "//" then ctx
  else
    let ctx :=
      if startsWith (String.ofList trimmed) "let " then
        let name := letName trimmed
        if name ≠ [] ∧ name.head? ≠ some '_' then ctx.addLocal (String.ofList name) else ctx
      else ctx
    match staticName uc trimmed with
    | some name => if name ≠ [] then ctx.addStatic (String.ofList name) else ctx
    | none => ctx

def buildRustScope (body : String) (parameters mutParameters : List String) (isMutSelf : Bool) :
    RustScope :=
  (lines body).foldl (rustScopeLine uc)
    (mutParameters.foldl addMutParameter (new parameters isMutSelf))

/-! ### The findings of one line -/

/-- `name` ends with `pattern` at the beginning or after one of the separators. -/
def endsAtBoundary (separators : List String) (name pattern : List Char) : Bool :=
  pattern.isSuffixOf name &&
    (name.length = pattern.length ||
      separators.any fun sep => sep.toList.isSuffixOf (name.take (name.length - pattern.length)))

def isRustImpureFunction (name : String) : Bool :=
  Config.rustImpureFunctions.any fun p => endsAtBoundary ["::"] p.toList name.toList

def isRustPureFunction (name : String) : Bool :=
  (Config.rustPureFunctions ++ Config.rustAcceptableImpure).any fun p =>
    endsAtBoundary ["::", "."] name.toList p.toList

/-- The impure call of a mutation of `target`, unless it is local. -/
def rustTargetCall (ctx : RustScope) (target name : String) : Option ImpureCall :=
  (ctx.classify target).impurityReason.map fun reason => ⟨name, reason, ""⟩

def rustKnownImpure (line : List Char) : List ImpureCall :=
  ((firstGroups rustCallPattern line).filter isRustImpureFunction).map fun func =>
    ⟨func, "Known impure function", ""⟩

def rustUserCalls (line : List Char) : List String :=
  (firstGroups rustCallPattern line).filter fun func =>
    !isRustImpureFunction func && !isRustPureFunction func && !contains func "::" &&
      (func.toList.head?.map uc.isLowercase).getD false

def rustMethodCalls (ctx : RustScope) (line : List Char) : List ImpureCall :=
  (Regex.captures rustMethodPattern line).filterMap fun groups =>
    match groups with
    | [target, method] =>
      let target := String.ofList target
      let method := String.ofList method
      if method ∈ Config.rustMutationMethods then
        rustTargetCall ctx target (target ++ "." ++ method)
      else none
    | _ => none

def rustDerefCalls (ctx : RustScope) (line : List Char) : List ImpureCall :=
  (firstGroups rustDerefPattern line).filterMap fun target =>
    rustTargetCall ctx target ("*" ++ target)

def rustLineImpure (ctx : RustScope) (line : String) : List ImpureCall :=
  let chars := line.toList
  if startsWith (String.ofList (trimChars chars)) "//" then []
  else rustKnownImpure chars ++ rustMethodCalls ctx chars ++ rustDerefCalls ctx chars

def rustLineUserCalls (line : String) : List String :=
  if startsWith (trim line) "//" then [] else rustUserCalls uc line.toList

def rustUnsafe (body : String) : List ImpureCall :=
  if contains body "unsafe \x7b" || contains body "unsafe\x7b" then
    [⟨"unsafe", "Contains unsafe block", ""⟩]
  else []

def analyzeRustBody (body : String) (parameters mutParameters : List String) (isMutSelf : Bool) :
    BodyAnalysis :=
  let ctx := buildRustScope uc body parameters mutParameters isMutSelf
  let impureCalls := rustUnsafe body ++ (lines body).flatMap (rustLineImpure ctx)
  ⟨impureCalls.isEmpty, impureCalls, (lines body).flatMap (rustLineUserCalls uc)⟩

/-! ### Findings are reported -/

theorem foldl_addMutParameter_mem {name : String} :
    ∀ (names : List String) (ctx : RustScope),
      (name ∈ names ∨ name ∈ ctx.mutableParameters) →
      name ∈ (names.foldl addMutParameter ctx).mutableParameters
  | [], ctx, known => known.resolve_left not_mem_nil
  | first :: names, ctx, known => by
    refine foldl_addMutParameter_mem names (ctx.addMutParameter first) ?_
    rcases known with listed | there
    · rcases mem_cons.mp listed with rfl | later
      · exact .inr (by simp [addMutParameter])
      · exact .inl later
    · exact .inr (by simp [addMutParameter, there])

theorem rustScopeLine_mutableParameters (ctx : RustScope) (line : String) :
    (rustScopeLine uc ctx line).mutableParameters = ctx.mutableParameters := by
  have added : ∀ (ctx : RustScope) (name : String),
      (ctx.addLocal name).mutableParameters = ctx.mutableParameters := by
    intro ctx name
    unfold addLocal
    split <;> rfl
  simp only [rustScopeLine]
  repeat' split
  all_goals simp [addStatic, added]

theorem buildRustScope_mutableParameters {name : String} {params mutParameters : List String}
    {isMutSelf : Bool} (listed : name ∈ mutParameters) :
    name ∈ (buildRustScope uc body params mutParameters isMutSelf).mutableParameters := by
  unfold buildRustScope
  have start := foldl_addMutParameter_mem mutParameters (new params isMutSelf)
    (.inl listed)
  refine foldlRecOn (motive := fun ctx : RustScope => name ∈ ctx.mutableParameters) (lines body) _ start
    fun ctx kept line _ => ?_
  rwa [rustScopeLine_mutableParameters]

theorem rustDerefCalls_ne_nil {ctx : RustScope} {line : List Char} {target : String}
    (captured : target ∈ firstGroups rustDerefPattern line)
    (out : ctx.classify target ≠ .local) : rustDerefCalls ctx line ≠ [] := by
  have reported : (rustTargetCall ctx target ("*" ++ target)).isSome = true := by
    cases kind : ctx.classify target <;>
      simp_all [rustTargetCall, RustMutationTarget.impurityReason]
  obtain ⟨call, found⟩ := Option.isSome_iff_exists.mp reported
  exact ne_nil_of_mem (mem_filterMap.mpr ⟨target, captured, found⟩)

theorem analyzeRustBody_reports {line : String} {params mutParameters : List String}
    {isMutSelf : Bool} (mem : line ∈ lines body)
    (found : rustLineImpure (buildRustScope uc body params mutParameters isMutSelf) line ≠ []) :
    (analyzeRustBody uc body params mutParameters isMutSelf).impureCalls ≠ [] := by
  obtain ⟨call, member⟩ := exists_mem_of_ne_nil _ found
  exact ne_nil_of_mem (mem_append_right _ (mem_flatMap.mpr ⟨line, mem, member⟩))

end Rust

/-! ### The character tables -/

theorem rustScopeLine_ascii (uc : Unicode) (ctx : RustScope) {line : String}
    (absent : 'S' ∉ line.toList) : rustScopeLine uc ctx line = rustScopeLine .ascii ctx line := by
  have noStatic : ∀ tables : Unicode, staticName tables (trimChars line.toList) = none := by
    intro tables
    have none := beforeFirstOf_eq_none (show 'S' ∈ "STATIC_".toList by decide)
      fun mem => absent (mem_of_mem_trimChars mem)
    rw [staticName, none, Option.map_none]
  simp [rustScopeLine, noStatic]

/-- The tables are only read for the names of statics. -/
theorem analyzeRustBody_ascii (uc : Unicode) (params mutParameters : List String)
    (isMutSelf : Bool) (absent : 'S' ∉ body.toList) :
    buildRustScope uc body params mutParameters isMutSelf =
        buildRustScope .ascii body params mutParameters isMutSelf ∧
      (analyzeRustBody uc body params mutParameters isMutSelf).impureCalls =
        (analyzeRustBody .ascii body params mutParameters isMutSelf).impureCalls := by
  have scope : buildRustScope uc body params mutParameters isMutSelf =
      buildRustScope .ascii body params mutParameters isMutSelf :=
    foldl_ext _ _ _ fun ctx line mem =>
      rustScopeLine_ascii uc ctx fun here => absent (mem_of_mem_lines mem here).1
  refine ⟨scope, ?_⟩
  simp [analyzeRustBody, scope]

end Detrix.Lsp
