/-
**Which assignments the body analyses see.**

The assignment forms of Python and Rust beside those of Go: a target by its kind, and an operator.
A form is detected if the analysis reports an impure call for every body with a line of that form
whose target is not local.

- `rustDetects_iff`: in Rust only assignments through a dereferenced parameter are detected, with
  the operators of one character.
- `pythonDetects_none`: in Python no form is.
- `assignment_forms_detected`: the three languages together.
-/

import Detrix.Lsp.GoAssignments
import Detrix.Lsp.RustBody

namespace Detrix.Lsp

open Library Text List
open Library.Regex (Rx First Fails)
open Library.Text (Unicode)

/-! ### Rust -/

inductive RustOp where
  | assign | add | sub | mul | div | rem | and | or | xor | shl | shr
  deriving DecidableEq

/-- What stands before the equality sign. -/
def RustOp.mark : RustOp → List Char
  | assign => []
  | add => ['+']
  | sub => ['-']
  | mul => ['*']
  | div => ['/']
  | rem => ['%']
  | and => ['&']
  | or => ['|']
  | xor => ['^']
  | shl => ['<', '<']
  | shr => ['>', '>']

def RustOp.all : List RustOp := [assign, add, sub, mul, div, rem, and, or, xor, shl, shr]

theorem RustOp.mem_all (op : RustOp) : op ∈ all := by
  cases op <;> decide

inductive RustForm where
  | selfField | deref | static

/-- **An assignment statement of Rust on one line**, `self.name op= value;`, `*name op= value;` or
`name op= value;`. -/
structure RustAssignment where
  indent : Blanks
  form : RustForm
  name : Identifier
  gap : Blanks
  op : RustOp
  space : Blanks
  value : Value

namespace RustAssignment

/-- What stands before the name. -/
def lead (s : RustAssignment) : List Char :=
  match s.form with
  | .selfField => ['s', 'e', 'l', 'f', '.']
  | .deref => ['*']
  | .static => []

def right (s : RustAssignment) : List Char :=
  s.space.chars ++ s.value.head :: s.value.tail ++ [';']

def core (s : RustAssignment) : List Char :=
  s.lead ++ (s.name.chars ++ (s.gap.chars ++ (s.op.mark ++ '=' :: s.right)))

def line (s : RustAssignment) : String := String.ofList (s.indent.chars ++ s.core)

/-- **The target is not local**: a field of `&mut self`, a mutable parameter, or a name that is
neither a parameter nor bound in the body. -/
def NonLocal (uc : Unicode) (s : RustAssignment) (body : String)
    (parameters mutParameters : List String) (isMutSelf : Bool) : Prop :=
  match s.form with
  | .selfField => isMutSelf = true
  | .deref => s.name.name ∈ mutParameters
  | .static => s.name.name ∉ parameters ∧ s.name.name ∉ mutParameters ∧
      s.name.name ∉ (buildRustScope uc body parameters mutParameters isMutSelf).localVars

end RustAssignment

/-- The analysis reports every line of this form whose target is not local, in every body. -/
def RustDetects (uc : Unicode) (form : RustForm) (op : RustOp) : Prop :=
  ∀ s : RustAssignment, s.form = form → s.op = op →
    ∀ (body : String) (parameters mutParameters : List String) (isMutSelf : Bool),
      s.line ∈ lines body → s.NonLocal uc body parameters mutParameters isMutSelf →
      (analyzeRustBody uc body parameters mutParameters isMutSelf).impureCalls ≠ []

/-- The forms that the patterns recognise. -/
def rustCovered : RustForm → RustOp → Bool
  | .deref, .assign | .deref, .add | .deref, .sub | .deref, .mul | .deref, .div | .deref, .rem
  | .deref, .and | .deref, .or => true
  | _, _ => false

variable {op : RustOp}

theorem first_derefOp (covered : rustCovered .deref op = true) (rest : List Char) :
    First (.seq (.opt (.one fun c => c ∈ ['+', '-', '*', '/', '%', '&', '|'])) (charRx '='))
      (op.mark ++ '=' :: rest) rest [] := by
  cases op with
  | assign | add | sub | mul | div | rem | and | or => rfl
  | xor | shl | shr => simp [rustCovered] at covered


theorem RustOp.stops (op : RustOp) (rest : List Char) : Stops (op.mark ++ '=' :: rest) := by
  cases op <;> exact stops_cons rfl rfl _

/-- The name behind the star is captured. -/
theorem captured_deref (s : RustAssignment) (isDeref : s.form = .deref)
    (covered : rustCovered .deref s.op = true) :
    s.name.name ∈ firstGroups rustDerefPattern s.line.toList := by
  have core_eq : s.core =
      '*' :: (s.name.chars ++ (s.gap.chars ++ (s.op.mark ++ '=' :: s.right))) := by
    rw [RustAssignment.core, RustAssignment.lead, isDeref]
    rfl
  have first : First rustDerefPattern s.core s.right [s.name.chars] := by
    rw [core_eq]
    exact (first_char '*' _).seq
      ((first_captured s.name (s.gap.stop_id (s.op.stops s.right))).seq
        ((first_blanks s.gap (s.op.stops s.right)).seq (first_derefOp covered s.right)))
  have found : Regex.search rustDerefPattern s.line.toList = some (s.right, [s.name.chars]) := by
    rw [RustAssignment.line, String.toList_ofList]
    refine (Regex.search_skip s.indent.chars fun c mem cs => ?_).trans
      (Regex.search_of_first first)
    refine .seq (Fails.one fun d here => ?_) _
    rw [head?_cons, Option.mem_some_iff] at here
    rcases s.indent.ok c mem with rfl | rfl <;> rw [← here] <;> decide
  have nonempty : s.line.toList ≠ [] := by
    rw [RustAssignment.line, String.toList_ofList, core_eq]
    simp
  exact mem_filterMap.mpr
    ⟨_, Regex.mem_captures_of_search found nonempty, by simp [Identifier.name]⟩

variable (uc : Unicode)

theorem rustCovered_detected {form : RustForm} (covered : rustCovered form op = true) :
    RustDetects uc form op := by
  intro s isForm isOp body params mutParameters isMutSelf mem nonLocal
  subst isForm isOp
  have isDeref : s.form = .deref := by
    cases form : s.form <;> simp_all [rustCovered]
  rw [isDeref] at covered
  have listed : s.name.name ∈ mutParameters := by
    simpa [RustAssignment.NonLocal, isDeref] using nonLocal
  have known : s.name.name ∈
      (buildRustScope uc body params mutParameters isMutSelf).mutableParameters :=
    buildRustScope_mutableParameters uc listed
  have calls := rustDerefCalls_ne_nil (captured_deref s isDeref covered)
    (RustScope.classify_mutableParameter known)
  have notComment : startsWith (String.ofList (trimChars s.line.toList)) "//" = false := by
    rw [RustAssignment.line, String.toList_ofList, RustAssignment.core, RustAssignment.lead, isDeref]
    exact notComment_of_head s.indent rfl (by decide) _
  refine analyzeRustBody_reports uc mem ?_
  simp [rustLineImpure, notComment, calls]

def rustSample (form : RustForm) (op : RustOp) : RustAssignment where
  indent := .none
  form := form
  name := .letter 'p' idStart_p
  gap := .none
  op := op
  space := .none
  value := .one

def rustSampleParameters : RustForm → List String
  | .deref => ["p"]
  | .selfField | .static => []

instance (uc : Unicode) (s : RustAssignment) (body : String)
    (parameters mutParameters : List String) (isMutSelf : Bool) :
    Decidable (s.NonLocal uc body parameters mutParameters isMutSelf) := by
  unfold RustAssignment.NonLocal
  exact match s.form with
    | .selfField | .deref | .static => inferInstance

/-- The pattern of calls takes the name before `<<` for a function; the list of impure functions does
not have it. -/
theorem rustSample_notImpure : isRustImpureFunction "p" = false := by
  decide +kernel

variable (form : RustForm)

theorem rustSample_nonLocal : ∀ op ∈ RustOp.all,
    'S' ∉ (rustSample form op).line.toList ∧
      lines (rustSample form op).line = [(rustSample form op).line] ∧
      (rustSample form op).NonLocal .ascii (rustSample form op).line []
        (rustSampleParameters form) true := by
  cases form <;> decide +kernel

theorem rustSample_silent : ∀ op ∈ RustOp.all, rustCovered form op = false →
    (analyzeRustBody .ascii (rustSample form op).line []
      (rustSampleParameters form) true).impureCalls = [] := by
  intro op listed uncovered
  have calls : firstGroups rustCallPattern (rustSample form op).line.toList ⊆ ["p"] := by
    revert op
    cases form <;> decide +kernel
  have known : rustKnownImpure (rustSample form op).line.toList = [] := by
    rw [rustKnownImpure, map_eq_nil_iff, filter_eq_nil_iff]
    intro func called
    rw [mem_singleton.mp (calls called), rustSample_notImpure]
    exact Bool.false_ne_true
  have others : ∀ op ∈ RustOp.all, rustCovered form op = false →
      rustUnsafe (rustSample form op).line = [] ∧
      rustMethodCalls (buildRustScope .ascii (rustSample form op).line []
        (rustSampleParameters form) true) (rustSample form op).line.toList = [] ∧
      rustDerefCalls (buildRustScope .ascii (rustSample form op).line []
        (rustSampleParameters form) true) (rustSample form op).line.toList = [] := by
    cases form <;> decide +kernel
  obtain ⟨noUnsafe, noMethod, noDeref⟩ := others op listed uncovered
  obtain ⟨-, lines, -⟩ := rustSample_nonLocal form op listed
  simp only [analyzeRustBody, noUnsafe, lines, flatMap_singleton, rustLineImpure, known,
    noMethod, noDeref, append_nil, ite_self]

theorem rustUncovered_silent {form : RustForm} (uncovered : rustCovered form op = false) :
    ¬ RustDetects uc form op := by
  intro detects
  obtain ⟨noStatic, lines, nonLocal⟩ := rustSample_nonLocal form op op.mem_all
  have silent := rustSample_silent form op op.mem_all uncovered
  have mem : (rustSample form op).line ∈ Text.lines (rustSample form op).line := by
    rw [lines]
    exact mem_singleton_self _
  obtain ⟨scope, calls⟩ :=
    analyzeRustBody_ascii uc [] (rustSampleParameters form) true noStatic
  refine detects (rustSample form op) rfl rfl _ [] (rustSampleParameters form) true mem ?_
    (calls.trans silent)
  rw [RustAssignment.NonLocal, scope]
  exact nonLocal

theorem rustDetects_iff (op : RustOp) : RustDetects uc form op ↔ rustCovered form op = true := by
  refine ⟨fun detects => ?_, rustCovered_detected uc⟩
  cases covered : rustCovered form op with
  | true => rfl
  | false => exact absurd detects (rustUncovered_silent uc covered)

/-! ### Python -/

inductive PythonOp where
  | assign | add | sub | mul | div | floorDiv | mod | pow | matMul | and | or | xor | shl | shr

def PythonOp.chars : PythonOp → List Char
  | assign => ['=']
  | add => ['+', '=']
  | sub => ['-', '=']
  | mul => ['*', '=']
  | div => ['/', '=']
  | floorDiv => ['/', '/', '=']
  | mod => ['%', '=']
  | pow => ['*', '*', '=']
  | matMul => ['@', '=']
  | and => ['&', '=']
  | or => ['|', '=']
  | xor => ['^', '=']
  | shl => ['<', '<', '=']
  | shr => ['>', '>', '=']

inductive PythonForm where
  | selfAttribute | parameterAttribute | parameterItem | globalName | nonlocalName

/-- **An assignment statement of Python on one line**, `base.name op value`, `base[index] op value`
or `base op value`; the base of an attribute of `self` is `self`. -/
structure PythonAssignment where
  indent : Blanks
  form : PythonForm
  base : Identifier
  name : Identifier
  index : Index
  gap : Blanks
  op : PythonOp
  space : Blanks
  value : Value

namespace PythonAssignment

def target (s : PythonAssignment) : List Char :=
  match s.form with
  | .selfAttribute => ['s', 'e', 'l', 'f', '.'] ++ s.name.chars
  | .parameterAttribute => s.base.chars ++ '.' :: s.name.chars
  | .parameterItem => s.base.chars ++ '[' :: s.index.chars ++ [']']
  | .globalName | .nonlocalName => s.base.chars

def line (s : PythonAssignment) : String :=
  String.ofList (s.indent.chars ++ s.target ++ s.gap.chars ++ s.op.chars ++ s.space.chars ++
    s.value.head :: s.value.tail)

/-- **The target is not local**: an attribute of `self`, of a parameter or an item of one, or a name
that a line of the body declares. -/
def NonLocal (s : PythonAssignment) (body : String) (parameters : List String) : Prop :=
  match s.form with
  | .selfAttribute => "self" ∈ parameters
  | .parameterAttribute | .parameterItem => s.base.name ∈ parameters
  | .globalName => "global " ++ s.base.name ∈ lines body
  | .nonlocalName => "nonlocal " ++ s.base.name ∈ lines body

end PythonAssignment

/-- The analysis reports every line of this form whose target is not local, in every body. -/
def PythonDetects (uc : Unicode) (form : PythonForm) (op : PythonOp) : Prop :=
  ∀ s : PythonAssignment, s.form = form → s.op = op →
    ∀ (body : String) (parameters : List String),
      s.line ∈ lines body → s.NonLocal body parameters →
      ∃ result, analyzePythonBody uc body parameters = some result ∧ result.impureCalls ≠ []

def pythonSample (form : PythonForm) (op : PythonOp) : PythonAssignment where
  indent := .none
  form := form
  base := .letter 'p' idStart_p
  name := .letter 'f' idStart_f
  index := .zero
  gap := .none
  op := op
  space := .none
  value := .one

/-- A body with the statement and the declaration of its name. -/
def pythonSampleBody (form : PythonForm) (op : PythonOp) : String :=
  match form with
  | .globalName => "global p\n" ++ (pythonSample form op).line
  | .nonlocalName => "nonlocal p\n" ++ (pythonSample form op).line
  | _ => (pythonSample form op).line

instance (s : PythonAssignment) (body : String) (parameters : List String) :
    Decidable (s.NonLocal body parameters) := by
  unfold PythonAssignment.NonLocal
  exact match s.form with
    | .selfAttribute | .parameterAttribute | .parameterItem | .globalName | .nonlocalName =>
      inferInstance

theorem pythonSample_plain (form : PythonForm) (op : PythonOp) :
    '(' ∉ (pythonSampleBody form op).toList ∧
      (pythonSample form op).line ∈ lines (pythonSampleBody form op) ∧
      (pythonSample form op).NonLocal (pythonSampleBody form op) ["self", "p"] := by
  cases form <;> cases op <;> decide +kernel

/-- **No form of assignment is detected in Python**: the analysis looks for calls only. -/
theorem pythonDetects_none (form : PythonForm) (op : PythonOp) : ¬ PythonDetects uc form op := by
  intro detects
  obtain ⟨noCall, mem, nonLocal⟩ := pythonSample_plain form op
  obtain ⟨result, isResult, reported⟩ :=
    detects (pythonSample form op) rfl rfl _ ["self", "p"] mem nonLocal
  obtain ⟨silent, isSilent, quiet, -⟩ := analyzePythonBody_silent uc ["self", "p"] noCall
  rw [isResult, Option.some.injEq] at isSilent
  exact reported (isSilent ▸ quiet)

/-! ### The three languages -/

/-- **The forms of assignment that make a function impure for the body analyses.** -/
theorem assignment_forms_detected (uc : Unicode) :
    (∀ form op, ¬ PythonDetects uc form op) ∧
      (∀ shape op, GoDetects shape op ↔ goCovered shape op = true) ∧
      (∀ form op, RustDetects uc form op ↔ rustCovered form op = true) :=
  ⟨pythonDetects_none uc, goDetects_iff, rustDetects_iff uc⟩

/-- An attribute of `self`, an augmented field of the receiver and a field of `&mut self` are
assigned, and the three bodies are called pure. -/
theorem mutations_called_pure :
    (analyzePythonBody .ascii "self.count = 1" ["self"]).map (·.isPure) = some true ∧
      (analyzeGoBody "s.count += 1" [] (some "s")).isPure = true ∧
      (analyzeRustBody .ascii "self.count = 1;" [] [] true).isPure = true := by
  have noCall : '(' ∉ "self.count = 1".toList := by decide
  obtain ⟨result, isResult, -, pure⟩ := analyzePythonBody_silent .ascii ["self"] noCall
  refine ⟨?_, by decide +kernel⟩
  rw [isResult, Option.map_some, pure]

end Detrix.Lsp
