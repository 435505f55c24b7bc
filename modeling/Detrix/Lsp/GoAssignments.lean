/-
**Which Go assignments the body analysis sees.**

Assignment statements of Go by the shape of their target and their operator, as lines of text, and
the decision `goCovered` which of these forms the patterns recognise.

- `goCovered_detected`: in every body, a line of a covered form with a target that is not local is
  reported.
- `goUncovered_silent`: every other form has a body in which the line is not reported.
- `goDetects_iff`: the two together.
-/

import Detrix.Lsp.GoBody

namespace Detrix.Lsp

open Library Text List Option Bool
open Library.Regex (Rx First Fails)

/-! ### Pieces of a line -/

/-- An identifier of ASCII. -/
structure Identifier where
  head : Char
  tail : List Char
  head_ok : idStart head = true
  tail_ok : ∀ c ∈ tail, idChar c = true

def Identifier.letter (c : Char) (start : idStart c = true) : Identifier :=
  ⟨c, [], start, fun _ inside => absurd inside not_mem_nil⟩

theorem idStart_p : idStart 'p' = true := rfl

theorem idStart_f : idStart 'f' = true := rfl

def Identifier.chars (x : Identifier) : List Char := x.head :: x.tail

def Identifier.name (x : Identifier) : String := String.ofList x.chars

structure Blanks where
  chars : List Char
  ok : ∀ c ∈ chars, c = ' ' ∨ c = '\t'

def Blanks.none : Blanks := ⟨[], fun _ inside => absurd inside not_mem_nil⟩

/-- The text of an index without a closing bracket. -/
structure Index where
  chars : List Char
  ok : ']' ∉ chars

/-- The right side of an assignment: it begins with a character that is no blank and no equality
sign. -/
structure Value where
  head : Char
  tail : List Char
  notBlank : isWhitespace head = false
  notEqual : head ≠ '='

theorem one_ne_equal : '1' ≠ '=' := by decide

def Value.one : Value := ⟨'1', [], rfl, one_ne_equal⟩

theorem closing_not_mem_zero : ']' ∉ ['0'] := by decide

def Index.zero : Index := ⟨['0'], closing_not_mem_zero⟩

/-- The assignment operators of Go, increment and decrement among them. -/
inductive GoOp where
  | assign | add | sub | mul | quo | rem | and | or | xor | shl | shr | andNot | inc | dec
  deriving DecidableEq

def GoOp.chars : GoOp → List Char
  | assign => ['=']
  | add => ['+', '=']
  | sub => ['-', '=']
  | mul => ['*', '=']
  | quo => ['/', '=']
  | rem => ['%', '=']
  | and => ['&', '=']
  | or => ['|', '=']
  | xor => ['^', '=']
  | shl => ['<', '<', '=']
  | shr => ['>', '>', '=']
  | andNot => ['&', '^', '=']
  | inc => ['+', '+']
  | dec => ['-', '-']

def GoOp.all : List GoOp :=
  [assign, add, sub, mul, quo, rem, and, or, xor, shl, shr, andNot, inc, dec]

theorem GoOp.mem_all (op : GoOp) : op ∈ all := by
  cases op <;> decide

def GoOp.isStep : GoOp → Bool
  | inc | dec => true
  | _ => false

inductive GoTarget where
  /-- `base.name` -/
  | field (base name : Identifier)
  /-- `base[index]` -/
  | element (base : Identifier) (index : Index)
  /-- `base.name[index]` -/
  | fieldElement (base name : Identifier) (index : Index)
  /-- `base.name.inner` -/
  | nestedField (base name inner : Identifier)
  /-- `base[index].name` -/
  | elementField (base : Identifier) (index : Index) (name : Identifier)
  /-- `base[inner[index]]` -/
  | nestedElement (base inner : Identifier) (index : Index)
  /-- `name` -/
  | plain (name : Identifier)

def GoTarget.base : GoTarget → Identifier
  | field base _ | element base _ | fieldElement base _ _ | nestedField base _ _
  | elementField base _ _ | nestedElement base _ _ | plain base => base

/-- What follows the variable in a target. -/
def GoTarget.path : GoTarget → List Char
  | field _ name => '.' :: name.chars
  | element _ index => '[' :: index.chars ++ [']']
  | fieldElement _ name index => '.' :: name.chars ++ '[' :: index.chars ++ [']']
  | nestedField _ name inner => '.' :: name.chars ++ '.' :: inner.chars
  | elementField _ index name => '[' :: index.chars ++ ']' :: '.' :: name.chars
  | nestedElement _ inner index => '[' :: inner.chars ++ '[' :: index.chars ++ [']', ']']
  | plain _ => []

/-- **An assignment statement on one line.** -/
structure GoAssignment where
  indent : Blanks
  target : GoTarget
  gap : Blanks
  op : GoOp
  space : Blanks
  value : Value

namespace GoAssignment

/-- What follows the operator. -/
def right (s : GoAssignment) : List Char :=
  if s.op.isStep then [] else s.space.chars ++ s.value.head :: s.value.tail

/-- The statement from its target on. -/
def core (s : GoAssignment) : List Char :=
  s.target.base.chars ++ (s.target.path ++ (s.gap.chars ++ (s.op.chars ++ s.right)))

def line (s : GoAssignment) : String := String.ofList (s.indent.chars ++ s.core)

end GoAssignment

open GoAssignment

/-- The shapes of a target that the analysis tells apart. A variable assigned on a line that
contains `:=`, in a string say, and the variable `err` are shapes of their own. -/
inductive GoShape where
  | field | element | fieldElement | nestedField | elementField | nestedElement
  | plainVariable | errVariable | quotingVariable
  deriving DecidableEq

def GoAssignment.shape (s : GoAssignment) : GoShape :=
  match s.target with
  | .field _ _ => .field
  | .element _ _ => .element
  | .fieldElement _ _ _ => .fieldElement
  | .nestedField _ _ _ => .nestedField
  | .elementField _ _ _ => .elementField
  | .nestedElement _ _ _ => .nestedElement
  | .plain name =>
    if !s.op.isStep && occurs [':', '='] (s.indent.chars ++ s.core) then .quotingVariable
    else if name.name = "err" then .errVariable
    else .plainVariable

/-- **The target is not local**: a field or element of the receiver, of a parameter or of a variable
that the body does not declare; a variable that is neither of these and not declared. -/
def GoAssignment.NonLocal (s : GoAssignment) (body : String) (parameters : List String)
    (receiver : Option String) : Prop :=
  let name := s.target.base.name
  let declared := name ∈ (buildGoScope body parameters receiver).localVars
  match s.target with
  | .plain _ => receiver ≠ some name ∧ name ∉ parameters ∧ ¬ declared ∧ name ≠ "_"
  | _ => receiver = some name ∨ name ∈ parameters ∨ ¬ declared

/-- The analysis reports every line of this form whose target is not local, in every body. -/
def GoDetects (shape : GoShape) (op : GoOp) : Prop :=
  ∀ s : GoAssignment, s.shape = shape → s.op = op →
    ∀ (body : String) (parameters : List String) (receiver : Option String),
      s.line ∈ lines body → s.NonLocal body parameters receiver →
      (analyzeGoBody body parameters receiver).impureCalls ≠ []

/-- **The forms that the patterns recognise.** -/
def goCovered : GoShape → GoOp → Bool
  | .field, .assign | .field, .inc | .field, .dec => true
  | .element, .assign => true
  | .fieldElement, .assign => true
  | .plainVariable, .assign | .plainVariable, .add | .plainVariable, .sub
  | .plainVariable, .mul | .plainVariable, .quo | .plainVariable, .inc
  | .plainVariable, .dec => true
  | .errVariable, .inc | .errVariable, .dec => true
  | .quotingVariable, .inc | .quotingVariable, .dec => true
  | _, _ => false

/-! ### Matching the pieces -/

variable {rest : List Char} {op : GoOp} {c : Char} {groups : List (List Char)} {x : Identifier}

theorem isWhitespace_of_idStart (start : idStart c = true) : isWhitespace c = false := by
  simp only [idStart, or_eq_true, and_eq_true, decide_eq_true_eq] at start
  simp only [isWhitespace, or_eq_false_iff, and_eq_false_iff, decide_eq_false_iff_not]
  omega

variable (b : Blanks)

theorem Blanks.white : ∀ c ∈ b.chars, isWhitespace c = true := by
  intro c mem
  rcases b.ok c mem with rfl | rfl <;> decide

theorem Blanks.notStart : ∀ c ∈ b.chars, idStart c = false := by
  intro c mem
  rcases b.ok c mem with rfl | rfl <;> decide

/-- What holds of blanks and of the first character after them holds of the first of them all. -/
theorem Blanks.head {P : Char → Prop} (blank : P ' ') (tab : P '\t') (stop : ∀ c ∈ rest.head?, P c) :
    ∀ c ∈ (b.chars ++ rest).head?, P c := by
  intro c first
  cases chars : b.chars with
  | nil =>
    rw [chars, nil_append] at first
    exact stop c first
  | cons d others =>
    rw [chars, cons_append, head?_cons, mem_some_iff] at first
    rcases b.ok d (chars ▸ .head _) with rfl | rfl
    · exact first ▸ blank
    · exact first ▸ tab

/-- A character that can stand after a name and its blanks: no blank and no part of a name. -/
def Stops (text : List Char) : Prop :=
  ∀ c ∈ text.head?, idChar c = false ∧ isWhitespace c = false

theorem Blanks.stop_id (stops : Stops rest) : ∀ c ∈ (b.chars ++ rest).head?, idChar c = false :=
  b.head rfl rfl fun c first => (stops c first).1

theorem first_identifier (x : Identifier) (stop : ∀ c ∈ rest.head?, idChar c = false) :
    First identifierRx (x.chars ++ rest) rest [] :=
  (First.one x.head_ok (x.tail ++ rest)).seq (First.many x.tail_ok stop)

theorem first_captured (x : Identifier) (stop : ∀ c ∈ rest.head?, idChar c = false) :
    First (.group identifierRx) (x.chars ++ rest) rest [x.chars] :=
  (first_identifier x stop).group

theorem first_blanks (stops : Stops rest) : First blanksRx (b.chars ++ rest) rest [] :=
  First.many b.white fun c first => (stops c first).2

theorem first_noBlanks (solid : ∀ c ∈ rest.head?, isWhitespace c = false) :
    First blanksRx rest rest [] := by
  have none : ∀ c ∈ ([] : List Char), isWhitespace c = true := by simp
  exact .many none solid

theorem first_char (c : Char) (rest : List Char) : First (charRx c) (c :: rest) rest [] :=
  First.one (by simp) rest

theorem stops_cons (notId : idChar c = false) (solid : isWhitespace c = false)
    (rest : List Char) : Stops (c :: rest) := by
  intro d first
  rw [head?_cons, mem_some_iff] at first
  exact first ▸ ⟨notId, solid⟩

theorem first_index (index : Index) (rest : List Char) :
    First indexRx ('[' :: index.chars ++ ']' :: rest) rest [] := by
  refine (first_char '[' _).seq ((First.many ?_ ?_).seq (first_char ']' rest))
  · intro c mem
    simp only [ne_eq, decide_not, not_eq_true', decide_eq_false_iff_not]
    exact fun same => index.ok (same ▸ mem)
  · simp

/-- The search for a pattern that begins with a name starts after the indentation. -/
theorem search_indent (indent : Blanks) (rest : Rx) (text : List Char) :
    Regex.search (.seq (.group identifierRx) rest) (indent.chars ++ text) =
      Regex.search (.seq (.group identifierRx) rest) text := by
  refine Regex.search_skip indent.chars fun c mem cs => ?_
  refine Fails.seq (Fails.group (Fails.seq (Fails.one ?_) _)) _
  intro d first
  rw [head?_cons, mem_some_iff] at first
  exact first ▸ indent.notStart c mem

/-! ### Matching the covered forms -/

theorem Identifier.solid (x : Identifier) (rest : List Char) :
    ∀ c ∈ (x.chars ++ rest).head?, isWhitespace c = false := by
  intro c first
  rw [Identifier.chars, cons_append, head?_cons, mem_some_iff] at first
  exact first ▸ isWhitespace_of_idStart x.head_ok

/-- The end of the field patterns: blanks and an equality sign. -/
theorem first_blanks_equals (gap : Blanks) (rest : List Char) :
    First (.seq blanksRx (charRx '=')) (gap.chars ++ '=' :: rest) rest [] :=
  (first_blanks gap (stops_cons rfl rfl _)).seq (first_char '=' rest)

variable (base : Identifier)

/-- `base.name`, with what the pattern has after it. -/
theorem first_field (name : Identifier) {rx : Rx} {text : List Char}
    (after : First rx text rest groups) (stop : ∀ c ∈ text.head?, idChar c = false) :
    First (.seq (.group identifierRx) (.seq blanksRx (.seq (charRx '.') (.seq blanksRx
      (.seq identifierRx rx))))) (base.chars ++ ('.' :: name.chars ++ text)) rest
      (base.chars :: groups) := by
  have dotStops : ∀ text, Stops ('.' :: text) := fun text => stops_cons rfl rfl text
  exact (first_captured base fun c first => (dotStops _ c first).1).seq
    ((first_noBlanks fun c first => (dotStops _ c first).2).seq ((first_char '.' _).seq
      ((first_noBlanks (name.solid _)).seq ((first_identifier name stop).seq after))))

theorem first_elementAssign (index : Index) (gap : Blanks) (rest : List Char) :
    First indexAssignPattern
      (base.chars ++ ('[' :: index.chars ++ ']' :: (gap.chars ++ '=' :: rest))) rest
      [base.chars] := by
  have opens : ∀ text, Stops ('[' :: text) := fun text => stops_cons rfl rfl text
  exact (first_captured base fun c first => (opens _ c first).1).seq
    ((first_noBlanks fun c first => (opens _ c first).2).seq
      ((first_index index _).seq (first_blanks_equals gap rest)))

theorem first_incrDecr (step : op.isStep = true) (rest : List Char) :
    First (.group incrDecrRx) (op.chars ++ rest) rest [op.chars] := by
  refine .group ?_
  cases op with
  | inc | dec => rfl
  | _ => simp [GoOp.isStep] at step

theorem GoOp.stops (op : GoOp) (rest : List Char) : Stops (op.chars ++ rest) := by
  cases op <;> exact stops_cons rfl rfl _

/-- Blanks and an increment or decrement. -/
theorem first_step (gap : Blanks) (step : op.isStep = true) (rest : List Char) :
    First (.seq blanksRx (.group incrDecrRx)) (gap.chars ++ (op.chars ++ rest)) rest [op.chars] :=
  (first_blanks gap (op.stops rest)).seq (first_incrDecr step rest)

/-- The operators that the pattern for variables admits. -/
def GoOp.isDirect : GoOp → Bool
  | assign | add | sub | mul | quo => true
  | _ => false

theorem first_directOp (direct : op.isDirect = true) {tail : List Char}
    (next : First (.seq blanksRx (.one fun c => c ≠ '=')) rest tail []) :
    First (.seq (.opt (.one fun c => c ∈ ['+', '-', '*', '/'])) (.seq (charRx '=')
      (.seq blanksRx (.one fun c => c ≠ '=')))) (op.chars ++ rest) tail [] := by
  have sign : First (.opt (.one fun c => c ∈ ['+', '-', '*', '/'])) (op.chars ++ rest) ('=' :: rest) [] := by
    cases op with
    | assign | add | sub | mul | quo => rfl
    | _ => simp [GoOp.isDirect] at direct
  exact sign.seq ((first_char '=' rest).seq next)

theorem first_variableAssign (gap : Blanks) (direct : op.isDirect = true) (space : Blanks)
    {head : Char} (solid : isWhitespace head = false) (notEqual : head ≠ '=')
    (rest : List Char) :
    First directAssignPattern
      (base.chars ++ (gap.chars ++ (op.chars ++ (space.chars ++ head :: rest)))) rest
      [base.chars] := by
  have right : First (.seq blanksRx (.one fun c => c ≠ '=')) (space.chars ++ head :: rest) rest [] := by
    refine (First.many space.white fun c first => ?_).seq (First.one (by simpa using notEqual) rest)
    rw [head?_cons, mem_some_iff] at first
    exact first ▸ solid
  exact (first_noBlanks (base.solid _)).seq
    ((first_captured base (gap.stop_id (op.stops _))).seq
      ((first_blanks gap (op.stops _)).seq (first_directOp direct right)))

/-! ### Covered forms are reported -/

variable (s : GoAssignment)

theorem GoAssignment.line_toList : s.line.toList = s.indent.chars ++ s.core := by
  rw [line, String.toList_ofList]

theorem notComment_of_head (indent : Blanks) (solid : isWhitespace c = false)
    (noSlash : c ≠ '/') (rest : List Char) :
    startsWith (String.ofList (trimChars (indent.chars ++ c :: rest))) "//" = false := by
  rw [startsWith, String.toList_ofList, trimChars_blanks_cons indent.white solid]
  simp [isPrefixOf, noSlash.symm]

theorem GoAssignment.notComment :
    startsWith (String.ofList (trimChars s.line.toList)) "//" = false := by
  have noSlash : s.target.base.head ≠ '/' := by
    intro same
    have head := s.target.base.head_ok
    rw [same] at head
    cases head
  rw [s.line_toList]
  exact notComment_of_head s.indent (isWhitespace_of_idStart s.target.base.head_ok) noSlash _

theorem captured_variable {rx : Rx}
    (first : First (.seq (.group identifierRx) rx) s.core rest (s.target.base.chars :: groups)) :
    s.target.base.name ∈ firstGroups (.seq (.group identifierRx) rx) s.line.toList := by
  have found : Regex.search (.seq (.group identifierRx) rx) s.line.toList =
      some (rest, s.target.base.chars :: groups) := by
    rw [s.line_toList, search_indent]
    exact Regex.search_of_first first
  have nonempty : s.line.toList ≠ [] := by
    rw [s.line_toList]
    simp [core, Identifier.chars]
  exact mem_filterMap.mpr
    ⟨_, Regex.mem_captures_of_search found nonempty, by simp [Identifier.name]⟩

theorem leadingVariable_of_first {pattern : Rx} {line : List Char}
    (first : First pattern line rest (x.chars :: groups)) :
    leadingVariable pattern line = some x.name := by
  rw [leadingVariable, show Regex.matchHere pattern line = some (rest, x.chars :: groups) from first]
  rfl

variable {s : GoAssignment}

/-- Nothing of a variable's name is cut at either end of the line. -/
theorem trimmed_line (noPath : s.target.path = []) {c : Char} {front tail : List Char}
    (ending : s.op.chars ++ s.right = front ++ c :: tail) (solid : isWhitespace c = false) :
    trimChars s.line.toList = s.target.base.chars ++ (s.gap.chars ++ (front ++ c :: trimEnd tail)) := by
  have cut := trimEnd_append_cons (s.target.base.tail ++ (s.gap.chars ++ front)) solid tail
  rw [s.line_toList, core, noPath, ending, Identifier.chars, cons_append,
    trimChars_blanks_cons s.indent.white (isWhitespace_of_idStart s.target.base.head_ok)]
  simp only [append_assoc, nil_append] at cut ⊢
  rw [cut]
  rfl

section Found

variable {ctx : GoScope} {s : GoAssignment} (outside : ctx.isLocal s.target.base.name = false)
include outside

theorem calls_of_first {rx : Rx} {pattern : String}
    (first : First (.seq (.group identifierRx) rx) s.core rest (s.target.base.chars :: groups)) :
    goTargetCalls (.seq (.group identifierRx) rx) pattern ctx s.line.toList ≠ [] :=
  goTargetCalls_ne_nil (captured_variable s first) outside

theorem found_fieldAssign
    (first : First fieldAssignPattern s.core s.right [s.target.base.chars]) :
    goLineImpure ctx s.line ≠ [] := by
  have calls : goTargetCalls fieldAssignPattern "field assignment" ctx s.line.toList ≠ [] :=
    calls_of_first outside first
  simp [goLineImpure, s.notComment, calls]

/-- An increment of a variable: nothing is cut at the end of the line. -/
theorem found_variableStep (noPath : s.target.path = []) (step : s.op.isStep = true) :
    goLineImpure ctx s.line ≠ [] := by
  have trimmed : trimChars s.line.toList =
      s.target.base.chars ++ (s.gap.chars ++ (s.op.chars ++ [])) := by
    obtain ⟨c, twice, solid⟩ : ∃ c, s.op.chars = [c, c] ∧ isWhitespace c = false := by
      cases op : s.op with
      | inc => exact ⟨'+', rfl, by decide⟩
      | dec => exact ⟨'-', rfl, by decide⟩
      | _ => simp [op, GoOp.isStep] at step
    rw [trimmed_line noPath (show _ = [c] ++ c :: [] by rw [right, if_pos step, twice]; rfl) solid,
      twice]
    rfl
  have leading : leadingVariable directIncrDecrPattern _ = _ := leadingVariable_of_first
    ((first_noBlanks (s.target.base.solid _)).seq
      ((first_captured s.target.base (s.gap.stop_id (s.op.stops []))).seq (first_step s.gap step [])))
  obtain ⟨call, found⟩ := isSome_iff_exists.mp
    (goTargetCall_isSome outside (s.target.base.name ++ " (direct increment/decrement)"))
  have direct : checkDirectMutation ctx (trimChars s.line.toList) = some call := by
    rw [checkDirectMutation, trimmed, leading, bind_some, found]
  simp [goLineImpure, s.notComment, direct]

/-- An assignment of a variable: the line is cut after the first character of the value. -/
theorem found_variableAssign (noPath : s.target.path = []) (direct : s.op.isDirect = true)
    (unquoted : occurs [':', '='] (s.indent.chars ++ s.core) = false)
    (ordinary : ¬ (s.target.base.name = "err" ∨ s.target.base.name = "_")) :
    goLineImpure ctx s.line ≠ [] := by
  have noStep : ¬ s.op.isStep = true := by
    cases op : s.op <;> simp_all [GoOp.isStep, GoOp.isDirect]
  have trimmed := trimmed_line noPath
    (show _ = (s.op.chars ++ s.space.chars) ++ s.value.head :: s.value.tail by
      rw [right, if_neg noStep, append_assoc]) s.value.notBlank
  rw [append_assoc] at trimmed
  have short : occurs [':', '='] (trimChars s.line.toList) = false := by
    rw [← not_eq_true, occurs_iff]
    intro mem
    have whole := (occurs_iff _ _).mpr (mem.trans (trimChars_isInfix s.line.toList))
    rw [s.line_toList, unquoted] at whole
    exact false_ne_true whole
  have leading := leadingVariable_of_first (first_variableAssign s.target.base s.gap direct
    s.space s.value.notBlank s.value.notEqual (trimEnd s.value.tail))
  obtain ⟨call, found⟩ := isSome_iff_exists.mp
    (goTargetCall_isSome outside (s.target.base.name ++ " (direct assignment)"))
  have assignment : checkDirectAssignment ctx (trimChars s.line.toList) = some call := by
    rw [checkDirectAssignment, trimmed, leading, bind_some, if_neg ordinary, found]
  simp [goLineImpure, s.notComment, short, assignment]

end Found

/-! ### The covered forms -/

theorem GoAssignment.NonLocal.outside {body : String} {params : List String}
    {receiver : Option String} (nonLocal : s.NonLocal body params receiver) :
    (buildGoScope body params receiver).isLocal s.target.base.name = false := by
  obtain ⟨sameParameters, sameReceiver⟩ := buildGoScope_signature body params receiver
  have known : receiver = some s.target.base.name ∨ s.target.base.name ∈ params ∨
      s.target.base.name ∉ (buildGoScope body params receiver).localVars := by
    unfold GoAssignment.NonLocal at nonLocal
    split at nonLocal
    · exact .inr (.inr nonLocal.2.2.1)
    · exact nonLocal
  rw [← not_eq_true]
  intro inBody
  simp only [GoScope.isLocal, GoScope.isReceiver, sameParameters, sameReceiver, and_eq_true,
    decide_eq_true_eq, not_eq_true', decide_eq_false_iff_not] at inBody
  rcases known with isReceiver | isParameter | undeclared
  · exact inBody.1.2 isReceiver
  · exact inBody.1.1.2 isParameter
  · exact undeclared inBody.1.1.1

theorem GoAssignment.core_assign (isAssign : s.op = .assign) :
    s.core = s.target.base.chars ++ (s.target.path ++ (s.gap.chars ++ '=' :: s.right)) := by
  rw [core, isAssign]
  rfl

section Covered

variable {ctx : GoScope} {s : GoAssignment} (outside : ctx.isLocal s.target.base.name = false)
include outside

theorem covered_field {base name : Identifier} (target : s.target = .field base name)
    (covered : goCovered .field s.op = true) : goLineImpure ctx s.line ≠ [] := by
  by_cases step : s.op.isStep = true
  · have first : First fieldIncrDecrPattern s.core s.right [s.target.base.chars, s.op.chars] := by
      rw [core, target]
      exact first_field base name (first_step s.gap step s.right) (s.gap.stop_id (s.op.stops s.right))
    have calls : goTargetCalls fieldIncrDecrPattern "field increment/decrement" ctx
      s.line.toList ≠ [] := calls_of_first outside first
    simp [goLineImpure, s.notComment, calls]
  · have isAssign : s.op = .assign := by
      cases op : s.op <;> simp_all [goCovered, GoOp.isStep]
    have noIndex : ∀ c ∈ (s.gap.chars ++ '=' :: s.right).head?, c ≠ '[' :=
      s.gap.head (by decide) (by decide) (by simp)
    have skipped : First (.opt indexRx) (s.gap.chars ++ '=' :: s.right)
        (s.gap.chars ++ '=' :: s.right) [] :=
      .optSkipped (Fails.seq (Fails.one fun c first => by simpa using noIndex c first) _)
    have first : First fieldAssignPattern s.core s.right [s.target.base.chars] := by
      rw [s.core_assign isAssign, target]
      exact first_field base name (skipped.seq (first_blanks_equals s.gap s.right))
        (s.gap.stop_id (stops_cons rfl rfl _))
    exact found_fieldAssign outside first

theorem covered_element {base : Identifier} {index : Index} (target : s.target = .element base index)
    (isAssign : s.op = .assign) : goLineImpure ctx s.line ≠ [] := by
  have first : First indexAssignPattern s.core s.right [s.target.base.chars] := by
    rw [s.core_assign isAssign, target]
    simpa [GoTarget.path, GoTarget.base] using first_elementAssign base index s.gap s.right
  have calls : goTargetCalls indexAssignPattern "index assignment" ctx s.line.toList ≠ [] :=
    calls_of_first outside first
  simp [goLineImpure, s.notComment, calls]

theorem covered_fieldElement {base name : Identifier} {index : Index}
    (target : s.target = .fieldElement base name index) (isAssign : s.op = .assign) :
    goLineImpure ctx s.line ≠ [] := by
  have taken : First fieldAssignPattern _ s.right [base.chars] := first_field base name
    ((First.optTaken (first_index index _)).seq (first_blanks_equals s.gap s.right))
    fun c first => (stops_cons rfl rfl _ c first).1
  have first : First fieldAssignPattern s.core s.right [s.target.base.chars] := by
    rw [s.core_assign isAssign, target]
    simpa [GoTarget.path, GoTarget.base] using taken
  exact found_fieldAssign outside first

theorem covered_plain (target : s.target = .plain x) (covered : goCovered s.shape s.op = true)
    (named : x.name ≠ "_") : goLineImpure ctx s.line ≠ [] := by
  have noPath : s.target.path = [] := by
    rw [target]
    rfl
  unfold GoAssignment.shape at covered
  rw [target] at covered
  dsimp only at covered
  by_cases step : s.op.isStep = true
  · exact found_variableStep outside noPath step
  · by_cases quoting : occurs [':', '='] (s.indent.chars ++ s.core) = true
    · rw [if_pos (by simp [step, quoting])] at covered
      cases op : s.op <;> simp_all [goCovered, GoOp.isStep]
    · rw [if_neg (by simp [quoting])] at covered
      by_cases isErr : x.name = "err"
      · rw [if_pos isErr] at covered
        cases op : s.op <;> simp_all [goCovered, GoOp.isStep]
      · rw [if_neg isErr] at covered
        have direct : s.op.isDirect = true := by
          cases op : s.op <;> simp_all [goCovered, GoOp.isStep, GoOp.isDirect]
        have base_eq : s.target.base.name = x.name := by
          rw [target]
          rfl
        refine found_variableAssign outside noPath direct (by simpa using quoting) ?_
        rw [base_eq]
        exact fun reserved => reserved.elim isErr named

end Covered

/-- **A covered form is reported wherever it stands.** -/
theorem goCovered_detected {shape : GoShape} (covered : goCovered shape op = true) :
    GoDetects shape op := by
  intro s isShape isOp body params receiver mem nonLocal
  refine analyzeGoBody_reports mem ?_
  have outside := nonLocal.outside
  subst isShape isOp
  have onlyAssign : ∀ shape, shape = .element ∨ shape = .fieldElement →
      goCovered shape s.op = true → s.op = .assign := by
    rintro _ (rfl | rfl) covered <;> cases op : s.op <;> simp_all [goCovered]
  cases target : s.target with
  | field base name =>
    exact covered_field outside target (by simpa [shape, target] using covered)
  | element base index =>
    refine covered_element outside target (onlyAssign .element (.inl rfl) ?_)
    simpa [shape, target] using covered
  | fieldElement base name index =>
    refine covered_fieldElement outside target (onlyAssign .fieldElement (.inr rfl) ?_)
    simpa [shape, target] using covered
  | plain x =>
    refine covered_plain outside target covered ?_
    simp only [GoAssignment.NonLocal, target] at nonLocal
    exact nonLocal.2.2.2
  | nestedField _ _ _ | elementField _ _ _ | nestedElement _ _ _ =>
    simp [shape, target, goCovered] at covered

/-! ### The other forms are not -/

instance (s : GoAssignment) (body : String) (parameters : List String) (receiver : Option String) :
    Decidable (s.NonLocal body parameters receiver) := by
  unfold GoAssignment.NonLocal
  exact match s.target with
    | .plain _ => inferInstance
    | .field _ _ | .element _ _ | .fieldElement _ _ _ | .nestedField _ _ _ | .elementField _ _ _
    | .nestedElement _ _ _ => inferInstance

/-- A target of each shape, over the receiver `s` and the parameter `p`. -/
def sampleTarget : GoShape → GoTarget
  | .field => .field s f
  | .element => .element p zero
  | .fieldElement => .fieldElement s f zero
  | .nestedField => .nestedField s g f
  | .elementField => .elementField p zero f
  | .nestedElement => .nestedElement p s zero
  | .plainVariable | .quotingVariable => .plain f
  | .errVariable => .plain ⟨'e', ['r', 'r'], rfl, all_eq_true.mp rfl⟩
where
  s : Identifier := .letter 's' rfl
  p : Identifier := .letter 'p' rfl
  f : Identifier := .letter 'f' rfl
  g : Identifier := .letter 'g' rfl
  zero : Index := ⟨['0'], by decide⟩

def sample (shape : GoShape) (op : GoOp) : GoAssignment where
  indent := .none
  target := sampleTarget shape
  gap := .none
  op := op
  space := .none
  value := match shape with
    | .quotingVariable => ⟨'"', [':', '=', '"'], by decide, by decide⟩
    | _ => ⟨'1', [], by decide, by decide⟩

/-- A body with the statement. The analysis takes the inner part `g.f` of the nested field for a
field of the local variable `g`. -/
def sampleBody (shape : GoShape) (op : GoOp) : String :=
  match shape with
  | .nestedField => "g:=0\n" ++ (sample shape op).line
  | _ => (sample shape op).line

theorem sample_silent (shape : GoShape) : ∀ op ∈ GoOp.all, goCovered shape op = false →
    (sample shape op).shape = shape ∧ (sample shape op).line ∈ lines (sampleBody shape op) ∧
      (sample shape op).NonLocal (sampleBody shape op) ["p"] (some "s") ∧
      (analyzeGoBody (sampleBody shape op) ["p"] (some "s")).impureCalls = [] := by
  cases shape <;> decide +kernel

/-- **Every other form can go unreported.** -/
theorem goUncovered_silent {shape : GoShape} (uncovered : goCovered shape op = false) :
    ¬ GoDetects shape op := by
  intro detects
  obtain ⟨isShape, mem, nonLocal, silent⟩ := sample_silent shape op op.mem_all uncovered
  exact detects (sample shape op) isShape rfl _ ["p"] (some "s") mem nonLocal silent

theorem goDetects_iff (shape : GoShape) (op : GoOp) :
    GoDetects shape op ↔ goCovered shape op = true := by
  refine ⟨fun detects => ?_, goCovered_detected⟩
  cases covered : goCovered shape op with
  | true => rfl
  | false => exact absurd detects (goUncovered_silent covered)

end Detrix.Lsp
