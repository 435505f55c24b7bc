/-
**The capture plan.**

The language-neutral description of what a probe reads, and the check a plan has to pass.

- `CapturePlan.validate`: the bounds of the plan, its fields one after the other, and the operation of each.
- `CapturePlan.validateOp_of_validate`, `piece_inside`: what is known of the fields of an accepted plan.
-/

import Detrix.Ebpf.Locations
import Detrix.Library.Program
import Detrix.Library.Text
import Mathlib.Algebra.Ring.Nat

namespace Detrix.Ebpf

open Library

/-! ### Limits -/

def capturePlanSchemaVersion : UInt16 := 1
def maxCaptureFields : Nat := 64
def maxCapturePayloadBytes : Nat := 4096
def maxCaptureOpBytes : Nat := 4096
def maxCaptureOpDepth : Nat := 8

def saturatingAdd (a b : Nat) : Nat := min (a + b) (2 ^ 64 - 1)

def checkedAdd (a b : Nat) : Option Nat := if a + b < 2 ^ 64 then some (a + b) else none

theorem checkedAdd_eq_some_iff {a b c : Nat} : checkedAdd a b = some c ↔ a + b < 2 ^ 64 ∧ a + b = c := by
  unfold checkedAdd
  split
  · rename_i small
    simp only [Option.some.injEq, small, true_and]
  · rename_i large
    simp only [reduceCtorEq, large, false_and]

theorem checkedAdd_of_lt {a b : Nat} (small : a + b < 2 ^ 64) : checkedAdd a b = some (a + b) :=
  checkedAdd_eq_some_iff.mpr ⟨small, rfl⟩

/-! ### Operations -/

inductive ValueSemantics where
  | value
  | address
  | derefAddress

inductive HeaderKind where
  | string
  | rustString
  | borrowedStr
  | slice
  | rustVec
  | borrowedSlice
  deriving DecidableEq

/-- The header is that of a text: its bytes are captured, and it has no capacity. -/
def HeaderKind.isText : HeaderKind → Bool
  | .string | .rustString | .borrowedStr => true
  | .slice | .rustVec | .borrowedSlice => false

/-- A piece of a value that is put together, over the type of the operations. -/
structure PlacedPiece (α : Type) where
  offset : Nat
  size : Nat
  op : Option α

inductive ReadOp where
  | register (register : Register) (semantics : ValueSemantics)
  | stack (offset : Int) (size : Nat) (semantics : ValueSemantics)
  | frame (register : Register) (offset : Int) (size : Nat) (semantics : ValueSemantics)
  | blob (offset : Int) (size : Nat) (semantics : ValueSemantics)
  | indirect (base : ReadOp) (size : Nat)
  | map (base : ReadOp)
  | header (base : ReadOp) (size : Nat) (kind : HeaderKind)
  | headerExplicit (ptr len : ReadOp) (cap : Option ReadOp) (size : Nat) (kind : HeaderKind)
  | cfa (offset : Int) (size : Nat) (semantics : ValueSemantics)
  | userBytes (addressField : UInt16) (size : Nat)
  | constant (bytes : List UInt8)
  | piece (offset size : Nat) (op : ReadOp)
  | piecewise (pieces : List (PlacedPiece ReadOp))
  | unavailable (reason : String)

abbrev CapturePiece := PlacedPiece ReadOp

structure CaptureField where
  name : String
  offset : Nat
  size : Nat
  op : ReadOp

structure CapturePlan where
  schemaVersion : UInt16
  architecture : TargetArchitecture
  profileId : String
  planHash : String
  probePc : Nat
  fields : List CaptureField
  maxPayloadBytes : Nat

inductive PlanError where
  | unsupportedSchema (version : UInt16)
  | missingProfile
  | emptyFields
  | invalidField (message : String)
  | tooManyFields (count limit : Nat)
  | tooLarge
  | payloadLimit (required limit : Nat)
  | missingPlanHash
  deriving DecidableEq

/-! ### The check of an operation -/

def checkReadSize (size : Nat) : Except PlanError Unit :=
  if size = 0 ∨ size > maxCaptureOpBytes then
    .error (.invalidField ("read size " ++ toString size ++ " exceeds limit"))
  else .ok ()

def overlaps (ranges : List (Nat × Nat)) (start stop : Nat) : Bool :=
  ranges.any fun range => start < range.2 && range.1 < stop

mutual

def validateOp (op : ReadOp) (fieldCount depth fieldSize : Nat) : Except PlanError Unit :=
  if depth > maxCaptureOpDepth then
    .error (.invalidField "read operation nesting exceeds limit")
  else
    match op with
    | .stack _ size _ | .frame _ _ size _ | .blob _ size _ | .cfa _ size _ => checkReadSize size
    | .indirect base size => do
      checkReadSize size
      validateOp base fieldCount (depth + 1) fieldSize
    | .constant bytes =>
      if bytes.isEmpty ∨ bytes.length > maxCaptureOpBytes then
        .error (.invalidField "invalid constant size")
      else .ok ()
    | .userBytes addressField size => do
      checkReadSize size
      if addressField.toNat ≥ fieldCount then
        .error (.invalidField "user-byte address field out of range")
      else .ok ()
    | .piece offset size op =>
      if size = 0 ∨ (checkedAdd offset size).isNone then
        .error (.invalidField "invalid piece bounds")
      else if offset + size > fieldSize then
        .error (.invalidField "piece extends beyond field payload")
      else validateOp op fieldCount (depth + 1) size
    | .piecewise pieces =>
      if pieces.isEmpty then .error (.invalidField "piecewise operation has no pieces")
      else validatePieces pieces fieldCount depth fieldSize []
    | .header base size _ => do
      checkReadSize size
      validateOp base fieldCount (depth + 1) size
    | .headerExplicit ptr len cap size _ => do
      checkReadSize size
      validateOp ptr fieldCount (depth + 1) 8
      validateOp len fieldCount (depth + 1) 8
      validateCap cap fieldCount depth
    | .map base => validateOp base fieldCount (depth + 1) fieldSize
    | .register _ _ | .unavailable _ => .ok ()

def validatePieces (pieces : List (PlacedPiece ReadOp)) (fieldCount depth fieldSize : Nat)
    (ranges : List (Nat × Nat)) : Except PlanError Unit :=
  match pieces with
  | [] => .ok ()
  | ⟨offset, size, op⟩ :: rest =>
    if size = 0 ∨ (checkedAdd offset size).isNone then
      .error (.invalidField "invalid piecewise bounds")
    else if offset + size > fieldSize then
      .error (.invalidField "piecewise piece extends beyond field payload")
    else if overlaps ranges offset (offset + size) then
      .error (.invalidField "piecewise pieces overlap another piece")
    else do
      match op with
      | some op => validateOp op fieldCount (depth + 1) size
      | none => .ok ()
      validatePieces rest fieldCount depth fieldSize (ranges ++ [(offset, offset + size)])

/-- The capacity of a header with words of its own, if it has one. -/
def validateCap (cap : Option ReadOp) (fieldCount depth : Nat) : Except PlanError Unit :=
  match cap with
  | some cap => validateOp cap fieldCount (depth + 1) 8
  | none => .ok ()

end

/-! ### The check of a plan -/

def validateFields (fieldCount : Nat) :
    List CaptureField → List (Nat × Nat) → Nat → Except PlanError Nat
  | [], _, finish => .ok finish
  | field :: rest, ranges, finish =>
    if (Text.trim field.name).isEmpty then .error (.invalidField "empty field name")
    else if field.size = 0 then .error (.invalidField (field.name ++ " has zero size"))
    else
      match checkedAdd field.offset field.size with
      | none => .error .tooLarge
      | some fieldEnd =>
        if overlaps ranges field.offset fieldEnd then
          .error (.invalidField (field.name ++ " overlaps another field"))
        else
          match validateOp field.op fieldCount 0 field.size with
          | .error error => .error error
          | .ok () =>
            validateFields fieldCount rest (ranges ++ [(field.offset, fieldEnd)]) (max finish fieldEnd)

def CapturePlan.validate (plan : CapturePlan) : Except PlanError Unit :=
  if plan.schemaVersion ≠ capturePlanSchemaVersion then
    .error (.unsupportedSchema plan.schemaVersion)
  else if (Text.trim plan.profileId).isEmpty then .error .missingProfile
  else if plan.fields.isEmpty then .error .emptyFields
  else if plan.fields.length > maxCaptureFields then
    .error (.tooManyFields plan.fields.length maxCaptureFields)
  else if plan.maxPayloadBytes = 0 ∨ plan.maxPayloadBytes > maxCapturePayloadBytes then
    .error (.payloadLimit plan.maxPayloadBytes maxCapturePayloadBytes)
  else
    match validateFields plan.fields.length plan.fields [] 0 with
    | .error error => .error error
    | .ok finish =>
      if finish > plan.maxPayloadBytes then .error (.payloadLimit finish plan.maxPayloadBytes)
      else if (Text.trim plan.planHash).isEmpty then .error .missingPlanHash
      else .ok ()

/-! ### Accepted plans -/

variable {fieldCount finish stop : Nat} {field : CaptureField} {ranges : List (Nat × Nat)}
  {plan : CapturePlan}

theorem validateFields_cons {rest : List CaptureField}
    (checked : validateFields fieldCount (field :: rest) ranges finish = .ok stop) :
    field.size ≠ 0 ∧ validateOp field.op fieldCount 0 field.size = .ok () ∧
      ∃ ranges, validateFields fieldCount rest ranges (max finish (field.offset + field.size)) = .ok stop := by
  rw [validateFields, ite_error_eq_ok, ite_error_eq_ok] at checked
  obtain ⟨-, some, checked⟩ := checked
  split at checked
  · cases checked
  rename_i fieldEnd isEnd
  rw [ite_error_eq_ok] at checked
  replace checked := checked.2
  split at checked
  · cases checked
  rename_i ok
  rw [← (checkedAdd_eq_some_iff.mp isEnd).2] at checked
  exact ⟨some, ok, _, checked⟩

section
variable {fields : List CaptureField}
  (checked : validateFields fieldCount fields ranges finish = .ok stop)
include checked

theorem of_validateFields : finish ≤ stop ∧ ∀ field ∈ fields, (field.size ≠ 0 ∧
    validateOp field.op fieldCount 0 field.size = .ok ()) ∧ field.offset + field.size ≤ stop := by
  induction fields generalizing ranges finish with
  | nil => cases checked; exact ⟨Nat.le_refl _, nofun⟩
  | cons field rest ih =>
    obtain ⟨some, ok, ranges, later⟩ := validateFields_cons checked
    obtain ⟨atLeast, others⟩ := ih later
    refine ⟨by omega, fun other among => ?_⟩
    rcases List.mem_cons.mp among with rfl | among
    · exact ⟨⟨some, ok⟩, by omega⟩
    · exact others other among

end

section
variable (valid : plan.validate = .ok ())
include valid

theorem CapturePlan.validate_spec :
    plan.fields.length ≤ maxCaptureFields ∧ plan.maxPayloadBytes ≤ maxCapturePayloadBytes ∧
      ∃ finish, validateFields plan.fields.length plan.fields [] 0 = .ok finish ∧
        finish ≤ plan.maxPayloadBytes := by
  simp only [CapturePlan.validate, ite_error_eq_ok] at valid
  obtain ⟨-, -, -, count, payload, valid⟩ := valid
  split at valid
  · cases valid
  rename_i finish checked
  have mem := (ite_error_eq_ok.mp valid).1
  exact ⟨Nat.not_lt.mp count, Nat.not_lt.mp (not_or.mp payload).2, finish, checked, Nat.not_lt.mp mem⟩

theorem CapturePlan.validateOp_of_validate (among : field ∈ plan.fields) :
    field.size ≠ 0 ∧ validateOp field.op plan.fields.length 0 field.size = .ok () := by
  obtain ⟨-, -, finish, checked, -⟩ := CapturePlan.validate_spec valid
  exact ((of_validateFields checked).2 field among).1

theorem CapturePlan.size_le_of_validate (among : field ∈ plan.fields) :
    field.size ≤ maxCapturePayloadBytes := by
  obtain ⟨-, payload, finish, checked, mem⟩ := CapturePlan.validate_spec valid
  have ends := ((of_validateFields checked).2 field among).2
  omega

end

theorem piece_inside {offset size depth fieldSize : Nat} {op : ReadOp}
    (ok : validateOp (.piece offset size op) fieldCount depth fieldSize = .ok ()) :
    size ≠ 0 ∧ offset + size ≤ fieldSize := by
  simp only [validateOp, ite_error_eq_ok] at ok
  obtain ⟨-, bounds, mem, -⟩ := ok
  exact ⟨(not_or.mp bounds).1, Nat.not_lt.mp mem⟩

end Detrix.Ebpf
