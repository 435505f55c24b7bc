/-
**JSON documents of depth one.**

A document is a scalar, an array of scalars or an object whose fields are scalars. `JsonText` writes
and reads such documents: it reads back what it has written, and nothing else is known about the
texts. `JsonText.unary` is one of them.
-/

import Mathlib.Logic.Encodable.Basic
import Mathlib.Logic.Equiv.List

namespace Detrix.Library

inductive Scalar where
  | null
  | bool (value : Bool)
  | number (value : Nat)
  | string (value : String)

inductive Json where
  | scalar (value : Scalar)
  | array (items : List Scalar)
  | object (fields : List (String × Scalar))

/-! ### Reading a document -/

namespace Scalar

def asU64 : Scalar → Option Nat
  | number value => some value
  | _ => none

def asString : Scalar → Option String
  | string value => some value
  | _ => none

end Scalar

namespace Json

def field (key : String) : Json → Option Scalar
  | object fields => fields.lookup key
  | _ => none

/-- `value[key]`: a missing field reads as null. -/
def index (document : Json) (key : String) : Scalar := (document.field key).getD .null

def strings : Json → Option (List String)
  | array items => items.mapM Scalar.asString
  | _ => none

theorem strings_array (texts : List String) : (array (texts.map .string)).strings = some texts := by
  rw [strings]
  induction texts with
  | nil => rfl
  | cons text texts ih => rw [List.map_cons, List.mapM_cons, ih]; rfl

end Json

/-! ### Texts -/

/-- **Texts of documents.** -/
structure JsonText where
  write : Json → String
  read : String → Except String Json
  /-- What is said about a document of another type than the one that is asked for. -/
  mismatch : String
  read_write : ∀ document, read (write document) = .ok document

namespace JsonText

/-- A character is coded by its number, a text by its characters. -/
instance charCode : Encodable Char :=
  .ofLeftInverse Char.toNat Char.ofNat Char.ofNat_toNat

instance stringCode : Encodable String :=
  .ofLeftInverse String.toList String.ofList fun _ => String.ofList_toList

instance scalarCode : Encodable Scalar :=
  .ofLeftInverse
    (fun
      | .null => (none : Option (Bool ⊕ Nat ⊕ String))
      | .bool value => some (.inl value)
      | .number value => some (.inr (.inl value))
      | .string value => some (.inr (.inr value)))
    (fun
      | none => .null
      | some (.inl value) => .bool value
      | some (.inr (.inl value)) => .number value
      | some (.inr (.inr value)) => .string value)
    (by rintro (_ | _ | _ | _) <;> rfl)

instance documentCode : Encodable Json :=
  .ofLeftInverse
    (fun
      | .scalar value => (.inl value : Scalar ⊕ List Scalar ⊕ List (String × Scalar))
      | .array items => .inr (.inl items)
      | .object fields => .inr (.inr fields))
    (fun
      | .inl value => .scalar value
      | .inr (.inl items) => .array items
      | .inr (.inr fields) => .object fields)
    (by rintro (_ | _ | _) <;> rfl)

/-- A document written as its number in unary. -/
def unary : JsonText where
  write document := String.ofList (List.replicate (documentCode.encode document) '1')
  read text :=
    match documentCode.decode text.toList.length with
    | some document => .ok document
    | none => .error "expected value"
  mismatch := "invalid type"
  read_write document := by
    rw [String.toList_ofList, List.length_replicate, documentCode.encodek]

end JsonText

end Detrix.Library
