/-
**Slots of maps.**

A slot of a Go map is a struct of a key and a value, whose layout is computed from the sizes of the two.

- `GoType.decl`: size and alignment of the types of Go.
- `slot_layout_iff`: the layout is Go's exactly if the key has bytes and the alignments guessed from the
  sizes divide the offset of the value and the size of the slot.
- `byte_arrays_misplaced`: a key of four bytes that is aligned to one.
-/

import Detrix.Ebpf.Locations
import Detrix.Library.CStruct
import Detrix.Library.Text
import Mathlib.Algebra.Divisibility.Basic

namespace Detrix.Ebpf

open Library CStruct Nat

/-! ### The computed layout -/

def isRustOwnedStringName (name : String) : Bool :=
  name = "String" || name = "alloc::string::String" || name = "std::string::String" ||
    "::String".toList.isSuffixOf name.toList

/-- The bytes of a type that only its name is known of. -/
def knownTypeByteSize (name : String) : Nat :=
  if name = "string" then 16
  else if name ∈ ["bool", "int8", "uint8", "byte"] then 1
  else if name ∈ ["int16", "uint16"] then 2
  else if name ∈ ["int32", "uint32", "float32", "rune"] then 4
  else if name ∈ ["int", "int64", "uint", "uint64", "uintptr", "float64", "complex64", "error"] then 8
  else if name = "complex128" then 16
  else if Text.startsWith name "*" then 8
  else if Text.startsWith name "[]" then 24
  else 8

/-- A scalar that is marked or named as a string. -/
def NestedType.isText : NestedType → Bool
  | .scalar typeInfo => typeInfo.isString || typeInfo.name = "string"
  | _ => false

def slotTypeSizeFallback (nested : Option NestedType) (typeName : String) : Nat :=
  match nested with
  | some n =>
    if n.isText then if isRustOwnedStringName n.typeInfo.name then 24 else 16
    else if 0 < n.typeInfo.byteSize then n.typeInfo.byteSize else knownTypeByteSize n.typeInfo.name
  | none => knownTypeByteSize typeName

def alignOf : Nat → Nat
  | 0 | 1 => 1
  | 2 => 2
  | 3 | 4 => 4
  | _ => 8

def alignUp (n align : Nat) : Nat := if align = 0 then n else roundUp n align

def computeSlotLayout (keyNested valNested : Option NestedType) (keyType valType : String) : Nat × Nat :=
  let keySize := slotTypeSizeFallback keyNested keyType
  let valSize := slotTypeSizeFallback valNested valType
  let valOffset := alignUp keySize (alignOf valSize)
  (valOffset, alignUp (valOffset + valSize) (max (alignOf keySize) (alignOf valSize)))

/-! ### Types of Go -/

/-- The scalars by their sizes; a complex number is aligned as its parts are. -/
inductive GoScalar where
  | bits8 | bits16 | bits32 | bits64 | complex64 | complex128

inductive GoType where
  | scalar (kind : GoScalar)
  | pointer
  | string
  | slice
  | array (count : Nat) (element : GoType)
  | struct (fields : List GoType)

def GoScalar.decl : GoScalar → Decl Unit
  | .bits8 => ⟨(), 1, 1⟩
  | .bits16 => ⟨(), 2, 2⟩
  | .bits32 => ⟨(), 4, 4⟩
  | .bits64 => ⟨(), 8, 8⟩
  | .complex64 => ⟨(), 8, 4⟩
  | .complex128 => ⟨(), 16, 8⟩

/-- The size of a struct of Go. One that has bytes does not end with a field without any. -/
def goSizeof (members : List (Decl Unit)) : Nat :=
  let stop := finish 0 members
  roundUp (if 0 < stop ∧ members.getLast?.any (·.size = 0) then stop + 1 else stop) (alignment members)

mutual

/-- Size and alignment of a type on amd64. -/
def GoType.decl : GoType → Decl Unit
  | .scalar kind => kind.decl
  | .pointer => ⟨(), 8, 8⟩
  | .string => ⟨(), 16, 8⟩
  | .slice => ⟨(), 24, 8⟩
  | .array count element => ⟨(), count * element.decl.size, element.decl.align⟩
  | .struct fields => ⟨(), goSizeof (decls fields), alignment (decls fields)⟩

def decls : List GoType → List (Decl Unit)
  | [] => []
  | field :: rest => field.decl :: decls rest

end

/-- **Go's layout** of a struct of a key and a value: the offset of the value, and the size. -/
def GoType.slot (key value : GoType) : Nat × Nat :=
  (roundUp key.decl.size value.decl.align, (GoType.struct [key, value]).decl.size)

/-- A type as it is found in the debug information: with its size, marked as a string only if it is
one, and not with the name of a scalar if it has no bytes. -/
structure NestedType.Describes (nested : NestedType) (type : GoType) : Prop where
  size : nested.typeInfo.byteSize = type.decl.size
  text : nested.isText = true →
    type.decl.size = 16 ∧ isRustOwnedStringName nested.typeInfo.name = false
  named : type.decl.size = 0 → knownTypeByteSize nested.typeInfo.name = 8

/-! ### Alignments -/

theorem max_dvd {a b : Nat} (left : a ∣ 8) (right : b ∣ 8) : max a b ∣ 8 := by
  rcases max_choice a b with same | same <;> rwa [same]

mutual

theorem GoType.align_dvd : ∀ type : GoType, type.decl.align ∣ 8
  | .scalar kind => by cases kind <;> decide
  | .pointer | .string | .slice => by decide
  | .array _ element => element.align_dvd
  | .struct fields => alignment_decls_dvd fields

theorem alignment_decls_dvd : ∀ fields : List GoType, alignment (decls fields) ∣ 8
  | [] => by decide
  | field :: rest => max_dvd field.align_dvd (alignment_decls_dvd rest)

end

theorem GoType.align_dvd_size : ∀ type : GoType, type.decl.align ∣ type.decl.size
  | .scalar kind => by cases kind <;> decide
  | .pointer | .string | .slice => by decide
  | .array count element => element.align_dvd_size.mul_left count
  | .struct _ => dvd_roundUp _ _

/-- The size that is taken for a type: one without bytes counts as a word. -/
def GoType.taken (type : GoType) : Nat := if 0 < type.decl.size then type.decl.size else 8

theorem alignOf_dvd (size : Nat) : alignOf size ∣ 8 := by
  unfold alignOf
  split <;> decide

theorem alignOf_pos (size : Nat) : 0 < alignOf size :=
  pos_of_dvd_of_pos (alignOf_dvd size) (by decide)

theorem gcd_dvd_alignOf {size : Nat} (some : 0 < size) : Nat.gcd size 8 ∣ alignOf size := by
  unfold alignOf
  split <;> first | exact Nat.gcd_dvd_right _ _ | decide | omega

/-- **The guess is never too small**: it is a multiple of the alignment. -/
theorem GoType.align_dvd_alignOf (type : GoType) : type.decl.align ∣ alignOf type.taken := by
  unfold GoType.taken
  split
  next some => exact (Nat.dvd_gcd type.align_dvd_size type.align_dvd).trans (gcd_dvd_alignOf some)
  next => exact type.align_dvd

theorem dvd_max : ∀ a ≤ 8, ∀ b ≤ 8, a ∣ 8 → b ∣ 8 → a ∣ max a b := by decide

theorem max_dvd_max {a b c d : Nat} (left : a ∣ c) (right : b ∣ d) (first : c ∣ 8) (second : d ∣ 8) :
    max a b ∣ max c d := by
  have small {n : Nat} (divides : n ∣ 8) : n ≤ 8 := le_of_dvd (by decide) divides
  rcases max_choice a b with same | same <;> rw [same]
  · exact left.trans (dvd_max c (small first) d (small second) first second)
  · rw [max_comm]
    exact right.trans (dvd_max d (small second) c (small first) second first)

/-! ### The layout -/

theorem slotTypeSize_of_describes {nested : NestedType} {type : GoType}
    (describes : nested.Describes type) (name : String) :
    slotTypeSizeFallback (some nested) name = type.taken := by
  obtain ⟨size, text, named⟩ := describes
  rw [slotTypeSizeFallback, GoType.taken, size]
  by_cases isText : nested.isText = true
  · obtain ⟨long, notOwned⟩ := text isText
    rw [if_pos isText, notOwned, long]
    rfl
  · rw [if_neg isText]
    split
    · rfl
    · exact named (by omega)

/-- **The alignments guessed from the sizes** hold in Go's layout of the slot. -/
def GuessesHold (key value : GoType) : Prop :=
  0 < key.decl.size ∧ alignOf value.taken ∣ (key.slot value).1 ∧
    max (alignOf key.taken) (alignOf value.taken) ∣ (key.slot value).2

theorem slot_size (key value : GoType) (some : 0 < key.decl.size) :
    (key.slot value).2 =
      roundUp ((key.slot value).1 + if 0 < value.decl.size then value.decl.size else 1)
        (max key.decl.align value.decl.align) := by
  have pos : 0 < value.decl.align := pos_of_dvd_of_pos value.align_dvd (by decide)
  have long := le_roundUp key.decl.size pos
  have stop : finish 0 (decls [key, value]) = (key.slot value).1 + value.decl.size := by
    show roundUp (roundUp 0 _ + _) _ + _ = _
    rw [roundUp_of_dvd (Nat.dvd_zero _), Nat.zero_add]
    rfl
  have aligned : alignment (decls [key, value]) = max key.decl.align value.decl.align := by
    show max _ (max _ 1) = _
    rw [Nat.max_eq_left pos]
  have begun : 0 < (key.slot value).1 := lt_of_lt_of_le some long
  show goSizeof (decls [key, value]) = _
  rw [goSizeof, stop, aligned]
  congr 1
  rcases Nat.eq_zero_or_pos value.decl.size with none | has
  · have ends : (decls [key, value]).getLast?.any (·.size = 0) = true := decide_eq_true none
    rw [if_pos ⟨Nat.lt_add_right _ begun, ends⟩, none]
    rfl
  · have ends : (decls [key, value]).getLast?.any (·.size = 0) = false :=
      decide_eq_false (ne_of_gt has)
    rw [if_pos has, ends, if_neg (by simp)]

/-- **The slots are laid out as Go does it** exactly if the guessed alignments hold. -/
theorem slot_layout_iff {key value : GoType} {keyNested valNested : NestedType}
    (isKey : keyNested.Describes key) (isValue : valNested.Describes value) (keyType valType : String) :
    computeSlotLayout (some keyNested) (some valNested) keyType valType = key.slot value ↔
      GuessesHold key value := by
  have pos : 0 < max (alignOf key.taken) (alignOf value.taken) := lt_max_of_lt_left (alignOf_pos _)
  rw [computeSlotLayout, slotTypeSize_of_describes isKey, slotTypeSize_of_describes isValue, alignUp,
    if_neg (alignOf_pos _).ne', alignUp, if_neg pos.ne', Prod.ext_iff]
  dsimp only
  by_cases some : 0 < key.decl.size
  · have offset : roundUp key.taken (alignOf value.taken) = (key.slot value).1 ↔
        alignOf value.taken ∣ (key.slot value).1 := by
      rw [GoType.taken, if_pos some]
      exact roundUp_eq_iff (alignOf_pos _) value.align_dvd_alignOf
    have divides : max key.decl.align value.decl.align ∣
        max (alignOf key.taken) (alignOf value.taken) :=
      max_dvd_max key.align_dvd_alignOf value.align_dvd_alignOf (alignOf_dvd _) (alignOf_dvd _)
    rw [GuessesHold, and_iff_right some, ← offset]
    refine and_congr_right fun same => ?_
    rw [same, slot_size key value some, ← roundUp_eq_iff pos divides]
    by_cases has : 0 < value.decl.size
    · rw [GoType.taken, if_pos has, if_pos has]
    · -- a word after the key ends where one byte does, as the value is aligned to a word
      have word : value.taken = 8 := if_neg has
      have greatest : max (alignOf key.taken) 8 = 8 :=
        max_eq_right (le_of_dvd (by decide) (alignOf_dvd _))
      have multiple := offset.mp same
      rw [word] at multiple
      obtain ⟨k, isOffset⟩ : 8 ∣ (key.slot value).1 := multiple
      have next : roundUp (8 * k + 8) 8 = roundUp (8 * k + 1) 8 := by
        rw [roundUp, roundUp]
        omega
      rw [word, if_neg has, show alignOf 8 = 8 from rfl, greatest, isOffset, next]
  · -- a key without bytes is taken for a word, and the value follows it
    have late : 8 ≤ roundUp key.taken (alignOf value.taken) := by
      rw [GoType.taken, if_neg some]
      exact le_roundUp 8 (alignOf_pos _)
    have early : (key.slot value).1 = 0 := by
      rw [GoType.slot, Nat.eq_zero_of_not_pos some, roundUp_of_dvd (Nat.dvd_zero _)]
    exact iff_of_false (fun same => by omega) fun holds => some holds.1

section Samples

def wordType : NestedType := .scalar { name := "int64", byteSize := 8 }

def bytesType : NestedType := .array { name := "[4]uint8", byteSize := 4, isArray := true }
  (.scalar { name := "uint8", byteSize := 1 })

theorem word_slots :
    computeSlotLayout (some wordType) (some wordType) "int64" "int64" = (8, 16) ∧
      computeSlotLayout (some wordType) (some wordType) "int64" "int64" =
        (GoType.scalar .bits64).slot (.scalar .bits64) := by
  have describes : wordType.Describes (.scalar .bits64) := ⟨rfl, by decide, by decide⟩
  exact ⟨by decide, (slot_layout_iff describes describes _ _).mpr ⟨by decide, by decide, by decide⟩⟩

/-- The second slot of a map from arrays of four bytes to bytes is looked for three bytes too late. -/
theorem byte_arrays_misplaced :
    bytesType.Describes (.array 4 (.scalar .bits8)) ∧
      computeSlotLayout (some bytesType) (some (.scalar { name := "uint8", byteSize := 1 }))
        "[4]uint8" "uint8" = (4, 8) ∧
      (GoType.array 4 (.scalar .bits8)).slot (.scalar .bits8) = (4, 5) :=
  ⟨⟨rfl, by decide, by decide⟩, by decide, by decide⟩

end Samples

end Detrix.Ebpf
