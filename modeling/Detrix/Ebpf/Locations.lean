/-
**Where a variable lives.**

What the DWARF reader hands on for a line of the program: registers, stack and frame slots, headers of
texts and slices, inline blobs, and the types of the fields of a struct.
-/

import Mathlib.Data.List.Basic

namespace Detrix.Ebpf

/-! ### Registers -/

inductive TargetArchitecture where
  | x8664
  | aarch64

/-- A register by its DWARF number; `arm64 31` is the stack pointer. -/
inductive Register where
  | rax | rdx | rcx | rbx | rsi | rdi | rbp | rsp
  | r8 | r9 | r10 | r11 | r12 | r13 | r14 | r15
  | arm64 (index : UInt8)
  deriving DecidableEq

def Register.isArm64 : Register → Bool
  | .arm64 _ => true
  | _ => false

def Register.ptRegsField : Register → String
  | .rax => "rax"
  | .rdx => "rdx"
  | .rcx => "rcx"
  | .rbx => "rbx"
  | .rsi => "rsi"
  | .rdi => "rdi"
  | .rbp => "rbp"
  | .rsp => "rsp"
  | .r8 => "r8"
  | .r9 => "r9"
  | .r10 => "r10"
  | .r11 => "r11"
  | .r12 => "r12"
  | .r13 => "r13"
  | .r14 => "r14"
  | .r15 => "r15"
  | .arm64 _ => "regs"

def Register.ptRegsAccess : Register → String
  | .arm64 index => if index = 31 then "ctx->sp" else "ctx->regs[" ++ toString index ++ "]"
  | register => "ctx->" ++ register.ptRegsField

/-! ### Locations -/

/-- One piece of a value in several places; a piece without a place is undefined. -/
structure Piece (α : Type) where
  location : Option α
  byteSize : Nat

inductive VariableLocation where
  | register (register : Register)
  | stackOffset (offset : Int)
  | frameOffset (register : Register) (offset : Int)
  | goString (ptr len : VariableLocation)
  | stringHeader (ptr len : VariableLocation)
  | goSlice (ptr len cap : VariableLocation)
  | sliceHeader (ptr len cap : VariableLocation)
  | stackBlob (offset : Int) (byteSize : Nat)
  | piecewiseBlob (pieces : List (Piece VariableLocation)) (byteSize : Nat)
  | stackIndirect (offset : Int) (byteSize : Nat)
  | goMap (ptr : VariableLocation)

abbrev VariablePiece := Piece VariableLocation

def VariableLocation.isScalar : VariableLocation → Bool
  | .register _ | .stackOffset _ | .frameOffset _ _ => true
  | _ => false

inductive VariableSize where
  | byte
  | word
  | dword
  | qword

def VariableSize.bytes : VariableSize → Nat
  | .byte => 1
  | .word => 2
  | .dword => 4
  | .qword => 8

theorem VariableSize.bytes_le_eight (size : VariableSize) : size.bytes ≤ 8 := by
  cases size <;> decide

/-! ### Types -/

structure EnumVariantLayout where
  name : String
  discriminant : Option Int
  payloadOffset : Option Nat
  payloadSize : Option Nat

structure EnumLayout where
  discriminantOffset : Nat
  discriminantSize : Nat
  variants : List EnumVariantLayout
  niche : Bool

/-- The layout has a discriminant of its own, and it is known for every variant. -/
def EnumLayout.isExplicitNonNiche (layout : EnumLayout) : Bool :=
  !layout.niche && [1, 2, 4, 8].contains layout.discriminantSize && 2 ≤ layout.variants.length &&
    layout.variants.all (·.discriminant.isSome)

structure TypeInfo where
  name : String
  byteSize : Nat
  isPointer : Bool := false
  isString : Bool := false
  isSlice : Bool := false
  isArray : Bool := false
  isStruct : Bool := false
  isMap : Bool := false
  isEnum : Bool := false
  arrayElementCount : Nat := 0
  arrayElementType : String := ""
  sliceElementType : String := ""
  elementByteSize : Nat := 0
  enumLayout : Option EnumLayout := none

/-- A field of a struct, over the type of the types nested in it. -/
structure Member (α : Type) where
  name : String
  typeInfo : TypeInfo
  byteOffset : Nat
  byteSize : Nat
  nestedType : Option α

inductive NestedType where
  | scalar (typeInfo : TypeInfo)
  | struct (typeInfo : TypeInfo) (fields : List (Member NestedType))
  | array (typeInfo : TypeInfo) (elementType : NestedType)
  | map (typeInfo : TypeInfo) (keyType valueType : NestedType)
  | pointer (typeInfo : TypeInfo) (pointee : NestedType)
  | interface (typeInfo : TypeInfo)
  | unsupported (typeInfo : TypeInfo) (reason : String)

def NestedType.typeInfo : NestedType → TypeInfo
  | .scalar typeInfo | .struct typeInfo _ | .array typeInfo _ | .map typeInfo _ _
  | .pointer typeInfo _ | .interface typeInfo | .unsupported typeInfo _ => typeInfo

abbrev StructField := Member NestedType

/-! ### Variables -/

structure ResolvedVariable where
  name : String
  location : VariableLocation
  size : VariableSize
  typeName : String
  nestedType : Option NestedType

structure ProbePoint where
  pc : Nat
  vars : List ResolvedVariable

end Detrix.Ebpf
