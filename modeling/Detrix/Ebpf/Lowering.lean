/-
**Lowering to a plan.**

The compilers for Go and for Rust turn the variables of a probe point into the fields of a plan. The
plan keeps one location for a header: the others are derived from it.

- `lowerFields_spec`: the fields of a plan are the variables, each lowered on its own.
- `GoBpfCompiler.declaredFor_of_lower`, `RustBpfCompiler.declaredFor_of_lower`: what is declared for a
  variable after its first word depends on the kind of its location only.
-/

import Detrix.Ebpf.Program

namespace Detrix.Ebpf

open Library Text

inductive CompileError where
  | invalidPlan (error : PlanError)
  /-- `UnsupportedLocation`, with the name in "Rust variable '..' is not a bounded scalar". -/
  | notBoundedScalar (name : String)
  /-- `UnsupportedLocation`, with the location in "header base has unsupported location ..". -/
  | unsupportedBase (location : VariableLocation)

/-! ### Locations -/

/-- The location is a register of AArch64, or relative to one. -/
def VariableLocation.usesArm64 : VariableLocation → Bool
  | .register r | .frameOffset r _ => r.isArm64
  | _ => false

def inferArchitecture (vars : List ResolvedVariable) : TargetArchitecture :=
  if vars.any fun resolved => resolved.location.usesArm64 then .aarch64 else .x8664

def locationToReadOp : VariableLocation → Except CompileError ReadOp
  | .register r => .ok (.register r .value)
  | .stackOffset offset => .ok (.stack offset 8 .value)
  | .frameOffset r offset => .ok (.frame r offset 8 .value)
  | other => .error (.unsupportedBase other)

def shiftLocation (location : VariableLocation) (delta : Int) : VariableLocation :=
  match location with
  | .stackOffset offset => .stackOffset (saturatingAddSigned offset delta)
  | .frameOffset r offset => .frameOffset r (saturatingAddSigned offset delta)
  | other => other

/-- The loop over the pieces of a value, from a place in the value on. -/
def lowerPieces : (cursor : Nat) → List VariablePiece → Except CompileError (List CapturePiece)
  | _, [] => .ok []
  | cursor, piece :: rest => do
    let op ← match piece.location with
      | some location => some <$> locationToReadOp location
      | none => .ok none
    return ⟨cursor, piece.byteSize, op⟩ :: (← lowerPieces (saturatingAdd cursor piece.byteSize) rest)

/-! ### The fields of a plan -/

/-- The loop over the variables, from a place in the payload on; each is lowered to a size and an
operation. -/
def lowerFields (lower : ResolvedVariable → Except CompileError (Nat × ReadOp)) :
    (offset : Nat) → List ResolvedVariable → Except CompileError (List CaptureField × Nat)
  | offset, [] => .ok ([], offset)
  | offset, resolved :: rest => do
    let (size, op) ← lower resolved
    let (fields, finish) ← lowerFields lower (saturatingAdd offset size) rest
    return (⟨resolved.name, offset, size, op⟩ :: fields, finish)

def planOfVariables (profileId : String) (lower : ResolvedVariable → Except CompileError (Nat × ReadOp))
    (point : ProbePoint) (planHash : String) : Except CompileError CapturePlan := do
  let (fields, finish) ← lowerFields lower 0 point.vars
  let plan : CapturePlan := ⟨capturePlanSchemaVersion, inferArchitecture point.vars, profileId, planHash,
    point.pc, fields, finish⟩
  match plan.validate with
  | .ok () => return plan
  | .error error => .error (.invalidPlan error)

/-- The variable is lowered to the field. -/
def LoweredTo (lower : ResolvedVariable → Except CompileError (Nat × ReadOp)) (resolved : ResolvedVariable)
    (field : CaptureField) : Prop :=
  field.name = resolved.name ∧ lower resolved = .ok (field.size, field.op)

theorem found_of_forall₂ {α β : Type} {R : α → β → Prop} {first : List α} {second : List β}
    (related : List.Forall₂ R first second) {index : Nat} {a : α} (found : first[index]? = some a) :
    ∃ b, second[index]? = some b ∧ R a b := by
  induction related generalizing index with
  | nil => cases found
  | cons here _ ih =>
    cases index with
    | zero => cases found; exact ⟨_, rfl, here⟩
    | succ index => exact ih found

theorem lowerFields_spec {lower : ResolvedVariable → Except CompileError (Nat × ReadOp)} {offset finish : Nat}
    {vars : List ResolvedVariable} {fields : List CaptureField}
    (low : lowerFields lower offset vars = .ok (fields, finish)) :
    List.Forall₂ (LoweredTo lower) vars fields := by
  induction vars generalizing offset fields finish with
  | nil => cases low; exact .nil
  | cons var rest ih =>
    obtain ⟨⟨size, op⟩, first, low⟩ := except_bind_eq_ok.mp low
    obtain ⟨⟨others, last⟩, later, back⟩ := except_bind_eq_ok.mp low
    cases back
    exact .cons ⟨rfl, first⟩ (ih later)

theorem planOfVariables_spec {profileId : String}
    {lower : ResolvedVariable → Except CompileError (Nat × ReadOp)} {point : ProbePoint} {planHash : String}
    {plan : CapturePlan} (ok : planOfVariables profileId lower point planHash = .ok plan) :
    plan.validate = .ok () ∧ List.Forall₂ (LoweredTo lower) point.vars plan.fields := by
  obtain ⟨⟨fields, finish⟩, low, ok⟩ := except_bind_eq_ok.mp ok
  dsimp only at ok
  split at ok
  · rename_i valid
    cases ok
    exact ⟨valid, lowerFields_spec low⟩
  · cases ok

/-! ### What is declared for a variable -/

/-- The declarations after the first word, by the kind of the location. -/
def variableTail (config : CaptureConfig) (index : Nat) : VariableLocation → List CDeclaration
  | .goString _ _ | .stringHeader _ _ =>
    [⟨.u64, .varLen index, none⟩, ⟨.u8Array (stringCapture config), .varStr index, none⟩]
  | .goSlice _ _ _ | .sliceHeader _ _ _ => [⟨.u64, .varLen index, none⟩, ⟨.u64, .varCap index, none⟩]
  | .stackBlob _ byteSize | .piecewiseBlob _ byteSize => [blobField index (blobCapture config byteSize)]
  | _ => []

/-- The field is declared as its variable asks for, and its buffer is counted. -/
structure DeclaredFor (config : CaptureConfig) (location : VariableLocation) (field : CaptureField) : Prop where
  tail : ∀ index, fieldTail config index field = variableTail config index location
  counted : BufferCounted config field

variable {field : CaptureField}

/-- The tail of a field that is not larger than a word and has no buffer of its own. -/
theorem DeclaredFor.word {config : CaptureConfig} {loc : VariableLocation}
    (small : field.size ≤ 8)
    (scalar : ∀ index, fieldTail config index field =
      if field.size > 8 then [blobField index (blobCapture config field.size)] else [])
    (noTail : ∀ index, variableTail config index loc = [])
    (counted : field.size ≤ 8 ∨ config.maxBlobCapture = 0 → BufferCounted config field) :
    DeclaredFor config loc field where
  tail index := by rw [scalar, noTail, if_neg (Nat.not_lt.mpr small)]
  counted := counted (.inl small)

/-! ### Go -/

namespace GoBpfCompiler

def lower (resolved : ResolvedVariable) : Except CompileError (Nat × ReadOp) :=
  match resolved.location with
  | .register r => .ok (resolved.size.bytes, .register r .value)
  | .stackOffset offset => .ok (resolved.size.bytes, .stack offset resolved.size.bytes .value)
  | .frameOffset r offset => .ok (resolved.size.bytes, .frame r offset resolved.size.bytes .value)
  | .stackBlob offset byteSize => .ok (byteSize, .blob offset byteSize .value)
  | .stackIndirect offset byteSize => .ok (8, .indirect (.stack offset 8 .address) byteSize)
  | .goMap ptr => do return (8, .map (← locationToReadOp ptr))
  | .piecewiseBlob pieces byteSize => do return (byteSize, .piecewise (← lowerPieces 0 pieces))
  | .goString ptr _ | .stringHeader ptr _ => do
    return (16, .header (← locationToReadOp ptr) 16 .string)
  | .goSlice ptr _ _ | .sliceHeader ptr _ _ => do
    return (24, .header (← locationToReadOp ptr) 24 .slice)

def planFromProbe (point : ProbePoint) (planHash : String) : Except CompileError CapturePlan :=
  planOfVariables "go" lower point planHash

theorem declaredFor_of_lower (config : CaptureConfig) {var : ResolvedVariable}
    (low : LoweredTo lower var field) : DeclaredFor config var.location field := by
  obtain ⟨name, offset, size, op⟩ := field
  have low : lower var = .ok (size, op) := low.2
  unfold lower at low
  have word := var.size.bytes_le_eight
  generalize var.location = place at low ⊢
  cases place with
  | register r | stackOffset slot | frameOffset r slot =>
    cases low
    exact .word word (fun _ => rfl) (fun _ => rfl) fun _ => trivial
  | stackBlob slot byteSize =>
    cases low
    exact ⟨fun _ => rfl, trivial⟩
  | stackIndirect slot byteSize =>
    cases low
    exact .word (Nat.le_refl 8) (fun _ => rfl) (fun _ => rfl) id
  | goMap ptr =>
    obtain ⟨base, -, back⟩ := except_bind_eq_ok.mp low
    cases back
    exact .word (Nat.le_refl 8) (fun _ => rfl) (fun _ => rfl) id
  | piecewiseBlob pieces byteSize | goString ptr len | stringHeader ptr len | goSlice ptr len cap
  | sliceHeader ptr len cap =>
    obtain ⟨base, -, back⟩ := except_bind_eq_ok.mp low
    cases back
    exact ⟨fun _ => rfl, trivial⟩

end GoBpfCompiler

/-! ### Rust -/

def VariableLocation.isBlob : VariableLocation → Bool
  | .stackBlob _ _ | .piecewiseBlob _ _ => true
  | _ => false

def VariableLocation.headerPtr : VariableLocation → Option VariableLocation
  | .goString ptr _ | .stringHeader ptr _ | .goSlice ptr _ _ | .sliceHeader ptr _ _ => some ptr
  | _ => none

namespace RustBpfCompiler

def headerKind (resolved : ResolvedVariable) : Option HeaderKind :=
  let name := resolved.typeName
  match resolved.location with
  | .goString _ _ | .stringHeader _ _ =>
    if name = "&str" ∨ name = "&mut str" then some .borrowedStr
    else if name = "String" ∨ startsWith name "alloc::string::String" ∨
        startsWith name "std::string::String" then some .rustString
    else some .string
  | .goSlice _ _ _ | .sliceHeader _ _ _ =>
    if startsWith name "Vec<" ∨ startsWith name "alloc::vec::Vec<" ∨
        startsWith name "std::vec::Vec<" then some .rustVec
    else if startsWith name "&[" ∨ startsWith name "&mut [" then some .borrowedSlice
    else some .slice
  | _ => none

def headerBaseLocation (location : VariableLocation) : HeaderKind → VariableLocation
  | .rustString => shiftLocation location (-8)
  | .rustVec | .string | .borrowedStr | .slice | .borrowedSlice => shiftLocation location 0

/-- The operation for a header whose address word is at `ptr`. -/
def lowerHeader (ptr : VariableLocation) (kind : HeaderKind) (size : Nat) : Except CompileError ReadOp := do
  let base ← locationToReadOp (headerBaseLocation ptr kind)
  if kind = .rustString then
    -- The words of a spilled `String` are its capacity, its address and its length.
    let compactPtr ← locationToReadOp (shiftLocation ptr 8)
    let compactLen ← locationToReadOp (shiftLocation ptr 16)
    return .headerExplicit compactPtr compactLen none size kind
  else return .header base size kind

def loweredSize (resolved : ResolvedVariable) : Nat :=
  match resolved.location with
  | .stackBlob _ byteSize | .piecewiseBlob _ byteSize => byteSize
  | .goString _ _ | .stringHeader _ _ => 16
  | .goSlice _ _ _ | .sliceHeader _ _ _ => 24
  | _ => resolved.size.bytes

def lower (resolved : ResolvedVariable) : Except CompileError (Nat × ReadOp) :=
  let location := resolved.location
  let isBlob := location.isBlob
  let header := location.headerPtr.isSome
  if (resolved.nestedType.isSome && !isBlob && !header) || (!location.isScalar && !isBlob && !header) then
    .error (.notBoundedScalar resolved.name)
  else
    let size := loweredSize resolved
    match location.headerPtr, headerKind resolved with
    | some ptr, some kind => do return (size, ← lowerHeader ptr kind size)
    | _, _ =>
      match location with
      | .register r => .ok (size, .register r .value)
      | .stackOffset offset => .ok (size, .stack offset size .value)
      | .frameOffset r offset => .ok (size, .frame r offset size .value)
      | .stackBlob offset byteSize => .ok (size, .blob offset byteSize .value)
      | .piecewiseBlob pieces _ => do return (size, .piecewise (← lowerPieces 0 pieces))
      -- The other locations do not pass the first check.
      | _ => .error (.notBoundedScalar resolved.name)

def planFromProbe (point : ProbePoint) (planHash : String) : Except CompileError CapturePlan :=
  planOfVariables "rust" lower point planHash

theorem lowerHeader_spec {ptr : VariableLocation} {kind : HeaderKind} {size : Nat} {op : ReadOp}
    (low : lowerHeader ptr kind size = .ok op) :
    (∃ base, op = .header base size kind) ∨
      ∃ ptr len, op = .headerExplicit ptr len none size kind := by
  obtain ⟨base, -, low⟩ := except_bind_eq_ok.mp low
  split at low
  · obtain ⟨compactPtr, -, low⟩ := except_bind_eq_ok.mp low
    obtain ⟨compactLen, -, back⟩ := except_bind_eq_ok.mp low
    cases back
    exact .inr ⟨_, _, rfl⟩
  · cases low
    exact .inl ⟨_, rfl⟩

theorem declaredFor_of_header {config : CaptureConfig} {loc : VariableLocation} {kind : HeaderKind}
    {name : String} {offset size own : Nat} {op : ReadOp}
    (isHeader : (∃ base, op = .header base own kind) ∨
      ∃ ptr len, op = .headerExplicit ptr len none own kind)
    (tail : ∀ index, variableTail config index loc = headerTail config index kind) :
    DeclaredFor config loc ⟨name, offset, size, op⟩ := by
  rcases isHeader with ⟨base, rfl⟩ | ⟨ptr, len, rfl⟩
  · exact ⟨fun index => by rw [tail]; cases kind <;> rfl, trivial⟩
  · exact ⟨fun index => by rw [tail]; cases kind <;> rfl, trivial⟩

theorem headerKind_spec (var : ResolvedVariable) :
    match var.location with
    | .goString _ _ | .stringHeader _ _ => ∃ kind, headerKind var = some kind ∧ kind.isText = true
    | .goSlice _ _ _ | .sliceHeader _ _ _ => ∃ kind, headerKind var = some kind ∧ kind.isText = false
    | _ => headerKind var = none := by
  unfold headerKind
  cases var.location with
  | goString ptr len | stringHeader ptr len | goSlice ptr len cap | sliceHeader ptr len cap =>
    dsimp only
    split
    · exact ⟨_, rfl, rfl⟩
    · split
      · exact ⟨_, rfl, rfl⟩
      · exact ⟨_, rfl, rfl⟩
  | _ => rfl

theorem declaredFor_of_lower (config : CaptureConfig) {var : ResolvedVariable}
    (low : LoweredTo lower var field) : DeclaredFor config var.location field := by
  obtain ⟨name, offset, size, op⟩ := field
  have low : lower var = .ok (size, op) := low.2
  unfold lower at low
  dsimp only at low
  have word := var.size.bytes_le_eight
  have kinds := headerKind_spec var
  split at low
  · cases low
  unfold loweredSize at low
  generalize var.location = place at low kinds ⊢
  cases place with
  | register r | stackOffset slot | frameOffset r slot =>
    cases low
    exact .word word (fun _ => rfl) (fun _ => rfl) fun _ => trivial
  | stackBlob slot byteSize =>
    cases low
    exact ⟨fun _ => rfl, trivial⟩
  | piecewiseBlob pieces byteSize =>
    obtain ⟨lowerPieces, -, back⟩ := except_bind_eq_ok.mp low
    cases back
    exact ⟨fun _ => rfl, trivial⟩
  | stackIndirect slot byteSize | goMap ptr => cases low
  | goString ptr len | stringHeader ptr len | goSlice ptr len cap | sliceHeader ptr len cap =>
    obtain ⟨kind, isKind, text⟩ := kinds
    simp only [VariableLocation.headerPtr, isKind] at low
    obtain ⟨op, header, back⟩ := except_bind_eq_ok.mp low
    cases back
    exact declaredFor_of_header (lowerHeader_spec header) fun index => by rw [headerTail, text]; rfl

end RustBpfCompiler

end Detrix.Ebpf
