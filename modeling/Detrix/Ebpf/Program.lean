/-
**The program of a plan.**

For each field of a plan the generator emits C statements that fill the members of the event. A
statement is kept here as what it does; `Statement.text` is its line in the program.

- `reservation_is_sizeof_iff`: when the space that is reserved is the size of the struct.
-/

import Detrix.Ebpf.EventLayout

namespace Detrix.Ebpf

open Library CStruct

/-! ### Statements -/

inductive Base where
  | stackPtr
  | register (register : Register)
  deriving DecidableEq

def Base.text : Base → String
  | .stackPtr => "DETRIX_STACK_PTR"
  | .register r => r.ptRegsAccess

def planAddress (base : Base) (offset : Int) : String :=
  if offset ≥ 0 then "(" ++ base.text ++ " + " ++ toString offset ++ ")"
  else "(" ++ base.text ++ " - " ++ toString offset.natAbs ++ ")"

/-- Where a scalar is stored: a word of the event, or a byte of a buffer and what follows it. -/
inductive Place where
  | word (member : EventMember)
  | element (index k : Nat)

def Place.text : Place → String
  | .word member => "event->" ++ member.text
  | .element index k => "event->" ++ (EventMember.varBlob index).text ++ "[" ++ toString k ++ "]"

/-- The address from which a buffer is filled. -/
inductive Pointer where
  | plan (base : Base) (offset : Int)
  | parenthesized (base : Base) (offset : Int)
  | register (register : Register)

def Pointer.text : Pointer → String
  | .plan base offset => planAddress base offset
  | .parenthesized base offset => "(" ++ planAddress base offset ++ ")"
  | .register r => r.ptRegsAccess

inductive Statement where
  | assignRegister (dest : Place) (register : Register)
  | assignAddress (dest : Place) (base : Base) (offset : Int)
  | assignZero (dest : Place)
  | assignConstant (dest : Place) (value : UInt64)
  | readInto (dest : Place) (size : Nat) (base : Base) (offset : Int)
  | readBlob (index size : Nat) (pointer : Pointer)
  | clear (member : EventMember) (size : Nat)
  /-- The bytes of a text, of which the first word of the event has the address and the second the
  number, if this is at most `limit`. -/
  | copyText (index limit : Nat)

def hexText (value : UInt64) : String := "0x" ++ String.ofList (Nat.toDigits 16 value.toNat)

def Statement.text : Statement → String
  | .assignRegister dest register => "    " ++ dest.text ++ " = (u64)" ++ register.ptRegsAccess ++ ";"
  | .assignAddress dest base offset => "    " ++ dest.text ++ " = (u64)" ++ planAddress base offset ++ ";"
  | .assignZero dest => "    " ++ dest.text ++ " = 0;"
  | .assignConstant dest value => "    " ++ dest.text ++ " = " ++ hexText value ++ ";"
  | .readInto dest size base offset => "    bpf_probe_read_user(&" ++ dest.text ++ ", " ++ toString size ++
      ", (void *)" ++ planAddress base offset ++ ");"
  | .readBlob index size pointer => "    bpf_probe_read_user(event->" ++
      (EventMember.varBlob index).text ++ ", " ++ toString size ++ ", (void *)" ++ pointer.text ++ ");"
  | .clear member size => "    __builtin_memset(event->" ++ member.text ++ ", 0, " ++ toString size ++ ");"
  | .copyText index limit =>
    let i := toString index
    "    \x7b\n        u32 _len" ++ i ++ " = (u32)event->var" ++ i ++ "_len;\n        _len" ++ i ++
      " &= 0xFF;\n        if (event->var" ++ i ++ " && _len" ++ i ++ " > 0 && _len" ++ i ++ " <= " ++
      toString limit ++ ") \x7b\n            bpf_probe_read_user(event->var" ++ i ++ "_str, _len" ++ i ++
      ", (void *)event->var" ++ i ++ ");\n        \x7d\n    \x7d"

/-! ### The generator -/

inductive ProgramError where
  | invalidPlan (error : PlanError)
  | tooManyVariables (count limit : Nat)
  | zeroSizedRead
  | unsupportedNested (op : ReadOp)
  | requiresUserSpaceLowering

def planMemoryRead (dest : Place) (base : Base) (offset : Int) (size : Nat) : List Statement :=
  [.assignZero dest, .readInto dest size base offset]

/-- The read of a nested operation, for a size that is not zero. -/
def readNested (dest : Place) (size : Nat) : ReadOp → Except ProgramError (List Statement)
  | .register register _ => .ok [.assignRegister dest register]
  | .stack offset _ _ => .ok (planMemoryRead dest .stackPtr offset size)
  | .frame register offset _ _ => .ok (planMemoryRead dest (.register register) offset size)
  | .indirect base _ => readNested dest size base
  | .map base => readNested dest size base
  | op => .error (.unsupportedNested op)

def generatePlanReadInto (op : ReadOp) (dest : Place) (size : Nat) : Except ProgramError (List Statement) :=
  if size = 0 then .error .zeroSizedRead else readNested dest size op

/-- `i64::saturating_add`. -/
def saturatingAddSigned (a b : Int) : Int := max (-(2 ^ 63)) (min (a + b) (2 ^ 63 - 1))

def shiftPlanOp (op : ReadOp) (delta : Int) : ReadOp :=
  match op with
  | .stack offset size semantics => .stack (saturatingAddSigned offset delta) size semantics
  | .frame register offset size semantics =>
    .frame register (saturatingAddSigned offset delta) size semantics
  | other => other

/-- The words of a header: the address, the length and the capacity, in bytes from its base. -/
def HeaderKind.deltas : HeaderKind → Int × Int × Option Int
  | .string | .borrowedStr => (0, 8, none)
  | .rustString => (8, 16, none)
  | .slice => (0, 8, some 16)
  | .rustVec => (0, 16, some 16)
  | .borrowedSlice => (0, 8, some 8)

def textContent (config : CaptureConfig) (index : Nat) : List Statement :=
  [.clear (.varStr index) (stringCapture config), .copyText index (stringCapture config)]

/-- The loop over the pieces of a value that is put together. -/
def readPieces (index capture : Nat) : List CapturePiece → Except ProgramError (List Statement)
  | [] => .ok []
  | piece :: rest =>
    if piece.offset ≥ capture then readPieces index capture rest
    else
      match piece.op with
      | none => readPieces index capture rest
      | some op => do
        let read ← generatePlanReadInto op (.element index piece.offset)
          (min piece.size (capture - piece.offset))
        return read ++ (← readPieces index capture rest)

def constantWord (bytes : List UInt8) : UInt64 :=
  UInt64.ofNat (Library.Bytes.leValue (bytes.take 8))

def generatePlanReadExpr (op : ReadOp) (index fieldSize : Nat) (config : CaptureConfig) :
    Except ProgramError (List Statement) :=
  let value := Place.word (.var index)
  match op with
  | .register register _ =>
    if fieldSize > 8 then .ok [.readBlob index (blobCapture config fieldSize) (.register register)]
    else .ok [.assignRegister value register]
  | .stack offset size _ =>
    if fieldSize > 8 then .ok [.readBlob index (blobCapture config fieldSize) (.plan .stackPtr offset)]
    else .ok (planMemoryRead value .stackPtr offset size)
  | .frame register offset size _ =>
    if fieldSize > 8 then
      .ok [.readBlob index (blobCapture config fieldSize) (.parenthesized (.register register) offset)]
    else .ok (planMemoryRead value (.register register) offset size)
  | .blob offset size _ =>
    .ok [.assignAddress value .stackPtr offset,
      .readBlob index (blobCapture config size) (.plan .stackPtr offset)]
  | .indirect base _ => generatePlanReadInto base value 8
  | .map base => generatePlanReadInto base value 8
  | .header base _ kind => do
    let (ptrDelta, lenDelta, capDelta) := kind.deltas
    let ptr ← generatePlanReadInto (shiftPlanOp base ptrDelta) value 8
    let len ← generatePlanReadInto (shiftPlanOp base lenDelta) (.word (.varLen index)) 8
    match capDelta with
    | some capDelta =>
      return ptr ++ len ++ (← generatePlanReadInto (shiftPlanOp base capDelta) (.word (.varCap index)) 8)
    | none => return ptr ++ len ++ textContent config index
  | .headerExplicit ptr len cap _ _ => do
    let ptr ← generatePlanReadInto ptr value 8
    let len ← generatePlanReadInto len (.word (.varLen index)) 8
    match cap with
    | some cap => return ptr ++ len ++ (← generatePlanReadInto cap (.word (.varCap index)) 8)
    | none => return ptr ++ len ++ textContent config index
  | .piecewise pieces => do
    let capture := blobCapture config fieldSize
    return .clear (.varBlob index) capture :: (← readPieces index capture pieces)
  | .piece offset size op =>
    generatePlanReadInto op (.element index offset) (min size (fieldSize - offset))
  | .unavailable _ => .ok [.assignZero value]
  | .constant bytes => .ok [.assignConstant value (constantWord bytes)]
  | .cfa _ _ _ | .userBytes _ _ => .error .requiresUserSpaceLowering

/-- A header at one place is one whose words follow each other. -/
theorem generatePlanReadExpr_header (base : ReadOp) (own : Nat) (kind : HeaderKind) (index size : Nat)
    (config : CaptureConfig) :
    generatePlanReadExpr (.header base own kind) index size config =
      generatePlanReadExpr (.headerExplicit (shiftPlanOp base kind.deltas.1)
        (shiftPlanOp base kind.deltas.2.1) (kind.deltas.2.2.map (shiftPlanOp base)) own kind) index size
        config := by
  cases kind <;> rfl

/-- `build_plan_var_reads`, for the fields from an index on. -/
def planVarReads (config : CaptureConfig) :
    (index : Nat) → List CaptureField → Except ProgramError (List (List Statement))
  | _, [] => .ok []
  | index, field :: rest => do
    let read ← generatePlanReadExpr field.op index field.size config
    return read :: (← planVarReads config (index + 1) rest)

theorem planVarReads_getElem? {config : CaptureConfig} {start : Nat} {fields : List CaptureField}
    {reads : List (List Statement)} (read : planVarReads config start fields = .ok reads) {index : Nat}
    {field : CaptureField} (found : fields[index]? = some field) :
    ∃ stmts, reads[index]? = some stmts ∧
      generatePlanReadExpr field.op (start + index) field.size config = .ok stmts := by
  induction fields generalizing start reads index with
  | nil => cases found
  | cons first rest ih =>
    obtain ⟨stmts, here, read⟩ := except_bind_eq_ok.mp read
    obtain ⟨rests, later, back⟩ := except_bind_eq_ok.mp read
    cases back
    cases index with
    | zero =>
      cases found
      exact ⟨stmts, rfl, here⟩
    | succ index =>
      obtain ⟨own, isOwn, out⟩ := ih later found
      rw [Nat.add_right_comm] at out
      exact ⟨own, isOwn, out⟩

/-- The parts of a generated program that depend on the plan. -/
structure BpfProgram where
  declarations : List CDeclaration
  reads : List (List Statement)
  /-- What is reserved in the ring buffer. -/
  eventSize : Nat
  varCount : Nat
  capturesGoid : Bool
  versionedEnvelope : Bool

def generateBpfProgramFromPlan (plan : CapturePlan) (captureGoid : Bool) (config : CaptureConfig)
    (envelope : Option RawEnvelopeSpec) : Except ProgramError BpfProgram :=
  match plan.validate with
  | .error error => .error (.invalidPlan error)
  | .ok () =>
    if plan.fields.length > config.maxCaptureVars then
      .error (.tooManyVariables plan.fields.length config.maxCaptureVars)
    else do
      let reads ← planVarReads config 0 plan.fields
      return ⟨planEventFields plan.fields captureGoid config envelope, reads,
        planEventSize plan.fields captureGoid config envelope, plan.fields.length, captureGoid,
        envelope.isSome⟩

theorem generate_eq_ok {plan : CapturePlan} {goid : Bool} {config : CaptureConfig}
    {envelope : Option RawEnvelopeSpec} {prog : BpfProgram}
    (gen : generateBpfProgramFromPlan plan goid config envelope = .ok prog) :
    plan.validate = .ok () ∧ planVarReads config 0 plan.fields = .ok prog.reads ∧
      prog.declarations = planEventFields plan.fields goid config envelope ∧
      prog.eventSize = planEventSize plan.fields goid config envelope := by
  unfold generateBpfProgramFromPlan at gen
  split at gen
  · cases gen
  rename_i valid
  split at gen
  · cases gen
  obtain ⟨reads, read, back⟩ := except_bind_eq_ok.mp gen
  cases back
  exact ⟨valid, read, rfl, rfl⟩

/-! ### The reservation of a program -/

/-- **The reservation of a program is the size of its struct** exactly if every declared buffer is
counted and the padding behind the buffers is less than a word. -/
theorem reservation_is_sizeof_iff {plan : CapturePlan} {captureGoid : Bool} {config : CaptureConfig}
    {envelope : Option RawEnvelopeSpec} {program : BpfProgram}
    (generated : generateBpfProgramFromPlan plan captureGoid config envelope = .ok program) :
    program.eventSize = sizeof (probeEvent program.declarations) ↔
      (∀ field ∈ plan.fields, BufferCounted config field) ∧
        (plan.fields.map (padding config)).sum < 8 := by
  obtain ⟨-, -, declarations, eventSize⟩ := generate_eq_ok generated
  rw [declarations, eventSize]
  exact planEventSize_eq_sizeof_iff plan.fields captureGoid config envelope

section Samples

def samplePlan (fields : List CaptureField) (maxPayloadBytes : Nat) : CapturePlan :=
  ⟨1, .x8664, "rust", "sha256:plan", 4096, fields, maxPayloadBytes⟩

def sampleProgram (fields : List CaptureField) (maxPayloadBytes : Nat) : Except ProgramError BpfProgram :=
  generateBpfProgramFromPlan (samplePlan fields maxPayloadBytes) false {} none

/-- Whether the reservation is the size of the struct, for a program that is generated. -/
def reservesStruct : Except ProgramError BpfProgram → Option Bool
  | .ok program => some (program.eventSize = sizeof (probeEvent program.declarations))
  | .error _ => none

/-- The buffer of a constant is not counted; two buffers of three bytes need more padding than one. -/
theorem constant_and_short_blobs_not_reserved :
    reservesStruct (sampleProgram [⟨"k", 0, 16, .constant [1]⟩] 16) = some false ∧
      reservesStruct (sampleProgram [⟨"a", 0, 3, .blob 0 3 .value⟩, ⟨"b", 3, 3, .blob 8 3 .value⟩] 6) =
        some false := by
  decide

def textAndBlob : List CaptureField :=
  [⟨"s", 0, 16, .header (.stack 8 8 .value) 16 .string⟩, ⟨"b", 16, 3, .blob 24 3 .value⟩]

theorem text_and_last_blob_reserved :
    ∃ program, sampleProgram textAndBlob 19 = .ok program ∧
      program.eventSize = sizeof (probeEvent program.declarations) := by
  obtain ⟨program, gen⟩ : ∃ program, sampleProgram textAndBlob 19 = .ok program := ⟨_, rfl⟩
  have counted : ∀ field ∈ textAndBlob, BufferCounted {} field := by
    simp [textAndBlob, BufferCounted]
  exact ⟨program, gen, (reservation_is_sizeof_iff gen).mpr ⟨counted, by decide⟩⟩

end Samples

end Detrix.Ebpf
