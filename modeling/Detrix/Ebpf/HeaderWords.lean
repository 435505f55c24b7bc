/-
**The words of a header.**

A text or a slice of Go is described by two or three locations. The earlier generator reads each word
where its location says; a plan has only the location of the address, and the others are taken to
follow it.

- `upgraded_contiguous`: a header in one piece is contiguous.
- `legacyWordReads_header`: the earlier generator reads every word at its own location.
- `wordReads_header`: the program of a plan reads all words behind the first.
- `header_words_kept_iff`: the two agree exactly on contiguous headers.
-/

import Detrix.Ebpf.Lowering

namespace Detrix.Ebpf

open Library VariableLocation List Text

/-! ### Locations by type -/

/-- The sum of two `i64`, wrapped. -/
def wrappingAddSigned (a b : Int) : Int := Int.bmod (a + b) (2 ^ 64)

def isRustOwnedString (name : String) : Bool :=
  name = "String" || name = "alloc::string::String" || name = "std::string::String"

def isRustStringType (name : String) : Bool :=
  isRustOwnedString name || startsWith name "&str" || startsWith name "&mut str"

def isRustVec (name : String) : Bool :=
  startsWith name "Vec<" || startsWith name "alloc::vec::Vec<" ||
    startsWith name "std::vec::Vec<"

def isRustBorrowedSlice (name : String) : Bool :=
  startsWith name "&[" || startsWith name "&mut ["

def isRustSliceType (name : String) : Bool := isRustVec name || isRustBorrowedSlice name

def headerBaseOffset : VariableLocation → Option (Option Register × Int)
  | .stackOffset offset => some (none, offset)
  | .frameOffset r offset => some (some r, offset)
  | _ => none

def headerLocation (base : Option Register) (offset : Int) : VariableLocation :=
  match base with
  | some r => .frameOffset r offset
  | none => .stackOffset offset

def stringLocation (name : String) (ptr len : VariableLocation) : VariableLocation :=
  if isRustStringType name then .stringHeader ptr len else .goString ptr len

def sliceLocation (name : String) (ptr len cap : VariableLocation) : VariableLocation :=
  if isRustSliceType name then .sliceHeader ptr len cap else .goSlice ptr len cap

def defined (piece : VariablePiece) (part : String) : Except String VariableLocation :=
  match piece.location with
  | some location => .ok location
  | none => .error ("undefined " ++ part ++ " piece")

/-- A value in one piece. -/
def upgradeSingle (location : VariableLocation) (type : TypeInfo) : VariableLocation :=
  let isBlob := (type.isArray || type.isStruct || type.isEnum) && 0 < type.byteSize
  if type.isString then
    match headerBaseOffset location with
    | some (base, offset) =>
      let lenOffset := if isRustOwnedString type.name then 16 else 8
      stringLocation type.name (headerLocation base (wrappingAddSigned offset 0))
        (headerLocation base (wrappingAddSigned offset lenOffset))
    | none => location
  else if type.isSlice then
    match headerBaseOffset location with
    | some (base, offset) =>
      if isRustVec type.name then
        .sliceHeader (headerLocation base offset) (headerLocation base (wrappingAddSigned offset 16))
          (headerLocation base (wrappingAddSigned offset 16))
      else
        let capOffset := if isRustBorrowedSlice type.name then 8 else 16
        sliceLocation type.name (headerLocation base offset)
          (headerLocation base (wrappingAddSigned offset 8))
          (headerLocation base (wrappingAddSigned offset capOffset))
    | none => location
  else if type.isMap || startsWith type.name "map[" then .goMap location
  else if isBlob then
    match location with
    | .stackOffset offset => .stackBlob offset type.byteSize
    | .frameOffset r offset =>
      .piecewiseBlob [⟨some (.frameOffset r offset), type.byteSize⟩] type.byteSize
    | .stackIndirect offset _ => .stackIndirect offset type.byteSize
    | other => other
  else location

def scalarPieces (pieces : List VariablePiece) : Bool :=
  pieces.all fun piece => piece.location.all isScalar

/-- `upgrade_location_for_type`, with the message of its `DwarfParse` error. -/
def upgradeLocationForType (locations : List VariablePiece) (type : TypeInfo) :
    Except String VariableLocation :=
  let isBlob := (type.isArray || type.isStruct || type.isEnum) && 0 < type.byteSize
  let rest : Except String VariableLocation :=
    if 1 < locations.length ∧ isBlob ∧ scalarPieces locations then
      .ok (.piecewiseBlob locations type.byteSize)
    else
      match locations.head?.bind Piece.location with
      | some location => .ok (upgradeSingle location type)
      | none => .error "empty locations after DWARF resolution"
  match locations with
  | [ptr, len] =>
    if type.isString then do
      let ptr ← defined ptr "string pointer"
      let len ← defined len "string length"
      return stringLocation type.name ptr len
    else rest
  | [ptr, len, cap] =>
    if type.isSlice then do
      let ptr ← defined ptr "slice pointer"
      let len ← defined len "slice length"
      let cap ← defined cap "slice capacity"
      return sliceLocation type.name ptr len cap
    else rest
  | _ => rest

/-! ### The earlier generator -/

/-- A statement of the earlier generator: one that the plans have too, or a byte of a register. -/
inductive LegacyStatement where
  | common (statement : Statement)
  | assignByte (index k : Nat) (register : Register) (shift : Nat)

/-- `simple_read_expr`, and the reads of the words of a text without the line that clears the word. -/
def simpleReadExpr (location : VariableLocation) (member : EventMember) : List LegacyStatement :=
  match location with
  | .register r => [.common (.assignRegister (.word member) r)]
  | .stackOffset offset => [.common (.readInto (.word member) 8 .stackPtr offset)]
  | .frameOffset r offset => [.common (.readInto (.word member) 8 (.register r) offset)]
  | _ => [.common (.assignZero (.word member))]

/-- A word of a text: a word that is read from memory is cleared first. -/
def textWordReadExpr (location : VariableLocation) (member : EventMember) : List LegacyStatement :=
  match location with
  | .stackOffset _ | .frameOffset _ _ =>
    .common (.assignZero (.word member)) :: simpleReadExpr location member
  | _ => simpleReadExpr location member

/-- The loop over the pieces of a value, with what has been written; a piece that is not a scalar does
not come here. -/
def legacyPieces (index capture : Nat) : (written : Nat) → List VariablePiece →
    Option (List LegacyStatement)
  | _, [] => some []
  | written, piece :: rest =>
    if written ≥ capture then some []
    else
      let pieceSize := min (capture - written) piece.byteSize
      match piece.location with
      | none => legacyPieces index capture (written + piece.byteSize) rest
      | some (.register r) => do
        let later ← legacyPieces index capture (written + pieceSize) rest
        return (range pieceSize).map (fun byte => .assignByte index (written + byte) r (byte * 8)) ++
          later
      | some (.stackOffset offset) => do
        let later ← legacyPieces index capture (written + pieceSize) rest
        return .common (.readInto (.element index written) pieceSize .stackPtr offset) :: later
      | some (.frameOffset r offset) => do
        let later ← legacyPieces index capture (written + pieceSize) rest
        return .common (.readInto (.element index written) pieceSize (.register r) offset) :: later
      | some _ => none

/-- `generate_read_expr`; there is no result where the code does not return. -/
def generateReadExpr (resolved : ResolvedVariable) (index : Nat) (config : CaptureConfig) :
    Option (List LegacyStatement) :=
  let size := resolved.size.bytes
  let value := EventMember.var index
  match resolved.location with
  | .register r => some [.common (.assignRegister (.word value) r)]
  | .stackOffset offset =>
    some ((planMemoryRead (.word value) .stackPtr offset size).map .common)
  | .frameOffset r offset =>
    some ((planMemoryRead (.word value) (.register r) offset size).map .common)
  | .goString ptr len | .stringHeader ptr len =>
    some (textWordReadExpr ptr value ++ textWordReadExpr len (.varLen index) ++
      (textContent config index).map .common)
  | .goSlice ptr len cap | .sliceHeader ptr len cap =>
    some (simpleReadExpr ptr value ++ simpleReadExpr len (.varLen index) ++
      simpleReadExpr cap (.varCap index))
  | .stackBlob offset byteSize =>
    some [.common (.assignAddress (.word value) .stackPtr offset),
      .common (.readBlob index (blobCapture config byteSize) (.plan .stackPtr offset))]
  | .piecewiseBlob pieces byteSize => do
    let capture := blobCapture config byteSize
    return .common (.clear (.varBlob index) capture) :: (← legacyPieces index capture 0 pieces)
  | .stackIndirect offset _ => some [.common (.readInto (.word value) 8 .stackPtr offset)]
  | .goMap ptr => some (simpleReadExpr ptr value)

/-! ### Where the words are read -/

/-- What a word is read from. -/
inductive Source where
  | register (register : Register)
  | memory (base : Base) (offset : Int) (size : Nat)
  deriving DecidableEq

def Statement.wordRead : Statement → Option (EventMember × Source)
  | .assignRegister (.word member) r => some (member, .register r)
  | .readInto (.word member) size base offset => some (member, .memory base offset size)
  | _ => none

def LegacyStatement.wordRead : LegacyStatement → Option (EventMember × Source)
  | .common statement => statement.wordRead
  | .assignByte _ _ _ _ => none

def wordReads (statements : List Statement) : List (EventMember × Source) :=
  statements.filterMap Statement.wordRead

def legacyWordReads (statements : List LegacyStatement) : List (EventMember × Source) :=
  statements.filterMap LegacyStatement.wordRead

/-- The eight bytes at a scalar location. -/
def VariableLocation.source : VariableLocation → Option Source
  | .register r => some (.register r)
  | .stackOffset offset => some (.memory .stackPtr offset 8)
  | .frameOffset r offset => some (.memory (.register r) offset 8)
  | _ => none

theorem source_inj {first second : VariableLocation} (scalar : first.isScalar = true)
    (same : first.source = second.source) : first = second := by
  cases first with
  | register r | stackOffset offset | frameOffset r offset => cases second <;> simp_all [source]
  | _ => cases scalar

/-- The words of a header of Go, each with its location. -/
def VariableLocation.words (index : Nat) : VariableLocation → List (EventMember × VariableLocation)
  | .goString ptr len => [(.var index, ptr), (.varLen index, len)]
  | .goSlice ptr len cap => [(.var index, ptr), (.varLen index, len), (.varCap index, cap)]
  | _ => []

/-- Words at scalar locations, and what they are read from. -/
def sources (words : List (EventMember × VariableLocation)) : List (EventMember × Source) :=
  words.filterMap fun word => word.2.source.map (word.1, ·)

theorem sources_cons (first second : EventMember × VariableLocation) (rest) :
    sources (first :: second :: rest) = sources [first] ++ sources (second :: rest) :=
  filterMap_append (l := [first])

/-- The offset of the location is an `i64`. -/
def VariableLocation.OffsetFits : VariableLocation → Prop
  | .stackOffset offset | .frameOffset _ offset => -(2 ^ 63) ≤ offset ∧ offset < 2 ^ 63
  | _ => True

/-- A text or a slice of Go whose words are in registers, on the stack or in the frame. -/
inductive GoHeader : VariableLocation → Prop where
  | string {ptr len : VariableLocation} (ptrScalar : ptr.isScalar = true) (ptrFits : ptr.OffsetFits)
      (lenScalar : len.isScalar = true) : GoHeader (.goString ptr len)
  | slice {ptr len cap : VariableLocation} (ptrScalar : ptr.isScalar = true) (ptrFits : ptr.OffsetFits)
      (lenScalar : len.isScalar = true) (capScalar : cap.isScalar = true) : GoHeader (.goSlice ptr len cap)

/-- The length is eight bytes behind the address, and the capacity sixteen; in registers, all are the
same register. -/
def Contiguous : VariableLocation → Prop
  | .goString ptr len => len = shiftLocation ptr 8
  | .goSlice ptr len cap => len = shiftLocation ptr 8 ∧ cap = shiftLocation ptr 16
  | _ => False

variable {location : VariableLocation}

theorem shiftLocation_zero (fits : location.OffsetFits) : shiftLocation location 0 = location := by
  cases location with
  | stackOffset offset | frameOffset r offset =>
    obtain ⟨low, high⟩ := fits
    rw [shiftLocation, saturatingAddSigned]
    congr 1
    omega
  | _ => rfl

theorem shiftLocation_isScalar (location : VariableLocation) (delta : Int) :
    (shiftLocation location delta).isScalar = location.isScalar := by
  cases location <;> rfl

/-! ### What the two generators read -/

theorem legacyWordReads_simpleReadExpr (scalar : location.isScalar = true) (member : EventMember) :
    legacyWordReads (simpleReadExpr location member) = sources [(member, location)] ∧
      legacyWordReads (textWordReadExpr location member) = sources [(member, location)] := by
  cases location with
  | register r | stackOffset offset | frameOffset r offset => exact ⟨rfl, rfl⟩
  | _ => cases scalar

variable {resolved : ResolvedVariable}

theorem legacyWordReads_header (header : GoHeader resolved.location)
    (index : Nat) (config : CaptureConfig) :
    ∃ legacy, generateReadExpr resolved index config = some legacy ∧
      legacyWordReads legacy = sources (resolved.location.words index) := by
  obtain ⟨name, location, size, typeName, nested⟩ := resolved
  cases header with
  | string ptrScalar _ lenScalar =>
    refine ⟨_, rfl, ?_⟩
    have ptr := (legacyWordReads_simpleReadExpr ptrScalar (.var index)).2
    have len := (legacyWordReads_simpleReadExpr lenScalar (.varLen index)).2
    simp only [legacyWordReads, filterMap_append] at ptr len ⊢
    rw [ptr, len, words, sources_cons]
    exact append_nil _
  | slice ptrScalar _ lenScalar capScalar =>
    refine ⟨_, rfl, ?_⟩
    have ptr := (legacyWordReads_simpleReadExpr ptrScalar (.var index)).1
    have len := (legacyWordReads_simpleReadExpr lenScalar (.varLen index)).1
    have cap := (legacyWordReads_simpleReadExpr capScalar (.varCap index)).1
    simp only [legacyWordReads, filterMap_append] at ptr len cap ⊢
    rw [ptr, len, cap, words, sources_cons, sources_cons, append_assoc]

/-- A word of a plan is read behind the location of the address. -/
theorem wordReads_shifted {ptr : VariableLocation} {op : ReadOp} (low : locationToReadOp ptr = .ok op)
    (member : EventMember) (delta : Int) :
    ∃ stmts, generatePlanReadInto (shiftPlanOp op delta) (.word member) 8 = .ok stmts ∧
      wordReads stmts = sources [(member, shiftLocation ptr delta)] := by
  cases ptr with
  | register r | stackOffset offset | frameOffset r offset => cases low; exact ⟨_, rfl, rfl⟩
  | _ => cases low

/-- The words that a plan takes for the header, by the location of the address. -/
def plannedWords (index : Nat) : VariableLocation → List (EventMember × VariableLocation)
  | .goString ptr _ => [(.var index, shiftLocation ptr 0), (.varLen index, shiftLocation ptr 8)]
  | .goSlice ptr _ _ => [(.var index, shiftLocation ptr 0), (.varLen index, shiftLocation ptr 8),
      (.varCap index, shiftLocation ptr 16)]
  | _ => []

theorem wordReads_header (header : GoHeader resolved.location)
    {field : CaptureField} (low : LoweredTo GoBpfCompiler.lower resolved field) {index : Nat}
    {config : CaptureConfig} {stmts : List Statement}
    (out : generatePlanReadExpr field.op index field.size config = .ok stmts) :
    wordReads stmts = sources (plannedWords index resolved.location) := by
  obtain ⟨fieldName, offset, fieldSize, op⟩ := field
  have low : GoBpfCompiler.lower resolved = .ok (fieldSize, op) := low.2
  obtain ⟨name, location, size, typeName, nested⟩ := resolved
  cases header with
  | @string ptr len =>
    obtain ⟨base, isBase, back⟩ := except_bind_eq_ok.mp low
    cases back
    obtain ⟨first, isFirst, ptrReads⟩ := wordReads_shifted isBase (.var index) 0
    obtain ⟨second, isSecond, lenReads⟩ := wordReads_shifted isBase (.varLen index) 8
    simp only [generatePlanReadExpr, HeaderKind.deltas, isFirst, isSecond] at out
    cases out
    simp only [wordReads, filterMap_append] at ptrReads lenReads ⊢
    rw [ptrReads, lenReads, plannedWords, sources_cons]
    exact append_nil _
  | @slice ptr len cap =>
    obtain ⟨base, isBase, back⟩ := except_bind_eq_ok.mp low
    cases back
    obtain ⟨first, isFirst, ptrReads⟩ := wordReads_shifted isBase (.var index) 0
    obtain ⟨second, isSecond, lenReads⟩ := wordReads_shifted isBase (.varLen index) 8
    obtain ⟨third, isThird, capReads⟩ := wordReads_shifted isBase (.varCap index) 16
    simp only [generatePlanReadExpr, HeaderKind.deltas, isFirst, isSecond, isThird] at out
    cases out
    simp only [wordReads, filterMap_append] at ptrReads lenReads capReads ⊢
    rw [ptrReads, lenReads, capReads, plannedWords, sources_cons, sources_cons, append_assoc]

/-! ### When the two agree -/

theorem sources_inj {first second : List (EventMember × VariableLocation)}
    (firstScalar : ∀ word ∈ first, word.2.isScalar = true)
    (secondScalar : ∀ word ∈ second, word.2.isScalar = true) :
    sources first = sources second ↔ first = second := by
  have some {location : VariableLocation} (scalar : location.isScalar = true) :
      ∃ source, location.source = some source := by
    cases location with
    | register r | stackOffset offset | frameOffset r offset => exact ⟨_, rfl⟩
    | _ => cases scalar
  refine ⟨fun same => ?_, fun same => same ▸ rfl⟩
  induction first generalizing second with
  | nil =>
    cases second with
    | nil => rfl
    | cons word rest =>
      obtain ⟨source, isSource⟩ := some (secondScalar word (.head _))
      simp [sources, isSource] at same
  | cons word rest ih =>
    obtain ⟨source, isSource⟩ := some (firstScalar word (.head _))
    cases second with
    | nil => simp [sources, isSource] at same
    | cons word' rest' =>
      obtain ⟨source', isSource'⟩ := some (secondScalar word' (.head _))
      simp only [sources, filterMap_cons, isSource, isSource', Option.map_some, cons.injEq,
        Prod.mk.injEq] at same
      obtain ⟨⟨member, sourced⟩, later⟩ := same
      have located : word.2 = word'.2 :=
        source_inj (firstScalar word (.head _)) (by rw [isSource, isSource', sourced])
      rw [ih (fun w among => firstScalar w (.tail _ among))
        (fun w among => secondScalar w (.tail _ among)) later,
        Prod.ext member located]

/-- The words of the plan are those of the header exactly if it is contiguous. -/
theorem sources_planned_iff (header : GoHeader location) (index : Nat) :
    sources (plannedWords index location) = sources (location.words index) ↔ Contiguous location := by
  rw [sources_inj]
  · cases header with
    | string _ ptrFits | slice _ ptrFits =>
      simp [plannedWords, words, shiftLocation_zero ptrFits, Contiguous, eq_comm]
  · cases header <;> simp [plannedWords, shiftLocation_isScalar, *]
  · cases header <;> simp [words, *]

theorem wrappingAddSigned_eq {a b : Int} (low : -(2 ^ 63) ≤ a + b) (high : a + b < 2 ^ 63) :
    wrappingAddSigned a b = a + b := by
  rw [wrappingAddSigned, Int.bmod_eq_of_le] <;> omega

theorem saturatingAddSigned_eq {a b : Int} (low : -(2 ^ 63) ≤ a + b) (high : a + b < 2 ^ 63) :
    saturatingAddSigned a b = a + b := by
  rw [saturatingAddSigned]
  omega

def HasGoHeader (type : TypeInfo) : Prop :=
  (type.isString = true ∧ isRustStringType type.name = false) ∨
    (type.isString = false ∧ type.isSlice = true ∧ isRustSliceType type.name = false)

theorem upgraded_contiguous {base : Option Register} {offset : Int}
    (inMemory : headerBaseOffset location = some (base, offset)) (low : -(2 ^ 63) ≤ offset)
    (high : offset + 16 < 2 ^ 63) {type : TypeInfo} (isGo : HasGoHeader type) (byteSize : Nat) :
    ∃ header, upgradeLocationForType [⟨some location, byteSize⟩] type = .ok header ∧ GoHeader header ∧
      Contiguous header := by
  have scalar (at' : Int) : (headerLocation base at').isScalar = true := by cases base <;> rfl
  have fits : (headerLocation base offset).OffsetFits := by
    cases base <;> exact ⟨low, by omega⟩
  -- The shift of the plan and the sum of the reader agree, as long as neither leaves the range.
  have shifted (delta : Int) (pos : 0 ≤ delta) (small : delta ≤ 16) :
      headerLocation base (wrappingAddSigned offset delta) =
        shiftLocation (headerLocation base offset) delta := by
    rw [wrappingAddSigned_eq (by omega) (by omega)]
    cases base with
    | none | some r =>
      rw [headerLocation, headerLocation, shiftLocation, saturatingAddSigned_eq (by omega) (by omega)]
  have single : upgradeLocationForType [⟨some location, byteSize⟩] type =
      .ok (upgradeSingle location type) := rfl
  rcases isGo with ⟨isString, notRust⟩ | ⟨notString, isSlice, notRust⟩
  · have notOwned : isRustOwnedString type.name = false := by
      simp only [isRustStringType, Bool.or_eq_false_iff] at notRust
      exact notRust.1.1
    refine ⟨_, single, ?_⟩
    simp only [upgradeSingle, isString, inMemory, notOwned, stringLocation, notRust, if_true,
      Bool.false_eq_true, if_false]
    rw [shifted 0 (by omega) (by omega), shiftLocation_zero fits, shifted 8 (by omega) (by omega)]
    exact ⟨.string (scalar offset) fits (by rw [shiftLocation_isScalar]; exact scalar offset), rfl⟩
  · have notVec : isRustVec type.name = false ∧ isRustBorrowedSlice type.name = false := by
      simpa [isRustSliceType, Bool.or_eq_false_iff] using notRust
    refine ⟨_, single, ?_⟩
    simp only [upgradeSingle, notString, isSlice, inMemory, notVec, sliceLocation, notRust, if_true,
      Bool.false_eq_true, if_false]
    rw [shifted 8 (by omega) (by omega), shifted 16 (by omega) (by omega)]
    exact ⟨.slice (scalar offset) fits (by rw [shiftLocation_isScalar]; exact scalar offset)
      (by rw [shiftLocation_isScalar]; exact scalar offset), rfl, rfl⟩

/-- **The words of a header are kept** by the plan exactly if the header is contiguous: then the program
reads every word at its location, as the earlier generator always does. -/
theorem header_words_kept_iff {point : ProbePoint} {planHash : String} {plan : CapturePlan}
    (lowered : GoBpfCompiler.planFromProbe point planHash = .ok plan) {captureGoid : Bool}
    {config : CaptureConfig} {envelope : Option RawEnvelopeSpec} {program : BpfProgram}
    (generated : generateBpfProgramFromPlan plan captureGoid config envelope = .ok program)
    {index : Nat} {resolved : ResolvedVariable} (found : point.vars[index]? = some resolved)
    (header : GoHeader resolved.location) :
    ∃ statements legacy, program.reads[index]? = some statements ∧
      generateReadExpr resolved index config = some legacy ∧
      legacyWordReads legacy = sources (resolved.location.words index) ∧
      (wordReads statements = sources (resolved.location.words index) ↔ Contiguous resolved.location) := by
  obtain ⟨-, fields⟩ := planOfVariables_spec lowered
  obtain ⟨-, reads, -, -⟩ := generate_eq_ok generated
  obtain ⟨field, isField, own⟩ := found_of_forall₂ fields found
  obtain ⟨statements, isRead, out⟩ := planVarReads_getElem? reads isField
  obtain ⟨legacy, isLegacy, legacyReads⟩ := legacyWordReads_header header index config
  rw [Nat.zero_add] at out
  refine ⟨statements, legacy, isRead, isLegacy, legacyReads, ?_⟩
  rw [wordReads_header header own out]
  exact sources_planned_iff header index

section Samples

def goStringType : TypeInfo := { name := "string", byteSize := 16, isString := true }

def textAt (location : VariableLocation) : ProbePoint := ⟨4096, [⟨"s", location, .qword, "string", none⟩]⟩

def programWords (point : ProbePoint) : Option (List (EventMember × Source)) :=
  match GoBpfCompiler.planFromProbe point "sha256:plan" with
  | .ok plan =>
    match generateBpfProgramFromPlan plan false {} none with
    | .ok program => program.reads.head?.map wordReads
    | .error _ => none
  | .error _ => none

/-- For a text in the registers `rax` and `rbx` the length is read from `rax`. -/
theorem register_text_loses_length :
    upgradeLocationForType [⟨some (.register .rax), 8⟩, ⟨some (.register .rbx), 8⟩] goStringType =
        .ok (.goString (.register .rax) (.register .rbx)) ∧
      programWords (textAt (.goString (.register .rax) (.register .rbx))) =
        some [(.var 0, .register .rax), (.varLen 0, .register .rax)] ∧
      (generateReadExpr ⟨"s", .goString (.register .rax) (.register .rbx), .qword, "string", none⟩ 0 {}).map
          legacyWordReads = some [(.var 0, .register .rax), (.varLen 0, .register .rbx)] :=
  ⟨rfl, by decide, by decide⟩

theorem stack_text_keeps_words :
    ∃ plan program statements,
      GoBpfCompiler.planFromProbe (textAt (.goString (.stackOffset 32) (.stackOffset 40))) "sha256:plan" =
          .ok plan ∧
        generateBpfProgramFromPlan plan false {} none = .ok program ∧
        program.reads[0]? = some statements ∧
        wordReads statements = [(.var 0, .memory .stackPtr 32 8), (.varLen 0, .memory .stackPtr 40 8)] := by
  obtain ⟨plan, low⟩ : ∃ plan, GoBpfCompiler.planFromProbe
      (textAt (.goString (.stackOffset 32) (.stackOffset 40))) "sha256:plan" = .ok plan := ⟨_, rfl⟩
  obtain ⟨program, gen⟩ : ∃ program,
      generateBpfProgramFromPlan plan false {} none = .ok program := by
    cases low
    exact ⟨_, rfl⟩
  have header : GoHeader (.goString (.stackOffset 32) (.stackOffset 40)) :=
    .string rfl ⟨by decide, by decide⟩ rfl
  obtain ⟨statements, -, isRead, -, -, kept⟩ := @header_words_kept_iff
    (textAt (.goString (.stackOffset 32) (.stackOffset 40))) _ _ low _ _ _ _ gen 0 _ rfl header
  exact ⟨plan, program, statements, low, gen, isRead, kept.mpr rfl⟩

end Samples

end Detrix.Ebpf
