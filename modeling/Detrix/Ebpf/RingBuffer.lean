/-
**Reading an event.**

The record that a probe has sent is read by a cursor, part after part and without padding, while the
struct of the event has padding behind its buffers.

- `members_iff`: the parts in a row are the members of the struct exactly if the captured bytes of every
  variable but the last fill whole words.
- `reads_at_members_iff`: every part of a record is read where the struct has it, exactly then.
-/

import Detrix.Ebpf.Lowering
import Detrix.Library.Scan
import Mathlib.Algebra.Order.BigOperators.Group.List

namespace Detrix.Ebpf

open Library Bytes CStruct CDeclaration List Nat

/-! ### The parser -/

/-- What is made of the bytes of inline values, of the words of maps and of the addresses of structs. -/
structure Decoders where
  blob : ResolvedVariable → (pid : UInt32) → List UInt8 → Except String CapturedValue
  indirect : ResolvedVariable → (pid : UInt32) → List UInt8 → CapturedValue
  map : ResolvedVariable → (pid : UInt32) → UInt64 → CapturedValue
  struct : ResolvedVariable → (pid : UInt32) → UInt64 → Except String CapturedValue

structure RawEnvelopeExpectation where
  profileTag : UInt32
  planTag : UInt64
  fieldCount : Nat

structure ProbeEvent where
  pid : UInt32
  tid : UInt32
  goid : Option UInt64
  timestampNs : UInt64
  values : List CapturedValue

def minEventSize : Nat := 24
def rawEnvelopeMagic : UInt32 := u32Of (utf8 "DRX1")
def rawEnvelopeSchema : UInt16 := 1

/-- A program that reads members of an event; an error is the text of a `RingBuffer` error. -/
abbrev EventScan := Scan EventMember String

def endOfEvent (offset : Nat) : String := "Unexpected end of event at offset " ++ toString offset

def within (what name error : String) : String :=
  "Failed to read " ++ what ++ " '" ++ name ++ "': Ring buffer error: " ++ error

def readU16 (member : EventMember) : EventScan UInt16 := u16Of <$> Scan.bytes member 2 endOfEvent
def readU32 (member : EventMember) : EventScan UInt32 := u32Of <$> Scan.bytes member 4 endOfEvent

/-- `read_u64`, with what becomes of its error. -/
def readU64 (member : EventMember) (context : String → String) : EventScan UInt64 :=
  u64Of <$> Scan.bytes member 8 fun offset => context (endOfEvent offset)

def readBytes (member : EventMember) (count : Nat) (context : String → String) : EventScan (List UInt8) :=
  Scan.bytes member count fun offset =>
    context ("Unexpected end of event reading " ++ toString count ++ " bytes at offset " ++ toString offset)

def canonicalizeUserPointer (ptr : UInt64) : UInt64 := ptr &&& 0x00ffffffffffffff

section Values

variable (decoders : Decoders) (reader : ProcessMemoryReader) (config : CaptureConfig) (pid : UInt32)

def stringValue (word : UInt64) (len : Nat) (inline : List UInt8) : CapturedValue :=
  if len > config.maxStringCapture then .string [] 0
  else
    let ptr := canonicalizeUserPointer word
    if ptr = 0 then .string [] 0
    else if ptr < 0x1000 then .string [] 0
    else if ptr ≥ 0x0100000000000000 then .string [] 0
    else if len ≤ inline.length ∧ (inline.take len).any (· ≠ 0) then .string (inline.take len) len
    else
      match reader.readString pid ptr len with
      | .ok text => .string (utf8 text) len
      | .error _ => .string (utf8 "<read-failed>") len

def wordValue (resolved : ResolvedVariable) (word : UInt64) : Except String CapturedValue :=
  if resolved.nestedType.isSome then decoders.struct resolved pid word
  else if resolved.typeName = "float64" ∨ resolved.typeName = "f64" then .ok (.float word)
  else if resolved.typeName = "float32" ∨ resolved.typeName = "f32" then .ok (.float (widenFloat word.toUInt32))
  else .ok (.scalar word)

/-- The bytes of a value that has escaped to the heap; nothing is zeros. -/
def indirectBytes (word : UInt64) (capture : Nat) : List UInt8 :=
  if word ≠ 0 then
    match reader.readBytes pid word capture with
    | .ok bytes => bytes
    | .error _ => replicate capture 0
  else replicate capture 0

/-- The bytes of an inline value: from the record, if it has so many, or else from the address that the
first word has. -/
def readBlob (index : Nat) (name : String) (word : UInt64) (capture : Nat) : EventScan (List UInt8) := do
  let (offset, left) ← Scan.position
  if left ≥ capture then readBytes (.varBlob index) capture (within "StackBlob" name)
  else if word ≠ 0 then
    match reader.readBytes pid word capture with
    | .ok bytes => return bytes
    | .error error => .fail ("Failed to read StackBlob '" ++ name ++ "': " ++ error)
  else .fail ("Failed to read StackBlob '" ++ name ++ "': Unexpected end of event reading " ++
    toString capture ++ " bytes at offset " ++ toString offset)

def readTail (index : Nat) (resolved : ResolvedVariable) (word : UInt64) : EventScan CapturedValue :=
  match resolved.location with
  | .goString _ _ | .stringHeader _ _ => do
    let len ← readU64 (.varLen index) (within "string len for" resolved.name)
    let inline ← readBytes (.varStr index) config.maxStringCapture id
    return stringValue reader config pid word len.toNat inline
  | .goSlice _ _ _ | .sliceHeader _ _ _ => do
    let len ← readU64 (.varLen index) (within "slice len for" resolved.name)
    let cap ← readU64 (.varCap index) (within "slice cap for" resolved.name)
    return .slice len cap
  | .stackBlob _ byteSize | .piecewiseBlob _ byteSize => do
    let bytes ← readBlob reader pid index resolved.name word (blobCapture config byteSize)
    Scan.ofExcept (decoders.blob resolved pid bytes)
  | .stackIndirect _ byteSize =>
    return decoders.indirect resolved pid (indirectBytes reader pid word (blobCapture config byteSize))
  | .goMap _ => return decoders.map resolved pid word
  | .register _ | .stackOffset _ | .frameOffset _ _ => Scan.ofExcept (wordValue decoders pid resolved word)

def readVariables : (index : Nat) → List ResolvedVariable → EventScan (List CapturedValue)
  | _, [] => return []
  | index, resolved :: rest => do
    let word ← readU64 (.var index) (within "variable" resolved.name)
    let value ← readTail decoders reader config pid index resolved word
    return value :: (← readVariables (index + 1) rest)

end Values

structure EnvelopeWords where
  magic : UInt32
  schema : UInt16
  fieldCount : UInt16
  payloadLen : UInt32
  profileTag : UInt32
  planTag : UInt64

def readEnvelopeWords : EventScan EnvelopeWords := do
  let magic ← readU32 .drxMagic
  let schema ← readU16 .drxSchema
  let fieldCount ← readU16 .drxFieldCount
  let payloadLen ← readU32 .drxPayloadLen
  let profileTag ← readU32 .drxProfileTag
  let planTag ← readU64 .drxPlanTag id
  return ⟨magic, schema, fieldCount, payloadLen, profileTag, planTag⟩

/-- What the envelope has to agree with, the bytes after it among them. -/
def EnvelopeWords.check (words : EnvelopeWords) (expected : RawEnvelopeExpectation) (left : Nat) :
    Except String Unit :=
  if words.magic ≠ rawEnvelopeMagic ∨ words.schema ≠ rawEnvelopeSchema then
    .error ("Unsupported DRX1 envelope magic/schema: " ++ hexText words.magic.toUInt64 ++ "/" ++
      toString words.schema)
  else if words.fieldCount.toNat ≠ expected.fieldCount ∨ words.profileTag ≠ expected.profileTag ∨
      words.planTag ≠ expected.planTag then .error "Stale or mismatched DRX1 envelope"
  else if words.payloadLen.toNat ≠ left then
    .error ("DRX1 payload length mismatch: declared " ++ toString words.payloadLen ++ ", actual " ++
      toString left)
  else .ok ()

def readEnvelope (varCount : Nat) (expected : RawEnvelopeExpectation) : EventScan Unit := do
  Scan.require (expected.fieldCount = varCount) ("Envelope field count mismatch: expected " ++
    toString expected.fieldCount ++ ", variables " ++ toString varCount)
  let (_, left) ← Scan.position
  Scan.require (rawEnvelopeSize ≤ left) "Truncated DRX1 envelope header"
  let words ← readEnvelopeWords
  let (_, left) ← Scan.position
  Scan.ofExcept (words.check expected left)

def checkEnvelope (varCount : Nat) : Option RawEnvelopeExpectation → EventScan Unit
  | some expected => readEnvelope varCount expected
  | none => return ()

def readGoid : (captureGoid : Bool) → EventScan (Option UInt64)
  | true => some <$> readU64 .goid id
  | false => return none

/-- `parse_ring_buffer_event_with_envelope`. -/
def parseRingBufferEvent (decoders : Decoders) (reader : ProcessMemoryReader) (vars : List ResolvedVariable)
    (captureGoid : Bool) (config : CaptureConfig) (envelope : Option RawEnvelopeExpectation) :
    EventScan ProbeEvent := do
  let (_, left) ← Scan.position
  Scan.require (minEventSize ≤ left) ("Event too small: " ++ toString left ++ " bytes (min " ++
    toString minEventSize ++ ")")
  let pid ← readU32 .pid
  let tid ← readU32 .tid
  let nsPid ← readU32 .nsPid
  let _ ← readU32 .reserved
  let timestampNs ← readU64 .timestamp id
  checkEnvelope vars.length envelope
  let goid ← readGoid captureGoid
  let values ← readVariables decoders reader config nsPid 0 vars
  return ⟨pid, tid, goid, timestampNs, values⟩

/-! ### The parts that are read -/

/-- A member as a part of the record. -/
def CDeclaration.part (d : CDeclaration) : EventMember × Nat := (d.member, d.type.size)

def variableFields (config : CaptureConfig) : (index : Nat) → List ResolvedVariable → List CDeclaration
  | _, [] => []
  | index, resolved :: rest => ⟨.u64, .var index, none⟩ :: variableTail config index resolved.location ++
      variableFields config (index + 1) rest

section Parts

open Scan

variable {sure : Prop} {data : List UInt8} {offset : Nat} (member : EventMember)

theorem upto_readU16 (enough : offset + 2 ≤ data.length) :
    Upto sure data (readU16 member) offset [(member, 2)] := (Upto.bytes member _ enough).map u16Of

theorem upto_readU32 (enough : offset + 4 ≤ data.length) :
    Upto sure data (readU32 member) offset [(member, 4)] := (Upto.bytes member _ enough).map u32Of

theorem upto_readU64 (context : String → String) (enough : offset + 8 ≤ data.length) :
    Upto sure data (readU64 member context) offset [(member, 8)] := (Upto.bytes member _ enough).map u64Of

/-- The decoders make something of all bytes and all addresses. -/
structure Decoders.Lenient (decoders : Decoders) : Prop where
  blob : ∀ resolved pid bytes, ∃ value, decoders.blob resolved pid bytes = .ok value
  struct : ∀ resolved pid word, ∃ value, decoders.struct resolved pid word = .ok value

variable {config : CaptureConfig} {decoders : Decoders} (lenient : sure → decoders.Lenient)
  (reader : ProcessMemoryReader) (pid : UInt32)

theorem upto_readBlob (index : Nat) (name : String) (word : UInt64) {capture : Nat}
    (enough : offset + capture ≤ data.length) :
    Upto sure data (readBlob reader pid index name word capture) offset [(.varBlob index, capture)] := by
  refine .atPosition ?_
  dsimp only
  rw [if_pos (by omega)]
  exact .bytes _ _ enough

include lenient in
theorem upto_readTail (valid : config.Valid) (index : Nat) (resolved : ResolvedVariable) (word : UInt64)
    (enough : offset + total ((variableTail config index resolved.location).map part) ≤
      data.length) :
    Upto sure data (readTail decoders reader config pid index resolved word) offset
      ((variableTail config index resolved.location).map part) := by
  have fits : stringCapture config = config.maxStringCapture := min_eq_left valid.stringCapture.2
  have fine (isSure : sure) : ∃ value, wordValue decoders pid resolved word = .ok value := by
    unfold wordValue
    split
    · exact (lenient isSure).struct _ _ _
    split
    · exact ⟨_, rfl⟩
    split
    · exact ⟨_, rfl⟩
    · exact ⟨_, rfl⟩
  unfold readTail
  cases place : resolved.location with
  | register r | stackOffset slot | frameOffset r slot => exact .ofExcept fine
  | stackIndirect slot byteSize | goMap ptr => exact .done _
  | goString ptr len | stringHeader ptr len =>
    simp only [place, variableTail, map_cons, map_nil, part, CType.size, total_cons,
      total_nil, fits] at enough ⊢
    refine (upto_readU64 _ _ (by omega)).seq fun len _ => ?_
    refine (Upto.bytes _ _ (by omega)).seq fun inline _ => ?_
    exact .done _
  | goSlice ptr len cap | sliceHeader ptr len cap =>
    simp only [place, variableTail, map_cons, map_nil, part, CType.size, total_cons,
      total_nil] at enough ⊢
    refine (upto_readU64 _ _ (by omega)).seq fun len _ => ?_
    refine (upto_readU64 _ _ (by omega)).seq fun cap _ => ?_
    exact .done _
  | stackBlob slot byteSize | piecewiseBlob pieces byteSize =>
    simp only [place, variableTail, map_cons, map_nil, part, blobField, CType.size,
      total_cons, total_nil] at enough ⊢
    exact (upto_readBlob reader pid _ _ _ enough).bind fun bytes _ =>
      .ofExcept fun isSure => (lenient isSure).blob _ _ _

include lenient in
theorem upto_readVariables (valid : config.Valid) (vars : List ResolvedVariable) (index : Nat)
    (enough : offset + total ((variableFields config index vars).map part) ≤ data.length) :
    Upto sure data (readVariables decoders reader config pid index vars) offset
      ((variableFields config index vars).map part) := by
  induction vars generalizing index offset with
  | nil => exact .done _
  | cons resolved rest ih =>
    rw [variableFields, cons_append, map_cons, map_append] at enough ⊢
    simp only [part, CType.size, total_cons, total_append] at enough
    refine (upto_readU64 _ _ (by omega)).seq fun word _ => ?_
    refine (upto_readTail lenient reader pid valid index resolved word
      (by omega)).bind fun value _ => ?_
    exact (ih (index + 1) (by omega)).map _

theorem upto_readEnvelopeWords (enough : offset + 24 ≤ data.length) :
    Upto sure data readEnvelopeWords offset (envelopeFields.map part) := by
  refine (upto_readU32 _ (by omega)).seq fun magic _ => ?_
  refine (upto_readU16 _ (by omega)).seq fun schema _ => ?_
  refine (upto_readU16 _ (by omega)).seq fun fieldCount _ => ?_
  refine (upto_readU32 _ (by omega)).seq fun payloadLen _ => ?_
  refine (upto_readU32 _ (by omega)).seq fun profileTag _ => ?_
  exact (upto_readU64 _ _ (by omega)).map _

theorem upto_readGoid (goid : Bool) (enough : offset + goid.toNat * 8 ≤ data.length) :
    Upto sure data (readGoid goid) offset
      ((if goid then [(⟨.u64, .goid, none⟩ : CDeclaration)] else []).map part) := by
  cases goid with
  | true => exact (upto_readU64 _ _ enough).map some
  | false => exact .done none

/-- The members of the event, in the order in which they are read. -/
def eventFields (captureGoid : Bool) (config : CaptureConfig) (spec : RawEnvelopeSpec)
    (vars : List ResolvedVariable) : List CDeclaration :=
  templateHeader ++ leadingFields captureGoid (some spec) ++ variableFields config 0 vars

def EnvelopeFits (data : List UInt8) (expected : RawEnvelopeExpectation) : Prop :=
  ∀ words, run data readEnvelopeWords 24 = .ok (words, 48) →
    words.check expected (data.length - 48) = .ok ()

include lenient in
/-- **The parts of a record are read in a row**, without padding. -/
theorem upto_parseRingBufferEvent (valid : config.Valid) (vars : List ResolvedVariable)
    (captureGoid : Bool) (spec : RawEnvelopeSpec)
    (fits : sure → EnvelopeFits data ⟨spec.profileTag, spec.planTag, vars.length⟩)
    (enough : total ((eventFields captureGoid config spec vars).map part) ≤ data.length) :
    Upto sure data (parseRingBufferEvent decoders reader vars captureGoid config
        (some ⟨spec.profileTag, spec.planTag, vars.length⟩)) 0
      ((eventFields captureGoid config spec vars).map part) := by
  have goidLength : total ((if captureGoid then [(⟨.u64, .goid, none⟩ : CDeclaration)] else []).map
      part) = captureGoid.toNat * 8 := by cases captureGoid <;> rfl
  have envelopeLength : total (envelopeFields.map part) = 24 := rfl
  have headerLength : total (templateHeader.map part) = 24 := rfl
  unfold eventFields leadingFields at enough ⊢
  rw [append_assoc, append_assoc] at enough ⊢
  simp only [Option.isSome_some, if_true, map_append, total_append, goidLength, envelopeLength,
    headerLength] at enough ⊢
  refine .atPosition ?_
  refine (Upto.require (fun _ => decide_eq_true (show 24 ≤ _ by omega)) _).andThen fun _ _ => ?_
  refine (upto_readU32 _ (by omega)).seq fun pid _ => ?_
  refine (upto_readU32 _ (by omega)).seq fun tid _ => ?_
  refine (upto_readU32 _ (by omega)).seq fun nsPid _ => ?_
  refine (upto_readU32 _ (by omega)).seq fun _ _ => ?_
  refine (upto_readU64 _ _ (by omega)).seq fun timestamp _ => ?_
  refine @Upto.bind _ _ _ _ _ _ _ _ _ (envelopeFields.map part) _ ?_ fun _ _ => ?_
  · refine (Upto.require (fun _ => decide_eq_true rfl) _).andThen fun _ _ => .atPosition ?_
    refine (Upto.require (fun _ => decide_eq_true ?_) _).andThen fun _ _ => ?_
    · show 24 ≤ data.length - 24
      omega
    rw [← append_nil (envelopeFields.map part)]
    refine (upto_readEnvelopeWords (by omega)).bind fun words ran => ?_
    · exact .atPosition (.ofExcept fun isSure => ⟨(), fits isSure words ran⟩)
  refine (upto_readGoid captureGoid
    (by simp only [envelopeLength]; omega)).bind fun goid _ => ?_
  exact (upto_readVariables lenient reader nsPid valid vars 0
    (by simp only [envelopeLength, goidLength]; omega)).map _

end Parts

/-! ### The parts and the members -/

/-- The part is a member of the struct: it is read where the member is, and as far as it goes. -/
def AtMember (members : List (Decl EventMember)) (read : Scan.Read EventMember) : Prop :=
  ∃ d, (d, read.offset) ∈ place 0 members ∧ d.name = read.name ∧ d.size = read.count

def capturedBytes (config : CaptureConfig) : VariableLocation → Nat
  | .stackBlob _ byteSize | .piecewiseBlob _ byteSize => blobCapture config byteSize
  | _ => 0

variable {vars : List ResolvedVariable} {fields : List CaptureField} {cursor : Nat}
  {config : CaptureConfig}

theorem planFields_eq_variableFields
    (declared : List.Forall₂ (fun resolved field => DeclaredFor config resolved.location field) vars fields)
    (index : Nat) : (planFields config index fields).map decl =
      (variableFields config index vars).map decl := by
  induction declared generalizing index with
  | nil => rfl
  | cons here _ ih =>
    rw [planFields, variableFields, fieldDeclarations, map_append, map_append, ih, here.tail]
    rfl

/-- The tail of a variable fills whole words exactly if its captured bytes do. -/
theorem total_variableTail (valid : config.Valid) (index : Nat) (loc : VariableLocation) :
    Scan.total ((variableTail config index loc).map part) % 8 =
      capturedBytes config loc % 8 := by
  have words := valid.stringWords
  have fits : stringCapture config = config.maxStringCapture := min_eq_left valid.stringCapture.2
  cases loc with
  | goString ptr len | stringHeader ptr len =>
    show (8 + (stringCapture config + 0)) % 8 = 0
    omega
  | goSlice ptr len cap | sliceHeader ptr len cap =>
    show (8 + (8 + 0)) % 8 = 0
    rfl
  | _ => rfl

theorem mem_sequential_of_mem_row {declarations : List CDeclaration} {offset : Nat}
    {read : Scan.Read EventMember} (listed : read ∈ Scan.row offset (declarations.map part)) :
    ∃ d, (d, read.offset) ∈ sequential offset (declarations.map decl) ∧
      d.name = read.name ∧ d.size = read.count := by
  induction declarations generalizing offset with
  | nil => cases listed
  | cons d rest ih =>
    rcases mem_cons.mp listed with rfl | later
    · exact ⟨d.decl, (.head _), rfl, rfl⟩
    · obtain ⟨member, found, same⟩ := ih later
      exact ⟨member, .tail _ found, same⟩

theorem bytes_eq_total (declarations : List CDeclaration) :
    bytes (declarations.map decl) = Scan.total (declarations.map part) := by
  rw [bytes, Scan.total, map_map, map_map]
  rfl

theorem packed_variableTail (config : CaptureConfig) (index : Nat) (loc : VariableLocation)
    (aligned : 8 ∣ cursor) :
    Packed cursor ((variableTail config index loc).map decl) := by
  have next : 8 ∣ cursor + 8 := dvd_add aligned (dvd_refl 8)
  cases loc with
  | goString ptr len | stringHeader ptr len => exact ⟨aligned, one_dvd _, trivial⟩
  | goSlice ptr len cap | sliceHeader ptr len cap => exact ⟨aligned, next, trivial⟩
  | stackBlob slot byteSize | piecewiseBlob pieces byteSize => exact ⟨one_dvd _, trivial⟩
  | _ => trivial

/-- No padding is needed if the captured bytes of every variable but the last fill whole words. -/
theorem packed_variableFields (valid : config.Valid)
    (whole : ∀ resolved ∈ vars.dropLast, capturedBytes config resolved.location % 8 = 0)
    (index : Nat) (aligned : 8 ∣ cursor) :
    Packed cursor ((variableFields config index vars).map decl) := by
  induction vars generalizing index cursor with
  | nil => trivial
  | cons resolved rest ih =>
    have next : 8 ∣ cursor + 8 := dvd_add aligned (dvd_refl 8)
    have tail := packed_variableTail config index resolved.location next
    rw [variableFields, cons_append, map_cons, map_append]
    refine ⟨aligned, tail.append ?_⟩
    cases rest with
    | nil => trivial
    | cons second rest =>
      refine ih (fun r among => whole r (.tail _ among)) (index + 1) ?_
      have filled := whole resolved (.head _)
      have mod := total_variableTail valid index resolved.location
      rw [bytes_eq_total]
      exact dvd_add next (dvd_of_mod_eq_zero (mod.trans filled))

/-- If every first word is read at a multiple of eight, the captured bytes between fill whole words. -/
theorem whole_of_words_aligned (valid : config.Valid) {index : Nat} (aligned : 8 ∣ cursor)
    (words : ∀ read ∈ Scan.row cursor ((variableFields config index vars).map part),
      (∃ i, read.name = .var i) → 8 ∣ read.offset) :
    ∀ resolved ∈ vars.dropLast, capturedBytes config resolved.location % 8 = 0 := by
  induction vars generalizing index cursor with
  | nil => nofun
  | cons resolved rest ih =>
    cases rest with
    | nil => nofun
    | cons second rest =>
      rw [variableFields, cons_append, map_cons, map_append] at words
      have mod := total_variableTail valid index resolved.location
      generalize isTail : (variableTail config index resolved.location).map part = tail at *
      have later (read : Scan.Read EventMember)
          (listed : read ∈ Scan.row (cursor + 8 + Scan.total tail)
            ((variableFields config (index + 1) (second :: rest)).map part)) :
          (∃ i, read.name = .var i) → 8 ∣ read.offset := by
        refine words read (.tail _ ?_)
        rw [Scan.row_append]
        exact mem_append_right _ listed
      have next : 8 ∣ cursor + 8 + Scan.total tail := later _ (.head _) ⟨index + 1, rfl⟩
      intro r among
      rcases mem_cons.mp among with rfl | among
      · omega
      · exact ih next later r among

/-- The first word of a variable is declared as a word. -/
theorem type_of_var {goid : Bool} {spec : RawEnvelopeSpec}
    {d : CDeclaration} {i : Nat} (declared : d ∈ eventFields goid config spec vars)
    (isVar : d.member = .var i) : d.type = .u64 := by
  have inTail (index : Nat) (loc : VariableLocation) (among : d ∈ variableTail config index loc) :
      d.member ≠ .var i := by
    cases loc with
    | goString ptr len | stringHeader ptr len | goSlice ptr len cap | sliceHeader ptr len cap =>
      rcases mem_pair.mp among with rfl | rfl <;> nofun
    | stackBlob slot byteSize | piecewiseBlob pieces byteSize =>
      cases mem_singleton.mp among
      nofun
    | _ => cases among
  rcases mem_append.mp declared with leading | own
  · cases goid <;>
      simp only [leadingFields, templateHeader, envelopeFields, Option.isSome_some, if_true,
        Bool.false_eq_true, if_false, append_nil, cons_append, nil_append, mem_cons,
        not_mem_nil, or_false] at leading <;>
      rcases leading with rfl | rfl | rfl | rfl | rfl | rfl | rfl | rfl | rfl | rfl | rfl | rfl <;>
      cases isVar
  · clear declared
    generalize 0 = index at own
    induction vars generalizing index with
    | nil => cases own
    | cons resolved rest ih =>
      rcases mem_append.mp own with here | later
      · rcases mem_cons.mp here with rfl | among
        · rfl
        · exact absurd isVar (inTail index resolved.location among)
      · exact ih (index + 1) later

theorem members_iff (valid : config.Valid) (goid : Bool)
    (spec : RawEnvelopeSpec) (vars : List ResolvedVariable) :
    (∀ read ∈ Scan.row 0 ((eventFields goid config spec vars).map part),
        AtMember ((eventFields goid config spec vars).map decl) read) ↔
      ∀ resolved ∈ vars.dropLast, capturedBytes config resolved.location % 8 = 0 := by
  have leadingPacked : Packed 0 ((templateHeader ++ leadingFields goid (some spec)).map
      decl) := by
    cases goid <;> simp [templateHeader, leadingFields, envelopeFields, decl, CType.size,
      CType.align, Packed]
  have leadingBytes : 8 ∣ Scan.total ((templateHeader ++ leadingFields goid (some spec)).map
      part) := by
    rw [← bytes_eq_total, ← zero_add (bytes _), ← finish_packed leadingPacked, finish_leading]
    exact leading_dvd goid (some spec)
  constructor
  · intro atMembers
    refine @whole_of_words_aligned _ _ config valid 0 leadingBytes ?_
    rintro read listed ⟨i, isVar⟩
    have inRow : read ∈ Scan.row 0 ((eventFields goid config spec vars).map part) := by
      rw [eventFields, map_append, Scan.row_append, zero_add]
      exact mem_append_right _ listed
    obtain ⟨d, placed, name, -⟩ := atMembers read inRow
    obtain ⟨own, declared, rfl⟩ := mem_map.mp (of_mem_place placed).1
    have word := type_of_var declared (name.trans isVar)
    have aligned := (of_mem_place placed).2
    rw [decl, word] at aligned
    exact aligned
  · intro whole read listed
    have packed : Packed 0 ((eventFields goid config spec vars).map decl) := by
      rw [eventFields, map_append]
      refine leadingPacked.append (packed_variableFields valid whole 0 ?_)
      rw [zero_add, bytes_eq_total]
      exact leadingBytes
    obtain ⟨d, found, same⟩ := mem_sequential_of_mem_row listed
    rw [← place_packed packed] at found
    exact ⟨d, found, same⟩

/-! ### A record that is read to its end -/

def plainDecoders : Decoders :=
  ⟨fun _ _ bytes => .ok (.bytes bytes), fun _ _ bytes => .bytes bytes, fun _ _ word => .scalar word,
    fun _ _ word => .ok (.scalar word)⟩

/-- A reader of a process that is gone. -/
def noMemory : ProcessMemoryReader :=
  ⟨fun _ _ _ => .error "", fun _ _ _ => .error "", fun _ _ => .error ""⟩

/-- A record with the envelope that is expected, and zeros. -/
def plainRecord (spec : RawEnvelopeSpec) (varCount length : Nat) : List UInt8 :=
  replicate 24 0 ++ (u32Bytes rawEnvelopeMagic ++ (u16Bytes rawEnvelopeSchema ++
    (u16Bytes (.ofNat varCount) ++ (u32Bytes (.ofNat (length - 48)) ++ (u32Bytes spec.profileTag ++
      (u64Bytes spec.planTag ++ replicate (length - 48) 0))))))

section Records

open Scan

theorem lenient_plainDecoders : plainDecoders.Lenient := ⟨fun _ _ _ => ⟨_, rfl⟩, fun _ _ _ => ⟨_, rfl⟩⟩

variable (spec : RawEnvelopeSpec)

theorem length_plainRecord (varCount : Nat) {length : Nat} (long : 48 ≤ length) :
    (plainRecord spec varCount length).length = length := by
  simp only [plainRecord, length_append, length_replicate, u16Bytes, u32Bytes, u64Bytes, length_leBytes]
  omega

theorem envelopeFits_plainRecord {varCount length : Nat} (long : 48 ≤ length)
    (few : varCount < 2 ^ 16) (short : length < 2 ^ 32) :
    EnvelopeFits (plainRecord spec varCount length) ⟨spec.profileTag, spec.planTag, varCount⟩ := by
  have size := length_plainRecord spec varCount long
  have fields : (UInt16.ofNat varCount).toNat = varCount := UInt16.toNat_ofNat_of_lt' few
  have payload : (UInt32.ofNat (length - 48)).toNat = length - 48 :=
    UInt32.toNat_ofNat_of_lt' (show length - 48 < 2 ^ 32 by omega)
  have ran : run (plainRecord spec varCount length) readEnvelopeWords 24 =
      .ok (⟨rawEnvelopeMagic, rawEnvelopeSchema, .ofNat varCount, .ofNat (length - 48), spec.profileTag,
        spec.planTag⟩, 48) := by
    have start : (plainRecord spec varCount length).drop 24 = _ := drop_left' length_replicate
    have four (x : UInt32) : (u32Bytes x).length = 4 := length_leBytes 4 _
    have two (x : UInt16) : (u16Bytes x).length = 2 := length_leBytes 2 _
    obtain ⟨magic, start⟩ := run_word u32Of EventMember.drxMagic endOfEvent start (four _) (by decide)
      (u32Of_u32Bytes _)
    obtain ⟨schema, start⟩ := run_word u16Of EventMember.drxSchema endOfEvent start (two _) (by decide)
      (u16Of_u16Bytes _)
    obtain ⟨fieldCount, start⟩ := run_word u16Of EventMember.drxFieldCount endOfEvent start (two _)
      (by decide) (u16Of_u16Bytes _)
    obtain ⟨payloadLen, start⟩ := run_word u32Of EventMember.drxPayloadLen endOfEvent start (four _)
      (by decide) (u32Of_u32Bytes _)
    obtain ⟨profileTag, start⟩ := run_word u32Of EventMember.drxProfileTag endOfEvent start (four _)
      (by decide) (u32Of_u32Bytes _)
    obtain ⟨planTag, -⟩ := run_word u64Of EventMember.drxPlanTag endOfEvent start (length_leBytes 8 _)
      (by decide) (u64Of_u64Bytes _)
    simp only [readEnvelopeWords, readU16, readU32, readU64, id, run_bind, magic, schema, fieldCount,
      payloadLen, profileTag, planTag]
    rfl
  intro words isWords
  cases ran.symm.trans isWords
  rw [size, EnvelopeWords.check, if_neg (by simp), if_neg (by simp [fields]), if_neg (by simp [payload])]

end Records

/-! ### Members and reads -/

section
variable {config : CaptureConfig}
  (declared : List.Forall₂ (fun resolved field => DeclaredFor config resolved.location field) vars fields)
include declared

theorem total_variableFields (index : Nat) :
    Scan.total ((variableFields config index vars).map part) =
      (fields.map fun field => 8 + countedTail config field).sum := by
  induction declared generalizing index with
  | nil => rfl
  | @cons resolved field _ _ here _ ih =>
    have tail : Scan.total ((variableTail config index resolved.location).map part) =
        countedTail config field := by
      rw [← here.tail, ← bytes_eq_total, bytes_fieldTail]
      rcases declaredTail_spec config field with ⟨-, same⟩ | ⟨leftOut, -⟩
      · exact same
      · exact absurd here.counted leftOut
    rw [variableFields, cons_append, map_cons, map_append, map_cons, sum_cons, ← ih (index + 1), ← tail]
    simp [part, CType.size, Scan.total_cons, Scan.total_append, add_assoc]

theorem total_eventFields_le (goid : Bool) (spec : RawEnvelopeSpec) :
    Scan.total ((eventFields goid config spec vars).map part) ≤
      planEventSize fields goid config (some spec) := by
  have leading : Scan.total ((templateHeader ++ leadingFields goid (some spec)).map
      part) = 24 + rawEnvelopeSize + goid.toNat * 8 := by cases goid <;> rfl
  rw [eventFields, map_append, Scan.total_append, leading, total_variableFields declared]
  exact le_roundUp _ (by decide)

end

theorem planEventSize_bounds {plan : CapturePlan} (ok : plan.validate = .ok ())
    (goid : Bool) (spec : RawEnvelopeSpec) :
    48 ≤ planEventSize plan.fields goid config (some spec) ∧
      planEventSize plan.fields goid config (some spec) < 2 ^ 32 := by
  have tail {field : CaptureField} (among : field ∈ plan.fields) : countedTail config field ≤ 4096 := by
    have own := (CapturePlan.validateOp_of_validate ok among).2
    have size : field.size ≤ 4096 := CapturePlan.size_le_of_validate ok among
    obtain ⟨name, offset, fieldSize, op⟩ := field
    unfold countedTail stringCapture blobCapture
    cases op with
    | blob slot blobSize semantics =>
      rw [validateOp, if_neg (by decide)] at own
      have small : blobSize ≤ 4096 := by
        by_contra large
        rw [checkReadSize, if_pos (.inr (not_le.mp large))] at own
        cases own
      dsimp only
      omega
    | header base headerSize kind | headerExplicit ptr len cap headerSize kind =>
      cases kind <;> dsimp only <;> omega
    | register r semantics | stack slot own' semantics | frame r slot own' semantics =>
      dsimp only at size ⊢
      split <;> omega
    | piecewise pieces | piece start own' op => dsimp only at size ⊢; omega
    | _ => exact zero_le _
  have sum : _ ≤ _ * 4104 :=
    sum_le_card_nsmul (plan.fields.map fun field => 8 + countedTail config field) 4104
      fun n among => by
        obtain ⟨field, mem, rfl⟩ := mem_map.mp among
        have small := tail mem
        omega
  have few : plan.fields.length ≤ 64 := (CapturePlan.validate_spec ok).1
  rw [length_map] at sum
  have flag : goid.toNat ≤ 1 := Bool.toNat_le goid
  simp only [planEventSize, Option.isSome_some, if_true, rawEnvelopeSize, roundUp]
  omega

/-- **Every part of a record is read where the struct has it**, whatever is made of the values and
whatever the record holds, exactly if the captured bytes of every variable but the last fill whole
words. -/
theorem reads_at_members_iff {point : ProbePoint} {planHash : String} {plan : CapturePlan}
    (lowered : GoBpfCompiler.planFromProbe point planHash = .ok plan ∨
      RustBpfCompiler.planFromProbe point planHash = .ok plan)
    {config : CaptureConfig} (checked : config.validate = []) (captureGoid : Bool) (spec : RawEnvelopeSpec) :
    (∀ decoders reader data, data.length = planEventSize plan.fields captureGoid config (some spec) →
      ∀ read ∈ Scan.reads data (parseRingBufferEvent decoders reader point.vars captureGoid config
          (some ⟨spec.profileTag, spec.planTag, point.vars.length⟩)) 0,
        AtMember (probeEvent (planEventFields plan.fields captureGoid config (some spec))) read) ↔
      ∀ resolved ∈ point.vars.dropLast, capturedBytes config resolved.location % 8 = 0 := by
  have valid := CaptureConfig.validate_eq_nil_iff.mp checked
  obtain ⟨planValid, declared⟩ : plan.validate = .ok () ∧ List.Forall₂
      (fun resolved field => DeclaredFor config resolved.location field) point.vars plan.fields := by
    rcases lowered with go | rust
    · obtain ⟨planValid, fields⟩ := planOfVariables_spec go
      exact ⟨planValid, fields.imp fun _ _ => GoBpfCompiler.declaredFor_of_lower config⟩
    · obtain ⟨planValid, fields⟩ := planOfVariables_spec rust
      exact ⟨planValid, fields.imp fun _ _ => RustBpfCompiler.declaredFor_of_lower config⟩
  have members : probeEvent (planEventFields plan.fields captureGoid config (some spec)) =
      (eventFields captureGoid config spec point.vars).map decl := by
    simp only [probeEvent, planEventFields, eventFields, map_append, append_assoc,
      planFields_eq_variableFields declared]
  have length := total_eventFields_le declared captureGoid spec
  rw [members, ← members_iff valid captureGoid spec point.vars]
  constructor
  · intro all read listed
    obtain ⟨long, short⟩ := planEventSize_bounds planValid captureGoid spec
    have few : point.vars.length < 2 ^ 16 := by
      have fields := (CapturePlan.validate_spec planValid).1
      rw [← declared.length_eq] at fields
      exact fields.trans_lt (by decide)
    have size := length_plainRecord spec point.vars.length long
    have upto := @upto_parseRingBufferEvent True _ config plainDecoders (fun _ => lenient_plainDecoders)
      noMemory valid point.vars captureGoid spec (fun _ => envelopeFits_plainRecord spec long few short)
        (size.symm ▸ length)
    obtain ⟨event, ran⟩ := upto.ends trivial
    rw [← (upto.whole ran).1] at listed
    exact all _ _ _ size read listed
  · intro all decoders reader data long read listed
    have upto := @upto_parseRingBufferEvent False data config decoders False.elim reader valid point.vars
      captureGoid spec False.elim (long ▸ length)
    exact all read (upto.front.subset listed)

section Samples

def sampleSpec : RawEnvelopeSpec := ⟨1, 2⟩

def numberAfter (byteSize : Nat) : ProbePoint :=
  ⟨4096, [⟨"b", .stackBlob 16 byteSize, .qword, "[n]uint8", none⟩,
    ⟨"x", .stackOffset 32, .qword, "int", none⟩]⟩

/-- After three bytes the number is at 64 in the struct and is read at 59, in a record of the length of
the struct. -/
theorem number_read_before_member :
    ∃ plan, GoBpfCompiler.planFromProbe (numberAfter 3) "sha256:plan" = .ok plan ∧
      planEventSize plan.fields false {} (some sampleSpec) = 72 ∧
      (⟨.var 1, 8, 8⟩, 64) ∈ place 0 (probeEvent (planEventFields plan.fields false {} (some sampleSpec))) ∧
      ⟨.var 1, 59, 8⟩ ∈ Scan.reads (plainRecord sampleSpec 2 72) (parseRingBufferEvent plainDecoders noMemory
        (numberAfter 3).vars false {} (some ⟨1, 2, 2⟩)) 0 :=
  ⟨_, rfl, by decide, by decide, by decide⟩

theorem number_read_at_member :
    ∃ plan, GoBpfCompiler.planFromProbe (numberAfter 8) "sha256:plan" = .ok plan ∧
      ∀ decoders reader data, data.length = planEventSize plan.fields false {} (some sampleSpec) →
        ∀ read ∈ Scan.reads data (parseRingBufferEvent decoders reader (numberAfter 8).vars false {}
            (some ⟨1, 2, 2⟩)) 0,
          AtMember (probeEvent (planEventFields plan.fields false {} (some sampleSpec))) read := by
  obtain ⟨plan, low⟩ : ∃ plan, GoBpfCompiler.planFromProbe (numberAfter 8) "sha256:plan" = .ok plan :=
    ⟨_, rfl⟩
  exact ⟨plan, low, (reads_at_members_iff (.inl low) (by decide) false sampleSpec).mpr (by decide)⟩

end Samples

end Detrix.Ebpf
