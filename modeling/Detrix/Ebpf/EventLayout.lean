/-
**The layout of an event.**

The event that a probe sends is a C struct: a fixed header, the envelope, the goroutine id, and for each
field of the plan a word and what belongs to it. The space that is reserved for it is counted
separately.

- `roundUp_finish_planFields`: the end of the struct, from the bytes that each field declares.
- `planEventSize_eq_sizeof_iff`: the reservation is the size of the struct exactly if every declared
  buffer is counted and the padding behind the buffers is less than a word.
-/

import Detrix.Ebpf.CapturePlan
import Detrix.Ebpf.Values
import Detrix.Library.CStruct
import Mathlib.Algebra.BigOperators.Ring.List

namespace Detrix.Ebpf

open Library.CStruct List Nat

/-! ### Members -/

inductive EventMember where
  | pid | tid | nsPid | reserved | timestamp
  | drxMagic | drxSchema | drxFieldCount | drxPayloadLen | drxProfileTag | drxPlanTag
  | goid
  | var (index : Nat)
  | varLen (index : Nat)
  | varCap (index : Nat)
  | varStr (index : Nat)
  | varBlob (index : Nat)
  deriving DecidableEq

def EventMember.text : EventMember → String
  | .pid => "pid"
  | .tid => "tid"
  | .nsPid => "ns_pid"
  | .reserved => "reserved"
  | .timestamp => "timestamp"
  | .drxMagic => "drx_magic"
  | .drxSchema => "drx_schema"
  | .drxFieldCount => "drx_field_count"
  | .drxPayloadLen => "drx_payload_len"
  | .drxProfileTag => "drx_profile_tag"
  | .drxPlanTag => "drx_plan_tag"
  | .goid => "goid"
  | .var index => "var" ++ toString index
  | .varLen index => "var" ++ toString index ++ "_len"
  | .varCap index => "var" ++ toString index ++ "_cap"
  | .varStr index => "var" ++ toString index ++ "_str"
  | .varBlob index => "var" ++ toString index ++ "_blob"

inductive CType where
  | u16
  | u32
  | u64
  | u8Array (length : Nat)

def CType.size : CType → Nat
  | .u16 => 2
  | .u32 => 4
  | .u64 => 8
  | .u8Array length => length

def CType.align : CType → Nat
  | .u16 => 2
  | .u32 => 4
  | .u64 => 8
  | .u8Array _ => 1

/-- A declaration of the struct, with the name that a comment gives for it. -/
structure CDeclaration where
  type : CType
  member : EventMember
  comment : Option String := none

open CDeclaration

def CDeclaration.decl (d : CDeclaration) : Decl EventMember := ⟨d.member, d.type.size, d.type.align⟩

def CDeclaration.text (d : CDeclaration) : String :=
  let comment := match d.comment with
    | some name => " // " ++ name ++ ": plan-op"
    | none => ""
  match d.type with
  | .u16 => "    u16 " ++ d.member.text ++ ";" ++ comment ++ "\n"
  | .u32 => "    u32 " ++ d.member.text ++ ";" ++ comment ++ "\n"
  | .u64 => "    u64 " ++ d.member.text ++ ";" ++ comment ++ "\n"
  | .u8Array length => "    u8 " ++ d.member.text ++ "[" ++ toString length ++ "];" ++ comment ++ "\n"

/-! ### The struct of a plan -/

/-- The members that the template has before everything else. -/
def templateHeader : List CDeclaration :=
  [⟨.u32, .pid, none⟩, ⟨.u32, .tid, none⟩, ⟨.u32, .nsPid, none⟩, ⟨.u32, .reserved, none⟩,
    ⟨.u64, .timestamp, none⟩]

structure RawEnvelopeSpec where
  profileTag : UInt32
  planTag : UInt64

def rawEnvelopeSize : Nat := 24

def envelopeFields : List CDeclaration :=
  [⟨.u32, .drxMagic, none⟩, ⟨.u16, .drxSchema, none⟩, ⟨.u16, .drxFieldCount, none⟩,
    ⟨.u32, .drxPayloadLen, none⟩, ⟨.u32, .drxProfileTag, none⟩, ⟨.u64, .drxPlanTag, none⟩]

variable (config : CaptureConfig)

def stringCapture : Nat := min config.maxStringCapture 255

def blobCapture (size : Nat) : Nat := min size config.maxBlobCapture

def blobField (index length : Nat) : CDeclaration := ⟨.u8Array length, .varBlob index, none⟩

/-- What is declared for a field after its first word. -/
def fieldTail (index : Nat) (field : CaptureField) : List CDeclaration :=
  match field.op with
  | .header _ _ kind | .headerExplicit _ _ _ _ kind =>
    match kind with
    | .string | .rustString | .borrowedStr =>
      [⟨.u64, .varLen index, none⟩, ⟨.u8Array (stringCapture config), .varStr index, none⟩]
    | .slice | .rustVec | .borrowedSlice => [⟨.u64, .varLen index, none⟩, ⟨.u64, .varCap index, none⟩]
  | .blob _ size _ => [blobField index (blobCapture config size)]
  | .piecewise _ => [blobField index (blobCapture config field.size)]
  | .piece _ _ _ => [blobField index (blobCapture config field.size)]
  | .register _ _ | .stack _ _ _ | .frame _ _ _ _ =>
    if field.size > 8 then [blobField index (blobCapture config field.size)] else []
  | _ => if field.size > 8 then [blobField index (blobCapture config field.size)] else []

/-- The declarations of a header after its first word. -/
def headerTail (index : Nat) (kind : HeaderKind) : List CDeclaration :=
  if kind.isText then
    [⟨.u64, .varLen index, none⟩, ⟨.u8Array (stringCapture config), .varStr index, none⟩]
  else [⟨.u64, .varLen index, none⟩, ⟨.u64, .varCap index, none⟩]

def fieldDeclarations (index : Nat) (field : CaptureField) : List CDeclaration :=
  ⟨.u64, .var index, some field.name⟩ :: fieldTail config index field

def planFields : (index : Nat) → List CaptureField → List CDeclaration
  | _, [] => []
  | index, field :: rest => fieldDeclarations config index field ++ planFields (index + 1) rest

def leadingFields (captureGoid : Bool) (envelope : Option RawEnvelopeSpec) : List CDeclaration :=
  (if envelope.isSome then envelopeFields else []) ++
    if captureGoid then [⟨.u64, .goid, none⟩] else []

/-- `build_plan_event_fields`, as declarations. -/
def planEventFields (fields : List CaptureField) (captureGoid : Bool) (config : CaptureConfig)
    (envelope : Option RawEnvelopeSpec) : List CDeclaration :=
  leadingFields captureGoid envelope ++ planFields config 0 fields

def buildPlanEventFields (fields : List CaptureField) (captureGoid : Bool) (config : CaptureConfig)
    (envelope : Option RawEnvelopeSpec) : String :=
  String.join ((planEventFields fields captureGoid config envelope).map text)

def probeEvent (declarations : List CDeclaration) : List (Decl EventMember) :=
  (templateHeader ++ declarations).map decl

/-! ### The reservation -/

/-- What is counted for a field beside its first word. -/
def countedTail (field : CaptureField) : Nat :=
  match field.op with
  | .header _ _ kind | .headerExplicit _ _ _ _ kind =>
    match kind with
    | .string | .rustString | .borrowedStr => 8 + stringCapture config
    | .slice | .rustVec | .borrowedSlice => 16
  | .blob _ size _ => blobCapture config size
  | .piecewise _ | .piece _ _ _ => blobCapture config field.size
  | .register _ _ | .stack _ _ _ | .frame _ _ _ _ =>
    if field.size > 8 then blobCapture config field.size else 0
  | _ => 0

def planEventSize (fields : List CaptureField) (captureGoid : Bool) (config : CaptureConfig)
    (envelope : Option RawEnvelopeSpec) : Nat :=
  roundUp (24 + (if envelope.isSome then rawEnvelopeSize else 0) + captureGoid.toNat * 8 +
    (fields.map fun field => 8 + countedTail config field).sum) 8

/-! ### Where the struct ends -/

def declaredTail (field : CaptureField) : Nat :=
  bytes ((fieldTail config 0 field).map decl)

variable (index : Nat) (field : CaptureField)

/-- The declarations of a field begin at a word, and need no padding among themselves. -/
theorem packed_fieldDeclarations {cursor : Nat} (aligned : 8 ∣ cursor) :
    Packed cursor ((fieldDeclarations config index field).map decl) := by
  refine ⟨aligned, ?_⟩
  have next : 8 ∣ cursor + 8 := dvd_add aligned (dvd_refl 8)
  have blob (length : Nat) : Packed (cursor + 8) ([blobField index length].map decl) :=
    ⟨one_dvd _, trivial⟩
  unfold fieldTail
  split
  all_goals first
    | exact blob _
    | split <;> first | exact blob _ | exact ⟨next, one_dvd _, trivial⟩ | trivial |
        exact ⟨next, dvd_add next (dvd_refl 8), trivial⟩

theorem bytes_fieldTail :
    bytes ((fieldTail config index field).map decl) = declaredTail config field := by
  unfold declaredTail fieldTail
  split
  all_goals first
    | rfl
    | split <;> rfl

variable (cursor : Nat)

theorem roundUp_roundUp_add (n : Nat) : roundUp (roundUp cursor 8 + n) 8 =
    roundUp cursor 8 + roundUp n 8 := by
  unfold roundUp
  omega

theorem finish_fieldDeclarations : finish cursor ((fieldDeclarations config index field).map decl) =
      roundUp cursor 8 + (8 + declaredTail config field) := by
  have aligned : 8 ∣ roundUp cursor 8 := dvd_mul_left 8 _
  have packed := packed_fieldDeclarations config index field aligned
  have begins : finish cursor ((fieldDeclarations config index field).map decl) =
      finish (roundUp cursor 8) ((fieldDeclarations config index field).map decl) := by
    show finish (roundUp cursor 8 + _) _ = finish (roundUp (roundUp cursor 8) 8 + _) _
    rw [roundUp_of_dvd aligned]
  rw [begins, finish_packed packed, fieldDeclarations, map_cons, bytes, map_cons, sum_cons,
    ← bytes_fieldTail config index field]
  rfl

variable (fields : List CaptureField)

/-- **The end of the fields**: each takes its word and its buffers, up to the next word. -/
theorem roundUp_finish_planFields :
    roundUp (finish cursor ((planFields config index fields).map decl)) 8 =
      roundUp cursor 8 + (fields.map fun field => roundUp (8 + declaredTail config field) 8).sum := by
  induction fields generalizing index cursor with
  | nil => rfl
  | cons field rest ih =>
    rw [planFields, map_append, finish_append, ih, finish_fieldDeclarations,
      roundUp_roundUp_add, map_cons, sum_cons, add_assoc]

variable (captureGoid : Bool) (envelope : Option RawEnvelopeSpec)

theorem finish_leading :
    finish 0 ((templateHeader ++ leadingFields captureGoid envelope).map decl) =
      24 + (if envelope.isSome then rawEnvelopeSize else 0) + captureGoid.toNat * 8 := by
  cases envelope <;> cases captureGoid <;> rfl

theorem CType.align_le_eight (type : CType) : type.align ≤ 8 := by
  cases type <;> simp [CType.align]

theorem alignment_probeEvent (declarations : List CDeclaration) : alignment (probeEvent declarations) = 8 := by
  have least (members : List CDeclaration) : alignment (members.map decl) ≤ 8 := by
    induction members with
    | nil => decide
    | cons member rest ih => exact Nat.max_le.mpr ⟨member.type.align_le_eight, ih⟩
  rw [probeEvent, map_append, alignment_append]
  exact max_eq_left (least declarations)

theorem leading_dvd :
    8 ∣ 24 + (if envelope.isSome then rawEnvelopeSize else 0) + captureGoid.toNat * 8 := by
  unfold rawEnvelopeSize
  split <;> omega

theorem sizeof_probeEvent (config : CaptureConfig) (envelope : Option RawEnvelopeSpec) :
    sizeof (probeEvent (planEventFields fields captureGoid config envelope)) =
      24 + (if envelope.isSome then rawEnvelopeSize else 0) + captureGoid.toNat * 8 +
        (fields.map fun field => roundUp (8 + declaredTail config field) 8).sum := by
  rw [sizeof, alignment_probeEvent, probeEvent, planEventFields, ← append_assoc, map_append,
    finish_append, finish_leading, roundUp_finish_planFields]
  rw [roundUp_of_dvd (leading_dvd captureGoid envelope)]

/-! ### When the reservation is the struct -/

/-- The buffer of a field is counted: the operation is not one that the count leaves out, or it has no
buffer. -/
def BufferCounted (config : CaptureConfig) (field : CaptureField) : Prop :=
  match field.op with
  | .indirect _ _ | .map _ | .cfa _ _ _ | .userBytes _ _ | .constant _ | .unavailable _ =>
    field.size ≤ 8 ∨ config.maxBlobCapture = 0
  | _ => True

def padding (config : CaptureConfig) (field : CaptureField) : Nat :=
  (8 - declaredTail config field % 8) % 8

/-- A buffer that is not counted is there nevertheless. -/
theorem declaredTail_spec :
    (BufferCounted config field ∧ declaredTail config field = countedTail config field) ∨
    (¬ BufferCounted config field ∧ countedTail config field = 0 ∧ 0 < declaredTail config field) := by
  have leftOut (counted : countedTail config field = 0)
      (decl : declaredTail config field =
        if field.size > 8 then blobCapture config field.size else 0)
      (exactly : BufferCounted config field ↔ field.size ≤ 8 ∨ config.maxBlobCapture = 0) :
      (BufferCounted config field ∧ declaredTail config field = countedTail config field) ∨
        (¬ BufferCounted config field ∧ countedTail config field = 0 ∧
          0 < declaredTail config field) := by
    rw [exactly, counted, decl]
    unfold blobCapture
    split <;> omega
  obtain ⟨name, offset, size, op⟩ := field
  cases op with
  | header base size kind | headerExplicit ptr len cap size kind =>
    exact .inl ⟨trivial, by cases kind <;> rfl⟩
  | blob offset size semantics | piecewise pieces | piece offset size op =>
    exact .inl ⟨trivial, rfl⟩
  | register r semantics | stack offset size semantics | frame r offset size semantics =>
    refine .inl ⟨trivial, ?_⟩
    simp only [declaredTail, fieldTail, countedTail]
    split <;> rfl
  | _ =>
    refine leftOut rfl ?_ Iff.rfl
    simp only [declaredTail, fieldTail]
    split <;> rfl

theorem roundUp_word_add (t : Nat) : roundUp (8 + t) 8 = 8 + t + (8 - t % 8) % 8 := by
  unfold roundUp
  omega

theorem counted_le_taken :
    (fields.map fun field => 8 + countedTail config field).sum ≤
      (fields.map fun field => roundUp (8 + declaredTail config field) 8).sum := by
  induction fields with
  | nil => exact le_refl 0
  | cons field rest ih =>
    have whole := roundUp_word_add (declaredTail config field)
    simp only [map_cons, sum_cons]
    rcases declaredTail_spec config field with ⟨-, same⟩ | ⟨-, zero, some⟩ <;> omega

/-- The fields take less than a word more than is counted for them exactly if every buffer is counted
and the padding is less than a word. -/
theorem taken_lt_iff (room : Nat) (small : room ≤ 8) :
    (fields.map fun field => roundUp (8 + declaredTail config field) 8).sum <
        (fields.map fun field => 8 + countedTail config field).sum + room ↔
      (∀ field ∈ fields, BufferCounted config field) ∧
        (fields.map (padding config)).sum < room := by
  induction fields generalizing room with
  | nil => simp
  | cons field rest ih =>
    have whole := roundUp_word_add (declaredTail config field)
    have atLeast := counted_le_taken config rest
    simp only [map_cons, sum_cons, forall_mem_cons]
    rcases declaredTail_spec config field with ⟨counted, same⟩ | ⟨leftOut, zero, some⟩
    · have taken : roundUp (8 + declaredTail config field) 8 =
          8 + countedTail config field + padding config field := by
        rw [whole, same, padding, same]
      by_cases fits : padding config field < room
      · have later := ih (room - padding config field) (by omega)
        constructor
        · intro less
          obtain ⟨all, sum⟩ := later.mp (by omega)
          exact ⟨⟨counted, all⟩, by omega⟩
        · rintro ⟨⟨-, all⟩, sum⟩
          have less := later.mpr ⟨all, by omega⟩
          omega
      · omega
    · constructor
      · intro less
        omega
      · rintro ⟨⟨counted, -⟩, -⟩
        exact absurd counted leftOut

theorem planEventSize_eq_sizeof_iff (config : CaptureConfig) (envelope : Option RawEnvelopeSpec) :
    planEventSize fields captureGoid config envelope =
        sizeof (probeEvent (planEventFields fields captureGoid config envelope)) ↔
      (∀ field ∈ fields, BufferCounted config field) ∧ (fields.map (padding config)).sum < 8 := by
  rw [← taken_lt_iff config fields 8 (le_refl 8), sizeof_probeEvent, planEventSize]
  have aligned := leading_dvd captureGoid envelope
  have atLeast := counted_le_taken config fields
  have words : 8 ∣ (fields.map fun field => roundUp (8 + declaredTail config field) 8).sum :=
    dvd_sum fun n among => by
      obtain ⟨field, -, rfl⟩ := mem_map.mp among
      exact dvd_mul_left 8 _
  generalize (fields.map fun field => roundUp (8 + declaredTail config field) 8).sum = taken at *
  unfold roundUp
  omega

end Detrix.Ebpf
