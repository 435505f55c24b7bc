/-
**Where a program stores.**

Every statement for a field names a member of the event and stores some bytes into it.

- `inside_field_iff`: a member of a field is declared with the field, and nowhere else.
- `allInside_readPieces`: the pieces of a value stay in its buffer.
- `stores_inside_iff`: every store of a field stays in the member that it names, exactly if the
  operation of the field asks for no more than the member holds.
-/

import Detrix.Ebpf.Program

namespace Detrix.Ebpf

open Library List Nat

/-! ### Stores -/

/-- Some bytes of a member, from a place on. -/
structure Store where
  member : EventMember
  start : Nat
  count : Nat

def Place.store : Place → Nat → Store
  | .word member, n => ⟨member, 0, n⟩
  | .element index k, n => ⟨.varBlob index, k, n⟩

/-- The width of what is assigned to the place: a word, or an element of a buffer. -/
def Place.width : Place → Nat
  | .word _ => 8
  | .element _ _ => 1

/-- What a statement stores, if the words for the address and the length of a text are these. -/
def Statement.stores (ptr len : UInt64) : Statement → List Store
  | .assignRegister dest _ | .assignAddress dest _ _ | .assignZero dest | .assignConstant dest _ =>
    [dest.store dest.width]
  | .readInto dest size _ _ => [dest.store size]
  | .readBlob index size _ => [⟨.varBlob index, 0, size⟩]
  | .clear member size => [⟨member, 0, size⟩]
  | .copyText index limit =>
    -- The length is cut to its lowest byte before it is compared.
    let count := len.toNat % 2 ^ 32 % 256
    if ptr ≠ 0 ∧ count > 0 ∧ count ≤ limit then [⟨.varStr index, 0, count⟩] else []

/-- The bytes belong to the member as it is declared. -/
def Inside (declarations : List CDeclaration) (store : Store) : Prop :=
  ∃ d ∈ declarations, d.member = store.member ∧ store.start + store.count ≤ d.type.size

/-- Whatever the event has been filled with, the statements store inside the members they name. -/
def AllInside (declarations : List CDeclaration) (statements : List Statement) : Prop :=
  ∀ ptr len, ∀ statement ∈ statements, ∀ store ∈ statement.stores ptr len, Inside declarations store

variable {declarations : List CDeclaration} {size : Nat} {statements : List Statement}
  {d : CDeclaration}

theorem allInside_append {first second : List Statement} :
    AllInside declarations (first ++ second) ↔
      AllInside declarations first ∧ AllInside declarations second := by
  simp only [AllInside, forall_mem_append]
  exact ⟨fun all => ⟨fun ptr len => (all ptr len).1, fun ptr len => (all ptr len).2⟩,
    fun both ptr len => ⟨both.1 ptr len, both.2 ptr len⟩⟩

theorem allInside_cons {statement : Statement} {rest : List Statement} :
    AllInside declarations (statement :: rest) ↔
      AllInside declarations [statement] ∧ AllInside declarations rest :=
  @allInside_append declarations [statement] rest

theorem allInside_one {statement : Statement} {store : Store}
    (same : ∀ ptr len, statement.stores ptr len = [store]) :
    AllInside declarations [statement] ↔ Inside declarations store := by
  simp only [AllInside, mem_singleton, forall_eq, same]
  exact ⟨fun all => all 0 0, fun here _ _ => here⟩

/-! ### Nested reads -/

def ReadOp.readsRegister : ReadOp → Bool
  | .register _ _ => true
  | .indirect base _ => base.readsRegister
  | .map base => base.readsRegister
  | _ => false

theorem allInside_planMemoryRead {dest : Place} {base : Base} {offset : Int} :
    AllInside declarations (planMemoryRead dest base offset size) ↔
      Inside declarations (dest.store dest.width) ∧ Inside declarations (dest.store size) := by
  rw [planMemoryRead, allInside_cons, allInside_one fun _ _ => rfl, allInside_one fun _ _ => rfl]

/-- **The stores of a nested read**: a register is assigned, memory is read for the whole size. -/
theorem allInside_readInto_iff {op : ReadOp} {dest : Place}
    (read : generatePlanReadInto op dest size = .ok statements) :
    AllInside declarations statements ↔
      Inside declarations (dest.store dest.width) ∧
        (op.readsRegister = false → Inside declarations (dest.store size)) := by
  unfold generatePlanReadInto at read
  split at read
  · cases read
  induction op using ReadOp.readsRegister.induct with
  | case1 register semantics =>
    cases read
    rw [allInside_one fun _ _ => rfl]
    exact ⟨fun here => ⟨here, nofun⟩, And.left⟩
  | case2 base size ih | case3 base ih => exact ih read
  | case4 op notRegister notIndirect notMap =>
    cases op with
    | stack offset size semantics | frame register offset size semantics =>
      cases read
      rw [allInside_planMemoryRead]
      exact ⟨fun both => ⟨both.1, fun _ => both.2⟩, fun both => ⟨both.1, both.2 rfl⟩⟩
    | register register semantics => cases notRegister register semantics rfl
    | indirect base size => cases notIndirect base size rfl
    | map base => cases notMap base rfl
    | _ => cases read

theorem allInside_readWord_iff {op : ReadOp} {member : EventMember}
    (read : generatePlanReadInto op (.word member) 8 = .ok statements) :
    AllInside declarations statements ↔ Inside declarations ⟨member, 0, 8⟩ := by
  rw [allInside_readInto_iff read]
  exact ⟨And.left, fun here => ⟨here, fun _ => here⟩⟩

/-! ### The declarations of a field -/

def EventMember.field : EventMember → Option Nat
  | .var index | .varLen index | .varCap index | .varStr index | .varBlob index => some index
  | _ => none

variable {config : CaptureConfig} {index : Nat}

theorem field_of_mem_fieldDeclarations {field : CaptureField}
    (declared : d ∈ fieldDeclarations config index field) : d.member.field = some index := by
  have tail : ∀ d ∈ fieldTail config index field, d.member.field = some index := by
    unfold fieldTail
    split <;> try split
    all_goals simp [blobField, EventMember.field]
  rcases mem_cons.mp declared with rfl | later
  · rfl
  · exact tail d later

variable {fields : List CaptureField}

theorem mem_planFields_iff {k : Nat} : d ∈ planFields config k fields ↔
      ∃ i field, fields[i]? = some field ∧ d ∈ fieldDeclarations config (k + i) field := by
  induction fields generalizing k with
  | nil => simp [planFields]
  | cons field rest ih =>
    rw [planFields, mem_append, ih]
    constructor
    · rintro (here | ⟨i, other, found, later⟩)
      · exact ⟨0, field, rfl, here⟩
      · exact ⟨i + 1, other, found, by rwa [add_assoc, add_comm 1 i] at later⟩
    · rintro ⟨i, other, found, declared⟩
      cases i with
      | zero =>
        cases found
        exact .inl declared
      | succ i => exact .inr ⟨i, other, found, by rwa [add_assoc, add_comm 1 i]⟩

theorem inside_field_iff {goid : Bool}
    {envelope : Option RawEnvelopeSpec} {field : CaptureField}
    (found : fields[index]? = some field) (store : Store) (own : store.member.field = some index) :
    Inside (planEventFields fields goid config envelope) store ↔
      Inside (fieldDeclarations config index field) store := by
  have leading : ∀ d ∈ leadingFields goid envelope, d.member.field = none := by
    cases envelope <;> cases goid <;> simp [leadingFields, envelopeFields, EventMember.field]
  constructor <;> rintro ⟨d, declared, isMember, mem⟩
  · rcases mem_append.mp declared with before | among
    · have none := leading d before
      rw [isMember, own] at none
      cases none
    · obtain ⟨i, other, ne, here⟩ := mem_planFields_iff.mp among
      have same := field_of_mem_fieldDeclarations here
      rw [isMember, own, zero_add] at same
      cases same
      rw [zero_add] at here
      cases found.symm.trans ne
      exact ⟨d, here, isMember, mem⟩
  · refine ⟨d, mem_append_right _ (mem_planFields_iff.mpr ⟨index, field, found, ?_⟩), isMember, mem⟩
    rwa [zero_add]

/-! ### The stores of a field -/

/-- The operation of the field asks for no more than its members hold: the read of a small field is not
longer than a word, a header has a capacity exactly if it is not that of a text, and a piece ends
within what is captured of the field. -/
def AsksEnough (config : CaptureConfig) (field : CaptureField) : Prop :=
  match field.op with
  | .stack _ size _ | .frame _ _ size _ => field.size ≤ 8 → size ≤ 8
  | .headerExplicit _ _ cap _ kind => cap.isSome = !kind.isText
  | .piece offset size op =>
    offset + (if op.readsRegister then 1 else size) ≤ config.maxBlobCapture
  | _ => True

theorem allInside_readPieces {capture : Nat}
    (buffer : ∀ start count, start + count ≤ capture → Inside declarations ⟨.varBlob index, start, count⟩)
    {pieces : List CapturePiece} (read : readPieces index capture pieces = .ok statements) :
    AllInside declarations statements := by
  induction pieces generalizing statements with
  | nil =>
    cases read
    exact fun _ _ => nofun
  | cons piece rest ih =>
    rw [readPieces] at read
    split at read
    · exact ih read
    split at read
    · exact ih read
    obtain ⟨here, first, read⟩ := except_bind_eq_ok.mp read
    obtain ⟨others, later, back⟩ := except_bind_eq_ok.mp read
    cases back
    refine allInside_append.mpr ⟨(allInside_readInto_iff first).mpr ⟨?_, fun _ => ?_⟩, ih later⟩
    · exact buffer piece.offset 1 (by omega)
    · exact buffer piece.offset _ (by omega)

section Field

variable {config : CaptureConfig} {index : Nat} {field : CaptureField}

theorem not_var_of_mem_fieldTail (declared : d ∈ fieldTail config index field) :
    d.member ≠ .var index := by
  have all : ∀ d ∈ fieldTail config index field, d.member ≠ .var index := by
    unfold fieldTail
    split <;> try split
    all_goals simp [blobField]
  exact all d declared

/-- The bytes of a text are cut to the room that there is for them. -/
theorem allInside_textContent {isText : Prop} (room : ∀ count,
      Inside declarations ⟨.varStr index, 0, count⟩ ↔ isText ∧ count ≤ stringCapture config) :
    AllInside declarations (textContent config index) ↔ isText := by
  constructor
  · intro all
    have cleared := (allInside_cons.mp all).1
    exact ((room _).mp ((allInside_one fun _ _ => rfl).mp cleared)).1
  · intro text
    refine allInside_cons.mpr ⟨(allInside_one fun _ _ => rfl).mpr ((room _).mpr ⟨text, le_refl _⟩), ?_⟩
    intro ptr len statement among store stored
    rw [mem_singleton.mp among, Statement.stores] at stored
    split at stored
    · rename_i copied
      rw [mem_singleton.mp stored]
      exact (room _).mpr ⟨text, copied.2.2⟩
    · cases stored

section
-- the members of the field are declared with it
variable (declared : ∀ store : Store, store.member.field = some index →
  (Inside declarations store ↔ Inside (fieldDeclarations config index field) store))
include declared

theorem inside_var_iff {count : Nat} : Inside declarations ⟨.var index, 0, count⟩ ↔ count ≤ 8 := by
  rw [declared _ rfl]
  constructor
  · rintro ⟨d, declared, isMember, mem⟩
    rcases mem_cons.mp declared with rfl | tail
    · simpa [CType.size] using mem
    · exact absurd isMember (not_var_of_mem_fieldTail tail)
  · intro small
    exact ⟨_, (.head _), rfl, by simpa [CType.size] using small⟩

theorem inside_blob_iff {length start count : Nat}
    (tail : fieldTail config index field = [blobField index length]) :
    Inside declarations ⟨.varBlob index, start, count⟩ ↔
      start + count ≤ length := by
  rw [declared _ rfl, fieldDeclarations, tail]
  simp [Inside, blobField, CType.size]

/-- The members of a header: all have a length; a text has room for its bytes and a slice a capacity. -/
theorem inside_header_iff {kind : HeaderKind}
    (tail : fieldTail config index field = headerTail config index kind) :
    Inside declarations ⟨.varLen index, 0, 8⟩ ∧
      (Inside declarations ⟨.varCap index, 0, 8⟩ ↔
        kind.isText = false) ∧
      ∀ count, Inside declarations ⟨.varStr index, 0, count⟩ ↔
        kind.isText = true ∧ count ≤ stringCapture config := by
  rw [declared _ rfl, declared _ rfl, fieldDeclarations, tail, headerTail]
  refine ⟨?_, ?_, fun count => ?_⟩
  · cases kind.isText <;> simp [Inside, CType.size]
  · cases kind.isText <;> simp [Inside, CType.size]
  · rw [declared _ rfl, fieldDeclarations, tail, headerTail]
    cases kind.isText <;> simp [Inside, CType.size]

/-- **A header stays inside exactly if it has a capacity or is that of a text.** -/
theorem header_stores_iff {kind : HeaderKind}
    (tail : fieldTail config index field = headerTail config index kind) {ptr len : ReadOp}
    {cap : Option ReadOp} {own : Nat}
    (out : generatePlanReadExpr (.headerExplicit ptr len cap own kind) index size config =
      .ok statements) :
    AllInside declarations statements ↔
      cap.isSome = !kind.isText := by
  obtain ⟨first, isFirst, out⟩ := except_bind_eq_ok.mp out
  obtain ⟨second, isSecond, out⟩ := except_bind_eq_ok.mp out
  obtain ⟨lenInside, capInside, textInside⟩ := inside_header_iff declared tail
  have words : AllInside declarations (first ++ second) :=
    allInside_append.mpr ⟨(allInside_readWord_iff isFirst).mpr ((inside_var_iff declared).mpr (le_refl 8)),
      (allInside_readWord_iff isSecond).mpr lenInside⟩
  cases cap with
  | none =>
    cases out
    rw [allInside_append, and_iff_right words, allInside_textContent textInside]
    cases kind.isText <;> simp
  | some cap =>
    obtain ⟨third, isThird, back⟩ := except_bind_eq_ok.mp out
    cases back
    rw [allInside_append, and_iff_right words, allInside_readWord_iff isThird, capInside]
    cases kind.isText <;> simp

theorem readBlob_inside {length : Nat} {pointer : Pointer}
    (tail : fieldTail config index field = [blobField index length]) :
    AllInside declarations [.readBlob index length pointer] :=
  (allInside_one fun _ _ => rfl).mpr
    ((inside_blob_iff declared tail).mpr (le_of_eq (zero_add length)))

/-- A read of memory into the first word stays inside exactly if it is not longer than a word. -/
theorem readWord_stores_iff {base : Base} {offset : Int} :
    AllInside declarations
      (planMemoryRead (.word (.var index)) base offset size) ↔ size ≤ 8 := by
  rw [allInside_planMemoryRead]
  show Inside _ ⟨.var index, 0, 8⟩ ∧ Inside _ ⟨.var index, 0, size⟩ ↔ _
  rw [inside_var_iff declared, inside_var_iff declared]
  exact ⟨And.right, fun small => ⟨le_refl 8, small⟩⟩

/-- A field is read into its first word, or into its buffer if it is larger. -/
theorem slot_stores_iff
    (tail : fieldTail config index field =
      if size > 8 then [blobField index (blobCapture config size)] else [])
    {base : Base} {offset : Int} {own : Nat} {pointer : Pointer}
    (out : (if size > 8 then .ok [.readBlob index (blobCapture config size) pointer]
      else .ok (planMemoryRead (.word (.var index)) base offset own) : Except ProgramError (List Statement)) =
        .ok statements) :
    AllInside declarations statements ↔ (size ≤ 8 → own ≤ 8) := by
  by_cases large : size > 8
  · rw [if_pos large] at out tail
    cases out
    exact iff_of_true (readBlob_inside declared tail) fun small => absurd large (not_lt.mpr small)
  · rw [if_neg large] at out
    cases out
    rw [readWord_stores_iff declared]
    exact ⟨fun enough _ => enough, fun enough => enough (not_lt.mp large)⟩

end

end Field

theorem stores_inside_iff {plan : CapturePlan} (valid : plan.validate = .ok ()) {captureGoid : Bool}
    {config : CaptureConfig} {envelope : Option RawEnvelopeSpec} {index : Nat} {field : CaptureField}
    (found : plan.fields[index]? = some field) {statements : List Statement}
    (rendered : generatePlanReadExpr field.op index field.size config = .ok statements) :
    AllInside (planEventFields plan.fields captureGoid config envelope) statements ↔
      AsksEnough config field := by
  have ok := (CapturePlan.validateOp_of_validate valid (mem_of_getElem? found)).2
  have declared := @inside_field_iff config index _ captureGoid envelope _ found
  have word : Inside (planEventFields plan.fields captureGoid config envelope) ⟨.var index, 0, 8⟩ :=
    (inside_var_iff declared).mpr (le_refl 8)
  obtain ⟨name, offset, size, op⟩ := field
  cases op with
  | register r semantics =>
    refine iff_of_true ?_ trivial
    rw [generatePlanReadExpr] at rendered
    split at rendered
    · rename_i large
      cases rendered
      exact readBlob_inside declared (if_pos large)
    · cases rendered
      exact (allInside_one fun _ _ => rfl).mpr word
  | stack place own semantics | frame r place own semantics =>
    exact slot_stores_iff declared rfl rendered
  | blob place own semantics =>
    refine iff_of_true ?_ trivial
    cases rendered
    exact allInside_cons.mpr ⟨(allInside_one fun _ _ => rfl).mpr word, readBlob_inside declared rfl⟩
  | indirect base own | map base => exact iff_of_true ((allInside_readWord_iff rendered).mpr word) trivial
  | header base own kind =>
    -- The kinds without a word for the capacity are those of texts.
    have capOrText : kind.deltas.2.2.isSome = !kind.isText := by cases kind <;> rfl
    rw [generatePlanReadExpr_header] at rendered
    refine iff_of_true ((header_stores_iff declared (by cases kind <;> rfl) rendered).mpr ?_) trivial
    rw [Option.isSome_map, capOrText]
  | headerExplicit ptr len cap own kind => exact header_stores_iff declared (by cases kind <;> rfl) rendered
  | piecewise pieces =>
    refine iff_of_true ?_ trivial
    obtain ⟨rest, read, back⟩ := except_bind_eq_ok.mp rendered
    cases back
    have room (start count : Nat) (small : start + count ≤ blobCapture config size) :
        Inside (planEventFields plan.fields captureGoid config envelope)
          ⟨.varBlob index, start, count⟩ := (inside_blob_iff declared rfl).mpr small
    exact allInside_cons.mpr ⟨(allInside_one fun _ _ => rfl).mpr (room 0 _ (zero_add _).le),
      allInside_readPieces room read⟩
  | piece place own op =>
    show _ ↔ place + (if op.readsRegister then 1 else own) ≤ config.maxBlobCapture
    obtain ⟨nonzero, within⟩ := piece_inside ok
    dsimp only at within
    have whole : min own (size - place) = own := by omega
    rw [generatePlanReadExpr] at rendered
    rw [whole] at rendered
    rw [allInside_readInto_iff rendered]
    show Inside _ ⟨.varBlob index, place, 1⟩ ∧ (_ → Inside _ ⟨.varBlob index, place, own⟩) ↔ _
    rw [inside_blob_iff declared rfl, inside_blob_iff declared rfl]
    unfold blobCapture
    cases op.readsRegister <;> simp <;> omega
  | unavailable reason | constant bytes =>
    cases rendered
    exact iff_of_true ((allInside_one fun _ _ => rfl).mpr word) trivial
  | cfa place own semantics | userBytes address own => cases rendered

section Samples

/-- A plan with only this field is accepted and the field is rendered, with the standard limits, and one
of the statements stores outside the member that it names. -/
def Escapes (field : CaptureField) : Prop :=
  (samplePlan [field] field.size).validate = .ok () ∧
    ∃ statements, generatePlanReadExpr field.op 0 field.size {} = .ok statements ∧
      ¬ AllInside (planEventFields [field] false {} none) statements

/-- The slot that a field of eight bytes is read from may be declared longer; a text may be given a
capacity and a slice none; a piece may lie behind what is captured of its field. -/
theorem accepted_reads_that_escape :
    Escapes ⟨"x", 0, 8, .stack 0 100 .value⟩ ∧
      Escapes ⟨"s", 0, 16, .headerExplicit (.stack 0 8 .value) (.stack 8 8 .value)
        (some (.stack 16 8 .value)) 16 .string⟩ ∧
      Escapes ⟨"v", 0, 24, .headerExplicit (.stack 0 8 .value) (.stack 8 8 .value) none 24 .slice⟩ ∧
      Escapes ⟨"p", 0, 128, .piece 100 8 (.stack 0 8 .value)⟩ := by
  have out {declarations : List CDeclaration} {statements : List Statement}
      (escaped : ∃ statement ∈ statements, ∃ store ∈ statement.stores 1 1,
        ¬ Inside declarations store) : ¬ AllInside declarations statements := by
    intro all
    obtain ⟨statement, listed, store, stored, here⟩ := escaped
    exact here (all 1 1 statement listed store stored)
  unfold Inside at out
  refine ⟨⟨by decide, _, rfl, out (by decide)⟩, ⟨by decide, _, rfl, out (by decide)⟩,
    ⟨by decide, _, rfl, out (by decide)⟩, ⟨by decide, _, rfl, out (by decide)⟩⟩

theorem last_piece_stays_inside :
    ∃ statements,
      generatePlanReadExpr (.piece 56 8 (.stack 0 8 .value)) 0 128 {} = .ok statements ∧
        AllInside (planEventFields [⟨"p", 0, 128, .piece 56 8 (.stack 0 8 .value)⟩] false {} none)
          statements := by
  have valid : (samplePlan [⟨"p", 0, 128, .piece 56 8 (.stack 0 8 .value)⟩] 128).validate = .ok () := by
    decide
  obtain ⟨statements, out⟩ :
      ∃ statements, generatePlanReadExpr (.piece 56 8 (.stack 0 8 .value)) 0 128 {} = .ok statements :=
    ⟨_, rfl⟩
  have enough : AsksEnough {} ⟨"p", 0, 128, .piece 56 8 (.stack 0 8 .value)⟩ := by
    show 56 + 8 ≤ 64
    decide
  exact ⟨statements, out, (@stores_inside_iff _ valid false {} none 0 _ rfl _ out).mpr enough⟩

end Samples

end Detrix.Ebpf
