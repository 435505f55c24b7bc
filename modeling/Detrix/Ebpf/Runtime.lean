/-
**The capture runtime.**

A runtime is made for a profile, a plan and a list of scalar fields. It goes through its states in one
direction, and while it is active it decodes the records it is given and counts them.

- `new_eq_ok`: what a runtime that was made satisfies.
- `rank_le_step`, `Counted.step`: one call, for the states and for the counters.
- `runtime_accounting`: every sequence of calls.
- `encoded_is_ingested`: a payload that is encoded is ingested, and gives one value for each field.
-/

import Detrix.Ebpf.Values
import Detrix.Ebpf.Wire
import Detrix.Library.Run

namespace Detrix.Ebpf

open Library Bytes List Run Nat

/-! ### Scalars -/

inductive ScalarKind where
  | unsigned
  | signed
  | bool
  | float32
  | float64
  | address
  deriving DecidableEq

structure ScalarFieldSpec where
  name : String
  offset : Nat
  size : Nat
  kind : ScalarKind
  deriving DecidableEq

structure DecodedScalar where
  name : String
  value : CapturedValue

inductive ScalarDecodeError where
  | envelope (error : EnvelopeError)
  | fieldCount (declared actual : Nat)
  | length (declared actual : Nat)
  | invalidField (name : String)
  | truncated (field : String) (stop payloadLen : Nat)
  | unsupportedWidth (field : String) (size : Nat)
  deriving DecidableEq

def decodeScalar (kind : ScalarKind) (bytes : List UInt8) : Option CapturedValue :=
  match kind, bytes.length with
  | .unsigned, 1 | .unsigned, 2 | .unsigned, 4 | .unsigned, 8
  | .address, 1 | .address, 2 | .address, 4 | .address, 8 => some (.scalar (u64Of bytes))
  | .signed, 1 => some (.scalar (UInt8.ofNat (leValue bytes)).toInt8.toInt64.toUInt64)
  | .signed, 2 => some (.scalar (u16Of bytes).toInt16.toInt64.toUInt64)
  | .signed, 4 => some (.scalar (u32Of bytes).toInt32.toInt64.toUInt64)
  | .signed, 8 => some (.scalar (u64Of bytes))
  | .bool, 1 => some (.scalar (if leValue bytes ≠ 0 then 1 else 0))
  | .float32, 4 => some (.float (widenFloat (u32Of bytes)))
  | .float64, 8 => some (.float (u64Of bytes))
  | _, _ => none

/-- The widths that a kind of scalar can have. -/
def ScalarKind.widths : ScalarKind → List Nat
  | .unsigned | .address | .signed => [1, 2, 4, 8]
  | .bool => [1]
  | .float32 => [4]
  | .float64 => [8]

/-- Whether a scalar is decoded depends on its kind and width only. -/
theorem decodeScalar_isSome_iff (kind : ScalarKind) (bytes : List UInt8) :
    (decodeScalar kind bytes).isSome = true ↔ bytes.length ∈ kind.widths := by
  unfold decodeScalar
  cases kind <;> simp only [ScalarKind.widths, mem_cons, not_mem_nil, or_false]
  all_goals
    split <;> simp_all

def decodeField (payload : List UInt8) (field : ScalarFieldSpec) : Except ScalarDecodeError DecodedScalar :=
  if (Text.trim field.name).isEmpty ∨ field.size = 0 then .error (.invalidField field.name)
  else
    match checkedAdd field.offset field.size with
    | none => .error (.invalidField field.name)
    | some stop =>
      if stop > payload.length then .error (.truncated field.name stop payload.length)
      else
        match decodeScalar field.kind ((payload.drop field.offset).take (stop - field.offset)) with
        | none => .error (.unsupportedWidth field.name field.size)
        | some value => .ok ⟨field.name, value⟩

def decodeScalarRecord (envelope : EventEnvelope) (payload : List UInt8) (fields : List ScalarFieldSpec)
    (maxPayload : Nat) : Except ScalarDecodeError (List DecodedScalar) :=
  match envelope.validate maxPayload with
  | .error error => .error (.envelope error)
  | .ok () =>
    if envelope.fieldCount.toNat ≠ fields.length then
      .error (.fieldCount envelope.fieldCount.toNat fields.length)
    else if envelope.payloadLen.toNat ≠ payload.length then
      .error (.length envelope.payloadLen.toNat payload.length)
    else fields.mapM (decodeField payload)

/-! ### The runtime -/

inductive RuntimeState where
  | created
  | prepared
  | attached
  | active
  | draining
  | detached
  | failed
  deriving DecidableEq

/-- The order in which a runtime goes through its states. -/
def RuntimeState.rank : RuntimeState → Nat
  | .created => 0
  | .prepared => 1
  | .attached => 2
  | .active => 3
  | .draining => 4
  | .detached => 5
  | .failed => 6

structure RuntimeCounters where
  recordsSeen : Nat := 0
  recordsDecoded : Nat := 0
  decodeDrops : Nat := 0
  unavailableFields : Nat := 0
  kernelDrops : Nat := 0
  transportDrops : Nat := 0
  deriving DecidableEq

inductive RuntimeError where
  | missingIdentity
  | emptyPlan
  | invalidPlan (message : String)
  | invalidPayload (actual required limit : Nat)
  | invalidTransition (source target : RuntimeState)
  | notActive (state : RuntimeState)
  | stalePlan (expectedProfile actualProfile expectedPlan actualPlan : String)
  | envelope (error : EnvelopeError)
  | decode (error : ScalarDecodeError)
  | counterInvariant (decoded dropped : Nat)
  deriving DecidableEq

/-- A counter that goes up by one (`+= 1` on a `u64`). -/
def increment (a : Nat) : Nat := (a + 1) % 2 ^ 64

def RuntimeCounters.validate (counters : RuntimeCounters) : Except RuntimeError Unit :=
  if counters.recordsSeen ≠ saturatingAdd counters.recordsDecoded counters.decodeDrops then
    .error (.counterInvariant counters.recordsDecoded counters.decodeDrops)
  else .ok ()

def RuntimeCounters.decoded (counters : RuntimeCounters) (isPartial : Bool) : RuntimeCounters :=
  { counters with
    recordsSeen := saturatingAdd counters.recordsSeen 1
    recordsDecoded := increment counters.recordsDecoded
    unavailableFields :=
      if isPartial then increment counters.unavailableFields else counters.unavailableFields }

def RuntimeCounters.dropped (counters : RuntimeCounters) : RuntimeCounters :=
  { counters with
    recordsSeen := saturatingAdd counters.recordsSeen 1
    decodeDrops := increment counters.decodeDrops }

structure ProfiledCaptureRuntime where
  profileId : String
  planHash : String
  fields : List ScalarFieldSpec
  maxPayload : Nat
  state : RuntimeState
  counters : RuntimeCounters
  deriving DecidableEq

namespace ProfiledCaptureRuntime

/-- The loop over the fields in `new`, with the ranges of those before. -/
def checkFields (maxPayload : Nat) :
    List ScalarFieldSpec → List (Nat × Nat) → Except RuntimeError Unit
  | [], _ => .ok ()
  | field :: rest, ranges =>
    if (Text.trim field.name).isEmpty ∨ field.size = 0 then
      .error (.invalidPlan ("invalid scalar field '" ++ field.name ++ "': empty name or size"))
    else
      match checkedAdd field.offset field.size with
      | none => .error (.invalidPlan "field offset overflow")
      | some stop =>
        if stop > maxPayload then
          .error (.invalidPlan ("field '" ++ field.name ++ "' exceeds payload limit"))
        else if (decodeScalar field.kind (replicate field.size 0)).isNone then
          .error (.invalidPlan ("field '" ++ field.name ++ "' has unsupported scalar width " ++
            toString field.size))
        else if overlaps ranges field.offset stop then
          .error (.invalidPlan ("field '" ++ field.name ++ "' overlaps another field"))
        else checkFields maxPayload rest (ranges ++ [(field.offset, stop)])

def new (profileId planHash : String) (fields : List ScalarFieldSpec) (maxPayload : Nat) :
    Except RuntimeError ProfiledCaptureRuntime :=
  if (Text.trim profileId).isEmpty ∨ (Text.trim planHash).isEmpty then .error .missingIdentity
  else if fields.isEmpty then .error .emptyPlan
  else if fields.length > maxCaptureFields ∨ maxPayload = 0 ∨ maxPayload > maxCapturePayloadBytes then
    .error (.invalidPlan "capture bounds exceed the negotiated limit")
  else
    match checkFields maxPayload fields [] with
    | .error error => .error error
    | .ok () => .ok ⟨profileId, planHash, fields, maxPayload, .created, {}⟩

section
variable (r : ProfiledCaptureRuntime)

def validateCounters : Except RuntimeError Unit := r.counters.validate

def requiredLen : Nat :=
  ((r.fields.map fun field => saturatingAdd field.offset field.size).max?).getD 0

def encodePayload (payload : List UInt8) (isPartial : Bool) :
    Except RuntimeError (List UInt8) :=
  if payload.length < r.requiredLen ∨ payload.length > r.maxPayload then
    .error (.invalidPayload payload.length r.requiredLen r.maxPayload)
  else
    let envelope := { EventEnvelope.new r.profileId r.planHash (UInt16.ofNat r.fields.length)
      payload.length with isPartial := isPartial }
    match envelope.encodeRecord payload r.maxPayload with
    | .error error => .error (.envelope error)
    | .ok record => .ok record

/-- `transition`: nothing happens in another state than the one it starts from. -/
def transition (source target : RuntimeState) :
    Except RuntimeError Unit × ProfiledCaptureRuntime :=
  if r.state ≠ source then (.error (.invalidTransition r.state target), r)
  else (.ok (), { r with state := target })

def prepare := r.transition .created .prepared
def attach := r.transition .prepared .attached
def activate := r.transition .attached .active
def drain := r.transition .active .draining

def detach : Except RuntimeError Unit × ProfiledCaptureRuntime :=
  match r.state with
  | .attached | .active | .draining => (.ok (), { r with state := .detached })
  | .detached => (.ok (), r)
  | state => (.error (.invalidTransition state .detached), r)

def fail : ProfiledCaptureRuntime := { r with state := .failed }

def recordKernelDrops (count : Nat) : ProfiledCaptureRuntime :=
  { r with counters.kernelDrops := saturatingAdd r.counters.kernelDrops count }

def recordTransportDrops (count : Nat) : ProfiledCaptureRuntime :=
  { r with counters.transportDrops := saturatingAdd r.counters.transportDrops count }

def decodeRecord (record : List UInt8) :
    Except RuntimeError (List DecodedScalar) :=
  match EventEnvelope.decodeRecord record r.maxPayload with
  | .error error => .error (.envelope error)
  | .ok (envelope, payload) =>
    if envelope.profileId ≠ r.profileId ∨ envelope.planHash ≠ r.planHash then
      .error (.stalePlan r.profileId envelope.profileId r.planHash envelope.planHash)
    else
      match decodeScalarRecord envelope payload r.fields r.maxPayload with
      | .error error => .error (.decode error)
      | .ok values => .ok values

/-- `current_partial(record).unwrap_or(false)`. -/
def currentPartial (record : List UInt8) : Bool :=
  match EventEnvelope.decodeRecord record r.maxPayload with
  | .error _ => false
  | .ok (envelope, _) => envelope.isPartial

def ingest (record : List UInt8) :
    Except RuntimeError (List DecodedScalar) × ProfiledCaptureRuntime :=
  if r.state ≠ .active then (.error (.notActive r.state), r)
  else
    match r.decodeRecord record with
    | .ok values =>
      (.ok values, { r with counters := r.counters.decoded (r.currentPartial record) })
    | .error error => (.error error, { r with counters := r.counters.dropped })

end

/-! ### What a runtime was made with -/

/-- A field that `new` accepts. -/
structure Accepts (maxPayload : Nat) (field : ScalarFieldSpec) : Prop where
  named : (Text.trim field.name).isEmpty = false
  nonempty : field.size ≠ 0
  inside : field.offset + field.size ≤ maxPayload
  supported : field.size ∈ field.kind.widths

variable {r : ProfiledCaptureRuntime} {payload : List UInt8} {maxPayload n : Nat}
  {fields : List ScalarFieldSpec}

theorem accepts_of_checkFields {ranges : List (Nat × Nat)}
    (checked : checkFields maxPayload fields ranges = .ok ()) :
    ∀ field ∈ fields, Accepts maxPayload field := by
  induction fields generalizing ranges with
  | nil => nofun
  | cons field rest ih =>
    obtain ⟨named, checked⟩ := ite_error_eq_ok.mp checked
    split at checked
    · cases checked
    rename_i stop ends
    simp only [ite_error_eq_ok] at checked
    obtain ⟨mem, supported, -, checked⟩ := checked
    obtain ⟨-, rfl⟩ := checkedAdd_eq_some_iff.mp ends
    obtain ⟨named, some⟩ := not_or.mp named
    intro other among
    rcases mem_cons.mp among with rfl | later
    · refine ⟨Bool.eq_false_iff.mpr named, some, not_lt.mp mem, ?_⟩
      have width := (decodeScalar_isSome_iff other.kind (replicate other.size 0)).mp
        (by simpa [Option.isSome_iff_ne_none] using supported)
      rwa [length_replicate] at width
    · exact ih checked other later

/-- What the identities, the fields and the limit of a runtime satisfy. -/
structure Made (r : ProfiledCaptureRuntime) : Prop where
  planNonempty : r.planHash ≠ ""
  hasFields : r.fields ≠ []
  fewFields : r.fields.length ≤ maxCaptureFields
  ceiling : r.maxPayload ≤ maxCapturePayloadBytes
  fields : ∀ field ∈ r.fields, Accepts r.maxPayload field

/-- **What `new` returns.** -/
theorem new_eq_ok {profileId planHash : String}
    (made : new profileId planHash fields maxPayload = .ok r) :
    r = ⟨profileId, planHash, fields, maxPayload, .created, {}⟩ ∧ r.Made := by
  simp only [new, ite_error_eq_ok] at made
  obtain ⟨identities, hasFields, bounds, made⟩ := made
  split at made
  · cases made
  rename_i checked
  cases made
  obtain ⟨few, -, ceiling⟩ : fields.length ≤ maxCaptureFields ∧ maxPayload ≠ 0 ∧
      maxPayload ≤ maxCapturePayloadBytes := by omega
  refine ⟨rfl, ?_, ?_, few, ceiling, accepts_of_checkFields checked⟩
  · rintro rfl
    exact identities (.inr rfl)
  · rintro rfl
    exact hasFields rfl

/-! ### Calls -/

/-- The calls whose effects are accounted for. -/
inductive Call where
  | prepare
  | attach
  | activate
  | drain
  | detach
  | fail
  | ingest (record : List UInt8)
  | recordKernelDrops (count : Nat)
  | recordTransportDrops (count : Nat)

def step (r : ProfiledCaptureRuntime) : Call → ProfiledCaptureRuntime
  | .prepare => r.prepare.2
  | .attach => r.attach.2
  | .activate => r.activate.2
  | .drain => r.drain.2
  | .detach => r.detach.2
  | .fail => r.fail
  | .ingest record => (r.ingest record).2
  | .recordKernelDrops n => r.recordKernelDrops n
  | .recordTransportDrops n => r.recordTransportDrops n

def ingests (r : ProfiledCaptureRuntime) : Call → Bool
  | .ingest _ => r.state = .active
  | _ => false

def activeIngests : ProfiledCaptureRuntime → List Call → Nat
  | _, [] => 0
  | r, call :: calls => (r.ingests call).toNat + activeIngests (r.step call) calls

theorem activeIngests_le_length (r : ProfiledCaptureRuntime) (calls : List Call) :
    activeIngests r calls ≤ calls.length := by
  induction calls generalizing r with
  | nil => exact le_refl 0
  | cons call calls ih =>
    have rest := ih (r.step call)
    have atMost : (r.ingests call).toNat ≤ 1 := Bool.toNat_le _
    rw [activeIngests, length_cons]
    omega

/-! ### States -/

/-- What a call can do: it goes on to a state, notes drops, or counts a record. -/
inductive Stepped (r : ProfiledCaptureRuntime) : Bool → ProfiledCaptureRuntime → Prop
  | moved (state : RuntimeState) (ahead : r.state.rank ≤ state.rank) : Stepped r false { r with state }
  | noted (kernelDrops transportDrops : Nat) :
    Stepped r false { r with counters := { r.counters with kernelDrops, transportDrops } }
  | decoded (isPartial : Bool) : Stepped r true { r with counters := r.counters.decoded isPartial }
  | dropped : Stepped r true { r with counters := r.counters.dropped }

theorem stepped (r : ProfiledCaptureRuntime) (call : Call) : Stepped r (r.ingests call) (r.step call) := by
  have transition {source target : RuntimeState} (ahead : source.rank ≤ target.rank) :
      Stepped r false (r.transition source target).2 := by
    unfold transition
    split
    · exact .moved _ (le_refl _)
    next here =>
      rw [← not_not.mp here] at ahead
      exact .moved target ahead
  cases call with
  | prepare | attach | activate | drain => exact transition (by decide)
  | detach =>
    show Stepped r false r.detach.2
    unfold detach
    cases here : r.state <;> exact .moved _ (by rw [here] <;> decide)
  | fail => exact .moved .failed (by cases r.state <;> decide)
  | ingest record =>
    show Stepped r (decide (r.state = .active)) (r.ingest record).2
    unfold ingest
    split
    next inactive =>
      rw [decide_eq_false inactive]
      exact .moved _ (le_refl _)
    next active =>
      rw [decide_eq_true (not_not.mp active)]
      split
      · exact .decoded _
      · exact .dropped
  | recordKernelDrops count | recordTransportDrops count => exact .noted _ _

/-- **One call never goes back.** -/
theorem rank_le_step (r : ProfiledCaptureRuntime) (call : Call) :
    r.state.rank ≤ (r.step call).state.rank := by
  have does := stepped r call
  generalize r.ingests call = counts, r.step call = next at does ⊢
  cases does with
  | moved state ahead => exact ahead
  | _ => rfl

theorem rank_le_after (r : ProfiledCaptureRuntime) (calls : List Call) :
    r.state.rank ≤ (after step r calls).state.rank :=
  @invariant_always _ _ step (fun now => r.state.rank ≤ now.state.rank)
    (fun now call held => held.trans (rank_le_step now call)) calls r (le_refl _)

theorem rank_active_iff {state : RuntimeState} : state.rank = 3 ↔ state = .active := by
  cases state <;> decide

theorem not_active_again {between later : List Call} (active : r.state = .active)
    (left : (after step r between).state ≠ .active) :
    (Run.after step r (between ++ later)).state ≠ .active := by
  have first := rank_le_after r between
  rw [active] at first
  have away : (after step r between).state.rank ≠ 3 := fun is => left (rank_active_iff.mp is)
  have second := rank_le_after (after step r between) later
  intro again
  rw [Run.after, foldl_append] at again
  have is := rank_active_iff.mpr again
  have three : RuntimeState.active.rank = 3 := rfl
  unfold Run.after at second away first
  omega

/-! ### Counters -/

/-- `n` records were seen, and each was decoded or dropped. -/
structure Counted (n : Nat) (r : ProfiledCaptureRuntime) : Prop where
  seen : r.counters.recordsSeen = n
  accounted : r.counters.recordsDecoded + r.counters.decodeDrops = n

/-- **One call counts one record if it hands one to an active runtime.** -/
theorem Counted.step (counted : Counted n r) (room : n + 1 < 2 ^ 64) (call : Call) :
    Counted (n + (r.ingests call).toNat) (r.step call) := by
  obtain ⟨seen, inv⟩ := counted
  have one : saturatingAdd r.counters.recordsSeen 1 = n + 1 := by
    rw [seen, saturatingAdd]
    omega
  have does := stepped r call
  generalize r.ingests call = counts, r.step call = next at does ⊢
  cases does with
  | moved | noted => exact ⟨seen, inv⟩
  | decoded =>
    refine ⟨one, ?_⟩
    show increment r.counters.recordsDecoded + r.counters.decodeDrops = n + 1
    unfold increment
    omega
  | dropped =>
    refine ⟨one, ?_⟩
    show r.counters.recordsDecoded + increment r.counters.decodeDrops = n + 1
    unfold increment
    omega

/-- **Every run counts the records that were handed to the active runtime.** -/
theorem Counted.after {calls : List Call} (counted : Counted n r)
    (room : n + calls.length < 2 ^ 64) :
    Counted (n + activeIngests r calls) (after ProfiledCaptureRuntime.step r calls) := by
  induction calls generalizing n r with
  | nil => exact counted
  | cons call calls ih =>
    rw [length_cons] at room
    have atMost : (r.ingests call).toNat ≤ 1 := Bool.toNat_le _
    have later := ih (counted.step (by omega) call) (by omega)
    rwa [add_assoc] at later

/-- **The account of a whole run**: the records seen are those that were handed to the active runtime,
each was decoded or dropped, another state takes no record, and a runtime that has left the active
state does not come back to it. -/
theorem runtime_accounting {profileId planHash : String} {fields : List ScalarFieldSpec}
    {maxPayload : Nat} {r : ProfiledCaptureRuntime}
    (created : new profileId planHash fields maxPayload = .ok r) (calls : List Call)
    (short : calls.length < 2 ^ 64) :
    let last := after step r calls
    last.counters.recordsSeen = activeIngests r calls ∧
      last.counters.recordsSeen = last.counters.recordsDecoded + last.counters.decodeDrops ∧
      last.validateCounters = .ok () ∧
      (∀ record, last.state ≠ .active → (last.ingest record).2 = last) ∧
      ∀ earlier between later, calls = earlier ++ between ++ later →
        (after step r earlier).state = .active →
        (after step r (earlier ++ between)).state ≠ .active → last.state ≠ .active := by
  intro last
  obtain ⟨made, -⟩ := new_eq_ok created
  have start : Counted 0 r := by rw [made]; exact ⟨rfl, rfl⟩
  have counted : Counted (0 + activeIngests r calls) last := start.after (by omega)
  rw [zero_add] at counted
  obtain ⟨seen, inv⟩ := counted
  have few := activeIngests_le_length r calls
  refine ⟨seen, seen.trans inv.symm, ?_, ?_, ?_⟩
  · have agrees : last.counters.recordsSeen =
        saturatingAdd last.counters.recordsDecoded last.counters.decodeDrops := by
      unfold saturatingAdd
      omega
    exact if_neg (not_not.mpr agrees)
  · intro record inactive
    rw [ingest, if_pos inactive]
  · rintro earlier between later rfl active left
    show (after step r (earlier ++ between ++ later)).state ≠ .active
    rw [append_assoc]
    rw [Run.after, foldl_append] at left ⊢
    exact not_active_again active left

def sampleFields : List ScalarFieldSpec := [⟨"value", 0, 8, .unsigned⟩]

def sampleRecord : List UInt8 :=
  (EventEnvelope.new "rust" "sha256:plan" 1 8).frame [42, 0, 0, 0, 0, 0, 0, 0]

/-- Two of three records come while the runtime is active, and one of these is not a record at all. -/
theorem two_of_three_records_counted :
    let r : ProfiledCaptureRuntime := ⟨"rust", "sha256:plan", sampleFields, 8, .created, {}⟩
    let calls : List Call := [.ingest sampleRecord, .prepare, .attach, .activate, .ingest sampleRecord,
      .recordKernelDrops 3, .ingest [], .drain, .detach]
    (after step r calls).counters = ⟨2, 1, 1, 0, 3, 0⟩ ∧ (after step r calls).state = .detached ∧
      (after step r calls).counters.recordsSeen = activeIngests r calls := by
  refine ⟨by decide, by decide, ?_⟩
  have made : new "rust" "sha256:plan" sampleFields 8 = .ok ⟨"rust", "sha256:plan", sampleFields, 8,
    .created, {}⟩ := by decide
  exact (runtime_accounting made [.ingest sampleRecord, .prepare, .attach, .activate,
    .ingest sampleRecord, .recordKernelDrops 3, .ingest [], .drain, .detach] (by decide)).1

/-! ### Encoding and ingesting -/

theorem after_frame (r : ProfiledCaptureRuntime) (calls : List Call) :
    Run.after step r calls = { r with state := (Run.after step r calls).state
                                      counters := (Run.after step r calls).counters } := by
  refine @Run.invariant_always _ _ step
    (fun now => now = { r with state := now.state, counters := now.counters }) ?_ calls r rfl
  intro now call held
  have does := stepped now call
  generalize now.ingests call = counts, now.step call = next at does ⊢
  cases does <;> rw [held]

def Decodes (payload : List UInt8) (field : ScalarFieldSpec) (decoded : DecodedScalar) : Prop :=
  decoded.name = field.name ∧
    decodeScalar field.kind ((payload.drop field.offset).take field.size) = some decoded.value

variable {field : ScalarFieldSpec}

theorem decodeField_of_accepts (ok : Accepts maxPayload field)
    (small : field.offset + field.size < 2 ^ 64)
    (mem : field.offset + field.size ≤ payload.length) :
    ∃ decoded, decodeField payload field = .ok decoded ∧ Decodes payload field decoded := by
  have width : ((payload.drop field.offset).take field.size).length ∈ field.kind.widths := by
    rw [length_take, length_drop, min_eq_left (by omega)]
    exact ok.supported
  obtain ⟨value, isValue⟩ := Option.isSome_iff_exists.mp ((decodeScalar_isSome_iff _ _).mpr width)
  refine ⟨⟨field.name, value⟩, ?_, rfl, isValue⟩
  rw [decodeField, if_neg (by simp [ok.named, ok.nonempty]), checkedAdd_of_lt small]
  simp only []
  rw [if_neg (not_lt.mpr mem), Nat.add_sub_cancel_left, isValue]

theorem le_requiredLen (made : r.Made) (among : field ∈ r.fields) :
    field.offset + field.size ≤ r.requiredLen := by
  have ceiling := made.ceiling
  have mem := (made.fields field among).inside
  unfold maxCapturePayloadBytes at ceiling
  have exactly : saturatingAdd field.offset field.size = field.offset + field.size := by
    unfold saturatingAdd
    omega
  rw [← exactly]
  exact le_max?_getD_of_mem (mem_map_of_mem among)

/-- The envelope that is encoded with a payload. -/
def envelopeFor (r : ProfiledCaptureRuntime) (payload : List UInt8) (isPartial : Bool) : EventEnvelope :=
  { EventEnvelope.new r.profileId r.planHash (UInt16.ofNat r.fields.length) payload.length with
    isPartial := isPartial }

theorem encodePayload_eq (r : ProfiledCaptureRuntime) {isPartial : Bool}
    (enough : r.requiredLen ≤ payload.length) (notMore : payload.length ≤ r.maxPayload) :
    r.encodePayload payload isPartial =
      match (r.envelopeFor payload isPartial).encodeRecord payload r.maxPayload with
      | .error error => .error (.envelope error)
      | .ok record => .ok record := by
  rw [encodePayload, if_neg (by omega)]
  rfl

theorem length_envelopeFor (made : r.Made) (isPartial : Bool)
    (notMore : payload.length ≤ r.maxPayload) :
    (r.envelopeFor payload isPartial).payloadLen.toNat = payload.length ∧
      (r.envelopeFor payload isPartial).fieldCount.toNat = r.fields.length := by
  have ceiling := made.ceiling
  have few := made.fewFields
  unfold maxCapturePayloadBytes at ceiling
  unfold maxCaptureFields at few
  exact ⟨UInt32.toNat_ofNat_of_lt' (by show _ < 4294967296; omega),
    UInt16.toNat_ofNat_of_lt' (by show _ < 65536; omega)⟩

theorem decodeScalarRecord_of_made (made : r.Made) {isPartial : Bool}
    (enough : r.requiredLen ≤ payload.length)
    (fits : (r.envelopeFor payload isPartial).Fits payload r.maxPayload)
    (counted : (r.envelopeFor payload isPartial).fieldCount.toNat = r.fields.length) :
    ∃ values, decodeScalarRecord (r.envelopeFor payload isPartial) payload r.fields r.maxPayload =
        .ok values ∧ List.Forall₂ (Decodes payload) r.fields values := by
  have ceiling := made.ceiling
  unfold maxCapturePayloadBytes at ceiling
  obtain ⟨values, decoded, related⟩ :=
    mapM_ok_of_forall (f := decodeField payload) (R := Decodes payload) fun field among => by
      have mem := le_requiredLen made among
      have small := (made.fields field among).inside
      exact decodeField_of_accepts (made.fields field among) (by omega) (by omega)
  refine ⟨values, ?_, related⟩
  rw [decodeScalarRecord, EventEnvelope.validate_eq_ok_iff.mpr fits.valid]
  rw [if_neg (not_not.mpr counted), if_neg (not_not.mpr fits.length), decoded]

/-- **What a runtime encodes it can ingest**, and it encodes every payload that holds the fields. -/
theorem encoded_is_ingested {profileId planHash : String} {fields : List ScalarFieldSpec}
    {maxPayload : Nat} {r : ProfiledCaptureRuntime}
    (created : new profileId planHash fields maxPayload = .ok r) (payload : List UInt8)
    (isPartial : Bool) :
    (∀ record, r.encodePayload payload isPartial = .ok record →
      ∀ calls, (after step r calls).state = .active →
        ∃ values, ((after step r calls).ingest record).1 = .ok values ∧
          List.Forall₂ (Decodes payload) fields values) ∧
    (profileId = "go" ∨ profileId = "rust" → (utf8 planHash).length ≤ 1024 →
      r.requiredLen ≤ payload.length → payload.length ≤ maxPayload →
        ∃ record, r.encodePayload payload isPartial = .ok record) := by
  obtain ⟨isRuntime, made⟩ := new_eq_ok created
  have isFields : r.fields = fields := by rw [isRuntime]
  have isMax : r.maxPayload = maxPayload := by rw [isRuntime]
  constructor
  · intro record encoded calls active
    by_cases bounds : payload.length < r.requiredLen ∨ payload.length > r.maxPayload
    · rw [encodePayload, if_pos bounds] at encoded
      cases encoded
    have enough : r.requiredLen ≤ payload.length := by omega
    have notMore : payload.length ≤ r.maxPayload := by omega
    rw [encodePayload_eq r enough notMore] at encoded
    split at encoded
    · cases encoded
    rename_i put
    cases encoded
    obtain ⟨fits, rfl⟩ := EventEnvelope.encodeRecord_eq_ok_iff.mp put
    obtain ⟨values, decoded, related⟩ :=
      decodeScalarRecord_of_made made enough fits (length_envelopeFor made isPartial notMore).2
    refine ⟨values, ?_, isFields ▸ related⟩
    -- The runtime of the call has the identities, the fields and the limit of `r`.
    have frame := after_frame r calls
    generalize after step r calls = now at frame active
    have reads : now.decodeRecord ((r.envelopeFor payload isPartial).frame payload) = .ok values := by
      rw [frame, decodeRecord, EventEnvelope.decodeRecord_frame fits]
      simp only []
      rw [if_neg (by simp [envelopeFor, EventEnvelope.new]), decoded]
    rw [ingest, if_neg (not_not.mpr active), reads]
  · intro profile planShort enough notMore
    have few := made.fewFields
    have some := length_pos_of_ne_nil made.hasFields
    obtain ⟨payloadLen, fieldCount⟩ := length_envelopeFor made isPartial (isMax ▸ notMore)
    have fits : (r.envelopeFor payload isPartial).Fits payload r.maxPayload := by
      refine ⟨payloadLen, rfl, ?_, made.planNonempty, ?_, ?_, ?_, ?_, ?_⟩
      · rw [isRuntime]
        exact profile
      · rw [isRuntime]
        exact planShort
      · intro zero
        rw [zero] at fieldCount
        rw [← fieldCount] at some
        cases some
      · rw [fieldCount]
        exact few
      · rw [payloadLen]
        exact (isMax ▸ notMore).trans made.ceiling
      · rw [payloadLen]
        exact isMax ▸ notMore
    refine ⟨(r.envelopeFor payload isPartial).frame payload, ?_⟩
    rw [encodePayload_eq r enough (isMax ▸ notMore), EventEnvelope.encodeRecord_eq_ok_iff.mpr ⟨fits, rfl⟩]

theorem word_encoded_and_ingested :
    new "rust" "sha256:plan" sampleFields 8 =
        .ok ⟨"rust", "sha256:plan", sampleFields, 8, .created, {}⟩ ∧
      ∃ values, ((after step ⟨"rust", "sha256:plan", sampleFields, 8, .created, {}⟩
          [.prepare, .attach, .activate]).ingest sampleRecord).1 = .ok values ∧
        List.Forall₂ (Decodes [42, 0, 0, 0, 0, 0, 0, 0]) sampleFields values := by
  have made : new "rust" "sha256:plan" sampleFields 8 =
    .ok ⟨"rust", "sha256:plan", sampleFields, 8, .created, {}⟩ := by decide
  exact ⟨made, (encoded_is_ingested made [42, 0, 0, 0, 0, 0, 0, 0] false).1 sampleRecord (by decide)
    [.prepare, .attach, .activate] (by decide)⟩

end ProfiledCaptureRuntime

end Detrix.Ebpf
