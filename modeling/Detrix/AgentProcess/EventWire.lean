/-
**Events on the wire.**

The agent's forwarder writes its events into a message of the protocol, with their values as JSON, and
the server reads them. A text of more than 64 KB is replaced by an object that gives its size.

- `survives_iff`: the type of an error is lost, and the object is read as no values.
- `batches_fit_iff`: a batch of at most 61 events fits into a message; the forwarder collects 64.
-/

import Detrix.Storage.Encodings
import Mathlib.Algebra.Order.BigOperators.Group.List
import Mathlib.Algebra.Order.Group.Nat
import Mathlib.Data.Nat.Cast.Basic
import Mathlib.Data.Nat.Digits.Defs

namespace Detrix.AgentProcess.EventWire

open Detrix.Core Library List Nat

/-- `MetricEvent`, as far as it is sent or compared. -/
structure AgentEvent (Value : Type) where
  metricId : MetricId
  metricName : String
  timestamp : Int
  threadName : Option String
  threadId : Option Int
  values : List Value
  isError : Bool
  errorType : Option String
  errorMessage : Option String

structure SerializedMetricEvent where
  metricId : Nat
  metricName : String
  timestampNs : Int
  threadName : String
  threadId : Int
  valuesJson : String
  isError : Bool
  errorMessage : String

def size (text : String) : Nat := Text.byteLength text.toList

def maxSize : Nat := 65536

def truncationMarker (originalSize : Nat) : String :=
  "\x7b\"_truncated\":true,\"_size_bytes\":" ++ toString originalSize ++ "\x7d"

/-- `serde_json`, for values that it can write. -/
structure Serde (Value : Type) where
  write : List Value → String
  read : String → Option (List Value)
  read_write : ∀ values, read (write values) = some values
  /-- An object is not read as a list. -/
  read_marker : ∀ originalSize, read (truncationMarker originalSize) = none

variable {Value : Type} (json : Serde Value) (e : AgentEvent Value)

def metricEventToProto : SerializedMetricEvent where
  metricId := e.metricId
  metricName := e.metricName
  timestampNs := (e.timestamp * 1000).bmod (2 ^ 64)
  threadName := e.threadName.getD ""
  threadId := e.threadId.getD 0
  valuesJson := json.write e.values
  isError := e.isError
  errorMessage := e.errorMessage.getD ""

def truncateValuesJson (valuesJson : String) : String :=
  if size valuesJson > maxSize then truncationMarker (size valuesJson) else valuesJson

/-- What `forward_batch` sends for an event. -/
def SerializedMetricEvent.truncated (p : SerializedMetricEvent) : SerializedMetricEvent :=
  { p with valuesJson := truncateValuesJson p.valuesJson }

def optional (text : String) : Option String := if text = "" then none else some text

def protoToDomain (p : SerializedMetricEvent) : AgentEvent Value where
  metricId := p.metricId
  metricName := p.metricName
  timestamp := p.timestampNs.tdiv 1000
  threadName := optional p.threadName
  threadId := if p.threadId = 0 then none else some p.threadId
  values := (json.read p.valuesJson).getD []
  isError := p.isError
  errorType := none
  errorMessage := optional p.errorMessage

/-- The event that the server has in the end. -/
def received : AgentEvent Value := protoToDomain json (metricEventToProto json e).truncated

/-- What is empty is absent, and the time is that of an exact number. -/
structure Plain : Prop where
  threadName : e.threadName ≠ some ""
  threadId : e.threadId ≠ some 0
  errorMessage : e.errorMessage ≠ some ""
  timestamp : e.timestamp.natAbs < 2 ^ 53

/-- **The event survives**: it is received as it was, apart from values that are too long, which are
shown to be truncated. -/
def Survives : Prop :=
  { received json e with values := e.values } = e ∧
    if size (json.write e.values) ≤ maxSize then (received json e).values = e.values
    else (received json e).values ≠ []

theorem optional_getD {text : Option String} (nonempty : text ≠ some "") :
    optional (text.getD "") = text := by
  cases text with
  | none => rfl
  | some text => exact if_neg fun empty => nonempty (congrArg some empty)

variable {json e}

theorem received_eq (plain : Plain e) : received json e =
    { e with
      errorType := none
      values := (json.read (truncateValuesJson (json.write e.values))).getD [] } := by
  have nanos : (e.timestamp * 1000).bmod (2 ^ 64) = e.timestamp * 1000 := by
    have bound := plain.timestamp
    exact Int.bmod_eq_of_le (by omega) (by omega)
  have time : (e.timestamp * 1000).tdiv 1000 = e.timestamp := Int.mul_tdiv_cancel _ (by decide)
  have thread : (if e.threadId.getD 0 = 0 then none else some (e.threadId.getD 0)) = e.threadId := by
    cases isThread : e.threadId with
    | none => rfl
    | some id => exact if_neg fun zero => plain.threadId (isThread.trans (congrArg some zero))
  simp only [received, protoToDomain, metricEventToProto, SerializedMetricEvent.truncated, nanos, time,
    thread, optional_getD plain.threadName, optional_getD plain.errorMessage]

/-- **An event survives exactly if it has no error type and its values are not truncated.** -/
theorem survives_iff (json : Serde Value) (e : AgentEvent Value) (plain : Plain e) :
    Survives json e ↔ e.errorType = none ∧ size (json.write e.values) ≤ maxSize := by
  rw [Survives, received_eq plain]
  refine and_congr ?_ ?_
  · cases e
    simp [eq_comm]
  · by_cases long : size (json.write e.values) > maxSize
    · rw [truncateValuesJson, if_pos long, if_neg (not_le.mpr long), json.read_marker]
      exact iff_of_false (absurd rfl) (not_le.mpr long)
    · rw [truncateValuesJson, if_neg long, if_pos (not_lt.mp long), json.read_write]
      exact iff_of_true rfl (not_lt.mp long)

namespace Sample

/-- Without values there is only the empty list. -/
def noValues : Serde Empty where
  write _ := "[]"
  read text := if text = "[]" then some [] else none
  read_write values := by cases values with | nil => rfl | cons value => exact value.elim
  read_marker originalSize := by
    have other : truncationMarker originalSize ≠ "[]" := by
      unfold truncationMarker
      intro same
      have heads := congrArg (·.toList.head?) same
      simp at heads
    rw [if_neg other]

def failure (errorType : Option String) : AgentEvent Empty :=
  ⟨7, "m", 1, none, none, [], true, errorType, some "boom"⟩

end Sample

open Sample

theorem survives_without_type : Plain (failure none) ∧ Survives noValues (failure none) := by
  have plain : Plain (failure none) := ⟨by decide, by decide, by decide, by decide⟩
  exact ⟨plain, (survives_iff noValues _ plain).mpr ⟨rfl, by decide⟩⟩

/-- The type of an error does not arrive. -/
theorem error_type_lost :
    (failure (some "ValueError")).errorType = some "ValueError" ∧
      (received noValues (failure (some "ValueError"))).errorType = none :=
  ⟨rfl, rfl⟩

/-! ### The size of a message -/

/-- Seven bits to a byte. -/
def varintLength (n : Nat) : Nat := log2 n / 7 + 1

/-- A default is not written; the tags of the fields take one byte. -/
def numberField (n : Nat) : Nat := if n = 0 then 0 else 1 + varintLength n

def nested (length : Nat) : Nat := 1 + varintLength length + length

def stringField (text : String) : Nat := if text = "" then 0 else nested (size text)

open Storage (asU64) in
def SerializedMetricEvent.encodedLength (p : SerializedMetricEvent) : Nat :=
  numberField p.metricId + stringField p.metricName + numberField (asU64 p.timestampNs) +
    stringField p.threadName + numberField (asU64 p.threadId) + stringField p.valuesJson +
    numberField p.isError.toNat + stringField p.errorMessage

/-- `AgentMessage` with the batch of a connection. -/
def messageLength (connectionId : String) (events : List SerializedMetricEvent) : Nat :=
  nested (stringField connectionId + (events.map fun p => nested p.truncated.encodedLength).sum)

def maxMessage : Nat := 4194304

/-- The names and the message of an error have at most 1 KB; numbers and lengths have 64 bits. -/
structure Small (p : SerializedMetricEvent) : Prop where
  metricId : p.metricId < 2 ^ 64
  metricName : size p.metricName ≤ 1024
  threadName : size p.threadName ≤ 1024
  errorMessage : size p.errorMessage ≤ 1024
  valuesJson : size p.valuesJson < 2 ^ 64

theorem nested_le {n m k : Nat} (le : n ≤ m) (small : m < 2 ^ (7 * (k + 1))) :
    nested n ≤ k + 2 + m := by
  have bits : log2 n < 7 * (k + 1) := by
    by_cases zero : n = 0
    · rw [zero, log2_zero]
      omega
    · exact (log2_lt zero).mpr (le.trans_lt small)
  unfold nested varintLength
  omega

theorem numberField_le {n k : Nat} (small : n < 2 ^ (7 * (k + 1))) : numberField n ≤ k + 2 := by
  have bound := nested_le le_rfl small
  unfold numberField
  unfold nested at bound
  split <;> omega

theorem stringField_le {text : String} {m k : Nat} (le : size text ≤ m)
    (small : m < 2 ^ (7 * (k + 1))) : stringField text ≤ k + 2 + m := by
  unfold stringField
  split
  · exact zero_le _
  · exact nested_le le small

theorem size_le (text : String) : size text ≤ 4 * text.length := by
  rw [size, ← String.length_toList]
  induction text.toList with
  | nil => exact le_rfl
  | cons c rest ih =>
    have one := c.utf8Size_le_four
    rw [length_cons, Text.byteLength, foldr_cons]
    unfold Text.byteLength at ih
    omega

theorem size_truncateValuesJson {text : String} (small : size text < 2 ^ 64) :
    size (truncateValuesJson text) ≤ 65536 := by
  unfold truncateValuesJson
  split
  · have digits : (toString (size text)).length ≤ 20 :=
      repr_length _ _ (by decide) (small.trans (by decide))
    have start : "\x7b\"_truncated\":true,\"_size_bytes\":".length = 33 := by decide
    have stop : "\x7d".length = 1 := by decide
    have bytes := size_le (truncationMarker (size text))
    unfold truncationMarker at bytes ⊢
    rw [String.length_append, String.length_append, start, stop] at bytes
    omega
  next short => exact not_lt.mp short

theorem encodedLength_le {p : SerializedMetricEvent} (small : Small p) :
    p.truncated.encodedLength ≤ 68656 := by
  have number (i : Int) : Storage.asU64 i < 2 ^ 70 := by
    have bound : i % (UInt64.size : Int) < 2 ^ 64 := Int.emod_lt_of_pos _ (by decide)
    unfold Storage.asU64
    omega
  have metricId := numberField_le (k := 9) (small.metricId.trans (by decide))
  have metricName := stringField_le (k := 1) small.metricName (by decide)
  have timestamp := numberField_le (k := 9) (number p.timestampNs)
  have threadName := stringField_le (k := 1) small.threadName (by decide)
  have threadId := numberField_le (k := 9) (number p.threadId)
  have valuesJson := stringField_le (k := 2) (size_truncateValuesJson small.valuesJson) (by decide)
  have isError := numberField_le (k := 0) (p.isError.toNat_lt.trans (by decide))
  have errorMessage := stringField_le (k := 1) small.errorMessage (by decide)
  simp only [SerializedMetricEvent.encodedLength, SerializedMetricEvent.truncated]
  omega

namespace Sample

@[irreducible]
def text (n : Nat) : String := String.ofList (replicate n 'a')

/-- An event with texts of these lengths. -/
def eventOf (a b : Nat) : SerializedMetricEvent := ⟨1, text a, 1, text a, 1, text b, true, text a⟩

/-- Every text has the greatest length that it can have. -/
def large : SerializedMetricEvent := eventOf 1024 65536

theorem size_text (n : Nat) : size (text n) = n := by
  rw [size, text, String.toList_ofList]
  induction n with
  | zero => rfl
  | succ n ih =>
    rw [replicate_succ, Text.byteLength, foldr_cons, ← Text.byteLength, ih]
    exact add_comm 1 n

theorem large_small : Small large := by
  refine ⟨by decide, ?_, ?_, ?_, ?_⟩ <;> simp [large, eventOf, size_text]

theorem nested_ge (n : Nat) : n + 2 ≤ nested n := by
  unfold nested varintLength
  omega

theorem encodedLength_ge {a b : Nat} (someA : 0 < a) (someB : 0 < b) (short : b ≤ maxSize) :
    3 * a + b + 8 ≤ (eventOf a b).truncated.encodedLength := by
  have field {n : Nat} (pos : 0 < n) : n + 2 ≤ stringField (text n) := by
    have some : text n ≠ "" := fun empty => by
      have none := size_text n
      rw [empty] at none
      exact pos.ne none
    rw [stringField, if_neg some, size_text]
    exact nested_ge n
  have same : truncateValuesJson (text b) = text b := by
    rw [truncateValuesJson, size_text, if_neg (not_lt.mpr short)]
  have names := field someA
  have values := field someB
  simp only [SerializedMetricEvent.encodedLength, SerializedMetricEvent.truncated, eventOf, same]
  omega

theorem large_message {n : Nat} (many : 62 ≤ n) :
    maxMessage < messageLength "" (replicate n large) := by
  have event : 68616 ≤ large.truncated.encodedLength :=
    encodedLength_ge (a := 1024) (b := 65536) (by decide) (by decide) (by decide)
  obtain ⟨one, isOne⟩ : ∃ one, one = nested large.truncated.encodedLength := ⟨_, rfl⟩
  have enough : 68618 ≤ one := isOne ▸ (Nat.add_le_add_right event 2).trans (nested_ge _)
  have product := mul_le_mul many enough
  have whole := nested_ge (stringField "" + n * one)
  rw [messageLength, map_replicate, sum_replicate, nsmul_eq_mul, cast_id, maxMessage, ← isOne]
  omega

end Sample

/-- **The batches of a size fit into a message, whatever is in them, exactly if they have at most 61
events.** -/
theorem batches_fit_iff (n : Nat) :
    (∀ connectionId events, size connectionId ≤ 1024 → events.length = n → (∀ p ∈ events, Small p) →
      messageLength connectionId events ≤ maxMessage) ↔ n ≤ 61 := by
  constructor
  · intro fits
    by_contra many
    refine absurd (fits "" (replicate n large) (by decide) length_replicate ?_)
      (Nat.not_le.mpr (large_message (Nat.lt_of_not_le many)))
    intro p mem
    exact (eq_of_mem_replicate mem) ▸ large_small
  · intro few connectionId events short isLength small
    have each : ∀ length ∈ events.map fun p => nested p.truncated.encodedLength, length ≤ 68660 := by
      intro length mem
      obtain ⟨p, isP, rfl⟩ := mem_map.mp mem
      exact nested_le (k := 2) (encodedLength_le (small p isP)) (by decide)
    have sum := sum_le_card_nsmul _ _ each
    rw [length_map, isLength, nsmul_eq_mul, cast_id] at sum
    have conn := stringField_le (k := 1) short (by decide)
    refine (nested_le (k := 3) (m := 4189287) ?_ (by decide)).trans (by decide)
    omega

/-- The forwarder collects up to 64 events. -/
theorem full_batch_too_large : ∃ events, events.length = 64 ∧ (∀ p ∈ events, Small p) ∧
    maxMessage < messageLength "" events :=
  ⟨replicate 64 large, length_replicate, fun _ mem => eq_of_mem_replicate mem ▸ large_small,
    large_message (by decide)⟩

end Detrix.AgentProcess.EventWire
