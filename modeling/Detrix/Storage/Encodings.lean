/-
**How the fields of a metric are written in columns.**

Locations, modes, safety levels, scopes, anchor statuses, symbol ranges and the slices of stack
traces are texts in the table, and the numbers are signed. Each encoding has its decoding, and each
pair its lemma that says what is read back: `parse_toStringFormat`, `stringToMode_modeToString`,
`parseLanguage_languageName`, `readSlice_write`, `parseRange_rangeText`, `asU64_asI64`. A location is
read back if its file is named; `toStringFormat_inj`: then it is determined by its text.
-/

import Detrix.Library.Delimited
import Detrix.Library.Json
import Detrix.Service.Checks

namespace Detrix.Core

open Library Text UInt32

/-! ### Locations -/

def Location.toStringFormat (location : Location) : String :=
  "@" ++ location.file ++ "#" ++ toString location.line

def Location.parse (s : String) : Except ServiceError Location :=
  let text := trimChars s.toList
  if text = [] then .error (.invalidLocation "Location cannot be empty")
  else
    let withoutAt := (stripPrefix ['@'] text).getD text
    match rcutAt '#' withoutAt with
    | none => .error (.invalidLocation "Expected format: file.py#line (@ prefix optional)")
    | some (file, digits) =>
      match parseU32 digits with
      | none => .error (.invalidLocation "Line must be a positive integer")
      | some line =>
        if file = [] then .error (.invalidLocation "File path cannot be empty")
        else .ok ⟨String.ofList file, line⟩

theorem Location.toStringFormat_toList (loc : Location) : loc.toStringFormat.toList =
    '@' :: (loc.file.toList ++ '#' :: (toString loc.line).toList) := by
  simp [toStringFormat]

/-- **A location of a named file is read back.** -/
theorem Location.parse_toStringFormat {loc : Location} (named : loc.file ≠ "")
    (small : loc.line < size) : parse loc.toStringFormat = .ok loc := by
  have solid : Text.Solid loc.toStringFormat.toList := by
    have ends := Text.Solid.cons_append (c := '@') (by decide) (loc.file.toList ++ ['#'])
      (toString_ne_nil loc.line) solid_toString
    rw [toStringFormat_toList]
    simpa using ends
  have stripped : stripPrefix ['@'] loc.toStringFormat.toList =
      some (loc.file.toList ++ '#' :: (toString loc.line).toList) := by
    rw [toStringFormat_toList]
    exact stripPrefix_append ['@'] _
  have someText : loc.toStringFormat.toList ≠ [] := by
    rw [toStringFormat_toList]
    exact List.cons_ne_nil _ _
  have someFile : loc.file.toList ≠ [] := fun empty => named (String.toList_eq_nil_iff.mp empty)
  unfold parse
  dsimp only
  rw [solid.trimChars, if_neg someText, stripped, Option.getD_some,
    rcutAt_append (not_mem_toString (by decide))]
  dsimp only
  rw [parseU32_toString small]
  dsimp only
  rw [if_neg someFile, String.ofList_toList]

theorem Location.toStringFormat_inj {one other : Location} (first : one.file ≠ "")
    (firstSmall : one.line < size) (second : other.file ≠ "")
    (secondSmall : other.line < size) :
    one.toStringFormat = other.toStringFormat ↔ one = other := by
  refine ⟨fun same => ?_, congrArg _⟩
  have parsed := congrArg parse same
  rw [parse_toStringFormat first firstSmall, parse_toStringFormat second secondSmall] at parsed
  exact Except.ok.inj parsed

end Detrix.Core

namespace Detrix.Storage

open Detrix.Core Library Service

/-! ### Enumerations -/

/-- `SourceLanguage::from_str`, on text that is in lower case. -/
def languageOf : String → Option SourceLanguage
  | "python" => some .python
  | "go" | "golang" => some .go
  | "rust" => some .rust
  | "javascript" | "js" => some .javaScript
  | "typescript" | "ts" => some .typeScript
  | "java" => some .java
  | "cpp" | "c++" => some .cpp
  | "c" => some .c
  | "ruby" => some .ruby
  | "php" => some .php
  | "unknown" => some .unknown
  | _ => none

/-- The language of a row, or the error that names the row. -/
def parseLanguage (context value : String) : Except ServiceError SourceLanguage :=
  match languageOf (Text.asciiLowercase value) with
  | some language => .ok language
  | none => .error (.invalidConfig ("Invalid language '" ++ value ++ "' " ++ context ++
      ". Valid options: python, go, rust, javascript, typescript, java, cpp, c, ruby, php"))

theorem parseLanguage_languageName (context : String) (lang : SourceLanguage) :
    parseLanguage context (languageName lang) = .ok lang := by
  have known : languageOf (Text.asciiLowercase (languageName lang)) = some lang := by
    cases lang <;> decide
  unfold parseLanguage
  rw [known]

/-- `SafetyLevel::as_str`. -/
def safetyName : SafetyLevel → String
  | .strict => "strict"
  | .trusted => "trusted"

/-- An unknown level is read as the strict one. -/
def safetyOf : String → SafetyLevel
  | "strict" => .strict
  | "trusted" => .trusted
  | _ => .strict

theorem safetyOf_safetyName (level : SafetyLevel) : safetyOf (safetyName level) = level := by
  cases level <;> rfl

def scopeName : SnapshotScope → String
  | .local => "local"
  | .global => "global"
  | .both => "both"

def scopeOf : String → Option SnapshotScope
  | "local" => some .local
  | "global" => some .global
  | "both" => some .both
  | _ => none

theorem scopeOf_scopeName (scope : SnapshotScope) : scopeOf (scopeName scope) = some scope := by
  cases scope <;> rfl

theorem bind_scopeOf (scope : Option SnapshotScope) : (scope.map scopeName).bind scopeOf = scope := by
  cases scope with
  | none => rfl
  | some scope => exact scopeOf_scopeName scope

def statusName : AnchorStatus → String
  | .unanchored => "unanchored"
  | .verified => "verified"
  | .relocated => "relocated"
  | .orphaned => "orphaned"

def statusOf : String → Option AnchorStatus
  | "unanchored" => some .unanchored
  | "verified" => some .verified
  | "relocated" => some .relocated
  | "orphaned" => some .orphaned
  | _ => none

theorem statusOf_statusName (status : AnchorStatus) : statusOf (statusName status) = some status := by
  cases status <;> rfl

/-! ### Numbers -/

def asI64 (n : Nat) : Int := Int.bmod n UInt64.size

def asU64 (i : Int) : Nat := (i % (UInt64.size : Int)).toNat

def asU32 (i : Int) : Nat := (i % (UInt32.size : Int)).toNat

variable {n : Nat}

theorem asU64_asI64 (small : n < UInt64.size) : asU64 (asI64 n) = n := by
  have remainder : asI64 n % (UInt64.size : Int) = n :=
    Int.bmod_emod.trans (Int.emod_eq_of_lt (Int.natCast_nonneg n) (Int.ofNat_lt.mpr small))
  exact (congrArg Int.toNat remainder).trans (Int.toNat_natCast n)

theorem asU32_natCast (small : n < UInt32.size) : asU32 n = n := by
  have remainder : (n : Int) % (UInt32.size : Int) = n :=
    Int.emod_eq_of_lt (Int.natCast_nonneg n) (Int.ofNat_lt.mpr small)
  rw [asU32, remainder, Int.toNat_natCast]

/-- A column of numbers that are read back. -/
theorem map_map_eq {α β : Type} {write : α → β} {read : β → α} {column : Option α}
    (back : ∀ a ∈ column, read (write a) = a) : (column.map write).map read = column := by
  cases column with
  | none => rfl
  | some a => exact congrArg some (back a rfl)

/-! ### Modes -/

/-- `MetricMode::as_str`. -/
def modeToString : MetricMode → String
  | .stream => "stream"
  | .sample _ => "sample"
  | .sampleInterval _ => "sample_interval"
  | .first => "first"
  | .throttle _ => "throttle"

section Modes

variable (json : JsonText)

def modeConfigToJson : MetricMode → Option String
  | .sample rate => some (json.write (.object [("rate", .number rate)]))
  | .sampleInterval seconds => some (json.write (.object [("seconds", .number seconds)]))
  | .throttle maxPerSecond => some (json.write (.object [("max_per_second", .number maxPerSecond)]))
  | _ => none

/-- The number of a mode that has one. -/
def readNumber (mode key : String) : Option String → Except ServiceError Nat
  | none => .error (.invalidConfig (mode ++ " mode requires config"))
  | some text =>
    match json.read text with
    | .error e => .error (.serialization e)
    | .ok document =>
      match (document.index key).asU64 with
      | none => .error (.invalidConfig ("Missing " ++ key))
      | some n => .ok (n % UInt32.size)

def stringToMode (modeType : String) (config : Option String) : Except ServiceError MetricMode :=
  match modeType with
  | "stream" => .ok .stream
  | "first" => .ok .first
  | "sample" => (readNumber json "Sample" "rate" config).map .sample
  | "sample_interval" => (readNumber json "SampleInterval" "seconds" config).map .sampleInterval
  | "throttle" => (readNumber json "Throttle" "max_per_second" config).map .throttle
  | _ => .error (.invalidConfig ("Unknown mode type: " ++ modeType))

theorem readNumber_write (mode key : String) (small : n < UInt32.size) :
    readNumber json mode key (some (json.write (.object [(key, .number n)]))) = .ok n := by
  have found : (Json.object [(key, .number n)]).index key = .number n := by
    simp [Json.index, Json.field]
  unfold readNumber
  dsimp only
  rw [json.read_write]
  dsimp only
  rw [found, Scalar.asU64]
  dsimp only
  rw [Nat.mod_eq_of_lt small]

/-- The numbers of a mode fit into 32 bits. -/
def ModeFits : MetricMode → Prop
  | .sample n | .sampleInterval n | .throttle n => n < UInt32.size
  | _ => True

theorem stringToMode_modeToString {mode : MetricMode} (fits : ModeFits mode) :
    stringToMode json (modeToString mode) (modeConfigToJson json mode) = .ok mode := by
  cases mode with
  | stream | first => rfl
  | sample n => exact congrArg (Except.map _) (readNumber_write json "Sample" "rate" fits)
  | sampleInterval n =>
    exact congrArg (Except.map _) (readNumber_write json "SampleInterval" "seconds" fits)
  | throttle n =>
    exact congrArg (Except.map _) (readNumber_write json "Throttle" "max_per_second" fits)

end Modes

/-! ### Slices and symbol ranges -/

def optionalNumber : Option Nat → Scalar
  | none => .null
  | some n => .number n

/-- A field of type `Option<u32>`: the outer option is a field of another type. -/
def readOptional : Option Scalar → Option (Option Nat)
  | none | some .null => some none
  | some (.number n) => if n < UInt32.size then some (some n) else none
  | some _ => none

def sliceToJson (slice : StackTraceSlice) : Json :=
  .object [("full", .bool slice.full), ("head", optionalNumber slice.head),
    ("tail", optionalNumber slice.tail)]

/-- The slice of an object; a missing `full` is false. -/
def sliceOfJson (document : Json) : Option StackTraceSlice :=
  match document with
  | .object fields =>
    match fields.lookup "full", readOptional (fields.lookup "head"),
      readOptional (fields.lookup "tail") with
    | none, some head, some tail => some ⟨false, head, tail⟩
    | some (.bool full), some head, some tail => some ⟨full, head, tail⟩
    | _, _, _ => none
  | _ => none

/-- `deserialize_optional` for slices: what cannot be read is no slice. -/
def readSlice (json : JsonText) (text : String) : Option StackTraceSlice :=
  match json.read text with
  | .ok document => sliceOfJson document
  | .error _ => none

def SliceFits (slice : StackTraceSlice) : Prop :=
  (∀ n ∈ slice.head, n < UInt32.size) ∧ ∀ n ∈ slice.tail, n < UInt32.size

theorem readOptional_optionalNumber {number : Option Nat} (small : ∀ n ∈ number, n < UInt32.size) :
    readOptional (some (optionalNumber number)) = some number := by
  cases number with
  | none => rfl
  | some n => exact if_pos (small n rfl)

theorem readSlice_write (json : JsonText) {slice : StackTraceSlice} (fits : SliceFits slice) :
    readSlice json (json.write (sliceToJson slice)) = some slice := by
  have head := readOptional_optionalNumber fits.1
  have tail := readOptional_optionalNumber fits.2
  unfold readSlice
  rw [json.read_write]
  simp [sliceToJson, sliceOfJson, List.lookup_cons, head, tail]

theorem bind_readSlice (json : JsonText) {slice : Option StackTraceSlice}
    (fits : ∀ s ∈ slice, SliceFits s) :
    (slice.map fun s => json.write (sliceToJson s)).bind (readSlice json) = slice := by
  cases slice with
  | none => rfl
  | some slice => exact readSlice_write json (fits slice rfl)

def rangeText (range : Nat × Nat) : String := toString range.1 ++ ":" ++ toString range.2

def parseRange (text : String) : Option (Nat × Nat) :=
  match Text.splitChars ':' text.toList with
  | [start, stop] => do return (← Text.parseU32 start, ← Text.parseU32 stop)
  | _ => none

theorem parseRange_rangeText {range : Nat × Nat} (start : range.1 < UInt32.size)
    (stop : range.2 < UInt32.size) : parseRange (rangeText range) = some range := by
  have parts : Text.splitChars ':' (rangeText range).toList =
      [(toString range.1).toList, (toString range.2).toList] := by
    have text : (rangeText range).toList =
        (toString range.1).toList ++ ':' :: (toString range.2).toList := by
      simp [rangeText]
    rw [text, Text.splitChars_cons (Text.not_mem_toString (by decide)),
      Text.splitChars_self (Text.not_mem_toString (by decide))]
  unfold parseRange
  rw [parts]
  dsimp only
  rw [Text.parseU32_toString start, Text.parseU32_toString stop]
  rfl

end Detrix.Storage
