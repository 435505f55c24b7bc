/-
**Metrics, errors and the checks of the core crate.**

The metric record and the checks that do not need a service: its name, the lengths of its
expressions, the tenant ids, and whether an expression contains a function call.
-/

import Detrix.Core.Levels
import Detrix.Library.Text

namespace Detrix.Core

open Library Text

/-! ### Errors -/

inductive ServiceError where
  | invalidMetricName (detail : String)
  | invalidLocation (detail : String)
  | invalidTenantId (detail : String)
  | invalidExpression (detail : String)
  | expressionTooLong (len max : Nat)
  | safetyViolation (violations : List String)
  | safeModeViolation (operation connectionId : String)
  | metricNotFound (detail : String)
  | invalidConfig (detail : String)
  | database (detail : String)
  | adapter (detail : String)
  | storage (detail : String)
  | serialization (detail : String)
  | connectionNotFound (detail : String)
  | operationWithRollbackFailure (primary rollback context : String)
  | accessDenied (detail : String)
  deriving DecidableEq

def ServiceError.message : ServiceError → String
  | invalidMetricName detail => "Invalid metric name: " ++ detail
  | invalidLocation detail => "Invalid location format: " ++ detail ++ ". Expected @file.py#line"
  | invalidTenantId detail => "Invalid tenant ID: " ++ detail
  | invalidExpression detail => "Invalid expression: " ++ detail
  | expressionTooLong len max => "Expression too long: " ++ toString len ++ " > " ++ toString max
  | safetyViolation violations => "Safety violation: [" ++
      ", ".intercalate (violations.map fun v => "\"" ++ v ++ "\"") ++ "]"
  | safeModeViolation operation connectionId => "SafeMode: " ++ operation ++
      " blocked - connection '" ++ connectionId ++ "' is in SafeMode (only logpoints allowed)"
  | metricNotFound detail => "Metric not found: " ++ detail
  | invalidConfig detail => "Invalid configuration: " ++ detail
  | database detail => "Database error: " ++ detail
  | adapter detail => "Adapter error: " ++ detail
  | storage detail => "Storage error: " ++ detail
  | serialization detail => "Serialization error: " ++ detail
  | connectionNotFound detail => "Connection not found: " ++ detail
  | operationWithRollbackFailure primary rollback _ =>
    primary ++ ". Additionally, rollback failed: " ++ rollback
  | accessDenied detail => "Access denied: " ++ detail

/-! ### The record -/

abbrev MetricId : Type := Nat

abbrev ConnectionId : Type := String

structure Location where
  file : String
  line : Nat
  deriving DecidableEq

inductive MetricMode where
  | stream
  | sample (rate : Nat)
  | sampleInterval (seconds : Nat)
  | first
  | throttle (maxPerSecond : Nat)
  deriving DecidableEq

structure StackTraceSlice where
  full : Bool
  head : Option Nat
  tail : Option Nat
  deriving DecidableEq

inductive SnapshotScope where
  | local | global | both
  deriving DecidableEq

/-- What a metric remembers of the code around it. -/
structure MetricAnchor where
  enclosingSymbol : Option String
  symbolKind : Option Nat
  symbolRange : Option (Nat × Nat)
  offsetInSymbol : Option Nat
  contextFingerprint : Option String
  contextBefore : Option String
  sourceLine : Option String
  contextAfter : Option String
  lastVerifiedAt : Option Int
  originalLocation : Option String
  deriving DecidableEq

inductive AnchorStatus where
  | unanchored | verified | relocated | orphaned
  deriving DecidableEq

/-- `Metric`; a field that is left out has the value that `Metric::new` gives it. -/
structure Metric where
  id : Option MetricId := none
  name : String
  connectionId : ConnectionId
  group : Option String := none
  location : Location
  expressions : List String
  language : SourceLanguage
  enabled : Bool := true
  mode : MetricMode := .stream
  condition : Option String := none
  safetyLevel : SafetyLevel := .strict
  userId : Option String := none
  agentId : Option String := none
  captureStackTrace : Bool := false
  stackTraceTtl : Option Nat := none
  stackTraceSlice : Option StackTraceSlice := none
  captureMemorySnapshot : Bool := false
  snapshotScope : Option SnapshotScope := none
  snapshotTtl : Option Nat := none
  anchor : Option MetricAnchor := none
  anchorStatus : AnchorStatus := .unanchored
  deriving DecidableEq

/-! ### Names, lengths and tenants -/

def maxMetricNameLen : Nat := 255

def maxUserIdLen : Nat := 256

def reservedNames : List String := ["all", "none", "system", "detrix", "internal"]

def validateName (name : String) : Except ServiceError Unit :=
  let chars := name.toList
  if chars = [] ∨ byteLength chars > maxMetricNameLen then
    .error (.invalidMetricName ("Length must be 1-" ++ toString maxMetricNameLen ++ " characters"))
  else if !(chars.head?.map fun c => c.isAlpha || c = '_').getD false then
    .error (.invalidMetricName "Must start with letter or underscore")
  else if !chars.all (fun c => c.isAlphanum || c = '_' || c = '-') then
    .error (.invalidMetricName "Can only contain letters, numbers, underscore, hyphen")
  else if contains name "--" || contains name "__" then
    .error (.invalidMetricName "No consecutive special characters allowed")
  else if asciiLowercase name ∈ reservedNames then
    .error (.invalidMetricName ("'" ++ name ++ "' is a reserved name"))
  else .ok ()

def validateExpressionLength (maxLength : Nat) (expression : String) : Except ServiceError Unit :=
  let len := byteLength expression.toList
  if len > maxLength then .error (.expressionTooLong len maxLength) else .ok ()

def validateExpressionsLength (maxLength : Nat) : List String → Except ServiceError Unit
  | [] => .ok ()
  | expression :: rest => do
    validateExpressionLength maxLength expression
    validateExpressionsLength maxLength rest

/-- The control characters (`char::is_control`). -/
def isControl (c : Char) : Bool := c.toNat ≤ 0x1F || (0x7F ≤ c.toNat && c.toNat ≤ 0x9F)

def validateTenantId (field : String) : Option String → Except ServiceError Unit
  | none => .ok ()
  | some value =>
    let chars := value.toList
    if chars = [] then .error (.invalidTenantId (field ++ " must not be empty"))
    else if chars.all isWhitespace then
      .error (.invalidTenantId (field ++ " must not be whitespace-only"))
    else if chars.any isControl then
      .error (.invalidTenantId (field ++ " contains control characters"))
    else if ['_', '_'].isPrefixOf chars ∧ ['_', '_'].isSuffixOf chars ∧ byteLength chars > 4 then
      .error (.invalidTenantId (field ++ " uses reserved __*__ pattern"))
    else if byteLength chars > maxUserIdLen then
      .error (.invalidTenantId (field ++ " exceeds maximum length of " ++ toString maxUserIdLen ++
        " characters"))
    else .ok ()

def validateTenantIds (userId agentId : Option String) : Except ServiceError Unit := do
  validateTenantId "user_id" userId
  validateTenantId "agent_id" agentId

/-! ### Function calls in an expression -/

/-- A parenthesis stands right after a character of a name or a dot. -/
def hasCallAt : List Char → Bool
  | before :: next :: rest =>
    (next = '(' && (before.isAlphanum || before = '_' || before = '.')) ||
      hasCallAt (next :: rest)
  | _ => false

def expressionContainsFunctionCall (expression : String) : Bool := hasCallAt expression.toList

example : expressionContainsFunctionCall "len(items)" = true ∧
    expressionContainsFunctionCall "(a + b)" = false := by decide

end Detrix.Core
