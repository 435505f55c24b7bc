/-
**Logpoints.**

`build_logpoint_message` builds the message that the debugger prints when it passes a logpoint, with
an expression in braces for every value; the debugger replaces these blocks by the values, and the
adapter parses the line it prints: `parse_logpoint_core`, with the thread that the debugger of the
language puts before the line, and for Python the sections with the stack trace and the variables.

Texts that pass between debugger and adapter are lists of characters. `serde_json` is a parameter.
-/

import Detrix.Dap.ActiveMetrics
import Detrix.Library.Delimited

namespace Detrix.Dap

open Detrix.Core Library Text

/-! ### Messages -/

def detricsPrefix : List Char := "DETRICS:".toList

def multiExprDelimiter : Char := '\x1f'

/-- A piece of a message: a text, or an expression in braces. -/
inductive Piece where
  | text (chars : List Char)
  | block (expression : List Char)

def Piece.source : Piece → List Char
  | .text chars => chars
  | .block expression => '\x7b' :: expression ++ ['\x7d']

def message (pieces : List Piece) : List Char := pieces.flatMap Piece.source

/-- The line that the debugger prints: the blocks are replaced by values. -/
def printed : List Piece → List (List Char) → List Char
  | [], _ => []
  | .text chars :: pieces, values => chars ++ printed pieces values
  | .block _ :: pieces, value :: values => value ++ printed pieces values
  | .block expression :: pieces, [] => (Piece.block expression).source ++ printed pieces []

def block (expression : String) : Piece := .block expression.toList

def blocks (expressions : List String) : List Piece :=
  match expressions with
  | [expression] => [block expression]
  | expressions => (expressions.map block).intersperse (.text [multiExprDelimiter])

def opening (m : Metric) : List Char := detricsPrefix ++ m.name.toList ++ ['=']

def buildLogpointMessage (m : Metric) : List Piece := .text (opening m) :: blocks m.expressions

def maxStackFramesFull : Nat := 100

def defaultStackFrames : Nat := 10

def maxFrames : Option StackTraceSlice → Nat
  | some slice => if slice.full then maxStackFramesFull
    else (slice.tail.or slice.head).getD defaultStackFrames
  | none => defaultStackFrames

def stackExpression (frames : Nat) : List Char :=
  ("__import__('json').dumps([\x7b'name':f.name,'file':f.filename,'line':f.lineno\x7d for f in " ++
    "__import__('traceback').extract_stack()[-" ++ toString frames ++ ":]])").toList

def localsExpression : String :=
  "'locals': \x7bk:str(v)[:100] for k,v in locals().items() if not k.startswith('_')\x7d"

def globalsExpression : String :=
  "'globals': \x7bk:str(v)[:100] for k,v in globals().items() if not k.startswith('_') and " ++
    "not callable(v)\x7d"

def variablesExpression (scope : SnapshotScope) : List Char :=
  let entries := match scope with
    | .local => localsExpression
    | .global => globalsExpression
    | .both => localsExpression ++ ", " ++ globalsExpression
  ("__import__('json').dumps(\x7b" ++ entries ++ "\x7d)").toList

def stackMark : List Char := "ST:".toList

def memoryMark : List Char := "MS:".toList

/-- `PythonOutputParser::build_logpoint_message`. -/
def buildPythonMessage (m : Metric) : List Piece :=
  buildLogpointMessage m ++
    (if m.captureStackTrace then
      [Piece.text ('|' :: stackMark), .block (stackExpression (maxFrames m.stackTraceSlice))] else []) ++
    if m.captureMemorySnapshot then
      [Piece.text ('|' :: memoryMark), .block (variablesExpression (m.snapshotScope.getD .local))] else []

/-! ### Threads -/

structure ThreadInfo where
  threadId : Option Int64
  threadName : Option String
  cleanedText : List Char

namespace ThreadInfo

def withoutThread (text : List Char) : ThreadInfo := ⟨none, none, text⟩

def withGoroutine (id : Int64) (cleanedText : List Char) : ThreadInfo :=
  ⟨some id, some ("goroutine-" ++ toString id), cleanedText⟩

def withThread (id : Int64) (cleanedText : List Char) : ThreadInfo :=
  ⟨some id, some ("thread-" ++ toString id), cleanedText⟩

end ThreadInfo

/-- `ThreadExtractor::extract_thread_info`. -/
abbrev ThreadExtractor : Type := List Char → ThreadInfo

def noThreadExtractor : ThreadExtractor := .withoutThread

def goMark : List Char := "> [Go ".toList

def goMarkEnd : List Char := "]: ".toList

def goroutine (output : List Char) : Option ThreadInfo := do
  let rest ← stripPrefix goMark output
  let (number, message) ← cutAt goMarkEnd rest
  let id ← parseI64 number
  return .withGoroutine id message

def goThreadExtractor : ThreadExtractor := fun output =>
  (goroutine output).getD (.withoutThread output)

def leadingNumber (text : List Char) : Option Int64 :=
  let digits := text.takeWhile Char.isDigit
  if digits = [] then none else parseI64 digits

def threadMark : List Char := "thread #".toList

def stoppedThreadMark : List Char := "* thread #".toList

def bracketMark : List Char := "[thread ".toList

def fromDetrics (text : List Char) : Option (List Char) :=
  (cutAt detricsPrefix text).map fun parts => detricsPrefix ++ parts.2

/-- `thread #1: DETRICS:…`. -/
def numberedThread (output : List Char) : Option ThreadInfo := do
  let rest ← (stripPrefix threadMark output).or (stripPrefix stoppedThreadMark output)
  let id ← leadingNumber rest
  let text ← fromDetrics rest
  return .withThread id text

/-- `[thread 1] DETRICS:…`. -/
def bracketedThread (output : List Char) : Option ThreadInfo := do
  let rest ← stripPrefix bracketMark output
  let (number, after) ← cutAt [']'] rest
  let id ← parseI64 (trimChars number)
  let remaining := after.dropWhile isWhitespace
  if detricsPrefix.isPrefixOf remaining then return .withThread id remaining else none

/-- The thread after a line; `found` is the thread of an earlier one. -/
def threadAfter (found : Option Int64) (line : List Char) : Option Int64 :=
  match (stripPrefix stoppedThreadMark line).or (stripPrefix threadMark line) with
  | some part => (leadingNumber part).or found
  | none => found

/-- The lines up to the one that starts with `DETRICS:`. -/
def scanLines (found : Option Int64) : List (List Char) → Option ThreadInfo
  | [] => none
  | line :: rest =>
    if detricsPrefix.isPrefixOf (trimChars line) then
      some ((threadAfter found (trimChars line)).elim (.withoutThread (trimChars line))
        fun id => .withThread id (trimChars line))
    else scanLines (threadAfter found (trimChars line)) rest

def multiLineThread (output : List Char) : Option ThreadInfo :=
  if '\n' ∈ output then scanLines none ((lines (String.ofList output)).map String.toList) else none

def rustThreadExtractor : ThreadExtractor := fun output =>
  ((numberedThread output).or ((bracketedThread output).or (multiLineThread output))).getD
    (.withoutThread ((fromDetrics output).getD output))

/-! ### Parsing -/

structure LogpointParseResult where
  metricName : String
  valueParts : List (List Char)
  threadInfo : ThreadInfo

def parseLogpointCore (extractor : ThreadExtractor) (output : List Char) :
    Option LogpointParseResult := do
  let threadInfo := extractor (trimChars output)
  let rest ← stripPrefix detricsPrefix threadInfo.cleanedText
  let mainContent ← (splitChars '|' rest).head?
  let (name, values) ← cutAt ['='] mainContent
  return ⟨String.ofList name, splitChars multiExprDelimiter values, threadInfo⟩

structure StackFrame where
  index : Nat
  name : String
  file : Option String
  line : Option Nat
  column : Option Nat
  module : Option String

structure CapturedStackTrace where
  frames : List StackFrame
  totalFrames : Nat
  truncated : Bool

structure CapturedVariable where
  name : String
  value : String
  varType : Option String
  scope : Option String

structure MemorySnapshot where
  locals : List CapturedVariable
  globals : List CapturedVariable
  scope : SnapshotScope

structure RawFrame where
  name : String
  file : String
  line : Nat

structure RawSnapshot where
  locals : List (String × String)
  globals : List (String × String)

/-- What `serde_json` reads from a text, and `parse_value`. -/
structure Json (TypedValue : Type) where
  frames : List Char → Option (List RawFrame)
  snapshot : List Char → Option RawSnapshot
  parseValue : List Char → String × Option TypedValue

variable {TypedValue : Type}

def parseStackTraceJson (json : Json TypedValue) (text : List Char) : Option CapturedStackTrace :=
  (json.frames text).map fun frames =>
    { frames := frames.mapIdx fun index frame =>
        ⟨index, frame.name, some frame.file, some frame.line, none, none⟩
      totalFrames := frames.length
      truncated := false }

def capturedVariables (scope : String) (entries : List (String × String)) : List CapturedVariable :=
  entries.map fun entry => ⟨entry.1, entry.2, none, some scope⟩

def parseMemorySnapshotJson (json : Json TypedValue) (text : List Char) (scope : SnapshotScope) :
    Option MemorySnapshot :=
  (json.snapshot text).map fun raw =>
    ⟨capturedVariables "local" raw.locals, capturedVariables "global" raw.globals, scope⟩

structure ExpressionValue (TypedValue : Type) where
  expression : String
  valueJson : String
  typedValue : Option TypedValue

structure MetricEvent (TypedValue : Type) where
  id : Option Int64
  metricId : MetricId
  metricName : String
  connectionId : ConnectionId
  timestamp : Int64
  threadName : Option String
  threadId : Option Int64
  values : List (ExpressionValue TypedValue)
  isError : Bool
  errorType : Option String
  errorMessage : Option String
  requestId : Option String
  sessionId : Option String
  stackTrace : Option CapturedStackTrace
  memorySnapshot : Option MemorySnapshot

/-- The values of an event; surplus expressions and surplus values are dropped. -/
def expressionValues (json : Json TypedValue) (expressions : List String)
    (valueParts : List (List Char)) : List (ExpressionValue TypedValue) :=
  (expressions.zip valueParts).map fun pair =>
    let (valueJson, typedValue) := json.parseValue pair.2
    ⟨pair.1, valueJson, typedValue⟩

/-- `create_metric_event_from_logpoint`, at the time `now`. -/
def createMetricEventFromLogpoint (json : Json TypedValue) (now : Int64)
    (result : LogpointParseResult) (active : ActiveMetrics) : Option (MetricEvent TypedValue) := do
  let m ← active.metrics.find? (·.name = result.metricName)
  let metricId ← m.id
  return {
    id := none
    metricId
    metricName := m.name
    connectionId := m.connectionId
    timestamp := now
    threadName := result.threadInfo.threadName
    threadId := result.threadInfo.threadId
    values := expressionValues json m.expressions result.valueParts
    isError := false
    errorType := none
    errorMessage := none
    requestId := none
    sessionId := none
    stackTrace := none
    memorySnapshot := none }

/-- A section of the line goes to the parser that its mark names. -/
def MetricEvent.readSection (json : Json TypedValue) (scope : SnapshotScope)
    (event : MetricEvent TypedValue) (part : List Char) : MetricEvent TypedValue :=
  match stripPrefix stackMark part with
  | some stackTrace => { event with stackTrace := parseStackTraceJson json stackTrace }
  | none =>
    match stripPrefix memoryMark part with
    | some snapshot =>
      { event with memorySnapshot := parseMemorySnapshotJson json snapshot scope }
    | none => event

/-- `PythonOutputParser::parse_logpoint_output`. -/
def parsePythonOutput (json : Json TypedValue) (now : Int64) (active : ActiveMetrics)
    (text : List Char) : Option (MetricEvent TypedValue) := do
  let result ← parseLogpointCore noThreadExtractor text
  let scope := ((active.metrics.find? (·.name = result.metricName)).bind (·.snapshotScope)).getD .local
  let event ← createMetricEventFromLogpoint json now result active
  let sections := splitChars '|' (trimStartMatches detricsPrefix text)
  return (sections.drop 1).foldl (·.readSection json scope) event

end Detrix.Dap
