/-
**The values of a logpoint are read back.**

`logpoint_round_trip_iff`: the line that the debugger prints for the values of a metric is parsed into
the name of the metric, exactly these values and the goroutine if and only if no value holds a `|`
(and for Rust no line feed); with sections for the stack trace and the variables, if and only if these
hold none either. Values may hold anything else but the delimiter: equals signs, marks, colons.

The proof: `parseLogpointCore_line` says what is read from a line in general, and
`split_values_iff` when that is what was joined.
-/

import Detrix.Dap.Logpoint

namespace Detrix.Dap

open Detrix.Core Library Text List

/-! ### Lines -/

theorem blocks_eq (exprs : List String) :
    blocks exprs = (exprs.map block).intersperse (.text [multiExprDelimiter]) := by
  unfold blocks
  split <;> rfl

/-- The values take the places of the expressions. -/
theorem printed_blocks (rest : List Piece) (more : List (List Char)) :
    ∀ {exprs : List String} {values : List (List Char)},
      values.length = exprs.length →
        printed (blocks exprs ++ rest) (values ++ more) =
          [multiExprDelimiter].intercalate values ++ printed rest more
  | [], [], _ => rfl
  | [expression], [value], _ => by
    rw [intercalate_singleton]
    rfl
  | expression :: next :: exprs, value :: second :: values, counted => by
    have others : printed (blocks (next :: exprs) ++ rest) (second :: values ++ more) = _ :=
      printed_blocks rest more (Nat.succ.inj counted)
    rw [blocks_eq] at others ⊢
    rw [intercalate_cons_cons, append_assoc, append_assoc, ← others]
    rfl

variable {values : List (List Char)} {m : Metric}

def sections (m : Metric) (stack memory : List Char) : List Char :=
  (if m.captureStackTrace then '|' :: stackMark ++ stack else []) ++
    if m.captureMemorySnapshot then '|' :: memoryMark ++ memory else []

variable {stack memory line rest : List Char} {c : Char} {extractor : ThreadExtractor}
  {info : ThreadInfo}

theorem solid_sections (solidStack : Solid stack) (solidMemory : Solid memory) :
    Solid (sections m stack memory) := by
  have empty : Solid [] := ⟨nofun, nofun⟩
  have stackSection : Solid ('|' :: stackMark ++ stack) := Solid.append (by decide) solidStack
  have memorySection : Solid ('|' :: memoryMark ++ memory) := Solid.append (by decide) solidMemory
  refine .append ?_ ?_
  · split <;> assumption
  · split <;> assumption

def pythonLine (m : Metric) (values : List (List Char)) (stack memory : List Char) : List Char :=
  printed (buildPythonMessage m) (values ++ ((if m.captureStackTrace then [stack] else []) ++
    if m.captureMemorySnapshot then [memory] else []))

theorem pythonLine_eq (stack memory : List Char)
    (counted : values.length = m.expressions.length) : pythonLine m values stack memory =
      opening m ++ ([multiExprDelimiter].intercalate values ++ sections m stack memory) := by
  rw [pythonLine, buildPythonMessage, buildLogpointMessage, append_assoc, cons_append,
    printed, printed_blocks _ _ counted, sections]
  cases m.captureStackTrace <;> cases m.captureMemorySnapshot <;> simp [printed]

/-! ### What is read from a line -/

section Name

variable {m : Metric} (named : validateName m.name = .ok ())

include named

theorem name_chars : ∀ c ∈ m.name.toList, c.isAlphanum = true ∨ c = '_' ∨ c = '-' := by
  unfold validateName at named
  dsimp only at named
  split at named
  · cases named
  split at named
  · cases named
  split at named
  · cases named
  next allowed =>
    rw [Bool.not_eq_true', Bool.not_eq_false, all_eq_true] at allowed
    intro c mem
    simpa [or_assoc] using allowed c mem

section
variable (special : c.isAlphanum = false ∧ c ≠ '_' ∧ c ≠ '-')
include special

theorem name_lacks : c ∉ m.name.toList := by
  intro mem
  rcases name_chars named c mem with alphanumeric | underscore | hyphen
  · exact absurd alphanumeric (by simp [special.1])
  · exact special.2.1 underscore
  · exact special.2.2 hyphen

theorem opening_lacks (notMark : c ∉ detricsPrefix) (notEquals : c ≠ '=') : c ∉ opening m := by
  rw [opening, mem_append, mem_append, mem_singleton]
  rintro ((inMark | inName) | isEquals)
  · exact notMark inMark
  · exact name_lacks named special inName
  · exact notEquals isEquals

end

/-- **What is read from a line**, whatever follows the name. -/
theorem parseLogpointCore_line {body : List Char} (extracted : extractor (trimChars line) = info)
    (cleaned : info.cleanedText = opening m ++ body) :
    parseLogpointCore extractor line =
      some ⟨m.name, splitChars multiExprDelimiter (body.takeWhile (· ≠ '|')), info⟩ := by
  have noBar : '|' ∉ m.name.toList ++ ['='] := by
    rw [mem_append, not_or]
    exact ⟨name_lacks named (by decide), by decide⟩
  have main : (m.name.toList ++ ['='] ++ body).takeWhile (· ≠ '|') =
      m.name.toList ++ (['='] ++ body.takeWhile (· ≠ '|')) := by
    rw [takeWhile_append_of_pos, append_assoc]
    intro c mem
    exact decide_eq_true fun isBar => noBar (isBar ▸ mem)
  have cut := cutAt_append [] (name_lacks named (c := '=') (by decide))
    (body.takeWhile (· ≠ '|'))
  have text : info.cleanedText = detricsPrefix ++ (m.name.toList ++ ['='] ++ body) := by
    rw [cleaned, opening, append_assoc, append_assoc, append_assoc]
  simp only [parseLogpointCore, extracted, text, stripPrefix_append, Option.bind_eq_bind,
    Option.bind_some, head?_splitChars, main]
  rw [cut, Option.bind_some, String.ofList_toList]
  rfl

end Name

/-- **The values are read back if and only if none of them holds a bar.** -/
theorem split_values_iff (some : values ≠ [])
    (free : ∀ value ∈ values, multiExprDelimiter ∉ value) (barred : rest.takeWhile (· ≠ '|') = []) :
    splitChars multiExprDelimiter
        (([multiExprDelimiter].intercalate values ++ rest).takeWhile (· ≠ '|')) = values ↔
      ∀ value ∈ values, '|' ∉ value := by
  constructor
  · intro same value mem isBar
    have isPart : value ∈ splitChars multiExprDelimiter
        (([multiExprDelimiter].intercalate values ++ rest).takeWhile (· ≠ '|')) := same.symm ▸ mem
    nomatch mem_takeWhile_imp (mem_of_mem_splitChars isPart isBar).1
  · intro noBar
    rw [takeWhile_append_of_pos, barred, append_nil]
    · exact splitChars_intercalate some free
    · intro c mem
      refine decide_eq_true fun isBar => ?_
      exact not_mem_intercalate (by decide) noBar (isBar ▸ mem)

theorem mem_of_mem_valueParts {result : LogpointParseResult}
    (parsed : parseLogpointCore extractor line = some result) {value : List Char}
    (mem : value ∈ result.valueParts) (here : c ∈ value) :
    c ∈ (extractor (trimChars line)).cleanedText := by
  simp only [parseLogpointCore, Option.bind_eq_bind, Option.bind_eq_some_iff, Option.pure_def,
    Option.some.injEq] at parsed
  obtain ⟨rest, stripped, main, isMain, parts, cut, rfl⟩ := parsed
  have inMain : c ∈ main := by
    rw [cutAt_eq_some cut]
    exact mem_append_right _ (mem_append_right _ (mem_of_mem_splitChars mem here).1)
  rw [stripPrefix_eq_some stripped]
  exact mem_append_right _ (mem_of_mem_splitChars (mem_of_head? isMain) inMain).1

/-- The line is parsed into the name of the metric, the values and the thread. -/
def Recovers (extractor : ThreadExtractor) (line : List Char) (m : Metric)
    (values : List (List Char)) (threadId : Option Int64) : Prop :=
  ∃ result, parseLogpointCore extractor line = some result ∧ result.metricName = m.name ∧
    result.valueParts = values ∧ result.threadInfo.threadId = threadId

/-- Values for the expressions of a metric: one for each, without the delimiter, and without white
space at their ends. -/
structure Printable (m : Metric) (values : List (List Char)) : Prop where
  named : validateName m.name = .ok ()
  expressions : m.expressions ≠ []
  counted : values.length = m.expressions.length
  free : ∀ value ∈ values, multiExprDelimiter ∉ value
  solid : ∀ value ∈ values, Solid value

namespace Printable

variable {m : Metric} {values : List (List Char)} (printable : Printable m values)

include printable

theorem values_ne_nil : values ≠ [] := by
  intro none
  have noExpression := printable.counted
  rw [none, length_nil, eq_comm, length_eq_zero_iff] at noExpression
  exact printable.expressions noExpression

theorem solid_opening : Solid (opening m) := by
  have mark : Solid detricsPrefix := by decide
  have name : Solid m.name.toList := by
    refine .of_all fun c mem => ?_
    rcases name_chars printable.named c mem with alphanumeric | rfl | rfl
    · exact isWhitespace_of_alphanum alphanumeric
    · decide
    · decide
  exact (mark.append name).append (by decide)

theorem solid_line (solid : Solid rest) :
    Solid (opening m ++ ([multiExprDelimiter].intercalate values ++ rest)) := by
  have joined : Solid ([multiExprDelimiter].intercalate values) :=
    Solid.intercalate (by decide) printable.solid
  exact printable.solid_opening.append (joined.append solid)

theorem recovers_iff {threadId : Option Int64} (extracted : extractor (trimChars line) = info)
    (cleaned : info.cleanedText = opening m ++ ([multiExprDelimiter].intercalate values ++ rest))
    (barred : rest.takeWhile (· ≠ '|') = []) (isThread : info.threadId = threadId) :
    Recovers extractor line m values threadId ↔ ∀ value ∈ values, '|' ∉ value := by
  rw [← split_values_iff printable.values_ne_nil printable.free barred]
  have parsed := parseLogpointCore_line printable.named extracted cleaned
  constructor
  · rintro ⟨result, isResult, -, isValues, -⟩
    rw [parsed, Option.some.injEq] at isResult
    rw [← isResult] at isValues
    exact isValues
  · intro isValues
    exact ⟨_, parsed, rfl, isValues, isThread⟩

end Printable

/-! ### Go -/

/-- The line of Delve, with the goroutine before the message. -/
def goLine (id : Int64) (text : List Char) : List Char :=
  goMark ++ ((toString id).toList ++ (goMarkEnd ++ text))

theorem goThreadExtractor_line (id : Int64) (text : List Char) :
    goThreadExtractor (goLine id text) = .withGoroutine id text := by
  have noBracket : ']' ∉ (toString id).toList := by
    intro mem
    rcases mem_toString id mem with isSign | isDigit
    · cases isSign
    · cases isDigit
  have cut : cutAt goMarkEnd ((toString id).toList ++ (goMarkEnd ++ text)) = _ :=
    cutAt_append [':', ' '] noBracket text
  have found : goroutine (goLine id text) = some (.withGoroutine id text) := by
    simp only [goroutine, goLine, stripPrefix_append, cut, parseI64_toString, Option.bind_eq_bind,
      Option.bind_some, Option.pure_def]
  rw [goThreadExtractor, found, Option.getD_some]

theorem solid_goLine (id : Int64) {text : List Char} (some : text ≠ []) (solid : Solid text) :
    Solid (goLine id text) := by
  have begins : goLine id text =
      '>' :: (" [Go ".toList ++ (toString id).toList ++ goMarkEnd) ++ text := by
    rw [goLine, ← append_assoc, ← append_assoc]
    rfl
  rw [begins]
  exact solid.cons_append (by decide) _ some

/-! ### Rust -/

section OneLine

variable {m : Metric} {body : List Char}

theorem numberedThread_line : numberedThread (opening m ++ body) = none := rfl

theorem bracketedThread_line : bracketedThread (opening m ++ body) = none := rfl

theorem rustThreadExtractor_line (single : '\n' ∉ opening m ++ body) :
    rustThreadExtractor (opening m ++ body) = .withoutThread (opening m ++ body) := by
  rw [rustThreadExtractor, numberedThread_line, bracketedThread_line, multiLineThread, if_neg single]
  rfl

end OneLine

theorem scanLines_some :
    ∀ {found : Option Int64} {texts : List (List Char)}, scanLines found texts = some info →
      ∃ text ∈ texts, info.cleanedText = trimChars text
  | found, [], scanned => nomatch scanned
  | found, text :: rest, scanned => by
    rw [scanLines] at scanned
    split at scanned
    next =>
      refine ⟨text, (.head _), ?_⟩
      rw [Option.some.injEq] at scanned
      rw [← scanned]
      cases threadAfter found (trimChars text) <;> rfl
    next =>
      obtain ⟨other, among, isText⟩ := scanLines_some scanned
      exact ⟨other, .tail _ among, isText⟩

theorem scanLines_isSome {text : List Char} (marked : detricsPrefix.isPrefixOf (trimChars text) = true) :
    ∀ {found : Option Int64} {texts : List (List Char)}, text ∈ texts →
      (scanLines found texts).isSome = true
  | found, first :: rest, among => by
    rw [scanLines]
    split
    next => rfl
    next unmarked =>
      rcases mem_cons.mp among with rfl | later
      · exact absurd marked unmarked
      · exact scanLines_isSome marked later

theorem marked_line (m : Metric) (rest : List Char) :
    detricsPrefix.isPrefixOf (trimChars (dropReturn (opening m ++ rest))) = true := by
  have kept : ∃ tail, dropReturn (opening m ++ rest) = opening m ++ tail := by
    unfold dropReturn
    split
    next returns =>
      have some : rest ≠ [] := by
        rintro rfl
        rw [append_nil, opening, getLast?_concat] at returns
        cases returns
      exact ⟨rest.dropLast, dropLast_append_of_ne_nil some⟩
    next => exact ⟨rest, rfl⟩
  obtain ⟨tail, isKept⟩ := kept
  have begins : trimChars (opening m ++ tail) = opening m ++ trimEnd tail := by
    have start : (opening m ++ tail).dropWhile isWhitespace = opening m ++ tail :=
      dropWhile_cons_of_neg (by decide)
    rw [trimChars, start, opening, append_assoc (detricsPrefix ++ m.name.toList),
      append_assoc (detricsPrefix ++ m.name.toList)]
    exact trimEnd_append_cons (detricsPrefix ++ m.name.toList) (by decide) tail
  rw [isKept, begins, opening, append_assoc, append_assoc]
  exact isPrefixOf_iff_prefix.mpr (prefix_append _ _)

/-- **A line feed cuts the line**: the text that is parsed holds none. -/
theorem rustThreadExtractor_cut {body : List Char} (feed : '\n' ∈ body)
    (single : '\n' ∉ opening m) : '\n' ∉ (rustThreadExtractor (opening m ++ body)).cleanedText := by
  obtain ⟨front, back, rfl, first⟩ := eq_append_cons_of_mem feed
  have whole : opening m ++ (front ++ '\n' :: back) = opening m ++ front ++ '\n' :: back :=
    (append_assoc _ _ _).symm
  have noFeed : '\n' ∉ opening m ++ front := by
    rw [mem_append, not_or]
    exact ⟨single, first⟩
  have found : (scanLines none ((lines (String.ofList (opening m ++ front ++ '\n' :: back))).map
      String.toList)).isSome = true :=
    scanLines_isSome (marked_line m front) (dropReturn_mem_lines noFeed back)
  obtain ⟨info, scanned⟩ := Option.isSome_iff_exists.mp found
  have extracted : rustThreadExtractor (opening m ++ (front ++ '\n' :: back)) = info := by
    rw [rustThreadExtractor, numberedThread_line, bracketedThread_line, multiLineThread,
      if_pos (mem_append_right _ feed), whole, scanned, Option.none_or, Option.none_or,
      Option.getD_some]
  obtain ⟨text, isLine, isText⟩ := scanLines_some scanned
  obtain ⟨line, among, isLine⟩ := mem_map.mp isLine
  rw [extracted, isText, ← isLine]
  exact fun mem => (mem_of_mem_lines among (mem_of_mem_trimChars mem)).2 rfl

/-! ### Sections -/

section Sections

variable {TypedValue : Type} (json : Json TypedValue) (scope : SnapshotScope)
  (event : MetricEvent TypedValue)

theorem readSection_stack (stack : List Char) : event.readSection json scope (stackMark ++ stack) =
      { event with stackTrace := parseStackTraceJson json stack } := by
  rw [MetricEvent.readSection, stripPrefix_append]

theorem readSection_memory (memory : List Char) :
    event.readSection json scope (memoryMark ++ memory) =
      { event with memorySnapshot := parseMemorySnapshotJson json memory scope } := rfl

variable {event : MetricEvent TypedValue} {parts : List (List Char)}

theorem sections_stackTrace_none
    (unread : ∀ stack, stackMark ++ stack ∈ parts → json.frames stack = none)
    (noTrace : event.stackTrace = none) :
    (parts.foldl (·.readSection json scope) event).stackTrace = none := by
  refine foldlRecOn (motive := (MetricEvent.stackTrace · = none)) parts _ noTrace
    fun event noTrace part mem => ?_
  unfold MetricEvent.readSection
  split
  next stack stripped =>
    rw [parseStackTraceJson, unread stack (stripPrefix_eq_some stripped ▸ mem)]
    rfl
  next => split <;> exact noTrace

theorem sections_memorySnapshot_none
    (unread : ∀ memory, memoryMark ++ memory ∈ parts → json.snapshot memory = none)
    (noSnapshot : event.memorySnapshot = none) :
    (parts.foldl (·.readSection json scope) event).memorySnapshot = none := by
  refine foldlRecOn (motive := (MetricEvent.memorySnapshot · = none)) parts _ noSnapshot
    fun event noSnapshot part mem => ?_
  unfold MetricEvent.readSection
  split
  next => exact noSnapshot
  next =>
    split
    next memory stripped =>
      rw [parseMemorySnapshotJson, unread memory (stripPrefix_eq_some stripped ▸ mem)]
      rfl
    next => exact noSnapshot

/-- The sections of a line whose parts hold no bar. -/
theorem splitChars_sections {m : Metric} {front : List Char} (plain : '|' ∉ front)
    (plainStack : m.captureStackTrace = true → '|' ∉ stack)
    (plainMemory : m.captureMemorySnapshot = true → '|' ∉ memory) :
    (splitChars '|' (front ++ sections m stack memory)).drop 1 =
      (if m.captureStackTrace then [stackMark ++ stack] else []) ++
        if m.captureMemorySnapshot then [memoryMark ++ memory] else [] := by
  have marked {mark text : List Char} (plainMark : '|' ∉ mark) (plainText : '|' ∉ text) :
      '|' ∉ mark ++ text := by
    rw [mem_append, not_or]
    exact ⟨plainMark, plainText⟩
  have noStackMark : '|' ∉ stackMark := by decide
  have noMemoryMark : '|' ∉ memoryMark := by decide
  unfold sections
  cases hasStack : m.captureStackTrace <;> cases hasMemory : m.captureMemorySnapshot
  · rw [if_neg Bool.false_ne_true, if_neg Bool.false_ne_true, append_nil, append_nil,
      splitChars_self plain]
    rfl
  · rw [if_neg Bool.false_ne_true, if_pos rfl, nil_append, cons_append,
      splitChars_cons plain, splitChars_self (marked noMemoryMark (plainMemory hasMemory))]
    rfl
  · rw [if_pos rfl, if_neg Bool.false_ne_true, append_nil, cons_append,
      splitChars_cons plain, splitChars_self (marked noStackMark (plainStack hasStack))]
    rfl
  · rw [if_pos rfl, if_pos rfl, cons_append, cons_append, cons_append,
      splitChars_cons plain, splitChars_cons (marked noStackMark (plainStack hasStack)),
      splitChars_self (marked noMemoryMark (plainMemory hasMemory))]
    rfl

end Sections

/-- The JSON texts reach their parsers unchanged, whatever these read from a text. -/
def ReachParsers (active : ActiveMetrics) (m : Metric) (line stack memory : List Char) : Prop :=
  ∀ (TypedValue : Type) (json : Json TypedValue) (now : Int64),
    ∃ event, parsePythonOutput json now active (trimChars line) = some event ∧
      event.stackTrace = (if m.captureStackTrace then parseStackTraceJson json stack else none) ∧
      event.memorySnapshot =
        if m.captureMemorySnapshot then
          parseMemorySnapshotJson json memory (m.snapshotScope.getD .local)
        else none

namespace Printable

variable {m : Metric} {values : List (List Char)} (printable : Printable m values)

include printable

theorem trimStartMatches_line (body : List Char) :
    trimStartMatches detricsPrefix (opening m ++ body) = m.name.toList ++ ['='] ++ body := by
  have noColon : ':' ∉ m.name.toList := name_lacks printable.named (by decide)
  have once : stripPrefix detricsPrefix (m.name.toList ++ (['='] ++ body)) = none := by
    cases again : stripPrefix detricsPrefix (m.name.toList ++ (['='] ++ body)) with
    | none => rfl
    | some rest =>
      rcases append_eq_append_iff.mp (stripPrefix_eq_some again) with
        ⟨middle, isMark, isRest⟩ | ⟨middle, isName, -⟩
      · cases middle with
        | nil =>
          refine absurd ?_ noColon
          rw [← append_nil m.name.toList, ← isMark]
          decide
        | cons c middle =>
          have isEquals : c = '=' := (cons.inj isRest).1.symm
          have among : '=' ∈ detricsPrefix := by
            rw [isMark, isEquals]
            exact mem_append_right _ (.head _)
          nomatch among
      · refine absurd ?_ noColon
        rw [isName]
        exact mem_append_left _ (by decide)
  have split : opening m ++ body = detricsPrefix ++ (m.name.toList ++ (['='] ++ body)) := by
    rw [opening, append_assoc, append_assoc]
  rw [split, trimStartMatches_append (by decide) once, append_assoc]

variable {active : ActiveMetrics} {id : MetricId}

/-- **The event of a line**: the sections are read one after the other. -/
theorem parsePythonOutput_line {TypedValue : Type} (json : Json TypedValue) (now : Int64)
    (tracked : active.get m.name = some m) (stored : m.id = some id) {body : List Char}
    (solid : Solid (opening m ++ body)) :
    ∃ event : MetricEvent TypedValue, event.stackTrace = none ∧ event.memorySnapshot = none ∧
      parsePythonOutput json now active (opening m ++ body) =
        some (((splitChars '|' (m.name.toList ++ ['='] ++ body)).drop 1).foldl
          (·.readSection json (m.snapshotScope.getD .local)) event) := by
  have extracted : noThreadExtractor (trimChars (opening m ++ body)) =
      .withoutThread (opening m ++ body) := by
    rw [solid.trimChars]
    rfl
  have parsed := parseLogpointCore_line printable.named extracted rfl
  have made : ∃ event : MetricEvent TypedValue, event.stackTrace = none ∧
      event.memorySnapshot = none ∧ createMetricEventFromLogpoint json now
        ⟨m.name, splitChars multiExprDelimiter (body.takeWhile (· ≠ '|')),
          .withoutThread (opening m ++ body)⟩ active = some event := by
    rw [createMetricEventFromLogpoint, active.find_metrics, tracked, Option.bind_eq_bind,
      Option.bind_some, stored]
    exact ⟨_, rfl, rfl, rfl⟩
  obtain ⟨event, noTrace, noSnapshot, made⟩ := made
  refine ⟨event, noTrace, noSnapshot, ?_⟩
  simp only [parsePythonOutput, parsed, made, active.find_metrics, tracked,
    printable.trimStartMatches_line, Option.bind_eq_bind, Option.bind_some, Option.pure_def]

/-- **The sections reach their parsers if and only if they hold no bar.** -/
theorem reachParsers_iff (tracked : active.get m.name = some m) (stored : m.id = some id)
    (solid : Solid (opening m ++ ([multiExprDelimiter].intercalate values ++ sections m stack memory)))
    (plain : '|' ∉ m.name.toList ++ ['='] ++ [multiExprDelimiter].intercalate values) :
    ReachParsers active m
        (opening m ++ ([multiExprDelimiter].intercalate values ++ sections m stack memory)) stack memory ↔
      (m.captureStackTrace = true → '|' ∉ stack) ∧
        (m.captureMemorySnapshot = true → '|' ∉ memory) := by
  constructor
  · intro reach
    constructor
    · -- a parser that reads the whole text only gets none of the parts between bars
      intro captured isBar
      let json : Json Unit :=
        ⟨fun text => if text = stack then some [] else none, fun _ => none, fun _ => ("", none)⟩
      obtain ⟨event, parsed, isTrace, -⟩ := reach Unit json 0
      obtain ⟨base, noTrace, -, read⟩ :=
        printable.parsePythonOutput_line json 0 tracked stored solid
      rw [solid.trimChars, read, Option.some.injEq] at parsed
      rw [if_pos captured, ← parsed, sections_stackTrace_none json _ _ noTrace] at isTrace
      · simp [parseStackTraceJson, json] at isTrace
      · intro text among
        refine if_neg fun isStack => ?_
        refine (mem_of_mem_splitChars (mem_of_mem_drop among) ?_).2 rfl
        rw [isStack]
        exact mem_append_right _ isBar
    · intro captured isBar
      let json : Json Unit :=
        ⟨fun _ => none, fun text => if text = memory then some ⟨[], []⟩ else none, fun _ => ("", none)⟩
      obtain ⟨event, parsed, -, isSnapshot⟩ := reach Unit json 0
      obtain ⟨base, -, noSnapshot, read⟩ :=
        printable.parsePythonOutput_line json 0 tracked stored solid
      rw [solid.trimChars, read, Option.some.injEq] at parsed
      rw [if_pos captured, ← parsed, sections_memorySnapshot_none json _ _ noSnapshot] at isSnapshot
      · simp [parseMemorySnapshotJson, json] at isSnapshot
      · intro text among
        refine if_neg fun isMemory => ?_
        refine (mem_of_mem_splitChars (mem_of_mem_drop among) ?_).2 rfl
        rw [isMemory]
        exact mem_append_right _ isBar
  · rintro ⟨plainStack, plainMemory⟩ TypedValue json now
    obtain ⟨base, noTrace, noSnapshot, read⟩ :=
      printable.parsePythonOutput_line json now tracked stored solid
    rw [solid.trimChars, read, ← append_assoc, splitChars_sections plain plainStack plainMemory]
    refine ⟨_, rfl, ?_⟩
    cases m.captureStackTrace <;> cases m.captureMemorySnapshot <;>
      simp [readSection_stack, readSection_memory, noTrace, noSnapshot]

theorem python_iff (solidStack : Solid stack) (solidMemory : Solid memory)
    (tracked : active.get m.name = some m) (stored : m.id = some id) :
    Recovers noThreadExtractor (pythonLine m values stack memory) m values none ∧
        ReachParsers active m (pythonLine m values stack memory) stack memory ↔
      (∀ value ∈ values, '|' ∉ value) ∧ (m.captureStackTrace = true → '|' ∉ stack) ∧
        (m.captureMemorySnapshot = true → '|' ∉ memory) := by
  have barred : (sections m stack memory).takeWhile (· ≠ '|') = [] := by
    unfold sections
    cases m.captureStackTrace <;> cases m.captureMemorySnapshot <;> rfl
  have solid := printable.solid_line (solid_sections (m := m) solidStack solidMemory)
  rw [pythonLine_eq stack memory printable.counted]
  have recovers : Recovers noThreadExtractor _ m values none ↔ _ :=
    printable.recovers_iff rfl solid.trimChars barred rfl
  rw [recovers]
  refine and_congr_right fun noBar => printable.reachParsers_iff tracked stored solid ?_
  rw [mem_append, mem_append, not_or, not_or]
  exact ⟨⟨name_lacks printable.named (by decide), by decide⟩, not_mem_intercalate (by decide) noBar⟩

theorem line_eq : printed (buildLogpointMessage m) values =
    opening m ++ ([multiExprDelimiter].intercalate values ++ []) := by
  have filled := printed_blocks [] [] printable.counted
  rw [append_nil, append_nil] at filled
  rw [append_nil, buildLogpointMessage, printed, filled]
  exact congrArg _ (append_nil _)

theorem solid_printed : Solid (opening m ++ ([multiExprDelimiter].intercalate values ++ [])) :=
  printable.solid_line ⟨nofun, nofun⟩

theorem plain_iff :
    Recovers noThreadExtractor (printed (buildLogpointMessage m) values) m values none ↔
      ∀ value ∈ values, '|' ∉ value := by
  rw [printable.line_eq]
  exact printable.recovers_iff rfl printable.solid_printed.trimChars rfl rfl

theorem go_iff (id : Int64) :
    Recovers goThreadExtractor (goLine id (printed (buildLogpointMessage m) values)) m values
        (some id) ↔ ∀ value ∈ values, '|' ∉ value := by
  rw [printable.line_eq]
  have extracted := goThreadExtractor_line id
    (opening m ++ ([multiExprDelimiter].intercalate values ++ []))
  rw [← (solid_goLine id (by simp [opening]) printable.solid_printed).trimChars] at extracted
  exact printable.recovers_iff extracted rfl rfl rfl

theorem rust_iff :
    Recovers rustThreadExtractor (printed (buildLogpointMessage m) values) m values none ↔
      ∀ value ∈ values, '|' ∉ value ∧ '\n' ∉ value := by
  have noFeed : '\n' ∉ opening m := opening_lacks printable.named (by decide) (by decide) (by decide)
  rw [printable.line_eq]
  by_cases single : ∀ value ∈ values, '\n' ∉ value
  · have oneLine : '\n' ∉ opening m ++ ([multiExprDelimiter].intercalate values ++ []) := by
      rw [append_nil, mem_append, not_or]
      exact ⟨noFeed, not_mem_intercalate (by decide) single⟩
    have extracted := rustThreadExtractor_line oneLine
    rw [← printable.solid_printed.trimChars] at extracted
    refine (printable.recovers_iff extracted printable.solid_printed.trimChars rfl rfl).trans ?_
    exact ⟨fun noBar value among => ⟨noBar value among, single value among⟩,
      fun plain value among => (plain value among).1⟩
  · -- the text that is parsed ends at the first line feed
    simp only [not_forall, not_not] at single
    obtain ⟨value, among, feed⟩ := single
    refine iff_of_false ?_ fun plain => (plain value among).2 feed
    rintro ⟨result, parsed, -, isValues, -⟩
    have mem := mem_of_mem_valueParts parsed (isValues.symm ▸ among) feed
    rw [printable.solid_printed.trimChars] at mem
    refine rustThreadExtractor_cut ?_ noFeed mem
    rw [append_nil]
    rw [← splitChars_intercalate printable.values_ne_nil printable.free] at among
    exact (mem_of_mem_splitChars among feed).1

end Printable

/-! ### The round trip -/

/-- **A logpoint is read back if and only if its values hold no bar.** For Rust a line feed must not
occur either, and for Python neither JSON text holds a bar. -/
theorem logpoint_round_trip_iff (m : Metric) (values : List (List Char))
    (printable : Printable m values) :
    (Recovers noThreadExtractor (printed (buildLogpointMessage m) values) m values none ↔
        ∀ value ∈ values, '|' ∉ value) ∧
      (∀ id, Recovers goThreadExtractor (goLine id (printed (buildLogpointMessage m) values)) m values
          (some id) ↔ ∀ value ∈ values, '|' ∉ value) ∧
      (Recovers rustThreadExtractor (printed (buildLogpointMessage m) values) m values none ↔
        ∀ value ∈ values, '|' ∉ value ∧ '\n' ∉ value) ∧
      ∀ (active : ActiveMetrics) (id : MetricId) (stack memory : List Char),
        active.get m.name = some m → m.id = some id → Solid stack → Solid memory →
          (Recovers noThreadExtractor (pythonLine m values stack memory) m values none ∧
              ReachParsers active m (pythonLine m values stack memory) stack memory ↔
            (∀ value ∈ values, '|' ∉ value) ∧ (m.captureStackTrace = true → '|' ∉ stack) ∧
              (m.captureMemorySnapshot = true → '|' ∉ memory)) := by
  refine ⟨printable.plain_iff, printable.go_iff, printable.rust_iff, ?_⟩
  intro active id stack memory tracked stored solidStack solidMemory
  exact printable.python_iff solidStack solidMemory tracked stored

section Sample

def priceMetric : Metric where
  id := some 7
  name := "price"
  connectionId := "c"
  location := ⟨"f", 1⟩
  expressions := ["a", "b"]
  language := .python
  captureStackTrace := true
  captureMemorySnapshot := true

def priceTracked : ActiveMetrics := ActiveMetrics.empty.insert priceMetric

def emptyObject : List Char := "\x7b\x7d".toList

theorem price_read_back :
    Printable priceMetric ["x=1".toList, "> 2".toList] ∧
      Recovers goThreadExtractor
        (goLine 5 (printed (buildLogpointMessage priceMetric) ["x=1".toList, "> 2".toList])) priceMetric
        ["x=1".toList, "> 2".toList] (some 5) ∧
      ReachParsers priceTracked priceMetric
        (pythonLine priceMetric ["x=1".toList, "> 2".toList] "[]".toList emptyObject) "[]".toList
        emptyObject := by
  have printable : Printable priceMetric ["x=1".toList, "> 2".toList] :=
    ⟨by decide, by decide, rfl, by decide, by decide⟩
  have tracked : priceTracked.get priceMetric.name = some priceMetric := by
    rw [priceTracked, ActiveMetrics.get_insert, if_pos rfl]
  have roundTrip := logpoint_round_trip_iff priceMetric _ printable
  refine ⟨printable, (roundTrip.2.1 5).mpr (by decide), ?_⟩
  refine ((roundTrip.2.2.2 priceTracked 7 _ _ tracked rfl ?_ ?_).mpr ?_).2
  · decide
  · decide
  · decide

def showingJson : Json Unit where
  frames := fun text => some [⟨String.ofList text, "", 0⟩]
  snapshot := fun text => some ⟨[("text", String.ofList text)], []⟩
  parseValue := fun text => (String.ofList text, none)

/-- **A bar cuts the values and the sections**: the second value is lost with the rest of the first,
and the JSON of the variables ends at a bar in one of them. -/
theorem barred_value_cut :
    Printable priceMetric ["up|down".toList, "2".toList] ∧
      (parseLogpointCore noThreadExtractor
        (printed (buildLogpointMessage priceMetric) ["up|down".toList, "2".toList])).map
          (·.valueParts) = some ["up".toList] ∧
      ((parsePythonOutput showingJson 0 priceTracked
        (pythonLine priceMetric ["1".toList, "2".toList] "[]".toList "\x7b\"s\":\"a|b\"\x7d".toList)).bind
          (·.memorySnapshot)).map (·.locals.map (·.value)) = some ["\x7b\"s\":\"a"] := by
  refine ⟨⟨by decide, by decide, rfl, by decide, by decide⟩, by decide, ?_⟩
  decide

end Sample

end Detrix.Dap
