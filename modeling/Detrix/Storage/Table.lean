/-
**The table of metrics and what is read back from it.**

A row holds the columns as they are bound; `save_with_options` and `update` write them by two
statements, and `row_to_metric` reads them. `rowToMetric_updateRow` says what is read from a row after
an update, and the insertion is a case of it: it writes the columns of an update and some more.
So an anchor without a symbol, a fingerprint, a line or the lines before it is lost, and an update
leaves the capture options as they were.

`storage_round_trip_iff`: these are the only losses.
-/

import Detrix.Service.Repository
import Detrix.Storage.Encodings

namespace Detrix.Storage

open Detrix.Core Library Service List

/-! ### Rows -/

/-- The columns of the table that are read. -/
structure Row where
  id : MetricId
  name : String
  connectionId : String
  groupName : Option String
  location : String
  expressionsJson : String
  language : String
  enabled : Bool
  modeType : String
  modeConfig : Option String
  conditionExpr : Option String
  safetyLevel : String
  createdAt : Int
  userId : Option String
  agentId : Option String
  captureStackTrace : Bool
  stackTraceTtl : Option Int
  stackTraceSlice : Option String
  captureMemorySnapshot : Bool
  snapshotScope : Option String
  snapshotTtl : Option Int
  anchorSymbol : Option String
  anchorSymbolKind : Option Int
  anchorSymbolRange : Option String
  anchorOffset : Option Int
  anchorFingerprint : Option String
  anchorContextBefore : Option String
  anchorSourceLine : Option String
  anchorContextAfter : Option String
  anchorLastVerified : Option Int
  anchorOriginalLocation : Option String
  anchorStatus : Option String

/-- A metric with the time of its creation. -/
structure DatedMetric extends Metric where
  createdAt : Option Int

section Rows

variable (json : JsonText)

/-- The row that `metric_insert_query` inserts. -/
def insertRow (id : MetricId) (now : Int) (m : Metric) : Row where
  id := id
  name := m.name
  connectionId := m.connectionId
  groupName := m.group
  location := m.location.toStringFormat
  expressionsJson := json.write (.array (m.expressions.map .string))
  language := languageName m.language
  enabled := m.enabled
  modeType := modeToString m.mode
  modeConfig := modeConfigToJson json m.mode
  conditionExpr := m.condition
  safetyLevel := safetyName m.safetyLevel
  createdAt := now
  userId := some (ownerColumn m.userId)
  agentId := m.agentId
  captureStackTrace := m.captureStackTrace
  stackTraceTtl := m.stackTraceTtl.map asI64
  stackTraceSlice := m.stackTraceSlice.map fun slice => json.write (sliceToJson slice)
  captureMemorySnapshot := m.captureMemorySnapshot
  snapshotScope := m.snapshotScope.map scopeName
  snapshotTtl := m.snapshotTtl.map asI64
  anchorSymbol := m.anchor.bind (·.enclosingSymbol)
  anchorSymbolKind := (m.anchor.bind (·.symbolKind)).map Nat.cast
  anchorSymbolRange := (m.anchor.bind (·.symbolRange)).map rangeText
  anchorOffset := (m.anchor.bind (·.offsetInSymbol)).map Nat.cast
  anchorFingerprint := m.anchor.bind (·.contextFingerprint)
  anchorContextBefore := m.anchor.bind (·.contextBefore)
  anchorSourceLine := m.anchor.bind (·.sourceLine)
  anchorContextAfter := m.anchor.bind (·.contextAfter)
  anchorLastVerified := m.anchor.bind (·.lastVerifiedAt)
  anchorOriginalLocation := m.anchor.bind (·.originalLocation)
  anchorStatus := some (statusName m.anchorStatus)

/-- The columns that the statement of `update` sets. -/
def updateRow (m : Metric) (row : Row) : Row :=
  { row with
    name := m.name
    groupName := m.group
    location := m.location.toStringFormat
    expressionsJson := json.write (.array (m.expressions.map .string))
    language := languageName m.language
    enabled := m.enabled
    modeType := modeToString m.mode
    modeConfig := modeConfigToJson json m.mode
    conditionExpr := m.condition
    safetyLevel := safetyName m.safetyLevel
    anchorSymbol := m.anchor.bind (·.enclosingSymbol)
    anchorSymbolKind := (m.anchor.bind (·.symbolKind)).map Nat.cast
    anchorSymbolRange := (m.anchor.bind (·.symbolRange)).map rangeText
    anchorOffset := (m.anchor.bind (·.offsetInSymbol)).map Nat.cast
    anchorFingerprint := m.anchor.bind (·.contextFingerprint)
    anchorContextBefore := m.anchor.bind (·.contextBefore)
    anchorSourceLine := m.anchor.bind (·.sourceLine)
    anchorContextAfter := m.anchor.bind (·.contextAfter)
    anchorLastVerified := m.anchor.bind (·.lastVerifiedAt)
    anchorOriginalLocation := m.anchor.bind (·.originalLocation)
    anchorStatus := some (statusName m.anchorStatus) }

/-- The columns that the insertion sets in a row of the same slot: not the owner and the agent. -/
def upsertRow (excluded row : Row) : Row :=
  { excluded with
    id := row.id
    connectionId := row.connectionId
    location := row.location
    createdAt := row.createdAt
    userId := row.userId
    agentId := row.agentId }

def readExpressions (name text : String) : Except ServiceError (List String) :=
  let failed (e : String) : ServiceError :=
    .database ("Failed to parse expressions_json for metric " ++ name ++ ": " ++ e)
  match json.read text with
  | .error e => .error (failed e)
  | .ok document =>
    match document.strings with
    | none => .error (failed json.mismatch)
    | some expressions => .ok expressions

/-- The anchor of a row, if one of four columns has a value. -/
def rowAnchor (row : Row) : Option MetricAnchor :=
  if row.anchorSymbol.isSome || row.anchorFingerprint.isSome || row.anchorContextBefore.isSome ||
      row.anchorSourceLine.isSome then
    some {
      enclosingSymbol := row.anchorSymbol
      symbolKind := row.anchorSymbolKind.map asU32
      symbolRange := row.anchorSymbolRange.bind parseRange
      offsetInSymbol := row.anchorOffset.map asU32
      contextFingerprint := row.anchorFingerprint
      contextBefore := row.anchorContextBefore
      sourceLine := row.anchorSourceLine
      contextAfter := row.anchorContextAfter
      lastVerifiedAt := row.anchorLastVerified
      originalLocation := row.anchorOriginalLocation }
  else none

def rowToMetric (row : Row) : Except ServiceError DatedMetric := do
  let expressions ← readExpressions json row.name row.expressionsJson
  let location ← Location.parse row.location
  let mode ← stringToMode json row.modeType row.modeConfig
  let language ← parseLanguage ("in database for metric " ++ toString row.id) row.language
  return {
    id := some row.id
    name := row.name
    connectionId := row.connectionId
    group := row.groupName
    location
    expressions
    language
    enabled := row.enabled
    mode
    condition := row.conditionExpr
    safetyLevel := safetyOf row.safetyLevel
    userId := readOwner row.userId
    agentId := row.agentId
    captureStackTrace := row.captureStackTrace
    stackTraceTtl := row.stackTraceTtl.map asU64
    stackTraceSlice := row.stackTraceSlice.bind (readSlice json)
    captureMemorySnapshot := row.captureMemorySnapshot
    snapshotScope := row.snapshotScope.bind scopeOf
    snapshotTtl := row.snapshotTtl.map asU64
    anchor := rowAnchor row
    anchorStatus := (row.anchorStatus.bind statusOf).getD .unanchored
    createdAt := some row.createdAt }

end Rows

/-! ### What is read back -/

/-- The numbers of an anchor fit into 32 bits. -/
structure AnchorFits (anchor : MetricAnchor) : Prop where
  symbolKind : ∀ n ∈ anchor.symbolKind, n < UInt32.size
  symbolRange : ∀ range ∈ anchor.symbolRange, range.1 < UInt32.size ∧ range.2 < UInt32.size
  offsetInSymbol : ∀ n ∈ anchor.offsetInSymbol, n < UInt32.size

/-- **The numbers of a metric are numbers of their machine types.** -/
structure Fits (m : Metric) : Prop where
  line : m.location.line < UInt32.size
  mode : ModeFits m.mode
  stackTraceTtl : ∀ n ∈ m.stackTraceTtl, n < UInt64.size
  stackTraceSlice : ∀ slice ∈ m.stackTraceSlice, SliceFits slice
  snapshotTtl : ∀ n ∈ m.snapshotTtl, n < UInt64.size
  anchor : ∀ anchor ∈ m.anchor, AnchorFits anchor

variable (json : JsonText) {m : Metric}

theorem readExpressions_write (name : String) (exprs : List String) :
    readExpressions json name (json.write (.array (exprs.map .string))) = .ok exprs := by
  unfold readExpressions
  rw [json.read_write]
  dsimp only
  rw [Json.strings_array]

/-- An anchor is read back, or dropped as a whole. -/
theorem rowAnchor_updateRow (fits : ∀ anchor ∈ m.anchor, AnchorFits anchor) (row : Row) :
    rowAnchor (updateRow json m row) = readAnchor m.anchor := by
  cases isAnchor : m.anchor with
  | none => simp [rowAnchor, updateRow, isAnchor, readAnchor]
  | some anchor =>
    have fits := fits anchor isAnchor
    have kind : (anchor.symbolKind.map Nat.cast).map asU32 = anchor.symbolKind :=
      map_map_eq fun n mem => asU32_natCast (fits.symbolKind n mem)
    have offset : (anchor.offsetInSymbol.map Nat.cast).map asU32 = anchor.offsetInSymbol :=
      map_map_eq fun n mem => asU32_natCast (fits.offsetInSymbol n mem)
    have range : (anchor.symbolRange.map rangeText).bind parseRange = anchor.symbolRange := by
      cases isRange : anchor.symbolRange with
      | none => rfl
      | some range =>
        obtain ⟨start, stop⟩ := fits.symbolRange range isRange
        exact parseRange_rangeText start stop
    unfold rowAnchor updateRow readAnchor
    rw [isAnchor, Option.filter_some]
    simp only [Option.bind_some, kind, offset, range]

/-- **What is read from a row that was updated**: the written columns as they were given but for the
anchor, and the others as they stood. -/
theorem rowToMetric_updateRow (fits : Fits m) (named : m.location.file ≠ "") (row : Row) :
    rowToMetric json (updateRow json m row) = .ok {
      m with
      id := some row.id
      connectionId := row.connectionId
      userId := readOwner row.userId
      agentId := row.agentId
      captureStackTrace := row.captureStackTrace
      stackTraceTtl := row.stackTraceTtl.map asU64
      stackTraceSlice := row.stackTraceSlice.bind (readSlice json)
      captureMemorySnapshot := row.captureMemorySnapshot
      snapshotScope := row.snapshotScope.bind scopeOf
      snapshotTtl := row.snapshotTtl.map asU64
      anchor := readAnchor m.anchor
      createdAt := some row.createdAt } := by
  have anchor := rowAnchor_updateRow json fits.anchor row
  have exprs := readExpressions_write json m.name m.expressions
  have mode := stringToMode_modeToString json fits.mode
  have lang := parseLanguage_languageName ("in database for metric " ++ toString row.id) m.language
  unfold rowToMetric
  rw [anchor]
  simp only [updateRow, exprs, Location.parse_toStringFormat named fits.line, mode, lang,
    Option.bind_some, statusOf_statusName, Option.getD_some, safetyOf_safetyName]
  rfl

theorem readOwner_ownerColumn (userId : Option String) :
    readOwner (some (ownerColumn userId)) = readOwner userId := by
  cases userId with
  | none => simp [ownerColumn, readOwner]
  | some id => rfl

/-- **What is read from a row that was inserted.** -/
theorem rowToMetric_insertRow (fits : Fits m) (named : m.location.file ≠ "") (id : MetricId)
    (now : Int) : rowToMetric json (insertRow json id now m) =
      .ok { storedAs id m with createdAt := some now } := by
  -- an insertion writes all that an update writes
  have put : insertRow json id now m = updateRow json m (insertRow json id now m) := rfl
  have stackTraceTtl := map_map_eq fun n mem => asU64_asI64 (fits.stackTraceTtl n mem)
  have snapshotTtl := map_map_eq fun n mem => asU64_asI64 (fits.snapshotTtl n mem)
  have slice := bind_readSlice json fits.stackTraceSlice
  rw [put, rowToMetric_updateRow json fits named]
  simp only [insertRow, stackTraceTtl, snapshotTtl, slice, bind_scopeOf, readOwner_ownerColumn,
    storedAs]

variable {json}

/-! ### The table -/

/-- Two rows with the same columns of the unique index; an owner that is NULL is like no other. -/
def Row.clashes (a b : Row) : Bool :=
  a.location = b.location && a.connectionId = b.connectionId && a.userId = b.userId && a.userId.isSome

structure Table where
  rows : List Row
  nextId : MetricId
  numbered : ∀ row ∈ rows, row.id < nextId

variable {id : MetricId} {now : Int} {saved updated : Table}

namespace Table

def empty : Table := ⟨[], 1, by simp⟩

def uniqueFailed : ServiceError :=
  .database "UNIQUE constraint failed: metrics.location, metrics.connection_id, metrics.user_id"

/-- Change every row, but not its number. -/
def mapRows (table : Table) (change : Row → Row) (sameId : ∀ row, (change row).id = row.id) : Table where
  rows := table.rows.map change
  nextId := table.nextId
  numbered := by
    intro row inside
    obtain ⟨old, present, rfl⟩ := mem_map.mp inside
    rw [sameId]
    exact table.numbered old present

def insert (table : Table) (row : Row) (isNext : row.id = table.nextId) : Table where
  rows := table.rows ++ [row]
  nextId := table.nextId + 1
  numbered := by
    intro other inside
    rcases mem_append.mp inside with old | new
    · exact Nat.lt_succ_of_lt (table.numbered other old)
    · rw [mem_singleton.mp new, isNext]
      exact Nat.lt_succ_self _

def changeRow (id : MetricId) (change : Row → Row) (row : Row) : Row :=
  if row.id = id then change row else row

theorem changeRow_id {change : Row → Row} (sameId : ∀ row, (change row).id = row.id) (row : Row) :
    (changeRow id change row).id = row.id := by
  unfold changeRow
  split
  · exact sameId row
  · rfl

variable (json : JsonText) (table : Table)

def saveWithOptions (now : Int) (m : Metric) (upsert : Bool) : Except ServiceError (MetricId × Table) :=
  let row := insertRow json table.nextId now m
  match table.rows.find? (·.clashes row) with
  | none => .ok (table.nextId, table.insert row rfl)
  | some old =>
    if upsert then
      .ok (old.id, table.mapRows (changeRow old.id (upsertRow row)) (changeRow_id fun _ => rfl))
    else .error uniqueFailed

def save (now : Int) (m : Metric) : Except ServiceError (MetricId × Table) :=
  saveWithOptions json table now m false

/-- An update would give a row the slot of another one. -/
def conflicts (id : MetricId) (m : Metric) : Bool :=
  table.rows.any fun row => row.id = id &&
    table.rows.any fun other => other.id ≠ id && other.clashes (updateRow json m row)

def update (m : Metric) : Except ServiceError Table :=
  match m.id with
  | none => .error (.invalidConfig "Metric must have ID to update")
  | some id =>
    if table.conflicts json id m then .error uniqueFailed
    else if table.rows.any (·.id = id) then
      .ok (table.mapRows (changeRow id (updateRow json m)) (changeRow_id fun _ => rfl))
    else .error (.metricNotFound (toString id))

def findById (id : MetricId) : Except ServiceError (Option DatedMetric) :=
  match table.rows.find? (·.id = id) with
  | none => .ok none
  | some row => (rowToMetric json row).map some

variable {json table}

theorem save_eq_ok (done : table.save json now m = .ok (id, saved)) :
    id = table.nextId ∧ saved.rows = table.rows ++ [insertRow json table.nextId now m] := by
  unfold save saveWithOptions at done
  dsimp only at done
  split at done
  · rw [Except.ok.injEq, Prod.mk.injEq] at done
    exact ⟨done.1.symm, by rw [← done.2]; rfl⟩
  · cases done

theorem update_eq_ok (done : table.update json m = .ok updated) :
    ∃ id, m.id = some id ∧ updated.rows = table.rows.map (changeRow id (updateRow json m)) := by
  unfold update at done
  split at done
  · cases done
  next id isId =>
    split at done
    · cases done
    · split at done
      · rw [Except.ok.injEq] at done
        exact ⟨id, isId, by rw [← done]; rfl⟩
      · cases done

theorem findById_save (done : table.save json now m = .ok (id, saved)) :
    saved.findById json id = (rowToMetric json (insertRow json id now m)).map some := by
  obtain ⟨rfl, rows⟩ := save_eq_ok done
  have older : table.rows.find? (·.id = table.nextId) = none := by
    rw [find?_eq_none]
    intro row mem
    simpa using Nat.ne_of_lt (table.numbered row mem)
  have found : saved.rows.find? (·.id = table.nextId) = some (insertRow json table.nextId now m) := by
    rw [rows, find?_append, older]
    simp [insertRow]
  unfold findById
  rw [found]

/-- The row that is found after an update is the one that was found before, changed. -/
theorem find?_update (isId : m.id = some id) (done : table.update json m = .ok updated) :
    updated.rows.find? (·.id = id) =
      (table.rows.find? (·.id = id)).map (updateRow json m) := by
  obtain ⟨other, ne, rows⟩ := update_eq_ok done
  cases isId.symm.trans ne
  have sameTest : (fun row : Row => decide (row.id = id)) ∘ changeRow id (updateRow json m) =
      fun row => decide (row.id = id) := by
    funext row
    show decide ((changeRow id (updateRow json m) row).id = id) = _
    have sameId : ∀ row, (updateRow json m row).id = row.id := fun _ => rfl
    rw [changeRow_id sameId]
  rw [rows, find?_map, sameTest]
  cases found : table.rows.find? (·.id = id) with
  | none => rfl
  | some row =>
    have isRow : row.id = id := by simpa using find?_some found
    exact congrArg some (if_pos isRow)

end Table

/-! ### The round trip -/

/-- **An anchor that is kept**: it names a symbol or has a fingerprint, a line or the lines before. -/
def AnchorKept (m : Metric) : Prop :=
  ∀ anchor, m.anchor = some anchor → anchor.enclosingSymbol ≠ none ∨
    anchor.contextFingerprint ≠ none ∨ anchor.contextBefore ≠ none ∨ anchor.sourceLine ≠ none

theorem readAnchor_eq_iff : readAnchor m.anchor = m.anchor ↔ AnchorKept m := by
  unfold AnchorKept readAnchor
  cases m.anchor with
  | none => simp
  | some anchor =>
    simp only [Option.filter_some, Option.some.injEq, forall_eq']
    simp [Option.isSome_iff_ne_none, or_assoc, imp_iff_not_or]

/-- **The same capture options.** -/
structure SameOptions (a b : Metric) : Prop where
  captureStackTrace : a.captureStackTrace = b.captureStackTrace
  stackTraceTtl : a.stackTraceTtl = b.stackTraceTtl
  stackTraceSlice : a.stackTraceSlice = b.stackTraceSlice
  captureMemorySnapshot : a.captureMemorySnapshot = b.captureMemorySnapshot
  snapshotScope : a.snapshotScope = b.snapshotScope
  snapshotTtl : a.snapshotTtl = b.snapshotTtl

/-- What is read from a row before and after an update. -/
theorem rowToMetric_updated {row : Row} {stored : DatedMetric} (read : rowToMetric json row = .ok stored)
    (fits : Fits m) (named : m.location.file ≠ "") :
    rowToMetric json (updateRow json m row) = .ok {
      m with
      id := some row.id
      connectionId := stored.connectionId
      userId := stored.userId
      agentId := stored.agentId
      captureStackTrace := stored.captureStackTrace
      stackTraceTtl := stored.stackTraceTtl
      stackTraceSlice := stored.stackTraceSlice
      captureMemorySnapshot := stored.captureMemorySnapshot
      snapshotScope := stored.snapshotScope
      snapshotTtl := stored.snapshotTtl
      anchor := readAnchor m.anchor
      createdAt := stored.createdAt } := by
  obtain ⟨exprs, -, read⟩ := except_bind_eq_ok.mp read
  obtain ⟨loc, -, read⟩ := except_bind_eq_ok.mp read
  obtain ⟨mode, -, read⟩ := except_bind_eq_ok.mp read
  obtain ⟨lang, -, read⟩ := except_bind_eq_ok.mp read
  cases read
  exact rowToMetric_updateRow json fits named row

/-- A metric that was saved is read back up to its anchor. -/
theorem findById_save_iff {table : Table} {m : DatedMetric} (fits : Fits m.toMetric)
    (named : m.location.file ≠ "") (done : table.save json now m.toMetric = .ok (id, saved)) :
    saved.findById json id =
        .ok (some { m with id := some id, userId := readOwner m.userId, createdAt := some now }) ↔
      AnchorKept m.toMetric := by
  rw [Table.findById_save done, rowToMetric_insertRow json fits named, ← readAnchor_eq_iff]
  simp [Except.map, storedAs]

/-- A metric that was updated is read back up to its anchor and the capture options. -/
theorem findById_update_iff {table : Table} {m stored : DatedMetric} (fits : Fits m.toMetric)
    (named : m.location.file ≠ "") (isId : m.id = some id)
    (before : table.findById json id = .ok (some stored))
    (done : table.update json m.toMetric = .ok updated) :
    updated.findById json id = .ok (some { m with
        connectionId := stored.connectionId
        userId := stored.userId
        agentId := stored.agentId
        createdAt := stored.createdAt }) ↔
      AnchorKept m.toMetric ∧ SameOptions stored.toMetric m.toMetric := by
  have found := Table.find?_update isId done
  unfold Table.findById at before ⊢
  cases isRow : table.rows.find? (·.id = id) with
  | none =>
    rw [isRow] at before
    cases before
  | some row =>
    have sameId : row.id = id := by simpa using find?_some isRow
    rw [isRow] at before found
    have read : rowToMetric json row = .ok stored := by
      have mapped : (rowToMetric json row).map some = .ok (some stored) := before
      cases result : rowToMetric json row with
      | error e => exact absurd mapped (by simp [result, Except.map])
      | ok metric => simpa [result, Except.map] using mapped
    rw [found, Option.map_some]
    dsimp only
    rw [rowToMetric_updated read fits named, ← readAnchor_eq_iff, sameId, ← isId]
    constructor
    · intro same
      simp only [Except.map, Except.ok.injEq, Option.some.injEq, DatedMetric.mk.injEq,
        Metric.mk.injEq] at same
      obtain ⟨⟨-, -, -, -, -, -, -, -, -, -, -, -, -, one, two, three, four, five, six, anchor, -⟩, -⟩ :=
        same
      exact ⟨anchor, one, two, three, four, five, six⟩
    · rintro ⟨anchor, one, two, three, four, five, six⟩
      rw [anchor, one, two, three, four, five, six]
      rfl

variable (json : JsonText)

/-- **The round trip of a metric through the table.** A metric of a named file that was saved is read
back as it was, under its number and the time of saving, exactly if its anchor is kept; and one that
was updated exactly if, besides, its capture options are those that were stored. -/
theorem storage_round_trip_iff (json : JsonText) (table : Table) (m : DatedMetric)
    (fits : Fits m.toMetric) (named : m.location.file ≠ "") :
    (∀ now id saved, table.save json now m.toMetric = .ok (id, saved) →
      (saved.findById json id =
          .ok (some { m with id := some id, userId := readOwner m.userId, createdAt := some now }) ↔
        AnchorKept m.toMetric)) ∧
      ∀ id stored updated, m.id = some id → table.findById json id = .ok (some stored) →
        table.update json m.toMetric = .ok updated →
          (updated.findById json id = .ok (some { m with
              connectionId := stored.connectionId
              userId := stored.userId
              agentId := stored.agentId
              createdAt := stored.createdAt }) ↔
            AnchorKept m.toMetric ∧ SameOptions stored.toMetric m.toMetric) :=
  ⟨fun _ _ _ done => findById_save_iff fits named done,
    fun _ _ _ isId before done => findById_update_iff fits named isId before done⟩

/-- A metric with nothing but a name, a line and an expression. -/
def plainMetric : DatedMetric where
  id := some 1
  name := "m"
  connectionId := "c"
  location := ⟨"a.py", 1⟩
  expressions := ["x"]
  language := .python
  createdAt := some 7

/-- The anchor that is captured while the tracking of anchors is switched off. -/
def emptyAnchor : MetricAnchor := ⟨none, none, none, none, none, none, none, none, none, none⟩

theorem fits_plain (anchor : Option MetricAnchor) (captureStackTrace : Bool)
    (fits : ∀ a ∈ anchor, AnchorFits a) :
    Fits { plainMetric.toMetric with anchor, captureStackTrace } :=
  ⟨(by decide : 1 < UInt32.size), trivial, by simp [plainMetric], by simp [plainMetric],
    by simp [plainMetric], fits⟩

def plainTable (json : JsonText) : Table :=
  Table.empty.insert (insertRow json 1 7 plainMetric.toMetric) rfl

theorem rows_plain : (plainTable json).rows = [insertRow json 1 7 plainMetric.toMetric] := rfl

theorem findById_plain : (plainTable json).findById json 1 = .ok (some plainMetric) := by
  have read := rowToMetric_insertRow json (fits_plain none false (by simp)) (by decide) 1 7
  exact congrArg (Except.map some) read

theorem update_plain {m : Metric} (isId : m.id = some 1) :
    ∃ updated, (plainTable json).update json m = .ok updated ∧ updated.findById json 1 =
      (rowToMetric json (updateRow json m (insertRow json 1 7 plainMetric.toMetric))).map some := by
  have done : ∃ updated, (plainTable json).update json m = .ok updated := by
    unfold Table.update
    rw [isId]
    exact ⟨_, rfl⟩
  obtain ⟨updated, done⟩ := done
  refine ⟨updated, done, ?_⟩
  have found := Table.find?_update isId done
  rw [rows_plain, find?_cons_of_pos (by rfl), Option.map_some] at found
  unfold Table.findById
  rw [found]

theorem storage_round_trip_plain :
    ((plainTable .unary).findById .unary 1 = .ok (some plainMetric) ∧
      ∃ updated, (plainTable .unary).update .unary plainMetric.toMetric = .ok updated ∧
        updated.findById .unary 1 = .ok (some plainMetric)) := by
  obtain ⟨updated, done, -⟩ := update_plain .unary (m := plainMetric.toMetric) rfl
  refine ⟨findById_plain .unary, updated, done, ?_⟩
  have both := storage_round_trip_iff .unary (plainTable .unary) plainMetric
    (fits_plain none false (by simp)) (by decide)
  exact (both.2 1 plainMetric updated rfl (findById_plain .unary) done).mpr
    ⟨by simp [AnchorKept, plainMetric], rfl, rfl, rfl, rfl, rfl, rfl⟩

/-- What an update does not write and what a row without the four columns does not give back. -/
theorem drops_options_and_anchor : (∃ updated, (plainTable json).update json
        { plainMetric.toMetric with captureStackTrace := true } = .ok updated ∧
      updated.findById json 1 = .ok (some plainMetric)) ∧
      ∃ saved, Table.empty.save json 7
          { plainMetric.toMetric with anchor := some emptyAnchor } = .ok (1, saved) ∧
        saved.findById json 1 = .ok (some plainMetric) := by
  constructor
  · obtain ⟨updated, done, found⟩ := update_plain json
      (m := { plainMetric.toMetric with captureStackTrace := true }) rfl
    refine ⟨updated, done, found.trans ?_⟩
    have read := rowToMetric_updateRow json (fits_plain none true (by simp)) (by decide)
      (insertRow json 1 7 plainMetric.toMetric)
    exact congrArg (Except.map some) read
  · have empty : AnchorFits emptyAnchor :=
      ⟨by simp [emptyAnchor], by simp [emptyAnchor], by simp [emptyAnchor]⟩
    have read := rowToMetric_insertRow json
      (fits_plain (some emptyAnchor) false fun a isAnchor => Option.some.inj isAnchor ▸ empty)
      (by decide) 1 7
    have done : ∃ saved, Table.empty.save json 7
        { plainMetric.toMetric with anchor := some emptyAnchor } = .ok (1, saved) := by
      exact ⟨_, rfl⟩
    obtain ⟨saved, done⟩ := done
    exact ⟨saved, done, (Table.findById_save done).trans (congrArg (Except.map some) read)⟩

/-- **An update that asks for stack traces does not get them, and an empty anchor is lost.** -/
theorem update_drops_capture_options :
    (∃ updated, (plainTable .unary).update .unary
        { plainMetric.toMetric with captureStackTrace := true } = .ok updated ∧
      updated.findById .unary 1 = .ok (some plainMetric)) ∧
      ∃ saved, Table.empty.save .unary 7
          { plainMetric.toMetric with anchor := some emptyAnchor } = .ok (1, saved) ∧
        saved.findById .unary 1 = .ok (some plainMetric) :=
  drops_options_and_anchor .unary

end Detrix.Storage
