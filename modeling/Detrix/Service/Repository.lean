/-
**The repository of metrics.**

The rows of the table in the order of their insertion. The ids are given out in turn, so they grow
and stay below the next one; a unique index keeps one metric for each location, connection and
owner. An anchor is read back only if one of four columns has a value. These facts are fields of the
repository. An update writes some columns only: the connection, the owner and the capture options of
a row stay as they were saved.
-/

import Detrix.Core.Metric
import Mathlib.Data.List.Nodup

namespace Detrix.Service

open Detrix.Core List Bool

/-! ### Rows -/

/-- The owner under which a metric without a user is stored. -/
def systemUserId : String := "__system__"

def ownerColumn (userId : Option String) : String := userId.getD systemUserId

/-- The owner as it is read back. -/
def readOwner (userId : Option String) : Option String :=
  if userId = some systemUserId then none else userId

theorem ownerColumn_readOwner (userId : Option String) :
    ownerColumn (readOwner userId) = ownerColumn userId := by
  unfold readOwner
  split
  next system => rw [system]; rfl
  next => rfl

/-- The columns of the unique index. -/
def slot (m : Metric) : Location × ConnectionId × String :=
  (m.location, m.connectionId, ownerColumn m.userId)

/-- The anchor as it is read back: there is one if it names a symbol, or has a fingerprint, a line
or the lines before it. -/
def readAnchor (anchor : Option MetricAnchor) : Option MetricAnchor :=
  anchor.filter fun a => a.enclosingSymbol.isSome || a.contextFingerprint.isSome ||
    a.contextBefore.isSome || a.sourceLine.isSome

@[simp] theorem readAnchor_readAnchor (anchor : Option MetricAnchor) :
    readAnchor (readAnchor anchor) = readAnchor anchor := by
  rw [readAnchor, readAnchor, Option.filter_filter]
  simp

def storedAs (id : MetricId) (m : Metric) : Metric :=
  { m with id := some id, userId := readOwner m.userId, anchor := readAnchor m.anchor }

/-- The columns that an update writes. -/
def writeColumns (row m : Metric) : Metric :=
  { row with
    name := m.name
    group := m.group
    location := m.location
    expressions := m.expressions
    language := m.language
    enabled := m.enabled
    mode := m.mode
    condition := m.condition
    safetyLevel := m.safetyLevel
    anchor := readAnchor m.anchor
    anchorStatus := m.anchorStatus }

variable {row m : Metric}

/-- With an anchor that is read back, an update that keeps the other columns writes what it was
given. -/
theorem writeColumns_eq (readable : readAnchor m.anchor = m.anchor)
    (others : { writeColumns row m with anchor := m.anchor } = m) : writeColumns row m = m :=
  calc writeColumns row m = { writeColumns row m with anchor := m.anchor } := by
        simp [writeColumns, readable]
    _ = m := others

/-! ### The table -/

def rowId (row : Metric) : MetricId := row.id.getD 0

structure Repository where
  rows : List Metric
  nextId : MetricId
  numbered : ∀ row ∈ rows, ∃ id, row.id = some id ∧ id < nextId
  ordered : rows.Pairwise fun a b => rowId a < rowId b
  unique : (rows.map slot).Nodup
  readable : ∀ row ∈ rows, readAnchor row.anchor = row.anchor

namespace Repository

def empty : Repository := ⟨[], 1, by simp, by simp, by simp, by simp⟩

variable (repo : Repository)

theorem distinct : (repo.rows.map (·.id)).Nodup := by
  rw [List.Nodup, pairwise_map]
  refine repo.ordered.imp fun {a b} below same => ?_
  rw [rowId, rowId, same] at below
  exact Nat.lt_irrefl _ below

variable {id : MetricId} {after : Repository} {a b : Metric} {c : ConnectionId}

theorem eq_of_id (left : a ∈ repo.rows) (right : b ∈ repo.rows) (same : a.id = b.id) : a = b :=
  inj_on_of_nodup_map repo.distinct left right same

theorem eq_of_rowId (left : a ∈ repo.rows) (right : b ∈ repo.rows) (same : rowId a = rowId b) :
    a = b := by
  obtain ⟨one, isOne, -⟩ := repo.numbered a left
  obtain ⟨two, isTwo, -⟩ := repo.numbered b right
  rw [rowId, rowId, isOne, isTwo] at same
  exact repo.eq_of_id left right (by rw [isOne, isTwo]; exact congrArg some same)

theorem slot_eq_of_slot (left : a ∈ repo.rows) (right : b ∈ repo.rows) (same : slot a = slot b) :
    a = b :=
  inj_on_of_nodup_map repo.unique left right same

theorem rows_nodup : repo.rows.Nodup := repo.distinct.of_map

/-! ### Writing -/

/-- `save`: a plain insertion. -/
def save (m : Metric) : Except ServiceError (MetricId × Repository) :=
  if taken : slot m ∈ repo.rows.map slot then
    .error (.database
      "UNIQUE constraint failed: metrics.location, metrics.connection_id, metrics.user_id")
  else
    .ok (repo.nextId, {
      rows := repo.rows ++ [storedAs repo.nextId m]
      nextId := repo.nextId + 1
      numbered := by
        intro row inside
        rcases mem_append.mp inside with old | new
        · obtain ⟨id, isId, below⟩ := repo.numbered row old
          exact ⟨id, isId, Nat.lt_succ_of_lt below⟩
        · rw [mem_singleton.mp new]
          exact ⟨repo.nextId, rfl, Nat.lt_succ_self _⟩
      ordered := by
        rw [pairwise_append]
        refine ⟨repo.ordered, pairwise_singleton _ _, fun row old added new => ?_⟩
        obtain ⟨id, isId, below⟩ := repo.numbered row old
        rw [mem_singleton.mp new, rowId, rowId, isId]
        exact below
      unique := by
        have sameSlot : slot (storedAs repo.nextId m) = slot m := by
          simp only [slot, storedAs, ownerColumn_readOwner]
        rw [map_append, nodup_append]
        refine ⟨repo.unique, nodup_singleton _, fun a old b new same => ?_⟩
        rw [map_singleton, mem_singleton, sameSlot] at new
        exact taken (new ▸ same ▸ old)
      readable := by
        intro row inside
        rcases mem_append.mp inside with old | new
        · exact repo.readable row old
        · rw [mem_singleton.mp new]
          exact readAnchor_readAnchor m.anchor })

/-- The row with an id, with the columns of an update. -/
def rewrite (id : MetricId) (m row : Metric) : Metric :=
  if row.id = some id then writeColumns row m else row

theorem rewrite_id (id : MetricId) (m row : Metric) : (rewrite id m row).id = row.id := by
  unfold rewrite
  split <;> rfl

def conflicts (id : MetricId) (m : Metric) : Bool :=
  repo.rows.any fun row => row.id = some id &&
    repo.rows.any fun other => other.id ≠ some id && slot other = slot (writeColumns row m)

theorem rewrite_unique (free : repo.conflicts id m = false) :
    ((repo.rows.map (rewrite id m)).map slot).Nodup := by
  have apart : ∀ row ∈ repo.rows, ∀ other ∈ repo.rows, row.id = some id → other.id ≠ some id →
      slot other ≠ slot (writeColumns row m) := by
    intro row inside other has isRow ne same
    have clash : repo.conflicts id m = true := by
      simp only [conflicts, any_eq_true, and_eq_true, decide_eq_true_eq]
      exact ⟨row, inside, isRow, other, has, ne, same⟩
    rw [free] at clash
    exact false_ne_true clash
  rw [map_map, nodup_map_iff_inj_on repo.rows_nodup]
  intro a left b right same
  simp only [Function.comp_apply, rewrite] at same
  split at same <;> split at same
  next isA isB => exact repo.eq_of_id left right (isA.trans isB.symm)
  next isA isB => exact absurd same.symm (apart a left b right isA isB)
  next isA isB => exact absurd same (apart b right a left isB isA)
  next => exact repo.slot_eq_of_slot left right same

def update (m : Metric) : Except ServiceError Repository :=
  match m.id with
  | none => .error (.invalidConfig "Metric must have ID to update")
  | some id =>
    if free : repo.conflicts id m = false then
      if repo.rows.any (·.id = some id) then
        .ok {
          rows := repo.rows.map (rewrite id m)
          nextId := repo.nextId
          numbered := by
            intro row inside
            obtain ⟨old, present, rfl⟩ := mem_map.mp inside
            rw [rewrite_id]
            exact repo.numbered old present
          ordered := by
            rw [pairwise_map]
            refine repo.ordered.imp fun {a b} below => ?_
            rw [rowId, rowId, rewrite_id, rewrite_id]
            exact below
          unique := repo.rewrite_unique free
          readable := by
            intro row inside
            obtain ⟨old, present, rfl⟩ := mem_map.mp inside
            unfold rewrite
            split
            · exact readAnchor_readAnchor m.anchor
            · exact repo.readable old present }
      else .error (.metricNotFound (toString id))
    else .error (.database
      "UNIQUE constraint failed: metrics.location, metrics.connection_id, metrics.user_id")

def delete (id : MetricId) : Except ServiceError Repository :=
  if repo.rows.any (·.id = some id) then
    .ok {
      rows := repo.rows.filter (·.id ≠ some id)
      nextId := repo.nextId
      numbered := fun row inside => repo.numbered row (mem_filter.mp inside).1
      ordered := repo.ordered.filter _
      unique := repo.unique.sublist (filter_sublist.map _)
      readable := fun row inside => repo.readable row (mem_filter.mp inside).1 }
  else .error (.metricNotFound (toString id))

def movedTo (connectionId : ConnectionId) (row : Metric) : Metric := { row with connectionId }

/-- The row belongs to the connection `source`, and its slot under `target` is free. -/
def migrates (source target : ConnectionId) (row : Metric) : Bool :=
  row.connectionId = source && !repo.rows.any fun other => slot other = slot (movedTo target row)

/-- The row as the migration leaves it: a row whose slot is taken is skipped. -/
def migrated (source target : ConnectionId) (row : Metric) : Metric :=
  if repo.migrates source target row then movedTo target row else row

theorem migrated_id (source target : ConnectionId) (row : Metric) :
    (repo.migrated source target row).id = row.id := by
  unfold migrated
  split <;> rfl

theorem migrated_unique (source target : ConnectionId) :
    ((repo.rows.map (repo.migrated source target)).map slot).Nodup := by
  have apart : ∀ row, ∀ other ∈ repo.rows, repo.migrates source target row = true →
      slot other ≠ slot (movedTo target row) := by
    intro row other inside moves same
    simp only [migrates, and_eq_true, not_eq_true', any_eq_false, decide_eq_true_eq] at moves
    exact moves.2 other inside same
  have source_of : ∀ row, repo.migrates source target row = true → row.connectionId = source := by
    intro row moves
    simp only [migrates, and_eq_true, decide_eq_true_eq] at moves
    exact moves.1
  rw [map_map, nodup_map_iff_inj_on repo.rows_nodup]
  intro a left b right same
  simp only [Function.comp_apply, migrated] at same
  split at same <;> split at same
  next movesA movesB =>
    refine repo.slot_eq_of_slot left right ?_
    simp only [slot, movedTo, Prod.mk.injEq] at same ⊢
    exact ⟨same.1, (source_of a movesA).trans (source_of b movesB).symm, same.2.2⟩
  next movesA _ => exact absurd same.symm (apart a b right movesA)
  next _ movesB => exact absurd same (apart b a left movesB)
  next => exact repo.slot_eq_of_slot left right same

/-- `migrate_connection_id`: `UPDATE OR IGNORE`. -/
def migrateConnectionId (source target : ConnectionId) : Repository where
  rows := repo.rows.map (repo.migrated source target)
  nextId := repo.nextId
  numbered := by
    intro row inside
    obtain ⟨old, present, rfl⟩ := mem_map.mp inside
    rw [migrated_id]
    exact repo.numbered old present
  ordered := by
    rw [pairwise_map]
    refine repo.ordered.imp fun {a b} below => ?_
    rw [rowId, rowId, migrated_id, migrated_id]
    exact below
  unique := repo.migrated_unique source target
  readable := by
    intro row inside
    obtain ⟨old, present, rfl⟩ := mem_map.mp inside
    unfold migrated
    split
    · exact repo.readable old present
    · exact repo.readable old present

def deleteByConnectionId (connectionId : ConnectionId) : Repository where
  rows := repo.rows.filter (·.connectionId ≠ connectionId)
  nextId := repo.nextId
  numbered := fun row inside => repo.numbered row (mem_filter.mp inside).1
  ordered := repo.ordered.filter _
  unique := repo.unique.sublist (filter_sublist.map _)
  readable := fun row inside => repo.readable row (mem_filter.mp inside).1

/-! ### Reading -/

def findById (id : MetricId) : Option Metric := repo.rows.find? (·.id = some id)

/-- `find_by_name`: the first row of that name. -/
def findByName (name : String) : Option Metric := repo.rows.find? (·.name = name)

/-- `find_by_group`, newest first. -/
def findByGroup (group : String) : List Metric :=
  (repo.rows.filter (·.group = some group)).reverse

/-- `find_by_connection_id`, newest first. -/
def findByConnectionId (connectionId : ConnectionId) : List Metric :=
  (repo.rows.filter (·.connectionId = connectionId)).reverse

/-- `find_by_location`, for an owner. -/
def findByLocation (connectionId : ConnectionId) (location : Location) (owner : Option String) :
    Option Metric :=
  repo.rows.find? fun row => row.connectionId = connectionId && row.location = location &&
    ownerColumn row.userId = ownerColumn owner

/-- `find_all_at_location`, oldest first. -/
def findAllAtLocation (connectionId : ConnectionId) (location : Location) : List Metric :=
  repo.rows.filter fun row => row.connectionId = connectionId && row.location = location

variable {repo}

/-! ### What a write does to the rows -/

theorem writeColumns_flag (inside : m ∈ repo.rows) (enabled : Bool) :
    writeColumns m { m with enabled } = { m with enabled } :=
  writeColumns_eq (m := { m with enabled }) (repo.readable m inside) rfl

theorem save_eq_ok (saved : repo.save m = .ok (id, after)) :
    id = repo.nextId ∧ after.rows = repo.rows ++ [storedAs repo.nextId m] ∧
      after.nextId = repo.nextId + 1 := by
  unfold save at saved
  split at saved
  · simp at saved
  · obtain ⟨rfl, rfl⟩ := saved
    exact ⟨rfl, rfl, rfl⟩

section
variable (updated : repo.update m = .ok after)
include updated

theorem update_eq_ok :
    ∃ id, m.id = some id ∧ after.rows = repo.rows.map (rewrite id m) ∧
      after.nextId = repo.nextId := by
  unfold update at updated
  split at updated
  · simp at updated
  next id isId =>
    split at updated
    · split at updated
      · simp only [Except.ok.injEq] at updated
        exact ⟨id, isId, updated ▸ rfl, updated ▸ rfl⟩
      · simp at updated
    · simp at updated

theorem row_of_update : ∃ row ∈ repo.rows, row.id = m.id := by
  unfold update at updated
  split at updated
  · simp at updated
  next id isId =>
    split at updated
    · split at updated
      next known =>
        obtain ⟨row, inside, isRow⟩ := any_eq_true.mp known
        exact ⟨row, inside, (of_decide_eq_true isRow).trans isId.symm⟩
      · simp at updated
    · simp at updated

theorem mem_update {other : Metric} (inside : row ∈ repo.rows) (isRow : row.id = m.id) :
    other ∈ after.rows ↔ other = writeColumns row m ∨ (other ∈ repo.rows ∧ other ≠ row) := by
  obtain ⟨id, isId, rows, -⟩ := update_eq_ok updated
  have isId : row.id = some id := isRow.trans isId
  rw [rows, mem_map]
  constructor
  · rintro ⟨old, has, rfl⟩
    by_cases same : old = row
    · subst same
      exact .inl (if_pos isId)
    · have isOther : old.id ≠ some id :=
        fun otherId => same (repo.eq_of_id has inside (otherId.trans isId.symm))
      rw [rewrite, if_neg isOther]
      exact .inr ⟨has, same⟩
  · rintro (rfl | ⟨has, ne⟩)
    · exact ⟨row, inside, if_pos isId⟩
    · refine ⟨other, has, if_neg fun otherId => ne ?_⟩
      exact repo.eq_of_id has inside (otherId.trans isId.symm)

end

theorem mem_delete {other : Metric} (gone : repo.delete id = .ok after)
    (inside : row ∈ repo.rows) (isId : row.id = some id) :
    other ∈ after.rows ↔ other ∈ repo.rows ∧ other ≠ row := by
  unfold delete at gone
  split at gone
  · simp only [Except.ok.injEq] at gone
    rw [← gone]
    simp only [mem_filter, decide_eq_true_eq]
    refine and_congr_right fun has => not_congr ?_
    rw [← isId]
    exact ⟨repo.eq_of_id has inside, congrArg Metric.id⟩
  · simp at gone

section
variable (inside : row ∈ repo.rows)
include inside

/-- An update of a stored row succeeds exactly if the slot it asks for is free. -/
theorem update_succeeds_iff (isRow : row.id = m.id) :
    (∃ after, repo.update m = .ok after) ↔
      ∀ other ∈ repo.rows, other ≠ row → slot other ≠ slot (writeColumns row m) := by
  obtain ⟨id, isId, -⟩ := repo.numbered row inside
  have isM : m.id = some id := isRow.symm.trans isId
  have found : repo.rows.any (·.id = some id) = true :=
    any_eq_true.mpr ⟨row, inside, by simpa using isId⟩
  have differs : ∀ other ∈ repo.rows, other ≠ row ↔ other.id ≠ some id := by
    intro other has
    rw [← isId]
    exact not_congr ⟨fun same => same ▸ rfl, repo.eq_of_id has inside⟩
  have free : repo.conflicts id m = false ↔
      ∀ other ∈ repo.rows, other ≠ row → slot other ≠ slot (writeColumns row m) := by
    constructor
    · intro noConflict other has ne taken
      have clash : repo.conflicts id m = true := by
        simp only [conflicts, any_eq_true, and_eq_true, decide_eq_true_eq]
        exact ⟨row, inside, isId, other, has, (differs other has).mp ne, taken⟩
      rw [noConflict] at clash
      exact false_ne_true clash
    · intro apart
      rw [eq_false_iff]
      intro clash
      simp only [conflicts, any_eq_true, and_eq_true, decide_eq_true_eq] at clash
      obtain ⟨one, isIn, isOne, other, has, ne, taken⟩ := clash
      obtain rfl := repo.eq_of_id isIn inside (isOne.trans isId.symm)
      exact apart other has ((differs other has).mpr ne) taken
  rw [← free]
  unfold update
  rw [isM]
  by_cases noConflict : repo.conflicts id m = false <;> simp [noConflict, found]

/-- A row whose columns an update changes is not there any more. -/
theorem not_mem_of_update (isRow : row.id = m.id) (changes : writeColumns row m ≠ row)
    (updated : repo.update m = .ok after) :
    row ∉ after.rows := by
  obtain ⟨id, isId, rows, -⟩ := update_eq_ok updated
  rw [rows, mem_map]
  rintro ⟨old, has, rewritten⟩
  have same : old = row := by
    refine repo.eq_of_id has inside ?_
    rw [← rewritten, rewrite_id]
  rw [same, rewrite, if_pos (isRow.trans isId)] at rewritten
  exact changes rewritten

theorem delete_succeeds (isId : row.id = some id) : ∃ after, repo.delete id = .ok after := by
  have found : repo.rows.any (·.id = some id) = true :=
    any_eq_true.mpr ⟨row, inside, by simpa using isId⟩
  unfold delete
  rw [if_pos found]
  exact ⟨_, rfl⟩

end

theorem delete_eq_ok (gone : repo.delete id = .ok after) :
    after.rows = repo.rows.filter (·.id ≠ some id) ∧ after.nextId = repo.nextId := by
  unfold delete at gone
  split at gone
  · simp only [Except.ok.injEq] at gone
    exact ⟨gone ▸ rfl, gone ▸ rfl⟩
  · simp at gone

theorem findById_eq_some (found : repo.findById id = some row) : row ∈ repo.rows ∧ row.id = some id :=
  ⟨mem_of_find?_eq_some found, by simpa using find?_some found⟩

theorem findById_of_mem (inside : row ∈ repo.rows) (isId : row.id = some id) :
    repo.findById id = some row := by
  cases found : repo.findById id with
  | none =>
    have missing := find?_eq_none.mp found row inside
    exact absurd isId (by simpa using missing)
  | some other =>
    obtain ⟨isIn, ne⟩ := findById_eq_some found
    rw [repo.eq_of_id isIn inside (ne.trans isId.symm)]

theorem findByLocation_eq_some {loc : Location} {owner : Option String}
    (found : repo.findByLocation c loc owner = some row) :
    row ∈ repo.rows ∧ row.connectionId = c ∧ row.location = loc ∧
      ownerColumn row.userId = ownerColumn owner := by
  have holds := find?_some found
  simp only [and_eq_true, decide_eq_true_eq] at holds
  exact ⟨mem_of_find?_eq_some found, holds.1.1, holds.1.2, holds.2⟩

theorem mem_findAllAtLocation {loc : Location} :
    row ∈ repo.findAllAtLocation c loc ↔
      row ∈ repo.rows ∧ row.connectionId = c ∧ row.location = loc := by
  simp [findAllAtLocation]

theorem mem_findByGroup {group : String} :
    row ∈ repo.findByGroup group ↔ row ∈ repo.rows ∧ row.group = some group := by
  simp [findByGroup]

theorem findByGroup_nodup {group : String} : (repo.findByGroup group).Nodup :=
  nodup_reverse.mpr (repo.rows_nodup.filter _)

theorem mem_findByConnectionId :
    row ∈ repo.findByConnectionId c ↔
      row ∈ repo.rows ∧ row.connectionId = c := by
  simp [findByConnectionId]

end Repository

end Detrix.Service
