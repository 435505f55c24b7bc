/-
**The table does what the repository does.**

The repository that the services use keeps metrics; the table keeps columns. `Represents`: each row
of the table was inserted for a metric that is stored in the repository. Saving, updating and finding
in the table then have the results they have in the repository and lead to a table that represents
the new repository (`Represents.save`, `Represents.update`, `Represents.findById`). No caller can
therefore tell the one from the other (`answers_of_table`).

Two rows clash in the unique index exactly if their metrics have the same slot (`Stores.clashes_iff`),
since the text of a location determines it.
-/

import Detrix.Library.Run
import Detrix.Storage.Table

namespace Detrix.Storage

open Detrix.Core Library Service List

/-- Related lists have elements of related kinds or have none. -/
theorem forall₂_exists {α β : Type} {R : α → β → Prop} {P : α → Prop} {Q : β → Prop} {as : List α}
    {bs : List β} (related : List.Forall₂ R as bs) (same : ∀ a b, R a b → (P a ↔ Q b)) :
    (∃ a ∈ as, P a) ↔ ∃ b ∈ bs, Q b := by
  induction related with
  | nil => simp
  | cons head _ ih => simp [same _ _ head, ih]

/-! ### One row -/

/-- **A row holds a metric**: it was inserted for one that is read back as this one. -/
def Stores (json : JsonText) (row : Row) (m : Metric) : Prop :=
  ∃ source : Metric, Fits source ∧ source.location.file ≠ "" ∧
    row = insertRow json row.id row.createdAt source ∧ m = storedAs row.id source

namespace Stores

variable {json : JsonText} {row other : Row} {m n : Metric}

theorem id (stores : Stores json row m) : m.id = some row.id := by
  obtain ⟨source, -, -, -, isMetric⟩ := stores
  rw [isMetric]
  rfl

theorem read (stores : Stores json row m) :
    rowToMetric json row = .ok { m with createdAt := some row.createdAt } := by
  obtain ⟨source, fits, named, isRow, isMetric⟩ := stores
  rw [isMetric]
  calc rowToMetric json row = rowToMetric json (insertRow json row.id row.createdAt source) :=
        congrArg _ isRow
    _ = _ := rowToMetric_insertRow json fits named row.id row.createdAt

theorem inserted (fits : Fits m) (named : m.location.file ≠ "") (id : MetricId) (now : Int) :
    Stores json (insertRow json id now m) (storedAs id m) :=
  ⟨m, fits, named, rfl, rfl⟩

/-- The same columns are written in the row and in the metric. -/
theorem updated (stores : Stores json row n) (fits : Fits m) (named : m.location.file ≠ "") :
    Stores json (updateRow json m row) (writeColumns n m) := by
  obtain ⟨source, sourceFits, -, isRow, isMetric⟩ := stores
  refine ⟨{ writeColumns source m with anchor := m.anchor }, ?_, named, ?_, ?_⟩
  · exact ⟨fits.line, fits.mode, sourceFits.stackTraceTtl, sourceFits.stackTraceSlice,
      sourceFits.snapshotTtl, fits.anchor⟩
  · exact congrArg (updateRow json m) isRow
  · rw [isMetric]
    rfl

/-- The columns of the unique index. -/
theorem index (stores : Stores json row m) : m.location.file ≠ "" ∧
    m.location.line < UInt32.size ∧ row.location = m.location.toStringFormat ∧
      row.connectionId = m.connectionId ∧ row.userId = some (ownerColumn m.userId) := by
  obtain ⟨source, fits, named, isRow, isMetric⟩ := stores
  have owner : ownerColumn m.userId = ownerColumn source.userId := by
    rw [isMetric]
    exact ownerColumn_readOwner source.userId
  rw [isMetric] at owner ⊢
  refine ⟨named, fits.line, ?_, ?_, ?_⟩
  · exact congrArg Row.location isRow
  · exact congrArg Row.connectionId isRow
  · rw [owner]
    exact congrArg Row.userId isRow

theorem clashes_iff (one : Stores json row m) (two : Stores json other n) :
    row.clashes other = true ↔ slot m = slot n := by
  obtain ⟨named, line, loc, connectionId, userId⟩ := one.index
  obtain ⟨otherNamed, otherLine, otherLocation, otherConnection, otherUser⟩ := two.index
  unfold Row.clashes slot
  rw [loc, connectionId, userId, otherLocation, otherConnection, otherUser]
  simp [Location.toStringFormat_inj named line otherNamed otherLine, and_assoc]

end Stores

/-! ### The whole table -/

/-- **The table holds the rows of the repository.** -/
structure Represents (json : JsonText) (table : Table) (repo : Repository) : Prop where
  nextId : table.nextId = repo.nextId
  rows : List.Forall₂ (Stores json) table.rows repo.rows

namespace Represents

variable {json : JsonText} {table : Table} {repo : Repository} {m : Metric}

theorem empty : Represents json .empty .empty := ⟨rfl, .nil⟩

section
variable (before : Represents json table repo)
include before

/-- **Saving.** -/
theorem save (now : Int) (fits : Fits m) (named : m.location.file ≠ "") :
    (table.save json now m = .error Table.uniqueFailed ∧ repo.save m = .error Table.uniqueFailed) ∨
      ∃ id saved after, table.save json now m = .ok (id, saved) ∧ repo.save m = .ok (id, after) ∧
        Represents json saved after := by
  have new : Stores json (insertRow json table.nextId now m) (storedAs table.nextId m) :=
    .inserted fits named table.nextId now
  have sameSlot : slot (storedAs table.nextId m) = slot m := by
    simp [slot, storedAs, ownerColumn_readOwner]
  have taken : (∃ row ∈ table.rows, row.clashes (insertRow json table.nextId now m) = true) ↔
      slot m ∈ repo.rows.map slot := by
    rw [mem_map]
    refine forall₂_exists before.rows fun row r stores => ?_
    rw [stores.clashes_iff new, sameSlot]
  unfold Table.save Table.saveWithOptions
  dsimp only
  cases found : table.rows.find? (·.clashes (insertRow json table.nextId now m)) with
  | some old =>
    left
    have clash : old.clashes (insertRow json table.nextId now m) = true := by
      simpa using find?_some found
    have isTaken := taken.mp ⟨old, mem_of_find?_eq_some found, clash⟩
    refine ⟨rfl, ?_⟩
    rw [Repository.save, dif_pos isTaken]
    rfl
  | none =>
    right
    have isFree : ¬ slot m ∈ repo.rows.map slot := by
      rw [← taken]
      rintro ⟨row, mem, clash⟩
      exact find?_eq_none.mp found row mem clash
    have saved : ∃ after, repo.save m = .ok (repo.nextId, after) := by
      rw [Repository.save, dif_neg isFree]
      exact ⟨_, rfl⟩
    obtain ⟨after, done⟩ := saved
    obtain ⟨-, rows, next⟩ := Repository.save_eq_ok done
    rw [← before.nextId] at done rows next
    refine ⟨table.nextId, _, after, rfl, done, next.symm, ?_⟩
    rw [rows]
    exact rel_append before.rows (.cons new .nil)

/-- The rows that an update would put into a taken slot. -/
theorem conflicts_iff (id : MetricId) (fits : Fits m) (named : m.location.file ≠ "") :
    table.conflicts json id m = repo.conflicts id m := by
  have others : ∀ row r, Stores json row r →
      ((∃ other ∈ table.rows, other.id ≠ id ∧ other.clashes (updateRow json m row) = true) ↔
        ∃ other ∈ repo.rows, other.id ≠ some id ∧ slot other = slot (writeColumns r m)) := by
    intro row r stores
    refine forall₂_exists before.rows fun other o storesOther => ?_
    rw [storesOther.id, storesOther.clashes_iff (stores.updated fits named), ne_eq, ne_eq,
      Option.some.injEq]
  have same := forall₂_exists (P := fun row => row.id = id ∧ ∃ other ∈ table.rows, other.id ≠ id ∧
      other.clashes (updateRow json m row) = true)
    (Q := fun r => r.id = some id ∧ ∃ other ∈ repo.rows, other.id ≠ some id ∧
      slot other = slot (writeColumns r m)) before.rows fun row r stores => by
        rw [stores.id, others row r stores, Option.some.injEq]
  rw [Bool.eq_iff_iff]
  simpa [Table.conflicts, Repository.conflicts] using same

/-- **Updating.** -/
theorem update (fits : Fits m) (named : m.location.file ≠ "") :
    (∃ e, table.update json m = .error e ∧ repo.update m = .error e) ∨
      ∃ updated after, table.update json m = .ok updated ∧ repo.update m = .ok after ∧
        Represents json updated after := by
  unfold Table.update
  cases isId : m.id with
  | none =>
    left
    refine ⟨_, rfl, ?_⟩
    rw [Repository.update, isId]
  | some id =>
    have known : table.rows.any (·.id = id) = repo.rows.any (·.id = some id) := by
      rw [Bool.eq_iff_iff]
      have same := forall₂_exists (P := fun row => row.id = id) (Q := fun r => r.id = some id)
        before.rows fun row r stores => by rw [stores.id, Option.some.injEq]
      simpa using same
    dsimp only
    rw [before.conflicts_iff id fits named, known]
    by_cases conflict : repo.conflicts id m = true
    · left
      refine ⟨_, if_pos conflict, ?_⟩
      rw [Repository.update, isId]
      simp [conflict, Table.uniqueFailed]
    · have free : repo.conflicts id m = false := by simpa using conflict
      rw [if_neg conflict]
      by_cases isKnown : repo.rows.any (·.id = some id) = true
      · right
        rw [if_pos isKnown]
        have updated : ∃ after, repo.update m = .ok after := by
          rw [Repository.update, isId]
          simp [free, isKnown]
        obtain ⟨after, done⟩ := updated
        obtain ⟨other, ne, rows, next⟩ := Repository.update_eq_ok done
        cases isId.symm.trans ne
        refine ⟨_, after, rfl, done, before.nextId.trans next.symm, ?_⟩
        rw [rows]
        refine forall₂_map_left_iff.mpr (forall₂_map_right_iff.mpr ?_)
        refine before.rows.imp fun row r stores => ?_
        unfold Table.changeRow Repository.rewrite
        rw [stores.id]
        by_cases isRow : row.id = id
        · rw [if_pos isRow, if_pos (congrArg some isRow)]
          exact stores.updated fits named
        · rw [if_neg isRow, if_neg fun same => isRow (Option.some.inj same)]
          exact stores
      · left
        refine ⟨_, if_neg isKnown, ?_⟩
        rw [Repository.update, isId]
        simp [free, isKnown]

/-- **Finding.** -/
theorem findById (id : MetricId) :
    ∃ found, table.findById json id = .ok found ∧ found.map (·.toMetric) = repo.findById id := by
  unfold Table.findById Repository.findById
  have related := before.rows
  generalize table.rows = rows, repo.rows = stored at related ⊢
  induction related with
  | nil => exact ⟨none, rfl, rfl⟩
  | @cons row r rows rs stores _ ih =>
    rw [find?_cons, find?_cons, stores.id]
    by_cases isRow : row.id = id
    · rw [decide_eq_true isRow, decide_eq_true (congrArg some isRow)]
      dsimp only
      rw [stores.read]
      exact ⟨some { r with createdAt := some row.createdAt }, rfl, rfl⟩
    · rw [decide_eq_false isRow, decide_eq_false fun same => isRow (Option.some.inj same)]
      exact ih

end

end Represents

/-! ### Runs -/

structure Storable where
  metric : Metric
  fits : Fits metric
  named : metric.location.file ≠ ""

inductive Query
  | save (now : Int) (m : Storable)
  | update (m : Storable)
  | findById (id : MetricId)

/-- What a caller gets: the id of a saved metric, or the metric that was found. -/
abbrev Answer : Type := Option MetricId × Option Metric

def askTable (json : JsonText) (table : Table) : Query → Except ServiceError (Answer × Table)
  | .save now m => (table.save json now m.metric).map fun (id, saved) => ((id, none), saved)
  | .update m => (table.update json m.metric).map fun updated => ((none, none), updated)
  | .findById id => (table.findById json id).map fun found => ((none, found.map (·.toMetric)), table)

def askRepository (repo : Repository) : Query → Except ServiceError (Answer × Repository)
  | .save _ m => (repo.save m.metric).map fun (id, saved) => ((id, none), saved)
  | .update m => (repo.update m.metric).map fun updated => ((none, none), updated)
  | .findById id => .ok ((none, repo.findById id), repo)

/-- A query that fails leaves the store as it was. -/
def served {σ : Type} (ask : σ → Query → Except ServiceError (Answer × σ)) (s : σ) (query : Query) :
    Except ServiceError Answer × σ :=
  match ask s query with
  | .ok (answer, next) => (.ok answer, next)
  | .error e => (.error e, s)

theorem Represents.served {json : JsonText} (table : Table) (repo : Repository) (query : Query)
    (before : Represents json table repo) :
    (served (askTable json) table query).1 = (served askRepository repo query).1 ∧
      Represents json (served (askTable json) table query).2 (served askRepository repo query).2 := by
  unfold Storage.served askTable askRepository
  cases query <;> dsimp only
  case save now m =>
    rcases before.save now m.fits m.named with ⟨taken, same⟩ | ⟨id, saved, after, done, same, next⟩
    · rw [taken, same]
      exact ⟨rfl, before⟩
    · rw [done, same]
      exact ⟨rfl, next⟩
  case update m =>
    rcases before.update m.fits m.named with ⟨e, fails, same⟩ | ⟨updated, after, done, same, next⟩
    · rw [fails, same]
      exact ⟨rfl, before⟩
    · rw [done, same]
      exact ⟨rfl, next⟩
  case findById id =>
    obtain ⟨found, done, same⟩ := before.findById id
    rw [done, ← same]
    exact ⟨rfl, before⟩

/-- **The table refines the repository**: in every run, whatever the clock says, both answer alike. -/
theorem answers_of_table (json : JsonText) (queries : List Query) :
    Run.answers (served (askTable json)) .empty queries =
      Run.answers (served askRepository) .empty queries :=
  Run.answers_eq Represents.served queries .empty .empty .empty

end Detrix.Storage
