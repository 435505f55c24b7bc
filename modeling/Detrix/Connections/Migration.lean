/-
**The metrics of stale connections.**

A new connection takes over the metrics of the stale connections of its project: they are moved, one
connection after another, and what cannot be moved is deleted with its connection. `cleaned_keeps_iff`
says which metric is kept, for any pattern of failing calls.
-/

import Detrix.Connections.Service

namespace Detrix.Connections

open Detrix.Core Service Repository List ConnectionRepository

/-! ### Metrics that change their connection -/

/-- Where a metric is, and whose it is. -/
def place (m : Metric) : Location × String := (m.location, ownerColumn m.userId)

/-- The connection has a metric of this user at this location. -/
def Taken (target : ConnectionId) (metrics : Repository) (at_ : Location × String) : Prop :=
  ∃ row ∈ metrics.rows, row.connectionId = target ∧ place row = at_

def Kept (target : ConnectionId) (metrics : Repository) (m : Metric) : Prop :=
  m ∈ metrics.rows ∨ movedTo target m ∈ metrics.rows

variable {target : ConnectionId} {row m : Metric}

theorem slot_movedTo_iff :
    slot row = slot (movedTo target m) ↔ row.connectionId = target ∧ place row = place m := by
  simp only [slot, place, movedTo, Prod.mk.injEq]
  constructor
  · rintro ⟨loc, connection, owner⟩
    exact ⟨connection, loc, owner⟩
  · rintro ⟨connection, loc, owner⟩
    exact ⟨loc, connection, owner⟩

variable {source : ConnectionId} {metrics : Repository}

theorem migrates_iff : metrics.migrates source target m = true ↔
      m.connectionId = source ∧ ¬ Taken target metrics (place m) := by
  simp only [migrates, Bool.and_eq_true, decide_eq_true_eq, Bool.not_eq_true', any_eq_false,
    slot_movedTo_iff, Taken, not_exists, not_and]

theorem mem_migrate : row ∈ (metrics.migrateConnectionId source target).rows ↔
      ∃ old ∈ metrics.rows, metrics.migrated source target old = row :=
  mem_map

theorem migrated_of_other
    (other : m.connectionId ≠ source) : metrics.migrated source target m = m :=
  if_neg fun moves => other (migrates_iff.mp moves).1

theorem mem_delete {c : ConnectionId} :
    row ∈ (metrics.deleteByConnectionId c).rows ↔ row ∈ metrics.rows ∧ row.connectionId ≠ c := by
  simp [deleteByConnectionId]

/-! ### One stale connection -/

section Cleanup

variable (faults : Action → Bool) (target : ConnectionId)

def migratedOne (metrics : Repository) (stale : ConnectionId) : Repository :=
  if faults (.migrateMetrics stale target) then metrics
  else metrics.migrateConnectionId stale target

def cleanedOne (metrics : Repository) (stale : ConnectionId) : Repository :=
  if faults (.deleteMetrics stale) then migratedOne faults target metrics stale
  else (migratedOne faults target metrics stale).deleteByConnectionId stale

variable {faults target} {metrics : Repository} {stale : ConnectionId} {m row : Metric}

theorem mem_migratedOne_of_other (mem : m ∈ metrics.rows) (other : m.connectionId ≠ stale) :
    m ∈ (migratedOne faults target metrics stale).rows := by
  unfold migratedOne
  split
  · exact mem
  · exact mem_migrate.mpr ⟨m, mem, migrated_of_other other⟩

theorem mem_cleanedOne_of_other (mem : m ∈ metrics.rows) (other : m.connectionId ≠ stale) :
    m ∈ (cleanedOne faults target metrics stale).rows := by
  unfold cleanedOne
  split
  · exact mem_migratedOne_of_other mem other
  · exact mem_delete.mpr ⟨mem_migratedOne_of_other mem other, other⟩

theorem of_mem_migratedOne (mem : row ∈ (migratedOne faults target metrics stale).rows) :
    ∃ old ∈ metrics.rows, row = old ∨ faults (.migrateMetrics stale target) = false ∧
      old.connectionId = stale ∧ ¬ Taken target metrics (place old) ∧ row = movedTo target old := by
  unfold migratedOne at mem
  split at mem
  · exact ⟨row, mem, .inl rfl⟩
  next succeeds =>
    obtain ⟨old, has, rfl⟩ := mem_migrate.mp mem
    refine ⟨old, has, ?_⟩
    unfold migrated
    split
    next moves =>
      obtain ⟨source, free⟩ := migrates_iff.mp moves
      exact .inr ⟨Bool.eq_false_iff.mpr succeeds, source, free, rfl⟩
    next => exact .inl rfl

theorem of_mem_cleanedOne (mem : row ∈ (cleanedOne faults target metrics stale).rows) :
    ∃ old ∈ metrics.rows, row = old ∨ faults (.migrateMetrics stale target) = false ∧
      old.connectionId = stale ∧ ¬ Taken target metrics (place old) ∧ row = movedTo target old := by
  unfold cleanedOne at mem
  split at mem
  · exact of_mem_migratedOne mem
  · exact of_mem_migratedOne (mem_delete.mp mem).1

theorem movedTo_mem_migratedOne (mem : m ∈ metrics.rows) (isStale : m.connectionId = stale)
    (succeeds : faults (.migrateMetrics stale target) = false)
    (free : ¬ Taken target metrics (place m)) :
    movedTo target m ∈ (migratedOne faults target metrics stale).rows := by
  rw [migratedOne, succeeds, if_neg Bool.false_ne_true]
  exact mem_migrate.mpr ⟨m, mem, if_pos (migrates_iff.mpr ⟨isStale, free⟩)⟩

theorem taken_cleanedOne_iff (ne : stale ≠ target) (at_ : Location × String) :
    Taken target (cleanedOne faults target metrics stale) at_ ↔ Taken target metrics at_ ∨
      ∃ other ∈ metrics.rows, other.connectionId = stale ∧
        faults (.migrateMetrics stale target) = false ∧ place other = at_ := by
  constructor
  · rintro ⟨row, mem, isTarget, rfl⟩
    obtain ⟨old, has, rfl | ⟨succeeds, isStale, -, rfl⟩⟩ := of_mem_cleanedOne mem
    · exact .inl ⟨row, has, isTarget, rfl⟩
    · exact .inr ⟨old, has, isStale, succeeds, rfl⟩
  · intro either
    by_cases taken : Taken target metrics at_
    · obtain ⟨row, mem, isTarget, rfl⟩ := taken
      exact ⟨row, mem_cleanedOne_of_other mem (isTarget ▸ ne.symm), isTarget, rfl⟩
    · obtain ⟨other, mem, isStale, succeeds, rfl⟩ := either.resolve_left taken
      have moved := movedTo_mem_migratedOne mem isStale succeeds taken
      refine ⟨movedTo target other, ?_, rfl, rfl⟩
      unfold cleanedOne
      split
      · exact moved
      · exact mem_delete.mpr ⟨moved, ne.symm⟩

/-- A metric of the stale connection goes if the deletion succeeds and it was not moved. -/
theorem kept_cleanedOne_iff (ne : stale ≠ target) (mem : m ∈ metrics.rows)
    (isStale : m.connectionId = stale) :
    Kept target (cleanedOne faults target metrics stale) m ↔
      (faults (.deleteMetrics stale) = false →
        faults (.migrateMetrics stale target) = false ∧ ¬ Taken target metrics (place m)) := by
  constructor
  · intro kept deletes
    rw [Kept, cleanedOne, deletes, if_neg Bool.false_ne_true, mem_delete, mem_delete] at kept
    rcases kept with ⟨-, stays⟩ | ⟨moved, -⟩
    · exact absurd isStale stays
    · obtain ⟨old, has, rfl | ⟨succeeds, -, free, same⟩⟩ := of_mem_migratedOne moved
      · -- a row of the new connection with the id of `m` would be `m`
        have same := metrics.eq_of_id has mem rfl
        exact absurd (isStale.symm.trans (congrArg Metric.connectionId same.symm)) ne
      · have same := metrics.eq_of_id has mem (congrArg Metric.id same).symm
        exact ⟨succeeds, same ▸ free⟩
  · intro cond
    by_cases moves : faults (.migrateMetrics stale target) = false ∧
        ¬ Taken target metrics (place m)
    · have moved := movedTo_mem_migratedOne mem isStale moves.1 moves.2
      refine .inr ?_
      unfold cleanedOne
      split
      · exact moved
      · exact mem_delete.mpr ⟨moved, ne.symm⟩
    · have deletionFails : faults (.deleteMetrics stale) = true := by
        by_contra succeeds
        exact moves (cond (Bool.eq_false_iff.mpr succeeds))
      refine .inl ?_
      rw [cleanedOne, if_pos deletionFails]
      unfold migratedOne
      split
      · exact mem
      next succeeds =>
        refine mem_migrate.mpr ⟨m, mem, if_neg fun migrates => moves ?_⟩
        exact ⟨Bool.eq_false_iff.mpr succeeds, (migrates_iff.mp migrates).2⟩

/-! ### One after another -/

variable (faults target)

def cleaned (metrics : Repository) (stales : List ConnectionId) : Repository :=
  stales.foldl (cleanedOne faults target) metrics

variable {faults target} {stales : List ConnectionId}

theorem mem_cleaned_of_other (mem : m ∈ metrics.rows) (other : m.connectionId ∉ stales) :
    m ∈ (cleaned faults target metrics stales).rows := by
  induction stales generalizing metrics with
  | nil => exact mem
  | cons stale rest ih =>
    rw [mem_cons, not_or] at other
    exact ih (mem_cleanedOne_of_other mem other.1) other.2

theorem of_mem_cleaned (ne : target ∉ stales)
    (mem : row ∈ (cleaned faults target metrics stales).rows) :
    ∃ old ∈ metrics.rows, row = old ∨ old.connectionId ∈ stales ∧ row = movedTo target old := by
  induction stales generalizing metrics with
  | nil => exact ⟨row, mem, .inl rfl⟩
  | cons stale rest ih =>
    rw [mem_cons, not_or] at ne
    obtain ⟨middle, between, same⟩ := ih ne.2 mem
    obtain ⟨old, has, rfl | ⟨-, rfl, -, rfl⟩⟩ := of_mem_cleanedOne between
    · exact ⟨middle, has, same.imp_right fun moved =>
        ⟨.tail _ moved.1, moved.2⟩⟩
    · refine ⟨old, has, .inr ⟨.head _, ?_⟩⟩
      exact same.resolve_right fun moved => ne.2 moved.1

theorem taken_cleaned_iff (once : stales.Nodup) (ne : target ∉ stales)
    (at_ : Location × String) :
    Taken target (cleaned faults target metrics stales) at_ ↔ Taken target metrics at_ ∨
      ∃ other ∈ metrics.rows, other.connectionId ∈ stales ∧
        faults (.migrateMetrics other.connectionId target) = false ∧ place other = at_ := by
  induction stales generalizing metrics with
  | nil => simp [cleaned]
  | cons stale rest ih =>
    rw [mem_cons, not_or] at ne
    obtain ⟨fresh, once⟩ := nodup_cons.mp once
    rw [show cleaned faults target metrics (stale :: rest) =
      cleaned faults target (cleanedOne faults target metrics stale) rest from rfl,
      ih once ne.2, taken_cleanedOne_iff (Ne.symm ne.1), or_assoc]
    refine or_congr_right ?_
    constructor
    · rintro (⟨other, mem, isStale, succeeds, same⟩ | ⟨other, mem, later, succeeds, same⟩)
      · exact ⟨other, mem, isStale ▸ (.head _), isStale ▸ succeeds, same⟩
      · obtain ⟨old, has, rfl | ⟨-, -, -, rfl⟩⟩ := of_mem_cleanedOne mem
        · exact ⟨other, has, .tail _ later, succeeds, same⟩
        · exact absurd later ne.2
    · rintro ⟨other, mem, either, succeeds, same⟩
      rcases mem_cons.mp either with isStale | later
      · exact .inl ⟨other, mem, isStale, isStale ▸ succeeds, same⟩
      · refine .inr ⟨other, mem_cleanedOne_of_other mem ?_, later, succeeds, same⟩
        exact fun isStale => fresh (isStale ▸ later)

def earlier (stales : List ConnectionId) (stale : ConnectionId) : List ConnectionId :=
  stales.takeWhile (· ≠ stale)

theorem split_at {stale : ConnectionId} (mem : stale ∈ stales) :
    ∃ later, stales = earlier stales stale ++ stale :: later := by
  unfold earlier
  induction stales with
  | nil => cases mem
  | cons first rest ih =>
    by_cases same : first = stale
    · exact ⟨rest, by simp [same]⟩
    · obtain ⟨later, parts⟩ := ih ((mem_cons.mp mem).resolve_left (Ne.symm same))
      refine ⟨later, ?_⟩
      rw [takeWhile_cons_of_pos (by simpa using same), cons_append, ← parts]

/-- **Which metric is kept**: if the metrics of its connection are deleted, their migration has to
succeed, and the new connection must have no metric at the place, neither before nor by an earlier
migration. -/
theorem cleaned_keeps_iff (once : stales.Nodup) (ne : target ∉ stales)
    (mem : m ∈ metrics.rows) (isStale : m.connectionId ∈ stales) :
    Kept target (cleaned faults target metrics stales) m ↔
      (faults (.deleteMetrics m.connectionId) = false →
        faults (.migrateMetrics m.connectionId target) = false ∧
        ¬ Taken target metrics (place m) ∧
        ∀ other ∈ metrics.rows, other.connectionId ∈ earlier stales m.connectionId →
          faults (.migrateMetrics other.connectionId target) = false → place other ≠ place m) := by
  obtain ⟨later, parts⟩ := split_at isStale
  generalize earlier stales m.connectionId = before at parts
  subst parts
  obtain ⟨onceBefore, onceLater, apart⟩ := nodup_append.mp once
  have notBefore : m.connectionId ∉ before := fun early =>
    apart _ early _ (.head _) rfl
  have notLater : m.connectionId ∉ later := (nodup_cons.mp onceLater).1
  have freeBefore : target ∉ before := fun early => ne (mem_append_left _ early)
  have freeLater : target ∉ later := fun late =>
    ne (mem_append_right _ (.tail _ late))
  have differs : m.connectionId ≠ target := fun same => ne (same ▸ isStale)
  have reached : m ∈ (cleaned faults target metrics before).rows :=
    mem_cleaned_of_other mem notBefore
  have own := @kept_cleanedOne_iff faults _ _ _ _ differs reached rfl
  rw [taken_cleaned_iff onceBefore freeBefore, not_or] at own
  -- what comes after this stale connection neither removes nor brings back the metric
  have after : Kept target (cleaned faults target metrics (before ++ m.connectionId :: later)) m ↔
      Kept target (cleanedOne faults target (cleaned faults target metrics before)
        m.connectionId) m := by
    rw [show cleaned faults target metrics (before ++ m.connectionId :: later) =
      cleaned faults target (cleanedOne faults target (cleaned faults target metrics before)
        m.connectionId) later by rw [cleaned, foldl_append]; rfl]
    constructor
    · rintro (stays | moved)
      · obtain ⟨old, has, same⟩ := of_mem_cleaned freeLater stays
        refine .inl ((same.resolve_right fun moved => differs ?_) ▸ has)
        exact congrArg Metric.connectionId moved.2
      · obtain ⟨old, has, rfl | ⟨late, same⟩⟩ := of_mem_cleaned freeLater moved
        · exact .inr has
        · obtain ⟨first, atFirst, origin⟩ := of_mem_cleanedOne has
          have sameId : first.id = m.id := by
            refine .trans ?_ (congrArg Metric.id same).symm
            rcases origin with rfl | ⟨-, -, -, rfl⟩ <;> rfl
          obtain rfl := Repository.eq_of_id _ atFirst reached sameId
          rcases origin with rfl | ⟨-, -, -, rfl⟩
          · exact absurd late notLater
          · exact .inr has
    · rintro (stays | moved)
      · exact .inl (mem_cleaned_of_other stays notLater)
      · exact .inr (mem_cleaned_of_other moved freeLater)
  rw [after, own]
  refine imp_congr_right fun _ => and_congr_right fun _ => and_congr_right fun _ => ?_
  constructor
  · simp
  · simp

end Cleanup

/-! ### Stale connections -/

def stalesOf (connections : ConnectionRepository) (connection : Connection) : List ConnectionId :=
  connections.findStaleSameProject (connection.name.getD "") connection.language
    connection.workspaceRoot connection.id

section
variable (connections : ConnectionRepository)
include connections

variable (connection : Connection)

theorem stalesOf_nodup : (stalesOf connections connection).Nodup :=
  connections.distinct_filter _

theorem not_mem_stalesOf : connection.id ∉ stalesOf connections connection := by
  intro mem
  obtain ⟨row, has, same⟩ := mem_map.mp mem
  have found := (mem_filter.mp has).2
  simp only [Bool.and_eq_true, decide_eq_true_eq] at found
  exact found.1.2 same

theorem stalesOf_save :
    stalesOf (connections.save connection) connection = stalesOf connections connection := by
  unfold stalesOf ConnectionRepository.findStaleSameProject ConnectionRepository.save
  split
  · simp
  · rw [filter_map, map_map]
    have sameIds : (fun row => row.id) ∘ overwrite connection =
        fun row => row.id := funext (overwrite_id connection)
    congr 1
    refine filter_congr fun row _ => ?_
    by_cases same : row.id = connection.id
    · simp [overwrite_id, same]
    · rw [Function.comp_apply, overwrite, if_neg same]

end

/-! ### What is lost -/

/-- The metrics of the project's stale connections that are not kept, although the new connection had
none of the same user at the same location. -/
def NoneLost (connections : ConnectionRepository) (connection : Connection)
    (before after : Repository) : Prop :=
  ∀ m ∈ before.rows, m.connectionId ∈ stalesOf connections connection →
    Kept connection.id after m ∨ Taken connection.id before (place m)

instance (target : ConnectionId) (metrics : Repository) (at_ : Location × String) :
    Decidable (Taken target metrics at_) :=
  inferInstanceAs (Decidable (∃ row ∈ metrics.rows, _))

instance (target : ConnectionId) (metrics : Repository) (m : Metric) :
    Decidable (Kept target metrics m) :=
  inferInstanceAs (Decidable (_ ∨ _))

instance (connections : ConnectionRepository) (connection : Connection) (before after : Repository) :
    Decidable (NoneLost connections connection before after) :=
  inferInstanceAs (Decidable (∀ _ ∈ _, _))

/-- **When a cleanup loses no metric.** A stale connection whose metrics are deleted must have been
migrated, and none of its metrics may be at the place of a metric of an earlier one that was migrated
as well. -/
def Lossless (faults : Action → Bool) (metrics : Repository) (target : ConnectionId)
    (stales : List ConnectionId) : Prop :=
  ∀ m ∈ metrics.rows, m.connectionId ∈ stales → ¬ Taken target metrics (place m) →
    faults (.deleteMetrics m.connectionId) = false →
    faults (.migrateMetrics m.connectionId target) = false ∧
    ∀ other ∈ metrics.rows, other.connectionId ∈ earlier stales m.connectionId →
      faults (.migrateMetrics other.connectionId target) = false → place other ≠ place m

instance (faults : Action → Bool) (metrics : Repository) (target : ConnectionId)
    (stales : List ConnectionId) : Decidable (Lossless faults metrics target stales) :=
  inferInstanceAs (Decidable (∀ _ ∈ _, _))

end Detrix.Connections
