/-
**Connections and the references to them.**

The tables `connections` and `connection_references`. A client has at most one reference to a connection,
and a reference is to a connection that has a row: both are fields. So a reference cannot be added to a
missing connection, and the deletion of a row takes the references to it along.
-/

import Detrix.Connections.Record
import Mathlib.Data.List.Sort

namespace Detrix.Connections

open Detrix.Core Library List ConnectionRepository

/-- `ConnectionReference`; its kind is not read. -/
structure Reference where
  connection : ConnectionId
  client : String
  lastActive : Int

def Reference.key (reference : Reference) : ConnectionId × String :=
  (reference.connection, reference.client)

namespace ConnectionRepository

variable {repo : ConnectionRepository} {c d : ConnectionId}

def hasRow (repo : ConnectionRepository) (c : ConnectionId) : Bool := (repo.findById c).isSome

theorem hasRow_map {change : Connection → Connection} (keeps : ∀ row, (change row).id = row.id)
    (rows : List Connection) : ((rows.map change).find? (·.id = c)).isSome =
      (rows.find? (·.id = c)).isSome := by
  rw [find?_change keeps, Option.isSome_map]

@[simp] theorem hasRow_updateStatus (status : ConnectionStatus) :
    (repo.updateStatus d status).hasRow c = repo.hasRow c :=
  hasRow_map (withStatus_id d status) repo.rows

theorem hasRow_save (conn : Connection) (known : repo.hasRow c = true) :
    (repo.save conn).hasRow c = true := by
  unfold hasRow findById save
  split
  · rw [find?_append, Option.isSome_or, show (repo.rows.find? (·.id = c)).isSome = true from known]
    rfl
  · exact (hasRow_map (overwrite_id conn) repo.rows).trans known

end ConnectionRepository

/-- The two tables, with the column `last_active` of the connections. -/
@[ext]
structure Tables where
  connections : ConnectionRepository
  lastActive : ConnectionId → Int
  references : List Reference
  distinct : (references.map (·.key)).Nodup
  referenced : ∀ reference ∈ references, connections.hasRow reference.connection = true

namespace Tables

variable (tables : Tables)

/-! ### Connections -/

def save (now : Int) (connection : Connection) : Tables where
  connections := tables.connections.save connection
  lastActive := Function.update tables.lastActive connection.id now
  references := tables.references
  distinct := tables.distinct
  referenced reference inside :=
    hasRow_save connection (tables.referenced reference inside)

theorem referenced_updateStatus (c : ConnectionId) (status : ConnectionStatus)
    (reference : Reference) (mem : reference ∈ tables.references) :
    (tables.connections.updateStatus c status).hasRow reference.connection = true := by
  rw [hasRow_updateStatus]
  exact tables.referenced reference mem

def updateStatus (now : Int) (c : ConnectionId) (status : ConnectionStatus) : Tables where
  connections := tables.connections.updateStatus c status
  lastActive := Function.update tables.lastActive c now
  references := tables.references
  distinct := tables.distinct
  referenced := tables.referenced_updateStatus c status

def keepReferences (keep : Reference → Bool) : Tables :=
  { tables with
    references := tables.references.filter keep
    distinct := tables.distinct.sublist (filter_sublist.map _)
    referenced := fun reference inside =>
      tables.referenced reference (mem_filter.mp inside).1 }

theorem referenced_delete (c : ConnectionId) (reference : Reference)
    (mem : reference ∈ tables.references.filter (·.connection ≠ c)) :
    (tables.connections.delete c).hasRow reference.connection = true := by
  obtain ⟨old, other⟩ := mem_filter.mp mem
  rw [hasRow, findById_delete (of_decide_eq_true other)]
  exact tables.referenced reference old

/-- `delete`: the references go with the row. -/
def delete (c : ConnectionId) : Tables where
  connections := tables.connections.delete c
  lastActive := tables.lastActive
  references := tables.references.filter (·.connection ≠ c)
  distinct := tables.distinct.sublist (filter_sublist.map _)
  referenced := tables.referenced_delete c

/-! ### References -/

def refresh (reference row : Reference) : Reference :=
  if row.key = reference.key then reference else row

variable (reference : Reference)

theorem refresh_key (row : Reference) : (refresh reference row).key = row.key := by
  unfold refresh
  split
  next same => exact same.symm
  next => rfl

theorem distinct_append {reference : Reference}
    (absent : tables.references.any (·.key = reference.key) = false) :
    ((tables.references ++ [reference]).map (·.key)).Nodup := by
  rw [map_append, nodup_append]
  refine ⟨tables.distinct, nodup_singleton _, fun key old new isNew same => ?_⟩
  obtain ⟨row, mem, rfl⟩ := mem_map.mp old
  rw [map_singleton, mem_singleton] at isNew
  have missing := any_eq_false.mp absent row mem
  exact absurd (same.trans isNew) (by simpa using missing)

theorem referenced_append {reference : Reference}
    (known : tables.connections.hasRow reference.connection = true) (row : Reference)
    (mem : row ∈ tables.references ++ [reference]) :
    tables.connections.hasRow row.connection = true := by
  rcases mem_append.mp mem with old | new
  · exact tables.referenced row old
  · rw [mem_singleton.mp new]
    exact known

theorem distinct_refresh : ((tables.references.map (refresh reference)).map (·.key)).Nodup := by
  rw [map_map]
  exact (map_congr_left fun row _ => refresh_key reference row) ▸ tables.distinct

theorem referenced_refresh (row : Reference)
    (mem : row ∈ tables.references.map (refresh reference)) :
    tables.connections.hasRow row.connection = true := by
  obtain ⟨old, has, rfl⟩ := mem_map.mp mem
  rw [show (refresh reference old).connection = old.connection from
    congrArg Prod.fst (refresh_key reference old)]
  exact tables.referenced old has

/-- `add_reference`: an insertion, or an update of the reference that the client has. A connection
without a row violates the foreign key, and the table stays as it is. -/
def addReference (reference : Reference) : Tables :=
  if known : tables.connections.hasRow reference.connection = true then
    if absent : tables.references.any (·.key = reference.key) = false then
      { tables with
        references := tables.references ++ [reference]
        distinct := tables.distinct_append absent
        referenced := tables.referenced_append known }
    else
      { tables with
        references := tables.references.map (refresh reference)
        distinct := tables.distinct_refresh reference
        referenced := tables.referenced_refresh reference }
  else tables

def countReferences (c : ConnectionId) : Nat := tables.references.countP (·.connection = c)

def refers (c : ConnectionId) (client : String) : Bool :=
  tables.references.any (·.key = (c, client))

/-- `remove_reference_and_count`: whether there was one, and what is left. -/
def removeReference (c : ConnectionId) (client : String) : Tables :=
  tables.keepReferences (·.key ≠ (c, client))

/-- `remove_all_by_client_and_count`, without the counts. -/
def removeClient (client : String) : Tables := tables.keepReferences (·.client ≠ client)

def connectionsOf (client : String) : List ConnectionId :=
  (tables.references.filter (·.client = client)).map (·.connection)

def removeConnection (c : ConnectionId) : Tables := tables.keepReferences (·.connection ≠ c)

def microsPerDay : Int := 86400000000

/-- `cleanup_stale_references`; a limit of no days removes them all. -/
def expire (now ttlDays : Int) : Tables :=
  tables.keepReferences fun reference =>
    ttlDays ≠ 0 && now - ttlDays * microsPerDay ≤ reference.lastActive

def inactiveForDays (now ttlDays : Int) (c : ConnectionId) : Bool :=
  0 ≤ ttlDays && (ttlDays = 0 || ttlDays * microsPerDay ≤ now - tables.lastActive c)

/-- `list_all`, the latest activity first. -/
def listAll : List Connection :=
  tables.connections.rows.insertionSort fun one other =>
    tables.lastActive other.id ≤ tables.lastActive one.id

/-! ### Who refers to a connection -/

variable {tables} {c d : ConnectionId} {client other : String}

theorem refers_iff : tables.refers c client = true ↔
    ∃ reference ∈ tables.references, reference.connection = c ∧ reference.client = client := by
  simp [refers, any_eq_true, decide_eq_true_eq, Reference.key, Prod.mk.injEq]

def Unreferenced (tables : Tables) (c : ConnectionId) : Prop :=
  ∀ client, tables.refers c client = false

theorem countReferences_eq_zero : tables.countReferences c = 0 ↔ tables.Unreferenced c := by
  rw [countReferences, countP_eq_zero]
  constructor
  · intro none client
    rw [Bool.eq_false_iff, ne_eq, refers_iff]
    rintro ⟨reference, mem, isC, -⟩
    exact none reference mem (by simpa using isC)
  · intro nobody reference mem isC
    have impossible := nobody reference.client
    rw [Bool.eq_false_iff, ne_eq, refers_iff] at impossible
    exact impossible ⟨reference, mem, by simpa using isC, rfl⟩

theorem refers_keepReferences {keep : Reference → Bool} :
    (tables.keepReferences keep).refers c client = true ↔
      ∃ reference ∈ tables.references, keep reference = true ∧ reference.connection = c ∧
        reference.client = client := by
  rw [refers_iff]
  simp [keepReferences, mem_filter, and_assoc]

theorem refers_removeReference : (tables.removeReference d other).refers c client = true ↔
    tables.refers c client = true ∧ ¬ (c = d ∧ client = other) := by
  rw [removeReference, refers_keepReferences, refers_iff]
  constructor
  · rintro ⟨reference, mem, kept, rfl, rfl⟩
    refine ⟨⟨reference, mem, rfl, rfl⟩, fun same => ?_⟩
    exact of_decide_eq_true kept (Prod.ext same.1 same.2)
  · rintro ⟨⟨reference, mem, rfl, rfl⟩, ne⟩
    refine ⟨reference, mem, decide_eq_true fun same => ne ?_, rfl, rfl⟩
    exact Prod.mk.inj same

theorem refers_removeClient : (tables.removeClient other).refers c client = true ↔
    tables.refers c client = true ∧ client ≠ other := by
  rw [removeClient, refers_keepReferences, refers_iff]
  constructor
  · rintro ⟨reference, mem, kept, rfl, rfl⟩
    exact ⟨⟨reference, mem, rfl, rfl⟩, by simpa using kept⟩
  · rintro ⟨⟨reference, mem, rfl, rfl⟩, ne⟩
    exact ⟨reference, mem, by simpa using ne, rfl, rfl⟩

@[simp] theorem addReference_connections :
    (tables.addReference reference).connections = tables.connections := by
  unfold addReference
  split
  · split <;> rfl
  · rfl

theorem refers_addReference {now : Int} (known : tables.connections.hasRow d = true) :
    (tables.addReference ⟨d, other, now⟩).refers c client = true ↔
      (c = d ∧ client = other) ∨ tables.refers c client = true := by
  rw [addReference, dif_pos known, refers_iff, refers_iff]
  split
  next absent =>
    simp only [mem_append, mem_singleton]
    constructor
    · rintro ⟨reference, old | rfl, rfl, rfl⟩
      · exact .inr ⟨reference, old, rfl, rfl⟩
      · exact .inl ⟨rfl, rfl⟩
    · rintro (⟨rfl, rfl⟩ | ⟨reference, old, rfl, rfl⟩)
      · exact ⟨_, .inr rfl, rfl, rfl⟩
      · exact ⟨reference, .inl old, rfl, rfl⟩
  next has =>
    have keys : ∀ row, (refresh ⟨d, other, now⟩ row).connection = row.connection ∧
        (refresh ⟨d, other, now⟩ row).client = row.client := fun row =>
      Prod.mk.inj (refresh_key ⟨d, other, now⟩ row)
    have rows : (∃ reference ∈ tables.references.map (refresh ⟨d, other, now⟩),
        reference.connection = c ∧ reference.client = client) ↔
        ∃ reference ∈ tables.references, reference.connection = c ∧ reference.client = client := by
      simp [mem_map, exists_exists_and_eq_and, keys]
    rw [rows]
    refine ⟨.inr, ?_⟩
    rintro (⟨rfl, rfl⟩ | old)
    · rw [Bool.not_eq_false, any_eq_true] at has
      obtain ⟨row, mem, same⟩ := has
      obtain ⟨isC, isClient⟩ := Prod.mk.inj (of_decide_eq_true same)
      exact ⟨row, mem, isC, isClient⟩
    · exact old

theorem refers_of_addReference {now : Int} (ne : c ≠ d)
    (stays : (tables.addReference ⟨d, other, now⟩).refers c client = true) :
    tables.refers c client = true := by
  by_cases known : tables.connections.hasRow d = true
  · exact ((refers_addReference known).mp stays).resolve_left fun same => ne same.1
  · rwa [addReference, dif_neg known] at stays

end Tables

end Detrix.Connections
