/-
**Connections and their repository.**

The record of a connection, made from its identity, and the table in which it is stored. A key has one
row, which is a field of the repository; a connection that is saved again takes the place of its row.
-/

import Detrix.Connections.Identity
import Mathlib.Data.List.Nodup

namespace Detrix.Connections

open Detrix.Core Library Service List

inductive ConnectionStatus where
  | disconnected
  | connecting
  | connected
  | reconnecting
  | failed (message : String)
  deriving DecidableEq

/-- `Connection`, without its timestamps. -/
structure Connection where
  id : ConnectionId
  name : Option String
  workspaceRoot : String
  hostname : String
  host : String
  port : Nat
  language : SourceLanguage
  status : ConnectionStatus
  autoReconnect : Bool
  safeMode : Bool
  controlPlaneUrl : Option String
  buildCommit : Option String
  buildTag : Option String
  userId : Option String
  deriving DecidableEq

def minUnreservedPort : Nat := 1024

def isAgentManagedIdentity (identity : ConnectionIdentity) : Bool :=
  Text.startsWith identity.name agentNamePrefix

def newWithIdentity (digest : String → String) (identity : ConnectionIdentity) (host : String)
    (port : Nat) : Except ServiceError Connection := do
  identity.validate
  if port < minUnreservedPort ∧ ¬ isAgentManagedIdentity identity then
    .error (.invalidConfig ("Port " ++ toString port ++ " is below " ++ toString minUnreservedPort ++
      " (reserved range)"))
  else if host = "" then .error (.invalidConfig "Host cannot be empty")
  else .ok {
    id := identity.toUuid digest
    name := some identity.name
    workspaceRoot := identity.workspaceRoot
    hostname := identity.hostname
    host := host
    port := port
    language := identity.language
    status := .disconnected
    autoReconnect := true
    safeMode := false
    controlPlaneUrl := none
    buildCommit := none
    buildTag := none
    userId := none }

variable {connection : Connection}

theorem newWithIdentity_eq_ok {digest : String → String} {same : ConnectionIdentity}
    {host : String} {port : Nat}
    (made : newWithIdentity digest same host port = .ok connection) :
    connection.id = same.toUuid digest ∧ connection.name = some same.name ∧
      connection.language = same.language ∧
      connection.workspaceRoot = same.workspaceRoot := by
  obtain ⟨_, -, made⟩ := except_bind_eq_ok.mp made
  simp only [ite_error_eq_ok] at made
  rw [← Except.ok.inj made.2.2]
  exact ⟨rfl, rfl, rfl, rfl⟩

def Connection.isAgentManaged (connection : Connection) : Bool :=
  connection.name.any (Text.startsWith · agentNamePrefix)

/-! ### The table -/

structure ConnectionRepository where
  rows : List Connection
  distinct : (rows.map (·.id)).Nodup

namespace ConnectionRepository

theorem distinct_nil : (map Connection.id []).Nodup := nodup_nil

def empty : ConnectionRepository := ⟨[], distinct_nil⟩

variable (repo : ConnectionRepository)

theorem eq_of_id {one other : Connection} (isOne : one ∈ repo.rows) (ne : other ∈ repo.rows)
    (same : one.id = other.id) : one = other :=
  inj_on_of_nodup_map repo.distinct isOne ne same

variable {change : Connection → Connection}

theorem distinct_map (keeps : ∀ row, (change row).id = row.id) :
    ((repo.rows.map change).map (·.id)).Nodup := by
  rw [map_map]
  exact (map_congr_left fun row _ => keeps row) ▸ repo.distinct

theorem distinct_filter (keep : Connection → Bool) : ((repo.rows.filter keep).map (·.id)).Nodup :=
  repo.distinct.sublist (filter_sublist.map _)

def findById (id : ConnectionId) : Option Connection := repo.rows.find? (·.id = id)

/-- A row takes the columns of a saved connection; the user of the row stays if it has none. -/
def overwrite (connection row : Connection) : Connection :=
  if row.id = connection.id then
    { connection with userId := connection.userId <|> row.userId }
  else row

theorem overwrite_id (connection row : Connection) : (overwrite connection row).id = row.id := by
  unfold overwrite
  split
  next same => exact same.symm
  next => rfl

theorem distinct_append (absent : repo.rows.any (·.id = connection.id) = false) :
    ((repo.rows ++ [connection]).map (·.id)).Nodup := by
  rw [map_append, nodup_append]
  refine ⟨repo.distinct, nodup_singleton _, fun id old new isNew same => ?_⟩
  obtain ⟨row, mem, rfl⟩ := mem_map.mp old
  rw [map_singleton, mem_singleton] at isNew
  have missing := any_eq_false.mp absent row mem
  exact absurd (same.trans isNew) (by simpa using missing)

/-- `save`: an insertion, or an update of the row with that id. -/
def save (connection : Connection) : ConnectionRepository :=
  if absent : repo.rows.any (·.id = connection.id) = false then
    ⟨repo.rows ++ [connection], repo.distinct_append absent⟩
  else ⟨repo.rows.map (overwrite connection), repo.distinct_map (overwrite_id connection)⟩

def saveBatch (connections : List Connection) : ConnectionRepository := connections.foldl save repo

def withStatus (id : ConnectionId) (status : ConnectionStatus) (row : Connection) : Connection :=
  if row.id = id then { row with status } else row

theorem withStatus_id (id : ConnectionId) (status : ConnectionStatus) (row : Connection) :
    (withStatus id status row).id = row.id := by
  unfold withStatus
  split <;> rfl

/-- `update_status`; a missing row is an error, which leaves the table as it is. -/
def updateStatus (id : ConnectionId) (status : ConnectionStatus) : ConnectionRepository :=
  ⟨repo.rows.map (withStatus id status), repo.distinct_map (withStatus_id id status)⟩

def delete (id : ConnectionId) : ConnectionRepository :=
  ⟨repo.rows.filter (·.id ≠ id), repo.distinct_filter _⟩

def isStale (status : ConnectionStatus) : Bool :=
  match status with
  | .disconnected | .failed _ => true
  | _ => false

def findStaleSameProject (name : String) (language : SourceLanguage) (workspaceRoot : String)
    (excludeId : ConnectionId) : List ConnectionId :=
  (repo.rows.filter fun row => row.name = some name && row.language = language &&
    row.workspaceRoot = workspaceRoot && row.id ≠ excludeId && isStale row.status).map (·.id)

/-! ### Rows of other connections -/

variable {repo} {c d : ConnectionId}

theorem find?_change (keeps : ∀ row, (change row).id = row.id) (rows : List Connection) :
    (rows.map change).find? (·.id = c) = (rows.find? (·.id = c)).map change := by
  rw [find?_map]
  simp [Function.comp_def, keeps]

theorem findById_map (keeps : ∀ row, (change row).id = row.id)
    (same : ∀ row, row.id = c → change row = row) (rows : List Connection) :
    (rows.map change).find? (·.id = c) = rows.find? (·.id = c) := by
  rw [find?_change keeps]
  cases found : rows.find? (·.id = c) with
  | none => rfl
  | some row => exact congrArg some (same row (by simpa using find?_some found))

theorem findById_updateStatus (ne : c ≠ d) (status : ConnectionStatus) :
    (repo.updateStatus d status).findById c = repo.findById c :=
  findById_map (withStatus_id d status)
    (fun _ found => if_neg fun same => ne (found.symm.trans same)) repo.rows

theorem findById_delete (ne : c ≠ d) : (repo.delete d).findById c = repo.findById c := by
  show (repo.rows.filter (·.id ≠ d)).find? (·.id = c) = repo.rows.find? (·.id = c)
  rw [find?_filter]
  congr 1
  funext row
  by_cases found : row.id = c
  · simp [found, ne]
  · simp [found]

theorem findById_save (ne : c ≠ connection.id) :
    (repo.save connection).findById c = repo.findById c := by
  unfold save
  split
  · show (repo.rows ++ [connection]).find? (·.id = c) = repo.rows.find? (·.id = c)
    rw [find?_append, find?_singleton, if_neg (by simpa using ne.symm), Option.or_none]
  · exact findById_map (overwrite_id connection)
      (fun _ found => if_neg fun same => ne (found.symm.trans same)) repo.rows

theorem findById_saveBatch {conns : List Connection}
    (ne : ∀ connection ∈ conns, c ≠ connection.id) :
    (repo.saveBatch conns).findById c = repo.findById c := by
  induction conns generalizing repo with
  | nil => rfl
  | cons connection rest ih =>
    show ((repo.save connection).saveBatch rest).findById c = repo.findById c
    rw [ih fun other mem => ne other (.tail _ mem), findById_save (ne connection (.head _))]

variable (repo)

def statusOf (id : ConnectionId) : Option ConnectionStatus := (repo.findById id).map (·.status)

end ConnectionRepository

end Detrix.Connections
