/-
**The service of the connections.**

Its calls as tasks: the creation of a connection, its end, the references of the clients, the cleanup of
inactive connections and the restoration at startup. Each access to a table, to the storage or to the
adapters of a connection is one action, so that the calls can take turns between any two of them. The
starting and stopping of an adapter are those of the lifecycle manager.

What a call has answered is kept as a note; the notes are read by no call.
-/

import Detrix.Connections.Tables
import Detrix.Library.Task
import Detrix.Lifecycle.Machine
import Detrix.Service.Repository

namespace Detrix.Connections

open Detrix.Core Library Service Lifecycle

/-- The digest of the ids, how often a start waits for another one, and the text of the error of an
adapter that does not start. -/
structure Env where
  digest : String → String
  maxRetries : Nat
  startError : String

/-- What clients know: the answers to their calls and the references they have given back. -/
inductive Note where
  | created (c : ConnectionId) (client : Option String)
  | attached (c : ConnectionId) (client : String)
  | failed (c : ConnectionId)
  | released (c : ConnectionId) (client : String)
  | releasedAll (client : String)
  deriving DecidableEq

structure Server where
  tables : Tables
  metrics : Repository
  lifecycles : ConnectionId → Lifecycle
  /-- the adapters made so far, which are numbered -/
  instances : Nat
  clock : Int
  notes : List Note

namespace Server

variable (s : Server)

def new (tables : Tables) (metrics : Repository) : Server where
  tables := tables
  metrics := metrics
  lifecycles _ := .new
  instances := 0
  clock := 0
  notes := []

def hasAdapter (c : ConnectionId) : Bool := (s.lifecycles c).stored.isSome

def withLifecycle (c : ConnectionId) (lifecycle : Lifecycle) : Server :=
  { s with lifecycles := Function.update s.lifecycles c lifecycle }

/-- A write to the row of a connection, or to a table that refers to it, succeeds. -/
def writes (fails : Bool) (c : ConnectionId) : Bool := !fails && s.tables.connections.hasRow c

def updateStatus (fails : Bool) (c : ConnectionId) (status : ConnectionStatus) : Server :=
  if s.writes fails c then { s with tables := s.tables.updateStatus s.clock c status } else s

def deleteRow (fails : Bool) (c : ConnectionId) : Server :=
  if s.writes fails c then { s with tables := s.tables.delete c } else s

def addReference (fails : Bool) (c : ConnectionId) (client : String) : Server :=
  if s.writes fails c then { s with tables := s.tables.addReference ⟨c, client, s.clock⟩ } else s

def noting (note : Note) : Server := { s with notes := s.notes ++ [note] }

end Server

/-! ### Actions -/

/-- For whom an adapter is started, which says what comes after it. -/
inductive Purpose where
  | create (client : Option String)
  | background (client : Option String)
  | restore

inductive Action where
  -- a creation
  | findExisting (connection : Connection) (attachesPid : Bool)
  | lookForAdapter (connection : Connection) (attachesPid : Bool)
  | save (connection : Connection) (attachesPid : Bool)
  | findStale (connection : Connection)
  | migrateMetrics (stale target : ConnectionId)
  | setConnecting (connection : Connection)
  | beginStart (c : ConnectionId) (port : Port) (purpose : Purpose)
  | start (c : ConnectionId) (port : Port) (self : Instance) (pc : StartPc) (stored : Bool)
      (purpose : Purpose)
  | finalize (c : ConnectionId) (client : Option String) (answers : Bool)
  -- an end
  | stop (c : ConnectionId) (pc : StopPc)
  | updateStatus (c : ConnectionId) (status : ConnectionStatus)
  | removeReferences (c : ConnectionId)
  | deleteMetrics (c : ConnectionId)
  | deleteRow (c : ConnectionId)
  -- references
  | addReference (c : ConnectionId) (client : String)
  | join (c : ConnectionId) (client : String)
  | findRow (c : ConnectionId) (client : String)
  | attach (c : ConnectionId) (client : String)
  | release (c : ConnectionId) (client : String)
  | releaseAll (client : String)
  -- a cleanup
  | expireReferences (ttlDays : Int)
  | listInactive (ttlDays : Int)
  | sweep (inactive : List ConnectionId)
  | deleteSwept (c : ConnectionId) (rest : List ConnectionId)
  -- a restoration
  | restore (row : Connection)
  | note (note : Note)
  | passTime (micros : Nat)

/-- `disconnect`; the callers only log its error. -/
def disconnect (c : ConnectionId) : List Action :=
  [.stop c .removing, .updateStatus c .disconnected]

def deleteConnection (c : ConnectionId) : List Action :=
  [.stop c .removing, .removeReferences c, .deleteMetrics c]

def referenceOf (c : ConnectionId) (client : Option String) : List Action :=
  client.toList.map (.addReference c)

def returnExisting (connection : Connection) : List Action :=
  match connection.userId with
  | some client => [.join connection.id client]
  | none => [.note (.created connection.id none)]

/-- The start after a connection was saved; with a process id it goes on in the background. -/
def launch (connection : Connection) (attachesPid : Bool) : List Action :=
  if attachesPid then [.setConnecting connection]
  else [.beginStart connection.id connection.port (.create connection.userId)]

/-- What comes after a start, which has succeeded or not. -/
def afterStart (env : Env) (c : ConnectionId) : Purpose → Bool → List Action
  | .create client, true => [.finalize c client true]
  | .create _, false => [.note (.failed c)]
  | .background client, true => [.finalize c client false]
  | .background _, false => [.updateStatus c (.failed env.startError)]
  | .restore, true => [.updateStatus c .connected]
  | .restore, false => [.deleteRow c]

/-- A start returns from here with success; `stored` says that it has stored its adapter. -/
def succeeds (pc : StartPc) (stored : Bool) (lifecycle : Lifecycle) : Bool :=
  match pc with
  | .looking _ => lifecycle.stored.isSome
  | .releasing => stored
  | _ => false

/-- A session of the last run has left this status behind. -/
def wasActive : ConnectionStatus → Bool
  | .connected | .connecting => true
  | _ => false

def restoration (s : Server) (row : Connection) : List Action :=
  if row.isAgentManaged then
    if wasActive row.status || row.status = .reconnecting then [.updateStatus row.id .disconnected]
    else []
  else if wasActive row.status && s.hasAdapter row.id then []
  else [.updateStatus row.id .reconnecting, .beginStart row.id row.port .restore]

/-- **What an action does**; `fails` is the answer of the storage, or of the adapter that is
started. -/
def Server.after (env : Env) (fails : Bool) (s : Server) : Action → Server
  | .save connection _ =>
    if fails then s else { s with tables := s.tables.save s.clock connection }
  | .migrateMetrics stale target =>
    if fails then s else { s with metrics := s.metrics.migrateConnectionId stale target }
  | .setConnecting connection => s.updateStatus fails connection.id .connecting
  | .beginStart _ _ _ => { s with instances := s.instances + 1 }
  | .start c port self pc _ _ =>
    s.withLifecycle c (startStep env.maxRetries port self (!fails) (s.lifecycles c) pc).1
  | .finalize c _ _ => s.updateStatus fails c .connected
  | .stop c pc => s.withLifecycle c (stopStep (s.lifecycles c) pc).1
  | .updateStatus c status => s.updateStatus fails c status
  | .removeReferences c => if fails then s else { s with tables := s.tables.removeConnection c }
  | .deleteMetrics c => if fails then s else { s with metrics := s.metrics.deleteByConnectionId c }
  | .deleteRow c | .deleteSwept c _ => s.deleteRow fails c
  | .addReference c client => s.addReference fails c client
  -- the reference is the last thing before the answer
  | .join c client => (s.addReference fails c client).noting (.created c (some client))
  | .attach c client =>
    (s.addReference fails c client).noting
      (if s.writes fails c then .attached c client else .failed c)
  | .release c client =>
    if fails then s
    else { s with
      tables := s.tables.removeReference c client
      notes := s.notes ++ [.released c client] }
  | .releaseAll client =>
    if fails then s
    else { s with
      tables := s.tables.removeClient client
      notes := s.notes ++ [.releasedAll client] }
  | .expireReferences ttlDays =>
    if fails then s else { s with tables := s.tables.expire s.clock ttlDays }
  | .note answer => s.noting answer
  | .passTime micros => { s with clock := s.clock + micros }
  | .findExisting _ _ | .lookForAdapter _ _ | .findStale _ | .findRow _ _ | .listInactive _
  | .sweep _ | .restore _ => s

/-- **What comes after an action.** -/
def Server.next (env : Env) (fails : Bool) (s : Server) : Action → List Action
  | .findExisting connection attachesPid =>
    match if fails then none else s.tables.connections.findById connection.id with
    | some existing =>
      if existing.status = .connected then [.lookForAdapter connection attachesPid]
      else if existing.status = .connecting then returnExisting connection
      else [.save connection attachesPid]
    | none => [.save connection attachesPid]
  | .lookForAdapter connection attachesPid =>
    if s.hasAdapter connection.id then returnExisting connection else [.save connection attachesPid]
  | .save connection attachesPid =>
    if fails then [.note (.failed connection.id)]
    else .findStale connection :: launch connection attachesPid
  | .findStale connection =>
    if fails then []
    else (s.tables.connections.findStaleSameProject (connection.name.getD "") connection.language
      connection.workspaceRoot connection.id).flatMap fun stale =>
        .migrateMetrics stale connection.id :: deleteConnection stale
  | .setConnecting connection =>
    if s.writes fails connection.id then
      [.note (.created connection.id connection.userId),
        .beginStart connection.id connection.port (.background connection.userId)]
    else [.note (.failed connection.id)]
  | .beginStart c port purpose => [.start c port s.instances (.enter 0) false purpose]
  | .start c port self pc stored purpose =>
    match (startStep env.maxRetries port self (!fails) (s.lifecycles c) pc).2 with
    | some next => [.start c port self next (stored || pc = .storing) purpose]
    | none => afterStart env c purpose (succeeds pc stored (s.lifecycles c))
  | .finalize c client answers =>
    if s.writes fails c then
      referenceOf c client ++ if answers then [.note (.created c client)] else []
    else if answers then [.note (.failed c)]
    else []
  | .stop c pc => (stopStep (s.lifecycles c) pc).2.toList.map (.stop c)
  | .deleteMetrics c => if fails then [] else [.deleteRow c]
  | .findRow c client =>
    if s.writes fails c then [.attach c client] else [.note (.failed c)]
  | .release c client =>
    if !fails && s.tables.refers c client &&
        (s.tables.removeReference c client).countReferences c = 0 then disconnect c
    else []
  | .releaseAll client =>
    if fails then []
    else ((s.tables.connectionsOf client).filter
      ((s.tables.removeClient client).countReferences · = 0)).flatMap disconnect
  | .expireReferences ttlDays => if fails then [] else [.listInactive ttlDays]
  | .listInactive ttlDays =>
    if fails then []
    else [.sweep ((s.tables.listAll.map (·.id)).filter (s.tables.inactiveForDays s.clock ttlDays))]
  | .sweep [] => []
  | .sweep (c :: rest) =>
    -- a count that fails is taken for zero
    if !fails && 0 < s.tables.countReferences c then [.sweep rest]
    else disconnect c ++ [.deleteSwept c rest]
  | .deleteSwept c rest => if s.writes fails c then [.sweep rest] else []
  | .restore row => restoration s row
  | .migrateMetrics _ _ | .updateStatus _ _ | .removeReferences _ | .deleteRow _ | .addReference _ _
  | .join _ _ | .attach _ _ | .note _ | .passTime _ => []

def perform (env : Env) : Perform Server Action := fun fails s action =>
  some (s.after env fails action, s.next env fails action)

theorem of_perform {env : Env} {fails : Bool} {s t : Server} {action : Action} {more : List Action}
    (done : perform env fails s action = some (t, more)) :
    s.after env fails action = t ∧ s.next env fails action = more :=
  Prod.mk.inj (Option.some.inj done)

/-! ### What an action changes -/

section Effects

variable {env : Env} {fails : Bool} (s : Server) (c : ConnectionId)

@[simp] theorem Server.updateStatus_metrics (status : ConnectionStatus) :
    (s.updateStatus fails c status).metrics = s.metrics := by
  unfold updateStatus
  split <;> rfl

@[simp] theorem Server.updateStatus_notes (status : ConnectionStatus) :
    (s.updateStatus fails c status).notes = s.notes := by
  unfold updateStatus
  split <;> rfl

@[simp] theorem Server.deleteRow_metrics : (s.deleteRow fails c).metrics = s.metrics := by
  unfold deleteRow
  split <;> rfl

@[simp] theorem Server.deleteRow_notes : (s.deleteRow fails c).notes = s.notes := by
  unfold deleteRow
  split <;> rfl

@[simp] theorem Server.addReference_metrics (client : String) :
    (s.addReference fails c client).metrics = s.metrics := by
  unfold addReference
  split <;> rfl

@[simp] theorem Server.addReference_notes (client : String) :
    (s.addReference fails c client).notes = s.notes := by
  unfold addReference
  split <;> rfl

def Action.metricsAfter (fails : Bool) (metrics : Repository) : Action → Repository
  | .migrateMetrics stale target =>
    if fails then metrics else metrics.migrateConnectionId stale target
  | .deleteMetrics c => if fails then metrics else metrics.deleteByConnectionId c
  | _ => metrics

theorem Server.after_metrics (action : Action) :
    (s.after env fails action).metrics = action.metricsAfter fails s.metrics := by
  cases action <;> simp only [after, Action.metricsAfter, updateStatus_metrics, deleteRow_metrics,
    addReference_metrics, withLifecycle, noting]
  all_goals split <;> rfl

def Server.noted (fails : Bool) (s : Server) : Action → List Note
  | .note answer => [answer]
  | .join c client => [.created c (some client)]
  | .attach c client => [if s.writes fails c then .attached c client else .failed c]
  | .release c client => if fails then [] else [.released c client]
  | .releaseAll client => if fails then [] else [.releasedAll client]
  | _ => []

theorem Server.after_notes (action : Action) :
    (s.after env fails action).notes = s.notes ++ s.noted fails action := by
  cases action <;> simp only [after, noted, updateStatus_notes, deleteRow_notes,
    addReference_notes, withLifecycle, noting, List.append_nil]
  all_goals split <;> simp

end Effects

/-! ### The calls -/

/-- What `create_connection_with_metadata` is called with; the program goes to the adapter only. -/
structure CreateRequest where
  host : String
  port : Nat
  identity : ConnectionIdentity
  pid : Option Nat
  safeMode : Bool
  controlPlaneUrl : Option String
  buildCommit : Option String
  buildTag : Option String
  userId : Option String

def CreateRequest.connection (digest : String → String) (request : CreateRequest) :
    Except ServiceError Connection := do
  let connection ← newWithIdentity digest request.identity request.host request.port
  validateTenantId "connection user_id" request.userId
  .ok { connection with
    safeMode := request.safeMode
    controlPlaneUrl := request.controlPlaneUrl
    buildCommit := request.buildCommit
    buildTag := request.buildTag
    userId := request.userId }

theorem CreateRequest.connection_id {digest : String → String} {req : CreateRequest}
    {conn : Connection} (made : req.connection digest = .ok conn) :
    conn.id = req.identity.toUuid digest := by
  obtain ⟨first, isFirst, made⟩ := except_bind_eq_ok.mp made
  obtain ⟨_, -, made⟩ := except_bind_eq_ok.mp made
  rw [← Except.ok.inj made]
  exact (newWithIdentity_eq_ok isFirst).1

/-- `create_connection_with_metadata`. -/
def createConnection (env : Env) (request : CreateRequest) : List Action :=
  match request.connection env.digest with
  | .error _ => [.note (.failed (request.identity.toUuid env.digest))]
  | .ok connection => [.findExisting connection request.pid.isSome]

def attachToConnection (c : ConnectionId) (client : String) : List Action := [.findRow c client]

def releaseReference (c : ConnectionId) (client : String) : List Action := [.release c client]

def releaseAllClientReferences (client : String) : List Action := [.releaseAll client]

def cleanupStaleConnections (ttlDays : Int) : List Action :=
  if ttlDays < 0 then [] else [.expireReferences ttlDays]

def restoreConnectionsOnStartup (snapshot : List Connection) : List Action := snapshot.map .restore

/-! ### A service on several hosts -/

namespace Sample

def env : Env := ⟨id, 3, ""⟩

def requestOn (host : String) : CreateRequest where
  host := "127.0.0.1"
  port := 5678
  identity := ⟨"app", .python, "/work", host⟩
  pid := none
  safeMode := false
  controlPlaneUrl := none
  buildCommit := none
  buildTag := none
  userId := none

def connectionOn (host : String) : Connection where
  id := "app|python|/work|" ++ host
  name := some "app"
  workspaceRoot := "/work"
  hostname := host
  host := "127.0.0.1"
  port := 5678
  language := .python
  status := .disconnected
  autoReconnect := true
  safeMode := false
  controlPlaneUrl := none
  buildCommit := none
  buildTag := none
  userId := none

/-- The tables with these connections, to which there are no references. -/
def tablesOf (connections : List Connection) : Tables where
  connections := connections.foldl ConnectionRepository.save .empty
  lastActive _ := 0
  references := []
  distinct := List.nodup_nil
  referenced := fun _ inside => absurd inside List.not_mem_nil

end Sample

end Detrix.Connections
