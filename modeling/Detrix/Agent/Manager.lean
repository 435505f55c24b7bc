/-
**The manager of the agents' connections.**

Its state, the actions of its tasks, and the tasks: a registration, a message of an agent's stream, the
end of a stream, a call by a remote adapter. Each access to a table and each call of the storage is one
action, so that tasks can take turns between any two of them; a task that has the lock of the
registrations, or of the scanner's updates, keeps the others of its kind waiting.
-/

import Detrix.Agent.Entries
import Detrix.Library.Task
import Detrix.Service.Repository

namespace Detrix.Agent

open Detrix.Core Library Connections Service Function List

/-! ### The state -/

/-- `AgentConnectionManager`, with the repositories. The directory lists every connection that has been
routed: the routing table is iterated over along it. -/
@[ext]
structure Manager where
  agents : AgentId → Option AgentInfo
  entries : ConnectionId → Entries
  directory : List ConnectionId
  pendingPings : AgentId → List Nat
  connections : ConnectionRepository
  metrics : Repository
  acknowledgements : List (Session × OutgoingAgentMessage)
  registrationLocked : Bool
  updateLocked : Bool
  clock : Nat
  listed : ∀ c, (entries c).route.isSome = true → c ∈ directory

namespace Manager

theorem listed_fresh (c : ConnectionId) (routed : Entries.fresh.route.isSome = true) : c ∈ [] :=
  nomatch routed

def new (connections : ConnectionRepository) (metrics : Repository) : Manager where
  agents _ := none
  entries _ := .fresh
  directory := []
  pendingPings _ := []
  connections := connections
  metrics := metrics
  acknowledgements := []
  registrationLocked := false
  updateLocked := false
  clock := 0
  listed := listed_fresh

variable (s : Manager)

def directoryWith (c : ConnectionId) (entries : Entries) : List ConnectionId :=
  if entries.route.isSome && !s.directory.contains c then s.directory ++ [c] else s.directory

theorem listed_put (c : ConnectionId) (entries : Entries) (d : ConnectionId)
    (routed : (update s.entries c entries d).route.isSome = true) :
    d ∈ s.directoryWith c entries := by
  unfold directoryWith
  by_cases same : d = c
  · subst same
    rw [update_self] at routed
    split
    · exact mem_append_right _ (.head _)
    next known =>
      rw [routed, Bool.true_and, Bool.not_eq_true', Bool.not_eq_false, contains_iff_mem] at known
      exact known
  · rw [update_of_ne same] at routed
    have old := s.listed d routed
    split
    · exact mem_append_left _ old
    · exact old

def put (c : ConnectionId) (entries : Entries) : Manager :=
  { s with
    entries := update s.entries c entries
    directory := s.directoryWith c entries
    listed := s.listed_put c entries }

def store (c : ConnectionId) : Option ConnectionStatus → Manager
  | none => s
  | some status => { s with connections := s.connections.updateStatus c status }

def context (c : ConnectionId) : Context :=
  ⟨s.agents, (s.connections.findById c).isSome, s.clock⟩

def ownedBy (agent : AgentId) : List ConnectionId :=
  s.directory.filter fun c => (s.entries c).route = some agent

theorem mem_ownedBy {agent : AgentId} {c : ConnectionId} :
    c ∈ s.ownedBy agent ↔ (s.entries c).route = some agent := by
  rw [ownedBy, mem_filter, decide_eq_true_eq]
  exact and_iff_right_of_imp fun routed => s.listed c (by rw [routed]; rfl)

end Manager

/-! ### The scanner's snapshots -/

/-- The binaries of a snapshot by their processes: of two with one process the later one counts. -/
def byProcess : List AgentBinaryInfo → List AgentBinaryInfo
  | [] => []
  | binary :: rest =>
    if rest.any (·.process = binary.process) then byProcess rest else binary :: byProcess rest

def reports (binaries : List AgentBinaryInfo) (binary : AgentBinaryInfo) : Bool :=
  binaries.any (·.process = binary.process)

def addedBinaries (current binaries : List AgentBinaryInfo) : List AgentBinaryInfo :=
  binaries.filter fun binary => !reports current binary

def removedBinaries (current binaries : List AgentBinaryInfo) : List AgentBinaryInfo :=
  (byProcess current).filter fun binary => !reports binaries binary

/-! ### Actions -/

inductive Action where
  | on (c : ConnectionId) (step : Step)
  -- a message that concerns no single connection
  | receive (agent : AgentId) (session : Session) (message : IncomingAgentMessage)
  | recordHeartbeat (agent : AgentId)
  | takePings (agent : AgentId)
  -- an update of the scanner
  | lockUpdate (agent : AgentId) (binaries : List AgentBinaryInfo)
  | compareBinaries (agent : AgentId) (binaries : List AgentBinaryInfo)
  | saveAdded (agent : AgentId) (hostname : String) (session : Session) (binary : AgentBinaryInfo)
  | setBinaries (agent : AgentId) (binaries : List AgentBinaryInfo)
  | unlockUpdate
  -- stale connections
  | findStale (connection : Connection)
  | checkStale (stale target : ConnectionId)
  | migrateMetrics (stale target : ConnectionId)
  | deleteStale (stale : ConnectionId)
  -- a registration
  | lockRegistration (registration : Registration)
  | saveConnections (registration : Registration) (connections : List Connection)
  | insertAgent (registration : Registration)
  | acknowledge (session : Session) (message : OutgoingAgentMessage)
  | unlockRegistration
  -- the end of a session
  | removeAgent (agent : AgentId) (session : Option Session)
  | collectConnections (agent : AgentId)

def onEach (c : ConnectionId) (steps : List Step) : List Action := steps.map (.on c)

/-- What a message that concerns no single connection does. -/
def handleUnscoped (agent : AgentId) : IncomingAgentMessage → List Action
  | .heartbeat => [.recordHeartbeat agent]
  | .registerUpdate binaries => [.lockUpdate agent binaries]
  | .pong => [.takePings agent]
  | _ => []

def createConnection (env : Env) (hostname : String) (binary : AgentBinaryInfo)
    (captureBackend captureProfile : String) : OutgoingAgentMessage :=
  .createConnection (connectionIdOf env.digest hostname binary) (languageName binary.language)
    binary.binaryPath hostname 0 true captureBackend captureProfile env.debugInfoPath

/-- The same in a registration, where the Rust binaries may be asked for the eBPF backend. -/
def createRegistered (env : Env) (hostname : String) (binary : AgentBinaryInfo) :
    OutgoingAgentMessage :=
  if binary.language = .rust ∧ env.rustEbpf then createConnection env hostname binary "ebpf" "rust"
  else createConnection env hostname binary "" ""

def reconcile (env : Env) (agent : AgentId) (info : AgentInfo) (binaries : List AgentBinaryInfo) :
    List Action :=
  ((removedBinaries info.binaries binaries).map (connectionIdOf env.digest info.hostname)).flatMap
      (onEach · teardown) ++
    (addedBinaries info.binaries binaries).map (Action.saveAdded agent info.hostname info.session) ++
    [Action.setBinaries agent binaries, .unlockUpdate]

def installAdded (env : Env) (agent : AgentId) (hostname : String) (session : Session)
    (binary : AgentBinaryInfo) : List Step :=
  [.insertChannel, .insertRequests, .insertRoute agent,
    .sendMessage session (createConnection env hostname binary "" "")]

def installRegistered (agent : AgentId) : List Step :=
  [.openChannel, .insertRoute agent, .insertRequests]

def teardownStale : List Step :=
  [.cancelPending, .removeChannel, .removeReceiver, .removeRequests, .removeRoute, .removeLiveness]

def install (env : Env) (registration : Registration) (connections : List Connection) :
    List Action :=
  connections.map Action.findStale ++
    connections.flatMap (fun connection =>
      onEach connection.id (installRegistered registration.agent)) ++
    [Action.insertAgent registration,
      .acknowledge registration.session
        (.registerAck true "" (env.minCompatibleAgentVersion.getD ""))] ++
    registration.binaries.map fun binary =>
      Action.on (connectionIdOf env.digest registration.hostname binary)
        (.sendMessage registration.session (createRegistered env registration.hostname binary))

/-- The reason to reject a version, and the version that is required. -/
def rejection (env : Env) (version : String) : Option (String × String) := do
  let minVersion ← env.minCompatibleAgentVersion
  let reason ← semverCompare version minVersion
  some (reason, minVersion)

def registeredConnections (env : Env) (registration : Registration) :
    Except ServiceError (List Connection) :=
  registration.binaries.mapM (connectionOf env.digest registration.hostname)

/-- What a registration does once it has its lock, before it releases it. -/
def registrationBody (env : Env) (registration : Registration) : List Action :=
  match rejection env registration.version with
  | some (reason, minVersion) =>
    [.acknowledge registration.session (.registerAck false reason minVersion)]
  | none =>
    match registeredConnections env registration with
    | .error _ => []
    | .ok connections => [.saveConnections registration connections]

/-- **One action**; `fails` is the answer of the storage. -/
def perform (env : Env) : Perform Manager Action := fun fails s action =>
  match action with
  | .on c step =>
    (step.perform env c fails (s.context c) (s.entries c)).map fun outcome =>
      ((s.put c outcome.entries).store c outcome.status, onEach c outcome.next)
  | .receive agent session message =>
    some (s, if (s.agents agent).any (·.session = session) then handleUnscoped agent message else [])
  | .recordHeartbeat agent => some (s, (s.ownedBy agent).map (.on · .recordLiveness))
  | .takePings agent =>
    some ({ s with pendingPings := update s.pendingPings agent [] }, [])
  | .lockUpdate agent binaries =>
    if s.updateLocked then none
    else some ({ s with updateLocked := true }, [.compareBinaries agent binaries])
  | .compareBinaries agent binaries =>
    match s.agents agent with
    | none => some (s, [.unlockUpdate])
    | some info => some (s, reconcile env agent info binaries)
  | .saveAdded agent hostname session binary =>
    match connectionOf env.digest hostname binary with
    | .error _ => some (s, [])
    | .ok connection =>
      if fails then some (s, [])
      else some ({ s with connections := s.connections.saveBatch [connection] },
        .findStale connection ::
          onEach connection.id (installAdded env agent hostname session binary))
  | .setBinaries agent binaries =>
    some ({ s with
      agents := update s.agents agent
        ((s.agents agent).map fun info => { info with binaries }) }, [])
  | .unlockUpdate => some ({ s with updateLocked := false }, [])
  | .findStale connection =>
    if fails then some (s, [])
    else some (s, (s.connections.findStaleSameProject (connection.name.getD "")
      connection.language connection.workspaceRoot connection.id).map (.checkStale · connection.id))
  | .checkStale stale target =>
    -- another agent has it: it is not stale
    if (s.entries stale).route.isSome then some (s, [])
    else some (s, [.migrateMetrics stale target, .deleteStale stale])
  | .migrateMetrics stale target =>
    if fails then some (s, [])
    else some ({ s with metrics := s.metrics.migrateConnectionId stale target }, [])
  | .deleteStale stale =>
    if fails || (s.connections.findById stale).isNone then some (s, [])
    else some ({ s with connections := s.connections.delete stale }, onEach stale teardownStale)
  | .lockRegistration registration =>
    if s.registrationLocked then none
    else some ({ s with registrationLocked := true },
      registrationBody env registration ++ [.unlockRegistration])
  | .saveConnections registration connections =>
    if fails then some (s, [])
    else some ({ s with connections := s.connections.saveBatch connections },
      install env registration connections)
  | .insertAgent registration =>
    some ({ s with agents := update s.agents registration.agent (some registration.info) },
      [])
  | .acknowledge session message =>
    some ({ s with acknowledgements := s.acknowledgements ++ [(session, message)] }, [])
  | .unlockRegistration => some ({ s with registrationLocked := false }, [])
  | .removeAgent agent session =>
    if (s.agents agent).any fun info => session.all (info.session = ·) then
      some ({ s with agents := update s.agents agent none },
        [.collectConnections agent, .takePings agent])
    else some (s, [])
  | .collectConnections agent => some (s, (s.ownedBy agent).flatMap (onEach · teardown))

/-! ### The tasks -/

def registerAtomic (registration : Registration) : List Action := [.lockRegistration registration]

def dispatch (agent : AgentId) (session : Session) : IncomingAgentMessage → List Action
  | .connectionUpdate c update => [.on c (.receive agent session (.update update))]
  | .eventBatch c events => [.on c (.receive agent session (.events events))]
  | .answer request response sentAs =>
    [.on request.connection (.receive agent session (.answer request.key response sentAs))]
  | .dropCount c => [.on c (.receive agent session .dropCount)]
  | message => [.receive agent session message]

def unregisterAgent (agent : AgentId) : List Action := [.removeAgent agent none]

def unregisterAgentIfCurrent (agent : AgentId) (session : Session) : List Action :=
  [.removeAgent agent (some session)]

end Detrix.Agent
