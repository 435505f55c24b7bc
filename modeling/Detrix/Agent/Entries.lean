/-
**What the manager's tables hold under one connection id.**

`Entries` is one row across the tables that are keyed by a connection or by a request of one, together
with the channels made for it, the remote adapters, the calls that wait for an answer and the messages
sent. A `Step` is one access to a table, or one call of the storage, made for a connection: it reads
and changes the entries of this connection alone, and may set the stored status of its row.
-/

import Detrix.Agent.Messages
import Mathlib.Logic.Function.Basic

namespace Detrix.Agent

open Detrix.Core Library Connections Service Function

/-- What the manager is configured with, and what is left open: the digest, the environment of the
process and the text of an error of the adapter factory. -/
structure Env where
  digest : String → String
  minCompatibleAgentVersion : Option String
  hasLifecycleManager : Bool
  rustEbpf : Bool
  debugInfoPath : String
  startError : String

/-- What is put into the channel of a waiting call: the agent's response, or the error of a
cancellation. -/
inductive Answer where
  | response (response : Response) (sentAs : Nat)
  | error (code message : String)
  deriving DecidableEq

/-- A oneshot channel: nobody has sent, an answer is in it, the sender is gone, the receiver is
gone. -/
inductive Oneshot where
  | waiting
  | answered (answer : Answer)
  | dropped
  | closed
  deriving DecidableEq

/-- A call of `send_and_await`. -/
structure Call where
  key : RequestKey
  oneshot : Oneshot
  returned : Bool

/-- A message in the stream of a session; `call` is the number of the call that has sent it. -/
structure Sent where
  session : Session
  message : OutgoingAgentMessage
  call : Option Nat

/-- The adapter of a connection: a remote adapter, with its number and the channel whose receiver it
listens to, or one that the factory has made. -/
inductive Adapter where
  | remote (number channel : Nat)
  | direct

structure Entries where
  /-- `connection_to_agent` -/
  route : Option AgentId
  /-- `event_channels` -/
  channel : Option Nat
  /-- `event_receivers` -/
  receiver : Option Nat
  /-- `connection_requests` -/
  requests : Option (List RequestKey)
  /-- `request_to_connection` -/
  linked : RequestKey → Bool
  /-- `pending_requests` -/
  pending : RequestKey → Option Nat
  /-- `liveness_timestamps` -/
  liveness : Option Nat
  /-- `starting_adapters` -/
  starting : Bool
  /-- the table of the lifecycle manager -/
  adapter : Option Adapter
  channelsMade : Nat
  /-- channels whose receiver is gone -/
  closed : Nat → Bool
  /-- what has been sent into each channel -/
  events : Nat → List MetricEvent
  /-- the remote adapters made, and the `request_counter` of each -/
  adaptersMade : Nat
  counter : Nat → Nat
  callsMade : Nat
  calls : Nat → Option Call
  /-- what has been sent to agents for the connection -/
  sent : List Sent

def Entries.fresh : Entries where
  route := none
  channel := none
  receiver := none
  requests := none
  linked _ := false
  pending _ := none
  liveness := none
  starting := false
  adapter := none
  channelsMade := 0
  closed _ := false
  events _ := []
  adaptersMade := 0
  counter _ := 0
  callsMade := 0
  calls _ := none
  sent := []

/-- What a step reads besides the entries: the agents, whether the connection has a row, the time. -/
structure Context where
  agents : AgentId → Option AgentInfo
  stored : Bool
  clock : Nat

/-- A message that concerns one connection. -/
inductive Payload where
  | update (update : ConnectionUpdate)
  | events (events : List MetricEvent)
  | answer (key : RequestKey) (response : Response) (sentAs : Nat)
  | dropCount

inductive Step where
  -- dispatch
  | receive (agent : AgentId) (session : Session) (payload : Payload)
  | authorize (agent : AgentId) (payload : Payload)
  -- a connection update
  | admitUpdate (agent : AgentId) (update : ConnectionUpdate)
  | closeRejected (agent : AgentId)
  | lookForAdapter (status : ConnectionStatus)
  | claimStart
  | loadConnection
  | stopExisting
  | makeAdapter
  | takeReceiver
  | startRemote (number : Nat) (receiver : Option Nat)
  | insertAdapter (number : Nat) (receiver : Option Nat)
  | releaseStart
  | stopAdapter
  | sendClose
  | updateStatus (status : ConnectionStatus)
  -- events
  | cloneSender (events : List MetricEvent)
  | sendEvents (channel : Nat) (events : List MetricEvent)
  -- an answer
  | unlinkRequest (key : RequestKey) (answer : Answer)
  | answerRequest (key : RequestKey) (answer : Answer)
  | untrackRequest (key : RequestKey)
  -- removal
  | cancelPending
  | removeChannel
  | removeReceiver
  | removeRequests
  | removeRoute
  | removeLiveness
  -- insertion
  | openChannel
  | insertChannel
  | insertReceiver (channel : Nat)
  | insertRequests
  | insertRoute (agent : AgentId)
  | recordLiveness
  | sendMessage (session : Session) (message : OutgoingAgentMessage)
  -- a call
  | drawRequest (number : Nat) (command : Command)
  | openCall (key : RequestKey) (command : Command)
  | trackRequest (key : RequestKey)
  | linkRequest (key : RequestKey)
  | addPending (key : RequestKey) (call : Nat)
  | sendRequest (key : RequestKey) (command : Command) (call : Nat)
  | awaitAnswer (key : RequestKey) (call : Nat)
  | forgetPending (key : RequestKey)
  | forgetLink (key : RequestKey)
  | returnCall (call : Nat)

/-- What a step leaves: the entries, a status that it has stored, and the steps that come next. -/
structure Outcome where
  entries : Entries
  status : Option ConnectionStatus := none
  next : List Step := []

namespace Entries

variable (entries : Entries)

def dropReceiver : Option Nat → Entries
  | none => entries
  | some channel => { entries with closed := update entries.closed channel true }

/-- A channel is made, and put into the table of the senders. -/
def withChannel : Entries :=
  { entries with channel := some entries.channelsMade, channelsMade := entries.channelsMade + 1 }

/-- The sender of a waiting call is used, or dropped. -/
def settle (call : Option Nat) (outcome : Oneshot) : Entries :=
  match call with
  | none => entries
  | some number =>
    { entries with
      calls := update entries.calls number ((entries.calls number).map fun call =>
        if call.oneshot = .waiting then { call with oneshot := outcome } else call) }

/-- The sender of a request is taken out of the table, and used or dropped. -/
def takePending (key : RequestKey) (outcome : Oneshot) : Entries :=
  { entries.settle (entries.pending key) outcome with
    pending := update entries.pending key none }

def sendToAgent (context : Context) (message : OutgoingAgentMessage) (call : Option Nat) :
    Option Entries := do
  let agent ← entries.route
  let info ← context.agents agent
  some { entries with sent := entries.sent ++ [⟨info.session, message, call⟩] }

/-- Removes the request from the three tables, in the order of a failure. -/
def forget (key : RequestKey) (call : Nat) : List Step :=
  [.forgetPending key, .forgetLink key, .untrackRequest key, .returnCall call]

end Entries

open Entries

def startFailed (message : String) : List Step := [.releaseStart, .updateStatus (.failed message)]

def afterAdmission (env : Env) (status : ConnectionStatus) : List Step :=
  match env.hasLifecycleManager, status with
  | true, .connected | true, .disconnected | true, .failed _ => [.lookForAdapter status]
  | _, _ => [.updateStatus status]

/-- What a message of the owner does. -/
def handle (agent : AgentId) : Payload → List Step
  | .update update => [.admitUpdate agent update]
  | .events events => [.cloneSender events]
  | .answer key response sentAs => [.unlinkRequest key (.response response sentAs)]
  | .dropCount => []

/-- The message is for a connection, or answers a request of one, that is routed to the agent. -/
def owns (entries : Entries) (agent : AgentId) : Payload → Bool
  | .answer key _ _ => entries.linked key && entries.route = some agent
  | _ => entries.route = some agent

def cancellation : Answer :=
  .error "CONNECTION_REMOVED" "connection removed by scanner update"

/-- **One step for a connection**; `fails` is the answer of the storage, of the stream or of the timer
that it waits for, and `none` says that it has still to wait. -/
def Step.perform (env : Env) (connection : ConnectionId) (fails : Bool) (context : Context)
    (entries : Entries) : Step → Option Outcome
  | .receive agent session payload =>
    some { entries, next :=
      if (context.agents agent).any (·.session = session) then [.authorize agent payload] else [] }
  | .authorize agent payload =>
    some { entries, next := if owns entries agent payload then handle agent payload else [] }
  | .admitUpdate agent update =>
    match (context.agents agent).bind (·.capabilities.validateCaptureAdmission update) with
    | some reason => some { entries, next := [.closeRejected agent, .updateStatus (.failed reason)] }
    | none => some { entries, next := afterAdmission env update.status }
  | .closeRejected agent =>
    match context.agents agent with
    | some info =>
      some { entries := { entries with
        sent := entries.sent ++ [⟨info.session, .closeConnection connection, none⟩] } }
    | none => some { entries }
  | .lookForAdapter status =>
    if status = .connected then
      if entries.adapter.isSome then some { entries, next := [.updateStatus status] }
      else some { entries, next := [.claimStart] }
    else if entries.adapter.isSome then
      some { entries, next := [.stopAdapter, .updateStatus status] }
    else some { entries, next := [.updateStatus status] }
  | .claimStart =>
    -- another task is starting the adapter: only the status is stored
    if entries.starting then some { entries, next := [.updateStatus .connected] }
    else some { entries := { entries with starting := true }, next := [.loadConnection] }
  | .loadConnection =>
    if fails then some { entries, next := [.releaseStart] }
    else if context.stored then some { entries, next := [.stopExisting, .makeAdapter] }
    else some { entries, next := [.releaseStart, .updateStatus .connected] }
  | .stopExisting =>
    if entries.adapter.isSome then some { entries, next := [.stopAdapter] } else some { entries }
  | .makeAdapter =>
    if entries.route.isSome then some { entries, next := [.insertChannel, .takeReceiver] }
    else if fails then some { entries, next := startFailed env.startError }
    else some { entries := { entries with adapter := some .direct },
                next := [.releaseStart, .updateStatus .connected] }
  | .takeReceiver =>
    some { entries := { entries with
             receiver := none
             adaptersMade := entries.adaptersMade + 1 },
           next := [.startRemote entries.adaptersMade entries.receiver] }
  | .startRemote number receiver =>
    if entries.route.isSome then
      some { entries := { entries with liveness := some context.clock },
             next := [.insertAdapter number receiver] }
    else
      some { entries := entries.dropReceiver receiver,
             next := startFailed
               (ServiceError.adapter "Agent connection is no longer routed").message }
  | .insertAdapter number receiver =>
    match receiver with
    | some channel =>
      some { entries := { entries with adapter := some (.remote number channel) },
             next := [.releaseStart, .updateStatus .connected] }
    | none =>
      some { entries, next := .sendClose ::
        startFailed (ServiceError.adapter "Event receiver already consumed").message }
  | .releaseStart => some { entries := { entries with starting := false } }
  | .stopAdapter =>
    match entries.adapter with
    | some (.remote _ channel) =>
      some { entries := { entries.dropReceiver (some channel) with adapter := none },
             next := [.sendClose] }
    | some .direct => some { entries := { entries with adapter := none } }
    | none => some { entries }
  | .sendClose =>
    some { entries :=
      (entries.sendToAgent context (.closeConnection connection) none).getD entries }
  | .updateStatus status => some { entries, status := if fails then none else some status }
  | .cloneSender events =>
    match entries.channel with
    | some channel => some { entries, next := [.sendEvents channel events] }
    | none => some { entries }
  | .sendEvents channel events =>
    match events with
    | [] => some { entries }
    | event :: events =>
      if entries.closed channel then some { entries }
      else
        some { entries := { entries with
                 events := update entries.events channel
                   (entries.events channel ++ [event]) },
               next := [.sendEvents channel events] }
  | .unlinkRequest key answer =>
    some { entries := { entries with linked := update entries.linked key false },
           next := .answerRequest key answer ::
             if entries.linked key then [.untrackRequest key] else [] }
  | .answerRequest key answer => some { entries := entries.takePending key (.answered answer) }
  | .untrackRequest key =>
    some { entries := { entries with requests := entries.requests.map (·.filter (· ≠ key)) } }
  | .cancelPending =>
    match entries.requests with
    | some keys =>
      some { entries := { entries with requests := some [] },
             next := keys.map (.answerRequest · cancellation) }
    | none => some { entries }
  | .removeChannel => some { entries := { entries with channel := none } }
  | .removeReceiver =>
    some { entries := { entries.dropReceiver entries.receiver with receiver := none } }
  | .removeRequests => some { entries := { entries with requests := none } }
  | .removeRoute => some { entries := { entries with route := none } }
  | .removeLiveness => some { entries := { entries with liveness := none } }
  | .openChannel =>
    -- a reconnect keeps the channel it finds
    if entries.channel.isSome then some { entries }
    else some { entries := entries.withChannel, next := [.insertReceiver entries.channelsMade] }
  | .insertChannel =>
    some { entries := entries.withChannel, next := [.insertReceiver entries.channelsMade] }
  | .insertReceiver channel =>
    some { entries := { entries.dropReceiver entries.receiver with receiver := some channel } }
  | .insertRequests => some { entries := { entries with requests := some [] } }
  | .insertRoute agent => some { entries := { entries with route := some agent } }
  | .recordLiveness => some { entries := { entries with liveness := some context.clock } }
  | .sendMessage session message =>
    some { entries := { entries with sent := entries.sent ++ [⟨session, message, none⟩] } }
  | .drawRequest number command =>
    some { entries := { entries with
             counter := update entries.counter number (entries.counter number + 1) },
           next := [.openCall (.sequence (entries.counter number)) command] }
  | .openCall key command =>
    let number := entries.callsMade
    some { entries := { entries with
             callsMade := number + 1
             calls := update entries.calls number (some ⟨key, .waiting, false⟩) },
           next := [.trackRequest key, .linkRequest key, .addPending key number,
             .sendRequest key command number] }
  | .trackRequest key =>
    some { entries := { entries with requests := entries.requests.map (·.insert key) } }
  | .linkRequest key =>
    some { entries := { entries with linked := update entries.linked key true } }
  | .addPending key call =>
    some { entries := { entries.takePending key .dropped with
      pending := update entries.pending key (some call) } }
  | .sendRequest key command call =>
    match (if fails then none
        else entries.sendToAgent context (.request ⟨connection, key⟩ command) (some call)) with
    | some entries => some { entries, next := [.awaitAnswer key call] }
    | none => some { entries, next := forget key call }
  | .awaitAnswer key call =>
    match (entries.calls call).map Call.oneshot with
    | some (.answered _) =>
      some { entries, next := [.untrackRequest key, .forgetLink key, .forgetPending key,
        .returnCall call] ++ (match key with | .sequence _ => [.recordLiveness] | .file _ => []) }
    | some .waiting =>
      -- the timer, or nothing yet
      if fails then some { entries := entries.settle (some call) .closed, next := forget key call }
      else none
    | _ => some { entries, next := forget key call }
  | .forgetPending key => some { entries := entries.takePending key .dropped }
  | .forgetLink key =>
    some { entries := { entries with linked := update entries.linked key false } }
  | .returnCall call =>
    some { entries := { entries with
      calls := update entries.calls call
        ((entries.calls call).map fun call => { call with returned := true }) } }

def teardown : List Step :=
  [.cancelPending, .removeChannel, .removeReceiver, .removeRequests, .updateStatus .disconnected,
    .removeRoute, .removeLiveness]

/-- A call by the remote adapter with that number. -/
def remoteCall (number : Nat) (command : Command) : List Step := [.drawRequest number command]

end Detrix.Agent
