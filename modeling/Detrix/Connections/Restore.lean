/-
**The restoration at startup beside the creations of the current session.**

The restoration goes over the connections that were stored when the server was started, while clients
create connections. It decides by the status in its snapshot: a connection that was Disconnected there is
restarted, although a client may have created it in the meantime; its adapter is then stopped, and if the
restart fails its row is deleted.

`restore_leaves_sessions`: in every run in which a creation does not begin while the restoration is at
work on its connection, and the restoration passes over the connections of the creations that have
begun, what the restoration does leaves every connection that was created alone. Per connection, its
work is from the look at the snapshot's row to the end of the restart (`Orderly`).
-/

import Detrix.Connections.Service

namespace Detrix.Connections

open Detrix.Core Library Lifecycle Task List

/-! ### Two kinds of tasks -/

/-- A call of `create_connection`, with the id of its connection. -/
structure Creation where
  id : ConnectionId
  task : Library.Task Action

structure Startup where
  server : Server
  restoring : Library.Task Action
  creations : List Creation

namespace Startup

def new (tables : Tables) (metrics : Service.Repository) (answers : List Bool) : Startup where
  server := .new tables metrics
  restoring := ⟨restoreConnectionsOnStartup tables.listAll, answers⟩
  creations := []

inductive Turn where
  | begin (request : CreateRequest) (answers : List Bool)
  | create (i : Nat)
  | restore

def step (env : Env) (s : Startup) : Turn → Startup
  | .begin request answers =>
    { s with creations := s.creations ++
        [⟨request.identity.toUuid env.digest, ⟨createConnection env request, answers⟩⟩] }
  | .create i =>
    match s.creations[i]? with
    | none => s
    | some creation =>
      match creation.task.next (perform env) s.server with
      | none => s
      | some (server, task) =>
        { s with
          server := server
          creations := s.creations.set i { creation with task } }
  | .restore =>
    match s.restoring.next (perform env) s.server with
    | none => s
    | some (server, task) => { s with server := server, restoring := task }

end Startup

/-! ### What the tasks consist of -/

/-- An action of the restoration on a connection that it has not passed over. -/
def Action.restores : Action → Option ConnectionId
  | .updateStatus c _ | .deleteRow c | .beginStart c _ .restore | .start c _ _ _ _ .restore => some c
  | _ => none

inductive Restoring : Action → Prop
  | look (row : Connection) : Restoring (.restore row)
  | work {action : Action} {c : ConnectionId} (on : action.restores = some c) : Restoring action

/-- An action of a creation of `c`; what it answers is about `c`. -/
def Serves (c : ConnectionId) : Action → Prop
  | .findExisting connection _ | .lookForAdapter connection _ | .save connection _
  | .setConnecting connection => connection.id = c
  | .beginStart d _ purpose | .start d _ _ _ _ purpose => d = c ∧ purpose ≠ .restore
  | .finalize d _ _ | .join d _ | .note (.created d _) => d = c
  | .findStale _ | .migrateMetrics _ _ | .stop _ _ | .updateStatus _ _ | .removeReferences _
  | .deleteMetrics _ | .deleteRow _ | .addReference _ _ | .note (.failed _) => True
  | _ => False

section Steps

variable {env : Env} {s : Server}

/-- The connections that were created, as far as the clients know. -/
def Server.Created (s : Server) (c : ConnectionId) : Prop := ∃ client, Note.created c client ∈ s.notes

variable {c : ConnectionId} {action : Action} {fails : Bool}

theorem serves_returnExisting {conn : Connection} (isC : conn.id = c) :
    ∀ next ∈ returnExisting conn, Serves c next := by
  unfold returnExisting
  split <;> simpa [Serves] using isC

theorem serves_next (serves : Serves c action) : ∀ next ∈ s.next env fails action, Serves c next := by
  cases action
  case findExisting conn attachesPid =>
    simp only [Server.next]
    repeat' split
    · simpa [Serves] using serves
    · exact serves_returnExisting serves
    · simpa [Serves] using serves
    · simpa [Serves] using serves
  case lookForAdapter conn attachesPid =>
    simp only [Server.next]
    split
    · exact serves_returnExisting serves
    · simpa [Serves] using serves
  case save conn attachesPid =>
    simp only [Server.next]
    split
    · simp [Serves]
    · refine forall_mem_cons.mpr ⟨trivial, ?_⟩
      unfold launch
      split <;> simpa [Serves] using serves
  case findStale conn =>
    simp only [Server.next]
    split
    · simp
    · intro next mem
      obtain ⟨stale, -, either⟩ := mem_flatMap.mp mem
      simp only [deleteConnection, mem_cons, not_mem_nil, or_false] at either
      rcases either with rfl | rfl | rfl | rfl <;> trivial
  case setConnecting conn =>
    simp only [Server.next]
    split
    · simpa [Serves] using serves
    · simp [Serves]
  case beginStart d port purpose => simpa [Server.next, Serves] using serves
  case start d port self pc stored purpose =>
    simp only [Server.next]
    split
    · simpa [Serves] using serves
    · obtain ⟨rfl, own⟩ := serves
      unfold afterStart
      repeat' split
      all_goals simp_all [Serves]
  case finalize d client answers =>
    simp only [Server.next]
    split
    · intro next mem
      rcases mem_append.mp mem with ref | answer
      · obtain ⟨name, -, rfl⟩ := mem_map.mp ref
        trivial
      · cases answers <;> simp_all [Serves]
    · cases answers <;> simp [Serves]
  case stop d pc => simp [Server.next, Serves]
  case deleteMetrics d =>
    simp only [Server.next]
    split <;> simp [Serves]
  case migrateMetrics | updateStatus | removeReferences | deleteRow | addReference | join | note =>
    simp [Server.next]
  all_goals exact serves.elim

theorem created_of_serves {d : ConnectionId} (serves : Serves c action)
    (made : (s.after env fails action).Created d) :
    s.Created d ∨ d = c := by
  obtain ⟨client, mem⟩ := made
  rw [Server.after_notes] at mem
  rcases mem_append.mp mem with old | new
  · exact .inl ⟨client, old⟩
  · refine .inr ?_
    cases action
    case note answer =>
      obtain rfl := mem_singleton.mp new
      exact serves
    case join e _ =>
      obtain ⟨rfl, -⟩ := Note.created.inj (mem_singleton.mp new)
      exact serves
    case attach | release | releaseAll => exact serves.elim
    all_goals cases new

/-! ### The work of the restoration -/

/-- The actions of the work on a connection. -/
inductive Works (c : ConnectionId) : Action → Prop
  | updateStatus (status : ConnectionStatus) : Works c (.updateStatus c status)
  | deleteRow : Works c (.deleteRow c)
  | beginStart (port) : Works c (.beginStart c port .restore)
  | start (port self pc stored) : Works c (.start c port self pc stored .restore)

theorem works (on : action.restores = some c) : Works c action := by
  unfold Action.restores at on
  split at on <;> cases on <;> constructor

theorem restores_next (on : action.restores = some c) :
    ∀ next ∈ s.next env fails action, next.restores = some c := by
  cases works on with
  | updateStatus | deleteRow => simp [Server.next]
  | beginStart port => simp [Server.next, Action.restores]
  | start port self pc stored =>
    simp only [Server.next]
    split
    · simp [Action.restores]
    · cases succeeds pc stored (s.lifecycles c) <;> simp [afterStart, Action.restores]

/-- A connection is as it was: its adapters, and its row. -/
structure Undisturbed (before after : Server) (c : ConnectionId) : Prop where
  lifecycle : after.lifecycles c = before.lifecycles c
  row : after.tables.connections.findById c = before.tables.connections.findById c

/-- The work on one connection leaves the others alone. -/
theorem restores_undisturbed {d : ConnectionId} (on : action.restores = some c)
    (ne : d ≠ c) : Undisturbed s (s.after env fails action) d := by
  cases works on with
  | updateStatus status =>
    simp only [Server.after, Server.updateStatus]
    split
    · exact ⟨rfl, ConnectionRepository.findById_updateStatus ne status⟩
    · exact ⟨rfl, rfl⟩
  | deleteRow =>
    simp only [Server.after, Server.deleteRow]
    split
    · exact ⟨rfl, ConnectionRepository.findById_delete ne⟩
    · exact ⟨rfl, rfl⟩
  | beginStart port => exact ⟨rfl, rfl⟩
  | start port self pc stored => exact ⟨Function.update_of_ne ne _ _, rfl⟩

theorem restores_notes (on : action.restores = some c) :
    (s.after env fails action).notes = s.notes := by
  rw [Server.after_notes]
  cases works on <;> exact append_nil _

/-! ### Turns -/

namespace Startup

def atWork (s : Startup) (c : ConnectionId) : Bool := s.restoring.todo.any (·.restores = some c)

def begun (s : Startup) : List ConnectionId := s.creations.map (·.id)

/-- The restoration passes over a row of its snapshot: it was Connected or Connecting and has an
adapter now, or it is an agent's and was none of Connected, Connecting and Reconnecting. -/
def passesOver (s : Server) (row : Connection) : Bool :=
  if row.isAgentManaged then !(wasActive row.status || row.status = .reconnecting)
  else wasActive row.status && s.hasAdapter row.id

def looksAt (s : Startup) : Option Connection :=
  match s.restoring.todo with
  | .restore row :: _ => some row
  | _ => none

/-- **The turns in which the two do not meet**: a creation does not begin while the restoration is at
work on its connection, and the restoration passes over a connection whose creation has begun. -/
def Orderly (env : Env) (s : Startup) : Turn → Prop
  | .begin request _ => s.atWork (request.identity.toUuid env.digest) = false
  | .create _ => True
  | .restore => ∀ row ∈ s.looksAt, row.id ∈ s.begun → passesOver s.server row = true

instance (env : Env) (s : Startup) : (turn : Turn) → Decidable (Orderly env s turn)
  | .begin _ _ => inferInstanceAs (Decidable (_ = false))
  | .create _ => .isTrue trivial
  | .restore => inferInstanceAs (Decidable (∀ _ ∈ _, _))

/-- What holds in the runs of such turns. -/
structure Apart (s : Startup) : Prop where
  restoring : ∀ action ∈ s.restoring.todo, Restoring action
  serving : ∀ creation ∈ s.creations, ∀ action ∈ creation.task.todo, Serves creation.id action
  answered : ∀ c, s.server.Created c → c ∈ s.begun
  apart : ∀ c ∈ s.begun, ∀ action ∈ s.restoring.todo, action.restores ≠ some c

variable {s : Startup}

theorem apart_new (tables : Tables) (metrics : Service.Repository) (answers : List Bool) :
    Apart (new tables metrics answers) where
  restoring action mem := by
    obtain ⟨row, -, rfl⟩ := mem_map.mp mem
    exact .look row
  serving creation mem := absurd mem not_mem_nil
  answered c := fun ⟨_, mem⟩ => absurd mem not_mem_nil
  apart c mem := absurd mem not_mem_nil

theorem restoration_of_passesOver {server : Server} {row : Connection}
    (passes : passesOver server row = true) : restoration server row = [] := by
  unfold passesOver at passes
  unfold restoration
  split at passes
  · rw [if_pos ‹_›, if_neg (by simpa using passes)]
  · rw [if_neg ‹_›, if_pos passes]

theorem of_next {server : Server} {task : Library.Task Action}
    {result : Server × Library.Task Action} (moved : task.next (perform env) server = some result) :
    ∃ action rest fails, task.todo = action :: rest ∧ result.1 = server.after env fails action ∧
      result.2.todo = server.next env fails action ++ rest := by
  obtain ⟨t, later⟩ := result
  obtain ⟨action, rest, more, isTodo, done, rfl⟩ := next_eq_some moved
  obtain ⟨rfl, rfl⟩ := of_perform done
  exact ⟨action, rest, _, isTodo, rfl, rfl⟩

theorem Apart.begin (inv : Apart s) (req : CreateRequest) (answers : List Bool)
    (idle : s.atWork (req.identity.toUuid env.digest) = false) :
    Apart (s.step env (.begin req answers)) where
  restoring := inv.restoring
  serving creation mem := by
    rcases mem_append.mp mem with old | new
    · exact inv.serving creation old
    · rw [mem_singleton.mp new]
      show ∀ action ∈ createConnection env req, _
      unfold createConnection
      split
      · simp [Serves]
      next conn made => exact forall_mem_singleton.mpr (CreateRequest.connection_id made)
  answered c created := by
    rw [begun, step, map_append]
    exact mem_append_left _ (inv.answered c created)
  apart c isBegun action mem on := by
    rw [begun, step, map_append] at isBegun
    rcases mem_append.mp isBegun with old | new
    · exact inv.apart c old action mem on
    · obtain rfl := mem_singleton.mp new
      have idleHere := any_eq_false.mp idle action mem
      exact idleHere (by simpa using on)

theorem begun_set {i : Nat} {creation : Creation} (known : s.creations[i]? = some creation)
    (task : Library.Task Action) :
    (s.creations.set i { creation with task }).map (·.id) = s.begun := by
  refine ext_getElem? fun j => ?_
  rw [begun, getElem?_map, getElem?_map]
  by_cases same : j = i
  · subst same
    rw [Calls.set_self known, known]
    rfl
  · rw [getElem?_set_ne (Ne.symm same)]

theorem Apart.create (inv : Apart s) (i : Nat) : Apart (s.step env (.create i)) := by
  simp only [step]
  split
  · exact inv
  next creation known =>
    split
    · exact inv
    next server task moved =>
      obtain ⟨action, rest, fails, isTodo, rfl, isRest⟩ := of_next moved
      have member := mem_of_getElem? known
      have serves := inv.serving creation member
      rw [isTodo, forall_mem_cons] at serves
      have same := begun_set known task
      refine ⟨inv.restoring, fun other mem => ?_, fun c made => ?_, fun c isBegun => ?_⟩
      · rcases mem_or_eq_of_mem_set mem with old | rfl
        · exact inv.serving other old
        · intro next planned
          rw [show task.todo = _ from isRest] at planned
          rcases mem_append.mp planned with new | later
          · exact serves_next serves.1 next new
          · exact serves.2 next later
      · rw [begun, same]
        rcases created_of_serves serves.1 made with before | rfl
        · exact inv.answered c before
        · exact mem_map_of_mem member
      · rw [begun, same] at isBegun
        exact inv.apart c isBegun

/-- What the restoration does next: it looks at a row, or works on a connection whose creation has not
begun. -/
theorem Apart.restoring_cases (inv : Apart s) {rest : List Action}
    (isTodo : s.restoring.todo = action :: rest) :
    (∃ row, action = .restore row ∧ s.looksAt = some row) ∨
      ∃ c, action.restores = some c ∧ c ∉ s.begun := by
  have mem : action ∈ s.restoring.todo := isTodo ▸ (.head _)
  cases inv.restoring action mem with
  | look row => exact .inl ⟨row, rfl, by rw [looksAt, isTodo]⟩
  | @work _ c on => exact .inr ⟨c, on, fun isBegun => inv.apart c isBegun action mem on⟩

theorem Apart.restore (inv : Apart s) (orderly : Orderly env s .restore) :
    Apart (s.step env .restore) := by
  simp only [step]
  split
  · exact inv
  next server task moved =>
    obtain ⟨action, rest, fails, isTodo, rfl, isRest⟩ := of_next moved
    have later : ∀ next ∈ rest, next ∈ s.restoring.todo := fun next mem =>
      isTodo ▸ .tail _ mem
    -- what is new is work on one connection, of which no creation has begun
    have work : ∃ c, (c ∈ s.begun → s.server.next env fails action = []) ∧
        ∀ next ∈ s.server.next env fails action, next.restores = some c := by
      rcases inv.restoring_cases isTodo with ⟨row, rfl, looks⟩ | ⟨c, on, fresh⟩
      · refine ⟨row.id, fun isBegun => restoration_of_passesOver (orderly row looks isBegun), ?_⟩
        simp only [Server.next, restoration]
        repeat' split
        all_goals simp [Action.restores]
      · exact ⟨c, fun isBegun => absurd isBegun fresh, restores_next on⟩
    obtain ⟨c, idle, on⟩ := work
    refine ⟨fun next planned => ?_, inv.serving, fun d made => ?_,
      fun d isBegun next planned => ?_⟩
    · rcases mem_append.mp (show next ∈ _ from isRest ▸ planned) with new | old
      · exact .work (on next new)
      · exact inv.restoring next (later next old)
    · refine inv.answered d ?_
      rcases inv.restoring_cases isTodo with ⟨row, rfl, -⟩ | ⟨_, works, -⟩
      · exact made
      · obtain ⟨client, mem⟩ := made
        exact ⟨client, restores_notes works ▸ mem⟩
    · rcases mem_append.mp (show next ∈ _ from isRest ▸ planned) with new | old
      · intro onD
        cases (on next new).symm.trans onD
        rw [idle isBegun] at new
        exact not_mem_nil new
      · exact inv.apart d isBegun next (later next old)

theorem Apart.turn (inv : Apart s) (turn : Turn) (orderly : Orderly env s turn) :
    Apart (s.step env turn) := by
  cases turn with
  | begin req answers => exact inv.begin req answers orderly
  | create i => exact inv.create i
  | restore => exact inv.restore orderly

end Startup

end Steps

/-! ### Runs -/

/-- **The restoration leaves the current session alone.** In every run of orderly turns from the start
of the server, what the restoration does next leaves the adapters and the row, with its status, of every
connection alone for which a creation has returned. -/
theorem restore_leaves_sessions (env : Env) (tables : Tables) (metrics : Service.Repository)
    (answers : List Bool) (turns : List Startup.Turn)
    (orderly : Run.Allowed (Startup.step env) (Startup.Orderly env)
      (.new tables metrics answers) turns)
    (next : Startup.Orderly env
      (Run.after (Startup.step env) (.new tables metrics answers) turns) .restore)
    (c : ConnectionId)
    (created : (Run.after (Startup.step env) (.new tables metrics answers) turns).server.Created c) :
    Undisturbed (Run.after (Startup.step env) (.new tables metrics answers) turns).server
      ((Run.after (Startup.step env) (.new tables metrics answers) turns).step env .restore).server
      c := by
  have inv : Startup.Apart (Run.after (Startup.step env) (.new tables metrics answers) turns) :=
    @Run.invariant_after _ _ (Startup.step env) _ Startup.Apart
      (fun _ turn held now => held.turn turn now) turns _ (Startup.apart_new tables metrics answers)
      orderly
  simp only [Startup.step]
  split
  · exact ⟨rfl, rfl⟩
  next server task moved =>
    obtain ⟨action, rest, fails, isTodo, rfl, -⟩ := Startup.of_next moved
    rcases inv.restoring_cases isTodo with ⟨row, rfl, -⟩ | ⟨d, on, fresh⟩
    · exact ⟨rfl, rfl⟩
    · refine restores_undisturbed on fun same => fresh ?_
      exact same ▸ inv.answered c created

namespace Sample

/-- A creation runs to its end, on a server that has the connection with this status in its
snapshot. -/
@[irreducible]
def afterCreation (status : ConnectionStatus) (answers : List Bool) : Startup :=
  Run.after (Startup.step env) (.new (tablesOf [{ connectionOn "host" with status }]) .empty answers)
    (.begin (requestOn "host") [] :: replicate 20 (.create 0))

@[irreducible]
def afterRestoration (status : ConnectionStatus) (answers : List Bool) : Startup :=
  Run.after (Startup.step env) (afterCreation status answers) (replicate 20 .restore)

/-- The restart fails: the adapter is not created. -/
def restartFails : List Bool := [false, false, false, false, false, false, false, true]

end Sample

open Sample

/-- The connection was Disconnected in the snapshot. A client has created it since then and has its
answer; the restoration stops its adapter, fails to start another one and deletes the row. -/
theorem session_torn_down :
    ((afterCreation .disconnected restartFails).server.Created "app|python|/work|host" ∧
      (afterCreation .disconnected restartFails).server.hasAdapter
        "app|python|/work|host" = true ∧
      (afterCreation .disconnected restartFails).server.tables.connections.statusOf
        "app|python|/work|host" = some .connected) ∧
    (afterRestoration .disconnected restartFails).server.hasAdapter
        "app|python|/work|host" = false ∧
      (afterRestoration .disconnected restartFails).server.tables.connections.hasRow
        "app|python|/work|host" = false := by
  refine ⟨⟨⟨none, ?_⟩, ?_, ?_⟩, ?_, ?_⟩
  all_goals decide +kernel

theorem restore_leaves_active :
    Undisturbed (afterCreation .connected []).server
      ((afterCreation .connected []).step env .restore).server "app|python|/work|host" := by
  have result := restore_leaves_sessions env
    (tablesOf [{ connectionOn "host" with status := .connected }]) .empty []
    (.begin (requestOn "host") [] :: replicate 20 (.create 0))
    (by decide) (by decide) "app|python|/work|host" ⟨none, by decide⟩
  unfold afterCreation
  exact result

end Detrix.Connections
