/-
**The cleanup of a project's stale connections.**

A connection that is created, or registered by an agent, takes over the metrics of the stale connections
of its project. The agents' manager leaves a metric that cannot be moved where it is; the service of the
connections deletes it together with the stale connection, also when the move has failed.

* `create_metrics`: what a creation does to the metrics, for any pattern of failing calls.
* `stale_cleanup_keeps_iff`: when none is lost, in both procedures.
-/

import Detrix.Connections.Registered
import Detrix.Service.Runs

namespace Detrix.Connections

open Detrix.Core Library Service Task List Server Action

/-! ### A creation -/

section Create

variable {env : Env} {faults : Action → Bool} {s t : Server}

/-- An action that leaves the metrics alone, with all that it leads to. -/
def Action.quiet : Action → Bool
  | .findExisting _ _ | .lookForAdapter _ _ | .save _ _ | .findStale _ | .migrateMetrics _ _
  | .deleteMetrics _ => false
  | _ => true

variable (connection : Connection)

theorem quiet_launch (attachesPid : Bool) :
    ∀ next ∈ launch connection attachesPid, next.quiet = true := by
  unfold launch
  split <;> simp [quiet]

theorem quiet_returnExisting : ∀ next ∈ returnExisting connection, next.quiet = true := by
  unfold returnExisting
  split <;> simp [quiet]

theorem quiet_next {fails : Bool} {action : Action} (isQuiet : action.quiet = true) :
    ∀ next ∈ s.next env fails action, next.quiet = true := by
  cases action
  case findExisting | lookForAdapter | save | findStale | migrateMetrics | deleteMetrics =>
    exact nomatch isQuiet
  case start c port self pc stored purpose =>
    simp only [Server.next]
    split
    · simp [quiet]
    · unfold afterStart
      repeat' split
      all_goals simp [quiet]
  case finalize c client answers =>
    simp only [Server.next]
    split
    · intro next mem
      rcases mem_append.mp mem with ref | answer
      · obtain ⟨name, -, rfl⟩ := mem_map.mp ref
        rfl
      · cases answers <;> simp_all [quiet]
    · cases answers <;> simp [quiet]
  case releaseAll client =>
    simp only [Server.next]
    split
    · simp
    · intro next mem
      obtain ⟨c, -, ended⟩ := mem_flatMap.mp mem
      simp only [disconnect, mem_cons, not_mem_nil, or_false] at ended
      rcases ended with rfl | rfl <;> rfl
  case sweep inactive =>
    cases inactive <;> simp only [Server.next]
    · simp
    · split <;> simp [quiet, disconnect]
  case restore row =>
    simp only [Server.next, restoration]
    repeat' split
    all_goals simp [quiet]
  case setConnecting | findRow | release | expireReferences | listInactive | deleteSwept =>
    simp only [Server.next]
    split <;> simp [quiet, disconnect]
  all_goals simp [Server.next, quiet]

variable {answers : List Bool} {connection : Connection} {attachesPid : Bool}

theorem quiet_metrics {todo : List Action}
    (run : Completes (answeredBy (perform env) faults) s ⟨todo, answers⟩ t)
    (all : ∀ action ∈ todo, action.quiet = true) : t.metrics = s.metrics := by
  refine (@Completes.keeps _ _ _ _ _ _ (fun u todo => u.metrics = s.metrics ∧
    ∀ action ∈ todo, action.quiet = true) ?_ run ⟨rfl, all⟩).1
  intro _ u v action rest more done ⟨same, quiet⟩
  have isQuiet := quiet action (.head _)
  obtain ⟨rfl, rfl⟩ := of_perform done
  refine ⟨?_, fun next mem => ?_⟩
  · rw [after_metrics, ← same]
    cases action <;> first | rfl | exact nomatch isQuiet
  · rcases mem_append.mp mem with new | old
    · exact quiet_next isQuiet next new
    · exact quiet next (.tail _ old)

def cleanup (target : ConnectionId) (stales : List ConnectionId) : List Action :=
  stales.flatMap fun stale => .migrateMetrics stale target :: deleteConnection stale

theorem cleanup_metrics {target : ConnectionId} {stales : List ConnectionId}
    (run : Completes (answeredBy (perform env) faults) s ⟨cleanup target stales, answers⟩ t) :
    t.metrics = cleaned faults target s.metrics stales := by
  have folded : t.metrics = (cleanup target stales).foldl
      (fun metrics action => action.metricsAfter (faults action) metrics) s.metrics := by
    refine @Completes.fold _ _ _ _ _ answers _ _ metrics _ ?_ 0 run
    intro action mem u v k alone
    obtain ⟨w, more, done, later⟩ := completes_single.mp alone
    obtain ⟨rfl, rfl⟩ := of_perform done
    rw [quiet_metrics later ?_, after_metrics]
    obtain ⟨stale, -, either⟩ := mem_flatMap.mp mem
    simp only [deleteConnection, mem_cons, not_mem_nil, or_false] at either
    rcases either with rfl | rfl | rfl | rfl
    · simp [Server.next]
    · exact quiet_next rfl
    · exact quiet_next rfl
    · simp only [Server.next]
      split <;> simp [quiet]
  rw [folded, cleanup, foldl_flatMap]
  rfl

/-- A creation comes to the cleanup: the connection is not found in use, and neither saving it nor
the search for stale ones fails. -/
def cleansUp (faults : Action → Bool) (s : Server) (connection : Connection) (attachesPid : Bool) :
    Bool :=
  (faults (.findExisting connection attachesPid) ||
    (s.tables.connections.findById connection.id).all fun existing =>
      existing.status ≠ .connecting &&
        !(existing.status = .connected && s.hasAdapter connection.id)) &&
  !faults (.save connection attachesPid) && !faults (.findStale connection)

theorem save_metrics
    (run : Completes (answeredBy (perform env) faults) s
      ⟨[.save connection attachesPid], answers⟩ t) :
    t.metrics = if !faults (.save connection attachesPid) && !faults (.findStale connection) then
      cleaned faults connection.id s.metrics (stalesOf s.tables.connections connection)
    else s.metrics := by
  obtain ⟨u, more, done, later⟩ := completes_single.mp run
  obtain ⟨rfl, rfl⟩ := of_perform done
  cases no : faults (.save connection attachesPid) with
  | true =>
    simp only [Server.after, Server.next, no, if_true] at later
    exact quiet_metrics later (by simp [quiet])
  | false =>
    simp only [Server.after, Server.next, no, reduceIte] at later
    obtain ⟨v, more, done, later⟩ := completes_cons.mp later
    obtain ⟨rfl, rfl⟩ := of_perform done
    cases failed : faults (.findStale connection) with
    | true =>
      simp only [Server.after, Server.next, failed, if_true, nil_append] at later
      rw [quiet_metrics later (quiet_launch connection attachesPid)]
      rfl
    | false =>
      simp only [Server.after, Server.next, failed, reduceIte] at later
      obtain ⟨w, k, first, second⟩ := later.split rfl
      have loop := @cleanup_metrics env faults _ w _ connection.id
        (stalesOf (s.tables.connections.save connection) connection) first
      rw [quiet_metrics second (quiet_launch connection attachesPid), loop, stalesOf_save]
      rfl

section
variable (run : Completes (answeredBy (perform env) faults) s
      ⟨[.findExisting connection attachesPid], answers⟩ t)
include run

theorem create_metrics :
    t.metrics = if cleansUp faults s connection attachesPid then
      cleaned faults connection.id s.metrics (stalesOf s.tables.connections connection)
    else s.metrics := by
  obtain ⟨u, more, done, later⟩ := completes_single.mp run
  obtain ⟨rfl, rfl⟩ := of_perform done
  simp only [Server.after, Server.next] at later
  cases found : (if faults (.findExisting connection attachesPid) then none
      else s.tables.connections.findById connection.id) with
  | none =>
    rw [found] at later
    rw [save_metrics later]
    congr 1
    unfold cleansUp
    split at found
    · simp [*]
    · simp [found]
  | some old =>
    rw [found] at later
    have known : faults (.findExisting connection attachesPid) = false ∧
        s.tables.connections.findById connection.id = some old := by
      split at found
      · cases found
      · exact ⟨Bool.eq_false_iff.mpr ‹_›, found⟩
    simp only [cleansUp, known, Bool.false_or, Option.all_some]
    dsimp only at later
    split at later
    next up =>
      obtain ⟨v, more, done, later⟩ := completes_single.mp later
      obtain ⟨rfl, rfl⟩ := of_perform done
      simp only [Server.after, Server.next] at later
      split at later
      next has =>
        rw [quiet_metrics later (quiet_returnExisting connection)]
        simp [up, has]
      next absent =>
        rw [save_metrics later]
        simp [up, absent]
    next notConnected =>
      split at later
      next connecting =>
        rw [quiet_metrics later (quiet_returnExisting connection)]
        simp [connecting]
      next notConnecting =>
        rw [save_metrics later]
        simp [notConnected, notConnecting]

theorem create_keeps_iff :
    NoneLost s.tables.connections connection s.metrics t.metrics ↔
      (cleansUp faults s connection attachesPid = true →
        Lossless faults s.metrics connection.id (stalesOf s.tables.connections connection)) := by
  rw [create_metrics run]
  cases goesOn : cleansUp faults s connection attachesPid with
  | false =>
    refine ⟨fun _ impossible => (nomatch impossible), fun _ => ?_⟩
    exact fun m mem _ => .inl (.inl mem)
  | true =>
    have each := fun (m : Metric) (mem : m ∈ s.metrics.rows)
        (isStale : m.connectionId ∈ stalesOf s.tables.connections connection) =>
      @cleaned_keeps_iff faults _ _ _ _ (stalesOf_nodup s.tables.connections connection)
        (not_mem_stalesOf s.tables.connections connection) mem isStale
    constructor
    · intro kept _ m mem isStale free deletes
      obtain ⟨migrates, -, others⟩ := (each m mem isStale).mp
        ((kept m mem isStale).resolve_right free) deletes
      exact ⟨migrates, others⟩
    · intro lossless m mem isStale
      by_cases taken : Taken connection.id s.metrics (place m)
      · exact .inr taken
      · refine .inl ((each m mem isStale).mpr fun deletes => ?_)
        obtain ⟨migrates, others⟩ := lossless rfl m mem isStale taken deletes
        exact ⟨migrates, taken, others⟩

end

end Create

/-! ### Both procedures -/

/-- **When the cleanup of stale connections loses no metric.** A creation that comes to the cleanup
loses none exactly if each stale connection whose metrics it deletes was migrated without an earlier
one's metric in the way; a registration never loses one. -/
theorem stale_cleanup_keeps_iff (env : Env) (agentEnv : Agent.Env) :
    (∀ (faults : Action → Bool) (s t : Server) (request : CreateRequest)
      (connection : Connection), request.connection env.digest = .ok connection →
      Completes (answeredBy (perform env) faults) s ⟨createConnection env request, []⟩ t →
      (NoneLost s.tables.connections connection s.metrics t.metrics ↔
        (cleansUp faults s connection request.pid.isSome = true →
          Lossless faults s.metrics connection.id (stalesOf s.tables.connections connection)))) ∧
    ∀ (s t : Agent.Manager) (registration : Agent.Registration)
      (answers : List Bool) (connections : List Connection),
      Agent.registeredConnections agentEnv registration = .ok connections →
      Completes (Agent.perform agentEnv) s ⟨Agent.registerAtomic registration, answers⟩ t →
      ∀ connection ∈ connections, NoneLost s.connections connection s.metrics t.metrics := by
  constructor
  · intro faults s t request connection made run
    rw [createConnection, made] at run
    exact create_keeps_iff run
  · intro s t registration answers connections made run connection mem
    exact registration_keeps run made mem

namespace Sample

def serverOf (hosts : List String) : Server :=
  .new (tablesOf (hosts.map connectionOn))
    (saveAll (hosts.map fun host => { smallMetric with connectionId := (connectionOn host).id }))

def noFaults : Action → Bool := fun _ => false

def migrationFails : Action → Bool
  | .migrateMetrics _ _ => true
  | _ => false

/-- The server after the connection of another host was created. -/
@[irreducible]
def created (hosts : List String) (faults : Action → Bool) : Server :=
  (runFor (answeredBy (perform env) faults) 60 (serverOf hosts)
    ⟨createConnection env (requestOn "new"), []⟩).1

theorem completes_created {hosts : List String} {faults : Action → Bool}
    (ends : (runFor (answeredBy (perform env) faults) 60 (serverOf hosts)
      ⟨createConnection env (requestOn "new"), []⟩).2.todo = []) :
    Completes (answeredBy (perform env) faults) (serverOf hosts)
      ⟨createConnection env (requestOn "new"), []⟩ (created hosts faults) := by
  unfold created
  exact completes_of_runFor ends

end Sample

open Sample

/-- A service on three hosts: two stale connections have a metric in the same line, and the second one
is lost, though no call fails. With one stale connection, a failed migration loses its metric. -/
theorem stale_metric_lost :
    (requestOn "new").connection env.digest = .ok (connectionOn "new") ∧
    (Completes (answeredBy (perform env) noFaults) (serverOf ["one", "two"])
        ⟨createConnection env (requestOn "new"), []⟩
        (created ["one", "two"] noFaults) ∧
      ¬ NoneLost (serverOf ["one", "two"]).tables.connections (connectionOn "new")
        (serverOf ["one", "two"]).metrics
        (created ["one", "two"] noFaults).metrics) ∧
    Completes (answeredBy (perform env) migrationFails) (serverOf ["one"])
        ⟨createConnection env (requestOn "new"), []⟩
        (created ["one"] migrationFails) ∧
      ¬ NoneLost (serverOf ["one"]).tables.connections (connectionOn "new")
        (serverOf ["one"]).metrics (created ["one"] migrationFails).metrics := by
  refine ⟨by decide, ⟨completes_created (by decide), ?_⟩,
    completes_created (by decide), ?_⟩
  · decide +kernel
  · decide +kernel

theorem stale_cleanup_keeps_moved :
    NoneLost (serverOf ["one"]).tables.connections (connectionOn "new")
      (serverOf ["one"]).metrics (created ["one"] noFaults).metrics :=
  ((stale_cleanup_keeps_iff env ⟨env.digest, none, true, false, "", ""⟩).1
    noFaults _ _ (requestOn "new") _ (by decide)
    (completes_created (by decide))).mpr fun _ => by decide

end Detrix.Connections
