/-
**Registrations keep the metrics of stale connections.**

The agents' manager moves the metrics of a stale connection as the service does, but leaves in place
what cannot be moved. `registration_keeps`: whatever calls fail, a metric of a stale connection is
afterwards under this connection or the registered one of its project. The argument is that a row is
taken for stale only by the connection of its own project (`Settled`).
-/

import Detrix.Agent.Routing
import Detrix.Connections.Migration

namespace Detrix.Connections

open Detrix.Core Library Service Task Repository List Agent ConnectionRepository

variable {env : Agent.Env}

/-- The search for stale connections of `y` takes the row for one of its project. -/
def SameProject (row y : Connection) : Prop :=
  row.name = some (y.name.getD "") ∧ row.language = y.language ∧ row.workspaceRoot = y.workspaceRoot

variable {connections : ConnectionRepository} {registration : Agent.Registration}
  {x row : Connection} {m : Metric} {s t : Agent.Manager}

theorem of_mem_stalesOf {y : Connection} {stale : ConnectionId}
    (mem : stale ∈ stalesOf connections y) :
    ∃ row ∈ connections.rows, row.id = stale ∧ SameProject row y ∧ row.id ≠ y.id := by
  obtain ⟨row, has, rfl⟩ := mem_map.mp mem
  obtain ⟨isRow, found⟩ := mem_filter.mp has
  simp only [Bool.and_eq_true, decide_eq_true_eq] at found
  exact ⟨row, isRow, rfl, ⟨found.1.1.1.1, found.1.1.1.2, found.1.1.2⟩, found.1.2⟩

section
variable {connections : List Connection}
  (made : registeredConnections env registration = .ok connections)
include made

theorem mem_registered (mem : x ∈ connections) :
    ∃ binary, connectionOf env.digest registration.hostname binary = .ok x := by
  have each := forall₂_of_mapM made
  clear made
  generalize registration.binaries = binaries at each
  induction each with
  | nil => cases mem
  | cons first _ ih =>
    rcases mem_cons.mp mem with rfl | old
    · exact ⟨_, first⟩
    · exact ih old

theorem registered_id {y : Connection} (isX : x ∈ connections) (isY : y ∈ connections)
    (ofX : SameProject row x) (ofY : SameProject row y) : x.id = y.id := by
  obtain ⟨binary, madeX⟩ := mem_registered made isX
  obtain ⟨binary', madeY⟩ := mem_registered made isY
  obtain ⟨idX, nameX, languageX, -⟩ := connectionOf_eq_ok madeX
  obtain ⟨idY, nameY, languageY, -⟩ := connectionOf_eq_ok madeY
  rw [SameProject, nameX, languageX] at ofX
  rw [SameProject, nameY, languageY] at ofY
  have names := Option.some.inj (ofX.1.symm.trans ofY.1)
  have languages := ofX.2.1.symm.trans ofY.2.1
  rw [Option.getD_some, Option.getD_some] at names
  rw [idX, idY, connectionIdOf, connectionIdOf, agentConnectionIdentity,
    agentConnectionIdentity, names, languages]

end

theorem of_mem_save {z : Connection} (mem : row ∈ (connections.save z).rows) :
    row ∈ connections.rows ∧ row.id ≠ z.id ∨ row.id = z.id ∧ row.name = z.name ∧
      row.language = z.language ∧ row.workspaceRoot = z.workspaceRoot := by
  unfold ConnectionRepository.save at mem
  split at mem
  next absent =>
    rcases mem_append.mp mem with old | new
    · refine .inl ⟨old, ?_⟩
      simpa using any_eq_false.mp absent row old
    · rw [mem_singleton.mp new]
      exact .inr ⟨rfl, rfl, rfl, rfl⟩
  next =>
    obtain ⟨old, has, rfl⟩ := mem_map.mp mem
    unfold overwrite
    split
    next => exact .inr ⟨rfl, rfl, rfl, rfl⟩
    next ne => exact .inl ⟨has, ne⟩

theorem of_mem_saveBatch {saved : List Connection}
    (mem : row ∈ (connections.saveBatch saved).rows) :
    row ∈ connections.rows ∧ (∀ z ∈ saved, row.id ≠ z.id) ∨
      ∃ z ∈ saved, row.id = z.id ∧ row.name = z.name ∧ row.language = z.language ∧
        row.workspaceRoot = z.workspaceRoot := by
  induction saved generalizing connections with
  | nil => exact .inl ⟨mem, fun z impossible => absurd impossible not_mem_nil⟩
  | cons z rest ih =>
    rcases ih mem with ⟨old, others⟩ | ⟨later, isLater, columns⟩
    · rcases of_mem_save old with ⟨older, ne⟩ | columns
      · exact .inl ⟨older, forall_mem_cons.mpr ⟨ne, others⟩⟩
      · exact .inr ⟨z, (.head _), columns⟩
    · exact .inr ⟨later, .tail _ isLater, columns⟩

/-- The rows that a search for one of the connections can take for stale: that of `stale` for `target`
alone, and that of `target` never. -/
def Settled (registered : List Connection) (stale target : ConnectionId)
    (connections : ConnectionRepository) : Prop :=
  ∀ row ∈ connections.rows, ∀ y ∈ registered, SameProject row y → row.id ≠ y.id →
    (row.id = stale → y.id = target) ∧ row.id ≠ target

variable {registered : List Connection} {stale target : ConnectionId}

theorem Settled.of_rows {before after : ConnectionRepository}
    (done : Settled registered stale target before)
    (from_ : ∀ row ∈ after.rows, ∃ old ∈ before.rows, old.id = row.id ∧ old.name = row.name ∧
      old.language = row.language ∧ old.workspaceRoot = row.workspaceRoot) :
    Settled registered stale target after := by
  intro row mem y isY same ne
  obtain ⟨old, has, isId, name, lang, root⟩ := from_ row mem
  rw [SameProject, ← name, ← lang, ← root] at same
  rw [← isId] at ne ⊢
  exact done old has y isY same ne

theorem Settled.updateStatus (done : Settled registered stale target connections)
    (c : ConnectionId) (status : ConnectionStatus) :
    Settled registered stale target (connections.updateStatus c status) := by
  refine done.of_rows fun row mem => ?_
  obtain ⟨old, has, rfl⟩ := mem_map.mp mem
  refine ⟨old, has, ?_⟩
  unfold withStatus
  split <;> exact ⟨rfl, rfl, rfl, rfl⟩

theorem Settled.delete (done : Settled registered stale target connections) (c : ConnectionId) :
    Settled registered stale target (connections.delete c) :=
  done.of_rows fun row mem =>
    ⟨row, (mem_filter.mp mem).1, rfl, rfl, rfl, rfl⟩

theorem settled_saveBatch (made : registeredConnections env registration = .ok registered)
    (isX : x ∈ registered) (isStale : stale ∈ stalesOf connections x) :
    Settled registered stale x.id (connections.saveBatch registered) := by
  obtain ⟨first, present, rfl, ofX, ne⟩ := of_mem_stalesOf isStale
  have named : ∀ z ∈ registered, ∃ name, z.name = some name := fun z isZ => by
    obtain ⟨_, madeZ⟩ := mem_registered made isZ
    exact ⟨_, (connectionOf_eq_ok madeZ).2.1⟩
  intro row mem y isY same other
  rcases of_mem_saveBatch mem with ⟨old, fresh⟩ | ⟨z, isZ, sameId, name, lang, root⟩
  · refine ⟨fun isFirst => ?_, fresh x isX⟩
    obtain rfl := connections.eq_of_id old present isFirst
    exact registered_id made isY isX same ofX
  · -- the row has the columns of `z`, which is of the project of `y`: the ids are the same
    obtain ⟨zName, isName⟩ := named z isZ
    have ofZ : SameProject row z := ⟨by rw [name, isName]; rfl, lang, root⟩
    exact absurd (sameId.trans (registered_id made isZ isY ofZ same)) other

/-- The actions of a registration once its connections are saved; what it migrates goes from `stale`
to `target` only, and never away from `target`. -/
def Harmless (registered : List Connection) (stale target : ConnectionId) : Agent.Action → Prop
  | .findStale y => y ∈ registered
  | .checkStale source goal | .migrateMetrics source goal =>
    (source = stale → goal = target) ∧ source ≠ target
  | .deleteStale _ | .on _ _ | .insertAgent _ | .acknowledge _ _ | .unlockRegistration => True
  | _ => False

theorem Kept.migrate {metrics : Repository} {source goal : ConnectionId}
    (kept : Kept target metrics m) (isStale : m.connectionId = stale)
    (allowed : (source = stale → goal = target) ∧ source ≠ target) :
    Kept target (metrics.migrateConnectionId source goal) m := by
  rcases kept with stays | moved
  · by_cases same : m.connectionId = source
    · obtain rfl := allowed.1 (same.symm.trans isStale)
      have result : metrics.migrated source goal m ∈ (metrics.migrateConnectionId source goal).rows :=
        mem_migrate.mpr ⟨m, stays, rfl⟩
      unfold migrated at result
      split at result
      · exact .inr result
      · exact .inl result
    · exact .inl (mem_migrate.mpr ⟨m, stays, migrated_of_other same⟩)
  · exact .inr (mem_migrate.mpr ⟨_, moved, migrated_of_other (Ne.symm allowed.2)⟩)

theorem harmless_step {fails : Bool} {action : Agent.Action} {more : List Agent.Action}
    (isStale : m.connectionId = stale) (harmless : Harmless registered stale target action)
    (settled : Settled registered stale target s.connections) (kept : Kept target s.metrics m)
    (done : Agent.perform env fails s action = some (t, more)) :
    Settled registered stale target t.connections ∧ Kept target t.metrics m ∧
      ∀ next ∈ more, Harmless registered stale target next := by
  cases action
  case on c step =>
    simp only [Agent.perform, Option.map_eq_some_iff, Prod.mk.injEq] at done
    obtain ⟨out, -, rfl, rfl⟩ := done
    refine ⟨?_, ?_, fun next mem => ?_⟩
    · cases out.status with
      | none => exact settled
      | some status => exact settled.updateStatus c status
    · cases out.status <;> exact kept
    · obtain ⟨later, -, rfl⟩ := mem_map.mp mem
      trivial
  case findStale y =>
    simp only [Agent.perform] at done
    split at done <;> cases done
    · exact ⟨settled, kept, by simp⟩
    · refine ⟨settled, kept, fun next mem => ?_⟩
      obtain ⟨found, isFound, rfl⟩ := mem_map.mp mem
      obtain ⟨row, has, rfl, same, ne⟩ := of_mem_stalesOf isFound
      exact settled row has y harmless same ne
  case checkStale source goal =>
    simp only [Agent.perform] at done
    split at done <;> cases done
    · exact ⟨settled, kept, by simp⟩
    · exact ⟨settled, kept, forall_mem_cons.mpr ⟨harmless,
        forall_mem_cons.mpr ⟨trivial, by simp⟩⟩⟩
  case migrateMetrics source goal =>
    simp only [Agent.perform] at done
    split at done <;> cases done
    · exact ⟨settled, kept, by simp⟩
    · exact ⟨settled, kept.migrate isStale harmless, by simp⟩
  case deleteStale c =>
    simp only [Agent.perform] at done
    split at done <;> cases done
    · exact ⟨settled, kept, by simp⟩
    · refine ⟨settled.delete c, kept, fun next mem => ?_⟩
      obtain ⟨later, -, rfl⟩ := mem_map.mp mem
      trivial
  case insertAgent | acknowledge | unlockRegistration =>
    cases done
    exact ⟨settled, kept, by simp⟩
  all_goals exact harmless.elim

theorem harmless_run {todo : List Agent.Action} {answers : List Bool}
    (run : Completes (Agent.perform env) s ⟨todo, answers⟩ t) (isStale : m.connectionId = stale)
    (harmless : ∀ action ∈ todo, Harmless registered stale target action)
    (settled : Settled registered stale target s.connections) (kept : Kept target s.metrics m) :
    Kept target t.metrics m := by
  refine (@Completes.keeps _ _ _ _ _ _ (fun u todo => Settled registered stale target u.connections ∧
    Kept target u.metrics m ∧ ∀ action ∈ todo, Harmless registered stale target action)
    ?_ run ⟨settled, kept, harmless⟩).2.1
  intro fails u v action rest more done ⟨settled, kept, all⟩
  obtain ⟨settled, kept, others⟩ :=
    harmless_step isStale (all action (.head _)) settled kept done
  refine ⟨settled, kept, fun next mem => ?_⟩
  rcases mem_append.mp mem with new | old
  · exact others next new
  · exact all next (.tail _ old)

/-- **A registration keeps the metrics of stale connections.** -/
theorem registration_keeps {answers : List Bool}
    (run : Completes (Agent.perform env) s ⟨Agent.registerAtomic registration, answers⟩ t)
    (made : Agent.registeredConnections env registration = .ok registered) (isX : x ∈ registered) :
    NoneLost s.connections x s.metrics t.metrics := by
  intro m mem isStale
  refine .inl ?_
  obtain ⟨v, rfl, body⟩ := Agent.register_run run
  show Kept x.id v.metrics m
  unfold Agent.registrationBody at body
  split at body
  · rw [(completes_last rfl).mp body]
    exact .inl mem
  rw [made] at body
  obtain ⟨w, more, saved, later⟩ := completes_single.mp body
  simp only [Agent.perform] at saved
  split at saved <;> cases saved
  · rw [completes_nil.mp later]
    exact .inl mem
  · refine harmless_run later rfl ?_ (settled_saveBatch made isX isStale) (.inl mem)
    intro action planned
    simp only [Agent.install, mem_append, mem_map, mem_flatMap, mem_cons,
      not_mem_nil, or_false] at planned
    rcases planned with ((⟨y, isY, rfl⟩ | ⟨y, -, installed⟩) | rfl | rfl) | ⟨binary, -, rfl⟩
    · exact isY
    · obtain ⟨step, -, rfl⟩ := mem_map.mp installed
      trivial
    · trivial
    · trivial
    · trivial

end Detrix.Connections
