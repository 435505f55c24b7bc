/-
**Agents and each other's connections.**

What a message of an agent's current session leaves as it is: the entries and the stored row of every
connection that is routed to another agent. A message about a connection or a request is checked before
it has any effect; the scanner's update is not, and leaves the others' connections alone exactly if no
connection that it adds or removes is routed to another agent (`foreign_untouched_iff`).
-/

import Detrix.Agent.Reported

namespace Detrix.Agent

open Detrix.Core Library Connections Service List Option ConnectionRepository
open Library.Task (Completes completes_nil completes_single)

def Foreign (agent : AgentId) (s : Manager) (c : ConnectionId) : Prop :=
  ∃ other, (s.entries c).route = some other ∧ other ≠ agent

/-- Everything that is kept for a connection is as before. -/
structure SameAt (c : ConnectionId) (s t : Manager) : Prop where
  entries : t.entries c = s.entries c
  row : t.connections.findById c = s.connections.findById c

/-- **The connections of other agents are as before.** -/
def Untouched (agent : AgentId) (s t : Manager) : Prop := ∀ c, Foreign agent s c → SameAt c s t

theorem SameAt.refl (c : ConnectionId) (s : Manager) : SameAt c s s := ⟨rfl, rfl⟩

variable {c : ConnectionId} {u : Manager} {info : AgentInfo} {binaries : List AgentBinaryInfo}

theorem SameAt.trans {s t : Manager} (one : SameAt c s t) (other : SameAt c t u) : SameAt c s u :=
  ⟨other.entries.trans one.entries, other.row.trans one.row⟩

theorem Untouched.refl (agent : AgentId) (s : Manager) : Untouched agent s s :=
  fun c _ => .refl c s

variable {env : Env} {agent : AgentId} {s t : Manager} {answers : List Bool}

/-! ### One action -/

theorem sameAt_on {d : ConnectionId} {fails : Bool} {step : Step} {more : List Action}
    (ne : c ≠ d) (done : perform env fails s (.on d step) = some (t, more)) :
    SameAt c s t := by
  simp only [perform, map_eq_some_iff, Prod.mk.injEq] at done
  obtain ⟨out, _, rfl, _⟩ := done
  have put : (s.put d out.entries).entries c = s.entries c := Function.update_of_ne ne ..
  cases stored : out.status with
  | none => exact ⟨put, rfl⟩
  | some status => exact ⟨put, findById_updateStatus ne status⟩

/-- The action, in what follows a message of the agent, cannot reach the connections of others. -/
def Spares (env : Env) (agent : AgentId) (s : Manager) : Action → Prop
  | .on c _ => ¬ Foreign agent s c
  | .saveAdded _ hostname _ binary => storable env hostname binary = true →
      ¬ Foreign agent s (connectionIdOf env.digest hostname binary)
  | .deleteStale stale => ¬ Foreign agent s stale
  | .recordHeartbeat other => other = agent
  | .findStale _ | .checkStale _ _ | .migrateMetrics _ _ | .setBinaries _ _ | .unlockUpdate
  | .takePings _ => True
  | _ => False

/-- What is not routed, or routed to the agent, in a state that has left the others alone. -/
theorem Untouched.not_foreign (same : Untouched agent s u)
    (own : ∀ other, (u.entries c).route = some other → other = agent) : ¬ Foreign agent s c := by
  intro foreign
  obtain ⟨other, routed, ne⟩ := foreign
  refine ne (own other ?_)
  rw [(same c ⟨other, routed, ne⟩).entries, routed]

theorem Untouched.then {v : Manager} (same : Untouched agent s u)
    (later : ∀ c, Foreign agent s c → SameAt c u v) : Untouched agent s v := fun c foreign =>
  (same c foreign).trans (later c foreign)

theorem Foreign.ne {d : ConnectionId} (foreign : Foreign agent s c) (own : ¬ Foreign agent s d) :
    c ≠ d := fun same => own (same ▸ foreign)

theorem spares_onEach (own : ¬ Foreign agent s c) (steps : List Step) :
    ∀ next ∈ onEach c steps, Spares env agent s next := by
  intro next mem
  obtain ⟨step, _, rfl⟩ := mem_map.mp mem
  exact own

/-- **An action that spares the others leaves them alone, and so does what it leads to.** -/
theorem spares_step {v : Manager} {fails : Bool} {action : Action} {more : List Action}
    (same : Untouched agent s u) (spares : Spares env agent s action)
    (done : perform env fails u action = some (v, more)) :
    Untouched agent s v ∧ ∀ next ∈ more, Spares env agent s next := by
  cases action
  case on d step =>
    refine ⟨same.then fun c foreign => sameAt_on (foreign.ne spares) done, ?_⟩
    simp only [perform, map_eq_some_iff, Prod.mk.injEq] at done
    obtain ⟨out, _, _, rfl⟩ := done
    exact spares_onEach spares _
  case recordHeartbeat other =>
    obtain rfl : other = agent := spares
    cases done
    refine ⟨same, fun next mem => ?_⟩
    obtain ⟨c, owned, rfl⟩ := mem_map.mp mem
    rw [Manager.mem_ownedBy] at owned
    exact same.not_foreign fun other routed => some.inj (routed.symm.trans owned)
  case saveAdded owner hostname session binary =>
    simp only [perform] at done
    split at done
    · cases done
      exact ⟨same, by simp⟩
    next conn made =>
      split at done <;> cases done
      · exact ⟨same, by simp⟩
      · have own : ¬ Foreign agent s conn.id := by
          rw [connectionOf_id made]
          refine spares ?_
          rw [storable, made]
          rfl
        refine ⟨same.then fun c foreign => ⟨rfl, ?_⟩, fun next mem => ?_⟩
        · refine findById_saveBatch fun saved mem => ?_
          rw [mem_singleton.mp mem]
          exact foreign.ne own
        · rcases mem_cons.mp mem with rfl | installed
          · trivial
          · exact spares_onEach own _ next installed
  case findStale conn =>
    simp only [perform] at done
    split at done <;> cases done
    · exact ⟨same, by simp⟩
    · refine ⟨same, fun next mem => ?_⟩
      obtain ⟨stale, _, rfl⟩ := mem_map.mp mem
      trivial
  case checkStale stale target =>
    simp only [perform] at done
    split at done <;> cases done
    · exact ⟨same, by simp⟩
    next unrouted =>
      have own : ¬ Foreign agent s stale := same.not_foreign fun other routed =>
        absurd (by rw [routed]; rfl) unrouted
      refine ⟨same, fun next mem => ?_⟩
      simp only [mem_cons, not_mem_nil, or_false] at mem
      rcases mem with rfl | rfl
      · trivial
      · exact own
  case migrateMetrics stale target =>
    simp only [perform] at done
    split at done <;> cases done <;>
      exact ⟨same.then fun c _ => ⟨rfl, rfl⟩, by simp⟩
  case deleteStale stale =>
    simp only [perform] at done
    split at done <;> cases done
    · exact ⟨same, by simp⟩
    · exact ⟨same.then fun c foreign =>
        ⟨rfl, findById_delete (foreign.ne spares)⟩, spares_onEach spares _⟩
  case setBinaries | unlockUpdate | takePings =>
    cases done
    exact ⟨same.then fun c _ => ⟨rfl, rfl⟩, by simp⟩
  all_goals cases spares

theorem untouched_of_spares {todo : List Action}
    (spares : ∀ action ∈ todo, Spares env agent s action) (same : Untouched agent s u)
    (run : Completes (perform env) u ⟨todo, answers⟩ t) : Untouched agent s t :=
  (@Completes.keeps _ _ _ _ _ _
    (fun v todo => Untouched agent s v ∧ ∀ action ∈ todo, Spares env agent s action)
    (fun fails v w action rest more done ⟨same, all⟩ => by
      obtain ⟨after, new⟩ := spares_step same (all action (.head _)) done
      refine ⟨after, fun next mem => ?_⟩
      rcases mem_append.mp mem with first | later
      · exact new next first
      · exact all next (.tail _ later)) run ⟨same, spares⟩).1

/-! ### Messages -/

/-- A message about a connection: it is dropped if the connection is another agent's. -/
theorem scoped_untouched {session : Session} {payload : Payload}
    (run : Completes (perform env) s ⟨[.on c (.receive agent session payload)], answers⟩ t) :
    Untouched agent s t := by
  by_cases foreign : Foreign agent s c
  · obtain ⟨other, routed, ne⟩ := foreign
    have no : owns (s.entries c) agent payload = false := by
      cases payload <;> simp [owns, routed, ne]
    obtain ⟨u, more, got, run⟩ := completes_single.mp run
    cases got
    have first : Untouched agent s ((s.put c (s.entries c)).store c none) := by
      refine fun d _ => ⟨?_, rfl⟩
      show Function.update s.entries c (s.entries c) d = s.entries d
      rw [Function.update_eq_self]
    split at run
    · obtain ⟨v, more, authorized, run⟩ := completes_single.mp run
      have kept : ((s.put c (s.entries c)).store c none).entries c = s.entries c :=
        (first c ⟨other, routed, ne⟩).entries
      simp only [perform, Step.perform, kept, no, reduceIte, map_some]
        at authorized
      cases authorized
      rw [completes_nil.mp run]
      refine first.then fun d _ => ⟨?_, rfl⟩
      show Function.update (Function.update s.entries c (s.entries c)) c (s.entries c) d =
        Function.update s.entries c (s.entries c) d
      rw [Function.update_idem]
    · rw [completes_nil.mp run]
      exact first
  · exact untouched_of_spares (by simpa [Spares] using foreign) (.refl agent s) run

/-- The connections that an update of the scanner adds or removes belong to no other agent. -/
def Admissible (env : Env) (agent : AgentId) (info : AgentInfo) (s : Manager) :
    IncomingAgentMessage → Prop
  | .registerUpdate binaries => ∀ c ∈ removedIds env info binaries ++ addedIds env info binaries,
      (s.entries c).route.all (· = agent) = true
  | _ => True

theorem reconcile_spares (admissible : Admissible env agent info s (.registerUpdate binaries)) :
    ∀ action ∈ reconcile env agent info binaries, Spares env agent s action := by
  have own : ∀ c ∈ removedIds env info binaries ++ addedIds env info binaries,
      ¬ Foreign agent s c := by
    rintro c mem ⟨other, routed, ne⟩
    have mine := admissible c mem
    rw [routed, all_some, decide_eq_true_eq] at mine
    exact ne mine
  intro action mem
  simp only [reconcile, mem_append] at mem
  rcases mem with (removed | added) | last
  · obtain ⟨c, isRemoved, isAction⟩ := mem_flatMap.mp removed
    exact spares_onEach (own c (mem_append_left _ isRemoved)) _ action isAction
  · obtain ⟨binary, isAdded, rfl⟩ := mem_map.mp added
    intro fits
    exact own _ (mem_append_right _
      (mem_map.mpr ⟨binary, mem_filter.mpr ⟨isAdded, fits⟩, rfl⟩))
  · simp only [mem_cons, not_mem_nil, or_false] at last
    rcases last with rfl | rfl <;> trivial

theorem update_untouched (known : s.agents agent = some info)
    (admissible : Admissible env agent info s (.registerUpdate binaries))
    (run : Completes (perform env) s
      ⟨dispatch agent info.session (.registerUpdate binaries), answers⟩ t) :
    Untouched agent s t := by
  have same : Untouched agent s { s with updateLocked := true } := fun c _ => ⟨rfl, rfl⟩
  exact untouched_of_spares (reconcile_spares admissible) same (update_run known run)

variable {message : IncomingAgentMessage}

/-- A message that is about no connection, the scanner's update apart. -/
theorem unscoped_untouched {session : Session}
    (others : ∀ binaries, message ≠ .registerUpdate binaries)
    (run : Completes (perform env) s ⟨[.receive agent session message], answers⟩ t) :
    Untouched agent s t := by
  obtain ⟨u, more, got, run⟩ := completes_single.mp run
  cases got
  refine untouched_of_spares (fun action mem => ?_) (.refl agent s) run
  split at mem
  · cases message <;> simp_all [handleUnscoped, Spares]
  · cases mem

theorem dispatch_untouched (known : s.agents agent = some info)
    (admissible : Admissible env agent info s message)
    (run : Completes (perform env) s ⟨dispatch agent info.session message, answers⟩ t) :
    Untouched agent s t := by
  cases message with
  | connectionUpdate c update
  | eventBatch c events | answer req response sentAs | dropCount c => exact scoped_untouched run
  | registerUpdate binaries => exact update_untouched known admissible run
  | heartbeat | pong | error code text => exact unscoped_untouched (by simp) run

/-- An update that reaches another agent's connection takes its route. -/
theorem admissible_of_untouched (known : s.agents agent = some info)
    (run : Completes (perform env) s ⟨dispatch agent info.session (.registerUpdate binaries), []⟩ t)
    (untouched : Untouched agent s t) : Admissible env agent info s (.registerUpdate binaries) := by
  intro c mem
  cases routed : (s.entries c).route with
  | none => rfl
  | some other =>
    rw [all_some, decide_eq_true_eq]
    by_contra ne
    have same := congrArg Entries.route (untouched c ⟨other, routed, ne⟩).entries
    have routes : (t.entries c).route =
        if c ∈ addedIds env info binaries then some agent
        else if c ∈ removedIds env info binaries then none
        else (s.entries c).route :=
      congrFun (congrArg Routing.routes (update_routing known run)) c
    rw [routes, routed] at same
    rcases mem_append.mp mem with removed | added
    · rw [if_pos removed] at same
      split at same
      · exact ne (some.inj same).symm
      · cases same
    · rw [if_pos added] at same
      exact ne (some.inj same).symm

/-- **Agents cannot touch each other's connections**, whatever the storage answers, exactly if the
message is admissible. -/
theorem foreign_untouched_iff (env : Env) (s : Manager) (agent : AgentId) (info : AgentInfo)
    (known : s.agents agent = some info) (message : IncomingAgentMessage) :
    (Admissible env agent info s message → ∀ answers t,
      Completes (perform env) s ⟨dispatch agent info.session message, answers⟩ t →
        Untouched agent s t) ∧
    (s.updateLocked = false →
      (∀ answers t, Completes (perform env) s ⟨dispatch agent info.session message, answers⟩ t →
        Untouched agent s t) → Admissible env agent info s message) := by
  refine ⟨fun admissible answers t run => dispatch_untouched known admissible run,
    fun free untouched => ?_⟩
  cases message
  case registerUpdate binaries =>
    obtain ⟨t, run⟩ := dispatch_completes free agent info.session (.registerUpdate binaries)
    exact admissible_of_untouched known run (untouched [] t run)
  all_goals trivial

/-! ### Two agents on one host -/

namespace Sample

def other : Registration := ⟨"b", "host", "1.0.0", capabilities, [process 1], 1⟩

def twoAgents : Manager :=
  after (after unused (registerAtomic (registrationOf [] 0))) (registerAtomic other)

def taken : Manager := after twoAgents (dispatch "a" 0 (.registerUpdate [process 1]))

theorem twoAgents_known : twoAgents.agents "a" = some (registrationOf [] 0).info := by
  decide +kernel

end Sample

open Sample

/-- The connection of one agent is routed to another one that reports its binary, and its event channel
is replaced. -/
theorem foreign_connection_taken :
    ∃ info, twoAgents.agents "a" = some info ∧
      Completes (perform plainEnv) twoAgents
        ⟨dispatch "a" info.session (.registerUpdate [process 1]), []⟩ taken ∧
      (twoAgents.entries (connectionIdOf id "host" (process 1))).route = some "b" ∧
      (twoAgents.entries (connectionIdOf id "host" (process 1))).channel = some 0 ∧
      (taken.entries (connectionIdOf id "host" (process 1))).route = some "a" ∧
      (taken.entries (connectionIdOf id "host" (process 1))).channel = some 1 ∧
      ¬ Untouched "a" twoAgents taken := by
  have before : (twoAgents.entries (connectionIdOf id "host" (process 1))).route =
      some "b" := by decide +kernel
  have after : (taken.entries (connectionIdOf id "host" (process 1))).route =
      some "a" := by decide +kernel
  refine ⟨_, twoAgents_known, completes_after (by decide +kernel), before,
    by decide +kernel, after, by decide +kernel, fun untouched => ?_⟩
  have same := congrArg Entries.route (untouched _ ⟨"b", before, by decide⟩).entries
  rw [before, after] at same
  nomatch some.inj same

theorem foreign_untouched_new :
    (∃ info, twoAgents.agents "a" = some info) ∧
      ∀ answers t, Completes (perform plainEnv) twoAgents
        ⟨dispatch "a" 0 (.registerUpdate [⟨"/bin/tool", 3, 8, .rust⟩]), answers⟩ t →
        Untouched "a" twoAgents t :=
  ⟨⟨_, twoAgents_known⟩, (foreign_untouched_iff plainEnv twoAgents "a" _
    twoAgents_known (.registerUpdate [⟨"/bin/tool", 3, 8, .rust⟩])).1 (by
      unfold Admissible
      decide +kernel)⟩

end Detrix.Agent
