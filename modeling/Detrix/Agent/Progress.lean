/-
**Every call comes to an end.**

Apart from the two locks and a call that waits for its answer, no action waits, and each leads to
actions of a lower rank only. A call to a manager whose locks are free ends, whatever the storage
answers.
-/

import Detrix.Agent.Manager

namespace Detrix.Agent

open Detrix.Core Library Connections Service List Action Nat
open Library.Task (Completes completes_nil completes_single completes_of_ready)

/-! ### Ranks -/

def Payload.size : Payload → Nat
  | .events list => list.length
  | _ => 0

def Step.rank : Step → Nat
  | .receive _ _ payload => 20 + payload.size
  | .authorize _ payload => 19 + payload.size
  | .admitUpdate _ _ => 10
  | .lookForAdapter _ => 9
  | .claimStart => 8
  | .loadConnection => 7
  | .makeAdapter => 6
  | .takeReceiver => 5
  | .startRemote _ _ => 4
  | .insertAdapter _ _ | .stopExisting => 3
  | .stopAdapter | .unlinkRequest _ _ => 2
  | .sendClose | .cancelPending | .openChannel | .insertChannel => 1
  | .cloneSender events => events.length + 2
  | .sendEvents _ events => events.length + 1
  | _ => 0

/-- The step belongs to a call that waits for its answer. -/
def Step.calls : Step → Bool
  | .drawRequest _ _ | .openCall _ _ | .sendRequest _ _ _ | .awaitAnswer _ _ => true
  | _ => false

def Lower (n : Nat) (steps : List Step) : Prop :=
  ∀ next ∈ steps, next.calls = false ∧ next.rank < n

variable {n : Nat} {step : Step}

theorem lower_nil : Lower n [] := nofun

theorem lower_cons {rest : List Step} (plain : step.calls = false) (below : step.rank < n)
    (lower : Lower n rest) : Lower n (step :: rest) := by
  intro next mem
  rcases mem_cons.mp mem with rfl | later
  · exact ⟨plain, below⟩
  · exact lower next later

/-- Where the ranks are numbers, both facts are found by evaluation. -/
theorem lower_of_ranks {rest : List Step} (plain : step.calls = false)
    (below : blt step.rank n = true) (lower : Lower n rest) : Lower n (step :: rest) :=
  lower_cons plain (le_of_ble_eq_true below) lower

theorem handle_lower (agent : AgentId) (payload : Payload) :
    Lower (19 + payload.size) (handle agent payload) := by
  cases payload with
  | update | answer => exact lower_of_ranks rfl rfl lower_nil
  | dropCount => exact lower_nil
  | events events =>
    refine lower_cons rfl ?_ lower_nil
    show events.length + 2 < 19 + events.length
    omega

variable (env : Env)

/-- A step of no call is carried out, and leads to steps of a lower rank. -/
theorem Step.perform_lower (c : ConnectionId) (fails : Bool) (context : Context)
    (entries : Entries) (plain : step.calls = false) :
    ∃ out, step.perform env c fails context entries = some out ∧
      Lower step.rank out.next := by
  cases step
  case drawRequest | openCall | sendRequest | awaitAnswer => nomatch plain
  case authorize agent payload =>
    refine ⟨_, rfl, ?_⟩
    split
    · exact handle_lower agent payload
    · exact lower_nil
  case receive agent session payload =>
    refine ⟨_, rfl, ?_⟩
    split
    · refine lower_cons rfl ?_ lower_nil
      show 19 + payload.size < 20 + payload.size
      omega
    · exact lower_nil
  case admitUpdate agent update =>
    simp only [Step.perform]
    split
    · exact ⟨_, rfl, lower_of_ranks rfl rfl (lower_of_ranks rfl rfl lower_nil)⟩
    · refine ⟨_, rfl, ?_⟩
      unfold afterAdmission
      split <;> exact lower_of_ranks rfl rfl lower_nil
  case cloneSender events =>
    simp only [Step.perform]
    split
    · exact ⟨_, rfl, lower_cons rfl (lt_succ_self _) lower_nil⟩
    · exact ⟨_, rfl, lower_nil⟩
  case sendEvents channel events =>
    cases events with
    | nil => exact ⟨_, rfl, lower_nil⟩
    | cons event rest =>
      simp only [Step.perform]
      split
      · exact ⟨_, rfl, lower_nil⟩
      · exact ⟨_, rfl, lower_cons rfl (lt_succ_self _) lower_nil⟩
  case unlinkRequest key answer =>
    refine ⟨_, rfl, lower_of_ranks rfl rfl ?_⟩
    split
    · exact lower_of_ranks rfl rfl lower_nil
    · exact lower_nil
  case cancelPending =>
    simp only [Step.perform]
    split
    · refine ⟨_, rfl, fun next mem => ?_⟩
      obtain ⟨key, _, rfl⟩ := mem_map.mp mem
      exact ⟨rfl, zero_lt_one⟩
    · exact ⟨_, rfl, lower_nil⟩
  all_goals
    simp only [Step.perform]
    repeat' split
  all_goals
    refine ⟨_, rfl, ?_⟩
    first
      | exact lower_nil
      | exact lower_of_ranks rfl rfl lower_nil
      | exact lower_of_ranks rfl rfl (lower_of_ranks rfl rfl lower_nil)
      | exact lower_of_ranks rfl rfl (lower_of_ranks rfl rfl (lower_of_ranks rfl rfl lower_nil))

/-! ### Actions -/

def Action.rank : Action → Nat
  | .on _ step => step.rank
  | .receive _ _ _ | .removeAgent _ _ => 9
  | .collectConnections _ => 8
  | .saveConnections _ _ => 7
  | .compareBinaries _ _ => 6
  | .saveAdded _ _ _ _ => 5
  | .findStale _ => 4
  | .checkStale _ _ => 3
  | .deleteStale _ => 2
  | .recordHeartbeat _ => 1
  | _ => 0

/-- The action waits for nothing, and neither does what it leads to. -/
def Action.goes : Action → Bool
  | .on _ step => !step.calls
  | .receive _ _ (.registerUpdate _) | .lockUpdate _ _ | .lockRegistration _ => false
  | _ => true

theorem onEach_lower {c : ConnectionId} {steps : List Step} (low : Lower n steps) :
    ∀ next ∈ onEach c steps, next.goes = true ∧ next.rank < n := by
  intro next mem
  obtain ⟨step, isStep, rfl⟩ := mem_map.mp mem
  obtain ⟨plain, below⟩ := low step isStep
  refine ⟨?_, below⟩
  show (!step.calls) = true
  rw [plain]
  rfl

theorem onEach_flatMap_lower {ids : List ConnectionId} {steps : List Step} (low : Lower n steps) :
    ∀ next ∈ ids.flatMap (onEach · steps), next.goes = true ∧ next.rank < n := by
  intro next mem
  obtain ⟨c, _, isNext⟩ := mem_flatMap.mp mem
  exact onEach_lower low next isNext

theorem teardown_lower : Lower 2 teardown := by
  repeat refine lower_of_ranks rfl rfl ?_
  exact lower_nil

theorem teardownStale_lower : Lower 2 teardownStale := by
  repeat refine lower_of_ranks rfl rfl ?_
  exact lower_nil

theorem reconcile_lower (agent : AgentId) (info : AgentInfo) (binaries : List AgentBinaryInfo) :
    ∀ next ∈ reconcile env agent info binaries, next.goes = true ∧ next.rank < 6 := by
  intro next mem
  simp only [reconcile, mem_append] at mem
  rcases mem with (removed | added) | last
  · obtain ⟨goes, below⟩ := onEach_flatMap_lower teardown_lower next removed
    exact ⟨goes, by omega⟩
  · obtain ⟨binary, _, rfl⟩ := mem_map.mp added
    exact ⟨rfl, le_of_ble_eq_true rfl⟩
  · simp only [mem_cons, not_mem_nil, or_false] at last
    rcases last with rfl | rfl <;> exact ⟨rfl, le_of_ble_eq_true rfl⟩

theorem install_lower (reg : Registration) (conns : List Connection) :
    ∀ next ∈ install env reg conns, next.goes = true ∧ next.rank < 7 := by
  intro next mem
  simp only [install, mem_append] at mem
  rcases mem with ((stale | installed) | inserted) | announced
  · obtain ⟨conn, _, rfl⟩ := mem_map.mp stale
    exact ⟨rfl, le_of_ble_eq_true rfl⟩
  · obtain ⟨conn, _, isNext⟩ := mem_flatMap.mp installed
    have low : Lower 2 (installRegistered reg.agent) :=
      lower_of_ranks rfl rfl (lower_of_ranks rfl rfl (lower_of_ranks rfl rfl lower_nil))
    obtain ⟨goes, below⟩ := onEach_lower low next isNext
    exact ⟨goes, by omega⟩
  · simp only [mem_cons, not_mem_nil, or_false] at inserted
    rcases inserted with rfl | rfl <;> exact ⟨rfl, le_of_ble_eq_true rfl⟩
  · obtain ⟨binary, _, rfl⟩ := mem_map.mp announced
    exact ⟨rfl, le_of_ble_eq_true rfl⟩

theorem perform_lower (fails : Bool) (s : Manager) (action : Action) (plain : action.goes = true) :
    ∃ t more, perform env fails s action = some (t, more) ∧
      ∀ next ∈ more, next.goes = true ∧ next.rank < action.rank := by
  cases action
  case on c step =>
    obtain ⟨out, performed, lower⟩ := Step.perform_lower env c fails (s.context c) (s.entries c)
      (show step.calls = false by simpa [goes] using plain)
    refine ⟨_, _, by simp only [perform, performed, Option.map_some]; rfl, ?_⟩
    exact onEach_lower lower
  case compareBinaries agent binaries =>
    simp only [perform]
    split
    · exact ⟨_, _, rfl, by simp [goes, rank]⟩
    · exact ⟨_, _, rfl, reconcile_lower env agent _ binaries⟩
  case saveConnections reg conns =>
    simp only [perform]
    split
    · exact ⟨_, _, rfl, by simp⟩
    · exact ⟨_, _, rfl, install_lower env reg conns⟩
  case saveAdded agent hostname session binary =>
    simp only [perform]
    split
    · exact ⟨_, _, rfl, by simp⟩
    split
    · exact ⟨_, _, rfl, by simp⟩
    · refine ⟨_, _, rfl, fun next mem => ?_⟩
      rcases mem_cons.mp mem with rfl | later
      · simp [goes, rank]
      · have low : Lower 5 (installAdded env agent hostname session binary) := by
          repeat refine lower_of_ranks rfl rfl ?_
          exact lower_nil
        exact onEach_lower low next later
  case deleteStale stale =>
    simp only [perform]
    split
    · exact ⟨_, _, rfl, by simp⟩
    · exact ⟨_, _, rfl, onEach_lower teardownStale_lower⟩
  case collectConnections agent =>
    refine ⟨_, _, rfl, fun next mem => ?_⟩
    obtain ⟨goes, below⟩ := onEach_flatMap_lower teardown_lower next mem
    refine ⟨goes, ?_⟩
    show next.rank < 8
    omega
  case receive agent session msg =>
    refine ⟨_, _, rfl, fun next mem => ?_⟩
    split at mem
    · cases msg <;> simp_all [handleUnscoped, goes, rank]
    · cases mem
  case lockUpdate | lockRegistration => exact nomatch plain
  all_goals
    simp only [perform]
    repeat' split
  all_goals
    refine ⟨_, _, rfl, ?_⟩
    simp [goes, rank, Step.calls, Step.rank]

/-- **What waits for nothing comes to an end.** -/
theorem completes_of_goes {todo : List Action} (all : ∀ action ∈ todo, action.goes = true)
    (s : Manager) (answers : List Bool) : ∃ t, Completes (perform env) s ⟨todo, answers⟩ t :=
  completes_of_ready (perform_lower env) all s answers

/-! ### Calls -/

variable {env : Env} {s : Manager} {answers : List Bool}

theorem dispatch_completes (free : s.updateLocked = false) (agent : AgentId) (session : Session)
    (msg : IncomingAgentMessage) :
    ∃ t, Completes (perform env) s ⟨dispatch agent session msg, answers⟩ t := by
  cases msg
  case registerUpdate binaries =>
    by_cases current : (s.agents agent).any (·.session = session) = true
    · have goes : ∀ action ∈ [compareBinaries agent binaries], action.goes = true := by
        simp [goes]
      obtain ⟨t, run⟩ := completes_of_goes env goes { s with updateLocked := true }
        answers.tail.tail
      refine ⟨t, completes_single.mpr ⟨s, [.lockUpdate agent binaries], ?_,
        completes_single.mpr ⟨_, _, ?_, run⟩⟩⟩
      · simp only [perform, current, if_true, handleUnscoped]
      · simp only [perform, free, Bool.false_eq_true, if_false]
    · refine ⟨s, completes_single.mpr ⟨s, [], ?_, completes_nil.mpr rfl⟩⟩
      simp [perform, current, reduceIte]
  all_goals
    refine completes_of_goes env ?_ s answers
    simp [dispatch, goes, Step.calls]

end Detrix.Agent
