/-
**Routing matches the reported processes.**

Calls to the manager that come one after the other, with a storage that never fails. `Matches`: a
connection is routed to an agent exactly if the agent is registered and one of the binaries it has
reported last has this connection id. The manager keeps it in every history whose calls are `Covered`
(`routing_matches`). A reconnect never takes a route away, and an update takes the routes of the
processes that are gone, also while another process of the binary is still reported: without the
conditions the two part (`routes_part`).
-/

import Detrix.Agent.Progress
import Detrix.Agent.Routing

namespace Detrix.Agent

open Detrix.Core Library Connections Service List Function Manager Option
open Library.Task (Completes completes_of_runFor runFor)

/-! ### Histories -/

inductive AgentCall where
  | register (registration : Registration)
  | update (agent : AgentId) (session : Session) (binaries : List AgentBinaryInfo)
  | unregister (agent : AgentId)

def AgentCall.task : AgentCall → List Action
  | .register registration => registerAtomic registration
  | .update agent session binaries => dispatch agent session (.registerUpdate binaries)
  | .unregister agent => unregisterAgent agent

abbrev Reports : Type := AgentId → List AgentBinaryInfo

/-- A registration that is refused reports nothing. -/
def AgentCall.report (env : Env) (reported : Reports) : AgentCall → Reports
  | .register registration =>
    if accepts env registration then
      Function.update reported registration.agent registration.binaries
    else reported
  | .update agent _ binaries => Function.update reported agent binaries
  | .unregister _ => reported

/-- The calls that are considered: an update comes from the current session of a registered agent, and
two registered agents are on different hosts. -/
def AgentCall.Considered (s : Manager) : AgentCall → Prop
  | .register registration => ∀ agent info, s.agents agent = some info →
      agent ≠ registration.agent → info.hostname ≠ registration.hostname
  | .update agent session _ => ∃ info, s.agents agent = some info ∧ info.session = session
  | .unregister _ => True

/-- A manager, and what has been reported to it, after calls that were each made alone and met a
condition. -/
inductive History (env : Env) (allowed : Manager → AgentCall → Prop) (start : Manager) :
    Manager → Reports → Prop
  | start : History env allowed start start fun _ => []
  | call {s t : Manager} {reported : Reports} (before : History env allowed start s reported)
      (call : AgentCall) (meets : allowed s call)
      (run : Completes (perform env) s ⟨call.task, []⟩ t) :
      History env allowed start t (call.report env reported)

/-- **Routing matches the reports.** -/
def Matches (env : Env) (s : Manager) (reported : Reports) : Prop :=
  ∀ c agent, (s.entries c).route = some agent ↔ ∃ info, s.agents agent = some info ∧
    ∃ binary ∈ reported agent, connectionIdOf env.digest info.hostname binary = c

/-! ### The condition -/

/-- The entries of a snapshot for one process have one language. -/
def OneLanguage (binaries : List AgentBinaryInfo) : Prop :=
  ∀ one ∈ binaries, ∀ other ∈ binaries, one.process = other.process → one.language = other.language

instance (binaries : List AgentBinaryInfo) : Decidable (OneLanguage binaries) :=
  inferInstanceAs (Decidable (∀ _ ∈ _, ∀ _ ∈ _, _))

/-- A registration of a host without a separator in its name, which reports again the binaries that the
agent has. -/
structure CoveredRegistration (env : Env) (s : Manager) (registration : Registration) : Prop where
  plain : '|' ∉ registration.hostname.toList
  oneLanguage : OneLanguage registration.binaries
  again : ∀ info, s.agents registration.agent = some info → ∀ old ∈ info.binaries,
    ∃ new ∈ registration.binaries, connectionIdOf env.digest registration.hostname new =
      connectionIdOf env.digest info.hostname old

/-- An update whose new binaries can be stored, in which a process keeps its language, and in which a
binary that loses a process and is still reported has a new process. -/
structure CoveredUpdate (env : Env) (info : AgentInfo) (binaries : List AgentBinaryInfo) : Prop where
  oneLanguage : OneLanguage binaries
  kept : ∀ old ∈ info.binaries, ∀ new ∈ binaries, old.process = new.process →
    old.language = new.language
  fits : ∀ new ∈ binaries, reports info.binaries new = false →
    storable env info.hostname new = true
  replaced : ∀ old ∈ info.binaries, reports binaries old = false →
    (∃ new ∈ binaries, connectionIdOf env.digest info.hostname new =
      connectionIdOf env.digest info.hostname old) →
    ∃ new ∈ binaries, reports info.binaries new = false ∧
      connectionIdOf env.digest info.hostname new = connectionIdOf env.digest info.hostname old

def Covered (env : Env) (s : Manager) : AgentCall → Prop
  | .register registration => accepts env registration = true →
      CoveredRegistration env s registration
  | .update agent _ binaries => ∀ info, s.agents agent = some info → CoveredUpdate env info binaries
  | .unregister _ => True

/-! ### Snapshots -/

variable {binaries : List AgentBinaryInfo} {binary : AgentBinaryInfo}

theorem reports_iff :
    reports binaries binary = true ↔ ∃ other ∈ binaries, other.process = binary.process := by
  simp [reports]

theorem mem_of_mem_byProcess (mem : binary ∈ byProcess binaries) : binary ∈ binaries := by
  induction binaries with
  | nil => exact mem
  | cons head rest ih =>
    unfold byProcess at mem
    split at mem
    · exact .tail _ (ih mem)
    · rcases mem_cons.mp mem with rfl | later
      · exact (.head _)
      · exact .tail _ (ih later)

theorem exists_byProcess (mem : binary ∈ binaries) :
    ∃ kept ∈ byProcess binaries, kept.process = binary.process := by
  induction binaries generalizing binary with
  | nil => cases mem
  | cons head rest ih =>
    unfold byProcess
    split
    next again =>
      rcases mem_cons.mp mem with rfl | later
      · obtain ⟨other, ne, same⟩ := reports_iff.mp again
        obtain ⟨kept, isKept, keptSame⟩ := ih ne
        exact ⟨kept, isKept, keptSame.trans same⟩
      · exact ih later
    next =>
      rcases mem_cons.mp mem with rfl | later
      · exact ⟨binary, (.head _), rfl⟩
      · obtain ⟨kept, isKept, same⟩ := ih later
        exact ⟨kept, .tail _ isKept, same⟩

variable {digest : String → String}

theorem connectionIdOf_congr {hostname : String}
    {one other : AgentBinaryInfo} (process : one.process = other.process)
    (lang : one.language = other.language) :
    connectionIdOf digest hostname one = connectionIdOf digest hostname other := by
  have path : one.binaryPath = other.binaryPath := congrArg Prod.fst process
  rw [connectionIdOf, connectionIdOf, path, lang]

/-! ### What the manager keeps -/

structure Consistent (env : Env) (s : Manager) (reported : Reports) : Prop where
  routed : Matches env s reported
  current : ∀ agent info, s.agents agent = some info → reported agent = info.binaries
  plain : ∀ agent info, s.agents agent = some info → '|' ∉ info.hostname.toList
  apart : ∀ agent info agent' info', s.agents agent = some info → s.agents agent' = some info' →
    agent ≠ agent' → info.hostname ≠ info'.hostname
  oneLanguage : ∀ agent info, s.agents agent = some info → OneLanguage info.binaries

theorem consistent_new (env : Env) (conns : ConnectionRepository) (metrics : Repository) :
    Consistent env (.new conns metrics) fun _ => [] where
  routed c agent := by simp [new, Entries.fresh]
  current agent info known := nomatch known
  plain agent info known := nomatch known
  apart agent info agent' info' known := nomatch known
  oneLanguage agent info known := nomatch known

section Histories

variable {env : Env} {s t : Manager} {reported : Reports}

section
variable (consistent : Consistent env s reported)
include consistent

/-- The routing says it all. -/
theorem Consistent.of_routing (same : t.routing = s.routing) : Consistent env t reported := by
  have routes : ∀ c, (t.entries c).route = (s.entries c).route := fun c =>
    congrFun (congrArg Routing.routes same) c
  have agents : t.agents = s.agents := congrArg Routing.agents same
  exact {
    routed := fun c agent => by rw [routes, agents]; exact consistent.routed c agent
    current := by rw [agents]; exact consistent.current
    plain := by rw [agents]; exact consistent.plain
    apart := by rw [agents]; exact consistent.apart
    oneLanguage := by rw [agents]; exact consistent.oneLanguage }

variable {agent : AgentId} {info : AgentInfo}

theorem Consistent.with_agent
    (agents : t.agents = update s.agents agent (some info))
    (plain : '|' ∉ info.hostname.toList) (oneLanguage : OneLanguage info.binaries)
    (others : ∀ other old, s.agents other = some old → other ≠ agent → old.hostname ≠ info.hostname)
    (routed : Matches env t (update reported agent info.binaries)) :
    Consistent env t (update reported agent info.binaries) := by
  have cases_of : ∀ other found, t.agents other = some found →
      (other = agent ∧ found = info) ∨ (other ≠ agent ∧ s.agents other = some found) := by
    intro other found known
    rw [agents] at known
    by_cases same : other = agent
    · subst same
      rw [update_self, some.injEq] at known
      exact .inl ⟨rfl, known.symm⟩
    · rw [update_of_ne same] at known
      exact .inr ⟨same, known⟩
  refine ⟨routed, ?_, ?_, ?_, ?_⟩
  · intro other found known
    rcases cases_of other found known with ⟨rfl, rfl⟩ | ⟨ne, old⟩
    · rw [update_self]
    · rw [update_of_ne ne]
      exact consistent.current other found old
  · intro other found known
    rcases cases_of other found known with ⟨rfl, rfl⟩ | ⟨-, old⟩
    · exact plain
    · exact consistent.plain other found old
  · intro one found other found' known known' ne
    rcases cases_of one found known with ⟨rfl, rfl⟩ | ⟨apart, old⟩ <;>
      rcases cases_of other found' known' with ⟨rfl, rfl⟩ | ⟨apart', old'⟩
    · exact absurd rfl ne
    · exact (others other found' old' apart').symm
    · exact others one found old apart
    · exact consistent.apart one found other found' old old' ne
  · intro other found known
    rcases cases_of other found known with ⟨rfl, rfl⟩ | ⟨-, old⟩
    · exact oneLanguage
    · exact consistent.oneLanguage other found old

theorem Consistent.not_among (inj : Function.Injective env.digest) {hostname : String}
    (plain : '|' ∉ hostname.toList)
    {other : AgentId} (away : ∀ old, s.agents other = some old → old.hostname ≠ hostname)
    {c : ConnectionId} (routed : (s.entries c).route = some other) (binaries : List AgentBinaryInfo) :
    c ∉ binaries.map (connectionIdOf env.digest hostname) := by
  intro mem
  obtain ⟨old, known, theirs, _, rfl⟩ := (consistent.routed c other).mp routed
  obtain ⟨ours, _, same⟩ := mem_map.mp mem
  exact (away old known).symm
    ((agent_text_eq_iff plain (consistent.plain other old known)).mp (inj same)).2.2

/-! ### Each call -/

theorem consistent_register (inj : Function.Injective env.digest) {reg : Registration}
    (considered : AgentCall.Considered s (.register reg))
    (covered : CoveredRegistration env s reg)
    (routing : t.routing = registered env reg s.routing) :
    Consistent env t
      (update reported reg.agent reg.binaries) := by
  have agents : t.agents = update s.agents reg.agent (some reg.info) :=
    congrArg Routing.agents routing
  have routes : ∀ c, (t.entries c).route =
      if c ∈ reg.binaries.map (connectionIdOf env.digest reg.hostname) then
        some reg.agent
      else (s.entries c).route := fun c => congrFun (congrArg Routing.routes routing) c
  refine consistent.with_agent agents covered.plain covered.oneLanguage considered ?_
  intro c agent
  rw [routes, agents]
  by_cases own : agent = reg.agent
  · subst own
    rw [update_self, update_self]
    constructor
    · intro routed
      split at routed
      next mem =>
        obtain ⟨binary, isBinary, same⟩ := mem_map.mp mem
        exact ⟨_, rfl, binary, isBinary, same⟩
      next =>
        -- a route of before belongs to a binary that is reported again
        obtain ⟨info, known, binary, isBinary, rfl⟩ := (consistent.routed c _).mp routed
        rw [consistent.current _ info known] at isBinary
        obtain ⟨new, isNew, same⟩ := covered.again info known binary isBinary
        exact ⟨_, rfl, new, isNew, same⟩
    · rintro ⟨info, known, binary, isBinary, same⟩
      cases known
      exact if_pos (mem_map.mpr ⟨binary, isBinary, same⟩)
  · rw [update_of_ne own, update_of_ne own, ← consistent.routed c agent]
    constructor <;> intro routed
    · split at routed
      · exact absurd (some.inj routed).symm own
      · exact routed
    · rw [if_neg (consistent.not_among inj covered.plain
        (fun old known => considered agent old known own) routed _)]
      exact routed

theorem mem_update_iff (known : s.agents agent = some info)
    (covered : CoveredUpdate env info binaries) (c : ConnectionId) :
    (c ∈ addedIds env info binaries ∨
        c ∉ removedIds env info binaries ∧ (s.entries c).route = some agent) ↔
      ∃ binary ∈ binaries, connectionIdOf env.digest info.hostname binary = c := by
  have added_iff : c ∈ addedIds env info binaries ↔ ∃ new ∈ binaries,
      reports info.binaries new = false ∧ connectionIdOf env.digest info.hostname new = c := by
    simp only [addedIds, addedBinaries, List.mem_map, mem_filter, Bool.not_eq_true']
    constructor
    · rintro ⟨new, ⟨⟨isNew, unknown⟩, _⟩, same⟩
      exact ⟨new, isNew, unknown, same⟩
    · rintro ⟨new, isNew, unknown, same⟩
      exact ⟨new, ⟨⟨isNew, unknown⟩, covered.fits new isNew unknown⟩, same⟩
  have routed_iff : (s.entries c).route = some agent ↔
      ∃ old ∈ info.binaries, connectionIdOf env.digest info.hostname old = c := by
    rw [consistent.routed c agent, ← consistent.current agent info known]
    constructor
    · rintro ⟨found, isFound, rest⟩
      cases known.symm.trans isFound
      exact rest
    · exact fun rest => ⟨info, known, rest⟩
  constructor
  · rintro (added | ⟨stays, routed⟩)
    · obtain ⟨new, isNew, _, same⟩ := added_iff.mp added
      exact ⟨new, isNew, same⟩
    · obtain ⟨old, isOld, rfl⟩ := routed_iff.mp routed
      cases still : reports binaries old with
      | true =>
        obtain ⟨new, isNew, process⟩ := reports_iff.mp still
        exact ⟨new, isNew, connectionIdOf_congr process
          (covered.kept old isOld new isNew process.symm).symm⟩
      | false =>
        -- the process is gone, and the entry that stands for it has the same connection
        obtain ⟨kept, isKept, process⟩ := exists_byProcess isOld
        refine absurd (mem_map.mpr ⟨kept, mem_filter.mpr ⟨isKept, ?_⟩, ?_⟩) stays
        · rw [reports, process, ← reports, still]
          rfl
        · exact connectionIdOf_congr process (consistent.oneLanguage agent info known kept
            (mem_of_mem_byProcess isKept) old isOld process)
  · rintro ⟨new, isNew, rfl⟩
    cases before : reports info.binaries new with
    | false => exact .inl (added_iff.mpr ⟨new, isNew, before, rfl⟩)
    | true =>
      obtain ⟨old, isOld, process⟩ := reports_iff.mp before
      have same : connectionIdOf env.digest info.hostname old =
          connectionIdOf env.digest info.hostname new :=
        connectionIdOf_congr process (covered.kept old isOld new isNew process)
      by_cases gone : connectionIdOf env.digest info.hostname new ∈ removedIds env info binaries
      · -- a process of the binary is gone: another one is new
        obtain ⟨lost, isLost, lostSame⟩ := mem_map.mp gone
        obtain ⟨isKept, unreported⟩ := mem_filter.mp isLost
        obtain ⟨fresh, isFresh, unknown, freshSame⟩ := covered.replaced lost
          (mem_of_mem_byProcess isKept) (by simpa using unreported) ⟨new, isNew, lostSame.symm⟩
        exact .inl (added_iff.mpr ⟨fresh, isFresh, unknown, freshSame.trans lostSame⟩)
      · exact .inr ⟨gone, routed_iff.mpr ⟨old, isOld, same⟩⟩

theorem consistent_update (inj : Function.Injective env.digest)
    (known : s.agents agent = some info) (covered : CoveredUpdate env info binaries)
    (routing : t.routing = reconciled env agent info binaries s.routing) :
    Consistent env t (update reported agent binaries) := by
  have agents : t.agents = update s.agents agent (some { info with binaries }) :=
    congrArg Routing.agents routing
  have routes : ∀ c, (t.entries c).route =
      if c ∈ addedIds env info binaries then some agent
      else if c ∈ removedIds env info binaries then none
      else (s.entries c).route := fun c => congrFun (congrArg Routing.routes routing) c
  have plain := consistent.plain agent info known
  have away : ∀ other old, s.agents other = some old → other ≠ agent →
      old.hostname ≠ info.hostname := fun other old found ne =>
    consistent.apart other old agent info found known ne
  refine consistent.with_agent agents plain covered.oneLanguage away ?_
  intro c other
  rw [routes, agents]
  by_cases own : other = agent
  · subst own
    rw [update_self, update_self]
    have mine : (∃ found, some { info with binaries } = some found ∧ ∃ binary ∈ binaries,
        connectionIdOf env.digest found.hostname binary = c) ↔
        ∃ binary ∈ binaries, connectionIdOf env.digest info.hostname binary = c := by
      simp
    rw [mine, ← mem_update_iff consistent known covered c]
    split
    next added => exact iff_of_true rfl (.inl added)
    next old =>
      split
      next gone => exact iff_of_false (by simp) (by simp [old, gone])
      next stays => simp [old, stays]
  · rw [update_of_ne own, update_of_ne own, ← consistent.routed c other]
    constructor <;> intro routed
    · split at routed
      · exact absurd (some.inj routed).symm own
      · split at routed
        · cases routed
        · exact routed
    · have apart := consistent.not_among inj plain
        (fun old found => away other old found own) routed
      rw [if_neg (show c ∉ addedIds env info binaries from apart _),
        if_neg (show c ∉ removedIds env info binaries from apart _)]
      exact routed

theorem consistent_unregister (routing : t.routing = withoutAgent agent s.routing) :
    Consistent env t reported := by
  have agents : t.agents = update s.agents agent none := congrArg Routing.agents routing
  have routes : ∀ c, (t.entries c).route =
      if (s.entries c).route = some agent then none else (s.entries c).route := fun c =>
    congrFun (congrArg Routing.routes routing) c
  have old_of : ∀ other info, t.agents other = some info →
      other ≠ agent ∧ s.agents other = some info := by
    intro other info known
    rw [agents] at known
    by_cases same : other = agent
    · subst same
      simp at known
    · rw [update_of_ne same] at known
      exact ⟨same, known⟩
  refine ⟨?_, fun other info known => consistent.current other info (old_of other info known).2,
    fun other info known => consistent.plain other info (old_of other info known).2,
    fun one info other info' known known' => consistent.apart one info other info'
      (old_of one info known).2 (old_of other info' known').2,
    fun other info known => consistent.oneLanguage other info (old_of other info known).2⟩
  intro c other
  rw [routes, agents]
  by_cases own : other = agent
  · subst own
    refine iff_of_false ?_ (by simp)
    split <;> simp_all
  · rw [update_of_ne own, ← consistent.routed c other]
    constructor
    · simp
    · intro routed
      rw [if_neg fun same => own (some.inj (routed.symm.trans same)), routed]

/-! ### Every history -/

theorem consistent_call (inj : Function.Injective env.digest) {call : AgentCall} (considered : call.Considered s)
    (covered : Covered env s call) (run : Completes (perform env) s ⟨call.task, []⟩ t) :
    Consistent env t (call.report env reported) := by
  cases call with
  | register reg =>
    have routing := register_routing run
    simp only [AgentCall.report]
    split at routing
    next ok =>
      rw [if_pos ok]
      exact consistent_register consistent inj considered (covered ok) routing
    next no =>
      rw [if_neg no]
      exact consistent.of_routing routing
  | update agent session binaries =>
    obtain ⟨info, known, rfl⟩ := considered
    exact consistent_update consistent inj known (covered info known)
      (update_routing known run)
  | unregister agent =>
    have routing := unregister_routing run
    split at routing
    · exact consistent_unregister consistent routing
    · exact consistent.of_routing routing

end

theorem History.consistent (inj : Function.Injective env.digest)
    {conns : ConnectionRepository} {metrics : Repository}
    (past : History env (fun s call => call.Considered s ∧ Covered env s call)
      (.new conns metrics) s reported) : Consistent env s reported := by
  induction past with
  | start => exact consistent_new env conns metrics
  | call before call meets run ih => exact consistent_call ih inj meets.1 meets.2 run

/-- **Agent routing matches the reported processes**, after every history of covered calls. -/
theorem routing_matches (env : Env) (injective : Function.Injective env.digest)
    (connections : ConnectionRepository) (metrics : Repository) (s : Manager) (reported : Reports)
    (history : History env (fun s call => call.Considered s ∧ Covered env s call)
      (.new connections metrics) s reported) : Matches env s reported :=
  (history.consistent injective).routed

end Histories

/-! ### A process that ends, and a reconnect -/

namespace Sample

def plainEnv : Env where
  digest := id
  minCompatibleAgentVersion := none
  hasLifecycleManager := true
  rustEbpf := false
  debugInfoPath := ""
  startError := ""

def capabilities : AgentCapabilities := ⟨true, [], [], 0⟩

def process (pid : Nat) : AgentBinaryInfo := ⟨"/bin/app", pid, 7, .go⟩

def registrationOf (binaries : List AgentBinaryInfo) (session : Session) : Registration :=
  ⟨"a", "host", "1.0.0", capabilities, binaries, session⟩

def unused : Manager := .new .empty .empty

/-- The state after a call, which takes less than 40 actions here. -/
@[irreducible]
def after (s : Manager) (task : List Action) : Manager :=
  (runFor (perform plainEnv) 40 s ⟨task, []⟩).1

theorem completes_after {s : Manager} {task : List Action}
    (ends : (runFor (perform plainEnv) 40 s ⟨task, []⟩).2.todo = []) :
    Completes (perform plainEnv) s ⟨task, []⟩ (after s task) := by
  unfold after
  exact completes_of_runFor ends

def registered : Manager := after unused (registerAtomic (registrationOf [process 1, process 2] 0))

def oneEnded : Manager := after registered (dispatch "a" 0 (.registerUpdate [process 2]))

def replaced : Manager := after registered (dispatch "a" 0 (.registerUpdate [process 3]))

def reconnected : Manager := after registered (registerAtomic (registrationOf [] 1))

end Sample

open Sample

theorem Sample.registered_run : Completes (perform plainEnv) unused
    ⟨registerAtomic (registrationOf [process 1, process 2] 0), []⟩
    registered :=
  completes_after (by decide)

theorem Sample.oneEnded_run : Completes (perform plainEnv) registered
    ⟨dispatch "a" 0 (.registerUpdate [process 2]), []⟩ oneEnded :=
  completes_after (by decide +kernel)

theorem Sample.registered_agents : registered.agents =
    update (fun _ => none) "a"
      (some (registrationOf [process 1, process 2] 0).info) := by
  have routing := register_routing registered_run
  exact congrArg Routing.agents routing

/-- A binary with one process left is not routed any more, and one that is not reported any more is
still routed. -/
theorem routes_part :
    (∃ s reported, History plainEnv (fun s call => call.Considered s) unused s reported ∧
      (∃ info, s.agents "a" = some info ∧ info.hostname = "host") ∧
      reported "a" = [process 2] ∧
      (s.entries (connectionIdOf id "host" (process 2))).route = none ∧
      ¬ Matches plainEnv s reported) ∧
    ∃ s reported, History plainEnv (fun s call => call.Considered s) unused s reported ∧
      reported "a" = [] ∧
      (s.entries (connectionIdOf id "host" (process 2))).route = some "a" ∧
      ¬ Matches plainEnv s reported := by
  have alone : ∀ binaries session, AgentCall.Considered unused
      (.register (registrationOf binaries session)) := by
    intro binaries session agent info known
    exact nomatch known
  have one : AgentCall.Considered Sample.registered (.register (registrationOf [] 1)) := by
    intro agent info known ne
    have other : agent ≠ "a" := ne
    rw [registered_agents, update_of_ne other] at known
    cases known
  have current : AgentCall.Considered Sample.registered (.update "a" 0 [process 2]) :=
    ⟨_, congrFun registered_agents "a", rfl⟩
  have unused : History plainEnv (fun s call => call.Considered s) unused unused
      fun _ => [] := .start
  have registered := unused.call (.register _) (alone _ _) registered_run
  have gone : (oneEnded.entries (connectionIdOf id "host" (process 2))).route = none := by
    decide +kernel
  have left : (reconnected.entries (connectionIdOf id "host" (process 2))).route =
      some "a" := by
    decide +kernel
  have there : ∃ info, oneEnded.agents "a" = some info ∧ info.hostname = "host" := by
    have agents := congrFun (congrArg Routing.agents
      (update_routing (congrFun registered_agents "a") oneEnded_run)) "a"
    exact ⟨_, agents, rfl⟩
  have again : Completes (perform plainEnv) Sample.registered _ reconnected :=
    completes_after (by decide +kernel)
  refine ⟨⟨oneEnded, _, registered.call _ current oneEnded_run, there, ?_, gone,
    fun same => ?_⟩, ⟨reconnected, _, registered.call _ one again, ?_, left, fun same => ?_⟩⟩
  · simp [AgentCall.report, Function.update_self]
  · obtain ⟨info, known, host⟩ := there
    have routed := (same _ "a").mpr ⟨info, known, process 2,
      by simp [AgentCall.report, Function.update_self, mem_singleton], by rw [host]⟩
    nomatch gone.symm.trans routed
  · rfl
  · obtain ⟨info, known, binary, mem, _⟩ := (same _ "a").mp left
    simp only [AgentCall.report] at mem
    cases mem

theorem routing_matches_replaced : Function.Injective plainEnv.digest ∧ ∃ s reported,
    History plainEnv (fun s call => call.Considered s ∧ Covered plainEnv s call)
      unused s reported ∧ reported "a" = [process 3] ∧
      Matches plainEnv s reported := by
  have inj : Function.Injective plainEnv.digest := injective_id
  have alone : ∀ reg, AgentCall.Considered unused (.register reg) := by
    intro reg agent info known
    exact nomatch known
  have first : CoveredRegistration plainEnv unused
      (registrationOf [process 1, process 2] 0) := {
    plain := by decide
    oneLanguage := by decide
    again := nofun }
  have second : CoveredUpdate plainEnv
      (registrationOf [process 1, process 2] 0).info [process 3] := {
    oneLanguage := by decide
    kept := by decide
    fits := by decide
    replaced := by decide }
  have known := congrFun registered_agents "a"
  have unused : History plainEnv
      (fun s call => call.Considered s ∧ Covered plainEnv s call) unused unused
      fun _ => [] := .start
  have registered := unused.call (.register _) ⟨alone _, fun _ => first⟩ registered_run
  have past := registered.call (.update "a" 0 [process 3])
    ⟨⟨_, known, rfl⟩, fun info found => by
      cases known.symm.trans found
      exact second⟩ (completes_after (by decide +kernel) : Completes _ _ _ replaced)
  exact ⟨inj, _, _, past, rfl, routing_matches _ inj _ _ _ _ past⟩

end Detrix.Agent
