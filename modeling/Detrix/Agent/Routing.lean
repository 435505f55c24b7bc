/-
**The routing table and the reported binaries.**

What a registration, an update of the scanner and the end of a session do to the routing table and to
the agents, when no call of the storage fails (`register_routing`, `update_routing`,
`unregister_routing`). The table follows the lists that the agents have reported last as long as a
reconnect reports at least the binaries of before and an update that removes a process of a binary
that is still reported also adds one.
-/

import Detrix.Agent.Manager

namespace Detrix.Agent

open Detrix.Core Library Connections Service List Option
open Library.Task (Completes completes_nil completes_cons completes_single completes_step
  completes_last)

/-- The part of the state that says which agent a connection belongs to. -/
@[ext]
structure Routing where
  routes : ConnectionId → Option AgentId
  agents : AgentId → Option AgentInfo

def Manager.routing (s : Manager) : Routing := ⟨fun c => (s.entries c).route, s.agents⟩

namespace Routing

def withRoute (r : Routing) (c : ConnectionId) (route : Option AgentId) : Routing :=
  { r with routes := Function.update r.routes c route }

theorem withRoute_self {r : Routing} {c : ConnectionId} {route : Option AgentId}
    (same : r.routes c = route) : r.withRoute c route = r := by
  subst same
  rw [withRoute, Function.update_eq_self]

variable (r : Routing)

def withRoutes (r : Routing) (ids : List ConnectionId) (route : Option AgentId) : Routing :=
  { r with routes := fun c => if c ∈ ids then route else r.routes c }

theorem withRoutes_nil (route : Option AgentId) : r.withRoutes [] route = r := rfl

theorem withRoutes_cons (id : ConnectionId) (ids : List ConnectionId) (route : Option AgentId) :
    r.withRoutes (id :: ids) route = (r.withRoute id route).withRoutes ids route := by
  refine Routing.ext ?_ rfl
  funext c
  by_cases same : c = id
  · subst same
    simp [withRoutes, withRoute]
  · simp [withRoutes, withRoute, same]

def withAgent (r : Routing) (agent : AgentId) (info : Option AgentInfo) : Routing :=
  { r with agents := Function.update r.agents agent info }

end Routing

open Routing

/-! ### Steps -/

def Step.reroute : Step → Option AgentId → Option AgentId
  | .removeRoute, _ => none
  | .insertRoute agent, _ => some agent
  | _, route => route

def Step.keepsRoute : Step → Bool
  | .removeRoute | .insertRoute _ => false
  | _ => true

variable {agent : AgentId} {binaries : List AgentBinaryInfo} {step : Step} {hostname : String}
  {session : Session} {connections : List Connection}

theorem Step.reroute_of_keepsRoute (keeps : step.keepsRoute = true) (route : Option AgentId) :
    step.reroute route = route := by
  unfold keepsRoute at keeps
  split at keeps
  · cases keeps
  · cases keeps
  next removes inserts => cases step <;> first | rfl | simp_all

variable {env : Env} {c : ConnectionId}

@[simp]
theorem Entries.settle_route (entries : Entries) (call : Option Nat) (out : Oneshot) :
    (entries.settle call out).route = entries.route := by
  cases call <;> rfl

@[simp]
theorem Entries.dropReceiver_route (entries : Entries) (channel : Option Nat) :
    (entries.dropReceiver channel).route = entries.route := by
  cases channel <;> rfl

theorem Entries.sendToAgent_route {entries after : Entries} {context : Context}
    {msg : OutgoingAgentMessage} {call : Option Nat}
    (sent : entries.sendToAgent context msg call = some after) : after.route = entries.route := by
  unfold Entries.sendToAgent at sent
  simp only [bind, bind_eq_some_iff, some.injEq] at sent
  obtain ⟨agent, _, info, _, rfl⟩ := sent
  rfl

/-- Only the two steps for it change a route, and no step leads to one of them. -/
theorem Step.perform_route {fails : Bool} {context : Context} {entries : Entries}
    {out : Outcome} (done : step.perform env c fails context entries = some out) :
    out.entries.route = step.reroute entries.route ∧
      ∀ next ∈ out.next, next.keepsRoute = true := by
  cases step
  case authorize agent payload =>
    cases done
    refine ⟨rfl, ?_⟩
    split
    · cases payload <;> simp [handle, Step.keepsRoute]
    · nofun
  case admitUpdate agent update =>
    simp only [Step.perform] at done
    split at done <;> cases done
    · simp [Step.reroute, Step.keepsRoute]
    · refine ⟨rfl, ?_⟩
      unfold afterAdmission
      split <;> simp [Step.keepsRoute]
  case sendClose =>
    cases done
    refine ⟨?_, nofun⟩
    cases sent : entries.sendToAgent context (.closeConnection c) none with
    | none => rfl
    | some after => exact Entries.sendToAgent_route sent
  case sendRequest key command call =>
    simp only [Step.perform] at done
    split at done
    next sent =>
      cases done
      split at sent
      · cases sent
      · exact ⟨Entries.sendToAgent_route sent, by simp [Step.keepsRoute]⟩
    next =>
      cases done
      simp [Step.reroute, Step.keepsRoute, Entries.forget]
  all_goals
    simp only [Step.perform] at done
    repeat' split at done
  all_goals
    first
    | contradiction
    | (cases done
       simp [Step.reroute, Step.keepsRoute, Entries.takePending, Entries.withChannel, startFailed,
         Entries.forget])

/-! ### Steps of a task -/

theorem Manager.put_routing (s : Manager) (c : ConnectionId) (entries : Entries) :
    (s.put c entries).routing = s.routing.withRoute c entries.route := by
  refine Routing.ext ?_ rfl
  funext d
  by_cases same : d = c
  · subst same
    simp [routing, put, Routing.withRoute]
  · simp [routing, put, Routing.withRoute, same]

theorem Manager.store_routing (s : Manager) (c : ConnectionId) (status : Option ConnectionStatus) :
    (s.store c status).routing = s.routing := by
  cases status <;> rfl

variable {s t : Manager} {answers : List Bool}

theorem perform_on_routing {fails : Bool} {more : List Action}
    (done : perform env fails s (.on c step) = some (t, more)) :
    t.routing = s.routing.withRoute c (step.reroute (s.routing.routes c)) ∧
      ∀ next ∈ more, ∃ later, next = .on c later ∧ later.keepsRoute = true := by
  simp only [perform, map_eq_some_iff, Prod.mk.injEq] at done
  obtain ⟨out, performed, rfl, rfl⟩ := done
  obtain ⟨route, keeps⟩ := Step.perform_route performed
  refine ⟨?_, fun next mem => ?_⟩
  · rw [Manager.store_routing, Manager.put_routing, route]
    rfl
  · obtain ⟨later, isNext, rfl⟩ := mem_map.mp mem
    exact ⟨later, rfl, keeps later isNext⟩

theorem on_routing (run : Completes (perform env) s ⟨[.on c step], answers⟩ t) :
    t.routing = s.routing.withRoute c (step.reroute (s.routing.routes c)) := by
  obtain ⟨u, more, done, later⟩ := completes_single.mp run
  obtain ⟨first, keeps⟩ := perform_on_routing done
  have rest := @Completes.keeps _ _ _ _ _ _
    (fun v todo => v.routing = u.routing ∧
      ∀ next ∈ todo, ∃ later, next = .on c later ∧ later.keepsRoute = true)
    (fun fails v w action rest more done' ⟨same, all⟩ => by
      obtain ⟨step', rfl, keeps'⟩ := all action (.head _)
      obtain ⟨again, keeps''⟩ := perform_on_routing done'
      rw [Step.reroute_of_keepsRoute keeps', withRoute_self rfl] at again
      refine ⟨again.trans same, fun next mem => ?_⟩
      rcases mem_append.mp mem with new | old
      · exact keeps'' next new
      · exact all next (.tail _ old))
    later ⟨rfl, keeps⟩
  exact rest.1.trans first

theorem onEach_routing {steps : List Step}
    (run : Completes (perform env) s ⟨onEach c steps, answers⟩ t) :
    t.routing = s.routing.withRoute c
      (steps.foldl (fun route step => step.reroute route) (s.routing.routes c)) := by
  induction steps generalizing s answers with
  | nil =>
    rw [completes_nil.mp run, foldl_nil, withRoute_self rfl]
  | cons step rest ih =>
    obtain ⟨u, k, first, others⟩ := run.split
      (show (⟨onEach c (step :: rest), answers⟩ : Library.Task Action).todo =
        [.on c step] ++ onEach c rest from rfl)
    rw [ih others, on_routing first]
    simp [withRoute]

/-! ### Stale connections -/

theorem checkStale_routing {stale target : ConnectionId}
    (run : Completes (perform env) s ⟨[.checkStale stale target], answers⟩ t) :
    t.routing = s.routing := by
  obtain ⟨u, more, done, later⟩ := completes_single.mp run
  simp only [perform] at done
  split at done
  · cases done
    rw [completes_nil.mp later]
  next unrouted =>
    cases done
    have alone : s.routing.routes stale = none := not_isSome_iff_eq_none.mp unrouted
    obtain ⟨v, more, migrated, later⟩ := completes_cons.mp later
    have kept : v.routing = s.routing ∧ more = [] := by
      simp only [perform] at migrated
      split at migrated <;> cases migrated <;>
        exact ⟨rfl, rfl⟩
    obtain ⟨same, rfl⟩ := kept
    obtain ⟨w, more, gone, later⟩ := completes_single.mp later
    simp only [perform] at gone
    split at gone <;> cases gone
    · rw [completes_nil.mp later, same]
    · rw [onEach_routing later]
      show v.routing.withRoute stale none = s.routing
      rw [same, withRoute_self alone]

theorem findStale_routing {conn : Connection}
    (run : Completes (perform env) s ⟨[.findStale conn], answers⟩ t) :
    t.routing = s.routing := by
  obtain ⟨u, more, done, later⟩ := completes_single.mp run
  simp only [perform] at done
  split at done <;> cases done
  · rw [completes_nil.mp later]
  · refine later.unchanged fun action mem v w answers single => ?_
    obtain ⟨stale, _, rfl⟩ := mem_map.mp mem
    exact checkStale_routing single

/-! ### An update of the scanner -/

def storable (env : Env) (hostname : String) (binary : AgentBinaryInfo) : Bool :=
  (connectionOf env.digest hostname binary).isOk

theorem saveAdded_routing {binary : AgentBinaryInfo}
    (run : Completes (perform env) s ⟨[.saveAdded agent hostname session binary], []⟩ t) :
    t.routing = if storable env hostname binary then
      s.routing.withRoute (connectionIdOf env.digest hostname binary) (some agent)
    else s.routing := by
  obtain ⟨u, more, done, later⟩ := completes_single.mp run
  simp only [perform, headD_nil, reduceIte] at done
  unfold storable
  split at done
  next made =>
    cases done
    rw [completes_nil.mp later, made]
    rfl
  next conn made =>
    cases done
    obtain ⟨v, k, first, second⟩ := later.split
      (show (⟨_, _⟩ : Library.Task Action).todo = [.findStale conn] ++ _ from rfl)
    rw [onEach_routing second, findStale_routing first, made, connectionOf_id made]
    rfl

/-- The connections that an update adds, and those that it removes. -/
def addedIds (env : Env) (info : AgentInfo) (binaries : List AgentBinaryInfo) : List ConnectionId :=
  ((addedBinaries info.binaries binaries).filter (storable env info.hostname)).map
    (connectionIdOf env.digest info.hostname)

def removedIds (env : Env) (info : AgentInfo) (binaries : List AgentBinaryInfo) :
    List ConnectionId :=
  (removedBinaries info.binaries binaries).map (connectionIdOf env.digest info.hostname)

/-- What a removal, an addition and the new list make of the routing. -/
def reconciled (env : Env) (agent : AgentId) (info : AgentInfo) (binaries : List AgentBinaryInfo)
    (r : Routing) : Routing :=
  ((r.withRoutes (removedIds env info binaries) none).withRoutes (addedIds env info binaries)
    (some agent)).withAgent agent (some { info with binaries })

/-- Steps that end in the same route for every connection. -/
theorem eachConnection_routing {ids : List ConnectionId} {steps : List Step} {route : Option AgentId}
    (same : ∀ before, steps.foldl (fun route step => step.reroute route) before = route)
    (run : Completes (perform env) s ⟨ids.flatMap (onEach · steps), answers⟩ t) :
    t.routing = s.routing.withRoutes ids route := by
  induction ids generalizing s answers with
  | nil => rw [completes_nil.mp run, withRoutes_nil]
  | cons c rest ih =>
    obtain ⟨u, k, first, others⟩ := run.split rfl
    rw [withRoutes_cons, ih others, onEach_routing first, same]

theorem added_routing
    (run : Completes (perform env) s ⟨binaries.map (.saveAdded agent hostname session), []⟩ t) :
    t.routing = s.routing.withRoutes
      ((binaries.filter (storable env hostname)).map (connectionIdOf env.digest hostname))
      (some agent) := by
  induction binaries generalizing s with
  | nil => rw [completes_nil.mp run, filter_nil, map_nil, withRoutes_nil]
  | cons binary rest ih =>
    obtain ⟨u, k, first, others⟩ := run.split
      (show (⟨_, _⟩ : Library.Task Action).todo =
        [.saveAdded agent hostname session binary] ++ rest.map _ from rfl)
    rw [drop_nil] at others
    rw [ih others, saveAdded_routing first, filter_cons]
    split
    · rw [map_cons, withRoutes_cons]
    · rfl

section
variable {info : AgentInfo} (known : s.agents agent = some info)
include known

theorem reconcile_routing
    (run : Completes (perform env) s ⟨reconcile env agent info binaries, []⟩ t) :
    t.routing = reconciled env agent info binaries s.routing := by
  obtain ⟨u, j, early, late⟩ := run.split rfl
  obtain ⟨v, k, removal, addition⟩ := early.split rfl
  rw [drop_nil] at late addition
  have middle := added_routing addition
  rw [eachConnection_routing (fun _ => rfl) removal] at middle
  rw [(completes_last rfl).mp ((completes_step rfl).mp late)]
  show u.routing.withAgent agent ((u.routing.agents agent).map _) = _
  rw [middle]
  show withAgent _ agent ((s.agents agent).map _) = _
  rw [known]
  rfl

theorem update_run
    (run : Completes (perform env) s ⟨dispatch agent info.session (.registerUpdate binaries), answers⟩ t) :
    Completes (perform env) { s with updateLocked := true }
      ⟨reconcile env agent info binaries, answers.tail.tail.tail⟩ t := by
  obtain ⟨u, more, got, run⟩ := completes_single.mp run
  simp only [perform, known, any_some, decide_true, if_true, handleUnscoped] at got
  cases got
  obtain ⟨v, more, locked, run⟩ := completes_single.mp run
  simp only [perform] at locked
  split at locked
  · cases locked
  cases locked
  obtain ⟨w, more, compared, run⟩ := completes_single.mp run
  simp only [perform, known] at compared
  cases compared
  exact run

/-- **An update by the current session of an agent.** -/
theorem update_routing
    (run : Completes (perform env) s
      ⟨dispatch agent info.session (.registerUpdate binaries), []⟩ t) :
    t.routing = reconciled env agent info binaries s.routing :=
  reconcile_routing (s := { s with updateLocked := true }) known (update_run known run)

end

/-! ### The end of a session -/

def withoutAgent (agent : AgentId) (r : Routing) : Routing where
  routes c := if r.routes c = some agent then none else r.routes c
  agents := Function.update r.agents agent none

/-- **The end of an agent's session.** -/
theorem unregister_routing (run : Completes (perform env) s ⟨unregisterAgent agent, answers⟩ t) :
    t.routing = if (s.agents agent).isSome then withoutAgent agent s.routing else s.routing := by
  obtain ⟨u, more, done, later⟩ := completes_single.mp run
  simp only [perform] at done
  cases known : s.agents agent with
  | none =>
    simp only [known, any_none, reduceIte] at done
    cases done
    rw [completes_nil.mp later]
    rfl
  | some info =>
    simp only [known, any_some, all_none, if_true] at done
    cases done
    obtain ⟨v, more, collected, later⟩ := completes_cons.mp later
    cases collected
    obtain ⟨w, k, removal, pings⟩ := later.split rfl
    rw [(completes_last rfl).mp pings]
    refine (eachConnection_routing (fun _ => rfl) removal).trans (Routing.ext ?_ rfl)
    funext c
    exact if_congr (Manager.mem_ownedBy _) rfl rfl

/-! ### A registration -/

/-- The registration is accepted: its version is compatible, and each of its binaries can be stored. -/
def accepts (env : Env) (registration : Registration) : Bool :=
  (rejection env registration.version).isNone &&
    registration.binaries.all (storable env registration.hostname)

def registered (env : Env) (registration : Registration) (r : Routing) : Routing :=
  (r.withRoutes (registration.binaries.map (connectionIdOf env.digest registration.hostname))
    (some registration.agent)).withAgent registration.agent (some registration.info)

theorem connectionsOf_ids
    (made : binaries.mapM (connectionOf env.digest hostname) = .ok connections) :
    binaries.all (storable env hostname) = true ∧
      connections.map (·.id) = binaries.map (connectionIdOf env.digest hostname) := by
  have each := forall₂_of_mapM made
  clear made
  induction each with
  | nil => exact ⟨rfl, rfl⟩
  | cons first _ ih =>
    rw [all_cons, map_cons, map_cons, storable, first, ih.1, ih.2, connectionOf_id first]
    exact ⟨rfl, rfl⟩

theorem exists_unstorable {failure : ServiceError}
    (made : binaries.mapM (connectionOf env.digest hostname) = .error failure) :
    binaries.all (storable env hostname) = false := by
  rw [Bool.eq_false_iff, ne_eq, List.all_eq_true]
  intro all
  obtain ⟨connections, ok, -⟩ := mapM_ok_of_forall (f := connectionOf env.digest hostname)
    (R := fun _ _ => True) fun binary mem => by
      have fits := all binary mem
      cases made : connectionOf env.digest hostname binary with
      | error problem =>
        rw [storable, made] at fits
        nomatch fits
      | ok conn => exact ⟨conn, rfl, trivial⟩
  nomatch made.symm.trans ok

variable {registration : Registration}

theorem install_routing (made : registeredConnections env registration = .ok connections)
    (run : Completes (perform env) s ⟨install env registration connections, answers⟩ t) :
    t.routing = registered env registration s.routing := by
  obtain ⟨u, i, run, announced⟩ := run.split rfl
  obtain ⟨v, j, run, inserted⟩ := run.split rfl
  obtain ⟨w, k, cleaned, installed⟩ := run.split rfl
  have sent : t.routing = u.routing := announced.unchanged fun action mem u v answers single => by
    obtain ⟨binary, _, rfl⟩ := mem_map.mp mem
    rw [on_routing single]
    exact withRoute_self rfl
  rw [sent, (completes_last rfl).mp ((completes_step rfl).mp inserted)]
  have unchanged : w.routing = s.routing := cleaned.unchanged fun action mem u v answers single => by
    obtain ⟨conn, _, rfl⟩ := mem_map.mp mem
    exact findStale_routing single
  show v.routing.withAgent registration.agent (some registration.info) = _
  have each : connections.flatMap (onEach ·.id (installRegistered registration.agent)) =
      (connections.map (·.id)).flatMap (onEach · (installRegistered registration.agent)) := by
    rw [flatMap_map]
  rw [each] at installed
  rw [eachConnection_routing (fun _ => rfl) installed, unchanged, (connectionsOf_ids made).2]
  rfl

/-- A registration has its lock while it does its work. -/
theorem register_run (run : Completes (perform env) s ⟨registerAtomic registration, answers⟩ t) :
    ∃ v, t = { v with registrationLocked := false } ∧
      Completes (perform env) { s with registrationLocked := true }
        ⟨registrationBody env registration, answers.tail⟩ v := by
  obtain ⟨u, more, locked, run⟩ := completes_single.mp run
  simp only [perform] at locked
  split at locked
  · cases locked
  cases locked
  obtain ⟨v, k, body, unlocked⟩ := run.split rfl
  exact ⟨v, (completes_last rfl).mp unlocked, body⟩

/-- **A registration.** -/
theorem register_routing (run : Completes (perform env) s ⟨registerAtomic registration, []⟩ t) :
    t.routing = if accepts env registration then registered env registration s.routing
      else s.routing := by
  obtain ⟨v, rfl, body⟩ := register_run run
  show v.routing = _
  unfold registrationBody at body
  unfold accepts
  split at body
  next reason minVersion rejected =>
    rw [(completes_last rfl).mp body, rejected]
    rfl
  next compatible =>
    split at body
    next failure made =>
      rw [completes_nil.mp body, exists_unstorable made, Bool.and_false]
      rfl
    next connections made =>
      obtain ⟨w, more, saved, later⟩ := completes_single.mp body
      cases saved
      rw [install_routing made later, compatible, (connectionsOf_ids made).1]
      rfl

end Detrix.Agent
