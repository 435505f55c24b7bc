/-
**Reference counting keeps connections alive.**

Clients get references to a connection (by creating it when it is there, or by attaching to it) and give
them back; who takes the last one away disconnects the connection, and a cleanup deletes connections that
nobody refers to. The count and the end of the connection are separate steps: a client that gets its
reference between the two is left with a dead one.

`references_keep_alive`: in every run of these calls in which nobody is about to get a reference when the
last one is given back or counted, and the other way round (`Careful`), the connection is ended only
while nobody refers to it, and every client that holds it finds it connected. `Counted` is the invariant.
-/

import Detrix.Connections.Service

namespace Detrix.Connections

open Detrix.Core Library Task List ConnectionRepository Tables Server Option

/-! ### Calls that take turns -/

inductive ClientCall where
  | create (request : CreateRequest)
  | attach (c : ConnectionId) (client : String)
  | release (c : ConnectionId) (client : String)
  | releaseAll (client : String)
  | cleanup (ttlDays : Int)
  | passTime (micros : Nat)

def ClientCall.actions (env : Env) : ClientCall → List Action
  | .create request => createConnection env request
  | .attach c client => attachToConnection c client
  | .release c client => releaseReference c client
  | .releaseAll client => releaseAllClientReferences client
  | .cleanup ttlDays => cleanupStaleConnections ttlDays
  | .passTime micros => [.passTime micros]

inductive ClientTurn where
  | begin (call : ClientCall) (answers : List Bool)
  | advance (i : Nat)

abbrev Clients : Type := System Server Action

def Clients.step (env : Env) (s : Clients) : ClientTurn → Clients
  | .begin call answers => System.step (perform env) s (.begin ⟨call.actions env, answers⟩)
  | .advance i => System.step (perform env) s (.advance i)

/-- What the calls have still to do. -/
def Clients.planned (s : Clients) : List Action := s.tasks.flatMap (·.todo)

/-! ### Who holds a connection -/

/-- Whether a client holds the connection, after what it has come to know. -/
def heldAfter (c : ConnectionId) (client : String) (held : Bool) : Note → Bool
  | .created d other => held || (d = c && other = some client)
  | .attached d other => held || (d = c && other = client)
  | .released d other => held && !(d = c && other = client)
  | .releasedAll other => held && other ≠ client
  | .failed _ => held

/-- The last call of the client for the connection has returned it, and was not a release. -/
def holds (c : ConnectionId) (client : String) (notes : List Note) : Bool :=
  notes.foldl (heldAfter c client) false

theorem holds_append (c : ConnectionId) (client : String) (notes : List Note) (note : Note) :
    holds c client (notes ++ [note]) = heldAfter c client (holds c client notes) note := by
  rw [holds, foldl_append]
  rfl

/-- The connection is Connected and has its adapter. -/
def Server.connected (s : Server) (c : ConnectionId) : Bool :=
  s.tables.connections.statusOf c = some .connected && s.hasAdapter c

/-! ### The parts of the calls -/

/-- An action of a call that is about to get a reference to the connection. -/
def Action.joins (c : ConnectionId) : Action → Bool
  | .findExisting connection _ | .lookForAdapter connection _ => connection.id = c
  | .join d _ | .findRow d _ | .attach d _ => d = c
  | _ => false

/-- And has seen that the connection is there. -/
def Action.hasSeen (c : ConnectionId) : Action → Bool
  | .lookForAdapter connection _ => connection.id = c
  | .join d _ | .attach d _ => d = c
  | _ => false

/-- An action that ends the connection. -/
def Action.tears (c : ConnectionId) : Action → Bool
  | .stop d _ | .updateStatus d _ | .deleteSwept d _ => d = c
  | _ => false

/-- The actions of the calls; a creation is made for a client. -/
def Action.counted : Action → Bool
  | .findExisting connection _ | .lookForAdapter connection _ => connection.userId.isSome
  | .updateStatus _ status => status = .disconnected
  | .join _ _ | .findRow _ _ | .attach _ _ | .release _ _ | .releaseAll _ | .expireReferences _
  | .listInactive _ | .sweep _ | .deleteSwept _ _ | .stop _ _ | .note (.failed _) | .passTime _ => true
  | _ => false

def Server.last (s : Server) (c : ConnectionId) (client : String) : Bool :=
  s.tables.refers c client && (s.tables.removeReference c client).countReferences c = 0

/-- **The condition on an action**, with the actions that are planned at this moment. A creation finds
the connection connected; an attachment finds it connected or not at all; the reference of a creation
is stored. Who takes away, or counts, the last reference does so while nobody is about to get one; the
count does not fail, and no reference expires. -/
def CarefulAction (c : ConnectionId) (s : Server) (planned : List Action) (fails : Bool) :
    Action → Prop
  | .findExisting connection _ => fails = false ∧ s.connected connection.id = true
  | .lookForAdapter connection _ => s.hasAdapter connection.id = true
  | .join d _ => d = c → fails = false
  | .findRow d _ => d = c → s.tables.connections.hasRow c = true → s.connected c = true
  | .release d client =>
    d = c → s.last c client = true → ∀ other ∈ planned, other.joins c = false
  | .releaseAll client => s.last c client = true → ∀ other ∈ planned, other.joins c = false
  | .expireReferences ttlDays => ∀ reference ∈ s.tables.references, reference.connection = c →
    ttlDays ≠ 0 ∧ s.clock - ttlDays * microsPerDay ≤ reference.lastActive
  | .sweep (d :: _) => d = c → fails = false ∧
    (s.tables.countReferences c = 0 → ∀ other ∈ planned, other.joins c = false)
  | _ => True

/-- **The condition on a turn**: a call that gets a reference does not begin while the connection is
being ended, and the next action of a call meets its condition. -/
def Careful (env : Env) (c : ConnectionId) (s : Clients) : ClientTurn → Prop
  | .begin call _ => ∀ action ∈ call.actions env, action.counted = true ∧
    (action.joins c = true → ∀ other ∈ s.planned, other.tears c = false)
  | .advance i => ∀ task ∈ s.tasks[i]?, ∀ action ∈ task.todo.head?,
    CarefulAction c s.shared s.planned (task.answers.headD false) action

instance (c : ConnectionId) (s : Server) (planned : List Action) (fails : Bool) :
    (action : Action) → Decidable (CarefulAction c s planned fails action)
  | .findExisting _ _ => inferInstanceAs (Decidable (_ ∧ _))
  | .lookForAdapter _ _ => inferInstanceAs (Decidable (_ = true))
  | .join _ _ | .findRow _ _ | .release _ _ | .releaseAll _ => inferInstanceAs (Decidable (_ → _))
  | .expireReferences _ => inferInstanceAs (Decidable (∀ _ ∈ _, _))
  | .sweep (_ :: _) => inferInstanceAs (Decidable (_ → _))
  | .save _ _ | .findStale _ | .migrateMetrics _ _ | .setConnecting _ | .beginStart _ _ _
  | .start _ _ _ _ _ _ | .finalize _ _ _ | .stop _ _ | .updateStatus _ _ | .removeReferences _
  | .deleteMetrics _ | .deleteRow _ | .addReference _ _ | .attach _ _ | .listInactive _ | .sweep []
  | .deleteSwept _ _ | .restore _ | .note _ | .passTime _ => .isTrue trivial

instance (env : Env) (c : ConnectionId) (s : Clients) :
    (turn : ClientTurn) → Decidable (Careful env c s turn)
  | .begin _ _ => inferInstanceAs (Decidable (∀ _ ∈ _, _))
  | .advance i => inferInstanceAs (Decidable (∀ _ ∈ s.tasks[i]?, _))

/-! ### The invariant -/

structure Counted (c : ConnectionId) (s : Server) (planned : List Action) : Prop where
  kinds : ∀ action ∈ planned, action.counted = true
  tearing : ∀ action ∈ planned, action.tears c = true →
    s.tables.Unreferenced c ∧ ∀ other ∈ planned, other.joins c = false
  held : ∀ client, holds c client s.notes = true → s.tables.refers c client = true
  alive : s.connected c = true ∨
    s.tables.Unreferenced c ∧ ∀ action ∈ planned, action.hasSeen c = false

section Steps

variable {env : Env} {c : ConnectionId} {s : Server} {planned after : List Action} {fails : Bool}
  {action : Action}

theorem unseen_of_unjoined (unjoined : action.joins c = false) : action.hasSeen c = false := by
  cases action <;> first | exact unjoined | rfl

variable {connection : Connection}

theorem next_findExisting {attachesPid : Bool}
    (careful : fails = false ∧ s.connected connection.id = true) :
    s.next env fails (.findExisting connection attachesPid) =
      [.lookForAdapter connection attachesPid] := by
  obtain ⟨rfl, isConnected⟩ := careful
  simp only [connected, statusOf, Bool.and_eq_true, decide_eq_true_eq, map_eq_some_iff] at isConnected
  obtain ⟨⟨old, found, status⟩, -⟩ := isConnected
  simp [Server.next, found, status]

variable {client : String}

/-- Without the client's references nobody refers to the connection: the client had the last one. -/
theorem last_of_removeClient (had : c ∈ s.tables.connectionsOf client)
    (nobody : (s.tables.removeClient client).Unreferenced c) : s.last c client = true := by
  obtain ⟨ref, mem, isC⟩ := mem_map.mp had
  obtain ⟨has, isClient⟩ := mem_filter.mp mem
  have refers : s.tables.refers c client = true :=
    refers_iff.mpr ⟨ref, has, isC, of_decide_eq_true isClient⟩
  have none : (s.tables.removeReference c client).countReferences c = 0 := by
    refine countReferences_eq_zero.mpr fun other => ?_
    rw [Bool.eq_false_iff]
    intro stays
    obtain ⟨old, ne⟩ := refers_removeReference.mp stays
    have still := refers_removeClient.mpr ⟨old, fun same => ne ⟨rfl, same⟩⟩
    simp [nobody other] at still
  simp [last, refers, none]

/-- What an action is followed by. An end begins when nobody refers to the connection, and nobody is
about to. -/
structure Follows (env : Env) (c : ConnectionId) (s : Server) (planned : List Action) (fails : Bool)
    (action next : Action) : Prop where
  counted : next.counted = true
  joins : next.joins c = true → action.joins c = true
  seen : next.hasSeen c = true → s.connected c = true ∨ action.hasSeen c = true
  tears : next.tears c = true → action.tears c = true ∨
    (s.after env fails action).tables.Unreferenced c ∧ ∀ other ∈ planned, other.joins c = false

section
variable (counted : action.counted = true)
include counted

theorem follows_of_next (careful : CarefulAction c s planned fails action) :
    ∀ next ∈ s.next env fails action, Follows env c s planned fails action next := by
  intro next mem
  have never {p : Prop} : false = true → p := (absurd · Bool.false_ne_true)
  have ends {d : ConnectionId} (mem : next ∈ disconnect d)
      (now : d = c → (s.after env fails action).tables.Unreferenced c ∧
        ∀ other ∈ planned, other.joins c = false) : Follows env c s planned fails action next := by
    simp only [disconnect, mem_cons, not_mem_nil, or_false] at mem
    rcases mem with rfl | rfl <;>
      exact ⟨rfl, never, never, fun tears => .inr (now (of_decide_eq_true tears))⟩
  cases action
  case findExisting connection attachesPid =>
    rw [next_findExisting careful, mem_singleton] at mem
    obtain rfl := mem
    refine ⟨counted, id, fun isC => .inl ?_, never⟩
    rw [← of_decide_eq_true isC]
    exact careful.2
  case lookForAdapter connection attachesPid =>
    obtain ⟨client, isClient⟩ := isSome_iff_exists.mp counted
    have has : s.hasAdapter connection.id = true := careful
    obtain rfl : next = .join connection.id client := by
      simpa [Server.next, has, returnExisting, isClient] using mem
    exact ⟨rfl, id, .inr, never⟩
  case findRow d client =>
    simp only [Server.next] at mem
    split at mem <;> obtain rfl := mem_singleton.mp mem
    next writes =>
      refine ⟨rfl, id, fun isC => .inl ?_, never⟩
      obtain rfl := of_decide_eq_true isC
      simp only [Server.writes, Bool.and_eq_true] at writes
      exact careful rfl writes.2
    next => exact ⟨rfl, never, never, never⟩
  case release d client =>
    simp only [Server.next] at mem
    split at mem
    next last =>
      simp only [Bool.and_eq_true, Bool.not_eq_true', decide_eq_true_eq] at last
      obtain ⟨⟨rfl, refers⟩, none⟩ := last
      refine ends mem ?_
      rintro rfl
      exact ⟨countReferences_eq_zero.mp none, careful rfl (by simp [last, refers, none])⟩
    next => cases mem
  case releaseAll client =>
    simp only [Server.next] at mem
    split at mem
    · cases mem
    next succeeds =>
      obtain ⟨d, isDone, ended⟩ := mem_flatMap.mp mem
      obtain ⟨had, none⟩ := mem_filter.mp isDone
      have nobody := countReferences_eq_zero.mp (of_decide_eq_true none)
      refine ends ended ?_
      rintro rfl
      refine ⟨?_, careful (last_of_removeClient had nobody)⟩
      simp only [Server.after, if_neg succeeds]
      exact nobody
  case expireReferences ttlDays | listInactive ttlDays | deleteSwept d rest =>
    simp only [Server.next] at mem
    split at mem
    all_goals first
      | exact absurd mem not_mem_nil
      | (obtain rfl := mem_singleton.mp mem
         exact ⟨rfl, never, never, never⟩)
  case sweep inactive =>
    cases inactive with
    | nil => cases mem
    | cons d rest =>
      simp only [Server.next] at mem
      split at mem
      · obtain rfl := mem_singleton.mp mem
        exact ⟨rfl, never, never, never⟩
      next empty =>
        have now : d = c → s.tables.Unreferenced c ∧ ∀ other ∈ planned, other.joins c = false := by
          rintro rfl
          obtain ⟨rfl, nobodyJoins⟩ := careful rfl
          have none : s.tables.countReferences d = 0 := by simpa using empty
          exact ⟨countReferences_eq_zero.mp none, nobodyJoins none⟩
        rcases mem_append.mp mem with ended | swept
        · exact ends ended now
        · obtain rfl := mem_singleton.mp swept
          exact ⟨rfl, never, never, fun tears => .inr (now (of_decide_eq_true tears))⟩
  case stop d pc =>
    obtain ⟨later, -, rfl⟩ := mem_map.mp mem
    exact ⟨rfl, never, never, .inl⟩
  case join | attach | note | passTime | updateStatus => cases mem
  all_goals cases counted

theorem refers_after (refers : (s.after env fails action).tables.refers c client = true) :
    s.tables.refers c client = true ∨ action.hasSeen c = true := by
  cases action
  case join d other | attach d other =>
    by_cases same : c = d
    · exact .inr (decide_eq_true same.symm)
    · refine .inl ?_
      simp only [Server.after, Server.noting, Server.addReference] at refers
      split at refers
      · exact refers_of_addReference same refers
      · exact refers
  case deleteSwept d rest =>
    simp only [Server.after, Server.deleteRow] at refers
    split at refers
    · obtain ⟨ref, mem, same⟩ := refers_iff.mp refers
      exact .inl (refers_iff.mpr ⟨ref, (mem_filter.mp mem).1, same⟩)
    · exact .inl refers
  case updateStatus d status =>
    simp only [Server.after, Server.updateStatus] at refers
    split at refers <;> exact .inl refers
  case release | releaseAll | expireReferences =>
    simp only [Server.after] at refers
    split at refers
    · exact .inl refers
    · obtain ⟨ref, mem, -, same⟩ := refers_keepReferences.mp refers
      exact .inl (refers_iff.mpr ⟨ref, mem, same⟩)
  case findExisting | lookForAdapter | findRow | listInactive | sweep | note | passTime | stop =>
    exact .inl refers
  all_goals cases counted

theorem same_after (spares : action.tears c = false) :
    (s.after env fails action).tables.connections.findById c = s.tables.connections.findById c ∧
      (s.after env fails action).lifecycles c = s.lifecycles c := by
  cases action
  case stop d pc =>
    refine ⟨rfl, Function.update_of_ne (fun same => ?_) _ _⟩
    exact absurd (decide_eq_true same.symm) (Bool.eq_false_iff.mp spares)
  case updateStatus d status =>
    simp only [Server.after, Server.updateStatus]
    split
    · refine ⟨findById_updateStatus (fun same => ?_) status, rfl⟩
      exact absurd (decide_eq_true same.symm) (Bool.eq_false_iff.mp spares)
    · exact ⟨rfl, rfl⟩
  case deleteSwept d rest =>
    simp only [Server.after, Server.deleteRow]
    split
    · refine ⟨findById_delete fun same => ?_, rfl⟩
      exact absurd (decide_eq_true same.symm) (Bool.eq_false_iff.mp spares)
    · exact ⟨rfl, rfl⟩
  case join d other | attach d other =>
    simp only [Server.after, Server.noting, Server.addReference]
    split
    · exact ⟨congrArg (·.findById c) (addReference_connections _), rfl⟩
    · exact ⟨rfl, rfl⟩
  case release | releaseAll | expireReferences =>
    simp only [Server.after]
    split <;> exact ⟨rfl, rfl⟩
  case findExisting | lookForAdapter | findRow | listInactive | sweep | note | passTime =>
    exact ⟨rfl, rfl⟩
  all_goals cases counted

end

theorem refers_addReference_of_refers {d : ConnectionId} {other : String}
    (refers : s.tables.refers c client = true) :
    (s.addReference fails d other).tables.refers c client = true := by
  unfold Server.addReference
  split
  next writes =>
    simp only [Server.writes, Bool.and_eq_true] at writes
    exact (refers_addReference writes.2).mpr (.inr refers)
  next => exact refers

theorem refers_addReference_self (writes : s.writes fails c = true) :
    (s.addReference fails c client).tables.refers c client = true := by
  rw [Server.addReference, if_pos writes]
  simp only [Server.writes, Bool.and_eq_true] at writes
  exact (refers_addReference writes.2).mpr (.inl ⟨rfl, rfl⟩)

theorem writes_of_connected (up : s.connected c = true) : s.writes false c = true := by
  simp only [Server.connected, statusOf, Bool.and_eq_true, decide_eq_true_eq,
    map_eq_some_iff] at up
  obtain ⟨⟨row, found, -⟩, -⟩ := up
  simp [Server.writes, hasRow, found]

theorem held_after (counted : action.counted = true)
    (careful : CarefulAction c s planned fails action)
    (seen : action.hasSeen c = true → s.connected c = true)
    (ended : action.tears c = true → s.tables.Unreferenced c)
    (held : ∀ client, holds c client s.notes = true → s.tables.refers c client = true)
    (holding : holds c client (s.after env fails action).notes = true) :
    (s.after env fails action).tables.refers c client = true := by
  rw [after_notes] at holding
  cases action
  case join d other =>
    rw [noted, holds_append, heldAfter, Bool.or_eq_true] at holding
    rcases holding with before | new
    · exact refers_addReference_of_refers (held client before)
    · simp only [Bool.and_eq_true, decide_eq_true_eq, some.injEq] at new
      obtain ⟨rfl, rfl⟩ := new
      obtain rfl := careful rfl
      exact refers_addReference_self (writes_of_connected (seen (decide_eq_true rfl)))
  case attach d other =>
    rw [noted, holds_append] at holding
    split at holding
    next writes =>
      rw [heldAfter, Bool.or_eq_true] at holding
      rcases holding with before | new
      · exact refers_addReference_of_refers (held client before)
      · simp only [Bool.and_eq_true, decide_eq_true_eq] at new
        obtain ⟨rfl, rfl⟩ := new
        exact refers_addReference_self writes
    next => exact refers_addReference_of_refers (held client holding)
  case release | releaseAll =>
    simp only [Server.noted, Server.after] at holding ⊢
    split at holding
    next failed =>
      rw [if_pos failed]
      exact held client (by simpa using holding)
    next succeeds =>
      rw [holds_append, heldAfter, Bool.and_eq_true] at holding
      simp only [if_neg succeeds, refers_removeReference, refers_removeClient]
      refine ⟨held client holding.1, fun same => ?_⟩
      simp [same] at holding
  case expireReferences ttlDays =>
    have before := held client (by simpa [noted] using holding)
    simp only [Server.after]
    split
    · exact before
    · obtain ⟨ref, mem, isC, isClient⟩ := refers_iff.mp before
      refine refers_keepReferences.mpr ⟨ref, mem, ?_, isC, isClient⟩
      simpa using careful ref mem isC
  case deleteSwept d rest =>
    have before := held client (by simpa [noted] using holding)
    simp only [Server.after, Server.deleteRow]
    split
    · obtain ⟨ref, mem, isC, isClient⟩ := refers_iff.mp before
      refine refers_iff.mpr ⟨ref, mem_filter.mpr ⟨mem, ?_⟩, isC, isClient⟩
      refine decide_eq_true fun same => ?_
      have nobody := ended (decide_eq_true (same.symm.trans isC)) client
      simp [nobody] at before
    · exact before
  case note answer =>
    cases answer
    case failed => exact held client (by simpa [noted, holds_append, heldAfter] using holding)
    all_goals cases counted
  case updateStatus d status =>
    have before := held client (by simpa [noted] using holding)
    simp only [Server.after, Server.updateStatus]
    split <;> exact before
  case findExisting | lookForAdapter | findRow | listInactive | sweep | passTime | stop =>
    exact held client (by simpa [noted] using holding)
  all_goals cases counted

/-- **What one action preserves.** -/
theorem Counted.act (inv : Counted c s planned) (mem : action ∈ planned)
    (careful : CarefulAction c s planned fails action)
    (parts : ∀ other ∈ after, other ∈ planned ∨ other ∈ s.next env fails action) :
    Counted c (s.after env fails action) after := by
  have counted := inv.kinds action mem
  have follows := @follows_of_next env _ _ _ _ _ counted careful
  have seen : action.hasSeen c = true → s.connected c = true := fun isSeen =>
    inv.alive.resolve_right fun gone => by simp [gone.2 action mem] at isSeen
  -- while nobody is about to get a reference, nobody gets one
  have unreferenced : s.tables.Unreferenced c → action.hasSeen c = false →
      (s.after env fails action).tables.Unreferenced c := by
    intro nobody unseen client
    rw [Bool.eq_false_iff]
    intro refers
    rcases refers_after counted refers with before | isSeen
    · simp [nobody client] at before
    · simp [unseen] at isSeen
  have unjoined : (∀ other ∈ planned, other.joins c = false) → ∀ other ∈ after,
      other.joins c = false := by
    intro nobody other ne
    rcases parts other ne with old | new
    · exact nobody other old
    · rw [Bool.eq_false_iff]
      intro joins
      simpa [nobody action mem] using (follows other new).joins joins
  have unseen : (∀ other ∈ planned, other.joins c = false) → action.hasSeen c = false :=
    fun nobody => unseen_of_unjoined (nobody action mem)
  refine ⟨fun other ne => ?_, fun other ne tears => ?_, fun client => ?_, ?_⟩
  · exact (parts other ne).elim (inv.kinds other) fun new => (follows other new).counted
  · have begins : (∃ old ∈ planned, old.tears c = true) ∨
        (s.after env fails action).tables.Unreferenced c ∧
          ∀ other ∈ planned, other.joins c = false := by
      rcases parts other ne with old | new
      · exact .inl ⟨other, old, tears⟩
      · exact ((follows other new).tears tears).imp_left fun here => ⟨action, mem, here⟩
    rcases begins with ⟨old, isOld, here⟩ | ⟨nobody, nobodyJoins⟩
    · obtain ⟨nobody, nobodyJoins⟩ := inv.tearing old isOld here
      exact ⟨unreferenced nobody (unseen nobodyJoins), unjoined nobodyJoins⟩
    · exact ⟨nobody, unjoined nobodyJoins⟩
  · exact held_after counted careful seen (fun tears => (inv.tearing action mem tears).1) inv.held
  · by_cases up : s.connected c = true
    · cases tears : action.tears c with
      | false =>
        obtain ⟨row, lifecycle⟩ := @same_after env c s fails action counted tears
        rw [Server.connected, statusOf, Server.hasAdapter, row, lifecycle]
        exact .inl up
      | true =>
        obtain ⟨nobody, nobodyJoins⟩ := inv.tearing action mem tears
        refine .inr ⟨unreferenced nobody (unseen nobodyJoins), fun other ne => ?_⟩
        exact unseen_of_unjoined (unjoined nobodyJoins other ne)
    · obtain ⟨nobody, none⟩ := inv.alive.resolve_left up
      refine .inr ⟨unreferenced nobody (none action mem), fun other ne => ?_⟩
      rcases parts other ne with old | new
      · exact none other old
      · rw [Bool.eq_false_iff]
        intro isSeen
        rcases (follows other new).seen isSeen with now | before
        · exact up now
        · simp [none action mem] at before

end Steps

/-! ### Runs -/

namespace Clients

variable {env : Env} {c : ConnectionId} {clients : Clients}

theorem begins (call : ClientCall) :
    ∀ action ∈ call.actions env, action.tears c = false ∧ action.hasSeen c = false := by
  intro action mem
  cases call
  case create req =>
    simp only [ClientCall.actions, createConnection] at mem
    split at mem <;> rw [mem_singleton.mp mem] <;> exact ⟨rfl, rfl⟩
  case cleanup ttlDays =>
    simp only [ClientCall.actions, cleanupStaleConnections] at mem
    split at mem
    · cases mem
    · rw [mem_singleton.mp mem]
      exact ⟨rfl, rfl⟩
  all_goals
    rw [mem_singleton.mp mem]
    exact ⟨rfl, rfl⟩

theorem counted_begin (inv : Counted c clients.shared clients.planned) {call : ClientCall}
    {answers : List Bool} (careful : Careful env c clients (.begin call answers)) :
    Counted c clients.shared (clients.planned ++ call.actions env) where
  kinds action mem :=
    (mem_append.mp mem).elim (inv.kinds action) fun new => (careful action new).1
  tearing action mem tears := by
    have old : action ∈ clients.planned := (mem_append.mp mem).resolve_right fun new => by
      simp [(begins call action new).1] at tears
    obtain ⟨nobody, nobodyJoins⟩ := inv.tearing action old tears
    refine ⟨nobody, fun other ne => ?_⟩
    rcases mem_append.mp ne with before | new
    · exact nobodyJoins other before
    · rw [Bool.eq_false_iff]
      intro joins
      simp [(careful other new).2 joins action old] at tears
  held := inv.held
  alive := inv.alive.imp_right fun gone => ⟨gone.1, fun action mem =>
    (mem_append.mp mem).elim (gone.2 action) fun new => (begins call action new).2⟩

theorem of_mem_planned {i : Nat} {task : Library.Task Action} {action other : Action}
    {rest more : List Action} {shared : Server} (known : clients.tasks[i]? = some task)
    (isTodo : task.todo = action :: rest)
    (mem : other ∈ Clients.planned
      ⟨shared, clients.tasks.set i ⟨more ++ rest, task.answers.tail⟩⟩) :
    other ∈ clients.planned ∨ other ∈ more := by
  obtain ⟨owner, isOwner, ne⟩ := mem_flatMap.mp mem
  rcases mem_or_eq_of_mem_set isOwner with old | rfl
  · exact .inl (mem_flatMap.mpr ⟨owner, old, ne⟩)
  · rcases mem_append.mp (show other ∈ more ++ rest from ne) with new | later
    · exact .inr new
    · refine .inl (mem_flatMap.mpr ⟨task, mem_of_getElem? known, ?_⟩)
      rw [isTodo]
      exact .tail _ later

theorem advance_cases (i : Nat) (careful : Careful env c clients (.advance i)) :
    clients.step env (.advance i) = clients ∨ ∃ action ∈ clients.planned, ∃ fails,
      CarefulAction c clients.shared clients.planned fails action ∧
      (clients.step env (.advance i)).shared = clients.shared.after env fails action ∧
      ∀ other ∈ (clients.step env (.advance i)).planned,
        other ∈ clients.planned ∨ other ∈ clients.shared.next env fails action := by
  rcases @System.step_cases _ _ (perform env) clients (.advance i) with
    same | ⟨_, isBegin, -⟩ | ⟨j, task, action, rest, shared, more, isTurn, known, isTodo, done, result⟩
  · exact .inl same
  · cases isBegin
  · obtain rfl := Turn.advance.inj isTurn
    obtain ⟨rfl, rfl⟩ := of_perform done
    refine .inr ⟨action, mem_flatMap.mpr ⟨task, mem_of_getElem? known, ?_⟩, _,
      careful task known action ?_, ?_, fun other mem => ?_⟩
    · rw [isTodo]
      exact (.head _)
    · rw [isTodo]
      rfl
    · exact congrArg System.shared result
    · rw [show clients.step env (.advance i) = _ from result] at mem
      exact of_mem_planned known isTodo mem

/-- **What one turn preserves.** -/
theorem counted_step (inv : Counted c clients.shared clients.planned) (turn : ClientTurn)
    (careful : Careful env c clients turn) :
    Counted c (clients.step env turn).shared (clients.step env turn).planned := by
  cases turn with
  | begin call answers =>
    have planned : (clients.step env (.begin call answers)).planned =
        clients.planned ++ call.actions env := by
      simp [step, System.step, Clients.planned]
    rw [planned]
    exact counted_begin inv careful
  | advance i =>
    rcases advance_cases i careful with same | ⟨action, mem, fails, now, isShared, parts⟩
    · rw [same]
      exact inv
    · rw [isShared]
      exact inv.act mem now parts

end Clients

open Clients

def Ended (before after : Server) (c : ConnectionId) : Prop :=
  before.hasAdapter c = true ∧ after.hasAdapter c = false ∨
    before.tables.connections.hasRow c = true ∧ after.tables.connections.hasRow c = false

theorem not_ended (s : Server) (c : ConnectionId) : ¬ Ended s s c := by
  rintro (⟨had, gone⟩ | ⟨had, gone⟩) <;> nomatch had.symm.trans gone

theorem tears_of_ended {env : Env} {fails : Bool} {s : Server} {action : Action} {c : ConnectionId}
    (counted : action.counted = true) (ended : Ended s (s.after env fails action) c) :
    action.tears c = true := by
  by_contra spares
  obtain ⟨row, lifecycle⟩ := @same_after env c s fails action counted (Bool.eq_false_iff.mpr spares)
  rw [Ended, hasAdapter, hasAdapter, lifecycle, hasRow, hasRow, row] at ended
  exact not_ended s c ended

/-- **Reference counting keeps connections alive.** From a connection that is connected, in every run
of careful turns: a client that holds it finds it connected, and a turn stops its adapter or deletes its
row only while nobody has a reference. -/
theorem references_keep_alive (env : Env) (c : ConnectionId) (server : Server)
    (connected : server.connected c = true) (unknown : server.notes = []) (turns : List ClientTurn)
    (careful : Run.Allowed (step env) (Careful env c) ⟨server, []⟩ turns) :
    (∀ client, holds c client (Run.after (step env) ⟨server, []⟩ turns).shared.notes = true →
      (Run.after (step env) ⟨server, []⟩ turns).shared.connected c = true) ∧
    ∀ turn, Careful env c (Run.after (step env) ⟨server, []⟩ turns) turn →
      Ended (Run.after (step env) ⟨server, []⟩ turns).shared
        ((Run.after (step env) ⟨server, []⟩ turns).step env turn).shared c →
      (Run.after (step env) ⟨server, []⟩ turns).shared.tables.Unreferenced c := by
  have start : Counted c server [] := by
    refine ⟨by simp, by simp, fun client holding => ?_, .inl connected⟩
    rw [unknown] at holding
    exact nomatch holding
  have inv := @Run.invariant_after _ _ (step env) _
    (fun clients : Clients => Counted c clients.shared clients.planned)
    (fun _ turn held now => counted_step held turn now) turns ⟨server, []⟩ start careful
  refine ⟨fun client holding => ?_, fun turn now ended => ?_⟩
  · refine inv.alive.resolve_right fun gone => ?_
    have refers := inv.held client holding
    simp [gone.1 client] at refers
  · cases turn with
    | begin call answers => exact absurd ended (not_ended _ c)
    | advance i =>
      rcases advance_cases i now with same | ⟨action, mem, fails, -, isShared, -⟩
      · rw [same] at ended
        exact absurd ended (not_ended _ c)
      · rw [isShared] at ended
        exact (inv.tearing action mem (tears_of_ended (inv.kinds action mem) ended)).1

namespace Sample

def host : ConnectionId := "app|python|/work|host"

def connectedServer : Server :=
  withLifecycle
    (.new (tablesOf [{ connectionOn "host" with status := .connected }]) .empty) host
    { Lifecycle.Lifecycle.new with stored := some 0, live := [0], listening := [0] }

def annAttaches : List ClientTurn := [.begin (.attach host "ann") [], .advance 0, .advance 0]

/-- She gives her reference back, which is the last one; then Bob attaches. -/
def bobAttaches : List ClientTurn :=
  annAttaches ++ [ClientTurn.begin (.release host "ann") [], .advance 1,
    .begin (.attach host "bob") [], .advance 2, .advance 2]

@[irreducible]
def clientsAfter (turns : List ClientTurn) : Clients :=
  Run.after (step env) ⟨connectedServer, []⟩ turns

end Sample

open Sample

/-- Bob's attachment has returned when the release goes on: it stops the adapter, although he has a
reference. -/
theorem reference_ignored :
    connectedServer.connected host = true ∧ connectedServer.notes = [] ∧
    holds host "bob" (clientsAfter bobAttaches).shared.notes = true ∧
    (clientsAfter bobAttaches).shared.tables.refers host "bob" = true ∧
    Ended (clientsAfter bobAttaches).shared
      ((clientsAfter bobAttaches).step env (.advance 1)).shared host ∧
    ((clientsAfter bobAttaches).step env (.advance 1)).shared.connected
      host = false := by
  refine ⟨by decide +kernel, rfl, by decide +kernel, by decide +kernel, .inl ⟨?_, ?_⟩, ?_⟩
  all_goals decide +kernel

theorem references_keep_alive_ann :
    holds host "ann" (clientsAfter annAttaches).shared.notes = true ∧
    (clientsAfter annAttaches).shared.connected host = true := by
  have holding : holds host "ann"
      (clientsAfter annAttaches).shared.notes = true := by decide +kernel
  have result := references_keep_alive env host connectedServer
    (by decide) rfl annAttaches (by decide)
  refine ⟨holding, ?_⟩
  unfold clientsAfter at holding ⊢
  exact result.1 "ann" holding

end Detrix.Connections
