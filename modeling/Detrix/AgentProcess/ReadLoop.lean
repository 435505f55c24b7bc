/-
**The commands of the server.**

After the registration the agent first takes `CreateConnection` messages one at a time. The first
message of another kind ends this, and is looked at only to see whether it is a `Ping`. From then on
creations and closings are tasks of their own, and requests are answered one after the other.

- `reply_request`: a request is answered under its own id.
- `Registration.step`: a connection whose calls have returned is registered exactly if the last of them
  was a creation whose adapter has started.
- `commands_executed`: every request is answered once and in order, every command is carried out, and
  the registry is what the last command for each connection has made of it, if the first message that is
  not a creation is a `Ping`, the commands for one connection come when the ones before have been
  carried out, and no creation is refused for an id that is registered.
-/

import Detrix.AgentProcess.MetricCommands
import Detrix.AgentProcess.Slots

namespace Detrix.AgentProcess

open Library Calls Commands List Option Run

/-! ### Messages -/

structure ReadFile where
  requestId : String
  connectionId : String
  path : String

inductive ServerMessage where
  | createConnection (msg : AgentCreateConnection) (env : Surroundings)
  | closeConnection (connectionId : String)
  | setMetric (msg : SetMetric)
  | removeMetric (msg : RemoveMetric)
  | readFile (msg : ReadFile)
  | inspectFile (requestId : String)
  | ping
  | other

structure FileResponse where
  requestId : String
  path : String
  content : List UInt8
  error : String
  deriving DecidableEq

inductive AgentReply where
  | setMetricAck (ack : SetMetricAck)
  | removeMetricAck (ack : RemoveMetricAck)
  | fileResponse (response : FileResponse)
  | inspectResponse (requestId error : String)
  | pong
  deriving DecidableEq

/-- A request of the server, by its kind and its id. -/
inductive Request where
  | setMetric (requestId : String)
  | removeMetric (requestId : String)
  | readFile (requestId : String)
  | inspectFile (requestId : String)

inductive Command where
  | create (connectionId : String)
  | close (connectionId : String)

def ServerMessage.request : ServerMessage → Option Request
  | .setMetric msg => some (.setMetric msg.requestId)
  | .removeMetric msg => some (.removeMetric msg.requestId)
  | .readFile msg => some (.readFile msg.requestId)
  | .inspectFile requestId => some (.inspectFile requestId)
  | _ => none

def ServerMessage.command : ServerMessage → Option Command
  | .createConnection msg _ => some (.create msg.connectionId)
  | .closeConnection c => some (.close c)
  | _ => none

def AgentReply.request : AgentReply → Option Request
  | .setMetricAck ack => some (.setMetric ack.requestId)
  | .removeMetricAck ack => some (.removeMetric ack.requestId)
  | .fileResponse response => some (.readFile response.requestId)
  | .inspectResponse requestId _ => some (.inspectFile requestId)
  | .pong => none

/-! ### Answers -/

/-- What the adapter of the connection and the file system say to a request. -/
structure Outside where
  setMetric : Except String SetMetricResult
  removeMetric : Except String RemoveMetricResult
  file : Except String (List UInt8)

def metricAdapters (m : AdapterManager) (outside : Outside) (c : String) :
    Option (MetricAdapter Unit) :=
  (m.adapters.lookup c).map fun _ =>
    ⟨fun _ s => (outside.setMetric, s), fun _ s => (outside.removeMetric, s)⟩

def fileResponse (msg : ReadFile) : Except String (List UInt8) → FileResponse
  | .ok content => ⟨msg.requestId, msg.path, content, ""⟩
  | .error error => ⟨msg.requestId, msg.path, [], error⟩

def reply (m : AdapterManager) (outside : Outside) : ServerMessage → Option AgentReply
  | .setMetric msg => some (.setMetricAck
      (handleSetMetric m.connectionLanguages (metricAdapters m outside) msg ()).1)
  | .removeMetric msg => some (.removeMetricAck
      (handleRemoveMetric m.connectionLanguages (metricAdapters m outside) msg ()).1)
  | .readFile msg => some (.fileResponse (fileResponse msg outside.file))
  | .inspectFile requestId => some (.inspectResponse requestId "Not yet implemented")
  | .ping => some .pong
  | .createConnection .. | .closeConnection _ | .other => none

theorem reply_request (m : AdapterManager) (out : Outside) (msg : ServerMessage) :
    (reply m out msg).bind AgentReply.request = msg.request := by
  cases msg with
  | setMetric msg =>
    show some (Request.setMetric _) = some (.setMetric _)
    rw [handleSetMetric_requestId]
  | removeMetric msg =>
    show some (Request.removeMetric _) = some (.removeMetric _)
    rw [handleRemoveMetric_requestId]
  | readFile msg =>
    show some (Request.readFile (fileResponse msg out.file).requestId) = some (.readFile _)
    cases out.file <;> rfl
  | _ => rfl

/-! ### The loop -/

inductive Reader where
  /-- Before the deadline, with creations only. -/
  | draining
  | creating (call : Nat)
  | reading
  | answering (reply : AgentReply)
  deriving DecidableEq

/-- The messages that are still to come, the reader, the calls and what was sent. -/
structure ReadLoop where
  incoming : List ServerMessage
  reader : Reader
  system : System
  sent : List AgentReply

namespace ReadLoop

def start (messages : List ServerMessage) : ReadLoop := ⟨messages, .draining, .start, []⟩

inductive Event where
  /-- The reader takes the next message; what the outside says comes with it. -/
  | receive (outside : Outside)
  | deadline
  | resume
  | send
  | advance (i : Nat) (answer : Option String)
  | forwarderEnds (f : Nat)

variable (s : ReadLoop)

def drain : ServerMessage → ReadLoop
  | .createConnection msg env =>
    { s with
      reader := .creating s.system.calls.length
      system := s.system.step (.create msg env) }
  | .ping => { s with reader := .reading, sent := s.sent ++ [.pong] }
  -- The message has been taken from the stream, and nothing else is done with it.
  | _ => { s with reader := .reading }

def dispatch (outside : Outside) (msg : ServerMessage) : ReadLoop :=
  match msg with
  | .createConnection msg env => { s with system := s.system.step (.create msg env) }
  | .closeConnection c => { s with system := s.system.step (.close c) }
  | msg =>
    match reply s.system.manager outside msg with
    | some reply => { s with reader := .answering reply }
    | none => s

def hasReturned (i : Nat) : Bool := (s.system.calls[i]?.map Call.isReturned).getD false

def receive (outside : Outside) : ReadLoop :=
  match s.incoming with
  | [] => s
  | msg :: rest =>
    match s.reader with
    | .draining => { s with incoming := rest }.drain msg
    | .reading => { s with incoming := rest }.dispatch outside msg
    | .creating _ | .answering _ => s

def resume : ReadLoop :=
  match s.reader with
  | .creating i => if s.hasReturned i then { s with reader := .draining } else s
  | _ => s

def send : ReadLoop :=
  match s.reader with
  | .answering reply => { s with reader := .reading, sent := s.sent ++ [reply] }
  | _ => s

def step : Event → ReadLoop
  | .receive outside => s.receive outside
  | .deadline => if s.reader = .draining then { s with reader := .reading } else s
  | .resume => s.resume
  | .send => s.send
  | .advance i answer => { s with system := s.system.step (.advance i answer) }
  | .forwarderEnds f => { s with system := s.system.step (.forwarderEnds f) }

end ReadLoop

/-! ### Who is registered -/

namespace Call

def command : Call → Option Command
  | .create msg _ _ => some (.create msg.connectionId)
  | .close c _ => some (.close c)
  | .returned (.create c _) => some (.create c)
  | .returned (.close c) => some (.close c)
  | .stopAll _ | .returned .stopAll => none

end Call

def Command.connection : Command → String
  | .create c | .close c => c

variable {call : Call} {c : String}

namespace Call

def about (call : Call) : Option String := call.command.map Command.connection

def hasStarted : Call → Bool
  | .returned (.create _ started) => started
  | _ => false

theorem about_of_connection (about : call.connection = some c) : call.about = some c := by
  cases call with
  | create msg env pc | close d pc => exact about
  | stopAll pc | returned done => cases about

/-- What the report at the end of a creation is going to say. -/
def Outlook (m : AdapterManager) : Call → Prop
  | .create msg _ .connected => (m.adapters.lookup msg.connectionId).isSome = true
  | .create msg _ (.failed _ started) => m.adapters.lookup msg.connectionId = none ∧ started = false
  | _ => True

theorem Outlook.spared {m t : AdapterManager} (outlook : call.Outlook m) (spares : Spares c m t)
    (apart : call.connection ≠ some c) : call.Outlook t := by
  cases call with
  | create msg env pc =>
    have same : t.adapters.lookup msg.connectionId = m.adapters.lookup msg.connectionId :=
      spares.adapters _ fun isC => apart (congrArg some isC)
    cases pc with
    | connected =>
      show (t.adapters.lookup msg.connectionId).isSome = true
      rw [same]
      exact outlook
    | failed error started =>
      show t.adapters.lookup msg.connectionId = none ∧ started = false
      rw [same]
      exact outlook
    | _ => trivial
  | close d pc | stopAll pc | returned done => trivial

/-- The next step is the check of a creation that is going to be refused. -/
def isRefused : Call → Bool
  | .create msg env .checking => (admission env msg).toOption.isNone
  | _ => false

end Call

open Call

/-- Where a step of a call leads: the call is still about the same, it is going to report what is the
case, and if it has returned then the connection is registered exactly if its adapter has started. -/
structure Leads (m : AdapterManager) (c : String) (call : Call) (next : AdapterManager × Call) :
    Prop where
  command : next.2.command = call.command
  outlook : next.2.Outlook next.1
  outcome : next.2.isReturned = true → (next.1.adapters.lookup c).isSome = next.2.hasStarted

section Leads

variable {m : AdapterManager} {msg : AgentCreateConnection} {env : Surroundings}
  {answer : Option String}

theorem Leads.on {next : Call} {t : AdapterManager} (command : next.command = call.command)
    (outlook : next.Outlook t) (inProgress : next.isReturned = false) : Leads m c call (t, next) :=
  ⟨command, outlook, fun back => nomatch inProgress.symm.trans back⟩

theorem Leads.fails {pc : CreatePc} (none : m.adapters.lookup msg.connectionId = none)
    (error : String) : Leads m msg.connectionId (.create msg env pc)
      (m, .create msg env (.failed error false)) :=
  .on rfl ⟨none, rfl⟩ rfl

theorem leads_create {pc : CreatePc} (holds : pc.phase.Holds m msg.connectionId)
    (outlook : (create msg env pc).Outlook m)
    (subscribed : (create msg env pc).subscribes = true → answer = none)
    (no : (create msg env pc).isRefused = true → m.adapters.lookup msg.connectionId = none) :
    Leads m msg.connectionId (.create msg env pc) (pc.step m msg env answer) := by
  cases pc with
  | checking =>
    rw [CreatePc.step_checking]
    cases decided : admission env msg with
    | error error => exact .fails (no (by simp [isRefused, decided, Except.toOption])) error
    | ok admitted => exact .on rfl trivial rfl
  | replacing admitted pc =>
    show Leads m _ _ ((pc.step m msg.connectionId).1, CreatePc.afterTeardown msg env admitted _)
    cases (pc.step m msg.connectionId).2 with
    | none | some next => exact .on rfl trivial rfl
  | record admitted => exact .on rfl trivial rfl
  | construct admitted =>
    have none : m.adapters.lookup msg.connectionId = none := Slot.registered holds
    rw [CreatePc.step_construct]
    cases construction msg admitted with
    | error error => exact .fails none error
    | ok made =>
      show Leads m _ _ (CreatePc.afterConstruction m msg env made (made.failure answer))
      cases made.failure answer with
      | some error => exact .fails none error
      | none => exact .on rfl trivial rfl
  | start a =>
    cases answer with
    | some error => exact .fails (Slot.registered holds.1) error
    | none => exact .on rfl trivial rfl
  | subscribe a =>
    obtain rfl := subscribed rfl
    exact .on rfl trivial rfl
  | insert a | readLen a | storeLen a n | spawn a => exact .on rfl trivial rfl
  | handOver a f =>
    refine .on rfl ?_ rfl
    show (m.adapters.lookup msg.connectionId).isSome = true
    rw [Slot.registered holds]
    rfl
  | connected =>
    refine ⟨rfl, trivial, fun _ => ?_⟩
    exact outlook
  | failed error started =>
    obtain ⟨none, rfl⟩ := outlook
    refine ⟨rfl, trivial, fun _ => ?_⟩
    show ((m.sendUpdate _).adapters.lookup msg.connectionId).isSome = false
    rw [sendUpdate_adapters, none]
    rfl

theorem leads_close {pc : ClosePc} (holds : pc.phase.Holds m c) :
    Leads m c (.close c pc) (pc.step m c) := by
  cases pc with
  | tearing pc =>
    show Leads m c _ ((pc.step m c).1, ClosePc.afterTeardown c _)
    cases (pc.step m c).2 with
    | none | some next => exact .on rfl trivial rfl
  | forget =>
    refine ⟨rfl, trivial, fun _ => ?_⟩
    show (m.adapters.lookup c).isSome = false
    rw [Slot.registered holds]
    rfl

theorem leads_call (about : call.connection = some c) (holds : call.phase.Holds m c)
    (outlook : call.Outlook m) (subscribed : call.subscribes = true → answer = none)
    (no : call.isRefused = true → m.adapters.lookup c = none) :
    Leads m c call (call.step m answer) := by
  cases call with
  | create msg env pc =>
    cases about
    exact leads_create holds outlook subscribed no
  | close d pc =>
    cases about
    exact leads_close holds
  | stopAll pc | returned done => cases about

end Leads

/-- No later call is about the connection. -/
def IsLast (calls : List Call) (i : Nat) (c : String) : Prop :=
  ∀ (j : Nat) (other : Call), i < j → calls[j]? = some other → other.about ≠ some c

/-- **Who is registered**: a connection whose last call has returned is so exactly if it was a creation
whose adapter has started. -/
structure Registration (s : System) : Prop where
  sound : Sound s
  noStopAll : Every (fun _ call => call.isStopAll = false) s.calls
  /-- The calls on a connection come one after the other. -/
  ordered : ∀ (i j : Nat) (one later : Call) (c : String), i < j → s.calls[i]? = some one →
    s.calls[j]? = some later → one.about = some c → later.about = some c → one.isReturned = true
  outlook : Every (fun _ call => call.Outlook s.manager) s.calls
  outcome : ∀ (i : Nat) (call : Call) (c : String), s.calls[i]? = some call → call.about = some c →
    IsLast s.calls i c → call.isReturned = true →
      (s.manager.adapters.lookup c).isSome = call.hasStarted
  untouched : ∀ c, (∀ (i : Nat) (call : Call), s.calls[i]? = some call → call.about ≠ some c) →
    s.manager.adapters.lookup c = none

/-- A creation or a closing comes when no other call on the connection is in progress; a subscription
does not fail; a creation is refused only for an id that is not registered. -/
def Prompt (s : System) : Event → Prop
  | .create msg _ => ∀ call ∈ s.calls, call.connection ≠ some msg.connectionId
  | .close c => ∀ call ∈ s.calls, call.connection ≠ some c
  | .stopAll => False
  | .advance i answer => ∀ call ∈ s.calls[i]?, (call.subscribes = true → answer = none) ∧
      (call.isRefused = true → ∀ c ∈ call.connection, s.manager.adapters.lookup c = none)
  | .forwarderEnds _ => True

section Registration

variable {s : System}

theorem Prompt.separate {event : Event} (prompt : Prompt s event) (reg : Registration s) :
    Separate s event := by
  have notStopAll : ∀ call ∈ s.calls, call.isStopAll = false := fun call mem => by
    obtain ⟨i, found⟩ := mem_iff_getElem?.mp mem
    exact reg.noStopAll i call found
  cases event with
  | create msg env | close c =>
    exact fun call mem => ⟨prompt call mem, notStopAll call mem⟩
  | stopAll => exact prompt.elim
  | advance i answer => exact fun call found => (prompt call found).1
  | forwarderEnds f => trivial

theorem Registration.start : Registration .start where
  sound := .start
  noStopAll := fun _ _ found => absurd found (by simp [System.start])
  ordered := fun _ _ _ _ _ _ found => absurd found (by simp [System.start])
  outlook := fun _ _ found => absurd found (by simp [System.start])
  outcome := fun _ _ _ found => absurd found (by simp [System.start])
  untouched := fun _ _ => rfl

theorem returned_of_about (about : call.about = some c) (notInProgress : call.connection ≠ some c)
    : call.isReturned = true := by
  cases call with
  | create msg env pc | close d pc => exact absurd about notInProgress
  | stopAll pc => cases about
  | returned done => rfl

theorem Registration.begin (reg : Registration s) (sound : Sound (s.begin call))
    (about : call.connection = some c) (outlook : call.Outlook s.manager)
    (prompt : ∀ other ∈ s.calls, other.connection ≠ some c) : Registration (s.begin call) where
  sound := sound
  noStopAll := reg.noStopAll.append (of_connection about).2 fun _ _ _ kept => kept
  ordered := by
    intro i j one later d before isOne isLater aboutOne aboutLater
    rcases append_cases isOne with ⟨rfl, -⟩ | ⟨-, oldOne⟩
    · have mem : j < (s.calls ++ [call]).length := (List.getElem?_eq_some_iff.mp isLater).1
      rw [length_append, length_singleton] at mem
      omega
    · rcases append_cases isLater with ⟨-, rfl⟩ | ⟨-, oldLater⟩
      · cases (about_of_connection about).symm.trans aboutLater
        exact returned_of_about aboutOne (prompt one (mem_of_getElem? oldOne))
      · exact reg.ordered i j one later d before oldOne oldLater aboutOne aboutLater
  outlook := reg.outlook.append outlook fun _ _ _ kept => kept
  outcome := by
    intro i other d found aboutOther last back
    rcases append_cases found with ⟨-, rfl⟩ | ⟨-, old⟩
    · nomatch (of_connection about).1.symm.trans back
    · refine reg.outcome i other d old aboutOther (fun j later before isLater => ?_) back
      exact last j later before (append_old isLater)
  untouched := fun d free => reg.untouched d fun i other old => free i other (append_old old)

variable {i : Nat}

theorem Registration.advance {next : AdapterManager × Call} (reg : Registration s)
    (found : s.calls[i]? = some call) (isAbout : call.connection = some c)
    (moved : CallMoved c s.manager next) (leads : Leads s.manager c call next) :
    Registration ⟨next.1, s.calls.set i next.2⟩ := by
  have aboutNext : next.2.about = some c := by
    unfold about
    rw [leads.command]
    exact about_of_connection isAbout
  -- A call of the new list is, for what it is about, one of the old list.
  have before : ∀ (j : Nat) (other : Call), (s.calls.set i next.2)[j]? = some other →
      ∃ old, s.calls[j]? = some old ∧ old.about = other.about := by
    intro j other isOther
    rcases set_cases isOther with ⟨rfl, rfl⟩ | ⟨-, stays⟩
    · exact ⟨call, found, (about_of_connection isAbout).trans aboutNext.symm⟩
    · exact ⟨other, stays, rfl⟩
  have after : ∀ (j : Nat) (old : Call), s.calls[j]? = some old →
      ∃ other, (s.calls.set i next.2)[j]? = some other ∧ other.about = old.about := by
    intro j old isOld
    rcases moves_or_stays next.2 found isOld with ⟨rfl, rfl⟩ | stays
    · exact ⟨next.2, set_self found, aboutNext.trans (about_of_connection isAbout).symm⟩
    · exact ⟨old, stays, rfl⟩
  refine ⟨reg.sound.advance found isAbout moved, ?_, ?_, ?_, ?_, ?_⟩
  · refine reg.noStopAll.set ?_ fun _ _ _ _ kept => kept
    rcases moved.goes with stays | back
    · exact (of_connection stays).2
    · exact (of_isReturned back).2.1
  · intro j k one later d earlier isOne isLater aboutOne aboutLater
    obtain ⟨old, isOld, aboutOld⟩ := before k later isLater
    rcases set_cases isOne with ⟨rfl, rfl⟩ | ⟨-, stays⟩
    · -- The call that has moved was in progress, so that no later one is about its connection.
      cases aboutNext.symm.trans aboutOne
      have back := reg.ordered j k call old c earlier found isOld
        (about_of_connection isAbout) (aboutOld.trans aboutLater)
      nomatch (of_connection isAbout).1.symm.trans back
    · exact reg.ordered j k one old d earlier stays isOld aboutOne (aboutOld.trans aboutLater)
  · refine reg.outlook.set leads.outlook fun j other ne isOther kept => ?_
    have apart := reg.sound.apart i j call other found isOther (Ne.symm ne)
    exact kept.spared moved.moved.spares (apart.connections c isAbout)
  · intro j other d isOther aboutOther last back
    have lastBefore : IsLast s.calls j d := fun k old earlier isOld aboutOld => by
      obtain ⟨later, isLater, aboutLater⟩ := after k old isOld
      exact last k later earlier isLater (aboutLater.trans aboutOld)
    rcases set_cases isOther with ⟨rfl, rfl⟩ | ⟨ne, stays⟩
    · cases aboutNext.symm.trans aboutOther
      exact leads.outcome back
    · by_cases same : d = c
      · -- The call in progress comes after every other one on the connection.
        subst same
        rcases Nat.lt_or_gt_of_ne ne with earlier | later
        · exact absurd aboutNext (last i next.2 earlier (set_self found))
        · have isReturned := reg.ordered i j call other d later found stays
            (about_of_connection isAbout) aboutOther
          nomatch (of_connection isAbout).1.symm.trans isReturned
      · rw [moved.moved.spares.adapters d same]
        exact reg.outcome j other d stays aboutOther lastBefore back
  · intro d free
    have other : d ≠ c := by
      rintro rfl
      exact free i next.2 (set_self found) aboutNext
    rw [moved.moved.spares.adapters d other]
    refine reg.untouched d fun j old isOld aboutOld => ?_
    obtain ⟨later, isLater, aboutLater⟩ := after j old isOld
    exact free j later isLater (aboutLater.trans aboutOld)

theorem Registration.returned (reg : Registration s) (found : s.calls[i]? = some call)
    (about : call.connection = none) : ∃ done, call = .returned done := by
  have notStopAll := reg.noStopAll i call found
  cases call with
  | create msg env pc | close c pc => cases about
  | stopAll pc => cases notStopAll
  | returned done => exact ⟨done, rfl⟩

/-- **One step of calls that come promptly.** -/
theorem Registration.step (event : Event) (reg : Registration s) (prompt : Prompt s event) :
    Registration (s.step event) := by
  have separate := prompt.separate reg
  have sound := reg.sound.step event separate
  cases event with
  | create msg env | close c => exact reg.begin sound rfl trivial prompt
  | stopAll => exact prompt.elim
  | advance i answer =>
    simp only [System.step] at sound ⊢
    cases found : s.calls[i]? with
    | none => exact reg
    | some call =>
      obtain ⟨subscribed, no⟩ := prompt call found
      cases about : call.connection with
      | some c =>
        have holds := reg.sound.phases i call found c about
        exact reg.advance found about (moved_call reg.sound.known about holds subscribed)
          (leads_call about holds (reg.outlook i call found) subscribed
            fun isRefused => no isRefused c about)
      | none =>
        obtain ⟨done, rfl⟩ := reg.returned found about
        show Registration ⟨s.manager, s.calls.set i (.returned done)⟩
        rw [set_getElem_self found]
        exact reg
  | forwarderEnds f =>
    exact ⟨sound, reg.noStopAll, reg.ordered, fun i call found => by
      have outlook := reg.outlook i call found
      cases call with
      | create msg env pc => cases pc <;> exact outlook
      | _ => trivial, reg.outcome, reg.untouched⟩

/-- The last command for the connection was a creation, and its adapter has started. -/
def LastStarted (calls : List Call) (c : String) : Prop :=
  ∃ i, calls[i]? = some (.returned (.create c true)) ∧ IsLast calls i c

theorem exists_last (calls : List Call) (c : String) :
    (∀ (i : Nat) (call : Call), calls[i]? = some call → call.about ≠ some c) ∨
      ∃ i call, calls[i]? = some call ∧ call.about = some c ∧ IsLast calls i c := by
  induction calls using reverseRecOn with
  | nil => exact .inl nofun
  | append_singleton calls last ih =>
    by_cases isLast : last.about = some c
    · refine .inr ⟨calls.length, last, append_new, isLast, fun j other after found => ?_⟩
      have mem := (List.getElem?_eq_some_iff.mp found).1
      rw [length_append, length_singleton] at mem
      omega
    · rcases ih with none | ⟨i, call, found, about, before⟩
      · refine .inl fun i call found => ?_
        rcases append_cases found with ⟨-, rfl⟩ | ⟨-, old⟩
        · exact isLast
        · exact none i call old
      · refine .inr ⟨i, call, append_old found, about, fun j other after ne => ?_⟩
        rcases append_cases ne with ⟨-, rfl⟩ | ⟨-, old⟩
        · exact isLast
        · exact before j other after old

/-- **When all calls have returned**, a connection is registered exactly if the last command for it was
a creation whose adapter has started. -/
theorem Registration.registered_iff (reg : Registration s)
    (back : ∀ call ∈ s.calls, call.isReturned = true) (c : String) :
    (s.manager.adapters.lookup c).isSome = true ↔ LastStarted s.calls c := by
  rcases exists_last s.calls c with none | ⟨i, call, found, about, last⟩
  · rw [reg.untouched c none]
    refine ⟨nofun, fun ⟨i, found, _⟩ => ?_⟩
    cases none i _ found rfl
  · have isReturned := back call (mem_of_getElem? found)
    rw [reg.outcome i call c found about last isReturned]
    constructor
    · intro started
      refine ⟨i, ?_, last⟩
      cases call with
      | returned done =>
        cases done with
        | create d started' =>
          obtain rfl : d = c := some.inj about
          rw [found, show started' = true from started]
        | close d | stopAll => cases started
      | create msg env pc | close d pc | stopAll pc => cases started
    · rintro ⟨j, isCreate, lastToo⟩
      rcases Nat.lt_trichotomy i j with before | rfl | after
      · cases last j _ before isCreate rfl
      · cases found.symm.trans isCreate
        rfl
      · exact absurd about (lastToo i call after found)

theorem filterMap_set_same {α β : Type} {f : α → Option β} {items : List α} {old new : α}
    (found : items[i]? = some old) (same : f new = f old) :
    (items.set i new).filterMap f = items.filterMap f := by
  have mapped : (items.set i new).map f = items.map f := by
    rw [map_set, same]
    obtain ⟨mem, isOld⟩ := List.getElem?_eq_some_iff.mp found
    rw [← isOld, ← List.getElem_map f, List.set_getElem_self]
    simpa using mem
  have asMap : ∀ list : List α, list.filterMap f = (list.map f).filterMap id := fun list => by
    rw [filterMap_map]
    rfl
  rw [asMap, mapped, ← asMap]

theorem commands_advance {answer : Option String} (reg : Registration s)
    (prompt : Prompt s (.advance i answer)) :
    (s.step (.advance i answer)).calls.filterMap command = s.calls.filterMap command := by
  simp only [System.step]
  cases found : s.calls[i]? with
  | none => rfl
  | some call =>
    refine filterMap_set_same found ?_
    obtain ⟨subscribed, no⟩ := prompt call found
    cases about : call.connection with
    | some c =>
      exact (leads_call about (reg.sound.phases i call found c about)
        (reg.outlook i call found) subscribed fun isRefused => no isRefused c about).command
    | none =>
      obtain ⟨done, rfl⟩ := reg.returned found about
      rfl

end Registration

/-! ### What is answered -/

def Reader.requests : Reader → List Request
  | .answering reply => reply.request.toList
  | _ => []

def ServerMessage.event : ServerMessage → Option Event
  | .createConnection msg env => some (.create msg env)
  | .closeConnection c => some (.close c)
  | _ => none

def ServerMessage.isClose : ServerMessage → Bool
  | .closeConnection _ => true
  | _ => false

namespace ReadLoop

/-- The first message that is not a creation is neither a request nor a closing; commands come when
the ones before them for the same connection have been carried out, no subscription fails after a
successful start, and no creation is refused for an id that is registered. -/
def Obedient (s : ReadLoop) : Event → Prop
  | .receive _ => ∀ msg ∈ s.incoming.head?,
      (s.reader = .draining → msg.request = none ∧ msg.isClose = false) ∧
      (s.reader = .draining ∨ s.reader = .reading → ∀ event ∈ msg.event, Prompt s.system event)
  | .advance i answer => Prompt s.system (.advance i answer)
  | _ => True

/-- What was answered and what is still to be answered are the requests, and likewise for the
commands. -/
structure Obeys (messages : List ServerMessage) (s : ReadLoop) : Prop where
  registration : Registration s.system
  answered : s.sent.filterMap AgentReply.request ++ s.reader.requests ++
    s.incoming.filterMap ServerMessage.request = messages.filterMap ServerMessage.request
  commanded : s.system.calls.filterMap command ++
    s.incoming.filterMap ServerMessage.command = messages.filterMap ServerMessage.command

section Steps

variable {messages : List ServerMessage} {s : ReadLoop}

theorem filterMap_cons_toList {α β : Type} (f : α → Option β) (item : α) (items : List α) :
    (item :: items).filterMap f = (f item).toList ++ items.filterMap f := by
  rw [filterMap_cons]
  cases f item <;> rfl

theorem begun (s : System) : (s.begin call).calls.filterMap command =
    s.calls.filterMap command ++ call.command.toList := by
  show (s.calls ++ [call]).filterMap command = _
  rw [filterMap_append, filterMap_cons_toList, filterMap_nil, append_nil]

variable {rest : List ServerMessage}

section
variable (obeys : Obeys messages s)
include obeys

section
variable {msg : ServerMessage} (isNext : s.incoming = msg :: rest)
include isNext

/-- A command is carried out: the reader may be anywhere, as long as it is not answering. -/
theorem Obeys.command {event : AgentProcess.Event} (isEvent : msg.event = some event)
    (prompt : Prompt s.system event) (free : s.reader.requests = []) {reader : Reader}
    (freeAfter : reader.requests = []) :
    Obeys messages { s with incoming := rest, reader := reader, system := s.system.step event } := by
  have answered := obeys.answered
  have commanded := obeys.commanded
  rw [isNext, filterMap_cons_toList] at answered commanded
  have reg := obeys.registration.step event prompt
  cases msg with
  | createConnection msg env | closeConnection c =>
    cases isEvent
    refine ⟨reg, ?_, ?_⟩
    · rw [free] at answered
      rw [freeAfter]
      exact answered
    · show (s.system.begin _).calls.filterMap command ++ _ = _
      rw [begun, append_assoc]
      exact commanded
  | _ => cases isEvent

/-- A message that is no command is taken, and its request, if it is one, is being answered. -/
theorem Obeys.take (noCommand : msg.command = none) (free : s.reader.requests = [])
    {reader : Reader} {sent : List AgentReply}
    (taken : sent.filterMap AgentReply.request ++ reader.requests =
      s.sent.filterMap AgentReply.request ++ msg.request.toList) :
    Obeys messages { s with incoming := rest, reader := reader, sent := sent } := by
  have answered := obeys.answered
  have commanded := obeys.commanded
  rw [isNext, filterMap_cons_toList] at answered commanded
  refine ⟨obeys.registration, ?_, ?_⟩
  · rw [free, append_nil, ← append_assoc] at answered
    rw [taken]
    exact answered
  · rw [noCommand] at commanded
    exact commanded

theorem Obeys.drain (isDraining : s.reader = .draining) (noRequest : msg.request = none)
    (noClose : msg.isClose = false) (prompt : ∀ event ∈ msg.event, Prompt s.system event) :
    Obeys messages ({ s with incoming := rest }.drain msg) := by
  have free : s.reader.requests = [] := by rw [isDraining]; rfl
  cases msg with
  | createConnection msg env => exact obeys.command isNext rfl (prompt _ rfl) free rfl
  | closeConnection c => cases noClose
  | setMetric msg | removeMetric msg | readFile msg | inspectFile requestId =>
    cases noRequest
  | ping =>
    refine obeys.take isNext rfl free ?_
    rw [filterMap_append, append_assoc]
    rfl
  | other => exact obeys.take isNext rfl free rfl

theorem Obeys.dispatch (isReading : s.reader = .reading)
    (prompt : ∀ event ∈ msg.event, Prompt s.system event) (out : Outside) :
    Obeys messages ({ s with incoming := rest }.dispatch out msg) := by
  have free : s.reader.requests = [] := by rw [isReading]; rfl
  have req := reply_request s.system.manager out msg
  -- What is sent for a message that is not a command is the reply to it.
  have answering : ∀ answer, reply s.system.manager out msg = some answer → msg.command = none →
      Obeys messages { s with incoming := rest, reader := .answering answer } := by
    intro answer isAnswer noCommand
    refine obeys.take isNext noCommand free ?_
    rw [isAnswer] at req
    rw [← req]
    rfl
  cases msg with
  | createConnection msg env | closeConnection c =>
    exact obeys.command isNext rfl (prompt _ rfl) free free
  | setMetric msg | removeMetric msg | readFile msg | inspectFile requestId | ping =>
    exact answering _ rfl rfl
  | other =>
    refine obeys.take isNext rfl free ?_
    rw [free]
    rfl

end

/-- The reader goes on, and what it was answering is sent. -/
theorem Obeys.goOn {reader : Reader} {sent : List AgentReply}
    (same : sent.filterMap AgentReply.request ++ reader.requests =
      s.sent.filterMap AgentReply.request ++ s.reader.requests) :
    Obeys messages { s with reader := reader, sent := sent } :=
  { obeys with answered := (congrArg (· ++ _) same).trans obeys.answered }

theorem Obeys.receive {out : Outside} (obedient : s.Obedient (.receive out)) :
    Obeys messages (s.receive out) := by
  unfold ReadLoop.receive
  cases isNext : s.incoming with
  | nil => exact obeys
  | cons msg rest =>
    obtain ⟨draining, prompt⟩ := obedient msg (by rw [isNext]; rfl)
    cases isReader : s.reader with
    | draining =>
      obtain ⟨noRequest, noClose⟩ := draining isReader
      have drained := obeys.drain isNext isReader noRequest noClose (prompt (.inl isReader))
      exact drained
    | reading =>
      have dispatched := obeys.dispatch isNext isReader (prompt (.inr isReader)) out
      rw [isReader] at dispatched
      exact dispatched
    | creating i | answering reply => exact obeys

end

/-- **One step of an agent that the server treats gently.** -/
theorem Obeys.step (event : Event) (obeys : Obeys messages s) (obedient : s.Obedient event) :
    Obeys messages (s.step event) := by
  cases event with
  | receive out => exact obeys.receive obedient
  | deadline =>
    show Obeys messages (if s.reader = .draining then _ else _)
    split
    next isDraining => exact obeys.goOn (by rw [isDraining]; rfl)
    · exact obeys
  | resume =>
    show Obeys messages s.resume
    unfold ReadLoop.resume
    cases isReader : s.reader with
    | creating i =>
      dsimp only
      split
      · exact obeys.goOn (by rw [isReader]; rfl)
      · exact obeys
    | _ => exact obeys
  | send =>
    show Obeys messages s.send
    unfold ReadLoop.send
    cases isReader : s.reader with
    | answering reply =>
      refine obeys.goOn ?_
      rw [isReader, filterMap_append, filterMap_cons_toList, filterMap_nil, append_assoc, append_assoc]
      exact congrArg _ (append_nil _)
    | _ => exact obeys
  | advance i answer =>
    refine ⟨obeys.registration.step (.advance i answer) obedient, obeys.answered, ?_⟩
    show (s.system.step (.advance i answer)).calls.filterMap Call.command ++ _ = _
    rw [commands_advance obeys.registration obedient]
    exact obeys.commanded
  | forwarderEnds f => exact ⟨obeys.registration.step (.forwarderEnds f) trivial, obeys.answered, obeys.commanded⟩

end Steps

/-- Every message was taken, nothing is being answered or awaited, and every call has returned. -/
structure Finished (s : ReadLoop) : Prop where
  taken : s.incoming = []
  free : s.reader = .draining ∨ s.reader = .reading
  returned : ∀ call ∈ s.system.calls, call.isReturned = true

/-- **Every command is executed**: the requests are answered once each and in their order, the commands
are the calls in their order, and a connection is registered exactly if the last command for it was a
creation whose adapter has started. -/
theorem commands_executed (messages : List ServerMessage) (events : List Event)
    (obedient : Run.Allowed step Obedient (start messages) events)
    (finished : (after step (start messages) events).Finished) :
    (after step (start messages) events).sent.filterMap AgentReply.request =
        messages.filterMap ServerMessage.request ∧
      (after step (start messages) events).system.calls.filterMap command =
        messages.filterMap ServerMessage.command ∧
      ∀ c, ((after step (start messages) events).system.manager.adapters.lookup c).isSome = true ↔
        LastStarted (after step (start messages) events).system.calls c := by
  have obeys : Obeys messages (after step (start messages) events) :=
    @invariant_after _ _ step Obedient (Obeys messages)
      (fun s event held allowed => held.step event allowed) events (start messages)
      ⟨.start, rfl, rfl⟩ obedient
  have answered := obeys.answered
  have commanded := obeys.commanded
  have free : (after step (start messages) events).reader.requests = [] := by
    rcases finished.free with isReader | isReader <;> rw [isReader] <;> rfl
  rw [finished.taken] at answered commanded
  rw [free] at answered
  exact ⟨by simpa using answered, by simpa using commanded,
    obeys.registration.registered_iff finished.returned⟩

/-! ### Messages that come too early -/

section Sample

instance (s : System) : (event : AgentProcess.Event) → Decidable (Prompt s event)
  | .create _ _ | .close _ => inferInstanceAs (Decidable (∀ _ ∈ _, _))
  | .stopAll => .isFalse fun impossible => impossible
  | .advance i answer =>
    decidable_of_iff (∀ call ∈ s.calls[i]?.toList, (call.subscribes = true → answer = none) ∧
        (call.isRefused = true → ∀ c ∈ call.connection.toList, s.manager.adapters.lookup c = none)) <| by
      simp only [mem_toList]
      rfl
  | .forwarderEnds _ => .isTrue trivial

instance (s : ReadLoop) (event : Event) : Decidable (s.Obedient event) := by
  cases event <;> unfold Obedient <;> infer_instance

def willing : Outside := ⟨.ok ⟨true, 1, none⟩, .ok ⟨true, none⟩, .ok []⟩

def advances (i n : Nat) : List Event := replicate n (.advance i none)

theorem create_set_close_executed :
    let messages := [.createConnection sampleCreation linux, .ping,
      .setMetric (sampleSet "a" "f"), .closeConnection "c"]
    let events := .receive willing :: advances 0 13 ++ [.resume, .receive willing, .receive willing,
      .send, .receive willing] ++ advances 1 6
    (after step (start messages) events).sent =
        [.pong, .setMetricAck ⟨"s", true, 1, "", ""⟩] ∧
      ((after step (start messages) events).system.manager.adapters.lookup "c" = none) ∧
      ∀ c, ((after step (start messages) events).system.manager.adapters.lookup c).isSome = true ↔
        LastStarted (after step (start messages) events).system.calls c := by
  refine ⟨by decide, by decide, ?_⟩
  exact (commands_executed _ _ (by decide)
    ⟨by decide, by decide, by decide⟩).2.2

/-- A request that comes first is never answered. A creation whose task begins after the task of the
closing that was sent later leaves the connection registered. -/
theorem early_request_and_late_creation :
    let request := after step (start [.setMetric (sampleSet "a" "f")]) [.receive willing]
    let creation := after step
      (start [.ping, .createConnection sampleCreation linux, .closeConnection "c"])
      ([.receive willing, .receive willing, .receive willing] ++ advances 1 3 ++ advances 0 13)
    (request.incoming = [] ∧ request.reader = .reading ∧ request.system.calls = [] ∧
      request.sent = []) ∧
    (creation.incoming = [] ∧ creation.reader = .reading ∧
      creation.system.calls = [.returned (.create "c" true), .returned (.close "c")] ∧
      creation.system.manager.adapters.lookup "c" = some 0) := by
  decide

end Sample

end ReadLoop

end Detrix.AgentProcess
