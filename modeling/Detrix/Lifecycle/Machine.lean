/-
**Starting, registering and stopping the adapters of a connection.**

The calls of `start_adapter`, `register_adapter` and `stop_adapter` for one connection, the listeners
of their adapters and the cleanup task, interleaved at every access to `pending_starts` and
`adapters`. A call is at one of the places between two accesses; `startStep`, `registerStep` and
`stopStep` take it to the next one. What the outside decides (whether an adapter starts, whether the
subscription succeeds, whether a wait times out) comes with the step.

An adapter instance is named by the call that brings it: each start creates at most one, each
registration has its own.
-/

import Detrix.Library.Interleaving
import Detrix.Library.Run
import Mathlib.Data.List.ReduceOption

namespace Detrix.Lifecycle

abbrev Port : Type := Nat

abbrev Instance : Type := Nat

/-! ### The state -/

/-- The cleanup task: it waits for a request, is about to remove the adapter of the connection, or is
stopping the one it has removed. -/
inductive CleanupPc where
  | waiting
  | removing (sender : Instance)
  | stopping (victim : Instance)
  deriving DecidableEq

def CleanupPc.sender : CleanupPc → Option Instance
  | .removing sender => some sender
  | _ => none

/-- What the calls share. -/
structure Lifecycle where
  /-- The entry in `pending_starts`. -/
  pending : Option Port
  /-- The entry in `adapters`. -/
  stored : Option Instance
  /-- The instances that were started and not stopped. -/
  live : List Instance
  listening : List Instance
  /-- The queue of the cleanup task; a request carries only the connection, the sender is noted here.
  The requests of other connections have none. -/
  requests : List (Option Instance)
  cleanup : CleanupPc
  /-- What the cleanup task has removed: the sender of the request and the instance. -/
  torn : List (Instance × Instance)
  deriving DecidableEq

namespace Lifecycle

def new : Lifecycle := ⟨none, none, [], [], [], .waiting, []⟩

variable (s : Lifecycle)

def stop (victim : Instance) : Lifecycle :=
  { s with
    live := s.live.filter (· ≠ victim)
    listening := s.listening.filter (· ≠ victim) }

/-- The capacity of the channel to the cleanup task. -/
def capacity : Nat := 16

/-- The listener of an instance reports a crash and ends; it waits while the queue is full. -/
def crash (x : Instance) : Lifecycle :=
  if x ∈ s.listening ∧ s.requests.length < capacity then
    { s with
      listening := s.listening.filter (· ≠ x)
      requests := s.requests ++ [some x] }
  else s

def crashElsewhere : Lifecycle :=
  if s.requests.length < capacity then { s with requests := s.requests ++ [none] } else s

/-- The senders of the requests for this connection that wait or were received. -/
def outstanding : List Instance := s.requests.reduceOption ++ s.cleanup.sender.toList

def cleanUp : Lifecycle :=
  match s.cleanup with
  | .waiting =>
    match s.requests with
    | [] => s
    | none :: rest => { s with requests := rest }
    | some sender :: rest => { s with requests := rest, cleanup := .removing sender }
  | .removing sender =>
    match s.stored with
    | some victim =>
      { s with stored := none, cleanup := .stopping victim, torn := s.torn ++ [(sender, victim)] }
    | none => { s with cleanup := .waiting }
  | .stopping victim => { s.stop victim with cleanup := .waiting }

inductive CleansUp : Lifecycle → Prop where
  | idle : CleansUp s
  | elsewhere (rest : List (Option Instance)) (first : s.requests = none :: rest)
      (waits : s.cleanup = .waiting) : CleansUp { s with requests := rest }
  | receive (sender : Instance) (rest : List (Option Instance))
      (first : s.requests = some sender :: rest) (waits : s.cleanup = .waiting) :
      CleansUp { s with requests := rest, cleanup := .removing sender }
  | remove (sender victim : Instance) (removing : s.cleanup = .removing sender)
      (isStored : s.stored = some victim) :
      CleansUp { s with
        stored := none, cleanup := .stopping victim, torn := s.torn ++ [(sender, victim)] }
  | missing (sender : Instance) (removing : s.cleanup = .removing sender)
      (isMissing : s.stored = none) : CleansUp { s with cleanup := .waiting }
  | finish (victim : Instance) (stopping : s.cleanup = .stopping victim) :
      CleansUp { s.stop victim with cleanup := .waiting }

theorem cleanUp_cleansUp : s.CleansUp s.cleanUp := by
  unfold cleanUp
  split
  next waits =>
    split
    next => exact .idle
    next rest first => exact .elsewhere rest first waits
    next sender rest first => exact .receive sender rest first waits
  next sender removing =>
    split
    next victim stored => exact .remove sender victim removing stored
    next isMissing => exact .missing sender removing isMissing
  next victim stopping => exact .finish victim stopping

end Lifecycle

/-! ### The calls -/

/-- `stop_adapter`: the adapter is taken out of the map, then stopped. -/
inductive StopPc where
  | removing
  | stopping (victim : Instance)
  deriving DecidableEq

inductive StartPc where
  /-- The entry in `pending_starts` is looked up, and made if there is none. -/
  | enter (retries : Nat)
  /-- Another port was found: its entry is removed. -/
  | takeOver
  /-- And the own one is inserted. -/
  | claim
  /-- The same port was found: wait until the entry is gone. -/
  | waiting (retries : Nat)
  /-- And look whether there is an adapter now. -/
  | looking (retries : Nat)
  /-- The start is pending from here on. -/
  | checking
  | replacing (pc : StopPc)
  | creating
  | subscribing
  /-- The metrics were synchronised: is the start still the pending one? -/
  | confirming
  | discarding
  | storing
  | releasing
  deriving DecidableEq

inductive RegisterPc where
  | checking
  | replacing (pc : StopPc)
  | subscribing
  | storing
  deriving DecidableEq

inductive Call where
  | start (port : Port) (pc : StartPc)
  | register (pc : RegisterPc)
  | stop (pc : StopPc)
  | returned
  deriving DecidableEq

/-- The call subscribes to the events of its adapter, and spawns the listener if that succeeds. -/
def Call.subscribes : Call → Bool
  | .start _ .subscribing | .register .subscribing => true
  | _ => false

def Call.stores : Call → Bool
  | .start _ .storing | .register .storing => true
  | _ => false

/-! ### One step of a call -/

/-- Where a call goes on, if it does not return. -/
def goOn {α : Type} (at_ : α → Call) : Option α → Call
  | some pc => at_ pc
  | none => .returned

def stopStep (s : Lifecycle) : StopPc → Lifecycle × Option StopPc
  | .removing =>
    match s.stored with
    | some victim => ({ s with stored := none }, some (.stopping victim))
    | none => (s, none)
  | .stopping victim => (s.stop victim, none)

def startStep (maxRetries : Nat) (port : Port) (self : Instance) (ok : Bool) (s : Lifecycle) :
    StartPc → Lifecycle × Option StartPc
  | .enter retries =>
    match s.pending with
    | none => ({ s with pending := some port }, some .checking)
    | some other => (s, some (if other ≠ port then .takeOver else .waiting retries))
  | .takeOver => ({ s with pending := none }, some .claim)
  | .claim => ({ s with pending := some port }, some .checking)
  | .waiting retries =>
    if s.pending.isSome then (s, if ok then some (.waiting retries) else none)
    else (s, some (.looking retries))
  | .looking retries =>
    if s.stored.isSome then (s, none)
    else (s, if maxRetries ≤ retries + 1 then none else some (.enter (retries + 1)))
  | .checking => (s, some (if s.stored.isSome then .replacing .removing else .creating))
  | .replacing pc =>
    let (t, next) := stopStep s pc
    (t, some (next.elim .creating .replacing))
  | .creating =>
    if ok then ({ s with live := self :: s.live }, some .subscribing) else (s, some .releasing)
  | .subscribing =>
    if ok then ({ s with listening := self :: s.listening }, some .confirming)
    else (s, some .discarding)
  | .confirming => (s, some (if s.pending = some port then .storing else .discarding))
  | .discarding => (s.stop self, some .releasing)
  | .storing => ({ s with stored := some self }, some .releasing)
  | .releasing => ({ s with pending := if s.pending = some port then none else s.pending }, none)

def registerStep (self : Instance) (ok : Bool) (s : Lifecycle) :
    RegisterPc → Lifecycle × Option RegisterPc
  | .checking => (s, some (if s.stored.isSome then .replacing .removing else .subscribing))
  | .replacing pc =>
    let (t, next) := stopStep s pc
    (t, some (next.elim .subscribing .replacing))
  | .subscribing =>
    if ok then ({ s with listening := self :: s.listening }, some .storing) else (s, none)
  | .storing => ({ s with stored := some self }, none)

def Call.step (maxRetries : Nat) (self : Instance) (ok : Bool) (s : Lifecycle) :
    Call → Lifecycle × Call
  | .start port pc =>
    let (t, next) := startStep maxRetries port self ok s pc
    (t, goOn (.start port) next)
  | .register pc =>
    let (t, next) := registerStep self ok s pc
    (t, goOn .register next)
  | .stop pc =>
    let (t, next) := stopStep s pc
    (t, goOn .stop next)
  | .returned => (s, .returned)

/-! ### The system -/

inductive Begin where
  | start (port : Port)
  | register
  | stop

def Begin.call : Begin → Call
  | .start port => .start port (.enter 0)
  | .register => .register .checking
  | .stop => .stop .removing

inductive Event where
  | begin (call : Begin)
  | advance (call : Nat) (ok : Bool)
  | crash (x : Instance)
  | crashElsewhere
  | cleanUp

structure System where
  shared : Lifecycle
  calls : List Call
  deriving DecidableEq

namespace System

def new : System := ⟨.new, []⟩

/-- The adapter that is handed to `register_adapter` was started before. -/
def opened (s : System) : Begin → Lifecycle
  | .register => { s.shared with live := s.calls.length :: s.shared.live }
  | .start _ | .stop => s.shared

def step (maxRetries : Nat) (s : System) : Event → System
  | .begin call => ⟨s.opened call, s.calls ++ [call.call]⟩
  | .advance i ok =>
    match s.calls[i]? with
    | some call =>
      let (shared, next) := call.step maxRetries i ok s.shared
      ⟨shared, s.calls.set i next⟩
    | none => s
  | .crash x => { s with shared := s.shared.crash x }
  | .crashElsewhere => { s with shared := s.shared.crashElsewhere }
  | .cleanUp => { s with shared := s.shared.cleanUp }

theorem step_advance {maxRetries i : Nat} {ok : Bool} {s : System} {call : Call}
    (known : s.calls[i]? = some call) : s.step maxRetries (.advance i ok) =
      ⟨(call.step maxRetries i ok s.shared).1,
        s.calls.set i (call.step maxRetries i ok s.shared).2⟩ := by
  simp [step, known]

theorem step_missing {maxRetries i : Nat} {ok : Bool} {s : System} (missing : s.calls[i]? = none) :
    s.step maxRetries (.advance i ok) = s := by
  simp [step, missing]

end System

end Detrix.Lifecycle
