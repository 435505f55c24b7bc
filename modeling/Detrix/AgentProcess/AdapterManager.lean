/-
**The adapters of the agent process.**

The manager keeps, for each connection id, the adapter that serves it and the handle of the task that
forwards its events. Calls to create, close and stop connections run as tasks of their own; each of
them is a program counter here, and a step is what it does between two points at which another task can
come in between. Which construction, start or subscription fails comes with the step.

The instances are all adapters that were ever constructed, the forwarders all tasks that were ever
spawned; both are named by their place.
-/

import Detrix.AgentProcess.Admission
import Detrix.Library.Run
import Mathlib.Data.List.AList

namespace Detrix.AgentProcess

open Library

/-! ### The manager -/

inductive Instance.Stage where
  /-- Constructed, and not started or not successfully. -/
  | created
  /-- `start` has returned `Ok`. -/
  | running
  | stopped
  deriving DecidableEq

structure Instance where
  connection : String
  construction : Construction
  stage : Instance.Stage

structure ForwarderTask where
  adapter : Nat
  running : Bool
  deriving DecidableEq

/-- `AgentConnectionUpdate`, as far as the success of a creation is concerned. -/
structure ConnectionUpdate where
  connectionId : String
  connected : Bool
  error : String
  deriving DecidableEq

structure AdapterManager where
  adapters : AList fun _ : String => Nat
  forwarderHandles : AList fun _ : String => Nat
  connectionLanguages : String → Option String
  activeConnections : Nat
  updates : List ConnectionUpdate
  instances : List Instance
  forwarders : List ForwarderTask

def maxConnections : Nat := 4294967295

namespace AdapterManager

def new : AdapterManager := ⟨∅, ∅, fun _ => none, 0, [], [], []⟩

variable (m : AdapterManager)

def count : Nat := min m.adapters.keys.length maxConnections

def setStage (a : Nat) (stage : Instance.Stage) : AdapterManager :=
  { m with instances := m.instances.modify a fun inst => { inst with stage := stage } }

def endForwarder (f : Nat) : AdapterManager :=
  { m with forwarders := m.forwarders.modify f fun task => { task with running := false } }

def abortForwarder (c : String) : AdapterManager :=
  match m.forwarderHandles.lookup c with
  | none => m
  | some f => { m.endForwarder f with forwarderHandles := m.forwarderHandles.erase c }

def removeAdapter (c : String) : AdapterManager := { m with adapters := m.adapters.erase c }

def insertAdapter (c : String) (a : Nat) : AdapterManager :=
  { m with adapters := m.adapters.insert c a }

def setActive (n : Nat) : AdapterManager := { m with activeConnections := n }

def construct (c : String) (construction : Construction) : AdapterManager :=
  { m with instances := m.instances ++ [⟨c, construction, .created⟩] }

def spawnForwarder (a : Nat) : AdapterManager := { m with forwarders := m.forwarders ++ [⟨a, true⟩] }

def insertHandle (c : String) (f : Nat) : AdapterManager :=
  { m with forwarderHandles := m.forwarderHandles.insert c f }

def setLanguage (c : String) (language : Option String) : AdapterManager :=
  { m with connectionLanguages := Function.update m.connectionLanguages c language }

/-- `send_connection_update`; a failure also removes what was recorded for the connection. -/
def sendUpdate (update : ConnectionUpdate) : AdapterManager :=
  let sent := { m with updates := m.updates ++ [update] }
  if update.connected then sent else sent.setLanguage update.connectionId none

end AdapterManager

/-! ### The calls -/

/-- `replace_connection`, and the same in `close_connection`. -/
inductive Teardown where
  | abortForwarder
  | removeAdapter
  | stopAdapter (a : Nat)
  | readLen
  | storeLen (n : Nat)
  deriving DecidableEq

inductive CreatePc where
  /-- Nothing was done but for checks. -/
  | checking
  | replacing (admission : Admission) (pc : Teardown)
  | record (admission : Admission)
  | construct (admission : Admission)
  | start (a : Nat)
  | subscribe (a : Nat)
  | insert (a : Nat)
  | readLen (a : Nat)
  | storeLen (a n : Nat)
  | spawn (a : Nat)
  | handOver (a f : Nat)
  | connected
  /-- The failure is to be reported; the adapter was started or not. -/
  | failed (error : String) (started : Bool)
  deriving DecidableEq

inductive ClosePc where
  | tearing (pc : Teardown)
  | forget
  deriving DecidableEq

/-- `stop_all`; the keys are those that are still to be removed. -/
inductive StopAllPc where
  | collectHandles
  | abortEach (keys : List String)
  | collectAdapters
  | removeEach (keys : List String)
  | stopEach (a : Nat) (keys : List String)
  | readLen
  | storeLen (n : Nat)
  | clear
  deriving DecidableEq

inductive Finished where
  | create (connection : String) (started : Bool)
  | close (connection : String)
  | stopAll
  deriving DecidableEq

inductive Call where
  | create (msg : AgentCreateConnection) (env : Surroundings) (pc : CreatePc)
  | close (connection : String) (pc : ClosePc)
  | stopAll (pc : StopAllPc)
  | returned (call : Finished)
  deriving DecidableEq

/-- The adapter that `remove` has found, if any, is taken out and stopped. -/
def Teardown.takeOut (m : AdapterManager) (c : String) : Option Nat → AdapterManager × Option Teardown
  | none => (m, none)
  | some a => (m.removeAdapter c, some (.stopAdapter a))

def Teardown.step (m : AdapterManager) (c : String) : Teardown → AdapterManager × Option Teardown
  | .abortForwarder => (m.abortForwarder c, some .removeAdapter)
  | .removeAdapter => takeOut m c (m.adapters.lookup c)
  | .stopAdapter a => (m.setStage a .stopped, some .readLen)
  | .readLen => (m, some (.storeLen m.count))
  | .storeLen n => (m.setActive n, none)

def Construction.failure : Construction → Option String → Option String
  | .registered .., answer => answer
  | _, _ => none

section Creation

variable (m : AdapterManager) (msg : AgentCreateConnection) (env : Surroundings)

namespace CreatePc

def afterAdmission : Except String Admission → Call
  | .error error => .create msg env (.failed error false)
  | .ok admitted => .create msg env (.replacing admitted .abortForwarder)

def afterTeardown (admitted : Admission) : Option Teardown → Call
  | some next => .create msg env (.replacing admitted next)
  | none => .create msg env (.record admitted)

def afterConstruction (made : Construction) : Option String → AdapterManager × Call
  | some error => (m, .create msg env (.failed error false))
  | none => (m.construct msg.connectionId made, .create msg env (.start m.instances.length))

def tryConstruct (answer : Option String) : Except String Construction → AdapterManager × Call
  | .error error => (m, .create msg env (.failed error false))
  | .ok made => afterConstruction m msg env made (made.failure answer)

def tryStart (a : Nat) : Option String → AdapterManager × Call
  | some error => (m, .create msg env (.failed error false))
  | none => (m.setStage a .running, .create msg env (.subscribe a))

def trySubscribe (a : Nat) : Option String → AdapterManager × Call
  -- The adapter that was started is dropped here.
  | some error => (m, .create msg env (.failed error true))
  | none => (m, .create msg env (.insert a))

/-- A step of `create_connection` or `create_dynamic_ebpf_connection`, where the part of the outside
fails with a text or does not. -/
def step (answer : Option String) : CreatePc → AdapterManager × Call
  | .checking => (m, afterAdmission msg env (admission env msg))
  | .replacing admitted pc =>
    ((pc.step m msg.connectionId).1, afterTeardown msg env admitted (pc.step m msg.connectionId).2)
  | .record admitted =>
    (m.setLanguage msg.connectionId (some (Text.asciiLowercase msg.language)),
      .create msg env (.construct admitted))
  | .construct admitted => tryConstruct m msg env answer (construction msg admitted)
  | .start a => tryStart m msg env a answer
  | .subscribe a => trySubscribe m msg env a answer
  | .insert a => (m.insertAdapter msg.connectionId a, .create msg env (.readLen a))
  | .readLen a => (m, .create msg env (.storeLen a m.count))
  | .storeLen a n => (m.setActive n, .create msg env (.spawn a))
  | .spawn a => (m.spawnForwarder a, .create msg env (.handOver a m.forwarders.length))
  | .handOver _ f => (m.insertHandle msg.connectionId f, .create msg env .connected)
  | .connected =>
    (m.sendUpdate ⟨msg.connectionId, true, ""⟩, .returned (.create msg.connectionId true))
  | .failed error started =>
    (m.sendUpdate ⟨msg.connectionId, false, error⟩, .returned (.create msg.connectionId started))

theorem step_checking (answer : Option String) :
    step m msg env answer .checking = (m, afterAdmission msg env (admission env msg)) := rfl

theorem step_construct (answer : Option String) (admitted : Admission) :
    step m msg env answer (.construct admitted) =
      tryConstruct m msg env answer (construction msg admitted) := rfl

end CreatePc

end Creation

def ClosePc.afterTeardown (c : String) : Option Teardown → Call
  | some next => .close c (.tearing next)
  | none => .close c .forget

def ClosePc.step (m : AdapterManager) (c : String) : ClosePc → AdapterManager × Call
  | .tearing pc => ((pc.step m c).1, afterTeardown c (pc.step m c).2)
  | .forget => (m.setLanguage c none, .returned (.close c))

def StopAllPc.takeOut (m : AdapterManager) (c : String) (keys : List String) :
    Option Nat → AdapterManager × Call
  | none => (m, .stopAll (.removeEach keys))
  | some a => (m.removeAdapter c, .stopAll (.stopEach a keys))

def StopAllPc.step (m : AdapterManager) : StopAllPc → AdapterManager × Call
  | .collectHandles => (m, .stopAll (.abortEach m.forwarderHandles.keys))
  | .abortEach [] => (m, .stopAll .collectAdapters)
  | .abortEach (c :: keys) => (m.abortForwarder c, .stopAll (.abortEach keys))
  | .collectAdapters => (m, .stopAll (.removeEach m.adapters.keys))
  | .removeEach [] => (m, .stopAll .readLen)
  | .removeEach (c :: keys) => takeOut m c keys (m.adapters.lookup c)
  | .stopEach a keys => (m.setStage a .stopped, .stopAll (.removeEach keys))
  | .readLen => (m, .stopAll (.storeLen m.count))
  | .storeLen n => (m.setActive n, .stopAll .clear)
  | .clear => ({ m with connectionLanguages := fun _ => none }, .returned .stopAll)

def Call.step (m : AdapterManager) (answer : Option String) : Call → AdapterManager × Call
  | .create msg env pc => pc.step m msg env answer
  | .close c pc => pc.step m c
  | .stopAll pc => pc.step m
  | .returned call => (m, .returned call)

/-! ### Interleavings -/

structure System where
  manager : AdapterManager
  calls : List Call

inductive Event where
  | create (msg : AgentCreateConnection) (env : Surroundings)
  | close (connection : String)
  | stopAll
  | advance (i : Nat) (answer : Option String)
  | forwarderEnds (f : Nat)

namespace System

def start : System := ⟨.new, []⟩

def begin (s : System) (call : Call) : System := { s with calls := s.calls ++ [call] }

def step (s : System) : Event → System
  | .create msg env => s.begin (.create msg env .checking)
  | .close c => s.begin (.close c (.tearing .abortForwarder))
  | .stopAll => s.begin (.stopAll .collectHandles)
  | .advance i answer =>
    match s.calls[i]? with
    | none => s
    | some call => ⟨(call.step s.manager answer).1, s.calls.set i (call.step s.manager answer).2⟩
  | .forwarderEnds f => { s with manager := s.manager.endForwarder f }

end System

end Detrix.AgentProcess
