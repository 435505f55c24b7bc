/-
**The broker of a debug session.**

`send_request` and `send_and_detect_failure` take the request lock, draw a sequence number, register a
channel under it in `pending_requests`, write the request and wait for the channel until a timer
elapses; `send_message_no_wait` only takes the lock and writes. The reader task takes the channel of a
response out of the map and sends the response through it, and at the end of the connection tells all
that are left. Every lock that is taken and every wait is a point where the steps interleave.

A sender in the map is named by the call that has the receiver.
-/

import Detrix.Library.Interleaving
import Detrix.Library.Run
import Mathlib.Data.List.AList

namespace Detrix.Dap

open Library Calls

/-! ### Responses and errors -/

/-- `Response`; the body is a JSON text. -/
structure Response where
  seq : Int64
  requestSeq : Int64
  command : String
  success : Bool
  message : Option String
  body : Option String
  deriving DecidableEq

/-- A response that the reader task has read, with the number of its arrival. -/
structure Arrival where
  number : Nat
  response : Response
  deriving DecidableEq

inductive BrokerError where
  | communication (detail : String)
  | timeout (ms : Nat)
  | initializationFailed (detail : String)
  /-- The error of `send_message`. -/
  | unsent

inductive Outcome where
  | received (arrival : Arrival)
  | disconnected
  | closed
  | timedOut
  | unsent
  deriving DecidableEq

def Outcome.requestResult (timeoutMs : Nat) : Outcome → Except BrokerError Response
  | .received arrival => .ok arrival.response
  | .disconnected => .error (.communication "Adapter disconnected")
  | .closed => .error (.communication "Response channel closed")
  | .timedOut => .error (.timeout timeoutMs)
  | .unsent => .error .unsent

def Outcome.detectResult (command : String) : Outcome → Except BrokerError Unit
  | .received arrival =>
    if arrival.response.success then .ok ()
    else .error (.initializationFailed
      (arrival.response.message.getD (command ++ " request failed")))
  | .disconnected => .error (.communication "Adapter disconnected")
  | .closed => .error (.communication "Response channel closed unexpectedly")
  | .timedOut => .ok ()
  | .unsent => .error .unsent

/-! ### The state -/

/-- What the receiver of a channel finds. -/
inductive Slot where
  | empty
  | response (arrival : Arrival)
  | disconnected
  | closed
  deriving DecidableEq

/-- A call of `send_request` or `send_and_detect_failure`, or one of `send_message_no_wait` with the
number of its message if that is a request. -/
inductive BrokerCall where
  | queued
  | numbering
  | registering (seq : Int64)
  | writing (seq : Int64) (slot : Slot)
  | awaiting (seq : Int64) (slot : Slot)
  /-- The timer has elapsed and the receiver is gone. -/
  | cleaning (seq : Int64)
  | returned (seq : Int64) (outcome : Outcome)
  | noWaitQueued (message : Option Int64)
  | noWaitWriting (message : Option Int64)
  | noWaitReturned (message : Option Int64) (ok : Bool)
  deriving DecidableEq

inductive Reader where
  | reading
  /-- It has left its loop and not yet told the pending calls. -/
  | closing
  | closed
  deriving DecidableEq

structure Broker where
  nextSeq : Int64
  /-- Numbers that `next_sequence` has given to callers that have not yet sent their message. -/
  drawn : List Int64
  lockHolder : Option Nat
  pending : AList fun _ : Int64 => Nat
  reader : Reader
  arrived : Nat
  calls : List BrokerCall

inductive BrokerEvent where
  | sendRequest
  | sendAndDetectFailure
  | sendMessageNoWait (message : Option Int64)
  | nextSequence
  | advance (call : Nat) (ok : Bool)
  | elapse (call : Nat)
  | respond (response : Response)
  /-- The stream has ended or cannot be read, or the debug session has ended. -/
  | disconnect
  | drain

namespace Broker

def new : Broker where
  nextSeq := 1
  drawn := []
  lockHolder := none
  pending := ∅
  reader := .reading
  arrived := 0
  calls := []

/-! ### Steps -/

end Broker

def BrokerCall.receive (slot : Slot) : BrokerCall → BrokerCall
  | .writing seq .empty => .writing seq slot
  | .awaiting seq .empty => .awaiting seq slot
  | call => call

def Slot.outcome : Slot → Option Outcome
  | .empty => none
  | .response arrival => some (.received arrival)
  | .disconnected => some .disconnected
  | .closed => some .closed

namespace Broker

variable (s : Broker)

def deliver (told : Nat → Bool) (slot : Slot) : List BrokerCall :=
  s.calls.mapIdx fun i call => if told i then call.receive slot else call

def finish (i : Nat) (call : BrokerCall) : Broker :=
  { s with lockHolder := none, calls := s.calls.set i call }

def acquire (i : Nat) (call : BrokerCall) : Broker :=
  if s.lockHolder = none then { s with lockHolder := some i, calls := s.calls.set i call } else s

/-- `ok` is whether a message could be written. -/
def advance (i : Nat) (ok : Bool) : BrokerCall → Broker
  | .queued => s.acquire i .numbering
  | .numbering => { s with nextSeq := s.nextSeq + 1, calls := s.calls.set i (.registering s.nextSeq) }
  | .registering seq =>
    -- a sender that is replaced in the map is dropped
    { s with
      pending := s.pending.insert seq i
      calls := (s.deliver (fun j => s.pending.lookup seq = some j) .closed).set i
        (.writing seq .empty) }
  | .writing seq slot =>
    if ok then { s with calls := s.calls.set i (.awaiting seq slot) }
    else s.finish i (.returned seq .unsent)
  | .awaiting seq slot =>
    match slot.outcome with
    | some outcome => s.finish i (.returned seq outcome)
    | none => s
  | .cleaning seq => { s with pending := s.pending.erase seq }.finish i (.returned seq .timedOut)
  | .noWaitQueued message => s.acquire i (.noWaitWriting message)
  | .noWaitWriting message => s.finish i (.noWaitReturned message ok)
  | .returned _ _ | .noWaitReturned _ _ => s

def elapse (i : Nat) : BrokerCall → Broker
  | .awaiting seq .empty => { s with calls := s.calls.set i (.cleaning seq) }
  | _ => s

/-- `handle_message` of a response. -/
def handleResponse (response : Response) : Broker :=
  { s with
    pending := s.pending.erase response.requestSeq
    arrived := s.arrived + 1
    calls := s.deliver (fun i => s.pending.lookup response.requestSeq = some i)
      (.response ⟨s.arrived, response⟩) }

def drain : Broker :=
  { s with
    pending := ∅
    reader := .closed
    calls := s.deliver (fun i => s.pending.entries.any (·.2 = i)) .disconnected }

def step (s : Broker) : BrokerEvent → Broker
  | .sendRequest | .sendAndDetectFailure => { s with calls := s.calls ++ [.queued] }
  | .sendMessageNoWait message =>
    { s with
      drawn := message.elim s.drawn s.drawn.erase
      calls := s.calls ++ [.noWaitQueued message] }
  | .nextSequence => { s with nextSeq := s.nextSeq + 1, drawn := s.nextSeq :: s.drawn }
  | .advance i ok => s.calls[i]?.elim s (s.advance i ok)
  | .elapse i => s.calls[i]?.elim s (s.elapse i)
  | .respond response => if s.reader = .reading then s.handleResponse response else s
  | .disconnect => if s.reader = .reading then { s with reader := .closing } else s
  | .drain => if s.reader = .closing then s.drain else s

end Broker

end Detrix.Dap
