/-
**The event counters of the agent process.**

A forwarder collects the events of one connection in a batch, hands the batch to the event channel of
its reconnect cycle without waiting, and counts. Three of the counters belong to the process; the
dropped events are counted by the cycle, whose counter is not the one that is exposed. A forwarder that
is aborted while it collects gives back its share of the gauge, and its batch is gone.

- `moved`: where the events of a forwarder are after each of its steps, and what its guard owns.
- `balance_step`: a step makes `lost` more events disappear from the balance, and none comes back; the
  gauge is what the guards of the forwarders own, at every moment.
- `counters_reconcile_iff_lossless`: the exposed counters add up exactly as long as no batch was refused
  by a channel and none was dropped with its forwarder.
-/

import Detrix.Library.Interleaving
import Detrix.Library.Run

namespace Detrix.AgentProcess.Forwarding

open Library Run List

/-! ### The agent -/

inductive Stage where
  /-- It waits for an event, for the end of the stream or for the deadline. It can be aborted here. -/
  | collecting
  | counted
  | ready
  /-- The batch has been forwarded or dropped, and counted so; the guard still owns its share. -/
  | accounted
  | ended
  deriving DecidableEq

/-- A task of `spawn_event_forwarder`. -/
structure Forwarder where
  /-- The cycle whose channel and drop counter it has. -/
  cycle : Nat
  stage : Stage
  /-- The number of events in `batch`. -/
  batch : Nat
  /-- The count of the `InFlightBatch` guard. -/
  count : Nat
  streamClosed : Bool

/-- What a turn of the reconnect loop of `Agent::run` makes: an event channel and a counter. -/
structure Cycle where
  queued : Nat
  isOpen : Bool
  eventsDropped : Nat
  deriving DecidableEq

/-- `MetricsState`, as far as events of the forwarding stage are concerned. -/
structure MetricsState where
  eventsReceived : Nat
  eventsInFlight : Nat
  eventsForwarded : Nat
  eventsDropped : Nat
  deriving DecidableEq

structure Agent where
  metrics : MetricsState
  cycles : List Cycle
  forwarders : List Forwarder

def Agent.start : Agent := ⟨⟨0, 0, 0, 0⟩, [], []⟩

def channelCapacity : Nat := 1024

def batchSize : Nat := 64

namespace Forwarder

def spawn (cycle : Nat) : Forwarder := ⟨cycle, .collecting, 0, 0, false⟩

/-- The end of a turn of the loop: the guard is dropped, and a closed stream ends the task. -/
def nextTurn (f : Forwarder) : Forwarder :=
  { f with stage := if f.streamClosed then .ended else .collecting, batch := 0, count := 0 }

end Forwarder

open Forwarder

/-- `try_send` would succeed on the channel of a cycle. -/
def Cycle.accepts (c : Cycle) : Bool := c.isOpen && decide (c.queued < channelCapacity)

inductive Move where
  | receive
  | addOne
  | deadline
  | streamEnds
  /-- `forward_batch`. -/
  | forwardBatch
  | releaseAll
  /-- The abort that a connection's closing or replacement has asked for takes effect. -/
  | abort

inductive Event where
  /-- The reconnect loop takes another turn. -/
  | reconnect
  | drain (cycle : Nat)
  | disconnect (cycle : Nat)
  | spawn (cycle : Nat)
  | forwarder (i : Nat) (move : Move)

namespace Agent

variable (a : Agent)

def forwarder (i : Nat) (f : Forwarder) (metrics : MetricsState) : Agent :=
  { a with metrics := metrics, forwarders := a.forwarders.set i f }

def cycle (c : Nat) (cycle : Cycle) : Agent := { a with cycles := a.cycles.set c cycle }

def accepts (f : Forwarder) : Bool := (a.cycles[f.cycle]?.map Cycle.accepts).getD false

def countDropped (c n : Nat) : Agent :=
  match a.cycles[c]? with
  | none => a
  | some cycle => a.cycle c { cycle with eventsDropped := cycle.eventsDropped + n }

def enqueue (c : Nat) : Agent :=
  match a.cycles[c]? with
  | none => a
  | some cycle => a.cycle c { cycle with queued := cycle.queued + 1 }

/-- The gauge without what a forwarder's guard owns. -/
def released (f : Forwarder) : MetricsState :=
  { a.metrics with eventsInFlight := a.metrics.eventsInFlight - f.count }

/-- What a forwarder does with its batch: an empty one is not sent, and nothing is waited for. -/
def forwardBatch (i : Nat) (f : Forwarder) : Agent :=
  if f.batch = 0 then a.forwarder i f.nextTurn (a.released f)
  else if a.accepts f then
    (a.enqueue f.cycle).forwarder i { f with stage := .accounted, batch := 0 }
      { a.metrics with eventsForwarded := a.metrics.eventsForwarded + f.batch }
  else (a.countDropped f.cycle f.batch).forwarder i { f with stage := .accounted, batch := 0 } a.metrics

def addOne (i : Nat) (f : Forwarder) : Agent :=
  a.forwarder i
    { f with
      stage := if batchSize ≤ f.batch + 1 then .ready else .collecting
      batch := f.batch + 1
      count := f.count + 1 }
    { a.metrics with eventsInFlight := a.metrics.eventsInFlight + 1 }

def move (i : Nat) (f : Forwarder) : Move → Agent
  | .receive =>
    if f.stage = .collecting then
      a.forwarder i { f with stage := .counted }
        { a.metrics with eventsReceived := a.metrics.eventsReceived + 1 }
    else a
  | .addOne => if f.stage = .counted then a.addOne i f else a
  | .deadline =>
    if f.stage = .collecting then a.forwarder i { f with stage := .ready } a.metrics else a
  | .streamEnds =>
    if f.stage = .collecting then
      a.forwarder i { f with stage := .ready, streamClosed := true } a.metrics
    else a
  | .forwardBatch => if f.stage = .ready then a.forwardBatch i f else a
  | .releaseAll =>
    if f.stage = .accounted then a.forwarder i f.nextTurn (a.released f) else a
  | .abort =>
    -- The batch is dropped with the task, and so is the guard.
    if f.stage = .collecting then
      a.forwarder i { f with stage := .ended, batch := 0, count := 0 } (a.released f)
    else a

def step (a : Agent) : Event → Agent
  | .reconnect => { a with cycles := a.cycles ++ [⟨0, true, 0⟩] }
  | .drain c =>
    match a.cycles[c]? with
    | none => a
    | some cycle => a.cycle c { cycle with queued := cycle.queued - 1 }
  | .disconnect c =>
    match a.cycles[c]? with
    | none => a
    | some cycle => a.cycle c { cycle with isOpen := false }
  | .spawn c =>
    if c < a.cycles.length then { a with forwarders := a.forwarders ++ [.spawn c] } else a
  | .forwarder i move =>
    match a.forwarders[i]? with
    | none => a
    | some f => a.move i f move

end Agent

open Agent

/-! ### What a step loses -/

/-- The events that a step of a forwarder makes disappear from the exposed counters. -/
def Agent.lostBy (a : Agent) (f : Forwarder) : Move → Nat
  | .forwardBatch => if f.stage = .ready ∧ a.accepts f = false then f.batch else 0
  | .abort => if f.stage = .collecting then f.batch else 0
  | _ => 0

def Agent.lost (a : Agent) : Event → Nat
  | .forwarder i move => (a.forwarders[i]?.map fun f => a.lostBy f move).getD 0
  | _ => 0

/-- No batch is refused by the channel, which is full or closed, and none is dropped with its
forwarder. -/
def Lossless (a : Agent) : Event → Prop
  | .forwarder i .forwardBatch =>
    ∀ f ∈ a.forwarders[i]?, f.stage = .ready → f.batch ≠ 0 → a.accepts f = true
  | .forwarder i .abort => ∀ f ∈ a.forwarders[i]?, f.stage = .collecting → f.batch = 0
  | _ => True

instance (a : Agent) (event : Event) : Decidable (Lossless a event) := by
  unfold Lossless
  split <;> infer_instance

theorem lost_eq_zero_iff (a : Agent) (event : Event) : a.lost event = 0 ↔ Lossless a event := by
  cases event with
  | forwarder i move =>
    show ((a.forwarders[i]?.map fun f => a.lostBy f move).getD 0 = 0) ↔ _
    cases move with
    | forwardBatch =>
      show _ ↔ ∀ f ∈ a.forwarders[i]?, f.stage = .ready → f.batch ≠ 0 → a.accepts f = true
      cases a.forwarders[i]? with
      | none => simp
      | some f => cases ok : a.accepts f <;> simp [lostBy, ok]
    | abort =>
      show _ ↔ ∀ f ∈ a.forwarders[i]?, f.stage = .collecting → f.batch = 0
      cases a.forwarders[i]? <;> simp [lostBy]
    | _ =>
      refine ⟨fun _ => trivial, fun _ => ?_⟩
      cases a.forwarders[i]? <;> rfl
  | _ => exact ⟨fun _ => trivial, fun _ => rfl⟩

/-! ### One step of a forwarder -/

/-- The events a forwarder has received and not yet passed on. -/
def Forwarder.held (f : Forwarder) : Nat := f.batch + if f.stage = .counted then 1 else 0

/-- The guard owns the events of the batch, except between the forwarding and the release; a task that
has ended has neither. -/
structure Forwarder.Sound (f : Forwarder) : Prop where
  owns : f.stage ≠ .accounted → f.count = f.batch
  emptied : f.stage = .accounted ∨ f.stage = .ended → f.batch = 0

/-- What the step of a forwarder does: which events are where, and what the guard owns. -/
structure Moved (a : Agent) (i : Nat) (f : Forwarder) (lost : Nat) (a' : Agent) (g : Forwarder) :
    Prop where
  forwarders : a'.forwarders = a.forwarders.set i g
  received : a'.metrics.eventsReceived + f.held + a.metrics.eventsForwarded =
    a.metrics.eventsReceived + g.held + a'.metrics.eventsForwarded + lost
  inFlight : f.count ≤ a.metrics.eventsInFlight →
    a'.metrics.eventsInFlight + f.count = a.metrics.eventsInFlight + g.count
  dropped : a'.metrics.eventsDropped = a.metrics.eventsDropped
  sound : f.Sound → g.Sound

section Moves

variable {a : Agent} {i : Nat} {f : Forwarder}

theorem enqueue_eq (a : Agent) (c : Nat) : ∃ cycles, a.enqueue c = { a with cycles := cycles } := by
  unfold enqueue
  split
  · exact ⟨a.cycles, rfl⟩
  · exact ⟨_, rfl⟩

theorem countDropped_eq (a : Agent) (c n : Nat) :
    ∃ cycles, a.countDropped c n = { a with cycles := cycles } := by
  unfold countDropped
  split
  · exact ⟨a.cycles, rfl⟩
  · exact ⟨_, rfl⟩

theorem Moved.none (known : a.forwarders[i]? = some f) : Moved a i f 0 a f where
  forwarders := by
    obtain ⟨mem, isF⟩ := List.getElem?_eq_some_iff.mp known
    rw [← isF, set_getElem_self]
  received := rfl
  inFlight := fun _ => rfl
  dropped := rfl
  sound := id

theorem nextTurn_sound (f : Forwarder) : f.nextTurn.Sound := ⟨fun _ => rfl, fun _ => rfl⟩

theorem nextTurn_held (f : Forwarder) : f.nextTurn.held = 0 := by
  cases closed : f.streamClosed <;> simp [nextTurn, held, closed]

/-- The guard gives back its share of the gauge, and the batch is not with the forwarder any more. -/
theorem moved_released {g : Forwarder} (sound : g.Sound) (nothing : g.held = 0) (none : g.count = 0) :
    Moved a i f f.held (a.forwarder i g (a.released f)) g where
  forwarders := rfl
  received := by
    show a.metrics.eventsReceived + f.held + a.metrics.eventsForwarded =
      a.metrics.eventsReceived + g.held + a.metrics.eventsForwarded + f.held
    omega
  inFlight := fun within => by
    show a.metrics.eventsInFlight - f.count + f.count = a.metrics.eventsInFlight + g.count
    omega
  dropped := rfl
  sound := fun _ => sound

theorem moved_nextTurn (empty : f.held = 0) :
    Moved a i f 0 (a.forwarder i f.nextTurn (a.released f)) f.nextTurn := by
  have moved : Moved a i f f.held _ f.nextTurn :=
    moved_released (nextTurn_sound f) (nextTurn_held f) rfl
  rwa [empty] at moved

theorem moved_forwardBatch (ready : f.stage = .ready) :
    ∃ g, Moved a i f (if a.accepts f = false then f.batch else 0) (a.forwardBatch i f) g := by
  have heldIs : f.held = f.batch := by simp [held, ready]
  by_cases empty : f.batch = 0
  · have noLoss : (if a.accepts f = false then f.batch else 0) = 0 := by simp [empty]
    rw [forwardBatch, if_pos empty, noLoss]
    exact ⟨f.nextTurn, moved_nextTurn (heldIs.trans empty)⟩
  · rw [forwardBatch, if_neg empty]
    refine ⟨{ f with stage := .accounted, batch := 0 }, ?_⟩
    have sound : ({ f with stage := .accounted, batch := 0 } : Forwarder).Sound :=
      ⟨fun other => absurd rfl other, fun _ => rfl⟩
    cases ok : a.accepts f with
    | true =>
      obtain ⟨cycles, enqueued⟩ := enqueue_eq a f.cycle
      rw [if_pos rfl, if_neg (by decide), enqueued]
      refine ⟨rfl, ?_, fun _ => rfl, rfl, fun _ => sound⟩
      show a.metrics.eventsReceived + f.held + a.metrics.eventsForwarded =
        a.metrics.eventsReceived + 0 + (a.metrics.eventsForwarded + f.batch) + 0
      omega
    | false =>
      obtain ⟨cycles, counted⟩ := countDropped_eq a f.cycle f.batch
      rw [if_pos rfl, if_neg (by decide), counted]
      refine ⟨rfl, ?_, fun _ => rfl, rfl, fun _ => sound⟩
      show a.metrics.eventsReceived + f.held + a.metrics.eventsForwarded =
        a.metrics.eventsReceived + 0 + a.metrics.eventsForwarded + f.batch
      omega

theorem moved_addOne (counted : f.stage = .counted) : ∃ g, Moved a i f 0 (a.addOne i f) g := by
  refine ⟨_, rfl, ?_, fun _ => ?_, rfl, fun sound => ⟨fun _ => ?_, fun emptied => ?_⟩⟩
  · -- The event was held outside the batch, and is held in it now.
    have was : f.held = f.batch + 1 := by simp [held, counted]
    have now : (if batchSize ≤ f.batch + 1 then Stage.ready else .collecting) ≠ .counted := by
      split <;> nofun
    show a.metrics.eventsReceived + f.held + a.metrics.eventsForwarded =
      a.metrics.eventsReceived + (f.batch + 1 + if _ then 1 else 0) + a.metrics.eventsForwarded + 0
    rw [if_neg now, was]
    rfl
  · show a.metrics.eventsInFlight + 1 + f.count = a.metrics.eventsInFlight + (f.count + 1)
    omega
  · have same : f.count = f.batch := sound.owns (by rw [counted]; decide)
    rw [same]
  · have other : ¬ ((if batchSize ≤ f.batch + 1 then Stage.ready else .collecting) = .accounted ∨
        (if batchSize ≤ f.batch + 1 then Stage.ready else .collecting) = .ended) := by
      split <;> decide
    exact absurd emptied other

theorem moved_ready {closed : Bool} (was : f.stage = .collecting) :
    Moved a i f 0 (a.forwarder i { f with stage := .ready, streamClosed := closed } a.metrics)
      { f with stage := .ready, streamClosed := closed } where
  forwarders := rfl
  received := by
    have heldIs : f.held = f.batch := by simp [held, was]
    rw [heldIs]
    rfl
  inFlight := fun _ => rfl
  dropped := rfl
  sound := fun sound =>
    ⟨fun _ => sound.owns (by rw [was]; decide), fun emptied => emptied.elim nofun nofun⟩

theorem moved_receive (was : f.stage = .collecting) :
    Moved a i f 0
      (a.forwarder i { f with stage := .counted }
        { a.metrics with eventsReceived := a.metrics.eventsReceived + 1 })
      { f with stage := .counted } where
  forwarders := rfl
  received := by
    have before : f.held = f.batch := by simp [held, was]
    show a.metrics.eventsReceived + 1 + f.held + a.metrics.eventsForwarded =
      a.metrics.eventsReceived + (f.batch + 1) + a.metrics.eventsForwarded + 0
    omega
  inFlight := fun _ => rfl
  dropped := rfl
  sound := fun sound => ⟨fun _ => sound.owns (by rw [was]; decide), fun emptied => emptied.elim nofun nofun⟩

/-- **One step of a forwarder.** -/
theorem moved (sound : f.Sound) (known : a.forwarders[i]? = some f) (move : Move) :
    ∃ g, Moved a i f (a.lostBy f move) (a.move i f move) g := by
  cases move with
  | receive =>
    by_cases was : f.stage = .collecting
    · rw [move, if_pos was]
      exact ⟨_, moved_receive was⟩
    · rw [move, if_neg was]
      exact ⟨f, .none known⟩
  | addOne =>
    by_cases was : f.stage = .counted
    · rw [move, if_pos was]
      exact moved_addOne was
    · rw [move, if_neg was]
      exact ⟨f, .none known⟩
  | deadline | streamEnds =>
    by_cases was : f.stage = .collecting
    · rw [move, if_pos was]
      exact ⟨_, moved_ready was⟩
    · rw [move, if_neg was]
      exact ⟨f, .none known⟩
  | forwardBatch =>
    by_cases was : f.stage = .ready
    · simp only [move, lostBy, was, true_and, if_true]
      exact moved_forwardBatch was
    · simp only [move, lostBy, was, false_and, if_false]
      exact ⟨f, .none known⟩
  | releaseAll =>
    by_cases was : f.stage = .accounted
    · rw [move, if_pos was]
      have empty : f.held = 0 := by simp [held, was, sound.emptied (.inl was)]
      exact ⟨_, moved_nextTurn empty⟩
    · rw [move, if_neg was]
      exact ⟨f, .none known⟩
  | abort =>
    by_cases was : f.stage = .collecting
    · have heldIs : f.held = f.batch := by simp [held, was]
      rw [move, lostBy, if_pos was, if_pos was, ← heldIs]
      exact ⟨_, moved_released ⟨fun _ => rfl, fun _ => rfl⟩ rfl rfl⟩
    · rw [move, lostBy, if_neg was, if_neg was]
      exact ⟨f, .none known⟩

end Moves

/-! ### Every step -/

/-- The events that were received and are neither counted as forwarded nor with a forwarder. -/
def Agent.missing (a : Agent) : Int :=
  a.metrics.eventsReceived - a.metrics.eventsForwarded - Calls.sumOf held a.forwarders

structure Agent.Sound (a : Agent) : Prop where
  forwarders : Calls.Every (fun _ f => f.Sound) a.forwarders
  gauge : a.metrics.eventsInFlight = Calls.sumOf count a.forwarders
  dropped : a.metrics.eventsDropped = 0

section Steps

variable {a a' : Agent} {i : Nat} {f g : Forwarder} {lost : Nat}

theorem Moved.missing (moved : Moved a i f lost a' g) (known : a.forwarders[i]? = some f) :
    a'.missing = a.missing + lost := by
  have sums := Calls.sumOf_set held g known
  have got := moved.received
  unfold Agent.missing
  rw [moved.forwarders]
  omega

theorem Moved.agent_sound (moved : Moved a i f lost a' g) (known : a.forwarders[i]? = some f)
    (sound : a.Sound) : a'.Sound where
  forwarders := by
    rw [moved.forwarders]
    exact sound.forwarders.set (moved.sound (sound.forwarders i f known)) fun _ _ _ _ kept => kept
  gauge := by
    have sums := Calls.sumOf_set count g known
    have within : f.count ≤ a.metrics.eventsInFlight := by
      rw [sound.gauge]
      exact Calls.le_sumOf known
    have gauge := moved.inFlight within
    have was := sound.gauge
    rw [moved.forwarders]
    omega
  dropped := moved.dropped.trans sound.dropped

theorem same_balance (metrics : a'.metrics = a.metrics) (forwarders : a'.forwarders = a.forwarders)
    (sound : a.Sound) : a'.missing = a.missing ∧ a'.Sound := by
  refine ⟨by unfold missing; rw [metrics, forwarders], ?_, ?_, ?_⟩
  · rw [forwarders]
    exact sound.forwarders
  · rw [metrics, forwarders]
    exact sound.gauge
  · rw [metrics]
    exact sound.dropped

/-- **One step of the agent**: so many more events are missing as the step loses. -/
theorem balance_step (sound : a.Sound) (event : Event) :
    (a.step event).missing = a.missing + (a.lost event : Int) ∧ (a.step event).Sound := by
  cases event with
  | forwarder i move =>
    simp only [step, lost]
    cases known : a.forwarders[i]? with
    | none => exact ⟨(Int.add_zero _).symm, sound⟩
    | some f =>
      obtain ⟨g, moved⟩ := moved (sound.forwarders i f known) known move
      exact ⟨moved.missing known, moved.agent_sound known sound⟩
  | spawn c =>
    simp only [step, lost, Int.natCast_zero, Int.add_zero]
    split
    · refine ⟨?_, ?_, ?_, sound.dropped⟩
      · show _ - _ - ((Calls.sumOf held (a.forwarders ++ [.spawn c]) : Nat) : Int) = _
        rw [Calls.sumOf_append]
        rfl
      · exact sound.forwarders.append ⟨fun _ => rfl, fun _ => rfl⟩ fun _ _ _ kept => kept
      · rw [Calls.sumOf_append]
        exact sound.gauge
    · exact ⟨rfl, sound⟩
  | reconnect =>
    simp only [step, lost, Int.natCast_zero, Int.add_zero]
    exact same_balance rfl rfl sound
  | drain c | disconnect c =>
    simp only [step, lost, Int.natCast_zero, Int.add_zero]
    split <;> exact same_balance rfl rfl sound

end Steps

/-! ### Runs -/

theorem start_sound : start.Sound := ⟨nofun, rfl, rfl⟩

theorem sound_step (a : Agent) (event : Event) (sound : a.Sound) : (a.step event).Sound :=
  (balance_step sound event).2

variable (events : List Event)

theorem sound_after : (after step .start events).Sound :=
  invariant_always step sound_step events _ start_sound

theorem missing_iff_lossless : (after step .start events).missing = 0 ↔
      Run.Allowed step Lossless .start events := by
  refine unchanged_iff_allowed step sound_step (fun a event sound => ?_)
    (fun a event sound => ?_) events .start start_sound
  · have balance := (balance_step sound event).1
    omega
  · have balance := (balance_step sound event).1
    rw [← lost_eq_zero_iff]
    omega

/-- No forwarder is between two updates of the counters. -/
def Agent.Settled (a : Agent) : Prop :=
  ∀ f ∈ a.forwarders, f.stage ≠ .counted ∧ f.stage ≠ .accounted

instance (a : Agent) : Decidable a.Settled := by
  unfold Agent.Settled
  infer_instance

/-- `events_received = events_forwarded + events_dropped + events_in_flight`, of what is exposed. -/
def MetricsState.Reconciled (m : MetricsState) : Prop :=
  m.eventsReceived = m.eventsForwarded + m.eventsDropped + m.eventsInFlight

instance (m : MetricsState) : Decidable m.Reconciled := by
  unfold MetricsState.Reconciled
  infer_instance

/-- Between the updates, the gauge shows what the forwarders hold. -/
theorem gauge_eq_held {a : Agent} (sound : a.Sound) (done : a.Settled) :
    a.metrics.eventsInFlight = Calls.sumOf held a.forwarders := by
  rw [sound.gauge]
  refine Calls.sumOf_congr _ fun i f found => ?_
  obtain ⟨notCounted, notAccounted⟩ := done f (mem_of_getElem? found)
  rw [(sound.forwarders i f found).owns notAccounted, held, if_neg notCounted, Nat.add_zero]

/-- **The exposed counters add up exactly as long as no event was lost**, and the gauge is back at zero
when every forwarder has ended. -/
theorem counters_reconcile_iff_lossless (events : List Event) :
    ((Run.after step .start events).Settled →
      ((Run.after step .start events).metrics.Reconciled ↔
        Run.Allowed step Lossless .start events)) ∧
    ((∀ f ∈ (Run.after step .start events).forwarders, f.stage = .ended) →
      (Run.after step .start events).metrics.eventsInFlight = 0) := by
  have sound := sound_after events
  constructor
  · intro done
    have gauge := gauge_eq_held sound done
    have dropped := sound.dropped
    rw [← missing_iff_lossless events]
    unfold MetricsState.Reconciled missing
    omega
  · intro ended
    rw [sound.gauge, Calls.sumOf_congr count ?_, Calls.sumOf_zero]
    intro i f found
    have isEnded := ended f (mem_of_getElem? found)
    rw [(sound.forwarders i f found).owns (by rw [isEnded]; decide)]
    exact (sound.forwarders i f found).emptied (.inr isEnded)

theorem reconciled_after_two_events :
    let run : List Event := [.reconnect, .spawn 0, .forwarder 0 .receive, .forwarder 0 .addOne,
      .forwarder 0 .receive, .forwarder 0 .addOne, .forwarder 0 .deadline, .forwarder 0 .forwardBatch,
      .forwarder 0 .releaseAll]
    (after step .start run).metrics = ⟨2, 0, 2, 0⟩ ∧
      (after step .start run).metrics.Reconciled :=
  ⟨by decide, ((counters_reconcile_iff_lossless _).1 (by decide)).mpr (by decide)⟩

/-- A connection that is closed while it collects, and one whose cycle has ended: the events of both are
gone from the counters. -/
theorem aborted_and_refused_batches :
    let closed : List Event := [.reconnect, .spawn 0, .forwarder 0 .receive, .forwarder 0 .addOne,
      .forwarder 0 .abort]
    let no : List Event := [.reconnect, .spawn 0, .forwarder 0 .receive, .forwarder 0 .addOne,
      .forwarder 0 .deadline, .disconnect 0, .forwarder 0 .forwardBatch, .forwarder 0 .releaseAll]
    ((after step .start closed).Settled ∧
      (after step .start closed).metrics = ⟨1, 0, 0, 0⟩ ∧
      ¬ (after step .start closed).metrics.Reconciled) ∧
    ((after step .start no).Settled ∧
      (after step .start no).metrics = ⟨1, 0, 0, 0⟩ ∧
      (after step .start no).cycles = [⟨0, false, 1⟩] ∧
      ¬ (after step .start no).metrics.Reconciled) := by
  decide

end Detrix.AgentProcess.Forwarding
