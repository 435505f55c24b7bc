/-
**The event buffer.**

`process_event` pushes events into the buffer and drops the oldest ones when it is full; the flush
task, `flush_events` and `stop_all` drain it and hand the batch to `capture_events`, and to
`save_to_dlq` if that fails. The steps interleave at every lock and every call to the storage.

`accounted_after`: in every run each event is in exactly one place: in the buffer, in the hands of a
flusher, captured, dead-lettered, dropped by the overflow rule, or lost with the flush task.

`buffered_events_kept`: nothing is lost, and the tasks run whenever an adapter is registered, in every
run in which `stop_all` aborts the flush task only while that has nothing in its hands and no adapter
is registered, and returns only while no other flusher has events in its hands, and in which adapters
are registered only while both tasks run. Otherwise: `aborted_flush_loses_events`.
-/

import Detrix.Core.Metric
import Detrix.Library.Interleaving
import Detrix.Library.Run
import Mathlib.Data.Multiset.Range
import Mathlib.Tactic.Abel

namespace Detrix.Lifecycle

open Detrix.Core Library Calls Multiset Run Nat

/-! ### The state -/

/-- An event is named by the number of its push. -/
abbrev EventNumber : Type := Nat

inductive FlushPc where
  | draining
  | capturing (batch : List EventNumber)
  | deadLettering (batch : List EventNumber)
  deriving DecidableEq

def FlushPc.hand : FlushPc → List EventNumber
  | .draining => []
  | .capturing batch | .deadLettering batch => batch

inductive FlushTask where
  | waiting
  | flushing (pc : FlushPc)
  /-- It was aborted or never spawned. -/
  | stopped
  deriving DecidableEq

def FlushTask.hand : FlushTask → List EventNumber
  | .flushing pc => pc.hand
  | _ => []

inductive StopAllPc where
  | collecting
  | stopping (connections : List ConnectionId)
  | flushing (pc : FlushPc)
  | abortFlush
  | abortCleanup
  deriving DecidableEq

/-- A call of `flush_events` or of `stop_all`; the latter has noted how many events were pushed before
it began. -/
inductive FlushCall where
  | flush (pc : FlushPc)
  | stopAll (before : Nat) (pc : StopAllPc)
  | flushed
  | stoppedAll (before : Nat)
  deriving DecidableEq

open FlushCall

/-- Where a call of `stop_all` stands. -/
def FlushCall.stopsAt : FlushCall → Option StopAllPc
  | .stopAll _ pc => some pc
  | _ => none

def FlushCall.hand : FlushCall → Multiset EventNumber
  | .flush pc | .stopAll _ (.flushing pc) => pc.hand
  | _ => 0

structure Buffering where
  pushed : Nat
  buffer : List EventNumber
  captured : List EventNumber
  deadLettered : List EventNumber
  overflowed : List EventNumber
  /-- The events that were in the hands of the flush task when it was aborted. -/
  lost : List EventNumber
  flushTask : FlushTask
  cleanupRunning : Bool
  registered : List ConnectionId
  calls : List FlushCall

namespace Buffering

/-- The flush task is spawned if an interval is configured. -/
def new (flushIntervalMs : Nat) : Buffering where
  pushed := 0
  buffer := []
  captured := []
  deadLettered := []
  overflowed := []
  lost := []
  flushTask := if flushIntervalMs > 0 then .waiting else .stopped
  cleanupRunning := true
  registered := []
  calls := []

variable (s : Buffering)

/-! ### Steps -/

/-- `process_event`: the oldest events are dropped if the buffer is full. -/
def processEvent (maxBufferSize : Nat) : Buffering :=
  let drops := if s.buffer.length ≥ maxBufferSize then s.buffer.length - maxBufferSize + 1 else 0
  { s with
    pushed := s.pushed + 1
    buffer := s.buffer.drop drops ++ [s.pushed]
    overflowed := s.overflowed ++ s.buffer.take drops }

/-- `flush_buffer_static`; `ok` is whether the events could be captured. -/
def flushStep (ok : Bool) : FlushPc → Buffering × Option FlushPc
  | .draining =>
    if s.buffer = [] then (s, none) else ({ s with buffer := [] }, some (.capturing s.buffer))
  | .capturing batch =>
    if ok then ({ s with captured := s.captured ++ batch }, none)
    else (s, some (.deadLettering batch))
  | .deadLettering batch => ({ s with deadLettered := s.deadLettered ++ batch }, none)

/-- The timer of the flush task has ticked, or a flush was requested. -/
def tick : Buffering :=
  match s.flushTask with
  | .waiting => { s with flushTask := .flushing .draining }
  | .flushing _ | .stopped => s

def taskStep (ok : Bool) : Buffering :=
  match s.flushTask with
  | .flushing pc =>
    let (t, next) := s.flushStep ok pc
    { t with flushTask := next.elim .waiting .flushing }
  | .waiting | .stopped => s

def abortFlush : Buffering :=
  { s with lost := s.lost ++ s.flushTask.hand, flushTask := .stopped }

def callStep (ok : Bool) : FlushCall → Buffering × FlushCall
  | .flush pc =>
    let (t, next) := s.flushStep ok pc
    (t, next.elim .flushed .flush)
  | .stopAll before .collecting => (s, .stopAll before (.stopping s.registered))
  | .stopAll before (.stopping (connection :: rest)) =>
    ({ s with registered := s.registered.filter (· ≠ connection) }, .stopAll before (.stopping rest))
  | .stopAll before (.stopping []) => (s, .stopAll before (.flushing .draining))
  | .stopAll before (.flushing pc) =>
    let (t, next) := s.flushStep ok pc
    (t, .stopAll before (next.elim .abortFlush .flushing))
  | .stopAll before .abortFlush => (s.abortFlush, .stopAll before .abortCleanup)
  | .stopAll before .abortCleanup => ({ s with cleanupRunning := false }, .stoppedAll before)
  | .flushed => (s, .flushed)
  | .stoppedAll before => (s, .stoppedAll before)

end Buffering

inductive BufferEvent where
  | push
  | tick
  | task (ok : Bool)
  | flushEvents
  | stopAll
  | advance (call : Nat) (ok : Bool)
  | register (connection : ConnectionId)
  | unregister (connection : ConnectionId)

variable {i maxBufferSize : Nat} {ok : Bool} {call : FlushCall} {t : Buffering}

namespace Buffering

def step (maxBufferSize : Nat) (s : Buffering) : BufferEvent → Buffering
  | .push => s.processEvent maxBufferSize
  | .tick => s.tick
  | .task ok => s.taskStep ok
  | .flushEvents => { s with calls := s.calls ++ [.flush .draining] }
  | .stopAll => { s with calls := s.calls ++ [.stopAll s.pushed .collecting] }
  | .advance i ok =>
    match s.calls[i]? with
    | some call =>
      let (t, next) := s.callStep ok call
      { t with calls := t.calls.set i next }
    | none => s
  | .register connection =>
    { s with registered := connection :: s.registered.filter (· ≠ connection) }
  | .unregister connection => { s with registered := s.registered.filter (· ≠ connection) }

theorem step_advance {s : Buffering} (known : s.calls[i]? = some call) :
    s.step maxBufferSize (.advance i ok) =
      { (s.callStep ok call).1 with
        calls := (s.callStep ok call).1.calls.set i (s.callStep ok call).2 } := by
  simp [step, known]

theorem step_missing {s : Buffering} (missing : s.calls[i]? = none) :
    s.step maxBufferSize (.advance i ok) = s := by
  simp only [step, missing]

/-! ### Each event is in one place -/

variable (s : Buffering)

def inHands : Multiset EventNumber := s.flushTask.hand + total hand s.calls

/-- The events that were captured, dead-lettered or dropped by the overflow rule. -/
def settled : Multiset EventNumber := s.captured + s.deadLettered + s.overflowed

/-- **Each event that was pushed is in exactly one place.** -/
def Accounted : Prop :=
  range s.pushed = s.buffer + s.inHands + s.settled + s.lost

variable {s : Buffering}

def handOf : Option FlushPc → List EventNumber
  | some pc => pc.hand
  | none => []

/-- A step of a flusher moves events between the buffer, its hands and the storage, and leaves the
rest alone. -/
theorem flushStep_moves (ok : Bool) (pc : FlushPc) :
    ∃ buffer captured deadLettered, (s.flushStep ok pc).1 = { s with buffer, captured, deadLettered } ∧
      buffer ⊆ s.buffer ∧ s.captured ⊆ captured ∧ s.deadLettered ⊆ deadLettered ∧
      (buffer + handOf (s.flushStep ok pc).2 + (captured + deadLettered) : Multiset EventNumber) =
        s.buffer + pc.hand + (s.captured + s.deadLettered) := by
  cases pc with
  | draining =>
    by_cases empty : s.buffer = []
    · refine ⟨s.buffer, s.captured, s.deadLettered, ?_, fun _ => id, fun _ => id, fun _ => id, ?_⟩ <;>
        rw [flushStep, if_pos empty]
      rfl
    · refine ⟨[], s.captured, s.deadLettered, ?_, nofun, fun _ => id, fun _ => id, ?_⟩ <;>
        rw [flushStep, if_neg empty]
      simp [handOf, FlushPc.hand]
  | capturing batch =>
    cases ok with
    | true =>
      refine ⟨s.buffer, s.captured ++ batch, s.deadLettered, rfl, fun _ => id,
        List.subset_append_left _ _, fun _ => id, ?_⟩
      simp only [flushStep, handOf, FlushPc.hand, if_true, ← coe_add, coe_nil]
      abel
    | false => exact ⟨s.buffer, s.captured, s.deadLettered, rfl, fun _ => id, fun _ => id, fun _ => id, rfl⟩
  | deadLettering batch =>
    refine ⟨s.buffer, s.captured, s.deadLettered ++ batch, rfl, fun _ => id, fun _ => id,
      List.subset_append_left _ _, ?_⟩
    simp only [flushStep, handOf, FlushPc.hand, ← coe_add, coe_nil]
    abel

/-- What a flusher has in its hands, the buffer and the rest together stay the same. -/
structure Balanced (s t : Buffering) (held holds : Multiset EventNumber) : Prop where
  calls : t.calls = s.calls
  pushed : t.pushed = s.pushed
  moved : t.buffer + holds + (t.flushTask.hand + t.settled + t.lost) =
    s.buffer + held + (s.flushTask.hand + s.settled + s.lost)

namespace Accounted

theorem new (flushIntervalMs : Nat) : (new flushIntervalMs).Accounted := by
  have idle : (Buffering.new flushIntervalMs).flushTask.hand = [] := by
    unfold Buffering.new
    split <;> rfl
  unfold Accounted inHands
  rw [idle]
  rfl

section
variable (accounted : s.Accounted)
include accounted

theorem processEvent (maxBufferSize : Nat) : (s.processEvent maxBufferSize).Accounted := by
  unfold Buffering.processEvent
  generalize (if s.buffer.length ≥ maxBufferSize then s.buffer.length - maxBufferSize + 1 else 0) =
    drops
  have parts : (s.buffer : Multiset EventNumber) = s.buffer.take drops + s.buffer.drop drops := by
    rw [coe_add, List.take_append_drop]
  show range (s.pushed + 1) = ↑(s.buffer.drop drops ++ [s.pushed]) + s.inHands +
    (↑s.captured + ↑s.deadLettered + ↑(s.overflowed ++ s.buffer.take drops)) + ↑s.lost
  rw [range_succ, accounted, settled, parts, ← coe_add, ← coe_add, coe_singleton, ← singleton_add]
  abel

theorem tick : s.tick.Accounted := by
  unfold Buffering.tick
  split
  next waits =>
    unfold Accounted inHands at accounted ⊢
    rw [waits] at accounted
    exact accounted
  next => exact accounted
  next => exact accounted

theorem taskStep (ok : Bool) : (s.taskStep ok).Accounted := by
  unfold Buffering.taskStep
  split
  next pc flushes =>
    obtain ⟨buffer, captured, deadLettered, isStep, -, -, -, moved⟩ := flushStep_moves (s := s) ok pc
    have hand : FlushTask.hand ((s.flushStep ok pc).2.elim .waiting .flushing) =
        handOf (s.flushStep ok pc).2 := by
      cases (s.flushStep ok pc).2 <;> rfl
    unfold Accounted inHands settled at accounted ⊢
    rw [flushes, FlushTask.hand] at accounted
    dsimp only
    rw [isStep, hand]
    calc range s.pushed
      _ = ↑s.buffer + ↑pc.hand + (↑s.captured + ↑s.deadLettered) + total FlushCall.hand s.calls +
          ↑s.overflowed + ↑s.lost := by
        rw [accounted]
        abel
      _ = _ := by
        rw [← moved]
        abel
  next => exact accounted
  next => exact accounted

theorem append (idle : call.hand = 0) : Accounted { s with calls := s.calls ++ [call] } := by
  unfold Accounted inHands at accounted ⊢
  rw [total_append, idle, add_zero]
  exact accounted

theorem advance {next : FlushCall} (known : s.calls[i]? = some call)
    (balanced : Balanced s t call.hand next.hand) :
    Accounted { t with calls := t.calls.set i next } := by
  have hands := total_set hand next known
  unfold Accounted inHands at accounted ⊢
  show range t.pushed = ↑t.buffer + (↑t.flushTask.hand + total hand (t.calls.set i next)) +
    t.settled + ↑t.lost
  rw [balanced.pushed, balanced.calls]
  refine add_right_cancel (b := call.hand) ?_
  calc range s.pushed + call.hand
    _ = (↑s.buffer + call.hand + (↑s.flushTask.hand + s.settled + ↑s.lost)) +
        total hand s.calls := by
      rw [accounted]
      abel
    _ = ↑t.buffer + (↑t.flushTask.hand + t.settled + ↑t.lost) +
        (total hand s.calls + next.hand) := by
      rw [← balanced.moved]
      abel
    _ = _ := by
      rw [← hands]
      abel

end

end Accounted

theorem flushStep_balance (ok : Bool) (pc : FlushPc) :
    Balanced s (s.flushStep ok pc).1 pc.hand (handOf (s.flushStep ok pc).2) := by
  obtain ⟨buffer, captured, deadLettered, isStep, -, -, -, moved⟩ := flushStep_moves (s := s) ok pc
  rw [isStep]
  refine ⟨rfl, rfl, ?_⟩
  unfold settled
  calc (↑buffer + ↑(handOf (s.flushStep ok pc).2) + (↑s.flushTask.hand +
        (↑captured + ↑deadLettered + ↑s.overflowed) + ↑s.lost) : Multiset EventNumber)
    _ = ↑buffer + ↑(handOf (s.flushStep ok pc).2) + (↑captured + ↑deadLettered) +
        (↑s.flushTask.hand + ↑s.overflowed + ↑s.lost) := by abel
    _ = _ := by
      rw [moved]
      abel

/-- A step of a call moves events between its hands and the rest. -/
theorem callStep_balance (ok : Bool) (call : FlushCall) :
    Balanced s (s.callStep ok call).1 call.hand (s.callStep ok call).2.hand := by
  cases call with
  | flush pc =>
    have hand : hand ((s.flushStep ok pc).2.elim .flushed .flush) =
        handOf (s.flushStep ok pc).2 := by
      cases (s.flushStep ok pc).2 <;> rfl
    rw [callStep, hand]
    exact flushStep_balance ok pc
  | stopAll before pc =>
    cases pc with
    | collecting => exact ⟨rfl, rfl, rfl⟩
    | stopping conns => cases conns <;> exact ⟨rfl, rfl, rfl⟩
    | flushing pc =>
      have hand : hand (.stopAll before ((s.flushStep ok pc).2.elim .abortFlush .flushing)) =
          handOf (s.flushStep ok pc).2 := by
        cases (s.flushStep ok pc).2 <;> rfl
      rw [callStep, hand]
      exact flushStep_balance ok pc
    | abortFlush =>
      refine ⟨rfl, rfl, ?_⟩
      show (↑s.buffer + 0 + (0 + s.settled + ↑(s.lost ++ s.flushTask.hand)) : Multiset EventNumber) =
        ↑s.buffer + 0 + (↑s.flushTask.hand + s.settled + ↑s.lost)
      rw [← coe_add]
      abel
    | abortCleanup => exact ⟨rfl, rfl, rfl⟩
  | flushed | stoppedAll before => exact ⟨rfl, rfl, rfl⟩

/-! ### Nothing is lost -/

end Buffering

/-- `stop_all` has drained the buffer. -/
def StopAllPc.drained : StopAllPc → Bool
  | .collecting | .stopping _ | .flushing .draining => false
  | _ => true

/-- **`stop_all` aborts the flush task only while that has nothing in its hands and no adapter is
registered, and returns only while no flusher has events in its hands; adapters are registered only
while both tasks run.** -/
def Careful (s : Buffering) : BufferEvent → Prop
  | .advance i _ => ∀ call ∈ s.calls[i]?,
    (call.stopsAt = some .abortFlush → s.flushTask.hand = [] ∧ s.registered = []) ∧
      (call.stopsAt = some .abortCleanup → total hand s.calls = 0)
  | .register _ => s.flushTask ≠ .stopped ∧ s.cleanupRunning = true
  | _ => True

instance instDecidableCareful : (event : BufferEvent) → Decidable (Careful s event)
  | .advance i _ => inferInstanceAs (Decidable (∀ call ∈ s.calls[i]?, _ ∧ _))
  | .register _ => inferInstanceAs (Decidable (_ ∧ _))
  | .push | .tick | .task _ | .flushEvents | .stopAll | .unregister _ => .isTrue trivial

/-- A call fits the state: what was pushed before `stop_all` is not in the buffer once it has drained
it, and is settled once it has returned. -/
def FlushCall.Fits (s : Buffering) : FlushCall → Prop
  | .stopAll before pc => before ≤ s.pushed ∧ (pc.drained = true → ∀ e ∈ s.buffer, before ≤ e) ∧
    (pc = .abortCleanup → s.flushTask = .stopped)
  | .stoppedAll before => ∀ e < before, e ∈ s.settled
  | _ => True

/-- A later state: the buffer has only old events or new ones, what is settled stays settled, and a
task that was stopped stays so. -/
structure Later (s t : Buffering) : Prop where
  pushed : s.pushed ≤ t.pushed
  buffer : ∀ e ∈ t.buffer, e ∈ s.buffer ∨ s.pushed ≤ e
  settled : ∀ e ∈ s.settled, e ∈ t.settled
  stopped : s.flushTask = .stopped → t.flushTask = .stopped

theorem FlushCall.Fits.later {s : Buffering} (fits : call.Fits s) (later : Later s t) :
    call.Fits t := by
  cases call with
  | stopAll before pc =>
    obtain ⟨pushed, drained, stopped⟩ := fits
    refine ⟨le_trans pushed later.pushed, fun isDrained e isIn => ?_,
      fun isLast => later.stopped (stopped isLast)⟩
    rcases later.buffer e isIn with old | new
    · exact drained isDrained e old
    · exact le_trans pushed new
  | stoppedAll before => exact fun e below => later.settled e (fits e below)
  | flush pc | flushed => trivial

namespace Buffering

variable {s : Buffering}

theorem later_refl (s : Buffering) : Later s s := ⟨le_refl _, fun _ => .inl, fun _ => id, id⟩

/-- **Nothing is lost, every call fits, and the tasks run whenever an adapter is registered.** -/
structure Kept (s : Buffering) : Prop where
  accounted : s.Accounted
  noneLost : s.lost = []
  fits : Every (fun _ call => call.Fits s) s.calls
  tasks : s.registered ≠ [] → s.flushTask ≠ .stopped ∧ s.cleanupRunning = true

theorem flushStep_drains : (s.flushStep ok .draining).1.buffer = [] := by
  unfold flushStep
  dsimp only
  split
  next empty => exact empty
  next => rfl

namespace Kept

theorem flushStep (kept : s.Kept) (ok : Bool) (pc : FlushPc) :
    Later s (s.flushStep ok pc).1 ∧ (s.flushStep ok pc).1.lost = [] ∧
      ((s.flushStep ok pc).1.registered ≠ [] →
        (s.flushStep ok pc).1.flushTask ≠ .stopped ∧ (s.flushStep ok pc).1.cleanupRunning = true) := by
  obtain ⟨buffer, captured, deadLettered, isStep, less, more, dead, -⟩ := flushStep_moves (s := s) ok pc
  rw [isStep]
  refine ⟨⟨le_refl _, fun e isIn => .inl (less isIn), fun e isIn => ?_, id⟩, kept.noneLost, kept.tasks⟩
  simp only [settled, mem_add, mem_coe] at isIn ⊢
  exact isIn.imp_left (Or.imp (@more e) (@dead e))

theorem of_later (kept : s.Kept) (accounted : t.Accounted) (calls : t.calls = s.calls)
    (later : Later s t) (lost : t.lost = s.lost)
    (tasks : t.registered ≠ [] → t.flushTask ≠ .stopped ∧ t.cleanupRunning = true) : t.Kept := by
  refine ⟨accounted, lost.trans kept.noneLost, ?_, tasks⟩
  rw [calls]
  exact fun i call known => (kept.fits i call known).later later

theorem of_call {next : FlushCall} (kept : s.Kept)
    (accounted : Accounted { t with calls := t.calls.set i next }) (calls : t.calls = s.calls)
    (later : Later s t) (lost : t.lost = []) (fits : next.Fits t)
    (tasks : t.registered ≠ [] → t.flushTask ≠ .stopped ∧ t.cleanupRunning = true) :
    Kept { t with calls := t.calls.set i next } := by
  refine ⟨accounted, lost, ?_, tasks⟩
  have placed : Later t { t with calls := t.calls.set i next } := { later_refl t with }
  rw [calls]
  exact kept.fits.set (fits.later (calls ▸ placed)) fun _ _ _ _ isFit =>
    (isFit.later later).later (calls ▸ placed)

theorem tasks_filter (kept : s.Kept) {p : ConnectionId → Bool} (some : s.registered.filter p ≠ []) :
    s.flushTask ≠ .stopped ∧ s.cleanupRunning = true :=
  kept.tasks fun none => some (by rw [none]; rfl)

theorem append (kept : s.Kept) (idle : call.hand = 0) (fits : call.Fits s) :
    Kept { s with calls := s.calls ++ [call] } := by
  have placed : Later s { s with calls := s.calls ++ [call] } := { later_refl s with }
  refine ⟨kept.accounted.append idle, kept.noneLost, ?_, kept.tasks⟩
  exact kept.fits.append (fits.later placed) fun _ _ _ isFit => isFit.later placed

theorem new {flushIntervalMs : Nat} : (new flushIntervalMs).Kept :=
  ⟨.new flushIntervalMs, rfl, by simp [Buffering.new, Every], fun some => absurd rfl some⟩

theorem processEvent (kept : s.Kept) (maxBufferSize : Nat) : (s.processEvent maxBufferSize).Kept := by
  refine kept.of_later (kept.accounted.processEvent maxBufferSize) rfl ⟨?_, ?_, ?_, id⟩ rfl kept.tasks
  · exact le_succ _
  · intro e isIn
    rcases List.mem_append.mp isIn with old | new
    · exact .inl (List.mem_of_mem_drop old)
    · exact .inr (le_of_eq (List.mem_singleton.mp new).symm)
  · intro e isIn
    simp only [settled, Buffering.processEvent, mem_add, mem_coe, List.mem_append] at isIn ⊢
    tauto

theorem tick (kept : s.Kept) : s.tick.Kept := by
  have accounted := kept.accounted.tick
  unfold Buffering.tick at accounted ⊢
  split
  next waits =>
    rw [waits] at accounted
    exact kept.of_later accounted rfl
      { later_refl s with stopped := fun stopped => nomatch waits.symm.trans stopped }
      rfl fun some => ⟨nofun, (kept.tasks some).2⟩
  next => exact kept
  next => exact kept

theorem taskStep (kept : s.Kept) (ok : Bool) : (s.taskStep ok).Kept := by
  have accounted := kept.accounted.taskStep ok
  cases flushes : s.flushTask with
  | flushing pc =>
    have isStep : s.taskStep ok = { (s.flushStep ok pc).1 with
        flushTask := (s.flushStep ok pc).2.elim .waiting .flushing } := by
      simp [Buffering.taskStep, flushes]
    obtain ⟨later, lost, tasks⟩ := kept.flushStep ok pc
    rw [isStep] at accounted ⊢
    refine kept.of_later accounted (flushStep_balance ok pc).calls
      { later with stopped := fun stopped => nomatch flushes.symm.trans stopped }
      (lost.trans kept.noneLost.symm) fun some => ⟨?_, (tasks some).2⟩
    cases (s.flushStep ok pc).2 <;> nofun
  | waiting | stopped =>
    simp only [Buffering.taskStep, flushes]
    exact kept

/-- What was pushed before `stop_all` is settled when it returns. -/
theorem settles (kept : s.Kept) {before : Nat} (fits : (stopAll before .abortCleanup).Fits s)
    (idle : total hand s.calls = 0) : ∀ e < before, e ∈ s.settled := by
  obtain ⟨pushed, drained, stopped⟩ := fits
  intro e below
  have somewhere : e ∈ range s.pushed :=
    mem_range.mpr (lt_of_lt_of_le below pushed)
  have noHand : s.flushTask.hand = [] := by
    rw [stopped rfl]
    rfl
  rw [kept.accounted, inHands, idle, noHand, kept.noneLost] at somewhere
  simp only [coe_nil, add_zero, mem_add, mem_coe] at somewhere
  rcases somewhere with inBuffer | isSettled
  · exact absurd (drained rfl e inBuffer) (Nat.not_le_of_lt below)
  · exact isSettled

end Kept

theorem kept_advance (kept : s.Kept) (careful : Careful s (.advance i ok)) :
    (s.step maxBufferSize (.advance i ok)).Kept := by
  cases known : s.calls[i]? with
  | none =>
    rw [step_missing known]
    exact kept
  | some call =>
    have balanced := callStep_balance (s := s) ok call
    have goesOn := kept.of_call (kept.accounted.advance known balanced) balanced.calls
    have fits := kept.fits i call known
    have careful := careful call known
    rw [step_advance known]
    cases call with
    | flush pc =>
      obtain ⟨later, lost, tasks⟩ := kept.flushStep ok pc
      refine goesOn later lost ?_ tasks
      show FlushCall.Fits _ ((s.flushStep ok pc).2.elim .flushed .flush)
      cases (s.flushStep ok pc).2 <;> trivial
    | stopAll before pc =>
      obtain ⟨isBefore, isDrained, -⟩ := fits
      cases pc with
      | collecting => exact goesOn (later_refl s) kept.noneLost ⟨isBefore, nofun, nofun⟩ kept.tasks
      | stopping conns =>
        cases conns with
        | nil => exact goesOn (later_refl s) kept.noneLost ⟨isBefore, nofun, nofun⟩ kept.tasks
        | cons conn rest =>
          exact goesOn { later_refl s with } kept.noneLost ⟨isBefore, nofun, nofun⟩ kept.tasks_filter
      | flushing pc =>
        obtain ⟨later, lost, tasks⟩ := kept.flushStep ok pc
        have drained : ∀ e ∈ (s.flushStep ok pc).1.buffer, before ≤ e := by
          cases pc with
          | draining =>
            rw [flushStep_drains]
            nofun
          | capturing batch => cases ok <;> exact isDrained rfl
          | deadLettering batch => exact isDrained rfl
        refine goesOn later lost
          ⟨le_trans isBefore later.pushed, fun _ => drained, fun aborts => ?_⟩ tasks
        cases next : (s.flushStep ok pc).2 with
        | none | some pc => nomatch next ▸ aborts
      | abortFlush =>
        obtain ⟨noHand, noAdapter⟩ := careful.1 rfl
        refine goesOn { later_refl s with stopped := fun _ => rfl } ?_ ⟨isBefore, fun _ => isDrained rfl, fun _ => rfl⟩ fun some => absurd noAdapter some
        show s.lost ++ s.flushTask.hand = []
        rw [kept.noneLost, noHand]
        rfl
      | abortCleanup =>
        have idle := careful.2 rfl
        have isStopped : s.flushTask = .stopped := (kept.fits i _ known).2.2 rfl
        have noAdapter : s.registered = [] := by
          by_contra some
          exact (kept.tasks some).1 isStopped
        exact goesOn { later_refl s with } kept.noneLost (kept.settles (kept.fits i _ known) idle) fun some => absurd noAdapter some
    | flushed => exact goesOn (later_refl s) kept.noneLost trivial kept.tasks
    | stoppedAll before => exact goesOn (later_refl s) kept.noneLost fits kept.tasks

theorem kept_step (s : Buffering) (event : BufferEvent) (kept : s.Kept) (careful : Careful s event)
    : (s.step maxBufferSize event).Kept := by
  cases event with
  | push => exact kept.processEvent maxBufferSize
  | tick => exact kept.tick
  | task ok => exact kept.taskStep ok
  | flushEvents => exact kept.append rfl trivial
  | stopAll => exact kept.append rfl ⟨le_refl _, nofun, nofun⟩
  | advance i ok => exact kept_advance kept careful
  | register conn =>
    exact kept.of_later kept.accounted rfl { later_refl s with } rfl fun _ => careful
  | unregister conn =>
    exact kept.of_later kept.accounted rfl { later_refl s with } rfl kept.tasks_filter

/-- **Buffered events are not lost.** After every careful run each event that was pushed is in the
buffer, in the hands of a flusher, captured, dead-lettered or dropped by the overflow rule, and in one
of these places only; what was pushed before a `stop_all` that has returned is captured,
dead-lettered or dropped; and both tasks run if an adapter is registered. -/
theorem buffered_events_kept (maxBufferSize flushIntervalMs : Nat) (events : List BufferEvent)
    (careful : Run.Allowed (step maxBufferSize) Careful (new flushIntervalMs) events) :
    range (after (step maxBufferSize) (new flushIntervalMs) events).pushed =
        (after (step maxBufferSize) (new flushIntervalMs) events).buffer +
          (after (step maxBufferSize) (new flushIntervalMs) events).inHands +
          (after (step maxBufferSize) (new flushIntervalMs) events).settled ∧
      (∀ before,
        .stoppedAll before ∈ (after (step maxBufferSize) (new flushIntervalMs) events).calls →
          ∀ e < before, e ∈ (after (step maxBufferSize) (new flushIntervalMs) events).settled) ∧
      ((after (step maxBufferSize) (new flushIntervalMs) events).registered ≠ [] →
        (after (step maxBufferSize) (new flushIntervalMs) events).flushTask ≠ .stopped ∧
          (after (step maxBufferSize) (new flushIntervalMs) events).cleanupRunning = true) := by
  have kept := invariant_after (step maxBufferSize) kept_step events _ Kept.new careful
  refine ⟨?_, fun before back => ?_, kept.tasks⟩
  · have accounted := kept.accounted
    unfold Accounted at accounted
    rw [kept.noneLost, coe_nil, add_zero] at accounted
    exact accounted
  · obtain ⟨i, known⟩ := List.mem_iff_getElem?.mp back
    exact kept.fits i _ known

section Sample

/-- The flush task has captured two events, and `stop_all` captures the third. -/
def flushedByStopAll : List BufferEvent :=
  [BufferEvent.register "api", .push, .push, .tick, .task true, .push, .task true, .stopAll] ++
    List.replicate 7 (BufferEvent.advance 0 true)

/-- The flush task has an event in its hands while `stop_all` runs; an adapter is started later. -/
def stoppedDuringFlush : List BufferEvent :=
  [BufferEvent.push, .tick, .task true, .stopAll] ++ List.replicate 5 (BufferEvent.advance 0 true) ++
    [BufferEvent.register "api"]

theorem stop_all_settles_three :
    Run.Allowed (step 10) Careful (new 100) flushedByStopAll ∧
      .stoppedAll 3 ∈ (after (step 10) (new 100) flushedByStopAll).calls ∧
      ∀ e < 3, e ∈ (after (step 10) (new 100) flushedByStopAll).settled := by
  have careful : Run.Allowed (step 10) Careful (new 100) flushedByStopAll := by decide
  have back : .stoppedAll 3 ∈ (after (step 10) (new 100) flushedByStopAll).calls := by decide
  exact ⟨careful, back, (buffered_events_kept 10 100 _ careful).2.1 3 back⟩

/-- **`stop_all` aborts the flush task with a batch in its hands.** Event 0 was pushed before, and
is nowhere once `stop_all` has returned; and an adapter that is started later has no tasks. -/
theorem aborted_flush_loses_events :
    .stoppedAll 1 ∈ (after (step 10) (new 100) stoppedDuringFlush).calls ∧
      0 ∉ (after (step 10) (new 100) stoppedDuringFlush).buffer ∧
      0 ∉ (after (step 10) (new 100) stoppedDuringFlush).inHands ∧
      0 ∉ (after (step 10) (new 100) stoppedDuringFlush).settled ∧
      (after (step 10) (new 100) stoppedDuringFlush).registered = ["api"] ∧
      (after (step 10) (new 100) stoppedDuringFlush).flushTask = .stopped ∧
      (after (step 10) (new 100) stoppedDuringFlush).cleanupRunning = false := by
  decide

end Sample

end Buffering

end Detrix.Lifecycle
