/-
**The batching output.**

A call holds the lock of the buffer to its end. The buffer is emptied before the inner output answers:
a batch that it refuses is lost, with what earlier calls have accepted (`accepted_events_kept_iff`).
-/

import Detrix.Library.Run

namespace Detrix.Output

open Library.Run

structure BatchingConfig where
  batchSize : Nat
  flushInterval : Option Nat

structure BatchBuffer (Event : Type) where
  events : List Event
  lastFlush : Nat

/-- With the batches that the inner output took and the events whose call returned `Ok`. -/
structure BatchingOutput (Event : Type) where
  buffer : BatchBuffer Event
  delivered : List (List Event)
  accepted : List Event

/-- `send` is `sendBatch` with one event. -/
inductive Request (Event : Type) where
  | sendBatch (events : List Event)
  | flush

def Request.events {Event : Type} : Request Event → List Event
  | sendBatch events => events
  | flush => []

/-- With the times it reads, and whether the inner output takes the batch and the flush. -/
structure Call (Event : Type) where
  request : Request Event
  checkedAt : Nat
  flushedAt : Nat
  takesBatch : Bool
  takesFlush : Bool

namespace BatchingOutput

variable {Event : Type} (config : BatchingConfig) (call : Call Event) (s : BatchingOutput Event)

def new (now : Nat) : BatchingOutput Event := ⟨⟨[], now⟩, [], []⟩

def shouldFlush (buffer : BatchBuffer Event) (now : Nat) : Bool :=
  buffer.events.length ≥ config.batchSize || config.flushInterval.any fun interval =>
    now - buffer.lastFlush ≥ interval && !buffer.events.isEmpty

/-- `do_flush`, and whether it returns `Ok`. -/
def doFlush : BatchingOutput Event × Bool :=
  if s.buffer.events.isEmpty then (s, true)
  else
    let emptied := { s with buffer := ⟨[], call.flushedAt⟩ }
    if call.takesBatch then ({ emptied with delivered := s.delivered ++ [s.buffer.events] }, true)
    else (emptied, false)

def buffered (events : List Event) : BatchingOutput Event :=
  { s with buffer := { s.buffer with events := s.buffer.events ++ events } }

def sendBatch (events : List Event) : BatchingOutput Event × Bool :=
  let s := s.buffered events
  if shouldFlush config s.buffer call.checkedAt then doFlush call s else (s, true)

def flush : BatchingOutput Event × Bool :=
  let (s, ok) := doFlush call s
  (s, ok && call.takesFlush)

def perform : BatchingOutput Event × Bool :=
  match call.request with
  | .sendBatch events => sendBatch config call s events
  | .flush => flush call s

/-- One call: its events are accepted if it returns `Ok`. -/
def step (call : Call Event) : BatchingOutput Event :=
  let (s, ok) := perform config call s
  if ok then { s with accepted := s.accepted ++ call.request.events } else s

/-- Delivered or in the buffer. -/
def kept : List Event := s.delivered.flatten ++ s.buffer.events

def Spares (s : BatchingOutput Event) (call : Call Event) : Prop :=
  call.takesBatch = true ∨ s.buffer.events = [] ∨ call.request ≠ .flush ∧
    shouldFlush config (s.buffered call.request.events).buffer call.checkedAt = false

theorem doFlush_cases {t : BatchingOutput Event} {ok : Bool} (done : doFlush call s = (t, ok)) :
    t.accepted = s.accepted ∧
      (ok = true ∧ (call.takesBatch = true ∨ s.buffer.events = []) ∧ t.kept = s.kept ∨
        ok = false ∧ call.takesBatch = false ∧ t.kept = s.delivered.flatten) := by
  unfold doFlush at done
  by_cases empty : s.buffer.events = []
  · grind
  · by_cases takes : call.takesBatch = true <;> grind [kept]

/-- A call keeps what it accepts, or a refused batch takes the buffer with it. -/
theorem step_cases {t : BatchingOutput Event} (isNext : step config s call = t) :
    (Spares config s call ∧ t.kept = s.kept ++ call.request.events ∧
      t.accepted = s.accepted ++ call.request.events) ∨
    ((Spares config s call ↔ s.buffer.events.length = 0) ∧ t.kept = s.delivered.flatten ∧
      t.accepted = s.accepted) := by
  unfold step perform sendBatch flush at isNext
  unfold Spares
  cases req : call.request with
  | flush =>
    have flushed := @doFlush_cases _ call s
    grind [kept, Request.events]
  | sendBatch events =>
    have flushed := @doFlush_cases _ call (s.buffered events)
    grind [kept, buffered, Request.events]

/-- Nothing is delivered twice or out of order. -/
theorem kept_sublist_step (ordered : s.kept.Sublist s.accepted) :
    (step config s call).kept.Sublist (step config s call).accepted := by
  rcases step_cases config call s rfl with ⟨-, left, all⟩ | ⟨-, left, all⟩ <;> rw [left, all]
  · exact ordered.append_right _
  · exact (List.sublist_append_left _ _).trans ordered

/-- **Every accepted event is delivered once or still in the buffer, in the order of acceptance**,
exactly if no batch with events of earlier calls was refused. -/
theorem accepted_events_kept_iff (now : Nat) (calls : List (Call Event)) :
    (after (step config) (new now) calls).kept = (after (step config) (new now) calls).accepted ↔
      Allowed (step config) (Spares config) (new now) calls := by
  have ordered := invariant_always (step config)
    (fun s call => kept_sublist_step config call s) calls (new now) (.refl _)
  have lost := @unchanged_iff_allowed _ _ (step config) (Spares config) _
    (fun s => s.accepted.length - s.kept.length) (fun s call => kept_sublist_step config call s)
    (fun s call _ => by grind [step_cases config call s rfl, kept])
    (fun s call _ => by grind [step_cases config call s rfl, kept]) calls (new now) (.refl _)
  have shorter := ordered.length_le
  rw [← lost, show (new now : BatchingOutput Event).kept = (new now).accepted from rfl]
  generalize after (step config) (new now) calls = s at *
  exact ⟨fun same => by rw [same]; omega, fun same => ordered.eq_of_length (by omega)⟩

theorem refused_batch_loses_event :
    ∃ s, s = after (step ⟨2, none⟩) (new 0)
        [⟨.sendBatch [7], 0, 0, true, true⟩, ⟨.flush, 0, 0, false, true⟩] ∧
      s.accepted = [7] ∧ s.buffer.events = [] ∧ s.delivered = [] :=
  ⟨_, rfl, by decide⟩

end BatchingOutput

end Detrix.Output
