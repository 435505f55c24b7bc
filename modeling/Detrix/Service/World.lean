/-
**The world of the metric service and its effects.**

The repository, the registered adapters with their safe mode, everything that was handed to an
adapter, the metrics that the adapters track, and the answers that the storage and the adapters are
going to give: any call to them may fail. The operations of the service are programs over this world.

An operation acts on the world by effects: it saves, updates or deletes a row, or hands a metric to
an adapter, or an adapter is registered or not any more. `Moved may` is one such step with an effect
that `may` permits, or a step without one.
Each primitive has its rule (`storageSave_moves`, `adapterSet_moves`, …), and the rules for what a
query returns say that it leaves the world as it is but for the answers.
-/

import Detrix.Dap.ActiveMetrics
import Detrix.Service.Checks
import Detrix.Service.Repository

namespace Detrix.Service

open Detrix.Core Dap Library Program
open Library.Program (Moves)

/-! ### The world -/

/-- The answer of the storage or of an adapter to a call. -/
inductive Answer where
  | done
  /-- The call has failed; a request to a debugger was not sent or not answered. -/
  | fails (error : String)
  /-- The debugger has answered, and refused the request. -/
  | rejected (error : String)
  /-- The logpoint was set but not confirmed. -/
  | unverified (line : Nat) (message : Option String)

structure World where
  repo : Repository
  adapters : List (ConnectionId × Bool)
  /-- What was handed to `set_metric` and `set_metrics_batch`. -/
  handed : List (ConnectionId × Metric)
  tracked : ConnectionId → ActiveMetrics
  vfs : Vfs
  /-- The answers to come; calls without one succeed. -/
  answers : List Answer

abbrev Operation (α : Type) : Type := Program World ServiceError α

def World.isSafeMode (w : World) (connectionId : ConnectionId) : Option Bool :=
  w.adapters.lookup connectionId

/-- `get_adapter`. -/
def World.hasAdapter (w : World) (connectionId : ConnectionId) : Bool :=
  (w.adapters.lookup connectionId).isSome

def World.without (w : World) (connectionId : ConnectionId) : List (ConnectionId × Bool) :=
  w.adapters.filter (·.1 ≠ connectionId)

/-- The adapters of the others are still there, the one of the connection is not. -/
theorem World.lookup_without (w : World) (one other : ConnectionId) :
    (w.without one).lookup other = if other = one then none else w.isSafeMode other := by
  unfold World.without World.isSafeMode
  induction w.adapters with
  | nil => simp
  | cons entry rest ih =>
    obtain ⟨name, mode⟩ := entry
    by_cases isName : other = name
    · subst isName
      by_cases isOne : other = one
      · simpa [isOne] using ih
      · simp [isOne]
    · have skipped : (other == name) = false := by simpa using isName
      by_cases isOne : name = one
      · subst isOne
        simpa [List.lookup_cons, skipped, isName] using ih
      · simpa [List.lookup_cons, skipped, isOne] using ih

/-! ### Calls to the outside -/

/-- A call that fails if its answer says so. -/
def call (error : String → ServiceError) : Operation Answer := fun w =>
  let rest := { w with answers := w.answers.tail }
  match w.answers.head? with
  | some (.fails detail) | some (.rejected detail) => (.error (error detail), rest)
  | some answer => (.ok answer, rest)
  | none => (.ok .done, rest)

def query {α : Type} (read : Repository → α) : Operation α := do
  let _ ← call .database
  return read (← get).repo

def commit {α : Type} (write : Repository → Except ServiceError (α × Repository)) : Operation α :=
  fun w => match write w.repo with
    | .ok (a, repo) => (.ok a, { w with repo })
    | .error e => (.error e, w)

def storageSave (m : Metric) : Operation MetricId := do
  let _ ← call .database
  commit fun repo => repo.save m

def storageUpdate (m : Metric) : Operation Unit := do
  let _ ← call .database
  commit fun repo => (repo.update m).map fun after => ((), after)

def storageDelete (id : MetricId) : Operation Unit := do
  let _ ← call .database
  commit fun repo => (repo.delete id).map fun after => ((), after)

/-- `get_adapter_for_connection`. -/
def getAdapter (connectionId : ConnectionId) : Operation Unit := do
  if !(← get).hasAdapter connectionId then
    fail (.connectionNotFound ("No adapter found for connection '" ++ connectionId ++ "'"))

/-- What the debugger does with a request, by the answer. -/
def Answer.reply : Option Answer → Reply
  | some (.fails _) => .lost
  | some (.rejected _) => .rejected
  | _ => .accepted

def World.tracks (w : World) (connectionId : ConnectionId) (active : ActiveMetrics) : World :=
  { w with tracked := Function.update w.tracked connectionId active }

/-- `set_metric` of the adapter of a connection. -/
def adapterSet (connectionId : ConnectionId) (m : Metric) : Operation Answer := do
  modify fun w =>
    let active := (w.tracked connectionId).set m (Answer.reply w.answers.head?)
    { w.tracks connectionId active with handed := w.handed ++ [(connectionId, m)] }
  call .adapter

/-- A request whose refusal is no error. -/
def request : Operation Unit := fun w =>
  let rest := { w with answers := w.answers.tail }
  match w.answers.head? with
  | some (.fails detail) => (.error (.adapter detail), rest)
  | _ => (.ok (), rest)

/-- `remove_metric` of an adapter: the metric is not tracked any more, whatever the debugger says. -/
def adapterRemove (connectionId : ConnectionId) (m : Metric) : Operation Unit := do
  modify fun w => w.tracks connectionId ((w.tracked connectionId).erase m.name)
  request

/-- A new adapter tracks nothing. -/
def newAdapter (connectionId : ConnectionId) : Operation Unit :=
  modify fun w => w.tracks connectionId .empty

def register (connectionId : ConnectionId) (safeMode : Bool) : Operation Unit :=
  modify fun w =>
    { w with adapters := (connectionId, safeMode) :: w.without connectionId }

def unregister (connectionId : ConnectionId) : Operation Unit :=
  modify fun w => { w with adapters := w.without connectionId }

/-! ### Effects -/

inductive Effect where
  | saved (m : Metric)
  | updated (m : Metric)
  | deleted (id : MetricId)
  | handed (connectionId : ConnectionId) (m : Metric)
  | registered (connectionId : ConnectionId) (safeMode : Bool)
  | unregistered (connectionId : ConnectionId)

/-- The world after an effect. -/
inductive Change : World → Effect → World → Prop where
  | saved {w : World} {m : Metric} {id : MetricId} {repo : Repository}
      (done : w.repo.save m = .ok (id, repo)) : Change w (.saved m) { w with repo }
  | updated {w : World} {m : Metric} {repo : Repository} (done : w.repo.update m = .ok repo) :
      Change w (.updated m) { w with repo }
  | deleted {w : World} {id : MetricId} {repo : Repository} (done : w.repo.delete id = .ok repo) :
      Change w (.deleted id) { w with repo }
  | handed {w : World} (connectionId : ConnectionId) (m : Metric) :
      Change w (.handed connectionId m) { w with handed := w.handed ++ [(connectionId, m)] }
  | registered {w : World} (connectionId : ConnectionId) (safeMode : Bool) :
      Change w (.registered connectionId safeMode)
        { w with adapters := (connectionId, safeMode) :: w.without connectionId }
  | unregistered {w : World} (connectionId : ConnectionId) :
      Change w (.unregistered connectionId) { w with adapters := w.without connectionId }

/-- **One step of an operation**: an effect that is permitted on the present repository, or a change
of the answers, the files and the tracked metrics. -/
inductive Moved (may : Repository → Effect → Prop) : World → World → Prop where
  | quiet {w : World} (vfs : Vfs) (answers : List Answer) (tracked : ConnectionId → ActiveMetrics) :
      Moved may w { w with vfs, answers, tracked }
  | effect {w after : World} {e : Effect} (permitted : may w.repo e) (change : Change w e after) :
      Moved may w after

/-- The worlds agree on everything but the answers. -/
def SameButAnswers (w after : World) : Prop := ∃ answers, after = { w with answers }

theorem SameButAnswers.refl (w : World) : SameButAnswers w w := ⟨w.answers, rfl⟩

theorem SameButAnswers.trans {a b c : World} (first : SameButAnswers a b)
    (second : SameButAnswers b c) : SameButAnswers a c := by
  obtain ⟨_, rfl⟩ := first
  obtain ⟨answers, rfl⟩ := second
  exact ⟨answers, rfl⟩

variable {after : World}

theorem SameButAnswers.repo {w : World} (same : SameButAnswers w after) : after.repo = w.repo := by
  obtain ⟨_, rfl⟩ := same
  rfl

/-- The worlds agree on everything but the answers and the tracked metrics. -/
def SameButTracked (w after : World) : Prop := ∃ answers tracked, after = { w with answers, tracked }

theorem SameButAnswers.butTracked {w : World} (same : SameButAnswers w after) :
    SameButTracked w after := by
  obtain ⟨answers, rfl⟩ := same
  exact ⟨answers, w.tracked, rfl⟩

theorem SameButTracked.trans {a b c : World} (first : SameButTracked a b)
    (second : SameButTracked b c) : SameButTracked a c := by
  obtain ⟨_, _, rfl⟩ := first
  obtain ⟨answers, tracked, rfl⟩ := second
  exact ⟨answers, tracked, rfl⟩

theorem SameButTracked.repo {w : World} (same : SameButTracked w after) : after.repo = w.repo := by
  obtain ⟨_, _, rfl⟩ := same
  rfl

/-! ### The rules of the primitives -/

section Rules

variable {may : Repository → Effect → Prop} {w : World}
  {α : Type} {m : Metric} {id : MetricId} {c : ConnectionId} {p : Operation α}

/-- A program that has permitted effects has the effects that more permits. -/
theorem moves_wider {wider : Repository → Effect → Prop}
    (more : ∀ repo e, may repo e → wider repo e) (moves : Moves (Moved may) p w) :
    Moves (Moved wider) p w := by
  refine moves.mono fun a b moved => ?_
  cases moved with
  | quiet vfs answers tracked => exact .quiet vfs answers tracked
  | effect permitted change => exact .effect (more _ _ permitted) change

theorem SameButTracked.steps (same : SameButTracked w after) :
    Relation.ReflTransGen (Moved may) w after := by
  obtain ⟨answers, tracked, rfl⟩ := same
  exact .single (.quiet w.vfs answers tracked)

theorem SameButTracked.moves (same : SameButTracked w (p w).2) :
    Moves (Moved may) p w := same.steps

/-- A program that moves by changes of the answers and the tracked metrics only. -/
theorem SameButTracked.of_moves (moves : Moves SameButTracked p w) : SameButTracked w (p w).2 :=
  moves.keeps (fun _ _ next same => same.trans next) (SameButAnswers.refl w).butTracked

theorem SameButAnswers.steps (same : SameButAnswers w after) :
    Relation.ReflTransGen (Moved may) w after := same.butTracked.steps

theorem SameButAnswers.moves (same : SameButAnswers w (p w).2) :
    Moves (Moved may) p w := same.steps

/-- A program that moves by changes of the answers only. -/
theorem SameButAnswers.of_moves (moves : Moves SameButAnswers p w) : SameButAnswers w (p w).2 :=
  moves.keeps (fun _ _ next same => same.trans next) (.refl w)

variable (error : String → ServiceError)

theorem call_same (w : World) : SameButAnswers w (call error w).2 := by
  refine ⟨w.answers.tail, ?_⟩
  unfold call
  split <;> rfl

theorem call_moves : Moves (Moved may) (call error) w :=
  (call_same error w).moves

variable {result : Except ServiceError α}

/-- A program after a call: it is entered with other answers, or not at all. -/
theorem call_bind {error : String → ServiceError} {f : Answer → Operation α}
    (ran : (call error >>= f) w = (result, after)) :
    ∃ t, SameButAnswers w t ∧
      ((∃ answer, f answer t = (result, after)) ∨ ∃ e, result = .error e ∧ after = t) := by
  have same := call_same error w
  rcases called : call error w with ⟨e | answer, t⟩ <;> rw [called] at same <;> refine ⟨t, same, ?_⟩
  · rw [bind_of_error called, Prod.mk.injEq] at ran
    exact .inr ⟨e, ran.1.symm, ran.2.symm⟩
  · rw [bind_of_ok called] at ran
    exact .inl ⟨answer, ran⟩

theorem query_result {read : Repository → α} (ran : query read w = (result, after)) :
    SameButAnswers w after ∧ ∀ a, result = .ok a → a = read w.repo := by
  obtain ⟨t, same, ⟨answer, done⟩ | ⟨e, isError, rfl⟩⟩ := call_bind ran
  · have value : (.ok (read t.repo), t) = (result, after) := done
    obtain ⟨rfl, rfl⟩ := value
    refine ⟨same, fun a isOk => ?_⟩
    rw [← Except.ok.inj isOk, same.repo]
  · refine ⟨same, fun a isOk => ?_⟩
    rw [isError] at isOk
    cases isOk

variable (read : Repository → α)

theorem query_same (w : World) : SameButAnswers w (query read w).2 :=
  (query_result rfl).1

theorem query_moves : Moves (Moved may) (query read) w :=
  (query_same read w).moves

theorem commit_result {write : Repository → Except ServiceError (α × Repository)}
    (ran : (call .database >>= fun _ => commit write) w = (result, after)) :
    (∃ e, result = .error e ∧ SameButAnswers w after) ∨
      ∃ a repo, write w.repo = .ok (a, repo) ∧ result = .ok a ∧
        SameButAnswers { w with repo } after := by
  obtain ⟨t, ⟨answers, rfl⟩, ⟨answer, done⟩ | ⟨e, isError, rfl⟩⟩ := call_bind ran
  · simp only [commit] at done
    split at done
    next a repo wrote =>
      rw [Prod.mk.injEq] at done
      exact .inr ⟨a, repo, wrote, done.1.symm, answers, done.2.symm⟩
    next e _ =>
      rw [Prod.mk.injEq] at done
      exact .inl ⟨e, done.1.symm, answers, done.2.symm⟩
  · exact .inl ⟨e, isError, answers, rfl⟩

theorem storageSave_result {result : Except ServiceError MetricId}
    (ran : storageSave m w = (result, after)) :
    (∃ e, result = .error e ∧ SameButAnswers w after) ∨
      ∃ id repo, w.repo.save m = .ok (id, repo) ∧ result = .ok id ∧
        SameButAnswers { w with repo } after :=
  commit_result ran

variable {result : Except ServiceError Unit}

theorem write_result {write : Repository → Except ServiceError Repository}
    (ran : (call .database >>= fun _ => commit fun repo => (write repo).map fun after => ((), after)) w =
      (result, after)) :
    (∃ e, result = .error e ∧ SameButAnswers w after) ∨
      ∃ repo, write w.repo = .ok repo ∧ result = .ok () ∧ SameButAnswers { w with repo } after := by
  rcases commit_result ran with failed | ⟨u, repo, wrote, isOk, same⟩
  · exact .inl failed
  · refine .inr ⟨repo, ?_, isOk, same⟩
    cases done : write w.repo with
    | error e => simp [done, Except.map] at wrote
    | ok after => simpa [done, Except.map] using wrote

theorem storageUpdate_result (ran : storageUpdate m w = (result, after)) :
    (∃ e, result = .error e ∧ SameButAnswers w after) ∨
      ∃ repo, w.repo.update m = .ok repo ∧ result = .ok () ∧ SameButAnswers { w with repo } after :=
  write_result ran

theorem storageDelete_result (ran : storageDelete id w = (result, after)) :
    (∃ e, result = .error e ∧ SameButAnswers w after) ∨
      ∃ repo, w.repo.delete id = .ok repo ∧ result = .ok () ∧ SameButAnswers { w with repo } after :=
  write_result ran

theorem storageSave_moves (permitted : may w.repo (.saved m)) :
    Moves (Moved may) (storageSave m) w := by
  rcases storageSave_result rfl with ⟨e, -, same⟩ | ⟨id, repo, saved, -, same⟩
  · exact same.steps
  · exact .trans (.single (.effect permitted (.saved saved))) same.steps

theorem storageUpdate_moves (permitted : may w.repo (.updated m)) :
    Moves (Moved may) (storageUpdate m) w := by
  rcases storageUpdate_result rfl with ⟨e, -, same⟩ | ⟨repo, new, -, same⟩
  · exact same.steps
  · exact .trans (.single (.effect permitted (.updated new))) same.steps

theorem storageDelete_moves (permitted : may w.repo (.deleted id)) :
    Moves (Moved may) (storageDelete id) w := by
  rcases storageDelete_result rfl with ⟨e, -, same⟩ | ⟨repo, gone, -, same⟩
  · exact same.steps
  · exact .trans (.single (.effect permitted (.deleted gone))) same.steps

theorem adapterSet_moves (permitted : may w.repo (.handed c m)) :
    Moves (Moved may) (adapterSet c m) w := by
  refine .bind ?_ fun _ _ _ => call_moves _
  exact .trans (.single (.effect permitted (.handed c m)))
    (.single (.quiet w.vfs w.answers _))

theorem adapterRemove_same (c : ConnectionId) (m : Metric) (w : World) :
    SameButTracked w (adapterRemove c m w).2 := by
  refine ⟨w.answers.tail,
    Function.update w.tracked c ((w.tracked c).erase m.name), ?_⟩
  show (request _).2 = _
  unfold request
  split <;> rfl

theorem getAdapter_apply (c : ConnectionId) (w : World) :
    getAdapter c w =
      (if w.hasAdapter c then .ok ()
        else .error (.connectionNotFound
          ("No adapter found for connection '" ++ c ++ "'")), w) := by
  cases has : w.hasAdapter c <;>
    simp [getAdapter, Program.bind_apply, Program.get, Program.fail, has]

theorem getAdapter_moves (c : ConnectionId) : Moves (Moved may) (getAdapter c) w := by
  unfold Moves
  rw [getAdapter_apply]

theorem register_moves {safeMode : Bool}
    (permitted : may w.repo (.registered c safeMode)) :
    Moves (Moved may) (register c safeMode) w :=
  .single (.effect permitted (.registered c safeMode))

/-! ### Calls that succeed -/

theorem call_quiet (quiet : w.answers = []) : call error w = (.ok .done, w) := by
  obtain ⟨repo, adapters, handed, tracked, vfs, answers⟩ := w
  obtain rfl : answers = [] := quiet
  rfl

theorem query_quiet (quiet : w.answers = []) : query read w = (.ok (read w.repo), w) := by
  rw [query, bind_of_ok (call_quiet _ quiet)]
  rfl

variable {repo : Repository}

theorem storageSave_quiet (quiet : w.answers = []) (done : w.repo.save m = .ok (id, repo)) :
    storageSave m w = (.ok id, { w with repo }) := by
  rw [storageSave, bind_of_ok (call_quiet _ quiet), commit, done]

theorem storageUpdate_quiet (quiet : w.answers = []) (done : w.repo.update m = .ok repo) :
    storageUpdate m w = (.ok (), { w with repo }) := by
  rw [storageUpdate, bind_of_ok (call_quiet _ quiet), commit, done]
  rfl

theorem storageDelete_quiet (quiet : w.answers = []) (done : w.repo.delete id = .ok repo) :
    storageDelete id w = (.ok (), { w with repo }) := by
  rw [storageDelete, bind_of_ok (call_quiet _ quiet), commit, done]
  rfl

theorem adapterSet_quiet (c : ConnectionId) (m : Metric) (quiet : w.answers = []) :
    adapterSet c m w = (.ok .done,
      { w.tracks c ((w.tracked c).insert m) with
        handed := w.handed ++ [(c, m)] }) := by
  obtain ⟨repo, adapters, handed, tracked, vfs, answers⟩ := w
  obtain rfl : answers = [] := quiet
  rfl

theorem adapterRemove_quiet (c : ConnectionId) (m : Metric) (quiet : w.answers = []) :
    adapterRemove c m w =
      (.ok (), w.tracks c ((w.tracked c).erase m.name)) := by
  obtain ⟨repo, adapters, handed, tracked, vfs, answers⟩ := w
  obtain rfl : answers = [] := quiet
  rfl

end Rules

end Detrix.Service
