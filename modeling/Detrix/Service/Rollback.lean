/-
**What a failed call leaves.**

`failed_calls_undone_iff`: a call of `add_metric` or `toggle_metric` that returns an error, other than
the one that reports a failed rollback, leaves the rows and the tracked metrics as they were, exactly
if the failing step is one of those that `AddUndone` and `ToggleUndone` describe. They speak about
the world before the call; `failsAt n` says that the `n`-th call to the storage or the adapter from
there on fails.

A save is not undone if the connection has no adapter, nor is a replacement after its deletion, nor
what the adapter has done with its map of metrics before a failed request: `failed_calls_leave_traces`.
-/

import Detrix.Service.Quiet
import Detrix.Service.Runs

namespace Detrix.Service

open Detrix.Core Dap Library Repository ActiveMetrics List
open Library.Program (FailsWith Ends failsWith_iff ends_of_ok ends_of_error ends_pure ends_fail
  ends_bind ends_attempt ends_congr)

/-! ### The calls to come -/

def Answer.failed : Option Answer → Bool
  | some (.fails _) | some (.rejected _) => true
  | _ => false

namespace World

variable (w : World)

/-- The `n`-th call from here on returns an error. -/
def failsAt (n : Nat) : Bool := Answer.failed w.answers[n]?

/-- What the debugger does with the `n`-th call. -/
def replyAt (n : Nat) : Reply := Answer.reply w.answers[n]?

def next : World := { w with answers := w.answers.tail }

def asked (connectionId : ConnectionId) (m : Metric) : World :=
  { w.tracks connectionId ((w.tracked connectionId).set m (w.replyAt 0)) with
    handed := w.handed ++ [(connectionId, m)]
    answers := w.answers.tail }

def dropped (connectionId : ConnectionId) (m : Metric) : World :=
  (w.removes connectionId m).next

def wrote (repo : Repository) : World := { w.next with repo }

/-- The text of the error that the next call returns, if it does. -/
def detail : String :=
  match w.answers.head? with
  | some (.fails detail) | some (.rejected detail) => detail
  | _ => ""

def answer : Answer := w.answers.head?.getD .done

variable {w} {c : ConnectionId} {m : Metric} {repo : Repository} {n : Nat}

theorem failsAt_tail {v : World} (tail : v.answers = w.answers.tail) : v.failsAt n = w.failsAt (n + 1) := by
  rw [failsAt, failsAt, tail, getElem?_tail]

theorem replyAt_tail {v : World} (tail : v.answers = w.answers.tail) : v.replyAt n = w.replyAt (n + 1) := by
  rw [replyAt, replyAt, tail, getElem?_tail]

@[simp] theorem failsAt_next : w.next.failsAt n = w.failsAt (n + 1) := failsAt_tail rfl

@[simp] theorem failsAt_wrote : (w.wrote repo).failsAt n = w.failsAt (n + 1) := failsAt_tail rfl

@[simp] theorem failsAt_asked : (w.asked c m).failsAt n = w.failsAt (n + 1) := failsAt_tail rfl

@[simp] theorem failsAt_dropped : (w.dropped c m).failsAt n = w.failsAt (n + 1) :=
  failsAt_tail rfl

@[simp] theorem replyAt_next : w.next.replyAt n = w.replyAt (n + 1) := replyAt_tail rfl

@[simp] theorem replyAt_wrote : (w.wrote repo).replyAt n = w.replyAt (n + 1) := replyAt_tail rfl

@[simp] theorem replyAt_dropped : (w.dropped c m).replyAt n = w.replyAt (n + 1) :=
  replyAt_tail rfl

@[simp] theorem repo_next : w.next.repo = w.repo := rfl

@[simp] theorem repo_asked : (w.asked c m).repo = w.repo := rfl

@[simp] theorem repo_dropped : (w.dropped c m).repo = w.repo := rfl

@[simp] theorem next_hasAdapter : w.next.hasAdapter c = w.hasAdapter c := rfl

@[simp] theorem hasAdapter_wrote : (w.wrote repo).hasAdapter c = w.hasAdapter c :=
  rfl

end World

open World

variable {repo saved after : Repository} {id : MetricId} {active : ActiveMetrics} {α : Type}

section Calls

variable {w : World}

theorem call_run (error : String → ServiceError) (w : World) :
    call error w = (if w.failsAt 0 then .error (error w.detail) else .ok w.answer, w.next) := by
  obtain ⟨repo, adapters, handed, tracked, vfs, answers⟩ := w
  cases answers with
  | nil => rfl
  | cons answer rest => cases answer <;> rfl

theorem ends_call {ok : Answer → World → Prop} {bad : ServiceError → World → Prop}
    {error : String → ServiceError} :
    Ends ok bad (call error) w ↔
      if w.failsAt 0 then bad (error w.detail) w.next else ok w.answer w.next := by
  rw [Ends, call_run]
  cases w.failsAt 0 <;> rfl

variable {ok : α → World → Prop} {done : Unit → World → Prop} {bad : ServiceError → World → Prop}
  {c : ConnectionId} {m : Metric}

theorem ends_query {read : Repository → α} :
    Ends ok bad (query read) w ↔
      if w.failsAt 0 then bad (.database w.detail) w.next else ok (read w.repo) w.next := by
  rw [query, ends_bind, ends_call]
  rfl

theorem ends_commit {write : Repository → Except ServiceError (α × Repository)} {a : α}
    (wrote : write w.repo = .ok (a, repo)) :
    Ends ok bad (call .database >>= fun _ => commit write) w ↔
      if w.failsAt 0 then bad (.database w.detail) w.next else ok a (w.wrote repo) := by
  have committed : commit write w.next = (.ok a, w.wrote repo) := by
    have same : write w.next.repo = .ok (a, repo) := wrote
    rw [commit, same]
    rfl
  rw [ends_bind, ends_call, ends_of_ok committed]

theorem ends_save {ok : MetricId → World → Prop} (saved : w.repo.save m = .ok (id, repo)) :
    Ends ok bad (storageSave m) w ↔
      if w.failsAt 0 then bad (.database w.detail) w.next else ok id (w.wrote repo) :=
  ends_commit saved

theorem ends_update (new : w.repo.update m = .ok repo) :
    Ends done bad (storageUpdate m) w ↔
      if w.failsAt 0 then bad (.database w.detail) w.next else done () (w.wrote repo) :=
  ends_commit (by rw [new]; rfl)

theorem ends_delete (gone : w.repo.delete id = .ok repo) :
    Ends done bad (storageDelete id) w ↔
      if w.failsAt 0 then bad (.database w.detail) w.next else done () (w.wrote repo) :=
  ends_commit (by rw [gone]; rfl)

theorem ends_getAdapter :
    Ends done bad (getAdapter c) w ↔ if w.hasAdapter c then done () w
      else bad (.connectionNotFound ("No adapter found for connection '" ++ c ++ "'")) w := by
  rw [Ends, getAdapter_apply]
  cases w.hasAdapter c <;> rfl

theorem ends_adapterSet {ok : Answer → World → Prop} :
    Ends ok bad (adapterSet c m) w ↔
      if w.failsAt 0 then bad (.adapter w.detail) (w.asked c m)
      else ok w.answer (w.asked c m) := by
  have reply : w.replyAt 0 = Answer.reply w.answers.head? := by
    rw [replyAt, head?_eq_getElem?]
  rw [adapterSet, ends_bind, asked, reply]
  exact ends_call

/-- Only a request that is lost is an error of a removal. -/
theorem ends_adapterRemove :
    Ends done bad (adapterRemove c m) w ↔
      if w.replyAt 0 = .lost then bad (.adapter w.detail) (w.dropped c m)
      else done () (w.dropped c m) := by
  obtain ⟨repo, adapters, handed, tracked, vfs, answers⟩ := w
  cases answers with
  | nil => rfl
  | cons answer rest => cases answer <;> rfl

end Calls

/-! ### Rolling back -/

/-- `OperationWithRollbackFailure`. -/
def reportsRollback : ServiceError → Bool
  | .operationWithRollbackFailure _ _ _ => true
  | _ => false

structure Unchanged (w after : World) : Prop where
  rows : after.repo.rows = w.repo.rows
  tracked : ∀ connectionId name,
    (after.tracked connectionId).get name = (w.tracked connectionId).get name

/-- **A failed call has rolled back**: it reports that it could not, or nothing has changed. -/
def RollsBack {α : Type} (p : Operation α) (w : World) : Prop :=
  FailsWith (fun e after => reportsRollback e = false → Unchanged w after) p w

theorem Unchanged.congr {w a b : World} (rows : a.repo.rows = b.repo.rows)
    (tracked : a.tracked = b.tracked) : Unchanged w a ↔ Unchanged w b := by
  constructor <;> exact fun same => ⟨rows ▸ same.rows, tracked ▸ same.tracked⟩

theorem unchanged_iff {w v : World} {c : ConnectionId} (rows : v.repo.rows = w.repo.rows)
    (isTracked : v.tracked = Function.update w.tracked c active) :
    Unchanged w v ↔ ∀ name, active.get name = (w.tracked c).get name := by
  constructor
  · intro same name
    rw [← same.tracked c name, isTracked, Function.update_self]
  · intro same
    refine ⟨rows, fun other name => ?_⟩
    rw [isTracked]
    by_cases isOne : other = c
    · rw [isOne, Function.update_self]
      exact same name
    · rw [Function.update_of_ne isOne]

def World.restored (t w : World) : World := { t with repo := w.repo }

theorem restored_iff {w t : World} {c : ConnectionId}
    (isTracked : t.tracked = Function.update w.tracked c active) :
    Unchanged w (t.restored w) ↔ ∀ name, active.get name = (w.tracked c).get name :=
  unchanged_iff (v := t.restored w) rfl isTracked

/-- A change of one name leaves the map as it was exactly if the name stands there as it leaves it. -/
theorem same_iff {changed : ActiveMetrics} {name : String} {left : Option Metric}
    (change : ∀ other, changed.get other = if other = name then left else active.get other) :
    (∀ other, changed.get other = active.get other) ↔ active.get name = left := by
  simp only [change]
  constructor
  · intro same
    rw [← same name, if_pos rfl]
  · intro stands other
    split
    next isName => rw [isName, stands]
    next => rfl

/-- The same for a metric that is set after a name was removed. -/
theorem erase_set_same_iff {name : String} {m : Metric} {reply : Reply} :
    (∀ other, ((active.erase name).set m reply).get other = active.get other) ↔
      active.get m.name = leaves m reply ∧
        (name ≠ m.name → active.get name = none) := by
  constructor
  · intro same
    constructor
    · rw [← same m.name, get_set, if_pos rfl]
    · intro ne
      rw [← same name, get_set, if_neg ne, get_erase, if_pos rfl]
  · rintro ⟨stands, missing⟩ other
    rw [get_set]
    split
    next isName => rw [isName, stands]
    next ne =>
      rw [get_erase]
      split
      next isErased => rw [isErased, missing (isErased ▸ ne)]
      next => rfl

/-! ### Inserting -/

theorem rows_of_save_delete {m : Metric} (done : repo.save m = .ok (id, saved))
    (deleted : saved.delete id = .ok after) :
    after.rows = repo.rows := by
  obtain ⟨rfl, rows, -⟩ := save_eq_ok done
  rw [(delete_eq_ok deleted).1, rows, filter_append]
  have kept : repo.rows.filter (·.id ≠ some repo.nextId) = repo.rows := by
    refine filter_eq_self.mpr fun row mem => ?_
    obtain ⟨id, isId, below⟩ := repo.numbered row mem
    rw [isId, decide_eq_true_eq, ne_eq, Option.some.injEq]
    exact Nat.ne_of_lt below
  have gone : [storedAs repo.nextId m].filter (·.id ≠ some repo.nextId) = [] := by
    simp [storedAs]
  rw [kept, gone, append_nil]

theorem delete_saved {m : Metric} (done : repo.save m = .ok (id, saved)) :
    ∃ after, saved.delete id = .ok after := by
  obtain ⟨rfl, rows, -⟩ := save_eq_ok done
  have stored : storedAs repo.nextId m ∈ saved.rows := by
    rw [rows]
    exact mem_append_right _ (.head _)
  exact delete_succeeds stored rfl

/-- The error reports that a rollback has failed, or the state satisfies `post`. -/
def Undone (post : World → Prop) (e : ServiceError) (after : World) : Prop :=
  reportsRollback e = false → post after

theorem rollsBack_iff {p : Operation α} {w : World} :
    RollsBack p w ↔ Ends (fun _ _ => True) (Undone (Unchanged w)) p w :=
  failsWith_iff

/-- The states in which `installMetric` fails. -/
theorem installMetric_fails {post : World → Prop} {v : World} {m : Metric}
    (gone : v.repo.delete id = .ok repo) :
    Ends (fun _ _ => True) (Undone post) (installMetric m id) v ↔
      (v.hasAdapter m.connectionId = false → post v) ∧
        (v.hasAdapter m.connectionId = true → v.failsAt 0 = true → v.failsAt 1 = false →
          post ((v.asked m.connectionId { m with id := some id }).wrote repo)) := by
  have rolledBack := @ends_delete repo id (v.asked m.connectionId { m with id := some id })
  rw [installMetric, ends_bind, ends_getAdapter]
  cases v.hasAdapter m.connectionId with
  | false => simp [Undone, reportsRollback]
  | true =>
    rw [if_pos rfl, ends_bind, ends_attempt, ends_adapterSet]
    cases v.failsAt 0 with
    | false => cases v.answer <;> simp [ends_pure]
    | true =>
      rw [if_pos rfl, ends_bind, ends_attempt, rolledBack gone, failsAt_asked]
      cases v.failsAt 1 <;> simp [ends_fail, Undone, reportsRollback]

/-- **The failing states of `insertMetric`**: the metric was not saved, or it was and there is no
adapter, or the adapter has refused it. -/
theorem insertMetric_fails {env : Env} {post : World → Prop} {v : World} {m : Metric}
    (done : v.repo.save (anchored env m).1 = .ok (id, saved)) (gone : saved.delete id = .ok repo)
    (warns : List OperationWarning) :
    Ends (fun _ _ => True) (Undone post) (insertMetric env m warns) v ↔
      (v.failsAt 0 = true → post v.next) ∧
        (v.failsAt 0 = false → m.enabled = true →
          (v.hasAdapter m.connectionId = false → post (v.wrote saved)) ∧
            (v.hasAdapter m.connectionId = true → v.failsAt 1 = true → v.failsAt 2 = false →
              post (((v.wrote saved).asked m.connectionId
                { (anchored env m).1 with id := some id }).wrote repo))) := by
  have sameFlag : (anchored env m).1.enabled = m.enabled := by
    obtain ⟨_, _, isAnchored⟩ := anchored_eq env m
    rw [isAnchored]
  have installs := @installMetric_fails repo id post (v.wrote saved) (anchored env m).1 gone
  rw [failsAt_wrote, failsAt_wrote] at installs
  rw [← anchored_connectionId env m, ← sameFlag, insertMetric, ends_bind, ends_save done]
  cases v.failsAt 0 with
  | true => simp [Undone, reportsRollback]
  | false =>
    by_cases on : (anchored env m).1.enabled = true
    · rw [if_pos on, ends_bind]
      exact installs.trans ⟨fun both => ⟨nofun, fun _ _ => both⟩, fun both => both.2 rfl on⟩
    · rw [if_neg on, ends_bind]
      exact iff_of_true trivial ⟨nofun, fun _ isOn => absurd isOn on⟩

/-! ### Adding -/

/-- **An insertion whose save is the `k`-th call is undone**: the save fails, or the connection has an
adapter, and if that refuses the metric, the deletion fails and is reported, or the name of the metric
is tracked as the request has left it. -/
def InsertUndone (env : Env) (w : World) (m : Metric) (k : Nat) : Prop :=
  w.failsAt k = false → m.enabled = true → w.hasAdapter m.connectionId = true ∧
    (w.failsAt (k + 1) = true → w.failsAt (k + 2) = false →
      (w.tracked m.connectionId).get m.name = leaves
        { (anchored env m).1 with id := some w.repo.nextId } (w.replyAt (k + 1)))

/-- **A replacement whose deletion is the `k`-th call is undone**: the deletion fails, and no logpoint
was removed, or all goes well, but for a rollback that fails and is reported. -/
def ReplaceUndone (w : World) (m existing : Metric) (k : Nat) : Prop :=
  (w.failsAt k = true → existing.enabled = true → w.hasAdapter m.connectionId = true →
    (w.tracked m.connectionId).get existing.name = none) ∧
  (w.failsAt k = false → w.failsAt (k + 1) = false ∧ (m.enabled = true →
    w.hasAdapter m.connectionId = true ∧ (w.failsAt (k + 2) = true → w.failsAt (k + 3) = true)))

/-- The call that deletes an existing metric: the lookup is before it, and the removal of a
logpoint. -/
def deletionCall (w : World) (m existing : Metric) : Nat :=
  if existing.enabled && w.hasAdapter m.connectionId then 2 else 1

/-- **A failed `add_metric` is undone.** -/
def AddUndone (env : Env) (w : World) (m : Metric) (replace : Bool) (content : Option String) : Prop :=
  AddAccepted env w m content → w.failsAt 0 = false →
    (w.repo.findByLocation m.connectionId m.location m.userId = none → InsertUndone env w m 1) ∧
      ∀ existing, w.repo.findByLocation m.connectionId m.location m.userId = some existing →
        replace = true → ReplaceUndone w m existing (deletionCall w m existing)

section Adding

variable {env : Env} {w v : World} {m existing : Metric}

theorem insert_undone_iff
    (missing : w.repo.findByLocation m.connectionId m.location m.userId = none)
    (warns : List OperationWarning) :
    Ends (fun _ _ => True) (Undone (Unchanged w)) (insertMetric env m warns) w.next ↔
      InsertUndone env w m 1 := by
  have free : ∀ row ∈ w.repo.rows, slot row ≠ slot (anchored env m).1 := by
    rw [anchored_slot]
    exact findByLocation_eq_none missing
  obtain ⟨saved, done⟩ := save_succeeds free
  obtain ⟨repo, gone⟩ := delete_saved done
  have isName : (anchored env m).1.name = m.name := by
    obtain ⟨_, _, isAnchored⟩ := anchored_eq env m
    rw [isAnchored]
  -- the saved row is one more, so a failure after the save is not undone
  have saves : ¬ Unchanged w (w.next.wrote saved) := by
    intro same
    have rows := congrArg length same.rows
    have more := congrArg length (save_eq_ok done).2.1
    simp [wrote] at rows more
    omega
  have sets : Unchanged w (((w.next.wrote saved).asked m.connectionId
      { (anchored env m).1 with id := some w.repo.nextId }).wrote repo) ↔
      (w.tracked m.connectionId).get m.name = leaves
        { (anchored env m).1 with id := some w.repo.nextId } (w.replyAt 2) := by
    rw [unchanged_iff (rows_of_save_delete done gone) rfl, ← isName, replyAt_wrote, replyAt_next]
    exact same_iff (get_set _ _)
  rw [insertMetric_fails (v := w.next) done gone, sets]
  simp only [failsAt_next]
  constructor
  · rintro ⟨-, both⟩ passes on
    obtain ⟨missingAdapter, no⟩ := both passes on
    have runs : w.hasAdapter m.connectionId = true := by
      by_contra none
      exact saves (missingAdapter (Bool.eq_false_iff.mpr none))
    exact ⟨runs, no runs⟩
  · intro undone
    refine ⟨fun _ => ⟨rfl, fun _ _ => rfl⟩, fun passes on => ?_⟩
    obtain ⟨runs, no⟩ := undone passes on
    exact ⟨fun none => (nomatch runs.symm.trans none), fun _ => no⟩

variable {bad : ServiceError → World → Prop}

/-- What `clearLogpoint` leaves, whatever the adapter answers. -/
theorem ends_clearLogpoint {ok : Unit → World → Prop} (c : ConnectionId) :
    Ends ok bad (clearLogpoint c existing) v ↔
      ok () (if existing.enabled && v.hasAdapter c then v.dropped c existing else v) := by
  unfold clearLogpoint
  cases existing.enabled with
  | false => rfl
  | true =>
    rw [if_pos rfl, ends_bind, ends_attempt, ends_getAdapter]
    cases v.hasAdapter c with
    | false => rfl
    | true =>
      rw [if_pos rfl, ends_bind, ends_attempt, ends_adapterRemove, ite_self]
      rfl

theorem replace_undone_iff
    (found : w.repo.findByLocation m.connectionId m.location m.userId = some existing)
    (warns : List OperationWarning) :
    Ends (fun _ _ => True) (Undone (Unchanged w))
      (do
        let warning ← replaceExisting m existing
        insertMetric env m (warns ++ [warning])) w.next ↔
      ReplaceUndone w m existing (deletionCall w m existing) := by
  obtain ⟨mem, sameConnection, sameLocation, sameOwner⟩ := findByLocation_eq_some found
  obtain ⟨id, isId, below⟩ := w.repo.numbered existing mem
  obtain ⟨repo, deleted⟩ := delete_succeeds mem isId
  -- the existing metric is gone, so nothing that fails from here on is undone
  have gone : ∀ after : World, existing ∉ after.repo.rows → ¬ Unchanged w after :=
    fun after isGone same => isGone (same.rows ▸ mem)
  have isGone : existing ∉ repo.rows := fun isIn =>
    ((mem_delete deleted mem isId).mp isIn).2 rfl
  have free : ∀ row ∈ repo.rows, slot row ≠ slot (anchored env m).1 := by
    intro row isIn isSlot
    rw [anchored_slot] at isSlot
    obtain ⟨isOld, ne⟩ := (mem_delete deleted mem isId).mp isIn
    refine ne (w.repo.slot_eq_of_slot isOld mem (isSlot.trans ?_))
    rw [slot, slot, sameLocation, sameConnection, sameOwner]
  obtain ⟨saved, done⟩ := save_succeeds free
  obtain ⟨undone, undeleted⟩ := delete_saved done
  have stillGone : existing ∉ saved.rows := by
    obtain ⟨-, rows, -⟩ := save_eq_ok done
    rw [rows, mem_append, not_or, mem_singleton]
    refine ⟨isGone, fun same => ?_⟩
    rw [same, storedAs, (delete_eq_ok deleted).2, Option.some.injEq] at isId
    exact Nat.lt_irrefl _ (isId ▸ below)
  have goneAgain : existing ∉ undone.rows := rows_of_save_delete done undeleted ▸ isGone
  have replaced : ∀ u : World, u.repo = w.repo →
      u.hasAdapter m.connectionId = w.hasAdapter m.connectionId → (Ends
        (fun warning t => Ends (fun _ _ => True) (Undone (Unchanged w))
          (insertMetric env m (warns ++ [warning])) t) (Undone (Unchanged w)) (do
          storageDelete id
          return .metricReplaced existing.name id (locationText m.location)) u ↔
        (u.failsAt 0 = true → Unchanged w u) ∧
        (u.failsAt 0 = false → u.failsAt 1 = false ∧ (m.enabled = true →
          w.hasAdapter m.connectionId = true ∧ (u.failsAt 2 = true → u.failsAt 3 = true)))) := by
    intro u isRepo isAdapter
    have inserts := @insertMetric_fails _ _ _ env (Unchanged w) (u.wrote repo) m done undeleted
    have notGone : Unchanged w u.next ↔ Unchanged w u := Unchanged.congr rfl rfl
    rw [ends_bind, ends_delete (isRepo ▸ deleted)]
    simp only [ends_pure, inserts, failsAt_wrote, hasAdapter_wrote]
    simp only [iff_false_intro (gone (u.wrote repo).next isGone), ← isAdapter,
      iff_false_intro (gone ((u.wrote repo).wrote saved) stillGone),
      iff_false_intro (gone (wrote (asked _ _ _) undone) goneAgain)]
    cases u.failsAt 0 with
    | true => simp [Undone, reportsRollback, notGone]
    | false => cases u.failsAt 1 <;> cases u.hasAdapter m.connectionId <;> simp
  rw [ends_bind, replaceExisting, isId]
  rw [ends_bind, ends_clearLogpoint, deletionCall]
  by_cases removes : (existing.enabled && w.hasAdapter m.connectionId) = true
  · have drops : Unchanged w (w.next.dropped m.connectionId existing) ↔
        (w.tracked m.connectionId).get existing.name = none :=
      (unchanged_iff (w := w) (v := w.next.dropped m.connectionId existing) rfl rfl).trans (same_iff (get_erase _))
    rw [if_pos removes, if_pos (by exact removes)]
    refine (replaced (w.next.dropped m.connectionId existing) rfl rfl).trans ?_
    rw [Bool.and_eq_true] at removes
    simp [ReplaceUndone, drops, removes]
  · rw [if_neg removes, if_neg (by exact removes)]
    refine (replaced w.next rfl rfl).trans ?_
    have kept : Unchanged w w.next := ⟨rfl, fun _ _ => rfl⟩
    rw [Bool.and_eq_true, not_and] at removes
    simpa [ReplaceUndone, kept] using fun _ _ on runs => absurd runs (removes on)

/-- The logpoint of a merged metric is set again without an error. -/
theorem ends_resetLogpoint {c : ConnectionId} :
    Ends (fun _ _ => True) bad (resetLogpoint c existing m) v := by
  rw [resetLogpoint, ends_bind, ends_attempt, ends_getAdapter]
  split
  · simp [ends_bind, ends_attempt, ends_adapterRemove, ends_adapterSet, ends_pure, ite_self]
  · trivial

theorem merge_undone (mem : existing ∈ w.repo.rows) (warns : List OperationWarning) :
    Ends (fun _ _ => True) (Undone (Unchanged w)) (mergeInto m existing warns) w.next := by
  obtain ⟨id, isId, -⟩ := w.repo.numbered existing mem
  have sameSlot : ∀ other ∈ w.repo.rows, other ≠ existing →
      slot other ≠ slot (writeColumns existing (mergeExpressions existing m)) :=
    fun other has ne taken => ne (w.repo.slot_eq_of_slot has mem taken)
  obtain ⟨repo, new⟩ : ∃ repo, w.repo.update (mergeExpressions existing m) = .ok repo :=
    (update_succeeds_iff (m := mergeExpressions existing m) mem rfl).mpr sameSlot
  rw [mergeInto, isId]
  dsimp only
  split
  · trivial
  · rw [ends_bind, ends_update (w := w.next) new]
    split
    · exact fun _ => ⟨rfl, fun _ _ => rfl⟩
    · split
      · rw [ends_bind]
        exact ends_resetLogpoint
      · trivial

theorem unchanged_keeps (text : Option String) : Unchanged (w.keeps m text) = Unchanged w := by
  funext after
  exact propext ⟨fun same => ⟨same.rows, same.tracked⟩, fun same => ⟨same.rows, same.tracked⟩⟩

/-- What is left to be undone once the lookup has returned. -/
theorem found_undone_iff (replace : Bool) (warns : List OperationWarning) :
    Ends (fun _ _ => True) (Undone (Unchanged w)) (addFound env m replace warns
        (w.repo.findByLocation m.connectionId m.location m.userId)) w.next ↔
      (w.repo.findByLocation m.connectionId m.location m.userId = none → InsertUndone env w m 1) ∧
        ∀ existing, w.repo.findByLocation m.connectionId m.location m.userId = some existing →
          replace = true → ReplaceUndone w m existing (deletionCall w m existing) := by
  cases found : w.repo.findByLocation m.connectionId m.location m.userId with
  | none =>
    refine (insert_undone_iff found warns).trans ⟨fun undone => ⟨fun _ => undone, ?_⟩, fun both => ?_⟩
    · exact fun _ isSome => nomatch isSome
    · exact both.1 rfl
  | some existing =>
    cases replace with
    | false =>
      exact iff_of_true (merge_undone (findByLocation_eq_some found).1 warns)
        ⟨fun isNone => (nomatch isNone), fun _ _ yes => (nomatch yes)⟩
    | true =>
      refine (replace_undone_iff found warns).trans ⟨fun undone => ⟨?_, ?_⟩, fun both => ?_⟩
      · exact nofun
      · intro other ne _
        rw [← Option.some.inj ne]
        exact undone
      · exact both.2 existing rfl rfl

/-- **`add_metric`** rolls back exactly under the condition. -/
theorem add_undone_iff (env : Env) (w : World) (m : Metric) (replace : Bool)
    (text : Option String) :
    RollsBack (addMetric env m replace text) w ↔ AddUndone env w m replace text := by
  rw [rollsBack_iff]
  rcases addMetric_checked env m replace text w with ⟨notAccepted, e, no⟩ | ⟨ok, warns, isRun⟩
  · rw [ends_of_error no]
    exact iff_of_true (fun _ => ⟨rfl, fun _ _ => rfl⟩) fun isAccepted => absurd isAccepted notAccepted
  · have found := @found_undone_iff env (w.keeps m text) m replace warns
    have calls : (w.keeps m text).failsAt 0 = w.failsAt 0 := rfl
    rw [Ends, isRun]
    refine ends_bind.trans (ends_query.trans ?_)
    rw [calls, ← unchanged_keeps (m := m) text]
    unfold AddUndone
    cases w.failsAt 0 with
    | true =>
      exact iff_of_true (fun _ => ⟨rfl, fun _ _ => rfl⟩) fun _ fine => by cases fine
    | false => exact found.trans ⟨fun undone _ _ => undone, fun undone => undone ok rfl⟩

end Adding

/-! ### Toggling -/

/-- The logpoint of a location as it is after the flag of a metric was written. -/
def toggledLogpoint (repo : Repository) (m : Metric) (enabled : Bool) : Option Metric :=
  logpoint (((repo.findAllAtLocation m.connectionId m.location).map fun row =>
    if row = m then { m with enabled } else row).filter (·.enabled))

/-- **A failed toggle of a stored metric is undone.** The lookup and the update are the calls 0 and
1, the lookup of the others is call 2. A request to the adapter that fails leaves its trace in the map
of the adapter, unless the names stand there already as the request leaves them, or the rollback
fails and is reported. -/
def ToggleUndone (w : World) (m : Metric) (enabled : Bool) : Prop :=
  w.hasAdapter m.connectionId = true → w.failsAt 2 = false →
    (enabled = true → ∀ merged, toggledLogpoint w.repo m enabled = some merged →
      w.failsAt 3 = true → w.failsAt 4 = false →
        (w.tracked m.connectionId).get merged.name = leaves merged (w.replyAt 3)) ∧
    (enabled = false → w.replyAt 3 = .lost → w.failsAt 4 = false →
      (w.tracked m.connectionId).get m.name = none) ∧
    (enabled = false → w.replyAt 3 ≠ .lost → ∀ merged, toggledLogpoint w.repo m enabled = some merged →
      w.failsAt 4 = true → w.failsAt 5 = false →
        (w.tracked m.connectionId).get merged.name = leaves merged (w.replyAt 4) ∧
          (m.name ≠ merged.name → (w.tracked m.connectionId).get m.name = none))

section Toggling

variable {w v : World} {m : Metric} {enabled : Bool}

theorem logpoint_of_update (mem : m ∈ repo.rows)
    (new : repo.update { m with enabled } = .ok after) :
    logpoint ((after.findAllAtLocation m.connectionId m.location).filter (·.enabled)) =
      toggledLogpoint repo m enabled := by
  obtain ⟨id, isId, rows, -⟩ := update_eq_ok new
  unfold toggledLogpoint findAllAtLocation
  rw [rows, map_congr_left fun row => rewrite_flag mem isId enabled, filter_map]
  congr 3
  refine filter_congr fun row _ => ?_
  simp only [Function.comp_apply]
  split
  next same => rw [same]
  next => rfl

theorem rows_of_update_update {toggled : Repository} (mem : m ∈ repo.rows)
    (new : repo.update { m with enabled } = .ok toggled)
    (restored : toggled.update m = .ok after) :
    after.rows = repo.rows := by
  obtain ⟨id, isId, rows, -⟩ := update_eq_ok new
  obtain ⟨other, isOther, back, -⟩ := update_eq_ok restored
  have isM : m.id = some id := isId
  cases isM.symm.trans isOther
  rw [back, rows, map_map]
  refine (map_congr_left fun row isIn => ?_).trans (map_id _)
  show rewrite id m (rewrite id { m with enabled } row) = row
  rw [rewrite_flag mem isM enabled isIn]
  split
  next same =>
    subst same
    exact (if_pos isM).trans (writeColumns_eq (repo.readable row mem) rfl)
  next ne =>
    exact if_neg fun isRow => ne (repo.eq_of_id isIn mem (isRow.trans isM.symm))

theorem restore_succeeds {toggled : Repository} (mem : m ∈ repo.rows)
    (new : repo.update { m with enabled } = .ok toggled) :
    ∃ after, toggled.update m = .ok after := by
  have stored : { m with enabled } ∈ toggled.rows :=
    (mem_update new mem rfl).mpr (.inl (writeColumns_flag mem enabled).symm)
  exact update_flag_succeeds (m := { m with enabled }) stored m.enabled

/-- What is left to be undone once the flag was written. -/
theorem toggleLogpoint_undone_iff (mem : m ∈ w.repo.rows)
    (new : w.repo.update { m with enabled } = .ok repo) :
    Ends (fun _ _ => True) (fun _ t => t.failsAt 0 = false → Unchanged w (t.restored w))
        (toggleLogpoint { m with enabled } enabled) (w.next.wrote repo) ↔ ToggleUndone w m enabled := by
  have isLogpoint : logpoint (((w.next.wrote repo).repo.findAllAtLocation m.connectionId
      m.location).filter (·.enabled)) = toggledLogpoint w.repo m enabled := logpoint_of_update mem new
  -- what the adapter tracks in the three states in which a request has failed
  have asks : ∀ merged, Unchanged w (((w.next.wrote repo).next.asked m.connectionId merged).restored w) ↔
      (w.tracked m.connectionId).get merged.name = leaves merged (w.replyAt 3) := by
    intro merged
    rw [restored_iff (w := w) rfl, replyAt_next, replyAt_wrote, replyAt_next]
    exact same_iff (get_set _ _)
  have drops : Unchanged w (((w.next.wrote repo).next.dropped m.connectionId
      { m with enabled }).restored w) ↔ (w.tracked m.connectionId).get m.name = none := by
    rw [restored_iff (w := w) rfl]
    exact same_iff (get_erase _)
  have dropsAsks : ∀ merged, Unchanged w ((((w.next.wrote repo).next.dropped m.connectionId
      { m with enabled }).asked m.connectionId merged).restored w) ↔
      (w.tracked m.connectionId).get merged.name = leaves merged (w.replyAt 4) ∧
        (m.name ≠ merged.name → (w.tracked m.connectionId).get m.name = none) := by
    intro merged
    have isTracked : (((w.next.wrote repo).next.dropped m.connectionId { m with enabled }).asked
        m.connectionId merged).tracked = Function.update w.tracked m.connectionId
          (((w.tracked m.connectionId).erase m.name).set merged (w.replyAt 4)) := by
      rw [asked, replyAt_dropped, replyAt_next, replyAt_wrote, replyAt_next]
      show Function.update (Function.update w.tracked m.connectionId _) m.connectionId
        (set (Function.update w.tracked m.connectionId _ m.connectionId) merged _) = _
      rw [Function.update_self, Function.update_idem]
      rfl
    rw [restored_iff isTracked]
    exact erase_set_same_iff
  have unmoved : ∀ after : World, after.tracked = w.tracked → Unchanged w (after.restored w) :=
    fun after isSame => ⟨rfl, fun c name => by rw [← isSame]; rfl⟩
  unfold toggleLogpoint ToggleUndone
  rw [ends_bind, ends_getAdapter, hasAdapter_wrote, next_hasAdapter]
  cases w.hasAdapter m.connectionId with
  | false => exact iff_of_true (fun _ => unmoved _ rfl) nofun
  | true =>
    rw [if_pos rfl, ends_bind, ends_query, failsAt_wrote, failsAt_next]
    cases w.failsAt 2 with
    | true => exact iff_of_true (fun _ => unmoved _ rfl) fun _ => nofun
    | false =>
      rw [isLogpoint]
      cases toggledLogpoint w.repo m enabled with
      | none =>
        cases enabled with
        | true => simp [ends_pure]
        | false => simp [ends_bind, ends_adapterRemove, ends_pure, drops]
      | some merged =>
        cases enabled with
        | true => simp [ends_bind, ends_adapterSet, ends_pure, asks]
        | false =>
          by_cases lost : w.replyAt 3 = .lost <;>
            simp [ends_bind, ends_adapterRemove, ends_adapterSet, ends_pure, drops, dropsAsks, lost]

/-- A failed toggle of the logpoint has not touched the rows. -/
theorem toggleLogpoint_fails :
    FailsWith (fun e t => reportsRollback e = false ∧ t.repo = v.repo) (toggleLogpoint m enabled) v := by
  rw [failsWith_iff, toggleLogpoint, ends_bind, ends_getAdapter]
  split
  · rw [ends_bind, ends_query]
    split
    · exact ⟨rfl, rfl⟩
    · cases logpoint ((v.repo.findAllAtLocation m.connectionId m.location).filter (·.enabled)) <;>
        cases enabled <;>
          simp [ends_bind, ends_adapterRemove, ends_adapterSet, ends_pure, reportsRollback]
  · exact ⟨rfl, rfl⟩

/-- A failure after the flag was written: it is written back. -/
theorem restore_undone_iff {e : ServiceError} {text : String} {t : World} (silent : reportsRollback e = false)
    (mem : m ∈ w.repo.rows) (new : w.repo.update { m with enabled } = .ok repo)
    (isRepo : t.repo = repo) :
    Ends (fun (_ : ToggleMetricResult) _ => True) (Undone (Unchanged w)) (do
        match ← (storageUpdate m).attempt with
        | .error rollback => .fail (.operationWithRollbackFailure e.message rollback.message text)
        | .ok _ => .fail e) t ↔ (t.failsAt 0 = false → Unchanged w (t.restored w)) := by
  obtain ⟨restored, back⟩ := restore_succeeds mem new
  have isSame : Unchanged w (t.wrote restored) ↔ Unchanged w (t.restored w) :=
    Unchanged.congr (rows_of_update_update mem new back) rfl
  rw [ends_bind, ends_attempt, ends_update (isRepo ▸ back)]
  cases t.failsAt 0 with
  | true => simp [ends_fail, Undone, reportsRollback]
  | false => simp [ends_fail, Undone, silent, isSame]

end Toggling

/-- **`toggle_metric`** rolls back exactly under the condition. -/
theorem toggle_undone_iff (w : World) (id : MetricId) (enabled : Bool) (scope : MetricScope) :
    RollsBack (toggleMetric id enabled scope) w ↔
      ∀ m, w.repo.findById id = some m → scope.canMutate m = true → m.enabled ≠ enabled →
        w.failsAt 0 = false → w.failsAt 1 = false → ToggleUndone w m enabled := by
  have same : ∀ e, Undone (Unchanged w) e w.next := fun _ _ => ⟨rfl, fun _ _ => rfl⟩
  rw [rollsBack_iff, toggleMetric, ends_bind, findMetric, ends_bind, ends_query]
  cases w.failsAt 0 with
  | true => exact iff_of_true (same _) fun _ _ _ _ fine => by cases fine
  | false =>
    cases found : w.repo.findById id with
    | none => exact iff_of_true (same _) fun _ isSome => by cases isSome
    | some m =>
      obtain ⟨mem, -⟩ := findById_eq_some found
      have one : (∀ other, some m = some other → scope.canMutate other = true → other.enabled ≠ enabled →
          false = false → w.failsAt 1 = false → ToggleUndone w other enabled) ↔
          (scope.canMutate m = true → m.enabled ≠ enabled → w.failsAt 1 = false →
            ToggleUndone w m enabled) := by
        simp
      rw [one]
      refine ends_bind.trans ?_
      unfold checkMutateAccess
      by_cases may : scope.canMutate m = true
      · rw [if_pos may]
        refine ends_pure.trans ?_
        by_cases isSame : m.enabled = enabled
        · rw [if_pos isSame]
          exact iff_of_true trivial fun _ ne => absurd isSame ne
        · obtain ⟨repo, new⟩ := update_flag_succeeds mem enabled
          rw [if_neg isSame, ends_bind, ends_update (w := w.next) new, failsAt_next]
          cases w.failsAt 1 with
          | true => exact iff_of_true (fun _ => ⟨rfl, fun _ _ => rfl⟩) fun _ _ fine => by cases fine
          | false =>
            rw [if_neg Bool.false_ne_true, ends_bind, ends_attempt]
            refine (ends_congr toggleLogpoint_fails fun e t known =>
              restore_undone_iff known.1 mem new known.2).trans ?_
            exact (toggleLogpoint_undone_iff mem new).trans
              ⟨fun undone _ _ _ => undone, fun undone => undone may isSame rfl⟩
      · rw [if_neg may]
        exact iff_of_true (same _) fun isMay => absurd isMay may

/-- **A failed call of `add_metric` or `toggle_metric` leaves the rows and the tracked metrics as they
were exactly if the step that fails is one that is undone.** -/
theorem failed_calls_undone_iff (env : Env) (w : World) (m : Metric) (replace : Bool)
    (content : Option String) (id : MetricId) (enabled : Bool) (scope : MetricScope) :
    (RollsBack (addMetric env m replace content) w ↔ AddUndone env w m replace content) ∧
      (RollsBack (toggleMetric id enabled scope) w ↔
        ∀ stored, w.repo.findById id = some stored → scope.canMutate stored = true →
          stored.enabled ≠ enabled → w.failsAt 0 = false → w.failsAt 1 = false →
            ToggleUndone w stored enabled) :=
  ⟨add_undone_iff env w m replace content, toggle_undone_iff w id enabled scope⟩

/-! ### Three calls that leave traces -/

section Sample

def addedWorld : World :=
  (addMetric smallService smallMetric false none { emptyWorld with adapters := [("c", false)] }).2

/-- A metric is added to a connection without adapter, a metric is replaced and the new one cannot be
saved, and a metric is disabled and the request to the debugger is lost. The first one stays stored,
the second one is gone, and the third one is not tracked any more although it is enabled. -/
theorem failed_calls_leave_traces :
    (addMetric smallService smallMetric false none emptyWorld).1 =
        .error (.connectionNotFound "No adapter found for connection 'c'") ∧
      (addMetric smallService smallMetric false none emptyWorld).2.repo.rows.map (·.name) = ["m"] ∧
      (addMetric smallService smallMetric true none
        { addedWorld with answers := [.done, .done, .done, .fails "disk full"] }).1 =
          .error (.database "disk full") ∧
      (addMetric smallService smallMetric true none
        { addedWorld with answers := [.done, .done, .done, .fails "disk full"] }).2.repo.rows = [] ∧
      (toggleMetric 1 false .admin
        { addedWorld with answers := [.done, .done, .done, .fails "timeout"] }).1 =
          .error (.adapter "timeout") ∧
      ((toggleMetric 1 false .admin
        { addedWorld with answers := [.done, .done, .done, .fails "timeout"] }).2.tracked "c").metrics =
          [] ∧
      addedWorld.repo.rows.map (fun row => (row.name, row.enabled)) = [("m", true)] ∧
      (addedWorld.tracked "c").metrics.map (·.name) = ["m"] := by
  decide

end Sample

end Detrix.Service
