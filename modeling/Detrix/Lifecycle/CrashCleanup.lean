/-
**Crash cleanup.**

`cleanup_removes_sender`: in every run in which listeners are spawned only while no adapter is
stored, and an adapter is stored only while no other listener runs and no request of another one is
waiting, the instance that the cleanup task removes for a request is the one whose listener has sent
it.

A request carries only the connection. If the connection is started again while a request waits in
the queue, the new adapter is removed: `restarted_adapter_torn_down`.
-/

import Detrix.Lifecycle.Machine

namespace Detrix.Lifecycle

open Library List Lifecycle

/-! ### What a step of a call does to the stored adapter and the listeners -/

/-- A step leaves the requests alone; it stores or removes an adapter or leaves it, and listeners end
or one is spawned. -/
structure Touches (me : Instance) (ok : Bool) (call : Call) (s t : Lifecycle) : Prop where
  outstanding : t.outstanding = s.outstanding
  torn : t.torn = s.torn
  stored : t.stored = s.stored ∨ t.stored = none ∨ (call.stores = true ∧ t.stored = some me)
  listening : (∀ x ∈ t.listening, x ∈ s.listening) ∨
    (call.subscribes = true ∧ ok = true ∧ t.stored = s.stored)

section Steps

variable {maxRetries : Nat} {me : Instance} {ok : Bool} {s : Lifecycle}

/-- The stored adapter and the listeners are left alone. -/
theorem Touches.nothing {call : Call} {t : Lifecycle} (outstanding : t.outstanding = s.outstanding)
    (torn : t.torn = s.torn) (stored : t.stored = s.stored) (listening : t.listening = s.listening) :
    Touches me ok call s t :=
  ⟨outstanding, torn, .inl stored, .inl fun _ isIn => listening ▸ isIn⟩

theorem stop_touches (call : Call) (pc : StopPc) : Touches me ok call s (stopStep s pc).1 := by
  cases pc with
  | removing =>
    simp only [stopStep]
    split
    · exact ⟨rfl, rfl, .inr (.inl rfl), .inl fun _ => id⟩
    · exact .nothing rfl rfl rfl rfl
  | stopping victim =>
    exact ⟨rfl, rfl, .inl rfl, .inl fun x isIn => (mem_filter.mp isIn).1⟩

theorem start_touches (port : Port) (pc : StartPc) :
    Touches me ok (.start port pc) s (startStep maxRetries port me ok s pc).1 := by
  cases pc with
  | enter retries | waiting retries | looking retries | creating =>
    simp only [startStep]
    split <;> exact .nothing rfl rfl rfl rfl
  | takeOver | claim | checking | confirming | releasing => exact .nothing rfl rfl rfl rfl
  | replacing inner => exact stop_touches _ inner
  | subscribing =>
    simp only [startStep]
    split
    next succeeds => exact ⟨rfl, rfl, .inl rfl, .inr ⟨rfl, succeeds, rfl⟩⟩
    next => exact .nothing rfl rfl rfl rfl
  | discarding =>
    exact ⟨rfl, rfl, .inl rfl, .inl fun x isIn => (mem_filter.mp isIn).1⟩
  | storing => exact ⟨rfl, rfl, .inr (.inr ⟨rfl, rfl⟩), .inl fun _ => id⟩

theorem register_touches (pc : RegisterPc) :
    Touches me ok (.register pc) s (registerStep me ok s pc).1 := by
  cases pc with
  | checking => exact .nothing rfl rfl rfl rfl
  | replacing inner => exact stop_touches _ inner
  | subscribing =>
    simp only [registerStep]
    split
    next succeeds => exact ⟨rfl, rfl, .inl rfl, .inr ⟨rfl, succeeds, rfl⟩⟩
    next => exact .nothing rfl rfl rfl rfl
  | storing => exact ⟨rfl, rfl, .inr (.inr ⟨rfl, rfl⟩), .inl fun _ => id⟩

theorem Call.touches (call : Call) : Touches me ok call s (call.step maxRetries me ok s).1 := by
  cases call with
  | start port pc => exact start_touches port pc
  | register pc => exact register_touches pc
  | stop pc => exact stop_touches _ pc
  | returned => exact .nothing rfl rfl rfl rfl

end Steps

/-! ### The invariant -/

/-- **While an adapter is stored, listeners and requests are its own**, and so were those that the
cleanup task has served. -/
structure Matched (s : Lifecycle) : Prop where
  own : ∀ y, s.stored = some y → ∀ x, x ∈ s.listening ∨ x ∈ s.outstanding → x = y
  torn : ∀ pair ∈ s.torn, pair.1 = pair.2

/-- **Listeners are spawned only while no adapter is stored, and an adapter is stored only while no
other listener runs and no request of another one waits or was received.** -/
def Fresh (s : System) : Event → Prop
  | .advance i ok => ∀ call ∈ s.calls[i]?,
    (call.subscribes = true → ok = true → s.shared.stored = none) ∧
      (call.stores = true →
        (∀ x ∈ s.shared.listening, x = i) ∧ ∀ x ∈ s.shared.outstanding, x = i)
  | .begin _ | .crash _ | .crashElsewhere | .cleanUp => True

theorem Lifecycle.mem_outstanding {s : Lifecycle} {x : Instance} :
    x ∈ s.outstanding ↔ some x ∈ s.requests ∨ s.cleanup.sender = some x := by
  simp [outstanding, reduceOption_mem_iff]

namespace Matched

variable {s t : Lifecycle}

theorem of_none (missing : s.stored = none) (torn : ∀ pair ∈ s.torn, pair.1 = pair.2) : Matched s where
  own := fun _ stored => nomatch missing.symm.trans stored
  torn := torn

theorem shrink (matched : Matched s) (stored : t.stored = s.stored)
    (fewer : ∀ x, x ∈ t.listening ∨ x ∈ t.outstanding → x ∈ s.listening ∨ x ∈ s.outstanding)
    (torn : t.torn = s.torn) : Matched t where
  own := fun y isStored x isIn => matched.own y (stored.symm.trans isStored) x (fewer x isIn)
  torn := by
    rw [torn]
    exact matched.torn

theorem crash (matched : Matched s) (x : Instance) : Matched (s.crash x) := by
  unfold Lifecycle.crash
  split
  next reports =>
    refine matched.shrink rfl (fun y isIn => ?_) rfl
    rcases isIn with listens | isOutstanding
    · exact .inl (mem_filter.mp listens).1
    · rw [Lifecycle.mem_outstanding, mem_append, mem_singleton] at isOutstanding
      rw [Lifecycle.mem_outstanding]
      rcases isOutstanding with (waits | new) | got
      · exact .inr (.inl waits)
      · exact .inl (Option.some.inj new ▸ reports.1)
      · exact .inr (.inr got)
  next => exact matched

theorem crashElsewhere (matched : Matched s) : Matched s.crashElsewhere := by
  unfold Lifecycle.crashElsewhere
  split
  · refine matched.shrink rfl (fun y isIn => isIn.imp_right fun isOutstanding => ?_) rfl
    rw [Lifecycle.mem_outstanding, mem_append, mem_singleton] at isOutstanding
    rw [Lifecycle.mem_outstanding]
    exact isOutstanding.imp_left fun waits => waits.resolve_right nofun
  · exact matched

/-- The cleanup task removes the sender of the request it has received. -/
theorem cleanUp (matched : Matched s) : Matched s.cleanUp := by
  have step := s.cleanUp_cleansUp
  generalize s.cleanUp = t at step ⊢
  cases step with
  | idle => exact matched
  | elsewhere rest first waits =>
    refine matched.shrink rfl (fun x isIn => isIn.imp_right fun isOutstanding => ?_) rfl
    rw [mem_outstanding] at isOutstanding ⊢
    rw [first]
    exact isOutstanding.imp_left (mem_cons_of_mem _)
  | receive sender rest first waits =>
    refine matched.shrink rfl (fun x isIn => isIn.imp_right fun isOutstanding => ?_) rfl
    rw [mem_outstanding] at isOutstanding ⊢
    rw [first]
    rcases isOutstanding with stillWaits | got
    · exact .inl (.tail _ stillWaits)
    · exact .inl (got ▸ (.head _))
  | remove sender victim removing stored =>
    refine .of_none rfl fun pair isIn => ?_
    rcases mem_append.mp isIn with before | now
    · exact matched.torn pair before
    · rw [mem_singleton.mp now]
      refine matched.own victim stored sender (.inr ?_)
      rw [mem_outstanding, removing]
      exact .inr rfl
  | missing sender removing isMissing => exact .of_none isMissing matched.torn
  | finish victim stopping =>
    refine matched.shrink rfl (fun x isIn => ?_) rfl
    rcases isIn with listens | isOutstanding
    · exact .inl (mem_filter.mp listens).1
    · rw [mem_outstanding] at isOutstanding ⊢
      exact .inr (.inl (isOutstanding.resolve_right nofun))

theorem call (matched : Matched s) {i : Nat} {ok : Bool} {c : Call} (touches : Touches i ok c s t)
    (spawns : c.subscribes = true → ok = true → s.stored = none)
    (stores : c.stores = true → (∀ x ∈ s.listening, x = i) ∧ ∀ x ∈ s.outstanding, x = i) :
    Matched t := by
  have torn : ∀ pair ∈ t.torn, pair.1 = pair.2 := by
    rw [touches.torn]
    exact matched.torn
  rcases touches.listening with ends | ⟨subscribes, succeeds, same⟩
  · have fewer : ∀ x, x ∈ t.listening ∨ x ∈ t.outstanding → x ∈ s.listening ∨ x ∈ s.outstanding := by
      intro x isIn
      rw [touches.outstanding] at isIn
      exact isIn.imp_left (ends x)
    rcases touches.stored with same | gone | ⟨isStore, isOwn⟩
    · exact matched.shrink same fewer touches.torn
    · exact .of_none gone torn
    · obtain ⟨listens, waits⟩ := stores isStore
      refine ⟨fun y stored x isIn => ?_, torn⟩
      have isI : x = i := (fewer x isIn).elim (listens x) (waits x)
      exact isI.trans (Option.some.inj (isOwn.symm.trans stored))
  · exact .of_none (same.trans (spawns subscribes succeeds)) torn

end Matched

theorem matched_step {maxRetries : Nat} (s : System) (event : Event) (matched : Matched s.shared)
    (fresh : Fresh s event) : Matched (s.step maxRetries event).shared := by
  cases event with
  | begin call => cases call <;> exact matched.shrink rfl (fun _ => id) rfl
  | advance i ok =>
    cases known : s.calls[i]? with
    | none =>
      rw [System.step_missing known]
      exact matched
    | some call =>
      rw [System.step_advance known]
      obtain ⟨spawns, stores⟩ := fresh call known
      exact matched.call call.touches spawns stores
  | crash x => exact matched.crash x
  | crashElsewhere => exact matched.crashElsewhere
  | cleanUp => exact matched.cleanUp

/-- **Crash cleanup removes only the crashed adapter**, in every run with fresh starts. -/
theorem cleanup_removes_sender (maxRetries : Nat) (events : List Event)
    (fresh : Run.Allowed (System.step maxRetries) Fresh .new events) :
    ∀ sender victim, (sender, victim) ∈ (Run.after (System.step maxRetries) .new events).shared.torn →
      victim = sender := by
  have start : Matched System.new.shared := .of_none rfl (by simp [System.new, new])
  have keeps : ∀ s event, Matched s.shared → Fresh s event →
      Matched (s.step maxRetries event).shared := matched_step
  have matched := Run.invariant_after (System.step maxRetries) keeps events .new start fresh
  exact fun sender victim isIn => (matched.torn (sender, victim) isIn).symm

/-! ### A restart after a crash -/

section Sample

instance instDecidableFresh (s : System) : (event : Event) → Decidable (Fresh s event)
  | .advance i _ => inferInstanceAs (Decidable (∀ call ∈ s.calls[i]?, _ ∧ _))
  | .begin _ | .crash _ | .crashElsewhere | .cleanUp => .isTrue trivial

/-- A connection is started, its adapter crashes and is cleaned up, and the connection is started
again. -/
def cleanedUp : List Event :=
  Event.begin (.start 1) :: replicate 7 (Event.advance 0 true) ++
    [Event.crash 0, .cleanUp, .cleanUp, .cleanUp, .begin (.start 1)] ++
    replicate 7 (Event.advance 1 true)

theorem cleaned_up_crashed_adapter :
    (Run.after (System.step 3) .new cleanedUp).shared.torn = [(0, 0)] ∧
      (Run.after (System.step 3) .new cleanedUp).shared.stored = some 1 ∧
      ∀ sender victim, (sender, victim) ∈ (Run.after (System.step 3) .new cleanedUp).shared.torn →
        victim = sender := by
  refine ⟨by decide, by decide, ?_⟩
  exact cleanup_removes_sender 3 cleanedUp (by decide)

/-- The connection is started again before the cleanup task gets to the request. -/
def restarted : List Event :=
  Event.begin (.start 1) :: replicate 7 (Event.advance 0 true) ++
    [Event.crash 0, .begin (.start 1)] ++ replicate 9 (Event.advance 1 true) ++
    [Event.cleanUp, .cleanUp, .cleanUp]

/-- The request of the first adapter has removed the second one. -/
theorem restarted_adapter_torn_down :
    (Run.after (System.step 3) .new restarted).shared.torn = [(0, 1)] ∧
      (Run.after (System.step 3) .new restarted).shared.stored = none ∧
      (Run.after (System.step 3) .new restarted).shared.live = [] := by
  decide

end Sample

end Detrix.Lifecycle
