/-
**No adapter and no forwarder is leaked.**

Once all calls have returned, every slot is settled (`Sound`). The number of active connections is up to
date or about to be brought up to date, if the registry does not change between the reading of its
length and the storing of it (`Counted`).

- `counts_teardown`, `counts_create`, `counts_close`, `counts_stopAll`: what each step does to the
  registry and to the number.
- `Counted.step`: the number, over one step of the system.
- `no_leak_of_orderly`: both, over all interleavings.
- `one_adapter_runs`: what holds while calls are in progress.
-/

import Detrix.AgentProcess.Slots

namespace Detrix.AgentProcess

open Library Calls AgentProcess.System List Run

/-! ### The number of active connections -/

/-- The registry has changed, and its length is going to be stored. -/
def Teardown.recounts : Teardown → Bool
  | .stopAdapter _ | .readLen | .storeLen _ => true
  | _ => false

namespace Call

def recounts : Call → Bool
  | .create _ _ (.replacing _ pc) => pc.recounts
  | .create _ _ (.readLen _) | .create _ _ (.storeLen _ _) => true
  | .close _ (.tearing pc) => pc.recounts
  | .stopAll (.removeEach _) | .stopAll (.stopEach _ _) | .stopAll .readLen
  | .stopAll (.storeLen _) => true
  | _ => false

def storing : Call → Option Nat
  | .create _ _ (.replacing _ (.storeLen n)) | .create _ _ (.storeLen _ n)
  | .close _ (.tearing (.storeLen n)) | .stopAll (.storeLen n) => some n
  | _ => none

/-- The next step of the call may change the registry. -/
def changesRegistry : Call → Bool
  | .create _ _ (.replacing _ .removeAdapter) | .create _ _ (.insert _)
  | .close _ (.tearing .removeAdapter) | .stopAll (.removeEach _) => true
  | _ => false

end Call

/-- What a step does to the registry and to the number: nothing, or the registry changes and the call is
going to store its length, or the length is stored. -/
inductive Counts (m : AdapterManager) (call : Call) (t : AdapterManager) (next : Call) : Prop
  | same (adapters : t.adapters = m.adapters) (active : t.activeConnections = m.activeConnections)
      (recounts : call.recounts = true → next.recounts = true)
      (stores : ∀ n, next.storing = some n → n = m.count)
  | changed (changes : call.changesRegistry = true) (recounts : next.recounts = true)
      (stores : next.storing = none)
  | stored (n : Nat) (stores : call.storing = some n) (adapters : t.adapters = m.adapters)
      (active : t.activeConnections = n) (done : next.storing = none)

variable {call : Call} {t : AdapterManager}

section Counting

variable {m : AdapterManager} (c : String)

theorem abortForwarder_counts : (m.abortForwarder c).adapters = m.adapters ∧
      (m.abortForwarder c).activeConnections = m.activeConnections := by
  unfold AdapterManager.abortForwarder
  split <;> exact ⟨rfl, rfl⟩

theorem sendUpdate_counts (update : ConnectionUpdate) :
    (m.sendUpdate update).adapters = m.adapters ∧
      (m.sendUpdate update).activeConnections = m.activeConnections := by
  unfold AdapterManager.sendUpdate
  split <;> exact ⟨rfl, rfl⟩

theorem Counts.apart {next : Call} (adapters : t.adapters = m.adapters)
    (active : t.activeConnections = m.activeConnections) (recounts : call.recounts = false)
    (stores : next.storing = none) : Counts m call t next :=
  .same adapters active (fun will => nomatch recounts.symm.trans will)
    fun _ stored => nomatch stores.symm.trans stored

/-- **The teardown and the number**: it is told by `resume` where the call goes on. -/
theorem counts_teardown (pc : Teardown) (call : Teardown → Call)
    (resume : Option Teardown → Call) (again : ∀ next, resume (some next) = call next)
    (recounts : ∀ pc, (call pc).recounts = pc.recounts)
    (stores : ∀ pc n, (call pc).storing = some n ↔ pc = .storeLen n)
    (changes : (call .removeAdapter).changesRegistry = true) (done : (resume none).storing = none) :
    Counts m (call pc) (pc.step m c).1 (resume (pc.step m c).2) := by
  have storesNone : ∀ pc, (∀ n, pc ≠ Teardown.storeLen n) → (call pc).storing = none := by
    intro pc other
    cases stored : (call pc).storing with
    | none => rfl
    | some n => exact absurd ((stores pc n).mp stored) (other n)
  have goesOn : ∀ {t next}, Counts m (call pc) t (call next) → Counts m (call pc) t (resume (some next)) :=
    fun counts => by rwa [again]
  cases pc with
  | abortForwarder =>
    obtain ⟨adapters, active⟩ := @abortForwarder_counts m c
    exact goesOn (.apart adapters active (recounts _) (storesNone _ nofun))
  | removeAdapter =>
    show Counts m _ (Teardown.takeOut m c (m.adapters.lookup c)).1
      (resume (Teardown.takeOut m c (m.adapters.lookup c)).2)
    cases m.adapters.lookup c with
    | none => exact .apart rfl rfl (recounts _) done
    | some a => exact goesOn (.changed changes (recounts _) (storesNone _ nofun))
  | stopAdapter a =>
    exact goesOn (.same rfl rfl (fun _ => recounts _) fun n stored => nomatch (stores _ n).mp stored)
  | readLen =>
    refine goesOn (.same rfl rfl (fun _ => recounts (.storeLen m.count)) fun n stored => ?_)
    cases (stores _ n).mp stored
    rfl
  | storeLen n => exact .stored n ((stores _ n).mpr rfl) rfl rfl done

variable {msg : AgentCreateConnection} {env : Surroundings} {answer : Option String}

theorem counts_create (pc : CreatePc) :
    Counts m (.create msg env pc) (pc.step m msg env answer).1 (pc.step m msg env answer).2 := by
  cases pc with
  | checking =>
    rw [CreatePc.step_checking]
    cases admission env msg with
    | error error | ok admitted => exact .apart rfl rfl rfl rfl
  | replacing admitted pc =>
    refine counts_teardown msg.connectionId pc (fun pc => .create msg env (.replacing admitted pc))
      (CreatePc.afterTeardown msg env admitted) (fun _ => rfl) (fun _ => rfl) (fun pc n => ?_) rfl rfl
    cases pc <;> simp [Call.storing]
  | record admitted | spawn a | handOver a f => exact .apart rfl rfl rfl rfl
  | construct admitted =>
    rw [CreatePc.step_construct]
    cases construction msg admitted with
    | error error => exact .apart rfl rfl rfl rfl
    | ok made =>
      show Counts m _ (CreatePc.afterConstruction m msg env made (made.failure answer)).1
        (CreatePc.afterConstruction m msg env made (made.failure answer)).2
      cases made.failure answer with
      | some error | none => exact .apart rfl rfl rfl rfl
  | start a | subscribe a => cases answer <;> exact .apart rfl rfl rfl rfl
  | insert a => exact .changed rfl rfl rfl
  | readLen a =>
    refine .same rfl rfl (fun _ => rfl) fun n stored => ?_
    exact (Option.some.inj stored).symm
  | storeLen a n => exact .stored n rfl rfl rfl rfl
  | connected =>
    obtain ⟨adapters, active⟩ := @sendUpdate_counts m ⟨msg.connectionId, true, ""⟩
    exact .apart adapters active rfl rfl
  | failed error started =>
    obtain ⟨adapters, active⟩ := @sendUpdate_counts m ⟨msg.connectionId, false, error⟩
    exact .apart adapters active rfl rfl

theorem counts_close (pc : ClosePc) : Counts m (.close c pc) (pc.step m c).1 (pc.step m c).2 := by
  cases pc with
  | tearing pc =>
    refine counts_teardown c pc (fun pc => .close c (.tearing pc)) (ClosePc.afterTeardown c)
      (fun _ => rfl) (fun _ => rfl) (fun pc n => ?_) rfl rfl
    cases pc <;> simp [Call.storing]
  | forget => exact .apart rfl rfl rfl rfl

theorem counts_stopAll (pc : StopAllPc) : Counts m (.stopAll pc) (pc.step m).1 (pc.step m).2 := by
  cases pc with
  | collectHandles | collectAdapters | clear => exact .apart rfl rfl rfl rfl
  | abortEach keys =>
    cases keys with
    | nil => exact .apart rfl rfl rfl rfl
    | cons c keys =>
      obtain ⟨adapters, active⟩ := @abortForwarder_counts m c
      exact .apart adapters active rfl rfl
  | removeEach keys =>
    cases keys with
    | nil => exact .same rfl rfl (fun _ => rfl) nofun
    | cons c keys =>
      show Counts m _ (StopAllPc.takeOut m c keys (m.adapters.lookup c)).1
        (StopAllPc.takeOut m c keys (m.adapters.lookup c)).2
      cases m.adapters.lookup c with
      | none => exact .same rfl rfl (fun _ => rfl) nofun
      | some a => exact .changed rfl rfl rfl
  | stopEach a keys => exact .same rfl rfl (fun _ => rfl) nofun
  | readLen =>
    refine .same rfl rfl (fun _ => rfl) fun n stored => ?_
    exact (Option.some.inj stored).symm
  | storeLen n => exact .stored n rfl rfl rfl rfl

theorem counts_call (call : Call) : Counts m call (call.step m answer).1 (call.step m answer).2 := by
  cases call with
  | create msg env pc => exact counts_create pc
  | close c pc => exact counts_close c pc
  | stopAll pc => exact counts_stopAll pc
  | returned done => exact .apart rfl rfl rfl rfl

end Counting

/-- **The number of active connections is up to date, or is going to be.** -/
structure Counted (s : System) : Prop where
  upToDate : s.manager.activeConnections = s.manager.count ∨
    ∃ (i : Nat) (call : Call), s.calls[i]? = some call ∧ call.recounts = true
  stores : Every (fun _ call => ∀ n, call.storing = some n → n = s.manager.count) s.calls

/-- The registry does not change while another call is about to store a length that it has read. -/
def Undisturbed (s : System) : Event → Prop
  | .advance i _ => ∀ call ∈ s.calls[i]?, call.changesRegistry = true →
      ∀ (j : Nat) (other : Call), j ≠ i → s.calls[j]? = some other → other.storing = none
  | _ => True

section Counted

variable {s : System}

theorem count_same {m : AdapterManager} (adapters : t.adapters = m.adapters) : t.count = m.count := by
  unfold AdapterManager.count
  rw [adapters]

theorem Counted.begin (counted : Counted s) (stores : call.storing = none) :
    Counted (s.begin call) where
  upToDate := by
    rcases counted.upToDate with now | ⟨i, other, found, recounts⟩
    · exact .inl now
    · exact .inr ⟨i, other, append_old found, recounts⟩
  stores := counted.stores.append (fun n stored => nomatch stores.symm.trans stored)
    fun _ _ _ kept => kept

theorem Counted.advance (counted : Counted s) {i : Nat} {next : Call}
    (found : s.calls[i]? = some call) (counts : Counts s.manager call t next)
    (calm : call.changesRegistry = true → ∀ (j : Nat) (other : Call), j ≠ i →
      s.calls[j]? = some other → other.storing = none) :
    Counted ⟨t, s.calls.set i next⟩ := by
  cases counts with
  | same adapters active recounts stores =>
    have same := count_same adapters
    constructor
    · rcases counted.upToDate with now | pending
      · exact .inl ((active.trans now).trans same.symm)
      · exact .inr (exists_set found recounts pending)
    · refine counted.stores.set (fun n stored => ?_) fun j other _ _ kept n stored => ?_
      · exact (stores n stored).trans same.symm
      · exact (kept n stored).trans same.symm
  | changed changes recounts stores =>
    refine ⟨.inr ⟨i, next, set_self found, recounts⟩, ?_⟩
    refine counted.stores.set (fun n stored => ?_) fun j other ne isOther _ n stored => ?_
    · nomatch stores.symm.trans stored
    · nomatch (calm changes j other ne isOther).symm.trans stored
  | stored n stores adapters active done =>
    have same := count_same adapters
    refine ⟨.inl ?_, ?_⟩
    · rw [active, same]
      exact counted.stores i call found n stores
    · refine counted.stores.set (fun k stored => ?_) fun j other _ _ kept k stored => ?_
      · nomatch done.symm.trans stored
      · exact (kept k stored).trans same.symm

theorem Counted.step (event : Event) (counted : Counted s) (calm : Undisturbed s event) :
    Counted (s.step event) := by
  cases event with
  | create msg env | close c | stopAll => exact counted.begin rfl
  | advance i answer =>
    simp only [System.step]
    cases found : s.calls[i]? with
    | none => exact counted
    | some call => exact counted.advance found (counts_call call) (calm call found)
  | forwarderEnds f => exact ⟨counted.upToDate, counted.stores⟩

end Counted

/-! ### All interleavings -/

/-- Calls on one id do not overlap, `stop_all` overlaps with none, no subscription fails after a
successful start, and the registry does not change between the reading of its length and the storing of
it by another call. -/
def Orderly (s : System) (event : Event) : Prop := Separate s event ∧ Undisturbed s event

/-- No adapter and no forwarder is left over, and the number is right. -/
structure NoLeak (m : AdapterManager) : Prop where
  /-- An adapter that was started and not stopped is the registered one of its connection. -/
  adapters : ∀ (a : Nat) (inst : Instance), m.instances[a]? = some inst → inst.stage = .running →
    m.adapters.lookup inst.connection = some a
  /-- A forwarder that runs belongs to a registered adapter. -/
  forwarders : ∀ (f : Nat) (task : ForwarderTask), m.forwarders[f]? = some task → task.running = true →
    ∃ c, m.adapters.lookup c = some task.adapter
  active : m.adapters.keys.length ≤ maxConnections → m.activeConnections = m.adapters.keys.length

theorem noLeak_of_returned {s : System} (sound : Sound s) (counted : Counted s)
    (back : ∀ call ∈ s.calls, call.isReturned = true) : NoLeak s.manager := by
  have settled : ∀ c, Phase.Holds s.manager c .settled := fun c =>
    sound.idle c fun i call found => by
      obtain ⟨none, notStopAll, -⟩ := Call.of_isReturned (back call (mem_of_getElem? found))
      exact ⟨fun isC => (nomatch none.symm.trans isC), notStopAll⟩
  constructor
  · intro a inst found runs
    obtain ⟨r, h, slot⟩ := settled inst.connection
    exact slot.registered.trans ((slot.running a).mp ⟨inst, found, rfl, runs⟩)
  · intro f task found runs
    have mem := sound.known f task found
    obtain ⟨r, h, slot⟩ := settled (s.manager.instances[task.adapter]).connection
    have isTask : task = ⟨task.adapter, true⟩ := by rw [← runs]
    have forwards := slot.forwarder f task.adapter
      ⟨found.trans (congrArg some isTask), _, getElem?_eq_getElem mem, rfl⟩
    exact ⟨_, slot.registered.trans forwards.2⟩
  · intro few
    rcases counted.upToDate with now | ⟨i, call, found, recounts⟩
    · exact now.trans (Nat.min_eq_left few)
    · have isReturned := back call (mem_of_getElem? found)
      cases call with
      | returned done => cases recounts
      | create msg env pc | close c pc | stopAll pc => cases isReturned

theorem counted_start : Counted .start :=
  ⟨.inl rfl, fun _ _ found => absurd found (by simp [start])⟩

/-- **Nothing is leaked by orderly calls.** -/
theorem no_leak_of_orderly (events : List Event)
    (orderly : Run.Allowed step Orderly .start events)
    (returned : ∀ call ∈ (after step .start events).calls, call.isReturned = true) :
    NoLeak (after step .start events).manager := by
  have both : Sound (after step .start events) ∧
      Counted (after step .start events) :=
    @invariant_after _ _ step Orderly (fun s => Sound s ∧ Counted s)
      (fun s event held allowed => ⟨held.1.step event allowed.1, held.2.step event allowed.2⟩) events
      .start ⟨.start, counted_start⟩ orderly
  exact noLeak_of_returned both.1 both.2 returned

/-! ### Connections that come and go -/

section Sample

instance (s : System) (event : Event) : Decidable (Separate s event) := by
  cases event <;> unfold Separate <;> infer_instance

theorem undisturbed_iff (s : System) (i : Nat) (answer : Option String) :
    Undisturbed s (.advance i answer) ↔ ∀ call ∈ s.calls[i]?, call.changesRegistry = true →
      ∀ j ∈ range s.calls.length, j ≠ i → ∀ other ∈ s.calls[j]?, other.storing = none := by
  constructor
  · intro calm call found changes j _ ne other isOther
    exact calm call found changes j other ne isOther
  · intro bounded call found changes j other ne isOther
    have mem : j < s.calls.length := (List.getElem?_eq_some_iff.mp isOther).1
    exact bounded call found changes j (mem_range.mpr mem) ne other isOther

instance (s : System) (event : Event) : Decidable (Undisturbed s event) :=
  match event with
  | .advance i answer => decidable_of_iff _ (undisturbed_iff s i answer).symm
  | .create .. | .close _ | .stopAll | .forwarderEnds _ => .isTrue trivial

instance (s : System) (event : Event) : Decidable (Orderly s event) := by
  unfold Orderly
  infer_instance

def advances (i n : Nat) : List Event := replicate n (.advance i none)

theorem no_leak_after_close :
    let run := .create sampleCreation linux :: advances 0 13 ++ .close "c" :: advances 1 6
    (after step .start run).manager.instances.map (·.stage) = [.stopped] ∧
      (after step .start run).manager.updates = [⟨"c", true, ""⟩] ∧
      NoLeak (after step .start run).manager :=
  ⟨by decide +kernel, by decide +kernel,
    no_leak_of_orderly _ (by decide +kernel) (by decide +kernel)⟩

/-- Where the subscription fails, the adapter that was started is neither registered nor stopped. Where
two creations overlap, the second one takes the first one's place in the registry: its adapter and its
forwarder run on. Where two creations for different ids count at the same time, the number is too small. -/
theorem leaking_calls :
    let subscription := after step .start
      (.create sampleCreation linux :: advances 0 6 ++ [.advance 0 (some "no events"), .advance 0 none])
    let overlap := after step .start
      (.create sampleCreation linux :: advances 0 6 ++ .create sampleCreation linux :: advances 1 6 ++
        advances 0 7 ++ advances 1 7)
    let counting := after step .start
      (.create sampleCreation linux :: advances 0 9 ++
        .create { sampleCreation with connectionId := "d" } linux :: advances 1 13 ++ advances 0 4)
    ((∀ call ∈ subscription.calls, call.isReturned = true) ∧
      subscription.manager.instances.map (·.stage) = [.running] ∧
      subscription.manager.adapters.lookup "c" = none) ∧
    ((∀ call ∈ overlap.calls, call.isReturned = true) ∧
      overlap.manager.instances.map (·.stage) = [.running, .running] ∧
      overlap.manager.adapters.entries = [⟨"c", 1⟩] ∧
      overlap.manager.forwarders = [⟨0, true⟩, ⟨1, true⟩]) ∧
    ((∀ call ∈ counting.calls, call.isReturned = true) ∧
      counting.manager.activeConnections = 1 ∧ counting.manager.adapters.keys.length = 2) := by
  decide +kernel

/-! ### While calls are in progress -/

theorem Phase.Holds.slot {m : AdapterManager} {c : String} {phase : Phase} (holds : phase.Holds m c) :
    ∃ r h x y, Slot m c r h x y := by
  cases phase with
  | settled =>
    obtain ⟨r, h, slot⟩ := holds
    exact ⟨_, _, _, _, slot⟩
  | cleared =>
    obtain ⟨r, slot⟩ := holds
    exact ⟨_, _, _, _, slot⟩
  | created a => exact ⟨_, _, _, _, holds.1⟩
  | empty | holding | installed | handing => exact ⟨_, _, _, _, holds⟩

theorem Sound.slot {s : System} (sound : Sound s) (c : String) :
    ∃ r h x y, Slot s.manager c r h x y := by
  by_cases idle : ∀ (i : Nat) (call : Call), s.calls[i]? = some call →
      call.connection ≠ some c ∧ call.isStopAll = false
  · exact (sound.idle c idle).slot
  · push Not at idle
    obtain ⟨i, call, found, busy⟩ := idle
    by_cases about : call.connection = some c
    · exact (sound.phases i call found c about).slot
    · cases call with
      | stopAll pc =>
        have holds := sound.stopping i _ found pc rfl
        cases pc with
        | abortEach keys => exact (holds c).1.slot
        | stopEach a keys =>
          obtain ⟨d, running, cleared⟩ := holds
          by_cases same : c = d
          · exact (same ▸ running).slot
          · exact (cleared c same).slot
        | _ => exact (holds c).slot
      | _ => exact absurd rfl (busy about)

/-- No instance but `x` runs, and no task but `y` forwards, and it forwards for `x`. -/
def OneRuns (m : AdapterManager) (c : String) : Prop :=
  ∃ x y : Option Nat, (∀ a, Runs m c a ↔ x = some a) ∧ ∀ f a, Forwards m c f a → y = some f ∧ x = some a

/-- **At every moment at most one adapter of a connection runs**, and no task forwards for another one. -/
theorem one_adapter_runs (events : List Event) (separate : Run.Allowed step Separate .start events)
    (c : String) : OneRuns (after step .start events).manager c := by
  have sound : Sound (after step .start events) :=
    invariant_after step (fun s event held now => held.step event now) events .start .start separate
  obtain ⟨r, h, x, y, slot⟩ := sound.slot c
  exact ⟨x, y, slot.running, slot.forwarder⟩

theorem one_adapter_before_close :
    OneRuns (after step .start (.create sampleCreation linux :: advances 0 9)).manager "c" :=
  one_adapter_runs _ (by decide +kernel) "c"

end Sample

end Detrix.AgentProcess
