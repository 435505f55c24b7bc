/-
**What the manager has for one connection.**

A `Slot` is the registered adapter, the stored handle, the instance that runs and the forwarder that
runs. A call that is in progress on a connection id is in a `Phase`, which says what the slot is;
without one, the running instance is the registered one and the running forwarder the one whose handle
is stored.

- `Slot.abort`, `Slot.remove`, …, `Slot.handOver`: what each operation does to the slot of its id.
- `moved_create`, `moved_close`, `moved_stopAll`: the phases of a call, step by step.
- `Sound.step`: the phases are kept by every step in which calls on one id do not overlap and no
  subscription fails after a successful start.
-/

import Detrix.AgentProcess.AdapterManager
import Detrix.Library.Interleaving

namespace Detrix.AgentProcess

open Library Calls Option AdapterManager List

/-! ### Slots -/

def Runs (m : AdapterManager) (c : String) (a : Nat) : Prop :=
  ∃ inst, m.instances[a]? = some inst ∧ inst.connection = c ∧ inst.stage = .running

/-- The task forwards the events of an adapter that was constructed for the connection. -/
def Forwards (m : AdapterManager) (c : String) (f a : Nat) : Prop :=
  m.forwarders[f]? = some ⟨a, true⟩ ∧ ∃ inst, m.instances[a]? = some inst ∧ inst.connection = c

/-- **What there is for a connection id**: the adapter `r` is registered, the handle of the task `h` is
stored, the instance `x` and no other one runs, and no task but `y` forwards, and it forwards for `x`. -/
structure Slot (m : AdapterManager) (c : String) (r h x y : Option Nat) : Prop where
  registered : m.adapters.lookup c = r
  handle : m.forwarderHandles.lookup c = h
  running : ∀ a, Runs m c a ↔ x = some a
  forwarder : ∀ f a, Forwards m c f a → y = some f ∧ x = some a

/-- An operation for one connection id leaves the other ids alone. -/
structure Spares (c : String) (m t : AdapterManager) : Prop where
  adapters : ∀ d, d ≠ c → t.adapters.lookup d = m.adapters.lookup d
  handles : ∀ d, d ≠ c → t.forwarderHandles.lookup d = m.forwarderHandles.lookup d
  instances : ∀ (a : Nat) (inst : Instance), inst.connection ≠ c →
     (t.instances[a]? = some inst ↔ m.instances[a]? = some inst)
  forwarders : ∀ d, d ≠ c → ∀ f a, Forwards t d f a → Forwards m d f a

variable {call : Call} {i : Nat} {pc : StopAllPc}

section Operations

variable {m t : AdapterManager} {c d : String} {r h x y : Option Nat} {a f : Nat}

theorem Slot.spared (slot : Slot m d r h x y) (spares : Spares c m t) (other : d ≠ c) :
    Slot t d r h x y where
  registered := (spares.adapters d other).trans slot.registered
  handle := (spares.handles d other).trans slot.handle
  running := fun a => by
    rw [← slot.running a]
    constructor <;> rintro ⟨inst, found, rfl, runs⟩
    · exact ⟨inst, (spares.instances a inst other).mp found, rfl, runs⟩
    · exact ⟨inst, (spares.instances a inst other).mpr found, rfl, runs⟩
  forwarder := fun f a forwards => slot.forwarder f a (spares.forwarders d other f a forwards)

/-- What the slots are made of. -/
def AdapterManager.slots (m : AdapterManager) :=
  (m.adapters, m.forwarderHandles, m.instances, m.forwarders)

theorem Slot.same (slot : Slot m c r h x y) (same : t.slots = m.slots) : Slot t c r h x y := by
  simp only [slots, Prod.mk.injEq] at same
  obtain ⟨adapters, handles, instances, forwarders⟩ := same
  refine ⟨adapters ▸ slot.registered, handles ▸ slot.handle, fun a => ?_, fun f a forwards => ?_⟩
  · rw [Runs, instances]
    exact slot.running a
  · rw [Forwards, instances, forwarders] at forwards
    exact slot.forwarder f a forwards

theorem Spares.same (same : t.slots = m.slots) : Spares c m t := by
  simp only [slots, Prod.mk.injEq] at same
  obtain ⟨adapters, handles, instances, forwarders⟩ := same
  refine ⟨fun _ _ => by rw [adapters], fun _ _ => by rw [handles], fun _ _ _ => by rw [instances],
    fun _ _ _ _ forwards => ?_⟩
  rwa [Forwards, instances, forwarders] at forwards

protected theorem Spares.refl (c : String) (m : AdapterManager) : Spares c m m := .same rfl

theorem getElem_modify {α : Type} {items : List α} {j : Nat} {change : α → α} {item : α} :
    (items.modify i change)[j]? = some item ↔
      (j ≠ i ∧ items[j]? = some item) ∨ (j = i ∧ ∃ old, items[j]? = some old ∧ item = change old) := by
  rw [getElem?_modify]
  by_cases same : i = j
  · subst same
    cases items[i]? <;> simp [eq_comm]
  · cases items[j]? <;> simp [same, Ne.symm same]

variable {inst : Instance} {b g : Nat}

theorem forwards_endForwarder (forwards : Forwards (m.endForwarder f) c g a) :
    Forwards m c g a ∧ g ≠ f := by
  obtain ⟨isTask, isInstance⟩ := forwards
  rcases getElem_modify.mp isTask with ⟨other, found⟩ | ⟨-, old, -, ended⟩
  · exact ⟨⟨found, isInstance⟩, other⟩
  · nomatch congrArg ForwarderTask.running ended

theorem Slot.forwarderEnds (slot : Slot m c r h x y) (f : Nat) : Slot (m.endForwarder f) c r h x y :=
  { slot with forwarder := fun g a forwards => slot.forwarder g a (forwards_endForwarder forwards).1 }

/-! ### The operations on their own slot -/

theorem abortForwarder_some (stored : m.forwarderHandles.lookup c = some f) :
    m.abortForwarder c =
      { m.endForwarder f with forwarderHandles := m.forwarderHandles.erase c } := by
  unfold abortForwarder
  rw [stored]

theorem abortForwarder_none (stored : m.forwarderHandles.lookup c = none) : m.abortForwarder c = m := by
  unfold abortForwarder
  rw [stored]

theorem Slot.abort (slot : Slot m c r h x h) : Slot (m.abortForwarder c) c r none x none := by
  cases h with
  | none =>
    rw [abortForwarder_none slot.handle]
    exact slot
  | some f =>
    rw [abortForwarder_some slot.handle]
    refine ⟨slot.registered, AList.lookup_erase c _, slot.running, fun g a forwards => ?_⟩
    obtain ⟨before, other⟩ : Forwards m c g a ∧ g ≠ f := forwards_endForwarder forwards
    exact absurd (some.inj (slot.forwarder g a before).1).symm other

theorem Slot.remove (slot : Slot m c r h x y) : Slot (m.removeAdapter c) c none h x y :=
  { slot with registered := AList.lookup_erase c _ }

theorem Slot.insert (slot : Slot m c r h x y) (a : Nat) : Slot (m.insertAdapter c a) c (some a) h x y :=
  { slot with registered := AList.lookup_insert _ }

theorem Slot.handOver (slot : Slot m c r h x y) (f : Nat) : Slot (m.insertHandle c f) c r (some f) x y :=
  { slot with handle := AList.lookup_insert _ }

variable {stage : Instance.Stage}

theorem instances_setStage : (m.setStage a stage).instances[b]? = some inst ↔
      (b ≠ a ∧ m.instances[b]? = some inst) ∨
        (b = a ∧ ∃ old, m.instances[b]? = some old ∧ inst = { old with stage := stage }) :=
  getElem_modify

theorem forwards_setStage : Forwards (m.setStage a stage) c g b → Forwards m c g b := by
  rintro ⟨isTask, inst, found, isConn⟩
  rcases instances_setStage.mp found with ⟨-, before⟩ | ⟨-, old, before, rfl⟩
  · exact ⟨isTask, inst, before, isConn⟩
  · exact ⟨isTask, old, before, isConn⟩

theorem Slot.stop (slot : Slot m c r h (some a) none) :
    Slot (m.setStage a .stopped) c r h none none := { slot with
  running := fun b => by
    constructor
    · rintro ⟨inst, found, isConn, runs⟩
      rcases instances_setStage.mp found with ⟨other, before⟩ | ⟨-, old, -, rfl⟩
      · have isA := (slot.running b).mp ⟨inst, before, isConn, runs⟩
        exact absurd (some.inj isA).symm other
      · cases runs
    · nofun
  forwarder := fun g b forwards => absurd (slot.forwarder g b (forwards_setStage forwards)).1 nofun }

theorem Slot.startOk {construction : Construction} (slot : Slot m c r h none none)
    (isNew : m.instances[a]? = some ⟨c, construction, .created⟩) :
    Slot (m.setStage a .running) c r h (some a) none := { slot with
  running := fun b => by
    constructor
    · rintro ⟨inst, found, isConn, runs⟩
      rcases instances_setStage.mp found with ⟨-, before⟩ | ⟨rfl, -⟩
      · nomatch (slot.running b).mp ⟨inst, before, isConn, runs⟩
      · rfl
    · intro isB
      cases isB
      exact ⟨⟨c, construction, .running⟩, instances_setStage.mpr (.inr ⟨rfl, _, isNew, rfl⟩), rfl, rfl⟩
  forwarder := fun g b forwards => absurd (slot.forwarder g b (forwards_setStage forwards)).1 nofun }

/-- Every task forwards for an instance that exists. -/
def Known (m : AdapterManager) : Prop :=
  ∀ (f : Nat) (task : ForwarderTask), m.forwarders[f]? = some task → task.adapter < m.instances.length

theorem instances_construct {made : Construction} :
    (m.construct c made).instances[b]? = some inst →
      (b ≠ m.instances.length ∧ m.instances[b]? = some inst) ∨
        (b = m.instances.length ∧ inst = ⟨c, made, .created⟩) := by
  intro found
  rcases append_cases found with ⟨isLast, isNew⟩ | ⟨other, old⟩
  · exact .inr ⟨isLast, isNew⟩
  · exact .inl ⟨other, old⟩

theorem forwards_construct {made : Construction} (known : Known m) {d : String}
    (forwards : Forwards (m.construct c made) d g b) : Forwards m d g b := by
  obtain ⟨isTask, inst, found, isConn⟩ := forwards
  have exists_ : b < m.instances.length := known g _ isTask
  rcases instances_construct found with ⟨-, old⟩ | ⟨rfl, -⟩
  · exact ⟨isTask, inst, old, isConn⟩
  · exact absurd exists_ (Nat.lt_irrefl _)

theorem Slot.construct (slot : Slot m c r h x y) (known : Known m) (made : Construction) :
    Slot (m.construct c made) c r h x y := { slot with
  running := fun b => by
    rw [← slot.running b]
    constructor
    · rintro ⟨inst, found, isConn, runs⟩
      rcases instances_construct found with ⟨-, old⟩ | ⟨-, rfl⟩
      · exact ⟨inst, old, isConn, runs⟩
      · cases runs
    · rintro ⟨inst, found, rest⟩
      exact ⟨inst, append_old found, rest⟩
  forwarder := fun g b forwards => slot.forwarder g b (forwards_construct known forwards) }

theorem Slot.spawn (slot : Slot m c r h (some a) none) :
    Slot (m.spawnForwarder a) c r h (some a) (some m.forwarders.length) := { slot with
  forwarder := fun g b forwards => by
    obtain ⟨isTask, isInstance⟩ := forwards
    rcases append_cases isTask with ⟨rfl, isNew⟩ | ⟨-, old⟩
    · exact ⟨rfl, congrArg some (congrArg ForwarderTask.adapter isNew).symm⟩
    · exact absurd (slot.forwarder g b ⟨old, isInstance⟩).1 nofun }

/-! ### The operations on the other slots -/

theorem spares_abort (m : AdapterManager) (c : String) : Spares c m (m.abortForwarder c) := by
  cases stored : m.forwarderHandles.lookup c with
  | none =>
    rw [abortForwarder_none stored]
    exact .refl c m
  | some f =>
    rw [abortForwarder_some stored]
    exact { Spares.refl c m with
      handles := fun d other => AList.lookup_erase_ne other
      forwarders := fun d _ g a forwards => (forwards_endForwarder forwards).1 }

theorem spares_remove (m : AdapterManager) (c : String) : Spares c m (m.removeAdapter c) :=
  { Spares.refl c m with adapters := fun _ other => AList.lookup_erase_ne other }

theorem spares_insert (m : AdapterManager) (c : String) (a : Nat) : Spares c m (m.insertAdapter c a) :=
  { Spares.refl c m with adapters := fun _ other => AList.lookup_insert_ne other }

theorem spares_handOver (m : AdapterManager) (c : String) (f : Nat) : Spares c m (m.insertHandle c f) :=
  { Spares.refl c m with handles := fun _ other => AList.lookup_insert_ne other }

theorem spares_setStage (found : m.instances[a]? = some inst) (stage : Instance.Stage) :
    Spares inst.connection m (m.setStage a stage) := { Spares.refl _ m with
  instances := fun b other ne => by
    rw [instances_setStage]
    constructor
    · rintro (⟨-, same⟩ | ⟨rfl, old, isOld, rfl⟩)
      · exact same
      · rw [found, some.injEq] at isOld
        exact absurd (congrArg Instance.connection isOld).symm ne
    · intro isB
      refine .inl ⟨?_, isB⟩
      rintro rfl
      rw [found, some.injEq] at isB
      exact ne (congrArg Instance.connection isB).symm
  forwarders := fun _ _ _ _ forwards => forwards_setStage forwards }

theorem spares_construct (known : Known m) (c : String) (made : Construction) :
    Spares c m (m.construct c made) := { Spares.refl c m with
  instances := fun b inst ne => by
    constructor
    · intro found
      rcases instances_construct found with ⟨-, old⟩ | ⟨-, rfl⟩
      · exact old
      · exact absurd rfl ne
    · exact append_old
  forwarders := fun _ _ _ _ forwards => forwards_construct known forwards }

theorem spares_spawn (found : m.instances[a]? = some inst) :
    Spares inst.connection m (m.spawnForwarder a) := { Spares.refl _ m with
  forwarders := fun d ne g b forwards => by
    obtain ⟨isTask, other, isInstance, isConn⟩ := forwards
    rcases append_cases isTask with ⟨-, isNew⟩ | ⟨-, old⟩
    · obtain rfl : b = a := congrArg ForwarderTask.adapter isNew
      have same : inst = other := some.inj (found.symm.trans isInstance)
      exact absurd (same ▸ isConn).symm ne
    · exact ⟨old, other, isInstance, isConn⟩ }

end Operations

/-! ### Phases -/

/-- What a call on a connection id has done to its slot. -/
inductive Phase where
  | settled
  | cleared
  | empty
  | created (a : Nat)
  | holding (a : Nat)
  | installed (a : Nat)
  | handing (a f : Nat)

def Phase.Holds (m : AdapterManager) (c : String) : Phase → Prop
  | .settled => ∃ r h, Slot m c r h r h
  | .cleared => ∃ r, Slot m c r none r none
  | .empty => Slot m c none none none none
  | .created a => Slot m c none none none none ∧ ∃ made, m.instances[a]? = some ⟨c, made, .created⟩
  | .holding a => Slot m c none none (some a) none
  | .installed a => Slot m c (some a) none (some a) none
  | .handing a f => Slot m c (some a) none (some a) (some f)

variable {m : AdapterManager} {c : String} {t : AdapterManager}

theorem Phase.Holds.map {phase : Phase} (holds : phase.Holds m c)
    (slots : ∀ {r h x y}, Slot m c r h x y → Slot t c r h x y)
    (created : ∀ (a : Nat) (inst : Instance), inst.connection = c → m.instances[a]? = some inst →
      t.instances[a]? = some inst) : phase.Holds t c := by
  cases phase with
  | settled =>
    obtain ⟨r, h, slot⟩ := holds
    exact ⟨r, h, slots slot⟩
  | cleared =>
    obtain ⟨r, slot⟩ := holds
    exact ⟨r, slots slot⟩
  | created a =>
    obtain ⟨slot, made, isNew⟩ := holds
    exact ⟨slots slot, made, created a _ rfl isNew⟩
  | empty | holding a | installed a | handing a f => exact slots holds

theorem Phase.Holds.spared {d : String} {phase : Phase}
    (holds : phase.Holds m d) (spares : Spares c m t) (other : d ≠ c) : phase.Holds t d :=
  holds.map (fun slot => slot.spared spares other) fun a inst isD =>
    (spares.instances a inst (isD ▸ other)).mpr

theorem Phase.Holds.forwarderEnds {phase : Phase}
    (holds : phase.Holds m c) (f : Nat) : phase.Holds (m.endForwarder f) c :=
  holds.map (fun slot => slot.forwarderEnds f) fun _ _ _ isNew => isNew

theorem Phase.Holds.same {phase : Phase} (holds : phase.Holds m c)
    (same : t.slots = m.slots) : phase.Holds t c := by
  refine holds.map (fun slot => slot.same same) fun a inst _ isNew => ?_
  simp only [slots, Prod.mk.injEq] at same
  rw [same.2.2.1, isNew]

def Teardown.phase : Teardown → Phase
  | .abortForwarder => .settled
  | .removeAdapter => .cleared
  | .stopAdapter a => .holding a
  | .readLen | .storeLen _ => .empty

def CreatePc.phase : CreatePc → Phase
  | .checking | .connected | .failed .. => .settled
  | .replacing _ pc => pc.phase
  | .record _ | .construct _ => .empty
  | .start a => .created a
  | .subscribe a | .insert a => .holding a
  | .readLen a | .storeLen a _ | .spawn a => .installed a
  | .handOver a f => .handing a f

def ClosePc.phase : ClosePc → Phase
  | .tearing pc => pc.phase
  | .forget => .empty

namespace Call

def connection : Call → Option String
  | .create msg _ _ => some msg.connectionId
  | .close c _ => some c
  | _ => none

def phase : Call → Phase
  | .create _ _ pc => pc.phase
  | .close _ pc => pc.phase
  | _ => .settled

def isReturned : Call → Bool
  | .returned _ => true
  | _ => false

def isStopAll : Call → Bool
  | .stopAll _ => true
  | _ => false

theorem of_connection {c : String} (about : call.connection = some c) :
    call.isReturned = false ∧ call.isStopAll = false := by
  cases call with
  | create msg env pc | close d pc => exact ⟨rfl, rfl⟩
  | stopAll pc | returned done => cases about

theorem of_isReturned (back : call.isReturned = true) :
    call.connection = none ∧ call.isStopAll = false ∧ call.phase = .settled := by
  cases call with
  | returned done => exact ⟨rfl, rfl, rfl⟩
  | create msg env pc | close d pc | stopAll pc => cases back

end Call

/-! ### A step of a call -/

section
variable {m : AdapterManager} (known : Known m)
include known

theorem Known.same {t : AdapterManager} (same : t.slots = m.slots) : Known t := by
  simp only [slots, Prod.mk.injEq] at same
  intro f task found
  rw [same.2.2.2] at found
  rw [same.2.2.1]
  exact known f task found

theorem Known.endForwarder (f : Nat) : Known (m.endForwarder f) := by
  intro g task found
  rcases getElem_modify.mp found with ⟨-, before⟩ | ⟨-, old, before, rfl⟩
  · exact known g task before
  · exact known g old before

theorem Known.abort (c : String) : Known (m.abortForwarder c) := by
  cases stored : m.forwarderHandles.lookup c with
  | none => rwa [abortForwarder_none stored]
  | some f =>
    rw [abortForwarder_some stored]
    exact known.endForwarder f

theorem Known.setStage (a : Nat) (stage : Instance.Stage) : Known (m.setStage a stage) := by
  intro f task found
  rw [AdapterManager.setStage, length_modify]
  exact known f task found

theorem Known.construct (c : String) (made : Construction) : Known (m.construct c made) := by
  intro f task found
  rw [AdapterManager.construct, length_append]
  exact Nat.lt_add_right 1 (known f task found)

theorem Known.spawn {a : Nat} (isKnown : a < m.instances.length) : Known (m.spawnForwarder a) := by
  intro f task found
  rcases append_cases found with ⟨-, rfl⟩ | ⟨-, old⟩
  · exact isKnown
  · exact known f task old

end

/-- What the step of a call on a connection id leaves. -/
structure Moved (c : String) (m t : AdapterManager) (phase : Phase) : Prop where
  spares : Spares c m t
  holds : phase.Holds t c
  known : Known t

theorem Moved.same {phase : Phase} (known : Known m)
    (holds : phase.Holds m c) (same : t.slots = m.slots) : Moved c m t phase :=
  ⟨.same same, holds.same same, known.same same⟩

/-- **A step of the teardown.** -/
theorem moved_teardown {pc : Teardown} (known : Known m) (holds : pc.phase.Holds m c) :
    Moved c m (pc.step m c).1 (((pc.step m c).2.map Teardown.phase).getD .empty) := by
  cases pc with
  | abortForwarder =>
    obtain ⟨r, h, slot⟩ := holds
    exact ⟨spares_abort m c, ⟨r, slot.abort⟩, known.abort c⟩
  | removeAdapter =>
    obtain ⟨r, slot⟩ := holds
    have reg := slot.registered
    show Moved c m (Teardown.takeOut m c (m.adapters.lookup c)).1
      (((Teardown.takeOut m c (m.adapters.lookup c)).2.map Teardown.phase).getD .empty)
    rw [reg]
    cases r with
    | none => exact .same known slot rfl
    | some a => exact ⟨spares_remove m c, slot.remove, known⟩
  | stopAdapter a =>
    obtain ⟨inst, found, rfl, -⟩ := (Slot.running holds a).mpr rfl
    exact ⟨spares_setStage found _, Slot.stop holds, known.setStage a _⟩
  | readLen | storeLen n => exact .same known holds rfl

def Call.subscribes : Call → Bool
  | .create _ _ (.subscribe _) => true
  | _ => false

/-- What the step of a call on a connection id leaves, and where the call is then. -/
structure CallMoved (c : String) (m : AdapterManager) (next : AdapterManager × Call) : Prop where
  moved : Moved c m next.1 next.2.phase
  goes : next.2.connection = some c ∨ next.2.isReturned = true

section Create

variable {m : AdapterManager} {msg : AgentCreateConnection} {env : Surroundings}
  {answer : Option String}

theorem CallMoved.stays {pc : CreatePc} (known : Known m) (holds : pc.phase.Holds m msg.connectionId) :
    CallMoved msg.connectionId m (m, .create msg env pc) :=
  ⟨.same known holds rfl, .inl rfl⟩

theorem settled_of_empty {c : String} (holds : Phase.Holds m c .empty) : Phase.Holds m c .settled :=
  ⟨none, none, holds⟩

theorem sendUpdate_slots (update : ConnectionUpdate) : (m.sendUpdate update).slots = m.slots := by
  unfold sendUpdate
  split <;> rfl

theorem sendUpdate_adapters {update : ConnectionUpdate} : (m.sendUpdate update).adapters = m.adapters :=
  congrArg Prod.fst (sendUpdate_slots update)

theorem CallMoved.returns (known : Known m) (holds : Phase.Holds m msg.connectionId .settled)
    (update : ConnectionUpdate) (started : Bool) :
    CallMoved msg.connectionId m
      (m.sendUpdate update, .returned (.create msg.connectionId started)) :=
  ⟨.same known holds (sendUpdate_slots update), .inr rfl⟩

/-- **A step of a creation.** -/
theorem moved_create {pc : CreatePc} (known : Known m) (holds : pc.phase.Holds m msg.connectionId)
    (subscribed : (Call.create msg env pc).subscribes = true → answer = none) :
    CallMoved msg.connectionId m (pc.step m msg env answer) := by
  cases pc with
  | checking =>
    rw [CreatePc.step_checking]
    cases admission env msg with
    | error error | ok admitted => exact .stays known holds
  | replacing admitted pc =>
    have moved := moved_teardown known holds
    show CallMoved _ m ((pc.step m msg.connectionId).1, CreatePc.afterTeardown msg env admitted _)
    cases next : (pc.step m msg.connectionId).2 with
    | none | some pc =>
      rw [next] at moved
      exact ⟨moved, .inl rfl⟩
  | record admitted | storeLen a n => exact ⟨.same known holds rfl, .inl rfl⟩
  | construct admitted =>
    rw [CreatePc.step_construct]
    cases construction msg admitted with
    | error error => exact .stays known (settled_of_empty holds)
    | ok made =>
      show CallMoved _ m (CreatePc.afterConstruction m msg env made (made.failure answer))
      cases made.failure answer with
      | some error => exact .stays known (settled_of_empty holds)
      | none =>
        exact ⟨⟨spares_construct known _ _, ⟨Slot.construct holds known _, made, append_new⟩,
          known.construct _ _⟩, .inl rfl⟩
  | start a =>
    obtain ⟨slot, made, isNew⟩ := holds
    cases answer with
    | some error => exact .stays known (settled_of_empty slot)
    | none => exact ⟨⟨spares_setStage isNew _, slot.startOk isNew, known.setStage a _⟩, .inl rfl⟩
  | subscribe a =>
    obtain rfl := subscribed rfl
    exact .stays known holds
  | insert a => exact ⟨⟨spares_insert m _ a, Slot.insert holds a, known⟩, .inl rfl⟩
  | readLen a => exact .stays known holds
  | spawn a =>
    obtain ⟨inst, found, isConn, -⟩ := (Slot.running holds a).mpr rfl
    have exists_ : a < m.instances.length := (List.getElem?_eq_some_iff.mp found).1
    exact ⟨⟨isConn ▸ spares_spawn found, Slot.spawn holds, known.spawn exists_⟩, .inl rfl⟩
  | handOver a f =>
    exact ⟨⟨spares_handOver m _ f, ⟨some a, some f, Slot.handOver holds f⟩, known⟩, .inl rfl⟩
  | connected | failed error started => exact .returns known holds _ _

/-- **A step of a closing.** -/
theorem moved_close {c : String} {pc : ClosePc} (known : Known m) (holds : pc.phase.Holds m c) :
    CallMoved c m (pc.step m c) := by
  cases pc with
  | tearing pc =>
    have moved := moved_teardown known holds
    show CallMoved c m ((pc.step m c).1, ClosePc.afterTeardown c _)
    cases next : (pc.step m c).2 with
    | none | some pc =>
      rw [next] at moved
      exact ⟨moved, .inl rfl⟩
  | forget =>
    exact ⟨.same known (settled_of_empty holds) rfl, .inr rfl⟩

end Create

theorem moved_call {answer : Option String} (known : Known m)
    (about : call.connection = some c) (holds : call.phase.Holds m c)
    (subscribed : call.subscribes = true → answer = none) : CallMoved c m (call.step m answer) := by
  cases call with
  | create msg env pc =>
    cases about
    exact moved_create known holds subscribed
  | close d pc =>
    cases about
    exact moved_close known holds
  | stopAll pc | returned call => cases about

/-! ### A step of `stop_all` -/

/-- What there is while everything is stopped: first the handles go, then the adapters. -/
def StopAllPc.Holds (m : AdapterManager) : StopAllPc → Prop
  | .collectHandles => ∀ c, Phase.Holds m c .settled
  | .abortEach keys =>
    ∀ c, Phase.Holds m c .settled ∧ ∀ f, m.forwarderHandles.lookup c = some f → c ∈ keys
  | .stopEach a _ => ∃ c, Phase.Holds m c (.holding a) ∧ ∀ d, d ≠ c → Phase.Holds m d .cleared
  | _ => ∀ c, Phase.Holds m c .cleared

/-- What a step of `stop_all` leaves. -/
def StoppedTo (t : AdapterManager) : Call → Prop
  | .stopAll pc => pc.Holds t
  | .returned _ => ∀ c, Phase.Holds t c .settled
  | _ => False

theorem StoppedTo.cases (leaves : StoppedTo t call) :
    call.connection = none ∧ (call.isStopAll = false → ∀ c, Phase.Holds t c .settled) ∧
      ∀ pc, call = .stopAll pc → pc.Holds t := by
  cases call with
  | stopAll pc =>
    refine ⟨rfl, nofun, fun other same => ?_⟩
    cases same
    exact leaves
  | returned done => exact ⟨rfl, fun _ => leaves, nofun⟩
  | create msg env pc | close c pc => exact leaves.elim

theorem settled_of_cleared (holds : Phase.Holds m c .cleared) : Phase.Holds m c .settled := by
  obtain ⟨r, slot⟩ := holds
  exact ⟨r, none, slot⟩

theorem cleared_of_settled (holds : Phase.Holds m c .settled)
    (none : m.forwarderHandles.lookup c = none) : Phase.Holds m c .cleared := by
  obtain ⟨r, h, slot⟩ := holds
  obtain rfl := slot.handle.symm.trans none
  exact ⟨r, slot⟩

/-- **A step of `stop_all`.** -/
theorem moved_stopAll (known : Known m) (holds : pc.Holds m) :
    Known (pc.step m).1 ∧ StoppedTo (pc.step m).1 (pc.step m).2 := by
  cases pc with
  | collectHandles =>
    refine ⟨known, fun c => ⟨holds c, fun f stored => ?_⟩⟩
    have isSome : (m.forwarderHandles.lookup c).isSome = true := isSome_of_eq_some stored
    exact AList.mem_keys.mp (AList.lookup_isSome.mp isSome)
  | abortEach keys =>
    cases keys with
    | nil =>
      refine ⟨known, fun c => cleared_of_settled (holds c).1 ?_⟩
      show m.forwarderHandles.lookup c = none
      cases stored : m.forwarderHandles.lookup c with
      | none => rfl
      | some f => exact absurd ((holds c).2 f stored) not_mem_nil
    | cons c keys =>
      refine ⟨known.abort c, fun d => ?_⟩
      by_cases same : d = c
      · subst same
        obtain ⟨⟨r, h, slot⟩, -⟩ := holds d
        refine ⟨⟨r, none, slot.abort⟩, fun f stored => ?_⟩
        nomatch slot.abort.handle.symm.trans stored
      · refine ⟨(holds d).1.spared (spares_abort m c) same, fun f stored => ?_⟩
        have before : m.forwarderHandles.lookup d = some f :=
          ((spares_abort m c).handles d same).symm.trans stored
        exact mem_of_ne_of_mem same ((holds d).2 f before)
  | collectAdapters => exact ⟨known, holds⟩
  | removeEach keys =>
    cases keys with
    | nil => exact ⟨known, holds⟩
    | cons c keys =>
      obtain ⟨r, slot⟩ := holds c
      have reg := slot.registered
      show Known (StopAllPc.takeOut m c keys (m.adapters.lookup c)).1 ∧
        StoppedTo (StopAllPc.takeOut m c keys (m.adapters.lookup c)).1
          (StopAllPc.takeOut m c keys (m.adapters.lookup c)).2
      rw [reg]
      cases r with
      | none => exact ⟨known, holds⟩
      | some a =>
        exact ⟨known, c, slot.remove, fun d other => (holds d).spared (spares_remove m c) other⟩
  | stopEach a keys =>
    obtain ⟨c, holding, others⟩ := holds
    obtain ⟨inst, found, rfl, -⟩ := (Slot.running holding a).mpr rfl
    refine ⟨known.setStage a _, fun d => ?_⟩
    by_cases same : d = inst.connection
    · subst same
      exact ⟨none, Slot.stop holding⟩
    · exact (others d same).spared (spares_setStage found _) same
  | readLen => exact ⟨known, holds⟩
  | storeLen n => exact ⟨known, fun c => (holds c).same rfl⟩
  | clear => exact ⟨known, fun c => settled_of_cleared ((holds c).same rfl)⟩

/-! ### Calls that do not overlap -/

/-- Two calls that may be in progress at the same time: they are about different connections, and
`stop_all` is alone. -/
structure Call.Apart (one other : Call) : Prop where
  connections : ∀ c, one.connection = some c → other.connection ≠ some c
  alone : one.isStopAll = true → other.isReturned = true
  aloneToo : other.isStopAll = true → one.isReturned = true

theorem Call.Apart.symm (one other : Call) (apart : one.Apart other) : other.Apart one :=
  ⟨fun c ne isOne => apart.connections c isOne ne, apart.aloneToo, apart.alone⟩

theorem Call.Apart.of_returned {one : Call} (back : one.isReturned = true) (other : Call) :
    one.Apart other := by
  obtain ⟨none, notStopAll, -⟩ := of_isReturned back
  refine ⟨fun c isC => (nomatch none.symm.trans isC), fun stops => ?_, fun _ => back⟩
  nomatch notStopAll.symm.trans stops

/-- **The slots are what the calls in progress make of them.** -/
structure Sound (s : System) : Prop where
  apart : Pairs Call.Apart s.calls
  phases : Every (fun _ call => ∀ c, call.connection = some c → call.phase.Holds s.manager c) s.calls
  idle : ∀ c, (∀ (i : Nat) (call : Call), s.calls[i]? = some call →
    call.connection ≠ some c ∧ call.isStopAll = false) → Phase.Holds s.manager c .settled
  stopping : Every (fun _ call => ∀ pc, call = .stopAll pc → pc.Holds s.manager) s.calls
  known : Known s.manager

/-- Calls on one id do not overlap, and `stop_all` with none; a subscription does not fail. -/
def Separate (s : System) : Event → Prop
  | .create msg _ => ∀ call ∈ s.calls, call.connection ≠ some msg.connectionId ∧ call.isStopAll = false
  | .close c => ∀ call ∈ s.calls, call.connection ≠ some c ∧ call.isStopAll = false
  | .stopAll => ∀ call ∈ s.calls, call.isReturned = true
  | .advance i answer => ∀ call ∈ s.calls[i]?, call.subscribes = true → answer = none
  | .forwarderEnds _ => True

section Steps

variable {s : System}

theorem Sound.start : Sound .start where
  apart := fun _ _ _ _ found => absurd found (by simp [System.start])
  phases := fun _ _ found => absurd found (by simp [System.start])
  idle := fun c _ => ⟨none, none, rfl, rfl, fun a => ⟨fun ⟨_, found, _⟩ => absurd found (by
    simp [System.start, new]), nofun⟩, fun f a ⟨found, _⟩ => absurd found (by
    simp [System.start, new])⟩
  stopping := fun _ _ found => absurd found (by simp [System.start])
  known := nofun

theorem Sound.begin {c : String} (sound : Sound s) (about : call.connection = some c)
    (first : call.phase = .settled)
    (separate : ∀ other ∈ s.calls, other.connection ≠ some c ∧ other.isStopAll = false) :
    Sound (s.begin call) := by
  have notStopAll : call.isStopAll = false := (Call.of_connection about).2
  have done : Phase.Holds s.manager c .settled :=
    sound.idle c fun i other found => separate other (mem_of_getElem? found)
  refine ⟨?_, ?_, ?_, ?_, sound.known⟩
  · refine sound.apart.append Call.Apart.symm fun j other found => ?_
    obtain ⟨apart, notOther⟩ := separate other (mem_of_getElem? found)
    refine ⟨fun d isD => ?_, fun stops => ?_, fun stops => ?_⟩
    · rw [about, some.injEq] at isD
      exact isD ▸ apart
    · nomatch notStopAll.symm.trans stops
    · nomatch notOther.symm.trans stops
  · refine sound.phases.append (fun d isD => ?_) fun _ _ _ kept => kept
    rw [about, some.injEq] at isD
    rw [first, ← isD]
    exact done
  · exact fun d free => sound.idle d fun i other found => free i other (append_old found)
  · refine sound.stopping.append (fun pc isStop => ?_) fun _ _ _ kept => kept
    nomatch notStopAll.symm.trans (congrArg Call.isStopAll isStop)

/-- `stop_all` begins when no call is in progress. -/
theorem Sound.beginStopAll (sound : Sound s) (alone : ∀ call ∈ s.calls, call.isReturned = true) :
    Sound (s.begin (.stopAll .collectHandles)) := by
  have back : ∀ (i : Nat) (call : Call), s.calls[i]? = some call → call.isReturned = true :=
    fun i call found => alone call (mem_of_getElem? found)
  refine ⟨?_, ?_, ?_, ?_, sound.known⟩
  · refine sound.apart.append Call.Apart.symm fun j other found => ?_
    exact (Call.Apart.of_returned (back j other found) _).symm
  · exact sound.phases.append (fun _ => nofun) fun _ _ _ kept => kept
  · exact fun d free => sound.idle d fun i other found => free i other (append_old found)
  · refine sound.stopping.append (fun pc isStop => ?_) fun _ _ _ kept => kept
    cases isStop
    intro c
    refine sound.idle c fun i call found => ?_
    obtain ⟨none, notStopAll, -⟩ := Call.of_isReturned (back i call found)
    exact ⟨fun isC => (nomatch none.symm.trans isC), notStopAll⟩

/-- **A call on a connection id takes a step.** -/
theorem Sound.advance {c : String} {next : AdapterManager × Call} (sound : Sound s)
    (found : s.calls[i]? = some call) (about : call.connection = some c)
    (moved : CallMoved c s.manager next) : Sound ⟨next.1, s.calls.set i next.2⟩ := by
  obtain ⟨inProgress, notBefore⟩ := Call.of_connection about
  have notStopAll : next.2.isStopAll = false := by
    rcases moved.goes with stays | back
    · exact (Call.of_connection stays).2
    · exact (Call.of_isReturned back).2.1
  have elsewhere : ∀ (j : Nat) (other : Call), j ≠ i → s.calls[j]? = some other →
      other.connection ≠ some c ∧ other.isStopAll = false := by
    intro j other ne isOther
    have apart := sound.apart i j call other found isOther (Ne.symm ne)
    refine ⟨apart.connections c about, Bool.eq_false_iff.mpr fun stops => ?_⟩
    nomatch inProgress.symm.trans (apart.aloneToo stops)
  refine ⟨?_, ?_, ?_, ?_, moved.moved.known⟩
  · refine sound.apart.set Call.Apart.symm fun j other ne isOther => ?_
    obtain ⟨otherId, notOther⟩ := elsewhere j other ne isOther
    rcases moved.goes with stays | back
    · refine ⟨fun d isD => ?_, fun stops => ?_, fun stops => ?_⟩
      · rw [stays, some.injEq] at isD
        exact isD ▸ otherId
      · nomatch notStopAll.symm.trans stops
      · nomatch notOther.symm.trans stops
    · exact .of_returned back other
  · refine sound.phases.set (fun d isD => ?_) fun j other ne isOther kept d isD => ?_
    · rcases moved.goes with stays | back
      · rw [stays, some.injEq] at isD
        exact isD ▸ moved.moved.holds
      · nomatch (Call.of_isReturned back).1.symm.trans isD
    · refine (kept d isD).spared moved.moved.spares ?_
      rintro rfl
      exact (elsewhere j other ne isOther).1 isD
  · intro d free
    by_cases same : d = c
    · subst same
      rcases moved.goes with stays | back
      · exact absurd stays (free i next.2 (set_self found)).1
      · exact (Call.of_isReturned back).2.2 ▸ moved.moved.holds
    · refine (sound.idle d fun j other isOther => ?_).spared moved.moved.spares same
      rcases moves_or_stays next.2 found isOther with ⟨rfl, rfl⟩ | stays
      · exact ⟨fun isD => same (some.inj (about.symm.trans isD)).symm, notBefore⟩
      · exact free j other stays
  · refine sound.stopping.set (fun pc isStop => ?_) fun j other ne isOther _ pc isStop => ?_
    · nomatch notStopAll.symm.trans (congrArg Call.isStopAll isStop)
    · nomatch (elsewhere j other ne isOther).2.symm.trans
        (congrArg Call.isStopAll isStop)

/-- **`stop_all` takes a step.** -/
theorem Sound.advanceStopAll (sound : Sound s) (found : s.calls[i]? = some (.stopAll pc)) :
    Sound ⟨(pc.step s.manager).1, s.calls.set i (pc.step s.manager).2⟩ := by
  obtain ⟨known, leaves⟩ := moved_stopAll sound.known (sound.stopping i _ found pc rfl)
  obtain ⟨noConnection, done, goesOn⟩ := leaves.cases
  have back : ∀ (j : Nat) (other : Call), j ≠ i → s.calls[j]? = some other →
      other.isReturned = true := fun j other ne isOther =>
    (sound.apart i j _ other found isOther (Ne.symm ne)).alone rfl
  refine ⟨?_, ?_, ?_, ?_, known⟩
  · refine sound.apart.set Call.Apart.symm fun j other ne isOther => ?_
    exact (Call.Apart.of_returned (back j other ne isOther) _).symm
  · refine sound.phases.set (fun d isD => ?_) fun j other ne isOther _ d isD => ?_
    · nomatch noConnection.symm.trans isD
    · nomatch (Call.of_isReturned (back j other ne isOther)).1.symm.trans isD
  · exact fun c free => done (free i _ (set_self found)).2 c
  · refine sound.stopping.set goesOn fun j other ne isOther _ next isStop => ?_
    have notStopAll := (Call.of_isReturned (back j other ne isOther)).2.1
    nomatch notStopAll.symm.trans (congrArg Call.isStopAll isStop)

theorem StopAllPc.Holds.forwarderEnds {m : AdapterManager} (holds : pc.Holds m) (f : Nat) :
    pc.Holds (m.endForwarder f) := by
  cases pc with
  | abortEach keys => exact fun c => ⟨(holds c).1.forwarderEnds f, (holds c).2⟩
  | stopEach a keys =>
    obtain ⟨c, holding, others⟩ := holds
    exact ⟨c, holding.forwarderEnds f, fun d other => (others d other).forwarderEnds f⟩
  | collectHandles | collectAdapters | removeEach keys | readLen | storeLen n | clear =>
    exact fun c => (holds c).forwarderEnds f

theorem set_getElem_self (found : s.calls[i]? = some call) : s.calls.set i call = s.calls := by
  obtain ⟨mem, isCall⟩ := List.getElem?_eq_some_iff.mp found
  rw [← isCall, List.set_getElem_self]

/-- **The slots are kept by every step of separate calls.** -/
theorem Sound.step (event : Event) (sound : Sound s) (separate : Separate s event) :
    Sound (s.step event) := by
  cases event with
  | create msg env | close c => exact sound.begin rfl rfl separate
  | stopAll => exact sound.beginStopAll separate
  | advance i answer =>
    simp only [System.step]
    cases found : s.calls[i]? with
    | none => exact sound
    | some call =>
      have subscribed := separate call found
      cases about : call.connection with
      | some c =>
        exact sound.advance found about
          (moved_call sound.known about (sound.phases i call found c about) subscribed)
      | none =>
        cases call with
        | create msg env pc | close c pc => cases about
        | stopAll pc => exact sound.advanceStopAll found
        | returned done =>
          show Sound ⟨s.manager, s.calls.set i (.returned done)⟩
          rw [set_getElem_self found]
          exact sound
  | forwarderEnds f =>
    exact ⟨sound.apart, fun i call found c isC => (sound.phases i call found c isC).forwarderEnds f,
      fun c free => (sound.idle c free).forwarderEnds f,
      fun i call found pc isStop => (sound.stopping i call found pc isStop).forwarderEnds f,
      sound.known.endForwarder f⟩

end Steps

end Detrix.AgentProcess
