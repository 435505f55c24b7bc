/-
**At most one live adapter.**

`one_live_adapter`: in every run in which starts that overlap have the same port and registrations
overlap with no start and no other registration, an adapter that is stored does not overwrite another
one, and once all calls have returned every instance that was started and not stopped is the one that
is stored. Stops, crashes and the cleanup task may interleave as they like.

A start on another port takes over while the first one is between its last check and its insertion,
and both of them are started: `taken_over_start_overwrites`.

The proof: `Move` says once what a step of a call can do to the shared state and to the role of the
call, `Sound` is the invariant, and `Sound.move` derives it from `Move` alone.
-/

import Detrix.Lifecycle.Machine

namespace Detrix.Lifecycle

open Library Calls Detrix.Lifecycle.System List Option Run

/-! ### The roles of a call -/

/-- The start has made the entry in `pending_starts`. -/
def StartPc.held : StartPc → Bool
  | .enter _ | .takeOver | .claim | .waiting _ | .looking _ => false
  | _ => true

/-- The call has seen to it that no adapter is stored, and is going to store its own. -/
def StartPc.builds : StartPc → Bool
  | .replacing (.stopping _) | .creating | .subscribing | .confirming | .discarding | .storing => true
  | _ => false

def RegisterPc.builds : RegisterPc → Bool
  | .replacing (.stopping _) | .subscribing | .storing => true
  | _ => false

namespace Call

/-- The call has made the entry in `pending_starts` for the port. -/
def Holds (port : Port) : Call → Prop
  | .start own pc => own = port ∧ pc.held = true
  | _ => False

def builds : Call → Bool
  | .start _ pc => pc.builds
  | .register pc => pc.builds
  | _ => false

def takesOver : Call → Bool
  | .start _ .takeOver | .start _ .claim => true
  | _ => false

/-- The call has an instance in its hands: its own one that is not stored yet, or one that it has
taken out of the map to stop it. -/
def Carries (self x : Instance) : Call → Prop
  | .start _ (.replacing pc) => pc = .stopping x
  | .start _ pc => self = x ∧ (pc = .subscribing ∨ pc = .confirming ∨ pc = .discarding ∨ pc = .storing)
  | .register pc => self = x ∨ pc = .replacing (.stopping x)
  | .stop pc => pc = .stopping x
  | .returned => False

/-- Two calls may be in progress at the same time. -/
def Compatible : Call → Call → Prop
  | .start one _, .start other _ => one = other
  | .start _ _, .register _ | .register _, .start _ _ | .register _, .register _ => False
  | _, _ => True

theorem Compatible.symm (a b : Call) (compatible : a.Compatible b) : b.Compatible a := by
  cases a <;> cases b <;> first | exact compatible | exact Eq.symm compatible

end Call

open Call

/-! ### What a step of a call can do -/

/-- **A step of a call**, from the place `a` in the state `s` to `b` in `t`. -/
structure Move (me : Instance) (s : Lifecycle) (a : Call) (t : Lifecycle) (b : Call) : Prop where
  /-- It does not become another kind of call. -/
  compatible : ∀ c, a.Compatible c → b.Compatible c
  plain : b.takesOver = false
  /-- It leaves the entry in `pending_starts` alone, or makes it, or removes its own one. -/
  pending : (t.pending = s.pending ∧ ∀ port, b.Holds port ↔ a.Holds port) ∨
    (s.pending = none ∧ ∃ own, t.pending = some own ∧ ∀ port, b.Holds port ↔ port = own) ∨
    ((∃ own, a.Holds own) ∧ t.pending = none ∧ ∀ port, ¬ b.Holds port)
  /-- It leaves the entry in `adapters` alone, or removes it, or stores its own adapter. -/
  stored : (t.stored = s.stored ∧ (b.builds = true → s.stored = none)) ∨ t.stored = none ∨
    (a.builds = true ∧ b.builds = false)
  /-- What is live is in its hands or stored, or the call had nothing to do with it. -/
  live : ∀ x ∈ t.live, b.Carries me x ∨ t.stored = some x ∨
    (x ∈ s.live ∧ s.stored ≠ some x ∧ ¬ a.Carries me x)
  cleanup : t.cleanup = s.cleanup

/-- The call stays of its kind, with the entry in `pending_starts` that it has. -/
structure Call.GoesOn (a b : Call) : Prop where
  compatible : ∀ c, a.Compatible c → b.Compatible c
  plain : b.takesOver = false
  holds : ∀ port, b.Holds port ↔ a.Holds port

variable {port : Port} {pc : StartPc}

section Rules

variable {self : Instance} {s t : Lifecycle} {a b : Call}

/-- What is live is accounted for after a step that leaves the stored adapter alone. -/
theorem live_kept (stored : t.stored = s.stored)
    (live : ∀ x ∈ t.live, x ∈ s.live ∨ b.Carries self x)
    (carries : ∀ x ∈ t.live, a.Carries self x → b.Carries self x) :
    ∀ x ∈ t.live, b.Carries self x ∨ t.stored = some x ∨
      (x ∈ s.live ∧ s.stored ≠ some x ∧ ¬ a.Carries self x) := by
  intro x isLive
  rcases live x isLive with before | carried
  · by_cases isStored : s.stored = some x
    · exact .inr (.inl (stored.trans isStored))
    · by_cases carried : a.Carries self x
      · exact .inl (carries x isLive carried)
      · exact .inr (.inr ⟨before, isStored, carried⟩)
  · exact .inl carried

theorem Move.keep (pending : t.pending = s.pending) (stored : t.stored = s.stored)
    (cleanup : t.cleanup = s.cleanup) (goesOn : a.GoesOn b) (builds : b.builds = true → s.stored = none)
    (live : ∀ x ∈ t.live, x ∈ s.live ∨ b.Carries self x)
    (carries : ∀ x ∈ t.live, a.Carries self x → b.Carries self x) : Move self s a t b where
  compatible := goesOn.compatible
  plain := goesOn.plain
  pending := .inl ⟨pending, goesOn.holds⟩
  stored := .inl ⟨stored, builds⟩
  live := live_kept stored live carries
  cleanup := cleanup

/-- A step that only looks. -/
theorem Move.look (goesOn : a.GoesOn b) (builds : b.builds = true → s.stored = none)
    (carries : ∀ x, a.Carries self x → b.Carries self x) : Move self s a s b :=
  .keep rfl rfl rfl goesOn builds (fun _ isLive => .inl isLive) fun x _ => carries x

/-- The entry in `pending_starts` is made. -/
theorem Move.claim (free : s.pending = none) (compatible : ∀ c, a.Compatible c → b.Compatible c)
    (plain : b.takesOver = false) (holds : ∀ other, b.Holds other ↔ other = port)
    (builds : b.builds = false) (carries : ∀ x, ¬ a.Carries self x) :
    Move self s a { s with pending := some port } b where
  compatible := compatible
  plain := plain
  pending := .inr (.inl ⟨free, port, rfl, holds⟩)
  stored := .inl ⟨rfl, fun building => nomatch builds.symm.trans building⟩
  live := live_kept rfl (fun _ isLive => .inl isLive) fun x _ carried => absurd carried (carries x)
  cleanup := rfl

/-- The own entry in `pending_starts` is removed. -/
theorem Move.release (held : a.Holds port) (carries : ∀ x, ¬ a.Carries self x) :
    Move self s a { s with pending := none } .returned where
  compatible := fun c _ => by cases c <;> trivial
  plain := rfl
  pending := .inr (.inr ⟨⟨port, held⟩, rfl, fun _ => id⟩)
  stored := .inl ⟨rfl, nofun⟩
  live := live_kept rfl (fun _ isLive => .inl isLive) fun x _ carried => absurd carried (carries x)
  cleanup := rfl

theorem Move.take {victim : Instance} (isStored : s.stored = some victim) (goesOn : a.GoesOn b)
    (taken : b.Carries self victim)
    (carries : ∀ x, a.Carries self x → b.Carries self x) :
    Move self s a { s with stored := none } b where
  compatible := goesOn.compatible
  plain := goesOn.plain
  pending := .inl ⟨rfl, goesOn.holds⟩
  stored := .inr (.inl rfl)
  live := by
    intro x isLive
    by_cases isVictim : s.stored = some x
    · rw [isStored, some.injEq] at isVictim
      exact .inl (isVictim ▸ taken)
    · by_cases carried : a.Carries self x
      · exact .inl (carries x carried)
      · exact .inr (.inr ⟨isLive, isVictim, carried⟩)
  cleanup := rfl

theorem Move.drop {victim : Instance} (goesOn : a.GoesOn b) (builds : b.builds = true → s.stored = none)
    (carries : ∀ x, a.Carries self x → x = victim ∨ b.Carries self x) :
    Move self s a (s.stop victim) b := by
  have stops : ∀ x ∈ (s.stop victim).live, x ∈ s.live ∧ x ≠ victim := by
    intro x isLive
    simpa [Lifecycle.stop] using isLive
  refine .keep rfl rfl rfl goesOn builds (fun x isLive => .inl (stops x isLive).1) ?_
  exact fun x isLive carried => (carries x carried).resolve_left (stops x isLive).2

theorem Move.store (empty : s.stored = none) (building : a.builds = true) (built : b.builds = false)
    (goesOn : a.GoesOn b) (carries : ∀ x, a.Carries self x → x = self) :
    Move self s a { s with stored := some self } b where
  compatible := goesOn.compatible
  plain := goesOn.plain
  pending := .inl ⟨rfl, goesOn.holds⟩
  stored := .inr (.inr ⟨building, built⟩)
  live := by
    intro x isLive
    by_cases isSelf : x = self
    · exact .inr (.inl (congrArg some isSelf.symm))
    · refine .inr (.inr ⟨isLive, ?_, fun carried => isSelf (carries x carried)⟩)
      rw [empty]
      nofun
  cleanup := rfl

end Rules

theorem Call.start_compatible {next : StartPc} (c : Call)
    (compatible : (start port pc).Compatible c) : (start port next).Compatible c := by
  cases c <;> exact compatible

theorem Call.start_goesOn {next : StartPc} (plain : (start port next).takesOver = false)
    (held : next.held = pc.held) : (start port pc).GoesOn (start port next) :=
  ⟨start_compatible, plain, fun _ => by rw [Call.Holds, Call.Holds, held]⟩

theorem Call.register_goesOn {pc next : RegisterPc} : (register pc).GoesOn (register next) :=
  ⟨fun c compatible => by cases c <;> exact compatible, rfl, fun _ => Iff.rfl⟩

theorem Call.stop_goesOn {pc next : StopPc} : (stop pc).GoesOn (stop next) :=
  ⟨fun c _ => by cases c <;> trivial, rfl, fun _ => Iff.rfl⟩

theorem Call.returned_goesOn {a : Call} (idle : ∀ port, ¬ a.Holds port) : a.GoesOn returned :=
  ⟨fun c _ => by cases c <;> trivial, rfl, fun port => ⟨nofun, idle port⟩⟩

section Steps

variable {maxRetries : Nat} {self : Instance} {ok : Bool} {s : Lifecycle}

theorem stop_moves (pc : StopPc) :
    Move self s (.stop pc) (stopStep s pc).1 (goOn .stop (stopStep s pc).2) := by
  cases pc with
  | removing =>
    rw [stopStep]
    split
    next victim stored => exact .take stored stop_goesOn rfl nofun
    next => exact .look (returned_goesOn nofun) nofun nofun
  | stopping victim =>
    exact .drop (returned_goesOn nofun) nofun fun x carried => .inl (StopPc.stopping.inj carried).symm

theorem register_moves {pc : RegisterPc} (empty : pc.builds = true → s.stored = none)
    (subscribes : pc = .subscribing → ok = true) :
    Move self s (.register pc) (registerStep self ok s pc).1
      (goOn .register (registerStep self ok s pc).2) := by
  cases pc with
  | checking =>
    cases stored : s.stored with
    | some victim =>
      simp only [registerStep, stored]
      exact .look register_goesOn nofun fun x carried =>
        carried.imp_right nofun
    | none =>
      exact .look register_goesOn (fun _ => stored) fun x carried =>
        carried.imp_right nofun
  | replacing inner =>
    cases inner with
    | removing =>
      cases stored : s.stored <;> simp only [registerStep, stopStep, stored]
      · exact .look register_goesOn (fun _ => stored) fun x carried => carried.imp_right nofun
      · exact .take stored register_goesOn (.inr rfl) fun x carried => carried.imp_right nofun
    | stopping victim =>
      refine .drop register_goesOn (fun _ => empty rfl) ?_
      rintro x (isSelf | isVictim)
      · exact .inr (.inl isSelf)
      · exact .inl (StopPc.stopping.inj (RegisterPc.replacing.inj isVictim)).symm
  | subscribing =>
    rw [subscribes rfl]
    exact .keep rfl rfl rfl register_goesOn (fun _ => empty rfl)
      (fun _ isLive => .inl isLive) fun x _ carried => carried.imp_right nofun
  | storing =>
    refine .store (empty rfl) rfl rfl (returned_goesOn nofun) ?_
    rintro x (isSelf | isReplacing)
    · exact isSelf.symm
    · cases isReplacing

/-- A start goes on, and leaves the shared state alone. -/
theorem start_look {next : StartPc} (plain : (start port next).takesOver = false)
    (held : next.held = pc.held) (builds : next.builds = true → s.stored = none)
    (carries : ∀ x, (start port pc).Carries self x → (start port next).Carries self x) :
    Move self s (.start port pc) s (.start port next) :=
  .look (start_goesOn plain held) builds carries

theorem start_returns (notHeld : pc.held = false) (idle : ∀ x, ¬ (start port pc).Carries self x) :
    Move self s (.start port pc) s .returned :=
  .look (returned_goesOn fun _ holds => nomatch notHeld.symm.trans holds.2) nofun
    fun x carried => absurd carried (idle x)

/-- A start that takes over no other one. -/
theorem start_moves (plain : (start port pc).takesOver = false)
    (alone : ∀ other, s.pending = some other → other = port)
    (held : pc.held = true → s.pending = some port) (empty : pc.builds = true → s.stored = none) :
    Move self s (.start port pc) (startStep maxRetries port self ok s pc).1
      (goOn (.start port) (startStep maxRetries port self ok s pc).2) := by
  cases pc with
  | enter retries =>
    cases waits : s.pending with
    | none =>
      simp only [startStep, waits]
      refine .claim waits start_compatible rfl (fun other => ?_) rfl nofun
      exact ⟨fun holds => holds.1.symm, fun isPort => ⟨isPort.symm, rfl⟩⟩
    | some other =>
      simp only [startStep, waits, alone other waits, ne_eq, not_true_eq_false, if_false]
      exact start_look rfl rfl nofun nofun
  | takeOver | claim => cases plain
  | waiting retries =>
    simp only [startStep]
    split
    · split
      · exact start_look rfl rfl nofun nofun
      · exact start_returns rfl nofun
    · exact start_look rfl rfl nofun nofun
  | looking retries =>
    simp only [startStep]
    split
    · exact start_returns rfl nofun
    · split
      · exact start_returns rfl nofun
      · exact start_look rfl rfl nofun nofun
  | checking =>
    cases stored : s.stored <;> simp only [startStep, stored]
    · exact start_look rfl rfl (fun _ => stored) nofun
    · exact start_look rfl rfl nofun nofun
  | replacing inner =>
    cases inner with
    | removing =>
      cases stored : s.stored <;> simp only [startStep, stopStep, stored]
      · exact start_look rfl rfl (fun _ => stored) nofun
      · exact .take stored (start_goesOn rfl rfl) rfl nofun
    | stopping victim =>
      refine .drop (start_goesOn rfl rfl) (fun _ => empty rfl) fun x carried => ?_
      exact .inl (StopPc.stopping.inj carried).symm
  | creating =>
    simp only [startStep]
    split
    · refine .keep rfl rfl rfl (start_goesOn rfl rfl) (fun _ => empty rfl)
        (fun x isLive => ?_) fun x _ carried => by simp [Call.Carries] at carried
      exact (mem_cons.mp isLive).symm.imp_right fun isSelf => ⟨isSelf.symm, .inl rfl⟩
    · exact start_look rfl rfl nofun nofun
  | subscribing =>
    simp only [startStep]
    split
    · exact .keep rfl rfl rfl (start_goesOn rfl rfl) (fun _ => empty rfl)
        (fun _ isLive => .inl isLive) fun x _ carried => ⟨carried.1, .inr (.inl rfl)⟩
    · exact start_look rfl rfl (fun _ => empty rfl) fun x carried => ⟨carried.1, .inr (.inr (.inl rfl))⟩
  | confirming =>
    simp only [startStep]
    split
    · exact start_look rfl rfl (fun _ => empty rfl) fun x carried => ⟨carried.1, .inr (.inr (.inr rfl))⟩
    · exact start_look rfl rfl (fun _ => empty rfl) fun x carried => ⟨carried.1, .inr (.inr (.inl rfl))⟩
  | discarding =>
    exact .drop (start_goesOn rfl rfl) nofun fun x carried => .inl carried.1.symm
  | storing =>
    exact .store (empty rfl) rfl rfl (start_goesOn rfl rfl)
      fun x carried => carried.1.symm
  | releasing =>
    simp only [startStep, held rfl, if_true]
    exact .release ⟨rfl, rfl⟩ nofun

end Steps

theorem Call.moves {maxRetries : Nat} {self : Instance} {ok : Bool} {s : Lifecycle} {call : Call}
    (plain : call.takesOver = false)
    (alone : ∀ port pc, call = .start port pc → ∀ other, s.pending = some other → other = port)
    (held : ∀ port, call.Holds port → s.pending = some port)
    (empty : call.builds = true → s.stored = none)
    (subscribes : call = .register .subscribing → ok = true) :
    Move self s call (call.step maxRetries self ok s).1 (call.step maxRetries self ok s).2 := by
  cases call with
  | start port pc => exact start_moves plain (alone port pc rfl) (fun isHeld => held port ⟨rfl, isHeld⟩) empty
  | register pc => exact register_moves empty fun isPc => subscribes (congrArg register isPc)
  | stop pc => exact stop_moves pc
  | returned => exact .look (returned_goesOn nofun) nofun nofun

/-! ### The invariant -/

/-- **The calls in progress and the shared state fit together.** -/
structure Sound (s : System) : Prop where
  compatible : Pairs Call.Compatible s.calls
  plain : Every (fun _ c => c.takesOver = false) s.calls
  /-- The entry in `pending_starts` is the one of the call that holds it, -/
  held : Every (fun _ c => ∀ port, c.Holds port → s.shared.pending = some port) s.calls
  /-- there is one such call at most, -/
  single : Pairs (fun a b => ∀ one other, a.Holds one → ¬ b.Holds other) s.calls
  /-- and there is one if there is an entry. -/
  holder : ∀ port, s.shared.pending = some port →
    ∃ (i : Nat) (c : Call), s.calls[i]? = some c ∧ c.Holds port
  /-- No adapter is stored while a call builds one. -/
  empty : Every (fun _ c => c.builds = true → s.shared.stored = none) s.calls
  /-- What is live is stored or in the hands of the cleanup task or of a call. -/
  owned : ∀ x ∈ s.shared.live, s.shared.stored = some x ∨ s.shared.cleanup = .stopping x ∨
    ∃ (i : Nat) (c : Call), s.calls[i]? = some c ∧ c.Carries i x

theorem StartPc.held_of_builds (building : pc.builds = true) : pc.held = true := by
  cases pc <;> first | rfl | cases building

theorem not_both_build {a b : Call} (compatible : a.Compatible b)
    (single : ∀ one other, a.Holds one → ¬ b.Holds other) (first : a.builds = true) :
    b.builds = false := by
  rw [Bool.eq_false_iff]
  intro second
  cases a with
  | start one pc =>
    cases b with
    | start other next =>
      exact single one other ⟨rfl, pc.held_of_builds first⟩ ⟨rfl, next.held_of_builds second⟩
    | register next => exact compatible
    | stop next | returned => cases second
  | register pc =>
    cases b with
    | start other next | register next => exact compatible
    | stop next | returned => cases second
  | stop pc | returned => cases first

theorem Call.builds_of_stores {c : Call} (storing : c.stores = true) : c.builds = true := by
  cases c with
  | start port pc | register pc => cases pc <;> first | rfl | cases storing
  | _ => cases storing

namespace Sound

variable {s : System} {i : Nat} {a b : Call} {t : Lifecycle}

/-- **What a step of a call can do keeps the invariant.** -/
theorem move (sound : Sound s) (known : s.calls[i]? = some a) (move : Move i s.shared a t b) :
    Sound ⟨t, s.calls.set i b⟩ := by
  have others : ∀ j c, j ≠ i → s.calls[j]? = some c → (∀ one other, a.Holds one → ¬ c.Holds other) :=
    fun j c ne stays => sound.single i j a c known stays (Ne.symm ne)
  have fits : ∀ j c, j ≠ i → s.calls[j]? = some c → a.Compatible c :=
    fun j c ne stays => sound.compatible i j a c known stays (Ne.symm ne)
  refine ⟨?_, ?_, ?_, ?_, ?_, ?_, ?_⟩
  · exact sound.compatible.set Call.Compatible.symm fun j c ne stays =>
      move.compatible c (fits j c ne stays)
  · exact sound.plain.set move.plain fun _ _ _ _ isPlain => isPlain
  · -- the entry in `pending_starts`
    rcases move.pending with ⟨same, holds⟩ | ⟨free, own, made, holds⟩ | ⟨⟨own, isHolder⟩, -, holds⟩
    · refine sound.held.set (fun port isHeld => ?_) fun _ _ _ _ isHeld port h =>
        same.trans (isHeld port h)
      exact same.trans (sound.held i a known port ((holds port).mp isHeld))
    · refine sound.held.set (fun port isHeld => ?_) fun _ _ _ _ isHeld port h => ?_
      · rw [(holds port).mp isHeld]
        exact made
      · nomatch free.symm.trans (isHeld port h)
    · refine sound.held.set (fun port isHeld => absurd isHeld (holds port)) ?_
      exact fun j c ne stays _ port h =>
        absurd h (others j c ne stays own port isHolder)
  · refine sound.single.set (fun _ _ apart one other holdsB holdsA => apart other one holdsA holdsB) ?_
    intro j c ne stays one other isHeld otherHeld
    rcases move.pending with ⟨-, holds⟩ | ⟨free, -⟩ | ⟨-, -, holds⟩
    · exact others j c ne stays one other ((holds one).mp isHeld) otherHeld
    · nomatch free.symm.trans (sound.held j c stays other otherHeld)
    · exact holds one isHeld
  · intro port waits
    rcases move.pending with ⟨same, holds⟩ | ⟨-, own, made, holds⟩ | ⟨-, gone, -⟩
    · exact exists_set known (holds port).mpr (sound.holder port (same.symm.trans waits))
    · exact ⟨i, b, set_self known, (holds port).mpr (some.inj (waits.symm.trans made))⟩
    · nomatch gone.symm.trans waits
  · -- the entry in `adapters`
    rcases move.stored with ⟨same, builds⟩ | gone | ⟨building, built⟩
    · exact sound.empty.set (fun isBuilding => same.trans (builds isBuilding))
        fun _ _ _ _ isEmpty isBuilding => same.trans (isEmpty isBuilding)
    · exact sound.empty.set (fun _ => gone) fun _ _ _ _ _ _ => gone
    · refine sound.empty.set (fun isBuilding => nomatch built.symm.trans isBuilding) ?_
      intro j c ne stays _ isBuilding
      have notBuilding := not_both_build (fits j c ne stays) (others j c ne stays) building
      nomatch notBuilding.symm.trans isBuilding
  · intro x isLive
    rcases move.live x isLive with carried | stored | ⟨before, notStored, notCarried⟩
    · exact .inr (.inr ⟨i, b, set_self known, carried⟩)
    · exact .inl stored
    · rcases sound.owned x before with stored | isStopping | carrier
      · exact absurd stored notStored
      · exact .inr (.inl (move.cleanup.trans isStopping))
      · exact .inr (.inr (exists_set known (absurd · notCarried) carrier))

theorem shared (sound : Sound s) (pending : t.pending = s.shared.pending)
    (stored : t.stored = s.shared.stored ∨ t.stored = none)
    (live : ∀ x ∈ t.live, x ∈ s.shared.live ∧ (s.shared.stored = some x →
      t.stored = some x ∨ t.cleanup = .stopping x) ∧
      (s.shared.cleanup = .stopping x → t.cleanup = .stopping x)) : Sound ⟨t, s.calls⟩ where
  compatible := sound.compatible
  plain := sound.plain
  held := fun i c known port isHeld => pending.trans (sound.held i c known port isHeld)
  single := sound.single
  holder := fun port waits => sound.holder port (pending.symm.trans waits)
  empty := by
    intro i c known building
    rcases stored with same | gone
    · exact same.trans (sound.empty i c known building)
    · exact gone
  owned := by
    intro x isLive
    obtain ⟨before, isStored, isStopping⟩ := live x isLive
    rcases sound.owned x before with wasStored | wasStopping | carried
    · exact (isStored wasStored).imp_right .inl
    · exact .inr (.inl (isStopping wasStopping))
    · exact .inr (.inr carried)

theorem new : Sound System.new := by
  refine ⟨?_, ?_, ?_, ?_, ?_, ?_, ?_⟩ <;> simp [System.new, Lifecycle.new, Pairs, Every]

/-- A call begins that is compatible with those in progress. -/
theorem begins (sound : Sound s) {call : Begin} (fits : ∀ c ∈ s.calls, call.call.Compatible c) :
    Sound ⟨s.opened call, s.calls ++ [call.call]⟩ := by
  have idle : ∀ port, ¬ call.call.Holds port := by
    intro port isHolder
    cases call with
    | start own => nomatch isHolder.2
    | register | stop => exact isHolder
  have notBuilding : ¬ call.call.builds = true := by cases call <;> nofun
  have same : (s.opened call).pending = s.shared.pending ∧
      (s.opened call).stored = s.shared.stored ∧ (s.opened call).cleanup = s.shared.cleanup := by
    cases call <;> exact ⟨rfl, rfl, rfl⟩
  obtain ⟨pending, stored, cleanup⟩ := same
  refine ⟨?_, ?_, ?_, ?_, ?_, ?_, ?_⟩
  · exact sound.compatible.append Call.Compatible.symm fun j c known =>
      fits c (mem_of_getElem? known)
  · exact sound.plain.append (by cases call <;> rfl) fun _ _ _ isPlain => isPlain
  · refine sound.held.append (fun port isHolder => absurd isHolder (idle port)) ?_
    exact fun _ _ _ isHeld port isHolder => pending.trans (isHeld port isHolder)
  · refine sound.single.append
      (fun _ _ apart one other holdsB holdsA => apart other one holdsA holdsB) ?_
    exact fun _ _ _ one _ isHolder => absurd isHolder (idle one)
  · intro port waits
    obtain ⟨i, c, known, isHolder⟩ := sound.holder port (pending.symm.trans waits)
    exact ⟨i, c, append_old known, isHolder⟩
  · refine sound.empty.append (fun building => absurd building notBuilding) ?_
    exact fun _ _ _ isEmpty building => stored.trans (isEmpty building)
  · intro x isLive
    have source : x ∈ s.shared.live ∨ call.call.Carries s.calls.length x := by
      cases call with
      | start own => exact .inl isLive
      | register => exact (mem_cons.mp isLive).symm.imp_right fun isOwn => .inl isOwn.symm
      | stop => exact .inl isLive
    rcases source with before | carried
    · rcases sound.owned x before with isStored | isStopping | ⟨i, c, known, carried⟩
      · exact .inl (stored.trans isStored)
      · exact .inr (.inl (cleanup.trans isStopping))
      · exact .inr (.inr ⟨i, c, append_old known, carried⟩)
    · exact .inr (.inr ⟨s.calls.length, call.call, append_new, carried⟩)

theorem crashes (sound : Sound s) (x : Instance) : Sound { s with shared := s.shared.crash x } := by
  unfold Lifecycle.crash
  split
  · exact sound.shared rfl (.inl rfl) fun _ isLive => ⟨isLive, .inl, id⟩
  · exact sound

theorem crashesElsewhere (sound : Sound s) : Sound { s with shared := s.shared.crashElsewhere } := by
  unfold Lifecycle.crashElsewhere
  split
  · exact sound.shared rfl (.inl rfl) fun _ isLive => ⟨isLive, .inl, id⟩
  · exact sound

theorem cleansUp (sound : Sound s) : Sound { s with shared := s.shared.cleanUp } := by
  have waits : s.shared.cleanup = .waiting → ∀ x, s.shared.cleanup ≠ .stopping x :=
    fun isWaiting x isStopping => nomatch isWaiting.symm.trans isStopping
  have removes : ∀ sender, s.shared.cleanup = .removing sender → ∀ x, s.shared.cleanup ≠ .stopping x :=
    fun sender isRemoving x isStopping => nomatch isRemoving.symm.trans isStopping
  have step := s.shared.cleanUp_cleansUp
  generalize s.shared.cleanUp = t at step ⊢
  cases step with
  | idle => exact sound
  | elsewhere rest first isWaiting =>
    exact sound.shared rfl (.inl rfl) fun x isLive => ⟨isLive, .inl, id⟩
  | receive sender rest first isWaiting =>
    exact sound.shared rfl (.inl rfl) fun x isLive =>
      ⟨isLive, .inl, fun isStopping => absurd isStopping (waits isWaiting x)⟩
  | remove sender victim isRemoving stored =>
    refine sound.shared rfl (.inr rfl) fun x isLive => ⟨isLive, fun isX => ?_, ?_⟩
    · rw [some.inj (stored.symm.trans isX)]
      exact .inr rfl
    · exact fun isStopping => absurd isStopping (removes sender isRemoving x)
  | missing sender isRemoving isMissing =>
    exact sound.shared rfl (.inl rfl) fun x isLive =>
      ⟨isLive, .inl, fun isStopping => absurd isStopping (removes sender isRemoving x)⟩
  | finish victim stopping =>
    refine sound.shared rfl (.inl rfl) fun x isLive => ?_
    have stays : x ∈ s.shared.live ∧ x ≠ victim := by simpa [Lifecycle.stop] using isLive
    refine ⟨stays.1, .inl, fun isStopping => absurd ?_ stays.2⟩
    exact (CleanupPc.stopping.inj (stopping.symm.trans isStopping)).symm

end Sound

/-! ### Runs -/

/-- **Calls overlap in an orderly way**: starts with starts on the same port, registrations with
neither starts nor registrations; and the adapter that is registered can be subscribed to. -/
def Orderly (s : System) : Event → Prop
  | .begin call => ∀ c ∈ s.calls, call.call.Compatible c
  | .advance i ok => s.calls[i]? = some (.register .subscribing) → ok = true
  | .crash _ | .crashElsewhere | .cleanUp => True

theorem sound_step {maxRetries : Nat} (s : System) (event : Event) (sound : Sound s)
    (orderly : Orderly s event) : Sound (s.step maxRetries event) := by
  cases event with
  | begin call => exact sound.begins orderly
  | advance i ok =>
    cases known : s.calls[i]? with
    | none =>
      rw [step_missing known]
      exact sound
    | some call =>
      rw [step_advance known]
      refine sound.move known (call.moves (sound.plain i call known) ?_ (sound.held i call known)
        (sound.empty i call known) ?_)
      · rintro port pc rfl other waits
        -- the entry belongs to a call in progress, which has the same port
        obtain ⟨j, holder, isHolder, holds⟩ := sound.holder other waits
        by_cases same : j = i
        · subst same
          cases known.symm.trans isHolder
          exact holds.1.symm
        · have compatible := sound.compatible j i holder _ isHolder known same
          cases holder with
          | start own next => exact holds.1.symm.trans compatible
          | _ => exact holds.elim
      · rintro rfl
        exact orderly known
  | crash x => exact sound.crashes x
  | crashElsewhere => exact sound.crashesElsewhere
  | cleanUp => exact sound.cleansUp

/-- **At most one live adapter.** After every orderly run no call is about to overwrite an adapter,
and if all calls have returned and the cleanup task is not stopping an adapter, every instance that
was started and not stopped is the one that is stored. -/
theorem one_live_adapter (maxRetries : Nat) (events : List Event)
    (orderly : Run.Allowed (step maxRetries) Orderly .new events) :
    (∀ call ∈ (after (step maxRetries) .new events).calls,
      call.stores = true →
        (after (step maxRetries) .new events).shared.stored = none) ∧
      ((∀ call ∈ (after (step maxRetries) .new events).calls, call = .returned) →
        (∀ x, (after (step maxRetries) .new events).shared.cleanup ≠ .stopping x) →
          ∀ x ∈ (after (step maxRetries) .new events).shared.live,
            (after (step maxRetries) .new events).shared.stored = some x) := by
  have sound := invariant_after (step maxRetries) sound_step events .new Sound.new orderly
  constructor
  · intro call mem storing
    obtain ⟨i, known⟩ := mem_iff_getElem?.mp mem
    exact sound.empty i call known (builds_of_stores storing)
  · intro returned idle x isLive
    rcases sound.owned x isLive with stored | isStopping | ⟨i, call, known, carried⟩
    · exact stored
    · exact absurd isStopping (idle x)
    · rw [returned call (mem_of_getElem? known)] at carried
      exact carried.elim

/-! ### Two starts -/

section Sample

instance (a b : Call) : Decidable (a.Compatible b) := by
  cases a <;> cases b <;> unfold Call.Compatible <;> infer_instance

instance instDecidableOrderly (s : System) : (event : Event) → Decidable (Orderly s event)
  | .begin _ => inferInstanceAs (Decidable (∀ _ ∈ _, _))
  | .advance _ _ => inferInstanceAs (Decidable (_ → _))
  | .crash _ | .crashElsewhere | .cleanUp => .isTrue trivial

def steps (call count : Nat) : List Event := replicate count (.advance call true)

/-- Two starts on the same port: the second one waits for the first; then the connection is started
again. -/
def samePort : List Event :=
  [Event.begin (.start 1), .begin (.start 1)] ++ steps 0 1 ++ steps 1 2 ++ steps 0 6 ++ steps 1 2 ++
    [Event.begin (.start 1)] ++ steps 2 9

theorem same_port_one_live :
    (after (step 3) .new samePort).shared.stored = some 2 ∧
      ∀ x ∈ (after (step 3) .new samePort).shared.live,
        (after (step 3) .new samePort).shared.stored = some x := by
  refine ⟨by decide, ?_⟩
  refine (one_live_adapter 3 samePort ?_).2 (by decide) fun x => ?_
  · decide
  · nofun

/-- A start on another port begins while the first start is about to store its adapter. -/
def takenOver : List Event :=
  [Event.begin (.start 1)] ++ steps 0 5 ++ [Event.begin (.start 2)] ++ steps 1 9 ++ steps 0 2

/-- Both calls have returned and both adapters are live with their listeners, but the one that the
second start has stored is overwritten. -/
theorem taken_over_start_overwrites :
    after (step 3) .new takenOver =
      ⟨⟨none, some 0, [1, 0], [1, 0], [], .waiting, []⟩, [.returned, .returned]⟩ := by
  decide

end Sample

end Detrix.Lifecycle
