/-
**The shutdown of a daemon that an MCP client has started.**

The tracker knows the registered clients and the number of active connections. When the last client
leaves with no active connection, a timer is started; when it is due, the signal is sent if there is
neither a client nor a connection then. Nothing else starts a timer, and nothing stops one.

- `pending_idle`: while every event that leaves the tracker idle is the leaving of the last client with
  no older timer running, a timer that is running in an idle tracker was started when it became idle.
- `idle_pending`: under the same condition, an idle tracker that had a client runs a timer or has sent
  the signal.
- `signal_exactly_when_idle`: both directions, over endless runs.
-/

import Detrix.Library.Run
import Mathlib.Order.Monotone.Basic

namespace Detrix.Lifecycle.IdleShutdown

open Library List Nat

/-! ### The tracker -/

/-- Times and durations are in nanoseconds. -/
structure TrackerConfig where
  heartbeatTimeout : Nat
  shutdownGracePeriod : Nat

/-- `McpClientInfo`, as far as the tracker decides by it. -/
structure ClientInfo where
  id : String
  lastHeartbeat : Nat

structure Tracker where
  config : TrackerConfig
  mcpSpawned : Bool
  clients : List ClientInfo
  activeConnectionCount : Nat
  /-- The times at which the sleeping tasks wake up. -/
  timers : List Nat
  signals : List Nat

namespace Tracker

def new (mcpSpawned : Bool) (config : TrackerConfig) : Tracker := ⟨config, mcpSpawned, [], 0, [], []⟩

variable (t : Tracker)

def insert (now : Nat) (id : String) : Tracker :=
  { t with clients := ⟨id, now⟩ :: t.clients.filter fun info => info.id ≠ id }

def beat (now : Nat) (id : String) : Tracker :=
  { t with clients := t.clients.map fun info => if info.id = id then ⟨id, now⟩ else info }

def knows (id : String) : Bool := t.clients.any fun info => info.id = id

def register (now : Nat) (id : String) : Tracker := t.insert now id

def heartbeat (now : Nat) (id : String) : Tracker := t.beat now id

/-- `touch`: a client that is not known is registered. -/
def touch (now : Nat) (id : String) : Tracker :=
  if t.knows id then t.beat now id else t.insert now id

def scheduleShutdown (now : Nat) : Tracker :=
  if ¬ t.mcpSpawned then t
  else if 0 < t.activeConnectionCount then t
  else { t with timers := (now + t.config.shutdownGracePeriod) :: t.timers }

def without (id : String) : List ClientInfo := t.clients.filter fun info => info.id ≠ id

/-- The clients that have been heard of within the timeout. -/
def alive (now : Nat) : List ClientInfo :=
  t.clients.filter fun info => now - info.lastHeartbeat ≤ t.config.heartbeatTimeout

def unregister (now : Nat) (id : String) : Tracker :=
  if t.knows id then
    if t.mcpSpawned ∧ t.without id = [] then
      { t with clients := t.without id }.scheduleShutdown now
    else { t with clients := t.without id }
  else t

def cleanupStale (now : Nat) : Tracker :=
  if (t.alive now).length < t.clients.length then
    if t.mcpSpawned ∧ t.alive now = [] then
      { t with clients := t.alive now }.scheduleShutdown now
    else { t with clients := t.alive now }
  else { t with clients := t.alive now }

def updateConnectionCount (count : Nat) : Tracker := { t with activeConnectionCount := count }

def Idle : Prop := t.clients = [] ∧ t.activeConnectionCount = 0

instance : Decidable t.Idle :=
  inferInstanceAs (Decidable (_ ∧ _))

/-- A sleeping task wakes up: it looks once. -/
def wake (now due : Nat) : Tracker :=
  if t.Idle then { t with timers := t.timers.erase due, signals := now :: t.signals }
  else { t with timers := t.timers.erase due }

end Tracker

open Tracker

/-! ### Timed histories -/

structure World where
  now : Nat
  tracker : Tracker

inductive Event where
  | register (id : String)
  | heartbeat (id : String)
  | touch (id : String)
  | unregister (id : String)
  | cleanupStale
  | updateConnectionCount (count : Nat)
  | elapse (duration : Nat)
  | wake (due : Nat)

namespace World

def step (w : World) : Event → World
  | .register id => { w with tracker := w.tracker.register w.now id }
  | .heartbeat id => { w with tracker := w.tracker.heartbeat w.now id }
  | .touch id => { w with tracker := w.tracker.touch w.now id }
  | .unregister id => { w with tracker := w.tracker.unregister w.now id }
  | .cleanupStale => { w with tracker := w.tracker.cleanupStale w.now }
  | .updateConnectionCount n => { w with tracker := w.tracker.updateConnectionCount n }
  | .elapse duration => { w with now := w.now + duration }
  | .wake due =>
    if due ∈ w.tracker.timers ∧ due ≤ w.now then { w with tracker := w.tracker.wake w.now due } else w

def new (config : TrackerConfig) : World := ⟨0, .new true config⟩

end World

/-- **An event that leaves the tracker idle is orderly** if it is the leaving of the last client while
no timer is running, or the end of the last connection before any client was seen. -/
def Orderly (seen : Prop) (w : World) : Event → Prop
  | .unregister id =>
    w.tracker.clients ≠ [] → w.tracker.without id = [] → w.tracker.activeConnectionCount = 0 →
      w.tracker.timers = []
  | .cleanupStale =>
    w.tracker.clients ≠ [] → w.tracker.alive w.now = [] → w.tracker.activeConnectionCount = 0 →
      w.tracker.timers = []
  | .updateConnectionCount n =>
    n = 0 → w.tracker.clients = [] → w.tracker.activeConnectionCount ≠ 0 → ¬ seen
  | _ => True

/-! ### What one event can do -/

/-- The timers and the signals stay, and the tracker does not become idle. -/
def Stays (t after : Tracker) : Prop :=
  after.timers = t.timers ∧ after.signals = t.signals ∧ (after.Idle → t.Idle)

/-- The last client leaves, with no active connection. -/
def LastLeaves (now : Nat) (t after : Tracker) : Prop :=
  t.clients ≠ [] ∧ t.activeConnectionCount = 0 ∧
    after.timers = (now + t.config.shutdownGracePeriod) :: t.timers ∧ after.signals = t.signals

variable {t : Tracker}

theorem stays_of_client {after : Tracker} (timers : after.timers = t.timers)
    (signals : after.signals = t.signals) (client : after.clients ≠ []) : Stays t after :=
  ⟨timers, signals, fun idle => absurd idle.1 client⟩

theorem stays_insert (t : Tracker) (now : Nat) (id : String) : Stays t (t.insert now id) :=
  stays_of_client rfl rfl (cons_ne_nil _ _)

theorem stays_beat (t : Tracker) (now : Nat) (id : String) : Stays t (t.beat now id) := by
  refine ⟨rfl, rfl, fun idle => ⟨?_, idle.2⟩⟩
  exact map_eq_nil_iff.mp idle.1

section
variable (spawned : t.mcpSpawned = true)
include spawned

/-- Some clients go: the tail of `unregister` and of `cleanup_stale`. -/
theorem leave_cases (now : Nat) (rest : List ClientInfo) (client : t.clients ≠ []) :
    Stays t (if t.mcpSpawned ∧ rest = [] then { t with clients := rest }.scheduleShutdown now
      else { t with clients := rest }) ∨
    rest = [] ∧ LastLeaves now t (if t.mcpSpawned ∧ rest = [] then
      { t with clients := rest }.scheduleShutdown now else { t with clients := rest }) := by
  by_cases last : rest = []
  · rw [if_pos ⟨spawned, last⟩]
    by_cases active : 0 < t.activeConnectionCount
    · refine .inl ?_
      simp only [scheduleShutdown, spawned, not_true_eq_false, if_false, active, if_true]
      exact ⟨rfl, rfl, fun idle => absurd idle.2 (Nat.pos_iff_ne_zero.mp active)⟩
    · refine .inr ⟨last, client, Nat.eq_zero_of_not_pos active, ?_⟩
      simp [scheduleShutdown, spawned, active]
  · rw [if_neg fun both => last both.2]
    exact .inl (stays_of_client rfl rfl last)

theorem unregister_cases (now : Nat) (id : String) :
    Stays t (t.unregister now id) ∨ t.without id = [] ∧ LastLeaves now t (t.unregister now id) := by
  unfold unregister
  by_cases known : t.knows id = true
  · have client : t.clients ≠ [] := by
      intro none
      simp [knows, none] at known
    rw [if_pos known]
    exact leave_cases spawned now _ client
  · rw [if_neg known]
    exact .inl ⟨rfl, rfl, fun idle => idle⟩

theorem cleanupStale_cases (now : Nat) :
    Stays t (t.cleanupStale now) ∨ t.alive now = [] ∧ LastLeaves now t (t.cleanupStale now) := by
  unfold cleanupStale
  by_cases removed : (t.alive now).length < t.clients.length
  · have client : t.clients ≠ [] := ne_nil_of_length_pos (zero_lt_of_lt removed)
    rw [if_pos removed]
    exact leave_cases spawned now _ client
  · rw [if_neg removed]
    refine .inl ⟨rfl, rfl, fun idle => ⟨?_, idle.2⟩⟩
    have none : t.alive now = [] := idle.1
    rw [none] at removed
    exact eq_nil_of_length_eq_zero (by simpa using removed)

end

/-- The last connection ends, with no client. -/
def ConnectionsEnd (t after : Tracker) : Prop :=
  t.clients = [] ∧ t.activeConnectionCount ≠ 0 ∧ after.timers = t.timers ∧ after.signals = t.signals

def Wakes (now : Nat) (t after : Tracker) : Prop :=
  ∃ due ∈ t.timers, due ≤ now ∧ after = t.wake now due

/-- **What an event can do.** -/
theorem step_cases {w : World} (spawned : w.tracker.mcpSpawned = true) (event : Event) :
    Stays w.tracker (w.step event).tracker ∨
    (LastLeaves w.now w.tracker (w.step event).tracker ∧ (w.step event).now = w.now ∧
      ∀ seen, Orderly seen w event → w.tracker.timers = []) ∨
    (ConnectionsEnd w.tracker (w.step event).tracker ∧ ∀ seen, Orderly seen w event → ¬ seen) ∨
    Wakes w.now w.tracker (w.step event).tracker := by
  cases event with
  | register id => exact .inl (stays_insert _ _ _)
  | heartbeat id => exact .inl (stays_beat _ _ _)
  | touch id =>
    refine .inl ?_
    show Stays w.tracker (w.tracker.touch w.now id)
    unfold touch
    split
    · exact stays_beat _ _ _
    · exact stays_insert _ _ _
  | unregister id =>
    rcases unregister_cases spawned w.now id with stays | ⟨last, leaves⟩
    · exact .inl stays
    · exact .inr (.inl ⟨leaves, rfl, fun seen orderly => orderly leaves.1 last leaves.2.1⟩)
  | cleanupStale =>
    rcases cleanupStale_cases spawned w.now with stays | ⟨last, leaves⟩
    · exact .inl stays
    · exact .inr (.inl ⟨leaves, rfl, fun seen orderly => orderly leaves.1 last leaves.2.1⟩)
  | updateConnectionCount count =>
    by_cases ends : count = 0 ∧ w.tracker.clients = [] ∧ w.tracker.activeConnectionCount ≠ 0
    · obtain ⟨zero, none, active⟩ := ends
      exact .inr (.inr (.inl ⟨⟨none, active, rfl, rfl⟩, fun seen orderly => orderly zero none active⟩))
    · refine .inl ⟨rfl, rfl, fun idle => ⟨idle.1, ?_⟩⟩
      exact Decidable.byContradiction fun active => ends ⟨idle.2, idle.1, active⟩
  | elapse duration => exact .inl ⟨rfl, rfl, id⟩
  | wake due =>
    by_cases ready : due ∈ w.tracker.timers ∧ due ≤ w.now
    · refine .inr (.inr (.inr ⟨due, ready.1, ready.2, ?_⟩))
      simp [World.step, if_pos ready]
    · have same : w.step (.wake due) = w := if_neg ready
      rw [same]
      exact .inl ⟨rfl, rfl, id⟩

theorem now_le_step (w : World) (event : Event) : w.now ≤ (w.step event).now := by
  cases event with
  | elapse duration => exact le_add_right _ _
  | wake due =>
    simp only [World.step]
    split
    · rfl
    · rfl
  | _ => rfl

def Tracker.settings (t : Tracker) : TrackerConfig × Bool := (t.config, t.mcpSpawned)

theorem settings_scheduleShutdown (t : Tracker) (now : Nat) :
    (t.scheduleShutdown now).settings = t.settings := by
  unfold scheduleShutdown
  split
  · rfl
  · split <;> rfl

theorem settings_step (w : World) (event : Event) :
    (w.step event).tracker.settings = w.tracker.settings := by
  cases event with
  | touch id =>
    show (w.tracker.touch w.now id).settings = _
    unfold touch
    split <;> rfl
  | unregister id =>
    show (w.tracker.unregister w.now id).settings = _
    unfold unregister
    split
    · split
      · exact settings_scheduleShutdown _ _
      · rfl
    · rfl
  | cleanupStale =>
    show (w.tracker.cleanupStale w.now).settings = _
    unfold cleanupStale
    split
    · split
      · exact settings_scheduleShutdown _ _
      · rfl
    · rfl
  | wake due =>
    simp only [World.step]
    split
    · unfold wake
      split <;> rfl
    · rfl
  | _ => rfl

/-! ### Endless runs -/

section Runs

variable (config : TrackerConfig) (run : Nat → Event)

/-- The world in which the `n`-th event happens. -/
def history : Nat → World := Run.stateAt World.step (.new config) run

def Seen (n : Nat) : Prop := ∃ k ≤ n, (history config run k).tracker.clients ≠ []

def AlwaysOrderly : Prop := ∀ n, Orderly (Seen config run n) (history config run n) (run n)

/-- Every task that sleeps wakes up at some time after it is due. -/
def AllWake : Prop :=
  ∀ n, ∀ due ∈ (history config run n).tracker.timers,
    ∃ m ≥ n, due ∈ (history config run m).tracker.timers ∧ due ≤ (history config run m).now ∧
      run m = .wake due

theorem settings_history (n : Nat) : (history config run n).tracker.settings = (config, true) := by
  induction n with
  | zero => rfl
  | succ n before => exact (settings_step _ _).trans before

theorem history_succ (n : Nat) : history config run (n + 1) = (history config run n).step (run n) := rfl

theorem spawned_history (n : Nat) : (history config run n).tracker.mcpSpawned = true :=
  congrArg Prod.snd (settings_history config run n)

theorem config_history (n : Nat) : (history config run n).tracker.config = config :=
  congrArg Prod.fst (settings_history config run n)

variable {config run} {n : Nat}

theorem seen_succ (seen : Seen config run n) : Seen config run (n + 1) := by
  obtain ⟨k, before, client⟩ := seen
  exact ⟨k, le_succ_of_le before, client⟩

variable (t : Tracker)

theorem wake_timers (now due : Nat) : (t.wake now due).timers = t.timers.erase due := by
  unfold wake
  split <;> rfl

theorem wake_idle (now due : Nat) : (t.wake now due).Idle ↔ t.Idle := by
  unfold wake
  split <;> rfl

theorem wake_signals (now due : Nat) :
    (t.wake now due).signals = if t.Idle then now :: t.signals else t.signals := by
  unfold wake
  split <;> rfl

/-- Timers are started by clients. -/
theorem seen_of_pending (n : Nat) :
    ∀ due ∈ (history config run n).tracker.timers, Seen config run n := by
  induction n with
  | zero => nofun
  | succ n before =>
    intro due pending
    rcases step_cases (spawned_history config run n) (run n) with
      stays | ⟨leaves, -, -⟩ | ⟨ends, -⟩ | ⟨woken, -, -, after⟩
    · exact seen_succ (before due (stays.1 ▸ pending))
    · exact seen_succ ⟨n, le_refl n, leaves.1⟩
    · exact seen_succ (before due (ends.2.2.1 ▸ pending))
    · rw [history_succ, after, wake_timers] at pending
      exact seen_succ (before due (mem_of_mem_erase pending))

/-- **A timer that runs in an idle tracker** is due a grace period after the last client or connection,
or later. -/
theorem pending_idle (orderly : AlwaysOrderly config run) (n : Nat) :
    ∀ due ∈ (history config run n).tracker.timers, (history config run n).tracker.Idle →
      ∀ k < n, ¬ (history config run k).tracker.Idle →
        (history config run (k + 1)).now + config.shutdownGracePeriod ≤ due := by
  induction n with
  | zero => nofun
  | succ n before =>
    intro due pending idle k earlier busy
    -- Nothing new: the timer was there, and the tracker was idle, so the busy moment is older.
    have old : due ∈ (history config run n).tracker.timers → (history config run n).tracker.Idle →
        (history config run (k + 1)).now + config.shutdownGracePeriod ≤ due := by
      intro there was
      have older : k ≠ n := fun same => busy (same ▸ was)
      exact before due there was k (by omega) busy
    rcases step_cases (spawned_history config run n) (run n) with
      stays | ⟨leaves, time, alone⟩ | ⟨ends, unseen⟩ | ⟨woken, -, -, after⟩
    · exact old (stays.1 ▸ pending) (stays.2.2 idle)
    · have started := leaves.2.2.1
      rw [config_history, alone _ (orderly n)] at started
      have only : due ∈ [(history config run n).now + config.shutdownGracePeriod] :=
        started ▸ pending
      rw [mem_singleton.mp only]
      have past : (history config run (k + 1)).now ≤ (history config run (n + 1)).now :=
        monotone_nat_of_le_succ (f := fun n => (history config run n).now)
          (fun _ => now_le_step _ _) earlier
      have still : (history config run (n + 1)).now = (history config run n).now := time
      omega
    · exact absurd (seen_of_pending n due (ends.2.2.1 ▸ pending)) (unseen _ (orderly n))
    · rw [history_succ, after, wake_timers] at pending
      rw [history_succ, after, wake_idle] at idle
      exact old (mem_of_mem_erase pending) idle

theorem idle_pending (orderly : AlwaysOrderly config run) (n : Nat) (seen : Seen config run n)
    (idle : (history config run n).tracker.Idle) :
    (history config run n).tracker.timers ≠ [] ∨ (history config run n).tracker.signals ≠ [] := by
  induction n with
  | zero =>
    obtain ⟨k, first, client⟩ := seen
    obtain rfl : k = 0 := le_zero.mp first
    exact absurd rfl client
  | succ n before =>
    have seen : Seen config run n := by
      obtain ⟨k, earlier, client⟩ := seen
      have older : k ≠ n + 1 := fun same => client (same ▸ idle.1)
      exact ⟨k, by omega, client⟩
    rcases step_cases (spawned_history config run n) (run n) with
      ⟨timers, signals, was⟩ | ⟨⟨-, -, started, -⟩, -, -⟩ | ⟨-, unseen⟩ | ⟨woken, -, -, after⟩
    · have same := before seen (was idle)
      rw [← timers, ← signals] at same
      exact same
    · refine .inl fun none => cons_ne_nil _ _ (started.symm.trans none)
    · exact absurd seen (unseen _ (orderly n))
    · rw [history_succ, after, wake_idle] at idle
      rw [history_succ, after, wake_signals, if_pos idle]
      exact .inr (cons_ne_nil _ _)

/-- Only a task that is due sends the signal, and only in an idle tracker. -/
theorem signal_sent
    (sent : (history config run (n + 1)).tracker.signals ≠ (history config run n).tracker.signals) :
    (history config run n).tracker.Idle ∧
      ∃ due ∈ (history config run n).tracker.timers, due ≤ (history config run n).now := by
  rcases step_cases (spawned_history config run n) (run n) with
    stays | ⟨leaves, -, -⟩ | ⟨ends, -⟩ | ⟨woken, there, due, after⟩
  · exact absurd stays.2.1 sent
  · exact absurd leaves.2.2.2 sent
  · exact absurd ends.2.2.2 sent
  · refine ⟨?_, woken, there, due⟩
    rw [history_succ, after, wake_signals] at sent
    exact Decidable.byContradiction fun busy => sent (if_neg busy)

end Runs

variable (config : TrackerConfig)

/-- **The signal is sent exactly when the daemon has been idle**, in every endless run whose events are
orderly: no client and no connection was there during the grace period before it; and if a client was
registered, and from some time on there is neither a client nor a connection, it is sent. -/
theorem signal_exactly_when_idle (config : TrackerConfig) (run : Nat → Event)
    (orderly : AlwaysOrderly config run) :
    (∀ n, (history config run (n + 1)).tracker.signals ≠ (history config run n).tracker.signals →
      ∀ k ≤ n, ¬ (history config run k).tracker.Idle →
        (history config run (k + 1)).now + config.shutdownGracePeriod ≤ (history config run n).now) ∧
    (AllWake config run → (∃ n, Seen config run n) →
      (∃ quiet, ∀ n ≥ quiet, (history config run n).tracker.Idle) →
      ∃ n, (history config run n).tracker.signals ≠ []) := by
  constructor
  · intro n sent k earlier busy
    obtain ⟨idle, due, pending, past⟩ := signal_sent sent
    have older : k ≠ n := fun same => busy (same ▸ idle)
    exact le_trans (pending_idle orderly n due pending idle k (by omega) busy) past
  · rintro wakes ⟨k, seen⟩ ⟨quiet, always⟩
    have later : Seen config run (k + quiet) := by
      obtain ⟨j, before, client⟩ := seen
      exact ⟨j, by omega, client⟩
    rcases idle_pending orderly _ later (always _ (by omega)) with runs | sent
    · obtain ⟨due, pending⟩ := exists_mem_of_ne_nil _ runs
      obtain ⟨m, after, there, past, woken⟩ := wakes _ due pending
      refine ⟨m + 1, ?_⟩
      have idle : (history config run m).tracker.Idle := always m (by omega)
      have next : (history config run (m + 1)).tracker =
          (history config run m).tracker.wake (history config run m).now due := by
        show ((history config run m).step (run m)).tracker = _
        rw [woken]
        simp [World.step, if_pos (And.intro there past)]
      rw [next, wake_signals, if_pos idle]
      exact cons_ne_nil _ _
    · exact ⟨_, sent⟩

/-! ### Runs that end, and what is wrong in two of them -/

/-- The events, and then only the passing of time. -/
def played (events : List Event) (n : Nat) : Event := events.getD n (.elapse 1)

theorem played_tracker (events : List Event) (n : Nat) :
    (history config (played events) (events.length + n)).tracker =
      (history config (played events) events.length).tracker := by
  induction n with
  | zero => rfl
  | succ n before =>
    have ended : played events (events.length + n) = .elapse 1 := by simp [played]
    have next : history config (played events) (events.length + n + 1) =
        (history config (played events) (events.length + n)).step (.elapse 1) := by
      rw [← ended]
      rfl
    rw [← Nat.add_assoc, next]
    exact before

def sampleConfig : TrackerConfig := ⟨100, 10⟩

/-- A client leaves; another one comes and leaves within the grace period. -/
def returning : List Event :=
  [.register "a", .unregister "a", .elapse 8, .register "b", .unregister "b", .elapse 2, .wake 10]

/-- The only client leaves while a connection is active, and the connection ends. -/
def connectionLast : List Event :=
  [.register "a", .updateConnectionCount 1, .unregister "a", .updateConnectionCount 0]

theorem connectionLast_tracker (n : Nat) :
    (history sampleConfig (played connectionLast) (4 + n)).tracker =
      (history sampleConfig (played connectionLast) 4).tracker :=
  played_tracker sampleConfig connectionLast n

theorem connectionLast_quiet (n : Nat) :
    (history sampleConfig (played connectionLast) n).tracker.timers = [] ∧
      (history sampleConfig (played connectionLast) n).tracker.signals = [] := by
  by_cases early : n < 4
  · revert n
    decide
  · obtain ⟨m, rfl⟩ := Nat.exists_eq_add_of_le (Nat.le_of_not_lt early)
    rw [connectionLast_tracker]
    decide

/-- The first signal comes two units after the last client left, with a grace period of ten; in the
second run no signal ever comes. -/
theorem early_and_missing_signals :
    ((history sampleConfig (played returning) 7).tracker.signals ≠
        (history sampleConfig (played returning) 6).tracker.signals ∧
      ¬ (history sampleConfig (played returning) 4).tracker.Idle ∧
      (history sampleConfig (played returning) 6).now <
        (history sampleConfig (played returning) 5).now + sampleConfig.shutdownGracePeriod) ∧
    (AllWake sampleConfig (played connectionLast) ∧ Seen sampleConfig (played connectionLast) 1 ∧
      (∀ n ≥ 4, (history sampleConfig (played connectionLast) n).tracker.Idle) ∧
      ∀ n, (history sampleConfig (played connectionLast) n).tracker.signals = []) := by
  refine ⟨by decide, ?_, ⟨1, le_refl 1, by decide⟩, ?_, fun n =>
    (connectionLast_quiet n).2⟩
  · intro n due pending
    rw [(connectionLast_quiet n).1] at pending
    cases pending
  · intro n late
    obtain ⟨m, rfl⟩ := Nat.exists_eq_add_of_le late
    rw [connectionLast_tracker]
    decide

def oneClient : List Event := [.register "a", .unregister "a", .elapse 10, .wake 10]

theorem oneClient_tracker (n : Nat) :
    (history sampleConfig (played oneClient) (4 + n)).tracker =
      (history sampleConfig (played oneClient) 4).tracker :=
  played_tracker sampleConfig oneClient n

theorem oneClient_orderly : AlwaysOrderly sampleConfig (played oneClient) := by
  intro n
  match n with
  | 1 => exact fun _ _ _ => by decide
  | 0 | 2 | 3 | n + 4 => trivial

theorem oneClient_wakes : AllWake sampleConfig (played oneClient) := by
  intro n due pending
  by_cases early : n < 4
  · have only : ∀ n < 4, ∀ due ∈ (history sampleConfig (played oneClient) n).tracker.timers,
        due = 10 := by decide
    obtain rfl := only n early due pending
    exact ⟨3, by omega, by decide, by decide, rfl⟩
  · obtain ⟨m, rfl⟩ := Nat.exists_eq_add_of_le (Nat.le_of_not_lt early)
    have none : (history sampleConfig (played oneClient) 4).tracker.timers = [] := by decide
    rw [oneClient_tracker m, none] at pending
    cases pending

theorem signal_after_one_client :
    AlwaysOrderly sampleConfig (played oneClient) ∧ AllWake sampleConfig (played oneClient) ∧
      ∃ n, (history sampleConfig (played oneClient) n).tracker.signals ≠ [] := by
  refine ⟨oneClient_orderly, oneClient_wakes, ?_⟩
  refine (signal_exactly_when_idle sampleConfig (played oneClient) oneClient_orderly).2
    oneClient_wakes ⟨1, 1, le_refl 1, by decide⟩ ⟨4, fun n late => ?_⟩
  obtain ⟨m, rfl⟩ := Nat.exists_eq_add_of_le late
  rw [oneClient_tracker m]
  decide

end Detrix.Lifecycle.IdleShutdown
