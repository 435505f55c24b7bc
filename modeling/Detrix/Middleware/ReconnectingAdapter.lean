/-
**The reconnecting adapter restores the live metrics.**

`ReconnectingAdapter` wraps an adapter. It keeps a list of the metrics that were set, and sets them
again after it has reconnected. The list is changed before the inner adapter is asked, and it is
searched by the optional id of a metric.

- `attemptReconnect_spec`: a reconnection sets the metrics of the list, and leaves the list alone.
- `restored_are_live`: in a history in which every metric has an id of its own, and is set when the
  inner adapter is connected and accepts it, each reconnection sets exactly the metrics whose last
  `set_metric` returned `Ok` and that were not removed since.
- `tellsTheTruth_iff`: `ensure_connected` reports a lost connection as `Ok` in the state `Connected`,
  and only there.
-/

import Detrix.Core.Metric
import Detrix.Library.Program
import Detrix.Library.Run

namespace Detrix.Middleware

open Detrix.Core Library List
open Library.Program (get modify fail attempt bind_of_ok bind_of_error attempt_of)

/-! ### The adapter -/

inductive ConnectionState where
  | disconnected | connecting | connected | backoff | failed

/-- The errors of the core crate, as far as they are told apart here. -/
inductive InnerError where
  | notConnected (detail : String)
  | adapter (detail : String)
  | io (detail : String)
  | other (detail : String)
  deriving DecidableEq

def InnerError.isConnectionError : InnerError → Bool
  | .notConnected _ | .adapter _ | .io _ => true
  | .other _ => false

structure ReconnectConfig where
  enabled : Bool
  maxAttempts : Nat
  restoreMetrics : Bool

/-- What a call to the inner adapter comes to, and whether it is connected afterwards. -/
structure Reply where
  error : Option InnerError
  connected : Bool
  deriving DecidableEq

/-- The adapter with the replies that the inner one will give. -/
structure Wrapper where
  connected : Bool
  state : ConnectionState
  registeredMetrics : List Metric
  replies : List Reply
  /-- The metrics that each successful reconnection has set at the inner adapter. -/
  restorations : List (List Metric)

def Wrapper.withReplies (s : Wrapper) (replies : List Reply) : Wrapper := { s with replies }

def Wrapper.withMetrics (s : Wrapper) (change : List Metric → List Metric) : Wrapper :=
  { s with registeredMetrics := change s.registeredMetrics }

abbrev Call (α : Type) : Type := Program Wrapper InnerError α

def Wrapper.new : Wrapper := ⟨false, .disconnected, [], [], []⟩

def innerCall : Call Unit := fun s =>
  let reply := s.replies.headD ⟨none, true⟩
  (match reply.error with
    | none => .ok ()
    | some error => .error error,
    { s with connected := reply.connected, replies := s.replies.tail })

def setState (state : ConnectionState) : Call Unit := modify fun s => { s with state }

/-- The loop of `restore_metrics`: a failure is logged. It returns what it has set. -/
def restoreEach : List Metric → Call (List Metric)
  | [] => pure []
  | metric :: rest => do
    let _ ← attempt innerCall
    let others ← restoreEach rest
    pure (metric :: others)

def restoreMetrics : Call (List Metric) := do
  let s ← get
  restoreEach s.registeredMetrics

section
variable (config : ReconnectConfig)

/-- What follows a successful start. -/
def reconnected : Call Unit := do
  setState .connected
  let restored ← if config.restoreMetrics then restoreMetrics else pure []
  modify fun s => { s with restorations := s.restorations ++ [restored] }

/-- The loop of `do_reconnect`, with the number of attempts that are left. -/
def reconnectLoop : Nat → Call Unit
  | 0 => do
    setState .failed
    fail (.notConnected "Max reconnection attempts exhausted")
  | left + 1 => do
    setState .connecting
    match ← attempt innerCall with
    | .ok _ => reconnected config
    | .error _ =>
      setState .backoff
      reconnectLoop left

/-- `do_reconnect`; no limit stands for the largest number of 32 bits. -/
def doReconnect : Call Unit :=
  reconnectLoop config (if config.maxAttempts = 0 then 4294967295 else config.maxAttempts)

def attemptReconnect : Call Unit :=
  if config.enabled then doReconnect config else fail (.notConnected "Reconnection disabled")

def trackMetric (metric : Metric) (metrics : List Metric) : List Metric :=
  (match metric.id with
    | some id => metrics.filter fun m => m.id ≠ some id
    | none => metrics) ++ [metric]

def untrackMetric (metric : Metric) (metrics : List Metric) : List Metric :=
  match metric.id with
  | some id => metrics.filter fun m => m.id ≠ some id
  | none => metrics

def ensureConnected : Call Unit := do
  let s ← get
  if s.connected then pure ()
  else match s.state, config.enabled with
    -- the state is not changed when the connection is lost
    | .connected, _ => pure ()
    | .failed, false => fail (.notConnected "Connection failed and reconnection is disabled")
    | _, _ => attemptReconnect config

def withReconnect : Call Unit := do
  match ← attempt innerCall with
  | .ok _ => pure ()
  | .error error =>
    if config.enabled && error.isConnectionError then do
      attemptReconnect config
      innerCall
    else fail error

def register (change : List Metric → List Metric) : Call Unit := modify (·.withMetrics change)

/-- The first step of `set_metric`. -/
def trackIfRestored (metric : Metric) : Call Unit :=
  if config.restoreMetrics then register (trackMetric metric) else pure ()

def ensureIfLost : Call Unit := do
  let s ← get
  if !s.connected then ensureConnected config else pure ()

def setMetric (metric : Metric) : Call Unit := do
  trackIfRestored config metric
  ensureIfLost config
  withReconnect config

def removeMetric (metric : Metric) : Call Unit := do
  register (untrackMetric metric)
  let s ← get
  if !s.connected then pure () else withReconnect config

def subscribeEvents : Call Unit := do
  ensureIfLost config
  innerCall

def start : Call Unit := do
  match ← attempt innerCall with
  | .ok _ => setState .connected
  | .error error => if config.enabled then attemptReconnect config else fail error

end

/-! ### Histories -/

inductive Request where
  | setMetric (metric : Metric)
  | removeMetric (metric : Metric)
  | subscribeEvents
  | ensureConnected
  | start

def Request.call (config : ReconnectConfig) : Request → Call Unit
  | .setMetric metric => Middleware.setMetric config metric
  | .removeMetric metric => Middleware.removeMetric config metric
  | .subscribeEvents => Middleware.subscribeEvents config
  | .ensureConnected => Middleware.ensureConnected config
  | .start => Middleware.start config

/-- A request with the replies that the inner adapter gives, or the loss of the connection. -/
inductive Event where
  | request (request : Request) (replies : List Reply)
  | loseConnection

def without (name : String) (metrics : List Metric) : List Metric :=
  metrics.filter fun m => m.name ≠ name

/-- A history: the adapter, the metrics that are live, and for each reconnection what it has set
beside what was live. -/
structure History where
  adapter : Wrapper
  live : List Metric
  reconnections : List (List Metric × List Metric)

def History.new : History := ⟨.new, [], []⟩

/-- What is live while a request is served: a metric is removed from the call on. -/
def liveDuring (live : List Metric) : Request → List Metric
  | .removeMetric metric => without metric.name live
  | _ => live

/-- What is live after a request: a metric whose last `set_metric` returned `Ok` and that was not
removed since. -/
def liveAfter (live : List Metric) (returned : Except InnerError Unit) : Request → List Metric
  | .setMetric metric =>
    match returned with
    | .ok _ => without metric.name live ++ [metric]
    | .error _ => without metric.name live
  | .removeMetric metric => without metric.name live
  | _ => live

def History.step (config : ReconnectConfig) (h : History) : Event → History
  | .loseConnection => { h with adapter := { h.adapter with connected := false } }
  | .request request replies =>
    let served := request.call config (h.adapter.withReplies replies)
    { adapter := served.2
      live := liveAfter h.live served.1 request
      reconnections := h.reconnections ++
        (served.2.restorations.drop h.adapter.restorations.length).map
          (·, liveDuring h.live request) }

/-! ### What a reconnection does -/

variable {config : ReconnectConfig} {s t : Wrapper}

/-- The list of metrics is kept, and every reconnection so far has set the metrics of that list. -/
structure Restores (s t : Wrapper) : Prop where
  registered : t.registeredMetrics = s.registeredMetrics
  restored : ∃ new, t.restorations = s.restorations ++ new ∧ ∀ r ∈ new, r = s.registeredMetrics

theorem Restores.of_same (reg : t.registeredMetrics = s.registeredMetrics)
    (restorations : t.restorations = s.restorations) : Restores s t :=
  ⟨reg, [], by rw [restorations, append_nil], nofun⟩

theorem Restores.refl (s : Wrapper) : Restores s s := .of_same rfl rfl

theorem Restores.trans {u : Wrapper} (one : Restores s t) (two : Restores t u) : Restores s u := by
  obtain ⟨new, isNew, ofS⟩ := one.restored
  obtain ⟨later, isLater, ofT⟩ := two.restored
  refine ⟨two.registered.trans one.registered, new ++ later, ?_, ?_⟩
  · rw [isLater, isNew, append_assoc]
  · intro r mem
    rcases mem_append.mp mem with first | second
    · exact ofS r first
    · exact (ofT r second).trans one.registered

/-- A program that only reconnects. -/
def Reconnects {α : Type} (p : Call α) : Prop := ∀ s, Restores s (p s).2

variable {live : List Metric} {α : Type}

theorem Reconnects.pure (a : α) : Reconnects (Pure.pure a : Call α) := Restores.refl

theorem Reconnects.fail (e : InnerError) : Reconnects (Program.fail e : Call α) :=
  Restores.refl

theorem Reconnects.get : Reconnects (Program.get : Call Wrapper) := Restores.refl

variable {p : Call α}

theorem Reconnects.attempt (inner : Reconnects p) : Reconnects (Program.attempt p) := inner

theorem Reconnects.bind {β : Type} {f : α → Call β} (first : Reconnects p)
    (second : ∀ a, Reconnects (f a)) : Reconnects (p >>= f) := by
  intro s
  have one := first s
  rcases ran : p s with ⟨e | a, t⟩ <;> rw [ran] at one
  · rwa [bind_of_error ran]
  · rw [bind_of_ok ran]
    exact one.trans (second a t)

theorem Reconnects.ite {cond : Bool} {q : Call α} (yes : Reconnects p) (no : Reconnects q) :
    Reconnects (if cond then p else q) := by
  cases cond
  · exact no
  · exact yes

theorem innerCall_reconnects : Reconnects innerCall := fun _ => .of_same rfl rfl

theorem setState_reconnects (state : ConnectionState) : Reconnects (setState state) :=
  fun _ => .of_same rfl rfl

/-- The loop sets every metric, whatever the inner adapter answers. -/
theorem restoreEach_spec (metrics : List Metric) (s : Wrapper) :
    ∃ t, restoreEach metrics s = (.ok metrics, t) ∧ t.registeredMetrics = s.registeredMetrics ∧
      t.restorations = s.restorations := by
  induction metrics generalizing s with
  | nil => exact ⟨s, rfl, rfl, rfl⟩
  | cons metric rest ih =>
    obtain ⟨t, ran, reg, restorations⟩ := ih (innerCall s).2
    refine ⟨t, ?_, reg, restorations⟩
    have asked : attempt innerCall s = (.ok (innerCall s).1, (innerCall s).2) := rfl
    rw [restoreEach, bind_of_ok asked, bind_of_ok ran]
    rfl

def Request.change : Request → List Metric → List Metric
  | .setMetric metric => trackMetric metric
  | .removeMetric metric => untrackMetric metric
  | _ => id

/-- What follows a successful start notes one reconnection. -/
theorem reconnected_spec (config : ReconnectConfig) (s : Wrapper) :
    ∃ t restored, reconnected config s = (.ok (), t) ∧ t.registeredMetrics = s.registeredMetrics ∧
      t.restorations = s.restorations ++ [restored] ∧
      (config.restoreMetrics = true → restored = s.registeredMetrics) := by
  have entered : setState .connected s = (.ok (), { s with state := .connected }) := rfl
  cases restores : config.restoreMetrics with
  | false =>
    refine ⟨{ s with state := .connected, restorations := s.restorations ++ [[]] }, [], ?_, rfl, rfl,
      nofun⟩
    rw [reconnected, restores, bind_of_ok entered]
    rfl
  | true =>
    obtain ⟨t, ran, reg, restorations⟩ := restoreEach_spec s.registeredMetrics
      { s with state := .connected }
    have set : restoreMetrics { s with state := .connected } = (.ok s.registeredMetrics, t) := ran
    refine ⟨{ t with restorations := t.restorations ++ [s.registeredMetrics] }, s.registeredMetrics,
      ?_, reg, by rw [restorations], fun _ => rfl⟩
    rw [reconnected, restores, if_pos rfl, bind_of_ok entered, bind_of_ok set]
    rfl

section
variable (restores : config.restoreMetrics = true)
include restores

theorem reconnected_reconnects : Reconnects (reconnected config) := by
  intro s
  obtain ⟨t, restored, ran, reg, restorations, whole⟩ := reconnected_spec config s
  rw [ran]
  refine ⟨reg, [restored], restorations, ?_⟩
  intro r mem
  rw [mem_singleton.mp mem, whole restores]

theorem reconnectLoop_reconnects : ∀ left, Reconnects (reconnectLoop config left)
  | 0 => (setState_reconnects _).bind fun _ => .fail _
  | left + 1 => by
    refine (setState_reconnects _).bind fun _ => innerCall_reconnects.attempt.bind fun out => ?_
    cases out with
    | ok _ => exact reconnected_reconnects restores
    | error _ => exact (setState_reconnects _).bind fun _ => reconnectLoop_reconnects left

theorem attemptReconnect_spec : Reconnects (attemptReconnect config) :=
  Reconnects.ite (reconnectLoop_reconnects restores _) (.fail _)

theorem ensureConnected_spec : Reconnects (ensureConnected config) := by
  refine Reconnects.get.bind fun s => Reconnects.ite (.pure ()) ?_
  split
  · exact .pure ()
  · exact .fail _
  · exact attemptReconnect_spec restores

theorem ensureIfLost_spec : Reconnects (ensureIfLost config) :=
  Reconnects.get.bind fun _ => .ite (ensureConnected_spec restores) (.pure ())

theorem withReconnect_spec : Reconnects (withReconnect config) := by
  refine innerCall_reconnects.attempt.bind fun out => ?_
  cases out with
  | ok _ => exact .pure ()
  | error error =>
    exact .ite ((attemptReconnect_spec restores).bind fun _ => innerCall_reconnects) (.fail _)

theorem subscribeEvents_spec : Reconnects (subscribeEvents config) :=
  (ensureIfLost_spec restores).bind fun _ => innerCall_reconnects

theorem start_spec : Reconnects (start config) := by
  refine innerCall_reconnects.attempt.bind fun out => ?_
  cases out with
  | ok _ => exact setState_reconnects _
  | error _ => exact .ite (attemptReconnect_spec restores) (.fail _)

theorem trackIfRestored_eq (metric : Metric) (s : Wrapper) :
    trackIfRestored config metric s = (.ok (), s.withMetrics (trackMetric metric)) := by
  rw [trackIfRestored, restores, if_pos rfl]
  rfl

/-- **A request changes the list first, and reconnects with the new list.** -/
theorem request_spec (req : Request) (s : Wrapper) :
    Restores (s.withMetrics req.change) (req.call config s).2 := by
  cases req with
  | setMetric metric =>
    rw [Request.call, Middleware.setMetric, bind_of_ok (trackIfRestored_eq restores metric s)]
    exact ((ensureIfLost_spec restores).bind fun _ => withReconnect_spec restores) _
  | removeMetric metric =>
    exact (Reconnects.get.bind fun _ => .ite (.pure ()) (withReconnect_spec restores)) _
  | subscribeEvents => exact subscribeEvents_spec restores s
  | ensureConnected => exact ensureConnected_spec restores s
  | start => exact start_spec restores s

theorem setMetric_accepted {metric : Metric} (up : s.connected = true)
    (ok : (s.replies.headD ⟨none, true⟩).error = none) :
    ∃ t, setMetric config metric s = (.ok (), t) ∧ t.restorations = s.restorations := by
  obtain ⟨t, isTracked⟩ : ∃ t, s.withMetrics (trackMetric metric) = t := ⟨_, rfl⟩
  have ready : ensureIfLost config t = (.ok (), t) := by
    have seen : get t = ((.ok t, t) : Except InnerError Wrapper × Wrapper) := rfl
    have still : t.connected = true := isTracked ▸ up
    rw [ensureIfLost, bind_of_ok seen, still]
    rfl
  have asked : innerCall t = (.ok (), (innerCall t).2) := by
    rw [innerCall, show (t.replies.headD ⟨none, true⟩).error = none from isTracked ▸ ok]
  refine ⟨(innerCall t).2, ?_, isTracked ▸ rfl⟩
  rw [setMetric, bind_of_ok (trackIfRestored_eq restores metric s), isTracked, bind_of_ok ready,
    withReconnect, bind_of_ok (attempt_of asked)]
  rfl

end

/-- The metric has an id, and it is the id of no live metric of another name. -/
def Own (metric : Metric) (live : List Metric) : Prop :=
  metric.id.isSome = true ∧ ∀ m ∈ live, m.id = metric.id ↔ m.name = metric.name

instance (metric : Metric) (live : List Metric) : Decidable (Own metric live) :=
  inferInstanceAs (Decidable (_ ∧ ∀ m ∈ live, _))

theorem Own.untrack {metric : Metric} (own : Own metric live) :
    untrackMetric metric live = without metric.name live := by
  obtain ⟨id, isId⟩ := Option.isSome_iff_exists.mp own.1
  unfold untrackMetric without
  rw [isId]
  refine filter_congr fun m mem => ?_
  simp [← isId, ne_eq, own.2 m mem]

/-- **Every metric has an id of its own; a metric is set when the inner adapter is connected and
accepts it.** -/
def Careful (h : History) : Event → Prop
  | .request (.setMetric metric) replies => Own metric h.live ∧ h.adapter.connected = true ∧
      (replies.headD ⟨none, true⟩).error = none
  | .request (.removeMetric metric) _ => Own metric h.live
  | _ => True

instance (h : History) : ∀ event, Decidable (Careful h event)
  | .request (.setMetric _) _ => inferInstanceAs (Decidable (_ ∧ _))
  | .request (.removeMetric metric) _ => inferInstanceAs (Decidable (Own metric h.live))
  | .request .subscribeEvents _ | .request .ensureConnected _ | .request .start _
  | .loseConnection => .isTrue trivial

/-- The list is the list of the live metrics, and so it was at each reconnection. -/
structure Faithful (h : History) : Prop where
  registered : h.adapter.registeredMetrics = h.live
  names : (h.live.map (·.name)).Nodup
  restored : ∀ p ∈ h.reconnections, p.1 = p.2 ∧ (p.1.map (·.name)).Nodup

theorem faithful_new : Faithful .new :=
  ⟨rfl, nodup_nil, nofun⟩

theorem without_nodup (names : (live.map (·.name)).Nodup) (name : String) :
    ((without name live).map (·.name)).Nodup :=
  names.sublist (List.Sublist.map _ filter_sublist)

theorem set_nodup (names : (live.map (·.name)).Nodup) (metric : Metric) :
    ((without metric.name live ++ [metric]).map (·.name)).Nodup := by
  rw [map_append, map_singleton]
  refine nodup_append.mpr ⟨without_nodup names _, pairwise_singleton _ _, ?_⟩
  intro a mem b isB same
  obtain ⟨m, isM, rfl⟩ := mem_map.mp mem
  rw [mem_singleton.mp isB] at same
  exact absurd same (by simpa using (mem_filter.mp isM).2)

theorem change_live (restores : config.restoreMetrics = true) {h : History} {req : Request}
    {replies : List Reply} (careful : Careful h (.request req replies)) :
    req.change h.live =
        liveAfter h.live (req.call config (h.adapter.withReplies replies)).1 req ∧
      (req.change h.live = liveDuring h.live req ∨
        (req.call config (h.adapter.withReplies replies)).2.restorations =
          h.adapter.restorations) := by
  cases req with
  | setMetric metric =>
    obtain ⟨own, up, ok⟩ := careful
    obtain ⟨t, ran, restorations⟩ := @setMetric_accepted config (h.adapter.withReplies replies)
      restores metric up ok
    refine ⟨?_, .inr ?_⟩
    · show untrackMetric metric h.live ++ [metric] = _
      rw [own.untrack, Request.call, ran]
      rfl
    · rw [Request.call, ran]
      exact restorations
  | removeMetric metric => exact ⟨Own.untrack careful, .inl (Own.untrack careful)⟩
  | subscribeEvents | ensureConnected | start => exact ⟨rfl, .inl rfl⟩

theorem liveAfter_nodup (names : (live.map (·.name)).Nodup) (back : Except InnerError Unit)
    (req : Request) :
    ((liveAfter live back req).map (·.name)).Nodup := by
  cases req with
  | setMetric metric =>
    cases back with
    | ok _ => exact set_nodup names metric
    | error _ => exact without_nodup names _
  | removeMetric metric => exact without_nodup names _
  | subscribeEvents | ensureConnected | start => exact names

theorem faithful_step (restores : config.restoreMetrics = true) (h : History) (event : Event)
    (faithful : Faithful h) (careful : Careful h event) : Faithful (h.step config event) := by
  cases event with
  | loseConnection => exact ⟨faithful.registered, faithful.names, faithful.restored⟩
  | request req replies =>
    have spec := request_spec restores req (h.adapter.withReplies replies)
    obtain ⟨new, isNew, ofList⟩ := spec.restored
    obtain ⟨after, during⟩ := change_live restores careful
    have reg : (req.call config (h.adapter.withReplies replies)).2.registeredMetrics =
        req.change h.live := by
      rw [spec.registered]
      exact congrArg req.change faithful.registered
    refine ⟨reg.trans after, liveAfter_nodup faithful.names _ req, ?_⟩
    intro p mem
    rcases mem_append.mp mem with old | recent
    · exact faithful.restored p old
    -- the reconnections of this request
    obtain ⟨restored, isRestored, rfl⟩ := mem_map.mp recent
    have isNew : (req.call config (h.adapter.withReplies replies)).2.restorations =
        h.adapter.restorations ++ new := isNew
    rw [isNew, drop_left] at isRestored
    have ofLive : restored = req.change h.live :=
      (ofList restored isRestored).trans (congrArg req.change faithful.registered)
    rcases during with same | none
    · refine ⟨ofLive.trans same, ?_⟩
      rw [ofLive, same]
      cases req with
      | removeMetric metric => exact without_nodup faithful.names _
      | setMetric | subscribeEvents | ensureConnected | start => exact faithful.names
    · have empty : new = [] := by
        refine @append_cancel_left _ h.adapter.restorations _ _ ?_
        rw [append_nil]
        exact isNew.symm.trans none
      rw [empty] at isRestored
      cases isRestored

/-- **Reconnection restores exactly the live metrics**, each once and as it was set last, if every
metric has an id of its own and each `set_metric` finds the inner adapter connected and is accepted. -/
theorem restored_are_live (config : ReconnectConfig) (restores : config.restoreMetrics = true)
    (events : List Event) (careful : Run.Allowed (History.step config) Careful .new events) :
    ∀ p ∈ (Run.after (History.step config) .new events).reconnections,
      p.1.Perm p.2 ∧ (p.1.map (·.name)).Nodup := by
  intro p mem
  obtain ⟨same, names⟩ := (Run.invariant_after _ (faithful_step restores) events .new faithful_new
    careful).restored p mem
  exact ⟨same ▸ List.Perm.refl _, names⟩

namespace Sample

def threeAttempts : ReconnectConfig := ⟨true, 3, true⟩

def metric (id : Option MetricId) (name : String) : Metric where
  id := id
  name := name
  connectionId := "c"
  location := ⟨"app.py", 1⟩
  expressions := ["x"]
  language := .python

/-- The inner adapter is started a second time, at the second attempt. -/
def restart : Event := .request .start [⟨some (.io "refused"), false⟩, ⟨none, true⟩]

/-- The reconnections of a history: the names that were restored, and the names that were live. -/
def names (events : List Event) : List (List String × List String) :=
  (Run.after (History.step threeAttempts) .new events).reconnections.map fun p =>
    (p.1.map (·.name), p.2.map (·.name))

def setThenRemove : List Event :=
  [.request .start [], .request (.setMetric (metric (some 1) "a")) [],
    .request (.setMetric (metric (some 2) "b")) [], .request (.removeMetric (metric (some 1) "a")) [],
    .loseConnection, restart]

end Sample

open Sample

theorem restored_are_live_b :
    Run.Allowed (History.step threeAttempts) Careful .new setThenRemove ∧
      names setThenRemove = [(["b"], ["b"])] ∧
      ∀ p ∈ (Run.after (History.step threeAttempts) .new setThenRemove).reconnections,
        p.1.Perm p.2 ∧ (p.1.map (·.name)).Nodup := by
  have careful : Run.Allowed (History.step threeAttempts) Careful .new setThenRemove := by
    decide
  exact ⟨careful, by decide, restored_are_live threeAttempts rfl _ careful⟩

/-- A metric that the inner adapter has refused is restored, and so is one without an id that was
removed; one without an id that was set twice is restored twice. -/
theorem dead_metrics_restored :
    names [.request .start [],
        .request (.setMetric (metric (some 1) "a")) [⟨some (.other "bad line"), true⟩],
        restart] = [(["a"], [])] ∧
      names [.request .start [], .request (.setMetric (metric none "a")) [],
        .request (.removeMetric (metric none "a")) [], restart] = [(["a"], [])] ∧
      names [.request .start [], .request (.setMetric (metric none "a")) [],
        .request (.setMetric (metric none "a")) [], restart] =
          [(["a", "a"], ["a"])] := by
  decide

/-! ### What `ensure_connected` tells -/

def stop : Call Unit := do
  setState .disconnected
  register fun _ => []
  innerCall

inductive Happening where
  | request (request : Request) (replies : List Reply)
  | stop (replies : List Reply)
  | loseConnection

def Wrapper.step (config : ReconnectConfig) (s : Wrapper) : Happening → Wrapper
  | .request request replies => (request.call config (s.withReplies replies)).2
  | .stop replies => (Middleware.stop (s.withReplies replies)).2
  | .loseConnection => { s with connected := false }

/-- The inner adapter was connected when the call began, or a start of it has succeeded since. -/
def ConnectedDuring (s t : Wrapper) : Prop :=
  s.connected = true ∨ s.restorations.length < t.restorations.length

/-- If `ensure_connected` returns `Ok`, then the inner adapter was connected during the call. -/
def TellsTheTruth (config : ReconnectConfig) (s : Wrapper) : Prop :=
  (ensureConnected config s).1 = .ok () → ConnectedDuring s (ensureConnected config s).2

theorem reconnectLoop_grows (left : Nat) (s : Wrapper)
    (ok : (reconnectLoop config left s).1 = .ok ()) :
    s.restorations.length < (reconnectLoop config left s).2.restorations.length := by
  induction left generalizing s with
  | zero => cases ok
  | succ left ih =>
    obtain ⟨t, isT⟩ : ∃ t, (innerCall { s with state := .connecting }).2 = t := ⟨_, rfl⟩
    have same : t.restorations = s.restorations := isT ▸ rfl
    have entered : setState .connecting s = (.ok (), { s with state := .connecting }) := rfl
    cases started : (innerCall { s with state := .connecting }).1 with
    | ok _ =>
      have asked : attempt innerCall { s with state := .connecting } = (.ok (.ok ()), t) :=
        attempt_of (Prod.ext started isT)
      obtain ⟨u, restored, ran, -, restorations, -⟩ := reconnected_spec config t
      rw [reconnectLoop, bind_of_ok entered, bind_of_ok asked]
      show _ < (reconnected config t).2.restorations.length
      rw [ran, restorations, same, length_append]
      exact Nat.lt_succ_self _
    | error e =>
      have asked : attempt innerCall { s with state := .connecting } = (.ok (.error e), t) :=
        attempt_of (Prod.ext started isT)
      rw [reconnectLoop, bind_of_ok entered, bind_of_ok asked] at ok ⊢
      rw [← same]
      exact ih { t with state := .backoff } ok

/-- **`ensure_connected` tells the truth unless the connection was lost in the state `Connected`**,
which no loss of the connection changes. -/
theorem tellsTheTruth_iff (config : ReconnectConfig) (history : List Happening)
    (replies : List Reply) :
    let s := (Run.after (Wrapper.step config) .new history).withReplies replies
    TellsTheTruth config s ↔ s.connected = true ∨ s.state ≠ .connected := by
  intro s
  have seen : get s = ((.ok s, s) : Except InnerError Wrapper × Wrapper) := rfl
  rw [TellsTheTruth, ensureConnected, bind_of_ok seen]
  by_cases up : s.connected = true
  · exact ⟨fun _ => .inl up, fun _ _ => .inl up⟩
  rw [if_neg up]
  cases state : s.state with
  | connected =>
    refine iff_of_false (fun truth => ?_) (fun h => h.elim up fun other => other rfl)
    exact (truth rfl).elim up (Nat.lt_irrefl _)
  | disconnected | connecting | backoff | failed =>
    refine iff_of_true (fun ok => .inr ?_) (.inr ConnectionState.noConfusion)
    cases isOn : config.enabled with
    | false =>
      simp only [isOn, attemptReconnect] at ok
      cases ok
    | true =>
      simp only [isOn, attemptReconnect] at ok ⊢
      exact reconnectLoop_grows _ s ok

/-- The wrapper has lost its connection after a successful start; a second one would succeed. -/
def Sample.lost : Wrapper :=
  (Run.after (Wrapper.step threeAttempts) .new [.request .start [], .loseConnection]).withReplies
    [⟨none, true⟩]

/-- A lost connection is reported as `Ok`, and the inner adapter is not called. -/
theorem lost_connection_is_ok :
    lost.connected = false ∧ (ensureConnected threeAttempts lost).1 = .ok () ∧
      (ensureConnected threeAttempts lost).2.replies = [⟨none, true⟩] ∧
      (ensureConnected threeAttempts lost).2.restorations = [] := by
  decide

end Detrix.Middleware
