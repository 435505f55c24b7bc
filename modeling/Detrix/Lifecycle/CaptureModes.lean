/-
**What the mode of a metric does to its capture.**

A logpoint prints a line at each hit. `handle_output_event` reads it and puts the event into a bounded
channel; the listener of the adapter takes it from there to the event buffer (`process_event`). The mode
of the metric is looked at by none of them.

- `lossless_after`: in a run that loses no hit of a metric, each hit has its event in the buffer or on
  the way there.
- `bounded_of_times`: the bounds of the modes, `stream` apart, are inherited by what is captured.
- `mode_kept_iff_hits_keep_it`: so a mode is kept if and only if the hits keep it by themselves.
-/

import Detrix.Dap.MetricManager
import Detrix.Dap.RoundTrip
import Detrix.Lifecycle.EventBuffer

namespace Detrix.Lifecycle.Capture

open Detrix.Core Dap Library List

/-! ### From the output of the debugger to the buffer -/

/-- A hit of the logpoint of a metric: its time in microseconds, and the line that is printed. -/
structure Hit where
  metric : String
  time : Nat
  text : List Char

variable {TypedValue : Type}

def valueJson (event : MetricEvent TypedValue) : List Char :=
  ((event.values.head?.map fun value => value.valueJson).getD "").toList

/-- The offset in bytes is at the start of a character or at the end. -/
def isCharBoundary : Nat → List Char → Bool
  | 0, _ => true
  | _ + 1, [] => false
  | n + 1, c :: rest => c.utf8Size ≤ n + 1 && isCharBoundary (n + 1 - c.utf8Size) rest

def displayLimit : Nat := 100

/-- A value can be shortened for the log: a cut within a character would end the task. -/
def displayable (event : MetricEvent TypedValue) : Bool :=
  Text.byteLength (valueJson event) ≤ displayLimit || isCharBoundary displayLimit (valueJson event)

/-- The parser of the language with the metrics that are active, and the sizes of the channel and of
the buffer. -/
structure Settings (TypedValue : Type) where
  parseOutput : Nat → List Char → Option (MetricEvent TypedValue)
  channelCapacity : Nat
  maxBufferSize : Nat

/-- The events carry the number of their hit. -/
structure Path (TypedValue : Type) where
  hits : List Hit
  /-- The task that handles the events of the debugger runs. -/
  handling : Bool
  channel : List (Nat × MetricEvent TypedValue)
  /-- The listener holds the receiver of the channel. -/
  listening : Bool
  /-- What was pushed into the buffer so far. -/
  reached : List (Nat × MetricEvent TypedValue)
  buffering : Buffering

namespace Path

def new (flushIntervalMs : Nat) : Path TypedValue := ⟨[], true, [], true, [], .new flushIntervalMs⟩

def handleOutputEvent (settings : Settings TypedValue) (s : Path TypedValue) (number : Nat)
    (h : Hit) : Path TypedValue :=
  match settings.parseOutput h.time h.text with
  | none => s
  | some event =>
    if !displayable event then { s with handling := false }
    else if !s.listening then { s with handling := false }
    else if s.channel.length < settings.channelCapacity then
      { s with channel := s.channel ++ [(number, event)] }
    else s

def receive (settings : Settings TypedValue) (s : Path TypedValue) : Path TypedValue :=
  match s.channel with
  | [] => s
  | first :: rest =>
    { s with
      channel := rest
      reached := s.reached ++ [first]
      buffering := s.buffering.processEvent settings.maxBufferSize }

end Path

inductive Event where
  | hit (h : Hit)
  | receive
  /-- The listener is shut down; what is in its channel is gone. -/
  | stop
  /-- The listener has found the channel closed and subscribes again. -/
  | subscribe

namespace Path

def step (settings : Settings TypedValue) (s : Path TypedValue) : Event → Path TypedValue
  | .hit h =>
    let seen := { s with hits := s.hits ++ [h] }
    if s.handling then seen.handleOutputEvent settings s.hits.length h else seen
  | .receive => s.receive settings
  | .stop => { s with listening := false, channel := [] }
  | .subscribe =>
    if s.listening && !s.handling && s.channel.isEmpty then { s with handling := true } else s

def captured (m : Metric) (s : Path TypedValue) (number : Nat) : Bool :=
  s.reached.any fun entry => entry.1 = number && entry.2.metricName = m.name

/-- The hits of the metric: their times, and whether they were captured. -/
def outcome (m : Metric) (s : Path TypedValue) : List (Nat × Bool) :=
  (s.hits.zipIdx.filter fun hit => hit.1.metric = m.name).map fun hit =>
    (hit.1.time, s.captured m hit.2)

def hitTimes (m : Metric) (s : Path TypedValue) : List Nat :=
  (s.hits.filter fun hit => hit.metric = m.name).map (·.time)

end Path

/-! ### What the modes promise -/

def second : Nat := 1000000

/-- **What a mode promises** about the hits of its metric: `sample` about any hits in a row,
`throttle` about any second. -/
def Bounded : MetricMode → List (Nat × Bool) → Prop
  | .stream, hits => ∀ hit ∈ hits, hit.2 = true
  | .sample rate, hits => 1 ≤ rate → ∀ row, row <:+: hits →
      row.countP (·.2) ≤ (row.length + rate - 1) / rate
  | .sampleInterval seconds, hits =>
      (hits.filter (·.2)).Pairwise fun a b => a.1 + seconds * second ≤ b.1
  | .first, hits => hits.countP (·.2) ≤ 1
  | .throttle maxPerSecond, hits =>
      ∀ start, hits.countP (fun hit => hit.2 && start ≤ hit.1 && hit.1 < start + second) ≤ maxPerSecond

def allCaptured (times : List Nat) : List (Nat × Bool) := times.map (·, true)

theorem countP_le_length (hits : List (Nat × Bool)) :
    hits.countP (·.2) ≤ (allCaptured (hits.map (·.1))).countP (·.2) := by
  have all : (allCaptured (hits.map (·.1))).countP (·.2) = hits.length :=
    (countP_eq_length.mpr (by simp [allCaptured])).trans (by simp [allCaptured])
  exact all ▸ List.countP_le_length

theorem bounded_of_times {mode : MetricMode} {hits : List (Nat × Bool)} (partly : mode ≠ .stream)
    (bounded : Bounded mode (allCaptured (hits.map (·.1)))) : Bounded mode hits := by
  cases mode with
  | stream => exact absurd rfl partly
  | sample rate =>
    intro pos row mem
    have rowOfTimes : allCaptured (row.map (·.1)) <:+: allCaptured (hits.map (·.1)) :=
      (mem.map _).map _
    have own := bounded pos _ rowOfTimes
    refine Nat.le_trans (countP_le_length row) ?_
    simpa [allCaptured] using own
  | sampleInterval seconds =>
    have all : (allCaptured (hits.map (·.1))).filter (·.2) = allCaptured (hits.map (·.1)) :=
      filter_eq_self.mpr (by simp [allCaptured])
    simp only [Bounded] at bounded ⊢
    rw [all, allCaptured, map_map, pairwise_map] at bounded
    exact bounded.sublist filter_sublist
  | first => exact Nat.le_trans (countP_le_length hits) bounded
  | throttle maxPerSecond =>
    intro start
    refine Nat.le_trans ?_ (bounded start)
    unfold allCaptured
    rw [map_map, countP_map]
    refine countP_mono_left fun hit _ within => ?_
    simp only [Bool.and_eq_true, decide_eq_true_eq] at within
    simp [within.1.2, within.2]

/-! ### Runs that lose no hit of a metric -/

/-- **No hit of the metric is lost**: its line is read as an event of the metric that can be logged, the
task runs and finds room in the channel, and the listener is not shut down while an event of the metric
waits. -/
def Lossless (settings : Settings TypedValue) (m : Metric) (s : Path TypedValue) : Event → Prop
  | .hit h => h.metric = m.name →
      s.handling = true ∧ s.listening = true ∧ s.channel.length < settings.channelCapacity ∧
        ∃ event, settings.parseOutput h.time h.text = some event ∧ displayable event = true ∧
          event.metricName = m.name
  | .stop => ∀ entry ∈ s.channel, entry.2.metricName ≠ m.name
  | .receive | .subscribe => True

/-- Each hit of the metric has its event in the buffer, or in the channel. -/
def OnTheWay (m : Metric) (s : Path TypedValue) : Prop :=
  ∀ number h, s.hits[number]? = some h → h.metric = m.name →
    ∃ event, event.metricName = m.name ∧ (number, event) ∈ s.reached ++ s.channel

theorem handleOutputEvent_keeps (settings : Settings TypedValue) (s : Path TypedValue)
    (number : Nat) (h : Hit) :
    (s.handleOutputEvent settings number h).hits = s.hits ∧
      (s.handleOutputEvent settings number h).reached = s.reached ∧
      s.channel <+: (s.handleOutputEvent settings number h).channel := by
  unfold Path.handleOutputEvent
  repeat' split
  all_goals exact ⟨rfl, rfl, by simp⟩

variable {s : Path TypedValue}

theorem onTheWay_hit {settings : Settings TypedValue} {m : Metric} {h : Hit} (before : OnTheWay m s)
    (lossless : Lossless settings m s (.hit h)) :
    OnTheWay m (s.step settings (.hit h)) := by
  have seen : (s.step settings (.hit h)).hits = s.hits ++ [h] ∧
      (s.step settings (.hit h)).reached = s.reached ∧
      s.channel <+: (s.step settings (.hit h)).channel := by
    simp only [Path.step]
    split
    · exact handleOutputEvent_keeps settings { s with hits := s.hits ++ [h] } s.hits.length h
    · exact ⟨rfl, rfl, prefix_rfl⟩
  intro number other found own
  rw [seen.1] at found
  by_cases old : number < s.hits.length
  · rw [getElem?_append_left old] at found
    obtain ⟨event, name, among⟩ := before number other found own
    refine ⟨event, name, ?_⟩
    rw [seen.2.1]
    exact mem_append.mpr ((mem_append.mp among).imp_right (seen.2.2.subset ·))
  · have last : number = s.hits.length := by
      have bound := (List.getElem?_eq_some_iff.mp found).1
      rw [length_append, length_singleton] at bound
      omega
    subst last
    rw [getElem?_concat_length, Option.some.injEq] at found
    subst found
    obtain ⟨handling, listening, room, event, read, shown, name⟩ := lossless own
    refine ⟨event, name, mem_append_right _ ?_⟩
    have handled : s.step settings (.hit h) =
        { s with hits := s.hits ++ [h] }.handleOutputEvent settings s.hits.length h := if_pos handling
    rw [handled]
    simp [Path.handleOutputEvent, read, shown, listening, room]

section
variable (settings : Settings TypedValue)
include settings

theorem receive_moves (s : Path TypedValue) :
    (s.receive settings).hits = s.hits ∧
      (s.receive settings).reached ++ (s.receive settings).channel = s.reached ++ s.channel := by
  unfold Path.receive
  split
  · exact ⟨rfl, rfl⟩
  next first rest channel =>
    rw [channel]
    exact ⟨rfl, append_assoc _ _ _⟩

/-- **One event of a lossless run.** -/
theorem onTheWay_step (m : Metric) (s : Path TypedValue) (event : Event) (before : OnTheWay m s)
    (lossless : Lossless settings m s event) :
    OnTheWay m (s.step settings event) := by
  cases event with
  | hit h => exact onTheWay_hit before lossless
  | receive =>
    intro number h found own
    obtain ⟨hits, places⟩ := receive_moves settings s
    have found : (s.receive settings).hits[number]? = some h := found
    rw [hits] at found
    show ∃ event, event.metricName = m.name ∧
      (number, event) ∈ (s.receive settings).reached ++ (s.receive settings).channel
    rw [places]
    exact before number h found own
  | stop =>
    intro number h found own
    obtain ⟨event, name, among⟩ := before number h found own
    refine ⟨event, name, mem_append_left _ ?_⟩
    exact (mem_append.mp among).resolve_right fun waits => lossless _ waits name
  | subscribe =>
    simp only [Path.step]
    split
    · exact before
    · exact before

end

/-! ### A mode is kept if the hits keep it -/

theorem times_zipIdx (m : Metric) (hits : List Hit) (start : Nat) :
    ((hits.zipIdx start).filter fun hit => hit.1.metric = m.name).map (·.1.time) =
      (hits.filter fun hit => hit.metric = m.name).map (·.time) := by
  induction hits generalizing start with
  | nil => rfl
  | cons h rest before =>
    rw [zipIdx_cons, filter_cons, filter_cons]
    split
    · rw [map_cons, map_cons, before]
    · exact before (start + 1)

theorem outcome_times (m : Metric) (s : Path TypedValue) : (s.outcome m).map (·.1) = s.hitTimes m := by
  unfold Path.outcome Path.hitTimes
  rw [map_map, ← times_zipIdx m s.hits 0]
  rfl

/-- When nothing is on the way any more, every hit was captured. -/
theorem outcome_of_onTheWay {m : Metric} (arrived : OnTheWay m s) (empty : s.channel = []) :
    s.outcome m = allCaptured (s.hitTimes m) := by
  have all : ∀ hit ∈ s.outcome m, hit.2 = true := by
    intro hit among
    obtain ⟨⟨h, number⟩, inHits, rfl⟩ := mem_map.mp among
    obtain ⟨inHits, own⟩ := mem_filter.mp inHits
    obtain ⟨event, name, reached⟩ :=
      arrived number h (mem_zipIdx_iff_getElem?.mp inHits) (of_decide_eq_true own)
    rw [empty, append_nil] at reached
    exact any_eq_true.mpr ⟨_, reached, by simp [name]⟩
  rw [← outcome_times, allCaptured, map_map]
  refine (map_id _).symm.trans (map_congr_left fun hit among => ?_)
  exact Prod.ext rfl (all hit among)

/-- **A mode is kept if and only if the hits keep it by themselves.** If they do, what reaches the buffer
does, for `stream` as long as no hit is lost; and where no hit is lost it does not otherwise. -/
theorem mode_kept_iff_hits_keep_it {TypedValue : Type} (settings : Settings TypedValue) (m : Metric)
    (flushIntervalMs : Nat) (events : List Event) (s : Path TypedValue)
    (run : s = Run.after (Path.step settings) (.new flushIntervalMs) events) :
    (Bounded m.mode (allCaptured (s.hitTimes m)) →
      (m.mode = .stream → s.channel = [] ∧
        Run.Allowed (Path.step settings) (Lossless settings m) (.new flushIntervalMs) events) →
      Bounded m.mode (s.outcome m)) ∧
    (s.channel = [] →
      Run.Allowed (Path.step settings) (Lossless settings m) (.new flushIntervalMs) events →
      (Bounded m.mode (s.outcome m) ↔ Bounded m.mode (allCaptured (s.hitTimes m)))) := by
  have exact_ : s.channel = [] →
      Run.Allowed (Path.step settings) (Lossless settings m) (.new flushIntervalMs) events →
      s.outcome m = allCaptured (s.hitTimes m) := by
    intro empty lossless
    refine outcome_of_onTheWay ?_ empty
    rw [run]
    refine Run.invariant_after _ (onTheWay_step settings m) events _ ?_ lossless
    nofun
  constructor
  · intro keep stream
    by_cases isStream : m.mode = .stream
    · rw [exact_ (stream isStream).1 (stream isStream).2]
      exact keep
    · refine bounded_of_times isStream ?_
      rw [outcome_times]
      exact keep
  · intro empty lossless
    rw [exact_ empty lossless]

/-! ### Two hits in a row -/

def sampleMetric (mode : MetricMode) : Metric := { priceMetric with mode }

def sampleSettings (mode : MetricMode) : Settings Unit where
  parseOutput time := parsePythonOutput showingJson (Int64.ofNat time)
    (ActiveMetrics.empty.insert (sampleMetric mode))
  channelCapacity := 1000
  maxBufferSize := 1000

def sampleHit (mode : MetricMode) (time : Nat) : Event :=
  .hit ⟨"price", time, pythonLine (sampleMetric mode) ["1".toList, "2".toList] "[]".toList emptyObject⟩

def twoHits (mode : MetricMode) : Path Unit :=
  Run.after (Path.step (sampleSettings mode)) (.new 100)
    [sampleHit mode 0, sampleHit mode 1, .receive, .receive]

/-- Both hits are captured in each of the modes, which all promise one at most. -/
theorem modes_not_kept :
    ¬ Bounded .first ((twoHits .first).outcome (sampleMetric .first)) ∧
      ¬ Bounded (.sample 2) ((twoHits (.sample 2)).outcome (sampleMetric (.sample 2))) ∧
      ¬ Bounded (.sampleInterval 1)
        ((twoHits (.sampleInterval 1)).outcome (sampleMetric (.sampleInterval 1))) ∧
      ¬ Bounded (.throttle 1) ((twoHits (.throttle 1)).outcome (sampleMetric (.throttle 1))) := by
  refine ⟨fun kept => ?_, fun kept => ?_, fun kept => ?_, fun kept => ?_⟩
  · have one : [(0, true), (1, true)].countP (fun hit : Nat × Bool => hit.2) ≤ 1 := kept
    nomatch one
  · nomatch kept (by decide) _ infix_rfl
  · nomatch rel_of_pairwise_cons kept (.head _)
  · nomatch kept 0

def oneHit : Path Unit :=
  Run.after (Path.step (sampleSettings .first)) (.new 100) [sampleHit .first 0, .receive]

theorem first_kept_by_one_hit :
    oneHit.outcome (sampleMetric .first) = [(0, true)] ∧
      Bounded .first (oneHit.outcome (sampleMetric .first)) := by
  refine ⟨by decide, ?_⟩
  refine (mode_kept_iff_hits_keep_it (sampleSettings .first) (sampleMetric .first) 100
    [sampleHit .first 0, .receive] oneHit rfl).1 ?_ nofun
  exact Nat.le_refl 1

end Detrix.Lifecycle.Capture
