/-
**What a connection sees of the cached file system.**

Calls of any connections on one file system: files are stored, validated, marked stale and cleared,
`ensure_available` looks for a file and stores what a source gives, and files are read, for anchors
and scopes at once, for an inspection after the path has been chosen. A connection that finds no
foreign entry at the paths it looks at sees what it would see if it were alone
(`related_step`), and so its own files or the disk (`own_step`).
-/

import Detrix.Files.CachedFileSystem
import Detrix.Library.Run

namespace Detrix.Files

open Detrix.Core Library List CachedFileSystem

/-! ### The machine -/

/-- What a call has read for a connection, and when. -/
structure Sight where
  key : Key
  moment : Moment
  result : Except FileError String

/-- The file system with the calls in progress. The last two fields record what has been stored and
what has been read; no call looks at them. -/
structure FileState where
  fs : CachedFileSystem
  fetching : List Key
  inspecting : List Key
  stored : List (Key × String)
  seen : List Sight

def FileState.new (hotReloadTtl : Nat) : FileState := ⟨.new hotReloadTtl, [], [], [], []⟩

inductive FileStep where
  | store (m : Moment) (key : Key) (content : String)
  | validateHashes (m : Moment) (connection : ConnectionId) (hashes : List (String × String))
  | markStale (connection : ConnectionId)
  | clearConnection (connection : ConnectionId)
  /-- `ensure_available` looks whether the file is there. -/
  | ensure (m : Moment) (key : Key)
  | fetched (m : Moment) (key : Key)
  | read (m : Moment) (key : Key)
  /-- `inspect` chooses the path. -/
  | inspect (m : Moment) (connection : ConnectionId) (request : FileInspectionRequest)
  /-- `inspect` reads it. -/
  | inspectRead (m : Moment) (key : Key)

namespace FileStep

def connection : FileStep → ConnectionId
  | store _ key _ => key.connection
  | validateHashes _ connection _ => connection
  | markStale connection => connection
  | clearConnection connection => connection
  | ensure _ key => key.connection
  | fetched _ key => key.connection
  | read _ key => key.connection
  | inspect _ connection _ => connection
  | inspectRead _ key => key.connection

def looksAt : FileStep → Option Key
  | ensure _ key => some key
  | read _ key => some key
  | inspect _ connection request => some ⟨connection, resolveFilePath request⟩
  | inspectRead _ key => some key
  | _ => none

end FileStep

namespace FileState

def keep (s : FileState) (m : Moment) (key : Key) (result : FetchResult) : FileState :=
  { s with
    fs := s.fs.storeWithMetadata m key result.content result.metadata
    stored := s.stored ++ [(key, result.content)] }

def look (s : FileState) (m : Moment) (key : Key) : FileState :=
  let answer := s.fs.readToString m key.path
  { s with fs := answer.2, seen := s.seen ++ [⟨key, m, answer.1⟩] }

def step (sources : List FileSource) (s : FileState) : FileStep → FileState
  | .store m key content => s.keep m key ⟨content, .default⟩
  | .validateHashes m connection hashes =>
    { s with fs := (s.fs.validateHashes m connection hashes).2 }
  | .markStale connection => { s with fs := s.fs.markStale connection }
  | .clearConnection connection => { s with fs := s.fs.clearConnection connection }
  | .ensure m key =>
    if s.fs.isAvailable m key.path then s else { s with fetching := s.fetching ++ [key] }
  | .fetched m key =>
    if key ∈ s.fetching then
      let s := { s with fetching := s.fetching.erase key }
      match fetchFirst sources m.now key with
      | some result => s.keep m key result
      | none => s
    else s
  | .read m key => s.look m key
  | .inspect m connection request =>
    match inspectedPath s.fs m (resolveFilePath request) with
    | .ok path => { s with inspecting := s.inspecting ++ [⟨connection, path⟩] }
    | .error error =>
      { s with seen := s.seen ++ [⟨⟨connection, resolveFilePath request⟩, m, .error error⟩] }
  | .inspectRead m key =>
    if key ∈ s.inspecting then { s with inspecting := s.inspecting.erase key }.look m key else s

end FileState

open FileState

def seenBy (connection : ConnectionId) (s : FileState) : List Sight :=
  s.seen.filter (·.key.connection = connection)

/-- A step of the connection that looks at a path finds no entry of another connection there. -/
def Undisturbed (connection : ConnectionId) (s : FileState) (step : FileStep) : Prop :=
  ∀ key ∈ step.looksAt, key.connection = connection → Alone s.fs key

instance (connection : ConnectionId) (s : FileState) (step : FileStep) :
    Decidable (Undisturbed connection s step) :=
  Option.decidableForallMem step.looksAt

/-! ### What the cache holds -/

/-- What a read depends on: the clocks and marks of the entries are left out. -/
structure Held where
  key : Key
  content : String
  hash : String

def held (e : Key × CacheEntry) : Held := ⟨e.1, e.2.content, e.2.hash⟩

def holdings (fs : CachedFileSystem) : List Held := fs.entries.map held

theorem holdings_mapEntries (fs : CachedFileSystem) {change : Key → CacheEntry → CacheEntry}
    (same : ∀ key entry, held (key, change key entry) = held (key, entry)) :
    holdings (fs.mapEntries change) = holdings fs := by
  unfold holdings mapEntries
  rw [map_map]
  exact map_congr_left fun e _ => same e.1 e.2

variable {key : Key} {fs : CachedFileSystem} {test : Held → Bool}

theorem holdings_retain (fs : CachedFileSystem) {keep : Key × CacheEntry → Bool}
    (same : ∀ e, keep e = test (held e)) :
    holdings (fs.retain keep) = (holdings fs).filter test := by
  unfold holdings retain
  rw [filter_map]
  exact congrArg (map held) (filter_congr fun e _ => same e)

def put (held : Held) (all : List Held) : List Held := all.filter (·.key ≠ held.key) ++ [held]

theorem holdings_insert (fs : CachedFileSystem) (key : Key) (entry : CacheEntry) :
    holdings (fs.insert key entry) = put (held (key, entry)) (holdings fs) := by
  unfold holdings CachedFileSystem.insert put
  rw [map_append, filter_map]
  rfl

theorem holdings_expire (fs : CachedFileSystem) (now : Nat) (path : String) :
    holdings (fs.expire now path) = holdings fs := by
  unfold expire
  split
  · refine holdings_mapEntries fs fun key entry => ?_
    split <;> rfl
  · rfl

theorem holdings_markStale (fs : CachedFileSystem) (conn : ConnectionId) :
    holdings (fs.markStale conn) = holdings fs := by
  refine holdings_mapEntries fs fun key entry => ?_
  split <;> rfl

def refutes (connection : ConnectionId) (hashes : List (String × String)) (h : Held) : Bool :=
  h.key.connection = connection && (clientHash hashes h.key.path).any (· ≠ h.hash)

theorem holdings_validateHashes (fs : CachedFileSystem) (m : Moment) (conn : ConnectionId)
    (hashes : List (String × String)) :
    holdings (fs.validateHashes m conn hashes).2 =
      (holdings fs).filter fun h => !refutes conn hashes h := by
  refine (holdings_mapEntries _ fun key entry => ?_).trans (holdings_retain fs fun e => rfl)
  unfold confirmed
  split <;> rfl

theorem holdings_clearConnection (fs : CachedFileSystem) (conn : ConnectionId) :
    holdings (fs.clearConnection conn) =
      (holdings fs).filter (·.key.connection ≠ conn) :=
  holdings_retain fs fun _ => rfl

/-! ### Reading without foreign entries -/

/-- What a connection reads if it looks at its own entry only. -/
def ownAnswer (all : List Held) (m : Moment) (key : Key) : Except FileError String :=
  match all.find? (·.key = key) with
  | some h => .ok h.content
  | none => readDisk m.disk key.path

theorem find?_holdings (fs : CachedFileSystem) (key : Key) :
    (holdings fs).find? (·.key = key) = (fs.entries.find? (·.1 = key)).map held := by
  rw [holdings, find?_map]
  rfl

theorem alone_iff (fs : CachedFileSystem) (key : Key) :
    Alone fs key ↔ ∀ h ∈ holdings fs, h.key.path = key.path → h.key = key := by
  unfold Alone holdings
  rw [forall_mem_map]
  rfl

theorem lookUp_of_alone (alone : Alone fs key) (m : Moment) :
    fs.lookUp m key.path = ownAnswer (holdings fs) m key := by
  rw [lookUp, alone.find, ownAnswer, find?_holdings]
  cases fs.entries.find? (·.1 = key) <;> rfl

theorem readToString_of_alone (alone : Alone fs key) (m : Moment) :
    (fs.readToString m key.path).1 = ownAnswer (holdings fs) m key := by
  have still : Alone (fs.expire m.now key.path) key := by
    rw [alone_iff, holdings_expire, ← alone_iff]
    exact alone
  rw [readToString, lookUp_of_alone still, holdings_expire]

theorem isAvailable_of_alone (alone : Alone fs key) (m : Moment) :
    fs.isAvailable m key.path =
      (((holdings fs).find? (·.key = key)).isSome || m.disk.isPresent key.path) := by
  rw [isAvailable, alone.find, find?_holdings, Option.isSome_map]

/-! ### The part of one connection -/

/-- **`alone` is what `s` would be without the other connections.** -/
structure Part (c : ConnectionId) (s alone : FileState) : Prop where
  holds : holdings alone.fs = (holdings s.fs).filter (·.key.connection = c)
  fetching : alone.fetching = s.fetching.filter (·.connection = c)
  inspecting : alone.inspecting = s.inspecting.filter (·.connection = c)
  seen : alone.seen = seenBy c s

variable {c : ConnectionId} {s alone : FileState}

section
variable (part : Part c s alone)
include part

section
variable (own : key.connection = c)
include own

theorem Part.free : Alone alone.fs key := by
  rw [alone_iff, part.holds]
  intro h mem samePath
  have isOwn : h.key.connection = c := by simpa using (mem_filter.mp mem).2
  show (⟨h.key.connection, h.key.path⟩ : Key) = ⟨key.connection, key.path⟩
  rw [isOwn, own, samePath]

theorem Part.find : (holdings alone.fs).find? (·.key = key) = (holdings s.fs).find? (·.key = key) := by
  rw [part.holds, find?_filter]
  congr 1
  funext h
  by_cases isKey : h.key = key
  · simp [isKey, own]
  · simp [isKey]

theorem Part.answer (calm : Alone s.fs key) (m : Moment) :
    (alone.fs.readToString m key.path).1 = (s.fs.readToString m key.path).1 := by
  rw [readToString_of_alone calm, readToString_of_alone (part.free own), ownAnswer, ownAnswer,
    part.find own]

theorem Part.available (calm : Alone s.fs key) (m : Moment) :
    alone.fs.isAvailable m key.path = s.fs.isAvailable m key.path := by
  rw [isAvailable_of_alone calm, isAvailable_of_alone (part.free own), part.find own]

end

end

/-! ### Steps of the connection -/

theorem append_own {κ : Type} {whose : κ → ConnectionId} {x : κ} {mine all : List κ}
    (part : mine = all.filter (whose · = c)) (own : whose x = c) :
    mine ++ [x] = (all ++ [x]).filter (whose · = c) := by
  rw [part, filter_append, filter_cons_of_pos (by simpa using own), filter_nil]

theorem put_filter {h : Held} (own : h.key.connection = c) (all : List Held) :
    put h (all.filter (·.key.connection = c)) = (put h all).filter (·.key.connection = c) := by
  unfold put
  rw [filter_append, filter_cons_of_pos (by simpa using own), filter_filter, filter_filter]
  simp [Bool.and_comm, filter_nil]

theorem Part.keep (part : Part c s alone) (own : key.connection = c) (m : Moment)
    (result : FetchResult) : Part c (s.keep m key result) (alone.keep m key result) := by
  refine { part with holds := ?_ }
  have insert := fun fs => holdings_insert fs key ⟨result.content, m.sha256Hex result.content, false,
    m.now, some result.metadata⟩
  refine (insert alone.fs).trans ?_
  rw [part.holds, put_filter own]
  exact congrArg _ (insert s.fs).symm

theorem Part.look (part : Part c s alone) (own : key.connection = c) (calm : Alone s.fs key)
    (m : Moment) : Part c (s.look m key) (alone.look m key) := { part with
  holds := (holdings_expire _ _ _).trans
    (part.holds.trans (congrArg _ (holdings_expire _ _ _).symm))
  seen := by
    unfold FileState.look seenBy
    dsimp only
    rw [part.answer own calm]
    exact append_own part.seen own }

/-- A test of what is held commutes with the choice of a connection. -/
theorem Part.filter (part : Part c s alone) {fs' : CachedFileSystem}
    (left : holdings fs = (holdings s.fs).filter test)
    (right : holdings fs' = (holdings alone.fs).filter test) :
    Part c { s with fs } { alone with fs := fs' } := by
  refine { part with holds := ?_ }
  rw [left, right, part.holds, filter_filter, filter_filter]
  simp [Bool.and_comm]

theorem mem_own {mine all : List Key} (part : mine = all.filter (·.connection = c))
    (own : key.connection = c) : key ∈ mine ↔ key ∈ all := by
  simp [part, own]

variable (sources : List FileSource) (step : FileStep)

/-- **A step of the connection keeps the part**, if it finds no foreign entry. -/
theorem part_own (own : step.connection = c) (calm : Undisturbed c s step)
    (part : Part c s alone) :
    Part c (s.step sources step) (alone.step sources step) := by
  cases step with
  | store m key text => exact part.keep own m _
  | validateHashes m conn hashes =>
    exact part.filter (holdings_validateHashes _ _ _ _) (holdings_validateHashes _ _ _ _)
  | markStale conn =>
    refine { part with holds := ?_ }
    show holdings (alone.fs.markStale conn) = (holdings (s.fs.markStale conn)).filter _
    rw [holdings_markStale, holdings_markStale]
    exact part.holds
  | clearConnection conn =>
    exact part.filter (holdings_clearConnection _ _) (holdings_clearConnection _ _)
  | ensure m key =>
    have same := part.available own (calm key rfl own) m
    unfold step
    dsimp only
    rw [same]
    split
    · exact part
    · exact { part with fetching := append_own part.fetching own }
  | fetched m key =>
    have less : Part c { s with fetching := s.fetching.erase key }
        { alone with fetching := alone.fetching.erase key } :=
      { part with fetching := by dsimp only; rw [part.fetching, erase_filter] }
    unfold step
    dsimp only
    rw [if_congr (mem_own part.fetching own) rfl rfl]
    split
    · split
      · exact less.keep own m _
      · exact less
    · exact part
  | read m key => exact part.look own (calm key rfl own) m
  | inspect m conn req =>
    have same : inspectedPath alone.fs m (resolveFilePath req) =
        inspectedPath s.fs m (resolveFilePath req) := by
      have free := part.available own
        (calm ⟨conn, resolveFilePath req⟩ rfl own) m
      unfold inspectedPath
      rw [free]
    unfold step
    dsimp only
    rw [same]
    split
    · exact { part with inspecting := append_own part.inspecting own }
    · exact { part with seen := append_own part.seen own }
  | inspectRead m key =>
    have less : Part c { s with inspecting := s.inspecting.erase key }
        { alone with inspecting := alone.inspecting.erase key } :=
      { part with inspecting := by dsimp only; rw [part.inspecting, erase_filter] }
    unfold step
    dsimp only
    rw [if_congr (mem_own part.inspecting own) rfl rfl]
    split
    · exact less.look own (calm key rfl own) m
    · exact part

/-! ### Steps of other connections -/

theorem append_other {κ : Type} {whose : κ → ConnectionId} {x : κ} {mine all : List κ}
    (part : mine = all.filter (whose · = c)) (other : whose x ≠ c) :
    mine = (all ++ [x]).filter (whose · = c) := by
  rw [part, filter_append, filter_cons_of_neg (by simpa using other), filter_nil, append_nil]

theorem filter_other_erase {all : List Key} (other : key.connection ≠ c) :
    (all.erase key).filter (·.connection = c) = all.filter (·.connection = c) := by
  rw [← erase_filter, erase_of_not_mem]
  simp [other]

theorem Part.keepOther (part : Part c s alone) (other : key.connection ≠ c) (m : Moment)
    (result : FetchResult) : Part c (s.keep m key result) alone := by
  refine { part with holds := ?_ }
  have insert := holdings_insert s.fs key ⟨result.content, m.sha256Hex result.content, false,
    m.now, some result.metadata⟩
  rw [part.holds]
  refine .trans (append_other ?_ (by exact other)) (congrArg _ insert.symm)
  rw [filter_filter]
  refine filter_congr fun h _ => ?_
  by_cases own : h.key.connection = c
  · have ne : h.key ≠ key := fun same => other (same ▸ own)
    simp [own, held, ne]
  · simp [own]

theorem Part.lookOther (part : Part c s alone) (other : key.connection ≠ c) (m : Moment) :
    Part c (s.look m key) alone :=
  { part with
    holds := part.holds.trans (congrArg _ (holdings_expire _ _ _).symm)
    seen := append_other part.seen other }

theorem Part.filterOther (part : Part c s alone) (left : holdings fs = (holdings s.fs).filter test)
    (passes : ∀ h : Held, h.key.connection = c → test h = true) : Part c { s with fs } alone := by
  refine { part with holds := ?_ }
  rw [left, part.holds, filter_filter]
  refine filter_congr fun h _ => ?_
  by_cases own : h.key.connection = c
  · simp [own, passes h own]
  · simp [own]

/-- **A step of another connection keeps the part.** -/
theorem part_other (other : step.connection ≠ c) (part : Part c s alone) :
    Part c (s.step sources step) alone := by
  cases step with
  | store m key text => exact part.keepOther other m _
  | validateHashes m conn hashes =>
    refine part.filterOther (holdings_validateHashes _ _ _ _) fun h own => ?_
    have ne : h.key.connection ≠ conn := fun same => other (same.symm.trans own)
    simp [refutes, ne]
  | markStale conn =>
    refine { part with holds := ?_ }
    show _ = (holdings (s.fs.markStale conn)).filter _
    rw [holdings_markStale]
    exact part.holds
  | clearConnection conn =>
    refine part.filterOther (holdings_clearConnection _ _) fun h own => ?_
    have ne : h.key.connection ≠ conn := fun same => other (same.symm.trans own)
    simpa using ne
  | ensure m key =>
    unfold step
    dsimp only
    split
    · exact part
    · exact { part with fetching := append_other part.fetching other }
  | fetched m key =>
    have less : Part c { s with fetching := s.fetching.erase key } alone :=
      { part with fetching := part.fetching.trans (filter_other_erase other).symm }
    unfold step
    dsimp only
    split
    · split
      · exact less.keepOther other m _
      · exact less
    · exact part
  | read m key => exact part.lookOther other m
  | inspect m conn req =>
    unfold step
    dsimp only
    split
    · exact { part with inspecting := append_other part.inspecting other }
    · exact { part with seen := append_other part.seen other }
  | inspectRead m key =>
    have less : Part c { s with inspecting := s.inspecting.erase key } alone :=
      { part with inspecting := part.inspecting.trans (filter_other_erase other).symm }
    unfold step
    dsimp only
    split
    · exact less.lookOther other m
    · exact part

/-! ### Own contents -/

/-- A sight shows what was stored for its connection, or the disk. -/
def Sight.Own (stored : List (Key × String)) (sight : Sight) : Prop :=
  ∀ text, sight.result = .ok text →
    (sight.key, text) ∈ stored ∨ sight.moment.disk.readToString sight.key.path = .ok text

/-- **What the cache holds was stored under its key, and what the connection has seen is its own.** -/
structure Recorded (c : ConnectionId) (s : FileState) : Prop where
  holds : ∀ h ∈ holdings s.fs, (h.key, h.content) ∈ s.stored
  sees : ∀ sight ∈ s.seen, sight.key.connection = c → sight.Own s.stored

theorem Recorded.keep (noted : Recorded c s) (m : Moment) (key : Key) (result : FetchResult) :
    Recorded c (s.keep m key result) where
  holds := by
    intro h mem
    rw [FileState.keep, storeWithMetadata, holdings_insert, put] at mem
    rcases mem_append.mp mem with old | new
    · exact mem_append_left _ (noted.holds h (mem_filter.mp old).1)
    · rw [mem_singleton.mp new]
      exact mem_append_right _ (.head _)
  sees := fun sight mem own text isText =>
    (noted.sees sight mem own text isText).imp_left (mem_append_left _)

theorem ownAnswer_own {all : List Held} {stored : List (Key × String)} {m : Moment}
    (noted : ∀ h ∈ all, (h.key, h.content) ∈ stored) :
    Sight.Own stored ⟨key, m, ownAnswer all m key⟩ := by
  intro text isText
  unfold ownAnswer at isText
  split at isText
  next h found =>
    left
    have isKey : h.key = key := by simpa using find?_some found
    have mem := noted h (mem_of_find?_eq_some found)
    rw [isKey, Except.ok.inj isText] at mem
    exact mem
  next =>
    right
    unfold readDisk at isText
    split at isText
    next content read => rw [read, Except.ok.inj isText]
    next => cases isText
    next => cases isText

theorem Recorded.look (noted : Recorded c s) (m : Moment)
    (calm : key.connection = c → Alone s.fs key) : Recorded c (s.look m key) where
  holds := by
    intro h mem
    exact noted.holds h (holdings_expire s.fs m.now key.path ▸ mem)
  sees := by
    intro sight mem own
    rcases mem_append.mp mem with old | new
    · exact noted.sees sight old own
    · obtain rfl := mem_singleton.mp new
      rw [readToString_of_alone (calm own)]
      exact ownAnswer_own noted.holds

theorem Recorded.shrink (noted : Recorded c s) (less : ∀ h ∈ holdings fs, h ∈ holdings s.fs) :
    Recorded c { s with fs } :=
  ⟨fun h mem => noted.holds h (less h mem), noted.sees⟩

theorem recorded_step (noted : Recorded c s) (calm : Undisturbed c s step) :
    Recorded c (s.step sources step) := by
  cases step with
  | store m key content => exact noted.keep m key _
  | validateHashes m conn hashes =>
    refine noted.shrink fun h mem => ?_
    rw [holdings_validateHashes] at mem
    exact (mem_filter.mp mem).1
  | markStale conn =>
    refine noted.shrink fun h mem => ?_
    rwa [holdings_markStale] at mem
  | clearConnection conn =>
    refine noted.shrink fun h mem => ?_
    rw [holdings_clearConnection] at mem
    exact (mem_filter.mp mem).1
  | ensure m key =>
    unfold step
    dsimp only
    split
    · exact noted
    · exact ⟨noted.holds, noted.sees⟩
  | fetched m key =>
    have less : Recorded c { s with fetching := s.fetching.erase key } :=
      ⟨noted.holds, noted.sees⟩
    unfold step
    dsimp only
    split
    · split
      · exact less.keep m key _
      · exact less
    · exact noted
  | read m key => exact noted.look m (calm key rfl)
  | inspect m conn req =>
    unfold step
    dsimp only
    split
    · exact ⟨noted.holds, noted.sees⟩
    · refine ⟨noted.holds, fun sight mem own => ?_⟩
      rcases mem_append.mp mem with old | new
      · exact noted.sees sight old own
      · obtain rfl := mem_singleton.mp new
        exact nofun
  | inspectRead m key =>
    have less : Recorded c { s with inspecting := s.inspecting.erase key } :=
      ⟨noted.holds, noted.sees⟩
    unfold step
    dsimp only
    split
    · exact less.look m (calm key rfl)
    · exact noted

/-! ### Histories -/

def history (ttl : Nat) (sources : List FileSource) (steps : List FileStep) : FileState :=
  Run.after (FileState.step sources) (.new ttl) steps

def own (c : ConnectionId) (steps : List FileStep) : List FileStep :=
  steps.filter (·.connection = c)

theorem part_history (ttl : Nat) (sources : List FileSource) (c : ConnectionId) {steps : List FileStep}
    (calm : Run.Allowed (FileState.step sources) (Undisturbed c) (.new ttl) steps) :
    Part c (history ttl sources steps) (history ttl sources (own c steps)) := by
  refine Run.related_to_own _ ?_ ?_ steps _ _ ⟨rfl, rfl, rfl, rfl⟩ calm
  · exact fun s alone step other part => part_other sources step (by simpa using other) part
  · exact fun s alone step isOwn free part => part_own sources step (by simpa using isOwn) free part

/-- **A connection sees its own files only, and not what the others have stored**, in all histories in
which it finds no foreign entry at the paths it looks at. -/
theorem own_files_only (ttl : Nat) (sources : List FileSource) (c : ConnectionId)
    (steps other : List FileStep) (same : own c steps = own c other)
    (undisturbed : Run.Allowed (FileState.step sources) (Undisturbed c) (.new ttl) steps)
    (undisturbed' : Run.Allowed (FileState.step sources) (Undisturbed c) (.new ttl) other) :
    (∀ sight ∈ seenBy c (history ttl sources steps),
      sight.Own (history ttl sources steps).stored) ∧
    seenBy c (history ttl sources steps) = seenBy c (history ttl sources other) := by
  constructor
  · intro sight mem
    have noted : Recorded c (history ttl sources steps) := by
      refine Run.invariant_after _ (fun s step => recorded_step sources step) steps _ ?_ undisturbed
      exact ⟨nofun,
        nofun⟩
    obtain ⟨seen, isOwn⟩ := mem_filter.mp mem
    exact noted.sees sight seen (by simpa using isOwn)
  · rw [← (part_history ttl sources c undisturbed).seen, same,
      (part_history ttl sources c undisturbed').seen]

def emptyDisk : Disk where
  readToString _ := .error .notFound
  isPresent _ := false
  canonicalize _ := .error "No such file or directory"
  isFile _ := false

def quietMoment : Moment := ⟨0, emptyDisk, id, id, fun _ => List.Perm.refl _⟩

def ownFile : Key := ⟨"a", "/app/main.py"⟩

def apart (path : String) : List FileStep :=
  [.store quietMoment ⟨"b", path⟩ "y = 2", .store quietMoment ownFile "x = 1", .ensure quietMoment ownFile,
    .read quietMoment ownFile]

theorem own_files_apart :
    (∀ sight ∈ seenBy "a" (history 60 [] (apart "/lib/one.py")),
      sight.Own (history 60 [] (apart "/lib/one.py")).stored) ∧
    seenBy "a" (history 60 [] (apart "/lib/one.py")) = seenBy "a" (history 60 [] (apart "/lib/two.py")) :=
  own_files_only 60 [] "a" (apart "/lib/one.py") (apart "/lib/two.py") rfl (by decide) (by decide)

/-- The connection `b` could fetch its own file, but the file of `a` is there under the same path. -/
def samePath : List FileStep :=
  [.store quietMoment ownFile "x = 1", .ensure quietMoment ⟨"b", "/app/main.py"⟩,
    .fetched quietMoment ⟨"b", "/app/main.py"⟩, .read quietMoment ⟨"b", "/app/main.py"⟩]

def bridge : FileSource := ⟨"bridge", fun _ _ => .ok (some ⟨"y = 2", ⟨"bridge", none, none⟩⟩)⟩

theorem foreign_file_read :
    (seenBy "b" (history 60 [bridge] samePath)).map (·.result) = [.ok "x = 1"] ∧
      (⟨"b", "/app/main.py"⟩, "x = 1") ∉ (history 60 [bridge] samePath).stored ∧
      (seenBy "b" (history 60 [bridge] (own "b" samePath))).map (·.result) = [.ok "y = 2"] :=
  ⟨rfl, by decide, rfl⟩

end Detrix.Files
