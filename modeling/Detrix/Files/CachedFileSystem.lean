/-
**The cached file system.**

Source files that clients or file sources have provided, kept per connection and path, with the
server's disk behind them. An entry is stored, evicted and marked stale under its connection, but it
is looked for by its path alone: `readToString` and `isAvailable` take the first entry of the path in
the iteration order of the hash map. `Alone.find` says which entry that is when only one connection has
one.
-/

import Detrix.Core.Metric
import Mathlib.Data.List.Nodup

namespace Detrix.Files

open Detrix.Core Library List

/-! ### The disk and the clock -/

inductive DiskError where
  | notFound
  | other (detail : String)

/-- What the server's own file system answers. -/
structure Disk where
  readToString : String → Except DiskError String
  isPresent : String → Bool
  canonicalize : String → Except String String
  isFile : String → Bool

structure Key where
  connection : ConnectionId
  path : String
  deriving DecidableEq

structure SourceMetadata where
  sourceKind : String
  commit : Option String
  differsFromLocal : Option Bool

def SourceMetadata.default : SourceMetadata := ⟨"", none, none⟩

structure CacheEntry where
  content : String
  hash : String
  stale : Bool
  storedAt : Nat
  metadata : Option SourceMetadata

/-- What a call finds around it: the clock, the disk, the hash function, and the order in which the
hash map is iterated. -/
structure Moment where
  now : Nat
  disk : Disk
  sha256Hex : String → String
  order : List (Key × CacheEntry) → List (Key × CacheEntry)
  order_perm : ∀ entries, (order entries).Perm entries

inductive FileError where
  | fileNotFound (detail : String)
  | io (detail : String)
  | invalidPath (detail : String)
  | notFound (path : String)
  | notAFile (path : String)

/-! ### The cache -/

/-- `CachedFileSystem`: a hash map, so that a key has one entry. -/
structure CachedFileSystem where
  entries : List (Key × CacheEntry)
  distinct : (entries.map Prod.fst).Nodup
  hotReloadTtl : Nat

namespace CachedFileSystem

theorem distinct_nil : (map Prod.fst ([] : List (Key × CacheEntry))).Nodup := nodup_nil

def new (hotReloadTtl : Nat) : CachedFileSystem := ⟨[], distinct_nil, hotReloadTtl⟩

section
variable (fs : CachedFileSystem)
include fs

theorem distinct_map (change : Key → CacheEntry → CacheEntry) :
    ((fs.entries.map fun e => (e.1, change e.1 e.2)).map Prod.fst).Nodup := by
  rw [map_map]
  exact fs.distinct

theorem distinct_filter (keep : Key × CacheEntry → Bool) :
    ((fs.entries.filter keep).map Prod.fst).Nodup :=
  fs.distinct.sublist (filter_sublist.map Prod.fst)

theorem distinct_insert (key : Key) (entry : CacheEntry) :
    ((fs.entries.filter (·.1 ≠ key) ++ [(key, entry)]).map Prod.fst).Nodup := by
  rw [map_append, nodup_append]
  refine ⟨fs.distinct_filter _, nodup_singleton key, ?_⟩
  intro k mem k' isKey same
  obtain ⟨e, kept, rfl⟩ := mem_map.mp mem
  have other := (mem_filter.mp kept).2
  rw [map_singleton, mem_singleton] at isKey
  exact absurd (same.trans isKey) (by simpa using other)

end

variable (fs : CachedFileSystem)

def mapEntries (change : Key → CacheEntry → CacheEntry) : CachedFileSystem :=
  ⟨fs.entries.map fun e => (e.1, change e.1 e.2), fs.distinct_map change, fs.hotReloadTtl⟩

def retain (keep : Key × CacheEntry → Bool) : CachedFileSystem :=
  ⟨fs.entries.filter keep, fs.distinct_filter keep, fs.hotReloadTtl⟩

def insert (key : Key) (entry : CacheEntry) : CachedFileSystem :=
  ⟨fs.entries.filter (·.1 ≠ key) ++ [(key, entry)], fs.distinct_insert key entry, fs.hotReloadTtl⟩

/-- Has the time of a fresh entry run out? -/
def expired (now : Nat) (path : String) (key : Key) (entry : CacheEntry) :
    Bool :=
  key.path = path && !entry.stale && decide (now - entry.storedAt > fs.hotReloadTtl)

def checkTtlExpiry (now : Nat) (path : String) : CachedFileSystem :=
  fs.mapEntries fun key entry =>
    if fs.expired now path key entry then { entry with stale := true } else entry

def find (m : Moment) (path : String) : Option (Key × CacheEntry) :=
  (m.order fs.entries).find? (·.1.path = path)

def readDisk (disk : Disk) (path : String) : Except FileError String :=
  match disk.readToString path with
  | .ok content => .ok content
  | .error .notFound => .error (.fileNotFound ("File not found: " ++ path))
  | .error (.other detail) => .error (.io ("Failed to read '" ++ path ++ "': " ++ detail))

/-- The two first phases of `read_to_string`: entries of the path whose time has run out are marked. -/
def expire (now : Nat) (path : String) : CachedFileSystem :=
  if fs.entries.any fun e => fs.expired now path e.1 e.2 then fs.checkTtlExpiry now path else fs

/-- The last phase: the cache, then the disk. -/
def lookUp (m : Moment) (path : String) : Except FileError String :=
  match fs.find m path with
  | some (_, entry) => .ok entry.content
  | none => readDisk m.disk path

/-- `read_to_string`: what is read, and the file system after it. -/
def readToString (m : Moment) (path : String) :
    Except FileError String × CachedFileSystem :=
  ((fs.expire m.now path).lookUp m path, fs.expire m.now path)

/-- `exists`. -/
def isAvailable (m : Moment) (path : String) : Bool :=
  (fs.find m path).isSome || m.disk.isPresent path

def storeWithMetadata (m : Moment) (key : Key) (content : String)
    (metadata : SourceMetadata) : CachedFileSystem :=
  fs.insert key ⟨content, m.sha256Hex content, false, m.now, some metadata⟩

def store (m : Moment) (key : Key) (content : String) : CachedFileSystem :=
  fs.storeWithMetadata m key content .default

/-- The hash that a client has sent for a path; of several the last. -/
def clientHash (hashes : List (String × String)) (path : String) : Option String :=
  (hashes.reverse.find? (·.1 = path)).map Prod.snd

def confirmed (now : Nat) (connection : ConnectionId) (hashes : List (String × String)) (key : Key)
    (entry : CacheEntry) : CacheEntry :=
  if key.connection = connection ∧ clientHash hashes key.path = some entry.hash then
    { entry with stale := false, storedAt := now }
  else entry

def refuted (connection : ConnectionId) (hashes : List (String × String)) (e : Key × CacheEntry) :
    Bool :=
  e.1.connection = connection && (clientHash hashes e.1.path).any (· ≠ e.2.hash)

/-- `validate_hashes`: the evicted paths, and the file system after it. -/
def validateHashes (m : Moment) (connection : ConnectionId)
    (hashes : List (String × String)) : List String × CachedFileSystem :=
  (((m.order fs.entries).filter (refuted connection hashes)).map (·.1.path),
    (fs.retain fun e => !refuted connection hashes e).mapEntries (confirmed m.now connection hashes))

def markStale (connection : ConnectionId) : CachedFileSystem :=
  fs.mapEntries fun key entry =>
    if key.connection = connection then { entry with stale := true } else entry

def clearConnection (connection : ConnectionId) : CachedFileSystem :=
  fs.retain (·.1.connection ≠ connection)

end CachedFileSystem

/-! ### File sources -/

structure FetchResult where
  content : String
  metadata : SourceMetadata

/-- `FileSource`; what it answers may change with the time. -/
structure FileSource where
  name : String
  fetch : Nat → Key → Except String (Option FetchResult)

inductive SourceKind where
  | controlPlane | bridge | agent | disk

def SourceKind.asStr : SourceKind → String
  | controlPlane => "control_plane"
  | bridge => "bridge"
  | agent => "agent"
  | disk => "disk"

/-- `FileSourceChain::new`: the available sources in the order of their priority. -/
def orderedSources (available : List FileSource) (priority : List SourceKind) : List FileSource :=
  priority.filterMap fun kind => available.find? (·.name = kind.asStr)

def fetchFirst (sources : List FileSource) (now : Nat) (key : Key) : Option FetchResult :=
  sources.findSome? fun source =>
    match source.fetch now key with
    | .ok result => result
    | .error _ => none

/-! ### File inspection -/

def maxPathLength : Nat := 4096

def maxPathComponentLength : Nat := 255

/-- `FileInspectionRequest`, without what the analysis of the contents uses. -/
structure FileInspectionRequest where
  filePath : String
  workspaceRoot : Option String

def resolveFilePath (request : FileInspectionRequest) : String :=
  if request.filePath.toList.head? = some '/' then request.filePath
  else match request.workspaceRoot with
    | none => request.filePath
    | some root =>
      if root = "" ∨ root.toList.getLast? = some '/' then root ++ request.filePath
      else root ++ "/" ++ request.filePath

/-- The parts of a path between slashes of either kind. -/
def pathComponents (path : String) : List String :=
  ((Text.splitChars '/' path.toList).flatMap (Text.splitChars '\\')).map String.ofList

def validatePathSyntax (path : String) : Except FileError Unit :=
  if path.utf8ByteSize > maxPathLength then
    .error (.invalidPath ("Path too long: " ++ toString path.utf8ByteSize ++ " chars (max " ++
      toString maxPathLength ++ ")"))
  else if '\x00' ∈ path.toList then .error (.invalidPath "Invalid path: contains null byte")
  else match (pathComponents path).find? (·.utf8ByteSize > maxPathComponentLength) with
    | some component => .error (.invalidPath ("Path component too long: " ++
        toString component.utf8ByteSize ++ " chars (max " ++ toString maxPathComponentLength ++ ")"))
    | none => .ok ()

def validateFilePath (disk : Disk) (path : String) : Except FileError String := do
  validatePathSyntax path
  if disk.isPresent path then
    match disk.canonicalize path with
    | .error detail => .error (.invalidPath ("Cannot resolve path '" ++ path ++ "': " ++ detail))
    | .ok canonical => if disk.isFile canonical then .ok canonical else .error (.notAFile canonical)
  else .error (.notFound path)

/-- The path that an inspection reads, chosen before it reads (`inspect`). -/
def inspectedPath (fs : CachedFileSystem) (m : Moment) (path : String) : Except FileError String :=
  if fs.isAvailable m path then (validatePathSyntax path).map fun _ => path
  else validateFilePath m.disk path

/-! ### One connection at a path -/

/-- **Every entry of a path belongs to one connection.** -/
def Alone (fs : CachedFileSystem) (key : Key) : Prop := ∀ e ∈ fs.entries, e.1.path = key.path → e.1 = key

instance (fs : CachedFileSystem) (key : Key) : Decidable (Alone fs key) :=
  inferInstanceAs (Decidable (∀ _ ∈ _, _))

theorem Alone.find {fs : CachedFileSystem} {key : Key} (alone : Alone fs key) (m : Moment) :
    fs.find m key.path = fs.entries.find? (·.1 = key) := by
  have sound : ∀ e, fs.find m key.path = some e → e ∈ fs.entries ∧ e.1 = key := by
    intro e found
    have mem := (m.order_perm fs.entries).mem_iff.mp (mem_of_find?_eq_some found)
    have isPath : e.1.path = key.path := by simpa using find?_some found
    exact ⟨mem, alone e mem isPath⟩
  cases found : fs.entries.find? (·.1 = key) with
  | none =>
    rw [Option.eq_none_iff_forall_ne_some]
    intro e isFirst
    obtain ⟨mem, isKey⟩ := sound e isFirst
    have noKey := find?_eq_none.mp found e mem
    exact absurd isKey (by simpa using noKey)
  | some e =>
    have mem := mem_of_find?_eq_some found
    have isKey : e.1 = key := by simpa using find?_some found
    cases first : fs.find m key.path with
    | none =>
      have noPath := find?_eq_none.mp first e ((m.order_perm fs.entries).mem_iff.mpr mem)
      exact absurd (congrArg Key.path isKey) (by simpa using noPath)
    | some other =>
      obtain ⟨otherInside, otherKey⟩ := sound other first
      rw [inj_on_of_nodup_map fs.distinct otherInside mem (otherKey.trans isKey.symm)]

end Detrix.Files
