/-
**The purity cache over a history of edits.**

A verdict is stored under the function, the path of its file and the hash of that file. The analysis
that gives the verdict reads files one after the other while they may be edited, the hash is taken
when it has ended, and the depth limit of the configuration is not part of the key.

- `sound_step`: what one event preserves, under the condition on it.
- `cached_verdict_fresh`: in a history in which no analysis reads a file that is edited, other than
  its own, no file is edited under an analysis that has read it, and the depth limit is kept while
  verdicts are stored, a cached verdict is the verdict of a fresh analysis.
-/

import Detrix.Library.Run
import Detrix.Library.Text
import Detrix.Lsp.CallHierarchy

namespace Detrix.Lsp

open Detrix.Core Library Option

/-! ### Analyses that read files -/

/-- The contents of the files; none where there is no file or it cannot be read. -/
abbrev Files : Type := String → Option String

/-- An analysis in progress: it has ended, with a result or with an error, or it reads a file and
goes on with what it found. -/
inductive Reading where
  | ret (result : Option PurityAnalysis)
  | ask (path : String) (next : Option String → Reading)

/-- The result when all files are read from one state. -/
def Reading.run (files : Files) : Reading → Option PurityAnalysis
  | .ret result => result
  | .ask path next => (next (files path)).run files

abbrev Analyzer : Type := String → String → Nat → Reading

/-! ### The cache -/

/-- `LspConfig`, as far as the cache reads it. -/
structure LspConfig where
  cacheEnabled : Bool
  maxCallDepth : Nat

structure PurityCacheKey where
  functionName : String
  filePath : String
  contentHash : String
  deriving DecidableEq

structure PurityCacheEntry where
  analysis : PurityAnalysis
  maxDepth : Nat

abbrev CacheTable : Type := List (PurityCacheKey × PurityCacheEntry)

def CacheTable.get (table : CacheTable) (key : PurityCacheKey) : Option PurityCacheEntry :=
  (table.find? fun row => row.1 = key).map (·.2)

/-- `PurityCache::set`: a row of the same key is replaced. -/
def CacheTable.set (table : CacheTable) (key : PurityCacheKey) (entry : PurityCacheEntry) :
    CacheTable :=
  (key, entry) :: table.filter fun row => row.1 ≠ key

section Cache

variable (hash : String → String)

def computeFileHash (files : Files) (path : String) : Option String := (files path).map hash

def getCached (cache : Option CacheTable) (config : LspConfig) (files : Files)
    (functionName filePath : String) : Option PurityAnalysis :=
  if !config.cacheEnabled then none
  else do
    let table ← cache
    let contentHash ← computeFileHash hash files filePath
    let entry ← table.get ⟨functionName, filePath, contentHash⟩
    return entry.analysis

/-- The key and the entry that `cache_result` stores, if it stores any. -/
def cacheRow (cache : Option CacheTable) (config : LspConfig) (files : Files)
    (functionName filePath : String) (analysis : PurityAnalysis) :
    Option (PurityCacheKey × PurityCacheEntry) :=
  if !config.cacheEnabled || cache.isNone then none
  else (computeFileHash hash files filePath).map fun contentHash =>
    (⟨functionName, filePath, contentHash⟩, ⟨analysis, config.maxCallDepth⟩)

end Cache

/-! ### Histories -/

/-- What a running analysis is at: reading files, or about to store its row. -/
inductive Phase where
  | reading (rest : Reading)
  | storing (key : PurityCacheKey) (entry : PurityCacheEntry)

def Phase.isReading : Phase → Bool
  | .reading _ => true
  | .storing _ _ => false

/-- A running analysis, with the configuration of its analyzer and the files it has read. -/
structure Job where
  functionName : String
  filePath : String
  config : LspConfig
  read : List String
  phase : Phase

structure CacheState where
  files : Files
  config : LspConfig
  cache : Option CacheTable
  jobs : List Job

/-- What can happen. An analysis is given up on a timeout, and when it or the cache fails. -/
inductive CacheEvent where
  | edit (path : String) (content : Option String)
  | configure (config : LspConfig)
  /-- An analysis is asked for; the lookup may fail. -/
  | request (functionName filePath : String) (lookup : Bool)
  | readNext (job : Nat)
  /-- The first half of `cache_result`. -/
  | hashFile (job : Nat)
  /-- The second half. -/
  | store (job : Nat)
  | giveUp (job : Nat)
  | forget (keep : PurityCacheKey → Bool)

variable {s : CacheState}

section History

variable (hash : String → String) (analyzer : Analyzer)

def Job.readNext (files : Files) (job : Job) : Job :=
  match job.phase with
  | .reading (.ask path next) =>
    { job with read := path :: job.read, phase := .reading (next (files path)) }
  | _ => job

/-- A running analysis that has ended takes the hash of its file; without a row to store it is
over. -/
def Job.hashFile (s : CacheState) (job : Job) : Option Job :=
  match job.phase with
  | .reading (.ret (some analysis)) =>
    (cacheRow hash s.cache job.config s.files job.functionName job.filePath analysis).map
      fun row => { job with phase := .storing row.1 row.2 }
  | .reading (.ret none) => none
  | _ => some job

def CacheState.setJob (s : CacheState) (i : Nat) (job : Option Job) : CacheState :=
  match job with
  | some job => { s with jobs := s.jobs.set i job }
  | none => { s with jobs := s.jobs.eraseIdx i }

/-- **One event.** -/
def cacheStep (s : CacheState) : CacheEvent → CacheState
  | .edit path content => { s with files := fun p => if p = path then content else s.files p }
  | .configure config => { s with config }
  | .request functionName filePath lookup =>
    -- `analyze_with_timeout` asks the cache first
    if lookup && (getCached hash s.cache s.config s.files functionName filePath).isSome then s
    else
      { s with jobs := s.jobs ++ [⟨functionName, filePath, s.config, [],
          .reading (analyzer functionName filePath s.config.maxCallDepth)⟩] }
  | .readNext i =>
    match s.jobs[i]? with
    | some job => s.setJob i (some (job.readNext s.files))
    | none => s
  | .hashFile i =>
    match s.jobs[i]? with
    | some job => s.setJob i (job.hashFile hash s)
    | none => s
  | .store i =>
    match s.jobs[i]? with
    | some ⟨_, _, _, _, .storing key entry⟩ =>
      { s.setJob i none with cache := s.cache.map fun table => table.set key entry }
    | _ => s
  | .giveUp i => s.setJob i none
  | .forget keep => { s with cache := s.cache.map fun table => table.filter fun row => keep row.1 }

/-- A fresh analysis of the present files under the present configuration. -/
def CacheState.fresh (s : CacheState) (functionName filePath : String) : Option PurityAnalysis :=
  (analyzer functionName filePath s.config.maxCallDepth).run s.files

/-- **No cached verdict is stale.** -/
def NeverStale (s : CacheState) : Prop :=
  ∀ functionName filePath analysis,
    getCached hash s.cache s.config s.files functionName filePath = some analysis →
    ∃ now, s.fresh analyzer functionName filePath = some now ∧ now.level = analysis.level

/-! ### The condition -/

/-- The analysis is reading, and has read its own file at `path`. -/
def Job.Holds (job : Job) (path : String) : Prop :=
  job.filePath = path ∧ path ∈ job.read ∧ job.phase.isReading = true

/-- The next file that the analysis reads is its own or a fixed one. -/
def Job.StaysWithin (fixed : String → Prop) (job : Job) : Prop :=
  match job.phase with
  | .reading (.ask path _) => path = job.filePath ∨ fixed path
  | _ => True

/-- **The condition on one event**, for a set of files that stay as they are: an edit is of another
file, which no running analysis of that file has read; an analysis reads its own file or one of
those; the depth limit is changed only while nothing is stored or running. -/
def Undisturbed (fixed : String → Prop) (s : CacheState) : CacheEvent → Prop
  | .edit path _ => ¬ fixed path ∧ ∀ job ∈ s.jobs, ¬ job.Holds path
  | .configure config => config.maxCallDepth = s.config.maxCallDepth ∨
      s.jobs = [] ∧ s.cache.getD [] = []
  | .readNext i => ∀ job ∈ s.jobs[i]?, job.StaysWithin fixed
  | _ => True

/-! ### The invariant -/

variable (fixed : String → Prop)

def Agrees (a b : Files) : Prop := ∀ path, fixed path → a path = b path

/-- The verdict is that of an analysis wherever the file has the hash of the key. -/
def Valid (s : CacheState) (key : PurityCacheKey) (analysis : PurityAnalysis) : Prop :=
  ∀ files : Files, Agrees fixed files s.files →
    computeFileHash hash files key.filePath = some key.contentHash →
    (analyzer key.functionName key.filePath s.config.maxCallDepth).run files = some analysis

/-- A running analysis continues the analysis of the present files. -/
def JobSound (s : CacheState) (job : Job) : Prop :=
  job.config.maxCallDepth = s.config.maxCallDepth ∧
    match job.phase with
    | .reading rest => ∀ files : Files, Agrees fixed files s.files →
        (job.filePath ∈ job.read → files job.filePath = s.files job.filePath) →
        (analyzer job.functionName job.filePath s.config.maxCallDepth).run files = rest.run files
    | .storing key entry => Valid hash analyzer fixed s key entry.analysis

/-- **The invariant of a history.** -/
structure CacheSound (s : CacheState) : Prop where
  rows : ∀ table, s.cache = some table → ∀ row ∈ table,
    Valid hash analyzer fixed s row.1 row.2.analysis
  jobs : ∀ job ∈ s.jobs, JobSound hash analyzer fixed s job

variable {hash analyzer fixed}

theorem CacheTable.mem_of_get {table : CacheTable} {key : PurityCacheKey} {entry : PurityCacheEntry}
    (found : table.get key = some entry) : (key, entry) ∈ table := by
  obtain ⟨row, isRow, rfl⟩ := map_eq_some_iff.mp found
  have same : row.1 = key := by simpa using List.find?_some isRow
  rw [← same]
  exact List.mem_of_find?_eq_some isRow

theorem CacheSound.neverStale (sound : CacheSound hash analyzer fixed s) :
    NeverStale hash analyzer s := by
  intro functionName filePath analysis cached
  unfold getCached at cached
  split at cached
  · simp at cached
  · simp only [bind_eq_bind, bind_eq_some_iff, pure_def, some.injEq] at cached
    obtain ⟨table, isTable, contentHash, isHash, entry, found, rfl⟩ := cached
    have valid := sound.rows table isTable _ (CacheTable.mem_of_get found)
    exact ⟨entry.analysis, valid s.files (fun _ _ => rfl) isHash, rfl⟩

/-! ### One event -/

/-- The rows and the running analyses depend on the files and on the depth limit. -/
theorem Valid.of_files {t : CacheState} {key : PurityCacheKey} {analysis : PurityAnalysis}
    (agrees : Agrees fixed t.files s.files) (depth : t.config.maxCallDepth = s.config.maxCallDepth)
    (valid : Valid hash analyzer fixed s key analysis) :
    Valid hash analyzer fixed t key analysis := by
  intro files same hashed
  rw [depth]
  exact valid files (fun path isFixed => (same path isFixed).trans (agrees path isFixed)) hashed

variable {job : Job}

theorem JobSound.of_files {t : CacheState} (agrees : Agrees fixed t.files s.files)
    (depth : t.config.maxCallDepth = s.config.maxCallDepth)
    (kept : job.phase.isReading = true → job.filePath ∈ job.read →
      t.files job.filePath = s.files job.filePath) (sound : JobSound hash analyzer fixed s job) :
    JobSound hash analyzer fixed t job := by
  refine ⟨sound.1.trans depth.symm, ?_⟩
  have phase := sound.2
  cases isPhase : job.phase with
  | reading rest =>
    rw [isPhase] at phase
    intro files same own
    rw [depth]
    refine phase files (fun path isFixed => (same path isFixed).trans (agrees path isFixed)) ?_
    exact fun hasRead => (own hasRead).trans (kept (by rw [isPhase]; rfl) hasRead)
  | storing key entry =>
    rw [isPhase] at phase
    exact phase.of_files agrees depth

theorem sound_edit {path : String} {text : Option String}
    (sound : CacheSound hash analyzer fixed s) (quiet : Undisturbed fixed s (.edit path text)) :
    CacheSound hash analyzer fixed (cacheStep hash analyzer s (.edit path text)) := by
  have other : ∀ p, p ≠ path →
      (cacheStep hash analyzer s (.edit path text)).files p = s.files p := fun p apart =>
    if_neg apart
  have agrees : Agrees fixed (cacheStep hash analyzer s (.edit path text)).files s.files :=
    fun p isFixed => other p fun same => quiet.1 (same ▸ isFixed)
  refine ⟨fun table isTable row mem => ?_, fun job mem => ?_⟩
  · exact (sound.rows table isTable row mem).of_files agrees rfl
  · refine (sound.jobs job mem).of_files agrees rfl fun isReading hasRead => ?_
    exact other _ fun same => quiet.2 job mem ⟨same, same ▸ hasRead, isReading⟩

theorem sound_configure {config : LspConfig} (sound : CacheSound hash analyzer fixed s)
    (quiet : Undisturbed fixed s (.configure config)) :
    CacheSound hash analyzer fixed (cacheStep hash analyzer s (.configure config)) := by
  rcases quiet with depth | ⟨noJobs, noRows⟩
  · have agrees : Agrees fixed (cacheStep hash analyzer s (.configure config)).files s.files :=
      fun _ _ => rfl
    refine ⟨fun table isTable row mem => ?_, fun job mem => ?_⟩
    · exact (sound.rows table isTable row mem).of_files agrees depth
    · exact (sound.jobs job mem).of_files agrees depth fun _ _ => rfl
  · refine ⟨fun table isTable row mem => ?_, fun job mem => ?_⟩
    · have isTable : s.cache = some table := isTable
      rw [isTable, getD_some] at noRows
      rw [noRows] at mem
      cases mem
    · have none : job ∈ s.jobs := mem
      rw [noJobs] at none
      cases none

/-- An analysis that has read nothing is sound. -/
theorem sound_request (functionName filePath : String) (lookup : Bool)
    (sound : CacheSound hash analyzer fixed s) : CacheSound hash analyzer fixed
      (cacheStep hash analyzer s (.request functionName filePath lookup)) := by
  simp only [cacheStep]
  split
  · exact sound
  · refine ⟨sound.rows, fun job mem => ?_⟩
    rcases List.mem_append.mp mem with old | new
    · exact sound.jobs job old
    · rw [List.mem_singleton] at new
      subst new
      exact ⟨rfl, fun _ _ _ => rfl⟩

theorem CacheSound.setJob (sound : CacheSound hash analyzer fixed s) (i : Nat) {job : Option Job}
    (ok : ∀ new, job = some new → JobSound hash analyzer fixed s new) :
    CacheSound hash analyzer fixed (s.setJob i job) := by
  cases job with
  | none => exact ⟨sound.rows, fun job mem => sound.jobs job (List.mem_of_mem_eraseIdx mem)⟩
  | some new =>
    refine ⟨sound.rows, fun job mem => ?_⟩
    rcases List.mem_or_eq_of_mem_set mem with old | rfl
    · exact sound.jobs job old
    · exact ok job rfl

/-- A read of a file that the later edits leave alone: the analysis goes on as on any files that
agree with it. -/
theorem jobSound_readNext (sound : JobSound hash analyzer fixed s job)
    (within : job.StaysWithin fixed) :
    JobSound hash analyzer fixed s (job.readNext s.files) := by
  unfold Job.readNext
  split
  next path next isReading =>
    refine ⟨sound.1, fun files agrees own => ?_⟩
    have before := sound.2
    rw [isReading] at before
    have same : files path = s.files path := by
      unfold Job.StaysWithin at within
      rw [isReading] at within
      rcases within with rfl | isFixed
      · exact own (.head _)
      · exact agrees path isFixed
    rw [before files agrees fun hasRead => own (.tail _ hasRead), Reading.run, same]
  next => exact sound

theorem jobSound_hashFile (inj : Function.Injective hash) {new : Job}
    (sound : JobSound hash analyzer fixed s job) (hashed : job.hashFile hash s = some new) :
    JobSound hash analyzer fixed s new := by
  unfold Job.hashFile at hashed
  split at hashed
  next analysis isReading =>
    have before := sound.2
    rw [isReading] at before
    simp only [cacheRow, map_eq_some_iff] at hashed
    obtain ⟨row, isRow, rfl⟩ := hashed
    split at isRow
    · simp at isRow
    · obtain ⟨contentHash, isHash, rfl⟩ := map_eq_some_iff.mp isRow
      refine ⟨sound.1, fun files agrees here => ?_⟩
      have same : files job.filePath = s.files job.filePath :=
        map_injective inj (here.trans isHash.symm)
      exact before files agrees fun _ => same
  next => simp at hashed
  next => exact some.inj hashed ▸ sound

theorem sound_store (i : Nat) (sound : CacheSound hash analyzer fixed s) :
    CacheSound hash analyzer fixed (cacheStep hash analyzer s (.store i)) := by
  simp only [cacheStep]
  split
  next functionName filePath config read key entry isJob =>
    have valid : Valid hash analyzer fixed s key entry.analysis :=
      (sound.jobs _ (List.mem_of_getElem? isJob)).2
    refine ⟨fun table isTable row mem => ?_, (sound.setJob i (by simp)).jobs⟩
    obtain ⟨old, isOld, rfl⟩ := map_eq_some_iff.mp isTable
    rcases List.mem_cons.mp mem with rfl | kept
    · exact valid
    · exact sound.rows old isOld row (List.mem_filter.mp kept).1
  next => exact sound

/-- **One event keeps the invariant.** -/
theorem sound_step (inj : Function.Injective hash) (s : CacheState) (event : CacheEvent)
    (sound : CacheSound hash analyzer fixed s) (quiet : Undisturbed fixed s event) :
    CacheSound hash analyzer fixed (cacheStep hash analyzer s event) := by
  cases event with
  | edit path text => exact sound_edit sound quiet
  | configure config => exact sound_configure sound quiet
  | request functionName filePath lookup => exact sound_request functionName filePath lookup sound
  | readNext i =>
    simp only [cacheStep]
    split
    next job isJob =>
      refine sound.setJob i fun new isNew => ?_
      rw [← some.inj isNew]
      exact jobSound_readNext (sound.jobs job (List.mem_of_getElem? isJob)) (quiet job isJob)
    next => exact sound
  | hashFile i =>
    simp only [cacheStep]
    split
    next job isJob =>
      exact sound.setJob i fun new hashed =>
        jobSound_hashFile inj (sound.jobs job (List.mem_of_getElem? isJob)) hashed
    next => exact sound
  | store i => exact sound_store i sound
  | giveUp i =>
    simp only [cacheStep]
    exact sound.setJob i (by simp)
  | forget keep =>
    refine ⟨fun table isTable row mem => ?_, sound.jobs⟩
    obtain ⟨old, isOld, rfl⟩ := map_eq_some_iff.mp isTable
    exact sound.rows old isOld row (List.mem_filter.mp mem).1

/-- **Cached verdicts are fresh** in every undisturbed history that begins with an empty cache. -/
theorem cached_verdict_fresh (injective : Function.Injective hash) (fixed : String → Prop)
    (files : Files) (config : LspConfig) (hasCache : Bool) (events : List CacheEvent)
    (quiet : Run.Allowed (cacheStep hash analyzer) (Undisturbed fixed)
      ⟨files, config, if hasCache then some [] else none, []⟩ events) :
    NeverStale hash analyzer (Run.after (cacheStep hash analyzer)
      ⟨files, config, if hasCache then some [] else none, []⟩ events) := by
  have start : CacheSound hash analyzer fixed
      ⟨files, config, if hasCache then some [] else none, []⟩ := by
    refine ⟨fun table isTable row mem => ?_, nofun⟩
    cases hasCache with
    | true =>
      rw [← some.inj isTable] at mem
      cases mem
    | false => simp at isTable
  exact (Run.invariant_after _ (sound_step injective) events _ start quiet).neverStale

end History

/-! ### Stale verdicts, and a history without one -/

/-- `main` calls `helper`, and each of the two calls `os.remove` if the text of its file says so. -/
def textServer (own helper : String) : Server where
  outgoing item :=
    if item = mainItem then some (helperAt 10 :: removals own)
    else if item = helperAt 10 then some (removals helper)
    else some []
where
  removals (text : String) : List CallHierarchyItem :=
    if Text.contains text "os.remove" then [removeItem] else []

/-- The analysis of `main` reads its file and the file of its helper. -/
def textAnalyzer : Analyzer := fun _ path depth =>
  .ask path fun own => .ask "helper.py" fun helper =>
    .ret (some (analyzeItem (textServer (own.getD "") (helper.getD "")) classifyRemove depth mainItem))

/-- The state before an analysis, with harmless files. -/
def emptyCache (depth : Nat) : CacheState :=
  ⟨fun _ => some "return 1", ⟨true, depth⟩, some [], []⟩

instance (fixed : String → Prop) [DecidablePred fixed] (job : Job) :
    Decidable (job.StaysWithin fixed) := by
  unfold Job.StaysWithin
  split <;> infer_instance

instance (job : Job) (path : String) : Decidable (job.Holds path) :=
  inferInstanceAs (Decidable (_ ∧ _))

instance (fixed : String → Prop) [DecidablePred fixed] (s : CacheState) :
    ∀ event, Decidable (Undisturbed fixed s event)
  | .edit _ _ => inferInstanceAs (Decidable (_ ∧ _))
  | .configure _ =>
    have : Decidable (s.jobs = []) := decidable_of_iff _ List.isEmpty_iff
    inferInstanceAs (Decidable (_ ∨ _ ∧ _))
  | .readNext i => inferInstanceAs (Decidable (∀ job ∈ s.jobs[i]?, job.StaysWithin fixed))
  | .request _ _ _ | .hashFile _ | .store _ | .giveUp _ | .forget _ =>
    inferInstanceAs (Decidable True)

/-- The levels of the cached verdict and of a fresh one. -/
def servedLevels (s : CacheState) : Option (PurityLevel × PurityLevel) := do
  let cached ← getCached id s.cache s.config s.files "main" "main.py"
  let now ← s.fresh textAnalyzer "main" "main.py"
  return (cached.level, now.level)

theorem not_neverStale (old now : PurityLevel) (differ : old ≠ now)
    (served : servedLevels s = some (old, now)) : ¬ NeverStale id textAnalyzer s := by
  intro fresh
  simp only [servedLevels, bind_eq_bind, bind_eq_some_iff, pure_def,
    some.injEq, Prod.mk.injEq] at served
  obtain ⟨cached, isCached, has, isPresent, rfl, rfl⟩ := served
  obtain ⟨again, isAgain, level⟩ := fresh _ _ _ isCached
  rw [isPresent, some.injEq] at isAgain
  exact differ (level.symm.trans (isAgain ▸ rfl))

def analyzeMain : List CacheEvent :=
  [.request "main" "main.py" true, .readNext 0, .readNext 0, .hashFile 0, .store 0]

/-- **Stale verdicts**: the file of a called function is edited; the analyzed file is edited while
the analysis runs; the depth limit is raised. -/
theorem stale_verdict_served :
    ¬ NeverStale id textAnalyzer (Run.after (cacheStep id textAnalyzer) (emptyCache 10)
      (analyzeMain ++ [CacheEvent.edit "helper.py" (some "os.remove(path)")])) ∧
    ¬ NeverStale id textAnalyzer (Run.after (cacheStep id textAnalyzer) (emptyCache 10)
      [.request "main" "main.py" true, .readNext 0, .edit "main.py" (some "os.remove(path)"),
        .readNext 0, .hashFile 0, .store 0]) ∧
    ¬ NeverStale id textAnalyzer (Run.after (cacheStep id textAnalyzer) (emptyCache 0)
      (analyzeMain ++ [CacheEvent.configure ⟨true, 10⟩])) :=
  ⟨not_neverStale .pure .impure (by decide) (by decide),
    not_neverStale .pure .impure (by decide) (by decide),
    not_neverStale .unknown .pure (by decide) (by decide)⟩

/-- The verdict on `main` is served and fresh after its file has been edited and restored. -/
theorem restored_file_fresh :
    let s := Run.after (cacheStep id textAnalyzer) (emptyCache 10)
      (analyzeMain ++ [CacheEvent.edit "main.py" none, .edit "main.py" (some "return 1")])
    servedLevels s = some (.pure, .pure) ∧ NeverStale id textAnalyzer s := by
  refine ⟨by decide, ?_⟩
  refine cached_verdict_fresh Function.injective_id (· = "helper.py") (fun _ => some "return 1")
    ⟨true, 10⟩ true _ ?_
  exact ⟨trivial, by decide, by decide, trivial, trivial, by decide, by decide, trivial⟩

end Detrix.Lsp
