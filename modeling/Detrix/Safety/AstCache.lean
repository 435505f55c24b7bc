/-
**The cache of analyzed expressions.**

A full cache drops a tenth of its capacity, the entries that were accessed longest ago; of a capacity
below ten that is nothing.

- `evictOldest_recent`: what stays was accessed no earlier than what is dropped.
- `bounded_iff`: the cache stays within its capacity exactly if that is ten or more.
-/

import Detrix.Library.Run
import Detrix.Safety.TreeSitter

namespace Detrix.Safety

open Library List

structure CacheEntry where
  result : TreeSitterResult
  lastAccess : Nat

/-- The entries with their keys, each of which is there once, and the counters. -/
structure TreeSitterCache where
  cache : List (String × CacheEntry)
  hits : Nat
  misses : Nat

namespace TreeSitterCache

def new : TreeSitterCache := ⟨[], 0, 0⟩

def accessCounter (s : TreeSitterCache) : Nat := s.hits + s.misses

variable (maxEntries : Nat)

def older (a b : String × CacheEntry) : Bool := a.2.lastAccess ≤ b.2.lastAccess

/-- What `evict_oldest` leaves of the entries. -/
def evictOldest (rows : List (String × CacheEntry)) : List (String × CacheEntry) :=
  if maxEntries / 10 = 0 then rows
  else (rows.mergeSort older).drop (maxEntries / 10)

/-- `get_or_insert`, with the key and what would be computed. -/
def getOrInsert (s : TreeSitterCache) (call : String × TreeSitterResult) :
    TreeSitterResult × TreeSitterCache :=
  match s.cache.lookup call.1 with
  | some entry =>
    let hit := { s with hits := s.hits + 1 }
    (entry.result, { hit with cache := s.cache.map fun row =>
      if row.1 = call.1 then (row.1, { row.2 with lastAccess := hit.accessCounter }) else row })
  | none =>
    let missed := { s with misses := s.misses + 1 }
    let rows := if maxEntries ≤ s.cache.length then evictOldest maxEntries s.cache else s.cache
    (call.2, { missed with cache := rows ++ [(call.1, ⟨call.2, missed.accessCounter⟩)] })

def after (calls : List (String × TreeSitterResult)) : TreeSitterCache :=
  Run.after (fun s call => (s.getOrInsert maxEntries call).2) new calls

/-- **The cache is bounded**, and an entry that stays was accessed no earlier than one that goes. -/
structure Bounded : Prop where
  size : ∀ calls, (after maxEntries calls).cache.length ≤ maxEntries
  recent : ∀ calls call, ∀ gone ∈ (after maxEntries calls).cache,
    ∀ stays ∈ (after maxEntries calls).cache,
      let next := ((after maxEntries calls).getOrInsert maxEntries call).2.cache
      gone.1 ∉ next.map (·.1) → stays ∈ next → gone.2.lastAccess ≤ stays.2.lastAccess

variable {maxEntries} {rows : List (String × CacheEntry)} {gone stays : String × CacheEntry}

theorem evictOldest_recent (there : gone ∈ rows) (dropped : gone ∉ evictOldest maxEntries rows)
    (kept : stays ∈ evictOldest maxEntries rows) : gone.2.lastAccess ≤ stays.2.lastAccess := by
  unfold evictOldest at dropped kept
  split at kept
  · rw [if_pos ‹_›] at dropped
    exact absurd there dropped
  rw [if_neg ‹_›] at dropped
  have sorted := @pairwise_mergeSort _ older (by simp [older]; omega) (by simp [older]; omega) rows
  have early : gone ∈ rows.mergeSort older := mem_mergeSort.mpr there
  rw [← take_append_drop (maxEntries / 10) (mergeSort _ _)] at sorted early
  have first := (mem_append.mp early).resolve_right dropped
  exact of_decide_eq_true ((pairwise_append.mp sorted).2.2 gone first stays kept)

theorem getOrInsert_length (large : 10 ≤ maxEntries) (s : TreeSitterCache)
    (call : String × TreeSitterResult) (fits : s.cache.length ≤ maxEntries) :
    (s.getOrInsert maxEntries call).2.cache.length ≤ maxEntries := by
  have evicted : (evictOldest maxEntries s.cache).length = s.cache.length - maxEntries / 10 := by
    rw [evictOldest, if_neg (by omega), length_drop, length_mergeSort]
  unfold getOrInsert
  split
  · simpa using fits
  · simp only [length_append, length_singleton]
    split <;> omega

theorem getOrInsert_recent (s : TreeSitterCache) (call : String × TreeSitterResult)
    (there : gone ∈ s.cache) (staysThere : stays ∈ s.cache)
    (dropped : gone.1 ∉ (s.getOrInsert maxEntries call).2.cache.map (·.1))
    (kept : stays ∈ (s.getOrInsert maxEntries call).2.cache) :
    gone.2.lastAccess ≤ stays.2.lastAccess := by
  unfold getOrInsert at dropped kept
  cases found : s.cache.lookup call.1 with
  | some entry =>
    -- on a hit every key stays
    refine absurd ?_ dropped
    simp only [found, map_map]
    exact mem_map.mpr ⟨gone, there, by simp only [Function.comp]; split <;> rfl⟩
  | none =>
    simp only [found, mem_append, mem_singleton, map_append, not_or] at dropped kept
    have kept := kept.resolve_right fun isNew => by
      have other := lookup_eq_none_iff.mp found stays staysThere
      simp [isNew] at other
    have dropped := fun mem => dropped.1 (mem_map_of_mem mem)
    split at kept
    next full =>
      rw [if_pos full] at dropped
      exact evictOldest_recent there dropped kept
    next room =>
      rw [if_neg room] at dropped
      exact absurd there dropped

/-- **The cache is bounded exactly if its capacity is ten or more.** -/
theorem bounded_iff (maxEntries : Nat) : Bounded maxEntries ↔ 10 ≤ maxEntries := by
  constructor
  · intro bounded
    by_contra small
    have keys (n : Nat) (few : n < 10) :
        n < (after n ((range (n + 1)).map fun k => (toString k, .safe))).cache.length := by
      revert n
      decide
    exact absurd (bounded.size _) (Nat.not_le.mpr (keys maxEntries (Nat.not_le.mp small)))
  · intro large
    refine ⟨fun calls => ?_, fun calls call gone there stays staysThere dropped kept =>
      getOrInsert_recent _ call there staysThere dropped kept⟩
    exact Run.invariant_always _ (getOrInsert_length large) calls new (Nat.zero_le _)

theorem small_cache_grows : (after 1 [("a", .safe), ("b", .safe), ("c", .safe)]).cache.length = 3 := by
  decide

end TreeSitterCache

end Detrix.Safety
