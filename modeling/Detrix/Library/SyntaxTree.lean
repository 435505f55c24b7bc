/-
**Concrete syntax trees and their preorder walk.**

A node has a kind, the label of its field in the parent, its source text and its children, over any
types of kinds and labels. A `Place` is a node together with the path that leads to it from the
root, which is what a visitor that looks at the parent of a node needs. `traverse` is the recursive preorder
walk with a state; `traverse_eq_foldl`: it is the fold of the visitor over the list `places`, so
that what a walk collects is read off that list (`mem_traverse_iff`). `parent_mem_places`: the list
is closed under going to the parent.
-/

import Mathlib.Data.List.Basic

namespace Detrix.Library.SyntaxTree

open List

/-- A node of a concrete syntax tree: kind, field label in its parent, text and children. -/
inductive Node (κ φ : Type) where
  | mk (kind : κ) (field : Option φ) (text : String) (children : List (Node κ φ))

variable {κ φ : Type}

namespace Node

def kind : Node κ φ → κ
  | mk k _ _ _ => k

def field : Node κ φ → Option φ
  | mk _ f _ _ => f

def text : Node κ φ → String
  | mk _ _ t _ => t

def children : Node κ φ → List (Node κ φ)
  | mk _ _ _ cs => cs

def childByField [DecidableEq φ] (n : Node κ φ) (f : φ) : Option (Node κ φ) :=
  n.children.find? fun c => c.field = some f

/-- The index of the first child that fills the field. -/
def fieldIndex [DecidableEq φ] (n : Node κ φ) (f : φ) : Option Nat :=
  n.children.findIdx? fun c => c.field = some f

end Node

/-- **A node in its context**: its ancestors from the parent up, each with the index of the child
that the path takes. -/
structure Place (κ φ : Type) where
  node : Node κ φ
  ancestors : List (Node κ φ × Nat)

namespace Place

def kind (p : Place κ φ) : κ := p.node.kind

def text (p : Place κ φ) : String := p.node.text

def parent (p : Place κ φ) : Option (Place κ φ) :=
  match p.ancestors with
  | (ancestor, _) :: above => some ⟨ancestor, above⟩
  | [] => none

def parentKind (p : Place κ φ) : Option κ := p.parent.map Place.kind

def isFieldOfParent [DecidableEq φ] (p : Place κ φ) (f : φ) : Bool :=
  match p.ancestors with
  | (ancestor, index) :: _ => ancestor.fieldIndex f = some index
  | [] => false

end Place

/-! ### The walk -/

section Walk

variable {σ : Type}

mutual

/-- Visit a node, then its children from left to right. -/
def traverse (visit : Place κ φ → σ → σ) (ancestors : List (Node κ φ × Nat)) :
    Node κ φ → σ → σ
  | .mk kind field text children, state =>
    traverseChildren visit (.mk kind field text children) ancestors 0 children
      (visit ⟨.mk kind field text children, ancestors⟩ state)

/-- Visit the children from index `index` on. -/
def traverseChildren (visit : Place κ φ → σ → σ) (parent : Node κ φ)
    (ancestors : List (Node κ φ × Nat)) (index : Nat) : List (Node κ φ) → σ → σ
  | [], state => state
  | child :: rest, state =>
    traverseChildren visit parent ancestors (index + 1) rest
      (traverse visit ((parent, index) :: ancestors) child state)

end

mutual

def placesFrom (ancestors : List (Node κ φ × Nat)) : Node κ φ → List (Place κ φ)
  | .mk kind field text children =>
    ⟨.mk kind field text children, ancestors⟩ ::
      childPlaces (.mk kind field text children) ancestors 0 children

/-- The places below the children from index `index` on. -/
def childPlaces (parent : Node κ φ) (ancestors : List (Node κ φ × Nat)) (index : Nat) :
    List (Node κ φ) → List (Place κ φ)
  | [] => []
  | child :: rest =>
    placesFrom ((parent, index) :: ancestors) child ++
      childPlaces parent ancestors (index + 1) rest

end

def places (root : Node κ φ) : List (Place κ φ) :=
  placesFrom [] root

/-- `p` stands under a parent whose place is in the list. -/
def HasParentIn (p : Place κ φ) (list : List (Place κ φ)) : Prop :=
  ∃ q index above, p.ancestors = (q, index) :: above ∧ (⟨q, above⟩ : Place κ φ) ∈ list ∧
    q.children[index]? = some p.node

theorem HasParentIn.mono {p : Place κ φ} {small large : List (Place κ φ)}
    (parent : HasParentIn p small) (included : ∀ q ∈ small, q ∈ large) : HasParentIn p large := by
  obtain ⟨q, index, above, path, member, child⟩ := parent
  exact ⟨q, index, above, path, included _ member, child⟩

mutual

theorem parent_mem_placesFrom (ancestors : List (Node κ φ × Nat)) :
    ∀ (n : Node κ φ) (p : Place κ φ), p ∈ placesFrom ancestors n →
      p = ⟨n, ancestors⟩ ∨ HasParentIn p (placesFrom ancestors n)
  | .mk kind field text children, p, member => by
    rw [placesFrom, mem_cons] at member
    rcases member with here | below
    · exact .inl here
    · right
      rcases parent_mem_childPlaces (.mk kind field text children) ancestors 0 children p below with
        ⟨j, child, path⟩ | parent
      · rw [Nat.zero_add] at path
        exact ⟨_, j, ancestors, path, (.head _), child⟩
      · exact parent.mono fun q mem => .tail _ mem

theorem parent_mem_childPlaces (parent : Node κ φ) (ancestors : List (Node κ φ × Nat))
    (index : Nat) :
    ∀ (cs : List (Node κ φ)) (p : Place κ φ), p ∈ childPlaces parent ancestors index cs →
      (∃ j, cs[j]? = some p.node ∧ p.ancestors = (parent, index + j) :: ancestors) ∨
        HasParentIn p (childPlaces parent ancestors index cs)
  | [], p, member => by
    cases member
  | child :: rest, p, member => by
    rw [childPlaces, mem_append] at member
    rcases member with inFirst | inRest
    · rcases parent_mem_placesFrom ((parent, index) :: ancestors) child p inFirst with rfl | above
      · exact .inl ⟨0, rfl, rfl⟩
      · exact .inr (above.mono fun q mem => mem_append_left _ mem)
    · rcases parent_mem_childPlaces parent ancestors (index + 1) rest p inRest with
        ⟨j, found, path⟩ | above
      · left
        refine ⟨j + 1, by simpa using found, ?_⟩
        rw [path, Nat.add_assoc, Nat.add_comm 1 j]
      · exact .inr (above.mono fun q mem => mem_append_right _ mem)

end

/-- **The parent of a place is a place**, and the path takes the child at its index. -/
theorem parent_mem_places {root : Node κ φ} {p : Place κ φ} (member : p ∈ places root)
    {q : Node κ φ} {index : Nat} {above : List (Node κ φ × Nat)}
    (path : p.ancestors = (q, index) :: above) :
    (⟨q, above⟩ : Place κ φ) ∈ places root ∧ q.children[index]? = some p.node := by
  rcases parent_mem_placesFrom [] root p member with rfl | ⟨q', index', above', path', mem, child⟩
  · cases path
  · rw [path] at path'
    obtain ⟨⟨rfl, rfl⟩, rfl⟩ : (q = q' ∧ index = index') ∧ above = above' := by
      simpa using path'
    exact ⟨mem, child⟩

theorem childByField_of_fieldIndex [DecidableEq φ] {q n : Node κ φ} {index : Nat} {f : φ}
    (found : q.fieldIndex f = some index) (child : q.children[index]? = some n) :
    q.childByField f = some n := by
  unfold Node.fieldIndex at found
  unfold Node.childByField
  rw [findIdx?_eq_some_iff_getElem] at found
  obtain ⟨bound, labelled, first⟩ := found
  rw [getElem?_eq_getElem bound, Option.some.injEq] at child
  rw [find?_eq_some_iff_getElem]
  exact ⟨child ▸ labelled, index, bound, child, fun j before => by simpa using first j before⟩

mutual

theorem traverse_eq_foldl_from (visit : Place κ φ → σ → σ) (ancestors : List (Node κ φ × Nat)) :
    ∀ (n : Node κ φ) (state : σ),
      traverse visit ancestors n state =
        (placesFrom ancestors n).foldl (fun s p => visit p s) state
  | .mk kind field text children, state => by
    exact traverseChildren_eq_foldl visit _ ancestors 0 children _

theorem traverseChildren_eq_foldl (visit : Place κ φ → σ → σ) (parent : Node κ φ)
    (ancestors : List (Node κ φ × Nat)) (index : Nat) :
    ∀ (cs : List (Node κ φ)) (state : σ),
      traverseChildren visit parent ancestors index cs state =
        (childPlaces parent ancestors index cs).foldl (fun s p => visit p s) state
  | [], state => by rw [traverseChildren, childPlaces, foldl_nil]
  | child :: rest, state => by
    rw [traverseChildren, childPlaces, foldl_append,
      traverse_eq_foldl_from visit ((parent, index) :: ancestors) child state]
    exact traverseChildren_eq_foldl visit parent ancestors (index + 1) rest _

end

section
variable (visit : Place κ φ → σ → σ)
include visit

/-- **A walk is a fold over the places.** -/
theorem traverse_eq_foldl (root : Node κ φ) (state : σ) :
    traverse visit [] root state = (places root).foldl (fun s p => visit p s) state :=
  traverse_eq_foldl_from visit [] root state

/-- **What a walk collects.** If one visit adds to a component exactly what `adds` says, the walk
adds what it says at some place. -/
theorem mem_traverse_iff {α : Type} (component : σ → List α) (adds : Place κ φ → α → Prop)
    (step : ∀ p s a, a ∈ component (visit p s) ↔ a ∈ component s ∨ adds p a) (root : Node κ φ)
    (state : σ) (a : α) :
    a ∈ component (traverse visit [] root state) ↔
      a ∈ component state ∨ ∃ p ∈ places root, adds p a := by
  rw [traverse_eq_foldl]
  induction places root generalizing state with
  | nil => simp
  | cons p ps ih =>
    rw [foldl_cons, ih, step, or_assoc]
    simp

/-- A property that every visit keeps holds after the walk. -/
theorem traverse_invariant (Inv : σ → Prop) (step : ∀ p s, Inv s → Inv (visit p s))
    (root : Node κ φ) (state : σ) (start : Inv state) :
    Inv (traverse visit [] root state) := by
  rw [traverse_eq_foldl]
  exact foldlRecOn _ _ start fun s inv p _ => step p s inv

end

end Walk

end Detrix.Library.SyntaxTree
