/-
**Structs of C.**

Members are placed one after the other, each at the next multiple of its alignment; the size of the
struct is a multiple of the greatest alignment.

- `place`, `finish`: where the members are, and where the last of them ends.
- `roundUp_eq_iff`: two alignments that lead to the same place.
- `finish_append`: a struct in two parts.
- `finish_packed`, `place_packed`: members that need no padding.
- `of_mem_place`: where a member cannot be.
-/

import Mathlib.Algebra.Order.Group.Nat
import Mathlib.Algebra.Ring.Nat
import Mathlib.Data.List.Basic

namespace Detrix.Library.CStruct

open List Nat

/-- The next multiple of `a`. -/
def roundUp (n a : Nat) : Nat := (n + (a - 1)) / a * a

theorem le_roundUp (n : Nat) {a : Nat} (pos : 0 < a) : n ≤ roundUp n a := by
  have whole := div_add_mod (n + (a - 1)) a
  have rest := mod_lt (n + (a - 1)) pos
  rw [mul_comm] at whole
  unfold roundUp
  omega

theorem roundUp_of_dvd {n a : Nat} (multiple : a ∣ n) : roundUp n a = n := by
  obtain ⟨k, rfl⟩ := multiple
  rcases Nat.eq_zero_or_pos a with rfl | pos
  · simp [roundUp]
  · rw [roundUp, mul_add_div pos, div_eq_of_lt (by omega), add_zero, mul_comm]

theorem dvd_roundUp (n a : Nat) : a ∣ roundUp n a := Nat.dvd_mul_left _ _

theorem roundUp_le {n a m : Nat} (pos : 0 < a) (multiple : a ∣ m) (le : n ≤ m) : roundUp n a ≤ m := by
  obtain ⟨k, rfl⟩ := multiple
  have less : n + (a - 1) < a * (k + 1) := by
    rw [mul_add]
    omega
  rw [roundUp, mul_comm]
  exact Nat.mul_le_mul_left a (Nat.le_of_lt_succ (Nat.div_lt_of_lt_mul less))

/-- **A greater alignment makes no difference** exactly where the place has it anyway. -/
theorem roundUp_eq_iff {n a b : Nat} (pos : 0 < b) (divides : a ∣ b) :
    roundUp n b = roundUp n a ↔ b ∣ roundUp n a := by
  have small : 0 < a := pos_of_dvd_of_pos divides pos
  refine ⟨fun same => same ▸ dvd_roundUp n b, fun multiple => le_antisymm ?_ ?_⟩
  · exact roundUp_le pos multiple (le_roundUp n small)
  · exact roundUp_le small (Nat.dvd_trans divides (dvd_roundUp n b)) (le_roundUp n pos)

/-- A member of a struct. -/
structure Decl (ν : Type) where
  name : ν
  size : Nat
  align : Nat
  deriving DecidableEq

variable {ν : Type}

/-- The members with their offsets, from a place at which nothing is yet. -/
def place (cursor : Nat) : List (Decl ν) → List (Decl ν × Nat)
  | [] => []
  | member :: rest =>
    (member, roundUp cursor member.align) :: place (roundUp cursor member.align + member.size) rest

def finish (cursor : Nat) : List (Decl ν) → Nat
  | [] => cursor
  | member :: rest => finish (roundUp cursor member.align + member.size) rest

def alignment : List (Decl ν) → Nat
  | [] => 1
  | member :: rest => max member.align (alignment rest)

def sizeof (members : List (Decl ν)) : Nat := roundUp (finish 0 members) (alignment members)

theorem finish_append (cursor : Nat) (front rest : List (Decl ν)) :
    finish cursor (front ++ rest) = finish (finish cursor front) rest := by
  induction front generalizing cursor with
  | nil => rfl
  | cons member front ih => rw [cons_append, finish, finish, ih]

theorem alignment_append (front rest : List (Decl ν)) :
    alignment (front ++ rest) = max (alignment front) (alignment rest) := by
  induction front with
  | nil =>
    have pos : 1 ≤ alignment rest := by
      induction rest with
      | nil => exact le_refl 1
      | cons member rest ih => exact ih.trans (le_max_right _ _)
    rw [nil_append, alignment, max_eq_right pos]
  | cons member front ih => rw [cons_append, alignment, alignment, ih, max_assoc]

def bytes (members : List (Decl ν)) : Nat := (members.map Decl.size).sum

/-- **Members that need no padding** are placed one right after the other. -/
def Packed (cursor : Nat) : List (Decl ν) → Prop
  | [] => True
  | member :: rest => member.align ∣ cursor ∧ Packed (cursor + member.size) rest

variable {cursor : Nat} {members : List (Decl ν)}

theorem finish_packed (packed : Packed cursor members) :
    finish cursor members = cursor + bytes members := by
  induction members generalizing cursor with
  | nil => rfl
  | cons member rest ih =>
    obtain ⟨aligned, later⟩ := packed
    rw [finish, roundUp_of_dvd aligned, ih later, bytes, bytes, map_cons, sum_cons]
    omega

/-- The offsets that a reader without padding uses. -/
def sequential (cursor : Nat) : List (Decl ν) → List (Decl ν × Nat)
  | [] => []
  | member :: rest => (member, cursor) :: sequential (cursor + member.size) rest

theorem place_packed (packed : Packed cursor members) :
    place cursor members = sequential cursor members := by
  induction members generalizing cursor with
  | nil => rfl
  | cons member rest ih =>
    obtain ⟨aligned, later⟩ := packed
    rw [place, sequential, roundUp_of_dvd aligned, ih later]

theorem of_mem_place {offset : Nat} {member : Decl ν}
    (placed : (member, offset) ∈ place cursor members) : member ∈ members ∧ member.align ∣ offset := by
  induction members generalizing cursor with
  | nil => cases placed
  | cons first rest ih =>
    rcases mem_cons.mp placed with here | later
    · cases here
      exact ⟨.head _, dvd_roundUp _ _⟩
    · exact (ih later).imp_left (.tail _)

theorem Packed.append {front rest : List (Decl ν)} (first : Packed cursor front)
    (second : Packed (cursor + bytes front) rest) : Packed cursor (front ++ rest) := by
  induction front generalizing cursor with
  | nil => exact second
  | cons member front ih =>
    obtain ⟨aligned, later⟩ := first
    refine ⟨aligned, ih later ?_⟩
    rw [bytes, map_cons, sum_cons, ← add_assoc] at second
    exact second

end Detrix.Library.CStruct
