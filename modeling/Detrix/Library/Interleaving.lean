/-
**Calls in progress.**

A list of calls, each named by its place; a step replaces one of them, a new call comes last.
`Every` is a condition on each call and its name, `Pairs` one on any two of them. The rules say what a
step has to establish: the condition for the call that has moved, and that the others, which have not
moved, still meet theirs in the state that is left (`Every.set`, `Pairs.set`). `sumOf` and `total` add
up what the calls have in their hands; `field` is what each of them has, if anything, as a function of its
place, and a step is an update of that function.
-/

import Mathlib.Algebra.Order.BigOperators.Group.List
import Mathlib.Algebra.Order.Group.Nat
import Mathlib.Algebra.Order.Group.Multiset

namespace Detrix.Library.Calls

open Function List Option

variable {κ : Type}

def Every (P : Nat → κ → Prop) (calls : List κ) : Prop := ∀ i c, calls[i]? = some c → P i c

def Pairs (R : κ → κ → Prop) (calls : List κ) : Prop :=
  ∀ (i j : Nat) (a b : κ), calls[i]? = some a → calls[j]? = some b → i ≠ j → R a b

variable {calls : List κ} {i : Nat} {b : κ} {a c : κ} {j : Nat}

theorem set_cases (found : (calls.set i b)[j]? = some c) :
    (j = i ∧ c = b) ∨ (j ≠ i ∧ calls[j]? = some c) := by
  by_cases same : j = i
  · subst same
    rw [getElem?_set_self'] at found
    obtain ⟨_, -, isB⟩ := map_eq_some_iff.mp found
    exact .inl ⟨rfl, isB.symm⟩
  · rw [getElem?_set_ne (Ne.symm same)] at found
    exact .inr ⟨same, found⟩

theorem set_self (known : calls[i]? = some a) : (calls.set i b)[i]? = some b := by
  rw [getElem?_set_self', known]
  rfl

theorem moves_or_stays (b : κ) (known : calls[i]? = some a) (found : calls[j]? = some c) :
    (j = i ∧ c = a) ∨ (calls.set i b)[j]? = some c := by
  by_cases same : j = i
  · subst same
    exact .inl ⟨rfl, some.inj (found.symm.trans known)⟩
  · exact .inr ((getElem?_set_ne (Ne.symm same)).trans found)

/-- There is still a call that meets a condition if the step does not leave it. -/
theorem exists_set {P : Nat → κ → Prop} (known : calls[i]? = some a) (stays : P i a → P i b)
    (met : ∃ j c, calls[j]? = some c ∧ P j c) : ∃ j c, (calls.set i b)[j]? = some c ∧ P j c := by
  obtain ⟨j, c, found, holds⟩ := met
  rcases moves_or_stays b known found with ⟨rfl, rfl⟩ | same
  · exact ⟨j, b, set_self known, stays holds⟩
  · exact ⟨j, c, same, holds⟩

theorem append_cases (found : (calls ++ [b])[j]? = some c) :
    (j = calls.length ∧ c = b) ∨ (j ≠ calls.length ∧ calls[j]? = some c) := by
  by_cases old : j < calls.length
  · rw [getElem?_append_left old] at found
    exact .inr ⟨Nat.ne_of_lt old, found⟩
  · rw [getElem?_append_right (Nat.le_of_not_lt old)] at found
    have isLast : j - calls.length = 0 := by
      have mem := (List.getElem?_eq_some_iff.mp found).1
      simpa using mem
    rw [isLast] at found
    exact .inl ⟨by omega, (some.inj found).symm⟩

theorem append_old (found : calls[j]? = some c) : (calls ++ [b])[j]? = some c := by
  rw [List.getElem?_append_left (List.getElem?_eq_some_iff.mp found).1]
  exact found

theorem append_new : (calls ++ [b])[calls.length]? = some b := by
  simp

/-- The call that has moved meets the condition, and the others still do. -/
theorem Every.set {P Q : Nat → κ → Prop} (all : Every P calls) (moved : Q i b)
    (others : ∀ j c, j ≠ i → calls[j]? = some c → P j c → Q j c) : Every Q (calls.set i b) := by
  intro j c found
  rcases set_cases found with ⟨rfl, rfl⟩ | ⟨ne, stays⟩
  · exact moved
  · exact others j c ne stays (all j c stays)

theorem Every.append {P Q : Nat → κ → Prop} (all : Every P calls) (new : Q calls.length b)
    (others : ∀ j c, calls[j]? = some c → P j c → Q j c) : Every Q (calls ++ [b]) := by
  intro j c found
  rcases append_cases found with ⟨rfl, rfl⟩ | ⟨-, stays⟩
  · exact new
  · exact others j c stays (all j c stays)

variable {R : κ → κ → Prop}

theorem Pairs.set (symm : ∀ a b, R a b → R b a) (all : Pairs R calls)
    (moved : ∀ j c, j ≠ i → calls[j]? = some c → R b c) : Pairs R (calls.set i b) := by
  intro j k c d isC isD ne
  rcases set_cases isC with ⟨rfl, rfl⟩ | ⟨otherC, staysC⟩
  · rcases set_cases isD with ⟨rfl, -⟩ | ⟨otherD, staysD⟩
    · exact absurd rfl ne
    · exact moved k d otherD staysD
  · rcases set_cases isD with ⟨rfl, rfl⟩ | ⟨-, staysD⟩
    · exact symm _ _ (moved j c otherC staysC)
    · exact all j k c d staysC staysD ne

theorem Pairs.append (symm : ∀ a b, R a b → R b a) (all : Pairs R calls)
    (new : ∀ (j : Nat) (c : κ), calls[j]? = some c → R b c) : Pairs R (calls ++ [b]) := by
  intro j k c d isC isD ne
  rcases append_cases isC with ⟨rfl, rfl⟩ | ⟨-, staysC⟩
  · rcases append_cases isD with ⟨rfl, -⟩ | ⟨-, staysD⟩
    · exact absurd rfl ne
    · exact new k d staysD
  · rcases append_cases isD with ⟨rfl, rfl⟩ | ⟨-, staysD⟩
    · exact symm _ _ (new j c staysC)
    · exact all j k c d staysC staysD ne

/-! ### What the calls have in their hands -/

section Sum

variable {M : Type} [AddCommMonoid M] (f : κ → M)

def sumOf (calls : List κ) : M := calls.foldr (fun c rest => f c + rest) 0

theorem sumOf_eq (calls : List κ) : sumOf f calls = (calls.map f).sum := by
  rw [sumOf, sum, foldr_map]

theorem sumOf_append (calls : List κ) (b : κ) : sumOf f (calls ++ [b]) = sumOf f calls + f b := by
  simp [sumOf_eq]

variable {calls : List κ}

theorem sumOf_set {i : Nat} (b : κ) (known : calls[i]? = some a) :
    sumOf f (calls.set i b) + f a = sumOf f calls + f b := by
  obtain ⟨mem, rfl⟩ := List.getElem?_eq_some_iff.mp known
  have split : calls = calls.take i ++ calls[i] :: calls.drop (i + 1) := by simp
  have sum := congrArg (sumOf f) split
  rw [set_eq_take_cons_drop b mem, sum]
  simp only [sumOf_eq, map_append, map_cons, sum_append, sum_cons]
  ac_rfl

theorem sumOf_congr {g : κ → M} (same : Every (fun _ c => f c = g c) calls) :
    sumOf f calls = sumOf g calls := by
  have equal : calls.map f = calls.map g := map_congr_left fun c mem =>
    let ⟨i, found⟩ := mem_iff_getElem?.mp mem
    same i c found
  rw [sumOf_eq, sumOf_eq, equal]

theorem sumOf_zero (calls : List κ) : sumOf (fun _ => (0 : M)) calls = 0 := by
  rw [sumOf_eq, map_const', sum_replicate, nsmul_zero]

theorem le_sumOf {f : κ → Nat} {i : Nat} (known : calls[i]? = some a) : f a ≤ sumOf f calls := by
  rw [sumOf_eq]
  exact single_le_sum (fun _ _ => Nat.zero_le _) _ (mem_map_of_mem (mem_of_getElem? known))

end Sum

section Total

variable {β : Type} (f : κ → Multiset β)

/-- What all calls together have in their hands. -/
def total (calls : List κ) : Multiset β := calls.foldr (fun c rest => f c + rest) 0

theorem total_append (calls : List κ) (b : κ) : total f (calls ++ [b]) = total f calls + f b :=
  sumOf_append f calls b

theorem total_set {calls : List κ} {i : Nat} (b : κ) (known : calls[i]? = some a) :
    total f (calls.set i b) + f a = total f calls + f b :=
  sumOf_set f b known

end Total

/-! ### What each call has -/

/-- What a call has of something that not every call has. -/
def field {β : Type} (f : κ → Option β) (calls : List κ) (i : Nat) : Option β := calls[i]?.bind f

section Field

variable {β : Type} {f : κ → Option β}

section
variable (known : calls[i]? = some a)
include known

theorem field_of : field f calls i = f a := by
  rw [field, known, bind_some]

theorem field_set : field f (calls.set i b) = update (field f calls) i (f b) := by
  funext j
  by_cases same : j = i
  · subst same
    rw [update_self, field_of (set_self known)]
  · rw [update_of_ne same, field, field, getElem?_set_ne (Ne.symm same)]

theorem field_set_same (same : f b = f a) : field f (calls.set i b) = field f calls := by
  have was : field f calls i = f a := field_of known
  rw [field_set known, same, ← was, update_eq_self]

end

theorem field_append : field f (calls ++ [b]) = update (field f calls) calls.length (f b) := by
  funext j
  by_cases same : j = calls.length
  · subst same
    rw [update_self, field_of append_new]
  · rw [update_of_ne same, field, field]
    by_cases old : j < calls.length
    · rw [getElem?_append_left old]
    · have beyond : calls.length + 1 ≤ j := by omega
      rw [getElem?_eq_none (by simpa using beyond), getElem?_eq_none (by omega)]

theorem field_length : field f calls calls.length = none := by
  rw [field, getElem?_eq_none (Nat.le_refl _), bind_none]

theorem field_mapIdx (g : Nat → κ → κ) :
    field f (calls.mapIdx g) = fun i => calls[i]?.bind fun c => f (g i c) := by
  funext j
  rw [field, getElem?_mapIdx, bind_map]
  rfl

/-- All calls are told something that does not change what they have. -/
theorem field_mapIdx_same {g : Nat → κ → κ} (same : ∀ i c, f (g i c) = f c) :
    field f (calls.mapIdx g) = field f calls := by
  rw [field_mapIdx]
  funext j
  simp only [same]
  rfl

def Own (held : Nat → Option β) : Prop := ∀ i j x, held i = some x → held j = some x → i = j

/-- A call gets something that no call had. -/
theorem Own.update {held : Nat → Option β} (own : Own held) {x : Option β}
    (fresh : ∀ y ∈ x, ∀ j, held j ≠ some y) : Own (update held i x) := by
  intro j k y has also
  by_cases one : j = i <;> by_cases other : k = i
  · rw [one, other]
  · rw [one, update_self] at has
    rw [update_of_ne other] at also
    exact absurd also (fresh y has k)
  · rw [other, update_self] at also
    rw [update_of_ne one] at has
    exact absurd has (fresh y also j)
  · rw [update_of_ne one] at has
    rw [update_of_ne other] at also
    exact own j k y has also

end Field

end Detrix.Library.Calls
