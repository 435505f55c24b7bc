/-
**The target of a mutation method.**

The scan before a method such as `.append(` goes backwards over names and dots, two characters a turn.
At a closing bracket it either stays where it is or takes the bracket without its partner.

- `longest_chain_found_iff`: the scan ends with the longest chain exactly if no bracket closes before
  the names at the end.
-/

import Detrix.Lsp.PythonBody

namespace Detrix.Lsp

open Library Text List
open Library.Text (Unicode)

variable (uc : Unicode)

def isNameChar (c : Char) : Bool := c = '.' || c = '_' || uc.isAlphanumeric c

def closes (c : Char) : Bool := c = ')' || c = ']'

/-- A chain of names, dots and balanced calls and subscripts, read backwards; the brackets of the first
list are still to be opened. -/
def isChain : List Char → List Char → Bool
  | waiting, [] => waiting = []
  | waiting, c :: rest =>
    if closes c then isChain (c :: waiting) rest
    else if c = '(' then waiting.head? = some ')' && isChain waiting.tail rest
    else if c = '[' then waiting.head? = some ']' && isChain waiting.tail rest
    else (waiting ≠ [] || isNameChar uc c) && isChain waiting rest

/-- The longest chain at the end of a text, both read backwards. -/
structure LongestChain (left target : List Char) : Prop where
  isEnd : target <+: left
  chain : isChain uc [] target = true
  longest : ∀ other, other <+: left → isChain uc [] other = true → other.length ≤ target.length

variable {uc}

/-- The scan takes names and closing brackets, up to another character, or to a bracket where it stays. -/
theorem extractTargetChars_spec (left target : List Char) :
    ∃ taken rest, left = taken ++ rest ∧ (∀ c ∈ taken, (isNameChar uc c || closes c) = true) ∧
      ((∀ c, rest.head? = some c → (isNameChar uc c || closes c) = false) ∧
          extractTargetChars uc left target = some (taken.reverse ++ target) ∨
        (∃ c, rest.head? = some c ∧ closes c = true) ∧ extractTargetChars uc left target = none) := by
  fun_induction extractTargetChars uc left target with
  | case1 | case4 | case8 => exact ⟨[], _, rfl, by simp, .inl ⟨by grind [isNameChar, closes], rfl⟩⟩
  | case2 | case5 => exact ⟨[], _, rfl, by simp, .inr ⟨⟨_, rfl, by simpa [closes]⟩, rfl⟩⟩
  | case3 c => exact ⟨[c], [], rfl, by grind [isNameChar], .inl ⟨by simp, rfl⟩⟩
  | case6 c prev rest target _ isName prevTaken ih =>
    obtain ⟨taken, rest', rfl, all, result⟩ := ih
    exact ⟨c :: prev :: taken, rest', rfl, by grind [isNameChar, closes], by simpa using result⟩
  | case7 c prev rest target _ isName prevLeft ih =>
    obtain ⟨taken, rest', isLeft, all, result⟩ := ih
    exact ⟨c :: taken, rest', by rw [isLeft]; rfl, by grind [isNameChar], by simpa using result⟩

section Tables

variable (plain : ∀ c ∈ ['(', ')', '[', ']'], uc.isAlphanumeric c = false)
include plain

theorem isChain_names {names : List Char} (areNames : ∀ c ∈ names, isNameChar uc c = true)
    (text : List Char) : isChain uc [] (names ++ text) = isChain uc [] text := by
  induction names with
  | nil => rfl
  | cons c rest ih =>
    obtain ⟨isName, others⟩ := forall_mem_cons.mp areNames
    have noBracket : closes c = false ∧ c ≠ '(' ∧ c ≠ '[' := by grind [isNameChar, closes]
    simp [isChain, noBracket, isName, ih others]

/-- A bracket that closes is never opened again. -/
theorem names_of_isChain {text waiting : List Char}
    (all : ∀ c ∈ text, (isNameChar uc c || closes c) = true) (chain : isChain uc waiting text = true) :
    waiting = [] ∧ ∀ c ∈ text, isNameChar uc c = true := by
  induction text generalizing waiting with
  | nil => simpa [isChain] using chain
  | cons c rest ih =>
    obtain ⟨isTaken, others⟩ := forall_mem_cons.mp all
    rw [isChain] at chain
    have := @ih waiting others
    grind [isNameChar, closes]

theorem longestChain_iff {taken rest : List Char} (all : ∀ c ∈ taken, (isNameChar uc c || closes c) = true)
    (ends : ∀ c, rest.head? = some c → (isNameChar uc c || closes c) = false) :
    LongestChain uc (taken ++ rest) taken ↔ ∀ c ∈ taken, isNameChar uc c = true := by
  refine ⟨fun longest => (names_of_isChain plain all longest.chain).2, fun areNames => ?_⟩
  have passes := isChain_names plain areNames
  refine ⟨prefix_append _ _, by simpa [isChain] using passes [], fun other isEnd chain => ?_⟩
  by_contra longer
  -- a longer chain would go over the first character of the rest
  obtain ⟨more, rfl⟩ := prefix_of_prefix_length_le (prefix_append _ _) isEnd (by omega)
  rw [passes] at chain
  rw [prefix_append_right_inj] at isEnd
  cases more with
  | nil => simp at longer
  | cons c more =>
    obtain ⟨_, rfl⟩ := isEnd
    have stop := ends c rfl
    grind [isChain]

/-- **The longest chain is found** exactly if the last character that is not of a name does not close a
bracket. -/
theorem longest_chain_found_iff (expr : List Char) :
    (∃ target, extractMutationTarget uc expr = some target ∧
      LongestChain uc (trimChars expr).reverse target.toList.reverse) ↔
      ((trimChars expr).reverse.find? (!isNameChar uc ·)).all (!closes ·) = true := by
  have apart (c : Char) (isClose : closes c = true) : isNameChar uc c = false := by
    grind [isNameChar, closes]
  obtain ⟨taken, rest, isLeft, all, ⟨ends, found⟩ | ⟨⟨c, isHead, isClose⟩, stuck⟩⟩ :=
    @extractTargetChars_spec uc (trimChars expr).reverse []
  · rw [extractMutationTarget, found]
    simp only [Option.map_some, Option.some.injEq, exists_eq_left', String.toList_ofList, append_nil,
      reverse_reverse, isLeft, longestChain_iff plain all ends, find?_append]
    cases first : taken.find? (!isNameChar uc ·) with
    | none => cases rest <;> grind
    | some d => grind
  · rw [extractMutationTarget, stuck, isLeft, find?_append]
    refine iff_of_false (by simp) ?_
    cases first : taken.find? (!isNameChar uc ·) with
    | none => cases rest <;> grind
    | some d => grind

end Tables

/-- The target `self.items` is found. -/
theorem attribute_chain_found :
    ∃ target, extractMutationTarget .ascii "self.items".toList = some target ∧
      LongestChain .ascii (trimChars "self.items".toList).reverse target.toList.reverse :=
  (longest_chain_found_iff (by simp [Unicode.ascii]) _).mpr (by decide)

/-- The scan stays at the bracket of a call, and takes the one of a subscript without its partner. -/
theorem brackets_misread :
    extractMutationTarget .ascii "f()".toList = none ∧
      extractMutationTarget .ascii "x[0].ab".toList = some "0].ab" := by
  decide

end Detrix.Lsp
