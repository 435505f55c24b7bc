/-
**Text operations by structural recursion.**

Substring search, the part of a text after the last separator and the part before the first one,
over lists of characters, so that they evaluate. `occurs_iff`: the search decides `List.IsInfix`.
`contains_append_left`, `contains_append_right`: a text contains what its parts contain.
`mem_of_mem_lines`, `beforeFirstOf_eq_none`: what is in a line is in the text, and what is not there
is not found.
-/

import Mathlib.Data.List.Infix
import Mathlib.Data.List.TakeWhile

namespace Detrix.Library.Text

open List String

/-! ### Substrings -/

/-- `needle` occurs somewhere in the characters. -/
def occurs (needle : List Char) : List Char → Bool
  | [] => needle.isEmpty
  | c :: cs => needle.isPrefixOf (c :: cs) || occurs needle cs

theorem occurs_iff (needle : List Char) (hay : List Char) :
    occurs needle hay = true ↔ needle <:+: hay := by
  induction hay with
  | nil => simp [occurs]
  | cons c cs ih =>
    rw [occurs, Bool.or_eq_true, isPrefixOf_iff_prefix, ih, infix_cons_iff]

/-- `s` contains `needle` (`str::contains`). -/
def contains (s needle : String) : Bool :=
  occurs needle.toList s.toList

theorem contains_iff (s needle : String) : contains s needle = true ↔ needle.toList <:+: s.toList :=
  occurs_iff _ _

variable {c : Char} {s needle : String}

theorem contains_append_left (found : contains s needle = true) (t : String) :
    contains (s ++ t) needle = true := by
  rw [contains_iff] at found ⊢
  rw [toList_append]
  exact found.trans (prefix_append _ _).isInfix

theorem contains_append_right (s : String) {t : String} (found : contains t needle = true) :
    contains (s ++ t) needle = true := by
  rw [contains_iff] at found ⊢
  rw [toList_append]
  exact found.trans (suffix_append _ _).isInfix

/-! ### Splitting at a separator -/

/-- The characters after the last occurrence of `sep`, if it occurs. -/
def afterLastOf (sep : List Char) : List Char → Option (List Char)
  | [] => if sep.isEmpty then some [] else none
  | c :: cs =>
    match afterLastOf sep cs with
    | some rest => some rest
    | none => if sep.isPrefixOf (c :: cs) then some ((c :: cs).drop sep.length) else none

/-- The part of `s` after the last `sep`, or all of `s` (`s.rsplit(sep).next()`). -/
def afterLast (sep s : String) : String :=
  match afterLastOf sep.toList s.toList with
  | some rest => ofList rest
  | none => s

/-- The characters before the first occurrence of `sep`, if it occurs. -/
def beforeFirstOf (sep : List Char) : List Char → Option (List Char)
  | [] => if sep.isEmpty then some [] else none
  | c :: cs =>
    if sep.isPrefixOf (c :: cs) then some [] else (beforeFirstOf sep cs).map (c :: ·)

/-- The part of `s` before the first `sep`, or all of `s` (`s.find(sep)` and a slice). -/
def beforeFirst (sep s : String) : String :=
  match beforeFirstOf sep.toList s.toList with
  | some front => ofList front
  | none => s

/-- `s` without the final `tail`, if it ends so (`str::strip_suffix`). -/
def stripSuffix (tail s : String) : Option String :=
  if tail.toList.isSuffixOf s.toList then
    some (ofList (s.toList.take (s.length - tail.length)))
  else none

/-- `s` starts with `head` (`str::starts_with`). -/
def startsWith (s head : String) : Bool :=
  head.toList.isPrefixOf s.toList

/-- Every character of `s` that is `c` replaced by `replacement` (`str::replace` of a character). -/
def replaceChar (c : Char) (replacement s : String) : String :=
  ofList (s.toList.flatMap fun d => if d = c then replacement.toList else [d])

/-! ### Characters and lines -/

/-- The characters with the Unicode property `White_Space` (`char::is_whitespace`). -/
def isWhitespace (c : Char) : Bool :=
  (9 ≤ c.toNat && c.toNat ≤ 13) || c.toNat = 32 || c.toNat = 0x85 || c.toNat = 0xA0 ||
    c.toNat = 0x1680 || (0x2000 ≤ c.toNat && c.toNat ≤ 0x200A) || c.toNat = 0x2028 ||
    c.toNat = 0x2029 || c.toNat = 0x202F || c.toNat = 0x205F || c.toNat = 0x3000

/-- The character tables of the standard library that are left open. -/
structure Unicode where
  isAlphabetic : Char → Bool
  isAlphanumeric : Char → Bool
  isLowercase : Char → Bool

def Unicode.ascii : Unicode := ⟨Char.isAlpha, Char.isAlphanum, Char.isLower⟩

/-- The length of the characters in UTF-8 (`str::len`). -/
def byteLength (text : List Char) : Nat :=
  text.foldr (fun c rest => c.utf8Size + rest) 0

def trimEnd (text : List Char) : List Char :=
  (text.reverse.dropWhile isWhitespace).reverse

def trimChars (text : List Char) : List Char :=
  trimEnd (text.dropWhile isWhitespace)

def trim (s : String) : String := ofList (trimChars s.toList)

def splitChars (sep : Char) : List Char → List (List Char)
  | [] => [[]]
  | c :: cs =>
    if c = sep then [] :: splitChars sep cs
    else match splitChars sep cs with
      | [] => [[c]]
      | part :: parts => (c :: part) :: parts

/-- `str::split` at a character. -/
def split (sep : Char) (s : String) : List String :=
  (splitChars sep s.toList).map ofList

def dropReturn (line : List Char) : List Char :=
  if line.getLast? = some '\r' then line.dropLast else line

/-- `str::lines`: a last line that is empty is not counted. -/
def lines (s : String) : List String :=
  let parts := splitChars '\n' s.toList
  let last := parts.getLast?.getD []
  (parts.dropLast.map dropReturn ++ (if last = [] then [] else [last])).map ofList

/-- What is in a part is in the text and is not the separator. -/
theorem mem_of_mem_splitChars {sep : Char} {text part : List Char}
    (mem : part ∈ splitChars sep text) (here : c ∈ part) : c ∈ text ∧ c ≠ sep := by
  induction text generalizing part with
  | nil =>
    rw [splitChars, mem_singleton] at mem
    exact absurd (mem ▸ here) not_mem_nil
  | cons d text ih =>
    rw [splitChars] at mem
    split at mem
    next =>
      rcases mem_cons.mp mem with rfl | later
      · cases here
      · exact (ih later here).imp_left (.tail d)
    next notSep =>
      cases parts : splitChars sep text with
      | nil =>
        rw [parts, mem_singleton] at mem
        rw [mem, mem_singleton] at here
        exact ⟨here ▸ .head _, here ▸ notSep⟩
      | cons first others =>
        rw [parts] at mem ih
        rcases mem_cons.mp mem with rfl | later
        · rcases mem_cons.mp here with rfl | below
          · exact ⟨.head _, notSep⟩
          · exact (ih (.head _) below).imp_left (.tail d)
        · exact (ih (.tail _ later) here).imp_left (.tail d)

theorem mem_of_mem_dropReturn {line : List Char} (here : c ∈ dropReturn line) : c ∈ line := by
  unfold dropReturn at here
  split at here
  · exact dropLast_subset _ here
  · exact here

theorem mem_of_mem_lines {line : String} (mem : line ∈ lines s) (here : c ∈ line.toList) :
    c ∈ s.toList ∧ c ≠ '\n' := by
  simp only [lines, mem_map, mem_append] at mem
  obtain ⟨chars, ⟨full, member, rfl⟩ | last, rfl⟩ := mem <;> rw [toList_ofList] at here
  · exact mem_of_mem_splitChars (dropLast_subset _ member) (mem_of_mem_dropReturn here)
  · split at last
    · cases last
    · rw [mem_singleton] at last
      subst last
      cases final : (splitChars '\n' s.toList).getLast? with
      | none => simp [final] at here
      | some part =>
        rw [final, Option.getD_some] at here
        exact mem_of_mem_splitChars (mem_of_getLast? final) here

/-- Trimming stops at the last character that is no white space. -/
theorem trimEnd_append_cons (front : List Char) (solid : isWhitespace c = false) (back : List Char)
    : trimEnd (front ++ c :: back) = front ++ c :: trimEnd back := by
  have reversed : (front ++ c :: back).reverse = back.reverse ++ c :: front.reverse := by simp
  rw [trimEnd, reversed, dropWhile_append]
  by_cases blank : (back.reverse.dropWhile isWhitespace).isEmpty = true
  · rw [if_pos blank, dropWhile_cons_of_neg (by simp [solid]), trimEnd, isEmpty_iff.mp blank]
    simp
  · rw [if_neg blank, trimEnd]
    simp

theorem trimChars_blanks_cons {blanks : List Char} (white : ∀ c ∈ blanks, isWhitespace c = true)
    (solid : isWhitespace c = false) (back : List Char) :
    trimChars (blanks ++ c :: back) = c :: trimEnd back := by
  have start : (blanks ++ c :: back).dropWhile isWhitespace = c :: back := by
    have gone : blanks.dropWhile isWhitespace = [] := by
      rw [dropWhile_eq_nil_iff]
      exact white
    rw [dropWhile_append, gone]
    simp [solid]
  rw [trimChars, start]
  exact trimEnd_append_cons [] solid back

theorem trimChars_isInfix (text : List Char) : trimChars text <:+: text := by
  have front : text.dropWhile isWhitespace <:+ text := dropWhile_suffix _
  have back : trimEnd (text.dropWhile isWhitespace) <+: text.dropWhile isWhitespace := by
    rw [trimEnd, ← reverse_suffix, reverse_reverse]
    exact dropWhile_suffix _
  exact back.isInfix.trans front.isInfix

theorem mem_of_mem_trimChars {text : List Char} (here : c ∈ trimChars text) : c ∈ text :=
  (trimChars_isInfix text).subset here

/-- A text is not found where one of its characters does not occur. -/
theorem beforeFirstOf_eq_none {sep : List Char} (needed : c ∈ sep) :
    ∀ {text : List Char}, c ∉ text → beforeFirstOf sep text = none
  | [], _ => by
    rw [beforeFirstOf, if_neg]
    simp [ne_nil_of_mem needed]
  | d :: text, absent => by
    have apart : ¬ sep.isPrefixOf (d :: text) = true := fun found =>
      absent ((List.isPrefixOf_iff_prefix.mp found).subset needed)
    rw [beforeFirstOf, if_neg apart, beforeFirstOf_eq_none needed fun later => absent (.tail _ later)]
    rfl

theorem contains_eq_false (needed : c ∈ needle.toList) (absent : c ∉ s.toList) :
    contains s needle = false := by
  rw [← Bool.not_eq_true, contains_iff]
  exact fun found => absent (found.subset needed)

def asciiLowercase (s : String) : String :=
  ofList (s.toList.map Char.toLower)

example : afterLast "::" "std::mem::take" = "take" ∧ afterLast "." "len" = "len" := by decide

end Detrix.Library.Text
