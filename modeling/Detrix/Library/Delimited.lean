/-
**Texts with delimiters.**

What splitting, cutting and trimming do with a text that was put together from parts: a text is split
into the parts it was joined from if these do not hold the separator (`splitChars_intercalate`); it is cut at the first separator
(`cutAt_append`), of two cuts of one text one lies in the later part of the other (`cuts_compare`),
and a decimal number is read back (`parseI64_toString`).
-/

import Detrix.Library.Text

namespace Detrix.Library.Text

open Nat List Option

/-! ### Splitting at a character -/

theorem splitChars_eq_splitOn (sep : Char) (text : List Char) :
    splitChars sep text = text.splitOn sep := by
  induction text with
  | nil => rfl
  | cons c cs ih =>
    have cons : (c :: cs).splitOn sep =
        if c == sep then [] :: cs.splitOn sep else (cs.splitOn sep).modifyHead (c :: ·) :=
      splitOnP_cons_eq_if_modifyHead c cs
    rw [splitChars, ih, cons]
    by_cases isSep : c = sep
    · rw [if_pos isSep, if_pos (beq_iff_eq.mpr isSep)]
    · rw [if_neg isSep, if_neg fun same => isSep (beq_iff_eq.mp same)]
      cases parts : cs.splitOn sep with
      | nil => exact absurd parts (splitOn_ne_nil sep cs)
      | cons part others => rfl

variable {sep c : Char} {text front back front' back' : List Char} {n : Nat}

/-- Splitting undoes joining. -/
theorem splitChars_intercalate {parts : List (List Char)} (some : parts ≠ [])
    (absent : ∀ part ∈ parts, sep ∉ part) : splitChars sep ([sep].intercalate parts) = parts := by
  rw [splitChars_eq_splitOn]
  exact splitOn_intercalate sep absent some

theorem splitChars_cons (absent : sep ∉ front) (back : List Char) :
    splitChars sep (front ++ sep :: back) = front :: splitChars sep back := by
  rw [splitChars_eq_splitOn, splitChars_eq_splitOn, splitOn_append_cons_self_of_not_mem absent]

theorem splitChars_self (absent : sep ∉ text) : splitChars sep text = [text] := by
  rw [splitChars_eq_splitOn]
  exact splitOn_eq_singleton absent

theorem head?_splitChars (sep : Char) (text : List Char) :
    (splitChars sep text).head? = some (text.takeWhile (· ≠ sep)) := by
  induction text with
  | nil => rfl
  | cons c cs ih =>
    rw [splitChars]
    by_cases isSep : c = sep
    · rw [if_pos isSep, takeWhile_cons_of_neg (by simp [isSep])]
      rfl
    · rw [if_neg isSep, takeWhile_cons_of_pos (by simp [isSep])]
      cases parts : splitChars sep cs with
      | nil => simp [parts] at ih
      | cons part others =>
        rw [parts, head?_cons, some.injEq] at ih
        rw [← ih]
        rfl

theorem not_mem_intercalate (other : c ≠ sep) :
    ∀ {parts : List (List Char)}, (∀ part ∈ parts, c ∉ part) → c ∉ [sep].intercalate parts
  | [], _ => not_mem_nil
  | [part], absent => by
    rw [intercalate_singleton]
    exact absent part (.head _)
  | part :: next :: rest, absent => by
    rw [intercalate_cons_cons, append_assoc, mem_append, mem_append, mem_singleton, not_or, not_or]
    refine ⟨absent part (.head _), other, ?_⟩
    exact not_mem_intercalate other fun part among => absent part (.tail _ among)

/-- A text before a line feed is a line, without a carriage return at its end. -/
theorem dropReturn_mem_lines (absent : '\n' ∉ front) (back : List Char) :
    dropReturn front ∈ (lines (String.ofList (front ++ '\n' :: back))).map String.toList := by
  have first : front ∈ (front :: splitChars '\n' back).dropLast := by
    rw [dropLast_cons_of_ne_nil]
    · exact (.head _)
    · rw [splitChars_eq_splitOn]
      exact splitOn_ne_nil '\n' back
  rw [lines, String.toList_ofList, splitChars_cons absent, List.mem_map]
  refine ⟨String.ofList (dropReturn front), mem_map_of_mem ?_, String.toList_ofList⟩
  exact mem_append_left _ (mem_map_of_mem first)

/-! ### Cutting at a text -/

/-- The rest of a text that starts with `head` (`str::strip_prefix`). -/
def stripPrefix (head text : List Char) : Option (List Char) :=
  if head.isPrefixOf text then some (text.drop head.length) else none

@[simp]
theorem stripPrefix_append (head rest : List Char) : stripPrefix head (head ++ rest) = some rest := by
  rw [stripPrefix, if_pos (List.isPrefixOf_iff_prefix.mpr (prefix_append head rest)), drop_left]

theorem stripPrefix_of_ne {d : Char} (differ : c ≠ d) (head text : List Char) :
    stripPrefix (c :: head) (d :: text) = none := by
  rw [stripPrefix, if_neg]
  simp [isPrefixOf, differ]

theorem stripPrefix_eq_some {head rest : List Char} (stripped : stripPrefix head text = some rest) :
    text = head ++ rest := by
  unfold stripPrefix at stripped
  split at stripped
  next starts =>
    obtain ⟨tail, rfl⟩ := isPrefixOf_iff_prefix.mp starts
    rw [drop_left, some.injEq] at stripped
    rw [stripped]
  next => cases stripped

/-- `head` is stripped again and again (`str::trim_start_matches`). -/
def trimStartMatches (head text : List Char) : List Char :=
  go text.length text
where
  go : Nat → List Char → List Char
    | 0, text => text
    | fuel + 1, text =>
      match stripPrefix head text with
      | some rest => go fuel rest
      | none => text

theorem trimStartMatches_append {head rest : List Char} (some : head ≠ [])
    (once : stripPrefix head rest = none) : trimStartMatches head (head ++ rest) = rest := by
  obtain ⟨c, cs, rfl⟩ := exists_cons_of_ne_nil some
  have stops : ∀ fuel, trimStartMatches.go (c :: cs) fuel rest = rest := by
    intro fuel
    cases fuel with
    | zero => rfl
    | succ fuel => rw [trimStartMatches.go, once]
  rw [trimStartMatches, cons_append, length_cons, trimStartMatches.go, ← cons_append,
    stripPrefix_append]
  exact stops _

/-- The texts before and after the first `sep` (`str::find`, `str::splitn(2, _)`). -/
def cutAt (sep : List Char) : List Char → Option (List Char × List Char)
  | [] => if sep = [] then some ([], []) else none
  | c :: cs =>
    match stripPrefix sep (c :: cs) with
    | some rest => some ([], rest)
    | none => (cutAt sep cs).map fun parts => (c :: parts.1, parts.2)

theorem cutAt_eq_some {sep : List Char} :
    ∀ {text : List Char} {parts : List Char × List Char}, cutAt sep text = some parts →
      text = parts.1 ++ (sep ++ parts.2)
  | [], parts, cut => by
    unfold cutAt at cut
    split at cut
    next empty =>
      rw [some.injEq] at cut
      rw [← cut, empty]
      rfl
    next => cases cut
  | c :: cs, parts, cut => by
    rw [cutAt] at cut
    cases stripped : stripPrefix sep (c :: cs) with
    | some rest =>
      rw [stripped, some.injEq] at cut
      rw [stripPrefix_eq_some stripped, ← cut]
      rfl
    | none =>
      rw [stripped, map_eq_some_iff] at cut
      obtain ⟨later, cut, rfl⟩ := cut
      exact congrArg (c :: ·) (cutAt_eq_some cut)

theorem cutAt_append (sep : List Char) (absent : c ∉ front) (back : List Char) :
    cutAt (c :: sep) (front ++ (c :: sep ++ back)) = some (front, back) := by
  induction front with
  | nil => rw [nil_append, cons_append, cutAt, ← cons_append, stripPrefix_append]
  | cons d front ih =>
    rw [mem_cons, not_or] at absent
    rw [cons_append, cutAt, stripPrefix_of_ne absent.1, ih absent.2]
    rfl

/-- The texts before and after the last `sep` (`str::rsplit_once`). -/
def rcutAt (sep : Char) : List Char → Option (List Char × List Char)
  | [] => none
  | c :: cs =>
    match rcutAt sep cs with
    | some parts => some (c :: parts.1, parts.2)
    | none => if c = sep then some ([], cs) else none

theorem rcutAt_eq_none (absent : sep ∉ text) : rcutAt sep text = none := by
  induction text with
  | nil => rfl
  | cons c cs ih =>
    rw [mem_cons, not_or] at absent
    rw [rcutAt, ih absent.2]
    exact if_neg (Ne.symm absent.1)

theorem rcutAt_append (absent : sep ∉ back) (front : List Char) :
    rcutAt sep (front ++ sep :: back) = some (front, back) := by
  induction front with
  | nil =>
    rw [nil_append, rcutAt, rcutAt_eq_none absent]
    exact if_pos rfl
  | cons c front ih => rw [cons_append, rcutAt, ih]

/-! ### Two cuts of one text -/

/-- **Two cuts of a text at a separator are the same cut, or one is in the later part of the other.** -/
theorem cuts_compare (same : front ++ sep :: back = front' ++ sep :: back') :
    (front = front' ∧ back = back') ∨
      (∃ between, front' = front ++ sep :: between ∧ back = between ++ sep :: back') ∨
      ∃ between, front = front' ++ sep :: between ∧ back' = between ++ sep :: back := by
  rcases append_eq_append_iff.mp same with ⟨more, rfl, rest⟩ | ⟨more, rfl, rest⟩
  · cases more with
    | nil => exact .inl ⟨(append_nil front).symm, (cons_inj_right sep).mp rest⟩
    | cons c between =>
      rw [cons_append, cons.injEq] at rest
      obtain ⟨rfl, rest⟩ := rest
      exact .inr (.inl ⟨between, rfl, rest⟩)
  · cases more with
    | nil => exact .inl ⟨append_nil front', (cons_inj_right sep).mp rest.symm⟩
    | cons c between =>
      rw [cons_append, cons.injEq] at rest
      obtain ⟨rfl, rest⟩ := rest
      exact .inr (.inr ⟨between, rfl, rest⟩)

theorem cut_first (absent : sep ∉ front) (same : front ++ sep :: back = front' ++ sep :: back') :
    (front = front' ∧ back = back') ∨
      ∃ between, front' = front ++ sep :: between ∧ back = between ++ sep :: back' := by
  rcases cuts_compare same with equal | later | ⟨between, rfl, -⟩
  · exact .inl equal
  · exact .inr later
  · exact absurd (mem_append_right _ (.head _)) absent

theorem cut_inj (absent : sep ∉ front) (absent' : sep ∉ front')
    (same : front ++ sep :: back = front' ++ sep :: back') :
    front = front' ∧ back = back' := by
  rcases cut_first absent same with equal | ⟨between, rfl, -⟩
  · exact equal
  · exact absurd (mem_append_right _ (.head _)) absent'

theorem rcut_inj (absent : sep ∉ back) (absent' : sep ∉ back')
    (same : front ++ sep :: back = front' ++ sep :: back') :
    front = front' ∧ back = back' := by
  rcases cuts_compare same with equal | ⟨between, -, rfl⟩ | ⟨between, -, rfl⟩
  · exact equal
  · exact absurd (mem_append_right _ (.head _)) absent
  · exact absurd (mem_append_right _ (.head _)) absent'

/-! ### Ends of a text -/

theorem alphanum_range (alphanumeric : c.isAlphanum = true) : 48 ≤ c.toNat ∧ c.toNat ≤ 122 := by
  have ranges : ((decide (65 ≤ c.val ∧ c.val ≤ 90) || (decide (97 ≤ c.val) && decide (c.val ≤ 122))) ||
      (decide (48 ≤ c.val) && decide (c.val ≤ 57))) = true := alphanumeric
  simp only [Bool.or_eq_true, Bool.and_eq_true, decide_eq_true_eq, UInt32.le_iff_toNat_le] at ranges
  change ((65 ≤ c.toNat ∧ c.toNat ≤ 90) ∨ 97 ≤ c.toNat ∧ c.toNat ≤ 122) ∨
    48 ≤ c.toNat ∧ c.toNat ≤ 57 at ranges
  omega

theorem isWhitespace_of_alphanum (alphanumeric : c.isAlphanum = true) : isWhitespace c = false := by
  have := alphanum_range alphanumeric
  simp only [isWhitespace, Bool.or_eq_false_iff, Bool.and_eq_false_iff, decide_eq_false_iff_not]
  omega

/-- **A text that does not begin or end with white space.** -/
def Solid (text : List Char) : Prop :=
  (∀ c ∈ text.head?, isWhitespace c = false) ∧ ∀ c ∈ text.getLast?, isWhitespace c = false

instance instDecidableSolid (text : List Char) : Decidable (Solid text) :=
  @instDecidableAnd _ _ (decidableForallMem text.head?)
    (decidableForallMem text.getLast?)

theorem Solid.of_all (all : ∀ c ∈ text, isWhitespace c = false) : Solid text :=
  ⟨fun c isHead => all c (mem_of_mem_head? isHead),
    fun c isLast => all c (mem_of_getLast? isLast)⟩

theorem Solid.append {one other : List Char} (first : Solid one) (second : Solid other) :
    Solid (one ++ other) := by
  constructor
  · intro c isHead
    rw [head?_append] at isHead
    rcases or_eq_some_iff.mp isHead with inOne | ⟨-, inOther⟩
    · exact first.1 c inOne
    · exact second.1 c inOther
  · intro c isLast
    rw [getLast?_append] at isLast
    rcases or_eq_some_iff.mp isLast with inOther | ⟨-, inOne⟩
    · exact second.2 c inOther
    · exact first.2 c inOne

theorem Solid.cons_append (begins : isWhitespace c = false) (front : List Char) (some : text ≠ [])
    (solid : Solid text) : Solid (c :: front ++ text) := by
  refine ⟨fun d isHead => ?_, fun d isLast => ?_⟩
  · rw [List.cons_append, List.head?_cons, mem_some_iff] at isHead
    rw [← isHead]
    exact begins
  · rw [getLast?_append_of_ne_nil _ some] at isLast
    exact solid.2 d isLast

theorem Solid.intercalate {sep : List Char} (between : Solid sep) :
    ∀ {parts : List (List Char)}, (∀ part ∈ parts, Solid part) → Solid (sep.intercalate parts)
  | [], _ => ⟨nofun, nofun⟩
  | [part], solid => by
    rw [intercalate_singleton]
    exact solid part (.head _)
  | part :: next :: rest, solid => by
    rw [intercalate_cons_cons]
    have first := solid part (.head _)
    have others := between.intercalate fun part mem => solid part (.tail _ mem)
    exact (first.append between).append others

theorem dropWhile_solid (begins : ∀ c ∈ text.head?, isWhitespace c = false) :
    text.dropWhile isWhitespace = text := by
  cases text with
  | nil => rfl
  | cons c cs => rw [dropWhile_cons, begins c rfl, if_neg Bool.false_ne_true]

theorem Solid.trimChars (solid : Solid text) : trimChars text = text := by
  unfold Text.trimChars trimEnd
  rw [dropWhile_solid solid.1, dropWhile_solid, reverse_reverse]
  rw [head?_reverse]
  exact solid.2

theorem Solid.trimChars_append {blanks : List Char} (solid : Solid text) (some : text ≠ [])
    (white : ∀ c ∈ blanks, isWhitespace c = true) : Text.trimChars (text ++ blanks) = text := by
  have gone : blanks.reverse.dropWhile isWhitespace = [] :=
    dropWhile_eq_nil_iff.mpr fun c mem => white c (mem_reverse.mp mem)
  have begins : ∀ c ∈ (text ++ blanks).head?, isWhitespace c = false := by
    rw [head?_append_of_ne_nil _ some]
    exact solid.1
  rw [Text.trimChars, dropWhile_solid begins, trimEnd, reverse_append, dropWhile_append, gone, isEmpty_nil,
    if_pos rfl, dropWhile_solid (head?_reverse ▸ solid.2), reverse_reverse]

/-! ### Decimal numbers -/

/-- The sign of a number and what follows. -/
def signed : List Char → Bool × List Char
  | '-' :: digits => (true, digits)
  | '+' :: digits => (false, digits)
  | digits => (false, digits)

def parseI64 (text : List Char) : Option Int64 :=
  let digits := (signed text).2
  let value : Int := ofDigitChars 10 digits 0
  let value := if (signed text).1 then -value else value
  if digits ≠ [] ∧ digits.all Char.isDigit ∧ Int64.minValue.toInt ≤ value ∧
      value ≤ Int64.maxValue.toInt then
    some (Int64.ofInt value)
  else none

theorem signed_digits {digits : List Char} (are : ∀ c ∈ digits, c.isDigit = true) :
    signed digits = (false, digits) := by
  unfold signed
  split
  next => nomatch are '-' (.head _)
  next => nomatch are '+' (.head _)
  next => rfl

variable (id : Int64)

/-- The decimal representation: a sign for the negative numbers, and the digits. -/
theorem toString_toList : (toString id).toList =
    (if id.toInt < 0 then ['-'] else []) ++ toDigits 10 id.toInt.natAbs := by
  have shown : toString id = id.toInt.repr := rfl
  rw [shown]
  cases id.toInt with
  | ofNat n =>
    exact String.toList_ofList
  | negSucc n =>
    rw [if_pos (Int.negSucc_lt_zero n)]
    show ("-" ++ String.ofList (toDigits 10 (n + 1))).toList = _
    rw [String.toList_append, String.toList_ofList (l := toDigits 10 (n + 1))]
    rfl

theorem natText (n : Nat) : (toString n).toList = toDigits 10 n := String.toList_ofList

theorem isDigit_of_mem (mem : c ∈ toDigits 10 n) : c.isDigit = true :=
  isDigit_of_mem_toDigits (by decide) (by decide) mem

/-- **A number is read back from its decimal representation.** -/
theorem parseI64_toString : parseI64 (toString id).toList = some id := by
  have parts : signed (toString id).toList =
      (decide (id.toInt < 0), toDigits 10 id.toInt.natAbs) := by
    rw [toString_toList]
    by_cases negative : id.toInt < 0
    · rw [if_pos negative, decide_eq_true negative]
      rfl
    · rw [if_neg negative, decide_eq_false negative, nil_append]
      exact signed_digits fun c => isDigit_of_mem
  have number : ofDigitChars 10 (toDigits 10 id.toInt.natAbs) 0 = id.toInt.natAbs :=
    ofDigitChars_toDigits (by decide) (by decide)
  have value : (if decide (id.toInt < 0) = true then -(id.toInt.natAbs : Int) else id.toInt.natAbs) =
      id.toInt := by
    split <;> grind
  have digits : (toDigits 10 id.toInt.natAbs).all Char.isDigit = true :=
    all_eq_true.mpr fun c => isDigit_of_mem
  unfold parseI64
  rw [parts]
  dsimp only
  rw [number, value, if_pos ⟨toDigits_ne_nil, digits, id.minValue_le_toInt, id.toInt_le⟩, Int64.ofInt_toInt]

def parseU32 (text : List Char) : Option Nat :=
  let digits := (stripPrefix ['+'] text).getD text
  let value := ofDigitChars 10 digits 0
  if digits ≠ [] ∧ digits.all Char.isDigit ∧ value < UInt32.size then some value else none

def parseU64 (text : List Char) : Option Nat :=
  let digits := (stripPrefix ['+'] text).getD text
  let value := ofDigitChars 10 digits 0
  if digits ≠ [] ∧ digits.all Char.isDigit ∧ value < UInt64.size then some value else none

theorem unsigned_toString {size : Nat} (small : n < size) :
    (let digits := (stripPrefix ['+'] (toString n).toList).getD (toString n).toList
    let value := ofDigitChars 10 digits 0
    if digits ≠ [] ∧ digits.all Char.isDigit ∧ value < size then some value else none) = some n := by
  have unsigned : stripPrefix ['+'] (toDigits 10 n) = none := by
    rw [stripPrefix, if_neg]
    intro starts
    have mem := (List.isPrefixOf_iff_prefix.mp starts).subset (.head _)
    nomatch isDigit_of_mem mem
  have digits : (toDigits 10 n).all Char.isDigit = true :=
    all_eq_true.mpr fun c => isDigit_of_mem
  have number : ofDigitChars 10 (toDigits 10 n) 0 = n :=
    ofDigitChars_toDigits (by decide) (by decide)
  rw [natText, unsigned]
  dsimp only [getD_none]
  rw [number, if_pos ⟨toDigits_ne_nil, digits, small⟩]

theorem parseU32_toString (small : n < UInt32.size) : parseU32 (toString n).toList = some n :=
  unsigned_toString small

theorem parseU64_toString (small : n < UInt64.size) : parseU64 (toString n).toList = some n :=
  unsigned_toString small

theorem not_mem_toString (other : c.isDigit = false) : c ∉ (toString n).toList := by
  rw [natText]
  intro mem
  exact absurd (isDigit_of_mem mem) (by simp [other])

theorem isAlphanum_of_mem (mem : c ∈ (toString n).toList) : c.isAlphanum = true := by
  rw [Char.isAlphanum, isDigit_of_mem (natText n ▸ mem), Bool.or_true]

theorem solid_toString : Solid (toString n).toList :=
  .of_all fun _ mem => isWhitespace_of_alphanum (isAlphanum_of_mem mem)

theorem toString_ne_nil (n : Nat) : (toString n).toList ≠ [] := by
  rw [natText]
  exact toDigits_ne_nil

/-- A decimal representation holds digits and perhaps a sign. -/
theorem mem_toString (mem : c ∈ (toString id).toList) : c = '-' ∨ c.isDigit = true := by
  rw [toString_toList] at mem
  rcases mem_append.mp mem with isSign | isDigit
  · left
    split at isSign
    · exact mem_singleton.mp isSign
    · cases isSign
  · exact .inr (isDigit_of_mem isDigit)

end Detrix.Library.Text
