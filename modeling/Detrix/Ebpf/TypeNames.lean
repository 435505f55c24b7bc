/-
**The arguments of a printed type.**

The scanners of printed names count angle brackets only, and a tuple has its commas outside of them.

- `Passed`, `Cut`: a text is read to its end, or a stop stands inside; both compose.
- `RustType.passed`, `RustType.cut`: a printed type is passed exactly if no tuple stands outside of its
  angle brackets.
- `arguments_found_iff`: these are the arguments that are found.
-/

import Detrix.Library.Delimited
import Mathlib.Data.Bool.AllAny

namespace Detrix.Ebpf

open Library Text List

/-! ### The scanners -/

/-- The text before the first stop outside of angle brackets, and the text behind it. -/
def scanTo (stops : Char → Bool) : Nat → List Char → Option (List Char × List Char)
  | _, [] => none
  | depth, c :: rest =>
    if depth = 0 && stops c then some ([], rest)
    else
      (scanTo stops (if c = '<' then depth + 1 else if c = '>' then depth - 1 else depth) rest).map
        fun found => (c :: found.1, found.2)

def isEnd (c : Char) : Bool := c = ',' || c = '>'

def isComma (c : Char) : Bool := c = ','

def afterOpening (name : String) : Option (List Char) :=
  (name.toList.dropWhile (· != '<')).tail?

def rustContainerElementName (name : String) : Option String :=
  match stripPrefix "&[".toList name.toList <|> stripPrefix "&mut [".toList name.toList with
  | some inner => (stripSuffix "]" (.ofList inner)).map trim
  | none => do
    let rest ← afterOpening name
    let found ← scanTo isEnd 0 rest
    return .ofList (trimChars found.1)

def rustMapTypeArguments (name : String) : Option (String × String) := do
  let rest ← afterOpening name
  let found ← scanTo isComma 0 rest
  let value := trimChars found.2
  -- A value that is not closed is taken to its end.
  let value := ((scanTo isEnd 0 value).map Prod.fst).getD value
  return (.ofList (trimChars found.1), .ofList (trimChars value))

/-! ### Printed types -/

structure Path where
  text : List Char
  nonempty : text ≠ []
  plain : ∀ c ∈ text, isWhitespace c = false ∧ c ∉ ['<', '>', ',', '&']

inductive RustType where
  | path (path : Path)
  | generic (path : Path) (first : RustType) (others : List RustType)
  | unit
  | tuple (first : RustType) (others : List RustType)
  | slice (element : RustType)
  | array (element : RustType) (count : Nat)
  | reference (isMutable : Bool) (target : RustType)

mutual

def RustType.chars : RustType → List Char
  | .path path => path.text
  | .generic path first others => path.text ++ (['<'] ++ (first.chars ++ listed others) ++ ['>'])
  | .unit => ['(', ')']
  | .tuple first others =>
    -- A tuple of one has a comma, too.
    ['('] ++ first.chars ++ listed others ++ (if others.isEmpty then [','] else []) ++ [')']
  | .slice element => ['['] ++ element.chars ++ [']']
  | .array element count => ['['] ++ element.chars ++ ("; ".toList ++ Nat.toDigits 10 count) ++ [']']
  | .reference isMutable target => (if isMutable then "&mut ".toList else ['&']) ++ target.chars

def listed : List RustType → List Char
  | [] => []
  | item :: items => ", ".toList ++ item.chars ++ listed items

end

def RustType.name (type : RustType) : String := .ofList type.chars

/-- No tuple stands outside of the angle brackets. -/
def RustType.bare : RustType → Bool
  | .path _ | .generic _ _ _ | .unit => true
  | .tuple _ _ => false
  | .slice element | .array element _ | .reference _ element => element.bare

/-! ### Passed and cut texts -/

section Scans

variable {stops : Char → Bool} {depth : Nat} {text more : List Char}

def Passed (stops : Char → Bool) (depth : Nat) (text : List Char) : Prop :=
  ∀ rest, scanTo stops depth (text ++ rest) =
    (scanTo stops depth rest).map fun found => (text ++ found.1, found.2)

def Cut (stops : Char → Bool) (text : List Char) : Prop :=
  ∃ front, front.length < text.length ∧
    ∀ rest, ∃ behind, scanTo stops 0 (text ++ rest) = some (front, behind)

theorem Passed.append (first : Passed stops depth text) (second : Passed stops depth more) :
    Passed stops depth (text ++ more) := by
  intro rest
  rw [append_assoc, first, second, Option.map_map]
  simp [Function.comp_def]

theorem passed_of_forall (free : ∀ c ∈ text, c ≠ '<' ∧ c ≠ '>' ∧ (0 < depth ∨ stops c = false)) :
    Passed stops depth text := by
  intro rest
  induction text with
  | nil => simp
  | cons c text ih =>
    rw [forall_mem_cons] at free
    obtain ⟨⟨notOpen, notClose, goesOn⟩, free⟩ := free
    have notStop : ¬ (decide (depth = 0) && stops c) = true := by
      rcases goesOn with mem | goesOn
      · simp [Nat.ne_of_gt mem]
      · simp [goesOn]
    rw [cons_append, scanTo, if_neg notStop, if_neg notOpen, if_neg notClose, ih free, Option.map_map]
    rfl

theorem Passed.bracketed (mem : Passed stops (depth + 1) text) (goesOn : stops '<' = false) :
    Passed stops depth (['<'] ++ text ++ ['>']) := by
  intro rest
  have close : ∀ found, scanTo stops (depth + 1) ('>' :: found) =
      (scanTo stops depth found).map fun found => ('>' :: found.1, found.2) := fun found => rfl
  rw [append_assoc, append_assoc, singleton_append, scanTo, goesOn, if_neg (by simp), if_pos rfl, mem,
    singleton_append, close, Option.map_map, Option.map_map]
  simp [Function.comp_def]

theorem Passed.cut (front : Passed stops 0 text) (behind : Cut stops more) : Cut stops (text ++ more) := by
  obtain ⟨kept, shorter, isCut⟩ := behind
  refine ⟨text ++ kept, by simpa using shorter, fun rest => ?_⟩
  obtain ⟨behind, found⟩ := isCut rest
  exact ⟨behind, by rw [append_assoc, front, found]; rfl⟩

theorem Cut.append (front : Cut stops text) (more : List Char) : Cut stops (text ++ more) := by
  obtain ⟨kept, shorter, isCut⟩ := front
  refine ⟨kept, by rw [length_append]; omega, fun rest => ?_⟩
  rw [append_assoc]
  exact isCut (more ++ rest)

theorem cut_of_stop {c : Char} (isStop : stops c = true) (more : List Char) : Cut stops (c :: more) :=
  ⟨[], by simp, fun rest => ⟨more ++ rest, by rw [cons_append, scanTo, isStop]; rfl⟩⟩

end Scans

/-! ### Types are passed or cut -/

section Types

variable {stops : Char → Bool} (only : ∀ c, c ∉ [',', '>'] → stops c = false)

include only

theorem passed_plain {depth : Nat} {text : List Char} (plain : text.all (· ∉ ['<', '>', ',']) = true) :
    Passed stops depth text := by
  refine passed_of_forall fun c mem => ?_
  have free := all_iff_forall_prop.mp plain c mem
  simp only [mem_cons, not_mem_nil, or_false, not_or] at free
  exact ⟨free.1, free.2.1, .inr (only c (by simp [free.2]))⟩

theorem passed_path (path : Path) (depth : Nat) : Passed stops depth path.text := by
  refine passed_plain only (all_iff_forall_prop.mpr fun c mem => ?_)
  have free := (path.plain c mem).2
  simp only [mem_cons, not_mem_nil, or_false, not_or] at free ⊢
  exact ⟨free.1, free.2.1, free.2.2.1⟩

theorem passed_count (count depth : Nat) : Passed stops depth ("; ".toList ++ Nat.toDigits 10 count) := by
  refine (passed_plain only rfl).append
    (passed_plain only (all_iff_forall_prop.mpr fun c isDigit => ?_))
  have digit := Nat.isDigit_of_mem_toDigits (by decide) (by decide) isDigit
  intro isBracket
  simp only [mem_cons, not_mem_nil, or_false] at isBracket
  rcases isBracket with rfl | rfl | rfl <;> cases digit

theorem passed_reference (isMutable : Bool) (depth : Nat) :
    Passed stops depth (if isMutable then "&mut ".toList else ['&']) := by
  cases isMutable <;> exact passed_plain only rfl

mutual

/-- A printed type is passed inside of angle brackets, and outside of them if it is bare. -/
theorem RustType.passed : ∀ (type : RustType) {depth : Nat}, 0 < depth ∨ type.bare = true →
    Passed stops depth type.chars
  | .path path, depth, _ => passed_path only path depth
  | .generic path first others, depth, _ => by
    have inner := (first.passed (.inl (Nat.succ_pos depth))).append (passed_listed others (Nat.succ_pos depth))
    exact (passed_path only path depth).append (inner.bracketed (only _ (by decide)))
  | .unit, depth, _ => passed_plain only rfl
  | .tuple first others, depth, free => by
    have mem : 0 < depth := free.resolve_right (by simp [RustType.bare])
    refine (((Passed.append ?_ (first.passed (.inl mem))).append (passed_listed others mem)).append
      ?_).append ?_
    · exact passed_plain only rfl
    · exact passed_of_forall (by cases others <;> simp [mem])
    · exact passed_plain only rfl
  | .slice element, depth, free => by
    refine (Passed.append ?_ (element.passed free)).append ?_ <;> exact passed_plain only rfl
  | .array element count, depth, free => by
    refine ((Passed.append ?_ (element.passed free)).append (passed_count only count depth)).append ?_ <;>
      exact passed_plain only rfl
  | .reference isMutable target, depth, free => by
    exact (passed_reference only isMutable depth).append (target.passed free)

theorem passed_listed : ∀ (items : List RustType) {depth : Nat}, 0 < depth →
    Passed stops depth (listed items)
  | [], depth, _ => passed_plain only rfl
  | item :: items, depth, mem => by
    exact ((passed_of_forall (by simp [mem])).append (item.passed (.inl mem))).append
      (passed_listed items mem)

end

theorem RustType.cut (comma : stops ',' = true) : ∀ type : RustType, type.bare = false → Cut stops type.chars
  | .tuple first others, _ => by
    rw [RustType.chars]
    have opening : Passed stops 0 ['('] := passed_plain only rfl
    cases isBare : first.bare with
    | false => exact (((opening.cut (first.cut comma isBare)).append _).append _).append _
    | true =>
      -- The comma stands behind the first item, or at the end.
      refine .append ?_ _
      rw [append_assoc]
      refine (opening.append (first.passed only (.inr isBare))).cut ?_
      cases others with
      | nil => exact cut_of_stop comma []
      | cons second others => exact cut_of_stop comma _
  | .slice element, notBare => by
    rw [RustType.chars]
    exact ((passed_plain only rfl).cut (element.cut comma notBare)).append _
  | .array element count, notBare => by
    rw [RustType.chars]
    exact (((passed_plain only rfl).cut (element.cut comma notBare)).append _).append _
  | .reference isMutable target, notBare => by
    rw [RustType.chars]
    exact (passed_reference only isMutable 0).cut (target.cut comma notBare)

end Types

theorem RustType.solid : ∀ type : RustType, type.chars ≠ [] ∧ Solid type.chars
  | .path name => ⟨name.nonempty, .of_all fun c mem => (name.plain c mem).1⟩
  | .generic name first others => by
    rw [RustType.chars]
    have named : Solid name.text := .of_all fun c mem => (name.plain c mem).1
    exact ⟨by simp, named.append (.cons_append rfl (first.chars ++ listed others) (by simp) (by decide))⟩
  | .unit => ⟨nofun, by decide⟩
  | .tuple _ _ | .slice _ | .array _ _ => by
    rw [RustType.chars]
    exact ⟨by simp, .cons_append rfl _ (by simp) (by decide)⟩
  | .reference isMutable target => by
    rw [RustType.chars]
    obtain ⟨some, solid⟩ := target.solid
    cases isMutable <;> exact ⟨by simp, .cons_append rfl _ some solid⟩

/-! ### Arguments -/

section Arguments

variable (path : Path) (first : RustType)

/-- Before a stop, what is found is the type if it is bare, and less than it otherwise. -/
theorem RustType.found (stops : Char → Bool) (only : ∀ c, c ∉ [',', '>'] → stops c = false)
    (comma : stops ',' = true) (type : RustType) {c : Char} (isStop : stops c = true) (rest : List Char) :
    ∃ front behind, scanTo stops 0 (type.chars ++ c :: rest) = some (front, behind) ∧
      (String.ofList (trimChars front) = type.name ↔ type.bare = true) ∧
      (type.bare = true → behind = rest) := by
  cases isBare : type.bare with
  | true =>
    refine ⟨type.chars, rest, ?_, iff_of_true (congrArg _ type.solid.2.trimChars) rfl, fun _ => rfl⟩
    rw [type.passed only (.inr isBare), scanTo, isStop]
    simp
  | false =>
    obtain ⟨front, shorter, isCut⟩ := type.cut only comma isBare
    obtain ⟨behind, found⟩ := isCut (c :: rest)
    refine ⟨front, behind, found, iff_of_false (fun same => ?_) (by simp), nofun⟩
    have kept := (trimChars_isInfix front).length_le
    rw [String.ofList_injective same] at kept
    omega

theorem RustType.found_first (type : RustType) (others : List RustType) :
    ∃ front behind, scanTo isEnd 0 (type.chars ++ (listed others ++ ['>'])) = some (front, behind) ∧
      (String.ofList (trimChars front) = type.name ↔ type.bare = true) := by
  obtain ⟨c, rest, isStop, isRest⟩ : ∃ c rest, isEnd c = true ∧ listed others ++ ['>'] = c :: rest := by
    cases others with
    | nil => exact ⟨'>', [], rfl, rfl⟩
    | cons other others => exact ⟨',', _, rfl, rfl⟩
  rw [isRest]
  obtain ⟨front, behind, found, same, -⟩ := type.found isEnd (by simp [isEnd]) rfl isStop rest
  exact ⟨front, behind, found, same⟩

variable (others : List RustType)

theorem afterOpening_name :
    afterOpening (RustType.generic path first others).name = some (first.chars ++ (listed others ++ ['>'])) := by
  have before : ∀ c ∈ path.text, (c != '<') = true := by
    intro c mem
    have free := (path.plain c mem).2
    simp only [mem_cons, not_or] at free
    simpa using free.1
  rw [afterOpening, RustType.name, String.toList_ofList, RustType.chars, dropWhile_append_of_pos before]
  simp

theorem not_reference :
    (stripPrefix "&[".toList (RustType.generic path first others).name.toList <|>
      stripPrefix "&mut [".toList (RustType.generic path first others).name.toList) = none := by
  obtain ⟨c, text, isText⟩ := exists_cons_of_ne_nil path.nonempty
  have notReference : '&' ≠ c := by
    rintro rfl
    exact (path.plain '&' (isText ▸ .head _)).2 (by simp)
  rw [RustType.name, String.toList_ofList, RustType.chars, isText]
  simp [stripPrefix_of_ne notReference]

/-- **The arguments are found exactly if they are bare.** -/
theorem arguments_found_iff (second : RustType) (others : List RustType) :
    (rustContainerElementName (RustType.generic path first others).name = some first.name ↔
      first.bare = true) ∧
    (rustMapTypeArguments (RustType.generic path first (second :: others)).name =
      some (first.name, second.name) ↔ first.bare = true ∧ second.bare = true) := by
  constructor
  · obtain ⟨front, behind, found, same⟩ := first.found_first others
    rw [rustContainerElementName, not_reference, afterOpening_name]
    simp [found, same]
  · obtain ⟨key, behind, found, same, isRest⟩ := first.found isComma
      (by simp +contextual [isComma]) rfl (c := ',') rfl (' ' :: (second.chars ++ (listed others ++ ['>'])))
    rw [rustMapTypeArguments, afterOpening_name, listed]
    by_cases isBare : first.bare = true
    · have closed : Solid (listed others ++ ['>']) := by
        cases others with
        | nil => decide
        | cons => exact .cons_append rfl _ (by simp) (by decide)
      have value : trimChars (' ' :: (second.chars ++ (listed others ++ ['>']))) = _ :=
        (second.solid.2.append closed).trimChars
      obtain ⟨front, after, foundValue, sameValue⟩ := second.found_first others
      simp [found, same, isRest isBare, isBare, value, foundValue, sameValue]
    · simp [found, same, isBare]

end Arguments

/-- The element of a list of pairs and the arguments of a map over pairs are cut at the comma of the pair. -/
theorem pairs_are_cut :
    rustContainerElementName "Vec<(i32, u8)>" = some "(i32" ∧
      rustMapTypeArguments "HashMap<(i32, u8), u64>" = some ("(i32", "u8)") ∧
      ∃ vec i32 u8 : Path, "Vec<(i32, u8)>" =
        (RustType.generic vec (.tuple (.path i32) [.path u8]) []).name := by
  refine ⟨by decide, by decide, ⟨"Vec".toList, by decide, all_iff_forall_prop.mp rfl⟩,
    ⟨"i32".toList, by decide, all_iff_forall_prop.mp rfl⟩,
    ⟨"u8".toList, by decide, all_iff_forall_prop.mp rfl⟩, by decide⟩

end Detrix.Ebpf
