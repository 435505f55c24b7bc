/-
**Regular expressions with captures, leftmost first.**

A backtracking matcher as a list of successes: `runs r text` lists the ways `r` matches a beginning
of the text, in the order a backtracking engine tries them, each with the rest of the text and the
captured groups. The match of an engine is the first of them, at the leftmost place where there is
one (`search`); `captures` collects the matches one after the other.

`First r text rest groups` says which match comes first. Its rules follow the constructors
(`First.one`, `First.many`, `First.seq`, …), so that the match of a pattern on a text of known shape
is derived piece by piece; `search_skip` moves the search over a beginning where nothing matches.
-/

import Mathlib.Data.List.Basic

namespace Detrix.Library.Regex

open List

/-- A regular expression over character classes. -/
inductive Rx where
  /-- One character of a class. -/
  | one (p : Char → Bool)
  /-- As many characters of a class as possible. -/
  | many (p : Char → Bool)
  | seq (a b : Rx)
  /-- The first alternative is tried first. -/
  | alt (a b : Rx)
  /-- The expression if possible, else nothing. -/
  | opt (a : Rx)
  /-- The expression as many times as possible. -/
  | rep (a : Rx)
  | group (a : Rx)

/-- A match: the rest of the text and the captured groups. -/
abbrev Match : Type := List Char × List (List Char)

/-- The ways to take characters of a class, longest first. -/
def manyRuns (p : Char → Bool) : List Char → List Match
  | [] => [([], [])]
  | c :: cs => if p c then manyRuns p cs ++ [(c :: cs, [])] else [(c :: cs, [])]

/-- Run the second expression after each way of the first. -/
def chain (first : List Match) (second : List Char → List Match) : List Match :=
  first.flatMap fun m => (second m.1).map fun n => (n.1, m.2 ++ n.2)

/-- The ways to repeat an expression, each time on a shorter text; the number bounds the times. -/
def repRuns (once : List Char → List Match) : Nat → List Char → List Match
  | 0, text => [(text, [])]
  | times + 1, text =>
    chain ((once text).filter fun m => m.1.length < text.length) (repRuns once times) ++
      [(text, [])]

/-- **The ways an expression matches a beginning of the text**, in the order they are tried. -/
def runs : Rx → List Char → List Match
  | .one _, [] => []
  | .one p, c :: cs => if p c then [(cs, [])] else []
  | .many p, text => manyRuns p text
  | .seq a b, text => chain (runs a text) (runs b)
  | .alt a b, text => runs a text ++ runs b text
  | .opt a, text => runs a text ++ [(text, [])]
  | .rep a, text => repRuns (runs a) text.length text
  | .group a, text =>
    (runs a text).map fun m => (m.1, text.take (text.length - m.1.length) :: m.2)

section Rules

variable (a b : Rx) (text : List Char)

theorem runs_seq : runs (.seq a b) text = chain (runs a text) (runs b) := rfl

theorem runs_opt : runs (.opt a) text = runs a text ++ [(text, [])] := rfl

theorem runs_group : runs (.group a) text =
    (runs a text).map fun m => (m.1, text.take (text.length - m.1.length) :: m.2) := rfl

end Rules

theorem runs_one (p : Char → Bool) (c : Char) (cs : List Char) :
    runs (.one p) (c :: cs) = if p c then [(cs, [])] else [] := rfl

def matchHere (r : Rx) (text : List Char) : Option Match := (runs r text).head?

def search (r : Rx) : List Char → Option Match
  | [] => matchHere r []
  | c :: cs => (matchHere r (c :: cs)).or (search r cs)

/-- The groups of the successive matches of an expression that matches no empty text; the number
bounds how many are looked for. -/
def capturesFrom (r : Rx) : Nat → List Char → List (List (List Char))
  | 0, _ => []
  | count + 1, text =>
    match search r text with
    | some (rest, groups) => groups :: capturesFrom r count rest
    | none => []

def captures (r : Rx) (text : List Char) : List (List (List Char)) :=
  capturesFrom r text.length text

/-! ### The match that comes first -/

/-- **`r` first matches so.** -/
def First (r : Rx) (text rest : List Char) (groups : List (List Char)) : Prop :=
  matchHere r text = some (rest, groups)

/-- `r` matches no beginning of the text. -/
def Fails (r : Rx) (text : List Char) : Prop := runs r text = []

variable {rest : List Char} {groups : List (List Char)} {p : Char → Bool} {r : Rx}

theorem First.one {c : Char} (inClass : p c = true) (cs : List Char) :
    First (.one p) (c :: cs) cs [] := by
  rw [First, matchHere, runs_one, if_pos inClass, head?_cons]

theorem manyRuns_head (p : Char → Bool) (rest : List Char)
    (stop : ∀ c ∈ rest.head?, p c = false) :
    ∀ word : List Char, (∀ c ∈ word, p c = true) →
      (manyRuns p (word ++ rest)).head? = some (rest, [])
  | [], _ => by
    cases rest with
    | nil => rfl
    | cons c cs => simp [manyRuns, stop c rfl]
  | c :: word, inClass => by
    have tail := manyRuns_head p rest stop word fun d mem =>
      inClass d (.tail _ mem)
    rw [cons_append, manyRuns, if_pos (inClass c (.head _)), head?_append, tail]
    rfl

/-- A run of a class takes all of its characters. -/
theorem First.many {word : List Char} (inClass : ∀ c ∈ word, p c = true)
    (stop : ∀ c ∈ rest.head?, p c = false) : First (.many p) (word ++ rest) rest [] :=
  manyRuns_head p rest stop word inClass

theorem chain_head {first : List Match} {second : List Char → List Match} {m n : Match}
    (head : first.head? = some m) (next : (second m.1).head? = some n) :
    (chain first second).head? = some (n.1, m.2 ++ n.2) := by
  cases first with
  | nil => simp at head
  | cons a others =>
    cases head
    rw [chain, flatMap_cons, head?_append, head?_map, next]
    rfl

variable {text : List Char} {a : Rx}

theorem First.seq {b : Rx} {middle : List Char} {one two : List (List Char)}
    (first : First a text middle one) (second : First b middle rest two) :
    First (.seq a b) text rest (one ++ two) :=
  chain_head first second

theorem First.optTaken (first : First a text rest groups) : First (.opt a) text rest groups := by
  unfold First matchHere at *
  rw [runs_opt, head?_append, first]
  rfl

theorem First.optSkipped (fails : Fails a text) : First (.opt a) text text [] := by
  unfold First matchHere
  rw [runs_opt, fails]
  rfl

theorem First.group {word : List Char} (first : First a (word ++ rest) rest groups) :
    First (.group a) (word ++ rest) rest (word :: groups) := by
  unfold First matchHere at *
  rw [runs_group, head?_map, first]
  simp

/-! ### Places without a match -/

theorem Fails.one (stop : ∀ c ∈ text.head?, p c = false) : Fails (.one p) text := by
  cases text with
  | nil => rfl
  | cons c cs => rw [Fails, runs_one, stop c rfl, if_neg Bool.false_ne_true]

theorem Fails.seq (fails : Fails a text) (b : Rx) : Fails (.seq a b) text := by
  unfold Fails at *
  rw [runs_seq, fails]
  rfl

theorem Fails.group (fails : Fails a text) : Fails (.group a) text := by
  unfold Fails at *
  rw [runs_group, fails]
  rfl

/-! ### Searching -/

theorem search_of_first (first : First r text rest groups) : search r text = some (rest, groups) := by
  cases text with
  | nil => exact first
  | cons c cs =>
    rw [search, show matchHere r (c :: cs) = some (rest, groups) from first]
    rfl

/-- The search moves over a beginning at whose characters nothing matches. -/
theorem search_skip : ∀ start : List Char, (∀ c ∈ start, ∀ cs, Fails r (c :: cs)) →
      search r (start ++ text) = search r text
  | [], _ => rfl
  | c :: start, fails => by
    have here : matchHere r (c :: (start ++ text)) = none := by
      rw [matchHere, fails c (.head _) (start ++ text), head?_nil]
    rw [cons_append, search, here, Option.none_or]
    exact search_skip start fun d mem => fails d (.tail _ mem)

/-- The groups of the leftmost match are among the captures. -/
theorem mem_captures_of_search (found : search r text = some (rest, groups))
    (nonempty : text ≠ []) : groups ∈ captures r text := by
  cases text with
  | nil => exact absurd rfl nonempty
  | cons c cs =>
    rw [captures, length_cons, capturesFrom, found]
    exact .head _

end Detrix.Library.Regex
