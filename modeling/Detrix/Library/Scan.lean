/-
**Cursor readers.**

A reader of a record, as a program: it asks for the next bytes, a number at a time and each part under a
name, and may look how many are left. What it reads, and where, can be told without what it makes of it.

- `run_bind`, `reads_bind`: a program in two parts.
- `Upto`: the program reads the parts of a list, one right after the other, unless it fails before.
- `Upto.bind`, `Upto.bytes`: its rules.
-/

import Mathlib.Algebra.Ring.Nat
import Mathlib.Data.List.Basic

namespace Detrix.Library

open List

/-- A program that reads parts `ν` of a record and may fail with an `ε`. -/
inductive Scan (ν ε α : Type) where
  | done (value : α)
  | fail (error : ε)
  /-- The next bytes; if there are not so many, the error depends on the offset. -/
  | read (name : ν) (count : Nat) (short : Nat → ε) (next : List UInt8 → Scan ν ε α)
  /-- The offset, and how many bytes are left. -/
  | look (next : Nat → Nat → Scan ν ε α)

namespace Scan

variable {ν ε α β : Type}

def bind (first : Scan ν ε α) (next : α → Scan ν ε β) : Scan ν ε β :=
  match first with
  | .done value => next value
  | .fail error => .fail error
  | .read name count short rest => .read name count short fun bytes => bind (rest bytes) next
  | .look rest => .look fun offset left => bind (rest offset left) next

instance : Monad (Scan ν ε) where
  pure := .done
  bind := bind

def bytes (name : ν) (count : Nat) (short : Nat → ε) : Scan ν ε (List UInt8) := .read name count short .done

def position : Scan ν ε (Nat × Nat) := .look fun offset left => .done (offset, left)

def require (ok : Bool) (error : ε) : Scan ν ε Unit := if ok then .done () else .fail error

def ofExcept : Except ε α → Scan ν ε α
  | .ok value => .done value
  | .error error => .fail error

/-! ### Runs -/

/-- The value and the offset behind what was read. -/
def run (data : List UInt8) : Scan ν ε α → Nat → Except ε (α × Nat)
  | .done value, offset => .ok (value, offset)
  | .fail error, _ => .error error
  | .read _ count short next, offset =>
    if offset + count > data.length then .error (short offset)
    else run data (next ((data.drop offset).take count)) (offset + count)
  | .look next, offset => run data (next offset (data.length - offset)) offset

structure Read (ν : Type) where
  name : ν
  offset : Nat
  count : Nat
  deriving DecidableEq

def reads (data : List UInt8) : Scan ν ε α → Nat → List (Read ν)
  | .done _, _ => []
  | .fail _, _ => []
  | .read name count _ next, offset =>
    if offset + count > data.length then []
    else ⟨name, offset, count⟩ :: reads data (next ((data.drop offset).take count)) (offset + count)
  | .look next, offset => reads data (next offset (data.length - offset)) offset

theorem run_bind (data : List UInt8) (first : Scan ν ε α) (next : α → Scan ν ε β) (offset : Nat) :
    run data (first >>= next) offset =
      match run data first offset with
      | .ok (value, finish) => run data (next value) finish
      | .error error => .error error := by
  induction first generalizing offset with
  | done value | fail error => rfl
  | read name count short rest ih =>
    show run data (.read name count short fun bytes => rest bytes >>= next) offset = _
    rw [run, run]
    split
    · rfl
    · exact ih _ _
  | look rest ih => exact ih _ _ _

theorem reads_bind (data : List UInt8) (first : Scan ν ε α) (next : α → Scan ν ε β) (offset : Nat) :
    reads data (first >>= next) offset = reads data first offset ++
      match run data first offset with
      | .ok (value, finish) => reads data (next value) finish
      | .error _ => [] := by
  induction first generalizing offset with
  | done value | fail error => rfl
  | read name count short rest ih =>
    show reads data (.read name count short fun bytes => rest bytes >>= next) offset = _
    rw [reads, reads, run]
    split
    · rfl
    · rw [cons_append]
      exact congrArg _ (ih _ _)
  | look rest ih => exact ih _ _ _

/-! ### Parts in a row -/

/-- The parts one right after the other. -/
def row (offset : Nat) : List (ν × Nat) → List (Read ν)
  | [] => []
  | (name, count) :: rest => ⟨name, offset, count⟩ :: row (offset + count) rest

def total (parts : List (ν × Nat)) : Nat := (parts.map Prod.snd).sum

@[simp] theorem total_nil : total ([] : List (ν × Nat)) = 0 := rfl

@[simp] theorem total_cons (name : ν) (count : Nat) (rest : List (ν × Nat)) :
    total ((name, count) :: rest) = count + total rest := rfl

@[simp] theorem total_append (front rest : List (ν × Nat)) : total (front ++ rest) = total front + total rest := by
  rw [total, map_append, sum_append]
  rfl

theorem row_append (offset : Nat) (front rest : List (ν × Nat)) :
    row offset (front ++ rest) = row offset front ++ row (offset + total front) rest := by
  induction front generalizing offset with
  | nil => rfl
  | cons part front ih =>
    rw [cons_append, row, row, cons_append, ih, total, total, map_cons, sum_cons, Nat.add_assoc]

/-- **The program reads the parts in a row**, unless it fails before; if `sure`, it does not fail. -/
structure Upto (sure : Prop) (data : List UInt8) (program : Scan ν ε α) (offset : Nat)
    (parts : List (ν × Nat)) : Prop where
  front : reads data program offset <+: row offset parts
  whole : ∀ {value finish}, run data program offset = .ok (value, finish) →
    reads data program offset = row offset parts ∧ finish = offset + total parts
  ends : sure → ∃ value, run data program offset = .ok (value, offset + total parts)

variable {sure : Prop} {data : List UInt8} {offset : Nat}

theorem Upto.done (value : α) : Upto sure data (pure value : Scan ν ε α) offset [] where
  front := prefix_refl _
  whole ended := by
    cases ended
    exact ⟨rfl, rfl⟩
  ends _ := ⟨value, rfl⟩

theorem Upto.fail (unsure : ¬ sure) (error : ε) (parts : List (ν × Nat)) :
    Upto sure data (.fail error : Scan ν ε α) offset parts where
  front := nil_prefix
  whole ended := by cases ended
  ends isSure := absurd isSure unsure

variable {count : Nat}

theorem run_bytes (name : ν) (short : Nat → ε) (enough : offset + count ≤ data.length) :
    run data (Scan.bytes name count short) offset =
      .ok ((data.drop offset).take count, offset + count) := by
  rw [Scan.bytes, run, if_neg (Nat.not_lt.mpr enough)]
  rfl

theorem Upto.bytes (name : ν) (short : Nat → ε) (enough : offset + count ≤ data.length) :
    Upto sure data (Scan.bytes name count short : Scan ν ε _) offset [(name, count)] := by
  have reading : reads data (Scan.bytes name count short) offset = row offset [(name, count)] := by
    rw [Scan.bytes, reads, if_neg (Nat.not_lt.mpr enough)]
    rfl
  have runs := run_bytes name short enough
  refine ⟨reading ▸ prefix_refl _, fun ended => ⟨reading, ?_⟩, fun _ => ⟨_, runs⟩⟩
  cases runs.symm.trans ended
  rfl

theorem Upto.ofExcept {result : Except ε α} (fine : sure → ∃ value, result = .ok value) :
    Upto sure data (Scan.ofExcept result : Scan ν ε α) offset [] := by
  cases result with
  | ok value => exact .done value
  | error error =>
    refine .fail (fun isSure => ?_) error []
    obtain ⟨value, isOk⟩ := fine isSure
    cases isOk

theorem Upto.require {ok : Bool} (fine : sure → ok = true) (error : ε) :
    Upto sure data (Scan.require ok error : Scan ν ε _) offset [] := by
  cases ok with
  | true => exact .done ()
  | false => exact .fail (fun isSure => Bool.false_ne_true (fine isSure)) error []

variable {next : α → Scan ν ε β}

theorem Upto.bind {first : Scan ν ε α} {front rest : List (ν × Nat)}
    (begins : Upto sure data first offset front)
    (goesOn : ∀ value, run data first offset = .ok (value, offset + total front) →
      Upto sure data (next value) (offset + total front) rest) :
    Upto sure data (first >>= next) offset (front ++ rest) := by
  cases ends : run data first offset with
  | error error =>
    have unsure : ¬ sure := fun isSure => by
      obtain ⟨value, isOk⟩ := begins.ends isSure
      cases ends.symm.trans isOk
    refine ⟨?_, fun ended => ?_, fun isSure => absurd isSure unsure⟩
    · rw [reads_bind, ends, append_nil, row_append]
      exact begins.front.trans (prefix_append _ _)
    · rw [run_bind, ends] at ended
      cases ended
  | ok result =>
    obtain ⟨value, finish⟩ := result
    obtain ⟨firstReads, rfl⟩ := begins.whole ends
    have later := goesOn value ends
    have reading : reads data (first >>= next) offset =
        row offset front ++ reads data (next value) (offset + total front) := by
      rw [reads_bind, ends, firstReads]
    have runs : run data (first >>= next) offset = run data (next value) (offset + total front) := by
      rw [run_bind, ends]
    have span : offset + total (front ++ rest) = offset + total front + total rest := by
      rw [total_append, Nat.add_assoc]
    refine ⟨?_, fun ended => ?_, fun isSure => ?_⟩
    · rw [reading, row_append]
      exact (prefix_append_right_inj _).mpr later.front
    · obtain ⟨restReads, isFinish⟩ := later.whole (runs.symm.trans ended)
      rw [reading, restReads, row_append, span]
      exact ⟨rfl, isFinish⟩
    · rw [runs, span]
      exact later.ends isSure

variable {parts : List (ν × Nat)}

/-- A program that reads nothing, and then another. -/
theorem Upto.andThen {first : Scan ν ε α} (begins : Upto sure data first offset [])
    (goesOn : ∀ value, run data first offset = .ok (value, offset) →
      Upto sure data (next value) offset parts) : Upto sure data (first >>= next) offset parts :=
  begins.bind goesOn

theorem Upto.atPosition {next : Nat × Nat → Scan ν ε β}
    (goesOn : Upto sure data (next (offset, data.length - offset)) offset parts) :
    Upto sure data (Scan.position >>= next) offset parts :=
  ⟨goesOn.front, goesOn.whole, goesOn.ends⟩

theorem Upto.seq {first : Scan ν ε α} {name : ν} (begins : Upto sure data first offset [(name, count)])
    (goesOn : ∀ value, run data first offset = .ok (value, offset + count) →
      Upto sure data (next value) (offset + count) parts) :
    Upto sure data (first >>= next) offset ((name, count) :: parts) :=
  begins.bind goesOn

theorem run_map (f : α → β) (prog : Scan ν ε α) (offset : Nat) :
    run data (f <$> prog) offset =
      match run data prog offset with
      | .ok (value, finish) => .ok (f value, finish)
      | .error error => .error error :=
  run_bind data prog (fun value => pure (f value)) offset

theorem run_word (f : List UInt8 → α) (name : ν) (short : Nat → ε) {part rest : List UInt8} {x : α}
    (next : data.drop offset = part ++ rest) (long : part.length = count) (some : 0 < count)
    (made : f part = x) :
    run data (f <$> Scan.bytes name count short) offset = .ok (x, offset + count) ∧
      data.drop (offset + count) = rest := by
  have length := congrArg length next
  rw [length_drop, length_append] at length
  rw [run_map, run_bytes name short (by omega), ← drop_drop, next, take_left' long,
    drop_left' long, ← made]
  exact ⟨rfl, rfl⟩

theorem Upto.map {prog : Scan ν ε α} (f : α → β)
    (same : Upto sure data prog offset parts) : Upto sure data (f <$> prog) offset parts := by
  have mapped := same.bind (fun value _ => .done (f value))
  rw [append_nil] at mapped
  exact mapped

end Scan

end Detrix.Library
