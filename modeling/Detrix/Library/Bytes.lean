/-
**Bytes.**

Numbers as little-endian bytes, texts as UTF-8 bytes and checked slices, over `List UInt8`.

- `leValue_leBytes`, `leBytes_leValue`: a number and its bytes determine each other.
- `fromUtf8_eq_some_iff`: the bytes that are a text are those the text has.
- `slice_of_le`, `take_append_slice`: what a checked slice is, and how slices join.
-/

import Mathlib.Algebra.Order.Group.Nat
import Mathlib.Tactic.Ring

namespace Detrix.Library.Bytes

open List

/-! ### Little-endian numbers -/

/-- The `width` lowest bytes of a number, lowest first (`to_le_bytes`). -/
def leBytes : (width n : Nat) → List UInt8
  | 0, _ => []
  | width + 1, n => UInt8.ofNat n :: leBytes width (n / 256)

/-- The number with these bytes, lowest first (`from_le_bytes`). -/
def leValue : List UInt8 → Nat
  | [] => 0
  | byte :: bytes => byte.toNat + 256 * leValue bytes

@[simp] theorem length_leBytes (width n : Nat) : (leBytes width n).length = width := by
  induction width generalizing n with
  | zero => rfl
  | succ width ih => rw [leBytes, length_cons, ih]

theorem leValue_lt (bytes : List UInt8) : leValue bytes < 256 ^ bytes.length := by
  induction bytes with
  | nil => exact Nat.one_pos
  | cons byte bytes ih =>
    have small : byte.toNat < 256 := byte.toNat_lt
    rw [leValue, length_cons, pow_succ]
    omega

theorem leValue_leBytes {width n : Nat} (fits : n < 256 ^ width) : leValue (leBytes width n) = n := by
  induction width generalizing n with
  | zero =>
    have isZero : n = 0 := by simpa using fits
    rw [isZero]
    rfl
  | succ width ih =>
    have rest : n / 256 < 256 ^ width := by omega
    have lowest : (UInt8.ofNat n).toNat = n % 256 := UInt8.toNat_ofNat'
    rw [leBytes, leValue, ih rest, lowest]
    omega

variable {bytes : List UInt8}

theorem leBytes_leValue {width : Nat} (long : bytes.length = width) :
    leBytes width (leValue bytes) = bytes := by
  subst long
  induction bytes with
  | nil => rfl
  | cons byte bytes ih =>
    have small : byte.toNat < 256 := byte.toNat_lt
    have lowest : UInt8.ofNat (byte.toNat + 256 * leValue bytes) = byte := by
      apply UInt8.toNat_inj.mp
      rw [UInt8.toNat_ofNat']
      omega
    have rest : (byte.toNat + 256 * leValue bytes) / 256 = leValue bytes := by omega
    rw [length_cons, leBytes, leValue, lowest, rest, ih]

def u16Bytes (x : UInt16) : List UInt8 := leBytes 2 x.toNat

def u32Bytes (x : UInt32) : List UInt8 := leBytes 4 x.toNat

def u64Bytes (x : UInt64) : List UInt8 := leBytes 8 x.toNat

def u16Of (bytes : List UInt8) : UInt16 := UInt16.ofNat (leValue bytes)

def u32Of (bytes : List UInt8) : UInt32 := UInt32.ofNat (leValue bytes)

def u64Of (bytes : List UInt8) : UInt64 := UInt64.ofNat (leValue bytes)

theorem u16Of_u16Bytes (x : UInt16) : u16Of (u16Bytes x) = x := by
  rw [u16Of, u16Bytes, leValue_leBytes x.toNat_lt, UInt16.ofNat_toNat]

theorem u32Of_u32Bytes (x : UInt32) : u32Of (u32Bytes x) = x := by
  rw [u32Of, u32Bytes, leValue_leBytes x.toNat_lt, UInt32.ofNat_toNat]

theorem u64Of_u64Bytes (x : UInt64) : u64Of (u64Bytes x) = x := by
  rw [u64Of, u64Bytes, leValue_leBytes x.toNat_lt, UInt64.ofNat_toNat]

theorem u16Bytes_u16Of (two : bytes.length = 2) : u16Bytes (u16Of bytes) = bytes := by
  have small := leValue_lt bytes
  rw [two] at small
  rw [u16Bytes, u16Of, UInt16.toNat_ofNat_of_lt' small, leBytes_leValue two]

theorem u32Bytes_u32Of (four : bytes.length = 4) : u32Bytes (u32Of bytes) = bytes := by
  have small := leValue_lt bytes
  rw [four] at small
  rw [u32Bytes, u32Of, UInt32.toNat_ofNat_of_lt' small, leBytes_leValue four]

/-! ### Texts -/

/-- The bytes of a text (`str::as_bytes`). -/
def utf8 (text : String) : List UInt8 := text.toByteArray.data.toList

/-- The text with these bytes, if they are UTF-8 (`String::from_utf8`). -/
def fromUtf8 (bytes : List UInt8) : Option String := String.fromUTF8? ⟨bytes.toArray⟩

theorem fromUtf8_eq_some_iff {text : String} : fromUtf8 bytes = some text ↔ utf8 text = bytes := by
  unfold fromUtf8 String.fromUTF8? utf8
  constructor
  · intro found
    split at found
    · cases found
      rfl
    · cases found
  · rintro rfl
    rw [Array.toArray_toList, dif_pos text.isValidUTF8]
    rfl

@[simp] theorem fromUtf8_utf8 (text : String) : fromUtf8 (utf8 text) = some text :=
  fromUtf8_eq_some_iff.mpr rfl

theorem utf8_injective : Function.Injective utf8 := by
  intro a b same
  have read := congrArg fromUtf8 same
  rw [fromUtf8_utf8, fromUtf8_utf8] at read
  exact Option.some.inj read

theorem utf8_eq_nil_iff {text : String} : utf8 text = [] ↔ text = "" :=
  utf8_injective.eq_iff' rfl

theorem utf8_append (a b : String) : utf8 (a ++ b) = utf8 a ++ utf8 b := by
  simp [utf8]

/-- The byte of a line feed stands for nothing else. -/
theorem lineFeed_mem_utf8 {text : String} (mem : 10 ∈ utf8 text) : '\n' ∈ text.toList := by
  have encoded : utf8 text = text.toList.flatMap String.utf8EncodeChar := by
    rw [utf8, ← String.utf8Encode_toList]
    simp [List.utf8Encode]
  rw [encoded] at mem
  obtain ⟨c, here, mem⟩ := mem_flatMap.mp mem
  suffices isFeed : c.val.toNat = 10 by
    rwa [show c = '\n' from Char.toNat_inj.mp isFeed] at here
  have byte (n : Nat) : 10 = UInt8.ofNat n ↔ n % 256 = 10 := by
    rw [← UInt8.toNat_inj, UInt8.toNat_ofNat']
    exact eq_comm
  unfold String.utf8EncodeChar at mem
  dsimp only at mem
  split_ifs at mem <;> simp only [mem_cons, not_mem_nil, or_false, byte] at mem <;> omega

/-! ### Slices -/

/-- The bytes from `i` to `j`, if there are so many (`bytes.get(i..j)`). -/
def slice (bytes : List UInt8) (i j : Nat) : Option (List UInt8) :=
  if i ≤ j ∧ j ≤ bytes.length then some ((bytes.drop i).take (j - i)) else none

theorem slice_of_le {i width : Nat} (mem : i + width ≤ bytes.length) :
    slice bytes i (i + width) = some ((bytes.drop i).take width) := by
  rw [slice, if_pos ⟨by omega, mem⟩, Nat.add_sub_cancel_left]

theorem take_append_slice (bytes : List UInt8) (i width : Nat) :
    (bytes.drop i).take width ++ bytes.drop (i + width) = bytes.drop i := by
  rw [← drop_drop, take_append_drop]

end Detrix.Library.Bytes
