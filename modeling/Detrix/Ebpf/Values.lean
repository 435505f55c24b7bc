/-
**Captured values and the limits of a capture.**

A float is kept by its bits. `CaptureConfig.Valid`, `validate_eq_nil_iff`: the limits that pass their
own check.
-/

import Detrix.Library.Bytes

namespace Detrix.Ebpf

open Library.Bytes

/-! ### Values -/

inductive CapturedValue where
  | scalar (value : UInt64)
  | float (bits : UInt64)
  | string (data : List UInt8) (len : Nat)
  | slice (len cap : UInt64)
  | array (elementType : String) (elements : List CapturedValue)
  | bytes (data : List UInt8)
  | struct (typeName : String) (fields : List (String × CapturedValue))
  | map (keyType valueType : String) (entries : List (CapturedValue × CapturedValue)) (reason : String)
  | error (message : String)

/-- `f32::from_bits(word) as f64`, by its bits. -/
def widenFloat (word : UInt32) : UInt64 := (Float32.ofBits word).toFloat.toBits

/-- The reader of another process's memory; an error is given by its text. -/
structure ProcessMemoryReader where
  readString : (pid : UInt32) → (ptr : UInt64) → (len : Nat) → Except String String
  readBytes : (pid : UInt32) → (ptr : UInt64) → (len : Nat) → Except String (List UInt8)
  readU64 : (pid : UInt32) → (ptr : UInt64) → Except String UInt64

/-! ### Limits -/

structure CaptureConfig where
  maxCaptureVars : Nat := 8
  maxStringCapture : Nat := 64
  maxBlobCapture : Nat := 64
  maxCaptureDepth : Nat := 2
  maxStructFields : Int := -1
  maxArrayValues : Nat := 64
  captureGoid : Bool := false

namespace CaptureConfig

def atLeast (ok : Bool) (message : String) : List String := if ok then [] else [message]

def validate (config : CaptureConfig) : List String :=
  atLeast (config.maxCaptureVars ≠ 0) "max_capture_vars must be >= 1" ++
  atLeast (config.maxCaptureVars ≤ 16) "max_capture_vars must be <= 16 (BPF stack limit)" ++
  (if config.maxStringCapture = 0 then ["max_string_capture must be > 0"]
    else atLeast (config.maxStringCapture % 8 = 0)
      ("max_string_capture must be a multiple of 8, got " ++ toString config.maxStringCapture)) ++
  atLeast (config.maxStringCapture ≤ 255) "max_string_capture must be <= 255 (BPF verifier bound)" ++
  (if config.maxBlobCapture = 0 then ["max_blob_capture must be > 0"]
    else atLeast (config.maxBlobCapture % 8 = 0)
      ("max_blob_capture must be a multiple of 8, got " ++ toString config.maxBlobCapture)) ++
  atLeast (config.maxCaptureDepth ≤ 32)
    ("max_capture_depth must be <= 32, got " ++ toString config.maxCaptureDepth) ++
  atLeast (config.maxArrayValues ≠ 0) "max_array_values must be >= 1"

structure Valid (config : CaptureConfig) : Prop where
  vars : 0 < config.maxCaptureVars ∧ config.maxCaptureVars ≤ 16
  stringCapture : 0 < config.maxStringCapture ∧ config.maxStringCapture ≤ 255
  stringWords : config.maxStringCapture % 8 = 0
  blobCapture : 0 < config.maxBlobCapture
  blobWords : config.maxBlobCapture % 8 = 0
  depth : config.maxCaptureDepth ≤ 32
  arrayValues : 0 < config.maxArrayValues

theorem atLeast_eq_nil_iff {ok : Bool} {msg : String} : atLeast ok msg = [] ↔ ok = true := by
  cases ok <;> simp [atLeast]

theorem validate_eq_nil_iff {config : CaptureConfig} : config.validate = [] ↔ config.Valid := by
  have pos (n : Nat) (check : List String) (msg : String) :
      (if n = 0 then [msg] else check) = [] ↔ 0 < n ∧ check = [] := by
    split
    · rename_i zero
      simp [zero]
    · rename_i nonzero
      exact ⟨fun empty => ⟨Nat.pos_of_ne_zero nonzero, empty⟩, And.right⟩
  unfold validate
  simp only [List.append_eq_nil_iff, atLeast_eq_nil_iff, pos, decide_eq_true_eq, and_assoc]
  constructor
  · rintro ⟨someVars, vars, someString, stringWords, string, someBlob, blobWords, depth, arrays⟩
    exact ⟨⟨Nat.pos_of_ne_zero someVars, vars⟩, ⟨someString, string⟩, stringWords, someBlob, blobWords,
      depth, Nat.pos_of_ne_zero arrays⟩
  · rintro ⟨⟨someVars, vars⟩, ⟨someString, string⟩, stringWords, someBlob, blobWords, depth, arrays⟩
    exact ⟨someVars.ne', vars, someString, stringWords, string, someBlob, blobWords, depth, arrays.ne'⟩

end CaptureConfig

end Detrix.Ebpf
