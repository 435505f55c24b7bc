/-
**Purity levels, safety levels and purity analyses.**

The small enumerations of the core crate and the result type of a purity analysis. `combine` is the
join of the order pure < unknown < impure: `combine_eq_pure` says when nothing worse than pure was
combined.
-/

import Mathlib.Logic.Basic

namespace Detrix.Core

inductive SourceLanguage where
  | python | go | rust | javaScript | typeScript | java | cpp | c | ruby | php | unknown
  deriving DecidableEq

/-- Strict: only whitelisted functions. Trusted: unknown functions too. -/
inductive SafetyLevel where
  | strict | trusted
  deriving DecidableEq

inductive PurityLevel where
  | pure | unknown | impure
  deriving DecidableEq

namespace PurityLevel

def combine : PurityLevel → PurityLevel → PurityLevel
  | impure, _ => impure
  | _, impure => impure
  | unknown, _ => unknown
  | _, unknown => unknown
  | pure, pure => pure

@[simp] theorem combine_eq_pure (a b : PurityLevel) : a.combine b = pure ↔ a = pure ∧ b = pure := by
  cases a <;> cases b <;> simp [combine]

@[simp] theorem combine_impure (a : PurityLevel) : combine a impure = impure := by
  cases a <;> rfl

end PurityLevel

/-- A call found impure: the function, why, and the path of calls that leads to it. -/
structure ImpureCall where
  functionName : String
  reason : String
  callPath : String

structure PurityAnalysis where
  level : PurityLevel
  impureCalls : List ImpureCall
  unknownCalls : List String
  maxDepthReached : Bool

/-- The analysis of a function that calls nothing of interest (`PurityAnalysis::pure`). -/
def PurityAnalysis.pure : PurityAnalysis :=
  ⟨.pure, [], [], false⟩

end Detrix.Core
