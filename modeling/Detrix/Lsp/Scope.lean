/-
**Scope tables and mutation targets.**

The scope context that each body analyzer builds from the parameters and the lines of a function,
and the class it gives to the target of a mutation. A mutation is impure unless its target is a
local variable; a name that the table does not know counts as impure.
-/

import Detrix.Library.Text

namespace Detrix.Lsp

/-! ### Python -/

inductive PythonMutationTarget where
  | local | selfAttribute | parameter | global | nonlocal | unknown
  deriving DecidableEq

/-- The reason a mutation of the target is impure; none for a local one. -/
def PythonMutationTarget.impurityReason : PythonMutationTarget → Option String
  | .local => none
  | .selfAttribute => some "Mutation of instance state (self.xxx)"
  | .parameter => some "Mutation of function parameter"
  | .global => some "Mutation of global variable"
  | .nonlocal => some "Mutation of nonlocal variable"
  | .unknown => some "Mutation of unknown scope variable"

/-- Every target but a local one is impure. -/
def PythonMutationTarget.isImpure (target : PythonMutationTarget) : Bool := target ≠ .local

structure PythonScope where
  localVars : List String
  parameters : List String
  globalVars : List String
  nonlocalVars : List String

namespace PythonScope

def new (parameters : List String) : PythonScope := ⟨[], parameters, [], []⟩

def isLocal (ctx : PythonScope) (name : String) : Bool :=
  name ∈ ctx.localVars && name ∉ ctx.parameters && name ∉ ctx.globalVars &&
    name ∉ ctx.nonlocalVars

def addLocal (ctx : PythonScope) (name : String) : PythonScope :=
  if name ∉ ctx.parameters ∧ name ∉ ctx.globalVars ∧ name ∉ ctx.nonlocalVars then
    { ctx with localVars := ctx.localVars.insert name }
  else ctx

def addGlobal (ctx : PythonScope) (name : String) : PythonScope :=
  { ctx with localVars := ctx.localVars.filter (· ≠ name)
             globalVars := ctx.globalVars.insert name }

def addNonlocal (ctx : PythonScope) (name : String) : PythonScope :=
  { ctx with localVars := ctx.localVars.filter (· ≠ name)
             nonlocalVars := ctx.nonlocalVars.insert name }

end PythonScope

/-! ### Go -/

inductive GoMutationTarget where
  | local | receiver | parameter | packageVar | unknown

def GoMutationTarget.impurityReason : GoMutationTarget → Option String
  | .local => none
  | .receiver => some "Mutation of method receiver (struct state)"
  | .parameter => some "Mutation of function parameter"
  | .packageVar => some "Mutation of package-level variable"
  | .unknown => some "Mutation of unknown scope variable"

structure GoScope where
  localVars : List String
  parameters : List String
  receiver : Option String
  packageVars : List String

namespace GoScope

/-- The context before the body is read (`new` and `for_method`). -/
def new (parameters : List String) (receiver : Option String) : GoScope :=
  ⟨[], parameters, receiver, []⟩

def isReceiver (ctx : GoScope) (name : String) : Bool := ctx.receiver = some name

def isLocal (ctx : GoScope) (name : String) : Bool :=
  name ∈ ctx.localVars && name ∉ ctx.parameters && !ctx.isReceiver name &&
    name ∉ ctx.packageVars

def addLocal (ctx : GoScope) (name : String) : GoScope :=
  if name ∉ ctx.parameters ∧ ctx.isReceiver name = false ∧ name ∉ ctx.packageVars then
    { ctx with localVars := ctx.localVars.insert name }
  else ctx

def classify (ctx : GoScope) (name : String) : GoMutationTarget :=
  if ctx.isReceiver name then .receiver
  else if name ∈ ctx.parameters then .parameter
  else if name ∈ ctx.packageVars then .packageVar
  else if ctx.isLocal name then .local
  else .unknown

theorem classify_eq_local (ctx : GoScope) (name : String) :
    ctx.classify name = .local ↔ ctx.isLocal name = true := by
  unfold classify
  by_cases receiver : ctx.isReceiver name = true
  · simp [receiver, isLocal]
  · by_cases param : name ∈ ctx.parameters
    · simp [receiver, param, isLocal]
    · by_cases package : name ∈ ctx.packageVars
      · simp [receiver, param, package, isLocal]
      · by_cases inBody : ctx.isLocal name = true <;>
          simp [receiver, param, package, inBody]

end GoScope

/-! ### Rust -/

inductive RustMutationTarget where
  | local | mutableSelf | mutableParameter | staticVariable | unsafeMutation | unknown

def RustMutationTarget.impurityReason : RustMutationTarget → Option String
  | .local => none
  | .mutableSelf => some "Mutation of &mut self (instance state)"
  | .mutableParameter => some "Mutation of &mut parameter (caller's data)"
  | .staticVariable => some "Mutation of static variable (global state)"
  | .unsafeMutation => some "Unsafe mutation (raw pointer or transmute)"
  | .unknown => some "Mutation of unknown scope variable"

structure RustScope where
  localVars : List String
  parameters : List String
  mutableParameters : List String
  hasMutSelf : Bool
  staticVars : List String

namespace RustScope

/-- The context before the body is read (`new` and `for_mut_method`). -/
def new (parameters : List String) (isMutSelf : Bool) : RustScope :=
  ⟨[], parameters, [], isMutSelf, []⟩

def isLocal (ctx : RustScope) (name : String) : Bool :=
  name ∈ ctx.localVars && name ∉ ctx.parameters && name ∉ ctx.staticVars

def addLocal (ctx : RustScope) (name : String) : RustScope :=
  if name ∉ ctx.parameters ∧ name ∉ ctx.staticVars then
    { ctx with localVars := ctx.localVars.insert name }
  else ctx

def addMutParameter (ctx : RustScope) (name : String) : RustScope :=
  { ctx with parameters := ctx.parameters.insert name
             mutableParameters := ctx.mutableParameters.insert name }

def addStatic (ctx : RustScope) (name : String) : RustScope :=
  { ctx with localVars := ctx.localVars.filter (· ≠ name)
             staticVars := ctx.staticVars.insert name }

def classify (ctx : RustScope) (name : String) : RustMutationTarget :=
  if name = "self" ∧ ctx.hasMutSelf then .mutableSelf
  else if name ∈ ctx.mutableParameters then .mutableParameter
  else if name ∈ ctx.staticVars then .staticVariable
  else if ctx.isLocal name then .local
  else .unknown

theorem classify_mutableParameter {ctx : RustScope} {name : String}
    (isMutable : name ∈ ctx.mutableParameters) : ctx.classify name ≠ .local := by
  unfold classify
  by_cases own : name = "self" ∧ ctx.hasMutSelf = true
  · simp [own]
  · simp [own, isMutable]

end RustScope

end Detrix.Lsp
