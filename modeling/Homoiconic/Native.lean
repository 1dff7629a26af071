import Homoiconic.Environment

/-!
# Supplying native callables

A native callable becomes a value when it is supplied, as a function under a name or as a
combinator.  Every time one is supplied it is a new callable with an identity of its own.
-/

namespace Homoiconic

/-- A native operation as a new function under a name. -/
def supplyOperation (name : String) (op : NativeOperation) : EvalM Value := do
  return .function ⟨name, .plain (.native op (← freshIdentity))⟩

/-- A native expander as a new function under a name. -/
def supplyExpander (name : String) (native : NativeExpander) : EvalM Value := do
  return .function ⟨name, .expander (.native native (← freshIdentity))⟩

/-- The native function of a name: a typed operation, a free operation or an expander. -/
def supplyFunction? (name : String) : Option (EvalM Value) :=
  match TypedNative.ofName? name with
  | some native => some (supplyOperation name (.typed native))
  | none =>
    match FreeNative.ofName? name with
    | some native => some (supplyOperation name (.free native))
    | none => (NativeExpander.ofName? name).map (supplyExpander name)

/-- A typed operation as a new combinator that pops a number of arguments. -/
def supplyPopping (name : String) (count : Nat) (native : TypedNative) : EvalM Value := do
  return .combinator (.popping name count (.native (.typed native) (← freshIdentity)))

/-- A free operation as a new combinator that pops a list of arguments. -/
def supplyPositional (name : String) (native : FreeNative) : EvalM Value := do
  return .combinator (.positional name (.native (.free native) (← freshIdentity)))

/-- A free operation as a new combinator that pops a keyword map and a list of arguments. -/
def supplyKeyword (name : String) (native : FreeNative) : EvalM Value := do
  return .combinator (.keyword name (.native (.free native) (← freshIdentity)))

/-- A stack operation as a new combinator. -/
def supplyExplicit (name : String) (native : StackNative) : EvalM Value := do
  return .combinator (.explicit name (.native native (← freshIdentity)))

/-- Bind a name to a new function made from a native operation. -/
def Environment.registerOperation (env : Environment) (name : String) (op : NativeOperation) :
    EvalM Unit := do
  env.define name (← supplyOperation name op)

/-- Bind a name to a new function made from a native expander. -/
def Environment.registerExpander (env : Environment) (name : String) (native : NativeExpander) :
    EvalM Unit := do
  env.define name (← supplyExpander name native)

end Homoiconic
