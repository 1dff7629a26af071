import Homoiconic.Evaluation.Engine
import Homoiconic.Evaluation.Natives
import Homoiconic.Evaluation.Params
import Homoiconic.Evaluation.Primitives

/-!
# Applying callables

A plain function is applied to evaluated positional and keyword arguments.  A built-in one does what
its catalogue entry says.  A closure binds its arguments in a fresh child of the scope in which it
was made and evaluates its body there; the parent scope is shared, not copied, so names are resolved
when the closure is called.

A definition is applied by laying its arguments out on a stack, folding its program over it, and
taking the top of the result.  Nothing else can be applied to evaluated arguments.
-/

namespace Homoiconic

/-! ## Bodies -/

/-- Evaluate expressions in order; the last one gives the result. -/
def evalBody (next : Engine) (env : Environment) : Value → List Value → EvalM Value
  | result, [] => pure result
  | _, e :: rest => do
    let v ← next.eval e env
    evalBody next env v rest

/-- Call a closure. -/
def Closure.call (next : Engine) (c : Closure Value) (args : List Value) (kwargs : Keywords Value) :
    EvalM Value := do
  let bindings ← ofExcept (c.params.bind args kwargs)
  let scope ← openScope (some c.scope) (.ofList bindings)
  evalBody next ⟨scope⟩ .nil c.body

/-! ## Functions -/

/-- Append an item to a quoted list. -/
def appendItem (args : List Value) : Except Error Value :=
  match args with
  | [.list items, item] => .ok (.list (items ++ [item]))
  | [v, _] => .error (.expectedProgram "et" v.kind)
  | args => .error (.arity none 2 args.length)

/-- Apply an operation to evaluated arguments. -/
def Operation.call (next : Engine) (op : Operation Value) (args : List Value)
    (kwargs : Keywords Value) : EvalM Value :=
  match op with
  | .primitive p => p.call args kwargs
  | .append => ofExcept (appendItem args)
  | .closure c => c.call next args kwargs
  | .native op _ => op.call args kwargs

/-- Apply a function to evaluated arguments.  A function of unevaluated arguments refuses them. -/
def Function.call (next : Engine) (f : Function Value) (args : List Value)
    (kwargs : Keywords Value) : EvalM Value :=
  match f.callable with
  | .plain op => op.call next args kwargs
  | .expander _ => fail (.expanderApplied f.name)

/-! ## Definitions -/

namespace Definition

/-- Refuse a number of positional arguments out of bounds. -/
def checkBounds (d : Definition Value) (got : Nat) : Except Error Unit :=
  match d.least.filter (got < ·), d.most.filter (· < got) with
  | some least, _ => .error (.arity (some d.render) least got)
  | none, some most => .error (.arity (some d.render) most got)
  | none, none => .ok ()

/-- The stack over which the program is folded. -/
def initialStack (d : Definition Value) (args : List Value) (kwargs : Keywords Value) :
    Except Error (Stack Value) :=
  match d.checkBounds args.length with
  | .error e => .error e
  | .ok () =>
    match d.convention with
    | .packed => .ok ((Stack.empty.push (.list args)).push (.map kwargs))
    | .spread =>
      match kwargs.firstKey? with
      | some key => .error (.definitionKeyword d key)
      | none => .ok (.ofList args)

/-- Call a definition: the top of the final stack is the result. -/
def call (next : Engine) (d : Definition Value) (args : List Value) (kwargs : Keywords Value) :
    EvalM Value := do
  let stack ← ofExcept (d.initialStack args kwargs)
  let final ← next.fold stack d.program
  ofStack final.peek

end Definition

/-! ## Callable values -/

/-- Apply a value to evaluated arguments. -/
def Value.apply (next : Engine) (target : Value) (args : List Value) (kwargs : Keywords Value) :
    EvalM Value :=
  match target with
  | .function f => f.call next args kwargs
  | .definition d => d.call next args kwargs
  | v => fail (.notCallable v)

end Homoiconic
