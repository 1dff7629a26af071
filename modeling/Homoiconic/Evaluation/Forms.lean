import Homoiconic.Evaluation.Apply

/-!
# Expansion

A function of unevaluated arguments, an *expander*, receives the argument expressions of a call and
the environment of the call.  What it computes, the expansion, is evaluated once more if it is
evaluable.  A form that has already evaluated the value it returns protects it by a quote, so that
the value is not evaluated a second time.

Every special form checks its arity, then refuses named arguments, and only then looks at its
arguments.  A closure that is an expander binds the argument expressions themselves; its body is
evaluated in a child of the scope in which it was made, and gives the expansion.
-/

namespace Homoiconic

/-! ## Choosing what to evaluate -/

/-- Evaluate conditions in turn until one is true and choose its branch.  An odd argument at the end
is the alternative; without one it is nil. -/
def chooseBranch (next : Engine) (env : Environment) : List Value → EvalM Value
  | [] => pure .nil
  | [otherwise] => pure otherwise
  | condition :: branch :: rest => do
    let v ← next.eval condition env
    if v.isTruthy then pure branch else chooseBranch next env rest

/-- Evaluate arguments in turn until the truth of one decides, and return that value.  The last one
is left to be evaluated as the expansion. -/
def shortCircuit (next : Engine) (env : Environment) (decisive : Bool) (whenEmpty : Value) :
    List Value → EvalM Value
  | [] => pure whenEmpty
  | [last] => pure last
  | e :: rest => do
    let v ← next.eval e env
    if v.isTruthy = decisive then pure v.protect
    else shortCircuit next env decisive whenEmpty rest

/-! ## Binding names -/

/-- The name that a symbol stands for. -/
def symbolName (form : String) : Value → EvalM String
  | .symbol name => pure name
  | v => fail (.expectedSymbol form v.kind)

/-- Evaluate and assign pairs in order; the result is the last value assigned. -/
def assignPairs (next : Engine) (env : Environment) : Value → List Value → EvalM Value
  | _, target :: e :: rest => do
    let name ← symbolName "setq" target
    let v ← next.eval e env
    changeHeap (·.assign env.scope name v)
    assignPairs next env v rest
  | last, _ => pure last

/-- Evaluate pairs in order in a scope, binding each name there. -/
def bindPairs (next : Engine) (env : Environment) : List Value → EvalM Unit
  | target :: e :: rest => do
    let name ← symbolName "let" target
    let v ← next.eval e env
    changeHeap (·.define env.scope name v)
    bindPairs next env rest
  | _ => pure ()

/-- Bind names in a fresh child scope and evaluate a body there. -/
def letBody (next : Engine) (env : Environment) (args : List Value) : EvalM Value :=
  match args with
  | .list bindings :: body =>
    if bindings.length % 2 ≠ 0 then fail .unpairedBindings
    else do
      let scope ← openScope (some env.scope) .empty
      bindPairs next ⟨scope⟩ bindings
      let v ← evalBody next ⟨scope⟩ .nil body
      return v.protect
  | [] => fail (.arity none 1 0)
  | _ => fail .bindingsNotList

/-! ## Making closures -/

/-- Read a parameter list and a body, and close them over an environment. -/
def makeClosure (next : Engine) (env : Environment) (form : String) (args : List Value) :
    EvalM (Closure Value) :=
  match args with
  | [] => fail (.arity none 2 0)
  | .list params :: body =>
    if body.isEmpty then fail (.arity none 2 args.length)
    else do
      let params ← Params.read (next.eval · env) form params
      let identity ← freshIdentity
      return ⟨identity, params, body, env.scope⟩
  | _ => fail (.parametersNotList form)

/-- A closure as a named function of evaluated arguments. -/
def functionOf (name : String) (c : Closure Value) : Value := .function ⟨name, .plain (.closure c)⟩

/-- A closure as a named function of unevaluated arguments. -/
def expanderOf (name : String) (c : Closure Value) : Value :=
  .function ⟨name, .expander (.closure c)⟩

/-- Make a closure under a name and assign it to that name. -/
def defineClosure (next : Engine) (env : Environment) (form : String)
    (wrap : String → Closure Value → Value) (args : List Value) : EvalM Value :=
  match args with
  | [] => fail (.arity none 3 0)
  | target :: rest => do
    let name ← symbolName form target
    let c ← makeClosure next env form rest
    changeHeap (·.assign env.scope name (wrap name c))
    return (wrap name c).protect

/-! ## Nesting calls -/

/-- Insert a value into a call, as the first or the last positional argument.  Anything but a call
becomes the target of a call on the value. -/
def threadInto (atEnd : Bool) (v step : Value) : Value :=
  match step with
  | .call node =>
    .call { node with positional := if atEnd then node.positional ++ [v] else v :: node.positional }
  | target => .call (.ofArgs target [v])

/-- Nest steps from left to right, each receiving what comes before it. -/
def threadSteps (atEnd : Bool) (args : List Value) : EvalM Value :=
  match args with
  | [] => fail (.arity none 1 0)
  | first :: steps => pure (steps.foldl (threadInto atEnd) first)

/-! ## Special forms -/

namespace SpecialForm

/-- The expansion of a special form on argument expressions whose number its arity accepts. -/
def transform (next : Engine) (env : Environment) (form : SpecialForm) (args : List Value) :
    EvalM Value :=
  match form with
  | .quote =>
    match args with
    | [e] => pure (.quote e)
    | _ => fail (.arity none 1 args.length)
  | .conditional =>
    if args.length < 2 then fail (.arity none 2 args.length) else chooseBranch next env args
  | .conjunction => shortCircuit next env false (.bool true) args
  | .disjunction => shortCircuit next env true .nil args
  | .assign =>
    if args.isEmpty ∨ args.length % 2 ≠ 0 then fail (.unpairedAssignments args.length)
    else do
      let v ← assignPairs next env .nil args
      return v.protect
  | .lambda => do return functionOf "lambda" (← makeClosure next env "lambda" args)
  | .expander => do return expanderOf "mac" (← makeClosure next env "mac" args)
  | .defineFunction => defineClosure next env "defn" functionOf args
  | .defineExpander => defineClosure next env "defmac" expanderOf args
  | .letIn => letBody next env args
  | .thread => threadSteps false args
  | .threadTail => threadSteps true args
  | .evaluate =>
    match args with
    | [e] => next.eval e env
    | _ => fail (.arity none 1 args.length)
  | .scope =>
    if args.isEmpty then do
      return .map (.ofList (← read fun s => s.heap.visible env.scope))
    else fail (.arity none 0 args.length)

/-- Expand a special form: its arity is checked first, then named arguments are refused. -/
def expand (next : Engine) (env : Environment) (form : SpecialForm) (args : List Value)
    (kwargs : Keywords Value) : EvalM Value := do
  checkArity form.arity args.length
  match kwargs.firstKey? with
  | some key => fail (.formKeyword form.name key)
  | none => form.transform next env args

end SpecialForm

/-! ## Native expanders -/

/-- Evaluate an expression and bind a name to it with the given write to the heap. -/
def nativeBinding (next : Engine) (env : Environment)
    (write : ScopeId → String → Value → Heap → Heap) (result : Value → Value)
    (args : List Value) : EvalM Value :=
  match args with
  | [.symbol name, e] => do
    let v ← next.eval e env
    changeHeap (write env.scope name v)
    return result (.symbol name)
  | _ => fail (.reported .evaluation "bad define")

namespace NativeExpander

/-- What a native expander makes of argument expressions. -/
def expand (next : Engine) (env : Environment) (native : NativeExpander) (args : List Value)
    (kwargs : Keywords Value) : EvalM Value :=
  match native with
  | .first => pure (args.head?.getD .nil)
  | .quote => pure (.quote (args.head?.getD .nil))
  | .twice => pure (.quote (.quote (args.head?.getD .nil)))
  | .spy => pure (.list [.list args, .map kwargs])
  | .fail => Homoiconic.fail (.reported .type "bad form")
  | .letLocal =>
    nativeBinding next env (fun scope name v h => h.define scope name v) (fun name => name) args
  | .assign =>
    nativeBinding next env (fun scope name v h => h.assign scope name v) (fun _ => .nil) args

end NativeExpander

/-! ## Expanders -/

/-- The expansion of a call by an expander. -/
def Expander.expand (next : Engine) (env : Environment) (e : Expander Value) (args : List Value)
    (kwargs : Keywords Value) : EvalM Value :=
  match e with
  | .form f => f.expand next env args kwargs
  | .closure c => c.call next args kwargs
  | .native n _ => n.expand next env args kwargs

end Homoiconic
