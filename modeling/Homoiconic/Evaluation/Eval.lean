import Homoiconic.Evaluation.Forms

/-!
# Evaluating an expression

A symbol evaluates to what it is bound to, a quote to what it holds, a call to the result of its
callable; every other value evaluates to itself.

A call evaluates its target first.  If the target is an expander, the argument expressions go to it
as they stand, and the expansion is evaluated once more if it is evaluable.  Otherwise the
arguments are evaluated, positional ones from left to right and then named ones in their order, and
the target is applied to the results.
-/

namespace Homoiconic

/-- Evaluate expressions from left to right. -/
def evalEach (next : Engine) (env : Environment) : List Value → EvalM (List Value)
  | [] => pure []
  | e :: rest => do
    let v ← next.eval e env
    let vs ← evalEach next env rest
    return v :: vs

/-- Evaluate named expressions in their order. -/
def evalNamed (next : Engine) (env : Environment) :
    List (String × Value) → EvalM (List (String × Value))
  | [] => pure []
  | (name, e) :: rest => do
    let v ← next.eval e env
    let entries ← evalNamed next env rest
    return (name, v) :: entries

/-- Apply an evaluated target to the arguments of a call, evaluating them first. -/
def applyToArguments (next : Engine) (env : Environment) (target : Value) (node : CallNode Value) :
    EvalM Value := do
  let args ← evalEach next env node.positional
  let entries ← evalNamed next env node.named.entries
  target.apply next args (.ofList entries)

/-- Expand a call and evaluate the expansion if it is evaluable. -/
def evalExpansion (next : Engine) (env : Environment) (e : Expander Value) (node : CallNode Value) :
    EvalM Value := do
  let expansion ← e.expand next env node.positional node.named
  if expansion.isEvaluable then next.eval expansion env else pure expansion

/-- Evaluate a call, given its evaluated target. -/
def evalCallOf (next : Engine) (env : Environment) (target : Value) (node : CallNode Value) :
    EvalM Value :=
  match target with
  | .function ⟨_, .expander e⟩ => evalExpansion next env e node
  | _ => applyToArguments next env target node

/-- Evaluate a call. -/
def evalCall (next : Engine) (env : Environment) (node : CallNode Value) : EvalM Value := do
  let target ← next.eval node.target env
  evalCallOf next env target node

/-- Evaluate a symbol. -/
def evalSymbol (env : Environment) (name : String) : EvalM Value := do
  match ← read fun s => s.heap.lookup? env.scope name with
  | some v => pure v
  | none => fail (.unbound name)

/-- Evaluate an expression, its parts one level deeper. -/
def evalStep (next : Engine) (env : Environment) : Value → EvalM Value
  | .symbol name => evalSymbol env name
  | .quote inner => pure inner
  | .call node => evalCall next env node
  | v => pure v

end Homoiconic
