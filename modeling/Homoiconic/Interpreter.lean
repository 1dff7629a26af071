import Homoiconic.Evaluation.Eval
import Homoiconic.Folding.Trace

/-!
# The interpreter

The rules of evaluation and folding are unfolded into an engine.  One unfolding allows one more
nested evaluation or fold, and guards it by the depth limit of its activity: at most `depthLimit`
evaluations, and at most `depthLimit` folds, can be nested in one another.  An engine of
`2 * depthLimit` unfoldings is therefore never exhausted before a limit stops the run, and unfolding
it further would change nothing.

Every run of the interpreter ends, because an engine is built by recursion on the number of
unfoldings and each rule is a loop over data that is there when the rule starts.
-/

namespace Homoiconic

/-- The engine that allows one more level than the given one. -/
def Engine.unfold (next : Engine) : Engine where
  eval e env := nested .evaluation (evalStep next env e)
  fold stack program := nested .folding (foldItems next stack program)

/-- The engine of a number of levels. -/
def Engine.ofLevels : Nat → Engine
  | 0 => .exhausted
  | levels + 1 => (ofLevels levels).unfold

@[simp] theorem Engine.ofLevels_zero : Engine.ofLevels 0 = .exhausted := rfl

@[simp] theorem Engine.ofLevels_succ (levels : Nat) :
    Engine.ofLevels (levels + 1) = (Engine.ofLevels levels).unfold := rfl

/-- The engine in which only the depth limits end a run. -/
def Engine.full : Engine := .ofLevels (2 * depthLimit)

/-! ## Entry points -/

/-- Evaluate an expression in an environment. -/
def eval (e : Value) (env : Environment) : EvalM Value := Engine.full.eval e env

/-- Fold a program over a stack. -/
def fold (stack : Stack Value) (program : List Value) : EvalM (Stack Value) :=
  Engine.full.fold stack program

/-- Fold a program over a stack, writing what happens to a sink. -/
def trace (stack : Stack Value) (program : List Value) : TraceM (Stack Value) := fun sink s =>
  if depthLimit ≤ s.depth .folding then ((.error (.tooDeep .folding), sink), s)
  else
    let (result, s') := traceItems .full stack program sink (s.enter .folding)
    (result, s'.leave .folding)

/-- Apply a value to evaluated arguments. -/
def apply (target : Value) (args : List Value) (kwargs : Keywords Value) : EvalM Value :=
  target.apply .full args kwargs

/-- Apply a function to evaluated arguments. -/
def callFunction (f : Function Value) (args : List Value) (kwargs : Keywords Value) : EvalM Value :=
  f.call .full args kwargs

/-- Call a definition on arguments. -/
def callDefinition (d : Definition Value) (args : List Value) (kwargs : Keywords Value) :
    EvalM Value :=
  d.call .full args kwargs

/-- Apply a combinator to a stack. -/
def applyCombinator (c : Combinator Value) (stack : Stack Value) : EvalM (Stack Value) :=
  c.apply .full stack

/-- Evaluate a call in an environment. -/
def evaluateCall (node : CallNode Value) (env : Environment) : EvalM Value :=
  nested .evaluation (evalCall .full env node)

/-- Evaluate a call in a fresh environment that binds the given names and nothing else. -/
def callNode (node : CallNode Value) (kwargs : Keywords Value) : EvalM Value := do
  let scope ← openScope none (.ofList kwargs.entries)
  evaluateCall node ⟨scope⟩

end Homoiconic
