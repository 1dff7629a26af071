import Homoiconic.State

/-!
# Re-entry points

Evaluation and folding call each other: a closure that a combinator calls evaluates its body, a
definition that an expression calls folds its program, and both do so again inside.  No measure of
the program bounds this, because programs can be cyclic; what bounds it is the depth limit of each
of the two activities.

The interpreter is therefore defined in two steps.  Every rule is written against an *engine*, that
is, against given ways to evaluate an expression and to fold a program one level deeper.  The rules
are not recursive in the engine.  The interpreter itself is then obtained by unfolding the rules as
often as the depth limits allow.
-/

namespace Homoiconic

/-- A handle to a scope.  Whoever holds it can look names up along the chain of the scope and bind
names in it. -/
structure Environment where
  scope : ScopeId
deriving DecidableEq

/-- How to evaluate an expression, and how to fold a program over a stack, one level deeper. -/
structure Engine where
  eval : Value → Environment → EvalM Value
  fold : Stack Value → List Value → EvalM (Stack Value)

/-- The engine of a level at which neither activity may be nested any deeper. -/
def Engine.exhausted : Engine where
  eval _ _ := fail (.tooDeep .evaluation)
  fold _ _ := fail (.tooDeep .folding)

end Homoiconic
