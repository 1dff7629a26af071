import Homoiconic.Folding.Words

/-!
# Folding a program over a stack

A program is folded item by item.  A combinator transforms the stack; every other item is pushed.

Combinators made from operations on evaluated arguments differ only in how they take the arguments
off the stack: as one list, as a list beneath a keyword map, or as a fixed number of elements.  In
each case the result is pushed.  A phrase is folded as the program it is.
-/

namespace Homoiconic

/-- The keyword map on top of the stack, for a combinator that wants one. -/
def keywordLayer (combinator : String) : Value → EvalM (Keywords Value)
  | .map kwargs => pure kwargs
  | v => fail (.expectedKeywords combinator v.kind)

/-- Apply a combinator to a stack. -/
def Combinator.apply (next : Engine) (c : Combinator Value) (stack : Stack Value) :
    EvalM (Stack Value) :=
  match c with
  | .explicit _ op => op.run next stack
  | .positional name op => do
    let (rest, args) ← ofStack stack.pop
    let args ← positionalArguments name args
    return rest.push (← op.call next args .empty)
  | .keyword name op => do
    let (rest, layer) ← ofStack stack.pop
    let kwargs ← keywordLayer name layer
    let (rest, args) ← ofStack rest.pop
    let args ← positionalArguments name args
    return rest.push (← op.call next args kwargs)
  | .popping _ count op => do
    let (rest, args) ← ofStack (stack.popN count)
    return rest.push (← op.call next args .empty)
  | .phrase p => next.fold stack p.program

/-- Let one item of a program act on the stack. -/
def stepItem (next : Engine) (stack : Stack Value) : Value → EvalM (Stack Value)
  | .combinator c => c.apply next stack
  | v => pure (stack.push v)

/-- Let the items of a program act on the stack from left to right. -/
def foldItems (next : Engine) : Stack Value → List Value → EvalM (Stack Value)
  | stack, [] => pure stack
  | stack, item :: rest => do
    let stack ← stepItem next stack item
    foldItems next stack rest

end Homoiconic
