import Homoiconic.Evaluation.Apply

/-!
# What the library words do

A word takes what it needs off the stack, checks the shapes it depends on, and folds quoted programs
with the engine.  A quoted program is a list; positional arguments are a list or a stack.

Words that only look at what a program computes (`nullary`, `cleave`, `ifte`) fold it over a copy of
the stack, which costs nothing since stacks do not change.
-/

namespace Homoiconic

/-! ## Shapes -/

/-- The items of a quoted program. -/
def quotedProgram (word : String) : Value → EvalM (List Value)
  | .list items => pure items
  | v => fail (.expectedProgram word v.kind)

/-- Positional arguments, given as a list or a stack. -/
def positionalArguments (word : String) : Value → EvalM (List Value)
  | .list items => pure items
  | .stack s => pure s.toList
  | v => fail (.expectedArguments word v.kind)

/-- A number to count with. -/
def countOf (word : String) : Value → EvalM Nat
  | .number n => if n < 0 then fail (.negativeCount word n) else pure n.toInt.toNat
  | v => fail (.expectedCount word v.kind)

/-- The stack inside a value: a stack as it is, or a list brought into order. -/
def innerStack (word : String) (order : List Value → List Value) : Value → EvalM (Stack Value)
  | .stack s => pure s
  | .list items => pure (.ofList (order items))
  | v => fail (.expectedStack word v.kind)

/-! ## Ways to fold -/

/-- Fold a quoted program. -/
def foldQuoted (next : Engine) (word : String) (stack : Stack Value) (program : Value) :
    EvalM (Stack Value) := do
  let items ← quotedProgram word program
  next.fold stack items

/-- The top of the stack that a quoted program leaves. -/
def topAfter (next : Engine) (word : String) (stack : Stack Value) (program : Value) :
    EvalM Value := do
  let result ← foldQuoted next word stack program
  ofStack result.peek

/-- Push each item and fold a program after it. -/
def foldOverItems (next : Engine) (program : List Value) :
    Stack Value → List Value → EvalM (Stack Value)
  | stack, [] => pure stack
  | stack, item :: rest => do
    let stack ← next.fold (stack.push item) program
    foldOverItems next program stack rest

/-- Fold a program a number of times. -/
def foldTimes (next : Engine) (program : List Value) : Nat → Stack Value → EvalM (Stack Value)
  | 0, stack => pure stack
  | n + 1, stack => do
    let stack ← next.fold stack program
    foldTimes next program n stack

/-- Fold a quoted program over the stack inside a value, and push the resulting stack. -/
def foldInside (next : Engine) (word : String) (order : List Value → List Value)
    (stack : Stack Value) : EvalM (Stack Value) := do
  let (rest, inner, program) ← ofStack stack.pop2
  let inner ← innerStack word order inner
  let result ← foldQuoted next word inner program
  return rest.push (.stack result)

/-- Call the function on top of the stack, with the arguments beneath it.  A map directly beneath
the function holds keyword arguments, and the positional ones are beneath the map. -/
def invoke (next : Engine) (stack : Stack Value) : EvalM (Stack Value) := do
  let (rest, args, target) ← ofStack stack.pop2
  match args with
  | .map kwargs => do
    let (rest, args) ← ofStack rest.pop
    let args ← positionalArguments "do" args
    return rest.push (← target.apply next args kwargs)
  | args => do
    let args ← positionalArguments "do" args
    return rest.push (← target.apply next args .empty)

/-! ## The words -/

/-- What a word does to the stack. -/
def runWord (next : Engine) (word : Word) (stack : Stack Value) : EvalM (Stack Value) :=
  match word with
  | .pop => do
    let (rest, _) ← ofStack stack.pop
    return rest
  | .dup => do
    let top ← ofStack stack.peek
    return stack.push top
  | .nop => pure stack
  | .swap => do
    let (rest, a, b) ← ofStack stack.pop2
    return (rest.push b).push a
  | .popd => do
    let (rest, _, b) ← ofStack stack.pop2
    return rest.push b
  | .dupd => do
    let (rest, a, b) ← ofStack stack.pop2
    return ((rest.push a).push a).push b
  | .quote => do
    let (rest, n) ← ofStack stack.pop
    let n ← countOf "quote" n
    let (rest, items) ← ofStack (rest.popN n)
    return rest.push (.list items)
  | .choice => do
    let (rest, condition, yes, no) ← ofStack stack.pop3
    return rest.push (if condition.isTruthy then yes else no)
  | .invoke => invoke next stack
  | .cons => do
    let (rest, p, q) ← ofStack stack.pop2
    let items ← quotedProgram "cons" q
    return rest.push (.list (p :: items))
  | .take => do
    let (rest, p, q) ← ofStack stack.pop2
    let items ← quotedProgram "take" p
    return rest.push (.list (items ++ [q]))
  | .i => do
    let (rest, p) ← ofStack stack.pop
    foldQuoted next "i" rest p
  | .k => do
    let (rest, _, q) ← ofStack stack.pop2
    foldQuoted next "k" rest q
  | .x => do
    let p ← ofStack stack.peek
    foldQuoted next "x" stack p
  | .dip => do
    let (rest, x, p) ← ofStack stack.pop2
    return (← foldQuoted next "dip" rest p).push x
  | .dipd => do
    let (rest, x, y, p) ← ofStack stack.pop3
    return ((← foldQuoted next "dipd" rest p).push x).push y
  | .dipdd => do
    let (rest, x, y, z, p) ← ofStack stack.pop4
    return (((← foldQuoted next "dipdd" rest p).push x).push y).push z
  | .step => do
    let (rest, items, p) ← ofStack stack.pop2
    let items ← positionalArguments "step" items
    let p ← quotedProgram "step" p
    foldOverItems next p rest items
  | .nullary => do
    let (rest, p) ← ofStack stack.pop
    return rest.push (← topAfter next "nullary" rest p)
  | .cleave => do
    let (rest, x, p, q) ← ofStack stack.pop3
    let first ← topAfter next "cleave" (rest.push x) p
    let second ← topAfter next "cleave" (rest.push x) q
    return (rest.push first).push second
  | .ifte => do
    let (rest, b, t, e) ← ofStack stack.pop3
    let condition ← topAfter next "ifte" rest b
    foldQuoted next "ifte" rest (if condition.isTruthy then t else e)
  | .times => do
    let (rest, n, p) ← ofStack stack.pop2
    let n ← countOf "times" n
    let p ← quotedProgram "times" p
    foldTimes next p n rest
  | .infra => foldInside next "infra" List.reverse stack
  | .subspace => foldInside next "subspace" id stack
  | .b => do
    let (rest, p, q) ← ofStack stack.pop2
    let stack ← foldQuoted next "b" rest p
    foldQuoted next "b" stack q
  | .s => do
    let (rest, p, q, r) ← ofStack stack.pop3
    let items ← quotedProgram "s" q
    foldQuoted next "s" ((rest.push (.list (p :: items))).push p) r
  | .t => do
    let (rest, p, q) ← ofStack stack.pop2
    foldQuoted next "t" (rest.push q) p
  | .j => do
    let (rest, p, q, r, s) ← ofStack stack.pop4
    let s ← quotedProgram "j" s
    let stack ← next.fold ((rest.push q).push p) s
    next.fold (stack.push r) s

/-! ## Native stack operations -/

/-- What a native stack operation does to the stack.  The one called `forever` folds a program that
ends in a new combinator of its own kind, and so without end. -/
def StackNative.run (next : Engine) (native : StackNative) (stack : Stack Value) :
    EvalM (Stack Value) :=
  match native with
  | .reverse => pure (.ofList stack.topFirst)
  | .clear => pure .empty
  | .depth => pure (stack.push (.number (Int64.ofNat stack.depth)))
  | .broken => fail (.reported .evaluation "explicit failure")
  | .forever => do
    let identity ← freshIdentity
    next.fold stack
      [.number (Int64.ofNat stack.depth),
        .combinator (.explicit "forever" (.native .forever identity))]

/-- What a stack operation does to the stack. -/
def StackOperation.run (next : Engine) (op : StackOperation) (stack : Stack Value) :
    EvalM (Stack Value) :=
  match op with
  | .word w => runWord next w stack
  | .native n _ => n.run next stack

end Homoiconic
