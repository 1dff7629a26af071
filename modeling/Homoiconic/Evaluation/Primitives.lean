import Homoiconic.Signature
import Homoiconic.Text.Case
import Homoiconic.Value.Sharing

/-!
# What the primitives do

Arithmetic is exact or fails: every partial result is computed as an integer and has to fit 64 bits.
Comparisons of several numbers hold if they hold between neighbours.  Equality, length, truth and
the string operations are those of the values themselves.

Every primitive checks its arity first.  All but one are typed functions under a signature; `node`,
which builds a call from its target, positional and named arguments, takes keyword arguments.
-/

namespace Homoiconic

/-! ## Arithmetic -/

/-- An exact result, if it fits 64 bits. -/
def fit (operation : Arithmetic) (exact : Int) : Except Error Int64 :=
  if Int64.minValue.toInt ≤ exact ∧ exact ≤ Int64.maxValue.toInt then .ok (Int64.ofInt exact)
  else .error (.overflow operation)

/-- Combine numbers from left to right, every partial result having to fit. -/
def accumulate (operation : Arithmetic) (combine : Int → Int → Int) :
    Int64 → List Int64 → Except Error Int64
  | total, [] => .ok total
  | total, n :: rest =>
    match fit operation (combine total.toInt n.toInt) with
    | .error e => .error e
    | .ok total => accumulate operation combine total rest

/-- The sum of numbers. -/
def sum (ns : List Int64) : Except Error Int64 := accumulate .addition (· + ·) 0 ns

/-- The product of numbers. -/
def product (ns : List Int64) : Except Error Int64 := accumulate .multiplication (· * ·) 1 ns

/-- The first number less the others; a single number is negated. -/
def difference (first : Int64) : List Int64 → Except Error Int64
  | [] => fit .negation (-first.toInt)
  | rest => accumulate .subtraction (· - ·) first rest

/-! ## Comparison -/

/-- Whether a relation holds between neighbours. -/
def chained (r : Int64 → Int64 → Bool) : Int64 → List Int64 → Bool
  | _, [] => true
  | previous, n :: rest => r previous n && chained r n rest

/-- A chained comparison needs two numbers at least. -/
def compareChain (r : Int64 → Int64 → Bool) (first : Int64) (rest : List Int64) :
    Except Error Bool :=
  if rest.isEmpty then .error (.arity none 2 1) else .ok (chained r first rest)

/-! ## Data -/

/-- The length of a string in characters, or of a container in elements. -/
def lengthOf : Value → Except Error Int64
  | .string s => .ok (Int64.ofNat s.length)
  | .list items => .ok (Int64.ofNat items.length)
  | .map entries => .ok (Int64.ofNat entries.size)
  | .stack s => .ok (Int64.ofNat s.depth)
  | v => .error (.noLength v.kind)

/-- The call of the first argument on the others and on the keyword arguments. -/
def buildNode (args : List Value) (kwargs : Keywords Value) : Except Error Value :=
  match args with
  | [] => .error (.arity none 1 0)
  | target :: positional => .ok (.call ⟨target, positional, kwargs⟩)

/-- A number as the result of an action that may fail. -/
def answerNumber (r : Except Error Int64) : EvalM Value := ofExcept (r.map .number)

/-- A truth value as the result of an action that may fail. -/
def answerBool (r : Except Error Bool) : EvalM Value := ofExcept (r.map .bool)

namespace Primitive

/-- What a primitive does to arguments whose number its arity accepts. -/
def perform (op : Primitive) (args : List Value) (kwargs : Keywords Value) : EvalM Value :=
  match op with
  | .add =>
    Signature.call ⟨[], some .number⟩ (fun ns => answerNumber (sum ns)) args kwargs
  | .subtract =>
    Signature.call ⟨[.number], some .number⟩
      (fun n ns => answerNumber (difference n ns)) args kwargs
  | .multiply =>
    Signature.call ⟨[], some .number⟩ (fun ns => answerNumber (product ns)) args kwargs
  | .less =>
    Signature.call ⟨[.number], some .number⟩
      (fun n ns => answerBool (compareChain (fun a b => a < b) n ns)) args kwargs
  | .greater =>
    Signature.call ⟨[.number], some .number⟩
      (fun n ns => answerBool (compareChain (fun a b => b < a) n ns)) args kwargs
  | .atMost =>
    Signature.call ⟨[.number], some .number⟩
      (fun n ns => answerBool (compareChain (fun a b => a ≤ b) n ns)) args kwargs
  | .atLeast =>
    Signature.call ⟨[.number], some .number⟩
      (fun n ns => answerBool (compareChain (fun a b => b ≤ a) n ns)) args kwargs
  | .equal =>
    Signature.call ⟨[.anything], some .anything⟩
      (fun v vs => answer (.bool (vs.all fun w => w == v))) args kwargs
  | .not => Signature.call ⟨[.anything], none⟩ (fun v => answer (.bool !v.isTruthy)) args kwargs
  | .list => Signature.call ⟨[], some .anything⟩ (fun vs => answer (.list vs)) args kwargs
  | .length => Signature.call ⟨[.anything], none⟩ (fun v => answerNumber (lengthOf v)) args kwargs
  | .identity => Signature.call ⟨[.anything], none⟩ (fun v => answer v) args kwargs
  | .sequence =>
    Signature.call ⟨[], some .anything⟩ (fun vs => answer (vs.getLast?.getD .nil)) args kwargs
  | .gensym =>
    Signature.call ⟨[], some .text⟩
      (fun stems => do return .symbol (← Homoiconic.gensym (stems.head?.getD "g"))) args kwargs
  | .node => ofExcept (buildNode args kwargs)
  | .concat =>
    Signature.call ⟨[], some .text⟩ (fun parts => answer (.string (String.join parts))) args kwargs
  | .join =>
    Signature.call ⟨[.text], some .text⟩
      (fun separator parts => answer (.string (String.intercalate separator parts))) args kwargs
  | .upper => Signature.call ⟨[.text], none⟩ (fun s => answer (.string (Text.upper s))) args kwargs
  | .lower => Signature.call ⟨[.text], none⟩ (fun s => answer (.string (Text.lower s))) args kwargs

/-- Call a primitive: its arity is checked before everything else. -/
def call (op : Primitive) (args : List Value) (kwargs : Keywords Value) : EvalM Value := do
  checkArity op.arity args.length
  op.perform args kwargs

end Primitive

end Homoiconic
