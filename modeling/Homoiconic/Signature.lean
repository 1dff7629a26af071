import Homoiconic.State
import Homoiconic.Value.Extract

/-!
# Typed signatures

Most operations on evaluated arguments are functions of numbers, texts and lists.  A signature says
what they take: the types of a fixed number of leading parameters, and possibly the type of the
elements that a last parameter collects.

The type of such a function is computed from its signature (`Signature.Arrow`).  A function of that
type cannot be entered with anything but arguments of the right types, so all checking is done
before: first keyword arguments are refused, then a wrong number of arguments, then the leftmost
argument of a wrong kind.
-/

namespace Homoiconic

/-- Succeed with a value. -/
def answer (v : Value) : EvalM Value := pure v

/-- The type of the elements of a list parameter. -/
inductive ElementType where
  | anything | number | text
deriving DecidableEq

/-- The type of a parameter. -/
inductive ParamType where
  | number | boolean | text | anything
  /-- A list of elements of one type. -/
  | items (element : ElementType)
deriving DecidableEq

namespace ElementType

/-- What an element is passed as. -/
abbrev denote : ElementType → Type
  | .anything => Value
  | .number => Int64
  | .text => String

/-- Read an element. -/
def read : (t : ElementType) → Value → Except Error t.denote
  | .anything, v => .ok v
  | .number, v => v.toNumber
  | .text, v => v.toText

/-- Read all elements, from left to right. -/
def readEach (t : ElementType) : List Value → Except Error (List t.denote)
  | [] => .ok []
  | v :: rest =>
    match t.read v with
    | .error e => .error e
    | .ok x =>
      match readEach t rest with
      | .error e => .error e
      | .ok xs => .ok (x :: xs)

end ElementType

namespace ParamType

/-- What an argument is passed as. -/
abbrev denote : ParamType → Type
  | .number => Int64
  | .boolean => Bool
  | .text => String
  | .anything => Value
  | .items element => List element.denote

/-- Read an argument. -/
def read : (t : ParamType) → Value → Except Error t.denote
  | .number, v => v.toNumber
  | .boolean, v => v.toBool
  | .text, v => v.toText
  | .anything, v => .ok v
  | .items element, .list vs => element.readEach vs
  | .items _, v => .error (.expectedKind .list v.kind)

end ParamType

/-- The parameters of a typed function. -/
structure Signature where
  /-- The leading parameters. -/
  params : List ParamType
  /-- The type of the remaining arguments, if any number of them may follow. -/
  rest : Option ElementType

namespace Signature

/-- Functions of the given parameters. -/
abbrev Arrow (rest : Option ElementType) (α : Type) : List ParamType → Type
  | [] =>
    match rest with
    | none => α
    | some element => List element.denote → α
  | t :: ts => t.denote → Arrow rest α ts

/-- What a typed function of this signature is. -/
abbrev Body (sig : Signature) : Type := Arrow sig.rest (EvalM Value) sig.params

/-- Read the arguments from left to right and apply a function to them.  The number of arguments has
been checked before. -/
def supply {rest : Option ElementType} {α : Type} :
    (ts : List ParamType) → Arrow rest α ts → List Value → Except Error α
  | [], f, args =>
    match rest with
    | none => .ok f
    | some element =>
      match element.readEach args with
      | .error e => .error e
      | .ok xs => .ok (f xs)
  | t :: ts, f, arg :: args =>
    match t.read arg with
    | .error e => .error e
    | .ok x => supply ts (f x) args
  | _ :: ts, _, [] => .error (.arity none (ts.length + 1) 0)

/-- Whether a signature takes this many arguments. -/
def accepts (sig : Signature) (got : Nat) : Bool :=
  match sig.rest with
  | none => got == sig.params.length
  | some _ => sig.params.length ≤ got

/-- Call a typed function: refuse keyword arguments, then a wrong number of arguments, then the
leftmost argument of a wrong kind; then apply the function. -/
def call (sig : Signature) (body : sig.Body) (args : List Value) (kwargs : Keywords Value) :
    EvalM Value :=
  match kwargs.firstKey? with
  | some key => fail (.unexpectedKeyword key)
  | none =>
    if sig.accepts args.length then
      match supply sig.params body args with
      | .error e => fail e
      | .ok action => action
    else fail (.arity none sig.params.length args.length)

end Signature

end Homoiconic
