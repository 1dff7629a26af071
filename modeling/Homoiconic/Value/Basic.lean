import Homoiconic.Catalogue.Native
import Homoiconic.Catalogue.Primitive
import Homoiconic.Catalogue.Word
import Homoiconic.Keywords
import Homoiconic.Stack.Basic

/-!
# Values

One type holds data and code.  Numbers, strings, lists, maps and stacks are data.  Symbols, calls
and quotes are expressions: they can be built, taken apart and put together anew like any other
value before anything is evaluated.  Functions, definitions and combinators are callables and
programs, and are values too.

## Containers of values

The parts of a value (call nodes, parameter lists, closures, programs) are declared first, each over
an arbitrary type of values, and the type `Value` then ties the knot in one inductive declaration.

## Callables are data

A callable is not a function but the description of one: a built-in one by its name, a closure by
its parameters, its body and the scope in which it was made.  This is what makes values comparable,
and what lets a closure that is stored in the scope it captures be ordinary finite data: a scope is
referred to by its number in the heap (`ScopeId`).

Built-in callables are the same wherever they occur.  Every evaluation of a `lambda` makes a new
closure, and every native callable is supplied as a new one; they carry a number of their own, their
identity, so that equality can tell two of them apart.
-/

namespace Homoiconic

/-- The number of a scope in the heap. -/
abbrev ScopeId := Nat

universe u

/-! ## Containers -/

/-- A call that has not been evaluated: a target, positional arguments and named arguments. -/
structure CallNode (α : Type u) where
  target : α
  positional : List α
  named : Keywords α

/-- The parameters of a closure, with the values of its defaults. -/
structure Params (α : Type u) where
  /-- Names that have to be supplied. -/
  required : List String
  /-- Names with a default. -/
  optional : List (String × α)
  /-- The name that collects surplus positional arguments. -/
  rest : Option String
  /-- The name that collects unmatched keyword arguments. -/
  extra : Option String

/-- A body over a parameter list, to be evaluated in a child of the scope in which it was made. -/
structure Closure (α : Type u) where
  identity : Nat
  params : Params α
  body : List α
  scope : ScopeId

/-- What a callable of evaluated arguments does. -/
inductive Operation (α : Type u) where
  | primitive (op : Primitive)
  /-- Append an item to a quoted list; the operation behind the library phrase `et`. -/
  | append
  | closure (c : Closure α)
  | native (op : NativeOperation) (identity : Nat)

/-- What a callable of unevaluated arguments does: it computes an expression to evaluate instead. -/
inductive Expander (α : Type u) where
  | form (f : SpecialForm)
  | closure (c : Closure α)
  | native (e : NativeExpander) (identity : Nat)

/-- How a function receives its arguments: evaluated, or as expressions. -/
inductive Callable (α : Type u) where
  | plain (op : Operation α)
  | expander (e : Expander α)

/-- A named callable. -/
structure Function (α : Type u) where
  name : String
  callable : Callable α

/-- A named program, to be spliced into other programs. -/
structure Phrase (α : Type u) where
  name : String
  program : List α

/-- How a definition lays out its arguments on the stack. -/
inductive Convention where
  /-- A list of the positional arguments, and the keyword map on top of it. -/
  | packed
  /-- The positional arguments in order; no keyword arguments. -/
  | spread
deriving DecidableEq

/-- A program that can be called like a function, possibly with bounds on its argument count. -/
structure Definition (α : Type u) where
  program : List α
  convention : Convention
  least : Option Nat
  most : Option Nat

/-- What a combinator that receives the whole stack does. -/
inductive StackOperation where
  | word (w : Word)
  | native (op : StackNative) (identity : Nat)
deriving DecidableEq

/-- A named transformer of stacks. -/
inductive Combinator (α : Type u) where
  /-- Receives and returns the whole stack. -/
  | explicit (name : String) (op : StackOperation)
  /-- Pops a list of positional arguments. -/
  | positional (name : String) (op : Operation α)
  /-- Pops a keyword map, then a list of positional arguments. -/
  | keyword (name : String) (op : Operation α)
  /-- Pops a fixed number of positional arguments. -/
  | popping (name : String) (count : Nat) (op : Operation α)
  /-- Folds a program. -/
  | phrase (p : Phrase α)

/-! ## Values -/

/-- Data, expressions, callables and stacks. -/
inductive Value where
  /-- The empty value; what is run for its effect returns it. -/
  | nil
  | bool (b : Bool)
  /-- Numbers are 64-bit integers. -/
  | number (n : Int64)
  | string (s : String)
  /-- A sequence; also a quoted stack program. -/
  | list (items : List Value)
  | map (entries : Keywords Value)
  /-- A name, resolved when it is evaluated. -/
  | symbol (name : String)
  | call (node : CallNode Value)
  /-- Evaluates to the value inside, as it stands. -/
  | quote (inner : Value)
  | function (f : Function Value)
  | combinator (c : Combinator Value)
  | definition (d : Definition Value)
  /-- A stack as data. -/
  | stack (s : Stack Value)

instance : Inhabited Value := ⟨.nil⟩

/-! ## Parts -/

namespace CallNode

variable {α : Type u}

/-- The call of a target on positional arguments. -/
def ofArgs (target : α) (positional : List α) : CallNode α := ⟨target, positional, .empty⟩

/-- The call with one more positional argument. -/
def addArg (node : CallNode α) (value : α) : CallNode α :=
  { node with positional := node.positional ++ [value] }

/-- The call with one more named argument; a name that is already there gets a new value. -/
def addNamed (node : CallNode α) (name : String) (value : α) : CallNode α :=
  { node with named := node.named.insert name value }

/-- The same arguments under another target. -/
def withTarget (node : CallNode α) (target : α) : CallNode α := { node with target }

end CallNode

namespace Params

variable {α : Type u}

/-- The parameter list without parameters. -/
def empty : Params α := ⟨[], [], none, none⟩

/-- The names that positional arguments fill, in order. -/
def positionalNames (params : Params α) : List String :=
  params.required ++ params.optional.map Prod.fst

/-- Every name the parameter list declares. -/
def names (params : Params α) : List String :=
  params.positionalNames ++ params.rest.toList ++ params.extra.toList

/-- Whether a collecting parameter has been declared. -/
def collectsExtras (params : Params α) : Bool := params.rest.isSome || params.extra.isSome

end Params

namespace Callable

variable {α : Type u}

/-- Whether the callable wants its arguments unevaluated. -/
def isExpander : Callable α → Bool
  | .plain _ => false
  | .expander _ => true

end Callable

namespace Combinator

variable {α : Type u}

/-- The name of a combinator. -/
def name : Combinator α → String
  | .explicit name _ => name
  | .positional name _ => name
  | .keyword name _ => name
  | .popping name _ _ => name
  | .phrase p => p.name

end Combinator

namespace Definition

variable {α : Type u}

/-- A definition without bounds. -/
def ofProgram (convention : Convention) (program : List α) : Definition α :=
  ⟨program, convention, none, none⟩

/-- The same definition under bounds on the number of positional arguments. -/
def withBounds (d : Definition α) (least most : Option Nat) : Definition α :=
  { d with least, most }

end Definition

namespace Value

/-- Symbols, calls and quotes are evaluable; everything else evaluates to itself. -/
def isEvaluable : Value → Bool
  | .symbol _ | .call _ | .quote _ => true
  | _ => false

/-- Nil, `false`, zero and the empty string, list, map and stack are false; all else is true. -/
def isTruthy : Value → Bool
  | .nil => false
  | .bool b => b
  | .number n => n != 0
  | .string s => !s.isEmpty
  | .list items => !items.isEmpty
  | .map entries => !entries.isEmpty
  | .stack s => !s.isEmpty
  | _ => true

/-- Whether the value is the empty value. -/
def isNil : Value → Bool
  | .nil => true
  | _ => false

/-- A value that evaluates to the given one: evaluable values are quoted. -/
def protect (v : Value) : Value := if v.isEvaluable then .quote v else v

end Value

end Homoiconic
