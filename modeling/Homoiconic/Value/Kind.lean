import Homoiconic.Value.Basic

/-!
# Kinds of values

The kind of a value is its outermost shape, with functions of unevaluated arguments told apart from
plain ones.  Error messages name values by their kind.
-/

namespace Homoiconic

/-- The outermost shape of a value. -/
inductive Kind where
  | nil | boolean | number | string | list | map | symbol | call | quote
  | function | expander | combinator | definition | stack
deriving DecidableEq

/-- The word for a kind. -/
def Kind.name : Kind → String
  | .nil => "nil"
  | .boolean => "boolean"
  | .number => "number"
  | .string => "string"
  | .list => "list"
  | .map => "map"
  | .symbol => "symbol"
  | .call => "call"
  | .quote => "quote"
  | .function => "function"
  | .expander => "macro"
  | .combinator => "combinator"
  | .definition => "def"
  | .stack => "stack"

/-- The kind of a value. -/
def Value.kind : Value → Kind
  | .nil => .nil
  | .bool _ => .boolean
  | .number _ => .number
  | .string _ => .string
  | .list _ => .list
  | .map _ => .map
  | .symbol _ => .symbol
  | .call _ => .call
  | .quote _ => .quote
  | .function f => if f.callable.isExpander then .expander else .function
  | .combinator _ => .combinator
  | .definition _ => .definition
  | .stack _ => .stack

end Homoiconic
