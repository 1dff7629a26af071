import Homoiconic.Arity

/-!
# Primitives and special forms

The two kinds of callables that every environment can start from.  A primitive receives evaluated
arguments; a special form receives the argument expressions as they stand and says what is to be
evaluated.  Each has a name, under which it is bound, and an arity, which is checked before anything
else happens.  This module holds names and arities only; what the callables do is said where
evaluation is defined.
-/

namespace Homoiconic

/-- A built-in function of evaluated arguments. -/
inductive Primitive where
  | add | subtract | multiply
  | less | greater | atMost | atLeast
  | equal | not
  | list | length | identity | sequence | gensym | node
  | concat | join | upper | lower
deriving DecidableEq

namespace Primitive

/-- The name a primitive is bound to. -/
def name : Primitive → String
  | .add => "+"
  | .subtract => "-"
  | .multiply => "*"
  | .less => "<"
  | .greater => ">"
  | .atMost => "<="
  | .atLeast => ">="
  | .equal => "="
  | .not => "not"
  | .list => "list"
  | .length => "len"
  | .identity => "identity"
  | .sequence => "do"
  | .gensym => "gensym"
  | .node => "node"
  | .concat => "concat"
  | .join => "join"
  | .upper => "upper"
  | .lower => "lower"

/-- How many arguments a primitive takes. -/
def arity : Primitive → Arity
  | .add | .multiply | .list | .sequence | .concat => .any
  | .subtract | .node | .join => .atLeast 1
  | .less | .greater | .atMost | .atLeast | .equal => .atLeast 2
  | .not | .length | .identity | .upper | .lower => .exact 1
  | .gensym => .range 0 1

end Primitive

/-- A built-in transformation of a call.  It receives the argument expressions unevaluated, and what
it returns is evaluated in place of the call. -/
inductive SpecialForm where
  | quote | conditional | conjunction | disjunction | assign
  | lambda | expander | defineFunction | defineExpander
  | letIn | thread | threadTail | evaluate | scope
deriving DecidableEq

namespace SpecialForm

/-- The name a special form is bound to. -/
def name : SpecialForm → String
  | .quote => "quote"
  | .conditional => "if"
  | .conjunction => "and"
  | .disjunction => "or"
  | .assign => "setq"
  | .lambda => "lambda"
  | .expander => "mac"
  | .defineFunction => "defn"
  | .defineExpander => "defmac"
  | .letIn => "let"
  | .thread => "thread"
  | .threadTail => "thread_tail"
  | .evaluate => "eval"
  | .scope => "scope"

/-- How many argument expressions a special form takes. -/
def arity : SpecialForm → Arity
  | .quote | .evaluate => .exact 1
  | .conditional | .assign | .lambda | .expander => .atLeast 2
  | .conjunction | .disjunction => .any
  | .defineFunction | .defineExpander => .atLeast 3
  | .letIn | .thread | .threadTail => .atLeast 1
  | .scope => .exact 0

end SpecialForm

end Homoiconic
