import Homoiconic.Value.Basic

/-!
# The registry of built-in callables

One list holds every built-in callable, primitives and special forms alike, in the order in which
they are bound in a new environment.  No two have the same name.
-/

namespace Homoiconic

/-- A built-in callable. -/
inductive Builtin where
  | primitive (op : Primitive)
  | form (f : SpecialForm)
deriving DecidableEq

namespace Builtin

/-- The name a built-in callable is bound to. -/
def name : Builtin → String
  | .primitive op => op.name
  | .form f => f.name

/-- How many arguments a built-in callable takes. -/
def arity : Builtin → Arity
  | .primitive op => op.arity
  | .form f => f.arity

/-- Whether it receives its arguments unevaluated. -/
def isExpander : Builtin → Bool
  | .primitive _ => false
  | .form _ => true

/-- The callable as a value. -/
def toValue : Builtin → Value
  | .primitive op => .function ⟨op.name, .plain (.primitive op)⟩
  | .form f => .function ⟨f.name, .expander (.form f)⟩

/-- The inspection text of a registry entry. -/
def inspect (b : Builtin) : String :=
  "BuiltinOp(" ++ b.name ++ ", " ++ (if b.isExpander then "Macro" else "Function") ++ ", "
    ++ b.arity.inspect ++ ")"

/-- Every built-in callable, in registry order. -/
def all : List Builtin :=
  [Primitive.add, .subtract, .multiply, .less, .greater, .atMost, .atLeast, .equal, .not, .list,
    .length, .identity, .sequence, .gensym, .node, .concat, .join, .upper, .lower].map .primitive
  ++ [SpecialForm.quote, .conditional, .conjunction, .disjunction, .assign, .lambda, .expander,
    .defineFunction, .defineExpander, .letIn, .thread, .threadTail, .evaluate, .scope].map .form

/-- The built-in callable of a name. -/
def find? (name : String) : Option Builtin := all.find? fun b => b.name == name

/-- The registry leaves nothing out. -/
theorem mem_all (b : Builtin) : b ∈ all := by
  cases b with
  | primitive op => cases op <;> decide
  | form f => cases f <;> decide

/-- No two registry entries have the same name. -/
theorem nodup_names : (all.map name).Nodup := by decide

end Builtin

end Homoiconic
