import Homoiconic.Evaluation.Engine
import Homoiconic.Json.Conversion
import Homoiconic.Json.Reader
import Homoiconic.Registry
import Homoiconic.Text.Quoted

/-!
# Environments

An environment is a handle to a scope.  Two handles to one scope see each other's bindings, and a
child sees the bindings of its parent, also those made later.  Nothing creates an environment by
itself: whoever evaluates says in which one.

An environment can be filled from a JSON object.  Its keys are bound one after the other, so a value
that does not convert leaves the keys before it bound.
-/

namespace Homoiconic

namespace Environment

/-! ## Making environments -/

/-- A new environment without bindings. -/
def new : EvalM Environment := do return ⟨← openScope none .empty⟩

/-- A new child of an environment. -/
def child (parent : Environment) : EvalM Environment := do
  return ⟨← openScope (some parent.scope) .empty⟩

/-- Bind a name in the scope itself. -/
def define (env : Environment) (name : String) (value : Value) : EvalM Unit :=
  changeHeap (·.define env.scope name value)

/-- Assign to a name: in the nearest scope that binds it, or else in the scope itself. -/
def set (env : Environment) (name : String) (value : Value) : EvalM Unit :=
  changeHeap (·.assign env.scope name value)

/-- Bind names one after the other. -/
def defineAll (env : Environment) : List (String × Value) → EvalM Unit
  | [] => pure ()
  | (name, value) :: rest => do
    env.define name value
    env.defineAll rest

/-- A new environment that binds every built-in callable. -/
def withBuiltins : EvalM Environment := do
  let env ← new
  env.defineAll (Builtin.all.map fun b => (b.name, b.toValue))
  return env

/-! ## Asking -/

/-- What a name is bound to. -/
def get? (env : Environment) (name : String) : EvalM (Option Value) :=
  read fun s => s.heap.lookup? env.scope name

/-- Whether a name is bound. -/
def contains (env : Environment) (name : String) : EvalM Bool :=
  read fun s => s.heap.contains env.scope name

/-- Every name that is bound, with its value, sorted by name. -/
def bindings (env : Environment) : EvalM (List (String × Value)) :=
  read fun s => s.heap.visible env.scope

end Environment

namespace Heap

/-- The names that a scope itself binds, sorted. -/
def localNames (h : Heap) (id : ScopeId) : List String :=
  (SortedEntries.ofList (h.entries id)).map Prod.fst

/-- The inspection text of a chain of scopes: names only, since closures that are bound may refer
back to the scope. -/
def inspectChain (h : Heap) : ScopeId → List ScopeId → String
  | id, above =>
    let names := String.intercalate ", " ((h.localNames id).map Text.inspected)
    let parent :=
      match above with
      | [] => "None"
      | parent :: above => "Some(" ++ inspectChain h parent above ++ ")"
    "Environment \x7b bindings: [" ++ names ++ "], parent: " ++ parent ++ " \x7d"

end Heap

namespace Environment

/-- The inspection text of an environment. -/
def inspect (env : Environment) : EvalM String :=
  read fun s => s.heap.inspectChain env.scope (s.heap.chain env.scope).tail

/-! ## Filling from JSON -/

/-- Bind the members of an object one after the other, until one does not convert. -/
def defineMembers (env : Environment) : List (String × Json) → EvalM Unit
  | [] => pure ()
  | (name, json) :: rest => do
    let value ← ofExcept (Value.ofJson json)
    env.define name value
    env.defineMembers rest

/-- Bind each key of a JSON object. -/
def defineJson (env : Environment) (json : Json) : EvalM Unit :=
  match json with
  | .object members => env.defineMembers members
  | json => fail (.notObject json)

/-- A new environment that binds each key of a JSON object. -/
def ofJson (json : Json) : EvalM Environment := do
  let env ← new
  env.defineJson json
  return env

/-- A new environment that binds each key of the JSON object that a text denotes. -/
def ofJsonText (text : String) : EvalM Environment :=
  match Json.parse? text with
  | some json => ofJson json
  | none => fail .invalidJson

end Environment

end Homoiconic
