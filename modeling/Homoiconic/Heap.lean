import Homoiconic.SortedEntries
import Homoiconic.Value.Basic

/-!
# The heap of scopes

A scope binds names to values and may have a parent.  Scopes live in a heap and are referred to by
number, so two holders of the same number share a scope, and a closure can be stored in the very
scope that it captures.

A name is looked up along the *chain* of a scope: the scope itself, its parent, and so on.  New
scopes get new numbers, and a scope is made after its parent, so the numbers along a chain decrease.
This is why `chain` needs no more steps than the number it starts from, and one more.
-/

namespace Homoiconic

/-- Bindings, and where to look further. -/
structure Scope where
  bindings : Keywords Value
  parent : Option ScopeId

/-- All scopes that were ever made, by number. -/
structure Heap where
  scopes : Array Scope

namespace Heap

/-- The heap without scopes. -/
def empty : Heap := ⟨#[]⟩

/-- The number of scopes, which is the number of the next one. -/
def size (h : Heap) : Nat := h.scopes.size

/-- The scope of a number. -/
def scope? (h : Heap) (id : ScopeId) : Option Scope := h.scopes[id]?

/-- Add a scope.  It gets the number `h.size`. -/
def alloc (h : Heap) (scope : Scope) : Heap := ⟨h.scopes.push scope⟩

/-! ## Chains -/

/-- The first `steps` scopes on a chain. -/
def chainUpTo (h : Heap) : Nat → ScopeId → List ScopeId
  | 0, _ => []
  | steps + 1, id =>
    match h.scope? id with
    | none => []
    | some scope =>
      match scope.parent with
      | none => [id]
      | some parent => id :: chainUpTo h steps parent

/-- A scope, its parent, and so on. -/
def chain (h : Heap) (id : ScopeId) : List ScopeId := h.chainUpTo (id + 1) id

/-- What a scope itself binds a name to. -/
def local? (h : Heap) (id : ScopeId) (name : String) : Option Value :=
  (h.scope? id).bind fun scope => scope.bindings.get? name

/-- Whether a scope itself binds a name. -/
def binds (h : Heap) (id : ScopeId) (name : String) : Bool := (h.local? id name).isSome

/-- What a name is bound to: in the first scope on the chain that binds it. -/
def lookup? (h : Heap) (id : ScopeId) (name : String) : Option Value :=
  (h.chain id).findSome? fun s => h.local? s name

/-- Whether a name is bound anywhere on the chain. -/
def contains (h : Heap) (id : ScopeId) (name : String) : Bool :=
  (h.chain id).any fun s => h.binds s name

/-- The scope that an assignment to a name reaches: the first on the chain that binds it, or else
the scope itself. -/
def owner (h : Heap) (id : ScopeId) (name : String) : ScopeId :=
  ((h.chain id).find? fun s => h.binds s name).getD id

/-! ## Writing -/

/-- Bind a name in the scope itself. -/
def define (h : Heap) (id : ScopeId) (name : String) (value : Value) : Heap :=
  ⟨h.scopes.modify id fun scope =>
    { scope with bindings := scope.bindings.insert name value }⟩

/-- Assign to a name: in the scope that binds it, or else in the scope itself. -/
def assign (h : Heap) (id : ScopeId) (name : String) (value : Value) : Heap :=
  h.define (h.owner id name) name value

/-! ## Listing -/

/-- The entries of a scope itself. -/
def entries (h : Heap) (id : ScopeId) : List (String × Value) :=
  match h.scope? id with
  | none => []
  | some scope => scope.bindings.entries

/-- Every name that is bound on the chain, with the value that it is looked up as, sorted by name.
Outer scopes are listed first, so that inner ones override them. -/
def visible (h : Heap) (id : ScopeId) : List (String × Value) :=
  SortedEntries.ofList ((h.chain id).reverse.flatMap h.entries)

end Heap

end Homoiconic
