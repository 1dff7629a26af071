import Homoiconic.Error
import Homoiconic.Heap

/-!
# The state of a run

Evaluation and folding share one state: the heap of scopes, the supplies of fresh symbols and of
fresh identities, the log to which native callables write, and how deep the two activities are
currently nested.

An action (`EvalM`) takes a state to a result and a state.  A failed action also leaves a state:
what it did before it failed is not undone.
-/

namespace Homoiconic

/-- Everything an action can read and change. -/
structure State where
  heap : Heap
  /-- How many symbols have been generated. -/
  gensyms : Nat
  /-- The next identity for a closure or a native callable. -/
  identities : Nat
  /-- The lines logged so far. -/
  log : Array String
  /-- How deep evaluation is nested at the moment. -/
  evaluationDepth : Nat
  /-- How deep folding is nested at the moment. -/
  foldingDepth : Nat

/-- An action that yields a value or fails, and changes the state in either case. -/
abbrev EvalM := ExceptT Error (StateM State)

namespace State

/-- The state in which nothing has happened. -/
def initial : State := ⟨.empty, 0, 0, #[], 0, 0⟩

/-- How deep an activity is nested. -/
def depth (s : State) : Activity → Nat
  | .evaluation => s.evaluationDepth
  | .folding => s.foldingDepth

/-- The state one level deeper in an activity. -/
def enter (s : State) : Activity → State
  | .evaluation => { s with evaluationDepth := s.evaluationDepth + 1 }
  | .folding => { s with foldingDepth := s.foldingDepth + 1 }

/-- The state one level up from an activity. -/
def leave (s : State) : Activity → State
  | .evaluation => { s with evaluationDepth := s.evaluationDepth - 1 }
  | .folding => { s with foldingDepth := s.foldingDepth - 1 }

/-- Entering an activity and leaving it again changes nothing. -/
@[simp] theorem leave_enter (s : State) (activity : Activity) :
    (s.enter activity).leave activity = s := by
  cases activity <;> rfl

@[simp] theorem depth_enter_self (s : State) (activity : Activity) :
    (s.enter activity).depth activity = s.depth activity + 1 := by
  cases activity <;> rfl

end State

/-! ## Basic actions -/

/-- Fail. -/
def fail {α : Type} (e : Error) : EvalM α := throw e

/-- The action of a result. -/
def ofExcept {α : Type} : Except Error α → EvalM α
  | .ok a => pure a
  | .error e => fail e

/-- The action of a result that may be an underflow. -/
def ofStack {α : Type} : Except Underflow α → EvalM α
  | .ok a => pure a
  | .error cause => fail (.underflow cause)

/-- A part of the state. -/
def read {α : Type} (f : State → α) : EvalM α := fun s => (.ok (f s), s)

/-- Change the heap. -/
def changeHeap (f : Heap → Heap) : EvalM Unit := fun s => (.ok (), { s with heap := f s.heap })

/-- Add a scope with the given parent and bindings. -/
def openScope (parent : Option ScopeId) (bindings : Keywords Value) : EvalM ScopeId := fun s =>
  (.ok s.heap.size, { s with heap := s.heap.alloc ⟨bindings, parent⟩ })

/-- A new identity. -/
def freshIdentity : EvalM Nat := fun s =>
  (.ok s.identities, { s with identities := s.identities + 1 })

/-- The name of the `n`-th generated symbol. -/
def gensymName (stem : String) (n : Nat) : String := "#:" ++ stem ++ "$" ++ toString n

/-- A new symbol.  Its number sets it apart from every other generated symbol, and its shape from
the names that are written. -/
def gensym (stem : String) : EvalM String := fun s =>
  (.ok (gensymName stem (s.gensyms + 1)), { s with gensyms := s.gensyms + 1 })

/-- Add a line to the log. -/
def writeLog (line : String) : EvalM Unit := fun s => (.ok (), { s with log := s.log.push line })

/-- Run an action one level deeper in an activity, unless the limit is reached.  The depth is put
back however the action ends. -/
def nested {α : Type} (activity : Activity) (action : EvalM α) : EvalM α := fun s =>
  if depthLimit ≤ s.depth activity then (.error (.tooDeep activity), s)
  else
    let (result, s') := action (s.enter activity)
    (result, s'.leave activity)

/-- **At the limit a nested action does not start**, and the state is as it was. -/
theorem nested_of_le {α : Type} {activity : Activity} (action : EvalM α) {s : State}
    (h : depthLimit ≤ s.depth activity) :
    nested activity action s = (.error (.tooDeep activity), s) := if_pos h

/-- **Below the limit a nested action runs one level deeper**, and its level is left again. -/
theorem nested_of_lt {α : Type} {activity : Activity} (action : EvalM α) {s : State}
    (h : s.depth activity < depthLimit) :
    nested activity action s =
      ((action (s.enter activity)).1, (action (s.enter activity)).2.leave activity) :=
  if_neg (Nat.not_le.mpr h)

/-- Refuse a number of arguments that violates an arity. -/
def checkArity (arity : Arity) (got : Nat) : EvalM Unit :=
  match arity.violated? got with
  | none => pure ()
  | some bound => fail (.arity none bound got)

end Homoiconic
