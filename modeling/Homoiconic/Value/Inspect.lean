import Homoiconic.Value.Render

/-!
# The inspection text of a value

Beside the text that shows a value as it would be written there is one that names the shape of
every part: `List(Number(1), String("x"))`.  The characters of a string value stand in it as they
are, while the keys of a map are quoted so that every key can be told from its surroundings.
Definitions and stacks inside a value appear as they are rendered.
-/

namespace Homoiconic

/-- A function by its kind and name. -/
def Function.inspect {α : Type} (f : Function α) : String :=
  (if f.callable.isExpander then "Macro(" else "Function(") ++ f.name ++ ")"

/-- A combinator by its text. -/
def Combinator.inspect {α : Type} (c : Combinator α) : String := "Combinator(" ++ c.render ++ ")"

namespace Value

mutual

/-- The inspection text of a value. -/
def inspect : Value → String
  | .nil => "Nil"
  | .bool b => if b then "Bool(true)" else "Bool(false)"
  | .number n => "Number(" ++ decimal n ++ ")"
  | .string s => "String(\"" ++ s ++ "\")"
  | .list items => enclosed "List(" ")" (inspectEach items)
  | .map ⟨entries⟩ => "Map(" ++ enclosed "\x7b" "\x7d" (inspectEntries entries) ++ ")"
  | .symbol name => "Symbol(" ++ name ++ ")"
  | .call ⟨target, positional, ⟨named⟩⟩ =>
    enclosed "CallNode(" ")" (inspect target :: (inspectEach positional ++ inspectNamed named))
  | .quote inner => "Quote(" ++ inspect inner ++ ")"
  | .function f => f.inspect
  | .combinator c => c.inspect
  | .definition d => d.render
  | .stack s => s.render

/-- The inspection texts of several values. -/
def inspectEach : List Value → List String
  | [] => []
  | v :: rest => inspect v :: inspectEach rest

/-- The inspection texts of the entries of a map. -/
def inspectEntries : List (String × Value) → List String
  | [] => []
  | (key, v) :: rest => (Text.inspected key ++ ": " ++ inspect v) :: inspectEntries rest

/-- The inspection texts of named arguments. -/
def inspectNamed : List (String × Value) → List String
  | [] => []
  | (key, v) :: rest => (key ++ "=" ++ inspect v) :: inspectNamed rest

end

end Value

/-- The inspection text of a keyword map. -/
def Keywords.inspect (m : Keywords Value) : String :=
  enclosed "\x7b" "\x7d" (Value.inspectEntries m.entries)

/-- The inspection text of a stack: the inspection texts of its elements, bottom first. -/
def Stack.inspect (s : Stack Value) : String := enclosed "[" "]" (Value.inspectEach s.toList)

/-- The word for a convention. -/
def Convention.inspect : Convention → String
  | .packed => "Packed"
  | .spread => "Spread"

/-- The inspection text of a definition: its text and its convention. -/
def Definition.inspect (d : Definition Value) : String :=
  d.render ++ " [" ++ d.convention.inspect ++ "]"

/-- The inspection text of a phrase. -/
def Phrase.inspect (p : Phrase Value) : String := "Phrase(" ++ p.render ++ ")"

end Homoiconic
