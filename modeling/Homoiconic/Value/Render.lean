import Homoiconic.Text.Quoted
import Homoiconic.Value.Basic

/-!
# The text of a value

A value is rendered as it would be written: numbers in decimal, strings quoted, lists in brackets,
maps in braces, a call as its target followed by its arguments in parentheses, a quote with an
apostrophe in front.  Functions and combinators are rendered by name.  A definition shows its
program, and so does a phrase on its own, but not the combinator made from it.
-/

namespace Homoiconic

/-- A list of texts between an opening and a closing text, separated by commas. -/
def enclosed (opening closing : String) (items : List String) : String :=
  opening ++ String.intercalate ", " items ++ closing

/-- A number in decimal. -/
def decimal (n : Int64) : String := toString n.toInt

/-- The text of a combinator: its name, marked with its argument count if it pops a fixed number of
arguments; the count two goes without saying. -/
def Combinator.render {α : Type} : Combinator α → String
  | .popping name count _ =>
    if count = 2 then "op(" ++ name ++ ")" else "op(" ++ name ++ ", " ++ toString count ++ ")"
  | c => c.name

namespace Value

mutual

/-- The text of a value. -/
def render : Value → String
  | .nil => "nil"
  | .bool b => if b then "true" else "false"
  | .number n => decimal n
  | .string s => Text.quoted s
  | .list items => enclosed "[" "]" (renderEach items)
  | .map ⟨entries⟩ => enclosed "\x7b" "\x7d" (renderEntries ": " entries)
  | .symbol name => name
  | .call ⟨target, positional, ⟨named⟩⟩ =>
    render target ++ enclosed "(" ")" (renderEach positional ++ renderEntries "=" named)
  | .quote inner => "'" ++ render inner
  | .function f => f.name
  | .combinator c => c.render
  | .definition ⟨program, _, _, _⟩ => enclosed "Def(" ")" (renderEach program)
  | .stack ⟨chain⟩ => enclosed "Stack(" ")" (renderChain chain [])

/-- The texts of several values. -/
def renderEach : List Value → List String
  | [] => []
  | v :: rest => render v :: renderEach rest

/-- The texts of several entries, with a sign between name and value. -/
def renderEntries (sign : String) : List (String × Value) → List String
  | [] => []
  | (key, v) :: rest => (key ++ sign ++ render v) :: renderEntries sign rest

/-- The texts of the elements of a chain in front of `texts`, the deepest first. -/
def renderChain : {n : Nat} → Chain Value n → List String → List String
  | _, .nil, texts => texts
  | _, .cons v rest, texts => renderChain rest (render v :: texts)

end

end Value

/-- The text of a definition. -/
def Definition.render (d : Definition Value) : String := (Value.definition d).render

/-- The text of a phrase: its name and its program. -/
def Phrase.render (p : Phrase Value) : String :=
  p.name ++ enclosed "(" ")" (Value.renderEach p.program)

/-- The text of a stack, bottom first. -/
def Stack.render (s : Stack Value) : String := (Value.stack s).render

end Homoiconic
