import Homoiconic.Value.Basic

/-!
# The combinator library

The words, in library order, followed by the combinators that are programs over them.
-/

namespace Homoiconic

/-- The combinator of a word. -/
def Word.combinator (w : Word) : Combinator Value := .explicit w.name (.word w)

/-- The combinator of a word, as a program item. -/
def Word.item (w : Word) : Value := .combinator w.combinator

namespace Library

/-- `x y [q] -- y x ...`: swaps the two values beneath `[q]`, then folds it. -/
def c : Phrase Value := ⟨"c", [.list [Word.swap.item], Word.dip.item, Word.i.item]⟩

/-- `x [q] -- x x ...`: duplicates the value beneath `[q]`, then folds it. -/
def w : Phrase Value := ⟨"w", [.list [Word.dup.item], Word.dip.item, Word.i.item]⟩

/-- `a -- [a]` -/
def un : Phrase Value := ⟨"un", [.number 1, Word.quote.item]⟩

/-- `a b -- [a b]` -/
def bi : Phrase Value := ⟨"bi", [.number 2, Word.quote.item]⟩

/-- `a b c -- [a b c]` -/
def tri : Phrase Value := ⟨"tri", [.number 3, Word.quote.item]⟩

/-- `[a..] x -- [a.. x]` -/
def et : Phrase Value :=
  ⟨"et", [.combinator (.phrase bi), .combinator (.positional "append" .append)]⟩

/-- Every library combinator, for binding by name. -/
def all : List (Combinator Value) :=
  Word.all.map Word.combinator ++ [c, w, un, bi, tri, et].map .phrase

/-- The library combinator of a name. -/
def find? (name : String) : Option (Combinator Value) := all.find? fun c => c.name == name

end Library

end Homoiconic
