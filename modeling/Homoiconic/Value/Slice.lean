import Homoiconic.Value.Basic

/-!
# Parts of a program

A range selects the items of a program from a start, included or excluded, to an end, included or
excluded; either bound may be missing.  A range that starts past its end or ends past the program
selects nothing, not even the empty program.
-/

namespace Homoiconic

/-- One end of a range. -/
inductive Bound where
  | included (index : Nat)
  | excluded (index : Nat)
  | unbounded

/-- The first index of a range that starts at a bound. -/
def Bound.start : Bound → Nat
  | .included index => index
  | .excluded index => index + 1
  | .unbounded => 0

/-- The index after a range that ends at a bound. -/
def Bound.stop (length : Nat) : Bound → Nat
  | .included index => index + 1
  | .excluded index => index
  | .unbounded => length

/-- The items of a list in a range, if the range lies within the list. -/
def sliceList? {α : Type} (items : List α) (start stop : Bound) : Option (List α) :=
  let first := start.start
  let last := stop.stop items.length
  if first ≤ last ∧ last ≤ items.length then some ((items.take last).drop first) else none

/-- Part of a definition, with its convention and without bounds on its arguments. -/
def Definition.slice? {α : Type} (d : Definition α) (start stop : Bound) : Option (Definition α) :=
  (sliceList? d.program start stop).map fun program => .ofProgram d.convention program

/-- Part of a phrase under the same name. -/
def Phrase.slice? {α : Type} (p : Phrase α) (start stop : Bound) : Option (Phrase α) :=
  (sliceList? p.program start stop).map fun program => { p with program }

end Homoiconic
