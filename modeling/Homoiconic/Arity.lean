/-!
# Arities

The number of arguments a callable takes.  A count that an arity refuses is reported together with
one bound of the arity: the one that the count violates.
-/

namespace Homoiconic

/-- How many arguments a callable takes. -/
inductive Arity where
  /-- Exactly this many. -/
  | exact (count : Nat)
  /-- This many or more. -/
  | atLeast (least : Nat)
  /-- From the first to the second, both included. -/
  | range (least most : Nat)
  /-- Any number. -/
  | any
deriving DecidableEq

namespace Arity

/-- The bound that a count violates, if it violates one. -/
def violated? : Arity → Nat → Option Nat
  | .exact count, got => if got = count then none else some count
  | .atLeast least, got => if got < least then some least else none
  | .range least most, got =>
    if got < least then some least else if most < got then some most else none
  | .any, _ => none

/-- Whether the arity allows a count. -/
def accepts (arity : Arity) (got : Nat) : Bool := (arity.violated? got).isNone

/-- The arity as it appears in the inspection text of a registry entry. -/
def inspect : Arity → String
  | .exact count => "Exact(" ++ toString count ++ ")"
  | .atLeast least => "AtLeast(" ++ toString least ++ ")"
  | .range least most => "Range(" ++ toString least ++ ", " ++ toString most ++ ")"
  | .any => "Any"

@[simp] theorem violated?_any (got : Nat) : Arity.any.violated? got = none := rfl

/-- An exact arity accepts its count and no other. -/
theorem violated?_exact_eq_none_iff {count got : Nat} :
    (Arity.exact count).violated? got = none ↔ got = count := by
  simp only [violated?]
  split <;> simp_all

/-- A lower bound accepts the counts it bounds. -/
theorem violated?_atLeast_eq_none_iff {least got : Nat} :
    (Arity.atLeast least).violated? got = none ↔ least ≤ got := by
  simp only [violated?]
  split <;> simp <;> omega

theorem accepts_atLeast_iff {least got : Nat} :
    (Arity.atLeast least).accepts got = true ↔ least ≤ got := by
  rw [accepts, Option.isNone_iff_eq_none, violated?_atLeast_eq_none_iff]

end Arity

end Homoiconic
