import Homoiconic.Value.Equality

/-!
# Equality of values that share parts

A program can build a value whose parts are shared many times over: a stack that holds two copies of
a stack that holds two copies of a third, and so on.  Such a value takes little memory, but to walk
down it part by part takes time exponential in its depth.  The comparison of this module looks at
the place in memory first.  Two parts at one place are one and the same, hence equal, and are not
walked into.  Lists and stacks of different lengths are told apart before any of their elements.

None of this changes an answer.  Every comparison returns its truth value together with the proof
that it is the one `same` gives (`Settled`), and parts at one place are equal because equality is
reflexive.  So `==` on values is `same` (`beq_eq_same`), and theorems are about `same` alone.
-/

namespace Homoiconic

/-- A truth value computed in some way of its own, known to be `truth`. -/
abbrev Settled (truth : Bool) := { answer : Bool // answer = truth }

namespace Settled

/-- Settled by the definition itself. -/
@[inline] def plain (truth : Bool) : Settled truth := ⟨truth, rfl⟩

/-- The same answer under an equal description. -/
@[inline] def of_eq {p q : Bool} (h : p = q) (settled : Settled p) : Settled q :=
  ⟨settled.1, settled.2.trans h⟩

/-- A conjunction; the second part is settled only if the first one holds. -/
@[inline] def both {p q : Bool} (first : Settled p) (second : Unit → Settled q) :
    Settled (p && q) :=
  match first with
  | ⟨true, h⟩ => ⟨(second ()).1, by rw [(second ()).2, ← h, Bool.true_and]⟩
  | ⟨false, h⟩ => ⟨false, by rw [← h, Bool.false_and]⟩

/-- Whether some element of a list passes a test, settled element by element. -/
def any {α : Type} {p : α → Bool} (test : ∀ a, Settled (p a)) :
    (items : List α) → Settled (items.any p)
  | [] => plain false
  | item :: rest =>
    match test item with
    | ⟨true, h⟩ => ⟨true, by rw [List.any_cons, ← h, Bool.true_or]⟩
    | ⟨false, h⟩ => of_eq (by rw [List.any_cons, ← h, Bool.false_or]) (any test rest)

/-- A reflexive relation holds of two objects at one place in memory; others are compared. -/
@[inline] def unlessShared {α : Type} {r : α → α → Bool} (refl : ∀ a, r a a = true) (a b : α)
    (compare : Unit → Settled (r a b)) : Settled (r a b) :=
  ⟨withPtrEq a b (fun u => (compare u).1) fun h => by rw [(compare ()).2, h, refl],
    (compare ()).2⟩

end Settled

/-- A chain seen as one of an equal length. -/
@[inline] def Chain.resized {α : Type} {m n : Nat} (h : n = m) (chain : Chain α n) : Chain α m :=
  h ▸ chain

namespace Value

open Settled

theorem sameChain_resized {m n : Nat} (h : n = m) (a : Chain Value m) (b : Chain Value n) :
    sameChain a (b.resized h) = sameChain a b := by
  subst h
  rfl

/-- Chains of different lengths are different. -/
theorem sameChain_eq_false_of_ne {m n : Nat} (h : n ≠ m) (a : Chain Value m) (b : Chain Value n) :
    sameChain a b = false := by
  induction a generalizing n with
  | nil => cases b with
    | nil => exact absurd rfl h
    | cons => simp [sameChain]
  | cons v rest ih => cases b with
    | nil => simp [sameChain]
    | cons w under => rw [sameChain, ih (fun e => h (congrArg (· + 1) e)), Bool.and_false]

/-- Lists of different lengths are different. -/
theorem sameEach_eq_false_of_ne {a b : List Value} (h : a.length ≠ b.length) :
    sameEach a b = false := by
  induction a generalizing b with
  | nil => cases b with
    | nil => exact absurd rfl h
    | cons => simp [sameEach]
  | cons v rest ih => cases b with
    | nil => simp [sameEach]
    | cons w others => rw [sameEach, ih (fun e => h (congrArg (· + 1) e)), Bool.and_false]

/-- Compare two lists only if they are equally long. -/
@[inline] def ifEquallyLong (a b : List Value) (compare : Unit → Settled (sameEach a b)) :
    Settled (sameEach a b) :=
  if h : a.length = b.length then compare () else ⟨false, (sameEach_eq_false_of_ne h).symm⟩

/-- Whether two lists of entries are as long as each other, and each entry of the first is found in
the second. -/
def sameEntries (a b : List (String × Value)) : Bool := a.length == b.length && foundIn a b

theorem sameEntries_self (entries : List (String × Value)) :
    sameEntries entries entries = true := by
  simp [sameEntries, foundIn_of_subset entries fun _ h => h]

mutual

/-- Compare two values. -/
def compareShared (a b : Value) : Settled (same a b) :=
  unlessShared same_self a b fun _ =>
    match a, b with
    | .list as, .list bs => ifEquallyLong as bs fun _ => compareEach as bs
    | .map ⟨as⟩, .map ⟨bs⟩ =>
      unlessShared sameEntries_self as bs fun _ =>
        both (plain (as.length == bs.length)) fun _ => compareFound as bs
    | .call ⟨t, ps, ⟨ns⟩⟩, .call ⟨t', ps', ⟨ns'⟩⟩ =>
      both (both (compareShared t t') fun _ =>
        ifEquallyLong ps ps' fun _ => compareEach ps ps') fun _ =>
        unlessShared sameEntries_self ns ns' fun _ =>
          both (plain (ns.length == ns'.length)) fun _ => compareFound ns ns'
    | .quote v, .quote w => compareShared v w
    | .combinator (.phrase ⟨m, as⟩), .combinator (.phrase ⟨n, bs⟩) =>
      both (plain (m == n)) fun _ => ifEquallyLong as bs fun _ => compareEach as bs
    | .definition ⟨as, c, l, u⟩, .definition ⟨bs, c', l', u'⟩ =>
      both (plain (c == c' && l == l' && u == u')) fun _ =>
        ifEquallyLong as bs fun _ => compareEach as bs
    | .stack (@Stack.mk _ m as), .stack (@Stack.mk _ n bs) =>
      if h : n = m then of_eq (sameChain_resized h as bs) (compareChain as (bs.resized h))
      else ⟨false, (sameChain_eq_false_of_ne h as bs).symm⟩
    | v, w => plain (same v w)
termination_by structural a

/-- Compare two lists element by element. -/
def compareEach (a b : List Value) : Settled (sameEach a b) :=
  unlessShared sameEach_self a b fun _ =>
    match a, b with
    | v :: as, w :: bs => both (compareShared v w) fun _ => compareEach as bs
    | as, bs => plain (sameEach as bs)

/-- Look the entries of the first list up in the second. -/
def compareFound (a b : List (String × Value)) : Settled (foundIn a b) :=
  match a with
  | [] => plain true
  | (key, v) :: rest =>
    both (any (fun entry => both (plain (entry.1 == key)) fun _ => compareShared v entry.2) b)
      fun _ => compareFound rest b

/-- Compare two chains of one length element by element. -/
def compareChain {n : Nat} (a b : Chain Value n) : Settled (sameChain a b) :=
  unlessShared sameChain_self a b fun _ =>
    match n, a, b with
    | _, .cons v rest, .cons w under =>
      both (compareShared v w) fun _ => compareChain rest under
    | _, .nil, .nil => plain true

end

instance : BEq Value := ⟨fun a b => (compareShared a b).1⟩

/-- **Comparing with an eye on sharing is comparing.** -/
theorem beq_eq_same (a b : Value) : (a == b) = same a b := (compareShared a b).2

instance : ReflBEq Value := ⟨fun {a} => (beq_eq_same a a).trans (same_self a)⟩

end Value

end Homoiconic
