import Homoiconic.Stack.Lemmas

/-!
# Going down a stack

A cursor goes down a stack from the top, one element at a time, and leaves the stack as it is.  It
stands at a link of the chain.  The link knows how many elements there are from it down, so at every
place the cursor knows how many it still has to visit, without going there.

What a cursor has to visit is a list, `toList`.  A step takes its head off (`next?_eq`), so after
`n` steps `n` elements are gone from it (`toList_skip`), and the number that the link stores is its
length (`remaining_eq_length`).
-/

namespace Homoiconic

universe u

variable {α : Type u}

/-- The elements from the top down. -/
def Chain.descend : {n : Nat} → Chain α n → List α
  | _, .nil => []
  | _, .cons value rest => value :: rest.descend

/-- A place on the way down a stack. -/
structure Cursor (α : Type u) where
  /-- What has not been visited yet. -/
  ahead : Stack α

/-- The place before the top. -/
def Stack.cursor (s : Stack α) : Cursor α := ⟨s⟩

namespace Cursor

/-- Visit the next element, if there is one. -/
def next? (c : Cursor α) : Option (α × Cursor α) :=
  match c with
  | ⟨⟨.nil⟩⟩ => none
  | ⟨⟨.cons value rest⟩⟩ => some (value, ⟨⟨rest⟩⟩)

/-- How many elements are still to be visited: what the next link stores. -/
def remaining (c : Cursor α) : Nat := c.ahead.depth

/-- The elements that are still to be visited. -/
def toList (c : Cursor α) : List α := c.ahead.chain.descend

/-- The place after so many steps.  The end is not left again. -/
def skip : Nat → Cursor α → Cursor α
  | 0, c => c
  | n + 1, c =>
    match c.next? with
    | none => c
    | some (_, c) => skip n c

end Cursor

/-! ## The elements ahead -/

namespace Chain

theorem reverse_descend_append {n : Nat} (chain : Chain α n) (collected : List α) :
    chain.descend.reverse ++ collected = chain.collect collected := by
  induction chain generalizing collected with
  | nil => rfl
  | cons value rest ih =>
    rw [descend, List.reverse_cons, List.append_assoc, List.singleton_append, ih]
    rfl

theorem length_descend {n : Nat} (chain : Chain α n) : chain.descend.length = n := by
  induction chain with
  | nil => rfl
  | cons value rest ih => rw [descend, List.length_cons, ih]

end Chain

/-- **What is visited from the top down is the list of elements backwards.** -/
theorem Stack.reverse_toList_cursor (s : Stack α) : s.cursor.toList.reverse = s.toList := by
  have hcollect := s.chain.reverse_descend_append []
  rwa [List.append_nil] at hcollect

namespace Cursor

/-- **The stored number is the number of elements that are still to be visited.** -/
theorem remaining_eq_length (c : Cursor α) : c.remaining = c.toList.length :=
  (Chain.length_descend c.ahead.chain).symm

/-- A step takes the head off what is to be visited. -/
theorem next?_eq (c : Cursor α) :
    c.next?.map (fun step => (step.1, step.2.toList)) =
      c.toList.head?.map fun value => (value, c.toList.tail) := by
  obtain ⟨chain⟩ := c
  obtain ⟨chain⟩ := chain
  cases chain <;> rfl

/-- **After `n` steps `n` elements have been visited**, or all. -/
theorem toList_skip (n : Nat) (c : Cursor α) : (c.skip n).toList = c.toList.drop n := by
  induction n generalizing c with
  | zero => rfl
  | succ n ih =>
    obtain ⟨⟨chain⟩⟩ := c
    cases chain with
    | nil => rfl
    | cons value rest => exact ih ⟨⟨rest⟩⟩

/-- What the `n`-th step visits. -/
theorem next?_skip (n : Nat) (c : Cursor α) : (c.skip n).next?.map Prod.fst = c.toList[n]? := by
  have hstep := congrArg (Option.map Prod.fst) (next?_eq (c.skip n))
  rw [Option.map_map, Option.map_map, toList_skip, List.head?_drop] at hstep
  exact hstep.trans Option.map_id'

end Cursor

end Homoiconic
