import Homoiconic.Stack.Cursor
import Homoiconic.Proofs.Equality

/-!
# Linked stacks are lists

A stack is a chain of links, each of which stores how many elements there are from it down.  The
stored number is trusted: the length of a stack is read off its top, a cursor tells from it how much
is still to come, popping several elements checks it once and then follows so many links without
looking, and stacks that store different numbers are told apart at once.

What all of this amounts to is said on the list of the elements.  The number that the next link
stores is the length of what is left of the list, at every place on the way down.  Popping `n`
elements goes down `n` links, which is what a cursor does in `n` steps (`unlink_eq`), and so there
is a link to follow in each of the rounds.  It cuts the list, and two cuts one after the other are
one cut (`popN_add_eq_ok_iff`).

Nothing has to be known of how a stack was built.  The number that a link stores is an index of its
type, so every operation that builds a link stores the right one or is refused when it is compiled.
-/

namespace Homoiconic

universe u

variable {α : Type u}

/-! ## Going down several links -/

/-- **Taking `n` elements off visits what a cursor visits in `n` steps**, and leaves what is then
still ahead. -/
theorem Chain.unlink_eq (n : Nat) {m : Nat} (chain : Chain α m) (collected : List α) :
    chain.unlink n collected =
      ((chain.descend.take n).reverse ++ collected, ((⟨⟨chain⟩⟩ : Cursor α).skip n).ahead) := by
  induction n generalizing m chain collected with
  | zero => rfl
  | succ n ih =>
    cases chain with
    | nil => rfl
    | cons value rest =>
      rw [unlink, ih, descend, List.take_succ_cons, List.reverse_cons, List.append_assoc]
      rfl

namespace Stack

variable {s t rest : Stack α} {values : List α} {m n : Nat}

/-- **Popping cuts the list of elements**: the upper part is returned, and what is ahead of a cursor
at the cut is left. -/
theorem popN_of_le (h : n ≤ s.depth) :
    s.popN n = .ok ((s.cursor.skip n).ahead, s.toList.drop (s.depth - n)) := by
  have hvisited : (s.chain.descend.take n).reverse = s.toList.drop (s.depth - n) := by
    rw [List.reverse_take, Chain.length_descend]
    exact congrArg (List.drop (s.depth - n)) s.reverse_toList_cursor
  rw [popN, if_pos h, Chain.unlink_eq, List.append_nil, hvisited]
  rfl

theorem pushAll_append (s : Stack α) (lower upper : List α) :
    s.pushAll (lower ++ upper) = (s.pushAll lower).pushAll upper :=
  List.foldl_append

theorem popN_eq_ok_iff :
    s.popN n = .ok (rest, values) ↔ s = rest.pushAll values ∧ values.length = n := by
  constructor
  · exact eq_pushAll_of_popN
  · rintro ⟨rfl, rfl⟩
    exact popN_pushAll rest values

/-- **Popping `m + n` elements is popping `n` and then `m`**, with the lists joined. -/
theorem popN_add_eq_ok_iff :
    s.popN (m + n) = .ok (rest, values) ↔
      ∃ middle lower upper, s.popN n = .ok (middle, upper) ∧ middle.popN m = .ok (rest, lower) ∧
        lower ++ upper = values := by
  simp only [popN_eq_ok_iff]
  constructor
  · rintro ⟨rfl, hlength⟩
    have hsplit := List.take_append_drop m values
    refine ⟨rest.pushAll (values.take m), values.take m, values.drop m, ⟨?_, ?_⟩, ⟨rfl, ?_⟩, hsplit⟩
    · rw [← pushAll_append, hsplit]
    · rw [List.length_drop]
      omega
    · rw [List.length_take]
      omega
  · rintro ⟨middle, lower, upper, ⟨rfl, hupper⟩, ⟨rfl, hlower⟩, rfl⟩
    refine ⟨(pushAll_append rest lower upper).symm, ?_⟩
    rw [List.length_append, hlower, hupper]

/-- Popping one element is popping a list of one. -/
theorem popN_one (s : Stack α) : s.popN 1 = s.pop.map fun popped => (popped.1, [popped.2]) := by
  rcases s.eq_empty_or_push with rfl | ⟨rest, v, rfl⟩
  · rfl
  · rfl

/-- The top element is the one that is popped. -/
theorem peek_eq (s : Stack α) : s.peek = s.pop.map Prod.snd := by
  rcases s.eq_empty_or_push with rfl | ⟨rest, v, rfl⟩
  · rfl
  · rfl

end Stack

/-! ## Equality -/

theorem beq_list_iff {vs ws : List Value} :
    (vs == ws) = true ↔ List.Forall₂ (fun v w => Value.same v w = true) vs ws := by
  induction vs generalizing ws with
  | nil => cases ws <;> simp
  | cons v rest ih => cases ws <;> simp [Value.beq_eq_same, ih]

/-- **Stacks are equal exactly if their lists of elements are.** -/
theorem beq_stack_eq (s t : Stack Value) : (Value.stack s == .stack t) = (s.toList == t.toList) := by
  obtain ⟨a⟩ := s
  obtain ⟨b⟩ := t
  rw [Bool.eq_iff_iff, Value.beq_eq_same, Value.same, Value.sameChain_iff, beq_list_iff]

/-! ## The main result -/

/-- **A stack is the list of its elements**, for every operation on it.  Pushing appends.  At every
place on the way down, the number that the next link stores is the number of elements from there
down; its elements backwards are what a cursor visits.  Popping `n` elements returns the upper `n`,
deepest first, and leaves the rest, if there are so many, and then there is a link to follow in
every round; otherwise it says how many were needed and how many there are.  Popping in two parts is
popping at once; peeking and popping a single element do as popping several does.  And two stacks
are equal exactly if their lists are. -/
theorem stacks_are_lists_of_elements (s t : Stack Value) :
    ((Stack.empty : Stack Value).toList = [] ∧
      (∀ v, (s.push v).toList = s.toList ++ [v]) ∧
      ∀ values, (s.pushAll values).toList = s.toList ++ values ∧
        (Stack.ofList values).toList = values) ∧
    (s.depth = s.toList.length ∧ s.cursor.toList.reverse = s.toList ∧
      ∀ k, (s.cursor.skip k).remaining = s.depth - k ∧
        (s.cursor.skip k).toList = s.cursor.toList.drop k ∧
        (s.cursor.skip k).next?.map Prod.fst = s.cursor.toList[k]?) ∧
    (∀ n,
      (n ≤ s.depth ∧ (∀ k < n, (s.cursor.skip k).next?.isSome) ∧
        ∃ rest values, s.popN n = .ok (rest, values) ∧ rest = (s.cursor.skip n).ahead ∧
          values = s.toList.drop (s.depth - n) ∧ values.length = n ∧
          rest.pushAll values = s) ∨
      (s.depth < n ∧ s.popN n = .error ⟨n, s.depth⟩)) ∧
    (∀ m n rest values, s.popN (m + n) = .ok (rest, values) ↔
      ∃ middle lower upper, s.popN n = .ok (middle, upper) ∧ middle.popN m = .ok (rest, lower) ∧
        lower ++ upper = values) ∧
    ((∀ n, s.peekN n = (s.popN n).map Prod.snd) ∧
      s.popN 1 = (s.pop.map fun popped => (popped.1, [popped.2])) ∧
      s.peek = s.pop.map Prod.snd) ∧
    (Value.stack s == .stack t) = (s.toList == t.toList) := by
  have hlength : s.cursor.toList.length = s.depth := Chain.length_descend s.chain
  refine ⟨⟨rfl, s.toList_push, fun values => ⟨s.toList_pushAll values, ?_⟩⟩,
    ⟨s.depth_eq_length, s.reverse_toList_cursor, fun k => ⟨?_, ?_, ?_⟩⟩, fun n => ?_,
    fun m n rest values => Stack.popN_add_eq_ok_iff, ⟨fun n => rfl, s.popN_one, s.peek_eq⟩,
    beq_stack_eq s t⟩
  · exact Stack.toList_ofList values
  · rw [Cursor.remaining_eq_length, Cursor.toList_skip, List.length_drop, hlength]
  · exact Cursor.toList_skip k s.cursor
  · exact Cursor.next?_skip k s.cursor
  · rcases Nat.lt_or_ge s.depth n with hlt | hle
    · have hunderflow := Stack.popN_of_lt (s.depth_eq_length ▸ hlt)
      rw [← s.depth_eq_length] at hunderflow
      exact Or.inr ⟨hlt, hunderflow⟩
    · have hpop := Stack.popN_of_le hle
      obtain ⟨hstack, hcount⟩ := Stack.eq_pushAll_of_popN hpop
      refine Or.inl ⟨hle, fun k hk => ?_, _, _, hpop, rfl, rfl, hcount, hstack.symm⟩
      have hvisited := Cursor.next?_skip k s.cursor
      rw [List.getElem?_eq_getElem (by omega)] at hvisited
      obtain ⟨step, hstep, _⟩ := Option.map_eq_some_iff.mp hvisited
      rw [hstep]
      rfl

end Homoiconic
