import Homoiconic.Stack.Basic

/-!
# A stack is the list of its elements

Every operation on stacks is a list operation on the view `toList`: pushing appends, popping takes
from the end, and the length is the length of the list.  Two stacks with the same elements are the
same stack (`eq_of_toList_eq`), so laws about stacks can be proved through the view.
-/

namespace Homoiconic

universe u

variable {α : Type u}

namespace Chain

theorem collect_eq_append {n : Nat} (chain : Chain α n) (collected : List α) :
    chain.collect collected = chain.collect [] ++ collected := by
  induction chain generalizing collected with
  | nil => rfl
  | cons value rest ih => rw [collect, ih, collect, ih [value], List.append_assoc]; rfl

theorem length_collect {n : Nat} (chain : Chain α n) (collected : List α) :
    (chain.collect collected).length = n + collected.length := by
  induction chain generalizing collected with
  | nil => simp [collect]
  | cons value rest ih => rw [collect, ih, List.length_cons]; omega

/-- What is taken off stands on top of what is left. -/
theorem toList_unlink_append (n : Nat) {m : Nat} (chain : Chain α m) (collected : List α) :
    (chain.unlink n collected).2.toList ++ (chain.unlink n collected).1 =
      chain.collect collected := by
  induction n generalizing m chain collected with
  | zero => exact (collect_eq_append chain collected).symm
  | succ n ih =>
    cases chain with
    | nil => rfl
    | cons value rest => exact ih rest (value :: collected)

/-- As many elements are taken off as were asked for, or as there are. -/
theorem length_unlink (n : Nat) {m : Nat} (chain : Chain α m) (collected : List α) :
    (chain.unlink n collected).1.length = min n m + collected.length := by
  induction n generalizing m chain collected with
  | zero => simp [unlink]
  | succ n ih =>
    cases chain with
    | nil => simp [unlink]
    | cons value rest => rw [unlink, ih, List.length_cons]; omega

end Chain

namespace Stack

/-! ## The view -/

@[simp] theorem toList_empty : (empty : Stack α).toList = [] := rfl

@[simp] theorem toList_push (s : Stack α) (value : α) :
    (s.push value).toList = s.toList ++ [value] :=
  Chain.collect_eq_append s.chain [value]

/-- **A stack is determined by its elements.** -/
theorem eq_of_toList_eq {s t : Stack α} (h : s.toList = t.toList) : s = t := by
  obtain ⟨chain⟩ := s
  induction chain generalizing t with
  | nil =>
    obtain ⟨other⟩ := t
    cases other with
    | nil => rfl
    | cons w under =>
      have hcons : (⟨.cons w under⟩ : Stack α).toList = (⟨under⟩ : Stack α).toList ++ [w] :=
        toList_push ⟨under⟩ w
      rw [hcons] at h
      exact absurd h.symm (by simp [toList, Chain.collect])
  | cons v rest ih =>
    have hcons : (⟨.cons v rest⟩ : Stack α).toList = (⟨rest⟩ : Stack α).toList ++ [v] :=
      toList_push ⟨rest⟩ v
    obtain ⟨other⟩ := t
    cases other with
    | nil =>
      rw [hcons] at h
      exact absurd h (by simp [toList, Chain.collect])
    | cons w under =>
      have hother : (⟨.cons w under⟩ : Stack α).toList = (⟨under⟩ : Stack α).toList ++ [w] :=
        toList_push ⟨under⟩ w
      rw [hcons, hother] at h
      obtain ⟨hrest, hvalue⟩ := List.append_inj' h rfl
      have hstack := ih hrest
      cases hstack
      cases hvalue
      rfl

@[simp] theorem toList_pushAll (s : Stack α) (values : List α) :
    (s.pushAll values).toList = s.toList ++ values := by
  induction values generalizing s with
  | nil => simp [pushAll]
  | cons v rest ih =>
    have hstep : s.pushAll (v :: rest) = (s.push v).pushAll rest := rfl
    rw [hstep, ih, toList_push, List.append_assoc, List.singleton_append]

@[simp] theorem toList_ofList (values : List α) : (ofList values).toList = values := by
  simp [ofList]

@[simp] theorem ofList_toList (s : Stack α) : ofList s.toList = s :=
  eq_of_toList_eq (toList_ofList _)

/-- The depth is the number of elements. -/
theorem depth_eq_length (s : Stack α) : s.depth = s.toList.length :=
  (Chain.length_collect s.chain []).symm

@[simp] theorem depth_push (s : Stack α) (value : α) : (s.push value).depth = s.depth + 1 := rfl

/-- Popping undoes pushing. -/
@[simp] theorem pop_push (s : Stack α) (value : α) : (s.push value).pop = .ok (s, value) := rfl

@[simp] theorem peek_push (s : Stack α) (value : α) : (s.push value).peek = .ok value := rfl

@[simp] theorem pop_empty : (empty : Stack α).pop = .error ⟨1, 0⟩ := rfl

@[simp] theorem peek_empty : (empty : Stack α).peek = .error ⟨1, 0⟩ := rfl

/-- **Popping as many elements as were pushed gives them back, in order, with the rest.** -/
@[simp] theorem popN_pushAll (s : Stack α) (values : List α) :
    (s.pushAll values).popN values.length = .ok (s, values) := by
  have hdepth : (s.pushAll values).depth = s.toList.length + values.length := by
    rw [depth_eq_length, toList_pushAll, List.length_append]
  have hlength : ((s.pushAll values).chain.unlink values.length []).1.length = values.length := by
    rw [Chain.length_unlink, hdepth, List.length_nil]
    omega
  have hsplit := (Chain.toList_unlink_append values.length (s.pushAll values).chain []).trans
    (toList_pushAll s values)
  obtain ⟨hrest, hvalues⟩ := List.append_inj' hsplit hlength
  rw [popN, if_pos (by omega)]
  exact congrArg Except.ok (Prod.ext (eq_of_toList_eq hrest) hvalues)

/-- There are too few elements to pop exactly if the stack is shorter than what is asked for. -/
theorem popN_of_lt {s : Stack α} {n : Nat} (h : s.toList.length < n) :
    s.popN n = .error ⟨n, s.toList.length⟩ := by
  rw [← depth_eq_length] at h ⊢
  rw [popN, if_neg (by omega)]

/-- Every stack of `n` elements or more is a shorter stack with its top `n` elements pushed. -/
theorem exists_pushAll_of_le {s : Stack α} {n : Nat} (h : n ≤ s.toList.length) :
    ∃ rest values, values.length = n ∧ s = Stack.pushAll rest values := by
  refine ⟨ofList (s.toList.take (s.toList.length - n)), s.toList.drop (s.toList.length - n),
    by simp; omega, eq_of_toList_eq ?_⟩
  simp

/-- A stack is empty or has a top. -/
theorem eq_empty_or_push (s : Stack α) : s = .empty ∨ ∃ rest v, s = Stack.push rest v := by
  obtain ⟨chain⟩ := s
  cases chain with
  | nil => exact Or.inl rfl
  | cons v under => exact Or.inr ⟨⟨under⟩, v, rfl⟩

/-! ## What was taken off -/

variable {s rest : Stack α}

theorem eq_push_of_pop {v : α} (h : s.pop = .ok (rest, v)) : s = rest.push v := by
  obtain ⟨chain⟩ := s
  cases chain with
  | nil => cases h
  | cons w under =>
    obtain ⟨rfl, rfl⟩ := Prod.mk.inj (Except.ok.inj h)
    rfl

theorem exists_push_of_peek {v : α} (h : s.peek = .ok v) : ∃ rest, s = Stack.push rest v := by
  obtain ⟨chain⟩ := s
  cases chain with
  | nil => cases h
  | cons w under =>
    obtain rfl : w = v := Except.ok.inj h
    exact ⟨⟨under⟩, rfl⟩

/-- **What is popped was on top**: the stack is the rest with the popped elements pushed. -/
theorem eq_pushAll_of_popN {n : Nat} {values : List α} (h : s.popN n = .ok (rest, values)) :
    s = rest.pushAll values ∧ values.length = n := by
  by_cases hn : n ≤ s.toList.length
  · obtain ⟨rest', values', rfl, rfl⟩ := exists_pushAll_of_le hn
    rw [popN_pushAll] at h
    obtain ⟨rfl, rfl⟩ := Prod.mk.inj (Except.ok.inj h)
    exact ⟨rfl, rfl⟩
  · rw [popN_of_lt (Nat.lt_of_not_le hn)] at h
    cases h

theorem eq_pushAll_of_pop2 {a b : α} (h : s.pop2 = .ok (rest, a, b)) :
    s = rest.pushAll [a, b] := by
  unfold pop2 at h
  split at h
  · rename_i hpop
    cases h
    exact (eq_pushAll_of_popN hpop).1
  · cases h
  · cases h

theorem eq_pushAll_of_pop3 {a b c : α} (h : s.pop3 = .ok (rest, a, b, c)) :
    s = rest.pushAll [a, b, c] := by
  unfold pop3 at h
  split at h
  · rename_i hpop
    cases h
    exact (eq_pushAll_of_popN hpop).1
  · cases h
  · cases h

theorem eq_pushAll_of_pop4 {a b c d : α} (h : s.pop4 = .ok (rest, a, b, c, d)) :
    s = rest.pushAll [a, b, c, d] := by
  unfold pop4 at h
  split at h
  · rename_i hpop
    cases h
    exact (eq_pushAll_of_popN hpop).1
  · cases h
  · cases h

theorem pop2_pushAll (rest : Stack α) (a b : α) :
    (rest.pushAll [a, b]).pop2 = .ok (rest, a, b) := by
  rw [pop2, show (rest.pushAll [a, b]).popN 2 = .ok (rest, [a, b]) from popN_pushAll rest [a, b]]

theorem pop3_pushAll (rest : Stack α) (a b c : α) :
    (rest.pushAll [a, b, c]).pop3 = .ok (rest, a, b, c) := by
  rw [pop3, show (rest.pushAll [a, b, c]).popN 3 = .ok (rest, [a, b, c]) from
    popN_pushAll rest [a, b, c]]

theorem pop4_pushAll (rest : Stack α) (a b c d : α) :
    (rest.pushAll [a, b, c, d]).pop4 = .ok (rest, a, b, c, d) := by
  rw [pop4, show (rest.pushAll [a, b, c, d]).popN 4 = .ok (rest, [a, b, c, d]) from
    popN_pushAll rest [a, b, c, d]]

end Stack

end Homoiconic
