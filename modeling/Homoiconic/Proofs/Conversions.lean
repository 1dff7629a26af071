import Homoiconic.Proofs.Calls
import Homoiconic.Proofs.WordEffects

/-!
# Taking arguments off the stack

An operation on evaluated arguments becomes a combinator in one of three ways.  The combinator takes
a fixed number of elements, or one element that is a list or a stack of arguments, or such an
element beneath a keyword map.  It then calls the operation and pushes the result.

The second way is enough for the first, and the third for the second.  A number of elements is
gathered in a list by a word, and a map without keywords is pushed by a program.  The programs do
what the combinators do on every stack, failures included.  What has to be compared for this are the
failures before the call: a stack that is too short is reported with the same counts, because the
number that the word counts with is no longer on the stack when it counts, and a value that holds no
arguments is refused under the same name.
-/

namespace Homoiconic

variable {rest stack : Stack Value} {name : String} {op : Operation Value} {count : Nat} {n : Int64}

/-! ## What the combinators do -/

/-- The combinator of a fixed number of arguments, where they are. -/
theorem stepItem_popping_pushAll (args : List Value) :
    stepItem .full (rest.pushAll args) (.combinator (.popping name args.length op)) =
      pushResult rest (callFunction ⟨name, .plain op⟩ args .empty) := by
  show ofStack ((rest.pushAll args).popN args.length) >>= _ = _
  rw [Stack.popN_pushAll]
  rfl

theorem stepItem_popping_of_lt (hlt : stack.toList.length < count) :
    stepItem .full stack (.combinator (.popping name count op)) =
      fail (.underflow ⟨count, stack.toList.length⟩) := by
  show ofStack (stack.popN count) >>= _ = _
  rw [Stack.popN_of_lt hlt]
  rfl

/-- The combinator of a list or a stack of arguments, where there is a value. -/
theorem stepItem_positional_push (args : Value) :
    stepItem .full (rest.push args) (.combinator (.positional name op)) =
      positionalArguments name args >>= fun args =>
        pushResult rest (callFunction ⟨name, .plain op⟩ args .empty) := rfl

theorem stepItem_keyword_push (args : Value) (kwargs : Keywords Value) :
    stepItem .full ((rest.push args).push (.map kwargs)) (.combinator (.keyword name op)) =
      positionalArguments name args >>= fun args =>
        pushResult rest (callFunction ⟨name, .plain op⟩ args kwargs) := rfl

/-! ## One way in terms of another -/

/-- **A fixed number of arguments can be gathered in a list.**  Either there are as many elements,
and these are the arguments, or both sides report the same counts. -/
theorem stepItem_popping (hn : 0 ≤ n) (name : String) (op : Operation Value)
    (stack : Stack Value) :
    stepItem .full stack (.combinator (.popping name n.toInt.toNat op)) =
      foldItems .full stack [.number n, Word.quote.item, .combinator (.positional name op)] := by
  have hright : foldItems .full stack
        [.number n, Word.quote.item, .combinator (.positional name op)] =
      runWord .full .quote (stack.push (.number n)) >>= fun after =>
        stepItem .full after (.combinator (.positional name op)) := by
    simp [foldItems_singleton]
  rw [hright]
  rcases Nat.lt_or_ge stack.toList.length n.toInt.toNat with hlt | hle
  · rw [stepItem_popping_of_lt hlt, runWord_quote_of_lt hn hlt, fail_bind]
  · obtain ⟨rest, args, hlength, rfl⟩ := Stack.exists_pushAll_of_le hle
    rw [runWord_quote_pushAll args hn hlength, pure_bind, ← hlength, stepItem_popping_pushAll]
    rfl

/-- **Positional arguments alone are positional arguments beneath a map without keywords.** -/
theorem stepItem_positional (name : String) (op : Operation Value) (stack : Stack Value) :
    stepItem .full stack (.combinator (.positional name op)) =
      foldItems .full stack [.map .empty, .combinator (.keyword name op)] := by
  have hright : foldItems .full stack [.map .empty, .combinator (.keyword name op)] =
      stepItem .full (stack.push (.map .empty)) (.combinator (.keyword name op)) := by
    simp [foldItems_singleton]
  rw [hright]
  rcases stack.eq_empty_or_push with rfl | ⟨rest, args, rfl⟩
  · rfl
  · rw [stepItem_positional_push, stepItem_keyword_push]

/-- **Combinators made from an operation can be made from each other**, on every stack and in every
state.  The one that takes a number of elements is the program that gathers as many in a list, for
the one that takes a list; and this one is the program that pushes a map without keywords, for the
one that takes both.  They return the same stack or fail with the same error, and leave the same
state.  If there are as many elements as the first one takes, the operation is called on them, the
deepest first, and the result takes their place; if not, both counts are reported. -/
theorem conversions_are_interderivable (stack : Stack Value) (name : String)
    (op : Operation Value) :
    (∀ n : Int64, 0 ≤ n → fold stack [.combinator (.popping name n.toInt.toNat op)] =
      fold stack [.number n, Word.quote.item, .combinator (.positional name op)]) ∧
    fold stack [.combinator (.positional name op)] =
      fold stack [.map .empty, .combinator (.keyword name op)] ∧
    (∀ rest args, stack = Stack.pushAll rest args →
      fold stack [.combinator (.popping name args.length op)] =
        nested .folding (pushResult rest (callFunction ⟨name, .plain op⟩ args .empty))) ∧
    ∀ count, stack.toList.length < count →
      fold stack [.combinator (.popping name count op)] =
        nested .folding (fail (.underflow ⟨count, stack.toList.length⟩)) := by
  refine ⟨?_, ?_, ?_, ?_⟩
  · intro n hn
    rw [fold_eq_nested, fold_eq_nested, foldItems_singleton, stepItem_popping hn]
  · rw [fold_eq_nested, fold_eq_nested, foldItems_singleton, stepItem_positional]
  · rintro rest args rfl
    rw [fold_eq_nested, foldItems_singleton, stepItem_popping_pushAll]
  · intro count hlt
    rw [fold_eq_nested, foldItems_singleton, stepItem_popping_of_lt hlt]

/-- Two of three elements are listed, and one of none. -/
theorem conversions_of_listing :
    ((0 : Int64) ≤ 2 ∧ (Stack.ofList [Value.nil, .bool true, .bool false]) =
        (Stack.ofList [Value.nil]).pushAll [.bool true, .bool false] ∧
      (Stack.empty : Stack Value).toList.length < 1) ∧
    fold (.ofList [.nil, .bool true, .bool false])
        [.number 2, Word.quote.item, .combinator (.positional "list" (.primitive .list))] .initial =
      (.ok (.ofList [.nil, .list [.bool true, .bool false]]), .initial) ∧
    fold .empty [.combinator (.popping "list" 1 (.primitive .list))] .initial =
      (.error (.underflow ⟨1, 0⟩), .initial) := by
  have htwo : (0 : Int64) ≤ 2 := by decide
  have hstack : (Stack.ofList [Value.nil, .bool true, .bool false]) =
      (Stack.ofList [Value.nil]).pushAll [.bool true, .bool false] := rfl
  have hshort : (Stack.empty : Stack Value).toList.length < 1 := by decide
  obtain ⟨hgather, _, hcall, _⟩ := conversions_are_interderivable
    (.ofList [.nil, .bool true, .bool false]) "list" (.primitive .list)
  obtain ⟨_, _, _, hunderflow⟩ :=
    conversions_are_interderivable .empty "list" (.primitive .list)
  refine ⟨⟨htwo, hstack, hshort⟩, ?_, ?_⟩
  · have hpopping := hcall _ _ hstack
    rw [← hgather 2 htwo]
    exact (congrFun hpopping _).trans rfl
  · rw [hunderflow 1 hshort]
    rfl

end Homoiconic
