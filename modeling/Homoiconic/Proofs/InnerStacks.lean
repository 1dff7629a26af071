import Homoiconic.Proofs.Composition
import Homoiconic.Proofs.WordEffects

/-!
# Folding over a stack inside a value

Two words fold a program over a stack that is a value, or that is made from a list, and push the
stack that results as one value.  They differ in how a list becomes a stack.  `infra` takes its
first element for the top, as in a stack program that is written from the top down, and `subspace`
its last one, as in a list of elements in the order in which they are pushed.  A stack is used as it
is (`Opens`).

What follows is that the two words mirror each other on lists, and that it does not matter which of
them continues: the first one leaves a stack, on which both agree.  Since programs compose
(`fold_append`), folding two programs inside, one after the other, is folding both at once, also
where the first one fails or has effects.  The stack around the value is not seen by any of these
programs.
-/

namespace Homoiconic

/-! ## Inner stacks -/

/-- The words that fold a program over an inner stack. -/
def Word.FoldsInside (w : Word) : Prop := w = .infra ∨ w = .subspace

/-- The values that hold an inner stack. -/
def Value.HoldsStack (a : Value) : Prop :=
  (∃ items, a = .list items) ∨ ∃ inner, a = .stack inner

/-- The inner stack that a word finds in a value. -/
inductive Opens : Word → Value → Stack Value → Prop
  /-- A stack is used as it is. -/
  | stack {w : Word} (hw : w.FoldsInside) (inner : Stack Value) : Opens w (.stack inner) inner
  /-- The first element of a list is the top. -/
  | topFirst (items : List Value) : Opens .infra (.list items) (.ofList items.reverse)
  /-- The last element of a list is the top. -/
  | topLast (items : List Value) : Opens .subspace (.list items) (.ofList items)

theorem exists_opens {w : Word} {a : Value} (hw : w.FoldsInside) (ha : a.HoldsStack) :
    ∃ inner, Opens w a inner := by
  obtain ⟨items, rfl⟩ | ⟨inner, rfl⟩ := ha
  · obtain rfl | rfl := hw
    · exact ⟨_, .topFirst items⟩
    · exact ⟨_, .topLast items⟩
  · exact ⟨inner, .stack hw inner⟩

namespace Opens

variable {w second : Word} {a : Value} {inner : Stack Value}

theorem ne_combinator (hopens : Opens w a inner) (c : Combinator Value) :
    a ≠ .combinator c := by
  cases hopens <;> nofun

/-- What the word does with the value and a program on top of it. -/
theorem runWord_eq (hopens : Opens w a inner) (stack : Stack Value) (p : List Value) :
    runWord .full w ((stack.push a).push (.list p)) =
      fold inner p >>= fun result => pure (stack.push (.stack result)) := by
  cases hopens with
  | stack hw inner => obtain rfl | rfl := hw <;> simp
  | topFirst items => simp
  | topLast items => simp

/-- Folding over the inner stack of a value that has been pushed. -/
theorem foldItems_pushed (hopens : Opens w a inner) (stack : Stack Value) (p : List Value) :
    foldItems .full (stack.push a) [.list p, w.item] =
      fold inner p >>= fun result => pure (stack.push (.stack result)) := by
  simp [hopens.runWord_eq]

/-- **A program that folds inside pushes the stack that its inner fold returns**, one level
deeper. -/
theorem fold_eq (hopens : Opens w a inner) (stack : Stack Value) (p : List Value) :
    fold stack [a, .list p, w.item] =
      nested .folding (fold inner p >>= fun result => pure (stack.push (.stack result))) := by
  rw [fold_cons_of_data hopens.ne_combinator, fold_eq_nested, hopens.foldItems_pushed]

/-- **Two folds inside are one fold of both programs.** -/
theorem fold_fused (hopens : Opens w a inner) (hsecond : second.FoldsInside) (stack : Stack Value)
    (p q : List Value) :
    fold stack [a, .list p, w.item, .list q, second.item] =
      fold stack [a, .list (p ++ q), w.item] := by
  have hrest (result : Stack Value) :
      foldItems .full (stack.push (.stack result)) [.list q, second.item] =
        fold result q >>= fun result => pure (stack.push (.stack result)) :=
    (Opens.stack hsecond result).foldItems_pushed stack q
  have hitems : foldItems .full (stack.push a) [.list p, w.item, .list q, second.item] =
      fold inner (p ++ q) >>= fun result => pure (stack.push (.stack result)) := by
    calc foldItems .full (stack.push a) ([.list p, w.item] ++ [.list q, second.item])
      _ = fold inner p >>= fun result =>
          foldItems .full (stack.push (.stack result)) [.list q, second.item] := by
        rw [foldItems_append, hopens.foldItems_pushed, bind_assoc]
        simp only [pure_bind]
      _ = fold inner p >>= fun result => fold result q >>= fun result =>
          pure (stack.push (.stack result)) := by simp only [hrest]
      _ = fold inner (p ++ q) >>= fun result => pure (stack.push (.stack result)) := by
        rw [fold_append, bind_assoc]
  rw [fold_cons_of_data hopens.ne_combinator, fold_eq_nested, hitems, hopens.fold_eq]

/-- What such a program returns is the stack with one more stack on top. -/
theorem exists_push_of_fold (hopens : Opens w a inner) {stack u : Stack Value} {p : List Value}
    {s s' : State} (hrun : fold stack [a, .list p, w.item] s = (.ok u, s')) :
    ∃ result, u = stack.push (.stack result) := by
  rw [hopens.fold_eq] at hrun
  obtain ⟨s₁, _, hinner, _⟩ := exists_of_nested_eq_ok hrun
  obtain ⟨result, s₂, _, hpush⟩ := exists_of_bind_eq_ok hinner
  exact ⟨result, (Except.ok.inj (congrArg Prod.fst hpush)).symm⟩

end Opens

/-! ## Both words -/

/-- **Folds over inner stacks fuse, and the two words mirror each other.**  Take either word, a list
or a stack for it, and two programs.  Folding one of them inside, and then the other, by either
word, is folding both of them inside at once.  On a list, `infra` does what `subspace` does on the
reversed list.  Folding inside folds the program over the stack that the word finds in the value,
and pushes the stack that results, so all that is ever returned is the outer stack with one stack
pushed.  All this holds in every state: the same stack is returned, or the same error, and the same
state is left. -/
theorem inner_folds_fuse_and_mirror {first second : Word} {a : Value}
    (hfirst : first.FoldsInside) (hsecond : second.FoldsInside) (ha : a.HoldsStack)
    (stack : Stack Value) (p q : List Value) :
    fold stack [a, .list p, first.item, .list q, second.item] =
        fold stack [a, .list (p ++ q), first.item] ∧
      (∀ items, a = .list items → fold stack [a, .list p, Word.infra.item] =
        fold stack [.list items.reverse, .list p, Word.subspace.item]) ∧
      (∃ inner, Opens first a inner ∧ fold stack [a, .list p, first.item] =
        nested .folding (fold inner p >>= fun result => pure (stack.push (.stack result)))) ∧
      ∀ s s' u, fold stack [a, .list p, first.item] s = (.ok u, s') →
        ∃ result, u = stack.push (.stack result) := by
  obtain ⟨inner, hopens⟩ := exists_opens hfirst ha
  refine ⟨hopens.fold_fused hsecond stack p q, ?_, ⟨inner, hopens, hopens.fold_eq stack p⟩, ?_⟩
  · rintro items rfl
    rw [(Opens.topFirst items).fold_eq, (Opens.topLast items.reverse).fold_eq]
  · intro s s' u hrun
    exact hopens.exists_push_of_fold hrun

/-- Two elements are swapped and then the top is copied, inside a list whose first element is the
top. -/
theorem inner_folds_of_swap_and_dup :
    (Word.infra.FoldsInside ∧ Word.subspace.FoldsInside ∧
      (Value.list [.bool true, .nil]).HoldsStack) ∧
    fold (.ofList [.nil]) [.list [.bool true, .nil], .list [Word.swap.item], Word.infra.item,
        .list [Word.dup.item], Word.subspace.item] .initial =
      (.ok (.ofList [.nil, .stack (.ofList [.bool true, .nil, .nil])]), .initial) := by
  have hinfra : Word.infra.FoldsInside := .inl rfl
  have hsubspace : Word.subspace.FoldsInside := .inr rfl
  have hlist : (Value.list [.bool true, .nil]).HoldsStack := .inl ⟨_, rfl⟩
  refine ⟨⟨hinfra, hsubspace, hlist⟩, ?_⟩
  rw [(inner_folds_fuse_and_mirror hinfra hsubspace hlist _ _ _).1]
  rfl

end Homoiconic
