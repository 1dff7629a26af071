import Homoiconic.Proofs.Splicing
import Homoiconic.Proofs.WordEffects

/-!
# Library words in terms of each other

Most library words could be programs over a few others: `x` is `dup` and `i`, and `b` folds its
second program after it has folded the first one by `i` under `dip`.  The words and these programs
agree wherever they return, on every stack and for all quoted programs.

They do not agree everywhere.  A program folds what it quotes one or two levels deeper than the word
does, so it may meet the limit where the word does not; and where neither returns, they may fail
with different errors, and after different effects.  Two programs *agree* if the first one returns
what the second one returns, and the second one returns what the first one returns when it is
started two levels deeper (`Agrees`).

The relation that is proved item by item is about actions (`Interchangeable`): the second one nests
up to so many levels more.  It consists of following in both directions, of actions whose failures
are all forgiven (`forgiven`), so it composes, and it is enough to run both programs word by word
and to compare what they fold.
-/

namespace Homoiconic

variable {α β : Type} {levels : Nat}

/-! ## Actions that never return -/

/-- An action fails in every state. -/
def NeverReturns (a : EvalM α) : Prop := ∀ s x, (a s).1 ≠ .ok x

namespace NeverReturns

variable {a : EvalM α} {f : α → EvalM β}

theorem bind_left (h : NeverReturns a) : NeverReturns (a >>= f) := by
  intro s y hrun
  obtain ⟨x, s₁, hfirst, _⟩ := exists_of_bind_eq_ok (Prod.ext hrun rfl)
  exact h s x (congrArg Prod.fst hfirst)

theorem bind_right (h : ∀ x, NeverReturns (f x)) : NeverReturns (a >>= f) := by
  intro s y hrun
  obtain ⟨x, s₁, _, hrest⟩ := exists_of_bind_eq_ok (Prod.ext hrun rfl)
  exact h x s₁ y (congrArg Prod.fst hrest)

theorem nested {activity : Activity} (h : NeverReturns a) :
    NeverReturns (nested activity a) := by
  intro s x hrun
  obtain ⟨s₁, _, hinner, _⟩ := exists_of_nested_eq_ok (Prod.ext hrun rfl)
  exact h _ x (congrArg Prod.fst hinner)

end NeverReturns

/-! ## Following where the first action returns -/

/-- The action with all its failures taken for the one that following forgives. -/
def forgiven (a : EvalM α) : EvalM α := fun s =>
  match a s with
  | (.ok x, s') => (.ok x, s')
  | (.error _, s') => (.error (.tooDeep .folding), s')

theorem forgiven_of_ok {a : EvalM α} {s s' : State} {x : α} (h : a s = (.ok x, s')) :
    forgiven a s = (.ok x, s') := by
  rw [forgiven, h]

theorem forgiven_of_error {a : EvalM α} {s s' : State} {e : Error} (h : a s = (.error e, s')) :
    forgiven a s = (.error (.tooDeep .folding), s') := by
  rw [forgiven, h]

/-- A forgiven action returns what the action returns. -/
theorem forgiven_eq_ok_iff {a : EvalM α} {s s' : State} {x : α} :
    forgiven a s = (.ok x, s') ↔ a s = (.ok x, s') := by
  refine ⟨fun h => ?_, forgiven_of_ok⟩
  cases hrun : a s with
  | mk result s₁ =>
    cases result with
    | ok y => rwa [forgiven_of_ok hrun] at h
    | error e =>
      rw [forgiven_of_error hrun] at h
      cases h

theorem forgiven_bind (a : EvalM α) (f : α → EvalM β) :
    forgiven (a >>= f) = forgiven a >>= fun x => forgiven (f x) := by
  funext s
  cases hrun : a s with
  | mk result s' =>
    cases result with
    | error e =>
      rw [forgiven_of_error (bind_of_error hrun), bind_of_error (forgiven_of_error hrun)]
    | ok x =>
      rw [bind_of_ok (forgiven_of_ok hrun), forgiven, bind_of_ok hrun]
      rfl

theorem forgiven_nested (a : EvalM α) :
    forgiven (nested .folding a) = nested .folding (forgiven a) := by
  funext s
  rcases Nat.lt_or_ge (s.depth .folding) depthLimit with hlt | hle
  · rw [nested_of_lt _ hlt]
    cases hrun : a (s.enter .folding) with
    | mk result s' =>
      have hnested : nested .folding a s = (result, s'.leave .folding) := by
        rw [nested_of_lt a hlt, hrun]
      cases result with
      | ok x => rw [forgiven_of_ok hrun, forgiven_of_ok hnested]
      | error e => rw [forgiven_of_error hrun, forgiven_of_error hnested]
  · rw [nested_of_le _ hle, forgiven_of_error (nested_of_le a hle)]

theorem Follows.forgiven {a b : EvalM α} (h : Follows levels a b) :
    Follows levels (Homoiconic.forgiven a) (Homoiconic.forgiven b) := by
  intro s hroom hlimit
  cases hrun : a (s.deeper levels) with
  | mk result s' =>
    cases result with
    | error e =>
      rw [forgiven_of_error hrun] at hlimit
      exact absurd rfl hlimit
    | ok x =>
      obtain ⟨hrun', hdepths⟩ := h s hroom (by rw [hrun]; nofun)
      rw [hrun] at hrun' hdepths
      rw [forgiven_of_ok hrun, forgiven_of_ok hrun']
      exact ⟨rfl, hdepths⟩

/-- What the first of two forgiven actions returns is what the second one returns. -/
theorem Follows.run_of_forgiven {a b : EvalM α} {s s' : State} {x : α}
    (h : Follows levels (Homoiconic.forgiven a) (Homoiconic.forgiven b))
    (hroom : s.foldingDepth + levels ≤ depthLimit) (hrun : a (s.deeper levels) = (.ok x, s')) :
    b s = (.ok x, s'.atDepths s.evaluationDepth s.foldingDepth) ∧
      s'.depths = (s.deeper levels).depths := by
  have hforgiven := forgiven_of_ok hrun
  obtain ⟨hrun', hdepths⟩ := h s hroom (by rw [hforgiven]; nofun)
  rw [hforgiven] at hrun' hdepths
  exact ⟨forgiven_eq_ok_iff.mp hrun', hdepths⟩

/-- Nothing is asked about an action that never returns. -/
theorem NeverReturns.follows {a b : EvalM α} (h : NeverReturns a) :
    Follows levels (Homoiconic.forgiven a) b := by
  intro s _ hlimit
  cases hrun : a (s.deeper levels) with
  | mk result s' =>
    cases result with
    | ok x => exact absurd (congrArg Prod.fst hrun) (h _ x)
    | error e =>
      rw [forgiven_of_error hrun] at hlimit
      exact absurd rfl hlimit

/-! ## Interchangeable actions -/

/-- The second action does what the first one does with up to so many levels of nesting more.  Where
the second one returns, the first one does, from there and from any number of levels less deep.
Where the first one returns, started so many levels deeper, the second one does. -/
structure Interchangeable (levels : Nat) (a b : EvalM α) : Prop where
  outward (more : Nat) : Follows more (forgiven b) (forgiven a)
  inward : Follows levels (forgiven a) (forgiven b)

namespace Interchangeable

theorem of_follows {a : EvalM α} (h : ∀ levels, Follows levels a a) : Interchangeable levels a a :=
  ⟨fun more => (h more).forgiven, (h levels).forgiven⟩

theorem returning (x : α) : Interchangeable levels (pure x) (pure x) :=
  of_follows fun _ => Follows.returning x

theorem failing {a b : EvalM α} (ha : NeverReturns a) (hb : NeverReturns b) :
    Interchangeable levels a b :=
  ⟨fun _ => hb.follows, ha.follows⟩

theorem bind {a b : EvalM α} {f g : α → EvalM β} (hab : Interchangeable levels a b)
    (hfg : ∀ x, Interchangeable levels (f x) (g x)) :
    Interchangeable levels (a >>= f) (b >>= g) where
  outward more := by
    rw [forgiven_bind, forgiven_bind]
    exact (hab.outward more).bind fun x => (hfg x).outward more
  inward := by
    rw [forgiven_bind, forgiven_bind]
    exact hab.inward.bind fun x => (hfg x).inward

/-- **Nesting the second action is one level more.** -/
theorem nested_right {a b : EvalM α} (hab : Interchangeable levels a b) :
    Interchangeable (levels + 1) a (nested .folding b) where
  outward more := by
    rw [forgiven_nested]
    exact (hab.outward (more + 1)).nested_left
  inward := by
    rw [forgiven_nested]
    exact hab.inward.nested_right

/-- Nesting both is none more. -/
theorem nested {a b : EvalM α} (hab : Interchangeable levels a b) :
    Interchangeable levels (nested .folding a) (nested .folding b) where
  outward more := by
    rw [forgiven_nested, forgiven_nested]
    exact (hab.outward more).nested
  inward := by
    rw [forgiven_nested, forgiven_nested]
    exact hab.inward.nested

/-! ## Folds that occur in both -/

/-- **A fold can be interchanged with itself.** -/
theorem fold (stack : Stack Value) (program : List Value) :
    Interchangeable levels (fold stack program) (fold stack program) := by
  rw [fold_eq_nested]
  exact of_follows fun levels => (follows_foldItems levels stack program).nested

/-- Two words may fold the same value: if it is not a program, both refuse it. -/
theorem foldQuoted (first second : String) (stack : Stack Value) (program : Value) :
    Interchangeable levels (foldQuoted .full first stack program)
      (foldQuoted .full second stack program) := by
  cases program with
  | list items => exact fold stack items
  | _ => exact failing nofun nofun

theorem topAfter (first second : String) (stack : Stack Value) (program : Value) :
    Interchangeable levels (topAfter .full first stack program)
      (topAfter .full second stack program) := by
  refine (foldQuoted first second stack program).bind fun after => ?_
  cases after.peek with
  | ok top => exact returning top
  | error cause => exact failing nofun nofun

end Interchangeable

/-! ## Agreement of programs -/

/-- Two programs agree on every stack and in every state.  What the second one returns is what the
first one returns; and what the first one returns when it is started two levels deeper is what the
second one returns.  The state is the same but for the levels. -/
def Agrees (left right : List Value) : Prop :=
  ∀ (stack u : Stack Value) (s s' : State),
    (fold stack right s = (.ok u, s') → fold stack left s = (.ok u, s')) ∧
    (fold stack left (s.deeper 2) = (.ok u, s') →
      fold stack right s = (.ok u, s'.atDepths s.evaluationDepth s.foldingDepth))

/-- Programs with interchangeable items agree. -/
theorem Agrees.of_items {left right : List Value}
    (hitems : ∀ stack, Interchangeable 2 (foldItems .full stack left)
      (foldItems .full stack right)) : Agrees left right := by
  intro stack u s s'
  have hfolds : Interchangeable 2 (fold stack left) (fold stack right) := by
    rw [fold_eq_nested, fold_eq_nested]
    exact (hitems stack).nested
  constructor
  · intro hright
    have hlt : s.foldingDepth < depthLimit := lt_of_fold_ne (by rw [hright]; nofun)
    obtain ⟨hleft, hdepths⟩ := (hfolds.outward 0).run_of_forgiven (Nat.le_of_lt hlt) hright
    exact (eq_of_atDepths hleft hdepths).1.symm
  · intro hleft
    have hlt : (s.deeper 2).foldingDepth < depthLimit := lt_of_fold_ne (by rw [hleft]; nofun)
    exact (hfolds.inward.run_of_forgiven (Nat.le_of_lt hlt) hleft).1

/-! ## Levels around what is computed already -/

/-- A level in which nothing happens is a level to spare. -/
theorem Interchangeable.after_level {a : EvalM β} {f : α → EvalM β} {x : α}
    (h : Interchangeable (levels + 1) a (f x)) :
    Interchangeable (levels + 1) a (Homoiconic.nested .folding (pure x) >>= f) := by
  have hconstant : (Homoiconic.nested .folding (pure x) >>= f) =
      Homoiconic.nested .folding (pure ()) >>= fun _ => f x := by
    calc Homoiconic.nested .folding (pure x) >>= f
      _ = Homoiconic.nested .folding ((fun _ => x) <$> pure ()) >>= f := by rw [map_pure]
      _ = Homoiconic.nested .folding (pure ()) >>= fun _ => f x := by
        rw [nested_map, bind_map_left]
  have hstart : Interchangeable (levels + 1) (pure ()) (Homoiconic.nested .folding (pure ())) :=
    (returning ()).nested_right
  have hbind := hstart.bind fun _ => h
  rw [pure_bind] at hbind
  rwa [hconstant]

/-! ## The identities -/

section Identities

variable (p q b t e : List Value)

theorem agrees_x : Agrees [Word.x.item] [Word.dup.item, Word.i.item] := by
  refine .of_items fun stack => ?_
  rcases stack.eq_empty_or_push with rfl | ⟨rest, v, rfl⟩
  · exact .failing nofun nofun
  · simpa using .foldQuoted "x" "i" (rest.push v) v

theorem agrees_k : Agrees [Word.k.item] [Word.popd.item, Word.i.item] := by
  refine .of_items fun stack => ?_
  rcases stack.eq_empty_or_push with rfl | ⟨rest, v, rfl⟩
  · exact .failing nofun nofun
  rcases rest.eq_empty_or_push with rfl | ⟨rest, w, rfl⟩
  · exact .failing nofun nofun
  · simpa using .foldQuoted "k" "i" rest v

theorem agrees_t : Agrees [Word.t.item] [Word.swap.item, Word.i.item] := by
  refine .of_items fun stack => ?_
  rcases stack.eq_empty_or_push with rfl | ⟨rest, v, rfl⟩
  · exact .failing nofun nofun
  rcases rest.eq_empty_or_push with rfl | ⟨rest, w, rfl⟩
  · exact .failing nofun nofun
  · simpa using .foldQuoted "t" "i" (rest.push v) w

/-- Under `dip` the first program runs one level deeper. -/
theorem agrees_b :
    Agrees [.list p, .list q, Word.b.item]
      [.list p, .list q, .list [Word.i.item], Word.dip.item, Word.i.item] := by
  refine .of_items fun stack => ?_
  have hleft : foldItems .full stack [.list p, .list q, Word.b.item] =
      fold stack p >>= fun after => fold after q := by simp
  have hright : foldItems .full stack
        [.list p, .list q, .list [Word.i.item], Word.dip.item, Word.i.item] =
      nested .folding (fold stack p) >>= fun after => fold after q := by
    simp [fold_eq_nested (stack.push (.list p))]
  rw [hleft, hright]
  exact (Interchangeable.fold stack p).nested_right.bind fun after => .fold after q

/-- A word that folds beneath one element more than another word is that word under `dip`. -/
theorem agrees_dip {outer inner : Word}
    (hempty : NeverReturns (runWord .full outer (Stack.empty.push (.list p))))
    (hpush : ∀ (rest : Stack Value) (v : Value),
      Interchangeable 1 (runWord .full outer ((rest.push v).push (.list p)))
        (runWord .full inner (rest.push (.list p)) >>= fun after => pure (after.push v))) :
    Agrees [.list p, outer.item]
      [.list p, .list [inner.item], Word.cons.item, Word.dip.item] := by
  refine .of_items fun stack => ?_
  rcases stack.eq_empty_or_push with rfl | ⟨rest, v, rfl⟩
  · exact .failing (by simpa using hempty) nofun
  · have hleft : foldItems .full (rest.push v) [.list p, outer.item] =
        runWord .full outer ((rest.push v).push (.list p)) := by simp
    have hright : foldItems .full (rest.push v)
          [.list p, .list [inner.item], Word.cons.item, Word.dip.item] =
        nested .folding
          (runWord .full inner (rest.push (.list p)) >>= fun after => pure (after.push v)) := by
      simp [fold_eq_nested rest]
    rw [hleft, hright]
    exact (hpush rest v).nested_right

theorem agrees_dipd :
    Agrees [.list p, Word.dipd.item]
      [.list p, .list [Word.dip.item], Word.cons.item, Word.dip.item] := by
  refine agrees_dip p nofun fun rest v => ?_
  rcases rest.eq_empty_or_push with rfl | ⟨rest, w, rfl⟩
  · exact .failing nofun nofun
  · simpa using (Interchangeable.fold rest p).bind fun after =>
      .returning ((after.push w).push v)

theorem agrees_dipdd :
    Agrees [.list p, Word.dipdd.item]
      [.list p, .list [Word.dipd.item], Word.cons.item, Word.dip.item] := by
  refine agrees_dip p nofun fun rest v => ?_
  rcases rest.eq_empty_or_push with rfl | ⟨rest, w, rfl⟩
  · exact .failing nofun nofun
  rcases rest.eq_empty_or_push with rfl | ⟨rest, u, rfl⟩
  · exact .failing nofun nofun
  · simpa using (Interchangeable.fold rest p).bind fun after =>
      .returning (((after.push u).push w).push v)

theorem agrees_ifte :
    Agrees [.list b, .list t, .list e, Word.ifte.item]
      [.list b, Word.nullary.item, .list t, .list e, Word.choice.item, Word.i.item] := by
  refine .of_items fun stack => ?_
  simpa using (Interchangeable.topAfter "ifte" "nullary" stack (.list b)).bind fun condition =>
    .foldQuoted "ifte" "i" stack (if condition.isTruthy then .list t else .list e)

/-- On an empty stack the program runs both quoted programs before it fails. -/
theorem agrees_cleave :
    Agrees [.list p, .list q, Word.cleave.item]
      [.list p, Word.nullary.item, .list [.list q, Word.nullary.item], Word.dip.item,
        Word.swap.item, .list [Word.popd.item], Word.dip.item] := by
  refine .of_items fun stack => ?_
  have hright : foldItems .full stack
        [.list p, Word.nullary.item, .list [.list q, Word.nullary.item], Word.dip.item,
          Word.swap.item, .list [Word.popd.item], Word.dip.item] =
      topAfter .full "nullary" stack (.list p) >>= fun first =>
        nested .folding (topAfter .full "nullary" stack (.list q)) >>= fun second =>
          nested .folding (runWord .full .popd (stack.push first)) >>= fun after =>
            pure (after.push second) := by
    simp [fold_eq_nested stack, fold_eq_nested (stack.push _)]
  rw [hright]
  rcases stack.eq_empty_or_push with rfl | ⟨rest, v, rfl⟩
  · refine .failing nofun (.bind_right fun first => .bind_right fun second => .bind_left ?_)
    exact .nested nofun
  · have hleft : foldItems .full (rest.push v) [.list p, .list q, Word.cleave.item] =
        topAfter .full "cleave" (rest.push v) (.list p) >>= fun first =>
          topAfter .full "cleave" (rest.push v) (.list q) >>= fun second =>
            pure ((rest.push first).push second) := by simp
    rw [hleft]
    refine (Interchangeable.topAfter "cleave" "nullary" _ _).bind fun first => ?_
    refine (Interchangeable.topAfter "cleave" "nullary" _ _).nested_right.bind fun second => ?_
    rw [runWord_popd]
    exact .after_level (.returning _)

/-- Appending is done two phrases deep. -/
theorem agrees_take : Agrees [Word.take.item] [.combinator (.phrase Library.et)] := by
  refine .of_items fun stack => ?_
  have hpair : stepItem .full stack (.combinator (.phrase Library.bi)) =
      nested .folding (runWord .full .quote (stack.push (.number 2))) := by
    rw [fold_phrase]
    exact congrArg _ (foldItems_singleton .full (stack.push (.number 2)) Word.quote.item)
  have hright : foldItems .full stack [.combinator (.phrase Library.et)] =
      nested .folding (nested .folding (runWord .full .quote (stack.push (.number 2))) >>=
        fun after => stepItem .full after (.combinator (.positional "append" .append))) := by
    rw [foldItems_singleton, fold_phrase, Library.et, foldItems_cons, hpair]
    simp only [foldItems_singleton]
  rw [hright]
  rcases stack.eq_empty_or_push with rfl | ⟨rest, v, rfl⟩
  -- Short of two elements, the pair cannot be made.
  · exact .failing nofun (.nested (.bind_left (.nested nofun)))
  rcases rest.eq_empty_or_push with rfl | ⟨rest, w, rfl⟩
  · exact .failing nofun (.nested (.bind_left (.nested nofun)))
  · have hquote : runWord .full .quote (((rest.push w).push v).push (.number 2)) =
        pure (rest.push (.list [w, v])) :=
      runWord_quote_pushAll [w, v] (by decide) rfl
    rw [hquote]
    refine (Interchangeable.after_level ?_).nested_right
    cases w with
    | list items => exact .returning _
    | _ => exact .failing nofun nofun

/-- **The library words are what they could be defined as.**  Each of these words, after the quoted
programs it takes if they matter, agrees with a program of other words. -/
theorem words_satisfy_their_identities :
    Agrees [Word.x.item] [Word.dup.item, Word.i.item] ∧
    Agrees [Word.k.item] [Word.popd.item, Word.i.item] ∧
    Agrees [Word.t.item] [Word.swap.item, Word.i.item] ∧
    Agrees [.list p, .list q, Word.b.item]
      [.list p, .list q, .list [Word.i.item], Word.dip.item, Word.i.item] ∧
    Agrees [.list p, Word.dipd.item]
      [.list p, .list [Word.dip.item], Word.cons.item, Word.dip.item] ∧
    Agrees [.list p, Word.dipdd.item]
      [.list p, .list [Word.dipd.item], Word.cons.item, Word.dip.item] ∧
    Agrees [.list b, .list t, .list e, Word.ifte.item]
      [.list b, Word.nullary.item, .list t, .list e, Word.choice.item, Word.i.item] ∧
    Agrees [.list p, .list q, Word.cleave.item]
      [.list p, Word.nullary.item, .list [.list q, Word.nullary.item], Word.dip.item,
        Word.swap.item, .list [Word.popd.item], Word.dip.item] ∧
    Agrees [Word.take.item] [.combinator (.phrase Library.et)] :=
  ⟨agrees_x, agrees_k, agrees_t, agrees_b p q, agrees_dipd p, agrees_dipdd p, agrees_ifte b t e,
    agrees_cleave p q, agrees_take⟩

/-- Fewer than two levels would not do. -/
example :
    fold (.ofList [.list [], .nil]) [Word.take.item] (State.initial.atDepths 0 254) =
      (.ok (.ofList [.list [.nil]]), State.initial.atDepths 0 254) ∧
    fold (.ofList [.list [], .nil]) [.combinator (.phrase Library.et)]
        (State.initial.atDepths 0 254) =
      (.error (.tooDeep .folding), State.initial.atDepths 0 254) := ⟨rfl, rfl⟩

end Identities

end Homoiconic
