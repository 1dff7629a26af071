import Homoiconic.Proofs.Folds

/-!
# A phrase is its items

A phrase is a program under a name.  Where it stands in another program, it acts as its items would
if they stood there instead.  This is made precise by replacing every phrase of a program by its
items, phrases among these by theirs, and so on (`splice`).  Quoted programs are data, and phrases
in them are left as they are.

The two programs are not the same in every respect.  A phrase is folded one level deeper than the
program it stands in, so the items of a spliced program run on a higher level than those of the
program it was made from, by as many levels as there were phrases around them (`phraseHeight`).
This can be noticed in one way only, by meeting the limit.

So there are two directions.  A program may meet the limit where the spliced one does not.  Where it
does not meet it, the spliced program does the same.  And a spliced program that is started deeper
by the height of the phrases runs no item on a higher level than the program does.  Where it does
not meet the limit, the program does not either.

Both directions are about pairs of actions, of which the first is started some levels deeper than
the second.  The second one *follows* if it does the same whenever the first does not meet the limit
(`Follows`).  An item that is not a phrase follows itself, by the coupling of depths; nesting the
first action takes one from the difference of levels that is needed, and nesting the second one adds
one to it.  The rest is induction along programs.
-/

namespace Homoiconic

/-! ## Splicing -/

mutual

/-- What an item is replaced by: a phrase by its items, any other item by itself. -/
def spliceItem : Value → List Value
  | .combinator (.phrase ⟨_, program⟩) => splice program
  | item => [item]

/-- A program with the items of its phrases in the place of the phrases. -/
def splice : List Value → List Value
  | [] => []
  | item :: rest => spliceItem item ++ splice rest

end

mutual

/-- How deep phrases are nested in an item, which counts if it is one. -/
def itemHeight : Value → Nat
  | .combinator (.phrase ⟨_, program⟩) => phraseHeight program + 1
  | _ => 0

/-- How deep phrases are nested in a program. -/
def phraseHeight : List Value → Nat
  | [] => 0
  | item :: rest => max (itemHeight item) (phraseHeight rest)

end

/-- An item is a phrase, or it is replaced by itself. -/
theorem phrase_or_spliceItem_eq (item : Value) :
    (∃ p, item = .combinator (.phrase p)) ∨ spliceItem item = [item] := by
  unfold spliceItem
  split
  · exact Or.inl ⟨_, rfl⟩
  · exact Or.inr rfl

/-! ## Following from some levels above -/

/-- The state some levels deeper in folding. -/
def State.deeper (s : State) (levels : Nat) : State :=
  { s with foldingDepth := s.foldingDepth + levels }

/-- The second action does what the first one does some levels deeper, unless the first one meets
the limit of folding.  The levels are there, and the first action leaves the depths as they were. -/
def Follows {α : Type} (levels : Nat) (a b : EvalM α) : Prop :=
  ∀ s : State, s.foldingDepth + levels ≤ depthLimit →
    (a (s.deeper levels)).1 ≠ .error (.tooDeep .folding) →
      b s = ((a (s.deeper levels)).1,
          (a (s.deeper levels)).2.atDepths s.evaluationDepth s.foldingDepth) ∧
        (a (s.deeper levels)).2.depths = (s.deeper levels).depths

section Rules

variable {α β : Type} {levels : Nat}

theorem Follows.returning (x : α) : Follows levels (pure x) (pure x) := fun _ _ _ => ⟨rfl, rfl⟩

/-- **Following composes**: the first action is still so many levels deeper when its first part is
done. -/
theorem Follows.bind {a b : EvalM α} {f g : α → EvalM β} (hab : Follows levels a b)
    (hfg : ∀ x, Follows levels (f x) (g x)) : Follows levels (a >>= f) (b >>= g) := by
  intro s hroom hlimit
  have hfirst : (a (s.deeper levels)).1 ≠ .error (.tooDeep .folding) := by
    intro herror
    apply hlimit
    rw [bind_run]
    generalize a (s.deeper levels) = run at herror
    obtain ⟨result, s'⟩ := run
    obtain rfl : result = .error (.tooDeep .folding) := herror
    rfl
  obtain ⟨hrun, hdepths⟩ := hab s hroom hfirst
  rw [bind_run] at hlimit ⊢
  rw [bind_run, hrun]
  generalize a (s.deeper levels) = run at hlimit hdepths ⊢
  obtain ⟨result, s'⟩ := run
  cases result with
  | error e => exact ⟨rfl, hdepths⟩
  | ok x =>
    have hs' : s' = (s'.atDepths s.evaluationDepth s.foldingDepth).deeper levels := by
      obtain ⟨hevaluation, hfolding⟩ := Prod.mk.inj hdepths
      calc s'
        _ = s'.atDepths s'.evaluationDepth s'.foldingDepth := rfl
        _ = s'.atDepths s.evaluationDepth (s.foldingDepth + levels) := by
          rw [hevaluation, hfolding]
          rfl
    have hrest := hfg x (s'.atDepths s.evaluationDepth s.foldingDepth) hroom
    rw [← hs'] at hrest
    obtain ⟨hrun', hdepths'⟩ := hrest hlimit
    exact ⟨hrun', hdepths'.trans hdepths⟩

/-- Nesting the first action takes it one level deeper. -/
theorem Follows.nested_left {a b : EvalM α} (hab : Follows (levels + 1) a b) :
    Follows levels (nested .folding a) b := by
  intro s _ hlimit
  have hlt : (s.deeper levels).depth .folding < depthLimit := by
    refine Nat.lt_of_not_le fun hle => ?_
    rw [nested_of_le a hle] at hlimit
    exact hlimit rfl
  rw [nested_of_lt a hlt] at hlimit ⊢
  obtain ⟨hrun, hdepths⟩ := hab s hlt hlimit
  exact ⟨hrun, State.depths_leave hdepths⟩

/-- Nesting the second action takes it one level closer to the first. -/
theorem Follows.nested_right {a b : EvalM α} (hab : Follows levels a b) :
    Follows (levels + 1) a (nested .folding b) := by
  intro s hroom hlimit
  have hlt : s.depth .folding < depthLimit := by
    show s.foldingDepth < depthLimit
    omega
  have hdeeper : (s.enter .folding).deeper levels = s.deeper (levels + 1) := by
    have hdepth : s.foldingDepth + 1 + levels = s.foldingDepth + (levels + 1) := by omega
    simp only [State.deeper, State.enter, hdepth]
  have hroom' : (s.enter .folding).foldingDepth + levels ≤ depthLimit := by
    show s.foldingDepth + 1 + levels ≤ depthLimit
    omega
  rw [← hdeeper] at hlimit ⊢
  obtain ⟨hrun, hdepths⟩ := hab (s.enter .folding) hroom' hlimit
  rw [nested_of_lt b hlt, hrun]
  exact ⟨rfl, hdepths⟩

/-- Nesting both actions keeps their distance. -/
theorem Follows.nested {a b : EvalM α} (hab : Follows levels a b) :
    Follows levels (nested .folding a) (nested .folding b) := hab.nested_right.nested_left

end Rules

/-! ## Items follow themselves -/

/-- The second run is less deep in folding, and the first one is forgiven if it meets the limit of
folding. -/
def DepthRelation.lessNested : DepthRelation where
  rel _ s t := t.evaluationDepth = s.evaluationDepth ∧ t.foldingDepth ≤ s.foldingDepth
  forgives e := e = .tooDeep .folding
  congr := by
    rintro _ s t s' t' ⟨hevaluation, hfolding⟩ hs ht
    obtain ⟨hs₁, hs₂⟩ := Prod.mk.inj hs
    obtain ⟨ht₁, ht₂⟩ := Prod.mk.inj ht
    rw [hs₁, hs₂, ht₁, ht₂]
    exact ⟨hevaluation, hfolding⟩
  limit := by
    rintro _ s t activity ⟨hevaluation, _⟩ hlimit
    cases activity with
    | evaluation =>
      refine Or.inr ?_
      show depthLimit ≤ t.evaluationDepth
      rwa [hevaluation]
    | folding => exact Or.inl rfl
  room := by
    rintro _ s t activity ⟨hevaluation, hfolding⟩ hroom
    cases activity with
    | evaluation =>
      show t.evaluationDepth < depthLimit
      rwa [hevaluation]
    | folding => exact Nat.lt_of_le_of_lt hfolding hroom
  enter := by
    rintro _ s t activity ⟨hevaluation, hfolding⟩ _
    cases activity with
    | evaluation => exact ⟨congrArg (· + 1) hevaluation, hfolding⟩
    | folding => exact ⟨hevaluation, Nat.add_le_add_right hfolding 1⟩
  leave := by
    rintro _ s t activity ⟨hevaluation, hfolding⟩
    cases activity with
    | evaluation => exact ⟨congrArg (· - 1) hevaluation, hfolding⟩
    | folding => exact ⟨hevaluation, Nat.sub_le_sub_right hfolding 1⟩

/-- **An item that does not meet the limit does the same from any number of levels above.** -/
theorem follows_stepItem (levels : Nat) (stack : Stack Value) (item : Value) :
    Follows levels (stepItem .full stack item) (stepItem .full stack item) := by
  intro s _ hlimit
  have hcoupled := DepthRelation.lessNested.coupling.coupled_self
  have hstep := (hcoupled.stepItem (DepthRelation.good s.heap.size item) Coupling.noBase_nil
    (Coupling.Above.refl (DepthRelation.goodAll s.heap.size stack.toList))).imp
      fun _ _ _ _ habove => habove.same
  have hrel : DepthRelation.lessNested.coupling.rel (2 * depthLimit) (s.deeper levels) s :=
    ⟨⟨s.evaluationDepth, s.foldingDepth, rfl⟩, rfl, Nat.le_add_right ..⟩
  refine DepthRelation.eq_of_ends (hstep hrel (Nat.le_refl _)) ?_
  rintro _ herror rfl
  exact hlimit herror

/-- So does a program. -/
theorem follows_foldItems (levels : Nat) (stack : Stack Value) (program : List Value) :
    Follows levels (foldItems .full stack program) (foldItems .full stack program) := by
  induction program generalizing stack with
  | nil => exact Follows.returning stack
  | cons item rest ih => exact (follows_stepItem levels stack item).bind ih

/-! ## A program and the program with its phrases spliced -/

theorem fold_phrase (stack : Stack Value) (p : Phrase Value) :
    stepItem .full stack (.combinator (.phrase p)) =
      nested .folding (foldItems .full stack p.program) :=
  fold_eq_nested stack p.program

section Programs

variable {program : List Value}

/-- Items that are followed by what they are replaced by make a program that is followed by the
spliced one. -/
theorem follows_splice_of_items
    (hitems : ∀ item ∈ program, ∀ levels stack,
      Follows levels (stepItem .full stack item) (foldItems .full stack (spliceItem item)))
    (levels : Nat) (stack : Stack Value) :
    Follows levels (foldItems .full stack program) (foldItems .full stack (splice program)) := by
  induction program generalizing stack with
  | nil => exact Follows.returning stack
  | cons item rest ih =>
    obtain ⟨hitem, hrest⟩ := List.forall_mem_cons.mp hitems
    rw [splice, foldItems_append]
    exact (hitem levels stack).bind fun after => ih hrest after

/-- **What an item is replaced by follows the item**, by induction on its parts. -/
theorem follows_spliceItem (item : Value) (levels : Nat) (stack : Stack Value) :
    Follows levels (stepItem .full stack item) (foldItems .full stack (spliceItem item)) := by
  induction item using Value.induction_on_parts generalizing levels stack with
  | step item ih =>
    rcases phrase_or_spliceItem_eq item with ⟨p, rfl⟩ | heq
    · rw [fold_phrase]
      exact (follows_splice_of_items (fun item hitem => ih item hitem) (levels + 1)
        stack).nested_left
    · rw [heq, foldItems_singleton]
      exact follows_stepItem levels stack item

/-- Items that follow what they are replaced by make a program that follows the spliced one. -/
theorem splice_follows_of_items {levels : Nat} (hheight : phraseHeight program ≤ levels)
    (hitems : ∀ item ∈ program, itemHeight item ≤ levels → ∀ stack,
      Follows levels (foldItems .full stack (spliceItem item)) (stepItem .full stack item))
    (stack : Stack Value) :
    Follows levels (foldItems .full stack (splice program)) (foldItems .full stack program) := by
  induction program generalizing stack with
  | nil => exact Follows.returning stack
  | cons item rest ih =>
    obtain ⟨hitem, hrest⟩ := List.forall_mem_cons.mp hitems
    rw [phraseHeight] at hheight
    obtain ⟨hfirst, hheight⟩ := Nat.max_le.mp hheight
    rw [splice, foldItems_append]
    exact (hitem hfirst stack).bind fun after => ih hheight hrest after

/-- **An item follows what it is replaced by**, from as many levels above as there are phrases in
it. -/
theorem spliceItem_follows (item : Value) {levels : Nat} (hheight : itemHeight item ≤ levels)
    (stack : Stack Value) :
    Follows levels (foldItems .full stack (spliceItem item)) (stepItem .full stack item) := by
  induction item using Value.induction_on_parts generalizing levels stack with
  | step item ih =>
    rcases phrase_or_spliceItem_eq item with ⟨p, rfl⟩ | heq
    · cases levels with
      | zero => exact absurd hheight (Nat.not_succ_le_zero _)
      | succ levels =>
        have hprogram : phraseHeight p.program ≤ levels := Nat.le_of_succ_le_succ hheight
        rw [fold_phrase]
        exact (splice_follows_of_items hprogram (fun item hitem hle => ih item hitem hle)
          stack).nested_right
    · rw [heq, foldItems_singleton]
      exact follows_stepItem levels stack item

end Programs

/-! ## Folds -/

section Folds

variable {s : State} {stack : Stack Value} {program : List Value}

theorem follows_fold_splice (levels : Nat) (stack : Stack Value) (program : List Value) :
    Follows levels (fold stack program) (fold stack (splice program)) := by
  rw [fold_eq_nested, fold_eq_nested]
  exact (follows_splice_of_items (fun item _ => follows_spliceItem item) levels stack).nested

theorem fold_splice_follows {levels : Nat} (hheight : phraseHeight program ≤ levels)
    (stack : Stack Value) :
    Follows levels (fold stack (splice program)) (fold stack program) := by
  rw [fold_eq_nested, fold_eq_nested]
  exact (splice_follows_of_items hheight (fun item _ hitem => spliceItem_follows item hitem)
    stack).nested

/-- A fold that does not meet the limit was not started at it. -/
theorem lt_of_fold_ne (hlimit : (fold stack program s).1 ≠ .error (.tooDeep .folding)) :
    s.foldingDepth < depthLimit := by
  refine Nat.lt_of_not_le fun hle => hlimit ?_
  rw [fold_of_le hle]

/-- **Phrases are spliced.**  If a program does not meet the limit of folding, then the program in
which its phrases are replaced by their items returns the same stack or fails with the same error,
and leaves the same state.  Conversely, if the spliced program, started deeper by the height of the
phrases, does not meet the limit, then the program does the same from where it is started. -/
theorem phrases_splice (stack : Stack Value) (program : List Value) (s : State) :
    ((fold stack program s).1 ≠ .error (.tooDeep .folding) →
      fold stack (splice program) s = fold stack program s) ∧
    ((fold stack (splice program) (s.deeper (phraseHeight program))).1 ≠
        .error (.tooDeep .folding) →
      fold stack program s =
        ((fold stack (splice program) (s.deeper (phraseHeight program))).1,
          (fold stack (splice program) (s.deeper (phraseHeight program))).2.atDepths
            s.evaluationDepth s.foldingDepth)) := by
  constructor
  · intro hlimit
    have hlt := lt_of_fold_ne hlimit
    obtain ⟨hrun, hdepths⟩ := follows_fold_splice 0 stack program s (Nat.le_of_lt hlt) hlimit
    exact (eq_of_atDepths hrun hdepths).1.symm
  · intro hlimit
    have hlt := lt_of_fold_ne hlimit
    exact (fold_splice_follows (Nat.le_refl _) stack s (Nat.le_of_lt hlt) hlimit).1

/-- A phrase that copies the top and pushes two, where copying is a phrase too. -/
def copyThenTwo : List Value :=
  [.combinator (.phrase ⟨"copyThenTwo",
    [.combinator (.phrase ⟨"copy", [Word.dup.item]⟩), .number 2]⟩)]

/-- A phrase in a phrase, spliced from depth zero and unspliced from two levels above. -/
theorem phrases_splice_copyThenTwo :
    splice copyThenTwo = [Word.dup.item, .number 2] ∧ phraseHeight copyThenTwo = 2 ∧
    fold (.ofList [.number 1]) (splice copyThenTwo) .initial =
      (.ok (.ofList [.number 1, .number 1, .number 2]), .initial) ∧
    fold (.ofList [.number 1]) copyThenTwo .initial =
      (.ok (.ofList [.number 1, .number 1, .number 2]), .initial) := by
  obtain ⟨hsplice, hphrase⟩ := phrases_splice (.ofList [.number 1]) copyThenTwo .initial
  refine ⟨rfl, rfl, ?_, ?_⟩
  · exact hsplice fun hlimit => by cases hlimit
  · exact hphrase fun hlimit => by cases hlimit

end Folds

end Homoiconic
