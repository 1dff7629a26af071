import Homoiconic.Proofs.Termination

/-!
# Folds of the interpreter

The rules of folding are written against an engine.  The interpreter is its own unfolding, so
against the interpreter they are equations between runs of the interpreter.  A fold is what its
items do, one level deeper (`fold_eq_nested`), unless this level is not there (`fold_of_le`,
`fold_of_lt`).  Within a level items act one after the other, and so do programs
(`foldItems_append`); what they nest they also leave again (`depths_foldItems`).
-/

namespace Homoiconic

/-! ## Items one after the other -/

theorem foldItems_cons (next : Engine) (stack : Stack Value) (item : Value) (rest : List Value) :
    foldItems next stack (item :: rest) =
      stepItem next stack item >>= fun stack => foldItems next stack rest := rfl

theorem foldItems_singleton (next : Engine) (stack : Stack Value) (item : Value) :
    foldItems next stack [item] = stepItem next stack item := bind_pure _

/-- An item that is not a combinator is pushed. -/
theorem stepItem_of_data {next : Engine} {v : Value} (hdata : ∀ c, v ≠ .combinator c)
    (stack : Stack Value) : stepItem next stack v = pure (stack.push v) := by
  cases v with
  | combinator c => exact absurd rfl (hdata c)
  | _ => rfl

/-- **Programs act one after the other**, by induction along the first one. -/
theorem foldItems_append (next : Engine) (stack : Stack Value) (p q : List Value) :
    foldItems next stack (p ++ q) =
      foldItems next stack p >>= fun stack => foldItems next stack q := by
  induction p generalizing stack with
  | nil => rfl
  | cons item rest ih =>
    rw [List.cons_append, foldItems_cons, foldItems_cons, bind_assoc]
    simp only [ih]

/-- What an item does after the items of a program. -/
theorem foldItems_concat {next : Engine} {stack before : Stack Value} {done : List Value}
    {s s₁ : State} (hdone : foldItems next stack done s = (.ok before, s₁)) (item : Value) :
    foldItems next stack (done ++ [item]) s = stepItem next before item s₁ := by
  rw [foldItems_append, bind_run, hdone, ← foldItems_singleton]

/-- Items leave the depths as they were. -/
theorem depths_foldItems (stack : Stack Value) (program : List Value) (s : State) :
    (foldItems .full stack program s).2.depths = s.depths := by
  have hcoupled := DepthRelation.bounded.coupling.coupled_self
  have hitems := (hcoupled.foldItems (DepthRelation.goodAll s.heap.size program)
    Coupling.noBase_nil (Coupling.Above.refl (DepthRelation.goodAll s.heap.size stack.toList))).imp
      fun _ _ _ _ habove => habove.same
  exact (run_eq_of_agree hitems s.room_le).2

/-! ## Folds -/

/-- The interpreter is its own unfolding. -/
theorem Engine.unfold_full : Engine.full.unfold = .full := (Engine.unfold_eq_self_iff .full).mpr rfl

/-- **A fold is what its items do, one level deeper.** -/
theorem fold_eq_nested (stack : Stack Value) (program : List Value) :
    fold stack program = nested .folding (foldItems .full stack program) := by
  calc fold stack program
    _ = Engine.full.unfold.fold stack program := by rw [Engine.unfold_full]; rfl
    _ = nested .folding (foldItems .full stack program) := rfl

variable {s : State} {stack : Stack Value}

theorem fold_of_le (h : depthLimit ≤ s.depth .folding) (program : List Value) :
    fold stack program s = (.error (.tooDeep .folding), s) := by
  rw [fold_eq_nested, nested_of_le _ h]

theorem fold_of_lt (h : s.depth .folding < depthLimit) (program : List Value) :
    fold stack program s =
      ((foldItems .full stack program (s.enter .folding)).1,
        (foldItems .full stack program (s.enter .folding)).2.leave .folding) := by
  rw [fold_eq_nested, nested_of_lt _ h]

/-- An item that is not a combinator can be pushed before the rest of the program is folded. -/
theorem fold_cons_of_data {v : Value} (hdata : ∀ c, v ≠ .combinator c) (program : List Value) :
    fold stack (v :: program) = fold (stack.push v) program := by
  rw [fold_eq_nested, fold_eq_nested, foldItems_cons, stepItem_of_data hdata, pure_bind]

end Homoiconic
