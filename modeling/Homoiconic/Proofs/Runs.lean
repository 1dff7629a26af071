import Homoiconic.State

/-!
# Running actions

An action is a function of the state, and a composed action runs its second part in the state that
the first one leaves (`bind_run`).  A state tells how deep the two activities are nested; entering
an activity and leaving it changes its depth and nothing else.
-/

namespace Homoiconic

variable {α β : Type}

/-! ## Composition -/

theorem bind_run (a : EvalM α) (f : α → EvalM β) (s : State) :
    (a >>= f) s =
      match a s with
      | (.ok x, s') => f x s'
      | (.error e, s') => (.error e, s') := by
  change (ExceptT.bind a f : EvalM β) s = _
  simp only [ExceptT.bind, ExceptT.mk, bind, StateT.bind]
  cases a s with
  | mk result s' => cases result <;> rfl

theorem bind_of_ok {a : EvalM α} {f : α → EvalM β} {s s' : State} {x : α}
    (h : a s = (.ok x, s')) : (a >>= f) s = f x s' := by
  rw [bind_run, h]

theorem bind_of_error {a : EvalM α} {f : α → EvalM β} {s s' : State} {e : Error}
    (h : a s = (.error e, s')) : (a >>= f) s = (.error e, s') := by
  rw [bind_run, h]

@[simp] theorem fail_bind (e : Error) (f : α → EvalM β) : fail e >>= f = fail e := (rfl)

theorem pure_run (x : α) (s : State) : (pure x : EvalM α) s = (.ok x, s) := rfl

/-- The action of a result ends with it and does nothing else. -/
theorem ofExcept_run (result : Except Error α) (s : State) :
    ofExcept result s = (result, s) := by
  cases result <;> rfl

/-- A composed action that returns has returned from both of its parts. -/
theorem exists_of_bind_eq_ok {a : EvalM α} {f : α → EvalM β} {s s' : State} {y : β}
    (h : (a >>= f) s = (.ok y, s')) : ∃ x s₁, a s = (.ok x, s₁) ∧ f x s₁ = (.ok y, s') := by
  rw [bind_run] at h
  cases hrun : a s with
  | mk result s₁ =>
    rw [hrun] at h
    cases result with
    | ok x => exact ⟨x, s₁, rfl, h⟩
    | error e => cases h

/-- A nested action that returns has had a level to run on. -/
theorem exists_of_nested_eq_ok {a : EvalM α} {activity : Activity} {s s' : State} {x : α}
    (h : nested activity a s = (.ok x, s')) :
    ∃ s₁, s.depth activity < depthLimit ∧ a (s.enter activity) = (.ok x, s₁) ∧
      s₁.leave activity = s' := by
  rcases Nat.lt_or_ge (s.depth activity) depthLimit with hlt | hle
  · rw [nested_of_lt a hlt] at h
    obtain ⟨hresult, hstate⟩ := Prod.mk.inj h
    exact ⟨_, hlt, Prod.ext hresult rfl, hstate⟩
  · rw [nested_of_le a hle] at h
    cases h

/-- What returns and changes nothing one level deeper does so when it is nested. -/
theorem nested_of_unchanged {a : EvalM α} {activity : Activity} {s : State} {x : α}
    (hlt : s.depth activity < depthLimit)
    (h : a (s.enter activity) = (.ok x, s.enter activity)) :
    nested activity a s = (.ok x, s) := by
  rw [nested_of_lt a hlt, h, State.leave_enter]

/-- Actions that agree where they are started can be followed by the same. -/
theorem bind_congr_first {a b : EvalM α} {f : α → EvalM β} {s : State} (h : a s = b s) :
    (a >>= f) s = (b >>= f) s := by
  rw [bind_run, bind_run, h]

/-- What follows an action has to agree only on what the action can return, and where. -/
theorem bind_congr_run {a : EvalM α} {f g : α → EvalM β} {s : State}
    (h : ∀ x s', a s = (.ok x, s') → f x s' = g x s') : (a >>= f) s = (a >>= g) s := by
  rw [bind_run, bind_run]
  cases hrun : a s with
  | mk result s' =>
    cases result with
    | ok x => exact h x s' hrun
    | error e => rfl

/-- Nested actions have to agree only where they are started. -/
theorem nested_congr_run {a b : EvalM α} {activity : Activity} {s : State}
    (h : a (s.enter activity) = b (s.enter activity)) :
    nested activity a s = nested activity b s := by
  unfold nested
  rw [h]

/-- **A loop fails where its first failing round does**: the rounds before it have returned, and those
after it are not reached. -/
theorem foldlM_eq_error_iff {f : β → α → EvalM β} {items : List α} {start : β} {s s' : State}
    {e : Error} :
    items.foldlM f start s = (.error e, s') ↔
      ∃ done item later y s₁, items = done ++ item :: later ∧
        done.foldlM f start s = (.ok y, s₁) ∧ f y item s₁ = (.error e, s') := by
  constructor
  · intro h
    induction items generalizing start s with
    | nil => cases h
    | cons item rest ih =>
      rw [List.foldlM_cons, bind_run] at h
      cases hrun : f start item s with
      | mk result s₁ =>
        rw [hrun] at h
        cases result with
        | error e' => exact ⟨[], item, rest, start, s, rfl, rfl, hrun.trans h⟩
        | ok y =>
          obtain ⟨done, item', later, y', s₂, rfl, hdone, hfails⟩ := ih h
          refine ⟨item :: done, item', later, y', s₂, rfl, ?_, hfails⟩
          rw [List.foldlM_cons, bind_of_ok hrun, hdone]
  · rintro ⟨done, item, later, y, s₁, rfl, hdone, hfails⟩
    rw [List.foldlM_append, bind_of_ok hdone, List.foldlM_cons, bind_of_error hfails]

/-- What is made of the result of a nested action can be made of it inside the nesting. -/
@[simp] theorem nested_map (activity : Activity) (f : α → β) (a : EvalM α) :
    nested activity (f <$> a) = f <$> nested activity a := by
  funext s
  rw [map_eq_pure_bind, map_eq_pure_bind, bind_run]
  rcases Nat.lt_or_ge (s.depth activity) depthLimit with hlt | hle
  · rw [nested_of_lt _ hlt, nested_of_lt _ hlt, bind_run]
    cases a (s.enter activity) with
    | mk result s' => cases result <;> rfl
  · rw [nested_of_le _ hle, nested_of_le _ hle]

/-! ## Counting arguments -/

theorem checkArity_of_accepts {arity : Arity} {got : Nat} (h : arity.accepts got = true) :
    checkArity arity got = pure () := by
  have hnone : arity.violated? got = none := Option.isNone_iff_eq_none.mp h
  rw [checkArity, hnone]

theorem checkArity_of_violated {arity : Arity} {got bound : Nat}
    (h : arity.violated? got = some bound) : checkArity arity got = fail (.arity none bound got) := by
  rw [checkArity, h]

namespace State

/-! ## Depths -/

/-- How deep the two activities are nested. -/
def depths (s : State) : Nat × Nat := (s.evaluationDepth, s.foldingDepth)

/-- The same state at other depths. -/
def atDepths (s : State) (evaluationDepth foldingDepth : Nat) : State :=
  { s with evaluationDepth, foldingDepth }

theorem atDepths_self (s : State) : s.atDepths s.evaluationDepth s.foldingDepth = s := rfl

/-! ## Entering and leaving -/

@[simp] theorem heap_enter (s : State) (activity : Activity) :
    (s.enter activity).heap = s.heap := by
  cases activity <;> rfl

@[simp] theorem heap_leave (s : State) (activity : Activity) :
    (s.leave activity).heap = s.heap := by
  cases activity <;> rfl

theorem depth_enter (s : State) (activity other : Activity) :
    (s.enter activity).depth other = s.depth other + if activity = other then 1 else 0 := by
  cases activity <;> cases other <;> rfl

theorem depth_leave (s : State) (activity other : Activity) :
    (s.leave activity).depth other = s.depth other - if activity = other then 1 else 0 := by
  cases activity <;> cases other <;> rfl

section SameDepths

variable {s t : State} (h : t.depths = s.depths)

include h

theorem depth_congr (activity : Activity) : t.depth activity = s.depth activity := by
  obtain ⟨hevaluation, hfolding⟩ := Prod.mk.inj h
  cases activity with
  | evaluation => exact hevaluation
  | folding => exact hfolding

theorem depths_enter_congr (activity : Activity) :
    (t.enter activity).depths = (s.enter activity).depths := by
  obtain ⟨hevaluation, hfolding⟩ := Prod.mk.inj h
  cases activity <;> simp [depths, enter, hevaluation, hfolding]

theorem depths_leave_congr (activity : Activity) :
    (t.leave activity).depths = (s.leave activity).depths := by
  obtain ⟨hevaluation, hfolding⟩ := Prod.mk.inj h
  cases activity <;> simp [depths, leave, hevaluation, hfolding]

end SameDepths

/-- Leaving a level that was entered puts the depths back. -/
theorem depths_leave {s s' : State} {activity : Activity}
    (h : s'.depths = (s.enter activity).depths) : (s'.leave activity).depths = s.depths := by
  rw [depths_leave_congr h, leave_enter]

/-- A composed action leaves the depths as they were if both of its parts do. -/
theorem depths_bind {a : EvalM α} {f : α → EvalM β} {s : State} (ha : (a s).2.depths = s.depths)
    (hf : ∀ x s', a s = (.ok x, s') → (f x s').2.depths = s'.depths) :
    ((a >>= f) s).2.depths = s.depths := by
  rw [bind_run]
  cases hrun : a s with
  | mk result s' =>
    rw [hrun] at ha
    cases result with
    | ok x => exact (hf x s' hrun).trans ha
    | error e => exact ha

/-- A level that was left can be entered again. -/
theorem enter_leave {s s' : State} {activity : Activity}
    (h : s'.depths = (s.enter activity).depths) : (s'.leave activity).enter activity = s' := by
  obtain ⟨hevaluation, hfolding⟩ := Prod.mk.inj h
  cases activity with
  | evaluation =>
    have hcancel : s'.evaluationDepth - 1 + 1 = s'.evaluationDepth := by
      rw [hevaluation]
      rfl
    simp only [leave, enter, hcancel]
  | folding =>
    have hcancel : s'.foldingDepth - 1 + 1 = s'.foldingDepth := by
      rw [hfolding]
      rfl
    simp only [leave, enter, hcancel]

end State

/-- **Actions that are nested one after the other can be nested together**: the second one enters the
level that the first one has left. -/
theorem nested_bind_nested {a : EvalM α} {f : α → EvalM β} {activity : Activity} {s : State}
    (h : (a (s.enter activity)).2.depths = (s.enter activity).depths) :
    (nested activity a >>= fun x => nested activity (f x)) s = nested activity (a >>= f) s := by
  rcases Nat.lt_or_ge (s.depth activity) depthLimit with hlt | hle
  · rw [bind_run, nested_of_lt _ hlt, nested_of_lt _ hlt, bind_run]
    generalize a (s.enter activity) = run at h ⊢
    obtain ⟨result, s'⟩ := run
    cases result with
    | error e => rfl
    | ok x =>
      have hdepth : (s'.leave activity).depth activity = s.depth activity :=
        State.depth_congr (State.depths_leave h) activity
      show nested activity (f x) (s'.leave activity) = _
      rw [nested_of_lt _ (hdepth ▸ hlt), State.enter_leave h]
  · rw [bind_run, nested_of_le _ hle, nested_of_le _ hle]

end Homoiconic
