import Homoiconic.Proofs.FormMeanings
import Homoiconic.Proofs.NameResolution

/-!
# Assigning names in turn

The form that assigns takes names and expressions in pairs.  It evaluates each expression and
assigns its value before it looks at the next pair, so a later expression sees what the earlier
pairs have assigned, and whatever else their evaluation has done.  Nothing of this is undone.  Where
a pair fails, the state is the one that the pairs before it have left, or, if its expression has
been evaluated, the one in which this evaluation has failed; the pairs after it are not reached
(`assignInTurn_eq_error_iff`).

Seen from outside, a call of the form is these assignments (`AssignmentLaws`).  The last value is
quoted and given back by the evaluation of the expansion, so it is returned as it is.  For the same
reason pairs can be divided among several calls: the value of an earlier call is discarded, and the
later call goes on in the state that the earlier one has left.
-/

namespace Homoiconic

/-! ## Pairs -/

/-- The arguments in which pairs of a name and an expression are written. -/
def unpaired (pairs : List (Value × Value)) : List Value :=
  pairs.flatMap fun pair => [pair.1, pair.2]

theorem unpaired_cons (pair : Value × Value) (pairs : List (Value × Value)) :
    unpaired (pair :: pairs) = pair.1 :: pair.2 :: unpaired pairs := rfl

theorem length_unpaired (pairs : List (Value × Value)) :
    (unpaired pairs).length = 2 * pairs.length := by
  induction pairs with
  | nil => rfl
  | cons pair rest ih =>
    rw [unpaired_cons, List.length_cons, List.length_cons, List.length_cons, ih]
    omega

/-! ## Assigning -/

/-- Evaluate an expression and assign its value to a name, in the nearest scope that binds the name
or else in the scope of the environment. -/
def assignTo (env : Environment) (pair : Value × Value) : EvalM Value := do
  let name ← symbolName "setq" pair.1
  let v ← eval pair.2 env
  changeHeap (·.assign env.scope name v)
  return v

/-- Assign pairs one after the other; the result is the last value. -/
def assignInTurn (env : Environment) (pairs : List (Value × Value)) : EvalM Value :=
  pairs.foldlM (fun _ pair => assignTo env pair) .nil

section Runs

variable {env : Environment} {s s' : State} {pairs : List (Value × Value)} {e : Error} {v : Value}

/-- What a pair does in a state where it fails: what is no name is refused with nothing done, and
otherwise the evaluation of the expression has failed. -/
inductive AssignmentFails (env : Environment) (s : State) : Value × Value → Error → State → Prop
  | noName {target : Value} (expr : Value) (htarget : ∀ name, target ≠ .symbol name) :
      AssignmentFails env s (target, expr) (.expectedSymbol "setq" target.kind) s
  | failed (name : String) {expr : Value} {e : Error} {s' : State}
      (heval : eval expr env s = (.error e, s')) :
      AssignmentFails env s (.symbol name, expr) e s'

theorem assignTo_symbol (name : String) (expr : Value) :
    assignTo env (.symbol name, expr) = eval expr env >>= fun v =>
      changeHeap (·.assign env.scope name v) >>= fun _ => pure v := rfl

/-- A pair that returns has assigned the value it returns. -/
theorem assignTo_eq_ok_iff {pair : Value × Value} :
    assignTo env pair s = (.ok v, s') ↔
      ∃ name s₁, pair.1 = .symbol name ∧ eval pair.2 env s = (.ok v, s₁) ∧
        s' = { s₁ with heap := s₁.heap.assign env.scope name v } := by
  obtain ⟨target, expr⟩ := pair
  constructor
  · intro h
    cases target with
    | symbol name =>
      rw [assignTo_symbol] at h
      obtain ⟨w, s₁, heval, hassign⟩ := exists_of_bind_eq_ok h
      obtain ⟨hvalue, hstate⟩ := Prod.mk.inj hassign
      obtain rfl := Except.ok.inj hvalue
      exact ⟨name, s₁, rfl, heval, hstate.symm⟩
    | _ => cases h
  · rintro ⟨name, s₁, rfl, heval, rfl⟩
    rw [assignTo_symbol, bind_of_ok heval]
    rfl

theorem assignTo_eq_error_iff {pair : Value × Value} :
    assignTo env pair s = (.error e, s') ↔ AssignmentFails env s pair e s' := by
  obtain ⟨target, expr⟩ := pair
  constructor
  · intro h
    cases target with
    | symbol name =>
      rw [assignTo_symbol, bind_run] at h
      cases hrun : eval expr env s with
      | mk result s₁ =>
        rw [hrun] at h
        cases result with
        | ok v => cases h
        | error e' => exact .failed name (hrun.trans h)
    | _ =>
      obtain ⟨herror, rfl⟩ := Prod.mk.inj h
      obtain rfl := Except.error.inj herror
      exact .noName expr fun _ => nofun
  · intro h
    cases h with
    | noName _ htarget =>
      cases target with
      | symbol name => exact absurd rfl (htarget name)
      | _ => rfl
    | failed name heval => rw [assignTo_symbol, bind_of_error heval]

/-- **Assignments fail where the first pair fails, and nothing is undone.** -/
theorem assignInTurn_eq_error_iff :
    assignInTurn env pairs s = (.error e, s') ↔
      ∃ done pair later last s₁, pairs = done ++ pair :: later ∧
        assignInTurn env done s = (.ok last, s₁) ∧ AssignmentFails env s₁ pair e s' := by
  simp only [assignInTurn, foldlM_eq_error_iff, assignTo_eq_error_iff]

/-- The value of the pairs before the last one is discarded. -/
theorem assignInTurn_append (env : Environment) (pairs : List (Value × Value))
    {pairs' : List (Value × Value)} (hne : pairs' ≠ []) :
    assignInTurn env (pairs ++ pairs') =
      assignInTurn env pairs >>= fun _ => assignInTurn env pairs' := by
  cases pairs' with
  | nil => exact absurd rfl hne
  | cons pair rest => exact List.foldlM_append

/-! ## Calls of the form -/

/-- The loop of the form is the assignments. -/
theorem assignPairs_eq (env : Environment) (last : Value) (pairs : List (Value × Value)) :
    assignPairs .full env last (unpaired pairs) =
      pairs.foldlM (fun _ pair => assignTo env pair) last := by
  induction pairs generalizing last with
  | nil => rfl
  | cons pair rest ih =>
    rw [unpaired_cons, assignPairs, List.foldlM_cons]
    simp only [ih, assignTo, bind_assoc, pure_bind]
    rfl

theorem depths_assignInTurn (env : Environment) (pairs : List (Value × Value)) (s : State) :
    (assignInTurn env pairs s).2.depths = s.depths := by
  have hcoupled := DepthRelation.bounded.coupling.coupled_self
  have hscope : DepthRelation.bounded.coupling.hosts s.heap.size env.scope := trivial
  have hagree := hcoupled.assignPairs hscope (DepthRelation.good _ .nil)
    (DepthRelation.goodAll s.heap.size (unpaired pairs))
  rw [assignPairs_eq] at hagree
  exact (run_eq_of_agree hagree s.room_le).2

/-- Where assignments have been made, there is as much room as before. -/
theorem lt_after_assignInTurn (h : assignInTurn env pairs s = (.ok v, s'))
    (hroom : s.depth .evaluation < depthLimit) : s'.depth .evaluation < depthLimit := by
  have hdepths := depths_assignInTurn env pairs s
  rw [h] at hdepths
  rwa [State.depth_congr hdepths]

/-- The form makes the assignments and protects the last value. -/
theorem transform_assign (env : Environment) (hne : pairs ≠ []) :
    SpecialForm.assign.transform .full env (unpaired pairs) =
      assignInTurn env pairs >>= fun v => pure v.protect := by
  have hpositive : 0 < pairs.length := List.length_pos_of_ne_nil hne
  have hlength := length_unpaired pairs
  have hpaired : ¬ ((unpaired pairs).isEmpty ∨ (unpaired pairs).length % 2 ≠ 0) := by
    rw [List.isEmpty_iff_length_eq_zero]
    omega
  rw [SpecialForm.transform, if_neg hpaired, assignPairs_eq]
  rfl

theorem accepts_unpaired (hne : pairs ≠ []) :
    SpecialForm.assign.arity.accepts (unpaired pairs).length = true := by
  have hpositive : 0 < pairs.length := List.length_pos_of_ne_nil hne
  have hlength := length_unpaired pairs
  exact Arity.accepts_atLeast_iff.mpr (by omega)

theorem flattened_assign (hroom : s.depth .evaluation < depthLimit) (hne : pairs ≠ []) :
    flattened env (SpecialForm.assign.transform .full env (unpaired pairs)) s =
      assignInTurn env pairs s := by
  have hdepths := depths_transform env .assign (unpaired pairs) s
  rw [transform_assign env hne] at hdepths ⊢
  exact flattened_protecting hroom hdepths

/-- **A call of the form is the assignments**, one level deeper. -/
theorem eval_assign {target : Value} (htarget : Names s env (Builtin.form .assign).toValue target)
    (hne : pairs ≠ []) :
    eval (.call (.ofArgs target (unpaired pairs))) env s =
      nested .evaluation (eval target env >>= fun _ => assignInTurn env pairs) s := by
  rw [eval_ofArgs_of_names htarget]
  refine nested_congr_run (bind_congr_run fun v s₁ hv => ?_)
  rw [evalCallOf_form (accepts_unpaired hne)]
  exact flattened_assign (lt_after_eval hv) hne

/-- How an odd number of arguments is refused: a single one is too few. -/
def unpairedRefusal (count : Nat) : Error :=
  if count = 1 then .arity none 2 1 else .unpairedAssignments count

/-- A call of the form on an odd number of arguments does nothing but fail. -/
theorem eval_assign_of_odd {target : Value} {args : List Value}
    (htarget : Names s env (Builtin.form .assign).toValue target) (hodd : args.length % 2 = 1) :
    eval (.call (.ofArgs target args)) env s =
      nested .evaluation (eval target env >>= fun _ => fail (unpairedRefusal args.length)) s := by
  have hrefused : evalCallOf .full env (Builtin.form .assign).toValue (.ofArgs target args) =
      fail (unpairedRefusal args.length) := by
    by_cases hone : args.length = 1
    · have hviolated : SpecialForm.assign.arity.violated? args.length = some 2 := by
        rw [hone]
        rfl
      rw [evalCallOf_form_of_violated hviolated, hone]
      rfl
    · have harity : SpecialForm.assign.arity.accepts args.length = true :=
        Arity.accepts_atLeast_iff.mpr (by omega)
      rw [evalCallOf_form harity, SpecialForm.transform, if_pos (Or.inr (by omega)), flattened,
        fail_bind, unpairedRefusal, if_neg hone]
  rw [eval_ofArgs_of_names htarget, hrefused]

/-- Pairs can be assigned by two calls, if the target of the second one still names the form after
the first. -/
theorem eval_assign_append {target target' : Value} {pairs' : List (Value × Value)}
    (htarget : Names s env (Builtin.form .assign).toValue target) (hne : pairs ≠ [])
    (hne' : pairs' ≠ [])
    (htarget' : ∀ v s₁, eval (.call (.ofArgs target (unpaired pairs))) env s = (.ok v, s₁) →
      Names s₁ env (Builtin.form .assign).toValue target') :
    eval (.call (.ofArgs target (unpaired (pairs ++ pairs')))) env s =
      (eval (.call (.ofArgs target (unpaired pairs))) env >>= fun _ =>
        eval (.call (.ofArgs target' (unpaired pairs'))) env) s := by
  have hfirst := eval_assign htarget hne
  have hsecond : ∀ v s₁,
      nested .evaluation (eval target env >>= fun _ => assignInTurn env pairs) s = (.ok v, s₁) →
        eval (.call (.ofArgs target' (unpaired pairs'))) env s₁ =
          nested .evaluation (eval target' env >>= fun _ => assignInTurn env pairs') s₁ :=
    fun v s₁ hv => eval_assign (htarget' v s₁ (hfirst.trans hv)) hne'
  have hdepths : ((eval target env >>= fun _ => assignInTurn env pairs)
      (s.enter .evaluation)).2.depths = (s.enter .evaluation).depths :=
    State.depths_bind (eval_ends _ 0 .exhausted target env).2 fun _ s₁ _ =>
      depths_assignInTurn env pairs s₁
  rw [eval_assign htarget (List.append_ne_nil_of_left_ne_nil hne _), bind_congr_first hfirst,
    bind_congr_run hsecond, nested_bind_nested hdepths, assignInTurn_append env pairs hne',
    bind_assoc]
  refine nested_congr_run (bind_congr_run fun w s₁ hw => bind_congr_run fun v s₂ hv => ?_)
  -- The target of the second call is evaluated on a level that has been there for that of the first.
  have hroom : s₂.depth .evaluation < depthLimit := lt_after_assignInTurn hv (lt_after_eval hw)
  have hrun : eval (.call (.ofArgs target (unpaired pairs))) env s =
      (.ok v, s₂.leave .evaluation) := by
    have hlt : s.depth .evaluation < depthLimit := by
      have hdeeper := lt_of_eval_eq_ok hw
      rw [State.depth_enter_self] at hdeeper
      exact Nat.lt_of_succ_lt hdeeper
    rw [hfirst, nested_of_lt _ hlt, bind_of_ok hw, hv]
  have hnames : Names s₂ env (Builtin.form .assign).toValue target' :=
    (htarget' v _ hrun).congr (s₂.heap_leave .evaluation).symm
  have htarget₂ := hnames.eval_eq hroom
  rw [bind_of_ok htarget₂]

/-! ## Laws of assignment -/

/-- How the form that assigns acts in an environment and a state. -/
structure AssignmentLaws (env : Environment) (s : State) : Prop where
  /-- A call on pairs assigns them in turn and returns the last value as it is. -/
  assigns {target : Value} {pairs : List (Value × Value)} :
    Names s env (Builtin.form .assign).toValue target → pairs ≠ [] →
      eval (.call (.ofArgs target (unpaired pairs))) env s =
        nested .evaluation (eval target env >>= fun _ => assignInTurn env pairs) s
  /-- A pair that returns has evaluated its expression and then assigned the value to its name. -/
  returns {pair : Value × Value} {v : Value} {s' : State} :
    assignTo env pair s = (.ok v, s') ↔
      ∃ name s₁, pair.1 = .symbol name ∧ eval pair.2 env s = (.ok v, s₁) ∧
        s' = { s₁ with heap := s₁.heap.assign env.scope name v }
  /-- An assignment writes to the nearest scope that binds the name, and if there is none, to the
  scope of the environment. -/
  reaches (name : String) (v : Value) : s.heap.ParentsFirst →
    (∃ owner, s.heap.FirstBinder name env.scope owner ∧
      s.heap.assign env.scope name v = s.heap.define owner name v) ∨
    (¬ ∃ owner, s.heap.FirstBinder name env.scope owner) ∧
      s.heap.assign env.scope name v = s.heap.define env.scope name v
  /-- Pairs fail where the first of them fails, in the state that those before it have left. -/
  stops {pairs : List (Value × Value)} {e : Error} {s' : State} :
    assignInTurn env pairs s = (.error e, s') ↔
      ∃ done pair later last s₁, pairs = done ++ pair :: later ∧
        assignInTurn env done s = (.ok last, s₁) ∧ AssignmentFails env s₁ pair e s'
  /-- A call on some pairs and more is a call on the former and, if it returns, a call on the
  latter. -/
  splits {target target' : Value} {pairs pairs' : List (Value × Value)} :
    Names s env (Builtin.form .assign).toValue target → pairs ≠ [] → pairs' ≠ [] →
      (∀ v s₁, eval (.call (.ofArgs target (unpaired pairs))) env s = (.ok v, s₁) →
        Names s₁ env (Builtin.form .assign).toValue target') →
      eval (.call (.ofArgs target (unpaired (pairs ++ pairs')))) env s =
        (eval (.call (.ofArgs target (unpaired pairs))) env >>= fun _ =>
          eval (.call (.ofArgs target' (unpaired pairs'))) env) s
  /-- A call on an odd number of arguments fails with nothing done. -/
  refuses {target : Value} {args : List Value} :
    Names s env (Builtin.form .assign).toValue target → args.length % 2 = 1 →
      eval (.call (.ofArgs target args)) env s =
        nested .evaluation (eval target env >>= fun _ => fail (unpairedRefusal args.length)) s

/-- **Assignments are made in turn, and none is undone**, in every environment and every state. -/
theorem assignments_are_made_in_turn (env : Environment) (s : State) : AssignmentLaws env s where
  assigns := eval_assign
  returns := assignTo_eq_ok_iff
  reaches name v hparents := by
    rcases Heap.owner_spec hparents env.scope name with hbinder | ⟨hnone, howner⟩
    · exact Or.inl ⟨_, hbinder, rfl⟩
    · exact Or.inr ⟨hnone, by rw [Heap.assign, howner]⟩
  stops := assignInTurn_eq_error_iff
  splits := eval_assign_append
  refuses := eval_assign_of_odd

end Runs

/-- Three names are assigned to by a call, of which the second is a number: the first one has its
value, and the third expression, which would generate a symbol, is not evaluated.  Without the
second pair, the call returns the symbol, and so do two calls. -/
theorem assignments_stop_at_number :
    let generating : Value := .call (.ofArgs (Builtin.primitive .gensym).toValue [.string "t"])
    let form : Value := (Builtin.form .assign).toValue
    let first : Value × Value := (.symbol "a", .quote (.symbol "b"))
    let third : Value × Value := (.symbol "c", generating)
    let s : State := { State.initial with heap := ⟨#[⟨.empty, none⟩]⟩ }
    let assigned : State := { s with heap := ⟨#[⟨.ofList [("a", .symbol "b")], none⟩]⟩ }
    (Names s ⟨0⟩ form form ∧ [first, (.number 1, .nil), third] ≠ [] ∧ [first] ≠ [] ∧
      [third] ≠ []) ∧
    eval (.call (.ofArgs form (unpaired [first, (.number 1, .nil), third]))) ⟨0⟩ s =
      (.error (.expectedSymbol "setq" .number), assigned) ∧
    eval (.call (.ofArgs form (unpaired [first]))) ⟨0⟩ s = (.ok (.symbol "b"), assigned) ∧
    (eval (.call (.ofArgs form (unpaired ([first] ++ [third])))) ⟨0⟩ s).1 =
      .ok (.symbol (gensymName "t" 1)) ∧
    eval (.call (.ofArgs form [.symbol "a"])) ⟨0⟩ s = (.error (.arity none 2 1), s) := by
  intro generating form first third s assigned
  have hlaws := assignments_are_made_in_turn ⟨0⟩ s
  have hfirst : eval (.call (.ofArgs form (unpaired [first]))) ⟨0⟩ s =
      (.ok (.symbol "b"), assigned) := by
    rw [hlaws.assigns .itself (List.cons_ne_nil _ _)]
    rfl
  refine ⟨⟨.itself, List.cons_ne_nil _ _, List.cons_ne_nil _ _, List.cons_ne_nil _ _⟩, ?_, hfirst,
    ?_, ?_⟩
  · rw [hlaws.assigns .itself (List.cons_ne_nil _ _)]
    rfl
  · rw [hlaws.splits .itself (List.cons_ne_nil _ _) (List.cons_ne_nil _ _) fun _ _ _ => .itself,
      bind_of_ok hfirst]
    subst third generating
    rfl
  · rw [hlaws.refuses .itself rfl]
    rfl

end Homoiconic
