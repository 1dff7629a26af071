import Homoiconic.Proofs.CallTargets
import Homoiconic.Registry

/-!
# What the special forms mean

A special form is an expander: it returns an expression, and this expression is evaluated in place
of the call.  A form that chooses among its arguments returns the chosen one as it stands and leaves
its evaluation to that last step.  A form that already has the value it wants to return quotes it,
so that the last step gives it back.  Values that are not evaluable skip the step.

Seen from outside, none of this shows.  The forms that choose and the form that binds names have
direct meanings, in which every argument that is needed is evaluated where it is needed, once, and a
value that has been found is returned as it is: `evalConditional`, `evalDeciding`, `evalLet`.  A
call of such a form does the same as its meaning, one level deeper
(`forms_evaluate_directly`).  This holds at every depth, also next to the limit, where two things
have to fit.  An argument that a form evaluates itself and one that it leaves to the last step are
evaluated on the same level.  And the levels that the last step may need, for a quoted value too,
have been there before, because the target of the call was evaluated on this level.
-/

namespace Homoiconic

/-! ## Direct evaluation -/

/-- Evaluate conditions in turn until one is true, and then its branch.  If none is true, an odd
argument at the end is evaluated instead; without one the result is nil. -/
def evalConditional (env : Environment) : List Value → EvalM Value
  | [] => pure .nil
  | [otherwise] => eval otherwise env
  | condition :: branch :: rest => do
    let v ← eval condition env
    if v.isTruthy then eval branch env else evalConditional env rest

/-- Evaluate arguments in turn until the truth of one decides, and return its value; the last one
decides in any case. -/
def evalDeciding (decisive : Bool) (whenEmpty : Value) (env : Environment) :
    List Value → EvalM Value
  | [] => pure whenEmpty
  | [last] => eval last env
  | e :: rest => do
    let v ← eval e env
    if v.isTruthy = decisive then pure v else evalDeciding decisive whenEmpty env rest

/-- The members of a list in pairs. -/
def inPairs : List Value → List (Value × Value)
  | target :: e :: rest => (target, e) :: inPairs rest
  | _ => []

/-- Evaluate an expression in a scope and bind a name to the result there. -/
def bindIn (scope : ScopeId) (pair : Value × Value) : EvalM Unit := do
  let name ← symbolName "let" pair.1
  let v ← eval pair.2 ⟨scope⟩
  changeHeap (·.define scope name v)

/-- In a fresh child scope, bind names to the values of expressions, one after the other, and then
evaluate a body.  The result is the last value of the body, or nil. -/
def evalLet (env : Environment) : List Value → EvalM Value
  | .list bindings :: body =>
    if bindings.length % 2 ≠ 0 then fail .unpairedBindings
    else do
      let scope ← openScope (some env.scope) .empty
      forM (inPairs bindings) (bindIn scope)
      let values ← body.mapM fun e => eval e ⟨scope⟩
      return values.getLastD .nil
  | _ => fail .bindingsNotList

/-- The forms that evaluate their arguments directly, and how they do so. -/
inductive SpecialForm.Means : SpecialForm → (Environment → List Value → EvalM Value) → Prop
  | conditional : Means .conditional evalConditional
  | conjunction : Means .conjunction (evalDeciding false (.bool true))
  | disjunction : Means .disjunction (evalDeciding true .nil)
  | letIn : Means .letIn evalLet

/-! ## Evaluating what an expansion returns -/

section Flattening

variable {env : Environment} {s : State}

/-- Evaluate what an action returns, if it is evaluable. -/
def flattened (env : Environment) (expansion : EvalM Value) : EvalM Value := do
  let e ← expansion
  if e.isEvaluable then eval e env else pure e

/-- Where there is a level for it, every expression that is returned is evaluated, also one that
evaluates to itself. -/
theorem flattened_pure (hroom : s.depth .evaluation < depthLimit) (e : Value) :
    flattened env (pure e) s = eval e env s := by
  show (if e.isEvaluable then eval e env else pure e) s = eval e env s
  by_cases he : e.isEvaluable
  · rw [if_pos he]
  · have hself : evalStep .full env e = pure e := by
      cases e with
      | symbol _ => exact absurd rfl he
      | call _ => exact absurd rfl he
      | quote _ => exact absurd rfl he
      | _ => rfl
    rw [if_neg he, eval_of_evalStep_eq_pure hroom hself, pure_run]

/-- A protected value is given back. -/
theorem flattened_protect (hroom : s.depth .evaluation < depthLimit) (v : Value) :
    flattened env (pure v.protect) s = (.ok v, s) := by
  rw [flattened_pure hroom]
  refine eval_of_evalStep_eq_pure hroom ?_
  cases v <;> rfl

/-- Only the end of an expansion is flattened. -/
theorem flattened_bind {α : Type} (a : EvalM α) (f : α → EvalM Value) :
    flattened env (a >>= f) = a >>= fun x => flattened env (f x) := bind_assoc a f _

/-- A form ends as deep as it started. -/
theorem depths_transform (env : Environment) (form : SpecialForm) (args : List Value) (s : State) :
    (form.transform .full env args s).2.depths = s.depths := by
  have hcoupled := DepthRelation.bounded.coupling.coupled_self
  have hagree : DepthRelation.bounded.coupling.Agree (2 * depthLimit) s.heap.size
      DepthRelation.bounded.coupling.Good (form.transform .full env args)
      (form.transform .full env args) :=
    hcoupled.transform form trivial (DepthRelation.goodAll s.heap.size args)
  exact (run_eq_of_agree hagree s.room_le).2

/-- **A form that protects the result of an action does what the action does**, if this ends as deep
as it started, so that there is a level on which the result is given back. -/
theorem flattened_protecting {a : EvalM Value} (hroom : s.depth .evaluation < depthLimit)
    (hdepths : ((a >>= fun v => pure v.protect) s).2.depths = s.depths) :
    flattened env (a >>= fun v => pure v.protect) s = a s := by
  rw [bind_run] at hdepths
  rw [flattened_bind, bind_run]
  generalize a s = run at hdepths ⊢
  obtain ⟨result, s₁⟩ := run
  cases result with
  | error e => rfl
  | ok v =>
    have hs₁ : s₁.depths = s.depths := hdepths
    refine flattened_protect ?_ v
    rwa [State.depth_congr hs₁]

/-! ## Forms that choose -/

theorem flattened_chooseBranch (hroom : s.depth .evaluation < depthLimit) (args : List Value) :
    flattened env (chooseBranch .full env args) s = evalConditional env args s := by
  induction args using chooseBranch.induct generalizing s with
  | case1 => rfl
  | case2 otherwise => exact flattened_pure hroom otherwise
  | case3 condition branch rest ih =>
    rw [chooseBranch, evalConditional, flattened_bind]
    refine bind_congr_run fun v s₁ hv => ?_
    have hroom₁ := lt_after_eval hv
    by_cases htrue : v.isTruthy
    · rw [if_pos htrue, if_pos htrue]
      exact flattened_pure hroom₁ branch
    · rw [if_neg htrue, if_neg htrue]
      exact ih hroom₁

theorem flattened_shortCircuit {decisive : Bool} {whenEmpty : Value}
    (hempty : whenEmpty.isEvaluable = false) (hroom : s.depth .evaluation < depthLimit)
    (args : List Value) :
    flattened env (shortCircuit .full env decisive whenEmpty args) s =
      evalDeciding decisive whenEmpty env args s := by
  induction args using shortCircuit.induct generalizing s with
  | case1 =>
    show (if whenEmpty.isEvaluable then eval whenEmpty env else pure whenEmpty) s = _
    rw [hempty]
    rfl
  | case2 last => exact flattened_pure hroom last
  | case3 e rest hrest ih =>
    rw [shortCircuit, evalDeciding, flattened_bind]
    · refine bind_congr_run fun v s₁ hv => ?_
      have hroom₁ := lt_after_eval hv
      by_cases hdecides : v.isTruthy = decisive
      · rw [if_pos hdecides, if_pos hdecides]
        exact flattened_protect hroom₁ v
      · rw [if_neg hdecides, if_neg hdecides]
        exact ih hroom₁
    all_goals exact hrest

/-! ## The form that binds names -/

theorem bindPairs_eq_forM (scope : ScopeId) (bindings : List Value) :
    bindPairs .full ⟨scope⟩ bindings = forM (inPairs bindings) (bindIn scope) := by
  induction bindings using inPairs.induct with
  | case1 target e rest ih =>
    rw [bindPairs, inPairs, List.forM_cons, ih]
    simp only [bindIn, bind_assoc]
    rfl
  | case2 bindings hpairs =>
    rw [bindPairs, inPairs]
    · rfl
    all_goals exact hpairs

theorem evalBody_eq_mapM (env : Environment) (result : Value) (body : List Value) :
    evalBody .full env result body =
      body.mapM (fun e => eval e env) >>= fun values => pure (values.getLastD result) := by
  induction body generalizing result with
  | nil => rfl
  | cons e rest ih =>
    simp only [evalBody, List.mapM_cons, bind_assoc, pure_bind, List.getLastD_cons, ih]
    rfl

/-- The form does what it means and protects the result. -/
theorem letBody_eq {args : List Value} (hargs : args ≠ []) :
    letBody .full env args = evalLet env args >>= fun v => pure v.protect := by
  cases args with
  | nil => exact absurd rfl hargs
  | cons first body =>
    cases first with
    | list bindings =>
      rw [letBody, evalLet]
      by_cases hodd : bindings.length % 2 ≠ 0
      · rw [if_pos hodd, if_pos hodd]
        rfl
      · rw [if_neg hodd, if_neg hodd]
        simp only [bindPairs_eq_forM, evalBody_eq_mapM, bind_assoc, pure_bind]
    | _ => rfl

theorem flattened_letBody (hroom : s.depth .evaluation < depthLimit) {args : List Value}
    (hargs : args ≠ []) : flattened env (letBody .full env args) s = evalLet env args s := by
  have hdepths : (letBody .full env args s).2.depths = s.depths := depths_transform env .letIn args s
  rw [letBody_eq hargs] at hdepths ⊢
  exact flattened_protecting hroom hdepths

/-! ## Calls of forms -/

/-- A form whose expansion fails at once fails at once, whatever evaluates expressions. -/
theorem evalCallOf_form_of_expand_eq_fail {next : Engine} {form : SpecialForm}
    {node : CallNode Value} {e : Error}
    (h : form.expand next env node.positional node.named = fail e) :
    evalCallOf next env (Builtin.form form).toValue node = fail e := by
  calc evalCallOf next env (Builtin.form form).toValue node
    _ = form.expand next env node.positional node.named >>= fun expansion =>
          if expansion.isEvaluable then next.eval expansion env else pure expansion := rfl
    _ = fail e := by rw [h, fail_bind]

theorem expand_of_violated {next : Engine} {form : SpecialForm} {args : List Value} {bound : Nat}
    (harity : form.arity.violated? args.length = some bound) (kwargs : Keywords Value) :
    form.expand next env args kwargs = fail (.arity none bound args.length) := by
  rw [SpecialForm.expand, checkArity_of_violated harity, fail_bind]

/-- A call whose arguments the arity of the form does not accept fails at once. -/
theorem evalCallOf_form_of_violated {form : SpecialForm} {args : List Value} {bound : Nat}
    (harity : form.arity.violated? args.length = some bound) (target : Value) :
    evalCallOf .full env (Builtin.form form).toValue (.ofArgs target args) =
      fail (.arity none bound args.length) :=
  evalCallOf_form_of_expand_eq_fail (expand_of_violated harity .empty)

/-- A form expands to what it does, if its arity accepts the arguments and none is named. -/
theorem evalCallOf_form {form : SpecialForm} {args : List Value}
    (harity : form.arity.accepts args.length = true) (target : Value) :
    evalCallOf .full env (Builtin.form form).toValue (.ofArgs target args) =
      flattened env (form.transform .full env args) := by
  have hexpand : form.expand .full env args .empty = form.transform .full env args := by
    rw [SpecialForm.expand, checkArity_of_accepts harity, pure_bind]
    rfl
  calc evalCallOf .full env (Builtin.form form).toValue (.ofArgs target args)
    _ = flattened env (form.expand .full env args .empty) := rfl
    _ = flattened env (form.transform .full env args) := by rw [hexpand]

/-- Within the limits, a call of a form, by whatever names it, expands it and evaluates the expansion,
one level deeper. -/
theorem eval_call_of_names_form {form : SpecialForm} {args : List Value} {target : Value}
    (htarget : Names s env (Builtin.form form).toValue target)
    (harity : form.arity.accepts args.length = true)
    (h : WithinLimits (eval (.call (.ofArgs target args)) env) s) :
    eval (.call (.ofArgs target args)) env s =
      nested .evaluation (flattened env (form.transform .full env args)) s := by
  have heval : eval target env (s.enter .evaluation) = _ :=
    (htarget.congr (s.heap_enter .evaluation)).eval_eq h.lt_enter_of_call
  rw [eval_ofArgs_of_names htarget, evalCallOf_form harity]
  exact nested_congr_run (bind_of_ok heval)

/-- **The level of the call is not needed**: within the limits, the expansion is evaluated as if it
stood in place of the call. -/
theorem eval_call_eq_flattened {form : SpecialForm} {args : List Value} {target : Value}
    (htarget : Names s env (Builtin.form form).toValue target)
    (harity : form.arity.accepts args.length = true)
    (h : WithinLimits (eval (.call (.ofArgs target args)) env) s) :
    eval (.call (.ofArgs target args)) env s =
      flattened env (form.transform .full env args) s := by
  have hrun := eval_call_of_names_form htarget harity h
  have hcoupled := DepthRelation.shallower.coupling.coupled_self
  have hagree : DepthRelation.shallower.coupling.Agree (2 * depthLimit) s.heap.size
      DepthRelation.shallower.coupling.Good (flattened env (form.transform .full env args))
      (flattened env (form.transform .full env args)) := by
    refine Coupling.Agree.bind (hcoupled.transform form trivial (DepthRelation.goodAll _ args))
      fun size e _ _ => ?_
    split
    · exact hcoupled.eval (DepthRelation.good size e) trivial
    · exact Coupling.Agree.returning (DepthRelation.good size e)
  exact hrun.trans (nested_eq_self hagree (h.congr hrun))

/-- **The forms do what they mean**, once they are given a level. -/
theorem SpecialForm.Means.flattened_transform {form : SpecialForm}
    {meaning : Environment → List Value → EvalM Value} (hmeans : form.Means meaning)
    {args : List Value} (harity : form.arity.accepts args.length = true)
    (hroom : s.depth .evaluation < depthLimit) :
    flattened env (form.transform .full env args) s = meaning env args s := by
  cases hmeans with
  | conditional =>
    have henough : 2 ≤ args.length := Arity.accepts_atLeast_iff.mp harity
    rw [SpecialForm.transform, if_neg (Nat.not_lt.mpr henough)]
    exact flattened_chooseBranch hroom args
  | conjunction => exact flattened_shortCircuit rfl hroom args
  | disjunction => exact flattened_shortCircuit rfl hroom args
  | letIn =>
    have henough : 1 ≤ args.length := Arity.accepts_atLeast_iff.mp harity
    exact flattened_letBody hroom (List.ne_nil_of_length_pos henough)

end Flattening

section Calls

variable {form : SpecialForm} {meaning : Environment → List Value → EvalM Value} {target : Value}
  {env : Environment} {s : State}

/-- **Choosing and binding forms evaluate their arguments directly.**  Take a call whose target, if
it can be evaluated, evaluates to such a form, with as many arguments as its arity accepts and none
of them named.  Evaluating the call evaluates the target and then does what the form means, both one
level deeper: it returns the same result or fails with the same error, and leaves the same state.
The meanings evaluate every argument at most once and return the values they find as they are. -/
theorem forms_evaluate_directly (hmeans : form.Means meaning) {args : List Value}
    (harity : form.arity.accepts args.length = true)
    (htarget : ∀ v s₁, eval target env (s.enter .evaluation) = (.ok v, s₁) →
      v = (Builtin.form form).toValue) :
    eval (.call (.ofArgs target args)) env s =
      nested .evaluation (eval target env >>= fun _ => meaning env args) s := by
  have heval : eval (.call (.ofArgs target args)) env =
      nested .evaluation (evalCall .full env (.ofArgs target args)) := eval_eq_nested _ _
  rw [heval]
  refine nested_congr_run (bind_congr_run fun v s₁ hv => ?_)
  obtain rfl := htarget v s₁ hv
  rw [evalCallOf_form harity]
  exact hmeans.flattened_transform harity (lt_after_eval hv)

/-- A disjunction whose first value is an unbound symbol returns the symbol, and a `let` returns the
call that is the last value of its body; neither is evaluated again. -/
theorem forms_return_expressions :
    eval (.call (.ofArgs (Builtin.form .disjunction).toValue
        [.quote (.symbol "nowhere"), .number 1])) ⟨0⟩ .initial =
      (.ok (.symbol "nowhere"), .initial) ∧
    (eval (.call (.ofArgs (Builtin.form .letIn).toValue
        [.list [.symbol "x", .number 1], .quote (.call (.ofArgs (.symbol "x") []))]))
        ⟨0⟩ .initial).1 = .ok (.call (.ofArgs (.symbol "x") [])) := by
  have hself : ∀ form v s₁, eval (Builtin.form form).toValue ⟨0⟩
      (State.initial.enter .evaluation) = (.ok v, s₁) → v = (Builtin.form form).toValue := by
    intro form v s₁ hv
    exact (Except.ok.inj (Prod.mk.inj hv).1).symm
  constructor
  · rw [forms_evaluate_directly .disjunction rfl (hself .disjunction)]
    rfl
  · rw [forms_evaluate_directly .letIn rfl (hself .letIn)]
    rfl

end Calls

end Homoiconic
