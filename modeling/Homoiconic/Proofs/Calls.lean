import Homoiconic.Proofs.DepthLimits
import Homoiconic.Proofs.Folds

/-!
# Calls by expressions and calls by programs

A plain function or a definition can be called in several ways: by applying it, by evaluating a call
of it, by a program that calls the top of the stack, and, for a function, by the combinator made
from its operation, in a program or in a definition.  They hand the arguments over in different
forms.  A call evaluates quoted arguments one by one and collects the named ones in a map; a program
finds a list on the stack with a map on top of it.

Whatever the form, the callee receives the same arguments, and so each way of calling is the
application of the callee, with two differences (`Call`).  The result may be pushed on a stack,
which is done when everything else is done (`pushResult`).  And the application may run one level
deeper in evaluation or in folding.  That difference shows at the limits and nowhere else: a nested
run that ends in anything but the failure at a limit is the run without the nesting
(`nested_eq_self`), because runs do not depend on the depths at which they start.

So every way of calling, as long as it stays within the limits, is the application with its result
pushed (`Call.run_eq`), and any two ways agree.
-/

namespace Homoiconic

/-! ## Staying within the limits -/

section Limits

variable {α : Type} {a : EvalM α} {s : State} {activity : Activity}

/-- A run does not end in the failure at a limit. -/
def WithinLimits (a : EvalM α) (s : State) : Prop :=
  ∀ activity, (a s).1 ≠ .error (.tooDeep activity)

theorem WithinLimits.congr {b : EvalM α} (h : WithinLimits a s) (heq : a s = b s) :
    WithinLimits b s := by
  unfold WithinLimits at h ⊢
  rwa [← heq]

theorem WithinLimits.lt_of_nested (h : WithinLimits (nested activity a) s) :
    s.depth activity < depthLimit := by
  refine Nat.lt_of_not_le fun hle => h activity ?_
  rw [nested_of_le a hle]

/-- What is nested stays within the limits, one level deeper. -/
theorem WithinLimits.of_nested (h : WithinLimits (nested activity a) s) :
    WithinLimits a (s.enter activity) := by
  have hrun := nested_of_lt a h.lt_of_nested
  intro other herror
  apply h other
  rw [hrun]
  exact herror

/-- So does the first part of what is composed. -/
theorem WithinLimits.of_bind {β : Type} {f : α → EvalM β} (h : WithinLimits (a >>= f) s) :
    WithinLimits a s := by
  intro other herror
  apply h other
  rw [bind_of_error (Prod.ext herror rfl)]

theorem State.eq_atDepths_enter (s : State) (activity : Activity) :
    s = (s.enter activity).atDepths s.evaluationDepth s.foldingDepth := by
  cases activity <;> rfl

theorem State.leave_eq_atDepths {s' : State} (h : s'.depths = (s.enter activity).depths) :
    s'.leave activity = s'.atDepths s.evaluationDepth s.foldingDepth := by
  obtain ⟨hevaluation, hfolding⟩ := Prod.mk.inj (State.depths_leave h)
  rw [← hevaluation, ← hfolding]
  cases activity <;> rfl

/-- **A nested run that stays within the limits is the run without the nesting.** -/
theorem nested_eq_self {levels : Nat} {kind : Nat → α → Prop}
    (ha : DepthRelation.shallower.coupling.Agree levels s.heap.size kind a a)
    (h : WithinLimits (nested activity a) s) : nested activity a s = a s := by
  have hlt := h.lt_of_nested
  have hrel : DepthRelation.shallower.coupling.rel levels (s.enter activity) s := by
    refine ⟨⟨_, _, s.eq_atDepths_enter activity⟩, fun other => ?_⟩
    rw [State.depth_enter]
    exact Nat.le_add_right _ _
  have hsize : s.heap.size ≤ (s.enter activity).heap.size :=
    Nat.le_of_eq (congrArg Heap.size (s.heap_enter activity).symm)
  unfold WithinLimits at h
  rw [nested_of_lt a hlt] at h ⊢
  obtain ⟨hrun, hdepths⟩ := DepthRelation.eq_of_ends (ha hrel hsize) (by
    rintro _ herror ⟨other, rfl⟩
    exact h other herror)
  rw [hrun, State.leave_eq_atDepths hdepths]

end Limits

/-! ## Pushing a result -/

section Pushing

variable {stack : Stack Value} {a : EvalM Value} {s : State}

/-- Run an action and push its result. -/
def pushResult (stack : Stack Value) (a : EvalM Value) : EvalM (Stack Value) := do
  return stack.push (← a)

theorem pushResult_run (stack : Stack Value) (a : EvalM Value) (s : State) :
    pushResult stack a s = ((a s).1.map stack.push, (a s).2) := by
  rw [pushResult, bind_run]
  generalize a s = run
  obtain ⟨result, s'⟩ := run
  cases result <;> rfl

theorem pushResult_congr {b : EvalM Value} (h : a s = b s) :
    pushResult stack a s = pushResult stack b s := by
  rw [pushResult_run, pushResult_run, h]

/-- Actions whose results are pushed alike have the same results. -/
theorem eq_of_pushResult_eq {b : EvalM Value} (h : pushResult stack a s = pushResult stack b s) :
    a s = b s := by
  rw [pushResult_run, pushResult_run] at h
  obtain ⟨hresult, hstate⟩ := Prod.mk.inj h
  refine Prod.ext ?_ hstate
  generalize (a s).1 = x, (b s).1 = y at hresult ⊢
  cases x with
  | error e =>
    cases y with
    | error e' => exact congrArg Except.error (Except.error.inj hresult)
    | ok w => cases hresult
  | ok v =>
    cases y with
    | error e' => cases hresult
    | ok w =>
      have htop := congrArg Stack.peek (Except.ok.inj hresult)
      rw [Stack.peek_push, Stack.peek_push] at htop
      rw [Except.ok.inj htop]

/-- The push can be done on either side of a nesting. -/
theorem nested_pushResult (activity : Activity) (stack : Stack Value) (a : EvalM Value) :
    nested activity (pushResult stack a) = pushResult stack (nested activity a) := by
  simp only [pushResult, bind_pure_comp, nested_map]

/-- A push adds no failure. -/
theorem WithinLimits.of_pushResult (h : WithinLimits (pushResult stack a) s) :
    WithinLimits a s := by
  exact h.of_bind

end Pushing

/-! ## Evaluating quoted arguments -/

section Quoted

variable {s : State}

/-- An evaluation is what its rule does, one level deeper. -/
theorem eval_eq_nested (e : Value) (env : Environment) :
    eval e env = nested .evaluation (evalStep .full env e) := by
  calc eval e env
    _ = Engine.full.unfold.eval e env := by rw [Engine.unfold_full]; rfl
    _ = nested .evaluation (evalStep .full env e) := rfl

theorem eval_call_eq_nested (node : CallNode Value) (env : Environment) :
    eval (.call node) env = nested .evaluation (evalCall .full env node) := eval_eq_nested _ _

/-- An evaluation that stays within the limits has a level to run on. -/
theorem WithinLimits.lt_of_eval {e : Value} {env : Environment}
    (h : WithinLimits (eval e env) s) : s.depth .evaluation < depthLimit := by
  rw [eval_eq_nested] at h
  exact h.lt_of_nested

/-- Evaluating an expression that names its value takes one level and changes nothing. -/
theorem eval_of_evalStep_eq_pure (h : s.depth .evaluation < depthLimit) {e v : Value}
    {env : Environment} (hstep : evalStep .full env e = pure v) : eval e env s = (.ok v, s) := by
  rw [eval_eq_nested, hstep]
  exact nested_of_unchanged h rfl

/-- A call that stays within the limits has a level for its target, one level deeper than its
own. -/
theorem WithinLimits.lt_enter_of_call {node : CallNode Value} {env : Environment}
    (h : WithinLimits (eval (.call node) env) s) :
    (s.enter .evaluation).depth .evaluation < depthLimit := by
  rw [eval_call_eq_nested] at h
  have htarget : WithinLimits (eval node.target env) (s.enter .evaluation) := h.of_nested.of_bind
  exact htarget.lt_of_eval

/-- Within the limits, a call of a target that names its value does what the target does with the
call, one level deeper. -/
theorem eval_call_of_evalStep_eq_pure {node : CallNode Value} {env : Environment} {v : Value}
    (h : WithinLimits (eval (.call node) env) s)
    (hstep : evalStep .full env node.target = pure v) :
    eval (.call node) env s = nested .evaluation (evalCallOf .full env v node) s := by
  have htarget : Engine.full.eval node.target env (s.enter .evaluation) =
      (.ok v, s.enter .evaluation) := eval_of_evalStep_eq_pure h.lt_enter_of_call hstep
  rw [eval_call_eq_nested]
  exact nested_congr_run (bind_of_ok htarget)

theorem evalEach_quote (h : s.depth .evaluation < depthLimit) (env : Environment)
    (args : List Value) : evalEach .full env (args.map .quote) s = (.ok args, s) := by
  induction args with
  | nil => rfl
  | cons v rest ih =>
    have hfirst : Engine.full.eval (.quote v) env s = (.ok v, s) := eval_of_evalStep_eq_pure h rfl
    rw [List.map_cons, evalEach, bind_of_ok hfirst, bind_of_ok ih]
    rfl

theorem evalNamed_quote (h : s.depth .evaluation < depthLimit) (env : Environment)
    (entries : List (String × Value)) :
    evalNamed .full env (entries.map fun entry => (entry.1, .quote entry.2)) s =
      (.ok entries, s) := by
  induction entries with
  | nil => rfl
  | cons entry rest ih =>
    obtain ⟨name, v⟩ := entry
    have hfirst : Engine.full.eval (.quote v) env s = (.ok v, s) := eval_of_evalStep_eq_pure h rfl
    rw [List.map_cons, evalNamed, bind_of_ok hfirst, bind_of_ok ih]
    rfl

end Quoted

/-! ## Ways of calling -/

/-- Plain functions and definitions can be applied to evaluated arguments. -/
def Value.isApplicable : Value → Bool
  | .function ⟨_, .plain _⟩ | .definition _ => true
  | _ => false

theorem Value.cases_of_isApplicable {v : Value} (h : v.isApplicable = true) :
    (∃ name op, v = .function ⟨name, .plain op⟩) ∨ ∃ d, v = .definition d := by
  unfold Value.isApplicable at h
  split at h
  · exact .inl ⟨_, _, rfl⟩
  · exact .inr ⟨_, rfl⟩
  · cases h

/-- The call of a target on arguments that are quoted. -/
def CallNode.quoting (target : Value) (args : List Value) (kwargs : Keywords Value) :
    CallNode Value :=
  ⟨target, args.map .quote, kwargs.map .quote⟩

/-- The ways of calling a value on given arguments, each with the result pushed on a stack. -/
inductive Call (stack : Stack Value) (args : List Value) (kwargs : Keywords Value) :
    Value → EvalM (Stack Value) → Prop
  /-- Apply the value. -/
  | applied (target : Value) :
      Call stack args kwargs target (pushResult stack (apply target args kwargs))
  /-- Evaluate a call of it on quoted arguments, in any environment. -/
  | evaluated (target : Value) (env : Environment) :
      Call stack args kwargs target
        (pushResult stack (eval (.call (.quoting target args kwargs)) env))
  /-- Push the arguments and the value, and call the top of the stack. -/
  | invoked (target : Value) :
      Call stack args kwargs target
        (fold stack [.list args, .map kwargs, target, Word.invoke.item])
  /-- Fold the combinator made from an operation over the arguments. -/
  | combined (name : String) (op : Operation Value) (combinator : String) :
      Call stack args kwargs (.function ⟨name, .plain op⟩)
        (fold ((stack.push (.list args)).push (.map kwargs))
          [.combinator (.keyword combinator op)])
  /-- Call the definition whose program is this combinator. -/
  | defined (name : String) (op : Operation Value) (combinator : String) :
      Call stack args kwargs (.function ⟨name, .plain op⟩)
        (pushResult stack
          (callDefinition (.ofProgram .packed [.combinator (.keyword combinator op)]) args kwargs))

section Calls

variable {stack : Stack Value} {args : List Value} {kwargs : Keywords Value} {target : Value}
  {env : Environment} {s : State}

theorem evalStep_of_isApplicable (h : target.isApplicable = true) :
    evalStep .full env target = pure target := by
  obtain ⟨_, _, rfl⟩ | ⟨_, rfl⟩ := Value.cases_of_isApplicable h
  · rfl
  · rfl

theorem evalCallOf_of_isApplicable (h : target.isApplicable = true) (node : CallNode Value) :
    evalCallOf .full env target node = applyToArguments .full env target node := by
  obtain ⟨_, _, rfl⟩ | ⟨_, rfl⟩ := Value.cases_of_isApplicable h
  · rfl
  · rfl

/-- A call on quoted arguments applies its target to the arguments. -/
theorem evalCallOf_quoting (htarget : target.isApplicable = true) (hkwargs : kwargs.Distinct)
    (h : s.depth .evaluation < depthLimit) :
    evalCallOf .full env target (.quoting target args kwargs) s = apply target args kwargs s := by
  have hargs : evalEach .full env (CallNode.quoting target args kwargs).positional s =
      (.ok args, s) := evalEach_quote h env args
  have hnamed : evalNamed .full env (CallNode.quoting target args kwargs).named.entries s =
      (.ok kwargs.entries, s) := evalNamed_quote h env kwargs.entries
  rw [evalCallOf_of_isApplicable htarget, applyToArguments, bind_of_ok hargs, bind_of_ok hnamed,
    Keywords.ofList_of_nodup hkwargs]
  rfl

/-- **A call on quoted arguments is the application, one level deeper.**  The arguments are one level
deeper than the call, too, and this level is there because the target was evaluated on it. -/
theorem eval_quoting (htarget : target.isApplicable = true) (hkwargs : kwargs.Distinct)
    (h : WithinLimits (eval (.call (.quoting target args kwargs)) env) s) :
    eval (.call (.quoting target args kwargs)) env s =
      nested .evaluation (apply target args kwargs) s := by
  rw [eval_call_of_evalStep_eq_pure h (evalStep_of_isApplicable htarget)]
  exact nested_congr_run (evalCallOf_quoting htarget hkwargs h.lt_enter_of_call)

theorem stepItem_of_isApplicable (htarget : target.isApplicable = true) (stack : Stack Value) :
    stepItem .full stack target = pure (stack.push target) := by
  refine stepItem_of_data ?_ stack
  obtain ⟨_, _, rfl⟩ | ⟨_, rfl⟩ := Value.cases_of_isApplicable htarget
  · exact fun _ => nofun
  · exact fun _ => nofun

/-- A program that pushes a callable on its arguments and calls it applies it, one level deeper. -/
theorem fold_invoke (htarget : target.isApplicable = true) :
    fold stack [.list args, .map kwargs, target, Word.invoke.item] =
      pushResult stack (nested .folding (apply target args kwargs)) := by
  have hpop : ((((stack.push (.list args)).push (.map kwargs)).push target).pop2) =
      .ok (stack.push (.list args), .map kwargs, target) := Stack.pop2_pushAll _ _ _
  have hinvoke : invoke .full (((stack.push (.list args)).push (.map kwargs)).push target) =
      pushResult stack (apply target args kwargs) := by
    rw [invoke, hpop]
    rfl
  have hitems : foldItems .full stack [.list args, .map kwargs, target, Word.invoke.item] =
      pushResult stack (apply target args kwargs) :=
    calc foldItems .full stack [.list args, .map kwargs, target, Word.invoke.item]
      _ = stepItem .full ((stack.push (.list args)).push (.map kwargs)) target >>= fun stack =>
          foldItems .full stack [Word.invoke.item] := rfl
      _ = foldItems .full (((stack.push (.list args)).push (.map kwargs)).push target)
          [Word.invoke.item] := by rw [stepItem_of_isApplicable htarget, pure_bind]
      _ = invoke .full (((stack.push (.list args)).push (.map kwargs)).push target) :=
        foldItems_singleton _ _ _
      _ = pushResult stack (apply target args kwargs) := hinvoke
  rw [fold_eq_nested, hitems, nested_pushResult]

/-- Folding the combinator made from an operation applies the operation, one level deeper. -/
theorem fold_keyword (name combinator : String) (op : Operation Value) :
    fold ((stack.push (.list args)).push (.map kwargs)) [.combinator (.keyword combinator op)] =
      pushResult stack (nested .folding (apply (.function ⟨name, .plain op⟩) args kwargs)) := by
  have hitem : stepItem .full ((stack.push (.list args)).push (.map kwargs))
        (.combinator (.keyword combinator op)) =
      pushResult stack (apply (.function ⟨name, .plain op⟩) args kwargs) := rfl
  rw [fold_eq_nested, foldItems_singleton, hitem, nested_pushResult]

/-- A definition with this combinator as its program does so too. -/
theorem callDefinition_keyword (name combinator : String) (op : Operation Value) :
    callDefinition (.ofProgram .packed [.combinator (.keyword combinator op)]) args kwargs =
      nested .folding (apply (.function ⟨name, .plain op⟩) args kwargs) := by
  have hfold : Engine.full.fold ((Stack.empty.push (.list args)).push (.map kwargs))
        [.combinator (.keyword combinator op)] =
      pushResult .empty (nested .folding (apply (.function ⟨name, .plain op⟩) args kwargs)) :=
    fold_keyword name combinator op
  calc callDefinition (.ofProgram .packed [.combinator (.keyword combinator op)]) args kwargs
    _ = Engine.full.fold ((Stack.empty.push (.list args)).push (.map kwargs))
          [.combinator (.keyword combinator op)] >>= fun final => ofStack final.peek := rfl
    _ = nested .folding (apply (.function ⟨name, .plain op⟩) args kwargs) := by
      rw [hfold, pushResult, bind_assoc]
      exact bind_pure _

/-- A nested application within the limits is the application. -/
theorem nested_apply {activity : Activity}
    (h : WithinLimits (nested activity (apply target args kwargs)) s) :
    nested activity (apply target args kwargs) s = apply target args kwargs s :=
  nested_eq_self ((Coupling.coupled_ofLevels _).apply (DepthRelation.good _ target)
    (DepthRelation.goodAll _ args) (DepthRelation.goodAll _ _)) h

/-- **Every way of calling is the application with its result pushed**, within the limits. -/
theorem Call.run_eq {a : EvalM (Stack Value)} (ha : Call stack args kwargs target a)
    (htarget : target.isApplicable = true) (hkwargs : kwargs.Distinct) (h : WithinLimits a s) :
    a s = pushResult stack (apply target args kwargs) s := by
  cases ha with
  | applied => rfl
  | evaluated _ env =>
    have heval := eval_quoting htarget hkwargs h.of_pushResult
    have hnested := nested_apply (h.of_pushResult.congr heval)
    exact pushResult_congr (heval.trans hnested)
  | invoked =>
    rw [fold_invoke htarget] at h ⊢
    exact pushResult_congr (nested_apply h.of_pushResult)
  | combined name op combinator =>
    rw [fold_keyword name] at h ⊢
    exact pushResult_congr (nested_apply h.of_pushResult)
  | defined name op combinator =>
    rw [callDefinition_keyword name] at h ⊢
    exact pushResult_congr (nested_apply h.of_pushResult)

/-- **Calls by expressions and calls by programs agree.**  Take a plain function or a definition,
arguments for it, and any two ways of calling it on these arguments.  If both stay within the depth
limits, they return the same result or fail with the same error, and they leave the same state.  A
result is the given stack with one value pushed; where both ways compute a value and push it, the
values are the same before the push. -/
theorem calls_agree {a b : EvalM (Stack Value)} (htarget : target.isApplicable = true)
    (hkwargs : kwargs.Distinct) (ha : Call stack args kwargs target a)
    (hb : Call stack args kwargs target b) (hlimits : WithinLimits a s)
    (hlimits' : WithinLimits b s) :
    a s = b s ∧ (∀ t, (a s).1 = .ok t → ∃ v, t = stack.push v) ∧
      ∀ x y, a = pushResult stack x → b = pushResult stack y → x s = y s := by
  have hrun := ha.run_eq htarget hkwargs hlimits
  have hagree := hrun.trans (hb.run_eq htarget hkwargs hlimits').symm
  refine ⟨hagree, ?_, ?_⟩
  · intro t ht
    rw [hrun, pushResult_run] at ht
    cases hresult : (apply target args kwargs s).1 with
    | error e =>
      rw [hresult] at ht
      cases ht
    | ok v =>
      rw [hresult] at ht
      exact ⟨v, (Except.ok.inj ht).symm⟩
  · rintro x y rfl rfl
    exact eq_of_pushResult_eq hagree

/-- The primitive that builds a call, called by an expression, by a definition and by a program. -/
theorem calls_of_node_agree :
    let kwargs : Keywords Value := .ofList [("k", .bool true)]
    eval (.call (.quoting (Builtin.primitive .node).toValue [.nil] kwargs)) ⟨0⟩ .initial =
        callDefinition (.ofProgram .packed [.combinator (.keyword "node" (.primitive .node))])
          [.nil] kwargs .initial ∧
      fold (.ofList [.nil])
          [.list [.nil], .map kwargs, (Builtin.primitive .node).toValue, Word.invoke.item]
          .initial = (.ok (.ofList [.nil, .call ⟨.nil, [], kwargs⟩]), .initial) := by
  intro kwargs
  have hkwargs : kwargs.Distinct := Keywords.distinct_ofList _
  have heval : eval (.call (.quoting (Builtin.primitive .node).toValue [.nil] kwargs)) ⟨0⟩
      .initial = (.ok (.call ⟨.nil, [], kwargs⟩), .initial) := rfl
  have hexpression : WithinLimits (pushResult (.ofList [.nil])
      (eval (.call (.quoting (Builtin.primitive .node).toValue [.nil] kwargs)) ⟨0⟩)) .initial := by
    intro _ hlimit
    rw [pushResult_run, heval] at hlimit
    cases hlimit
  have hdefinition : WithinLimits (pushResult (.ofList [.nil])
      (callDefinition (.ofProgram .packed [.combinator (.keyword "node" (.primitive .node))])
        [.nil] kwargs)) .initial := by
    intro _ hlimit
    cases hlimit
  have hprogram : WithinLimits (fold (.ofList [.nil])
      [.list [.nil], .map kwargs, (Builtin.primitive .node).toValue, Word.invoke.item])
      .initial := by
    intro _ hlimit
    cases hlimit
  obtain ⟨_, _, hvalues⟩ := calls_agree rfl hkwargs (.evaluated _ ⟨0⟩) (.defined _ _ "node")
    hexpression hdefinition
  obtain ⟨hpushed, _, _⟩ := calls_agree rfl hkwargs (.invoked _) (.evaluated _ ⟨0⟩)
    hprogram hexpression
  refine ⟨hvalues _ _ rfl rfl, ?_⟩
  rw [hpushed, pushResult_run, heval]
  rfl

end Calls

end Homoiconic
