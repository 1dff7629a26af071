import Homoiconic.Proofs.FormMeanings
import Mathlib.Data.List.Forall2

/-!
# Threading is composition

The threading forms rewrite their arguments.  They nest the steps in one another, so that what comes
first stands innermost, and the expression that results is evaluated in place of the call.  It is
evaluated from the outside: the call for the last step is entered first, and the first argument is
reached at the bottom of all of them.

If the steps are calls of plain functions and definitions on quoted arguments, nothing happens on
the way down.  Targets and quoted arguments evaluate to what they stand for and change nothing, so
each call does what it is given for the value that is threaded and then applies its target
(`eval_call_around`).  Read from the bottom up, the nested calls are a composition from left to
right: the first argument is evaluated, once, and each step is applied to what comes out of the
steps before it (`threading_composes`).

The nested calls need a level each, while the composition applies every step on the level of the
call.  So the two agree as long as the threaded call stays within the depth limits.
-/

namespace Homoiconic

/-! ## Stages -/

/-- A call that waits for one more positional argument: a plain function or a definition, and the
arguments that it is given besides. -/
structure Stage where
  target : Value
  args : List Value
  kwargs : Keywords Value
  applicable : target.isApplicable = true
  distinct : kwargs.Distinct

namespace Stage

/-- How a stage is written as a step: as a call with its arguments quoted or, if it has none, as the
bare callable. -/
inductive Written : Stage → Value → Prop
  | call (stage : Stage) :
      Written stage (.call (.quoting stage.target stage.args stage.kwargs))
  | bare {target : Value} (applicable : target.isApplicable = true) :
      Written ⟨target, [], .empty, applicable, Keywords.distinct_empty⟩ target

/-- The arguments in front of the one that is threaded. -/
def before (stage : Stage) (atEnd : Bool) : List Value := if atEnd then stage.args else []

/-- The arguments after the one that is threaded. -/
def after (stage : Stage) (atEnd : Bool) : List Value := if atEnd then [] else stage.args

/-- Apply the callable with a value among the arguments. -/
def run (stage : Stage) (atEnd : Bool) (v : Value) : EvalM Value :=
  apply stage.target (stage.before atEnd ++ v :: stage.after atEnd) stage.kwargs

/-- The call of the stage on an expression. -/
def callAround (stage : Stage) (atEnd : Bool) (e : Value) : CallNode Value :=
  ⟨stage.target, (stage.before atEnd).map .quote ++ e :: (stage.after atEnd).map .quote,
    stage.kwargs.map .quote⟩

theorem threadInto_written {stage : Stage} {step : Value} (hstep : stage.Written step)
    (atEnd : Bool) (e : Value) : threadInto atEnd e step = .call (stage.callAround atEnd e) := by
  cases hstep with
  | call =>
    cases atEnd with
    | false => rfl
    | true => simp [threadInto, callAround, before, after, CallNode.quoting]
  | bare happlicable =>
    obtain ⟨_, _, rfl⟩ | ⟨_, rfl⟩ := Value.cases_of_isApplicable happlicable
    · cases atEnd <;> rfl
    · cases atEnd <;> rfl

end Stage

/-! ## One step -/

section Evaluation

variable {env : Environment} {s : State} {stage : Stage} {atEnd : Bool} {e : Value}

/-- Among quoted arguments, only the one that is not quoted does anything. -/
theorem evalEach_around (hroom : s.depth .evaluation < depthLimit) (env : Environment)
    (before : List Value) (e : Value) (after : List Value) :
    evalEach .full env (before.map .quote ++ e :: after.map .quote) s =
      (eval e env >>= fun v => pure (before ++ v :: after)) s := by
  induction before with
  | nil =>
    refine bind_congr_run fun v s₁ hv => ?_
    rw [bind_of_ok (evalEach_quote (lt_after_eval hv) env after)]
    rfl
  | cons first rest ih =>
    have hfirst : Engine.full.eval (.quote first) env s = (.ok first, s) :=
      eval_of_evalStep_eq_pure hroom rfl
    rw [List.map_cons, List.cons_append, evalEach, bind_of_ok hfirst, bind_congr_first ih,
      bind_assoc]
    rfl

/-- A stage is called on an expression by evaluating the expression and applying the callable. -/
theorem evalCallOf_around (hroom : s.depth .evaluation < depthLimit) :
    evalCallOf .full env stage.target (stage.callAround atEnd e) s =
      (eval e env >>= stage.run atEnd) s := by
  have hargs : evalEach .full env (stage.callAround atEnd e).positional s =
      (eval e env >>= fun v => pure (stage.before atEnd ++ v :: stage.after atEnd)) s :=
    evalEach_around hroom env (stage.before atEnd) e (stage.after atEnd)
  rw [evalCallOf_of_isApplicable stage.applicable, applyToArguments, bind_congr_first hargs,
    bind_assoc]
  refine bind_congr_run fun v s₁ hv => ?_
  have hnamed : evalNamed .full env (stage.callAround atEnd e).named.entries s₁ =
      (.ok stage.kwargs.entries, s₁) := evalNamed_quote (lt_after_eval hv) env _
  rw [pure_bind, bind_of_ok hnamed, Keywords.ofList_of_nodup stage.distinct]
  rfl

/-- **One step**: within the limits, the call of a stage on an expression evaluates the expression
and then applies the callable to its value. -/
theorem eval_call_around (h : WithinLimits (eval (.call (stage.callAround atEnd e)) env) s) :
    eval (.call (stage.callAround atEnd e)) env s = (eval e env >>= stage.run atEnd) s := by
  have hrun : eval (.call (stage.callAround atEnd e)) env s =
      nested .evaluation (eval e env >>= stage.run atEnd) s := by
    rw [eval_call_of_evalStep_eq_pure h (evalStep_of_isApplicable stage.applicable)]
    exact nested_congr_run (evalCallOf_around h.lt_enter_of_call)
  have hcoupled := DepthRelation.shallower.coupling.coupled_self
  have hagree : DepthRelation.shallower.coupling.Agree (2 * depthLimit) s.heap.size
      DepthRelation.shallower.coupling.Good (eval e env >>= stage.run atEnd)
      (eval e env >>= stage.run atEnd) :=
    Coupling.Agree.bind (hcoupled.eval (DepthRelation.good _ e) trivial) fun _ v _ _ =>
      hcoupled.apply (DepthRelation.good _ _) (DepthRelation.goodAll _ _)
        (DepthRelation.goodAll _ _)
  exact hrun.trans (nested_eq_self hagree (h.congr hrun))

/-! ## All steps -/

/-- **Nested calls compose**, by induction on the steps: each of them is evaluated by evaluating what
is nested in it and applying its stage. -/
theorem eval_nested_steps {stages : List Stage} {steps : List Value}
    (hsteps : List.Forall₂ Stage.Written stages steps)
    (h : WithinLimits (eval (steps.foldl (threadInto atEnd) e) env) s) :
    eval (steps.foldl (threadInto atEnd) e) env s =
      (eval e env >>= fun v => stages.foldlM (fun v stage => stage.run atEnd v) v) s := by
  induction hsteps generalizing e with
  | nil => exact (congrFun (bind_pure (eval e env)) s).symm
  | @cons stage step stages steps hstep _ ih =>
    rw [List.foldl_cons, Stage.threadInto_written hstep] at h ⊢
    have hrest := ih h
    have hfirst := eval_call_around (h.congr hrest).of_bind
    rw [hrest, bind_congr_first hfirst, bind_assoc]
    simp only [List.foldlM_cons]

/-- The expansion of a threading form is evaluated on the level of the call. -/
theorem eval_threading {form : SpecialForm} {args : List Value} {target expansion : Value}
    (htarget : Names s env (Builtin.form form).toValue target)
    (harity : form.arity.accepts args.length = true)
    (hexpansion : form.transform .full env args = pure expansion)
    (h : WithinLimits (eval (.call (.ofArgs target args)) env) s) :
    eval (.call (.ofArgs target args)) env s = eval expansion env s := by
  have hrun := eval_call_eq_flattened htarget harity h
  rw [hexpansion] at hrun
  exact hrun.trans (flattened_pure h.lt_of_eval expansion)

/-- **Threading is composition from left to right.**  Take an environment, a state, an expression,
and steps that are calls of plain functions and definitions on quoted arguments, or such callables
alone.  If evaluating the call that threads the expression through the steps stays within the depth
limits, it evaluates the expression, once, and then applies the callable of each step in order, to
the value so far and the arguments of the step: it returns the same result or stops with the same
error, and leaves the same state.  The value comes before the positional arguments of the step, or
after them, by the form. -/
theorem threading_composes (env : Environment) (s : State) (e : Value) {stages : List Stage}
    {steps : List Value} (hsteps : List.Forall₂ Stage.Written stages steps) :
    (∀ target, Names s env (Builtin.form .thread).toValue target →
      WithinLimits (eval (.call (.ofArgs target (e :: steps))) env) s →
        eval (.call (.ofArgs target (e :: steps))) env s =
          (eval e env >>= fun v => stages.foldlM
            (fun v stage => apply stage.target (v :: stage.args) stage.kwargs) v) s) ∧
    ∀ target, Names s env (Builtin.form .threadTail).toValue target →
      WithinLimits (eval (.call (.ofArgs target (e :: steps))) env) s →
        eval (.call (.ofArgs target (e :: steps))) env s =
          (eval e env >>= fun v => stages.foldlM
            (fun v stage => apply stage.target (stage.args ++ [v]) stage.kwargs) v) s := by
  constructor
  · intro target htarget h
    have hrun := eval_threading htarget rfl rfl h
    rw [hrun, eval_nested_steps hsteps (h.congr hrun)]
    rfl
  · intro target htarget h
    have hrun := eval_threading htarget rfl rfl h
    rw [hrun, eval_nested_steps hsteps (h.congr hrun)]
    rfl

end Evaluation

/-- A generated symbol is threaded through a call that lists it with a quoted symbol, and through a
bare callable; once as the first argument, by the form itself, and once as the last, by a name that
is bound to the form. -/
theorem threading_through_listing :
    let list : Stage := ⟨(Builtin.primitive .list).toValue, [.symbol "a"], .empty, rfl,
      Keywords.distinct_empty⟩
    let wrap : Stage := ⟨(Builtin.primitive .list).toValue, [], .empty, rfl,
      Keywords.distinct_empty⟩
    let e : Value := .call (.ofArgs (Builtin.primitive .gensym).toValue [.string "t"])
    let steps : List Value :=
      [.call (.quoting list.target list.args list.kwargs), (Builtin.primitive .list).toValue]
    let s : State := { State.initial with
      heap := ⟨#[⟨.ofList [("tail", (Builtin.form .threadTail).toValue)], none⟩]⟩ }
    (List.Forall₂ Stage.Written [list, wrap] steps ∧
      Names s ⟨0⟩ (Builtin.form .thread).toValue (Builtin.form .thread).toValue ∧
      WithinLimits (eval (.call (.ofArgs (Builtin.form .thread).toValue (e :: steps))) ⟨0⟩) s ∧
      Names s ⟨0⟩ (Builtin.form .threadTail).toValue (.symbol "tail") ∧
      WithinLimits (eval (.call (.ofArgs (.symbol "tail") (e :: steps))) ⟨0⟩) s) ∧
    eval (.call (.ofArgs (Builtin.form .thread).toValue (e :: steps))) ⟨0⟩ s =
      (.ok (.list [.list [.symbol (gensymName "t" 1), .symbol "a"]]), { s with gensyms := 1 }) ∧
    eval (.call (.ofArgs (.symbol "tail") (e :: steps))) ⟨0⟩ s =
      (.ok (.list [.list [.symbol "a", .symbol (gensymName "t" 1)]]), { s with gensyms := 1 }) := by
  intro list wrap e steps s
  have hsteps : List.Forall₂ Stage.Written [list, wrap] steps :=
    .cons (.call list) (.cons (.bare rfl) .nil)
  have hfirst : WithinLimits
      (eval (.call (.ofArgs (Builtin.form .thread).toValue (e :: steps))) ⟨0⟩) s := by
    intro _ hlimit
    cases hlimit
  have htail : Names s ⟨0⟩ (Builtin.form .threadTail).toValue (.symbol "tail") := .bound rfl
  have hlast : WithinLimits (eval (.call (.ofArgs (.symbol "tail") (e :: steps))) ⟨0⟩) s := by
    intro _ hlimit
    cases hlimit
  obtain ⟨hthread, hthreadTail⟩ := threading_composes ⟨0⟩ s e hsteps
  refine ⟨⟨hsteps, .itself, hfirst, htail, hlast⟩, ?_, ?_⟩
  · rw [hthread _ .itself hfirst]
    rfl
  · rw [hthreadTail _ htail hlast]
    rfl

end Homoiconic
