import Homoiconic.Environment
import Homoiconic.Proofs.Calls
import Homoiconic.Registry

/-!
# Calls, given what their targets evaluate to

A call evaluates its target before anything else, and what it does then depends on what the target
evaluates to.  The statements of this module take an evaluation of the target as given and say what
is left of the call (`eval_call_of_target`).  A target that is a built-in callable, or a symbol that
is bound to one, evaluates to it and does nothing else (`Names.eval_eq`).

## Targets that cannot be called

A value that is neither a function nor a definition cannot be called, and a call of it never
returns.  It is not refused at once, however.  The arguments of the call are evaluated first,
positional ones and then named ones, and only the application finds out (`eval_call_uncallable`).
So the failure that is reported may be that of an argument, and what the arguments do is done.  A
call of such a target fails as not callable, with nothing done after the target, exactly if its
arguments have no effect and fail, if at all, in this way themselves
(`uncallable_refused_at_once_iff`).
-/

namespace Homoiconic

variable {env : Environment} {node : CallNode Value} {target v : Value} {s s₁ : State}

/-! ## Levels -/

/-- An evaluation that returns was not started at the limit. -/
theorem lt_of_eval_eq_ok {e : Value} (h : eval e env s = (.ok v, s₁)) :
    s.depth .evaluation < depthLimit := by
  rw [eval_eq_nested] at h
  obtain ⟨_, hlt, _⟩ := exists_of_nested_eq_ok h
  exact hlt

/-- Where an evaluation has returned, there is as much room as where it was started. -/
theorem lt_after_eval {e : Value} (h : eval e env s = (.ok v, s₁)) :
    s₁.depth .evaluation < depthLimit := by
  have hdepths : (eval e env s).2.depths = s.depths := (eval_ends s 0 .exhausted e env).2
  rw [h] at hdepths
  rw [State.depth_congr hdepths]
  exact lt_of_eval_eq_ok h

/-! ## Targets that name a callable -/

/-- The expressions by which a callable is called: the callable itself, and a symbol that is bound
to it. -/
inductive Names (s : State) (env : Environment) (callable : Value) : Value → Prop
  | itself : Names s env callable callable
  | bound {name : String} (hlookup : s.heap.lookup? env.scope name = some callable) :
      Names s env callable (.symbol name)

theorem evalSymbol_of_lookup {name : String} (hlookup : s.heap.lookup? env.scope name = some v) :
    evalSymbol env name s = (.ok v, s) := by
  have hread : read (fun s => s.heap.lookup? env.scope name) s = (.ok (some v), s) := by
    rw [← hlookup]
    rfl
  exact bind_of_ok hread

/-- **What names a built-in callable evaluates to it and does nothing else.** -/
theorem Names.eval_eq {b : Builtin} (h : Names s env b.toValue target)
    (hroom : s.depth .evaluation < depthLimit) : eval target env s = (.ok b.toValue, s) := by
  cases h with
  | itself =>
    refine eval_of_evalStep_eq_pure hroom ?_
    cases b <;> rfl
  | bound hlookup =>
    rw [eval_eq_nested]
    exact nested_of_unchanged hroom (evalSymbol_of_lookup (by rwa [State.heap_enter]))

/-- What names a callable depends on the scopes alone. -/
theorem Names.congr {callable : Value} {s' : State} (h : Names s env callable target)
    (hheap : s'.heap = s.heap) : Names s' env callable target := by
  cases h with
  | itself => exact .itself
  | bound hlookup => exact .bound (by rwa [hheap])

/-- **A call of a built-in callable, by whatever names it**, evaluates the target and does what the
callable does with the call, both one level deeper. -/
theorem eval_call_of_names {b : Builtin} (htarget : Names s env b.toValue node.target) :
    eval (.call node) env s =
      nested .evaluation (eval node.target env >>= fun _ => evalCallOf .full env b.toValue node)
        s := by
  rw [eval_call_eq_nested]
  refine nested_congr_run (bind_congr_run fun v s₁ hv => ?_)
  have heval : eval node.target env (s.enter .evaluation) = _ :=
    (htarget.congr (s.heap_enter .evaluation)).eval_eq (lt_of_eval_eq_ok hv)
  obtain rfl : b.toValue = v := Except.ok.inj (Prod.mk.inj (heval.symm.trans hv)).1
  rfl

/-- The same where all arguments are positional. -/
theorem eval_ofArgs_of_names {b : Builtin} {args : List Value}
    (htarget : Names s env b.toValue target) :
    eval (.call (.ofArgs target args)) env s =
      nested .evaluation (eval target env >>= fun _ =>
        evalCallOf .full env b.toValue (.ofArgs target args)) s := by
  have hnode : Names s env b.toValue (CallNode.ofArgs target args).target := htarget
  exact eval_call_of_names hnode

/-! ## Evaluating the arguments -/

/-- Evaluate the arguments of a call, the positional ones from left to right and then the named ones
in their order. -/
def evalArguments (env : Environment) (node : CallNode Value) :
    EvalM (List Value × Keywords Value) := do
  let args ← evalEach .full env node.positional
  let entries ← evalNamed .full env node.named.entries
  return (args, .ofList entries)

theorem applyToArguments_eq (env : Environment) (target : Value) (node : CallNode Value) :
    applyToArguments .full env target node =
      evalArguments env node >>= fun given => apply target given.1 given.2 := by
  simp only [applyToArguments, evalArguments, bind_assoc, pure_bind]
  rfl

/-- What is left of a call when its target has been evaluated. -/
theorem eval_call_of_target (htarget : eval node.target env (s.enter .evaluation) = (.ok v, s₁)) :
    eval (.call node) env s = ((evalCallOf .full env v node s₁).1,
      (evalCallOf .full env v node s₁).2.leave .evaluation) := by
  have hdeeper := lt_of_eval_eq_ok htarget
  rw [State.depth_enter_self] at hdeeper
  have hcall : evalCall .full env node (s.enter .evaluation) = evalCallOf .full env v node s₁ :=
    bind_of_ok htarget
  rw [eval_call_eq_nested, nested_of_lt _ (Nat.lt_of_succ_lt hdeeper), hcall]

/-! ## Targets that cannot be called -/

/-- Functions and definitions can be called. -/
def Value.isCallable : Value → Bool
  | .function _ | .definition _ => true
  | _ => false

theorem evalCallOf_uncallable (hv : v.isCallable = false) (env : Environment)
    (node : CallNode Value) :
    evalCallOf .full env v node = evalArguments env node >>= fun _ => fail (.notCallable v) := by
  have hcall : evalCallOf .full env v node = applyToArguments .full env v node := by
    cases v with
    | function f => cases hv
    | _ => rfl
  rw [hcall, applyToArguments_eq]
  cases v with
  | function f => cases hv
  | definition d => cases hv
  | _ => rfl

/-- **A call of what cannot be called evaluates its arguments and then fails.**  If an argument
fails, this is the failure of the call. -/
theorem eval_call_uncallable (hv : v.isCallable = false)
    (htarget : eval node.target env (s.enter .evaluation) = (.ok v, s₁)) :
    eval (.call node) env s =
      ((evalArguments env node s₁).1.bind fun _ => .error (.notCallable v),
        (evalArguments env node s₁).2.leave .evaluation) := by
  rw [eval_call_of_target htarget, evalCallOf_uncallable hv, bind_run]
  generalize evalArguments env node s₁ = run
  obtain ⟨result, s₂⟩ := run
  cases result <;> rfl

/-- A call fails as not callable, and leaves scopes and log as they are in the given state. -/
def RefusedAt (run : Except Error Value × State) (s : State) : Prop :=
  (∃ e, run.1 = .error e ∧ e.category = .notCallable) ∧
    run.2.heap = s.heap ∧ run.2.log = s.log

/-- **When a target that cannot be called is refused at once.**  A call of it ends as if only the
target had been evaluated exactly if the arguments leave scopes and log alone and fail, if one of
them fails, as not callable themselves.  In every case the call evaluates its arguments, and fails
with the failure of an argument if there is one. -/
theorem uncallable_refused_at_once_iff (hv : v.isCallable = false)
    (htarget : eval node.target env (s.enter .evaluation) = (.ok v, s₁)) :
    eval (.call node) env s =
        ((evalArguments env node s₁).1.bind fun _ => .error (.notCallable v),
          (evalArguments env node s₁).2.leave .evaluation) ∧
      (RefusedAt (eval (.call node) env s) s₁ ↔
        (∀ e, (evalArguments env node s₁).1 = .error e → e.category = .notCallable) ∧
          (evalArguments env node s₁).2.heap = s₁.heap ∧
          (evalArguments env node s₁).2.log = s₁.log) := by
  have hrun := eval_call_uncallable hv htarget
  refine ⟨hrun, ?_⟩
  rw [hrun]
  generalize evalArguments env node s₁ = run
  obtain ⟨result, s₂⟩ := run
  refine and_congr ?_ (by rw [State.heap_leave]; rfl)
  cases result with
  | ok given =>
    refine iff_of_true ⟨.notCallable v, rfl, rfl⟩ ?_
    rintro e herror
    cases herror
  | error e =>
    constructor
    · rintro ⟨e', herror, hcategory⟩ e'' herror'
      obtain rfl := Except.error.inj herror'
      obtain rfl := Except.error.inj herror
      exact hcategory
    · intro hcategory
      exact ⟨e, rfl, hcategory e rfl⟩

/-- A number is called on a number, which does nothing, and on a name that is bound nowhere. -/
theorem number_called_on_unbound_name :
    RefusedAt (eval (.call (.ofArgs (.number 1) [.number 2])) ⟨0⟩ .initial) .initial ∧
      (eval (.call (.ofArgs (.number 1) [.symbol "nowhere"])) ⟨0⟩ .initial).1 =
        .error (.unbound "nowhere") := by
  have htarget : ∀ args, eval (CallNode.ofArgs (.number 1) args).target ⟨0⟩
      (State.initial.enter .evaluation) = (.ok (.number 1), State.initial.enter .evaluation) :=
    fun _ => rfl
  obtain ⟨_, hrefused⟩ := uncallable_refused_at_once_iff rfl (htarget [.number 2])
  obtain ⟨hrun, _⟩ := uncallable_refused_at_once_iff rfl (htarget [.symbol "nowhere"])
  constructor
  · refine hrefused.mpr ⟨?_, rfl, rfl⟩
    rintro e herror
    cases herror
  · rw [hrun]
    rfl

/-- **A target that cannot be called is not refused at once.**  The target is a number and evaluates
to itself.  Called on a name that is bound nowhere, it fails with the failure of the argument.
Called on an assignment, it is refused when the assignment has been made. -/
theorem uncallable_not_refused_at_once :
    eval (.number 1) ⟨0⟩ ((Environment.new .initial).2.enter .evaluation) =
        (.ok (.number 1), (Environment.new .initial).2.enter .evaluation) ∧
      (eval (.call (.ofArgs (.number 1) [.symbol "nowhere"])) ⟨0⟩
        (Environment.new .initial).2).1 = .error (.unbound "nowhere") ∧
      (Error.unbound "nowhere").category ≠ .notCallable ∧
      (Environment.new .initial).2.heap.binds 0 "x" = false ∧
      (eval (.call (.ofArgs (.number 1) [.call (.ofArgs (Builtin.form .assign).toValue
          [.symbol "x", .number 2])])) ⟨0⟩ (Environment.new .initial).2).2.heap.binds 0 "x" =
        true := by
  refine ⟨rfl, rfl, by decide, rfl, ?_⟩
  decide +kernel

end Homoiconic
