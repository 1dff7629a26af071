import Homoiconic.Folding.Library
import Homoiconic.Proofs.Coupling.Depths
import Homoiconic.Registry

/-!
# What the depth limits can do to a run

A run counts how deep its two activities are nested, and fails when a limit is reached.  The counts
serve no other purpose.  So two runs that differ only in the depths at which they start go through
the same steps until one of them meets a limit, and it is the deeper one that does.  If it does not,
or if it does and the failure does not matter, the other run does the same at its own depths.

There is no rule by which a run could recover from the failure.  This is what makes the statement
about all runs, and not only about those that stay away from the limits inside: a run that ends in
anything but the failure has not met a limit anywhere.

The relation of depths behind this (`DepthRelation.shallower`) has the second run at lower depths
and forgives the first run its failure at a limit.
-/

namespace Homoiconic

/-- The second run is at lower depths, and the first one is forgiven if it meets a limit. -/
def DepthRelation.shallower : DepthRelation where
  rel _ s t := ∀ activity, t.depth activity ≤ s.depth activity
  forgives e := ∃ activity, e = .tooDeep activity
  congr := by
    intro _ s t s' t' hle hs ht activity
    rw [State.depth_congr hs, State.depth_congr ht]
    exact hle activity
  limit {_ _ _ activity} _ _ := Or.inl ⟨activity, rfl⟩
  room {_ _ _ activity} hle hroom := Nat.lt_of_le_of_lt (hle activity) hroom
  enter := by
    intro _ s t activity hle _ other
    rw [State.depth_enter, State.depth_enter]
    exact Nat.add_le_add_right (hle other) _
  leave := by
    intro _ s t activity hle other
    rw [State.depth_leave, State.depth_leave]
    exact Nat.sub_le_sub_right (hle other) _

section Runs

variable {α : Type} {s : State} {e f levels : Nat}

theorem rel_atDepths (he : e ≤ s.evaluationDepth) (hf : f ≤ s.foldingDepth) :
    DepthRelation.shallower.coupling.rel levels s (s.atDepths e f) := by
  refine ⟨⟨e, f, rfl⟩, fun activity => ?_⟩
  cases activity with
  | evaluation => exact he
  | folding => exact hf

/-- An action that is coupled with itself and does not meet a limit does the same from lower
depths. -/
theorem run_atDepths (he : e ≤ s.evaluationDepth) (hf : f ≤ s.foldingDepth)
    {kind : Nat → α → Prop} {a : EvalM α}
    (ha : DepthRelation.shallower.coupling.Agree levels s.heap.size kind a a)
    (hlimit : ∀ activity, (a s).1 ≠ .error (.tooDeep activity)) :
    a (s.atDepths e f) = ((a s).1, (a s).2.atDepths e f) := by
  refine (DepthRelation.eq_of_ends (ha (rel_atDepths he hf) (Nat.le_refl _)) ?_).1
  rintro _ herror ⟨activity, rfl⟩
  exact hlimit activity herror

/-! ## Entry points -/

theorem eval_atDepths (he : e ≤ s.evaluationDepth) (hf : f ≤ s.foldingDepth) (expr : Value)
    (env : Environment)
    (hlimit : ∀ activity, (eval expr env s).1 ≠ .error (.tooDeep activity)) :
    eval expr env (s.atDepths e f) =
      ((eval expr env s).1, (eval expr env s).2.atDepths e f) :=
  run_atDepths he hf ((Coupling.coupled_ofLevels _).eval (DepthRelation.good _ expr) trivial) hlimit

theorem apply_atDepths (he : e ≤ s.evaluationDepth) (hf : f ≤ s.foldingDepth) (target : Value)
    (args : List Value) (kwargs : Keywords Value)
    (hlimit : ∀ activity, (apply target args kwargs s).1 ≠ .error (.tooDeep activity)) :
    apply target args kwargs (s.atDepths e f) =
      ((apply target args kwargs s).1, (apply target args kwargs s).2.atDepths e f) :=
  run_atDepths he hf ((Coupling.coupled_ofLevels _).apply (DepthRelation.good _ target)
    (DepthRelation.goodAll _ args) (DepthRelation.goodAll _ _)) hlimit

theorem fold_atDepths (he : e ≤ s.evaluationDepth) (hf : f ≤ s.foldingDepth)
    (stack : Stack Value) (program : List Value)
    (hlimit : ∀ activity, (fold stack program s).1 ≠ .error (.tooDeep activity)) :
    fold stack program (s.atDepths e f) =
      ((fold stack program s).1, (fold stack program s).2.atDepths e f) :=
  run_atDepths he hf ((Coupling.coupled_ofLevels _).fold_same (DepthRelation.goodAll _ _)
    (DepthRelation.goodAll _ program)) hlimit

theorem callDefinition_atDepths (he : e ≤ s.evaluationDepth) (hf : f ≤ s.foldingDepth)
    (d : Definition Value) (args : List Value) (kwargs : Keywords Value)
    (hlimit : ∀ activity, (callDefinition d args kwargs s).1 ≠ .error (.tooDeep activity)) :
    callDefinition d args kwargs (s.atDepths e f) =
      ((callDefinition d args kwargs s).1, (callDefinition d args kwargs s).2.atDepths e f) :=
  run_atDepths he hf ((Coupling.coupled_ofLevels _).definitionCall
    (DepthRelation.good _ (.definition d)) (DepthRelation.goodAll _ args)
    (DepthRelation.goodAll _ _)) hlimit

/-- A traced fold also writes the same lines. -/
theorem trace_atDepths (he : e ≤ s.evaluationDepth) (hf : f ≤ s.foldingDepth)
    (stack : Stack Value) (program : List Value) (sink : Sink)
    (hlimit : ∀ activity, (trace stack program sink s).1.1 ≠ .error (.tooDeep activity)) :
    trace stack program sink (s.atDepths e f) =
      ((trace stack program sink s).1, (trace stack program sink s).2.atDepths e f) := by
  have hends : DepthRelation.shallower.coupling.TraceEnds _ s.heap.size s (s.atDepths e f)
      (trace stack program sink s) (trace stack program sink (s.atDepths e f)) :=
    (Coupling.coupled_ofLevels _).trace (DepthRelation.goodAll _ program)
      (DepthRelation.goodAll _ _) sink (rel_atDepths he hf) (Nat.le_refl _)
  refine (DepthRelation.eq_of_traceEnds hends ?_).1
  rintro _ herror ⟨activity, rfl⟩
  exact hlimit activity herror

/-! ## All entry points -/

/-- **The depth limits only ever turn a result into the failure at a limit.**  A run that ends in
anything else ends in the same result from any lower depths, and in the same state but for the
depths, which are those at which it started. -/
theorem runs_agree_from_lower_depths (he : e ≤ s.evaluationDepth) (hf : f ≤ s.foldingDepth) :
    (∀ expr env, (∀ activity, (eval expr env s).1 ≠ .error (.tooDeep activity)) →
      eval expr env (s.atDepths e f) =
        ((eval expr env s).1, (eval expr env s).2.atDepths e f)) ∧
    (∀ target args kwargs,
      (∀ activity, (apply target args kwargs s).1 ≠ .error (.tooDeep activity)) →
        apply target args kwargs (s.atDepths e f) =
          ((apply target args kwargs s).1, (apply target args kwargs s).2.atDepths e f)) ∧
    (∀ stack program, (∀ activity, (fold stack program s).1 ≠ .error (.tooDeep activity)) →
      fold stack program (s.atDepths e f) =
        ((fold stack program s).1, (fold stack program s).2.atDepths e f)) ∧
    (∀ stack program sink,
      (∀ activity, (trace stack program sink s).1.1 ≠ .error (.tooDeep activity)) →
        trace stack program sink (s.atDepths e f) =
          ((trace stack program sink s).1, (trace stack program sink s).2.atDepths e f)) ∧
    ∀ d args kwargs,
      (∀ activity, (callDefinition d args kwargs s).1 ≠ .error (.tooDeep activity)) →
        callDefinition d args kwargs (s.atDepths e f) =
          ((callDefinition d args kwargs s).1, (callDefinition d args kwargs s).2.atDepths e f) :=
  ⟨eval_atDepths he hf, apply_atDepths he hf, fold_atDepths he hf, trace_atDepths he hf,
    callDefinition_atDepths he hf⟩

/-- Runs that start at depths three and two, and what follows for depths one and zero. -/
theorem runs_agree_from_depths_one_and_zero :
    (1 ≤ (State.initial.atDepths 3 2).evaluationDepth ∧
      0 ≤ (State.initial.atDepths 3 2).foldingDepth) ∧
    eval (.call (.ofArgs (Builtin.primitive .add).toValue [.number 1, .number 2])) ⟨0⟩
        (State.initial.atDepths 1 0) = (.ok (.number 3), State.initial.atDepths 1 0) ∧
    apply (Builtin.primitive .add).toValue [.number 1, .number 2] .empty
        (State.initial.atDepths 1 0) = (.ok (.number 3), State.initial.atDepths 1 0) ∧
    fold (.ofList [.number 1]) [Word.dup.item] (State.initial.atDepths 1 0) =
      (.ok (.ofList [.number 1, .number 1]), State.initial.atDepths 1 0) ∧
    (trace (.ofList [.number 1]) [Word.dup.item] (.withRoom none)
        (State.initial.atDepths 1 0)).1.1 = .ok (.ofList [.number 1, .number 1]) ∧
    callDefinition (.ofProgram .spread [Word.dup.item]) [.number 1, .number 2] .empty
        (State.initial.atDepths 1 0) = (.ok (.number 2), State.initial.atDepths 1 0) := by
  have he : 1 ≤ (State.initial.atDepths 3 2).evaluationDepth := by decide
  have hf : 0 ≤ (State.initial.atDepths 3 2).foldingDepth := Nat.zero_le _
  obtain ⟨heval, happly, hfold, htrace, hcall⟩ := runs_agree_from_lower_depths he hf
  refine ⟨⟨he, hf⟩, heval _ _ fun _ => ?_, happly _ _ _ fun _ => ?_, hfold _ _ fun _ => ?_,
    congrArg (fun run => run.1.1) (htrace _ _ _ fun _ => ?_), hcall _ _ _ fun _ => ?_⟩ <;>
  · intro hlimit
    cases hlimit

end Runs

end Homoiconic
