import Homoiconic.Proofs.FormMeanings

/-!
# Evaluating what stands for an expression

An expression can be handed on instead of being evaluated, in two ways.  A call of the form `quote`
returns its argument as it stands.  A call of the primitive `node` on quoted parts builds the call
that has these parts.  The form `eval` evaluates its argument, and the expansion is then evaluated
once more; so it undoes either way.  Evaluating the argument gives the expression back and does
nothing else, and the evaluation of the expansion is the one evaluation of the expression
(`eval_evaluating_of_eval`).

The expression is evaluated deeper than it would be in the place of all this, and the parts that
stand for it need levels of their own.  Where the whole stays within the limits, none of it shows.
-/

namespace Homoiconic

/-! ## Expressions about expressions -/

/-- The call that evaluates what an expression evaluates to. -/
def evaluating (e : Value) : Value := .call (.ofArgs (Builtin.form .evaluate).toValue [e])

/-- The call that returns an expression as it stands. -/
def quotation (x : Value) : Value := .call (.ofArgs (Builtin.form .quote).toValue [x])

/-- The call that builds a call from its target and its arguments, which are quoted. -/
def reification (node : CallNode Value) : Value :=
  .call (.quoting (Builtin.primitive .node).toValue (node.target :: node.positional) node.named)

section Evaluation

variable {e x : Value} {node : CallNode Value} {env : Environment} {s : State}

/-! ## What stands for an expression -/

/-- **A quotation evaluates to the expression in it, and does nothing else.** -/
theorem eval_quotation (h : WithinLimits (eval (quotation x) env) s) :
    eval (quotation x) env s = (.ok x, s) := by
  have hrun : eval (quotation x) env s = flattened env (pure (.quote x)) s :=
    eval_call_eq_flattened .itself rfl h
  rw [hrun, flattened_pure h.lt_of_eval]
  exact eval_of_evalStep_eq_pure h.lt_of_eval rfl

/-- The primitive builds the call whose parts it is given. -/
theorem apply_node (node : CallNode Value) :
    apply (Builtin.primitive .node).toValue (node.target :: node.positional) node.named =
      pure (.call node) := by
  have harity : Primitive.node.arity.accepts (node.target :: node.positional).length = true := by
    simp [Primitive.arity, Arity.accepts, Arity.violated?]
  calc apply (Builtin.primitive .node).toValue (node.target :: node.positional) node.named
    _ = checkArity Primitive.node.arity (node.target :: node.positional).length >>= fun _ =>
        pure (.call node) := rfl
    _ = pure (.call node) := by rw [checkArity_of_accepts harity, pure_bind]

/-- **A reification evaluates to the call it is made from, and does nothing else.** -/
theorem eval_reification (hnode : node.named.Distinct)
    (h : WithinLimits (eval (reification node) env) s) :
    eval (reification node) env s = (.ok (.call node), s) := by
  have hrun : eval (reification node) env s = nested .evaluation (pure (.call node)) s := by
    rw [← apply_node]
    exact eval_quoting rfl hnode h
  rw [hrun]
  exact nested_of_unchanged (h.congr hrun).lt_of_nested rfl

/-! ## Evaluating it -/

/-- The form evaluates its argument and then what this returns. -/
theorem eval_evaluating (h : WithinLimits (eval (evaluating e) env) s) :
    eval (evaluating e) env s = flattened env (eval e env) s :=
  eval_call_eq_flattened .itself rfl h

/-- **Evaluating what stands for an expression evaluates the expression**, within the limits. -/
theorem eval_evaluating_of_eval
    (heval : ∀ s, WithinLimits (eval e env) s → eval e env s = (.ok x, s))
    (h : WithinLimits (eval (evaluating e) env) s) :
    eval (evaluating e) env s = eval x env s := by
  have hrun := eval_evaluating h
  have hargument : WithinLimits (eval e env) s := (h.congr hrun).of_bind
  have hroom : s.depth .evaluation < depthLimit := lt_of_eval_eq_ok (heval s hargument)
  calc eval (evaluating e) env s
    _ = flattened env (eval e env) s := hrun
    _ = flattened env (pure x) s := bind_of_ok (heval s hargument)
    _ = eval x env s := flattened_pure hroom x

/-- **Evaluation undoes quotation and reification.**  Take an environment, a state and an
expression.  Evaluating the evaluation of its quotation is evaluating the expression; and so is, if
the expression is a call, evaluating the evaluation of its reification, which builds the call from
its quoted parts.  If this stays within the depth limits, it returns the same result or fails with
the same error, and it leaves the same state.  In particular the expression is evaluated once, with
its names, its order and its quotes as they are. -/
theorem evaluation_undoes_reification (env : Environment) (s : State) :
    (∀ x, WithinLimits (eval (evaluating (quotation x)) env) s →
      eval (evaluating (quotation x)) env s = eval x env s) ∧
    ∀ node : CallNode Value, node.named.Distinct →
      WithinLimits (eval (evaluating (reification node)) env) s →
        eval (evaluating (reification node)) env s = eval (.call node) env s := by
  constructor
  · intro x h
    exact eval_evaluating_of_eval (fun _ => eval_quotation) h
  · intro node hnode h
    exact eval_evaluating_of_eval (fun _ => eval_reification hnode) h

end Evaluation

/-- A quoted call that generates a symbol generates one, and a call with a named argument is built
with it. -/
theorem undone_reifications :
    let generating : Value := .call (.ofArgs (Builtin.primitive .gensym).toValue [.string "t"])
    let building : CallNode Value := ⟨(Builtin.primitive .node).toValue,
      [.quote (.symbol "f"), .number 1], .ofList [("k", .bool true)]⟩
    (WithinLimits (eval (evaluating (quotation generating)) ⟨0⟩) .initial ∧
      building.named.Distinct ∧
      WithinLimits (eval (evaluating (reification building)) ⟨0⟩) .initial) ∧
    eval (evaluating (quotation generating)) ⟨0⟩ .initial =
      (.ok (.symbol (gensymName "t" 1)), { State.initial with gensyms := 1 }) ∧
    eval (evaluating (reification building)) ⟨0⟩ .initial =
      (.ok (.call ⟨.symbol "f", [.number 1], .ofList [("k", .bool true)]⟩), .initial) := by
  intro generating building
  have hquoted : WithinLimits (eval (evaluating (quotation generating)) ⟨0⟩) .initial := by
    intro _ hlimit
    cases hlimit
  have hdistinct : building.named.Distinct := Keywords.distinct_ofList _
  have hbuilt : WithinLimits (eval (evaluating (reification building)) ⟨0⟩) .initial := by
    intro _ hlimit
    cases hlimit
  obtain ⟨hquotation, hreification⟩ := evaluation_undoes_reification ⟨0⟩ .initial
  refine ⟨⟨hquoted, hdistinct, hbuilt⟩, ?_, ?_⟩
  · rw [hquotation generating hquoted]
    rfl
  · rw [hreification building hdistinct hbuilt]
    rfl

end Homoiconic
