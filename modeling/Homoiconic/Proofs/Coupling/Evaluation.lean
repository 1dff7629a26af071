import Homoiconic.Evaluation.Eval
import Homoiconic.Proofs.Coupling.Expansion

/-!
# Evaluation is coupled

The rules that evaluate an expression, its parts one level deeper.  With the statements about
application and expansion this closes one half of the interpreter: `Coupled.evalStep` says that if
two engines are coupled, then so are the evaluations that are written against them.
-/

namespace Homoiconic

namespace Coupling

variable {C : Coupling} {levels size : Nat} {next next' : Engine} {env : Environment}

/-! ## Arguments -/

theorem Coupled.evalEach (h : C.Coupled levels next next') {es : List Value}
    (henv : C.hosts size env.scope) (hes : C.GoodAll size es) :
    C.Agree levels size C.GoodAll (evalEach next env es) (evalEach next' env es) := by
  induction es generalizing size with
  | nil => exact Agree.returning fun _ hv => by cases hv
  | cons e rest ih =>
    obtain ⟨he, hrest⟩ := List.forall_mem_cons.mp hes
    refine Agree.bind (h.eval he henv) ?_
    intro size₁ v hsize₁ hv
    refine Agree.bind (ih (C.hosts_mono hsize₁ henv) (GoodAll.mono hsize₁ hrest))
      fun size₂ vs hsize₂ hvs => Agree.returning ?_
    exact List.forall_mem_cons.mpr ⟨hv.mono hsize₂, hvs⟩

theorem Coupled.evalNamed (h : C.Coupled levels next next') {es : List (String × Value)}
    (henv : C.hosts size env.scope) (hes : C.GoodAll size (es.map Prod.snd)) :
    C.Agree levels size (fun size entries => C.GoodAll size (entries.map Prod.snd))
      (evalNamed next env es) (evalNamed next' env es) := by
  induction es generalizing size with
  | nil => exact Agree.returning fun _ hv => by cases hv
  | cons entry rest ih =>
    obtain ⟨name, e⟩ := entry
    obtain ⟨he, hrest⟩ := List.forall_mem_cons.mp hes
    refine Agree.bind (h.eval he henv) ?_
    intro size₁ v hsize₁ hv
    refine Agree.bind (ih (C.hosts_mono hsize₁ henv) (GoodAll.mono hsize₁ hrest))
      fun size₂ entries hsize₂ hentries => Agree.returning ?_
    exact List.forall_mem_cons.mpr ⟨hv.mono hsize₂, hentries⟩

/-! ## Calls -/

theorem Coupled.applyToArguments (h : C.Coupled levels next next') {target : Value}
    {node : CallNode Value} (henv : C.hosts size env.scope) (htarget : C.Good size target)
    (hpositional : C.GoodAll size node.positional) (hnamed : C.GoodAll size node.named.values) :
    C.Agree levels size C.Good (applyToArguments next env target node)
      (applyToArguments next' env target node) := by
  refine Agree.bind (h.evalEach henv hpositional) ?_
  intro size₁ args hsize₁ hargs
  refine Agree.bind (h.evalNamed (C.hosts_mono hsize₁ henv) (GoodAll.mono hsize₁ hnamed)) ?_
  intro size₂ entries hsize₂ hentries
  have hkwargs : C.GoodAll size₂ (Keywords.ofList entries).values := fun v hv =>
    hentries v (Keywords.mem_of_mem_values_ofList hv)
  exact h.apply (htarget.mono (Nat.le_trans hsize₁ hsize₂)) (hargs.mono hsize₂) hkwargs

theorem Coupled.evalExpansion (h : C.Coupled levels next next') {e : Expander Value}
    {node : CallNode Value} (henv : C.hosts size env.scope) (he : C.GoodExpander size e)
    (hpositional : C.GoodAll size node.positional) (hnamed : C.GoodAll size node.named.values) :
    C.Agree levels size C.Good (evalExpansion next env e node)
      (evalExpansion next' env e node) := by
  refine Agree.bind (h.expand he henv hpositional hnamed) ?_
  intro size₁ expansion hsize₁ hgood
  by_cases hevaluable : expansion.isEvaluable
  · rw [if_pos hevaluable, if_pos hevaluable]
    exact h.eval hgood (C.hosts_mono hsize₁ henv)
  · rw [if_neg hevaluable, if_neg hevaluable]
    exact Agree.returning hgood

theorem Coupled.evalCallOf (h : C.Coupled levels next next') {target : Value}
    {node : CallNode Value} (henv : C.hosts size env.scope) (htarget : C.Good size target)
    (hpositional : C.GoodAll size node.positional) (hnamed : C.GoodAll size node.named.values) :
    C.Agree levels size C.Good (evalCallOf next env target node)
      (evalCallOf next' env target node) := by
  unfold Homoiconic.evalCallOf
  split
  · exact h.evalExpansion henv (Value.within_function.mp htarget) hpositional hnamed
  · exact h.applyToArguments henv htarget hpositional hnamed

theorem Coupled.evalCall (h : C.Coupled levels next next') {node : CallNode Value}
    (henv : C.hosts size env.scope) (hnode : C.Good size (.call node)) :
    C.Agree levels size C.Good (evalCall next env node) (evalCall next' env node) := by
  obtain ⟨htarget, hpositional, hnamed⟩ := Value.within_call.mp hnode
  exact Agree.bind (h.eval htarget henv) fun _ target hsize hgood =>
    h.evalCallOf (C.hosts_mono hsize henv) hgood (GoodAll.mono hsize hpositional)
      (GoodAll.mono hsize hnamed)

/-! ## Expressions -/

theorem agree_evalSymbol {name : String} (henv : C.hosts size env.scope) :
    C.Agree levels size C.Good (evalSymbol env name) (evalSymbol env name) := by
  refine Agree.bind (agree_lookup henv name) ?_
  intro size₁ found _ hfound
  cases found with
  | none => exact Couples.failing _
  | some v => exact Agree.returning (hfound v rfl)

/-- **Evaluation is coupled.** -/
theorem Coupled.evalStep (h : C.Coupled levels next next') {e : Value}
    (henv : C.hosts size env.scope) (he : C.Good size e) :
    C.Agree levels size C.Good (evalStep next env e) (evalStep next' env e) := by
  cases e with
  | symbol name => exact agree_evalSymbol henv
  | quote inner => exact Agree.returning (Value.within_quote.mp he)
  | call node => exact h.evalCall henv he
  | _ => exact Agree.returning he

end Coupling

end Homoiconic
