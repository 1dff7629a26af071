import Homoiconic.Evaluation.Forms
import Homoiconic.Proofs.Coupling.Application

/-!
# Expansion is coupled

The rules for expanders: special forms, closures over unevaluated arguments, native expanders.  An
expansion runs in the environment of the call, so besides the values that occur in the arguments the
scope of that environment has to be one that evaluation may run in.

Most forms evaluate some of their arguments in turn; the statements about these loops are by
induction on the arguments, following the recursion of the loop.  Two forms reach further.  A `let`
runs entirely in a child scope, so it needs no permission for the scope of its environment beyond
that it may become a parent (`Coupled.letBody`).  The forms that make closures capture the scope of
their environment, which a coupling has to allow wherever evaluation may run.
-/

namespace Homoiconic

namespace Coupling

variable {C : Coupling} {levels size : Nat} {next next' : Engine} {env : Environment}

/-! ## Choosing what to evaluate -/

theorem Coupled.chooseBranch (h : C.Coupled levels next next') {args : List Value}
    (henv : C.hosts size env.scope) (hargs : C.GoodAll size args) :
    C.Agree levels size C.Good (chooseBranch next env args) (chooseBranch next' env args) := by
  induction args using Homoiconic.chooseBranch.induct generalizing size with
  | case1 => exact Agree.returning Value.within_nil
  | case2 otherwise => exact Agree.returning (hargs otherwise (List.mem_singleton_self _))
  | case3 condition branch rest ih =>
    obtain ⟨hcondition, hbranch, hrest⟩ := by simpa only [List.forall_mem_cons] using hargs
    refine Agree.bind (h.eval hcondition henv) ?_
    intro size' v hsize _
    by_cases hv : v.isTruthy
    · rw [if_pos hv, if_pos hv]
      exact Agree.returning (Good.mono hsize hbranch)
    · rw [if_neg hv, if_neg hv]
      exact ih (C.hosts_mono hsize henv) (GoodAll.mono hsize hrest)

theorem Coupled.shortCircuit (h : C.Coupled levels next next') {decisive : Bool}
    {whenEmpty : Value} {args : List Value} (henv : C.hosts size env.scope)
    (hempty : C.Good size whenEmpty) (hargs : C.GoodAll size args) :
    C.Agree levels size C.Good (shortCircuit next env decisive whenEmpty args)
      (shortCircuit next' env decisive whenEmpty args) := by
  induction args using Homoiconic.shortCircuit.induct generalizing size with
  | case1 => exact Agree.returning hempty
  | case2 last => exact Agree.returning (hargs last (List.mem_singleton_self _))
  | case3 e rest hrest ih =>
    have hsplit := List.forall_mem_cons.mp hargs
    rw [Homoiconic.shortCircuit, Homoiconic.shortCircuit]
    · refine Agree.bind (h.eval hsplit.1 henv) ?_
      intro size' v hsize hv
      by_cases hdecides : v.isTruthy = decisive
      · rw [if_pos hdecides, if_pos hdecides]
        exact Agree.returning (Value.within_protect hv)
      · rw [if_neg hdecides, if_neg hdecides]
        exact ih (C.hosts_mono hsize henv) (hempty.mono hsize) (GoodAll.mono hsize hsplit.2)
    all_goals exact hrest

/-! ## Binding names -/

theorem agree_symbolName (form : String) (v : Value) :
    C.Agree levels size (fun _ _ => True) (symbolName form v) (symbolName form v) := by
  cases v with
  | symbol name => exact Agree.returning trivial
  | _ => exact Couples.failing _

theorem Coupled.assignPairs (h : C.Coupled levels next next') {last : Value} {args : List Value}
    (henv : C.hosts size env.scope) (hlast : C.Good size last) (hargs : C.GoodAll size args) :
    C.Agree levels size C.Good (assignPairs next env last args)
      (assignPairs next' env last args) := by
  induction last, args using Homoiconic.assignPairs.induct generalizing size with
  | case1 last target e rest ih =>
    obtain ⟨_, he, hrest⟩ := by simpa only [List.forall_mem_cons] using hargs
    refine Agree.bind (agree_symbolName _ target) ?_
    intro size₁ name hsize₁ _
    refine Agree.bind (h.eval (Good.mono hsize₁ he) (C.hosts_mono hsize₁ henv)) ?_
    intro size₂ v hsize₂ hv
    have henv₂ : C.hosts size₂ env.scope := C.hosts_mono (Nat.le_trans hsize₁ hsize₂) henv
    refine Agree.bind (agree_assign henv₂ hv name) ?_
    intro size₃ _ hsize₃ _
    exact ih v (C.hosts_mono hsize₃ henv₂) (hv.mono hsize₃)
      (GoodAll.mono (Nat.le_trans (Nat.le_trans hsize₁ hsize₂) hsize₃) hrest)
  | case2 last args hpairs =>
    rw [Homoiconic.assignPairs, Homoiconic.assignPairs]
    · exact Agree.returning hlast
    all_goals exact hpairs

theorem Coupled.bindPairs (h : C.Coupled levels next next') {args : List Value}
    (henv : C.hosts size env.scope) (hargs : C.GoodAll size args) :
    C.Agree levels size (fun _ _ => True) (bindPairs next env args) (bindPairs next' env args) := by
  induction args using Homoiconic.bindPairs.induct generalizing size with
  | case1 target e rest ih =>
    obtain ⟨_, he, hrest⟩ := by simpa only [List.forall_mem_cons] using hargs
    refine Agree.bind (agree_symbolName _ target) ?_
    intro size₁ name hsize₁ _
    refine Agree.bind (h.eval (Good.mono hsize₁ he) (C.hosts_mono hsize₁ henv)) ?_
    intro size₂ v hsize₂ hv
    have henv₂ : C.hosts size₂ env.scope := C.hosts_mono (Nat.le_trans hsize₁ hsize₂) henv
    refine Agree.bind (agree_define henv₂ hv name) ?_
    intro size₃ _ hsize₃ _
    exact ih (C.hosts_mono hsize₃ henv₂)
      (GoodAll.mono (Nat.le_trans (Nat.le_trans hsize₁ hsize₂) hsize₃) hrest)
  | case2 args hpairs =>
    rw [Homoiconic.bindPairs, Homoiconic.bindPairs]
    · exact Agree.returning trivial
    all_goals exact hpairs

/-- **A `let` runs in a child scope.**  The scope of its environment is only captured. -/
theorem Coupled.letBody (h : C.Coupled levels next next') {args : List Value}
    (henv : C.captures size env.scope) (hargs : C.GoodAll size args) :
    C.Agree levels size C.Good (letBody next env args) (letBody next' env args) := by
  unfold Homoiconic.letBody
  split
  · rename_i bindings body
    obtain ⟨hbindings, hbody⟩ := List.forall_mem_cons.mp hargs
    by_cases hpairs : bindings.length % 2 ≠ 0
    · rw [if_pos hpairs, if_pos hpairs]
      exact Couples.failing _
    · rw [if_neg hpairs, if_neg hpairs]
      refine Agree.bind (agree_openScope henv Keywords.distinct_empty fun _ hv => by cases hv)
        fun size₁ scope hsize₁ hscope => ?_
      have hbindings₁ : C.GoodAll size₁ bindings :=
        GoodAll.mono hsize₁ (Value.within_list.mp hbindings)
      refine Agree.bind (h.bindPairs hscope hbindings₁) ?_
      intro size₂ _ hsize₂ _
      refine Agree.bind (h.evalBody (C.hosts_mono hsize₂ hscope) Value.within_nil
        (GoodAll.mono (Nat.le_trans hsize₁ hsize₂) hbody)) fun size₃ v _ hv => ?_
      exact Agree.returning (Value.within_protect hv)
  · exact Couples.failing _
  · exact Couples.failing _

/-! ## Parameter lists -/

/-- Parameter lists with good defaults. -/
abbrev GoodParams (C : Coupling) (size : Nat) (params : Params Value) : Prop :=
  C.GoodAll size (params.optional.map Prod.snd)

theorem agree_claimName (params : Params Value) (name : String) :
    C.Agree levels size (fun _ _ => True) (claimName params name) (claimName params name) := by
  unfold claimName
  split
  · exact Couples.failing _
  · exact Agree.returning trivial

theorem agree_addRequired (form : String) {params : Params Value} (name : String)
    (hparams : C.GoodParams size params) :
    C.Agree levels size C.GoodParams (params.addRequired form name)
      (params.addRequired form name) := by
  unfold Params.addRequired
  split
  · exact Couples.failing _
  · exact Agree.bind (agree_claimName params name) fun _ _ hsize _ =>
      Agree.returning (GoodAll.mono hsize hparams)

theorem agree_addCollector (form : String) {params : Params Value} (marker name : String)
    (hparams : C.GoodParams size params) :
    C.Agree levels size C.GoodParams (params.addCollector form marker name)
      (params.addCollector form marker name) := by
  have hclaim : ∀ params' : Params Value, params'.optional = params.optional →
      C.Agree levels size C.GoodParams (do claimName params name; return params')
        (do claimName params name; return params') := fun params' hoptional =>
    Agree.bind (agree_claimName params name) fun _ _ hsize _ =>
      Agree.returning (GoodAll.mono hsize (by rw [hoptional]; exact hparams))
  unfold Params.addCollector
  split
  · split
    · exact Couples.failing _
    · exact hclaim _ rfl
  · split
    · exact Couples.failing _
    · exact hclaim _ rfl

theorem Coupled.addOptional (h : C.Coupled levels next next') (form : String)
    {params : Params Value} (name : String) {default : Value} (henv : C.hosts size env.scope)
    (hparams : C.GoodParams size params) (hdefault : C.Good size default) :
    C.Agree levels size C.GoodParams
      (params.addOptional (next.eval · env) form name default)
      (params.addOptional (next'.eval · env) form name default) := by
  unfold Params.addOptional
  by_cases hcollects : params.collectsExtras
  · rw [if_pos hcollects, if_pos hcollects]
    exact Couples.failing _
  · rw [if_neg hcollects, if_neg hcollects]
    refine Agree.bind (agree_claimName params name) ?_
    intro size₁ _ hsize₁ _
    refine Agree.bind (h.eval (Good.mono hsize₁ hdefault) (C.hosts_mono hsize₁ henv))
      fun size₂ v hsize₂ hv => Agree.returning ?_
    have hoptional : C.GoodParams size₂ params :=
      GoodAll.mono (Nat.le_trans hsize₁ hsize₂) hparams
    simp only [GoodParams, List.map_append, List.forall_mem_append]
    exact ⟨hoptional, by simpa using hv⟩

/-- **Reading a parameter list is coupled.**  The defaults that are met are evaluated in turn. -/
theorem Coupled.readFrom (h : C.Coupled levels next next') (form : String)
    {params : Params Value} {list : List Value} (henv : C.hosts size env.scope)
    (hparams : C.GoodParams size params) (hlist : C.GoodAll size list) :
    C.Agree levels size C.GoodParams
      (Params.readFrom (next.eval · env) form params list)
      (Params.readFrom (next'.eval · env) form params list) := by
  induction params, list using Params.readFrom.induct generalizing size with
  | case1 params => exact Agree.returning hparams
  | case2 params marker hmarker name rest ih =>
    obtain ⟨_, _, hrest⟩ := by simpa only [List.forall_mem_cons] using hlist
    rw [Params.readFrom, Params.readFrom, if_pos hmarker, if_pos hmarker]
    exact Agree.bind (agree_addCollector form marker name hparams) fun _ params' hsize hparams' =>
      ih params' (C.hosts_mono hsize henv) hparams' (GoodAll.mono hsize hrest)
  | case3 params marker rest hmarker hname =>
    rw [Params.readFrom, Params.readFrom, if_pos hmarker, if_pos hmarker]
    · exact Couples.failing _
    all_goals exact hname
  | case4 params marker rest hmarker ih =>
    have hsplit := List.forall_mem_cons.mp hlist
    unfold Params.readFrom
    simp only [if_neg hmarker]
    exact Agree.bind (agree_addRequired form marker hparams) fun _ params' hsize hparams' =>
      ih params' (C.hosts_mono hsize henv) hparams' (GoodAll.mono hsize hsplit.2)
  | case5 params name default rest ih =>
    obtain ⟨hpair, hrest⟩ := List.forall_mem_cons.mp hlist
    have hdefault : C.Good size default := Value.within_list.mp hpair default (by simp)
    rw [Params.readFrom, Params.readFrom]
    exact Agree.bind (h.addOptional form name henv hparams hdefault) fun _ params' hsize hparams' =>
      ih params' (C.hosts_mono hsize henv) hparams' (GoodAll.mono hsize hrest)
  | case6 params items rest hpair =>
    rw [Params.readFrom, Params.readFrom]
    · exact Couples.failing _
    all_goals exact hpair
  | case7 params v rest hsymbol hpair hlist =>
    rw [Params.readFrom, Params.readFrom]
    · exact Couples.failing _
    all_goals assumption

/-! ## Making closures -/

/-- **Making a closure is coupled**: what it captures is the scope it is made in. -/
theorem Coupled.makeClosure (h : C.Coupled levels next next') (form : String) {args : List Value}
    (henv : C.hosts size env.scope) (hargs : C.GoodAll size args) :
    C.Agree levels size C.GoodClosure (makeClosure next env form args)
      (makeClosure next' env form args) := by
  unfold Homoiconic.makeClosure
  split
  · exact Couples.failing _
  · rename_i params body
    obtain ⟨hparams, hbody⟩ := List.forall_mem_cons.mp hargs
    split
    · exact Couples.failing _
    · refine Agree.bind (h.readFrom form henv (fun _ hv => by cases hv)
        (Value.within_list.mp hparams)) fun size₁ params hsize₁ hoptional => ?_
      refine Agree.bind agree_freshIdentity fun size₂ identity hsize₂ _ => Agree.returning ?_
      refine ⟨C.captures_of_hosts (C.hosts_mono (Nat.le_trans hsize₁ hsize₂) henv), ?_⟩
      exact List.forall_mem_append.mpr ⟨GoodAll.mono hsize₂ hoptional,
        GoodAll.mono (Nat.le_trans hsize₁ hsize₂) hbody⟩
  · exact Couples.failing _

theorem good_functionOf {name : String} {c : Closure Value} (hc : C.GoodClosure size c) :
    C.Good size (functionOf name c) :=
  Value.within_function.mpr fun _ hd => Option.some.inj hd ▸ hc

theorem good_expanderOf {name : String} {c : Closure Value} (hc : C.GoodClosure size c) :
    C.Good size (expanderOf name c) :=
  Value.within_function.mpr fun _ hd => Option.some.inj hd ▸ hc

theorem Coupled.defineClosure (h : C.Coupled levels next next') (form : String)
    {wrap : String → Closure Value → Value} {args : List Value}
    (hwrap : ∀ {size name c}, C.GoodClosure size c → C.Good size (wrap name c))
    (henv : C.hosts size env.scope) (hargs : C.GoodAll size args) :
    C.Agree levels size C.Good (defineClosure next env form wrap args)
      (defineClosure next' env form wrap args) := by
  cases args with
  | nil => exact Couples.failing _
  | cons target rest =>
    have hsplit := List.forall_mem_cons.mp hargs
    refine Agree.bind (agree_symbolName form target) ?_
    intro size₁ name hsize₁ _
    have henv₁ : C.hosts size₁ env.scope := C.hosts_mono hsize₁ henv
    refine Agree.bind (h.makeClosure form henv₁ (GoodAll.mono hsize₁ hsplit.2)) ?_
    intro size₂ c hsize₂ hc
    refine Agree.bind (agree_assign (C.hosts_mono hsize₂ henv₁) (hwrap hc) name)
      fun size₃ _ hsize₃ _ => Agree.returning ?_
    exact Value.within_protect (hwrap (hc.mono hsize₃))

/-! ## Nesting calls -/

theorem good_threadInto (atEnd : Bool) {v step : Value} (hv : C.Good size v)
    (hstep : C.Good size step) : C.Good size (threadInto atEnd v step) := by
  unfold threadInto
  split
  · rename_i node
    obtain ⟨htarget, hpositional, hnamed⟩ := Value.within_call.mp hstep
    refine Value.within_call.mpr ⟨htarget, ?_, hnamed⟩
    cases atEnd with
    | true => exact List.forall_mem_append.mpr ⟨hpositional, by simpa using hv⟩
    | false => exact List.forall_mem_cons.mpr ⟨hv, hpositional⟩
  · exact Value.within_call.mpr ⟨hstep, by simpa [CallNode.ofArgs] using hv, goodAll_empty⟩

theorem agree_threadSteps (atEnd : Bool) {args : List Value} (hargs : C.GoodAll size args) :
    C.Agree levels size C.Good (threadSteps atEnd args) (threadSteps atEnd args) := by
  cases args with
  | nil => exact Couples.failing _
  | cons first steps =>
    obtain ⟨hfirst, hsteps⟩ := List.forall_mem_cons.mp hargs
    refine Agree.returning ?_
    induction steps generalizing first with
    | nil => exact hfirst
    | cons step steps ih =>
      obtain ⟨hstep, hrest⟩ := List.forall_mem_cons.mp hsteps
      have hthreaded := good_threadInto atEnd hfirst hstep
      exact ih (threadInto atEnd first step) (List.forall_mem_cons.mpr ⟨hthreaded, hrest⟩)
        hthreaded hrest

/-! ## Special forms -/

/-- A child of every scope in which evaluation may run is such a scope too, so a `let` is coupled
like any other form. -/
theorem Coupled.transform (h : C.Coupled levels next next') (form : SpecialForm)
    {args : List Value} (henv : C.hosts size env.scope) (hargs : C.GoodAll size args) :
    C.Agree levels size C.Good (form.transform next env args) (form.transform next' env args) := by
  cases form with
  | quote =>
    simp only [SpecialForm.transform]
    split
    · rename_i e
      exact Agree.returning (Value.within_quote.mpr (hargs e (List.mem_singleton_self e)))
    · exact Couples.failing _
  | conditional =>
    simp only [SpecialForm.transform]
    split
    · exact Couples.failing _
    · exact h.chooseBranch henv hargs
  | conjunction => exact h.shortCircuit henv (Value.within_bool true) hargs
  | disjunction => exact h.shortCircuit henv Value.within_nil hargs
  | assign =>
    simp only [SpecialForm.transform]
    split
    · exact Couples.failing _
    · exact Agree.bind (h.assignPairs henv Value.within_nil hargs) fun _ v _ hv =>
        Agree.returning (Value.within_protect hv)
  | lambda =>
    exact Agree.bind (h.makeClosure "lambda" henv hargs) fun _ c _ hc =>
      Agree.returning (good_functionOf hc)
  | expander =>
    exact Agree.bind (h.makeClosure "mac" henv hargs) fun _ c _ hc =>
      Agree.returning (good_expanderOf hc)
  | defineFunction => exact h.defineClosure "defn" good_functionOf henv hargs
  | defineExpander => exact h.defineClosure "defmac" good_expanderOf henv hargs
  | letIn => exact h.letBody (C.captures_of_hosts henv) hargs
  | thread => exact agree_threadSteps false hargs
  | threadTail => exact agree_threadSteps true hargs
  | evaluate =>
    simp only [SpecialForm.transform]
    split
    · rename_i e
      exact h.eval (hargs e (List.mem_singleton_self e)) henv
    · exact Couples.failing _
  | scope =>
    simp only [SpecialForm.transform]
    split
    · refine Agree.bind (agree_visible henv) fun size₁ entries _ hentries => Agree.returning ?_
      exact Value.within_map.mpr fun v hv => hentries v (Keywords.mem_of_mem_values_ofList hv)
    · exact Couples.failing _

/-- The checks before a form is expanded read nothing but the arguments. -/
theorem agree_expandForm {form : SpecialForm} {args : List Value} (kwargs : Keywords Value)
    (htransform : ∀ {size'}, size ≤ size' →
      C.Agree levels size' C.Good (form.transform next env args) (form.transform next' env args)) :
    C.Agree levels size C.Good (form.expand next env args kwargs)
      (form.expand next' env args kwargs) := by
  refine Agree.bind (agree_checkArity form.arity _) ?_
  intro _ _ hsize _
  cases kwargs.firstKey? with
  | some key => exact Couples.failing _
  | none => exact htransform hsize

theorem Coupled.expandForm (h : C.Coupled levels next next') (form : SpecialForm)
    {args : List Value} {kwargs : Keywords Value} (henv : C.hosts size env.scope)
    (hargs : C.GoodAll size args) :
    C.Agree levels size C.Good (form.expand next env args kwargs)
      (form.expand next' env args kwargs) :=
  agree_expandForm kwargs fun hsize =>
    h.transform form (C.hosts_mono hsize henv) (hargs.mono hsize)

/-- Expanding a `let` asks no more of the scope than the `let` itself. -/
theorem Coupled.expandLet (h : C.Coupled levels next next') {args : List Value}
    {kwargs : Keywords Value} (henv : C.captures size env.scope) (hargs : C.GoodAll size args) :
    C.Agree levels size C.Good (SpecialForm.letIn.expand next env args kwargs)
      (SpecialForm.letIn.expand next' env args kwargs) :=
  agree_expandForm kwargs fun hsize =>
    h.letBody (C.captures_mono hsize henv) (hargs.mono hsize)

/-! ## Native expanders -/

theorem Coupled.nativeBinding (h : C.Coupled levels next next')
    {write : ScopeId → String → Value → Heap → Heap} {result : Value → Value} {args : List Value}
    (hwrite : ∀ {size id v}, C.hosts size id → C.Good size v → ∀ name,
      C.Agree levels size (fun _ _ => True) (changeHeap (write id name v))
        (changeHeap (write id name v)))
    (hresult : ∀ {size} name, C.Good size (result (.symbol name)))
    (henv : C.hosts size env.scope) (hargs : C.GoodAll size args) :
    C.Agree levels size C.Good (nativeBinding next env write result args)
      (nativeBinding next' env write result args) := by
  unfold Homoiconic.nativeBinding
  split
  · rename_i name e
    have he : C.Good size e := hargs e (by simp)
    refine Agree.bind (h.eval he henv) ?_
    intro size₁ v hsize₁ hv
    exact Agree.bind (hwrite (C.hosts_mono hsize₁ henv) hv name) fun _ _ _ _ =>
      Agree.returning (hresult name)
  · exact Couples.failing _

theorem Coupled.expandNative (h : C.Coupled levels next next') (native : NativeExpander)
    {args : List Value} {kwargs : Keywords Value} (henv : C.hosts size env.scope)
    (hargs : C.GoodAll size args) (hkwargs : C.GoodAll size kwargs.values) :
    C.Agree levels size C.Good (native.expand next env args kwargs)
      (native.expand next' env args kwargs) := by
  cases native with
  | first => exact Agree.returning (good_head? hargs)
  | quote => exact Agree.returning (Value.within_quote.mpr (good_head? hargs))
  | twice =>
    exact Agree.returning (Value.within_quote.mpr (Value.within_quote.mpr (good_head? hargs)))
  | spy =>
    refine Agree.returning (Value.within_list.mpr ?_)
    simp only [List.forall_mem_cons]
    exact ⟨Value.within_list.mpr hargs, Value.within_map.mpr hkwargs, by simp⟩
  | fail => exact Couples.failing _
  | letLocal =>
    unfold NativeExpander.expand
    exact h.nativeBinding agree_define (fun name => Value.within_symbol name) henv hargs
  | assign =>
    unfold NativeExpander.expand
    exact h.nativeBinding agree_assign (fun _ => Value.within_nil) henv hargs

/-! ## Expanders -/

/-- The expanders that may occur. -/
def GoodExpander (C : Coupling) (size : Nat) (e : Expander Value) : Prop :=
  ∀ c ∈ e.closure?, C.GoodClosure size c

/-- **Expansion is coupled.** -/
theorem Coupled.expand (h : C.Coupled levels next next') {e : Expander Value} {args : List Value}
    {kwargs : Keywords Value} (he : C.GoodExpander size e) (henv : C.hosts size env.scope)
    (hargs : C.GoodAll size args) (hkwargs : C.GoodAll size kwargs.values) :
    C.Agree levels size C.Good (e.expand next env args kwargs)
      (e.expand next' env args kwargs) := by
  cases e with
  | form f => exact h.expandForm f henv hargs
  | closure c => exact h.closureCall (he c rfl) hargs hkwargs
  | native n identity => exact h.expandNative n henv hargs hkwargs

end Coupling

end Homoiconic
