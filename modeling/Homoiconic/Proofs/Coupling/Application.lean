import Homoiconic.Evaluation.Apply
import Homoiconic.Proofs.Bindings
import Homoiconic.Proofs.Coupling.Natives
import Homoiconic.Proofs.Coupling.Stacks

/-!
# Application is coupled

Every rule of the interpreter is written against an engine.  Here the rules for applying callables
are followed once, for two engines that are coupled (`Coupled`): the first run uses the one, the
second run the other.  What the rules do by themselves is the same on both sides, so a rule adds
nothing to a difference between the engines.

The scope of a call is new.  This is why a closure needs no permission for the scope it captures
beyond that it may capture it: its body is evaluated in a child of that scope.
-/

namespace Homoiconic

namespace Coupling

variable {C : Coupling} {levels size : Nat} {next next' : Engine}

/-- Two engines are coupled if their evaluations agree and their folds are coupled over every
bottom of the stack that the coupling allows. -/
structure Coupled (C : Coupling) (levels : Nat) (next next' : Engine) : Prop where
  eval {size : Nat} {e : Value} {env : Environment} (he : C.Good size e)
    (henv : C.hosts size env.scope) :
    C.Agree levels size C.Good (next.eval e env) (next'.eval e env)
  fold {size : Nat} {below : List Value} {s t : Stack Value} {program : List Value}
    (hbelow : C.base below) (hst : C.Above below size s t) (hprogram : C.GoodAll size program) :
    C.Couples levels size (C.Above below) (next.fold s program) (next'.fold t program)

/-- Over one and the same stack, coupled folds agree. -/
theorem Coupled.fold_same (h : C.Coupled levels next next') {s : Stack Value}
    {program : List Value} (hs : C.GoodAll size s.toList) (hprogram : C.GoodAll size program) :
    C.Agree levels size (fun size s => C.GoodAll size s.toList) (next.fold s program)
      (next'.fold s program) :=
  (h.fold C.base_nil (Above.refl hs) hprogram).imp fun _ _ _ _ habove => habove.same

/-! ## Closures -/

theorem Coupled.evalBody (h : C.Coupled levels next next') {env : Environment} {result : Value}
    {body : List Value} (henv : C.hosts size env.scope) (hresult : C.Good size result)
    (hbody : C.GoodAll size body) :
    C.Agree levels size C.Good (evalBody next env result body)
      (evalBody next' env result body) := by
  induction body generalizing size result with
  | nil => exact Agree.returning hresult
  | cons e rest ih =>
    have hsplit := List.forall_mem_cons.mp hbody
    exact Agree.bind (h.eval hsplit.1 henv) fun _ v hsize hv =>
      ih (C.hosts_mono hsize henv) hv (GoodAll.mono hsize hsplit.2)

/-- **Calling a closure is coupled.**  The body runs in a new scope. -/
theorem Coupled.closureCall (h : C.Coupled levels next next') {c : Closure Value}
    {args : List Value} {kwargs : Keywords Value} (hc : C.GoodClosure size c)
    (hargs : C.GoodAll size args) (hkwargs : C.GoodAll size kwargs.values) :
    C.Agree levels size C.Good (c.call next args kwargs) (c.call next' args kwargs) := by
  obtain ⟨hscope, hparts⟩ := hc
  obtain ⟨hoptional, hbody⟩ := List.forall_mem_append.mp hparts
  have hbind : C.Agree levels size (fun size bindings => C.GoodAll size (bindings.map Prod.snd))
      (ofExcept (c.params.bind args kwargs)) (ofExcept (c.params.bind args kwargs)) :=
    Agree.ofExcept fun bindings hbindings =>
      Params.forall_bind (fun _ => Value.within_list.mpr) (fun _ => Value.within_map.mpr)
        hoptional hargs hkwargs hbindings
  refine Agree.bind hbind ?_
  intro size₁ bindings hsize₁ hgood
  have hvalues : C.GoodAll size₁ (Keywords.ofList bindings).values := fun v hv =>
    hgood v (Keywords.mem_of_mem_values_ofList hv)
  refine Agree.bind (agree_openScope (C.captures_mono hsize₁ hscope)
    (Keywords.distinct_ofList bindings) hvalues) ?_
  intro size₂ scope hsize₂ hhosts
  exact h.evalBody hhosts Value.within_nil
    (GoodAll.mono (Nat.le_trans hsize₁ hsize₂) hbody)

/-! ## Operations and functions -/

theorem agree_appendItem {args : List Value} (hargs : C.GoodAll size args) :
    C.Agree levels size C.Good (ofExcept (appendItem args)) (ofExcept (appendItem args)) := by
  refine Agree.ofExcept ?_
  intro v hv
  unfold appendItem at hv
  split at hv
  · rename_i items item
    obtain rfl := Except.ok.inj hv
    have hitems : C.Good size (.list items) := hargs _ (by simp)
    have hitem : C.Good size item := hargs _ (by simp)
    refine Value.within_list.mpr (List.forall_mem_append.mpr ⟨Value.within_list.mp hitems, ?_⟩)
    simpa using hitem
  · cases hv
  · cases hv

theorem Coupled.operationCall (h : C.Coupled levels next next') {op : Operation Value}
    {args : List Value} {kwargs : Keywords Value}
    (hop : ∀ c ∈ op.closure?, C.GoodClosure size c) (hargs : C.GoodAll size args)
    (hkwargs : C.GoodAll size kwargs.values) :
    C.Agree levels size C.Good (op.call next args kwargs) (op.call next' args kwargs) := by
  cases op with
  | primitive p => exact agree_primitive p hargs hkwargs
  | append => exact agree_appendItem hargs
  | closure c => exact h.closureCall (hop c rfl) hargs hkwargs
  | native op identity => exact agree_nativeOperation op hargs hkwargs

theorem Coupled.functionCall (h : C.Coupled levels next next') {f : Function Value}
    {args : List Value} {kwargs : Keywords Value} (hf : C.Good size (.function f))
    (hargs : C.GoodAll size args) (hkwargs : C.GoodAll size kwargs.values) :
    C.Agree levels size C.Good (f.call next args kwargs) (f.call next' args kwargs) := by
  obtain ⟨name, op | e⟩ := f
  · exact h.operationCall (Value.within_function.mp hf) hargs hkwargs
  · exact Couples.failing _

/-! ## Definitions -/

theorem goodAll_initialStack {d : Definition Value} {args : List Value} {kwargs : Keywords Value}
    {stack : Stack Value} (hargs : C.GoodAll size args) (hkwargs : C.GoodAll size kwargs.values)
    (h : d.initialStack args kwargs = .ok stack) : C.GoodAll size stack.toList := by
  unfold Definition.initialStack at h
  split at h
  · cases h
  split at h
  · obtain rfl := Except.ok.inj h
    simp only [Stack.toList_push, Stack.toList_empty, List.nil_append, List.cons_append,
      List.forall_mem_cons]
    exact ⟨Value.within_list.mpr hargs, Value.within_map.mpr hkwargs, by simp⟩
  · split at h
    · cases h
    · obtain rfl := Except.ok.inj h
      rwa [Stack.toList_ofList]

/-- **Calling a definition is coupled.**  Its program is folded over a stack of its own. -/
theorem Coupled.definitionCall (h : C.Coupled levels next next') {d : Definition Value}
    {args : List Value} {kwargs : Keywords Value} (hd : C.Good size (.definition d))
    (hargs : C.GoodAll size args) (hkwargs : C.GoodAll size kwargs.values) :
    C.Agree levels size C.Good (d.call next args kwargs) (d.call next' args kwargs) := by
  have hprogram : C.GoodAll size d.program := Value.within_definition.mp hd
  have hinitial : C.Agree levels size (fun size s => C.GoodAll size s.toList)
      (ofExcept (d.initialStack args kwargs)) (ofExcept (d.initialStack args kwargs)) :=
    Agree.ofExcept fun stack hstack => goodAll_initialStack hargs hkwargs hstack
  refine Agree.bind hinitial ?_
  intro size₁ stack hsize₁ hstack
  refine Agree.bind (h.fold_same hstack (hprogram.mono hsize₁)) ?_
  intro size₂ final _ hfinal
  exact agree_peek C.base_nil (Above.refl hfinal)

/-- **Applying a value is coupled.** -/
theorem Coupled.apply (h : C.Coupled levels next next') {target : Value} {args : List Value}
    {kwargs : Keywords Value} (htarget : C.Good size target) (hargs : C.GoodAll size args)
    (hkwargs : C.GoodAll size kwargs.values) :
    C.Agree levels size C.Good (target.apply next args kwargs)
      (target.apply next' args kwargs) := by
  cases target with
  | function f => exact h.functionCall htarget hargs hkwargs
  | definition d => exact h.definitionCall htarget hargs hkwargs
  | _ => exact Couples.failing _

end Coupling

end Homoiconic
