import Homoiconic.Proofs.Coupling.HeapInvariant
import Homoiconic.Registry

/-!
# Which scopes a run adds names to

Scopes are shared: a closure captures the scope it is made in, and every call of it runs in a child
of that scope, from wherever it is called.  A run can therefore reach scopes that its caller knows
nothing about.  What it does to them is limited.  Assigning changes the value of a name where the
name is bound already; a name that is not bound anywhere along the chain is bound in the scope in
which the run evaluates.  So a scope that was there before a run can get new names only if the run
was told to evaluate in it (`eval_extends`), and calling a closure, folding a program or evaluating
a `let` tells it nothing of the kind.

`Heap.Extends growing h h'` is the frame condition.  It is an invariant of runs in the sense of
`Coupling`: a run is related to itself, and the scopes in which evaluation is allowed are the
`growing` ones and those that are made on the way.
-/

namespace Homoiconic

namespace Heap

/-- Every scope of the first heap is in the second one, with the same parent and all the names it
binds; only a `growing` scope may bind other names too. -/
structure Extends (growing : ScopeId → Prop) (h h' : Heap) : Prop where
  /-- Scopes do not go away. -/
  size_le : h.size ≤ h'.size
  /-- Parents stay. -/
  parent {id : ScopeId} : id < h.size → h'.parent? id = h.parent? id
  /-- No scope loses a name. -/
  kept {id : ScopeId} {name : String} : h.binds id name → h'.binds id name
  /-- A scope that does not grow binds the names it bound. -/
  names {id : ScopeId} : id < h.size → ¬ growing id → ∀ name, h'.binds id name = h.binds id name

namespace Extends

variable {growing : ScopeId → Prop} {h h' h'' : Heap}

theorem refl (h : Heap) : h.Extends growing h :=
  ⟨Nat.le_refl _, fun _ => rfl, fun hbinds => hbinds, fun _ _ _ => rfl⟩

theorem trans (h₁ : h.Extends growing h') (h₂ : h'.Extends growing h'') :
    h.Extends growing h'' where
  size_le := Nat.le_trans h₁.size_le h₂.size_le
  parent hid := (h₂.parent (Nat.lt_of_lt_of_le hid h₁.size_le)).trans (h₁.parent hid)
  kept hbinds := h₂.kept (h₁.kept hbinds)
  names hid hgrowing name :=
    (h₂.names (Nat.lt_of_lt_of_le hid h₁.size_le) hgrowing name).trans (h₁.names hid hgrowing name)

/-- Making a scope extends the heap. -/
theorem alloc (h : Heap) (scope : Scope) : h.Extends growing (h.alloc scope) where
  size_le := by rw [size_alloc]; exact Nat.le_succ _
  parent hid := by rw [parent?, scope?_alloc_of_lt hid, parent?]
  kept hbinds := by
    rw [binds, local?, scope?_alloc_of_lt (lt_size_of_binds hbinds)]
    exact hbinds
  names hid _ name := by rw [binds, local?, scope?_alloc_of_lt hid, binds, local?]

/-- Defining a name extends the heap if the scope grows or binds the name already. -/
theorem define {id : ScopeId} {name : String} (hid : growing id ∨ h.binds id name) (v : Value) :
    h.Extends growing (h.define id name v) where
  size_le := Nat.le_of_eq (size_define ..).symm
  parent _ := parent?_define ..
  kept hbinds := binds_define_iff.mpr (Or.inl hbinds)
  names _ hgrowing _ := by
    refine Bool.eq_iff_iff.mpr (binds_define_iff.trans (or_iff_left_of_imp ?_))
    rintro ⟨rfl, rfl, _⟩
    exact hid.resolve_left hgrowing

/-- Assigning a name extends the heap if the scope in which it is assigned grows: the name is bound
there, or where it is bound already. -/
theorem assign {id : ScopeId} (hid : growing id) (name : String) (v : Value) :
    h.Extends growing (h.assign id name v) := by
  refine define ?_ v
  rcases owner_eq_or_binds h id name with howner | ⟨_, hbinds⟩
  · rw [howner]
    exact Or.inl hid
  · exact Or.inr hbinds

/-- Scopes made on the way may grow: they were not there before. -/
theorem of_old (hext : h.Extends (fun id => growing id ∨ h.size ≤ id) h') :
    h.Extends growing h' where
  size_le := hext.size_le
  parent := hext.parent
  kept := hext.kept
  names hid hgrowing :=
    hext.names hid fun hor => hor.elim hgrowing (Nat.not_le.mpr hid)

end Extends

end Heap

/-! ## The invariant of runs -/

/-- The heap extends the one at the start, growing in the given scopes and in those made since.
Evaluation runs in these; closures may capture any scope. -/
def HeapInvariant.extending (start : Heap) (growing : ScopeId → Prop) : HeapInvariant where
  holds h := start.Extends (fun id => growing id ∨ start.size ≤ id) h
  captures _ _ := True
  hosts _ id := growing id ∨ start.size ≤ id
  admits _ := True
  captures_mono _ h := h
  hosts_mono _ h := h
  captures_of_hosts _ := trivial
  values _ _ _ v _ := v.within_of_forall (fun _ => trivial) fun _ => trivial
  define _ hext hid _ := hext.trans (.define (Or.inl hid) _)
  assign _ hext hid _ := hext.trans (.assign hid _ _)
  alloc hext _ _ _ := ⟨Or.inr hext.size_le, hext.trans (.alloc _ _)⟩

section Runs

variable {α : Type} {s : State} {growing : ScopeId → Prop} {levels : Nat}

/-- Every value may occur in such runs. -/
theorem good_extending (size : Nat) (v : Value) :
    (HeapInvariant.extending s.heap growing).coupling.Good size v :=
  v.within_of_forall (fun _ => trivial) fun _ => trivial

theorem extends_of_couples {related : Nat → α → α → Prop} {a : EvalM α}
    (ha : (HeapInvariant.extending s.heap growing).coupling.Couples levels s.heap.size related
      a a) :
    s.heap.Extends growing (a s).2.heap :=
  (HeapInvariant.holds_of_couples ha (Heap.Extends.refl s.heap)).of_old

/-! ## Entry points -/

theorem eval_extends (e : Value) (env : Environment) (s : State) :
    s.heap.Extends (fun id => id = env.scope) (eval e env s).2.heap :=
  extends_of_couples ((Coupling.coupled_ofLevels _).eval (good_extending _ e) (Or.inl rfl))

theorem apply_extends (target : Value) (args : List Value) (kwargs : Keywords Value) (s : State) :
    s.heap.Extends (fun _ => False) (apply target args kwargs s).2.heap :=
  extends_of_couples ((Coupling.coupled_ofLevels _).apply (good_extending _ target)
    (fun v _ => good_extending _ v) fun v _ => good_extending _ v)

theorem fold_extends (stack : Stack Value) (program : List Value) (s : State) :
    s.heap.Extends (fun _ => False) (fold stack program s).2.heap :=
  extends_of_couples ((Coupling.coupled_ofLevels _).fold_same (fun v _ => good_extending _ v)
    fun v _ => good_extending _ v)

theorem callDefinition_extends (d : Definition Value) (args : List Value) (kwargs : Keywords Value)
    (s : State) : s.heap.Extends (fun _ => False) (callDefinition d args kwargs s).2.heap :=
  extends_of_couples ((Coupling.coupled_ofLevels _).definitionCall
    (good_extending _ (.definition d)) (fun v _ => good_extending _ v)
    fun v _ => good_extending _ v)

/-! ## Evaluating a `let` -/

/-- The bindings and the body of a `let` are evaluated in a new scope. -/
theorem letBody_extends (levels : Nat) (env : Environment) (args : List Value) (s : State) :
    s.heap.Extends (fun _ => False) (letBody (.ofLevels levels) env args s).2.heap :=
  extends_of_couples ((Coupling.coupled_ofLevels levels).letBody trivial fun v _ =>
    good_extending _ v)

theorem expandLet_extends (levels : Nat) (env : Environment) (args : List Value)
    (kwargs : Keywords Value) (s : State) :
    s.heap.Extends (fun _ => False)
      (SpecialForm.letIn.expand (.ofLevels levels) env args kwargs s).2.heap :=
  extends_of_couples ((Coupling.coupled_ofLevels levels).expandLet trivial fun v _ =>
    good_extending _ v)

/-- A `let` returns a protected value. -/
theorem exists_protect_of_letBody {next : Engine} {env : Environment} {args : List Value}
    {v : Value} {s' : State} (hrun : letBody next env args s = (.ok v, s')) :
    ∃ w : Value, v = w.protect := by
  unfold letBody at hrun
  split at hrun
  · rename_i bindings body
    by_cases hpairs : bindings.length % 2 ≠ 0
    · rw [if_pos hpairs] at hrun
      cases hrun
    · rw [if_neg hpairs] at hrun
      obtain ⟨scope, _, _, hrun⟩ := exists_of_bind_eq_ok hrun
      obtain ⟨_, _, _, hrun⟩ := exists_of_bind_eq_ok hrun
      obtain ⟨w, _, _, hrun⟩ := exists_of_bind_eq_ok hrun
      cases hrun
      exact ⟨w, rfl⟩
  · cases hrun
  · cases hrun

theorem exists_protect_of_expand {next : Engine} {env : Environment} {args : List Value}
    {kwargs : Keywords Value} {v : Value} {s' : State}
    (hrun : SpecialForm.letIn.expand next env args kwargs s = (.ok v, s')) :
    ∃ w : Value, v = w.protect := by
  obtain ⟨_, _, _, hrun⟩ := exists_of_bind_eq_ok hrun
  cases hkey : kwargs.firstKey? with
  | some key =>
    rw [hkey] at hrun
    cases hrun
  | none =>
    rw [hkey] at hrun
    exact exists_protect_of_letBody hrun

/-- A protected value evaluates without touching the heap. -/
theorem heap_eval_protect (levels : Nat) (env : Environment) (v : Value) (s : State) :
    ((Engine.ofLevels levels).eval v.protect env s).2.heap = s.heap := by
  cases levels with
  | zero => rfl
  | succ levels =>
    have hstep : ∃ w, evalStep (.ofLevels levels) env v.protect = pure w := by
      cases v <;> exact ⟨_, rfl⟩
    obtain ⟨w, hstep⟩ := hstep
    change (nested .evaluation (evalStep (.ofLevels levels) env v.protect) s).2.heap = s.heap
    rw [hstep]
    by_cases hlimit : depthLimit ≤ s.depth .evaluation
    · rw [nested_of_le _ hlimit]
    · rw [nested_of_lt _ (Nat.lt_of_not_le hlimit)]
      rfl

/-- Evaluating a call of `let` adds no name to the scope it is evaluated in either. -/
theorem evalCallOf_let_extends (levels : Nat) (env : Environment) (node : CallNode Value)
    (s : State) :
    s.heap.Extends (fun _ => False)
      (evalCallOf (.ofLevels levels) env (Builtin.form .letIn).toValue node s).2.heap := by
  have hexpand := expandLet_extends levels env node.positional node.named s
  show s.heap.Extends _ ((SpecialForm.letIn.expand (.ofLevels levels) env node.positional
    node.named >>= fun expansion =>
      if expansion.isEvaluable then (Engine.ofLevels levels).eval expansion env
      else pure expansion) s).2.heap
  rw [bind_run]
  cases hrun : SpecialForm.letIn.expand (.ofLevels levels) env node.positional node.named s with
  | mk result s' =>
    rw [hrun] at hexpand
    cases result with
    | error e => exact hexpand
    | ok v =>
      obtain ⟨w, rfl⟩ := exists_protect_of_expand hrun
      by_cases hevaluable : w.protect.isEvaluable
      · simpa only [if_pos hevaluable, heap_eval_protect] using hexpand
      · simpa only [if_neg hevaluable, pure_run] using hexpand

/-! ## The frame condition -/

/-- **A run adds names only to the scope it is given.**  Whatever the heap, an evaluation that
returns or fails leaves every scope with its parent and its names, and no scope but the one it
evaluates in binds a name that it did not bind before.  Applying a value, folding a program and
calling a definition add no name to any scope that was there before, and neither does a `let`: not
its bindings and its body, and not the call as a whole. -/
theorem runs_add_names_only_where_they_evaluate (s : State) :
    (∀ e env, s.heap.Extends (fun id => id = env.scope) (eval e env s).2.heap) ∧
      (∀ target args kwargs,
        s.heap.Extends (fun _ => False) (apply target args kwargs s).2.heap) ∧
      (∀ stack program, s.heap.Extends (fun _ => False) (fold stack program s).2.heap) ∧
      (∀ d args kwargs,
        s.heap.Extends (fun _ => False) (callDefinition d args kwargs s).2.heap) ∧
      (∀ levels env args,
        s.heap.Extends (fun _ => False) (letBody (.ofLevels levels) env args s).2.heap) ∧
      ∀ levels env node,
        s.heap.Extends (fun _ => False)
          (evalCallOf (.ofLevels levels) env (Builtin.form .letIn).toValue node s).2.heap :=
  ⟨fun e env => eval_extends e env s, fun target args kwargs => apply_extends target args kwargs s,
    fun stack program => fold_extends stack program s,
    fun d args kwargs => callDefinition_extends d args kwargs s,
    fun levels env args => letBody_extends levels env args s,
    fun levels env node => evalCallOf_let_extends levels env node s⟩

end Runs

end Homoiconic
