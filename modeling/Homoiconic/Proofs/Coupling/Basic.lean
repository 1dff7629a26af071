import Homoiconic.Evaluation.Engine
import Homoiconic.Proofs.Parts
import Homoiconic.Proofs.Runs
import Homoiconic.Proofs.Scopes

/-!
# Coupled runs

Much of what can be said about the interpreter as a whole has one form: two runs that start in
related states go through the same steps, stay related, and end with the same result.  That a run
leaves the scopes of others alone relates a run to itself under an invariant; that it does not
depend on how deep it is nested, or on what lies below the stack it is given, relates two runs that
differ in exactly this.

A `Coupling` says what "related" means, and what the primitive actions of the interpreter (looking
a name up, binding one, opening a scope, drawing a fresh number, logging) have to satisfy.  From
these obligations alone it follows, rule by rule, that evaluating and folding are coupled; this is
the subject of the modules after this one.  A theorem about the interpreter then states its own
relation, discharges the obligations of the primitive actions, and never looks at a rule.

## What a coupling relates

* **States** are related by `rel levels`, where `levels` is how many more times the two activities
  may be nested.
* **Values** are equal on both sides.  In addition they are within bounds: closures capture only
  scopes that the coupling allows (`captures`), and stack operations that are supplied natively are
  only those that it allows (`admits`).  Evaluation runs only in scopes that the coupling allows to
  be written to (`hosts`).  The two bounds on scopes may grow with the number of scopes in the heap.
* **Stacks** are equal on both sides, except that the second run may have more elements at the
  bottom (`base`).
* **Errors** are equal on both sides, except that the first run may end in an error after which
  nothing is asked of the second (`forgives`).
-/

namespace Homoiconic

variable {α β γ : Type}

/-! ## Couplings -/

/-- What two runs have in common, and the obligations that the primitive actions meet. -/
structure Coupling where
  /-- The states that are related, given how many levels of nesting are left. -/
  rel : Nat → State → State → Prop
  /-- The scopes that a closure may capture when the heap has so many scopes. -/
  captures : Nat → ScopeId → Prop
  /-- The scopes in which evaluation may run when the heap has so many scopes. -/
  hosts : Nat → ScopeId → Prop
  /-- The native stack operations that may occur. -/
  admits : StackNative → Prop
  /-- What may lie at the bottom of the second run's stack alone. -/
  base : List Value → Prop
  /-- The errors of the first run after which nothing is asked of the second. -/
  forgives : Error → Prop
  captures_mono {size size' : Nat} {id : ScopeId} :
    size ≤ size' → captures size id → captures size' id
  hosts_mono {size size' : Nat} {id : ScopeId} : size ≤ size' → hosts size id → hosts size' id
  captures_of_hosts {size : Nat} {id : ScopeId} : hosts size id → captures size id
  base_nil : base []
  /-- Where the stacks differ, a failure of the first run is forgiven: the second has more to
  take. -/
  forgives_of_base {below : List Value} : base below → below = [] ∨ ∀ e, forgives e
  /-- Where the stacks differ, no operation on whole stacks occurs. -/
  eq_nil_of_admits {native : StackNative} {below : List Value} :
    admits native → base below → below = []
  lookup {levels : Nat} {s t : State} {id : ScopeId} (name : String) :
    rel levels s t → hosts s.heap.size id →
      s.heap.lookup? id name = t.heap.lookup? id name ∧
        ∀ v ∈ s.heap.lookup? id name, v.Within (captures s.heap.size) admits
  visible {levels : Nat} {s t : State} {id : ScopeId} :
    rel levels s t → hosts s.heap.size id →
      s.heap.visible id = t.heap.visible id ∧
        ∀ v ∈ (s.heap.visible id).map Prod.snd, v.Within (captures s.heap.size) admits
  define {levels : Nat} {s t : State} {id : ScopeId} {v : Value} (name : String) :
    rel levels s t → hosts s.heap.size id → v.Within (captures s.heap.size) admits →
      rel levels { s with heap := s.heap.define id name v }
        { t with heap := t.heap.define id name v }
  assign {levels : Nat} {s t : State} {id : ScopeId} {v : Value} (name : String) :
    rel levels s t → hosts s.heap.size id → v.Within (captures s.heap.size) admits →
      rel levels { s with heap := s.heap.assign id name v }
        { t with heap := t.heap.assign id name v }
  alloc {levels : Nat} {s t : State} {parent : ScopeId} {bindings : Keywords Value} :
    rel levels s t → captures s.heap.size parent → bindings.Distinct →
      (∀ v ∈ bindings.values, v.Within (captures s.heap.size) admits) →
      s.heap.size = t.heap.size ∧ hosts (s.heap.size + 1) s.heap.size ∧
        rel levels { s with heap := s.heap.alloc ⟨bindings, some parent⟩ }
          { t with heap := t.heap.alloc ⟨bindings, some parent⟩ }
  identity {levels : Nat} {s t : State} :
    rel levels s t → s.identities = t.identities ∧
      rel levels { s with identities := s.identities + 1 }
        { t with identities := t.identities + 1 }
  gensym {levels : Nat} {s t : State} :
    rel levels s t → s.gensyms = t.gensyms ∧
      rel levels { s with gensyms := s.gensyms + 1 } { t with gensyms := t.gensyms + 1 }
  log {levels : Nat} {s t : State} (line : String) :
    rel levels s t →
      rel levels { s with log := s.log.push line } { t with log := t.log.push line }
  /-- A limit that the first run meets is met by the second too, or meeting it is forgiven. -/
  limit {levels : Nat} {s t : State} {activity : Activity} :
    rel (levels + 1) s t → depthLimit ≤ s.depth activity →
      forgives (.tooDeep activity) ∨ depthLimit ≤ t.depth activity
  room {levels : Nat} {s t : State} {activity : Activity} :
    rel (levels + 1) s t → s.depth activity < depthLimit → t.depth activity < depthLimit
  enter {levels : Nat} {s t : State} {activity : Activity} :
    rel (levels + 1) s t → s.depth activity < depthLimit →
      rel levels (s.enter activity) (t.enter activity)
  leave {levels : Nat} {s t : State} {activity : Activity} :
    rel levels s t → rel (levels + 1) (s.leave activity) (t.leave activity)

namespace Coupling

/-- Nothing is beneath the second stack. -/
def NoBase (below : List Value) : Prop := below = []

theorem noBase_nil : NoBase [] := rfl

/-- With nothing beneath, no failure has to be forgiven. -/
theorem eq_nil_or_of_noBase {below : List Value} (h : NoBase below) :
    below = [] ∨ ∀ _ : Error, False := Or.inl h

variable {C : Coupling} {levels size : Nat}

/-! ## Values, closures and stacks within bounds -/

/-- The values that may occur when the heap has so many scopes. -/
abbrev Good (C : Coupling) (size : Nat) (v : Value) : Prop := v.Within (C.captures size) C.admits

/-- All values of a list may occur. -/
abbrev GoodAll (C : Coupling) (size : Nat) (vs : List Value) : Prop := ∀ v ∈ vs, C.Good size v

/-- The closures that may occur. -/
abbrev GoodClosure (C : Coupling) (size : Nat) (c : Closure Value) : Prop :=
  c.Within (C.captures size) C.admits

/-- The second stack is the first one with something from `below` at its bottom, and what the first
one holds may occur. -/
def Above (C : Coupling) (below : List Value) (size : Nat) (s t : Stack Value) : Prop :=
  t.toList = below ++ s.toList ∧ C.GoodAll size s.toList

theorem Good.mono {size' : Nat} {v : Value} (hsize : size ≤ size') (h : C.Good size v) :
    C.Good size' v :=
  Value.Within.mono (fun _ => C.captures_mono hsize) h

theorem GoodAll.mono {size' : Nat} {vs : List Value} (hsize : size ≤ size')
    (h : C.GoodAll size vs) : C.GoodAll size' vs := fun v hv => (h v hv).mono hsize

/-- No keyword arguments hold no value. -/
theorem goodAll_empty : C.GoodAll size Keywords.empty.values := fun _ hv => by cases hv

theorem GoodClosure.mono {size' : Nat} {c : Closure Value} (hsize : size ≤ size')
    (h : C.GoodClosure size c) : C.GoodClosure size' c :=
  ⟨C.captures_mono hsize h.1, fun v hv => Good.mono hsize (h.2 v hv)⟩

theorem Above.mono {size' : Nat} {below : List Value} {s t : Stack Value} (hsize : size ≤ size')
    (h : C.Above below size s t) : C.Above below size' s t := ⟨h.1, h.2.mono hsize⟩

theorem Above.refl {s : Stack Value} (h : C.GoodAll size s.toList) : C.Above [] size s s :=
  ⟨(List.nil_append _).symm, h⟩

/-- Over nothing, the two stacks are the same. -/
theorem Above.same {s t : Stack Value} (h : C.Above [] size s t) :
    s = t ∧ C.GoodAll size s.toList := ⟨Stack.eq_of_toList_eq h.1.symm, h.2⟩

/-! ## Coupled actions -/

/-- How two coupled runs end, given the states they started in. -/
inductive Ends (C : Coupling) (levels size : Nat) (related : Nat → α → β → Prop) (s t : State) :
    Except Error α × State → Except Error β × State → Prop
  /-- Both return, with related results. -/
  | returned {x : α} {y : β} {s' t' : State} {size' : Nat} (value : related size' x y)
      (later : size ≤ size') (present : size' ≤ s'.heap.size) (rel : C.rel levels s' t')
      (depths : s'.depths = s.depths) (depths' : t'.depths = t.depths) :
      Ends C levels size related s t (.ok x, s') (.ok y, t')
  /-- Both fail, with the same error. -/
  | failed {e : Error} {s' t' : State} (rel : C.rel levels s' t')
      (depths : s'.depths = s.depths) (depths' : t'.depths = t.depths) :
      Ends C levels size related s t (.error e, s') (.error e, t')
  /-- The first one fails, and this is forgiven. -/
  | forgiven {e : Error} {s' : State} {end' : Except Error β × State} (forgives : C.forgives e) :
      Ends C levels size related s t (.error e, s') end'

/-- Two actions are coupled if they end in a coupled way whenever they start in related states. -/
def Couples (C : Coupling) (levels size : Nat) (related : Nat → α → β → Prop) (a : EvalM α)
    (b : EvalM β) : Prop :=
  ∀ ⦃s t : State⦄, C.rel levels s t → size ≤ s.heap.size →
    C.Ends levels size related s t (a s) (b t)

/-- Two actions agree if they are coupled and return the same result, of which `good` holds. -/
abbrev Agree (C : Coupling) (levels size : Nat) (good : Nat → α → Prop) (a b : EvalM α) : Prop :=
  C.Couples levels size (fun size x y => x = y ∧ good size x) a b

variable {related : Nat → α → β → Prop} {good : Nat → α → Prop}

/-- The end of a later part of a run is an end of the run. -/
theorem Ends.of_later {s t s' t' : State} {size' : Nat} {p : Except Error α × State}
    {q : Except Error β × State} (h : C.Ends levels size' related s' t' p q)
    (hsize : size ≤ size') (hs : s'.depths = s.depths) (ht : t'.depths = t.depths) :
    C.Ends levels size related s t p q := by
  cases h with
  | returned value later present rel depths depths' =>
    exact .returned value (Nat.le_trans hsize later) present rel (depths.trans hs)
      (depths'.trans ht)
  | failed rel depths depths' => exact .failed rel (depths.trans hs) (depths'.trans ht)
  | forgiven forgives => exact .forgiven forgives

theorem Couples.returning {x : α} {y : β} (h : related size x y) :
    C.Couples levels size related (pure x) (pure y) :=
  fun _ _ hrel hsize => .returned h (Nat.le_refl _) hsize hrel rfl rfl

theorem Couples.failing (e : Error) : C.Couples levels size related (fail e) (fail e) :=
  fun _ _ hrel _ => .failed hrel rfl rfl

/-- **Coupled actions compose**: if two actions are coupled, and what follows is coupled for related
results, so are the compositions. -/
theorem Couples.bind {δ : Type} {related' : Nat → γ → δ → Prop} {a : EvalM α} {b : EvalM β}
    {f : α → EvalM γ} {g : β → EvalM δ} (hab : C.Couples levels size related a b)
    (hfg : ∀ size' x y, size ≤ size' → related size' x y →
      C.Couples levels size' related' (f x) (g y)) :
    C.Couples levels size related' (a >>= f) (b >>= g) := by
  intro s t hrel hsize
  have hend := hab hrel hsize
  rw [bind_run, bind_run]
  generalize a s = p, b t = q at hend
  cases hend with
  | returned value later present rel depths depths' =>
    exact (hfg _ _ _ later value rel present).of_later later depths depths'
  | failed rel depths depths' => exact .failed rel depths depths'
  | forgiven forgives => exact .forgiven forgives

theorem Couples.imp {related' : Nat → α → β → Prop} {a : EvalM α} {b : EvalM β}
    (h : C.Couples levels size related a b)
    (himp : ∀ size' x y, size ≤ size' → related size' x y → related' size' x y) :
    C.Couples levels size related' a b := by
  intro s t hrel hsize
  have hend := h hrel hsize
  generalize a s = p, b t = q at hend ⊢
  cases hend with
  | returned value later present rel depths depths' =>
    exact .returned (himp _ _ _ later value) later present rel depths depths'
  | failed rel depths depths' => exact .failed rel depths depths'
  | forgiven forgives => exact .forgiven forgives

theorem Agree.returning {x : α} (h : good size x) : C.Agree levels size good (pure x) (pure x) :=
  Couples.returning ⟨rfl, h⟩

/-- Composition after actions that return the same result. -/
theorem Agree.bind {related' : Nat → β → γ → Prop} {a b : EvalM α} {f : α → EvalM β}
    {g : α → EvalM γ} (hab : C.Agree levels size good a b)
    (hfg : ∀ size' x, size ≤ size' → good size' x → C.Couples levels size' related' (f x) (g x)) :
    C.Couples levels size related' (a >>= f) (b >>= g) :=
  Couples.bind hab fun size' x _ hsize ⟨hxy, hx⟩ => hxy ▸ hfg size' x hsize hx

/-- A result is an action without effect. -/
theorem Agree.ofExcept {result : Except Error α} (h : ∀ x, result = .ok x → good size x) :
    C.Agree levels size good (ofExcept result) (ofExcept result) := by
  cases result with
  | ok x => exact Agree.returning (h x rfl)
  | error e => exact Couples.failing e

/-! ## Primitive actions -/

theorem agree_lookup {id : ScopeId} (hid : C.hosts size id) (name : String) :
    C.Agree levels size (fun size found => ∀ v ∈ found, C.Good size v)
      (read fun s => s.heap.lookup? id name) (read fun s => s.heap.lookup? id name) := by
  intro s t hrel hsize
  obtain ⟨heq, hgood⟩ := C.lookup name hrel (C.hosts_mono hsize hid)
  exact .returned ⟨heq, hgood⟩ hsize (Nat.le_refl _) hrel rfl rfl

theorem agree_visible {id : ScopeId} (hid : C.hosts size id) :
    C.Agree levels size (fun size entries => C.GoodAll size (entries.map Prod.snd))
      (read fun s => s.heap.visible id) (read fun s => s.heap.visible id) := by
  intro s t hrel hsize
  obtain ⟨heq, hgood⟩ := C.visible hrel (C.hosts_mono hsize hid)
  exact .returned ⟨heq, hgood⟩ hsize (Nat.le_refl _) hrel rfl rfl

theorem agree_define {id : ScopeId} {v : Value} (hid : C.hosts size id) (hv : C.Good size v)
    (name : String) :
    C.Agree levels size (fun _ _ => True) (changeHeap (·.define id name v))
      (changeHeap (·.define id name v)) := by
  intro s t hrel hsize
  refine .returned ⟨rfl, trivial⟩ (Nat.le_refl _) ?_
    (C.define name hrel (C.hosts_mono hsize hid) (hv.mono hsize)) rfl rfl
  exact Nat.le_trans hsize (Nat.le_of_eq (Heap.size_define ..).symm)

theorem agree_assign {id : ScopeId} {v : Value} (hid : C.hosts size id) (hv : C.Good size v)
    (name : String) :
    C.Agree levels size (fun _ _ => True) (changeHeap (·.assign id name v))
      (changeHeap (·.assign id name v)) := by
  intro s t hrel hsize
  refine .returned ⟨rfl, trivial⟩ (Nat.le_refl _) ?_
    (C.assign name hrel (C.hosts_mono hsize hid) (hv.mono hsize)) rfl rfl
  exact Nat.le_trans hsize (Nat.le_of_eq (Heap.size_define ..).symm)

/-- **A scope opened for evaluation is one that may be written to.** -/
theorem agree_openScope {parent : ScopeId} {bindings : Keywords Value}
    (hparent : C.captures size parent) (hdistinct : bindings.Distinct)
    (hbindings : C.GoodAll size bindings.values) :
    C.Agree levels size C.hosts (openScope (some parent) bindings)
      (openScope (some parent) bindings) := by
  intro s t hrel hsize
  obtain ⟨heq, hhosts, hrel'⟩ :=
    C.alloc hrel (C.captures_mono hsize hparent) hdistinct (hbindings.mono hsize)
  exact .returned ⟨heq, hhosts⟩ (Nat.le_succ_of_le hsize)
    (Nat.le_of_eq (Heap.size_alloc ..).symm) hrel' rfl rfl

theorem agree_freshIdentity :
    C.Agree levels size (fun _ _ => True) freshIdentity freshIdentity := by
  intro s t hrel hsize
  obtain ⟨heq, hrel'⟩ := C.identity hrel
  exact .returned ⟨heq, trivial⟩ (Nat.le_refl _) hsize hrel' rfl rfl

theorem agree_gensym (stem : String) :
    C.Agree levels size (fun _ _ => True) (Homoiconic.gensym stem) (Homoiconic.gensym stem) := by
  intro s t hrel hsize
  obtain ⟨heq, hrel'⟩ := C.gensym hrel
  exact .returned ⟨by rw [heq], trivial⟩ (Nat.le_refl _) hsize hrel' rfl rfl

theorem agree_writeLog (line : String) :
    C.Agree levels size (fun _ _ => True) (writeLog line) (writeLog line) :=
  fun _ _ hrel hsize => .returned ⟨rfl, trivial⟩ (Nat.le_refl _) hsize (C.log line hrel) rfl rfl

theorem agree_checkArity (arity : Arity) (got : Nat) :
    C.Agree levels size (fun _ _ => True) (checkArity arity got) (checkArity arity got) := by
  unfold checkArity
  cases arity.violated? got with
  | none => exact Agree.returning trivial
  | some bound => exact Couples.failing _

end Coupling

end Homoiconic
