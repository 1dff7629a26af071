import Homoiconic.Native
import Homoiconic.Proofs.Stores

/-!
# Requests of an embedding program

An embedding program asks for environments, writes to the environments it has, starts runs in them,
and draws symbols and identities.  All that it can ask for is listed here, once (`Request`), with
the environments and the values that each request uses, what is done about it, and what is handed
out (`Answer`).  A request may fail, and what it did is not undone then.

What a request uses has to belong to the heap: environments are scopes of the heap, and closures in
values capture scopes of the heap.  Then the request keeps the heap well formed, and what it hands
out belongs to the heap it leaves (`Request.keeps`).  For this it is not enough that runs keep the
heap well formed.  What was handed out before has to go on belonging to the heap, whether a run
returns or fails; so the heap must not shrink.  All of it comes from one invariant of runs, that the
heap is well formed and no smaller than at the start (`HeapInvariant.since`).

The states that can be reached are those that requests leave, and their heaps are well formed
(`State.Reachable.wellFormed`).
-/

namespace Homoiconic

/-! ## Requests -/

/-- What an embedding program is handed. -/
structure Answer where
  environments : List Environment
  values : List Value

/-- What an embedding program can ask for. -/
inductive Request where
  | new
  | withBuiltins
  | child (parent : Environment)
  | ofJson (json : Json)
  | ofJsonText (text : String)
  | define (env : Environment) (name : String) (v : Value)
  | set (env : Environment) (name : String) (v : Value)
  | defineJson (env : Environment) (json : Json)
  | registerOperation (env : Environment) (name : String) (op : NativeOperation)
  | registerExpander (env : Environment) (name : String) (native : NativeExpander)
  | get (env : Environment) (name : String)
  | bindings (env : Environment)
  | identity
  | gensym (stem : String)
  | eval (e : Value) (env : Environment)
  | evaluateCall (node : CallNode Value) (env : Environment)
  | callNode (node : CallNode Value) (kwargs : Keywords Value)
  | apply (target : Value) (args : List Value) (kwargs : Keywords Value)
  | applyCombinator (c : Combinator Value) (stack : Stack Value)
  | fold (stack : Stack Value) (program : List Value)
  | trace (sink : Sink) (stack : Stack Value) (program : List Value)

namespace Request

/-- The environments that a request uses. -/
def environments : Request → List Environment
  | .child env | .define env _ _ | .set env _ _ | .defineJson env _ | .registerOperation env _ _
  | .registerExpander env _ _ | .get env _ | .bindings env | .eval _ env
  | .evaluateCall _ env => [env]
  | _ => []

/-- The values that a request uses. -/
def values : Request → List Value
  | .define _ _ v | .set _ _ v => [v]
  | .eval e _ => [e]
  | .evaluateCall node _ => [.call node]
  | .callNode node kwargs => .call node :: kwargs.values
  | .apply target args kwargs => target :: (args ++ kwargs.values)
  | .applyCombinator c stack => .combinator c :: stack.toList
  | .fold stack program | .trace _ stack program => stack.toList ++ program
  | _ => []

/-- A traced fold, without what it writes. -/
def traced (sink : Sink) (stack : Stack Value) (program : List Value) : EvalM (Stack Value) :=
  fun s => ((Homoiconic.trace stack program sink s).1.1, (Homoiconic.trace stack program sink s).2)

/-- What is done about a request. -/
def answer : Request → EvalM Answer
  | .new => do return ⟨[← Environment.new], []⟩
  | .withBuiltins => do return ⟨[← Environment.withBuiltins], []⟩
  | .child parent => do return ⟨[← parent.child], []⟩
  | .ofJson json => do return ⟨[← Environment.ofJson json], []⟩
  | .ofJsonText text => do return ⟨[← Environment.ofJsonText text], []⟩
  | .define env name v => do
    env.define name v
    return ⟨[], []⟩
  | .set env name v => do
    env.set name v
    return ⟨[], []⟩
  | .defineJson env json => do
    env.defineJson json
    return ⟨[], []⟩
  | .registerOperation env name op => do
    env.registerOperation name op
    return ⟨[], []⟩
  | .registerExpander env name native => do
    env.registerExpander name native
    return ⟨[], []⟩
  | .get env name => do return ⟨[], (← env.get? name).toList⟩
  | .bindings env => do return ⟨[], (← env.bindings).map Prod.snd⟩
  | .identity => do
    let _ ← freshIdentity
    return ⟨[], []⟩
  | .gensym stem => do return ⟨[], [.symbol (← Homoiconic.gensym stem)]⟩
  | .eval e env => do return ⟨[], [← Homoiconic.eval e env]⟩
  | .evaluateCall node env => do return ⟨[], [← Homoiconic.evaluateCall node env]⟩
  | .callNode node kwargs => do return ⟨[], [← Homoiconic.callNode node kwargs]⟩
  | .apply target args kwargs => do return ⟨[], [← Homoiconic.apply target args kwargs]⟩
  | .applyCombinator c stack => do return ⟨[], (← Homoiconic.applyCombinator c stack).toList⟩
  | .fold stack program => do return ⟨[], (← Homoiconic.fold stack program).toList⟩
  | .trace sink stack program => do return ⟨[], (← traced sink stack program).toList⟩

end Request

/-! ## Heaps that do not shrink -/

/-- The heap is well formed, and no smaller than it was. -/
def HeapInvariant.since (start : Nat) : HeapInvariant :=
  { HeapInvariant.wellFormed with
    holds := fun h => start ≤ h.size ∧ h.WellFormed
    values := fun hh => HeapInvariant.wellFormed.values hh.2
    define := fun name hh hid hv =>
      ⟨Nat.le_trans hh.1 (Nat.le_of_eq (Heap.size_define ..).symm),
        HeapInvariant.wellFormed.define name hh.2 hid hv⟩
    assign := fun name hh hid hv =>
      ⟨Nat.le_trans hh.1 (Nat.le_of_eq (Heap.size_define ..).symm),
        HeapInvariant.wellFormed.assign name hh.2 hid hv⟩
    alloc := fun hh hparent hdistinct hbindings =>
      have hopened := HeapInvariant.wellFormed.alloc hh.2 hparent hdistinct hbindings
      ⟨hopened.1, Nat.le_trans hh.1 (Heap.size_alloc .. ▸ Nat.le_succ _), hopened.2⟩ }

/-- An action keeps the heap well formed and no smaller than at the start, and its results belong to
the heap. -/
abbrev Keeps {α : Type} (start levels size : Nat) (good : Nat → α → Prop) (a : EvalM α) : Prop :=
  (HeapInvariant.since start).coupling.Agree levels size good a a

/-- The scopes and values of an answer belong to a heap of so many scopes. -/
def Answer.Belongs (size : Nat) (answer : Answer) : Prop :=
  (∀ env ∈ answer.environments, env.scope < size) ∧
    ∀ v ∈ answer.values, v.LivesBelow size

theorem Answer.Belongs.mono {answer : Answer} {size size' : Nat} (h : answer.Belongs size)
    (hsize : size ≤ size') : answer.Belongs size' :=
  ⟨fun env henv => Nat.lt_of_lt_of_le (h.1 env henv) hsize,
    fun v hv => Value.Within.mono (fun _ hid => Nat.lt_of_lt_of_le hid hsize) (h.2 v hv)⟩

section Keeps

variable {α : Type} {start levels size : Nat}

theorem Keeps.environment {a : EvalM Environment}
    (ha : Keeps start levels size (fun size env => env.scope < size) a) :
    Keeps start levels size Answer.Belongs (do return ⟨[← a], []⟩) :=
  Coupling.Agree.bind ha fun _ _ _ henv =>
    Coupling.Agree.returning ⟨List.forall_mem_singleton.mpr henv, List.forall_mem_nil _⟩

theorem Keeps.nothing {a : EvalM Unit} (ha : Keeps start levels size (fun _ _ => True) a) :
    Keeps start levels size Answer.Belongs (do a; return ⟨[], []⟩) :=
  Coupling.Agree.bind ha fun _ _ _ _ =>
    Coupling.Agree.returning ⟨List.forall_mem_nil _, List.forall_mem_nil _⟩

theorem Keeps.handing {a : EvalM α} {good : Nat → α → Prop} {values : α → List Value}
    (ha : Keeps start levels size good a)
    (hvalues : ∀ size x, good size x → ∀ v ∈ values x, v.LivesBelow size) :
    Keeps start levels size Answer.Belongs (do return ⟨[], values (← a)⟩) :=
  Coupling.Agree.bind ha fun size x _ hx =>
    Coupling.Agree.returning ⟨List.forall_mem_nil _, hvalues size x hx⟩

/-- A scope without a parent can be opened at any time. -/
theorem keeps_openRoot {bindings : Keywords Value} (hdistinct : bindings.Distinct)
    (hbindings : ∀ v ∈ bindings.values, v.LivesBelow size) :
    Keeps start levels size (fun size id => id < size) (openScope none bindings) := by
  rintro s _ ⟨rfl, hgrown, hwellFormed⟩ hsize
  have hlater : size ≤ s.heap.size + 1 := Nat.le_succ_of_le hsize
  have hopened : (s.heap.alloc ⟨bindings, none⟩).WellFormed := by
    refine hwellFormed.alloc (by rintro _ ⟨⟩) hdistinct fun v hv => ?_
    exact Value.Within.mono (fun _ hid => Nat.lt_of_lt_of_le hid hsize) (hbindings v hv)
  refine .returned ⟨rfl, Nat.lt_succ_self _⟩ hlater ?_ ⟨rfl, ?_, hopened⟩ rfl rfl
  · exact Nat.le_of_eq (Heap.size_alloc ..).symm
  · exact Nat.le_trans hgrown (Heap.size_alloc .. ▸ Nat.le_succ _)

theorem keeps_new : Keeps start levels size (fun size env => env.scope < size) Environment.new :=
  Coupling.Agree.bind (keeps_openRoot Keywords.distinct_empty fun _ hv => by cases hv)
    fun _ _ _ hid => Coupling.Agree.returning hid

theorem keeps_child {parent : Environment} (hparent : parent.scope < size) :
    Keeps start levels size (fun size env => env.scope < size) parent.child :=
  Coupling.Agree.bind
    (Coupling.agree_openScope hparent Keywords.distinct_empty fun _ hv => by cases hv)
    fun _ _ _ hid => Coupling.Agree.returning hid

theorem keeps_define {env : Environment} {v : Value} (henv : env.scope < size)
    (hv : v.LivesBelow size) (name : String) :
    Keeps start levels size (fun _ _ => True) (env.define name v) :=
  Coupling.agree_define henv hv name

theorem keeps_defineAll {env : Environment} {entries : List (String × Value)}
    (henv : env.scope < size)
    (hentries : ∀ entry ∈ entries, ∀ size, entry.2.LivesBelow size) :
    Keeps start levels size (fun _ _ => True) (env.defineAll entries) := by
  induction entries generalizing size with
  | nil => exact Coupling.Agree.returning trivial
  | cons entry rest ih =>
    obtain ⟨hv, hrest⟩ := List.forall_mem_cons.mp hentries
    refine Coupling.Agree.bind (keeps_define henv (hv size) entry.1) fun _ _ hsize _ => ?_
    exact ih (Nat.lt_of_lt_of_le henv hsize) hrest

theorem keeps_withBuiltins :
    Keeps start levels size (fun size env => env.scope < size) Environment.withBuiltins := by
  unfold Environment.withBuiltins
  have hvalues : ∀ entry ∈ Builtin.all.map fun b => (b.name, b.toValue),
      ∀ size, entry.2.LivesBelow size := by
    intro entry hentry size
    obtain ⟨b, _, rfl⟩ := List.mem_map.mp hentry
    exact Value.within_builtin b
  -- The registry is a closed term, which unification must not try to evaluate.
  generalize Builtin.all.map (fun b => (b.name, b.toValue)) = entries at hvalues ⊢
  refine Coupling.Agree.bind keeps_new fun _ env _ henv => ?_
  refine Coupling.Agree.bind (keeps_defineAll henv hvalues) fun _ _ hsize _ => ?_
  exact Coupling.Agree.returning (Nat.lt_of_lt_of_le henv hsize)

theorem keeps_defineMembers {env : Environment} {members : List (String × Json)}
    (henv : env.scope < size) :
    Keeps start levels size (fun _ _ => True) (env.defineMembers members) := by
  induction members generalizing size with
  | nil => exact Coupling.Agree.returning trivial
  | cons member rest ih =>
    have hread : Keeps start levels size Value.LivesBelow
        (ofExcept (Value.ofJson member.2)) :=
      Coupling.Agree.ofExcept fun v hv => Value.within_ofJson hv
    refine Coupling.Agree.bind hread fun _ v hsize hv => ?_
    have henv := Nat.lt_of_lt_of_le henv hsize
    refine Coupling.Agree.bind (keeps_define henv hv member.1) fun _ _ hsize _ => ?_
    exact ih (Nat.lt_of_lt_of_le henv hsize)

theorem keeps_defineJson {env : Environment} (henv : env.scope < size) (json : Json) :
    Keeps start levels size (fun _ _ => True) (env.defineJson json) := by
  cases json with
  | object members => exact keeps_defineMembers henv
  | _ => exact Coupling.Couples.failing _

theorem keeps_ofJson (json : Json) :
    Keeps start levels size (fun size env => env.scope < size) (Environment.ofJson json) := by
  refine Coupling.Agree.bind keeps_new fun _ env _ henv => ?_
  refine Coupling.Agree.bind (keeps_defineJson henv json) fun _ _ hsize _ => ?_
  exact Coupling.Agree.returning (Nat.lt_of_lt_of_le henv hsize)

theorem keeps_ofJsonText (text : String) :
    Keeps start levels size (fun size env => env.scope < size) (Environment.ofJsonText text) := by
  unfold Environment.ofJsonText
  cases Json.parse? text with
  | none => exact Coupling.Couples.failing _
  | some json => exact keeps_ofJson json

theorem keeps_register {env : Environment} {supply : EvalM Value} (henv : env.scope < size)
    (hsupply : Keeps start levels size Value.LivesBelow supply) (name : String) :
    Keeps start levels size (fun _ _ => True) (do env.define name (← supply)) :=
  Coupling.Agree.bind hsupply fun _ _ hsize hv =>
    keeps_define (Nat.lt_of_lt_of_le henv hsize) hv name

theorem keeps_supplyOperation (name : String) (op : NativeOperation) :
    Keeps start levels size Value.LivesBelow (supplyOperation name op) :=
  Coupling.Agree.bind Coupling.agree_freshIdentity fun _ _ _ _ =>
    Coupling.Agree.returning (Value.within_leaf rfl rfl rfl)

theorem keeps_supplyExpander (name : String) (native : NativeExpander) :
    Keeps start levels size Value.LivesBelow (supplyExpander name native) :=
  Coupling.Agree.bind Coupling.agree_freshIdentity fun _ _ _ _ =>
    Coupling.Agree.returning (Value.within_leaf rfl rfl rfl)

theorem keeps_callNode {node : CallNode Value} {kwargs : Keywords Value}
    (h : (HeapInvariant.since start).coupling.Coupled levels .full .full)
    (hnode : (Value.call node).LivesBelow size)
    (hkwargs : ∀ v ∈ kwargs.values, v.LivesBelow size) :
    Keeps start (levels + 1) size Value.LivesBelow
      (callNode node kwargs) := by
  refine Coupling.Agree.bind (keeps_openRoot (Keywords.distinct_ofList _) fun v hv => ?_)
    fun size' id hsize hid => ?_
  · exact hkwargs v (Keywords.mem_of_mem_values_ofList hv)
  · exact (h.evalCall hid (Coupling.Good.mono hsize hnode)).nested .evaluation

theorem keeps_traced {stack : Stack Value} {program : List Value}
    (h : (HeapInvariant.since start).coupling.Coupled levels .full .full) (sink : Sink)
    (hstack : ∀ v ∈ stack.toList, v.LivesBelow size)
    (hprogram : ∀ v ∈ program, v.LivesBelow size) :
    Keeps start (levels + 1) size
      (fun size stack => ∀ v ∈ stack.toList, v.LivesBelow size)
      (Request.traced sink stack program) :=
  fun _ _ hrel hsize => (h.trace hprogram hstack sink hrel hsize).1

theorem keeps_applyCombinator {c : Combinator Value} {stack : Stack Value}
    (h : (HeapInvariant.since start).coupling.Coupled levels .full .full)
    (hc : (Value.combinator c).LivesBelow size)
    (hstack : ∀ v ∈ stack.toList, v.LivesBelow size) :
    Keeps start levels size
      (fun size stack => ∀ v ∈ stack.toList, v.LivesBelow size)
      (applyCombinator c stack) :=
  (h.combinator hc Coupling.noBase_nil (Coupling.Above.refl hstack)).imp
    fun _ _ _ _ habove => habove.same

/-- **Answering a request keeps the heap well formed**, and what is handed out belongs to it, if
what the request uses does. -/
theorem Request.keeps (start : Nat) (request : Request)
    (henvs : ∀ env ∈ request.environments, env.scope < size)
    (hvalues : ∀ v ∈ request.values, v.LivesBelow size) :
    ∃ levels, Keeps start levels size Answer.Belongs request.answer := by
  have hfull := (HeapInvariant.since start).coupling.coupled_self
  have hself : ∀ size (v : Value), v.LivesBelow size → ∀ w ∈ [v], w.LivesBelow size :=
    fun _ _ => List.forall_mem_singleton.mpr
  cases request with
  | new => exact ⟨0, keeps_new.environment⟩
  | withBuiltins => exact ⟨0, keeps_withBuiltins.environment⟩
  | child parent => exact ⟨0, (keeps_child (henvs parent List.mem_cons_self)).environment⟩
  | ofJson json => exact ⟨0, (keeps_ofJson json).environment⟩
  | ofJsonText text => exact ⟨0, (keeps_ofJsonText text).environment⟩
  | define env name v =>
    have henv := henvs env List.mem_cons_self
    exact ⟨0, (keeps_define henv (hvalues v List.mem_cons_self) name).nothing⟩
  | set env name v =>
    have henv := henvs env List.mem_cons_self
    exact ⟨0, Keeps.nothing (Coupling.agree_assign henv (hvalues v List.mem_cons_self) name)⟩
  | defineJson env json =>
    exact ⟨0, (keeps_defineJson (henvs env List.mem_cons_self) json).nothing⟩
  | registerOperation env name op =>
    have henv := henvs env List.mem_cons_self
    exact ⟨0, (keeps_register henv (keeps_supplyOperation name op) name).nothing⟩
  | registerExpander env name native =>
    have henv := henvs env List.mem_cons_self
    exact ⟨0, (keeps_register henv (keeps_supplyExpander name native) name).nothing⟩
  | get env name =>
    have henv := henvs env List.mem_cons_self
    refine ⟨0, Keeps.handing (Coupling.agree_lookup henv name) fun size found hfound v hv => ?_⟩
    exact hfound v (Option.mem_toList.mp hv)
  | bindings env =>
    have henv := henvs env List.mem_cons_self
    exact ⟨0, Keeps.handing (Coupling.agree_visible henv) fun _ _ hentries => hentries⟩
  | identity =>
    exact ⟨0, Coupling.Agree.bind Coupling.agree_freshIdentity fun _ _ _ _ =>
      Coupling.Agree.returning ⟨List.forall_mem_nil _, List.forall_mem_nil _⟩⟩
  | gensym stem =>
    refine ⟨0, Keeps.handing (Coupling.agree_gensym stem) fun size name _ => ?_⟩
    exact List.forall_mem_singleton.mpr (Value.within_leaf rfl rfl rfl)
  | eval e env =>
    have henv := henvs env List.mem_cons_self
    exact ⟨_, Keeps.handing (hfull.eval (hvalues e List.mem_cons_self) henv) hself⟩
  | evaluateCall node env =>
    have henv := henvs env List.mem_cons_self
    have hnode := hvalues _ List.mem_cons_self
    exact ⟨_, Keeps.handing ((hfull.evalCall henv hnode).nested .evaluation) hself⟩
  | callNode node kwargs =>
    obtain ⟨hnode, hkwargs⟩ := List.forall_mem_cons.mp hvalues
    exact ⟨_, Keeps.handing (keeps_callNode hfull hnode hkwargs) hself⟩
  | apply target args kwargs =>
    obtain ⟨htarget, hrest⟩ := List.forall_mem_cons.mp hvalues
    obtain ⟨hargs, hkwargs⟩ := List.forall_mem_append.mp hrest
    exact ⟨_, Keeps.handing (hfull.apply htarget hargs hkwargs) hself⟩
  | applyCombinator c stack =>
    obtain ⟨hc, hstack⟩ := List.forall_mem_cons.mp hvalues
    exact ⟨_, Keeps.handing (keeps_applyCombinator hfull hc hstack) fun _ _ hresult => hresult⟩
  | fold stack program =>
    obtain ⟨hstack, hprogram⟩ := List.forall_mem_append.mp hvalues
    exact ⟨_, Keeps.handing (hfull.fold_same hstack hprogram) fun _ _ hresult => hresult⟩
  | trace sink stack program =>
    obtain ⟨hstack, hprogram⟩ := List.forall_mem_append.mp hvalues
    exact ⟨_, Keeps.handing (keeps_traced hfull sink hstack hprogram) fun _ _ hresult => hresult⟩

/-- What an action that keeps the heap leaves, whether it returns or fails. -/
theorem Keeps.heap {a : EvalM α} {good : Nat → α → Prop} {s : State}
    (ha : Keeps s.heap.size levels s.heap.size good a) (hs : s.heap.WellFormed) :
    s.heap.size ≤ (a s).2.heap.size ∧ (a s).2.heap.WellFormed :=
  HeapInvariant.holds_of_couples ha ⟨Nat.le_refl _, hs⟩

/-- What it returns. -/
theorem Keeps.result {a : EvalM α} {good : Nat → α → Prop} {s s' : State} {x : α}
    (ha : Keeps s.heap.size levels s.heap.size good a) (hs : s.heap.WellFormed)
    (hrun : a s = (.ok x, s')) : ∃ size, size ≤ s'.heap.size ∧ good size x := by
  have hend := ha ⟨rfl, Nat.le_refl _, hs⟩ (Nat.le_refl _)
  rw [hrun] at hend
  cases hend with
  | returned value _ present => exact ⟨_, present, value.2⟩

end Keeps

/-! ## Reachable states -/

/-- The states in which an embedding program can be: the first one, and those that its requests
leave, be it that they succeed or fail. -/
inductive State.Reachable : State → Prop
  | initial : Reachable .initial
  | request {s : State} (reachable : Reachable s) (request : Request)
      (environments : ∀ env ∈ request.environments, env.scope < s.heap.size)
      (values : ∀ v ∈ request.values, v.LivesIn s.heap) : Reachable (request.answer s).2

/-- **Every state that can be reached has a well-formed heap.** -/
theorem State.Reachable.wellFormed {s : State} (h : s.Reachable) : s.heap.WellFormed := by
  induction h with
  | initial => exact Heap.wellFormed_empty
  | @request s _ request henvs hvalues ih =>
    obtain ⟨_, hkeeps⟩ := request.keeps s.heap.size henvs hvalues
    exact (hkeeps.heap ih).2

end Homoiconic
