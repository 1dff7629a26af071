import Homoiconic.Proofs.NameResolution
import Homoiconic.Proofs.Reachability

/-!
# Separate environments do not interfere

An evaluation is given an expression and an environment.  From these it can come upon some of the
scopes of the heap (`Heap.Reaches`): those on the chain of the environment, those that are captured
by a closure anywhere in the expression, and, from there on, those captured by closures anywhere in
the values that are bound in a scope that it can come upon.  These are all that matters.  There are
two halves to this.

* *Nothing else is written.*  This is about one run.  The scopes that can be come upon, together
  with those that are made on the way, are a confined region, and evaluation never runs outside it,
  so that no scope outside changes.  It is an invariant of heaps (`HeapInvariant.keeping`).
* *Nothing else is read.*  This is about two runs.  They start in heaps that may differ in any way
  outside the region, and they stay the same inside.  It is a coupling whose two sides have
  different heaps (`Coupling.separate`).

For the second half "the same" must not be taken too literally.  A scope keeps its bindings in the
order in which they were made, and this order is not part of its contents, so two heaps agree on a
scope if it has the same parent in both and binds the same names to the same values
(`Heap.AgreeOn`).  The one operation that looks at all the bindings of a scope at once is the
listing, and it sorts.

What a run makes is named by numbers: scopes, closures and generated symbols get the next ones.  So
the two runs have to start with the same next numbers, or they would return different names for what
they make.
-/

namespace Homoiconic

namespace Heap

variable {region : ScopeId → Prop} {h h' : Heap} {id : ScopeId}

/-! ## Agreeing on a scope -/

/-- A scope has the same contents in two heaps: its parent, and what it binds each name to. -/
structure AgreeOn (h h' : Heap) (id : ScopeId) : Prop where
  parent : h.parent? id = h'.parent? id
  bindings (name : String) : h.local? id name = h'.local? id name

/-- A scope holds what its names stand for in it, if it binds no name twice. -/
theorem mem_values_iff (hdistinct : h.Distinct) {v : Value} :
    v ∈ h.values id ↔ ∃ name, h.local? id name = some v := by
  unfold values entries local?
  cases hscope : h.scope? id with
  | none => simp
  | some scope =>
    rw [List.mem_map]
    constructor
    · rintro ⟨⟨name, _⟩, hmem, rfl⟩
      exact ⟨name, (Keywords.lookup_eq_some_iff_mem (hdistinct id scope hscope)).mpr hmem⟩
    · rintro ⟨name, hlocal⟩
      exact ⟨(name, v), (Keywords.lookup_eq_some_iff_mem (hdistinct id scope hscope)).mp hlocal,
        rfl⟩

/-- **Heaps that agree on what can be reached in one of them reach the same in both.** -/
theorem reaches_iff_of_agreeOn (hdistinct : h.Distinct) (hdistinct' : h'.Distinct)
    {roots : List Place} (hagree : ∀ id, h.Reaches roots (.scope id) → h.AgreeOn h' id)
    (place : Place) : h.Reaches roots place ↔ h'.Reaches roots place := by
  have hvalues : ∀ id, h.AgreeOn h' id → ∀ v, v ∈ h.values id ↔ v ∈ h'.values id := by
    intro id hid v
    rw [mem_values_iff hdistinct, mem_values_iff hdistinct']
    exact exists_congr fun name => by rw [hid.bindings name]
  constructor
  · intro hplace
    induction hplace with
    | root hmem => exact .root hmem
    | part _ hw ih => exact ih.part hw
    | captured _ hid ih => exact ih.captured hid
    | parent hid hparent ih =>
      rw [(hagree _ hid).parent] at hparent
      exact ih.parent hparent
    | bound hid hv ih => exact ih.bound ((hvalues _ (hagree _ hid) _).mp hv)
  · intro hplace
    induction hplace with
    | root hmem => exact .root hmem
    | part _ hw ih => exact ih.part hw
    | captured _ hid ih => exact ih.captured hid
    | parent _ hparent ih =>
      rw [← (hagree _ ih).parent] at hparent
      exact ih.parent hparent
    | bound _ hv ih => exact ih.bound ((hvalues _ (hagree _ ih) _).mpr hv)

/-! ## Heaps that are alike inside a region -/

/-- Two heaps with the same numbers of scopes, which cannot be told apart from inside a confined
region. -/
structure Alike (region : ScopeId → Prop) (h h' : Heap) : Prop where
  size : h.size = h'.size
  agree {id : ScopeId} : region id → h.AgreeOn h' id
  confined : h.Confined region fun _ => True
  distinct : h.Distinct
  distinct' : h'.Distinct

namespace Alike

/-! ## Reading -/

theorem chainUpTo (hh : h.Alike region h') (steps : Nat) (hid : region id) :
    h.chainUpTo steps id = h'.chainUpTo steps id := by
  induction steps generalizing id with
  | zero => rfl
  | succ steps ih =>
    rcases Nat.lt_or_ge id h.size with hlt | hle
    · have hlt' : id < h'.size := hh.size ▸ hlt
      rw [chainUpTo_succ h steps hlt, chainUpTo_succ h' steps hlt', ← (hh.agree hid).parent]
      cases hparent : h.parent? id with
      | none => rfl
      | some parent =>
        have hup := ih (hh.confined.parent hid hparent)
        rw [Option.map_some, Option.map_some, hup]
    · have hle' : h'.size ≤ id := hh.size ▸ hle
      rw [chainUpTo_of_le _ hle, chainUpTo_of_le _ hle']

theorem chain (hh : h.Alike region h') (hid : region id) : h.chain id = h'.chain id :=
  hh.chainUpTo (id + 1) hid

theorem binds (hh : h.Alike region h') (hid : region id) (name : String) :
    h.binds id name = h'.binds id name := by
  rw [Heap.binds, Heap.binds, (hh.agree hid).bindings]

/-- The first binders of a name are the same. -/
theorem find?_binds (hh : h.Alike region h') (hid : region id) (name : String) :
    (h.chain id).find? (fun s => h.binds s name) =
      (h'.chain id).find? fun s => h'.binds s name := by
  rw [← hh.chain hid]
  have hregion : ∀ s ∈ h.chain id, region s := fun s hs => hh.confined.mem_chain hid hs
  -- From here on the chain is any list of scopes of the region.
  generalize h.chain id = ids at hregion ⊢
  induction ids with
  | nil => rfl
  | cons s ids ih =>
    obtain ⟨hs, hids⟩ := List.forall_mem_cons.mp hregion
    by_cases hbinds : h.binds s name
    · have hbinds' : h'.binds s name := by rwa [← hh.binds hs]
      rw [find?_binds_of_binds hbinds, find?_binds_of_binds hbinds']
    · have hbinds' : ¬ h'.binds s name := by rwa [← hh.binds hs]
      rw [find?_binds_of_not_binds hbinds, find?_binds_of_not_binds hbinds', ih hids]

theorem owner (hh : h.Alike region h') (hid : region id) (name : String) :
    h.owner id name = h'.owner id name := by
  rw [Heap.owner, Heap.owner, hh.find?_binds hid]

theorem lookup? (hh : h.Alike region h') (hid : region id) (name : String) :
    h.lookup? id name = h'.lookup? id name := by
  rw [lookup?_eq_bind, lookup?_eq_bind, ← hh.find?_binds hid]
  cases hfind : (h.chain id).find? fun s => h.binds s name with
  | none => rfl
  | some owner =>
    have howner : region owner := hh.confined.mem_chain hid (List.mem_of_find?_eq_some hfind)
    exact (hh.agree howner).bindings name

/-- **Listings are the same**, in whatever order the bindings were made: a listing is sorted, and
what it lists is what names stand for. -/
theorem visible (hh : h.Alike region h') (hid : region id) : h.visible id = h'.visible id := by
  refine SortedEntries.eq_of_forall_mem_iff (SortedEntries.sorted_ofList _)
    (SortedEntries.sorted_ofList _) ?_
  rintro ⟨name, v⟩
  show (name, v) ∈ h.visible id ↔ (name, v) ∈ h'.visible id
  rw [mem_visible_iff hh.distinct, mem_visible_iff hh.distinct', hh.lookup? hid]

/-- What is held along the chain of a scope of the region captures only scopes of the region. -/
theorem within_of_mem_chain (hh : h.Alike region h') (hid : region id) {id' : ScopeId}
    (hmem : id' ∈ h.chain id) {v : Value} (hv : v ∈ h.values id') :
    v.Within region fun _ => True :=
  hh.confined.values (hh.confined.mem_chain hid hmem) v hv

/-! ## Writing -/

theorem define (hh : h.Alike region h') {v : Value} (hv : v.Within region fun _ => True)
    (id : ScopeId) (name : String) :
    (h.define id name v).Alike region (h'.define id name v) where
  size := by rw [size_define, size_define, hh.size]
  agree {id'} hid' := by
    obtain ⟨hparent, hbindings⟩ := hh.agree hid'
    constructor
    · rw [parent?_define, parent?_define, hparent]
    · intro name'
      rw [local?_define, local?_define, hh.size, hbindings name']
  confined := hh.confined.define hv id name
  distinct := distinct_define hh.distinct id name v
  distinct' := distinct_define hh.distinct' id name v

theorem assign (hh : h.Alike region h') {v : Value} (hid : region id)
    (hv : v.Within region fun _ => True) (name : String) :
    (h.assign id name v).Alike region (h'.assign id name v) := by
  rw [Heap.assign, Heap.assign, ← hh.owner hid name]
  exact hh.define hv _ name

theorem alloc (hh : h.Alike region h') {scope : Scope}
    (hparent : ∀ parent ∈ scope.parent, region parent) (hdistinct : scope.bindings.Distinct)
    (hbindings : ∀ v ∈ scope.bindings.values, v.Within region fun _ => True) :
    (h.alloc scope).Alike region (h'.alloc scope) where
  size := by rw [size_alloc, size_alloc, hh.size]
  agree {id} hid := by
    obtain ⟨hparents, hlocals⟩ := hh.agree hid
    constructor
    · rw [parent?_alloc, parent?_alloc, hh.size, hparents]
    · intro name
      rw [local?_alloc, local?_alloc, hh.size, hlocals name]
  confined := hh.confined.alloc hparent hbindings
  distinct := distinct_alloc hh.distinct hdistinct
  distinct' := distinct_alloc hh.distinct' hdistinct

end Alike

end Heap

/-! ## Two runs that cannot be told apart -/

/-- The next scope, the next closure and the next generated symbol get the same numbers. -/
structure State.SameSupplies (s t : State) : Prop where
  scopes : s.heap.size = t.heap.size
  identities : s.identities = t.identities
  gensyms : s.gensyms = t.gensyms

/-- Two states that were reached in parallel from two others: alike inside the region, with the same
next numbers and the same depths, and with the same lines logged since. -/
structure State.Parallel (start start' : State) (region : ScopeId → Prop) (s t : State) : Prop where
  later : start.heap.size ≤ s.heap.size
  heaps : s.heap.Alike region t.heap
  identities : s.identities = t.identities
  gensyms : s.gensyms = t.gensyms
  depths : t.depths = s.depths
  log : ∃ lines : Array String, s.log = start.log ++ lines ∧ t.log = start'.log ++ lines

namespace State.Parallel

variable {start start' s t : State} {region : ScopeId → Prop}

/-- Writing to both heaps alike keeps the states parallel. -/
theorem write (hst : Parallel start start' region s t) {h h' : Heap}
    (hlater : s.heap.size ≤ h.size) (hh : h.Alike region h') :
    Parallel start start' region { s with heap := h } { t with heap := h' } :=
  { hst with later := Nat.le_trans hst.later hlater, heaps := hh }

theorem pushLine (hst : Parallel start start' region s t) (line : String) :
    Parallel start start' region { s with log := s.log.push line }
      { t with log := t.log.push line } := by
  obtain ⟨lines, hs, ht⟩ := hst.log
  refine { hst with log := ⟨lines.push line, ?_, ?_⟩ }
  · show s.log.push line = start.log ++ lines.push line
    rw [hs, Array.append_push]
  · show t.log.push line = start'.log ++ lines.push line
    rw [ht, Array.append_push]

theorem enter (hst : Parallel start start' region s t) (activity : Activity) :
    Parallel start start' region (s.enter activity) (t.enter activity) := by
  have hdepths := State.depths_enter_congr hst.depths activity
  cases activity <;> exact { hst with depths := hdepths }

theorem leave (hst : Parallel start start' region s t) (activity : Activity) :
    Parallel start start' region (s.leave activity) (t.leave activity) := by
  have hdepths := State.depths_leave_congr hst.depths activity
  cases activity <;> exact { hst with depths := hdepths }

end State.Parallel

/-- Runs in heaps that are alike inside a region to which all new scopes belong. -/
def Coupling.separate (start start' : State) (region : ScopeId → Prop)
    (hnew : ∀ id, start.heap.size ≤ id → region id) : Coupling where
  rel _ := State.Parallel start start' region
  captures _ := region
  hosts _ := region
  admits _ := True
  base := NoBase
  forgives _ := False
  captures_mono _ hid := hid
  hosts_mono _ hid := hid
  captures_of_hosts hid := hid
  base_nil := noBase_nil
  forgives_of_base := eq_nil_or_of_noBase
  eq_nil_of_admits _ hbelow := hbelow
  lookup name hst hid := by
    refine ⟨hst.heaps.lookup? hid name, fun v hv => ?_⟩
    obtain ⟨id', hmem, hv⟩ := Heap.exists_mem_values_of_lookup? hv
    exact hst.heaps.within_of_mem_chain hid hmem hv
  visible hst hid := by
    refine ⟨hst.heaps.visible hid, fun v hv => ?_⟩
    obtain ⟨id', hmem, hv⟩ := Heap.exists_mem_values_of_visible hv
    exact hst.heaps.within_of_mem_chain hid hmem hv
  define name hst hid hv :=
    hst.write (Nat.le_of_eq (Heap.size_define ..).symm) (hst.heaps.define hv _ name)
  assign name hst hid hv :=
    hst.write (Nat.le_of_eq (Heap.size_define ..).symm) (hst.heaps.assign hid hv name)
  alloc := by
    intro _ s t parent bindings hst hparent hdistinct hbindings
    refine ⟨hst.heaps.size, hnew _ hst.later, hst.write ?_ (hst.heaps.alloc ?_ hdistinct hbindings)⟩
    · rw [Heap.size_alloc]
      exact Nat.le_succ _
    · rintro _ ⟨⟩
      exact hparent
  identity hst := ⟨hst.identities, { hst with identities := congrArg (· + 1) hst.identities }⟩
  gensym hst := ⟨hst.gensyms, { hst with gensyms := congrArg (· + 1) hst.gensyms }⟩
  log line hst := hst.pushLine line
  limit {_ _ _ activity} hst hlimit := by
    refine Or.inr ?_
    rwa [State.depth_congr hst.depths activity]
  room {_ _ _ activity} hst hroom := by rwa [State.depth_congr hst.depths activity]
  enter hst _ := hst.enter _
  leave hst := hst.leave _

/-! ## What a run leaves alone -/

/-- The heap is confined to a region to which all new scopes belong, and nothing outside has
changed. -/
def HeapInvariant.keeping (start : Heap) (region : ScopeId → Prop)
    (hnew : ∀ id, start.size ≤ id → region id) : HeapInvariant :=
  { confined start.size region (fun _ => True) hnew with
    holds := fun h => (start.size ≤ h.size ∧ h.Confined region fun _ => True) ∧
      ∀ id, ¬ region id → h.scope? id = start.scope? id
    values := fun hholds => (confined start.size region (fun _ => True) hnew).values hholds.1
    define := by
      rintro h id v name ⟨hconfined, hkept⟩ hid hv
      refine ⟨(confined start.size region _ hnew).define name hconfined hid hv,
        fun id' hid' => ?_⟩
      have hne : id ≠ id' := fun heq => hid' (heq ▸ hid)
      rw [Heap.scope?_define, if_neg hne, hkept id' hid']
    assign := by
      rintro h id v name ⟨hconfined, hkept⟩ hid hv
      refine ⟨(confined start.size region _ hnew).assign name hconfined hid hv,
        fun id' hid' => ?_⟩
      -- The scope that an assignment reaches is on the chain, and so inside.
      have howner : region (h.owner id name) := by
        rcases Heap.owner_eq_or_binds h id name with heq | ⟨hmem, _⟩
        · rwa [heq]
        · exact hconfined.2.mem_chain hid hmem
      have hne : h.owner id name ≠ id' := fun heq => hid' (heq ▸ howner)
      rw [Heap.assign, Heap.scope?_define, if_neg hne, hkept id' hid']
    alloc := by
      rintro h parent bindings ⟨hconfined, hkept⟩ hparent hdistinct hbindings
      obtain ⟨hown, hconfined'⟩ :=
        (confined start.size region _ hnew).alloc hconfined hparent hdistinct hbindings
      refine ⟨hown, hconfined', fun id hid => ?_⟩
      have hne : id ≠ h.size := fun heq => hid (heq ▸ hown)
      rw [Heap.scope?_alloc, if_neg hne, hkept id hid] }

/-! ## Evaluation -/

/-- What an evaluation can come upon. -/
def Heap.EvalReaches (h : Heap) (e : Value) (env : Environment) (id : ScopeId) : Prop :=
  h.Reaches [.value e, .scope env.scope] (.scope id)

section Evaluation

variable {e : Value} {env : Environment} {s t : State}

/-- What an evaluation comes upon, together with what is not yet there. -/
theorem Heap.confined_evalReaches (h : Heap) (e : Value) (env : Environment) :
    h.Confined (fun id => h.EvalReaches e env id ∨ h.size ≤ id) fun _ => True :=
  Heap.confined_reaches fun _ _ _ _ => trivial

theorem within_evalReaches (h : Heap) (e : Value) (env : Environment) :
    e.Within (fun id => h.EvalReaches e env id ∨ h.size ≤ id) fun _ => True := by
  have hroot : h.Reaches [.value e, .scope env.scope] (.value e) := .root List.mem_cons_self
  exact (hroot.within fun _ _ _ _ => trivial).mono fun _ => Or.inl

theorem evalReaches_scope (h : Heap) (e : Value) (env : Environment) :
    h.EvalReaches e env env.scope := .root (List.mem_cons_of_mem _ List.mem_cons_self)

/-- **An evaluation leaves the scopes alone that it cannot come upon.** -/
theorem scope?_eval_of_not_reaches {id : ScopeId} (hid : id < s.heap.size)
    (hreaches : ¬ s.heap.EvalReaches e env id) :
    (eval e env s).2.heap.scope? id = s.heap.scope? id := by
  have hcoupled := Coupling.coupled_self (HeapInvariant.keeping s.heap
    (fun id => s.heap.EvalReaches e env id ∨ s.heap.size ≤ id) fun _ => Or.inr).coupling
  obtain ⟨_, hkept⟩ := HeapInvariant.holds_of_couples
    (hcoupled.eval (within_evalReaches s.heap e env) (Or.inl (evalReaches_scope s.heap e env)))
    ⟨⟨Nat.le_refl _, s.heap.confined_evalReaches e env⟩, fun _ _ => rfl⟩
  exact hkept id (not_or.mpr ⟨hreaches, Nat.not_le.mpr hid⟩)

/-- **Two evaluations go in parallel** if the heaps agree on what the first one can come upon. -/
theorem eval_parallel (hs : s.heap.Distinct) (ht : t.heap.Distinct)
    (hsupplies : s.SameSupplies t) (hdepths : s.depths = t.depths)
    (hagree : ∀ id, s.heap.EvalReaches e env id → s.heap.AgreeOn t.heap id) :
    (eval e env s).1 = (eval e env t).1 ∧
      State.Parallel s t (fun id => s.heap.EvalReaches e env id ∨ s.heap.size ≤ id)
        (eval e env s).2 (eval e env t).2 := by
  have hcoupled := Coupling.coupled_self (.separate s t
    (fun id => s.heap.EvalReaches e env id ∨ s.heap.size ≤ id) fun _ => Or.inr)
  have halike : s.heap.Alike (fun id => s.heap.EvalReaches e env id ∨ s.heap.size ≤ id) t.heap := by
    refine ⟨hsupplies.scopes, fun {id} hid => ?_, s.heap.confined_evalReaches e env, hs, ht⟩
    rcases hid with hid | hid
    · exact hagree id hid
    · have hid' : t.heap.size ≤ id := hsupplies.scopes ▸ hid
      constructor
      · rw [Heap.parent?_eq_none_of_le hid, Heap.parent?_eq_none_of_le hid']
      · intro name
        rw [Heap.local?, Heap.local?, Heap.scope?_eq_none_iff.mpr hid,
          Heap.scope?_eq_none_iff.mpr hid']
  have hstart : State.Parallel s t (fun id => s.heap.EvalReaches e env id ∨ s.heap.size ≤ id) s t :=
    ⟨Nat.le_refl _, halike, hsupplies.identities, hsupplies.gensyms, hdepths.symm, #[], by simp,
      by simp⟩
  have hend := hcoupled.eval (within_evalReaches s.heap e env)
    (Or.inl (evalReaches_scope s.heap e env)) hstart (Nat.le_refl _)
  show (Engine.full.eval e env s).1 = (Engine.full.eval e env t).1 ∧
    State.Parallel s t _ (Engine.full.eval e env s).2 (Engine.full.eval e env t).2
  generalize Engine.full.eval e env s = p, Engine.full.eval e env t = q at hend
  cases hend with
  | returned value _ _ rel =>
    obtain ⟨rfl, _⟩ := value
    exact ⟨rfl, rel⟩
  | failed rel => exact ⟨rfl, rel⟩
  | forgiven forgives => exact forgives.elim

/-- **Separate environments do not interfere.**  Take two states whose heaps agree on all scopes
that an evaluation can come upon, and in which the same numbers come next; elsewhere the heaps may
differ in any way.  No scope binds a name twice, as it is in all states that are reached.  Then the
evaluation can come upon the same scopes in both, and has the same result.  Afterwards the heaps
agree on the scopes that it could come upon and on those that it made, the same numbers come next,
and the same lines were logged.  In each of the two runs the scopes that it could not come upon are
as they were. -/
theorem separate_environments_do_not_interfere (hs : s.heap.Distinct) (ht : t.heap.Distinct)
    (hsupplies : s.SameSupplies t) (hdepths : s.depths = t.depths)
    (hagree : ∀ id, s.heap.EvalReaches e env id → s.heap.AgreeOn t.heap id) :
    (∀ id, s.heap.EvalReaches e env id ↔ t.heap.EvalReaches e env id) ∧
    (eval e env s).1 = (eval e env t).1 ∧
    (∀ id, s.heap.EvalReaches e env id ∨ s.heap.size ≤ id →
      (eval e env s).2.heap.AgreeOn (eval e env t).2.heap id) ∧
    (eval e env s).2.SameSupplies (eval e env t).2 ∧
    (∃ lines : Array String,
      (eval e env s).2.log = s.log ++ lines ∧ (eval e env t).2.log = t.log ++ lines) ∧
    ∀ id < s.heap.size, ¬ s.heap.EvalReaches e env id →
      (eval e env s).2.heap.scope? id = s.heap.scope? id ∧
        (eval e env t).2.heap.scope? id = t.heap.scope? id := by
  have hreaches : ∀ id, s.heap.EvalReaches e env id ↔ t.heap.EvalReaches e env id :=
    fun id => Heap.reaches_iff_of_agreeOn hs ht hagree (.scope id)
  obtain ⟨hresult, hparallel⟩ := eval_parallel hs ht hsupplies hdepths hagree
  refine ⟨hreaches, hresult, fun id hid => hparallel.heaps.agree hid, ?_, hparallel.log, ?_⟩
  · exact ⟨hparallel.heaps.size, hparallel.identities, hparallel.gensyms⟩
  · intro id hid hnot
    constructor
    · exact scope?_eval_of_not_reaches hid hnot
    · exact scope?_eval_of_not_reaches (hsupplies.scopes ▸ hid) (mt (hreaches id).mpr hnot)

end Evaluation

/-- A scope that binds `x`, and another one beside it that binds `y`. -/
def State.beside (y : Int64) : State :=
  { State.initial with
    heap := ⟨#[⟨.ofList [("x", .number 1)], none⟩, ⟨.ofList [("y", .number y)], none⟩]⟩ }

/-- The expression that assigns five to `x`. -/
def Value.assignFive : Value :=
  .call (.ofArgs (Builtin.form .assign).toValue [.symbol "x", .number 5])

/-- An assignment to `x`, beside one `y` and beside another. -/
theorem assignment_does_not_interfere :
    (eval .assignFive ⟨0⟩ (.beside 2)).1 = .ok (.number 5) ∧
      (eval .assignFive ⟨0⟩ (.beside 3)).1 = .ok (.number 5) ∧
      (eval .assignFive ⟨0⟩ (.beside 2)).2.heap.AgreeOn
        (eval .assignFive ⟨0⟩ (.beside 3)).2.heap 0 ∧
      (eval .assignFive ⟨0⟩ (.beside 2)).2.heap.scope? 1 = (State.beside 2).heap.scope? 1 ∧
      (eval .assignFive ⟨0⟩ (.beside 3)).2.heap.scope? 1 = (State.beside 3).heap.scope? 1 := by
  have hdistinct : ∀ y, (State.beside y).heap.Distinct := by
    rintro y (_ | _ | id) scope hscope
    · obtain rfl := Option.some.inj hscope
      exact Keywords.distinct_ofList _
    · obtain rfl := Option.some.inj hscope
      exact Keywords.distinct_ofList _
    · cases hscope
  -- The scope of the environment has no parent, and what it holds captures nothing.
  have hreaches : ∀ id, (State.beside 2).heap.EvalReaches .assignFive ⟨0⟩ id → id = 0 := by
    have hconfined : (State.beside 2).heap.Confined (fun id => id = 0) fun _ => True := by
      constructor
      · rintro _ parent rfl hparent
        cases hparent
      · rintro _ rfl v hv
        obtain rfl := List.mem_singleton.mp hv
        exact Value.within_number 1
    intro id hid
    refine hconfined.within_of_reaches (fun place hplace => ?_) hid
    rcases List.mem_cons.mp hplace with rfl | hplace
    · have hargs : ∀ v ∈ [Value.symbol "x", .number 5], v.Within (fun id => id = 0) fun _ => True :=
        List.forall_mem_cons.mpr ⟨Value.within_symbol "x",
          List.forall_mem_singleton.mpr (Value.within_number 5)⟩
      exact Value.within_call.mpr ⟨Value.within_builtin (.form .assign), hargs, fun _ hv => by
        cases hv⟩
    · obtain rfl := List.mem_singleton.mp hplace
      rfl
  have hagree : ∀ id, (State.beside 2).heap.EvalReaches .assignFive ⟨0⟩ id →
      (State.beside 2).heap.AgreeOn (State.beside 3).heap id := by
    intro id hid
    obtain rfl := hreaches id hid
    exact ⟨rfl, fun _ => rfl⟩
  have hresult : (eval .assignFive ⟨0⟩ (.beside 2)).1 = .ok (.number 5) := rfl
  obtain ⟨_, hsame, hheaps, _, _, hkept⟩ := separate_environments_do_not_interfere (hdistinct 2)
    (hdistinct 3) ⟨rfl, rfl, rfl⟩ rfl hagree
  have hone := hkept 1 (by decide) fun hid => absurd (hreaches 1 hid) (by decide)
  exact ⟨hresult, hsame.symm.trans hresult, hheaps 0 (Or.inl (evalReaches_scope _ _ _)), hone⟩

end Homoiconic
