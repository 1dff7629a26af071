import Homoiconic.Proofs.Listings
import Homoiconic.Proofs.Requests

/-!
# What names stand for

Scopes form a forest: every scope has at most one parent, and many scopes can have the same one.  A
name stands for what the first scope that binds it holds, going up from a scope along parents.  This
scope is the *first binder* of the name (`Heap.FirstBinder`), and it is defined by going up, with no
mention of a list of scopes.

A scope is shared by all who hold it, and it is on the way up of all scopes below it.  So a write is
seen in many places, and in others it is hidden by a scope in between.  What decides is the first
binder after the write: an environment whose first binder is the scope that was written to sees the
new value, and for every other environment, and for every other name, nothing has changed
(`State.SeesWrite`).

The heap looks names up along the chain of a scope, a list that is cut off after so many steps.  In
a heap where scopes come after their parents the cut is never reached (`chain_eq_cons`), so what is
found on the chain is what is found going up (`firstBinder_iff_find?`).

The listing of an environment inserts what its scopes hold from the outermost scope to the
innermost.  No scope binds a name twice, so what is inserted last under a name is what the name
stands for (`mem_visible_iff`).
-/

namespace Homoiconic

namespace Heap

variable {h : Heap} {id id' owner : ScopeId} {name : String} {v : Value}

/-! ## First binders -/

/-- The first scope that binds a name, going up from a scope along parents. -/
inductive FirstBinder (h : Heap) (name : String) : ScopeId → ScopeId → Prop
  | here {id : ScopeId} : h.binds id name → FirstBinder h name id id
  | above {id parent owner : ScopeId} : ¬ h.binds id name → h.parent? id = some parent →
      FirstBinder h name parent owner → FirstBinder h name id owner

/-- Scopes come after their parents. -/
def ParentsFirst (h : Heap) : Prop := ∀ id parent, h.parent? id = some parent → parent < id

theorem WellFormed.parentsFirst (hh : h.WellFormed) : h.ParentsFirst := fun _ _ => hh.parent_lt

/-! ## Chains are ways up -/

theorem chainUpTo_succ (h : Heap) (steps : Nat) (hid : id < h.size) :
    h.chainUpTo (steps + 1) id = id :: ((h.parent? id).map (h.chainUpTo steps)).getD [] := by
  cases hscope : h.scope? id with
  | none => exact absurd hid (Nat.not_lt.mpr (scope?_eq_none_iff.mp hscope))
  | some scope =>
    cases hparent : scope.parent with
    | none => simp [chainUpTo, parent?, hscope, hparent]
    | some parent => simp [chainUpTo, parent?, hscope, hparent]

theorem chainUpTo_of_le (steps : Nat) (hid : h.size ≤ id) : h.chainUpTo steps id = [] := by
  cases steps with
  | zero => rfl
  | succ steps => rw [chainUpTo, scope?_eq_none_iff.mpr hid]

/-- A chain is not cut off where scopes come after their parents: more steps than the number of the
scope change nothing. -/
theorem chainUpTo_congr (hh : h.ParentsFirst) {m n : Nat} (hm : id < m) (hn : id < n) :
    h.chainUpTo m id = h.chainUpTo n id := by
  induction m generalizing n id with
  | zero => exact absurd hm (Nat.not_lt_zero id)
  | succ m ih =>
    cases n with
    | zero => exact absurd hn (Nat.not_lt_zero id)
    | succ n =>
      rcases Nat.lt_or_ge id h.size with hid | hid
      · rw [chainUpTo_succ h m hid, chainUpTo_succ h n hid]
        cases hparent : h.parent? id with
        | none => rfl
        | some parent =>
          have hlt : parent < id := hh id parent hparent
          have hup : h.chainUpTo m parent = h.chainUpTo n parent :=
            ih (Nat.lt_of_lt_of_le hlt (Nat.le_of_lt_succ hm))
              (Nat.lt_of_lt_of_le hlt (Nat.le_of_lt_succ hn))
          simp only [Option.map_some, Option.getD_some, hup]
      · rw [chainUpTo_of_le _ hid, chainUpTo_of_le _ hid]

/-- **A chain is a scope and the chain of its parent.** -/
theorem chain_eq_cons (hh : h.ParentsFirst) (hid : id < h.size) :
    h.chain id = id :: ((h.parent? id).map h.chain).getD [] := by
  rw [chain, chainUpTo_succ h id hid]
  cases hparent : h.parent? id with
  | none => rfl
  | some parent =>
    have hlt : parent < id := hh id parent hparent
    have hup : h.chainUpTo id parent = h.chain parent :=
      chainUpTo_congr hh hlt (Nat.lt_succ_self parent)
    simp only [Option.map_some, Option.getD_some, hup]

theorem chain_eq_nil (hid : h.size ≤ id) : h.chain id = [] := chainUpTo_of_le _ hid

/-! ## Searching along a chain

One step of the search is one step up: it ends at a scope that binds the name, and at one without a
parent, and otherwise it goes on at the parent. -/

theorem find?_binds_of_binds (hbinds : h.binds id name) (ids : List ScopeId) :
    (id :: ids).find? (fun s => h.binds s name) = some id :=
  List.find?_cons_of_pos (p := fun s => h.binds s name) hbinds

theorem find?_binds_of_not_binds (hbinds : ¬ h.binds id name) (ids : List ScopeId) :
    (id :: ids).find? (fun s => h.binds s name) = ids.find? fun s => h.binds s name :=
  List.find?_cons_of_neg (p := fun s => h.binds s name) hbinds

theorem find?_chain_of_binds (hh : h.ParentsFirst) (hbinds : h.binds id name) :
    (h.chain id).find? (fun s => h.binds s name) = some id := by
  rw [chain_eq_cons hh (lt_size_of_binds hbinds), find?_binds_of_binds hbinds]

theorem find?_chain_of_parent (hh : h.ParentsFirst) {parent : ScopeId}
    (hbinds : ¬ h.binds id name) (hparent : h.parent? id = some parent) :
    (h.chain id).find? (fun s => h.binds s name) =
      (h.chain parent).find? fun s => h.binds s name := by
  have hid : id < h.size := by
    refine Nat.lt_of_not_le fun hid => ?_
    rw [parent?_eq_none_of_le hid] at hparent
    cases hparent
  rw [chain_eq_cons hh hid, find?_binds_of_not_binds hbinds, hparent]
  rfl

theorem find?_chain_of_root (hh : h.ParentsFirst) (hbinds : ¬ h.binds id name)
    (hparent : h.parent? id = none) : (h.chain id).find? (fun s => h.binds s name) = none := by
  rcases Nat.lt_or_ge id h.size with hid | hid
  · rw [chain_eq_cons hh hid, find?_binds_of_not_binds hbinds, hparent]
    rfl
  · rw [chain_eq_nil hid]
    rfl

/-- **The first binder is the first scope of the chain that binds the name.** -/
theorem firstBinder_iff_find? (hh : h.ParentsFirst) :
    h.FirstBinder name id owner ↔ (h.chain id).find? (fun s => h.binds s name) = some owner := by
  constructor
  · intro hbinder
    induction hbinder with
    | here hbinds => exact find?_chain_of_binds hh hbinds
    | above hbinds hparent _ ih => exact (find?_chain_of_parent hh hbinds hparent).trans ih
  · intro hfind
    induction id using Nat.strong_induction_on with
    | _ id ih =>
      by_cases hbinds : h.binds id name
      · rw [find?_chain_of_binds hh hbinds] at hfind
        obtain rfl := Option.some.inj hfind
        exact .here hbinds
      · cases hparent : h.parent? id with
        | none =>
          rw [find?_chain_of_root hh hbinds hparent] at hfind
          cases hfind
        | some parent =>
          rw [find?_chain_of_parent hh hbinds hparent] at hfind
          exact .above hbinds hparent (ih parent (hh id parent hparent) hfind)

/-! ## Looking a name up -/

/-- What a list of scopes finds is held by the first of them that binds the name. -/
theorem findSome?_local? (h : Heap) (name : String) (ids : List ScopeId) :
    ids.findSome? (fun s => h.local? s name) =
      (ids.find? fun s => h.binds s name).bind fun s => h.local? s name := by
  induction ids with
  | nil => rfl
  | cons id ids ih =>
    rw [List.findSome?_cons]
    cases hlocal : h.local? id name with
    | none =>
      have hbinds : ¬ h.binds id name := by simp [binds, hlocal]
      rw [find?_binds_of_not_binds hbinds, ih]
    | some v =>
      have hbinds : h.binds id name := by simp [binds, hlocal]
      rw [find?_binds_of_binds hbinds, Option.bind_some, hlocal]

theorem lookup?_eq_bind (h : Heap) (id : ScopeId) (name : String) :
    h.lookup? id name =
      ((h.chain id).find? fun s => h.binds s name).bind fun s => h.local? s name :=
  findSome?_local? h name (h.chain id)

/-- **A name stands for what its first binder holds.** -/
theorem lookup?_eq_some_iff (hh : h.ParentsFirst) :
    h.lookup? id name = some v ↔
      ∃ owner, h.FirstBinder name id owner ∧ h.local? owner name = some v := by
  rw [lookup?_eq_bind, Option.bind_eq_some_iff]
  exact exists_congr fun owner => and_congr_left' (firstBinder_iff_find? hh).symm

/-- Whether a name is bound is whether it stands for something. -/
theorem contains_eq_isSome (h : Heap) (id : ScopeId) (name : String) :
    h.contains id name = (h.lookup? id name).isSome := by
  unfold contains lookup?
  induction h.chain id with
  | nil => rfl
  | cons s ids ih =>
    rw [List.any_cons, List.findSome?_cons, ih, binds]
    cases h.local? s name <;> rfl

/-- The scope that an assignment reaches is the first binder, or the scope itself without one. -/
theorem owner_spec (hh : h.ParentsFirst) (id : ScopeId) (name : String) :
    h.FirstBinder name id (h.owner id name) ∨
      (¬ ∃ owner, h.FirstBinder name id owner) ∧ h.owner id name = id := by
  unfold owner
  cases hfind : (h.chain id).find? fun s => h.binds s name with
  | none =>
    refine Or.inr ⟨?_, rfl⟩
    rintro ⟨owner, hbinder⟩
    rw [firstBinder_iff_find? hh, hfind] at hbinder
    cases hbinder
  | some owner => exact Or.inl ((firstBinder_iff_find? hh).mpr hfind)

/-! ## Writing a name -/

/-- A write moves no scope. -/
theorem chain_define (h : Heap) (id : ScopeId) (name : String) (v : Value) :
    (h.define id name v).chain = h.chain := by
  have hup : ∀ steps id', (h.define id name v).chainUpTo steps id' = h.chainUpTo steps id' := by
    intro steps
    induction steps with
    | zero => exact fun _ => rfl
    | succ steps ih =>
      intro id'
      rcases Nat.lt_or_ge id' h.size with hid | hid
      · rw [chainUpTo_succ _ steps (by rwa [size_define]), chainUpTo_succ h steps hid,
          parent?_define, funext ih]
      · rw [chainUpTo_of_le _ hid, chainUpTo_of_le _ (by rwa [size_define])]
  exact funext fun id' => hup (id' + 1) id'

theorem parentsFirst_define (hh : h.ParentsFirst) (id : ScopeId) (name : String) (v : Value) :
    (h.define id name v).ParentsFirst := fun id' parent hparent =>
  hh id' parent (by rwa [parent?_define] at hparent)

/-- Other names stand for what they stood for. -/
theorem lookup?_define_of_ne {name' : String} (hne : name' ≠ name) :
    (h.define id name v).lookup? id' name' = h.lookup? id' name' := by
  have hlocal : ∀ s, (h.define id name v).local? s name' = h.local? s name' := by
    intro s
    rw [local?_define, if_neg fun hand => hne hand.2.1]
  rw [lookup?, lookup?, chain_define, funext hlocal]

/-- **Where the first binder is the scope that was written to, the new value is seen.** -/
theorem lookup?_define_of_firstBinder (hh : h.ParentsFirst)
    (hbinder : (h.define id name v).FirstBinder name id' id) :
    (h.define id name v).lookup? id' name = some v := by
  have hparents := parentsFirst_define hh id name v
  refine (lookup?_eq_some_iff hparents).mpr ⟨id, hbinder, ?_⟩
  have hfind := (firstBinder_iff_find? hparents).mp hbinder
  have hbinds : (h.define id name v).binds id name :=
    List.find?_some (p := fun s => (h.define id name v).binds s name) hfind
  have hsize : id < h.size := by
    have hlt := lt_size_of_binds hbinds
    rwa [size_define] at hlt
  rw [local?_define, if_pos ⟨rfl, rfl, hsize⟩]

/-- **Where it is another scope, or there is none, nothing has changed.** -/
theorem lookup?_define_of_not_firstBinder (hh : h.ParentsFirst)
    (hbinder : ¬ (h.define id name v).FirstBinder name id' id) :
    (h.define id name v).lookup? id' name = h.lookup? id' name := by
  rw [firstBinder_iff_find? (parentsFirst_define hh id name v), chain_define] at hbinder
  rw [lookup?, lookup?, chain_define]
  -- Up to the first binder after the write no scope on the chain is the one that was written to.
  generalize h.chain id' = ids at hbinder ⊢
  induction ids with
  | nil => rfl
  | cons s ids ih =>
    have hlocal := local?_define h id name v s name
    by_cases hs : s = id ∧ id < h.size
    · obtain ⟨rfl, hsize⟩ := hs
      rw [if_pos ⟨rfl, rfl, hsize⟩] at hlocal
      have hbinds : (h.define s name v).binds s name := by rw [binds, hlocal]; rfl
      rw [find?_binds_of_binds hbinds] at hbinder
      exact absurd rfl hbinder
    · rw [if_neg fun hand => hs ⟨hand.1, hand.2.2⟩] at hlocal
      rw [List.findSome?_cons, List.findSome?_cons, hlocal]
      cases hheld : h.local? s name with
      | some w => rfl
      | none =>
        have hbinds : ¬ (h.define id name v).binds s name := by simp [binds, hlocal, hheld]
        rw [find?_binds_of_not_binds hbinds] at hbinder
        exact ih hbinder

/-! ## Listing names -/

/-- A scope that binds each name once holds what it is listed with, read from either end. -/
theorem lookup_reverse_entries (hdistinct : h.Distinct) (id : ScopeId) (name : String) :
    (h.entries id).reverse.lookup name = h.local? id name := by
  unfold entries local?
  cases hscope : h.scope? id with
  | none => rfl
  | some scope => exact Keywords.lookup_reverse (hdistinct id scope hscope) name

/-- **The listing of an environment lists what each name stands for.** -/
theorem mem_visible_iff (hdistinct : h.Distinct) :
    (name, v) ∈ h.visible id ↔ h.lookup? id name = some v := by
  have hread : (((h.chain id).reverse.flatMap h.entries).reverse).lookup name =
      h.lookup? id name := by
    rw [List.reverse_flatMap, List.reverse_reverse, Keywords.lookup_flatMap, lookup?]
    refine congrArg (fun f => (h.chain id).findSome? f) (funext fun s => ?_)
    exact lookup_reverse_entries hdistinct s name
  rw [visible, SortedEntries.mem_ofList_iff, hread]

end Heap

/-! ## Environments -/

/-- After a value was written to a name in a scope: an environment whose first binder of the name is
that scope sees the value, and everything else is looked up as before. -/
def State.SeesWrite (s s' : State) (owner : ScopeId) (name : String) (v : Value) : Prop :=
  ∀ (env : Environment) (name' : String),
    (name' = name ∧ s'.heap.FirstBinder name env.scope owner →
      env.get? name' s' = (.ok (some v), s')) ∧
    (¬ (name' = name ∧ s'.heap.FirstBinder name env.scope owner) →
      (env.get? name' s').1 = (env.get? name' s).1)

theorem Environment.get?_run (env : Environment) (name : String) (s : State) :
    env.get? name s = (.ok (s.heap.lookup? env.scope name), s) := rfl

theorem seesWrite_define {s : State} (hs : s.heap.ParentsFirst) (owner : ScopeId) (name : String)
    (v : Value) :
    s.SeesWrite { s with heap := s.heap.define owner name v } owner name v := by
  intro env name'
  rw [Environment.get?_run, Environment.get?_run]
  constructor
  · rintro ⟨rfl, hbinder⟩
    rw [Heap.lookup?_define_of_firstBinder hs hbinder]
  · intro hnot
    by_cases hname : name' = name
    · subst hname
      rw [Heap.lookup?_define_of_not_firstBinder hs fun hbinder => hnot ⟨rfl, hbinder⟩]
    · rw [Heap.lookup?_define_of_ne hname]

/-- **Names resolve along parents.**  In every state that can be reached and for every environment:
a name stands for what its first binder holds, and is contained in the environment exactly if it
stands for something.  An assignment writes to the first binder, or to the scope of the environment
if there is none, a definition always to the latter; either write is seen exactly by the
environments whose first binder of the name is then the scope that was written to.  The listing of
the environment is sorted strictly by the bytes of the names, and lists every name with what it
stands for. -/
theorem names_resolve_to_first_binders {s : State} (hs : s.Reachable) (env : Environment)
    (name : String) (v : Value) :
    (∃ found, env.get? name s = (.ok found, s) ∧
      env.contains name s = (.ok found.isSome, s) ∧
      ∀ x, found = some x ↔
        ∃ owner, s.heap.FirstBinder name env.scope owner ∧ s.heap.local? owner name = some x) ∧
    (∃ owner,
      (s.heap.FirstBinder name env.scope owner ∨
        (¬ ∃ binder, s.heap.FirstBinder name env.scope binder) ∧ owner = env.scope) ∧
      s.SeesWrite (env.set name v s).2 owner name v) ∧
    s.SeesWrite (env.define name v s).2 env.scope name v ∧
    ∃ entries, env.bindings s = (.ok entries, s) ∧
      (entries.Pairwise fun a b => Text.bytes a.1 < Text.bytes b.1) ∧
      ∀ m x, (m, x) ∈ entries ↔ env.get? m s = (.ok (some x), s) := by
  have hh := hs.wellFormed
  have hparents := hh.parentsFirst
  refine ⟨⟨s.heap.lookup? env.scope name, rfl, ?_, fun x => ?_⟩, ?_, ?_, ?_⟩
  · rw [← Heap.contains_eq_isSome]
    rfl
  · exact Heap.lookup?_eq_some_iff hparents
  · exact ⟨s.heap.owner env.scope name, Heap.owner_spec hparents env.scope name,
      seesWrite_define hparents _ name v⟩
  · exact seesWrite_define hparents env.scope name v
  · refine ⟨s.heap.visible env.scope, rfl, ?_, fun m x => ?_⟩
    · exact (SortedEntries.sorted_ofList _).imp Text.lt_iff_bytes_lt.mp
    · rw [Heap.mem_visible_iff hh.distinct, Environment.get?_run]
      constructor
      · intro hlookup
        rw [hlookup]
      · intro hget
        exact Except.ok.inj (congrArg Prod.fst hget)

/-- A child assigns to a name that its parent binds: the parent is the first binder, and both see
the new value. -/
theorem child_assigns_to_parent : ∃ s : State, s.Reachable ∧
    s.SeesWrite ((⟨1⟩ : Environment).set "x" (.number 2) s).2 0 "x" (.number 2) ∧
    (((⟨0⟩ : Environment).get? "x" ((⟨1⟩ : Environment).set "x" (.number 2) s).2).1 =
      .ok (some (.number 2))) := by
  let s₀ := (Environment.new .initial).2
  let s₁ := ((⟨0⟩ : Environment).define "x" (.number 1) s₀).2
  let s₂ := ((⟨0⟩ : Environment).child s₁).2
  have hnew : s₀.Reachable := .request .initial .new (by decide) (List.forall_mem_nil _)
  have hdefined : s₁.Reachable := .request hnew (.define ⟨0⟩ "x" (.number 1)) (by decide)
    (List.forall_mem_singleton.mpr (Value.within_number 1))
  have hchild : s₂.Reachable := .request hdefined (.child ⟨0⟩) (by decide) (List.forall_mem_nil _)
  have habove : s₂.heap.FirstBinder "x" 1 0 := .above (by decide) rfl (.here rfl)
  obtain ⟨_, ⟨owner, howner, hsees⟩, _⟩ :=
    names_resolve_to_first_binders hchild ⟨1⟩ "x" (.number 2)
  obtain rfl : owner = 0 := by
    rcases howner with hbinder | ⟨hnone, _⟩
    · rw [Heap.firstBinder_iff_find? hchild.wellFormed.parentsFirst] at habove hbinder
      exact Option.some.inj (hbinder.symm.trans habove)
    · exact absurd ⟨0, habove⟩ hnone
  have hbinds : ((⟨1⟩ : Environment).set "x" (.number 2) s₂).2.heap.binds 0 "x" := by
    decide +kernel
  have hparent := (hsees ⟨0⟩ "x").1 ⟨rfl, .here hbinds⟩
  exact ⟨s₂, hchild, hsees, congrArg Prod.fst hparent⟩

end Homoiconic
