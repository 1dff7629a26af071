import Homoiconic.Heap
import Homoiconic.Proofs.Bindings

/-!
# Scopes

The heap has three operations that change it, and two of them are one: assigning a name is defining
it in another scope.  This module says what making a scope and defining a name do to each scope: to
its parent, to the names it binds, and to the values it holds.

What is read along a chain is also brought down to single scopes here.  A value that is looked up or
listed is held by a scope on the chain, and a set of scopes that contains the parents of its members
contains their chains.
-/

namespace Homoiconic

/-! ## Sorted listings -/

namespace SortedEntries

universe u

variable {α : Type u}

theorem mem_insert {key : String} {value : α} {entries : List (String × α)} {entry : String × α}
    (h : entry ∈ insert key value entries) : entry = (key, value) ∨ entry ∈ entries := by
  induction entries with
  | nil => exact Or.inl (List.mem_singleton.mp h)
  | cons first rest ih =>
    obtain ⟨k, v⟩ := first
    unfold insert at h
    split at h
    · exact (List.mem_cons.mp h).imp_right (List.mem_cons_of_mem _)
    · split at h
      · exact List.mem_cons.mp h
      · rcases List.mem_cons.mp h with rfl | h
        · exact Or.inr List.mem_cons_self
        · exact (ih h).imp_right (List.mem_cons_of_mem _)

theorem mem_foldl_insert {entries sorted : List (String × α)} {entry : String × α}
    (h : entry ∈ entries.foldl (fun sorted entry => insert entry.1 entry.2 sorted) sorted) :
    entry ∈ entries ∨ entry ∈ sorted := by
  induction entries generalizing sorted with
  | nil => exact Or.inr h
  | cons first rest ih =>
    rcases ih h with h | h
    · exact Or.inl (List.mem_cons_of_mem _ h)
    · rcases mem_insert h with rfl | h
      · exact Or.inl List.mem_cons_self
      · exact Or.inr h

/-- A sorted listing lists nothing but the entries it is made from. -/
theorem mem_ofList {entries : List (String × α)} {entry : String × α}
    (h : entry ∈ ofList entries) : entry ∈ entries :=
  (mem_foldl_insert h).resolve_right List.not_mem_nil

end SortedEntries

namespace Heap

/-! ## Single scopes -/

/-- The parent of a scope, if it has one. -/
def parent? (h : Heap) (id : ScopeId) : Option ScopeId := (h.scope? id).bind Scope.parent

/-- The values that a scope itself holds. -/
def values (h : Heap) (id : ScopeId) : List Value := (h.entries id).map Prod.snd

theorem values_eq (h : Heap) (id : ScopeId) :
    h.values id = ((h.scope? id).map fun scope => scope.bindings.values).getD [] := by
  unfold values entries
  cases h.scope? id <;> rfl

theorem scope?_eq_none_iff {h : Heap} {id : ScopeId} : h.scope? id = none ↔ h.size ≤ id :=
  Array.getElem?_eq_none_iff

theorem lt_size_of_scope? {h : Heap} {id : ScopeId} {scope : Scope}
    (hscope : h.scope? id = some scope) : id < h.size := by
  refine Nat.lt_of_not_le ?_
  intro hsize
  rw [scope?_eq_none_iff.mpr hsize] at hscope
  cases hscope

theorem parent?_eq_none_of_le {h : Heap} {id : ScopeId} (hid : h.size ≤ id) :
    h.parent? id = none := by
  rw [parent?, scope?_eq_none_iff.mpr hid]
  rfl

theorem values_eq_nil_of_le {h : Heap} {id : ScopeId} (hid : h.size ≤ id) : h.values id = [] := by
  rw [values_eq, scope?_eq_none_iff.mpr hid]
  rfl

/-- A scope that binds a name exists. -/
theorem lt_size_of_binds {h : Heap} {id : ScopeId} {name : String} (hbinds : h.binds id name) :
    id < h.size := by
  obtain ⟨v, hlocal⟩ := Option.isSome_iff_exists.mp hbinds
  obtain ⟨scope, hscope, _⟩ := Option.bind_eq_some_iff.mp hlocal
  exact lt_size_of_scope? hscope

/-! ## Making a scope -/

@[simp] theorem size_alloc (h : Heap) (scope : Scope) : (h.alloc scope).size = h.size + 1 :=
  Array.size_push ..

theorem scope?_alloc (h : Heap) (scope : Scope) (id : ScopeId) :
    (h.alloc scope).scope? id = if id = h.size then some scope else h.scope? id :=
  Array.getElem?_push

/-- A new scope leaves the ones before it alone. -/
theorem scope?_alloc_of_lt {h : Heap} {id : ScopeId} (hid : id < h.size) (scope : Scope) :
    (h.alloc scope).scope? id = h.scope? id := by
  rw [scope?_alloc, if_neg (Nat.ne_of_lt hid)]

theorem parent?_alloc (h : Heap) (scope : Scope) (id : ScopeId) :
    (h.alloc scope).parent? id = if id = h.size then scope.parent else h.parent? id := by
  rw [parent?, scope?_alloc]
  split <;> rfl

theorem values_alloc (h : Heap) (scope : Scope) (id : ScopeId) :
    (h.alloc scope).values id = if id = h.size then scope.bindings.values else h.values id := by
  rw [values_eq, scope?_alloc]
  split
  · rfl
  · rw [values_eq]

theorem local?_alloc (h : Heap) (scope : Scope) (id : ScopeId) (name : String) :
    (h.alloc scope).local? id name =
      if id = h.size then scope.bindings.get? name else h.local? id name := by
  rw [local?, scope?_alloc]
  split <;> rfl

/-! ## Defining a name -/

@[simp] theorem size_define (h : Heap) (id : ScopeId) (name : String) (v : Value) :
    (h.define id name v).size = h.size := Array.size_modify

theorem scope?_define (h : Heap) (id : ScopeId) (name : String) (v : Value) (id' : ScopeId) :
    (h.define id name v).scope? id' =
      if id = id' then
        (h.scope? id').map fun scope => { scope with bindings := scope.bindings.insert name v }
      else h.scope? id' := by
  unfold define scope?
  rw [Array.getElem?_modify]

@[simp] theorem parent?_define (h : Heap) (id : ScopeId) (name : String) (v : Value)
    (id' : ScopeId) : (h.define id name v).parent? id' = h.parent? id' := by
  unfold parent?
  rw [scope?_define]
  split
  · cases h.scope? id' <;> rfl
  · rfl

/-- What a scope binds a name to after a definition. -/
theorem local?_define (h : Heap) (id : ScopeId) (name : String) (v : Value) (id' : ScopeId)
    (name' : String) :
    (h.define id name v).local? id' name' =
      if id' = id ∧ name' = name ∧ id < h.size then some v else h.local? id' name' := by
  unfold local?
  rw [scope?_define]
  by_cases hid : id = id'
  · subst hid
    cases hscope : h.scope? id with
    | none =>
      have hsize : ¬ id < h.size := Nat.not_lt.mpr (scope?_eq_none_iff.mp hscope)
      simp [hsize]
    | some scope =>
      have hsize := lt_size_of_scope? hscope
      by_cases hname : name' = name
      · simp [hname, hsize]
      · simp [hname, Keywords.get?_insert_of_ne _ hname]
  · simp [hid, Ne.symm hid]

/-- The names a scope binds after a definition are those it bound before, and the name defined if it
is that scope. -/
theorem binds_define_iff {h : Heap} {id id' : ScopeId} {name name' : String} {v : Value} :
    (h.define id name v).binds id' name' ↔
      h.binds id' name' ∨ (id' = id ∧ name' = name ∧ id < h.size) := by
  rw [binds, binds, local?_define]
  by_cases hwritten : id' = id ∧ name' = name ∧ id < h.size
  · simp [hwritten]
  · simp [hwritten]

/-- What a scope holds after a definition was there before, or is what was defined in it. -/
theorem mem_values_define {h : Heap} {id id' : ScopeId} {name : String} {v w : Value}
    (hw : w ∈ (h.define id name v).values id') : w ∈ h.values id' ∨ (id' = id ∧ w = v) := by
  rw [values_eq, scope?_define] at hw
  rw [values_eq]
  by_cases hid : id = id'
  · rw [if_pos hid] at hw
    cases hscope : h.scope? id' with
    | none => simp [hscope] at hw
    | some scope =>
      rw [hscope] at hw
      rcases Keywords.eq_or_mem_values_of_insert hw with rfl | hw
      · exact Or.inr ⟨hid.symm, rfl⟩
      · exact Or.inl hw
  · rw [if_neg hid] at hw
    exact Or.inl hw

/-! ## Chains -/

theorem mem_of_mem_chainUpTo {R : ScopeId → Prop} {h : Heap}
    (hparents : ∀ id, R id → ∀ parent ∈ h.parent? id, R parent) {steps : Nat} {id id' : ScopeId}
    (hid : R id) (hmem : id' ∈ h.chainUpTo steps id) : R id' := by
  induction steps generalizing id with
  | zero => cases hmem
  | succ steps ih =>
    unfold chainUpTo at hmem
    cases hscope : h.scope? id with
    | none => simp [hscope] at hmem
    | some scope =>
      cases hparent : scope.parent with
      | none =>
        have heq : id' = id := by simpa [hscope, hparent] using hmem
        exact heq ▸ hid
      | some parent =>
        have hcases : id' = id ∨ id' ∈ h.chainUpTo steps parent := by
          simpa [hscope, hparent] using hmem
        rcases hcases with rfl | hmem
        · exact hid
        · exact ih (hparents id hid parent (by simp [parent?, hscope, hparent])) hmem

/-- **Scopes that come with their parents come with their chains.** -/
theorem mem_of_mem_chain {R : ScopeId → Prop} {h : Heap}
    (hparents : ∀ id, R id → ∀ parent ∈ h.parent? id, R parent) {id id' : ScopeId} (hid : R id)
    (hmem : id' ∈ h.chain id) : R id' := mem_of_mem_chainUpTo hparents hid hmem

/-- What is looked up is held by a scope on the chain. -/
theorem exists_mem_values_of_lookup? {h : Heap} {id : ScopeId} {name : String} {v : Value}
    (hv : h.lookup? id name = some v) : ∃ id' ∈ h.chain id, v ∈ h.values id' := by
  obtain ⟨id', hid', hlocal⟩ := List.exists_of_findSome?_eq_some hv
  refine ⟨id', hid', ?_⟩
  obtain ⟨scope, hscope, hget⟩ := Option.bind_eq_some_iff.mp hlocal
  obtain ⟨before, after, hentries, _⟩ := List.lookup_eq_some_iff.mp hget
  rw [values_eq, hscope]
  show v ∈ scope.bindings.entries.map Prod.snd
  rw [hentries]
  simp

/-- What is listed is held by a scope on the chain. -/
theorem exists_mem_values_of_visible {h : Heap} {id : ScopeId} {v : Value}
    (hv : v ∈ (h.visible id).map Prod.snd) : ∃ id' ∈ h.chain id, v ∈ h.values id' := by
  obtain ⟨entry, hentry, rfl⟩ := List.mem_map.mp hv
  obtain ⟨id', hid', hmem⟩ := List.mem_flatMap.mp (SortedEntries.mem_ofList hentry)
  exact ⟨id', List.mem_reverse.mp hid', List.mem_map_of_mem hmem⟩

/-! ## Assigning -/

/-- The scope an assignment reaches is the given one, or one on its chain that binds the name
already. -/
theorem owner_eq_or_binds (h : Heap) (id : ScopeId) (name : String) :
    h.owner id name = id ∨ (h.owner id name ∈ h.chain id ∧ h.binds (h.owner id name) name) := by
  unfold owner
  cases hfind : (h.chain id).find? fun s => h.binds s name with
  | none => exact Or.inl rfl
  | some found =>
    have hbinds := List.find?_some hfind
    exact Or.inr ⟨List.mem_of_find?_eq_some hfind, hbinds⟩

end Heap

end Homoiconic
