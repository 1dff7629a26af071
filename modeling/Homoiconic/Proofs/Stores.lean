import Homoiconic.Environment
import Homoiconic.Proofs.Coupling.HeapInvariant

/-!
# The heaps that occur

A heap is an array of scopes, and a scope is any bindings with any parent.  So there are heaps in
which a scope is its own parent, in which a closure captures a scope that was never made, or in
which a scope binds a name twice.  None of them occurs.  A scope is made after its parent, a closure
is made in a scope that is there, and bindings are made by insertion.

`Heap.WellFormed` says these three things.  They belong together, since the second is what keeps the
first: the scope of a call is a child of the scope that a closure captures.  They are an invariant
of every run (`HeapInvariant.wellFormed`), as long as the values that come into it from outside
capture scopes of the heap (`Value.LivesIn`).  Built-in callables and what is made from JSON data
capture nothing, so they do.
-/

namespace Homoiconic

/-! ## Well-formed heaps -/

/-- The scopes that the closures in a value capture are among so many. -/
abbrev Value.LivesBelow (size : Nat) (v : Value) : Prop := v.Within (· < size) fun _ => True

/-- The scopes that the closures in a value capture are scopes of the heap. -/
def Value.LivesIn (h : Heap) (v : Value) : Prop := v.LivesBelow h.size

namespace Heap

/-- No scope binds a name twice. -/
def Distinct (h : Heap) : Prop := ∀ id scope, h.scope? id = some scope → scope.bindings.Distinct

/-- Scopes come after their parents, what they hold captures scopes of the heap, and no scope binds
a name twice. -/
structure WellFormed (h : Heap) : Prop where
  parent_lt {id parent : ScopeId} : h.parent? id = some parent → parent < id
  livesIn {id : ScopeId} : ∀ v ∈ h.values id, v.LivesIn h
  distinct : h.Distinct

theorem distinct_define {h : Heap} (hdistinct : h.Distinct) (id : ScopeId) (name : String)
    (v : Value) : (h.define id name v).Distinct := by
  intro id' scope hscope
  rw [scope?_define] at hscope
  by_cases hid : id = id'
  · rw [if_pos hid] at hscope
    obtain ⟨old, hold, rfl⟩ := Option.map_eq_some_iff.mp hscope
    exact Keywords.distinct_insert (hdistinct id' old hold) name v
  · rw [if_neg hid] at hscope
    exact hdistinct id' scope hscope

theorem distinct_alloc {h : Heap} (hdistinct : h.Distinct) {scope : Scope}
    (hscope : scope.bindings.Distinct) : (h.alloc scope).Distinct := by
  intro id found hfound
  rw [scope?_alloc] at hfound
  by_cases hid : id = h.size
  · rw [if_pos hid] at hfound
    obtain rfl := Option.some.inj hfound
    exact hscope
  · rw [if_neg hid] at hfound
    exact hdistinct id found hfound

theorem wellFormed_empty : empty.WellFormed where
  parent_lt hparent := by cases hparent
  livesIn _ hv := by cases hv
  distinct _ _ hscope := by cases hscope

namespace WellFormed

variable {h : Heap}

theorem define (hh : h.WellFormed) {v : Value} (hv : v.LivesIn h) (id : ScopeId)
    (name : String) : (h.define id name v).WellFormed where
  parent_lt hparent := by
    rw [parent?_define] at hparent
    exact hh.parent_lt hparent
  livesIn w hw := by
    rw [Value.LivesIn, size_define]
    rcases mem_values_define hw with hw | ⟨_, rfl⟩
    · exact hh.livesIn w hw
    · exact hv
  distinct := distinct_define hh.distinct id name v

/-- A scope is made after its parent: this is what makes the numbers along a chain decrease. -/
theorem alloc (hh : h.WellFormed) {scope : Scope}
    (hparent : ∀ parent ∈ scope.parent, parent < h.size) (hdistinct : scope.bindings.Distinct)
    (hbindings : ∀ v ∈ scope.bindings.values, v.LivesIn h) :
    (h.alloc scope).WellFormed where
  parent_lt {id parent} hmem := by
    rw [parent?_alloc] at hmem
    by_cases hid : id = h.size
    · rw [if_pos hid] at hmem
      rw [hid]
      exact hparent parent hmem
    · rw [if_neg hid] at hmem
      exact hh.parent_lt hmem
  livesIn {id} v hv := by
    have hlater : v.LivesIn h → v.LivesIn (h.alloc scope) := by
      refine Value.Within.mono fun id hid => ?_
      rw [size_alloc]
      exact Nat.lt_succ_of_lt hid
    rw [values_alloc] at hv
    by_cases hid : id = h.size
    · rw [if_pos hid] at hv
      exact hlater (hbindings v hv)
    · rw [if_neg hid] at hv
      exact hlater (hh.livesIn v hv)
  distinct := distinct_alloc hh.distinct hdistinct

end WellFormed

end Heap

/-! ## The invariant of runs -/

/-- Heaps stay well formed as long as closures capture scopes of the heap and evaluation runs in
such scopes. -/
def HeapInvariant.wellFormed : HeapInvariant where
  holds := Heap.WellFormed
  captures size id := id < size
  hosts size id := id < size
  admits _ := True
  captures_mono hsize hid := Nat.lt_of_lt_of_le hid hsize
  hosts_mono hsize hid := Nat.lt_of_lt_of_le hid hsize
  captures_of_hosts hid := hid
  values hh _ _ v hv := hh.livesIn v hv
  define name hh _ hv := hh.define hv _ name
  assign name hh _ hv := hh.define hv _ name
  alloc hh hparent hdistinct hbindings := by
    refine ⟨Nat.lt_succ_self _, hh.alloc ?_ hdistinct hbindings⟩
    rintro _ ⟨⟩
    exact hparent

/-! ## What comes from outside -/

namespace Value

variable {captures : ScopeId → Prop} {admits : StackNative → Prop}

/-- A built-in callable captures nothing. -/
theorem within_builtin (b : Builtin) : b.toValue.Within captures admits := by
  cases b with
  | primitive op => exact within_leaf rfl rfl rfl
  | form f => exact within_leaf rfl rfl rfl

mutual

/-- What is made from JSON data captures nothing. -/
theorem within_ofJson : ∀ {j : Json} {v : Value}, ofJson j = .ok v → v.Within captures admits
  | .null, _, h => by cases h; exact within_nil
  | .bool b, _, h => by cases h; exact within_bool b
  | .number n, v, h => by
    unfold ofJson at h
    split at h
    · cases h
      exact within_number _
    · cases h
  | .string s, _, h => by cases h; exact within_string s
  | .array items, v, h => by
    unfold ofJson at h
    split at h
    · rename_i vs hvs
      cases h
      exact within_list.mpr (within_ofJsonEach hvs)
    · cases h
  | .object members, v, h => by
    unfold ofJson at h
    split at h
    · rename_i entries hentries
      cases h
      refine within_map.mpr fun w hw => ?_
      exact within_ofJsonMembers hentries w (Keywords.mem_of_mem_values_ofList hw)
    · cases h

theorem within_ofJsonEach : ∀ {js : List Json} {vs : List Value}, ofJsonEach js = .ok vs →
    ∀ v ∈ vs, v.Within captures admits
  | [], _, h => by cases h; exact List.forall_mem_nil _
  | j :: rest, vs, h => by
    unfold ofJsonEach at h
    split at h
    · cases h
    · rename_i v hv
      split at h
      · cases h
      · rename_i vs hvs
        cases h
        exact List.forall_mem_cons.mpr ⟨within_ofJson hv, within_ofJsonEach hvs⟩

theorem within_ofJsonMembers : ∀ {members : List (String × Json)} {entries : List (String × Value)},
    ofJsonMembers members = .ok entries → ∀ v ∈ entries.map Prod.snd, v.Within captures admits
  | [], _, h => by cases h; exact List.forall_mem_nil _
  | (key, j) :: rest, entries, h => by
    unfold ofJsonMembers at h
    split at h
    · cases h
    · rename_i v hv
      split at h
      · cases h
      · rename_i entries hentries
        cases h
        exact List.forall_mem_cons.mpr ⟨within_ofJson hv, within_ofJsonMembers hentries⟩

end

end Value

end Homoiconic
