import Homoiconic.Proofs.Coupling.HeapInvariant

/-!
# What a run can come upon

A run starts from some values and scopes.  It takes values apart, calls closures and so enters the
scopes that they capture, looks names up along the chains of these scopes, and comes upon what is
bound there.  `Heap.Reaches` is the closure of the roots under these steps.  It speaks of the heap
at the start; what a run makes in addition it makes of what it has come upon.

This is the content of the second half.  A region of scopes is confined if it contains the parents
of its scopes, and if the closures bound in its scopes capture only scopes of the region
(`Heap.Confined`).  What is reached from inside a confined region is inside it
(`Heap.Confined.within_of_reaches`), and no run that starts inside gets out: this is an invariant of
heaps, as long as new scopes belong to the region (`HeapInvariant.confined`).  The scopes that can
be reached, together with those not yet made, are such a region (`Heap.confined_reaches`).
-/

namespace Homoiconic

/-! ## Reachability -/

/-- What a run can come upon. -/
inductive Place where
  | value (v : Value)
  | scope (id : ScopeId)

/-- A run that starts from the roots can come upon a place. -/
inductive Heap.Reaches (h : Heap) (roots : List Place) : Place → Prop
  | root {place : Place} : place ∈ roots → Reaches h roots place
  /-- A value can be taken apart. -/
  | part {v w : Value} : Reaches h roots (.value v) → w ∈ v.parts → Reaches h roots (.value w)
  /-- A closure can be called. -/
  | captured {v : Value} {id : ScopeId} :
    Reaches h roots (.value v) → id ∈ v.captured? → Reaches h roots (.scope id)
  /-- Names are looked up along chains. -/
  | parent {id parent : ScopeId} :
    Reaches h roots (.scope id) → parent ∈ h.parent? id → Reaches h roots (.scope parent)
  /-- A name can be looked up. -/
  | bound {id : ScopeId} {v : Value} :
    Reaches h roots (.scope id) → v ∈ h.values id → Reaches h roots (.value v)

/-- A value that can be reached captures only scopes that can be reached, in every part of it. -/
theorem Heap.Reaches.within {h : Heap} {roots : List Place} {admits : StackNative → Prop}
    (hnative : ∀ v, h.Reaches roots (.value v) → ∀ native ∈ v.native?, admits native) {v : Value}
    (hv : h.Reaches roots (.value v)) :
    v.Within (fun id => h.Reaches roots (.scope id)) admits := by
  induction v using Value.induction_on_parts with
  | step v ih =>
    exact ⟨fun _ hid => hv.captured hid, hnative v hv, fun w hw => ih w hw (hv.part hw)⟩

/-! ## Confined regions -/

/-- The scopes of a region have their parents in it, and what they hold captures only scopes of it
and carries only native operations that are admitted. -/
structure Heap.Confined (h : Heap) (region : ScopeId → Prop) (admits : StackNative → Prop) :
    Prop where
  parent {id parent : ScopeId} : region id → parent ∈ h.parent? id → region parent
  values {id : ScopeId} : region id → ∀ v ∈ h.values id, v.Within region admits

/-- The places of a region: its scopes, and the values that are within the bounds it sets. -/
def Place.Within (region : ScopeId → Prop) (admits : StackNative → Prop) : Place → Prop
  | .value v => v.Within region admits
  | .scope id => region id

section Confined

variable {h : Heap} {region : ScopeId → Prop} {admits : StackNative → Prop}

/-- **What is reached from inside a confined region is inside it.** -/
theorem Heap.Confined.within_of_reaches (hconfined : h.Confined region admits)
    {roots : List Place} (hroots : ∀ place ∈ roots, place.Within region admits) {place : Place}
    (hplace : h.Reaches roots place) : place.Within region admits := by
  induction hplace with
  | root hmem => exact hroots _ hmem
  | part _ hw ih => exact (Value.within_iff.mp ih).2.2 _ hw
  | captured _ hid ih => exact (Value.within_iff.mp ih).1 _ hid
  | parent _ hparent ih => exact hconfined.parent ih hparent
  | bound _ hv ih => exact hconfined.values ih _ hv

/-- The chain of a scope of a confined region is in the region. -/
theorem Heap.Confined.mem_chain (hconfined : h.Confined region admits) {id id' : ScopeId}
    (hid : region id) (hmem : id' ∈ h.chain id) : region id' :=
  Heap.mem_of_mem_chain (fun _ hid _ hparent => hconfined.parent hid hparent) hid hmem

theorem Heap.Confined.define (hconfined : h.Confined region admits) {v : Value}
    (hv : v.Within region admits) (id : ScopeId) (name : String) :
    (h.define id name v).Confined region admits where
  parent hid hparent := hconfined.parent hid (by rwa [Heap.parent?_define] at hparent)
  values hid w hw := by
    rcases Heap.mem_values_define hw with hw | ⟨_, rfl⟩
    · exact hconfined.values hid w hw
    · exact hv

theorem Heap.Confined.alloc (hconfined : h.Confined region admits) {scope : Scope}
    (hparent : ∀ parent ∈ scope.parent, region parent)
    (hbindings : ∀ v ∈ scope.bindings.values, v.Within region admits) :
    (h.alloc scope).Confined region admits where
  parent {id _} hid hmem := by
    rw [Heap.parent?_alloc] at hmem
    by_cases hnew : id = h.size
    · rw [if_pos hnew] at hmem
      exact hparent _ hmem
    · rw [if_neg hnew] at hmem
      exact hconfined.parent hid hmem
  values {id} hid v hv := by
    rw [Heap.values_alloc] at hv
    by_cases hnew : id = h.size
    · rw [if_pos hnew] at hv
      exact hbindings v hv
    · rw [if_neg hnew] at hv
      exact hconfined.values hid v hv

/-- **No run gets out of a confined region**, if the scopes from some number on belong to it. -/
def HeapInvariant.confined (start : Nat) (region : ScopeId → Prop) (admits : StackNative → Prop)
    (hnew : ∀ id, start ≤ id → region id) : HeapInvariant where
  holds h := start ≤ h.size ∧ h.Confined region admits
  captures _ := region
  hosts _ := region
  admits := admits
  captures_mono _ h := h
  hosts_mono _ h := h
  captures_of_hosts h := h
  values := by
    rintro h id id' ⟨_, hconfined⟩ hid hmem
    exact hconfined.values
      (Heap.mem_of_mem_chain (fun _ hid _ hparent => hconfined.parent hid hparent) hid hmem)
  define name := by
    rintro ⟨hsize, hconfined⟩ _ hv
    exact ⟨by rwa [Heap.size_define], hconfined.define hv _ name⟩
  assign name := by
    rintro ⟨hsize, hconfined⟩ _ hv
    exact ⟨by rwa [Heap.assign, Heap.size_define], hconfined.define hv _ name⟩
  alloc := by
    rintro h parent bindings ⟨hsize, hconfined⟩ hparent _ hbindings
    refine ⟨hnew _ hsize, ?_, hconfined.alloc ?_ hbindings⟩
    · rw [Heap.size_alloc]
      exact Nat.le_succ_of_le hsize
    · rintro _ ⟨⟩
      exact hparent

/-- What can be reached, together with what is not yet there, is a confined region. -/
theorem Heap.confined_reaches {roots : List Place}
    (hnative : ∀ v, h.Reaches roots (.value v) → ∀ native ∈ v.native?, admits native) :
    h.Confined (fun id => h.Reaches roots (.scope id) ∨ h.size ≤ id) admits where
  parent {id parent} hid hparent := by
    rcases hid with hid | hid
    · exact Or.inl (hid.parent hparent)
    · rw [Heap.parent?_eq_none_of_le hid] at hparent
      cases hparent
  values {id} hid v hv := by
    rcases hid with hid | hid
    · exact ((hid.bound hv).within hnative).mono fun _ => Or.inl
    · rw [Heap.values_eq_nil_of_le hid] at hv
      cases hv

end Confined

/-- Runs that stay within what can be reached from the roots and what they make. -/
def HeapInvariant.reached (start : Heap) (roots : List Place) (admits : StackNative → Prop) :
    HeapInvariant :=
  .confined start.size (fun id => start.Reaches roots (.scope id) ∨ start.size ≤ id) admits
    fun _ => Or.inr

section Reached

variable {h : Heap} {roots : List Place} {admits : StackNative → Prop}
  (hnative : ∀ v, h.Reaches roots (.value v) → ∀ native ∈ v.native?, admits native)

include hnative

theorem HeapInvariant.holds_reached : (reached h roots admits).holds h :=
  ⟨Nat.le_refl _, Heap.confined_reaches hnative⟩

/-- What can be reached may occur. -/
theorem HeapInvariant.good_reached {v : Value} (hv : h.Reaches roots (.value v)) (size : Nat) :
    v.Within ((reached h roots admits).captures size) (reached h roots admits).admits :=
  (hv.within hnative).mono fun _ => Or.inl

end Reached

end Homoiconic
