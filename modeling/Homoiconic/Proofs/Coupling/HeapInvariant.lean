import Homoiconic.Proofs.Coupling.Interpreter

/-!
# Invariants of the heap

The simplest couplings relate a run to itself: both states are the same, and the heap satisfies an
invariant.  All that can break such an invariant is a write to the heap, so this is all that a
`HeapInvariant` has to answer for, besides saying which values and scopes it allows.

An invariant gives two couplings.  In the first, `HeapInvariant.coupling`, everything is the same on
both sides and no error is forgiven, so that the invariant holds at the end of every run.  In the
second, `HeapInvariant.framed`, the second run has more on its stack, and failures of the first run
are forgiven.
-/

namespace Homoiconic

/-- A property of heaps, with bounds on what closures capture, on where evaluation runs and on which
native stack operations occur, that no write within these bounds breaks. -/
structure HeapInvariant where
  /-- The heaps that satisfy the invariant. -/
  holds : Heap → Prop
  /-- The scopes that a closure may capture when the heap has so many scopes. -/
  captures : Nat → ScopeId → Prop
  /-- The scopes in which evaluation may run when the heap has so many scopes. -/
  hosts : Nat → ScopeId → Prop
  /-- The native stack operations that may occur. -/
  admits : StackNative → Prop
  captures_mono {size size' : Nat} {id : ScopeId} :
    size ≤ size' → captures size id → captures size' id
  hosts_mono {size size' : Nat} {id : ScopeId} : size ≤ size' → hosts size id → hosts size' id
  captures_of_hosts {size : Nat} {id : ScopeId} : hosts size id → captures size id
  /-- What is held along the chain of a scope in which evaluation may run is within the bounds. -/
  values {h : Heap} {id id' : ScopeId} :
    holds h → hosts h.size id → id' ∈ h.chain id →
      ∀ v ∈ h.values id', v.Within (captures h.size) admits
  define {h : Heap} {id : ScopeId} {v : Value} (name : String) :
    holds h → hosts h.size id → v.Within (captures h.size) admits → holds (h.define id name v)
  assign {h : Heap} {id : ScopeId} {v : Value} (name : String) :
    holds h → hosts h.size id → v.Within (captures h.size) admits → holds (h.assign id name v)
  alloc {h : Heap} {parent : ScopeId} {bindings : Keywords Value} :
    holds h → captures h.size parent → bindings.Distinct →
      (∀ v ∈ bindings.values, v.Within (captures h.size) admits) →
      hosts (h.size + 1) h.size ∧ holds (h.alloc ⟨bindings, some parent⟩)

namespace HeapInvariant

variable {α β : Type} {I : HeapInvariant} {levels size : Nat}

/-- A run related to itself under an invariant. -/
def coupling (I : HeapInvariant) : Coupling where
  rel _ s t := s = t ∧ I.holds s.heap
  captures := I.captures
  hosts := I.hosts
  admits := I.admits
  base := Coupling.NoBase
  forgives _ := False
  captures_mono := I.captures_mono
  hosts_mono := I.hosts_mono
  captures_of_hosts := I.captures_of_hosts
  base_nil := Coupling.noBase_nil
  forgives_of_base := Or.inl
  eq_nil_of_admits _ hbelow := hbelow
  lookup := by
    rintro _ s _ id name ⟨rfl, hholds⟩ hid
    refine ⟨rfl, fun v hv => ?_⟩
    obtain ⟨id', hid', hv⟩ := Heap.exists_mem_values_of_lookup? hv
    exact I.values hholds hid hid' v hv
  visible := by
    rintro _ s _ id ⟨rfl, hholds⟩ hid
    refine ⟨rfl, fun v hv => ?_⟩
    obtain ⟨id', hid', hv⟩ := Heap.exists_mem_values_of_visible hv
    exact I.values hholds hid hid' v hv
  define := by
    rintro _ s _ id v name ⟨rfl, hholds⟩ hid hv
    exact ⟨rfl, I.define name hholds hid hv⟩
  assign := by
    rintro _ s _ id v name ⟨rfl, hholds⟩ hid hv
    exact ⟨rfl, I.assign name hholds hid hv⟩
  alloc := by
    rintro _ s _ parent bindings ⟨rfl, hholds⟩ hparent hdistinct hbindings
    obtain ⟨hhosts, hholds'⟩ := I.alloc hholds hparent hdistinct hbindings
    exact ⟨rfl, hhosts, rfl, hholds'⟩
  identity := by
    rintro _ s _ ⟨rfl, hholds⟩
    exact ⟨rfl, rfl, hholds⟩
  gensym := by
    rintro _ s _ ⟨rfl, hholds⟩
    exact ⟨rfl, rfl, hholds⟩
  log := by
    rintro _ s _ line ⟨rfl, hholds⟩
    exact ⟨rfl, hholds⟩
  limit := by
    rintro _ s _ activity ⟨rfl, _⟩ hlimit
    exact Or.inr hlimit
  room := by
    rintro _ s _ activity ⟨rfl, _⟩ hroom
    exact hroom
  enter := by
    rintro _ s _ activity ⟨rfl, hholds⟩ _
    exact ⟨rfl, by rwa [State.heap_enter]⟩
  leave := by
    rintro _ s _ activity ⟨rfl, hholds⟩
    exact ⟨rfl, by rwa [State.heap_leave]⟩

/-- A run related under an invariant to one with more on its stack, where no native stack operation
occurs to notice it.  The second run may succeed where the first one fails. -/
def framed (I : HeapInvariant) (hadmits : ∀ native, ¬ I.admits native) : Coupling :=
  { I.coupling with
    base := fun _ => True
    forgives := fun _ => True
    base_nil := trivial
    forgives_of_base := fun _ => Or.inr fun _ => trivial
    eq_nil_of_admits := fun hnative _ => absurd hnative (hadmits _)
    limit := fun _ _ => Or.inl trivial }

/-- **An action that is coupled with itself keeps the invariant**, whether it returns or fails. -/
theorem holds_of_couples {related : Nat → α → α → Prop} {a : EvalM α} {s : State}
    (ha : I.coupling.Couples levels s.heap.size related a a) (hholds : I.holds s.heap) :
    I.holds (a s).2.heap := by
  have hend := ha ⟨rfl, hholds⟩ (Nat.le_refl _)
  generalize a s = p at hend
  cases hend with
  | returned _ _ _ rel => exact rel.2
  | failed rel => exact rel.2
  | forgiven forgives => exact forgives.elim

end HeapInvariant

end Homoiconic
