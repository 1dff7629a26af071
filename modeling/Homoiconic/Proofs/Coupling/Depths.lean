import Homoiconic.Proofs.Coupling.Interpreter

/-!
# Runs at different depths

The depths at which the activities are nested are read in one place, the guard of the depth limits.
Two runs whose states differ in the depths alone therefore stay like this, and how the depths are
related is all that has to be looked at: what happens to the relation when an activity is entered
or left, and what it says of the limits.  A `DepthRelation` is a relation of depths that answers for
this, and its coupling relates states that are the same but for related depths.
-/

namespace Homoiconic

/-- How the depths of two runs are related, given how many more times the activities may be
nested. -/
structure DepthRelation where
  /-- The related states; nothing but their depths is read. -/
  rel : Nat → State → State → Prop
  /-- The errors of the first run after which nothing is asked of the second. -/
  forgives : Error → Prop
  congr {levels : Nat} {s t s' t' : State} :
    rel levels s t → s'.depths = s.depths → t'.depths = t.depths → rel levels s' t'
  limit {levels : Nat} {s t : State} {activity : Activity} :
    rel (levels + 1) s t → depthLimit ≤ s.depth activity →
      forgives (.tooDeep activity) ∨ depthLimit ≤ t.depth activity
  room {levels : Nat} {s t : State} {activity : Activity} :
    rel (levels + 1) s t → s.depth activity < depthLimit → t.depth activity < depthLimit
  enter {levels : Nat} {s t : State} {activity : Activity} :
    rel (levels + 1) s t → s.depth activity < depthLimit →
      rel levels (s.enter activity) (t.enter activity)
  leave {levels : Nat} {s t : State} {activity : Activity} :
    rel levels s t → rel (levels + 1) (s.leave activity) (t.leave activity)

namespace DepthRelation

variable {α : Type} {D : DepthRelation} {levels size : Nat}

/-- States that are the same but for related depths. -/
def coupling (D : DepthRelation) : Coupling where
  rel levels s t := (∃ e f, t = s.atDepths e f) ∧ D.rel levels s t
  captures _ _ := True
  hosts _ _ := True
  admits _ := True
  base := Coupling.NoBase
  forgives := D.forgives
  captures_mono _ _ := trivial
  hosts_mono _ _ := trivial
  captures_of_hosts _ := trivial
  base_nil := Coupling.noBase_nil
  forgives_of_base := Or.inl
  eq_nil_of_admits _ hbelow := hbelow
  lookup := by
    rintro _ s _ id name ⟨⟨e, f, rfl⟩, _⟩ _
    exact ⟨rfl, fun v _ => v.within_of_forall (fun _ => trivial) fun _ => trivial⟩
  visible := by
    rintro _ s _ id ⟨⟨e, f, rfl⟩, _⟩ _
    exact ⟨rfl, fun v _ => v.within_of_forall (fun _ => trivial) fun _ => trivial⟩
  define := by
    rintro _ s _ id v name ⟨⟨e, f, rfl⟩, hrel⟩ _ _
    exact ⟨⟨e, f, rfl⟩, D.congr hrel rfl rfl⟩
  assign := by
    rintro _ s _ id v name ⟨⟨e, f, rfl⟩, hrel⟩ _ _
    exact ⟨⟨e, f, rfl⟩, D.congr hrel rfl rfl⟩
  alloc := by
    rintro _ s _ parent bindings ⟨⟨e, f, rfl⟩, hrel⟩ _ _ _
    exact ⟨rfl, trivial, ⟨e, f, rfl⟩, D.congr hrel rfl rfl⟩
  identity := by
    rintro _ s _ ⟨⟨e, f, rfl⟩, hrel⟩
    exact ⟨rfl, ⟨e, f, rfl⟩, D.congr hrel rfl rfl⟩
  gensym := by
    rintro _ s _ ⟨⟨e, f, rfl⟩, hrel⟩
    exact ⟨rfl, ⟨e, f, rfl⟩, D.congr hrel rfl rfl⟩
  log := by
    rintro _ s _ line ⟨⟨e, f, rfl⟩, hrel⟩
    exact ⟨⟨e, f, rfl⟩, D.congr hrel rfl rfl⟩
  limit hrel := D.limit hrel.2
  room hrel := D.room hrel.2
  enter := by
    rintro _ s _ activity ⟨⟨e, f, rfl⟩, hrel⟩ hroom
    refine ⟨?_, D.enter hrel hroom⟩
    cases activity with
    | evaluation => exact ⟨e + 1, f, rfl⟩
    | folding => exact ⟨e, f + 1, rfl⟩
  leave := by
    rintro _ s _ activity ⟨⟨e, f, rfl⟩, hrel⟩
    refine ⟨?_, D.leave hrel⟩
    cases activity with
    | evaluation => exact ⟨e - 1, f, rfl⟩
    | folding => exact ⟨e, f - 1, rfl⟩

/-- Every value may occur in such runs. -/
theorem good (size : Nat) (v : Value) : D.coupling.Good size v :=
  v.within_of_forall (fun _ => trivial) fun _ => trivial

theorem goodAll (size : Nat) (vs : List Value) : D.coupling.GoodAll size vs :=
  fun v _ => good size v

/-- **Runs at related depths end alike**, each at the depths at which it started, unless the first
one is forgiven its failure. -/
theorem eq_of_ends {kind : Nat → α → Prop} {s t : State} {p q : Except Error α × State}
    (hend : D.coupling.Ends levels size (fun size x y => x = y ∧ kind size x) s t p q)
    (hforgives : ∀ e, p.1 = .error e → ¬ D.forgives e) :
    q = (p.1, p.2.atDepths t.evaluationDepth t.foldingDepth) ∧ p.2.depths = s.depths := by
  cases hend with
  | returned value _ _ rel depths depths' =>
    obtain ⟨rfl, _⟩ := value
    obtain ⟨⟨e, f, rfl⟩, _⟩ := rel
    obtain ⟨rfl, rfl⟩ := Prod.mk.inj depths'
    exact ⟨rfl, depths⟩
  | failed rel depths depths' =>
    obtain ⟨⟨e, f, rfl⟩, _⟩ := rel
    obtain ⟨rfl, rfl⟩ := Prod.mk.inj depths'
    exact ⟨rfl, depths⟩
  | forgiven forgives => exact absurd forgives (hforgives _ rfl)

/-- Traced folds at related depths also write the same lines. -/
theorem eq_of_traceEnds {s t : State} {p q : (Except Error (Stack Value) × Sink) × State}
    (hend : D.coupling.TraceEnds levels size s t p q)
    (hforgives : ∀ e, p.1.1 = .error e → ¬ D.forgives e) :
    q = (p.1, p.2.atDepths t.evaluationDepth t.foldingDepth) ∧ p.2.depths = s.depths := by
  obtain ⟨hend, hsink⟩ := hend
  obtain ⟨heq, hdepths⟩ := eq_of_ends hend hforgives
  obtain ⟨hresult, hstate⟩ := Prod.mk.inj heq
  have hlines : p.1.2 = q.1.2 := by
    refine hsink.resolve_right ?_
    rintro ⟨e, herror, hforgiven⟩
    exact hforgives e herror hforgiven
  exact ⟨Prod.ext (Prod.ext hresult hlines.symm) hstate, hdepths⟩

end DepthRelation

end Homoiconic
