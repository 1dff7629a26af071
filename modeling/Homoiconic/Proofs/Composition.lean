import Homoiconic.Proofs.Folds
import Homoiconic.Value.Slice
import Mathlib.Order.Nat

/-!
# Programs compose

Folding two programs one after the other is folding the program that consists of both
(`fold_append`).  The two folds take one level each, but not at the same time, since the first one
gives its level back, and the one fold takes it once; so the limit is met in either case or in
neither.  Where the first program fails, the second one is not reached, and what was changed up to
there stays.

This is why programs can be taken apart.  A part of a definition or of a phrase is selected by a
range of its items, and there is such a part exactly if the range lies within the program
(`Slicing`).  Two parts that meet compose to the whole.

Which items a range selects is said of each kind of bound by the indices at which the range has
started, and by those to which it lasts (`Bound.StartsBy`, `Bound.LastsTo`).  Where it starts and
ends follows from this (`Bound.Spans`), and is not taken from the function that cuts a program.
-/

namespace Homoiconic

/-! ## One after the other -/

/-- **Folding a composed program is folding its parts one after the other**, on every stack and in
every state. -/
theorem fold_append (stack : Stack Value) (p q : List Value) :
    fold stack (p ++ q) = fold stack p >>= fun after => fold after q := by
  funext s
  have hdepths := depths_foldItems stack p (s.enter .folding)
  simp only [fold_eq_nested, foldItems_append]
  exact (nested_bind_nested hdepths).symm

/-! ## Ranges of a list -/

section Lists

variable {α : Type} {items : List α} {start stop : Bound}

/-- A range with this start has started by the index. -/
def Bound.StartsBy (start : Bound) (i : Nat) : Prop :=
  match start with
  | .included k => k ≤ i
  | .excluded k => k < i
  | .unbounded => True

/-- A range with this end, among so many items, lasts to the index. -/
def Bound.LastsTo (stop : Bound) (length i : Nat) : Prop :=
  match stop with
  | .included k => i ≤ k
  | .excluded k => i < k
  | .unbounded => i < length

/-- A range starts at the index `first`, and ends before the index `last`. -/
structure Bound.Spans (start stop : Bound) (length first last : Nat) : Prop where
  start_iff (i : Nat) : start.StartsBy i ↔ first ≤ i
  stop_iff (i : Nat) : stop.LastsTo length i ↔ i < last

/-- A range lies within so many items: it does not start past its end, nor end past the items. -/
def Bound.InRange (start stop : Bound) (length : Nat) : Prop :=
  ∃ first last, start.Spans stop length first last ∧ first ≤ last ∧ last ≤ length

/-- The items in a range stand between those before its start and those after its end. -/
def Bound.Selects (start stop : Bound) (items part : List α) : Prop :=
  ∃ before after, items = before ++ part ++ after ∧
    start.Spans stop items.length before.length (before ++ part).length

/-- **The first index and the one after the last delimit a range.** -/
theorem Bound.spans (start stop : Bound) (length : Nat) :
    start.Spans stop length start.start (stop.stop length) where
  start_iff i := by
    cases start with
    | included k => exact Iff.rfl
    | excluded k => exact Nat.lt_iff_add_one_le
    | unbounded => exact iff_of_true trivial (Nat.zero_le i)
  stop_iff i := by
    cases stop with
    | included k => exact Nat.lt_succ_iff.symm
    | excluded k => exact Iff.rfl
    | unbounded => exact Iff.rfl

/-- Nothing else delimits it. -/
theorem Bound.Spans.eq {length first last : Nat} (h : start.Spans stop length first last) :
    start.start = first ∧ stop.stop length = last := by
  have hspans := Bound.spans start stop length
  constructor
  · exact eq_of_forall_ge_iff fun i => (hspans.start_iff i).symm.trans (h.start_iff i)
  · exact eq_of_forall_lt_iff fun i => (hspans.stop_iff i).symm.trans (h.stop_iff i)

theorem Bound.inRange_iff {length : Nat} :
    start.InRange stop length ↔ start.start ≤ stop.stop length ∧ stop.stop length ≤ length := by
  constructor
  · rintro ⟨first, last, hspans, hstart, hstop⟩
    obtain ⟨rfl, rfl⟩ := hspans.eq
    exact ⟨hstart, hstop⟩
  · rintro ⟨hstart, hstop⟩
    exact ⟨_, _, start.spans stop length, hstart, hstop⟩

theorem sliceList?_of_inRange (h : start.InRange stop items.length) :
    sliceList? items start stop =
      some ((items.take (stop.stop items.length)).drop start.start) :=
  if_pos (Bound.inRange_iff.mp h)

theorem sliceList?_of_not_inRange (h : ¬start.InRange stop items.length) :
    sliceList? items start stop = none := if_neg (mt Bound.inRange_iff.mpr h)

theorem isSome_sliceList?_iff :
    (sliceList? items start stop).isSome ↔ start.InRange stop items.length := by
  by_cases h : start.InRange stop items.length
  · simp [sliceList?_of_inRange h, h]
  · simp [sliceList?_of_not_inRange h, h]

/-- A range may be empty at the end of a list, but not start past its own end. -/
example : sliceList? [1, 2, 3] (.excluded 2) .unbounded = some [] ∧
    sliceList? [1, 2, 3] (.included 2) (.excluded 1) = none := ⟨rfl, rfl⟩

/-- Before a range come as many items as it leaves out, and it ends where it says. -/
theorem selects_of_inRange (h : start.InRange stop items.length) :
    start.Selects stop items ((items.take (stop.stop items.length)).drop start.start) := by
  have hspans := start.spans stop items.length
  obtain ⟨hstart, hstop⟩ := Bound.inRange_iff.mp h
  generalize start.start = first, stop.stop items.length = last at hspans hstart hstop ⊢
  have hbefore : items.take first ++ (items.take last).drop first = items.take last := by
    calc items.take first ++ (items.take last).drop first
      _ = (items.take last).take first ++ (items.take last).drop first := by
        rw [List.take_take, Nat.min_eq_left hstart]
      _ = items.take last := List.take_append_drop _ _
  have hfirst : (items.take first).length = first := by
    rw [List.length_take, Nat.min_eq_left (Nat.le_trans hstart hstop)]
  have hlast : (items.take first ++ (items.take last).drop first).length = last := by
    rw [hbefore, List.length_take, Nat.min_eq_left hstop]
  refine ⟨items.take first, items.drop last, ?_, ?_⟩
  · rw [hbefore, List.take_append_drop]
  · rw [hfirst, hlast]
    exact hspans

end Lists

/-! ## Slices -/

/-- How the parts of something with a program are related to the whole: the part in a range is there
exactly if the range lies within the program, it has the items in the range and keeps what it has to
keep, and the two parts on both sides of an item compose to the whole. -/
structure Slicing {β : Type} (program : β → List Value) (slice? : β → Bound → Bound → Option β)
    (keeps : β → β → Prop) (whole : β) : Prop where
  isSome_iff (start stop : Bound) :
    (slice? whole start stop).isSome ↔ start.InRange stop (program whole).length
  selects {start stop : Bound} {part : β} : slice? whole start stop = some part →
    start.Selects stop (program whole) (program part) ∧ keeps whole part
  composes {k : Nat} : k ≤ (program whole).length →
    ∃ left right, slice? whole .unbounded (.excluded k) = some left ∧
      slice? whole (.included k) .unbounded = some right ∧
      ∀ stack, fold stack (program whole) =
        fold stack (program left) >>= fun after => fold after (program right)

section Slices

variable {β : Type} {program : β → List Value} {slice? : β → Bound → Bound → Option β}
  {keeps : β → β → Prop} {make : β → List Value → β}

/-- Parts that are made from ranges of the program. -/
theorem Slicing.of_sliceList
    (hslice : ∀ whole start stop,
      slice? whole start stop = (sliceList? (program whole) start stop).map (make whole))
    (hprogram : ∀ whole items, program (make whole items) = items)
    (hkeeps : ∀ whole items, keeps whole (make whole items)) (whole : β) :
    Slicing program slice? keeps whole where
  isSome_iff start stop := by
    rw [hslice, Option.isSome_map, isSome_sliceList?_iff]
  selects {start stop part} hpart := by
    rw [hslice, Option.map_eq_some_iff] at hpart
    obtain ⟨items, hitems, rfl⟩ := hpart
    have hrange : start.InRange stop (program whole).length :=
      isSome_sliceList?_iff.mp (by rw [hitems]; rfl)
    rw [sliceList?_of_inRange hrange] at hitems
    obtain rfl := Option.some.inj hitems
    rw [hprogram]
    exact ⟨selects_of_inRange hrange, hkeeps whole _⟩
  composes {k} hk := by
    have hleft : Bound.unbounded.InRange (.excluded k) (program whole).length :=
      Bound.inRange_iff.mpr ⟨Nat.zero_le k, hk⟩
    have hright : (Bound.included k).InRange .unbounded (program whole).length :=
      Bound.inRange_iff.mpr ⟨hk, Nat.le_refl _⟩
    refine ⟨make whole ((program whole).take k), make whole ((program whole).drop k), ?_, ?_, ?_⟩
    · rw [hslice, sliceList?_of_inRange hleft]
      rfl
    · rw [hslice, sliceList?_of_inRange hright]
      simp only [Bound.stop, List.take_length]
      rfl
    · intro stack
      rw [hprogram, hprogram, ← fold_append, List.take_append_drop]

end Slices

/-- What a part of a definition keeps is the convention; it has no bounds. -/
def Definition.KeepsConvention (d part : Definition Value) : Prop :=
  part.convention = d.convention ∧ part.least = none ∧ part.most = none

/-- **Programs compose, and can be taken apart.**  Folding a composed program does the same as
folding its parts one after the other: it returns the same stack or fails with the same error, and
leaves the same state.  The parts of a definition or of a phrase are the ranges within its program,
and any two that meet compose to the whole. -/
theorem folds_compose_and_slices_do :
    (∀ stack p q, fold stack (p ++ q) = fold stack p >>= fun after => fold after q) ∧
    (∀ d, Slicing Definition.program Definition.slice? Definition.KeepsConvention d) ∧
    (∀ p, Slicing Phrase.program Phrase.slice? (fun p part => part.name = p.name) p) := by
  refine ⟨fold_append, ?_, ?_⟩
  · exact Slicing.of_sliceList (fun _ _ _ => rfl) (fun _ _ => rfl) fun _ _ => ⟨rfl, rfl, rfl⟩
  · exact Slicing.of_sliceList (fun _ _ _ => rfl) (fun _ _ => rfl) fun _ _ => rfl

/-- A definition of three items, with a bound on its arguments. -/
def oneTwoThree : Definition Value :=
  .withBounds (.ofProgram .spread [.number 1, .number 2, .number 3]) (some 1) none

/-- An end that is included, a start that is excluded, a range that starts past its end and one that
ends past the items. -/
theorem slices_of_oneTwoThree :
    (oneTwoThree.slice? (.included 1) (.included 1) = some (.ofProgram .spread [.number 2]) ∧
      (Bound.included 1).Selects (.included 1) oneTwoThree.program [.number 2]) ∧
    (oneTwoThree.slice? (.excluded 0) .unbounded =
        some (.ofProgram .spread [.number 2, .number 3]) ∧
      (Bound.excluded 0).Selects .unbounded oneTwoThree.program [.number 2, .number 3]) ∧
    (oneTwoThree.slice? (.included 2) (.excluded 1) = none ∧
      ¬ (Bound.included 2).InRange (.excluded 1) 3) ∧
    (oneTwoThree.slice? (.included 1) (.included 3) = none ∧
      ¬ (Bound.included 1).InRange (.included 3) 3) := by
  obtain ⟨_, hdefinitions, _⟩ := folds_compose_and_slices_do
  obtain ⟨hisSome, hselects, _⟩ := hdefinitions oneTwoThree
  have hincluded : oneTwoThree.slice? (.included 1) (.included 1) =
      some (.ofProgram .spread [.number 2]) := rfl
  have hexcluded : oneTwoThree.slice? (.excluded 0) .unbounded =
      some (.ofProgram .spread [.number 2, .number 3]) := rfl
  refine ⟨⟨hincluded, (hselects hincluded).1⟩, ⟨hexcluded, (hselects hexcluded).1⟩,
    ⟨rfl, fun h => ?_⟩, rfl, fun h => ?_⟩
  · exact absurd ((hisSome _ _).mpr h) (by decide)
  · exact absurd ((hisSome _ _).mpr h) (by decide)

end Homoiconic
