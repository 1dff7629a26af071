import Homoiconic.Folding.Library
import Homoiconic.Proofs.Reachability

/-!
# Folding is local to the top of the stack

A program that succeeds over a stack succeeds in the same way with more beneath the stack, and
leaves what is beneath as it was.  So no library combinator can observe or change what lies below
the elements it takes, however deep the quoted programs are nested that it folds, and even if it
folds them over a copy of the stack.

Native operations receive the whole stack, and some of them do observe it: one counts the elements,
another one reverses them.  The statement is therefore about programs from which none of these can
be reached.  That a run makes none is the invariant of `Reachability`.

A failure is not local.  A program that finds too few elements on a stack may find enough when there
are more beneath it.
-/

namespace Homoiconic

/-- Under an invariant that no native stack operation satisfies, a fold that succeeds does the same
over a base. -/
theorem HeapInvariant.fold_over_base {I : HeapInvariant} (hadmits : ∀ native, ¬ I.admits native)
    {σ σ' : State} {s t : Stack Value} {program : List Value} (hholds : I.holds σ.heap)
    (hgood : ∀ v ∈ s.toList ++ program, v.Within (I.captures σ.heap.size) I.admits)
    (hfold : fold s program σ = (.ok t, σ')) (base : Stack Value) :
    fold (base.pushAll s.toList) program σ = (.ok (base.pushAll t.toList), σ') := by
  obtain ⟨hs, hprogram⟩ := List.forall_mem_append.mp hgood
  have habove : (I.framed hadmits).Above base.toList σ.heap.size s (base.pushAll s.toList) :=
    ⟨Stack.toList_pushAll .., hs⟩
  have hcoupled := (I.framed hadmits).coupled_self
  have hend : (I.framed hadmits).Ends _ _ _ σ σ (fold s program σ)
      (fold (base.pushAll s.toList) program σ) :=
    hcoupled.fold trivial habove hprogram ⟨rfl, hholds⟩ (Nat.le_refl _)
  rw [hfold] at hend
  generalize fold (base.pushAll s.toList) program σ = q at hend
  cases hend with
  | @returned _ t' _ _ _ value _ _ rel =>
    obtain ⟨rfl, _⟩ := rel
    have ht : t' = base.pushAll t.toList :=
      Stack.eq_of_toList_eq (value.1.trans (Stack.toList_pushAll ..).symm)
    rw [ht]

/-- **The frame rule of folding.**  If no native stack operation can be reached from a program and a
stack, then what the program does over the stack it does over the stack with any base beneath it: it
leaves the base beneath its result, and the same state. -/
theorem fold_local {σ σ' : State} {s t : Stack Value} {program : List Value}
    (hnative : ∀ v, σ.heap.Reaches ((s.toList ++ program).map .value) (.value v) →
      v.native? = none)
    (hfold : fold s program σ = (.ok t, σ')) (base : Stack Value) :
    fold (base.pushAll s.toList) program σ = (.ok (base.pushAll t.toList), σ') := by
  have hadmits : ∀ v, σ.heap.Reaches ((s.toList ++ program).map .value) (.value v) →
      ∀ native ∈ v.native?, False := by
    intro v hv native hmem
    rw [hnative v hv] at hmem
    cases hmem
  exact HeapInvariant.fold_over_base (fun _ h => h) (HeapInvariant.holds_reached hadmits)
    (fun v hv => HeapInvariant.good_reached hadmits (.root (List.mem_map_of_mem hv)) _) hfold base

/-- A quoted program under the top of the stack, with nine beneath everything. -/
theorem fold_local_dip :
    fold (.ofList [.number 1, .number 2]) [.list [Word.dup.item], Word.dip.item] .initial =
        (.ok (.ofList [.number 1, .number 1, .number 2]), .initial) ∧
      fold (.ofList [.number 9, .number 1, .number 2]) [.list [Word.dup.item], Word.dip.item]
          .initial =
        (.ok (.ofList [.number 9, .number 1, .number 1, .number 2]), .initial) := by
  have hfold : fold (.ofList [.number 1, .number 2]) [.list [Word.dup.item], Word.dip.item]
      .initial = (.ok (.ofList [.number 1, .number 1, .number 2]), .initial) := rfl
  refine ⟨hfold, fold_local (fun v hv => ?_) hfold (.ofList [.number 9])⟩
  -- Nothing here captures a scope, so the empty region is confined and holds what is reached.
  have hconfined : State.initial.heap.Confined (fun _ => False) fun _ => False :=
    ⟨fun hid => hid.elim, fun hid => hid.elim⟩
  have hwithin := hconfined.within_of_reaches (fun place hplace => ?_) hv
  · exact Option.eq_none_iff_forall_not_mem.mpr fun native hnative =>
      (Value.within_iff.mp hwithin).2.1 native hnative
  · rw [Stack.toList_ofList] at hplace
    simp only [List.cons_append, List.nil_append, List.map_cons, List.map_nil, List.mem_cons,
      List.not_mem_nil, or_false] at hplace
    rcases hplace with rfl | rfl | rfl | rfl
    · exact Value.within_number 1
    · exact Value.within_number 2
    · exact Value.within_list.mpr (List.forall_mem_singleton.mpr (Value.within_word _ _))
    · exact Value.within_word _ _

end Homoiconic
