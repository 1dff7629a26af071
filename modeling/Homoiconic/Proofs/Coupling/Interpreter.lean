import Homoiconic.Interpreter
import Homoiconic.Proofs.Coupling.Evaluation
import Homoiconic.Proofs.Coupling.Folding
import Mathlib.Logic.Function.Iterate

/-!
# The interpreter is coupled

The rules are unfolded into the interpreter level by level.  Unfolding two coupled engines gives
coupled engines with one more level (`Coupled.unfold`), and so a coupling of two engines at the
bottom is one of the engines above them, however high (`Coupled.iterate`).  In particular every
engine is coupled with itself (`coupled_ofLevels`), with no obligation left: what a coupling says
about primitive actions, it says about the whole interpreter.

What an unfolding adds to the rules is the guard of the depth limit.  A guarded action counts one
level in and one level out, so coupled actions that put the depths back are still such when guarded
(`Couples.nested`).

A traced fold is followed by itself, since it writes to a sink that outlives its failure.
-/

namespace Homoiconic

/-- A fold against the given engine, writing what happens to a sink. -/
def Engine.trace (next : Engine) (stack : Stack Value) (program : List Value) :
    TraceM (Stack Value) := fun sink s =>
  if depthLimit ≤ s.depth .folding then ((.error (.tooDeep .folding), sink), s)
  else
    let (result, s') := traceItems next stack program sink (s.enter .folding)
    (result, s'.leave .folding)

namespace Coupling

variable {α β : Type} {C : Coupling} {levels size : Nat} {next next' : Engine}
  {related : Nat → α → β → Prop}

/-- What is coupled one level deeper is coupled when that level is left. -/
theorem Ends.leave {s t : State} {activity : Activity} {p : Except Error α × State}
    {q : Except Error β × State}
    (h : C.Ends levels size related (s.enter activity) (t.enter activity) p q) :
    C.Ends (levels + 1) size related s t (p.1, p.2.leave activity) (q.1, q.2.leave activity) := by
  cases h with
  | returned value later present rel depths depths' =>
    rw [← State.heap_leave _ activity] at present
    exact .returned value later present (C.leave rel) (State.depths_leave depths)
      (State.depths_leave depths')
  | failed rel depths depths' =>
    exact .failed (C.leave rel) (State.depths_leave depths) (State.depths_leave depths')
  | forgiven forgives => exact .forgiven forgives

/-- **Guarded actions are coupled**: both runs enter, or neither does, or the limit that only the
first one meets is forgiven. -/
theorem Couples.nested {a : EvalM α} {b : EvalM β} (hab : C.Couples levels size related a b)
    (activity : Activity) :
    C.Couples (levels + 1) size related (nested activity a) (nested activity b) := by
  intro s t hrel hsize
  by_cases hlimit : depthLimit ≤ s.depth activity
  · rw [nested_of_le a hlimit]
    rcases C.limit hrel hlimit with hforgives | hlimit'
    · exact .forgiven hforgives
    · rw [nested_of_le b hlimit']
      exact .failed hrel rfl rfl
  · have hroom := Nat.lt_of_not_le hlimit
    rw [nested_of_lt a hroom, nested_of_lt b (C.room hrel hroom)]
    exact (hab (C.enter hrel hroom) (by rwa [State.heap_enter])).leave

/-! ## Engines -/

theorem coupled_exhausted : C.Coupled levels .exhausted .exhausted where
  eval _ _ := Couples.failing _
  fold _ _ _ := Couples.failing _

/-- **Unfolding preserves coupling**, with one more level. -/
theorem Coupled.unfold (h : C.Coupled levels next next') :
    C.Coupled (levels + 1) next.unfold next'.unfold where
  eval he henv := (h.evalStep henv he).nested .evaluation
  fold hbelow hst hprogram := (h.foldItems hprogram hbelow hst).nested .folding

/-- Engines over coupled ones are coupled. -/
theorem Coupled.iterate (h : C.Coupled levels next next') (n : Nat) :
    C.Coupled (levels + n) (Engine.unfold^[n] next) (Engine.unfold^[n] next') := by
  induction n with
  | zero => exact h
  | succ n ih =>
    rw [Function.iterate_succ_apply', Function.iterate_succ_apply']
    exact ih.unfold

/-- **Every engine is coupled with itself.** -/
theorem coupled_ofLevels (n : Nat) : C.Coupled n (.ofLevels n) (.ofLevels n) := by
  induction n with
  | zero => exact coupled_exhausted
  | succ n ih => exact ih.unfold

/-- The engine of a run has a level for every depth that either activity can reach. -/
theorem coupled_self (C : Coupling) : C.Coupled (2 * depthLimit) .full .full :=
  coupled_ofLevels (2 * depthLimit)

/-! ## Traces -/

/-- How two coupled traced folds end: as folds without a trace do, with the same stack, and with the
same lines written unless the failure of the first one is forgiven. -/
def TraceEnds (C : Coupling) (levels size : Nat) (s t : State)
    (p q : (Except Error (Stack Value) × Sink) × State) : Prop :=
  C.Ends levels size (fun size x y => x = y ∧ C.GoodAll size x.toList) s t (p.1.1, p.2)
      (q.1.1, q.2) ∧
    (p.1.2 = q.1.2 ∨ ∃ e, p.1.1 = .error e ∧ C.forgives e)

/-- Tracing the items of a program is coupled, by induction along the program.  A line shows the
whole stack, so the stacks have to be the same. -/
theorem Coupled.traceItems (h : C.Coupled levels next next') {program : List Value}
    {stack : Stack Value} (hprogram : C.GoodAll size program) (hstack : C.GoodAll size stack.toList)
    (sink : Sink) {s t : State} (hrel : C.rel levels s t) (hsize : size ≤ s.heap.size) :
    C.TraceEnds levels size s t (traceItems next stack program sink s)
      (traceItems next' stack program sink t) := by
  induction program generalizing size stack sink s t with
  | nil => exact ⟨.returned ⟨rfl, hstack⟩ (Nat.le_refl _) hsize hrel rfl rfl, .inl rfl⟩
  | cons item rest ih =>
    obtain ⟨hitem, hrest⟩ := List.forall_mem_cons.mp hprogram
    simp only [Homoiconic.traceItems]
    cases sink.write? (lineBefore stack item) with
    | none => exact ⟨.failed hrel rfl rfl, .inl rfl⟩
    | some sink =>
      have hend := h.stepItem hitem C.base_nil (Above.refl hstack) hrel hsize
      generalize Homoiconic.stepItem next stack item s = p,
        Homoiconic.stepItem next' stack item t = q at hend
      cases hend with
      | failed rel depths depths' => exact ⟨.failed rel depths depths', .inl rfl⟩
      | @forgiven e _ end' forgives =>
        refine ⟨.forgiven forgives, .inr ⟨e, rfl, forgives⟩⟩
      | returned value later present rel depths depths' =>
        obtain ⟨rfl, hstack'⟩ := value.same
        dsimp only
        cases sink.write? (lineAfter _) with
        | none => exact ⟨.failed rel depths depths', .inl rfl⟩
        | some sink =>
          obtain ⟨hend, hsink⟩ := ih (GoodAll.mono later hrest) hstack' sink rel present
          exact ⟨hend.of_later later depths depths', hsink⟩

/-- **Tracing is coupled.** -/
theorem Coupled.trace (h : C.Coupled levels next next') {program : List Value}
    {stack : Stack Value} (hprogram : C.GoodAll size program) (hstack : C.GoodAll size stack.toList)
    (sink : Sink) {s t : State} (hrel : C.rel (levels + 1) s t) (hsize : size ≤ s.heap.size) :
    C.TraceEnds (levels + 1) size s t (next.trace stack program sink s)
      (next'.trace stack program sink t) := by
  unfold Engine.trace
  by_cases hlimit : depthLimit ≤ s.depth .folding
  · rw [if_pos hlimit]
    rcases C.limit hrel hlimit with hforgives | hlimit'
    · exact ⟨.forgiven hforgives, .inr ⟨_, rfl, hforgives⟩⟩
    · rw [if_pos hlimit']
      exact ⟨.failed hrel rfl rfl, .inl rfl⟩
  · have hroom := Nat.lt_of_not_le hlimit
    rw [if_neg hlimit, if_neg (Nat.not_le.mpr (C.room hrel hroom))]
    obtain ⟨hend, hsink⟩ := h.traceItems hprogram hstack sink (C.enter hrel hroom)
      (by rwa [State.heap_enter])
    exact ⟨hend.leave, hsink⟩

end Coupling

end Homoiconic
