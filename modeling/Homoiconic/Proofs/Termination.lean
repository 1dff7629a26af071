import Homoiconic.Folding.Library
import Homoiconic.Proofs.Coupling.Depths

/-!
# Every run ends

Programs can be cyclic, so no measure of a program bounds a run.  What bounds it is the room that is
left below the two depth limits: entering an activity takes one from it, and at no room neither
activity can be entered (`State.room`).

The interpreter is an unfolding of its rules, and so every run ends by construction.  What has to be
shown is that the construction is harmless: that the end of a run is never the end of the unfolding.
This is shown as a congruence.  Whatever engine the rules are unfolded over, a run from a state with
some room is the same as soon as there are more unfoldings than room; it has not asked the engine at
the bottom anything (`coupled_iterate_bounded`).  It follows that the rules, read as equations
between an engine and its unfolding, have exactly one solution (`Engine.unfold_eq_self_iff`), and
the interpreter is this solution.

The coupling behind this relates a state to itself as long as its room is not larger than the number
of unfoldings that are left.  That the depths are put back is part of every coupling.
-/

namespace Homoiconic

/-! ## Room -/

/-- How many times the two activities can still be entered. -/
def State.room (s : State) : Nat :=
  (depthLimit - s.evaluationDepth) + (depthLimit - s.foldingDepth)

theorem State.room_le (s : State) : s.room ≤ 2 * depthLimit := by
  unfold room
  omega

/-- Without room, each activity is at its limit. -/
theorem State.limit_of_room_eq_zero {s : State} (h : s.room = 0) (activity : Activity) :
    depthLimit ≤ s.depth activity := by
  unfold room at h
  cases activity with
  | evaluation =>
    change depthLimit ≤ s.evaluationDepth
    omega
  | folding =>
    change depthLimit ≤ s.foldingDepth
    omega

/-- Entering an activity takes from the room. -/
theorem State.room_enter {s : State} {activity : Activity} (h : s.depth activity < depthLimit) :
    (s.enter activity).room + 1 = s.room := by
  cases activity with
  | evaluation =>
    change s.evaluationDepth < depthLimit at h
    simp only [room, enter]
    omega
  | folding =>
    change s.foldingDepth < depthLimit at h
    simp only [room, enter]
    omega

theorem State.room_leave_le (s : State) (activity : Activity) :
    (s.leave activity).room ≤ s.room + 1 := by
  cases activity with
  | evaluation =>
    simp only [room, leave]
    omega
  | folding =>
    simp only [room, leave]
    omega

/-! ## Runs with bounded room -/

theorem State.room_congr {s s' : State} (h : s'.depths = s.depths) : s'.room = s.room := by
  obtain ⟨hevaluation, hfolding⟩ := Prod.mk.inj h
  rw [room, room, hevaluation, hfolding]

/-- A run at its own depths, with no more room than unfoldings left. -/
def DepthRelation.bounded : DepthRelation where
  rel levels s t := t.depths = s.depths ∧ s.room ≤ levels
  forgives _ := False
  congr := by
    rintro levels s t s' t' ⟨hdepths, hroom⟩ hs ht
    refine ⟨ht.trans (hdepths.trans hs.symm), ?_⟩
    rwa [State.room_congr hs]
  limit := by
    rintro _ s t activity ⟨hdepths, _⟩ hlimit
    rw [← State.depth_congr hdepths] at hlimit
    exact Or.inr hlimit
  room := by
    rintro _ s t activity ⟨hdepths, _⟩ hlt
    rwa [State.depth_congr hdepths]
  enter := by
    rintro _ s t activity ⟨hdepths, hroom⟩ hlt
    have hentered := State.room_enter hlt
    exact ⟨State.depths_enter_congr hdepths activity, by omega⟩
  leave := by
    rintro _ s t activity ⟨hdepths, hroom⟩
    have hleft := s.room_leave_le activity
    exact ⟨State.depths_leave_congr hdepths activity, by omega⟩

/-! ## Guarded engines -/

/-- An engine that starts neither activity at its limit. -/
structure Engine.Guarded (next : Engine) : Prop where
  eval {s : State} (h : depthLimit ≤ s.depth .evaluation) (e : Value) (env : Environment) :
    next.eval e env s = (.error (.tooDeep .evaluation), s)
  fold {s : State} (h : depthLimit ≤ s.depth .folding) (stack : Stack Value)
    (program : List Value) : next.fold stack program s = (.error (.tooDeep .folding), s)

theorem Engine.guarded_exhausted : Engine.exhausted.Guarded := ⟨fun _ _ _ => rfl, fun _ _ _ => rfl⟩

/-- An unfolding guards both activities. -/
theorem Engine.guarded_unfold (next : Engine) : next.unfold.Guarded :=
  ⟨fun h _ _ => nested_of_le _ h, fun h _ _ => nested_of_le _ h⟩

theorem Engine.guarded_ofLevels (levels : Nat) : (Engine.ofLevels levels).Guarded := by
  cases levels with
  | zero => exact guarded_exhausted
  | succ levels => exact guarded_unfold _

section Runs

variable {α : Type} {next next' : Engine}

theorem limits_of_rel_zero {s t : State} (hrel : DepthRelation.bounded.coupling.rel 0 s t)
    (activity : Activity) : depthLimit ≤ s.depth activity ∧ depthLimit ≤ t.depth activity := by
  have hlimit := State.limit_of_room_eq_zero (Nat.le_zero.mp hrel.2.2) activity
  refine ⟨hlimit, ?_⟩
  rwa [State.depth_congr hrel.2.1]

/-- Without room, all guarded engines fail alike. -/
theorem coupled_bounded_zero (h : next.Guarded) (h' : next'.Guarded) :
    DepthRelation.bounded.coupling.Coupled 0 next next' where
  eval := by
    intro size e env _ _ s t hrel _
    obtain ⟨hlimit, hlimit'⟩ := limits_of_rel_zero hrel .evaluation
    rw [h.eval hlimit, h'.eval hlimit']
    exact .failed hrel rfl rfl
  fold := by
    intro size below stack stack' program _ _ _ s t hrel _
    obtain ⟨hlimit, hlimit'⟩ := limits_of_rel_zero hrel .folding
    rw [h.fold hlimit, h'.fold hlimit']
    exact .failed hrel rfl rfl

/-- **Runs do not reach the bottom of as many unfoldings as they have room.** -/
theorem coupled_iterate_bounded (h : next.Guarded) (h' : next'.Guarded) (n : Nat) :
    DepthRelation.bounded.coupling.Coupled n (Engine.unfold^[n] next)
      (Engine.unfold^[n] next') := by
  have hcoupled := (coupled_bounded_zero h h').iterate n
  rwa [Nat.zero_add] at hcoupled

theorem Engine.iterate_ofLevels (n levels : Nat) :
    Engine.unfold^[n] (.ofLevels levels) = .ofLevels (levels + n) := by
  induction n with
  | zero => rfl
  | succ n ih =>
    rw [Function.iterate_succ_apply', ih]
    rfl

/-- An engine unfolded more often than there is room is as good as the interpreter. -/
theorem coupled_full {n : Nat} (hn : n ≤ 2 * depthLimit) (extra : Nat) (bottom : Engine) :
    DepthRelation.bounded.coupling.Coupled n (Engine.unfold^[n + 1 + extra] bottom) .full := by
  have hbottom : Engine.unfold^[n + 1 + extra] bottom =
      Engine.unfold^[n] (Engine.unfold^[extra] bottom).unfold := by
    rw [Nat.add_assoc, Function.iterate_add_apply, Nat.add_comm 1, Function.iterate_succ_apply']
  have hfull : Engine.full = Engine.unfold^[n] (.ofLevels (2 * depthLimit - n)) := by
    rw [Engine.iterate_ofLevels, Nat.sub_add_cancel hn]
    rfl
  rw [hbottom, hfull]
  exact coupled_iterate_bounded (Engine.guarded_unfold _) (Engine.guarded_ofLevels _) n

theorem rel_bounded {levels : Nat} {s : State} (hroom : s.room ≤ levels) :
    DepthRelation.bounded.coupling.rel levels s s :=
  ⟨⟨_, _, rfl⟩, rfl, hroom⟩

/-- A run that ends at the depths at which it started is not changed by putting them back. -/
theorem eq_of_atDepths {β : Type} {s : State} {p q : β × State}
    (heq : q = (p.1, p.2.atDepths s.evaluationDepth s.foldingDepth))
    (hdepths : p.2.depths = s.depths) : p = q ∧ q.2.depths = s.depths := by
  obtain ⟨hevaluation, hfolding⟩ := Prod.mk.inj hdepths
  rw [← hevaluation, ← hfolding, State.atDepths_self] at heq
  rw [heq]
  exact ⟨rfl, hdepths⟩

/-- Coupled actions do the same from a state with bounded room, and put the depths back. -/
theorem run_eq_of_agree {levels : Nat} {kind : Nat → α → Prop} {s : State} {a b : EvalM α}
    (hab : DepthRelation.bounded.coupling.Agree levels s.heap.size kind a b)
    (hroom : s.room ≤ levels) : a s = b s ∧ (b s).2.depths = s.depths := by
  obtain ⟨heq, hdepths⟩ := DepthRelation.eq_of_ends (hab (rel_bounded hroom) (Nat.le_refl _))
    fun _ _ h => h
  exact eq_of_atDepths heq hdepths

/-! ## The interpreter as a solution of its rules -/

/-- More unfoldings than there ever is room give the interpreter, whatever is at the bottom. -/
theorem Engine.iterate_eq_full (extra : Nat) (bottom : Engine) :
    Engine.unfold^[2 * depthLimit + 1 + extra] bottom = .full := by
  have hcoupled := coupled_full (Nat.le_refl _) extra bottom
  have heval : (Engine.unfold^[2 * depthLimit + 1 + extra] bottom).eval = Engine.full.eval := by
    funext e env s
    exact (run_eq_of_agree (hcoupled.eval (DepthRelation.good _ e) trivial) s.room_le).1
  have hfold : (Engine.unfold^[2 * depthLimit + 1 + extra] bottom).fold = Engine.full.fold := by
    funext stack program s
    exact (run_eq_of_agree (hcoupled.fold_same (DepthRelation.goodAll _ _)
      (DepthRelation.goodAll _ program)) s.room_le).1
  generalize Engine.unfold^[2 * depthLimit + 1 + extra] bottom = next at heval hfold ⊢
  obtain ⟨eval, fold⟩ := next
  obtain rfl : eval = Engine.full.eval := heval
  obtain rfl : fold = Engine.full.fold := hfold
  rfl

/-- **The rules have exactly one solution**: an engine that is its own unfolding is the
interpreter. -/
theorem Engine.unfold_eq_self_iff (next : Engine) : next.unfold = next ↔ next = .full := by
  constructor
  · intro hfixed
    rw [← Engine.iterate_eq_full 0 next, Function.iterate_fixed hfixed]
  · rintro rfl
    have hunfold : Engine.full.unfold = Engine.unfold^[2 * depthLimit + 1 + 0] .exhausted := by
      rw [Nat.add_zero, Function.iterate_succ_apply', ← Engine.ofLevels_zero,
        Engine.iterate_ofLevels, Nat.zero_add]
      rfl
    rw [hunfold, Engine.iterate_eq_full]

/-! ## Entry points -/

section EntryPoints

variable (s : State) (extra : Nat) (bottom : Engine)

theorem eval_ends (e : Value) (env : Environment) :
    (Engine.unfold^[s.room + 1 + extra] bottom).eval e env s = eval e env s ∧
      (eval e env s).2.depths = s.depths :=
  run_eq_of_agree ((coupled_full s.room_le extra bottom).eval (DepthRelation.good _ e) trivial)
    (Nat.le_refl _)

theorem evaluateCall_ends (node : CallNode Value) (env : Environment) :
    nested .evaluation (evalCall (Engine.unfold^[s.room + 1 + extra] bottom) env node) s =
        evaluateCall node env s ∧
      (evaluateCall node env s).2.depths = s.depths :=
  run_eq_of_agree (((coupled_full s.room_le extra bottom).evalCall trivial
    (DepthRelation.good _ (.call node))).nested .evaluation) (Nat.le_succ _)

theorem apply_ends (target : Value) (args : List Value) (kwargs : Keywords Value) :
    target.apply (Engine.unfold^[s.room + 1 + extra] bottom) args kwargs s =
        apply target args kwargs s ∧
      (apply target args kwargs s).2.depths = s.depths :=
  run_eq_of_agree ((coupled_full s.room_le extra bottom).apply (DepthRelation.good _ target)
    (DepthRelation.goodAll _ args) (DepthRelation.goodAll _ _)) (Nat.le_refl _)

theorem fold_ends (stack : Stack Value) (program : List Value) :
    (Engine.unfold^[s.room + 1 + extra] bottom).fold stack program s = fold stack program s ∧
      (fold stack program s).2.depths = s.depths :=
  run_eq_of_agree ((coupled_full s.room_le extra bottom).fold_same (DepthRelation.goodAll _ _)
    (DepthRelation.goodAll _ program)) (Nat.le_refl _)

theorem trace_ends (stack : Stack Value) (program : List Value) (sink : Sink) :
    (Engine.unfold^[s.room + 1 + extra] bottom).trace stack program sink s =
        trace stack program sink s ∧
      (trace stack program sink s).2.depths = s.depths := by
  have hends : DepthRelation.bounded.coupling.TraceEnds _ s.heap.size s s
      ((Engine.unfold^[s.room + 1 + extra] bottom).trace stack program sink s)
      (trace stack program sink s) :=
    (coupled_full s.room_le extra bottom).trace (DepthRelation.goodAll _ program)
      (DepthRelation.goodAll _ _) sink (rel_bounded (Nat.le_succ _)) (Nat.le_refl _)
  obtain ⟨heq, hdepths⟩ := DepthRelation.eq_of_traceEnds hends fun _ _ h => h
  exact eq_of_atDepths heq hdepths

theorem callDefinition_ends (d : Definition Value) (args : List Value) (kwargs : Keywords Value) :
    d.call (Engine.unfold^[s.room + 1 + extra] bottom) args kwargs s =
        callDefinition d args kwargs s ∧
      (callDefinition d args kwargs s).2.depths = s.depths :=
  run_eq_of_agree ((coupled_full s.room_le extra bottom).definitionCall
    (DepthRelation.good _ (.definition d)) (DepthRelation.goodAll _ args)
    (DepthRelation.goodAll _ _)) (Nat.le_refl _)

end EntryPoints

/-- **Every run ends, and leaves the depths as it found them.**  The rules have exactly one
solution, and this is the interpreter.  A run from any state is the same whatever engine the rules
are unfolded over, as soon as they are unfolded more often than the state has room: it ends before
it reaches the bottom.  There is never more room than both depth limits together, and whether a run
returns or fails, the depths are then what they were. -/
theorem runs_end_and_restore_depths :
    (∀ next : Engine, next.unfold = next ↔ next = .full) ∧
      ∀ (s : State) (extra : Nat) (bottom : Engine),
        s.room ≤ 2 * depthLimit ∧
        (∀ e env, (Engine.unfold^[s.room + 1 + extra] bottom).eval e env s = eval e env s ∧
          (eval e env s).2.depths = s.depths) ∧
        (∀ node env,
          nested .evaluation (evalCall (Engine.unfold^[s.room + 1 + extra] bottom) env node) s =
              evaluateCall node env s ∧
            (evaluateCall node env s).2.depths = s.depths) ∧
        (∀ target args kwargs,
          target.apply (Engine.unfold^[s.room + 1 + extra] bottom) args kwargs s =
              apply target args kwargs s ∧
            (apply target args kwargs s).2.depths = s.depths) ∧
        (∀ stack program,
          (Engine.unfold^[s.room + 1 + extra] bottom).fold stack program s =
              fold stack program s ∧
            (fold stack program s).2.depths = s.depths) ∧
        (∀ stack program sink,
          (Engine.unfold^[s.room + 1 + extra] bottom).trace stack program sink s =
              trace stack program sink s ∧
            (trace stack program sink s).2.depths = s.depths) ∧
        ∀ d args kwargs,
          d.call (Engine.unfold^[s.room + 1 + extra] bottom) args kwargs s =
              callDefinition d args kwargs s ∧
            (callDefinition d args kwargs s).2.depths = s.depths :=
  ⟨Engine.unfold_eq_self_iff, fun s extra bottom =>
    ⟨s.room_le, eval_ends s extra bottom, evaluateCall_ends s extra bottom,
      apply_ends s extra bottom, fold_ends s extra bottom, trace_ends s extra bottom,
      callDefinition_ends s extra bottom⟩⟩

/-- A quotation that folds itself without end is stopped by the limit. -/
example : fold (.ofList [.list [Word.x.item]]) [Word.x.item] (State.initial.atDepths 0 250) =
    (.error (.tooDeep .folding), State.initial.atDepths 0 250) := rfl

end Runs

end Homoiconic
