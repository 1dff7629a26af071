import Homoiconic.Proofs.Calls
import Homoiconic.Proofs.ImmediateActions
import Homoiconic.Proofs.Splicing

/-!
# How deep is too deep

A level of nesting is taken for every expression that is evaluated, the leaves included, and for
every program that is folded.  It is given back before the next one is taken on the same level.  So
what a run needs is not the number of its parts but the height of the tree that they form, and for
programs of a simple kind the height can be read off the program:

* An expression of literals, quotes, symbols and calls, where the calls are of operations that do
  not evaluate or fold anything themselves (`Value.IsDirect`, `Value.height`).
* A program of data and of phrases of such programs (`Value.IsPlain`, `phraseHeight`).

What they compute can be said by plain recursion, with no limit on its depth: `evalDirectly` for
expressions, and pushing the items of the spliced program for programs.  If this recursion returns,
the run returns the same as long as its height fits between the depth at which it starts and the
limit, and fails at the limit otherwise (`depth_boundaries_are_exact`).

Both statements are about an action that counts levels and one that does not.  `TakesLevels` is what
is proved of such pairs.  Levels that are taken one after the other are compared, those that are
taken inside one another are added: `TakesLevels.bind` is a maximum and `TakesLevels.nested` a
successor, as in the definition of a height.
-/

namespace Homoiconic

variable {α β : Type}

/-! ## Actions that do not look at the depths -/

/-- An action does the same at all depths, and leaves them as they are. -/
def IgnoresDepths (a : EvalM α) : Prop :=
  ∀ (s : State) (e f : Nat), a (s.atDepths e f) = ((a s).1, (a s).2.atDepths e f)

namespace IgnoresDepths

variable {a : EvalM α}

theorem depths_eq (h : IgnoresDepths a) (s : State) : (a s).2.depths = s.depths := by
  have hrun := h s s.evaluationDepth s.foldingDepth
  rw [s.atDepths_self] at hrun
  exact congrArg (fun run => run.2.depths) hrun

theorem depths_of_run (h : IgnoresDepths a) {s s' : State} {result : Except Error α}
    (hrun : a s = (result, s')) : s'.depths = s.depths := by
  have hdepths := h.depths_eq s
  rwa [hrun] at hdepths

/-- What such an action does one level deeper. -/
theorem run_enter (h : IgnoresDepths a) (activity : Activity) (s : State) :
    a (s.enter activity) = ((a s).1, (a s).2.enter activity) := by
  obtain ⟨hevaluation, hfolding⟩ := Prod.mk.inj (h.depths_eq s)
  cases activity with
  | evaluation =>
    calc a (s.enter .evaluation)
      _ = ((a s).1, (a s).2.atDepths (s.evaluationDepth + 1) s.foldingDepth) := h s _ _
      _ = ((a s).1, (a s).2.enter .evaluation) := by rw [← hevaluation, ← hfolding]; rfl
  | folding =>
    calc a (s.enter .folding)
      _ = ((a s).1, (a s).2.atDepths s.evaluationDepth (s.foldingDepth + 1)) := h s _ _
      _ = ((a s).1, (a s).2.enter .folding) := by rw [← hevaluation, ← hfolding]; rfl

theorem returning (x : α) : IgnoresDepths (pure x) := fun _ _ _ => rfl

theorem failing (e : Error) : IgnoresDepths (fail e : EvalM α) := fun _ _ _ => rfl

theorem bind {f : α → EvalM β} (ha : IgnoresDepths a)
    (hf : ∀ s x s', a s = (.ok x, s') → IgnoresDepths (f x)) : IgnoresDepths (a >>= f) := by
  intro s e f'
  rw [bind_run, bind_run, ha s e f']
  cases hrun : a s with
  | mk result s' =>
    cases result with
    | error e => rfl
    | ok x => exact hf s x s' hrun s' e f'

end IgnoresDepths

/-- Immediate actions do the same at all depths. -/
theorem Immediate.ignoresDepths {a : EvalM α} (h : Immediate a) : IgnoresDepths a := by
  induction h with
  | returning x => exact .returning x
  | failing e => exact .failing e
  | generating | logging => exact fun _ _ _ => rfl
  | bind _ _ ihfirst ihthen => exact ihfirst.bind fun _ x _ _ => ihthen x

/-! ## Counting levels -/

/-- So many levels fit below the limit from a state.  No levels fit everywhere. -/
def LevelsFit (activity : Activity) (levels : Nat) (s : State) : Prop :=
  levels = 0 ∨ s.depth activity + levels ≤ depthLimit

section LevelsFit

variable {activity : Activity} {levels more : Nat} {s s' : State}

theorem levelsFit_congr (h : s'.depths = s.depths) :
    LevelsFit activity levels s' ↔ LevelsFit activity levels s := by
  rw [LevelsFit, LevelsFit, State.depth_congr h]

/-- Two numbers of levels fit if the larger one does. -/
theorem levelsFit_max_iff :
    LevelsFit activity (max levels more) s ↔
      LevelsFit activity levels s ∧ LevelsFit activity more s := by
  unfold LevelsFit
  omega

/-- One level more fits if it is there and the others fit one level deeper. -/
theorem levelsFit_succ_iff :
    LevelsFit activity (levels + 1) s ↔
      s.depth activity < depthLimit ∧ LevelsFit activity levels (s.enter activity) := by
  unfold LevelsFit
  rw [State.depth_enter_self]
  omega

end LevelsFit

/-- The first action takes so many levels, one inside the other, to do what the second one does at
any depth. -/
structure TakesLevels (activity : Activity) (levels : Nat) (a b : EvalM α) : Prop where
  ignores : IgnoresDepths b
  /-- Where the levels fit, the first action returns what the second one returns. -/
  within {s x s'} : b s = (.ok x, s') → LevelsFit activity levels s → a s = (.ok x, s')
  /-- Where they do not, it fails. -/
  beyond {s x s'} : b s = (.ok x, s') → ¬LevelsFit activity levels s →
    (a s).1 = .error (.tooDeep activity)

namespace TakesLevels

variable {activity : Activity} {levels more : Nat} {a b : EvalM α}

/-- An action that does the same at all depths takes no levels. -/
theorem self (h : IgnoresDepths a) : TakesLevels activity 0 a a where
  ignores := h
  within hrun _ := hrun
  beyond _ hfit := absurd (Or.inl rfl) hfit

/-- **Of levels that are taken one after the other, the larger number is taken.** -/
theorem bind {f g : α → EvalM β} (hab : TakesLevels activity levels a b)
    (hfg : ∀ s x s', b s = (.ok x, s') → TakesLevels activity more (f x) (g x)) :
    TakesLevels activity (max levels more) (a >>= f) (b >>= g) where
  ignores := hab.ignores.bind fun s x s' hrun => (hfg s x s' hrun).ignores
  within {s y s'} hrun hfit := by
    obtain ⟨x, s₁, hfirst, hrest⟩ := exists_of_bind_eq_ok hrun
    obtain ⟨hlevels, hmore⟩ := levelsFit_max_iff.mp hfit
    rw [bind_of_ok (hab.within hfirst hlevels)]
    exact (hfg s x s₁ hfirst).within hrest
      ((levelsFit_congr (hab.ignores.depths_of_run hfirst)).mpr hmore)
  beyond {s y s'} hrun hfit := by
    obtain ⟨x, s₁, hfirst, hrest⟩ := exists_of_bind_eq_ok hrun
    by_cases hlevels : LevelsFit activity levels s
    · have hmore : ¬LevelsFit activity more s₁ := by
        rw [levelsFit_congr (hab.ignores.depths_of_run hfirst)]
        exact fun hmore => hfit (levelsFit_max_iff.mpr ⟨hlevels, hmore⟩)
      rw [bind_of_ok (hab.within hfirst hlevels)]
      exact (hfg s x s₁ hfirst).beyond hrest hmore
    · rw [bind_of_error (Prod.ext (hab.beyond hfirst hlevels) rfl)]

/-- What ignores the depths can follow at no cost. -/
theorem followed {f : α → EvalM β} (hab : TakesLevels activity levels a b)
    (hf : ∀ x, IgnoresDepths (f x)) : TakesLevels activity levels (a >>= f) (b >>= f) := by
  have hbind := hab.bind fun _ x _ _ => self (hf x)
  rwa [Nat.max_zero] at hbind

/-- **A nested action takes one level more.** -/
theorem nested (hab : TakesLevels activity levels a b) :
    TakesLevels activity (levels + 1) (nested activity a) b where
  ignores := hab.ignores
  within {s x s'} hrun hfit := by
    obtain ⟨hlt, hlevels⟩ := levelsFit_succ_iff.mp hfit
    have hdeeper : b (s.enter activity) = (.ok x, s'.enter activity) := by
      rw [hab.ignores.run_enter, hrun]
    rw [nested_of_lt a hlt, hab.within hdeeper hlevels, State.leave_enter]
  beyond {s x s'} hrun hfit := by
    rcases Nat.lt_or_ge (s.depth activity) depthLimit with hlt | hle
    · have hdeeper : b (s.enter activity) = (.ok x, s'.enter activity) := by
        rw [hab.ignores.run_enter, hrun]
      rw [nested_of_lt a hlt]
      exact hab.beyond hdeeper fun hlevels => hfit (levelsFit_succ_iff.mpr ⟨hlt, hlevels⟩)
    · rw [nested_of_le a hle]

/-- Where an action returns that does not count levels, the one that takes some returns the same if
they fit and fails otherwise. -/
theorem boundary (hab : TakesLevels activity (levels + 1) a b) {s s' : State} {x : α}
    (hrun : b s = (.ok x, s')) :
    ((∃ y, (a s).1 = .ok y) ↔ s.depth activity + (levels + 1) ≤ depthLimit) ∧
    (s.depth activity + (levels + 1) ≤ depthLimit → a s = (.ok x, s')) ∧
    (depthLimit < s.depth activity + (levels + 1) → (a s).1 = .error (.tooDeep activity)) := by
  have hwithin : s.depth activity + (levels + 1) ≤ depthLimit → a s = (.ok x, s') :=
    fun hle => hab.within hrun (Or.inr hle)
  have hbeyond : depthLimit < s.depth activity + (levels + 1) →
      (a s).1 = .error (.tooDeep activity) :=
    fun hlt => hab.beyond hrun (by unfold LevelsFit; omega)
  refine ⟨⟨?_, fun hle => ⟨x, by rw [hwithin hle]⟩⟩, hwithin, hbeyond⟩
  rintro ⟨y, hy⟩
  refine Nat.le_of_not_lt fun hlt => ?_
  rw [hbeyond hlt] at hy
  cases hy

end TakesLevels

/-! ## Expressions -/

mutual

/-- The value of an expression by plain recursion, without a limit: the target of a call, then its
positional arguments from left to right, then its named ones, then the call. -/
def evalDirectly (env : Environment) : Value → EvalM Value
  | .symbol name => evalSymbol env name
  | .quote inner => pure inner
  | .call ⟨target, positional, ⟨named⟩⟩ => do
    let target ← evalDirectly env target
    let args ← evalEachDirectly env positional
    let entries ← evalNamedDirectly env named
    apply target args (.ofList entries)
  | v => pure v

/-- The values of expressions. -/
def evalEachDirectly (env : Environment) : List Value → EvalM (List Value)
  | [] => pure []
  | e :: rest => do
    let v ← evalDirectly env e
    let vs ← evalEachDirectly env rest
    return v :: vs

/-- The values of named expressions. -/
def evalNamedDirectly (env : Environment) : List (String × Value) → EvalM (List (String × Value))
  | [] => pure []
  | (name, e) :: rest => do
    let v ← evalDirectly env e
    let entries ← evalNamedDirectly env rest
    return (name, v) :: entries

end

mutual

/-- The height of an expression: one for a leaf, and one more than its highest part for a call. -/
def Value.height : Value → Nat
  | .call ⟨target, positional, ⟨named⟩⟩ =>
    max target.height (max (Value.heightOfEach positional) (Value.heightOfNamed named)) + 1
  | _ => 1

/-- The height of the highest of some expressions. -/
def Value.heightOfEach : List Value → Nat
  | [] => 0
  | e :: rest => max e.height (Value.heightOfEach rest)

/-- The height of the highest of some named expressions. -/
def Value.heightOfNamed : List (String × Value) → Nat
  | [] => 0
  | (_, e) :: rest => max e.height (Value.heightOfNamed rest)

end

/-- Expressions of literals, quotes, symbols, and calls of plain functions that are not closures. -/
inductive Value.IsDirect : Value → Prop
  | leaf {e : Value} (hleaf : ∀ node, e ≠ .call node) : IsDirect e
  | call (name : String) {op : Operation Value} (hop : op.closure? = none) {positional : List Value}
      {named : Keywords Value} (hpositional : ∀ e ∈ positional, e.IsDirect)
      (hnamed : ∀ entry ∈ named.entries, entry.2.IsDirect) :
      IsDirect (.call ⟨.function ⟨name, .plain op⟩, positional, named⟩)

section Expressions

variable {env : Environment}

theorem height_of_leaf {e : Value} (hleaf : ∀ node, e ≠ .call node) : e.height = 1 := by
  cases e with
  | call node => exact absurd rfl (hleaf node)
  | _ => rfl

theorem evalStep_of_leaf {e : Value} (hleaf : ∀ node, e ≠ .call node) :
    evalStep .full env e = evalDirectly env e := by
  cases e with
  | call node => exact absurd rfl (hleaf node)
  | _ => rfl

theorem ignoresDepths_evalSymbol (name : String) : IgnoresDepths (evalSymbol env name) := by
  have hlookup : IgnoresDepths (read fun s => s.heap.lookup? env.scope name) := fun _ _ _ => rfl
  refine hlookup.bind fun _ found _ _ => ?_
  cases found with
  | some v => exact .returning v
  | none => exact .failing _

/-- A leaf takes the level of its evaluation. -/
theorem takesLevels_leaf {e : Value} (hleaf : ∀ node, e ≠ .call node) :
    TakesLevels .evaluation e.height (eval e env) (evalDirectly env e) := by
  rw [height_of_leaf hleaf, eval_eq_nested, evalStep_of_leaf hleaf]
  refine (TakesLevels.self ?_).nested
  cases e with
  | call node => exact absurd rfl (hleaf node)
  | symbol name => exact ignoresDepths_evalSymbol name
  | _ => exact .returning _

theorem takesLevels_evalEach {args : List Value}
    (hargs : ∀ e ∈ args, TakesLevels .evaluation e.height (eval e env) (evalDirectly env e)) :
    TakesLevels .evaluation (Value.heightOfEach args) (evalEach .full env args)
      (evalEachDirectly env args) := by
  induction args with
  | nil => exact .self (.returning [])
  | cons e rest ih =>
    obtain ⟨hfirst, hrest⟩ := List.forall_mem_cons.mp hargs
    exact hfirst.bind fun _ v _ _ => (ih hrest).followed fun vs => .returning (v :: vs)

theorem takesLevels_evalNamed {named : List (String × Value)}
    (hnamed : ∀ entry ∈ named,
      TakesLevels .evaluation entry.2.height (eval entry.2 env) (evalDirectly env entry.2)) :
    TakesLevels .evaluation (Value.heightOfNamed named) (evalNamed .full env named)
      (evalNamedDirectly env named) := by
  induction named with
  | nil => exact .self (.returning [])
  | cons entry rest ih =>
    obtain ⟨hfirst, hrest⟩ := List.forall_mem_cons.mp hnamed
    exact hfirst.bind fun _ v _ _ =>
      (ih hrest).followed fun entries => .returning ((entry.1, v) :: entries)

/-- **An expression takes as many levels as it is high**, by induction on the expression. -/
theorem takesLevels_eval {e : Value} (he : e.IsDirect) :
    TakesLevels .evaluation e.height (eval e env) (evalDirectly env e) := by
  induction he with
  | leaf hleaf => exact takesLevels_leaf hleaf
  | @call name op hop positional named _ _ hpositional hnamed =>
    obtain ⟨named⟩ := named
    have htarget : TakesLevels .evaluation (Value.height (.function ⟨name, .plain op⟩))
        (eval (.function ⟨name, .plain op⟩) env)
        (evalDirectly env (.function ⟨name, .plain op⟩)) :=
      takesLevels_leaf fun _ => nofun
    have harguments : TakesLevels .evaluation
        (max (Value.heightOfEach positional) (Value.heightOfNamed named))
        (applyToArguments .full env (.function ⟨name, .plain op⟩)
          ⟨.function ⟨name, .plain op⟩, positional, ⟨named⟩⟩)
        (evalEachDirectly env positional >>= fun args =>
          evalNamedDirectly env named >>= fun entries =>
            apply (.function ⟨name, .plain op⟩) args (.ofList entries)) :=
      (takesLevels_evalEach hpositional).bind fun _ args _ _ =>
        (takesLevels_evalNamed hnamed).followed fun entries =>
          (Operation.immediate_call hop .full args (.ofList entries)).ignoresDepths
    rw [eval_eq_nested]
    refine (htarget.bind ?_).nested
    intro s target s' hrun
    obtain rfl : .function ⟨name, .plain op⟩ = target := Except.ok.inj (congrArg Prod.fst hrun)
    exact harguments

end Expressions

/-! ## Programs -/

/-- Items that are data, and phrases of such items. -/
inductive Value.IsPlain : Value → Prop
  | data {item : Value} (hdata : ∀ c, item ≠ .combinator c) : IsPlain item
  | phrase (name : String) {program : List Value} (hprogram : ∀ item ∈ program, item.IsPlain) :
      IsPlain (.combinator (.phrase ⟨name, program⟩))

section Programs

theorem takesLevels_foldItems {program : List Value}
    (hprogram : ∀ item ∈ program, ∀ stack : Stack Value,
      TakesLevels .folding (itemHeight item) (stepItem .full stack item)
        (pure (stack.pushAll (spliceItem item)))) (stack : Stack Value) :
    TakesLevels .folding (phraseHeight program) (foldItems .full stack program)
      (pure (stack.pushAll (splice program))) := by
  induction program generalizing stack with
  | nil => exact .self (.returning stack)
  | cons item rest ih =>
    obtain ⟨hfirst, hrest⟩ := List.forall_mem_cons.mp hprogram
    have hpush : (pure (stack.pushAll (splice (item :: rest))) : EvalM (Stack Value)) =
        pure (stack.pushAll (spliceItem item)) >>= fun after =>
          pure (after.pushAll (splice rest)) := by
      rw [pure_bind, splice, Stack.pushAll, List.foldl_append]
      rfl
    rw [hpush]
    exact (hfirst stack).bind fun _ after _ _ => ih hrest after

/-- **An item takes as many levels as phrases are nested in it**, by induction on the item. -/
theorem takesLevels_stepItem {item : Value} (hitem : item.IsPlain) (stack : Stack Value) :
    TakesLevels .folding (itemHeight item) (stepItem .full stack item)
      (pure (stack.pushAll (spliceItem item))) := by
  induction hitem generalizing stack with
  | @data item hdata =>
    cases item with
    | combinator c => exact absurd rfl (hdata c)
    | _ => exact .self (.returning _)
  | phrase name _ hprogram =>
    rw [fold_phrase]
    exact (takesLevels_foldItems hprogram stack).nested

/-- A program takes one level more. -/
theorem takesLevels_fold {program : List Value} (hprogram : ∀ item ∈ program, item.IsPlain)
    (stack : Stack Value) :
    TakesLevels .folding (phraseHeight program + 1) (fold stack program)
      (pure (stack.pushAll (splice program))) := by
  rw [fold_eq_nested]
  exact (takesLevels_foldItems (fun item hitem => takesLevels_stepItem (hprogram item hitem))
    stack).nested

end Programs

/-! ## The boundaries -/

theorem Value.height_pos (e : Value) : 0 < e.height := by
  unfold Value.height
  split <;> omega

/-- **The boundary of either limit is the height.**  If plain recursion gives an expression a value,
evaluation gives it this value, in the same state, exactly if the height of the expression fits
below the limit, and fails at the limit otherwise.  A program of data and of phrases pushes the
items of the spliced program, and changes nothing else, exactly if its height fits, and fails at the
limit otherwise. -/
theorem depth_boundaries_are_exact (s : State) :
    (∀ (env : Environment) (e v : Value) (s' : State), e.IsDirect →
      evalDirectly env e s = (.ok v, s') →
      ((∃ w, (eval e env s).1 = .ok w) ↔ s.depth .evaluation + e.height ≤ depthLimit) ∧
      (s.depth .evaluation + e.height ≤ depthLimit → eval e env s = (.ok v, s')) ∧
      (depthLimit < s.depth .evaluation + e.height →
        (eval e env s).1 = .error (.tooDeep .evaluation))) ∧
    (∀ (stack : Stack Value) (program : List Value), (∀ item ∈ program, item.IsPlain) →
      ((∃ t, (fold stack program s).1 = .ok t) ↔
        s.depth .folding + (phraseHeight program + 1) ≤ depthLimit) ∧
      (s.depth .folding + (phraseHeight program + 1) ≤ depthLimit →
        fold stack program s = (.ok (stack.pushAll (splice program)), s)) ∧
      (depthLimit < s.depth .folding + (phraseHeight program + 1) →
        (fold stack program s).1 = .error (.tooDeep .folding))) := by
  constructor
  · intro env e v s' he hrun
    obtain ⟨levels, hlevels⟩ := Nat.exists_eq_add_one.mpr e.height_pos
    have htakes : TakesLevels .evaluation e.height (eval e env) (evalDirectly env e) :=
      takesLevels_eval he
    rw [hlevels] at htakes ⊢
    exact htakes.boundary hrun
  · intro stack program hprogram
    exact (takesLevels_fold hprogram stack).boundary rfl

/-- The expression that lists the values of expressions. -/
def listing (args : List Value) : Value := .call (.ofArgs (Builtin.primitive .list).toValue args)

theorem isDirect_listing {args : List Value} (hargs : ∀ e ∈ args, e.IsDirect) :
    (listing args).IsDirect :=
  .call _ rfl hargs fun _ hentry => nomatch hentry

/-- An expression whose deepest branch stands between a shallow one and a leaf. -/
def unevenListing : Value := listing [listing [], listing [listing [.number 1]], .number 2]

/-- A program whose deepest phrase stands before data and a shallow phrase. -/
def unevenProgram : List Value :=
  [.combinator (.phrase ⟨"outer", [.combinator (.phrase ⟨"inner", [.number 1]⟩)]⟩), .number 2,
    .combinator (.phrase ⟨"flat", [.number 3]⟩)]

/-- Both at their boundary, and one level deeper. -/
theorem depth_boundaries_of_uneven_parts :
    unevenListing.height = 4 ∧ phraseHeight unevenProgram + 1 = 3 ∧
    eval unevenListing ⟨0⟩ (State.initial.atDepths 252 253) =
      (.ok (.list [.list [], .list [.list [.number 1]], .number 2]),
        State.initial.atDepths 252 253) ∧
    (eval unevenListing ⟨0⟩ (State.initial.atDepths 253 254)).1 = .error (.tooDeep .evaluation) ∧
    fold .empty unevenProgram (State.initial.atDepths 252 253) =
      (.ok (.ofList [.number 1, .number 2, .number 3]), State.initial.atDepths 252 253) ∧
    (fold .empty unevenProgram (State.initial.atDepths 253 254)).1 =
      .error (.tooDeep .folding) := by
  have hleaf : ∀ n, (Value.number n).IsDirect := fun n => .leaf fun _ => nofun
  have hone : ∀ e : Value, e.IsDirect → (listing [e]).IsDirect := fun e he =>
    isDirect_listing (List.forall_mem_singleton.mpr he)
  have hexpression : unevenListing.IsDirect := by
    refine isDirect_listing ?_
    rw [List.forall_mem_cons, List.forall_mem_cons, List.forall_mem_singleton]
    exact ⟨isDirect_listing (fun _ he => nomatch he), hone _ (hone _ (hleaf 1)), hleaf 2⟩
  have hdata : ∀ n, (Value.number n).IsPlain := fun n => .data fun _ => nofun
  have hphrase : ∀ name item, item.IsPlain →
      (Value.combinator (.phrase ⟨name, [item]⟩)).IsPlain := fun name _ hitem =>
    .phrase name (List.forall_mem_singleton.mpr hitem)
  have hprogram : ∀ item ∈ unevenProgram, item.IsPlain := by
    rw [unevenProgram, List.forall_mem_cons, List.forall_mem_cons, List.forall_mem_singleton]
    exact ⟨hphrase _ _ (hphrase _ _ (hdata 1)), hdata 2, hphrase _ _ (hdata 3)⟩
  have hvalue : ∀ s : State, evalDirectly ⟨0⟩ unevenListing s =
      (.ok (.list [.list [], .list [.list [.number 1]], .number 2]), s) := fun _ => rfl
  obtain ⟨hevals, hfolds⟩ := depth_boundaries_are_exact (State.initial.atDepths 252 253)
  obtain ⟨hevals', hfolds'⟩ := depth_boundaries_are_exact (State.initial.atDepths 253 254)
  refine ⟨rfl, rfl, ?_, ?_, ?_, ?_⟩
  · exact (hevals ⟨0⟩ _ _ _ hexpression (hvalue _)).2.1 (by decide)
  · exact (hevals' ⟨0⟩ _ _ _ hexpression (hvalue _)).2.2 (by decide)
  · exact (hfolds .empty _ hprogram).2.1 (by decide)
  · exact (hfolds' .empty _ hprogram).2.2 (by decide)

end Homoiconic
