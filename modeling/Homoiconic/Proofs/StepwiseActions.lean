import Homoiconic.Proofs.ImmediateActions
import Homoiconic.Proofs.Requests

/-!
# What actions are composed of

Whatever the interpreter does to the state, it does in steps of eight kinds: it returns or fails, it
reads a part of the state or writes to the heap, it opens a scope, it draws an identity or a symbol,
or it logs a line.  Everything else is made of these by doing one action after another and by
nesting an action (`Stepwise`).

This is said once and for every rule, so that what the steps have in common can be proved of the
interpreter by induction on how an action is composed, without going through the rules again.  The
rules are against an engine, and composed of steps if the engine is; the engine of every number of
levels is, by induction on the levels (`stepwise_ofLevels`).  In the end all that an embedding
program can ask for is composed of steps (`stepwise_answer`).
-/

namespace Homoiconic

variable {α β : Type}

/-- An action that is composed of steps. -/
inductive Stepwise : {α : Type} → EvalM α → Prop
  | returning {α : Type} (x : α) : Stepwise (pure x : EvalM α)
  | failing {α : Type} (e : Error) : Stepwise (fail e : EvalM α)
  | reading {α : Type} (f : State → α) : Stepwise (read f)
  | writing (f : Heap → Heap) : Stepwise (changeHeap f)
  | opening (parent : Option ScopeId) (bindings : Keywords Value) :
      Stepwise (openScope parent bindings)
  | identifying : Stepwise freshIdentity
  | generating (stem : String) : Stepwise (gensym stem)
  | logging (line : String) : Stepwise (writeLog line)
  | bind {α β : Type} {a : EvalM α} {f : α → EvalM β} (first : Stepwise a)
      (then' : ∀ x, Stepwise (f x)) : Stepwise (a >>= f)
  | nested {α : Type} {a : EvalM α} (activity : Activity) (inner : Stepwise a) :
      Stepwise (nested activity a)

namespace Stepwise

theorem ofExcept (result : Except Error α) : Stepwise (Homoiconic.ofExcept result) := by
  cases result with
  | ok x => exact .returning x
  | error e => exact .failing e

theorem ofStack (result : Except Underflow α) : Stepwise (Homoiconic.ofStack result) := by
  cases result with
  | ok x => exact .returning x
  | error cause => exact .failing _

/-- To make something of the result takes no further step. -/
theorem map {a : EvalM α} (ha : Stepwise a) (f : α → β) : Stepwise (do return f (← a)) :=
  .bind ha fun _ => .returning _

end Stepwise

/-- Immediate actions are composed of steps. -/
theorem Immediate.stepwise {a : EvalM α} (h : Immediate a) : Stepwise a := by
  induction h with
  | returning x => exact .returning x
  | failing e => exact .failing e
  | generating stem => exact .generating stem
  | logging line => exact .logging line
  | bind _ _ ihfirst ihthen => exact .bind ihfirst ihthen

/-- An engine that evaluates and folds in steps. -/
structure Engine.Stepwise (next : Engine) : Prop where
  eval (e : Value) (env : Environment) : Homoiconic.Stepwise (next.eval e env)
  fold (stack : Stack Value) (program : List Value) : Homoiconic.Stepwise (next.fold stack program)

section Rules

variable {next : Engine} {env : Environment} (h : next.Stepwise)

include h

/-! ## Applying callables -/

theorem stepwise_evalBody (v : Value) (body : List Value) :
    Stepwise (evalBody next env v body) := by
  induction body generalizing v with
  | nil => exact .returning v
  | cons e rest ih => exact .bind (h.eval e env) ih

theorem stepwise_callClosure (c : Closure Value) (args : List Value) (kwargs : Keywords Value) :
    Stepwise (c.call next args kwargs) :=
  .bind (.ofExcept _) fun _ => .bind (.opening _ _) fun _ => stepwise_evalBody h _ _

theorem stepwise_callOperation (op : Operation Value) (args : List Value)
    (kwargs : Keywords Value) : Stepwise (op.call next args kwargs) := by
  cases op with
  | closure c => exact stepwise_callClosure h c args kwargs
  | _ => exact (Operation.immediate_call rfl next args kwargs).stepwise

theorem stepwise_apply (target : Value) (args : List Value) (kwargs : Keywords Value) :
    Stepwise (target.apply next args kwargs) := by
  cases target with
  | function f =>
    obtain ⟨name, callable⟩ := f
    cases callable with
    | plain op => exact stepwise_callOperation h op args kwargs
    | expander e => exact .failing _
  | definition d =>
    exact .bind (.ofExcept _) fun _ => .bind (h.fold _ _) fun _ => .ofStack _
  | _ => exact .failing _

/-! ## Expanding -/

theorem stepwise_chooseBranch (args : List Value) : Stepwise (chooseBranch next env args) := by
  induction args using chooseBranch.induct with
  | case1 => exact .returning _
  | case2 otherwise => exact .returning _
  | case3 condition branch rest ih =>
    refine .bind (h.eval condition env) fun v => ?_
    split
    · exact .returning branch
    · exact ih

theorem stepwise_shortCircuit (decisive : Bool) (whenEmpty : Value) (args : List Value) :
    Stepwise (shortCircuit next env decisive whenEmpty args) := by
  induction args using shortCircuit.induct with
  | case1 => exact .returning _
  | case2 last => exact .returning _
  | case3 e rest hrest ih =>
    rw [shortCircuit]
    · refine .bind (h.eval e env) fun v => ?_
      split
      · exact .returning _
      · exact ih
    · exact hrest

omit h in
theorem stepwise_symbolName (form : String) (v : Value) : Stepwise (symbolName form v) := by
  cases v with
  | symbol name => exact .returning name
  | _ => exact .failing _

theorem stepwise_assignPairs (last : Value) (args : List Value) :
    Stepwise (assignPairs next env last args) := by
  induction last, args using assignPairs.induct with
  | case1 last target e rest ih =>
    exact .bind (stepwise_symbolName _ _) fun _ => .bind (h.eval e env) fun v =>
      .bind (.writing _) fun _ => ih v
  | case2 args last hargs =>
    rw [assignPairs]
    · exact .returning last
    · exact hargs

theorem stepwise_bindPairs (args : List Value) : Stepwise (bindPairs next env args) := by
  induction args using bindPairs.induct with
  | case1 target e rest ih =>
    exact .bind (stepwise_symbolName _ _) fun _ => .bind (h.eval e env) fun _ =>
      .bind (.writing _) fun _ => ih
  | case2 args hargs =>
    rw [bindPairs]
    · exact .returning ()
    · exact hargs

theorem stepwise_letBody (args : List Value) : Stepwise (letBody next env args) := by
  unfold letBody
  split
  · split
    · exact .failing _
    · exact .bind (.opening _ _) fun _ => .bind (stepwise_bindPairs h _) fun _ =>
        .map (stepwise_evalBody h _ _) _
  · exact .failing _
  · exact .failing _

omit h in
theorem stepwise_claimName (params : Params Value) (name : String) :
    Stepwise (claimName params name) := by
  unfold claimName
  split
  · exact .failing _
  · exact .returning ()

omit h in
theorem stepwise_addRequired (form : String) (params : Params Value) (name : String) :
    Stepwise (params.addRequired form name) := by
  unfold Params.addRequired
  split
  · exact .failing _
  · exact .bind (stepwise_claimName params name) fun _ => .returning _

theorem stepwise_addOptional (form : String) (params : Params Value) (name : String)
    (default : Value) : Stepwise (Params.addOptional (next.eval · env) form params name default) := by
  unfold Params.addOptional
  split
  · exact .failing _
  · exact .bind (stepwise_claimName params name) fun _ => .map (h.eval default env) _

omit h in
theorem stepwise_addCollector (form : String) (params : Params Value) (marker name : String) :
    Stepwise (params.addCollector form marker name) := by
  unfold Params.addCollector
  split <;> split
  · exact .failing _
  · exact .bind (stepwise_claimName params name) fun _ => .returning _
  · exact .failing _
  · exact .bind (stepwise_claimName params name) fun _ => .returning _

theorem stepwise_readFrom (form : String) (params : Params Value) (items : List Value) :
    Stepwise (Params.readFrom (next.eval · env) form params items) := by
  induction params, items using Params.readFrom.induct with
  | case1 params => exact .returning params
  | case2 params marker hmarker name rest ih =>
    rw [Params.readFrom, if_pos hmarker]
    exact .bind (stepwise_addCollector form params marker name) ih
  | case3 params marker rest hmarker hname =>
    rw [Params.readFrom, if_pos hmarker]
    · exact .failing _
    all_goals exact hname
  | case4 params marker rest hmarker ih =>
    unfold Params.readFrom
    simp only [if_neg hmarker]
    exact .bind (stepwise_addRequired form params marker) ih
  | case5 params name default rest ih =>
    rw [Params.readFrom]
    exact .bind (stepwise_addOptional h form params name default) ih
  | case6 params items rest hpair =>
    rw [Params.readFrom]
    · exact .failing _
    all_goals exact hpair
  | case7 params v rest hsymbol hpair hlist =>
    rw [Params.readFrom]
    · exact .failing _
    all_goals assumption

theorem stepwise_makeClosure (form : String) (args : List Value) :
    Stepwise (makeClosure next env form args) := by
  unfold makeClosure
  split
  · exact .failing _
  · split
    · exact .failing _
    · exact .bind (stepwise_readFrom h form .empty _) fun _ => .map .identifying _
  · exact .failing _

theorem stepwise_defineClosure (form : String) (wrap : String → Closure Value → Value)
    (args : List Value) : Stepwise (defineClosure next env form wrap args) := by
  cases args with
  | nil => exact .failing _
  | cons target rest =>
    exact .bind (stepwise_symbolName form target) fun _ => .bind (stepwise_makeClosure h form rest)
      fun _ => .bind (.writing _) fun _ => .returning _

omit h in
theorem stepwise_threadSteps (atEnd : Bool) (args : List Value) :
    Stepwise (threadSteps atEnd args) := by
  cases args with
  | nil => exact .failing _
  | cons first steps => exact .returning _

theorem stepwise_transform (form : SpecialForm) (args : List Value) :
    Stepwise (form.transform next env args) := by
  cases form with
  | quote =>
    simp only [SpecialForm.transform]
    split
    · exact .returning _
    · exact .failing _
  | conditional =>
    simp only [SpecialForm.transform]
    split
    · exact .failing _
    · exact stepwise_chooseBranch h args
  | conjunction => exact stepwise_shortCircuit h _ _ args
  | disjunction => exact stepwise_shortCircuit h _ _ args
  | assign =>
    simp only [SpecialForm.transform]
    split
    · exact .failing _
    · exact .map (stepwise_assignPairs h _ args) _
  | lambda => exact .map (stepwise_makeClosure h _ args) _
  | expander => exact .map (stepwise_makeClosure h _ args) _
  | defineFunction => exact stepwise_defineClosure h _ _ args
  | defineExpander => exact stepwise_defineClosure h _ _ args
  | letIn => exact stepwise_letBody h args
  | thread => exact stepwise_threadSteps _ args
  | threadTail => exact stepwise_threadSteps _ args
  | evaluate =>
    simp only [SpecialForm.transform]
    split
    · exact h.eval _ env
    · exact .failing _
  | scope =>
    simp only [SpecialForm.transform]
    split
    · exact .map (.reading _) _
    · exact .failing _

theorem stepwise_nativeBinding (write : ScopeId → String → Value → Heap → Heap)
    (result : Value → Value) (args : List Value) :
    Stepwise (nativeBinding next env write result args) := by
  unfold nativeBinding
  split
  · exact .bind (h.eval _ env) fun _ => .bind (.writing _) fun _ => .returning _
  · exact .failing _

theorem stepwise_expand (e : Expander Value) (args : List Value) (kwargs : Keywords Value) :
    Stepwise (e.expand next env args kwargs) := by
  cases e with
  | form form =>
    refine .bind (Immediate.checkArity form.arity _).stepwise fun _ => ?_
    split
    · exact .failing _
    · exact stepwise_transform h form args
  | closure c => exact stepwise_callClosure h c args kwargs
  | native native identity =>
    cases native with
    | first | quote | twice | spy => exact .returning _
    | fail => exact .failing _
    | letLocal | assign =>
      simp only [Expander.expand, NativeExpander.expand]
      exact stepwise_nativeBinding h _ _ args

/-! ## Evaluating -/

theorem stepwise_evalEach (es : List Value) : Stepwise (evalEach next env es) := by
  induction es with
  | nil => exact .returning []
  | cons e rest ih => exact .bind (h.eval e env) fun _ => .map ih _

theorem stepwise_evalNamed (entries : List (String × Value)) :
    Stepwise (evalNamed next env entries) := by
  induction entries with
  | nil => exact .returning []
  | cons entry rest ih => exact .bind (h.eval entry.2 env) fun _ => .map ih _

theorem stepwise_evalCallOf (target : Value) (node : CallNode Value) :
    Stepwise (evalCallOf next env target node) := by
  unfold evalCallOf
  split
  · refine .bind (stepwise_expand h _ node.positional node.named) fun expansion => ?_
    split
    · exact h.eval expansion env
    · exact .returning expansion
  · exact .bind (stepwise_evalEach h node.positional) fun _ =>
      .bind (stepwise_evalNamed h node.named.entries) fun _ => stepwise_apply h target _ _

theorem stepwise_evalCall (node : CallNode Value) : Stepwise (evalCall next env node) :=
  .bind (h.eval node.target env) fun target => stepwise_evalCallOf h target node

omit h in
theorem stepwise_evalSymbol (name : String) : Stepwise (evalSymbol env name) := by
  refine .bind (.reading _) fun found => ?_
  cases found with
  | some v => exact .returning v
  | none => exact .failing _

theorem stepwise_evalStep (e : Value) : Stepwise (evalStep next env e) := by
  cases e with
  | symbol name => exact stepwise_evalSymbol name
  | call node => exact stepwise_evalCall h node
  | _ => exact .returning _

/-! ## Folding -/

omit h in
theorem stepwise_quotedProgram (word : String) (v : Value) : Stepwise (quotedProgram word v) := by
  cases v with
  | list items => exact .returning items
  | _ => exact .failing _

omit h in
theorem stepwise_positionalArguments (word : String) (v : Value) :
    Stepwise (positionalArguments word v) := by
  cases v with
  | list items => exact .returning items
  | stack s => exact .returning s.toList
  | _ => exact .failing _

omit h in
theorem stepwise_countOf (word : String) (v : Value) : Stepwise (countOf word v) := by
  cases v with
  | number n =>
    simp only [countOf]
    split
    · exact .failing _
    · exact .returning _
  | _ => exact .failing _

omit h in
theorem stepwise_innerStack (word : String) (order : List Value → List Value) (v : Value) :
    Stepwise (innerStack word order v) := by
  cases v with
  | list items => exact .returning _
  | stack s => exact .returning s
  | _ => exact .failing _

theorem stepwise_foldQuoted (word : String) (stack : Stack Value) (program : Value) :
    Stepwise (foldQuoted next word stack program) :=
  .bind (stepwise_quotedProgram word program) fun items => h.fold stack items

theorem stepwise_topAfter (word : String) (stack : Stack Value) (program : Value) :
    Stepwise (topAfter next word stack program) :=
  .bind (stepwise_foldQuoted h word stack program) fun _ => .ofStack _

theorem stepwise_foldOverItems (program : List Value) (stack : Stack Value) (items : List Value) :
    Stepwise (foldOverItems next program stack items) := by
  induction items generalizing stack with
  | nil => exact .returning stack
  | cons item rest ih => exact .bind (h.fold _ program) ih

theorem stepwise_foldTimes (program : List Value) (n : Nat) (stack : Stack Value) :
    Stepwise (foldTimes next program n stack) := by
  induction n generalizing stack with
  | zero => exact .returning stack
  | succ n ih => exact .bind (h.fold stack program) ih

theorem stepwise_foldInside (word : String) (order : List Value → List Value)
    (stack : Stack Value) : Stepwise (foldInside next word order stack) :=
  .bind (.ofStack _) fun _ => .bind (stepwise_innerStack word order _) fun _ =>
    .map (stepwise_foldQuoted h word _ _) _

theorem stepwise_invoke (stack : Stack Value) : Stepwise (invoke next stack) := by
  refine .bind (.ofStack _) fun ⟨rest, args, target⟩ => ?_
  cases args with
  | map kwargs =>
    exact .bind (.ofStack _) fun _ => .bind (stepwise_positionalArguments _ _) fun _ =>
      .map (stepwise_apply h target _ kwargs) _
  | _ =>
    exact .bind (stepwise_positionalArguments _ _) fun _ => .map (stepwise_apply h target _ _) _

theorem stepwise_runWord (word : Word) (stack : Stack Value) :
    Stepwise (runWord next word stack) := by
  cases word with
  | nop => exact .returning stack
  | pop | dup | swap | popd | dupd | choice => exact .map (.ofStack _) _
  | quote =>
    exact .bind (.ofStack _) fun _ => .bind (stepwise_countOf _ _) fun _ => .map (.ofStack _) _
  | invoke => exact stepwise_invoke h stack
  | cons | take => exact .bind (.ofStack _) fun _ => .map (stepwise_quotedProgram _ _) _
  | i | k | x | t => exact .bind (.ofStack _) fun _ => stepwise_foldQuoted h _ _ _
  | dip | dipd | dipdd => exact .bind (.ofStack _) fun _ => .map (stepwise_foldQuoted h _ _ _) _
  | step =>
    exact .bind (.ofStack _) fun _ => .bind (stepwise_positionalArguments _ _) fun _ =>
      .bind (stepwise_quotedProgram _ _) fun _ => stepwise_foldOverItems h _ _ _
  | nullary => exact .bind (.ofStack _) fun _ => .map (stepwise_topAfter h _ _ _) _
  | cleave =>
    exact .bind (.ofStack _) fun _ => .bind (stepwise_topAfter h _ _ _) fun _ =>
      .map (stepwise_topAfter h _ _ _) _
  | ifte =>
    exact .bind (.ofStack _) fun _ => .bind (stepwise_topAfter h _ _ _) fun _ =>
      stepwise_foldQuoted h _ _ _
  | times =>
    exact .bind (.ofStack _) fun _ => .bind (stepwise_countOf _ _) fun _ =>
      .bind (stepwise_quotedProgram _ _) fun _ => stepwise_foldTimes h _ _ _
  | infra | subspace => exact stepwise_foldInside h _ _ stack
  | b =>
    exact .bind (.ofStack _) fun _ => .bind (stepwise_foldQuoted h _ _ _) fun _ =>
      stepwise_foldQuoted h _ _ _
  | s =>
    exact .bind (.ofStack _) fun _ => .bind (stepwise_quotedProgram _ _) fun _ =>
      stepwise_foldQuoted h _ _ _
  | j =>
    exact .bind (.ofStack _) fun _ => .bind (stepwise_quotedProgram _ _) fun _ =>
      .bind (h.fold _ _) fun _ => h.fold _ _

theorem stepwise_runOperation (op : StackOperation) (stack : Stack Value) :
    Stepwise (op.run next stack) := by
  cases op with
  | word w => exact stepwise_runWord h w stack
  | native native identity =>
    cases native with
    | reverse | clear | depth => exact .returning _
    | broken => exact .failing _
    | forever => exact .bind .identifying fun _ => h.fold stack _

theorem stepwise_applyCombinator (c : Combinator Value) (stack : Stack Value) :
    Stepwise (c.apply next stack) := by
  cases c with
  | explicit name op => exact stepwise_runOperation h op stack
  | positional name op =>
    exact .bind (.ofStack _) fun _ => .bind (stepwise_positionalArguments name _) fun _ =>
      .map (stepwise_callOperation h op _ _) _
  | keyword name op =>
    refine .bind (.ofStack _) fun ⟨rest, layer⟩ => .bind ?_ fun _ => .bind (.ofStack _) fun _ =>
      .bind (stepwise_positionalArguments name _) fun _ => .map (stepwise_callOperation h op _ _) _
    cases layer with
    | map kwargs => exact .returning kwargs
    | _ => exact .failing _
  | popping name count op =>
    exact .bind (.ofStack _) fun _ => .map (stepwise_callOperation h op _ _) _
  | phrase p => exact h.fold stack p.program

theorem stepwise_stepItem (stack : Stack Value) (item : Value) :
    Stepwise (stepItem next stack item) := by
  cases item with
  | combinator c => exact stepwise_applyCombinator h c stack
  | _ => exact .returning _

theorem stepwise_foldItems (stack : Stack Value) (program : List Value) :
    Stepwise (foldItems next stack program) := by
  induction program generalizing stack with
  | nil => exact .returning stack
  | cons item rest ih => exact .bind (stepwise_stepItem h stack item) ih

/-! ## Tracing -/

/-- The loop of a traced fold, without what it writes. -/
def tracedItems (next : Engine) (stack : Stack Value) (program : List Value) (sink : Sink) :
    EvalM (Stack Value) :=
  fun s => ((traceItems next stack program sink s).1.1, (traceItems next stack program sink s).2)

omit h in
/-- A traced item is an item, with a line before it that fits and a line after it that has to. -/
theorem tracedItems_cons {stack : Stack Value} {item : Value} {rest : List Value}
    {sink sink' : Sink} (hfirst : sink.write? (lineBefore stack item) = some sink') :
    tracedItems next stack (item :: rest) sink =
      stepItem next stack item >>= fun after =>
        (sink'.write? (lineAfter after)).elim (fail sinkFull) (tracedItems next after rest) := by
  funext s
  rw [bind_run]
  simp only [tracedItems, traceItems, hfirst]
  cases hitem : stepItem next stack item s with
  | mk result s' =>
    cases result with
    | error e => rfl
    | ok after =>
      simp only []
      cases sink'.write? (lineAfter after) <;> rfl

theorem stepwise_tracedItems (stack : Stack Value) (program : List Value) (sink : Sink) :
    Stepwise (tracedItems next stack program sink) := by
  induction program generalizing stack sink with
  | nil => exact .returning stack
  | cons item rest ih =>
    cases hfirst : sink.write? (lineBefore stack item) with
    | none =>
      have hfull : tracedItems next stack (item :: rest) sink = fail sinkFull := by
        funext s
        simp only [tracedItems, traceItems, hfirst]
        rfl
      exact hfull ▸ .failing sinkFull
    | some sink' =>
      rw [tracedItems_cons hfirst]
      refine .bind (stepwise_stepItem h stack item) fun after => ?_
      cases sink'.write? (lineAfter after) with
      | none => exact .failing sinkFull
      | some sink'' => exact ih after sink''

end Rules

/-! ## The interpreter -/

/-- **The engine of every number of levels is composed of steps.** -/
theorem stepwise_ofLevels (levels : Nat) : (Engine.ofLevels levels).Stepwise := by
  induction levels with
  | zero => exact ⟨fun _ _ => .failing _, fun _ _ => .failing _⟩
  | succ levels ih =>
    exact ⟨fun e _ => .nested .evaluation (stepwise_evalStep ih e),
      fun stack program => .nested .folding (stepwise_foldItems ih stack program)⟩

theorem stepwise_full : Engine.full.Stepwise := stepwise_ofLevels _

theorem stepwise_traced (sink : Sink) (stack : Stack Value) (program : List Value) :
    Stepwise (Request.traced sink stack program) := by
  have hnested : Request.traced sink stack program =
      nested .folding (tracedItems .full stack program sink) := by
    funext s
    unfold Request.traced trace nested
    split <;> rfl
  exact hnested ▸ .nested .folding (stepwise_tracedItems stepwise_full stack program sink)

/-! ## Requests -/

section Environments

variable (env : Environment)

theorem stepwise_new : Stepwise Environment.new := .map (.opening none .empty) _

theorem stepwise_defineAll (entries : List (String × Value)) : Stepwise (env.defineAll entries) := by
  induction entries with
  | nil => exact .returning ()
  | cons entry rest ih => exact .bind (.writing _) fun _ => ih

theorem stepwise_withBuiltins : Stepwise Environment.withBuiltins := by
  unfold Environment.withBuiltins
  exact .bind stepwise_new fun env => .bind (stepwise_defineAll env _) fun _ => .returning env

theorem stepwise_defineJson (json : Json) : Stepwise (env.defineJson json) := by
  cases json with
  | object members =>
    show Stepwise (env.defineMembers members)
    induction members with
    | nil => exact .returning ()
    | cons member rest ih =>
      exact .bind (.ofExcept _) fun _ => .bind (.writing _) fun _ => ih
  | _ => exact .failing _

theorem stepwise_ofJson (json : Json) : Stepwise (Environment.ofJson json) :=
  .bind stepwise_new fun env => .bind (stepwise_defineJson env json) fun _ => .returning env

theorem stepwise_ofJsonText (text : String) : Stepwise (Environment.ofJsonText text) := by
  unfold Environment.ofJsonText
  cases Json.parse? text with
  | none => exact .failing _
  | some json => exact stepwise_ofJson json

/-- **All that an embedding program can ask for is composed of steps.** -/
theorem stepwise_answer (request : Request) : Stepwise request.answer := by
  have hfull := stepwise_full
  cases request with
  | new => exact .map stepwise_new _
  | withBuiltins => exact .map stepwise_withBuiltins _
  | child parent => exact .map (.map (.opening _ _) _) _
  | ofJson json => exact .map (stepwise_ofJson json) _
  | ofJsonText text => exact .map (stepwise_ofJsonText text) _
  | define env name v | set env name v => exact .map (.writing _) _
  | defineJson env json => exact .map (stepwise_defineJson env json) _
  | registerOperation env name op | registerExpander env name native =>
    exact .map (.bind (.map .identifying _) fun _ => .writing _) _
  | get env name | bindings env => exact .map (.reading _) _
  | identity => exact .map .identifying _
  | gensym stem => exact .map (.generating stem) _
  | eval e env => exact .map (hfull.eval e env) _
  | evaluateCall node env => exact .map (.nested .evaluation (stepwise_evalCall hfull node)) _
  | callNode node kwargs =>
    exact .map (.bind (.opening _ _) fun _ =>
      .nested .evaluation (stepwise_evalCall hfull node)) _
  | apply target args kwargs => exact .map (stepwise_apply hfull target args kwargs) _
  | applyCombinator c stack => exact .map (stepwise_applyCombinator hfull c stack) _
  | fold stack program => exact .map (hfull.fold stack program) _
  | trace sink stack program => exact .map (stepwise_traced sink stack program) _

end Environments

end Homoiconic
