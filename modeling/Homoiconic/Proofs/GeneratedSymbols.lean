import Homoiconic.Proofs.Numbers
import Homoiconic.Proofs.StepwiseActions
import Mathlib.Data.List.DropRight

/-!
# Generated symbols are distinct

Every generated symbol has a number of its own, and the number is written into its name.  It can be
read off the name again, whatever the stem is: the digits after the last dollar sign are those of
the number, since digits contain no dollar sign (`numberIn_gensymName`).  So symbols with different
numbers have different names, also where a stem looks like the end of a name.

It remains to be seen that no number is given out twice.  A symbol can be generated anywhere inside
a run, and it need not show in what the run returns.  Therefore a run is described together with the
names that are generated on the way (`Generates`): those of one action after another are joined,
and those that an action has generated when it fails are kept.  Every run has such a description,
since every action is composed of steps (`Stepwise.generates`).  And whatever the description, the
names are numbered on from the number of symbols that had been generated before, and this number
has grown by as many (`Generates.numbered`), by induction on the description.  A number is not
given back when an action fails, nor when a level of nesting is left.  The names in a description
are those that are handed out: who asks for a symbol, directly or through the builtin, gets the one
whose name is generated (`GeneratesOne`).

The same holds of all that is asked for in turn (`Serves`).
-/

namespace Homoiconic

variable {α : Type} {s s' : State} {names stems : List String} {stem : String} {n : Nat}

/-! ## Numbers in names -/

/-- The number that is written after the last dollar sign of a name. -/
def numberIn (name : String) : Nat := Nat.ofDigitChars 10 (name.toList.rtakeWhile (· != '$')) 0

theorem rtakeWhile_append_cons {β : Type} {p : β → Bool} {before after : List β} {b : β}
    (hb : p b = false) (hafter : ∀ x ∈ after, p x = true) :
    (before ++ b :: after).rtakeWhile p = after := by
  have hreversed : ∀ x ∈ after.reverse, p x = true := fun x hx => hafter x (List.mem_reverse.mp hx)
  rw [List.rtakeWhile, List.reverse_append, List.reverse_cons, List.append_assoc,
    List.takeWhile_append_of_pos hreversed, List.singleton_append,
    List.takeWhile_cons_of_neg (by simp [hb]), List.append_nil, List.reverse_reverse]

/-- **The number can be read off a generated name**, whatever the stem contains. -/
theorem numberIn_gensymName (stem : String) (n : Nat) : numberIn (gensymName stem n) = n := by
  have hsplit : (gensymName stem n).toList =
      ("#:" ++ stem).toList ++ '$' :: Nat.toDigits 10 n := by
    rw [gensymName, String.toList_append, String.toList_append, List.append_assoc]
    exact congrArg (fun digits => ("#:" ++ stem).toList ++ '$' :: digits) Nat.toList_repr
  have hdigits : ∀ c ∈ Nat.toDigits 10 n, (c != '$') = true := by
    intro c hc
    have hdigit : c.isDigit = true := Nat.isDigit_of_mem_toDigits (by decide) (by decide) hc
    refine bne_iff_ne.mpr ?_
    rintro rfl
    exact absurd hdigit (by decide)
  rw [numberIn, hsplit, rtakeWhile_append_cons (by decide) hdigits]
  exact Nat.ofDigitChars_ten_toDigits

/-- Names of symbols with the given stems, numbered on from a count. -/
def numbered (count : Nat) : List String → List String
  | [] => []
  | stem :: stems => gensymName stem (count + 1) :: numbered (count + 1) stems

theorem numbered_append (count : Nat) (stems later : List String) :
    numbered count (stems ++ later) =
      numbered count stems ++ numbered (count + stems.length) later := by
  induction stems generalizing count with
  | nil => rfl
  | cons stem stems ih =>
    rw [List.cons_append, numbered, ih, List.length_cons, Nat.add_comm stems.length,
      ← Nat.add_assoc]
    rfl

theorem length_numbered (count : Nat) (stems : List String) :
    (numbered count stems).length = stems.length := by
  induction stems generalizing count with
  | nil => rfl
  | cons stem stems ih => rw [numbered, List.length_cons, ih, List.length_cons]

theorem lt_numberIn_of_mem {count : Nat} {name : String} (h : name ∈ numbered count stems) :
    count < numberIn name := by
  induction stems generalizing count with
  | nil => cases h
  | cons stem stems ih =>
    rcases List.mem_cons.mp h with rfl | h
    · rw [numberIn_gensymName]
      exact Nat.lt_succ_self count
    · exact Nat.lt_of_succ_lt (ih h)

/-- **Names with increasing numbers are distinct.** -/
theorem nodup_numbered (count : Nat) (stems : List String) : (numbered count stems).Nodup := by
  induction stems generalizing count with
  | nil => exact .nil
  | cons stem stems ih =>
    refine List.nodup_cons.mpr ⟨fun hmem => ?_, ih (count + 1)⟩
    have hlater := lt_numberIn_of_mem hmem
    rw [numberIn_gensymName] at hlater
    exact Nat.lt_irrefl _ hlater

/-! ## Numbers of 64 bits -/

/-- Names of symbols with the given stems, numbered on from a count that is kept in a word. -/
def numberedByWord (count : UInt64) : List String → List String
  | [] => []
  | stem :: stems => gensymName stem (count + 1).toNat :: numberedByWord (count + 1) stems

/-- As long as the numbers fit, it makes no difference that they are kept in a word. -/
theorem numberedByWord_ofNat {count : Nat} (h : count + stems.length < UInt64.size) :
    numberedByWord (.ofNat count) stems = numbered count stems := by
  induction stems generalizing count with
  | nil => rfl
  | cons stem stems ih =>
    rw [List.length_cons] at h
    have hnext : UInt64.ofNat count + 1 = .ofNat (count + 1) := (UInt64.ofNat_add count 1).symm
    have hnumber : (UInt64.ofNat (count + 1)).toNat = count + 1 :=
      UInt64.toNat_ofNat_of_lt' (by omega)
    rw [numberedByWord, numbered, hnext, hnumber, ih (by omega)]

/-! ## Runs and the names they generate -/

/-- How an action is run from a state, which names are generated on the way, and how the run
ends. -/
inductive Generates : {α : Type} → EvalM α → State → List String → Except Error α × State → Prop
  | returning {α : Type} (x : α) (s : State) : Generates (pure x) s [] (.ok x, s)
  | failing {α : Type} (e : Error) (s : State) :
      Generates (fail e : EvalM α) s [] (.error e, s)
  | reading {α : Type} (f : State → α) (s : State) : Generates (read f) s [] (read f s)
  | writing (f : Heap → Heap) (s : State) : Generates (changeHeap f) s [] (changeHeap f s)
  | opening (parent : Option ScopeId) (bindings : Keywords Value) (s : State) :
      Generates (openScope parent bindings) s [] (openScope parent bindings s)
  | identifying (s : State) : Generates freshIdentity s [] (freshIdentity s)
  | logging (line : String) (s : State) : Generates (writeLog line) s [] (writeLog line s)
  /-- The name that is returned is the one that is generated. -/
  | generating {stem name : String} {s s' : State} (run : gensym stem s = (.ok name, s')) :
      Generates (gensym stem) s [name] (.ok name, s')
  | bind {α β : Type} {a : EvalM α} {f : α → EvalM β} {s s' : State} {x : α}
      {names later : List String} {final : Except Error β × State}
      (first : Generates a s names (.ok x, s')) (then' : Generates (f x) s' later final) :
      Generates (a >>= f) s (names ++ later) final
  /-- What an action has generated when it fails is generated. -/
  | stopping {α β : Type} {a : EvalM α} {f : α → EvalM β} {s s' : State} {e : Error}
      {names : List String} (first : Generates a s names (.error e, s')) :
      Generates (a >>= f) s names (.error e, s')
  | nested {α : Type} {a : EvalM α} {activity : Activity} {s : State} {names : List String}
      {final : Except Error α × State} (room : s.depth activity < depthLimit)
      (inner : Generates a (s.enter activity) names final) :
      Generates (nested activity a) s names (final.1, final.2.leave activity)
  | atLimit {α : Type} {a : EvalM α} {activity : Activity} {s : State}
      (limit : depthLimit ≤ s.depth activity) :
      Generates (Homoiconic.nested activity a) s [] (.error (.tooDeep activity), s)

/-- **Every run can be described together with the names it generates.** -/
theorem Stepwise.generates {a : EvalM α} (h : Stepwise a) (s : State) :
    ∃ names, Generates a s names (a s) := by
  induction h generalizing s with
  | returning x => exact ⟨[], .returning x s⟩
  | failing e => exact ⟨[], .failing e s⟩
  | reading f => exact ⟨[], .reading f s⟩
  | writing f => exact ⟨[], .writing f s⟩
  | opening parent bindings => exact ⟨[], .opening parent bindings s⟩
  | identifying => exact ⟨[], .identifying s⟩
  | generating stem => exact ⟨_, .generating rfl⟩
  | logging line => exact ⟨[], .logging line s⟩
  | @bind α β a f _ _ iha ihf =>
    -- Whether the second part is reached is known only when the first one has been run.
    obtain ⟨names, hfirst⟩ := iha s
    rw [bind_run]
    cases hrun : a s with
    | mk result s' =>
      rw [hrun] at hfirst
      cases result with
      | error e => exact ⟨names, .stopping hfirst⟩
      | ok x =>
        obtain ⟨later, hthen⟩ := ihf x s'
        exact ⟨names ++ later, .bind hfirst hthen⟩
  | @nested α a activity _ ih =>
    rcases Nat.lt_or_ge (s.depth activity) depthLimit with hlt | hle
    · obtain ⟨names, hinner⟩ := ih (s.enter activity)
      rw [nested_of_lt a hlt]
      exact ⟨names, .nested hlt hinner⟩
    · rw [nested_of_le a hle]
      exact ⟨[], .atLimit hle⟩

theorem State.gensyms_enter (s : State) (activity : Activity) :
    (s.enter activity).gensyms = s.gensyms := by
  cases activity <;> rfl

theorem State.gensyms_leave (s : State) (activity : Activity) :
    (s.leave activity).gensyms = s.gensyms := by
  cases activity <;> rfl

/-- What is described is the run. -/
theorem Generates.run_eq {a : EvalM α} {final : Except Error α × State}
    (h : Generates a s names final) : a s = final := by
  induction h with
  | returning | failing | reading | writing | opening | identifying | logging => rfl
  | generating run => exact run
  | bind _ _ ihfirst ihthen => rw [bind_of_ok ihfirst, ihthen]
  | stopping _ ihfirst => exact bind_of_error ihfirst
  | nested room _ ih => rw [nested_of_lt _ room, ih]
  | atLimit limit => exact nested_of_le _ limit

/-- **The names are numbered on from the symbols that there were before**, and after the run there
are as many more, however it ends. -/
theorem Generates.numbered {a : EvalM α} {final : Except Error α × State}
    (h : Generates a s names final) :
    ∃ stems, names = Homoiconic.numbered s.gensyms stems ∧
      final.2.gensyms = s.gensyms + stems.length := by
  induction h with
  | returning | failing | reading | writing | opening | identifying | logging | atLimit =>
    exact ⟨[], rfl, rfl⟩
  | @generating stem name s s' run =>
    obtain ⟨hname, rfl⟩ := Prod.mk.inj run
    obtain rfl := Except.ok.inj hname
    exact ⟨[stem], rfl, rfl⟩
  | bind _ _ ihfirst ihthen =>
    obtain ⟨stems, rfl, hfirst⟩ := ihfirst
    obtain ⟨later, rfl, hthen⟩ := ihthen
    refine ⟨stems ++ later, ?_, ?_⟩
    · rw [numbered_append, ← hfirst]
    · rw [hthen, hfirst, List.length_append, Nat.add_assoc]
  | stopping _ ihfirst => exact ihfirst
  | nested _ _ ih =>
    rw [State.gensyms_enter] at ih
    rwa [State.gensyms_leave]

/-! ## Symbols that are handed out -/

/-- A run generates one name, and returns what is made of this name. -/
def GeneratesOne (a : EvalM α) (make : String → α) (s : State) : Prop :=
  ∃ name, Generates a s [name] (.ok (make name), { s with gensyms := s.gensyms + 1 })

theorem generatesOne_gensym (stem : String) (make : String → α) (s : State) :
    GeneratesOne (do return make (← gensym stem)) make s :=
  ⟨_, .bind (.generating rfl) (.returning _ _)⟩

/-- A call of the builtin is refused, or it generates a symbol. -/
theorem apply_gensym_cases (args : List Value) (kwargs : Keywords Value) :
    (∃ stem, apply (Builtin.primitive .gensym).toValue args kwargs =
        do return .symbol (← gensym stem)) ∨
      ∃ e, apply (Builtin.primitive .gensym).toValue args kwargs = fail e := by
  cases hviolated : Primitive.gensym.arity.violated? args.length with
  | some bound => exact .inr ⟨_, Primitive.apply_of_violated hviolated kwargs⟩
  | none =>
    rw [Primitive.apply_of_accepts (Option.isNone_iff_eq_none.mpr hviolated)]
    cases hkey : kwargs.firstKey? with
    | some key => exact .inr ⟨_, Signature.call_of_keyword hkey _⟩
    | none =>
      have hcalls := @Signature.call_of_takes ⟨[], some .text⟩ args kwargs hkey (Nat.zero_le _)
      rcases hcalls with ⟨e, _, hcall⟩ | ⟨_, stems, _, hcall⟩
      · exact .inr ⟨e, hcall _⟩
      · exact .inl ⟨stems.head?.getD "g", hcall _⟩

/-- On one text, it generates a symbol with this stem. -/
theorem apply_gensym_string (stem : String) :
    apply (Builtin.primitive .gensym).toValue [.string stem] .empty =
      do return .symbol (← gensym stem) := rfl

/-! ## Requests in turn -/

/-- Requests are served one after the other, whether they succeed or fail.  The names are those that
are generated on the way. -/
inductive Serves : State → List Request → List String → State → Prop
  | done (s : State) : Serves s [] [] s
  | next {s s' s'' : State} {request : Request} {requests : List Request}
      {names later : List String} {result : Except Error Answer}
      (first : Generates request.answer s names (result, s'))
      (rest : Serves s' requests later s'') :
      Serves s (request :: requests) (names ++ later) s''

/-- The state that requests leave, one after the other. -/
def State.afterRequests (s : State) (requests : List Request) : State :=
  requests.foldl (fun s request => (request.answer s).2) s

/-- What is described is what serving the requests does. -/
theorem Serves.state_eq {requests : List Request} (h : Serves s requests names s') :
    s' = s.afterRequests requests := by
  induction h with
  | done s => rfl
  | next first _ ih =>
    rw [ih, State.afterRequests, State.afterRequests, List.foldl_cons, first.run_eq]

theorem exists_serves (s : State) (requests : List Request) :
    ∃ names, Serves s requests names (s.afterRequests requests) := by
  induction requests generalizing s with
  | nil => exact ⟨[], .done s⟩
  | cons request requests ih =>
    obtain ⟨names, hfirst⟩ := (stepwise_answer request).generates s
    obtain ⟨later, hrest⟩ := ih (request.answer s).2
    exact ⟨names ++ later, .next hfirst hrest⟩

theorem Serves.numbered {requests : List Request} (h : Serves s requests names s') :
    ∃ stems, names = Homoiconic.numbered s.gensyms stems ∧
      s'.gensyms = s.gensyms + stems.length := by
  induction h with
  | done s => exact ⟨[], rfl, rfl⟩
  | next first _ ih =>
    obtain ⟨stems, rfl, hfirst⟩ := first.numbered
    obtain ⟨later, rfl, hrest⟩ := ih
    refine ⟨stems ++ later, ?_, ?_⟩
    · rw [numbered_append, ← hfirst]
    · rw [hrest, hfirst, List.length_append, Nat.add_assoc]

/-- **Symbols are generated once.**  Whatever is asked for in turn, from whatever state, and
whatever symbols are generated by it, be it directly or anywhere inside evaluating and folding, in
what succeeds and in what fails: no two of the symbols are equal.  After every request there are as
many more symbols as it has generated, also if it has failed.  The names are numbered on, with
whatever stems, and numbers of 64 bits do as well as long as there are fewer symbols than that.

What is handed out is what is generated: a direct request returns the symbol of the one name that it
generates, and so does every call of the builtin that is not refused. -/
theorem generated_symbols_are_distinct (s : State) (requests : List Request) :
    (∃ names, Serves s requests names (s.afterRequests requests)) ∧
    (∀ names s', Serves s requests names s' →
      s' = s.afterRequests requests ∧ s'.gensyms = s.gensyms + names.length ∧
      (names.map Value.symbol).Pairwise (fun v w => (v == w) = false) ∧
      ∃ stems, names = numbered s.gensyms stems ∧
        (s.gensyms + names.length < UInt64.size →
          names = numberedByWord (.ofNat s.gensyms) stems)) ∧
    (∀ request : Request, ∃ names, Generates request.answer s names (request.answer s) ∧
      (request.answer s).2.gensyms = s.gensyms + names.length) ∧
    (∀ stem, GeneratesOne (Request.gensym stem).answer (fun name => ⟨[], [.symbol name]⟩) s) ∧
    (∀ stem, GeneratesOne (apply (Builtin.primitive .gensym).toValue [.string stem] .empty)
      .symbol s) ∧
    ∀ args kwargs,
      GeneratesOne (apply (Builtin.primitive .gensym).toValue args kwargs) .symbol s ∨
        ∃ e, Generates (apply (Builtin.primitive .gensym).toValue args kwargs) s []
          (.error e, s) := by
  refine ⟨exists_serves s requests, fun names s' hserves => ?_, fun request => ?_,
    fun stem => generatesOne_gensym stem _ s, fun stem => ?_, fun args kwargs => ?_⟩
  · have hstate := hserves.state_eq
    obtain ⟨stems, rfl, hcount⟩ := hserves.numbered
    rw [length_numbered]
    refine ⟨hstate, hcount, ?_, stems, rfl, fun hfits => (numberedByWord_ofNat hfits).symm⟩
    refine List.pairwise_map.mpr ((nodup_numbered _ stems).imp fun {a b} hne => ?_)
    show (a == b) = false
    exact beq_eq_false_iff_ne.mpr hne
  · obtain ⟨names, hgenerates⟩ := (stepwise_answer request).generates s
    obtain ⟨stems, rfl, hcount⟩ := hgenerates.numbered
    exact ⟨_, hgenerates, by rw [length_numbered, hcount]⟩
  · rw [apply_gensym_string]
    exact generatesOne_gensym stem _ s
  · rcases apply_gensym_cases args kwargs with ⟨stem, hcall⟩ | ⟨e, hcall⟩
    · rw [hcall]
      exact .inl (generatesOne_gensym stem _ s)
    · rw [hcall]
      exact .inr ⟨e, .failing e s⟩

/-- Three requests, of which the second one fails after it has generated a symbol. -/
def threeSymbols : List Request :=
  [.gensym "a",
    .eval (.call (.ofArgs (Builtin.primitive .list).toValue
      [.call (.ofArgs (Builtin.primitive .gensym).toValue [.string "b"]), .symbol "nowhere"])) ⟨0⟩,
    .eval (.call (.ofArgs (Builtin.primitive .gensym).toValue [.string "a$1"])) ⟨0⟩]

/-- All three symbols count, and no two of them are equal. -/
theorem threeSymbols_distinct : ∃ names, Serves .initial threeSymbols names
      (State.initial.afterRequests threeSymbols) ∧ names.length = 3 ∧
    (names.map Value.symbol).Pairwise (fun v w => (v == w) = false) ∧
    threeSymbols[1]?.map (fun request => (request.answer .initial).1) =
      some (.error (.unbound "nowhere")) := by
  obtain ⟨⟨names, hserves⟩, hdistinct, _⟩ :=
    generated_symbols_are_distinct .initial threeSymbols
  obtain ⟨_, hcount, hpairwise, _⟩ := hdistinct names _ hserves
  have hthree : (State.initial.afterRequests threeSymbols).gensyms = 3 := rfl
  have hnone : State.initial.gensyms = 0 := rfl
  refine ⟨names, hserves, ?_, hpairwise, rfl⟩
  omega

end Homoiconic
