import Homoiconic.Proofs.FormMeanings
import Homoiconic.Proofs.Numbers

/-!
# Declared arities are the ones enforced

Every entry of the registry declares how many arguments it takes, and the declaration is checked in
one place, before everything else.  Behind that check there are others.  A typed function counts its
arguments once more, some bodies refuse a count of their own, and each of them could report numbers
that the declaration does not know.  None of them is ever reached with a count to refuse: what a
primitive performs on arguments that its arity accepts does not fail for their number
(`Primitive.neverMiscounts_perform`).  So a primitive fails for the number of its arguments exactly
if its declared arity rejects it, with the numbers of the declaration.

For a special form the check has to come before the arguments are looked at.  What is left of a call
when its target has been evaluated is then a failure and nothing else, whatever evaluates
expressions, and the same holds of a named argument, which is refused next
(`RefusedUnevaluated`).  Both halves are put together in `declared_arities_are_enforced`.
-/

namespace Homoiconic

/-! ## What an arity rejects -/

namespace Arity

/-- The smallest number of arguments that an arity allows. -/
def least : Arity → Nat
  | .exact count => count
  | .atLeast least => least
  | .range least _ => least
  | .any => 0

/-- The greatest number of arguments that an arity allows, if there is one. -/
def most? : Arity → Option Nat
  | .exact count => some count
  | .range _ most => some most
  | .atLeast _ | .any => none

/-- A number of arguments is too small or too great for an arity, and violates the bound. -/
inductive Rejects (arity : Arity) (got : Nat) : Nat → Prop
  | tooFew (h : got < arity.least) : Rejects arity got arity.least
  | tooMany {most : Nat} (henough : arity.least ≤ got) (hmost : arity.most? = some most)
      (h : most < got) : Rejects arity got most

theorem rejects_iff {arity : Arity} {got bound : Nat} :
    arity.Rejects got bound ↔
      got < arity.least ∧ arity.least = bound ∨
        arity.least ≤ got ∧ bound < got ∧ arity.most? = some bound := by
  constructor
  · rintro (h | ⟨henough, hmost, h⟩)
    · exact .inl ⟨h, rfl⟩
    · exact .inr ⟨henough, h, hmost⟩
  · rintro (⟨h, rfl⟩ | ⟨henough, h, hmost⟩)
    · exact .tooFew h
    · exact .tooMany henough hmost h

/-- **The bound that is reported is the one that is violated.** -/
theorem violated?_eq_some_iff {arity : Arity} {got bound : Nat} :
    arity.violated? got = some bound ↔ arity.Rejects got bound := by
  rw [rejects_iff]
  cases arity with
  | exact count =>
    simp only [violated?, least, most?]
    split <;> simp <;> omega
  | atLeast least =>
    simp only [violated?, Arity.least, most?]
    split <;> simp <;> omega
  | range least most =>
    simp only [violated?, Arity.least, most?]
    split
    · simp
      omega
    · split <;> simp <;> omega
  | any => simp [violated?, least, most?]

theorem accepts_exact_iff {count got : Nat} :
    (Arity.exact count).accepts got = true ↔ got = count := by
  rw [accepts, Option.isNone_iff_eq_none, violated?_exact_eq_none_iff]

theorem accepts_iff_not_rejects {arity : Arity} {got : Nat} :
    arity.accepts got = true ↔ ∀ bound, ¬ arity.Rejects got bound := by
  rw [accepts, Option.isNone_iff_eq_none, Option.eq_none_iff_forall_ne_some]
  simp only [ne_eq, violated?_eq_some_iff]

end Arity

/-! ## No primitive miscounts -/

/-- However an action fails, it is not for a number of arguments. -/
def NeverMiscounts (a : EvalM Value) : Prop :=
  ∀ s e, (a s).1 = .error e → e.category ≠ .arity

theorem neverMiscounts_ofExcept {result : Except Error Value}
    (h : ∀ e, result = .error e → e.category ≠ .arity) : NeverMiscounts (ofExcept result) := by
  intro s e he
  rw [ofExcept_run] at he
  exact h e he

theorem neverMiscounts_answer (v : Value) : NeverMiscounts (answer v) :=
  @neverMiscounts_ofExcept (.ok v) fun _ he => nomatch he

theorem neverMiscounts_fail {e : Error} (h : e.category ≠ .arity) : NeverMiscounts (fail e) := by
  refine @neverMiscounts_ofExcept (.error e) ?_
  rintro _ ⟨⟩
  exact h

theorem neverMiscounts_answerNumber {result : Except Error Int64}
    (h : ∀ e, result = .error e → e.category ≠ .arity) : NeverMiscounts (answerNumber result) := by
  cases result with
  | ok n => exact neverMiscounts_answer (.number n)
  | error e => exact neverMiscounts_fail (h e rfl)

/-- A computation that is exact or overflows does not fail in another way. -/
theorem Exact.neverMiscounts {operation : Arithmetic} {fits : Prop} {exact : Int}
    {result : Except Error Int64} (h : Exact operation fits exact result) :
    NeverMiscounts (answerNumber result) := by
  refine neverMiscounts_answerNumber fun e he => ?_
  by_cases hfits : fits
  · obtain ⟨n, hn, _⟩ := h.returned hfits
    cases he.symm.trans hn
  · obtain rfl := Except.error.inj (he.symm.trans (h.overflowed hfits))
    exact nofun

theorem neverMiscounts_difference (first : Int64) (rest : List Int64) :
    NeverMiscounts (answerNumber (difference first rest)) := by
  cases rest with
  | nil => exact (exact_fit .negation _).neverMiscounts
  | cons second rest => exact (exact_difference first second rest).neverMiscounts

theorem neverMiscounts_lengthOf (v : Value) : NeverMiscounts (answerNumber (lengthOf v)) := by
  refine neverMiscounts_answerNumber fun e he => ?_
  unfold lengthOf at he
  split at he
  case h_5 =>
    obtain rfl := Except.error.inj he
    exact nofun
  all_goals cases he

/-- A typed function that is given the right number of arguments does not miscount, if it does not
do so itself when it is entered. -/
theorem Signature.neverMiscounts_call {sig : Signature} {body : sig.Body} {args : List Value}
    (hcount : Takes sig.rest sig.params args.length) (kwargs : Keywords Value)
    (hbody : ∀ xs, values sig.params xs = args → NeverMiscounts (applyTo sig.params body xs)) :
    NeverMiscounts (sig.call body args kwargs) := by
  cases hkey : kwargs.firstKey? with
  | some key =>
    rw [call_of_keyword hkey]
    exact neverMiscounts_fail nofun
  | none =>
    rcases call_of_takes hkey hcount with ⟨e, he, hcall⟩ | ⟨_, xs, hxs, hcall⟩
    · have htype := category_of_firstFault? he
      rw [hcall]
      exact neverMiscounts_fail fun harity => nomatch htype.symm.trans harity
    · rw [hcall]
      exact hbody xs hxs

/-- **A primitive does not miscount arguments that its arity accepts.**  A chain of comparisons
counts once more whether there are two of them, and a call that is built needs a target; both are
there. -/
theorem Primitive.neverMiscounts_perform {op : Primitive} {args : List Value}
    (h : op.arity.accepts args.length = true) (kwargs : Keywords Value) :
    NeverMiscounts (op.perform args kwargs) := by
  have hcompare {test : Int64 → Int64 → Bool} (htwo : 2 ≤ args.length) :
      NeverMiscounts (Signature.call ⟨[.number], some .number⟩
        (fun n ns => answerBool (compareChain test n ns)) args kwargs) := by
    refine Signature.neverMiscounts_call ?_ kwargs fun xs hxs => ?_
    · exact Nat.le_of_succ_le htwo
    · obtain ⟨first, rest⟩ := xs
      cases rest with
      -- A single number would be miscounted, and the arity has excluded it.
      | nil =>
        rw [← hxs] at htwo
        exact absurd htwo (Nat.lt_irrefl 1)
      | cons second rest => exact neverMiscounts_answer _
  cases op with
  | add =>
    refine Signature.neverMiscounts_call ?_ kwargs fun ns _ => (exact_sum ns).neverMiscounts
    exact Nat.zero_le _
  | multiply =>
    refine Signature.neverMiscounts_call ?_ kwargs fun ns _ => (exact_product ns).neverMiscounts
    exact Nat.zero_le _
  | subtract =>
    refine Signature.neverMiscounts_call ?_ kwargs fun xs _ => neverMiscounts_difference xs.1 xs.2
    exact Arity.accepts_atLeast_iff.mp h
  | less | greater | atMost | atLeast => exact hcompare (Arity.accepts_atLeast_iff.mp h)
  | equal =>
    refine Signature.neverMiscounts_call ?_ kwargs fun _ _ => neverMiscounts_answer _
    exact Nat.le_of_succ_le (Arity.accepts_atLeast_iff.mp h)
  | join =>
    refine Signature.neverMiscounts_call ?_ kwargs fun _ _ => neverMiscounts_answer _
    exact Arity.accepts_atLeast_iff.mp h
  | list | sequence | concat =>
    refine Signature.neverMiscounts_call ?_ kwargs fun _ _ => neverMiscounts_answer _
    exact Nat.zero_le _
  | gensym =>
    refine Signature.neverMiscounts_call ?_ kwargs fun _ _ s e he => ?_
    · exact Nat.zero_le _
    · cases he
  | not | identity | upper | lower =>
    refine Signature.neverMiscounts_call ?_ kwargs fun _ _ => neverMiscounts_answer _
    exact Arity.accepts_exact_iff.mp h
  | length =>
    refine Signature.neverMiscounts_call ?_ kwargs fun v _ => neverMiscounts_lengthOf v.1
    exact Arity.accepts_exact_iff.mp h
  | node =>
    cases args with
    | nil => cases h
    | cons target positional => exact neverMiscounts_answer _

/-! ## Calls that are refused -/

section Refused

variable {env : Environment} {node : CallNode Value} {s : State}

/-- A call of a callable fails before any of its parts is evaluated, except for the target. -/
structure RefusedUnevaluated (callable : Value) (env : Environment) (node : CallNode Value)
    (s : State) (e : Error) : Prop where
  /-- Once the target has been evaluated, nothing is left but the failure, whatever evaluates
  expressions. -/
  left (next : Engine) : evalCallOf next env callable node = fail e
  /-- So the call fails, and the state is as it was. -/
  run : eval (.call node) env s = (.error e, s)

/-- A form that does not get as far as its transformation evaluates nothing. -/
theorem SpecialForm.refusedUnevaluated {form : SpecialForm} {e : Error}
    (htarget : node.target = (Builtin.form form).toValue)
    (hroom : s.depth .evaluation + 2 ≤ depthLimit)
    (hexpand : ∀ next, form.expand next env node.positional node.named = fail e) :
    RefusedUnevaluated (Builtin.form form).toValue env node s e where
  left next := evalCallOf_form_of_expand_eq_fail (hexpand next)
  run := by
    have hdeeper : (s.enter .evaluation).depth .evaluation < depthLimit := by
      rw [State.depth_enter_self]
      exact hroom
    have heval : eval node.target env (s.enter .evaluation) =
        (.ok (Builtin.form form).toValue, s.enter .evaluation) := by
      rw [htarget]
      exact Names.itself.eval_eq hdeeper
    rw [eval_call_of_target heval, evalCallOf_form_of_expand_eq_fail (hexpand .full)]
    exact congrArg (Prod.mk _) (s.leave_enter .evaluation)

theorem expand_of_keyword {next : Engine} {form : SpecialForm} {args : List Value}
    {kwargs : Keywords Value} {key : String} (harity : form.arity.accepts args.length = true)
    (hkey : kwargs.firstKey? = some key) :
    form.expand next env args kwargs = fail (.formKeyword form.name key) := by
  rw [SpecialForm.expand, checkArity_of_accepts harity, pure_bind, hkey]

end Refused

/-- **The declared arity of every entry of the registry is the one that is enforced.**

An entry that takes its arguments evaluated fails for their number exactly if its arity rejects it,
with the bound that is violated, and nothing has been done then.  A call of an entry that takes them
unevaluated is refused in the same way, and next for a named argument, which is a type error.  In
both cases none of the arguments is evaluated and the state is left as it was, provided there are
two levels for the call and its target. -/
theorem declared_arities_are_enforced :
    (∀ b : Builtin, b.isExpander = false → ∀ args kwargs s,
      (∀ callee expected got,
        (apply b.toValue args kwargs s).1 = .error (.arity callee expected got) ↔
          callee = none ∧ got = args.length ∧ b.arity.Rejects args.length expected) ∧
      ∀ bound, b.arity.Rejects args.length bound →
        apply b.toValue args kwargs s = (.error (.arity none bound args.length), s)) ∧
    ∀ b : Builtin, b.isExpander = true → ∀ env node s, node.target = b.toValue →
      s.depth .evaluation + 2 ≤ depthLimit →
        (∀ bound, b.arity.Rejects node.positional.length bound →
          RefusedUnevaluated b.toValue env node s (.arity none bound node.positional.length)) ∧
        ∀ key, (∀ bound, ¬ b.arity.Rejects node.positional.length bound) →
          node.named.firstKey? = some key →
            (Error.formKeyword b.name key).category = .type ∧
              RefusedUnevaluated b.toValue env node s (.formKeyword b.name key) := by
  constructor
  · rintro (op | form) hplain args kwargs s
    · have hrejected : ∀ bound, op.arity.Rejects args.length bound →
          apply (Builtin.primitive op).toValue args kwargs = fail (.arity none bound args.length) :=
        fun bound hbound =>
          Primitive.apply_of_violated (Arity.violated?_eq_some_iff.mpr hbound) kwargs
      refine ⟨fun callee expected got => ⟨fun herror => ?_, ?_⟩,
        fun bound hbound => congrFun (hrejected bound hbound) s⟩
      · by_cases haccepts : op.arity.accepts args.length = true
        · rw [Primitive.apply_of_accepts haccepts] at herror
          exact absurd rfl (Primitive.neverMiscounts_perform haccepts kwargs s _ herror)
        · obtain ⟨bound, hbound⟩ : ∃ bound, op.arity.Rejects args.length bound := by
            rw [Arity.accepts_iff_not_rejects] at haccepts
            exact Classical.not_forall_not.mp haccepts
          rw [hrejected bound hbound] at herror
          obtain ⟨rfl, rfl, rfl⟩ := Error.arity.inj (Except.error.inj herror)
          exact ⟨rfl, rfl, hbound⟩
      · rintro ⟨rfl, rfl, hbound⟩
        rw [hrejected expected hbound]
        rfl
    · cases hplain
  · rintro (op | form) hexpander env node s htarget hroom
    · cases hexpander
    · constructor
      · intro bound hbound
        have hviolated := Arity.violated?_eq_some_iff.mpr hbound
        exact SpecialForm.refusedUnevaluated htarget hroom
          fun _ => expand_of_violated hviolated node.named
      · intro key hnone hkey
        have haccepts := Arity.accepts_iff_not_rejects.mpr hnone
        exact ⟨rfl, SpecialForm.refusedUnevaluated htarget hroom
          fun _ => expand_of_keyword haccepts hkey⟩

/-- A comparison of a single number, a conditional without branches and a quote with a named
argument are refused.  The arguments of the two forms are assignments, and they are not made. -/
theorem refused_calls_assign_nothing :
    let assignment := Value.call (.ofArgs (Builtin.form .assign).toValue [.symbol "x", .number 1])
    apply (Builtin.primitive .less).toValue [.number 1] .empty .initial =
        (.error (.arity none 2 1), .initial) ∧
      eval (.call (.ofArgs (Builtin.form .conditional).toValue [assignment])) ⟨0⟩ .initial =
        (.error (.arity none 2 1), .initial) ∧
      eval (.call ⟨(Builtin.form .quote).toValue, [assignment], .ofList [("k", assignment)]⟩) ⟨0⟩
        .initial = (.error (.formKeyword "quote" "k"), .initial) := by
  intro assignment
  obtain ⟨hplain, hexpander⟩ := declared_arities_are_enforced
  refine ⟨?_, ?_, ?_⟩
  · obtain ⟨_, hrejected⟩ := hplain (.primitive .less) rfl [.number 1] .empty .initial
    exact hrejected 2 (.tooFew (Nat.lt_succ_self 1))
  · obtain ⟨hrejected, _⟩ := hexpander (.form .conditional) rfl ⟨0⟩
      (.ofArgs (Builtin.form .conditional).toValue [assignment]) .initial rfl (by decide)
    exact (hrejected 2 (.tooFew (Nat.lt_succ_self 1))).run
  · obtain ⟨_, hkeyword⟩ := hexpander (.form .quote) rfl ⟨0⟩
      ⟨(Builtin.form .quote).toValue, [assignment], .ofList [("k", assignment)]⟩ .initial rfl
      (by decide)
    exact (hkeyword "k" (Arity.accepts_iff_not_rejects.mp rfl) rfl).2.run

end Homoiconic
