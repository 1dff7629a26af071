import Homoiconic.Proofs.ArgumentBinding
import Mathlib.Data.List.Basic

/-!
# The counts in arity failures

A closure that is given a wrong number of arguments reports two numbers, how many arguments it
expected and how many it got.  There are two ways to fail like this.

Too many positional arguments are compared with the number of slots, and both numbers are reported.
So more arguments were got than expected.

A required parameter that is given no argument is reported with the number of required parameters,
next to the number of all arguments that were supplied.  These two need not differ in the right
direction.  A keyword argument for an optional parameter, or one that is collected, is supplied
without being for a required parameter, and it makes up for a missing one in the count.  How the two
numbers compare is therefore a comparison of two others: how many required parameters are missing
(`missingNames`), and how many keyword arguments are for no required parameter (`otherKeys`).

`arity_failure_of_bind` says both.  Behind its second half is a count of the required parameters
(`supplied_add_length_missingNames`).  Where one of them is missing, the positional arguments all go
to required parameters; each of the others is given a keyword argument of its name, or is missing.
-/

namespace Homoiconic

namespace Params

/-! ## What is missing, and what is beside the point -/

section Statement

variable (params : Params Value) (args : List Value) (kwargs : Keywords Value)

/-- The required parameters that are given no argument. -/
def missingNames : List String :=
  (params.required.filter (· ∉ params.filledNames args)).filter (· ∉ kwargs.keys)

/-- The keyword arguments that are for no required parameter. -/
def otherKeys : List String := kwargs.keys.filter (· ∉ params.required)

end Statement

variable {params : Params Value} {args : List Value} {kwargs : Keywords Value}

/-! ## Counting the required parameters -/

/-- Members that two lists without repetition have in common can be counted in either. -/
theorem length_filter_mem_comm {xs ys : List String} (hxs : xs.Nodup) (hys : ys.Nodup) :
    (xs.filter (· ∈ ys)).length = (ys.filter (· ∈ xs)).length := by
  refine ((List.perm_ext_iff_of_nodup (hxs.filter _) (hys.filter _)).mpr fun name => ?_).length_eq
  simp only [List.mem_filter, decide_eq_true_eq]
  exact and_comm

/-- Where a required parameter is missing, the positional arguments do not reach beyond the required
ones. -/
theorem length_lt_of_incomplete (hcomplete : ¬params.Complete args kwargs) :
    args.length < params.required.length := by
  by_contra hfilled
  refine hcomplete fun name hname => Or.inl ?_
  rw [filledNames, positionalNames, List.take_append,
    List.take_of_length_le (Nat.not_lt.mp hfilled)]
  exact List.mem_append_left _ hname

variable (hnodup : params.names.Nodup) (hcomplete : ¬params.Complete args kwargs)

include hnodup hcomplete

/-- As many required parameters are filled by position as there are positional arguments. -/
theorem length_filter_filledNames :
    (params.required.filter (· ∈ params.filledNames args)).length = args.length := by
  have hshort := length_lt_of_incomplete hcomplete
  have hfilled : params.filledNames args = params.required.take args.length :=
    List.take_append_of_le_length (Nat.le_of_lt hshort)
  have hrequired : params.required.Nodup :=
    (List.nodup_append.mp (nodup_positionalNames hnodup)).1
  have hall : (params.filledNames args).filter (· ∈ params.required) = params.filledNames args := by
    refine List.filter_eq_self.mpr fun name hname => decide_eq_true ?_
    rw [hfilled] at hname
    exact List.mem_of_mem_take hname
  have hnames : (params.filledNames args).Nodup :=
    (nodup_positionalNames hnodup).sublist (List.take_sublist _ _)
  rw [length_filter_mem_comm hrequired hnames, hall, hfilled, List.length_take,
    Nat.min_eq_left (Nat.le_of_lt hshort)]

/-- **The supplied arguments and the missing ones**, counted together, are the required parameters
and the keyword arguments for none of them. -/
theorem supplied_add_length_missingNames (hkwargs : kwargs.Distinct)
    (hkeywords : ∀ key ∈ kwargs.keys, params.TakesKeyword args key) :
    args.length + kwargs.size + (params.missingNames args kwargs).length =
      params.required.length + (params.otherKeys kwargs).length := by
  have hrequired : params.required.Nodup :=
    (List.nodup_append.mp (nodup_positionalNames hnodup)).1
  -- A keyword argument for a required parameter is for one that is not filled by position.
  have hkeys : kwargs.keys.filter (· ∈ params.required.filter (· ∉ params.filledNames args)) =
      kwargs.keys.filter (· ∈ params.required) := by
    refine List.filter_congr fun key hkey => decide_eq_decide.mpr ?_
    simp only [List.mem_filter, decide_eq_true_eq, and_iff_left_iff_imp]
    intro hmem
    rcases hkeywords key hkey with ⟨_, hempty⟩ | ⟨hnone, _⟩
    · exact hempty
    · exact absurd (List.mem_append_left _ hmem) hnone
  have hbyPosition := List.length_eq_length_filter_add (l := params.required)
    fun name => name ∈ params.filledNames args
  have hbyKeyword := List.length_eq_length_filter_add
    (l := params.required.filter (· ∉ params.filledNames args)) fun name => name ∈ kwargs.keys
  have hsupplied := List.length_eq_length_filter_add (l := kwargs.keys)
    fun key => key ∈ params.required
  have hsize : kwargs.keys.length = kwargs.size := List.length_map _
  rw [length_filter_filledNames hnodup hcomplete] at hbyPosition
  rw [length_filter_mem_comm (hrequired.filter _) hkwargs, hkeys] at hbyKeyword
  simp only [← decide_not] at hbyPosition hbyKeyword hsupplied
  rw [hsize] at hsupplied
  simp only [missingNames, otherKeys]
  omega

omit hnodup in
theorem missingNames_ne_nil : params.missingNames args kwargs ≠ [] := by
  rw [Complete] at hcomplete
  push Not at hcomplete
  obtain ⟨name, hname, hempty, hkey⟩ := hcomplete
  refine List.ne_nil_of_mem (a := name) ?_
  simp only [missingNames, List.mem_filter, decide_eq_true_eq]
  exact ⟨⟨hname, hempty⟩, hkey⟩

omit hnodup hcomplete

/-! ## Arity failures -/

/-- A binding that fails for the number of arguments fails for one of two reasons. -/
theorem cases_of_arity_failure (hnodup : params.names.Nodup) (hkwargs : kwargs.Distinct)
    {callee : Option String} {expected got : Nat}
    (hbind : params.bind args kwargs = .error (.arity callee expected got)) :
    ¬params.TakesPositional args ∨
      (∀ key ∈ kwargs.keys, params.TakesKeyword args key) ∧ ¬params.Complete args kwargs := by
  by_cases hpositional : params.TakesPositional args
  · have hkeywords : ∀ key ∈ kwargs.keys, params.TakesKeyword args key := by
      by_contra hrefused
      obtain ⟨before, key, after, hkeys, hbefore, hkey⟩ := exists_first_refused hrefused
      rw [bind_of_refused_keyword hnodup hkwargs hpositional hkeys hbefore hkey] at hbind
      have hcategory := category_keywordRefusal params key
      rw [Except.error.inj hbind] at hcategory
      cases hcategory
    refine Or.inr ⟨hkeywords, fun hcomplete => ?_⟩
    obtain ⟨bindings, hok, _⟩ :=
      exists_bind_of_accepts hnodup hkwargs ⟨hpositional, hkeywords, hcomplete⟩
    rw [hok] at hbind
    cases hbind
  · exact Or.inl hpositional

/-- **What the counts of an arity failure say.**  Take a parameter list that has been read, and
arguments that it fails to bind for their number.

* If there are too many positional arguments, more arguments were got than expected.
* Otherwise some required parameters are missing.  Then the reported numbers differ as the number of
  missing parameters differs from the number of keyword arguments for no required parameter.  So
  fewer arguments were got than expected if and only if there are fewer such keyword arguments than
  missing parameters. -/
theorem arity_failure_of_bind {reader : Engine} {env : Environment} {form : String}
    {list : List Value} {s₀ s₁ : State}
    (hread : Params.read (reader.eval · env) form list s₀ = (.ok params, s₁))
    (hkwargs : kwargs.Distinct) {callee : Option String} {expected got : Nat}
    (hbind : params.bind args kwargs = .error (.arity callee expected got)) :
    (¬params.TakesPositional args →
      expected = params.positionalNames.length ∧ got = args.length ∧ expected < got) ∧
    (params.TakesPositional args →
      expected = params.required.length ∧ got = args.length + kwargs.size ∧
      params.missingNames args kwargs ≠ [] ∧
      got + (params.missingNames args kwargs).length =
        expected + (params.otherKeys kwargs).length ∧
      (got < expected ↔
        (params.otherKeys kwargs).length < (params.missingNames args kwargs).length)) := by
  have hnodup := nodup_names_of_read hread
  constructor
  · intro hsurplus
    rw [bind_of_surplus hsurplus] at hbind
    obtain ⟨_, rfl, rfl⟩ := Error.arity.inj (Except.error.inj hbind)
    exact ⟨rfl, rfl, (not_not.mp (takesPositional_iff.not.mp hsurplus)).1⟩
  · intro hpositional
    obtain ⟨hkeywords, hcomplete⟩ :=
      (cases_of_arity_failure hnodup hkwargs hbind).resolve_left (not_not_intro hpositional)
    rw [bind_of_incomplete hnodup hkwargs hpositional hkeywords hcomplete] at hbind
    obtain ⟨_, rfl, rfl⟩ := Error.arity.inj (Except.error.inj hbind)
    have hcount := supplied_add_length_missingNames hnodup hcomplete hkwargs hkeywords
    refine ⟨rfl, rfl, missingNames_ne_nil hcomplete, hcount, ?_⟩
    omega

/-- Two required parameters are missing, and one argument is for an optional parameter. -/
theorem arity_failure_with_two_missing :
    Params.read (Engine.full.eval · ⟨0⟩) "lambda"
        [.symbol "a", .symbol "b", .list [.symbol "c", .number 0]] .initial =
      (.ok ⟨["a", "b"], [("c", .number 0)], none, none⟩, .initial) ∧
    (⟨[("c", .number 7)]⟩ : Keywords Value).Distinct ∧
    (⟨["a", "b"], [("c", .number 0)], none, none⟩ : Params Value).bind [] ⟨[("c", .number 7)]⟩ =
      .error (.arity none 2 1) ∧
    1 + ((⟨["a", "b"], [("c", .number 0)], none, none⟩ : Params Value).missingNames []
        ⟨[("c", .number 7)]⟩).length =
      2 + ((⟨["a", "b"], [("c", .number 0)], none, none⟩ : Params Value).otherKeys
        ⟨[("c", .number 7)]⟩).length := by
  have hread : Params.read (Engine.full.eval · ⟨0⟩) "lambda"
      [.symbol "a", .symbol "b", .list [.symbol "c", .number 0]] .initial =
        (.ok ⟨["a", "b"], [("c", .number 0)], none, none⟩, .initial) := rfl
  have hdistinct : (⟨[("c", .number 7)]⟩ : Keywords Value).Distinct := List.nodup_singleton _
  have hbind : (⟨["a", "b"], [("c", .number 0)], none, none⟩ : Params Value).bind []
      ⟨[("c", .number 7)]⟩ = .error (.arity none 2 1) := rfl
  obtain ⟨_, hmissing⟩ := arity_failure_of_bind hread hdistinct hbind
  obtain ⟨_, _, _, hcount, _⟩ := hmissing (Or.inl (Nat.zero_le _))
  exact ⟨hread, hdistinct, hbind, hcount⟩

/-- **A missing argument can be reported with equal counts.**  The only required parameter is given
no argument, and the one argument is for an optional parameter: one argument is expected, and one is
got. -/
theorem arity_failure_with_equal_counts :
    Params.read (Engine.full.eval · ⟨0⟩) "lambda"
        [.symbol "a", .list [.symbol "b", .number 0]] .initial =
      (.ok ⟨["a"], [("b", .number 0)], none, none⟩, .initial) ∧
    (⟨["a"], [("b", .number 0)], none, none⟩ : Params Value).missingNames []
      ⟨[("b", .number 7)]⟩ = ["a"] ∧
    (⟨["a"], [("b", .number 0)], none, none⟩ : Params Value).bind [] ⟨[("b", .number 7)]⟩ =
      .error (.arity none 1 1) :=
  ⟨rfl, rfl, rfl⟩

end Params

end Homoiconic
