import Homoiconic.Interpreter
import Homoiconic.Proofs.Runs
import Homoiconic.Proofs.TypedFunctions
import Homoiconic.Registry
import Mathlib.Algebra.Ring.Int.Defs
import Mathlib.Data.List.Chain

/-!
# Arithmetic and comparison of numbers

Seven primitives take numbers only, any number of them.  Numbers are 64-bit integers, and what the
primitives do with them is said here in terms of the integers they stand for.

## Sums, products and differences

Arithmetic runs from left to right.  Every partial result has to fit 64 bits, also where a later
argument would bring it back into range, so it is not enough to look at the total.  If all partial
results fit, the last of them is the exact result, and otherwise an overflow is reported
(`arithmetic_is_exact_or_overflows`).  The partial results of a sum are the sums of the prefixes of
its arguments, and likewise for products and differences.

## Chains of comparisons

A comparison of several numbers compares neighbours and stops at the first two that do not compare.
The relations are transitive, so the neighbours compare exactly if any two numbers do, the earlier
one with the later one (`comparisons_decide_order`).  This says what happens when the arguments are
reversed: a relation is exchanged for its converse.

## Other arguments

All arguments are converted to numbers before any of them is used.  So the leftmost one that is no
number is reported in every case, whatever the numbers before it would have led to
(`Primitive.perform_of_not_number`).
-/

namespace Homoiconic

/-- Numbers as values. -/
def numbers (ns : List Int64) : List Value := ns.map .number

/-! ## Arguments that are no numbers -/

namespace Primitive

/-- The primitives all of whose arguments have to be numbers. -/
def isNumeric : Primitive → Bool
  | .add | .subtract | .multiply | .less | .greater | .atMost | .atLeast => true
  | _ => false

/-- They are typed functions of numbers, and need no more than one of them to be entered. -/
theorem exists_perform_eq_call {op : Primitive} (hop : op.isNumeric = true) :
    ∃ (count : Nat) (body : Signature.Body ⟨List.replicate count .number, some .number⟩),
      count ≤ 1 ∧ ∀ args kwargs, op.perform args kwargs =
        Signature.call ⟨List.replicate count .number, some .number⟩ body args kwargs := by
  cases op with
  | add | multiply => exact ⟨0, _, Nat.zero_le 1, fun _ _ => rfl⟩
  | subtract | less | greater | atMost | atLeast => exact ⟨1, _, Nat.le_refl 1, fun _ _ => rfl⟩
  | _ => cases hop

end Primitive

theorem Signature.types_replicate {count got : Nat} (h : count ≤ got) :
    types (some .number) (List.replicate count .number) got = List.replicate got .number := by
  have hrest : got - (List.replicate count ParamType.number).length = got - count := by
    rw [List.length_replicate]
  rw [types, hrest]
  calc List.replicate count .number ++ List.replicate (got - count) ElementType.number.single
    _ = List.replicate (count + (got - count)) .number := List.replicate_append_replicate
    _ = List.replicate got .number := by rw [Nat.add_sub_cancel' h]

section Leftmost

variable {before : List Int64} {v : Value} {after : List Value}

/-- Of some arguments after numbers, the first one that is no number is at fault. -/
theorem findSome?_fault?_numbers (hv : v.kind ≠ .number) :
    (numbers before ++ v :: after).findSome? ElementType.number.fault? =
      some (.expectedKind .number v.kind) := by
  have hbefore : (numbers before).findSome? ElementType.number.fault? = none := by
    rw [List.findSome?_eq_none_iff]
    intro w hw
    obtain ⟨n, _, rfl⟩ := List.mem_map.mp hw
    rfl
  have hfault : ElementType.number.fault? v = some (.expectedKind .number v.kind) :=
    kindFault?_of_ne hv
  rw [List.findSome?_append, hbefore, List.findSome?_cons, hfault]
  rfl

/-- **The leftmost argument that is no number is reported**, whatever comes before it. -/
theorem Primitive.perform_of_not_number {op : Primitive} (hop : op.isNumeric = true)
    (hv : v.kind ≠ .number) :
    op.perform (numbers before ++ v :: after) .empty = fail (.expectedKind .number v.kind) := by
  obtain ⟨count, body, hcount, hperform⟩ := exists_perform_eq_call hop
  have henough : count ≤ (numbers before ++ v :: after).length := by
    rw [List.length_append, List.length_cons]
    omega
  have htakes : Signature.Takes (some .number) (List.replicate count .number)
      (numbers before ++ v :: after).length := by
    show (List.replicate count ParamType.number).length ≤ _
    rwa [List.length_replicate]
  rw [hperform]
  refine Signature.call_of_firstFault rfl htakes ?_ body
  calc Signature.firstFault? (Signature.types (some .number) (List.replicate count .number)
          (numbers before ++ v :: after).length) (numbers before ++ v :: after)
    _ = Signature.firstFault? (List.replicate (numbers before ++ v :: after).length
          ElementType.number.single) (numbers before ++ v :: after) := by
      rw [Signature.types_replicate henough]
      rfl
    _ = some (.expectedKind .number v.kind) := by
      rw [Signature.firstFault?_replicate, findSome?_fault?_numbers hv]

end Leftmost

/-! ## Calls -/

/-- A primitive whose arity accepts its arguments does what it performs. -/
theorem Primitive.apply_of_accepts {op : Primitive} {args : List Value}
    (h : op.arity.accepts args.length = true) (kwargs : Keywords Value) :
    apply (Builtin.primitive op).toValue args kwargs = op.perform args kwargs := by
  calc apply (Builtin.primitive op).toValue args kwargs
    _ = checkArity op.arity args.length >>= fun _ => op.perform args kwargs := rfl
    _ = op.perform args kwargs := by rw [checkArity_of_accepts h, pure_bind]

/-- A number of arguments that violates the arity of a primitive is refused. -/
theorem Primitive.apply_of_violated {op : Primitive} {args : List Value} {bound : Nat}
    (h : op.arity.violated? args.length = some bound) (kwargs : Keywords Value) :
    apply (Builtin.primitive op).toValue args kwargs = fail (.arity none bound args.length) := by
  calc apply (Builtin.primitive op).toValue args kwargs
    _ = checkArity op.arity args.length >>= fun _ => op.perform args kwargs := rfl
    _ = fail (.arity none bound args.length) := by rw [checkArity_of_violated h, fail_bind]

theorem Signature.call_numbers (body : Body ⟨[], some .number⟩) (ns : List Int64) :
    call ⟨[], some .number⟩ body (numbers ns) .empty = body ns :=
  @call_values ⟨[], some .number⟩ ns body

theorem Signature.call_number_cons (body : Body ⟨[.number], some .number⟩) (n : Int64)
    (ns : List Int64) :
    call ⟨[.number], some .number⟩ body (numbers (n :: ns)) .empty = body n ns :=
  @call_values ⟨[.number], some .number⟩ (n, ns) body

/-! ## Exact arithmetic -/

/-- The integers that numbers stand for. -/
def integers (ns : List Int64) : List Int := ns.map Int64.toInt

/-- Whether an integer fits 64 bits, so that a number stands for it. -/
def Fits64 (n : Int) : Prop := Int64.minValue.toInt ≤ n ∧ n ≤ Int64.maxValue.toInt

instance (n : Int) : Decidable (Fits64 n) := inferInstanceAs (Decidable (_ ∧ _))

theorem fits64_toInt (n : Int64) : Fits64 n.toInt := ⟨n.minValue_le_toInt, n.toInt_le⟩

/-- A computation returns the exact integer, if what has to fit fits, and overflows otherwise. -/
structure Exact (operation : Arithmetic) (fits : Prop) (exact : Int)
    (result : Except Error Int64) : Prop where
  returned : fits → ∃ n, result = .ok n ∧ n.toInt = exact
  overflowed : ¬ fits → result = .error (.overflow operation)

theorem exact_fit (operation : Arithmetic) (n : Int) :
    Exact operation (Fits64 n) n (fit operation n) where
  returned h := by
    have hlower : -2 ^ 63 ≤ n := Int64.toInt_minValue ▸ h.1
    have hupper : n < 2 ^ 63 := Int.lt_of_le_sub_one (Int64.toInt_maxValue ▸ h.2)
    exact ⟨Int64.ofInt n, if_pos h, Int64.toInt_ofInt_of_le hlower hupper⟩
  overflowed h := if_neg h

theorem forall_prefix_cons_iff {α : Type} {p : List α → Prop} {a : α} {l : List α} :
    (∀ before, before <+: a :: l → p before) ↔
      p [] ∧ ∀ before, before <+: l → p (a :: before) := by
  constructor
  · intro h
    refine ⟨h [] List.nil_prefix, fun before hbefore => ?_⟩
    exact h (a :: before) (List.cons_prefix_cons.mpr ⟨rfl, hbefore⟩)
  · rintro ⟨hnil, hcons⟩ before hbefore
    obtain rfl | ⟨rest, rfl, hrest⟩ := List.prefix_cons_iff.mp hbefore
    · exact hnil
    · exact hcons rest hrest

/-- **Numbers are combined exactly as long as everything fits.**  What has to fit is what the
prefixes come to.  The induction is along the numbers that are left, with any total before them. -/
theorem exact_accumulate (operation : Arithmetic) (combine : Int → Int → Int) (total : Int64)
    (ns : List Int64) :
    Exact operation
      (∀ before, before <+: ns → Fits64 ((integers before).foldl combine total.toInt))
      ((integers ns).foldl combine total.toInt) (accumulate operation combine total ns) := by
  induction ns generalizing total with
  | nil =>
    refine ⟨fun _ => ⟨total, rfl, rfl⟩, fun h => absurd ?_ h⟩
    intro before hbefore
    obtain rfl := List.prefix_nil.mp hbefore
    exact fits64_toInt total
  | cons n rest ih =>
    obtain ⟨hreturned, hoverflowed⟩ := exact_fit operation (combine total.toInt n.toInt)
    by_cases hfits : Fits64 (combine total.toInt n.toInt)
    · obtain ⟨next, hnext, hexact⟩ := hreturned hfits
      -- The empty prefix comes to the total before, and every other one starts with `n`.
      have hstep : accumulate operation combine total (n :: rest) =
          accumulate operation combine next rest := by rw [accumulate, hnext]
      have hfoldl (l : List Int64) : (integers (n :: l)).foldl combine total.toInt =
          (integers l).foldl combine next.toInt := by
        rw [hexact]
        rfl
      obtain ⟨hrest, hrest'⟩ := ih next
      rw [hstep, hfoldl, forall_prefix_cons_iff]
      simp only [hfoldl]
      exact ⟨fun h => hrest h.2, fun h => hrest' fun hall => h ⟨fits64_toInt total, hall⟩⟩
    · have hstep : accumulate operation combine total (n :: rest) =
          .error (.overflow operation) := by rw [accumulate, hoverflowed hfits]
      refine ⟨fun h => absurd ?_ hfits, fun _ => hstep⟩
      exact h [n] (List.cons_prefix_cons.mpr ⟨rfl, List.nil_prefix⟩)

theorem foldl_sub_eq (l : List Int) (n : Int) : l.foldl (· - ·) n = n - l.sum := by
  induction l generalizing n with
  | nil => exact (Int.sub_zero n).symm
  | cons m rest ih => rw [List.foldl_cons, ih, List.sum_cons, Int.sub_sub]

theorem exact_sum (ns : List Int64) :
    Exact .addition (∀ before, before <+: ns → Fits64 (integers before).sum) (integers ns).sum
      (sum ns) := by
  simp only [List.sum_eq_foldl]
  exact exact_accumulate .addition (· + ·) 0 ns

theorem exact_product (ns : List Int64) :
    Exact .multiplication (∀ before, before <+: ns → Fits64 (integers before).prod)
      (integers ns).prod (product ns) := by
  simp only [List.prod_eq_foldl]
  exact exact_accumulate .multiplication (· * ·) 1 ns

theorem exact_difference (first second : Int64) (rest : List Int64) :
    Exact .subtraction
      (∀ before, before <+: second :: rest → Fits64 (first.toInt - (integers before).sum))
      (first.toInt - (integers (second :: rest)).sum) (difference first (second :: rest)) := by
  simp only [← foldl_sub_eq]
  exact exact_accumulate .subtraction (· - ·) first (second :: rest)

/-- What a call of a primitive on numbers computes, and when it overflows. -/
def Primitive.Computes (op : Primitive) (ns : List Int64) (operation : Arithmetic) (fits : Prop)
    (exact : Int) : Prop :=
  ∃ result, Exact operation fits exact result ∧
    ∀ s, apply (Builtin.primitive op).toValue (numbers ns) .empty s = (result.map .number, s)

theorem Primitive.computes_of_perform {op : Primitive} {ns : List Int64} {operation : Arithmetic}
    {fits : Prop} {exact : Int} {result : Except Error Int64}
    (haccepts : op.arity.accepts (numbers ns).length = true)
    (hperform : op.perform (numbers ns) .empty = answerNumber result)
    (hexact : Exact operation fits exact result) : op.Computes ns operation fits exact := by
  refine ⟨result, hexact, fun s => ?_⟩
  rw [apply_of_accepts haccepts, hperform, answerNumber, ofExcept_run]

theorem Primitive.perform_subtract (first : Int64) (rest : List Int64) :
    perform .subtract (numbers (first :: rest)) .empty = answerNumber (difference first rest) :=
  Signature.call_number_cons (fun n ns => answerNumber (difference n ns)) first rest

/-- **Arithmetic is exact or overflows.**  A sum, a product or a difference of numbers is returned
exactly if every partial result fits 64 bits, and it is then the one of the integers; a single
number is negated.  Otherwise the overflow is reported.  An argument that is no number is reported
instead, the leftmost one of them, also after numbers that overflow. -/
theorem arithmetic_is_exact_or_overflows :
    (∀ ns, Primitive.add.Computes ns .addition
        (∀ before, before <+: ns → Fits64 (integers before).sum) (integers ns).sum) ∧
      (∀ ns, Primitive.multiply.Computes ns .multiplication
        (∀ before, before <+: ns → Fits64 (integers before).prod) (integers ns).prod) ∧
      (∀ n, Primitive.subtract.Computes [n] .negation (Fits64 (-n.toInt)) (-n.toInt)) ∧
      (∀ first second rest, Primitive.subtract.Computes (first :: second :: rest) .subtraction
        (∀ before, before <+: second :: rest → Fits64 (first.toInt - (integers before).sum))
        (first.toInt - (integers (second :: rest)).sum)) ∧
      ∀ op ∈ [Primitive.add, .multiply, .subtract], ∀ before v after s, v.kind ≠ .number →
        apply (Builtin.primitive op).toValue (numbers before ++ v :: after) .empty s =
          (.error (.expectedKind .number v.kind), s) := by
  refine ⟨fun ns => ?_, fun ns => ?_, fun n => ?_, fun first second rest => ?_, ?_⟩
  · exact Primitive.computes_of_perform rfl (Signature.call_numbers _ ns) (exact_sum ns)
  · exact Primitive.computes_of_perform rfl (Signature.call_numbers _ ns) (exact_product ns)
  · exact Primitive.computes_of_perform rfl (Primitive.perform_subtract n [])
      (exact_fit .negation (-n.toInt))
  · exact Primitive.computes_of_perform (Arity.accepts_atLeast_iff.mpr (Nat.le_add_left 1 _))
      (Primitive.perform_subtract first (second :: rest)) (exact_difference first second rest)
  · intro op hop before v after s hv
    have hlength : 1 ≤ (numbers before ++ v :: after).length := by
      rw [List.length_append, List.length_cons]
      omega
    have hnumeric : op.isNumeric = true ∧
        op.arity.accepts (numbers before ++ v :: after).length = true := by
      simp only [List.mem_cons, List.not_mem_nil, or_false] at hop
      obtain rfl | rfl | rfl := hop
      · exact ⟨rfl, rfl⟩
      · exact ⟨rfl, rfl⟩
      · exact ⟨rfl, Arity.accepts_atLeast_iff.mpr hlength⟩
    rw [Primitive.apply_of_accepts hnumeric.2, Primitive.perform_of_not_number hnumeric.1 hv]
    rfl

/-- The greatest number overflows when one is added, also if one is subtracted afterwards, but not
when a text follows; the least number cannot be negated, but it can be subtracted from `-1`. -/
theorem arithmetic_at_the_ends :
    let plus := apply (Builtin.primitive .add).toValue
    let minus := apply (Builtin.primitive .subtract).toValue
    plus (numbers [Int64.maxValue, 1, -1]) .empty .initial =
        (.error (.overflow .addition), .initial) ∧
      plus (numbers [Int64.maxValue, 1] ++ [.string "one"]) .empty .initial =
        (.error (.expectedKind .number .string), .initial) ∧
      minus (numbers [Int64.minValue]) .empty .initial =
        (.error (.overflow .negation), .initial) ∧
      minus (numbers [-1, Int64.minValue]) .empty .initial =
        (.ok (.number Int64.maxValue), .initial) := by
  intro plus minus
  obtain ⟨hsum, _, hnegation, hdifference, hnone⟩ := arithmetic_is_exact_or_overflows
  refine ⟨?_, ?_, ?_, ?_⟩
  · obtain ⟨result, hexact, hrun⟩ := hsum [Int64.maxValue, 1, -1]
    have hoverflow : ¬ Fits64 (integers [Int64.maxValue, 1]).sum := by
      rintro ⟨_, hupper⟩
      exact absurd hupper (by decide)
    have hresult := hexact.overflowed fun h => hoverflow (h _ ⟨[-1], rfl⟩)
    exact (hrun .initial).trans (by rw [hresult]; rfl)
  · exact hnone .add List.mem_cons_self [Int64.maxValue, 1] (.string "one") [] .initial nofun
  · obtain ⟨result, hexact, hrun⟩ := hnegation Int64.minValue
    have hoverflow : ¬ Fits64 (-Int64.minValue.toInt) := by
      rintro ⟨_, hupper⟩
      exact absurd hupper (by decide)
    have hresult := hexact.overflowed hoverflow
    exact (hrun .initial).trans (by rw [hresult]; rfl)
  · obtain ⟨result, hexact, hrun⟩ := hdifference (-1) Int64.minValue []
    have hfits : ∀ before, before <+: [Int64.minValue] →
        Fits64 ((-1 : Int64).toInt - (integers before).sum) := by
      rw [forall_prefix_cons_iff]
      refine ⟨by decide, fun before hbefore => ?_⟩
      obtain rfl := List.prefix_nil.mp hbefore
      decide
    obtain ⟨n, hresult, hn⟩ := hexact.returned hfits
    obtain rfl : n = Int64.maxValue := Int64.toInt_inj.mp (hn.trans (by decide))
    exact (hrun .initial).trans (by rw [hresult]; rfl)

/-! ## Comparison -/

/-- The comparisons, and the relations of integers by which they compare. -/
inductive Primitive.Compares : Primitive → (Int → Int → Prop) → Prop
  | less : Compares .less (· < ·)
  | greater : Compares .greater (· > ·)
  | atMost : Compares .atMost (· ≤ ·)
  | atLeast : Compares .atLeast (· ≥ ·)

namespace Primitive.Compares

variable {op : Primitive} {r : Int → Int → Prop}

theorem isNumeric (h : op.Compares r) : op.isNumeric = true := by cases h <;> rfl

theorem arity_eq (h : op.Compares r) : op.arity = .atLeast 2 := by cases h <;> rfl

theorem trans (h : op.Compares r) {a b c : Int} (hab : r a b) (hbc : r b c) : r a c := by
  cases h with
  | less => exact Int.lt_trans hab hbc
  | greater => exact Int.lt_trans hbc hab
  | atMost => exact Int.le_trans hab hbc
  | atLeast => exact Int.le_trans hbc hab

/-- A comparison of two numbers at least goes through the chain of them. -/
theorem exists_perform_eq (h : op.Compares r) :
    ∃ test : Int64 → Int64 → Bool, (∀ a b, test a b = true ↔ r a.toInt b.toInt) ∧
      ∀ first second rest, op.perform (numbers (first :: second :: rest)) .empty =
        answer (.bool (chained test first (second :: rest))) := by
  cases h with
  | less =>
    exact ⟨_, fun _ _ => decide_eq_true_iff.trans Int64.lt_iff_toInt_lt,
      fun first second rest => Signature.call_number_cons _ first (second :: rest)⟩
  | greater =>
    exact ⟨_, fun _ _ => decide_eq_true_iff.trans Int64.lt_iff_toInt_lt,
      fun first second rest => Signature.call_number_cons _ first (second :: rest)⟩
  | atMost =>
    exact ⟨_, fun _ _ => decide_eq_true_iff.trans Int64.le_iff_toInt_le,
      fun first second rest => Signature.call_number_cons _ first (second :: rest)⟩
  | atLeast =>
    exact ⟨_, fun _ _ => decide_eq_true_iff.trans Int64.le_iff_toInt_le,
      fun first second rest => Signature.call_number_cons _ first (second :: rest)⟩

end Primitive.Compares

theorem chained_iff_isChain {test : Int64 → Int64 → Bool} {first : Int64} {rest : List Int64} :
    chained test first rest = true ↔ (first :: rest).IsChain fun a b => test a b = true := by
  induction rest generalizing first with
  | nil => exact iff_of_true rfl (List.isChain_singleton first)
  | cons n rest ih => rw [chained, Bool.and_eq_true, List.isChain_cons_cons, ih]

namespace Primitive.Compares

variable {op converse : Primitive} {r : Int → Int → Prop} {ns : List Int64}

theorem accepts (h : op.Compares r) {args : List Value} (htwo : 2 ≤ args.length) :
    op.arity.accepts args.length = true := by
  rw [h.arity_eq]
  exact Arity.accepts_atLeast_iff.mpr htwo

/-- **A chain of comparisons decides the order of the whole list**, because the relations are
transitive. -/
theorem exists_apply_iff_pairwise (h : op.Compares r) (htwo : 2 ≤ ns.length) :
    ∃ b, apply (Builtin.primitive op).toValue (numbers ns) .empty = answer (.bool b) ∧
      (b = true ↔ (integers ns).Pairwise r) := by
  obtain ⟨test, htest, hperform⟩ := h.exists_perform_eq
  have htrans : IsTrans Int64 fun a b => test a b = true :=
    ⟨fun a b c hab hbc => (htest a c).mpr (h.trans ((htest a b).mp hab) ((htest b c).mp hbc))⟩
  have haccepts : op.arity.accepts (numbers ns).length = true :=
    h.accepts (by rwa [numbers, List.length_map])
  rw [apply_of_accepts haccepts]
  match ns, htwo with
  | first :: second :: rest, _ =>
    refine ⟨_, hperform first second rest, ?_⟩
    rw [chained_iff_isChain, List.isChain_iff_pairwise, integers, List.pairwise_map]
    simp only [htest]

/-- **A comparison is its converse on the reversed numbers.**  This holds for fewer than two numbers
as well, which both of them refuse. -/
theorem apply_reverse (h : op.Compares r) (hconverse : converse.Compares fun a b => r b a)
    (ns : List Int64) :
    apply (Builtin.primitive converse).toValue (numbers ns.reverse) .empty =
      apply (Builtin.primitive op).toValue (numbers ns) .empty := by
  have hlength : (numbers ns.reverse).length = (numbers ns).length := by
    rw [numbers, numbers, List.length_map, List.length_map, List.length_reverse]
  rcases Nat.lt_or_ge (numbers ns).length 2 with hfew | htwo
  · have hviolated : op.arity.violated? (numbers ns).length = some 2 := by
      rw [h.arity_eq]
      exact if_pos hfew
    have hviolated' : converse.arity.violated? (numbers ns.reverse).length = some 2 := by
      rw [hconverse.arity_eq, hlength]
      exact if_pos hfew
    rw [apply_of_violated hviolated, apply_of_violated hviolated', hlength]
  · rw [numbers, List.length_map] at htwo
    obtain ⟨b, hrun, hb⟩ := h.exists_apply_iff_pairwise htwo
    have htwo' : 2 ≤ ns.reverse.length := by rwa [List.length_reverse]
    obtain ⟨b', hrun', hb'⟩ := hconverse.exists_apply_iff_pairwise htwo'
    have hsame : b' = b := by
      rw [Bool.eq_iff_iff, hb, hb', integers, List.map_reverse, List.pairwise_reverse]
      rfl
    rw [hrun, hrun', hsame]

end Primitive.Compares

/-- **Comparisons decide the order of all their arguments.**  On two numbers at least, a comparison
is true exactly if any two of them compare, the earlier with the later one.  So a comparison is its
converse on the reversed numbers.  An argument that is no number is reported instead, the leftmost
one of them, also after numbers that do not compare. -/
theorem comparisons_decide_order (s : State) :
    (∀ op r, Primitive.Compares op r → ∀ ns : List Int64, 2 ≤ ns.length →
      ∃ b, apply (Builtin.primitive op).toValue (numbers ns) .empty s = (.ok (.bool b), s) ∧
        (b = true ↔ ∀ (i j : Nat) (_ : i < j) (_ : j < ns.length), r ns[i].toInt ns[j].toInt)) ∧
    (∀ ns : List Int64,
      apply (Builtin.primitive .less).toValue (numbers ns.reverse) .empty s =
          apply (Builtin.primitive .greater).toValue (numbers ns) .empty s ∧
        apply (Builtin.primitive .atMost).toValue (numbers ns.reverse) .empty s =
          apply (Builtin.primitive .atLeast).toValue (numbers ns) .empty s) ∧
    ∀ op r, Primitive.Compares op r → ∀ before v after, 1 ≤ before.length + after.length →
      v.kind ≠ .number →
        apply (Builtin.primitive op).toValue (numbers before ++ v :: after) .empty s =
          (.error (.expectedKind .number v.kind), s) := by
  refine ⟨?_, fun ns => ⟨?_, ?_⟩, ?_⟩
  · intro op r hop ns htwo
    obtain ⟨b, hrun, hb⟩ := hop.exists_apply_iff_pairwise htwo
    refine ⟨b, congrFun hrun s, ?_⟩
    rw [hb, integers, List.pairwise_map, List.pairwise_iff_getElem]
    exact ⟨fun h i j hij hj => h i j (Nat.lt_trans hij hj) hj hij,
      fun h i j _ hj hij => h i j hij hj⟩
  · exact congrFun (Primitive.Compares.greater.apply_reverse .less ns) s
  · exact congrFun (Primitive.Compares.atLeast.apply_reverse .atMost ns) s
  · intro op r hop before v after hother hv
    have htwo : 2 ≤ (numbers before ++ v :: after).length := by
      rw [List.length_append, List.length_cons, numbers, List.length_map]
      omega
    rw [Primitive.apply_of_accepts (hop.accepts htwo),
      Primitive.perform_of_not_number hop.isNumeric hv]
    rfl

/-- Three numbers, the last two of which are out of order, and two numbers out of order before a
text. -/
theorem comparisons_of_one_three_two :
    apply (Builtin.primitive .less).toValue (numbers [1, 3, 2]) .empty .initial =
        (.ok (.bool false), .initial) ∧
      apply (Builtin.primitive .atMost).toValue (numbers [2, 1] ++ [.string "x"]) .empty .initial =
        (.error (.expectedKind .number .string), .initial) := by
  obtain ⟨hdecides, _, hnone⟩ := comparisons_decide_order .initial
  constructor
  · obtain ⟨b, hrun, hb⟩ := hdecides .less _ .less [1, 3, 2] (by decide)
    have hfalse : b ≠ true := by
      rw [ne_eq, hb]
      exact fun h => absurd (h 1 2 (by decide) (by decide)) (by decide)
    obtain rfl := Bool.eq_false_iff.mpr hfalse
    exact hrun
  · exact hnone .atMost _ .atMost [2, 1] (.string "x") [] (by decide) nofun

end Homoiconic
