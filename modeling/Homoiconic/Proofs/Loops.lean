import Homoiconic.Proofs.Composition
import Homoiconic.Proofs.WordEffects

/-!
# Loops are unrolled programs

Two words fold a program repeatedly.  `times` folds it a given number of times, and `step` folds it
once for every element of a list, with the element pushed before.  Folding one program after another
is folding the program that consists of both (`fold_append`), so a loop is a single fold of a longer
program: of as many copies of the body as there are rounds, or of the elements with the body after
each of them.

There are three limits to this.

* No round is no fold.  A loop without rounds returns the stack, also where there is no level left
  on which an empty program could be folded.
* A program applies the combinators that stand in it, while `step` pushes its elements whatever they
  are.  A loop over combinators is no program with these combinators in it.  What it does with one
  of them is seen by taking the loop apart in front of it and after it.
* Counts are 64-bit numbers.  The rounds of two loops add up if the sum is exact.

Both sides of each law are compared as actions, so they agree on errors and effects of every round.
A loop is one level deeper than the program in which the word stands.  That is why the unrolled
program is nested once more than the program with the word.
-/

namespace Homoiconic

/-! ## Rounds -/

section Rounds

variable {stack : Stack Value} {p : List Value}

theorem foldTimes_add (next : Engine) (p : List Value) (m n : Nat) (stack : Stack Value) :
    foldTimes next p (m + n) stack =
      foldTimes next p m stack >>= fun after => foldTimes next p n after := by
  induction m generalizing stack with
  | zero => rw [Nat.zero_add, foldTimes, pure_bind]
  | succ m ih =>
    rw [Nat.succ_add, foldTimes, foldTimes, bind_assoc]
    simp only [ih]

/-- **Folding a program several times is folding its copies**, by induction on the number of further
rounds. -/
theorem foldTimes_succ_eq_fold (p : List Value) (n : Nat) (stack : Stack Value) :
    foldTimes .full p (n + 1) stack = fold stack (List.replicate (n + 1) p).flatten := by
  induction n generalizing stack with
  | zero =>
    rw [List.replicate_one, List.flatten_singleton, foldTimes]
    exact bind_pure _
  | succ n ih =>
    rw [List.replicate_succ, List.flatten_cons, fold_append, foldTimes]
    simp only [ih]
    rfl

theorem foldOverItems_append (next : Engine) (p before after : List Value) (stack : Stack Value) :
    foldOverItems next p stack (before ++ after) =
      foldOverItems next p stack before >>= fun between =>
        foldOverItems next p between after := by
  induction before generalizing stack with
  | nil => rw [List.nil_append, foldOverItems, pure_bind]
  | cons item rest ih =>
    rw [List.cons_append, foldOverItems, foldOverItems, bind_assoc]
    simp only [ih]

/-- The first element is pushed, whatever it is. -/
theorem foldOverItems_singleton (p : List Value) (stack : Stack Value) (item : Value) :
    foldOverItems .full p stack [item] = fold (stack.push item) p := bind_pure _

/-- **Folding a program after each element is folding the elements with the program after each**, if
none of them is a combinator, by induction on the elements. -/
theorem foldOverItems_eq_fold {items : List Value} (hne : items ≠ [])
    (hdata : ∀ item ∈ items, ∀ c, item ≠ .combinator c) (stack : Stack Value) :
    foldOverItems .full p stack items = fold stack (items.flatMap fun item => item :: p) := by
  induction items generalizing stack with
  | nil => exact absurd rfl hne
  | cons item rest ih =>
    obtain ⟨hfirst, hrest⟩ := List.forall_mem_cons.mp hdata
    have hround : fold stack (item :: p) = fold (stack.push item) p := fold_cons_of_data hfirst p
    rw [List.flatMap_cons]
    cases rest with
    | nil => rw [List.flatMap_nil, List.append_nil, hround, foldOverItems_singleton]
    | cons _ _ =>
      rw [fold_append, hround, foldOverItems]
      simp only [ih (List.cons_ne_nil _ _) hrest]
      rfl

end Rounds

/-! ## Programs with a loop -/

/-- The program that folds another one a number of times. -/
def timesProgram (n : Int64) (p : List Value) : List Value :=
  [.number n, .list p, Word.times.item]

/-- The program that folds another one after every element of a list. -/
def stepProgram (items p : List Value) : List Value :=
  [.list items, .list p, Word.step.item]

section Programs

variable {n : Int64}

theorem foldItems_timesProgram (hn : 0 ≤ n) (stack : Stack Value) (p : List Value) :
    foldItems .full stack (timesProgram n p) = foldTimes .full p n.toInt.toNat stack := by
  simp [timesProgram, countOf_of_nonneg hn]

theorem fold_timesProgram (hn : 0 ≤ n) (stack : Stack Value) (p : List Value) :
    fold stack (timesProgram n p) = nested .folding (foldTimes .full p n.toInt.toNat stack) := by
  rw [fold_eq_nested, foldItems_timesProgram hn]

theorem foldItems_stepProgram (items : List Value) (stack : Stack Value) (p : List Value) :
    foldItems .full stack (stepProgram items p) = foldOverItems .full p stack items := by
  simp [stepProgram]

theorem fold_stepProgram (items : List Value) (stack : Stack Value) (p : List Value) :
    fold stack (stepProgram items p) = nested .folding (foldOverItems .full p stack items) := by
  rw [fold_eq_nested, foldItems_stepProgram]

end Programs

/-! ## Laws of loops -/

/-- Folding a program a number of times, over a stack. -/
structure TimesLaws (stack : Stack Value) (p : List Value) : Prop where
  /-- A positive number of times is as many copies. -/
  unrolls {n : Int64} : 0 < n → fold stack (timesProgram n p) =
    nested .folding (fold stack (List.replicate n.toInt.toNat p).flatten)
  /-- No times leave the stack as it is. -/
  zero : fold stack (timesProgram 0 p) = nested .folding (pure stack)
  /-- A negative number is refused as one before anything is folded. -/
  negative {n : Int64} : n < 0 → (Error.negativeCount "times" n).category = .type ∧
    fold stack (timesProgram n p) = nested .folding (fail (.negativeCount "times" n))
  /-- The sum of two numbers of times is one after the other. -/
  splits {k m n : Int64} : 0 ≤ m → 0 ≤ n → k.toInt = m.toInt + n.toInt →
    fold stack (timesProgram k p) = fold stack (timesProgram m p ++ timesProgram n p)

/-- Folding a program after every element of a list, over a stack. -/
structure StepLaws (stack : Stack Value) (p : List Value) : Prop where
  /-- If there are elements, and none of them is a combinator, they can be written into a program,
  with the given one after each. -/
  unrolls {items : List Value} : items ≠ [] → (∀ item ∈ items, ∀ c, item ≠ .combinator c) →
    fold stack (stepProgram items p) =
      nested .folding (fold stack (items.flatMap fun item => item :: p))
  /-- No elements leave the stack as it is. -/
  empty : fold stack (stepProgram [] p) = nested .folding (pure stack)
  /-- Between those before it and those after it, every element is pushed, a combinator, too. -/
  pushes (before : List Value) (item : Value) (after : List Value) :
    fold stack (stepProgram (before ++ item :: after) p) =
      fold stack (stepProgram before p) >>= fun under =>
        nested .folding (fold (under.push item) p) >>= fun between =>
          fold between (stepProgram after p)
  /-- The elements of two lists are those of one after those of the other. -/
  splits (before after : List Value) : fold stack (stepProgram (before ++ after) p) =
    fold stack (stepProgram before p ++ stepProgram after p)

theorem timesLaws (stack : Stack Value) (p : List Value) : TimesLaws stack p where
  unrolls {n} hn := by
    have hpos : 0 < n.toInt := Int64.lt_iff_toInt_lt.mp hn
    obtain ⟨rounds, hrounds⟩ : ∃ rounds, n.toInt.toNat = rounds + 1 :=
      Nat.exists_eq_succ_of_ne_zero (by omega)
    rw [fold_timesProgram (Int64.le_of_lt hn), hrounds, foldTimes_succ_eq_fold]
  zero := fold_timesProgram (Int64.le_refl 0) stack p
  negative {n} hn := by
    have hitems : foldItems .full stack (timesProgram n p) = fail (.negativeCount "times" n) := by
      simp [timesProgram, countOf_of_neg hn]
    refine ⟨rfl, ?_⟩
    rw [fold_eq_nested, hitems]
  splits {k m n} hm hn hsum := by
    have hm' : 0 ≤ m.toInt := Int64.le_iff_toInt_le.mp hm
    have hn' : 0 ≤ n.toInt := Int64.le_iff_toInt_le.mp hn
    have hk : 0 ≤ k := Int64.le_iff_toInt_le.mpr (by rw [hsum]; exact Int.add_nonneg hm' hn')
    have hrounds : k.toInt.toNat = m.toInt.toNat + n.toInt.toNat := by omega
    rw [fold_timesProgram hk, fold_eq_nested, foldItems_append, hrounds, foldTimes_add,
      foldItems_timesProgram hm]
    simp only [foldItems_timesProgram hn]

theorem stepLaws_splits (stack : Stack Value) (p before after : List Value) :
    fold stack (stepProgram (before ++ after) p) =
      fold stack (stepProgram before p ++ stepProgram after p) := by
  rw [fold_stepProgram, fold_eq_nested, foldItems_append, foldOverItems_append,
    foldItems_stepProgram]
  simp only [foldItems_stepProgram]

theorem stepLaws (stack : Stack Value) (p : List Value) : StepLaws stack p where
  unrolls hne hdata := by rw [fold_stepProgram, foldOverItems_eq_fold hne hdata]
  empty := fold_stepProgram [] stack p
  pushes before item after := by
    have hitem (under : Stack Value) : fold under (stepProgram [item] p) =
        nested .folding (fold (under.push item) p) := by
      rw [fold_stepProgram, foldOverItems_singleton]
    rw [stepLaws_splits, fold_append, ← List.singleton_append]
    simp only [stepLaws_splits, fold_append, hitem]
  splits := stepLaws_splits stack p

/-- **Loops are unrolled programs**, over every stack and in every state: they return the same stack
or fail with the same error, and leave the same state. -/
theorem loops_are_unrolled_programs (stack : Stack Value) (p : List Value) :
    TimesLaws stack p ∧ StepLaws stack p :=
  ⟨timesLaws stack p, stepLaws stack p⟩

/-- Copying the top three times, which is twice and once, and after each of two elements, of which
one is a word: the word is copied, and not applied. -/
theorem loops_of_copying :
    ((0 : Int64) < 3 ∧ (0 : Int64) ≤ 2 ∧ (0 : Int64) ≤ 1 ∧
      (3 : Int64).toInt = (2 : Int64).toInt + (1 : Int64).toInt ∧ (-1 : Int64) < 0) ∧
    fold (.ofList [.nil]) (timesProgram 3 [Word.dup.item]) .initial =
      (.ok (.ofList [.nil, .nil, .nil, .nil]), .initial) ∧
    fold (.ofList [.nil]) (timesProgram 2 [Word.dup.item] ++ timesProgram 1 [Word.dup.item])
      .initial = (.ok (.ofList [.nil, .nil, .nil, .nil]), .initial) ∧
    fold (.ofList [.nil]) (timesProgram (-1) [Word.dup.item]) .initial =
      (.error (.negativeCount "times" (-1)), .initial) ∧
    fold (.ofList [.nil]) (stepProgram [.bool true, .bool false] [Word.dup.item]) .initial =
      (.ok (.ofList [.nil, .bool true, .bool true, .bool false, .bool false]), .initial) ∧
    fold (.ofList [.nil]) (stepProgram [.bool true, Word.pop.item] [Word.dup.item]) .initial =
      (.ok (.ofList [.nil, .bool true, .bool true, Word.pop.item, Word.pop.item]), .initial) := by
  have hpositive : (0 : Int64) < 3 := by decide
  have htwo : (0 : Int64) ≤ 2 := by decide
  have hone : (0 : Int64) ≤ 1 := by decide
  have hsum : (3 : Int64).toInt = (2 : Int64).toInt + (1 : Int64).toInt := by decide
  have hnegative : (-1 : Int64) < 0 := by decide
  have hdata : ∀ item ∈ [Value.bool true, Value.bool false], ∀ c, item ≠ .combinator c := by
    intro item hitem
    simp only [List.mem_cons, List.not_mem_nil, or_false] at hitem
    rcases hitem with rfl | rfl
    · exact fun _ => nofun
    · exact fun _ => nofun
  obtain ⟨htimes, hstep⟩ := loops_are_unrolled_programs (.ofList [.nil]) [Word.dup.item]
  have hthree : fold (.ofList [.nil]) (timesProgram 3 [Word.dup.item]) .initial =
      (.ok (.ofList [.nil, .nil, .nil, .nil]), .initial) := by
    rw [htimes.unrolls hpositive]
    rfl
  refine ⟨⟨hpositive, htwo, hone, hsum, hnegative⟩, hthree, ?_, ?_, ?_, ?_⟩
  · rw [← htimes.splits htwo hone hsum, hthree]
  · rw [(htimes.negative hnegative).2]
    rfl
  · rw [hstep.unrolls (List.cons_ne_nil _ _) hdata]
    rfl
  · have hpushed := hstep.pushes [.bool true] Word.pop.item []
    rw [List.singleton_append] at hpushed
    rw [hpushed]
    rfl

end Homoiconic
