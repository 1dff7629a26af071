import Homoiconic.Proofs.Folds

/-!
# Running a program word by word

A word takes what it needs off the stack.  Where that is there, what the word does is an equation
with no stack operation left in it, and a program of words and quoted programs is run by rewriting
with these equations from left to right.  They are stated for any engine, and quoted programs are
left to `foldQuoted`, so they hold for what is not a program, too.  They are simplification rules:
simplifying a program over a stack that is long enough runs it.  Most of them hold by computation,
but they are used as rewriting steps (`(rfl)` in place of `rfl`), or else checking a program would
run all of its words again.
-/

namespace Homoiconic

variable {next : Engine} {rest : Stack Value} {program : List Value} {a b c d : Value}

/-! ## Items -/

@[simp] theorem foldItems_nil (next : Engine) (stack : Stack Value) :
    foldItems next stack [] = pure stack := (rfl)

@[simp] theorem foldItems_word (next : Engine) (stack : Stack Value) (word : Word)
    (program : List Value) :
    foldItems next stack (word.item :: program) =
      runWord next word stack >>= fun after => foldItems next after program := (rfl)

@[simp] theorem foldItems_data (hdata : ∀ c, a ≠ .combinator c) (next : Engine)
    (stack : Stack Value) (program : List Value) :
    foldItems next stack (a :: program) = foldItems next (stack.push a) program := by
  rw [foldItems_cons, stepItem_of_data hdata, pure_bind]

@[simp] theorem foldQuoted_list (word : String) (stack : Stack Value) (items : List Value) :
    foldQuoted .full word stack (.list items) = fold stack items := (rfl)

/-! ## Shapes -/

@[simp] theorem quotedProgram_list (word : String) (items : List Value) :
    quotedProgram word (.list items) = pure items := (rfl)

@[simp] theorem positionalArguments_list (word : String) (items : List Value) :
    positionalArguments word (.list items) = pure items := (rfl)

theorem countOf_of_nonneg {n : Int64} (hn : 0 ≤ n) (word : String) :
    countOf word (.number n) = pure n.toInt.toNat := if_neg (Int64.not_lt.mpr hn)

theorem countOf_of_neg {n : Int64} (hn : n < 0) (word : String) :
    countOf word (.number n) = fail (.negativeCount word n) := if_pos hn

@[simp] theorem innerStack_stack (word : String) (order : List Value → List Value)
    (stack : Stack Value) : innerStack word order (.stack stack) = pure stack := (rfl)

@[simp] theorem innerStack_list (word : String) (order : List Value → List Value)
    (items : List Value) :
    innerStack word order (.list items) = pure (.ofList (order items)) := (rfl)

/-! ## Words that fold nothing -/

@[simp] theorem runWord_dup : runWord next .dup (rest.push a) = pure ((rest.push a).push a) := (rfl)

@[simp] theorem runWord_swap :
    runWord next .swap ((rest.push a).push b) = pure ((rest.push b).push a) := (rfl)

@[simp] theorem runWord_popd :
    runWord next .popd ((rest.push a).push b) = pure (rest.push b) := (rfl)

@[simp] theorem runWord_choice :
    runWord next .choice (((rest.push a).push b).push c) =
      pure (rest.push (if a.isTruthy then b else c)) := (rfl)

@[simp] theorem runWord_cons :
    runWord next .cons ((rest.push a).push (.list program)) =
      pure (rest.push (.list (a :: program))) := (rfl)

theorem runWord_quote :
    runWord next .quote (rest.push a) =
      countOf "quote" a >>= fun n => ofStack (rest.popN n) >>= fun taken =>
        pure (taken.1.push (.list taken.2)) := (rfl)

theorem runWord_quote_pushAll (items : List Value) {n : Int64} (hn : 0 ≤ n)
    (hlength : items.length = n.toInt.toNat) :
    runWord next .quote ((rest.pushAll items).push (.number n)) =
      pure (rest.push (.list items)) := by
  rw [runWord_quote, countOf_of_nonneg hn, pure_bind, ← hlength, Stack.popN_pushAll]
  rfl

theorem runWord_quote_of_lt {n : Int64} (hn : 0 ≤ n) (hlt : rest.toList.length < n.toInt.toNat) :
    runWord next .quote (rest.push (.number n)) =
      fail (.underflow ⟨n.toInt.toNat, rest.toList.length⟩) := by
  rw [runWord_quote, countOf_of_nonneg hn, pure_bind, Stack.popN_of_lt hlt]
  rfl

/-! ## Words that fold quoted programs -/

@[simp] theorem runWord_i : runWord next .i (rest.push a) = foldQuoted next "i" rest a := (rfl)

@[simp] theorem runWord_k :
    runWord next .k ((rest.push a).push b) = foldQuoted next "k" rest b := (rfl)

@[simp] theorem runWord_x :
    runWord next .x (rest.push a) = foldQuoted next "x" (rest.push a) a := (rfl)

@[simp] theorem runWord_t :
    runWord next .t ((rest.push a).push b) = foldQuoted next "t" (rest.push b) a := (rfl)

@[simp] theorem runWord_b :
    runWord next .b ((rest.push a).push b) =
      foldQuoted next "b" rest a >>= fun after => foldQuoted next "b" after b := (rfl)

@[simp] theorem runWord_dip :
    runWord next .dip ((rest.push a).push b) =
      foldQuoted next "dip" rest b >>= fun after => pure (after.push a) := (rfl)

@[simp] theorem runWord_dipd :
    runWord next .dipd (((rest.push a).push b).push c) =
      foldQuoted next "dipd" rest c >>= fun after => pure ((after.push a).push b) := (rfl)

@[simp] theorem runWord_dipdd :
    runWord next .dipdd ((((rest.push a).push b).push c).push d) =
      foldQuoted next "dipdd" rest d >>= fun after =>
        pure (((after.push a).push b).push c) := (rfl)

@[simp] theorem runWord_nullary :
    runWord next .nullary (rest.push a) =
      topAfter next "nullary" rest a >>= fun top => pure (rest.push top) := (rfl)

@[simp] theorem runWord_cleave :
    runWord next .cleave (((rest.push a).push b).push c) =
      topAfter next "cleave" (rest.push a) b >>= fun first =>
        topAfter next "cleave" (rest.push a) c >>= fun second =>
          pure ((rest.push first).push second) := (rfl)

@[simp] theorem runWord_ifte :
    runWord next .ifte (((rest.push a).push b).push c) =
      topAfter next "ifte" rest a >>= fun condition =>
        foldQuoted next "ifte" rest (if condition.isTruthy then b else c) := (rfl)

/-! ## Words that fold repeatedly, or over an inner stack -/

@[simp] theorem runWord_times :
    runWord next .times ((rest.push a).push b) =
      countOf "times" a >>= fun n => quotedProgram "times" b >>= fun items =>
        foldTimes next items n rest := (rfl)

@[simp] theorem runWord_step :
    runWord next .step ((rest.push a).push b) =
      positionalArguments "step" a >>= fun items => quotedProgram "step" b >>= fun program =>
        foldOverItems next program rest items := (rfl)

@[simp] theorem runWord_infra :
    runWord next .infra ((rest.push a).push b) =
      innerStack "infra" List.reverse a >>= fun inner => foldQuoted next "infra" inner b >>=
        fun result => pure (rest.push (.stack result)) := (rfl)

@[simp] theorem runWord_subspace :
    runWord next .subspace ((rest.push a).push b) =
      innerStack "subspace" id a >>= fun inner => foldQuoted next "subspace" inner b >>=
        fun result => pure (rest.push (.stack result)) := (rfl)

end Homoiconic
