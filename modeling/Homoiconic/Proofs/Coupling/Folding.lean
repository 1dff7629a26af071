import Homoiconic.Folding.Fold
import Homoiconic.Proofs.Coupling.Application

/-!
# Folding is coupled

Here the rules for folding a program are followed once, for two coupled engines and two stacks that
may differ at the bottom.  A combinator takes something off the top, which is the same on both
sides, and works on the rest, which still stands over the bottom; so each rule is followed by
stepping from one taking to the next (`Couples.bind_popped`).

Three things deserve a look.  Words that only want to know what a program computes fold it over a
copy of the stack and keep the top of the result, which is the same on both sides (`topAfter`).
Words that fold over a stack inside a value start from the same stack on both sides, with nothing
beneath it (`foldInside`).  And a native operation receives the whole stack and can tell the bottom
from the rest, so where one may occur, the two stacks have to be equal (`stackNative`).
-/

namespace Homoiconic

namespace Coupling

variable {C : Coupling} {levels size : Nat} {next next' : Engine} {below : List Value}
  {s t : Stack Value}

/-! ## Shapes -/

theorem agree_quotedProgram {v : Value} (hv : C.Good size v) (word : String) :
    C.Agree levels size C.GoodAll (quotedProgram word v) (quotedProgram word v) := by
  cases v with
  | list items => exact Agree.returning (Value.within_list.mp hv)
  | _ => exact Couples.failing _

theorem agree_positionalArguments {v : Value} (hv : C.Good size v) (word : String) :
    C.Agree levels size C.GoodAll (positionalArguments word v) (positionalArguments word v) := by
  cases v with
  | list items => exact Agree.returning (Value.within_list.mp hv)
  | stack inner => exact Agree.returning (Value.within_stack.mp hv)
  | _ => exact Couples.failing _

theorem agree_countOf (word : String) (v : Value) :
    C.Agree levels size (fun _ _ => True) (countOf word v) (countOf word v) := by
  cases v with
  | number n =>
    simp only [countOf]
    split
    · exact Couples.failing _
    · exact Agree.returning trivial
  | _ => exact Couples.failing _

/-- The stack inside a value holds parts of the value, in whatever order. -/
theorem agree_innerStack {v : Value} {order : List Value → List Value} (hv : C.Good size v)
    (horder : ∀ items, ∀ w ∈ order items, w ∈ items) (word : String) :
    C.Agree levels size (fun size inner => C.GoodAll size inner.toList)
      (innerStack word order v) (innerStack word order v) := by
  cases v with
  | stack inner => exact Agree.returning (Value.within_stack.mp hv)
  | list items =>
    refine Agree.returning ?_
    rw [Stack.toList_ofList]
    exact fun w hw => Value.within_list.mp hv w (horder items w hw)
  | _ => exact Couples.failing _

theorem agree_keywordLayer {v : Value} (hv : C.Good size v) (combinator : String) :
    C.Agree levels size (fun size kwargs => C.GoodAll size kwargs.values)
      (keywordLayer combinator v) (keywordLayer combinator v) := by
  cases v with
  | map kwargs => exact Agree.returning (Value.within_map.mp hv)
  | _ => exact Couples.failing _

/-- An action that computes a value and pushes it. -/
theorem Couples.pushing {a b : EvalM Value} (hst : C.Above below size s t)
    (hab : C.Agree levels size C.Good a b) :
    C.Couples levels size (C.Above below) (do return s.push (← a)) (do return t.push (← b)) :=
  Agree.bind hab fun _ _ hsize hv => Couples.returning ((hst.mono hsize).push hv)

/-! ## Ways to fold -/

theorem Coupled.foldQuoted (h : C.Coupled levels next next') {program : Value}
    (hbelow : C.base below) (hst : C.Above below size s t) (hprogram : C.Good size program)
    (word : String) :
    C.Couples levels size (C.Above below) (foldQuoted next word s program)
      (foldQuoted next' word t program) :=
  Agree.bind (agree_quotedProgram hprogram word) fun _ _ hsize hitems =>
    h.fold hbelow (hst.mono hsize) hitems

/-- What a program leaves on top is the same on both sides. -/
theorem Coupled.topAfter (h : C.Coupled levels next next') {program : Value}
    (hbelow : C.base below) (hst : C.Above below size s t) (hprogram : C.Good size program)
    (word : String) :
    C.Agree levels size C.Good (topAfter next word s program) (topAfter next' word t program) :=
  Couples.bind (h.foldQuoted hbelow hst hprogram word) fun _ _ _ _ habove =>
    agree_peek hbelow habove

theorem Coupled.foldOverItems (h : C.Coupled levels next next') {program items : List Value}
    (hbelow : C.base below) (hst : C.Above below size s t) (hprogram : C.GoodAll size program)
    (hitems : C.GoodAll size items) :
    C.Couples levels size (C.Above below) (foldOverItems next program s items)
      (foldOverItems next' program t items) := by
  induction items generalizing size s t with
  | nil => exact Couples.returning hst
  | cons item rest ih =>
    obtain ⟨hitem, hrest⟩ := List.forall_mem_cons.mp hitems
    exact Couples.bind (h.fold hbelow (hst.push hitem) hprogram) fun _ _ _ hsize habove =>
      ih habove (hprogram.mono hsize) (GoodAll.mono hsize hrest)

theorem Coupled.foldTimes (h : C.Coupled levels next next') {program : List Value}
    (hbelow : C.base below) (hst : C.Above below size s t) (hprogram : C.GoodAll size program)
    (n : Nat) :
    C.Couples levels size (C.Above below) (foldTimes next program n s)
      (foldTimes next' program n t) := by
  induction n generalizing size s t with
  | zero => exact Couples.returning hst
  | succ n ih =>
    exact Couples.bind (h.fold hbelow hst hprogram) fun _ _ _ hsize habove =>
      ih habove (hprogram.mono hsize)

/-- The stack inside a value has nothing beneath it. -/
theorem Coupled.foldInside (h : C.Coupled levels next next') {order : List Value → List Value}
    (hbelow : C.base below) (hst : C.Above below size s t)
    (horder : ∀ items, ∀ w ∈ order items, w ∈ items) (word : String) :
    C.Couples levels size (C.Above below) (foldInside next word order s)
      (foldInside next' word order t) := by
  refine Couples.bind_popped (couples_pop2 hbelow hst) ?_
  rintro size₁ rest rest' ⟨inner, program⟩ _ ⟨hinner, hprogram⟩ hrest
  refine Agree.bind (agree_innerStack hinner horder word) ?_
  intro size₂ inner hsize₂ hinner
  have hsame := (h.foldQuoted C.base_nil (Above.refl hinner)
    (hprogram.mono hsize₂) word).imp fun _ _ _ _ habove => habove.same
  refine Agree.bind hsame fun size₃ result hsize₃ hresult => Couples.returning ?_
  have hrest' := hrest.mono (Nat.le_trans hsize₂ hsize₃)
  exact hrest'.push (Value.within_stack.mpr hresult)

/-! ## Words -/

/-- A map beneath the function belongs to the call; anything else is its arguments. -/
theorem Coupled.invoke (h : C.Coupled levels next next') (hbelow : C.base below)
    (hst : C.Above below size s t) :
    C.Couples levels size (C.Above below) (invoke next s) (invoke next' t) := by
  refine Couples.bind_popped (couples_pop2 hbelow hst) ?_
  rintro size₁ rest rest' ⟨args, target⟩ _ ⟨hargs, htarget⟩ hrest
  have hplain : C.Couples levels size₁ (C.Above below)
      (do
        let args ← positionalArguments "do" args
        return rest.push (← target.apply next args .empty))
      (do
        let args ← positionalArguments "do" args
        return rest'.push (← target.apply next' args .empty)) := by
    refine Agree.bind (agree_positionalArguments hargs "do") ?_
    intro size₂ args hsize hargs
    have happly := h.apply (htarget.mono hsize) hargs goodAll_empty
    exact Couples.pushing (hrest.mono hsize) happly
  cases args with
  | map kwargs =>
    refine Couples.bind_popped (couples_pop hbelow hrest) ?_
    intro size₂ rest rest' args hsize₂ hpositional hrest
    refine Agree.bind (agree_positionalArguments hpositional "do") ?_
    intro size₃ args hsize₃ hpositional
    have hsize := Nat.le_trans hsize₂ hsize₃
    have hkwargs := GoodAll.mono hsize (Value.within_map.mp hargs)
    have happly := h.apply (htarget.mono hsize) hpositional hkwargs
    exact Couples.pushing (hrest.mono hsize₃) happly
  | _ => exact hplain

/-- **Every library word is coupled.**  Each takes what it needs off the top and goes on with the
rest, which stands over the same bottom. -/
theorem Coupled.runWord (h : C.Coupled levels next next') (hbelow : C.base below)
    (hst : C.Above below size s t) (word : Word) :
    C.Couples levels size (C.Above below) (runWord next word s) (runWord next' word t) := by
  cases word with
  | pop =>
    refine Couples.bind_popped (couples_pop hbelow hst) ?_
    intro size₁ rest rest' _ _ _ hrest
    exact Couples.returning hrest
  | dup => exact Couples.pushing hst (agree_peek hbelow hst)
  | nop => exact Couples.returning hst
  | swap =>
    refine Couples.bind_popped (couples_pop2 hbelow hst) ?_
    rintro size₁ rest rest' ⟨a, b⟩ _ ⟨ha, hb⟩ hrest
    exact Couples.returning ((hrest.push hb).push ha)
  | popd =>
    refine Couples.bind_popped (couples_pop2 hbelow hst) ?_
    rintro size₁ rest rest' ⟨a, b⟩ _ ⟨_, hb⟩ hrest
    exact Couples.returning (hrest.push hb)
  | dupd =>
    refine Couples.bind_popped (couples_pop2 hbelow hst) ?_
    rintro size₁ rest rest' ⟨a, b⟩ _ ⟨ha, hb⟩ hrest
    exact Couples.returning (((hrest.push ha).push ha).push hb)
  | quote =>
    refine Couples.bind_popped (couples_pop hbelow hst) ?_
    intro size₁ rest rest' n _ _ hrest
    refine Agree.bind (agree_countOf "quote" n) ?_
    intro size₂ count hsize _
    refine Couples.bind_popped (couples_popN count hbelow (hrest.mono hsize)) ?_
    intro size₃ rest rest' items _ hitems hrest
    exact Couples.returning (hrest.push (Value.within_list.mpr hitems))
  | choice =>
    refine Couples.bind_popped (couples_pop3 hbelow hst) ?_
    rintro size₁ rest rest' ⟨condition, yes, no⟩ _ ⟨_, hyes, hno⟩ hrest
    refine Couples.returning (hrest.push ?_)
    cases condition.isTruthy with
    | true => exact hyes
    | false => exact hno
  | invoke => exact h.invoke hbelow hst
  | cons =>
    refine Couples.bind_popped (couples_pop2 hbelow hst) ?_
    rintro size₁ rest rest' ⟨p, q⟩ _ ⟨hp, hq⟩ hrest
    refine Agree.bind (agree_quotedProgram hq "cons") ?_
    intro size₂ items hsize hitems
    have hcons := Value.within_list.mpr (List.forall_mem_cons.mpr ⟨hp.mono hsize, hitems⟩)
    exact Couples.returning ((hrest.mono hsize).push hcons)
  | take =>
    refine Couples.bind_popped (couples_pop2 hbelow hst) ?_
    rintro size₁ rest rest' ⟨p, q⟩ _ ⟨hp, hq⟩ hrest
    refine Agree.bind (agree_quotedProgram hp "take") ?_
    intro size₂ items hsize hitems
    have hlast : C.GoodAll size₂ [q] := List.forall_mem_singleton.mpr (hq.mono hsize)
    have happend := Value.within_list.mpr (List.forall_mem_append.mpr ⟨hitems, hlast⟩)
    exact Couples.returning ((hrest.mono hsize).push happend)
  | i =>
    refine Couples.bind_popped (couples_pop hbelow hst) ?_
    intro size₁ rest rest' p _ hp hrest
    exact h.foldQuoted hbelow hrest hp "i"
  | k =>
    refine Couples.bind_popped (couples_pop2 hbelow hst) ?_
    rintro size₁ rest rest' ⟨p, q⟩ _ ⟨_, hq⟩ hrest
    exact h.foldQuoted hbelow hrest hq "k"
  | x =>
    refine Agree.bind (agree_peek hbelow hst) ?_
    intro size₁ p hsize hp
    exact h.foldQuoted hbelow (hst.mono hsize) hp "x"
  | dip =>
    refine Couples.bind_popped (couples_pop2 hbelow hst) ?_
    rintro size₁ rest rest' ⟨x, p⟩ _ ⟨hx, hp⟩ hrest
    refine Couples.bind (h.foldQuoted hbelow hrest hp "dip") ?_
    intro size₂ folded folded' hsize hfolded
    exact Couples.returning (hfolded.push (hx.mono hsize))
  | dipd =>
    refine Couples.bind_popped (couples_pop3 hbelow hst) ?_
    rintro size₁ rest rest' ⟨x, y, p⟩ _ ⟨hx, hy, hp⟩ hrest
    refine Couples.bind (h.foldQuoted hbelow hrest hp "dipd") ?_
    intro size₂ folded folded' hsize hfolded
    exact Couples.returning ((hfolded.push (hx.mono hsize)).push (hy.mono hsize))
  | dipdd =>
    refine Couples.bind_popped (couples_pop4 hbelow hst) ?_
    rintro size₁ rest rest' ⟨x, y, z, p⟩ _ ⟨hx, hy, hz, hp⟩ hrest
    refine Couples.bind (h.foldQuoted hbelow hrest hp "dipdd") ?_
    intro size₂ folded folded' hsize hfolded
    have hpushed := (hfolded.push (hx.mono hsize)).push (hy.mono hsize)
    exact Couples.returning (hpushed.push (hz.mono hsize))
  | step =>
    refine Couples.bind_popped (couples_pop2 hbelow hst) ?_
    rintro size₁ rest rest' ⟨items, p⟩ _ ⟨hitems, hp⟩ hrest
    refine Agree.bind (agree_positionalArguments hitems "step") ?_
    intro size₂ items hsize₂ hitems
    refine Agree.bind (agree_quotedProgram (hp.mono hsize₂) "step") ?_
    intro size₃ program hsize₃ hprogram
    have hrest' := hrest.mono (Nat.le_trans hsize₂ hsize₃)
    exact h.foldOverItems hbelow hrest' hprogram (GoodAll.mono hsize₃ hitems)
  | nullary =>
    refine Couples.bind_popped (couples_pop hbelow hst) ?_
    intro size₁ rest rest' p _ hp hrest
    exact Couples.pushing hrest (h.topAfter hbelow hrest hp "nullary")
  | cleave =>
    refine Couples.bind_popped (couples_pop3 hbelow hst) ?_
    rintro size₁ rest rest' ⟨x, p, q⟩ _ ⟨hx, hp, hq⟩ hrest
    -- Both programs run over the same stack; only their tops are kept.
    have hcopy := hrest.push hx
    refine Agree.bind (h.topAfter hbelow hcopy hp "cleave") ?_
    intro size₂ first hsize₂ hfirst
    refine Agree.bind (h.topAfter hbelow (hcopy.mono hsize₂) (hq.mono hsize₂) "cleave") ?_
    intro size₃ second hsize₃ hsecond
    have hrest' := hrest.mono (Nat.le_trans hsize₂ hsize₃)
    exact Couples.returning ((hrest'.push (hfirst.mono hsize₃)).push hsecond)
  | ifte =>
    refine Couples.bind_popped (couples_pop3 hbelow hst) ?_
    rintro size₁ rest rest' ⟨b, yes, no⟩ _ ⟨hb, hyes, hno⟩ hrest
    -- The condition runs over a copy of the stack on which the branch then runs.
    refine Agree.bind (h.topAfter hbelow hrest hb "ifte") ?_
    intro size₂ condition hsize _
    refine h.foldQuoted hbelow (hrest.mono hsize) ?_ "ifte"
    cases condition.isTruthy with
    | true => exact hyes.mono hsize
    | false => exact hno.mono hsize
  | times =>
    refine Couples.bind_popped (couples_pop2 hbelow hst) ?_
    rintro size₁ rest rest' ⟨n, p⟩ _ ⟨_, hp⟩ hrest
    refine Agree.bind (agree_countOf "times" n) ?_
    intro size₂ count hsize₂ _
    refine Agree.bind (agree_quotedProgram (hp.mono hsize₂) "times") ?_
    intro size₃ program hsize₃ hprogram
    have hrest' := hrest.mono (Nat.le_trans hsize₂ hsize₃)
    exact h.foldTimes hbelow hrest' hprogram count
  | infra => exact h.foldInside hbelow hst (fun _ _ => List.mem_reverse.mp) "infra"
  | subspace => exact h.foldInside hbelow hst (fun _ _ hw => hw) "subspace"
  | b =>
    refine Couples.bind_popped (couples_pop2 hbelow hst) ?_
    rintro size₁ rest rest' ⟨p, q⟩ _ ⟨hp, hq⟩ hrest
    refine Couples.bind (h.foldQuoted hbelow hrest hp "b") ?_
    intro size₂ folded folded' hsize hfolded
    exact h.foldQuoted hbelow hfolded (hq.mono hsize) "b"
  | s =>
    refine Couples.bind_popped (couples_pop3 hbelow hst) ?_
    rintro size₁ rest rest' ⟨p, q, r⟩ _ ⟨hp, hq, hr⟩ hrest
    refine Agree.bind (agree_quotedProgram hq "s") ?_
    intro size₂ items hsize hitems
    have hcons := Value.within_list.mpr (List.forall_mem_cons.mpr ⟨hp.mono hsize, hitems⟩)
    have hpushed := ((hrest.mono hsize).push hcons).push (hp.mono hsize)
    exact h.foldQuoted hbelow hpushed (hr.mono hsize) "s"
  | t =>
    refine Couples.bind_popped (couples_pop2 hbelow hst) ?_
    rintro size₁ rest rest' ⟨p, q⟩ _ ⟨hp, hq⟩ hrest
    exact h.foldQuoted hbelow (hrest.push hq) hp "t"
  | j =>
    refine Couples.bind_popped (couples_pop4 hbelow hst) ?_
    rintro size₁ rest rest' ⟨p, q, r, program⟩ _ ⟨hp, hq, hr, hprogram⟩ hrest
    refine Agree.bind (agree_quotedProgram hprogram "j") ?_
    intro size₂ items hsize₂ hitems
    have hpushed := ((hrest.mono hsize₂).push (hq.mono hsize₂)).push (hp.mono hsize₂)
    refine Couples.bind (h.fold hbelow hpushed hitems) ?_
    intro size₃ folded folded' hsize₃ hfolded
    have hr' := hr.mono (Nat.le_trans hsize₂ hsize₃)
    exact h.fold hbelow (hfolded.push hr') (hitems.mono hsize₃)

/-! ## Combinators and programs -/

/-- Native operations act on one and the same stack: where they may occur, nothing is beneath the
second one. -/
theorem Coupled.stackNative (h : C.Coupled levels next next') {native : StackNative}
    (hnative : C.admits native) (hbelow : C.base below) (hst : C.Above below size s t) :
    C.Couples levels size (C.Above below) (native.run next s) (native.run next' t) := by
  obtain rfl := C.eq_nil_of_admits hnative hbelow
  obtain ⟨rfl, hs⟩ := hst.same
  cases native with
  | reverse =>
    refine Couples.returning (Above.refl ?_)
    rw [Stack.toList_ofList]
    exact fun v hv => hs v (List.mem_reverse.mp hv)
  | clear =>
    refine Couples.returning (Above.refl ?_)
    rw [Stack.toList_empty]
    exact List.forall_mem_nil _
  | depth => exact Couples.returning (hst.push (Value.within_number _))
  | broken => exact Couples.failing _
  | forever =>
    refine Agree.bind agree_freshIdentity ?_
    intro _ identity hsize _
    refine h.fold C.base_nil (hst.mono hsize) (List.forall_mem_cons.mpr ⟨by simp, ?_⟩)
    exact List.forall_mem_singleton.mpr (Value.within_native.mpr hnative)

theorem Coupled.stackOperation (h : C.Coupled levels next next') {op : StackOperation}
    {name : String} (hop : C.Good size (.combinator (.explicit name op))) (hbelow : C.base below)
    (hst : C.Above below size s t) :
    C.Couples levels size (C.Above below) (op.run next s) (op.run next' t) := by
  cases op with
  | word w => exact h.runWord hbelow hst w
  | native native identity => exact h.stackNative (Value.within_native.mp hop) hbelow hst

/-- **Applying a combinator is coupled.** -/
theorem Coupled.combinator (h : C.Coupled levels next next') {c : Combinator Value}
    (hc : C.Good size (.combinator c)) (hbelow : C.base below) (hst : C.Above below size s t) :
    C.Couples levels size (C.Above below) (c.apply next s) (c.apply next' t) := by
  cases c with
  | explicit name op => exact h.stackOperation hc hbelow hst
  | positional name op =>
    refine Couples.bind_popped (couples_pop hbelow hst) ?_
    intro _ _ _ _ hsize hargs hrest
    refine Agree.bind (agree_positionalArguments hargs name) ?_
    intro _ _ hsize' hargs
    have hop := Value.within_positional.mp (hc.mono (Nat.le_trans hsize hsize'))
    exact Couples.pushing (hrest.mono hsize') (h.operationCall hop hargs goodAll_empty)
  | keyword name op =>
    refine Couples.bind_popped (couples_pop hbelow hst) ?_
    intro _ _ _ _ hsize₁ hlayer hrest
    refine Agree.bind (agree_keywordLayer hlayer name) ?_
    intro _ _ hsize₂ hkwargs
    refine Couples.bind_popped (couples_pop hbelow (hrest.mono hsize₂)) ?_
    intro _ _ _ _ hsize₃ hargs hrest
    refine Agree.bind (agree_positionalArguments hargs name) ?_
    intro _ _ hsize₄ hargs
    have hlater := Nat.le_trans hsize₃ hsize₄
    have hop := Value.within_keyword.mp (hc.mono (Nat.le_trans (Nat.le_trans hsize₁ hsize₂) hlater))
    exact Couples.pushing (hrest.mono hsize₄)
      (h.operationCall hop hargs (GoodAll.mono hlater hkwargs))
  | popping name count op =>
    refine Couples.bind_popped (couples_popN count hbelow hst) ?_
    intro _ _ _ _ hsize hargs hrest
    have hop := Value.within_popping.mp (hc.mono hsize)
    exact Couples.pushing hrest (h.operationCall hop hargs goodAll_empty)
  | phrase p => exact h.fold hbelow hst (Value.within_phrase.mp hc)

theorem Coupled.stepItem (h : C.Coupled levels next next') {item : Value} (hitem : C.Good size item)
    (hbelow : C.base below) (hst : C.Above below size s t) :
    C.Couples levels size (C.Above below) (stepItem next s item) (stepItem next' t item) := by
  cases item with
  | combinator c => exact h.combinator hitem hbelow hst
  | _ => exact Couples.returning (hst.push hitem)

/-- **Folding a program is coupled**, by induction along the program. -/
theorem Coupled.foldItems (h : C.Coupled levels next next') {program : List Value}
    (hprogram : C.GoodAll size program) (hbelow : C.base below) (hst : C.Above below size s t) :
    C.Couples levels size (C.Above below) (foldItems next s program)
      (foldItems next' t program) := by
  induction program generalizing size s t with
  | nil => exact Couples.returning hst
  | cons item rest ih =>
    obtain ⟨hitem, hrest⟩ := List.forall_mem_cons.mp hprogram
    exact Couples.bind (h.stepItem hitem hbelow hst) fun _ _ _ hsize habove =>
      ih (GoodAll.mono hsize hrest) habove

end Coupling

end Homoiconic
