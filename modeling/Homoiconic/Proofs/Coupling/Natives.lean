import Homoiconic.Evaluation.Natives
import Homoiconic.Evaluation.Primitives
import Homoiconic.Proofs.Coupling.Basic

/-!
# Built-in and native operations are coupled

Operations on evaluated arguments are typed functions under a signature, with a handful of
exceptions.  A typed function sees its arguments only after they have been read, so what it can
return is known from what it does on arguments of the right types: `Sound` follows the parameters of
the signature down to the function's answer.  Whatever is sound is coupled with itself
(`agree_signature`), and each operation is then one line that says why its answer is made of its
arguments.

No operation of this module looks at a scope or at the depth of a run.  Two of them touch the state
at all: one draws a fresh symbol, one writes to the log.
-/

namespace Homoiconic

/-! ## Typed functions on good arguments -/

/-- An element that is passed as a value is a good one. -/
def ElementType.Holds (good : Value → Prop) : (t : ElementType) → t.denote → Prop
  | .anything, v => good v
  | .number, _ | .text, _ => True

/-- An argument that is passed as a value, or as a list of values, is made of good ones. -/
def ParamType.Holds (good : Value → Prop) : (t : ParamType) → t.denote → Prop
  | .anything, v => good v
  | .items element, xs => ∀ x ∈ xs, element.Holds good x
  | .number, _ | .boolean, _ | .text, _ => True

theorem ElementType.holds_read {good : Value → Prop} {t : ElementType} {v : Value} {x : t.denote}
    (hv : good v) (h : t.read v = .ok x) : t.Holds good x := by
  cases t with
  | anything =>
    obtain rfl : v = x := Except.ok.inj h
    exact hv
  | number | text => trivial

theorem ElementType.holds_readEach {good : Value → Prop} {t : ElementType} {vs : List Value}
    {xs : List t.denote} (hvs : ∀ v ∈ vs, good v) (h : t.readEach vs = .ok xs) :
    ∀ x ∈ xs, t.Holds good x := by
  induction vs generalizing xs with
  | nil =>
    obtain rfl : [] = xs := Except.ok.inj h
    simp
  | cons v rest ih =>
    rw [List.forall_mem_cons] at hvs
    simp only [readEach] at h
    split at h
    · cases h
    · rename_i x hx
      split at h
      · cases h
      · rename_i ys hys
        obtain rfl := Except.ok.inj h
        exact List.forall_mem_cons.mpr ⟨holds_read hvs.1 hx, ih hvs.2 hys⟩

theorem ParamType.holds_read {good : Value → Prop} {t : ParamType} {v : Value} {x : t.denote}
    (hv : good v) (hlist : ∀ items, v = .list items → ∀ w ∈ items, good w)
    (h : t.read v = .ok x) : t.Holds good x := by
  cases t with
  | anything =>
    obtain rfl : v = x := Except.ok.inj h
    exact hv
  | items element =>
    cases v with
    | list items => exact element.holds_readEach (hlist items rfl) h
    | _ => cases h
  | number | boolean | text => trivial

namespace Signature

variable {α : Type} {rest : Option ElementType}

/-- What a typed function answers on good arguments satisfies `P`. -/
def Sound (good : Value → Prop) (P : α → Prop) :
    (ts : List ParamType) → Arrow rest α ts → Prop
  | [], f =>
    match rest with
    | none => P f
    | some element => ∀ xs : List element.denote, (∀ x ∈ xs, element.Holds good x) → P (f xs)
  | t :: ts, f => ∀ x : t.denote, t.Holds good x → Sound good P ts (f x)

/-- A sound function supplied with good arguments answers as it should. -/
theorem holds_of_supply {good : Value → Prop} {P : α → Prop}
    (hgood : ∀ items, good (.list items) → ∀ w ∈ items, good w) {ts : List ParamType}
    {f : Arrow rest α ts} {args : List Value} {a : α} (hf : Sound good P ts f)
    (hargs : ∀ v ∈ args, good v) (h : supply ts f args = .ok a) : P a := by
  induction ts generalizing args with
  | nil =>
    cases rest with
    | none =>
      obtain rfl : f = a := Except.ok.inj h
      exact hf
    | some element =>
      simp only [supply] at h
      split at h
      · cases h
      · rename_i xs hxs
        obtain rfl := Except.ok.inj h
        exact hf xs (element.holds_readEach hargs hxs)
  | cons t ts ih =>
    cases args with
    | nil => cases h
    | cons arg args =>
      rw [List.forall_mem_cons] at hargs
      simp only [supply] at h
      split at h
      · cases h
      · rename_i x hx
        have hlist : ∀ items, arg = .list items → ∀ w ∈ items, good w := by
          rintro items rfl
          exact hgood items hargs.1
        exact ih (hf x (t.holds_read hargs.1 hlist hx)) hargs.2 h

end Signature

namespace Coupling

variable {C : Coupling} {levels size : Nat}

/-- **A sound typed function is coupled with itself.** -/
theorem agree_signature {sig : Signature} {body : sig.Body} {args : List Value}
    {kwargs : Keywords Value} (hargs : C.GoodAll size args)
    (hbody : Signature.Sound (C.Good size) (fun action => C.Agree levels size C.Good action action)
      sig.params body) :
    C.Agree levels size C.Good (sig.call body args kwargs) (sig.call body args kwargs) := by
  unfold Signature.call
  cases kwargs.firstKey? with
  | some key => exact Couples.failing _
  | none =>
    by_cases haccepts : sig.accepts args.length
    · simp only [haccepts, if_true]
      cases hsupply : Signature.supply sig.params body args with
      | error e => exact Couples.failing e
      | ok action =>
        exact Signature.holds_of_supply
          (P := fun action => C.Agree levels size C.Good action action)
          (fun _ => Value.within_list.mp) hbody hargs hsupply
    · simp only [haccepts]
      exact Couples.failing _

theorem agree_answer {v : Value} (hv : C.Good size v) :
    C.Agree levels size C.Good (answer v) (answer v) := Agree.returning hv

theorem agree_answerNumber (result : Except Error Int64) :
    C.Agree levels size C.Good (answerNumber result) (answerNumber result) := by
  refine Agree.ofExcept ?_
  intro v hv
  cases result with
  | error e => cases hv
  | ok n =>
    obtain rfl := Except.ok.inj hv
    exact Value.within_number n

theorem agree_answerBool (result : Except Error Bool) :
    C.Agree levels size C.Good (answerBool result) (answerBool result) := by
  refine Agree.ofExcept ?_
  intro v hv
  cases result with
  | error e => cases hv
  | ok b =>
    obtain rfl := Except.ok.inj hv
    exact Value.within_bool b

/-! ## The operations, one by one -/

section Operations

variable {args : List Value} {kwargs : Keywords Value}

theorem agree_typed (native : TypedNative) (hargs : C.GoodAll size args) :
    C.Agree levels size C.Good (native.perform args kwargs) (native.perform args kwargs) := by
  cases native with
  | seven => exact agree_signature hargs (agree_answer (Value.within_number _))
  | inc => exact agree_signature hargs fun _ _ => agree_answer (Value.within_number _)
  | add | sub | mul =>
    exact agree_signature hargs fun _ _ _ _ => agree_answer (Value.within_number _)
  | gt => exact agree_signature hargs fun _ _ _ _ => agree_answer (Value.within_bool _)
  | safeDiv =>
    refine agree_signature hargs fun a _ b _ => ?_
    unfold safeQuotient
    by_cases hb : b = 0
    · rw [if_pos hb]
      exact Couples.failing _
    · rw [if_neg hb]
      exact agree_answer (Value.within_number _)
  | sum3 => exact agree_signature hargs fun _ _ _ _ _ _ => agree_answer (Value.within_number _)
  | list4 =>
    refine agree_signature hargs fun a ha b hb c hc d hd => agree_answer (Value.within_list.mpr ?_)
    simpa using ⟨ha, hb, hc, hd⟩
  | list5 =>
    refine agree_signature hargs fun a _ b _ c _ d _ e he => agree_answer (Value.within_list.mpr ?_)
    have hgood : C.Good size e := he
    simpa using hgood
  | negate => exact agree_signature hargs fun _ _ => agree_answer (Value.within_bool _)
  | shout | own => exact agree_signature hargs fun _ _ => agree_answer (Value.within_string _)
  | unit => exact agree_signature hargs fun _ _ => agree_answer Value.within_nil
  | sumList => exact agree_signature hargs fun _ _ => agree_answer (Value.within_number _)
  | joinList =>
    exact agree_signature hargs fun _ _ _ _ => agree_answer (Value.within_string _)
  | sizeList =>
    refine agree_signature hargs fun vs hvs => agree_answer (Value.within_list.mpr ?_)
    exact List.forall_mem_append.mpr ⟨hvs, by simp⟩

theorem agree_variadic (native : VariadicNative) (hargs : C.GoodAll size args) :
    C.Agree levels size C.Good (native.perform args kwargs) (native.perform args kwargs) := by
  cases native with
  | vsum => exact agree_signature hargs fun _ _ => agree_answer (Value.within_number _)
  | vlist => exact agree_signature hargs fun vs hvs => agree_answer (Value.within_list.mpr hvs)
  | vcat => exact agree_signature hargs fun _ _ => agree_answer (Value.within_string _)
  | vjoin => exact agree_signature hargs fun _ _ _ _ => agree_answer (Value.within_string _)
  | vbetween =>
    exact agree_signature hargs fun _ _ _ _ _ _ => agree_answer (Value.within_number _)
  | vmix =>
    refine agree_signature hargs fun v hv b _ s _ vs hvs => agree_answer (Value.within_list.mpr ?_)
    simp only [List.forall_mem_cons]
    exact ⟨hv, Value.within_bool b, Value.within_string s, hvs⟩

theorem good_head? (hargs : C.GoodAll size args) : C.Good size (args.head?.getD .nil) := by
  cases args with
  | nil => exact Value.within_nil
  | cons arg rest => exact hargs arg List.mem_cons_self

theorem agree_free (native : FreeNative) (hargs : C.GoodAll size args)
    (hkwargs : C.GoodAll size kwargs.values) :
    C.Agree levels size C.Good (native.perform args kwargs) (native.perform args kwargs) := by
  cases native with
  | pack =>
    refine agree_answer (Value.within_list.mpr ?_)
    simp only [List.forall_mem_cons]
    exact ⟨Value.within_list.mpr hargs, Value.within_map.mpr hkwargs, by simp⟩
  | total =>
    simp only [FreeNative.perform]
    cases ElementType.number.readEach (args ++ kwargs.values) with
    | ok ns => exact agree_answer (Value.within_number _)
    | error e => exact Couples.failing e
  | first => exact agree_answer (good_head? hargs)
  | fail => exact Couples.failing _
  | log =>
    exact Agree.bind (agree_writeLog _) fun _ _ hsize _ =>
      agree_answer (good_head? (hargs.mono hsize))

theorem agree_slice (native : SliceNative) (hargs : C.GoodAll size args) :
    C.Agree levels size C.Good (native.perform args) (native.perform args) := by
  cases native with
  | count => exact agree_answer (Value.within_number _)
  | last =>
    simp only [SliceNative.perform]
    cases hlast : args.getLast? with
    | some v => exact agree_answer (hargs v (List.mem_of_getLast? hlast))
    | none => exact Couples.failing _

/-- **Native operations are coupled with themselves.** -/
theorem agree_nativeOperation (op : NativeOperation) (hargs : C.GoodAll size args)
    (hkwargs : C.GoodAll size kwargs.values) :
    C.Agree levels size C.Good (op.call args kwargs) (op.call args kwargs) := by
  cases op with
  | typed native => exact agree_typed native hargs
  | variadic native arity =>
    exact Agree.bind (agree_checkArity arity _) fun _ _ hsize _ =>
      agree_variadic native (hargs.mono hsize)
  | free native => exact agree_free native hargs hkwargs
  | slice native =>
    simp only [NativeOperation.call]
    cases kwargs.firstKey? with
    | some key => exact Couples.failing _
    | none => exact agree_slice native hargs

theorem agree_perform (op : Primitive) (hargs : C.GoodAll size args)
    (hkwargs : C.GoodAll size kwargs.values) :
    C.Agree levels size C.Good (op.perform args kwargs) (op.perform args kwargs) := by
  cases op with
  | add | multiply => exact agree_signature hargs fun _ _ => agree_answerNumber _
  | subtract => exact agree_signature hargs fun _ _ _ _ => agree_answerNumber _
  | less | greater | atMost | atLeast =>
    exact agree_signature hargs fun _ _ _ _ => agree_answerBool _
  | equal => exact agree_signature hargs fun _ _ _ _ => agree_answer (Value.within_bool _)
  | not => exact agree_signature hargs fun _ _ => agree_answer (Value.within_bool _)
  | list => exact agree_signature hargs fun _ hvs => agree_answer (Value.within_list.mpr hvs)
  | length => exact agree_signature hargs fun _ _ => agree_answerNumber _
  | identity => exact agree_signature hargs fun _ hv => agree_answer hv
  | sequence =>
    refine agree_signature hargs fun vs hvs => agree_answer ?_
    cases hlast : vs.getLast? with
    | none => exact Value.within_nil
    | some v => exact hvs v (List.mem_of_getLast? hlast)
  | gensym =>
    exact agree_signature hargs fun _ _ =>
      Agree.bind (agree_gensym _) fun _ name _ _ => Agree.returning (Value.within_symbol name)
  | node =>
    refine Agree.ofExcept ?_
    intro v hv
    cases args with
    | nil => cases hv
    | cons target positional =>
      obtain rfl := Except.ok.inj hv
      have hsplit := List.forall_mem_cons.mp hargs
      exact Value.within_call.mpr ⟨hsplit.1, hsplit.2, hkwargs⟩
  | concat => exact agree_signature hargs fun _ _ => agree_answer (Value.within_string _)
  | join => exact agree_signature hargs fun _ _ _ _ => agree_answer (Value.within_string _)
  | upper | lower => exact agree_signature hargs fun _ _ => agree_answer (Value.within_string _)

/-- **Primitives are coupled with themselves.** -/
theorem agree_primitive (op : Primitive) (hargs : C.GoodAll size args)
    (hkwargs : C.GoodAll size kwargs.values) :
    C.Agree levels size C.Good (op.call args kwargs) (op.call args kwargs) :=
  Agree.bind (agree_checkArity op.arity _) fun _ _ hsize _ =>
    agree_perform op (hargs.mono hsize) (hkwargs.mono hsize)

end Operations

end Coupling

end Homoiconic
