import Homoiconic.Proofs.Equality
import Homoiconic.Proofs.Numbers

/-!
# Primitives respect equality

Two maps are equal if they bind the same names to equal values, and the order of the entries does
not count.  But a map has an order, and values that are equal may differ in it at any depth.  This
module says that no primitive except the one that makes new symbols lets the difference through:
called on equal arguments, it fails in both calls, or the results are equal again
(`primitives_respect_equality`).

Most of the argument is about typed functions.  What is wrong with a value depends on its kind and,
if it is a list, on the kinds of its elements, and equal values agree in these.  So equal arguments
are refused alike or not at all (`Signature.firstFault?_eq`).  If they are numbers, truth values or
texts, they are even the same, and there is nothing more to say of a function of such arguments
(`Signature.answersEqually_atomic`).  What is left are the primitives that take any values, which
look at their truth and their length, compare them or pass them on.

The errors of two calls that fail are not compared.  A typed function refuses the first keyword
argument, and this is a different one when the keyword arguments come in another order.
-/

namespace Homoiconic

/-! ## What equal values agree in -/

theorem isEmpty_eq_of_length_eq {α β : Type} {l : List α} {m : List β} (h : l.length = m.length) :
    l.isEmpty = m.isEmpty := by
  rw [Bool.eq_iff_iff, List.isEmpty_iff_length_eq_zero, List.isEmpty_iff_length_eq_zero, h]

theorem Function.kind_eq_of_same {f g : Function Value} (h : f.same g = true) :
    (Value.function f).kind = (Value.function g).kind := by
  obtain ⟨name, callable⟩ := f
  obtain ⟨name', callable'⟩ := g
  cases callable <;> cases callable'
  · rfl
  · simp [same] at h
  · simp [same] at h
  · rfl

namespace Value

/-- Two values are equal, and all keyword maps in them were made by the operations on keyword
maps. -/
structure Equal (v w : Value) : Prop where
  left : v.WellKeyed
  right : w.WellKeyed
  beq : (v == w) = true

variable {u v w : Value}

theorem Equal.refl (h : v.WellKeyed) : Equal v v := ⟨h, h, beq_self_eq_true v⟩

theorem Equal.symm (h : Equal v w) : Equal w v where
  left := h.right
  right := h.left
  beq := by
    have hsame := h.beq
    rw [beq_eq_same] at hsame ⊢
    exact same_symm h.left h.right hsame

theorem Equal.trans (h : Equal u v) (h' : Equal v w) : Equal u w where
  left := h.left
  right := h'.right
  beq := by
    have hsame := h.beq
    have hsame' := h'.beq
    rw [beq_eq_same] at hsame hsame' ⊢
    exact same_trans h.left h.right h'.right hsame hsame'

/-- Equal values are built alike from equal parts. -/
theorem Equal.alike (h : Equal v w) : Alike Equal v w := by
  have hsame := h.beq
  rw [beq_eq_same] at hsame
  refine (alike_of_same h.right.distinct hsame).imp_of_mem fun a ha b hb hab => ?_
  exact ⟨h.left.part a ha, h.right.part b hb, (beq_eq_same a b).trans hab⟩

theorem beq_of_alike (h : Alike Equal v w) (hw : ∀ m ∈ w.keywords?, m.Distinct) :
    (v == w) = true := by
  rw [beq_eq_same]
  refine same_of_alike hw (h.imp_of_mem fun a _ b _ hab => ?_)
  exact (beq_eq_same a b).symm.trans hab.beq

theorem Equal.kind_eq (h : Equal v w) : v.kind = w.kind := by
  cases h.alike with
  | function same => exact Function.kind_eq_of_same same
  | _ => rfl

theorem Equal.isTruthy_eq (h : Equal v w) : v.isTruthy = w.isTruthy := by
  cases h.alike with
  | list each => rw [isTruthy, isTruthy, isEmpty_eq_of_length_eq each.length_eq]
  | map found =>
    rw [isTruthy, isTruthy, Keywords.isEmpty, Keywords.isEmpty, isEmpty_eq_of_length_eq found.1]
  | stack each =>
    rw [isTruthy, isTruthy, Stack.isEmpty, Stack.isEmpty, Stack.depth_eq_length,
      Stack.depth_eq_length, each.length_eq]
  | _ => rfl

/-- Equal values have the same length, or are refused alike for having none. -/
theorem Equal.lengthOf_eq (h : Equal v w) : lengthOf v = lengthOf w := by
  have hkind := h.kind_eq
  cases h.alike with
  | list each => rw [lengthOf, lengthOf, each.length_eq]
  | map found => rw [lengthOf, lengthOf, Keywords.size, Keywords.size, found.1]
  | stack each =>
    rw [lengthOf, lengthOf, Stack.depth_eq_length, Stack.depth_eq_length, each.length_eq]
  | function _ => exact congrArg (fun kind => Except.error (Error.noLength kind)) hkind
  | _ => rfl

/-! ## Lists of equal values -/

theorem Equal.list {vs ws : List Value} (h : List.Forall₂ Equal vs ws) :
    (Value.list vs == Value.list ws) = true :=
  beq_of_alike (.list h) nofun

theorem Equal.getLast {vs ws : List Value} (hvw : Equal v w) (h : List.Forall₂ Equal vs ws) :
    Equal (vs.getLast?.getD v) (ws.getLast?.getD w) := by
  induction h generalizing v w with
  | nil => exact hvw
  | cons hab _ ih =>
    rw [List.getLast?_cons, List.getLast?_cons]
    exact ih hab

/-- Whether values are all equal to the first of them does not change when equal ones take their
place. -/
theorem Equal.all_beq_eq {vs ws : List Value} (hvw : Equal v w) (h : List.Forall₂ Equal vs ws) :
    (vs.all fun a => a == v) = ws.all fun b => b == w := by
  induction h with
  | nil => rfl
  | @cons a b vs ws hab _ ih =>
    -- Both directions go around: from one argument to the other, and along the first ones.
    have hfirst : (a == v) = (b == w) := by
      rw [Bool.eq_iff_iff]
      constructor
      · intro hav
        exact ((hab.symm.trans ⟨hab.left, hvw.left, hav⟩).trans hvw).beq
      · intro hbw
        exact ((hab.trans ⟨hab.right, hvw.right, hbw⟩).trans hvw.symm).beq
    rw [List.all_cons, List.all_cons, hfirst, ih]

end Value

/-! ## Actions that answer equally -/

/-- Two results are equal values, or both are failures. -/
inductive EqualEnds : Except Error Value → Except Error Value → Prop
  | failed (e e' : Error) : EqualEnds (.error e) (.error e')
  | returned {v w : Value} (h : (v == w) = true) : EqualEnds (.ok v) (.ok w)

theorem EqualEnds.refl (result : Except Error Value) : EqualEnds result result := by
  cases result with
  | error e => exact .failed e e
  | ok v => exact .returned (beq_self_eq_true v)

/-- Two actions do nothing but end, and they end equally. -/
def AnswersEqually (a b : EvalM Value) : Prop :=
  ∃ result result', a = ofExcept result ∧ b = ofExcept result' ∧ EqualEnds result result'

theorem AnswersEqually.failing (e e' : Error) : AnswersEqually (fail e) (fail e') :=
  ⟨.error e, .error e', rfl, rfl, .failed e e'⟩

theorem AnswersEqually.answering {v w : Value} (h : (v == w) = true) :
    AnswersEqually (answer v) (answer w) :=
  ⟨.ok v, .ok w, rfl, rfl, .returned h⟩

theorem AnswersEqually.of_eq {result result' : Except Error Value} (h : result = result') :
    AnswersEqually (ofExcept result) (ofExcept result') :=
  ⟨result, result', rfl, rfl, h ▸ .refl result⟩

/-! ## Faults of equal values -/

theorem ElementType.fault?_eq (t : ElementType) {v w : Value} (h : v.Equal w) :
    t.fault? v = t.fault? w := by
  rw [fault?, fault?, kindFault?, kindFault?, h.kind_eq]

/-- **Equal values have the same fault.**  Lists have it at the same place. -/
theorem ParamType.fault?_eq (t : ParamType) {v w : Value} (h : v.Equal w) :
    t.fault? v = t.fault? w := by
  cases t with
  | items element =>
    have hkind := h.kind_eq
    cases h.alike with
    | list each =>
      rw [fault?, fault?]
      clear h hkind
      induction each with
      | nil => rfl
      | cons hab _ ih => rw [List.findSome?_cons, List.findSome?_cons, element.fault?_eq hab, ih]
    | _ => simp only [fault?, kindFault?, hkind]
  | _ => simp only [fault?, kindFault?, h.kind_eq]

/-! ## Atomic arguments -/

/-- Whether elements are numbers or texts. -/
def ElementType.isAtomic : ElementType → Bool
  | .anything => false
  | .number | .text => true

/-- Whether an argument is made of numbers, truth values and texts alone. -/
def ParamType.isAtomic : ParamType → Bool
  | .anything => false
  | .number | .boolean | .text => true
  | .items element => element.isAtomic

theorem ElementType.eq_of_equal {t : ElementType} (ht : t.isAtomic = true) {x y : t.denote}
    (h : (t.value x).Equal (t.value y)) : x = y := by
  cases t with
  | anything => cases ht
  | number => cases h.alike; rfl
  | text => cases h.alike; rfl

theorem ElementType.eq_of_forall₂_equal {t : ElementType} (ht : t.isAtomic = true)
    {xs ys : List t.denote} (h : List.Forall₂ Value.Equal (xs.map t.value) (ys.map t.value)) :
    xs = ys := by
  rw [List.forall₂_map_left_iff, List.forall₂_map_right_iff] at h
  exact List.forall₂_eq_eq_eq ▸ h.imp fun _ _ => eq_of_equal ht

theorem ParamType.eq_of_equal {t : ParamType} (ht : t.isAtomic = true) {x y : t.denote}
    (h : (t.value x).Equal (t.value y)) : x = y := by
  cases t with
  | anything => cases ht
  | number => cases h.alike; rfl
  | boolean => cases h.alike; rfl
  | text => cases h.alike; rfl
  | items element =>
    cases h.alike with
    | list each => exact ElementType.eq_of_forall₂_equal ht each

namespace Signature

open Value (Equal)

variable {sig : Signature} {args args' : List Value} {kwargs kwargs' : Keywords Value}

/-- Whether all arguments are made of numbers, truth values and texts alone. -/
def isAtomic (sig : Signature) : Bool :=
  sig.params.all ParamType.isAtomic && sig.rest.all ElementType.isAtomic

/-- Equal arguments that are atomic are the same. -/
theorem eq_of_equal_values {rest : Option ElementType} {ts : List ParamType}
    (hts : ∀ t ∈ ts, t.isAtomic = true) (hrest : ∀ element ∈ rest, element.isAtomic = true)
    {xs ys : Passed rest ts} (h : List.Forall₂ Equal (values ts xs) (values ts ys)) : xs = ys := by
  induction ts with
  | nil =>
    cases rest with
    | none => rfl
    | some element => exact ElementType.eq_of_forall₂_equal (hrest element rfl) h
  | cons t ts ih =>
    obtain ⟨x, xs⟩ := xs
    obtain ⟨y, ys⟩ := ys
    obtain ⟨hx, hxs⟩ := List.forall_mem_cons.mp hts
    obtain ⟨hxy, hrest⟩ := List.forall₂_cons.mp h
    rw [ParamType.eq_of_equal hx hxy, ih hxs hrest]

/-! ## Typed functions of equal arguments -/

theorem firstFault?_eq (types : List ParamType) (h : List.Forall₂ Equal args args') :
    firstFault? types args = firstFault? types args' := by
  induction h generalizing types with
  | nil => rfl
  | cons hab _ ih =>
    cases types with
    | nil => rfl
    | cons t types => rw [firstFault?_cons, firstFault?_cons, t.fault?_eq hab, ih]

/-- **A typed function answers equally on equal arguments**, if it does so once it is entered. -/
theorem answersEqually_call {body : sig.Body} (hargs : List.Forall₂ Equal args args')
    (hkeys : kwargs.firstKey?.isSome = kwargs'.firstKey?.isSome)
    (hbody : ∀ xs ys, List.Forall₂ Equal (values sig.params xs) (values sig.params ys) →
      AnswersEqually (applyTo sig.params body xs) (applyTo sig.params body ys)) :
    AnswersEqually (sig.call body args kwargs) (sig.call body args' kwargs') := by
  cases hkey : kwargs.firstKey? with
  | some key =>
    rw [hkey] at hkeys
    obtain ⟨key', hkey'⟩ := Option.isSome_iff_exists.mp hkeys.symm
    rw [call_of_keyword hkey, call_of_keyword hkey']
    exact .failing _ _
  | none =>
    rw [hkey] at hkeys
    have hkey' : kwargs'.firstKey? = none :=
      Option.isNone_iff_eq_none.mp (Option.isSome_eq_false_iff.mp hkeys.symm)
    have hlength := hargs.length_eq
    by_cases hcount : Takes sig.rest sig.params args.length
    · have hcount' : Takes sig.rest sig.params args'.length := hlength ▸ hcount
      -- The first fault is the same one, so both calls are refused for it, or both are entered.
      have hfault := firstFault?_eq (types sig.rest sig.params args.length) hargs
      rcases call_of_takes hkey hcount with ⟨e, he, hcall⟩ | ⟨hnone, xs, rfl, hcall⟩
      · rw [hfault, hlength] at he
        rw [hcall, call_of_firstFault hkey' hcount' he]
        exact .failing e e
      · rw [hfault, hlength] at hnone
        rcases call_of_takes hkey' hcount' with ⟨e, he, _⟩ | ⟨_, ys, rfl, hcall'⟩
        · cases hnone.symm.trans he
        · rw [hcall, hcall']
          exact hbody xs ys hargs
    · have hcount' : ¬ Takes sig.rest sig.params args'.length := hlength ▸ hcount
      rw [call_of_wrong_count hkey hcount, call_of_wrong_count hkey' hcount']
      exact .failing _ _

/-- A typed function of atomic arguments does not see the difference at all. -/
theorem answersEqually_atomic {body : sig.Body} (hsig : sig.isAtomic = true)
    (hargs : List.Forall₂ Equal args args')
    (hkeys : kwargs.firstKey?.isSome = kwargs'.firstKey?.isSome)
    (hbody : ∀ xs, ∃ result, applyTo sig.params body xs = ofExcept result) :
    AnswersEqually (sig.call body args kwargs) (sig.call body args' kwargs') := by
  obtain ⟨hparams, hrest⟩ := (Bool.and_eq_true _ _).mp hsig
  refine answersEqually_call hargs hkeys fun xs ys hxy => ?_
  obtain rfl := eq_of_equal_values (List.all_eq_true.mp hparams)
    ((Option.all_eq_true _ _).mp hrest) hxy
  obtain ⟨result, hresult⟩ := hbody xs
  rw [hresult]
  exact .of_eq rfl

/-- A function of one value of any kind. -/
theorem answersEqually_value {body : Body ⟨[.anything], none⟩}
    (hargs : List.Forall₂ Equal args args')
    (hkeys : kwargs.firstKey?.isSome = kwargs'.firstKey?.isSome)
    (hbody : ∀ v w, Equal v w → AnswersEqually (body v) (body w)) :
    AnswersEqually (call ⟨[.anything], none⟩ body args kwargs)
      (call ⟨[.anything], none⟩ body args' kwargs') := by
  refine answersEqually_call hargs hkeys ?_
  rintro ⟨v, _⟩ ⟨w, _⟩ h
  obtain ⟨hvw, _⟩ := List.forall₂_cons.mp h
  exact hbody v w hvw

theorem forall₂_of_values_anything {vs ws : List Value}
    (h : List.Forall₂ Equal (vs.map ElementType.anything.value)
      (ws.map ElementType.anything.value)) : List.Forall₂ Equal vs ws := by
  rw [List.forall₂_map_left_iff, List.forall₂_map_right_iff] at h
  exact h

/-- A function of a list of values of any kind. -/
theorem answersEqually_values {body : Body ⟨[], some .anything⟩}
    (hargs : List.Forall₂ Equal args args')
    (hkeys : kwargs.firstKey?.isSome = kwargs'.firstKey?.isSome)
    (hbody : ∀ vs ws, List.Forall₂ Equal vs ws → AnswersEqually (body vs) (body ws)) :
    AnswersEqually (call ⟨[], some .anything⟩ body args kwargs)
      (call ⟨[], some .anything⟩ body args' kwargs') :=
  answersEqually_call hargs hkeys fun vs ws h => hbody vs ws (forall₂_of_values_anything h)

end Signature

/-! ## Primitives -/

/-- Of equal keyword maps, both are empty or none is. -/
theorem isSome_firstKey?_eq {kwargs kwargs' : Keywords Value}
    (h : Value.Equal (.map kwargs) (.map kwargs')) :
    kwargs.firstKey?.isSome = kwargs'.firstKey?.isSome := by
  cases h.alike with
  | map found =>
    have hlength : kwargs.keys.length = kwargs'.keys.length := by
      rw [Keywords.keys, Keywords.keys, List.length_map, List.length_map, found.1]
    rw [Keywords.firstKey?, Keywords.firstKey?, Bool.eq_iff_iff, List.isSome_head?,
      List.isSome_head?, ← List.length_pos_iff, ← List.length_pos_iff, hlength]

/-- Calls built from equal parts are equal. -/
theorem answersEqually_buildNode {args args' : List Value} {kwargs kwargs' : Keywords Value}
    (hargs : List.Forall₂ Value.Equal args args')
    (hkwargs : Value.Equal (.map kwargs) (.map kwargs')) :
    AnswersEqually (ofExcept (buildNode args kwargs)) (ofExcept (buildNode args' kwargs')) := by
  cases hargs with
  | nil => exact .failing _ _
  | cons htarget hpositional =>
    refine .answering (Value.beq_of_alike (.call htarget hpositional ?_) ?_)
    · cases hkwargs.alike with
      | map found => exact found
    · rintro _ ⟨⟩
      exact hkwargs.right.distinct _ rfl

namespace Primitive

variable {op : Primitive} {args args' : List Value} {kwargs kwargs' : Keywords Value}

theorem answersEqually_perform (hop : op ≠ .gensym) (hargs : List.Forall₂ Value.Equal args args')
    (hkwargs : Value.Equal (.map kwargs) (.map kwargs')) :
    AnswersEqually (op.perform args kwargs) (op.perform args' kwargs') := by
  have hkeys := isSome_firstKey?_eq hkwargs
  cases op with
  | gensym => exact absurd rfl hop
  | node => exact answersEqually_buildNode hargs hkwargs
  | add | multiply =>
    exact Signature.answersEqually_atomic rfl hargs hkeys fun _ => ⟨_, rfl⟩
  | subtract | less | greater | atMost | atLeast =>
    exact Signature.answersEqually_atomic rfl hargs hkeys fun ⟨_, _⟩ => ⟨_, rfl⟩
  | concat => exact Signature.answersEqually_atomic rfl hargs hkeys fun _ => ⟨.ok _, rfl⟩
  | join | upper | lower =>
    exact Signature.answersEqually_atomic rfl hargs hkeys fun ⟨_, _⟩ => ⟨.ok _, rfl⟩
  | equal =>
    refine Signature.answersEqually_call hargs hkeys ?_
    -- This one takes a value and a list of values, so neither of the two rules applies.
    rintro ⟨v, vs⟩ ⟨w, ws⟩ h
    obtain ⟨hvw, hrest⟩ := List.forall₂_cons.mp h
    have hall := hvw.all_beq_eq (Signature.forall₂_of_values_anything hrest)
    exact .of_eq (congrArg (fun b => .ok (.bool b)) hall)
  | not =>
    refine Signature.answersEqually_value hargs hkeys fun v w h => ?_
    exact .of_eq (congrArg (fun b => .ok (.bool !b)) h.isTruthy_eq)
  | length =>
    refine Signature.answersEqually_value hargs hkeys fun v w h => ?_
    exact .of_eq (congrArg (Except.map Value.number) h.lengthOf_eq)
  | identity => exact Signature.answersEqually_value hargs hkeys fun v w h => .answering h.beq
  | list => exact Signature.answersEqually_values hargs hkeys fun vs ws h =>
    .answering (Value.Equal.list h)
  | sequence =>
    refine Signature.answersEqually_values hargs hkeys fun vs ws h => ?_
    exact .answering (Value.Equal.getLast (.refl (Value.wellKeyed_leaf rfl rfl)) h).beq

theorem answersEqually_apply (hop : op ≠ .gensym) (hargs : List.Forall₂ Value.Equal args args')
    (hkwargs : Value.Equal (.map kwargs) (.map kwargs')) :
    AnswersEqually (apply (Builtin.primitive op).toValue args kwargs)
      (apply (Builtin.primitive op).toValue args' kwargs') := by
  cases hviolated : op.arity.violated? args.length with
  | some bound =>
    have hviolated' : op.arity.violated? args'.length = some bound := hargs.length_eq ▸ hviolated
    rw [apply_of_violated hviolated, apply_of_violated hviolated']
    exact .failing _ _
  | none =>
    have haccepts : op.arity.accepts args.length = true := Option.isNone_iff_eq_none.mpr hviolated
    have haccepts' : op.arity.accepts args'.length = true := hargs.length_eq ▸ haccepts
    rw [apply_of_accepts haccepts, apply_of_accepts haccepts']
    exact answersEqually_perform hop hargs hkwargs

end Primitive

/-- **Primitives respect equality.**  Take two calls of a primitive on equal arguments, in which the
order of entries in maps may differ at any depth and the keyword arguments may come in any order.
Both calls fail, or both return, and the results are equal.  In neither case has the state changed.
The one exception is the primitive that makes a new symbol each time. -/
theorem primitives_respect_equality {op : Primitive} (hop : op ≠ .gensym)
    {args args' : List Value} (hargs : List.Forall₂ Value.Equal args args')
    {kwargs kwargs' : Keywords Value} (hkwargs : Value.Equal (.map kwargs) (.map kwargs'))
    (s s' : State) :
    EqualEnds (apply (Builtin.primitive op).toValue args kwargs s).1
        (apply (Builtin.primitive op).toValue args' kwargs' s').1 ∧
      (apply (Builtin.primitive op).toValue args kwargs s).2 = s ∧
        (apply (Builtin.primitive op).toValue args' kwargs' s').2 = s' := by
  obtain ⟨result, result', hrun, hrun', hends⟩ :=
    Primitive.answersEqually_apply hop hargs hkwargs
  rw [hrun, hrun', ofExcept_run, ofExcept_run]
  exact ⟨hends, rfl, rfl⟩

/-- Calls built on maps, and with keyword arguments, that bind the same names in a different order.
The length of such a map is refused for the first keyword argument, which is not the same one. -/
theorem primitives_of_reordered_maps :
    let kwargs := Keywords.ofList [("a", Value.nil), ("b", .bool true)]
    let kwargs' := Keywords.ofList [("b", .bool true), ("a", Value.nil)]
    let call (op : Primitive) (kwargs : Keywords Value) : Except Error Value :=
      (apply (Builtin.primitive op).toValue [.map kwargs] kwargs .initial).1
    (List.Forall₂ Value.Equal [.map kwargs] [.map kwargs'] ∧
        Value.Equal (.map kwargs) (.map kwargs')) ∧
      EqualEnds (call .node kwargs) (call .node kwargs') ∧
        (Value.call ⟨.map kwargs, [], kwargs⟩ == Value.call ⟨.map kwargs', [], kwargs'⟩) = true ∧
          call .length kwargs = .error (.unexpectedKeyword "a") ∧
            EqualEnds (call .length kwargs) (call .length kwargs') := by
  intro kwargs kwargs' call
  have hnil : Value.nil.WellKeyed := Value.wellKeyed_leaf rfl rfl
  have hbool : (Value.bool true).WellKeyed := Value.wellKeyed_leaf rfl rfl
  have hequal : Value.Equal (.map kwargs) (.map kwargs') := by
    refine ⟨Value.wellKeyed_map (.ofList _) ?_, Value.wellKeyed_map (.ofList _) ?_, ?_⟩
    · exact List.forall_mem_cons.mpr ⟨hnil, List.forall_mem_singleton.mpr hbool⟩
    · exact List.forall_mem_cons.mpr ⟨hbool, List.forall_mem_singleton.mpr hnil⟩
    · rw [Value.beq_eq_same]
      decide
  have hargs : List.Forall₂ Value.Equal [.map kwargs] [.map kwargs'] := .cons hequal .nil
  have hnode : EqualEnds (call .node kwargs) (call .node kwargs') :=
    (@primitives_respect_equality .node nofun _ _ hargs _ _ hequal .initial .initial).1
  have hlength : EqualEnds (call .length kwargs) (call .length kwargs') :=
    (@primitives_respect_equality .length nofun _ _ hargs _ _ hequal .initial .initial).1
  refine ⟨⟨hargs, hequal⟩, hnode, ?_, rfl, hlength⟩
  have hbuilt : EqualEnds (.ok (.call ⟨.map kwargs, [], kwargs⟩))
      (.ok (.call ⟨.map kwargs', [], kwargs'⟩)) := hnode
  cases hbuilt with
  | returned h => exact h

end Homoiconic
