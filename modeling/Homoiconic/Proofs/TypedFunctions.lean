import Homoiconic.Signature

/-!
# Typed functions check their arguments first

A typed function is called on values, but what it is passed in their place is of the types that its
signature declares.  So something has to happen before: keyword arguments are refused, the others
are counted, and each of them is converted.  The conversions go from left to right, and in a list,
or among the arguments that a last parameter collects, from element to element.

To say what this amounts to, types are given a meaning that does not mention conversion.  Whatever
can be passed is the passed form of a value (`ParamType.value`), and a value that cannot be passed
has a fault, which is an error (`ParamType.fault?`).  Converting a value reports its fault, or there
is none, and the result is a passed form of the value (`Reads`).  The same holds of a list of values
and the first fault in it, and of all arguments of a call (`Signature.supply_reads`).  So a call that
is refused is refused in the same way whatever the function is, and any other call is the function
applied to the passed forms of its arguments (`typed_calls_check_first`).

A list can also be checked as a whole and be gone through later.  A check that succeeds vouches for
every element (`ElementType.readEach_of_precheck`).
-/

namespace Homoiconic

/-! ## Faults -/

/-- What is wrong with a value where a certain kind is asked for, if one is. -/
def kindFault? (want : Option Kind) (v : Value) : Option Error :=
  want.bind fun want => if v.kind = want then none else some (.expectedKind want v.kind)

theorem kindFault?_of_ne {want : Kind} {v : Value} (h : v.kind ≠ want) :
    kindFault? (some want) v = some (.expectedKind want v.kind) := if_neg h

namespace ElementType

/-- The value of which something is the passed form. -/
def value : (t : ElementType) → t.denote → Value
  | .anything, v => v
  | .number, n => .number n
  | .text, s => .string s

/-- The kind that is asked for. -/
def kind? : ElementType → Option Kind
  | .anything => none
  | .number => some .number
  | .text => some .string

/-- What is wrong with an element. -/
def fault? (t : ElementType) (v : Value) : Option Error := kindFault? t.kind? v

/-- The type of a parameter for a single element. -/
def single : ElementType → ParamType
  | .anything => .anything
  | .number => .number
  | .text => .text

end ElementType

namespace ParamType

/-- The value of which something is the passed form. -/
def value : (t : ParamType) → t.denote → Value
  | .number, n => .number n
  | .boolean, b => .bool b
  | .text, s => .string s
  | .anything, v => v
  | .items element, xs => .list (xs.map element.value)

/-- The kind that is asked for. -/
def kind? : ParamType → Option Kind
  | .number => some .number
  | .boolean => some .boolean
  | .text => some .string
  | .anything => none
  | .items _ => some .list

/-- What is wrong with an argument: it is of the wrong kind, or it is a list, and something is wrong
with an element.  Of several elements it is the leftmost one. -/
def fault? : ParamType → Value → Option Error
  | .items element, .list vs => vs.findSome? element.fault?
  | t, v => kindFault? t.kind? v

end ParamType

theorem ElementType.single_fault? (t : ElementType) (v : Value) :
    t.single.fault? v = t.fault? v := by
  cases t <;> rfl

/-! ## Conversions -/

/-- How a conversion ends: it reports the fault, or there is none, and the result is the passed form
of what is converted. -/
inductive Reads {α β : Type} (value : α → β) : Option Error → β → Except Error α → Prop
  | refused (e : Error) (v : β) : Reads value (some e) v (.error e)
  | converted (x : α) : Reads value none (value x) (.ok x)

theorem Reads.of_kind_ne {α : Type} {value : α → Value} {want : Kind} {v : Value}
    (h : v.kind ≠ want) :
    Reads value (kindFault? (some want) v) v (.error (.expectedKind want v.kind)) := by
  rw [kindFault?_of_ne h]
  exact .refused _ v

namespace Value

theorem kind_function_ne (f : Function Value) {want : Kind} (hplain : want ≠ .function)
    (hexpander : want ≠ .expander) : (Value.function f).kind ≠ want := by
  show (if f.callable.isExpander then Kind.expander else Kind.function) ≠ want
  split
  · exact hexpander.symm
  · exact hplain.symm

theorem toNumber_reads (v : Value) :
    Reads .number (kindFault? (some .number) v) v v.toNumber := by
  cases v with
  | number n => exact .converted n
  | function f => exact .of_kind_ne (kind_function_ne f nofun nofun)
  | _ => exact .refused _ _

theorem toBool_reads (v : Value) : Reads .bool (kindFault? (some .boolean) v) v v.toBool := by
  cases v with
  | bool b => exact .converted b
  | function f => exact .of_kind_ne (kind_function_ne f nofun nofun)
  | _ => exact .refused _ _

theorem toText_reads (v : Value) : Reads .string (kindFault? (some .string) v) v v.toText := by
  cases v with
  | string s => exact .converted s
  | function f => exact .of_kind_ne (kind_function_ne f nofun nofun)
  | _ => exact .refused _ _

end Value

namespace ElementType

theorem reads (t : ElementType) (v : Value) : Reads t.value (t.fault? v) v (t.read v) := by
  cases t with
  | anything => exact .converted v
  | number => exact v.toNumber_reads
  | text => exact v.toText_reads

/-- **The elements of a list are converted up to the first fault**, by induction along the list. -/
theorem readEach_reads (t : ElementType) (vs : List Value) :
    Reads (List.map t.value) (vs.findSome? t.fault?) vs (t.readEach vs) := by
  induction vs with
  | nil => exact .converted []
  | cons v rest ih =>
    have hv := t.reads v
    rw [List.findSome?_cons, readEach]
    generalize t.fault? v = fault, t.read v = result at hv ⊢
    cases hv with
    | refused e => exact .refused e _
    | converted x =>
      generalize rest.findSome? t.fault? = fault, t.readEach rest = result at ih ⊢
      cases ih with
      | refused e => exact .refused e _
      | converted xs => exact .converted (x :: xs)

end ElementType

theorem ParamType.reads (t : ParamType) (v : Value) : Reads t.value (t.fault? v) v (t.read v) := by
  cases t with
  | number => exact v.toNumber_reads
  | boolean => exact v.toBool_reads
  | text => exact v.toText_reads
  | anything => exact .converted v
  | items element =>
    cases v with
    | list vs =>
      have hvs := element.readEach_reads vs
      rw [fault?, read]
      generalize vs.findSome? element.fault? = fault, element.readEach vs = result at hvs ⊢
      cases hvs with
      | refused e => exact .refused e _
      | converted xs => exact .converted xs
    | function f => exact .of_kind_ne (Value.kind_function_ne f nofun nofun)
    | _ => exact .refused _ _

/-! ## Values of a type -/

theorem ElementType.fault?_value (t : ElementType) (x : t.denote) : t.fault? (t.value x) = none := by
  cases t <;> rfl

theorem ElementType.readEach_value (t : ElementType) (xs : List t.denote) :
    t.readEach (xs.map t.value) = .ok xs := by
  induction xs with
  | nil => rfl
  | cons x rest ih =>
    have hread : t.read (t.value x) = .ok x := by cases t <;> rfl
    rw [List.map_cons, readEach, hread, ih]

/-- The value of a passed form is converted back to it. -/
theorem ParamType.read_value (t : ParamType) (x : t.denote) : t.read (t.value x) = .ok x := by
  cases t with
  | items element => exact element.readEach_value x
  | _ => rfl

theorem ParamType.fault?_value (t : ParamType) (x : t.denote) : t.fault? (t.value x) = none := by
  cases t with
  | items element =>
    rw [value, fault?, List.findSome?_eq_none_iff]
    intro v hv
    obtain ⟨y, _, rfl⟩ := List.mem_map.mp hv
    exact element.fault?_value y
  | _ => rfl

/-- **Nothing is wrong with a value exactly if it has a passed form.** -/
theorem ParamType.fault?_eq_none_iff {t : ParamType} {v : Value} :
    t.fault? v = none ↔ ∃ x, t.value x = v := by
  constructor
  · intro h
    have hreads := t.reads v
    rw [h] at hreads
    generalize t.read v = result at hreads
    cases hreads with
    | converted x => exact ⟨x, rfl⟩
  · rintro ⟨x, rfl⟩
    exact t.fault?_value x

theorem category_of_kindFault? {want : Option Kind} {v : Value} {e : Error}
    (h : kindFault? want v = some e) : e.category = .type := by
  obtain ⟨want, _, h⟩ := Option.bind_eq_some_iff.mp h
  split at h
  · cases h
  · obtain rfl := Option.some.inj h
    rfl

/-- Every fault is a type error. -/
theorem ParamType.category_of_fault? {t : ParamType} {v : Value} {e : Error}
    (h : t.fault? v = some e) : e.category = .type := by
  unfold fault? at h
  split at h
  · obtain ⟨w, _, hw⟩ := List.exists_of_findSome?_eq_some h
    exact category_of_kindFault? hw
  · exact category_of_kindFault? h

/-! ## Going through a list that has been checked -/

namespace ElementType

/-- Check a list: look for the first element of a wrong kind. -/
def precheck (t : ElementType) (vs : List Value) : Except Error Unit :=
  match t.kind?.bind fun want =>
    (vs.find? fun v => v.kind ≠ want).map fun bad => .expectedKind want bad.kind with
  | some e => .error e
  | none => .ok ()

/-- The passed form of an element.  There is none for an element of the wrong kind. -/
def project? : (t : ElementType) → Value → Option t.denote
  | .anything, v => some v
  | .number, .number n => some n
  | .text, .string s => some s
  | _, _ => none

theorem project?_value (t : ElementType) (x : t.denote) : t.project? (t.value x) = some x := by
  cases t <;> rfl

theorem findSome?_kindFault? (want : Option Kind) (vs : List Value) :
    vs.findSome? (kindFault? want) = want.bind fun want =>
      (vs.find? fun v => v.kind ≠ want).map fun bad => .expectedKind want bad.kind := by
  cases want with
  | none => exact List.findSome?_eq_none_iff.mpr fun _ _ => rfl
  | some want =>
    induction vs with
    | nil => rfl
    | cons v rest ih =>
      rw [List.findSome?_cons, Option.bind_some, List.find?_cons]
      by_cases hv : v.kind = want
      · have hnone : kindFault? (some want) v = none := if_pos hv
        rw [hnone, ih, Option.bind_some, decide_eq_false (Decidable.not_not.mpr hv)]
      · rw [kindFault?_of_ne hv, decide_eq_true hv, Option.map_some]

/-- The check reports the first fault. -/
theorem precheck_eq (t : ElementType) (vs : List Value) :
    t.precheck vs = match vs.findSome? t.fault? with
      | some e => .error e
      | none => .ok () := by
  have hfaults : vs.findSome? t.fault? = _ := findSome?_kindFault? t.kind? vs
  rw [hfaults]
  rfl

/-- **Checking a list and then going through it is converting it.**  Where the check fails, the
conversion reports the same, and where it succeeds, every element that is met has a passed form. -/
theorem readEach_of_precheck (t : ElementType) (vs : List Value) :
    (∀ e, t.precheck vs = .error e → t.readEach vs = .error e) ∧
      (t.precheck vs = .ok () → ∃ xs, t.readEach vs = .ok xs ∧ vs.map t.project? = xs.map some) := by
  have hreads := t.readEach_reads vs
  rw [precheck_eq]
  generalize vs.findSome? t.fault? = fault, t.readEach vs = result at hreads ⊢
  cases hreads with
  | refused e => exact ⟨fun e' h => congrArg Except.error (Except.error.inj h), nofun⟩
  | converted xs =>
    refine ⟨nofun, fun _ => ⟨xs, rfl, ?_⟩⟩
    rw [List.map_map]
    exact List.map_congr_left fun x _ => t.project?_value x

end ElementType

/-! ## All arguments -/

namespace Signature

variable {rest : Option ElementType} {α : Type}

/-- What a function is passed: a passed form for each leading parameter, and a list of them for the
elements that are collected. -/
def Passed (rest : Option ElementType) : List ParamType → Type
  | [] =>
    match rest with
    | none => Unit
    | some element => List element.denote
  | t :: ts => t.denote × Passed rest ts

/-- The arguments of which something is the passed form. -/
def values : (ts : List ParamType) → Passed rest ts → List Value
  | [], xs =>
    match rest with
    | none => []
    | some element => List.map element.value xs
  | t :: ts, (x, xs) => t.value x :: values ts xs

/-- Apply a function to what it is passed. -/
def applyTo : (ts : List ParamType) → Arrow rest α ts → Passed rest ts → α
  | [], f, xs =>
    match rest with
    | none => f
    | some _ => f xs
  | _ :: ts, f, (x, xs) => applyTo ts (f x) xs

/-- The types of the parameters for a number of arguments.  What is not taken by a leading parameter
is an element of what the last one collects. -/
def types (rest : Option ElementType) (ts : List ParamType) (got : Nat) : List ParamType :=
  match rest with
  | none => ts
  | some element => ts ++ List.replicate (got - ts.length) element.single

/-- Whether a number of arguments is right for some leading parameters. -/
def Takes (rest : Option ElementType) (ts : List ParamType) (got : Nat) : Prop :=
  match rest with
  | none => got = ts.length
  | some _ => ts.length ≤ got

theorem takes_cons {t : ParamType} {ts : List ParamType} {got : Nat} :
    Takes rest (t :: ts) (got + 1) ↔ Takes rest ts got := by
  cases rest with
  | none => exact Nat.succ_inj
  | some _ => exact Nat.succ_le_succ_iff

theorem takes_cons_zero {t : ParamType} {ts : List ParamType} : ¬ Takes rest (t :: ts) 0 := by
  cases rest with
  | none => exact nofun
  | some _ => exact Nat.not_succ_le_zero _

/-- The first fault in the arguments. -/
def firstFault? (types : List ParamType) (args : List Value) : Option Error :=
  (types.zip args).findSome? fun pair => pair.1.fault? pair.2

theorem firstFault?_cons (t : ParamType) (types : List ParamType) (arg : Value)
    (args : List Value) :
    firstFault? (t :: types) (arg :: args) = (t.fault? arg).or (firstFault? types args) := by
  rw [firstFault?, List.zip_cons_cons, List.findSome?_cons]
  cases t.fault? arg <;> rfl

/-- The first fault is a type error, as every fault is. -/
theorem category_of_firstFault? {types : List ParamType} {args : List Value} {e : Error}
    (h : firstFault? types args = some e) : e.category = .type := by
  obtain ⟨pair, _, hpair⟩ := List.exists_of_findSome?_eq_some h
  exact ParamType.category_of_fault? hpair

theorem firstFault?_replicate (element : ElementType) (args : List Value) :
    firstFault? (List.replicate args.length element.single) args =
      args.findSome? element.fault? := by
  induction args with
  | nil => rfl
  | cons arg rest ih =>
    rw [List.length_cons, List.replicate_succ, firstFault?_cons, List.findSome?_cons, ih,
      ElementType.single_fault?]
    cases element.fault? arg <;> rfl

theorem types_cons (t : ParamType) (ts : List ParamType) (got : Nat) :
    types rest (t :: ts) (got + 1) = t :: types rest ts got := by
  cases rest with
  | none => rfl
  | some element =>
    rw [types, types, List.length_cons, Nat.add_sub_add_right, List.cons_append]

/-- **The arguments are converted up to the first fault**, by induction along the leading
parameters: each of them takes an argument, and what is left is one list. -/
theorem supply_reads (ts : List ParamType) {args : List Value}
    (hcount : Takes rest ts args.length) :
    ∃ result : Except Error (Passed rest ts),
      Reads (values ts) (firstFault? (types rest ts args.length) args) args result ∧
        ∀ {α : Type} (f : Arrow rest α ts), supply ts f args = result.map (applyTo ts f) := by
  induction ts generalizing args with
  | nil =>
    cases rest with
    | none =>
      obtain rfl : args = [] := List.eq_nil_of_length_eq_zero hcount
      exact ⟨.ok (), .converted (), fun _ => rfl⟩
    | some element =>
      refine ⟨element.readEach args, ?_, fun f => ?_⟩
      · have hall : types (some element) [] args.length =
            List.replicate args.length element.single := rfl
        rw [hall, firstFault?_replicate]
        exact element.readEach_reads args
      · rw [supply]
        cases element.readEach args <;> rfl
  | cons t ts ih =>
    cases args with
    -- The arguments have been counted, so they do not run out before the parameters do.
    | nil => exact absurd hcount takes_cons_zero
    | cons arg args =>
      obtain ⟨result, hreads, hsupply⟩ := ih (takes_cons.mp hcount)
      have harg := t.reads arg
      rw [List.length_cons, types_cons, firstFault?_cons]
      simp only [supply]
      generalize t.fault? arg = fault, t.read arg = first at harg ⊢
      generalize firstFault? (types rest ts args.length) args = later at hreads ⊢
      cases harg with
      | refused e => exact ⟨.error e, .refused e _, fun _ => rfl⟩
      | converted x =>
        cases hreads with
        | refused e => exact ⟨.error e, .refused e _, fun f => hsupply (f x)⟩
        | converted xs => exact ⟨.ok (x, xs), .converted (x, xs), fun f => hsupply (f x)⟩

/-- What is passed to a function can be got from the values of it. -/
theorem supply_values (ts : List ParamType) (f : Arrow rest α ts) (xs : Passed rest ts) :
    supply ts f (values ts xs) = .ok (applyTo ts f xs) := by
  induction ts with
  | nil =>
    cases rest with
    | none => rfl
    | some element =>
      have hread : element.readEach (values [] xs) = .ok xs := element.readEach_value xs
      rw [supply, hread]
      rfl
  | cons t ts ih =>
    obtain ⟨x, xs⟩ := xs
    rw [values, supply, t.read_value]
    exact ih (f x) xs

theorem takes_values (ts : List ParamType) (xs : Passed rest ts) :
    Takes rest ts (values ts xs).length := by
  induction ts with
  | nil =>
    cases rest with
    | none => exact List.length_nil
    | some _ => exact Nat.zero_le _
  | cons t ts ih =>
    obtain ⟨x, xs⟩ := xs
    exact takes_cons.mpr (ih xs)

theorem accepts_iff {sig : Signature} {got : Nat} :
    sig.accepts got = true ↔ Takes sig.rest sig.params got := by
  obtain ⟨params, rest⟩ := sig
  cases rest with
  | none => exact beq_iff_eq
  | some _ => exact decide_eq_true_iff

/-! ## Calls -/

section Calls

variable {sig : Signature} {args : List Value} {kwargs : Keywords Value} {e : Error}

theorem call_of_keyword {key : String} (hkey : kwargs.firstKey? = some key) (body : sig.Body) :
    sig.call body args kwargs = fail (.unexpectedKeyword key) := by
  rw [call, hkey]

theorem call_of_wrong_count (hkey : kwargs.firstKey? = none)
    (hcount : ¬ Takes sig.rest sig.params args.length) (body : sig.Body) :
    sig.call body args kwargs = fail (.arity none sig.params.length args.length) := by
  rw [call, hkey]
  exact if_neg fun haccepts => hcount (accepts_iff.mp haccepts)

theorem call_of_supply_eq_error (hkey : kwargs.firstKey? = none)
    (hcount : Takes sig.rest sig.params args.length) {body : sig.Body}
    (h : supply sig.params body args = .error e) : sig.call body args kwargs = fail e := by
  rw [call, hkey, h]
  exact if_pos (accepts_iff.mpr hcount)

theorem call_of_supply_eq_ok (hkey : kwargs.firstKey? = none)
    (hcount : Takes sig.rest sig.params args.length) {body : sig.Body} {action : EvalM Value}
    (h : supply sig.params body args = .ok action) : sig.call body args kwargs = action := by
  rw [call, hkey, h]
  exact if_pos (accepts_iff.mpr hcount)

/-- Once there are no keyword arguments and the right number of others, a call is refused for the
first fault, or the function is applied. -/
theorem call_of_takes (hkey : kwargs.firstKey? = none)
    (hcount : Takes sig.rest sig.params args.length) :
    (∃ e, firstFault? (types sig.rest sig.params args.length) args = some e ∧
        ∀ body, sig.call body args kwargs = fail e) ∨
      firstFault? (types sig.rest sig.params args.length) args = none ∧
        ∃ xs : Passed sig.rest sig.params, values sig.params xs = args ∧
          ∀ body, sig.call body args kwargs = applyTo sig.params body xs := by
  obtain ⟨result, hreads, hsupply⟩ := supply_reads sig.params hcount
  generalize firstFault? (types sig.rest sig.params args.length) args = fault at hreads ⊢
  cases hreads with
  | refused e =>
    exact .inl ⟨e, rfl, fun body => call_of_supply_eq_error hkey hcount (hsupply body)⟩
  | converted xs =>
    exact .inr ⟨rfl, xs, rfl, fun body => call_of_supply_eq_ok hkey hcount (hsupply body)⟩

theorem call_of_firstFault (hkey : kwargs.firstKey? = none)
    (hcount : Takes sig.rest sig.params args.length)
    (hfault : firstFault? (types sig.rest sig.params args.length) args = some e)
    (body : sig.Body) : sig.call body args kwargs = fail e := by
  rcases call_of_takes hkey hcount with ⟨e', he', hcall⟩ | ⟨hnone, _⟩
  · obtain rfl := Option.some.inj (hfault.symm.trans he')
    exact hcall body
  · cases hfault.symm.trans hnone

/-- A function that is called on the values of what can be passed to it is applied to it. -/
theorem call_values (xs : Passed sig.rest sig.params) (body : sig.Body) :
    sig.call body (values sig.params xs) .empty = applyTo sig.params body xs :=
  call_of_supply_eq_ok rfl (takes_values sig.params xs) (supply_values sig.params body xs)

/-- How a call of a typed function is decided, before the function is applied. -/
structure ChecksFirst (sig : Signature) (args : List Value) (kwargs : Keywords Value) : Prop where
  /-- If there are keyword arguments, the first one is refused. -/
  keyword {key : String} : kwargs.firstKey? = some key → ∀ body,
    sig.call body args kwargs = fail (.unexpectedKeyword key)
  /-- If there are none, a wrong number of arguments is refused. -/
  count : kwargs.firstKey? = none → ¬ Takes sig.rest sig.params args.length → ∀ body,
    sig.call body args kwargs = fail (.arity none sig.params.length args.length)
  /-- If the number is right, the leftmost argument with a fault is refused for it. -/
  fault {before after : List (ParamType × Value)} {t : ParamType} {v : Value} {e : Error} :
    kwargs.firstKey? = none → Takes sig.rest sig.params args.length →
      (types sig.rest sig.params args.length).zip args = before ++ (t, v) :: after →
      (∀ pair ∈ before, pair.1.fault? pair.2 = none) → t.fault? v = some e →
        e.category = .type ∧ ∀ body, sig.call body args kwargs = fail e
  /-- If there is none, the arguments have passed forms, and the function is applied to them. -/
  applied : kwargs.firstKey? = none → Takes sig.rest sig.params args.length →
    (∀ pair ∈ (types sig.rest sig.params args.length).zip args, pair.1.fault? pair.2 = none) →
      ∃ xs : Passed sig.rest sig.params, values sig.params xs = args ∧
        ∀ body, sig.call body args kwargs = applyTo sig.params body xs

/-- **Arguments are checked before the function is applied**, under every signature. -/
theorem checksFirst (sig : Signature) (args : List Value) (kwargs : Keywords Value) :
    sig.ChecksFirst args kwargs where
  keyword := call_of_keyword
  count := call_of_wrong_count
  fault {before after t v e} hkey hcount hzip hbefore hv := by
    have hfirst : firstFault? (types sig.rest sig.params args.length) args = some e := by
      rw [firstFault?, hzip, List.findSome?_append, List.findSome?_eq_none_iff.mpr hbefore,
        List.findSome?_cons, hv]
      rfl
    exact ⟨ParamType.category_of_fault? hv, call_of_firstFault hkey hcount hfirst⟩
  applied hkey hcount hargs := by
    have hnone : firstFault? (types sig.rest sig.params args.length) args = none :=
      List.findSome?_eq_none_iff.mpr hargs
    rcases call_of_takes hkey hcount with ⟨e, he, _⟩ | ⟨_, happlied⟩
    · cases hnone.symm.trans he
    · exact happlied

end Calls

end Signature

/-- **Typed functions check everything before they are entered.**  Take any signature, arguments and
keyword arguments.  A keyword argument is refused first, then a wrong number of arguments, then the
leftmost argument with a fault, in each case whatever the function is.  Otherwise the call is the
function applied to the passed forms of the arguments, in their order.  A value has a fault exactly
if it is not of the type; the fault of a list is that of the leftmost element that has one.  And
going through a list that has been checked as a whole never meets an element of the wrong kind. -/
theorem typed_calls_check_first (sig : Signature) (args : List Value) (kwargs : Keywords Value) :
    sig.ChecksFirst args kwargs ∧
      (∀ (t : ParamType) (v : Value), t.fault? v = none ↔ ∃ x, t.value x = v) ∧
      (∀ (element : ElementType) (before : List Value) (v : Value) (after : List Value) (e : Error),
        (∀ w ∈ before, element.fault? w = none) → element.fault? v = some e →
          (ParamType.items element).fault? (.list (before ++ v :: after)) = some e) ∧
      ∀ (element : ElementType) (vs : List Value),
        (∀ e, element.precheck vs = .error e → element.readEach vs = .error e) ∧
          (element.precheck vs = .ok () →
            ∃ xs, element.readEach vs = .ok xs ∧ vs.map element.project? = xs.map some) := by
  refine ⟨sig.checksFirst args kwargs, fun t v => ParamType.fault?_eq_none_iff, ?_,
    ElementType.readEach_of_precheck⟩
  intro element before v after e hbefore hv
  rw [ParamType.fault?, List.findSome?_append, List.findSome?_eq_none_iff.mpr hbefore,
    List.findSome?_cons, hv]
  rfl

/-- A function of a list of texts and of any number of numbers is called with a keyword, on nothing,
on a list with a number in it, where the text that follows is wrong as well, and on what it takes. -/
theorem calls_on_texts_and_numbers :
    let sig : Signature := ⟨[.items .text], some .number⟩
    let body : sig.Body := fun texts numbers =>
      answer (.list (texts.map .string ++ numbers.map .number))
    sig.call body [] (.ofList [("k", .nil)]) = fail (.unexpectedKeyword "k") ∧
    sig.call body [] .empty = fail (.arity none 1 0) ∧
    sig.call body [.list [.string "a", .number 1], .number 2, .string "b"] .empty =
      fail (.expectedKind .string .number) ∧
    sig.call body [.list [.string "a"], .number 2] .empty =
      answer (.list [.string "a", .number 2]) := by
  intro sig body
  refine ⟨?_, ?_, ?_, ?_⟩
  · exact (typed_calls_check_first sig [] (.ofList [("k", .nil)])).1.keyword rfl body
  · exact (typed_calls_check_first sig [] .empty).1.count rfl (Nat.not_succ_le_zero 0) body
  · let wrong : Value := .list [.string "a", .number 1]
    obtain ⟨hchecks, _, hlist, _⟩ :=
      typed_calls_check_first sig [wrong, .number 2, .string "b"] .empty
    have hwrong : (ParamType.items .text).fault? wrong = some (.expectedKind .string .number) :=
      hlist .text [.string "a"] (.number 1) [] _ (List.forall_mem_singleton.mpr rfl) rfl
    have hzip : (Signature.types sig.rest sig.params 3).zip [wrong, .number 2, .string "b"] =
        [] ++ (.items .text, wrong) :: [(.number, .number 2), (.number, .string "b")] := rfl
    have hcount : Signature.Takes sig.rest sig.params 3 := Nat.le_add_left 1 2
    obtain ⟨_, hcall⟩ := hchecks.fault rfl hcount hzip (List.forall_mem_nil _) hwrong
    exact hcall body
  · obtain ⟨hchecks, _⟩ := typed_calls_check_first sig [.list [.string "a"], .number 2] .empty
    have hcount : Signature.Takes sig.rest sig.params 2 := Nat.le_add_left 1 1
    have hright : ∀ pair ∈ (Signature.types sig.rest sig.params 2).zip
        [.list [.string "a"], .number 2], pair.1.fault? pair.2 = none :=
      List.forall_mem_cons.mpr ⟨rfl, List.forall_mem_singleton.mpr rfl⟩
    obtain ⟨⟨texts, numbers⟩, hvalues, hcall⟩ := hchecks.applied rfl hcount hright
    obtain ⟨htexts, hnumbers⟩ := List.cons.inj hvalues
    have hpassed : sig.call body [.list [.string "a"], .number 2] .empty =
        answer (.list (texts.map .string ++ numbers.map .number)) := hcall body
    have htexts' : texts.map Value.string = [.string "a"] := Value.list.inj htexts
    have hnumbers' : numbers.map Value.number = [.number 2] := hnumbers
    rw [hpassed, htexts', hnumbers']
    rfl

end Homoiconic
