import Homoiconic.Stack.Lemmas
import Homoiconic.Value.Basic

/-!
# The parts of a value

A value is made of parts: the items of a list, the entries of a map, the target and the arguments of
a call, the program of a definition.  The parts of a closure are its body and its defaults; the
scope it captures is no part of it, because a scope is a number and what it binds changes.  `parts`
lists the immediate parts, and `Value.induction_on_parts` is induction along them.  What holds in
every part, of whatever depth, is said by `Everywhere`, for any trees that have parts.

Two things inside a value matter to what a run can touch: the scopes that its closures capture, and
the native operations on whole stacks that it carries.  `Within captures admits` says that every
closure in a value, however deep, captures a scope that satisfies `captures`, and that every native
stack operation in it satisfies `admits`.  It is an inductive predicate with one rule, so that a
proof about it follows the parts and not the shapes of values (`within_iff`); the simp lemmas below
read it off each shape.
-/

namespace Homoiconic

universe u

variable {α : Type u}

/-! ## What holds everywhere in a tree -/

/-- A property holds of a tree, of its parts, of their parts, and so on. -/
inductive Everywhere (parts : α → List α) (p : α → Prop) : α → Prop
  | intro {a : α} (here : p a) (part : ∀ b ∈ parts a, Everywhere parts p b) : Everywhere parts p a

section Everywhere

variable {parts : α → List α} {p : α → Prop} {a : α}

theorem everywhere_iff :
    Everywhere parts p a ↔ p a ∧ ∀ b ∈ parts a, Everywhere parts p b :=
  ⟨fun ⟨here, part⟩ => ⟨here, part⟩, fun ⟨here, part⟩ => ⟨here, part⟩⟩

theorem Everywhere.here (h : Everywhere parts p a) : p a := (everywhere_iff.mp h).1

theorem Everywhere.part (h : Everywhere parts p a) : ∀ b ∈ parts a, Everywhere parts p b :=
  (everywhere_iff.mp h).2

end Everywhere

/-! ## Closures inside callables -/

/-- The body and the defaults of a closure. -/
def Closure.parts (c : Closure α) : List α := c.params.optional.map Prod.snd ++ c.body

/-- The closure that an operation calls, if it calls one. -/
def Operation.closure? : Operation α → Option (Closure α)
  | .closure c => some c
  | _ => none

/-- The closure that an expander calls, if it calls one. -/
def Expander.closure? : Expander α → Option (Closure α)
  | .closure c => some c
  | _ => none

/-- The closure that a callable calls, if it calls one. -/
def Callable.closure? : Callable α → Option (Closure α)
  | .plain op => op.closure?
  | .expander e => e.closure?

/-- The operation that a combinator applies to arguments, if it applies one. -/
def Combinator.operation? : Combinator α → Option (Operation α)
  | .positional _ op | .keyword _ op | .popping _ _ op => some op
  | .explicit _ _ | .phrase _ => none

namespace Value

/-! ## Immediate parts -/

/-- The closure that a value is, if it is one. -/
def closure? : Value → Option (Closure Value)
  | .function f => f.callable.closure?
  | .combinator c => c.operation?.bind Operation.closure?
  | _ => none

/-- The scope that a value captures, if it is a closure. -/
def captured? (v : Value) : Option ScopeId := v.closure?.map Closure.scope

/-- The native operation on whole stacks that a value is, if it is one. -/
def native? : Value → Option StackNative
  | .combinator (.explicit _ (.native native _)) => some native
  | _ => none

/-- The immediate parts of a value. -/
def parts (v : Value) : List Value :=
  match v with
  | .list items => items
  | .map entries => entries.values
  | .call node => node.target :: (node.positional ++ node.named.values)
  | .quote inner => [inner]
  | .definition d => d.program
  | .stack s => s.toList
  | .combinator (.phrase p) => p.program
  | v => (v.closure?.map Closure.parts).getD []

/-! ## Induction along the parts -/

theorem sizeOf_lt_of_mem_values {v : Value} {m : Keywords Value} (h : v ∈ m.values) :
    sizeOf v < sizeOf m := by
  obtain ⟨entries⟩ := m
  obtain ⟨⟨key, w⟩, hmem, rfl⟩ := List.mem_map.mp h
  have hentry := List.sizeOf_lt_of_mem hmem
  simp only [Keywords.mk.sizeOf_spec, Prod.mk.sizeOf_spec] at hentry ⊢
  omega

theorem sizeOf_lt_of_mem_chain {n : Nat} {chain : Chain Value n} {v : Value}
    (h : v ∈ (⟨chain⟩ : Stack Value).toList) : sizeOf v < sizeOf chain := by
  induction chain with
  | nil => simp [Stack.toList, Chain.collect] at h
  | cons w rest ih =>
    rw [show (⟨.cons w rest⟩ : Stack Value).toList = (⟨rest⟩ : Stack Value).toList ++ [w] from
      Stack.toList_push ⟨rest⟩ w, List.mem_append, List.mem_singleton] at h
    simp only [Chain.cons.sizeOf_spec]
    rcases h with h | rfl
    · have := ih h
      omega
    · omega

theorem sizeOf_lt_of_mem_closure {v : Value} {c : Closure Value} (h : v ∈ c.parts) :
    sizeOf v < sizeOf c := by
  obtain ⟨identity, ⟨required, optional, rest, extra⟩, body, scope⟩ := c
  simp only [Closure.parts, List.mem_append, List.mem_map] at h
  simp only [Closure.mk.sizeOf_spec, Params.mk.sizeOf_spec]
  rcases h with ⟨⟨name, w⟩, hmem, rfl⟩ | h
  · have hentry := List.sizeOf_lt_of_mem hmem
    simp only [Prod.mk.sizeOf_spec] at hentry ⊢
    omega
  · have := List.sizeOf_lt_of_mem h
    omega

theorem sizeOf_closure_lt {v : Value} {c : Closure Value} (h : v.closure? = some c) :
    sizeOf c < sizeOf v := by
  have hop : ∀ op : Operation Value, op.closure? = some c → sizeOf c < sizeOf op := by
    rintro (_ | _ | d | _) hd <;> simp_all [Operation.closure?]
  have hexp : ∀ e : Expander Value, e.closure? = some c → sizeOf c < sizeOf e := by
    rintro (_ | d | _) hd <;> simp_all [Expander.closure?]
  cases v with
  | function f =>
    obtain ⟨name, op | e⟩ := f
    · have := hop op h
      simp
      omega
    · have := hexp e h
      simp
      omega
  | combinator comb =>
    cases comb with
    | positional _ op | keyword _ op | popping _ _ op =>
      have := hop op h
      simp
      omega
    | explicit | phrase => simp [closure?, Combinator.operation?] at h
  | _ => simp [closure?] at h

/-- An immediate part is smaller than the value. -/
theorem sizeOf_lt_of_mem_parts {v w : Value} (h : w ∈ v.parts) : sizeOf w < sizeOf v := by
  have hclosure : w ∈ (v.closure?.map Closure.parts).getD [] → sizeOf w < sizeOf v := by
    intro h
    cases hc : v.closure? with
    | none => simp [hc] at h
    | some c =>
      rw [hc] at h
      exact Nat.lt_trans (sizeOf_lt_of_mem_closure h) (sizeOf_closure_lt hc)
  cases v with
  | list items =>
    have := List.sizeOf_lt_of_mem (show w ∈ items from h)
    simp
    omega
  | map entries =>
    have := sizeOf_lt_of_mem_values (show w ∈ entries.values from h)
    simp
    omega
  | call node =>
    obtain ⟨target, positional, named⟩ := node
    have hcases : w = target ∨ w ∈ positional ∨ w ∈ named.values := by simpa [parts] using h
    simp only [call.sizeOf_spec, CallNode.mk.sizeOf_spec]
    rcases hcases with rfl | h | h
    · omega
    · have := List.sizeOf_lt_of_mem h
      omega
    · have := sizeOf_lt_of_mem_values h
      omega
  | quote inner =>
    have hw : w = inner := by simpa [parts] using h
    subst hw
    simp
  | definition d =>
    obtain ⟨program, _, _, _⟩ := d
    have := List.sizeOf_lt_of_mem (show w ∈ program from h)
    simp
    omega
  | stack s =>
    obtain ⟨chain⟩ := s
    have := sizeOf_lt_of_mem_chain (show w ∈ (⟨chain⟩ : Stack Value).toList from h)
    simp
    omega
  | combinator c =>
    cases c with
    | phrase p =>
      obtain ⟨name, program⟩ := p
      have := List.sizeOf_lt_of_mem (show w ∈ program from h)
      simp
      omega
    | _ => exact hclosure h
  | _ => exact hclosure h

/-- **Induction along the parts**: what holds of a value as soon as it holds of its parts holds of
every value. -/
theorem induction_on_parts {motive : Value → Prop}
    (step : ∀ v, (∀ w ∈ v.parts, motive w) → motive v) (v : Value) : motive v :=
  step v fun w hw =>
    have := sizeOf_lt_of_mem_parts hw
    induction_on_parts step w
termination_by sizeOf v

/-! ## Values within bounds -/

section Within

variable {captures : ScopeId → Prop} {admits : StackNative → Prop}

/-- Every closure in a value captures a scope that satisfies `captures`, and every native stack
operation in it satisfies `admits`. -/
inductive Within (captures : ScopeId → Prop) (admits : StackNative → Prop) : Value → Prop
  | intro {v : Value} (captured : ∀ id ∈ v.captured?, captures id)
      (native : ∀ native ∈ v.native?, admits native)
      (parts : ∀ w ∈ v.parts, Within captures admits w) : Within captures admits v

theorem within_iff {v : Value} :
    v.Within captures admits ↔
      (∀ id ∈ v.captured?, captures id) ∧ (∀ native ∈ v.native?, admits native) ∧
        ∀ w ∈ v.parts, w.Within captures admits :=
  ⟨fun ⟨captured, native, parts⟩ => ⟨captured, native, parts⟩,
    fun ⟨captured, native, parts⟩ => ⟨captured, native, parts⟩⟩

/-- Weaker bounds admit more values. -/
theorem Within.mono {captures' : ScopeId → Prop} (hmono : ∀ id, captures id → captures' id)
    {v : Value} (h : v.Within captures admits) : v.Within captures' admits := by
  induction h with
  | intro captured native _ ih => exact ⟨fun id hid => hmono id (captured id hid), native, ih⟩

/-- Without bounds every value is within bounds. -/
theorem within_of_forall (hcaptures : ∀ id, captures id) (hadmits : ∀ native, admits native)
    (v : Value) : v.Within captures admits := by
  induction v using induction_on_parts with
  | step v ih => exact ⟨fun id _ => hcaptures id, fun native _ => hadmits native, ih⟩

end Within

end Value

/-- The closures that are within bounds: those whose scope and whose parts are. -/
def Closure.Within (captures : ScopeId → Prop) (admits : StackNative → Prop) (c : Closure Value) :
    Prop :=
  captures c.scope ∧ ∀ w ∈ c.parts, w.Within captures admits

namespace Value

/-! ## Reading the bounds off the shape of a value -/

section Shapes

variable {captures : ScopeId → Prop} {admits : StackNative → Prop}

/-- A value without parts that captures nothing is within all bounds. -/
theorem within_leaf {v : Value} (hcaptured : v.captured? = none) (hnative : v.native? = none)
    (hparts : v.parts = []) : v.Within captures admits := by
  rw [within_iff, hcaptured, hnative, hparts]
  simp

@[simp] theorem within_nil : Value.nil.Within captures admits := within_leaf rfl rfl rfl

@[simp] theorem within_bool (b : Bool) : (Value.bool b).Within captures admits :=
  within_leaf rfl rfl rfl

@[simp] theorem within_number (n : Int64) : (Value.number n).Within captures admits :=
  within_leaf rfl rfl rfl

@[simp] theorem within_string (s : String) : (Value.string s).Within captures admits :=
  within_leaf rfl rfl rfl

@[simp] theorem within_symbol (name : String) : (Value.symbol name).Within captures admits :=
  within_leaf rfl rfl rfl

@[simp] theorem within_list {items : List Value} :
    (Value.list items).Within captures admits ↔ ∀ v ∈ items, v.Within captures admits := by
  rw [within_iff]
  simp [captured?, closure?, native?, parts]

@[simp] theorem within_map {entries : Keywords Value} :
    (Value.map entries).Within captures admits ↔
      ∀ v ∈ entries.values, v.Within captures admits := by
  rw [within_iff]
  simp [captured?, closure?, native?, parts]

@[simp] theorem within_call {node : CallNode Value} :
    (Value.call node).Within captures admits ↔
      node.target.Within captures admits ∧ (∀ v ∈ node.positional, v.Within captures admits) ∧
        ∀ v ∈ node.named.values, v.Within captures admits := by
  rw [within_iff]
  simp [captured?, closure?, native?, parts, or_imp, forall_and]

@[simp] theorem within_quote {inner : Value} :
    (Value.quote inner).Within captures admits ↔ inner.Within captures admits := by
  rw [within_iff]
  simp [captured?, closure?, native?, parts]

@[simp] theorem within_stack {s : Stack Value} :
    (Value.stack s).Within captures admits ↔ ∀ v ∈ s.toList, v.Within captures admits := by
  rw [within_iff]
  simp [captured?, closure?, native?, parts]

@[simp] theorem within_definition {d : Definition Value} :
    (Value.definition d).Within captures admits ↔ ∀ v ∈ d.program, v.Within captures admits := by
  rw [within_iff]
  simp [captured?, closure?, native?, parts]

@[simp] theorem within_phrase {p : Phrase Value} :
    (Value.combinator (.phrase p)).Within captures admits ↔
      ∀ v ∈ p.program, v.Within captures admits := by
  rw [within_iff]
  simp [captured?, closure?, native?, parts, Combinator.operation?]

@[simp] theorem within_word (name : String) (w : Word) :
    (Value.combinator (.explicit name (.word w))).Within captures admits := within_leaf rfl rfl rfl

@[simp] theorem within_native {name : String} {native : StackNative} {identity : Nat} :
    (Value.combinator (.explicit name (.native native identity))).Within captures admits ↔
      admits native := by
  rw [within_iff]
  simp [captured?, closure?, native?, parts, Combinator.operation?]

/-- A value that calls a closure is within bounds exactly if the closure is. -/
theorem within_iff_closure {v : Value} (hnative : v.native? = none)
    (hparts : v.parts = (v.closure?.map Closure.parts).getD []) :
    v.Within captures admits ↔ ∀ c ∈ v.closure?, c.Within captures admits := by
  rw [within_iff, hnative, hparts, captured?]
  cases v.closure? <;> simp [Closure.Within]

@[simp] theorem within_function {f : Function Value} :
    (Value.function f).Within captures admits ↔
      ∀ c ∈ f.callable.closure?, c.Within captures admits := within_iff_closure rfl rfl

@[simp] theorem within_positional {name : String} {op : Operation Value} :
    (Value.combinator (.positional name op)).Within captures admits ↔
      ∀ c ∈ op.closure?, c.Within captures admits := within_iff_closure rfl rfl

@[simp] theorem within_keyword {name : String} {op : Operation Value} :
    (Value.combinator (.keyword name op)).Within captures admits ↔
      ∀ c ∈ op.closure?, c.Within captures admits := within_iff_closure rfl rfl

@[simp] theorem within_popping {name : String} {count : Nat} {op : Operation Value} :
    (Value.combinator (.popping name count op)).Within captures admits ↔
      ∀ c ∈ op.closure?, c.Within captures admits := within_iff_closure rfl rfl

/-- A value that evaluates to one within bounds. -/
theorem within_protect {v : Value} (h : v.Within captures admits) :
    v.protect.Within captures admits := by
  unfold protect
  split
  · exact within_quote.mpr h
  · exact h

end Shapes

end Value

end Homoiconic
