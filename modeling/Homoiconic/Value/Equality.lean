import Homoiconic.Value.Basic

/-!
# Equality of values

Two values are the same if they are built alike, with two provisos.

* Maps, and the named arguments of calls, are compared as maps: the order of the entries does not
  count.  Two maps are the same if they have equally many entries and every entry of the first is
  found in the second.  On maps with distinct keys this says that they agree at every key.
* Callables are compared by what they are, not by what they compute.  Built-in callables are the
  same if they have the same name in the catalogue; closures and natives if they carry the same
  identity.

The comparison runs down the first of its arguments.  Every value is equal to itself (`same_self`),
and among entries with distinct keys only the one that a key looks up counts
(`any_entry_eq_lookup`).
-/

namespace Homoiconic

namespace Operation

variable {α : Type}

/-- Whether two operations are one and the same. -/
def same : Operation α → Operation α → Bool
  | .primitive p, .primitive q => p == q
  | .append, .append => true
  | .closure c, .closure d => c.identity == d.identity
  | .native _ m, .native _ n => m == n
  | _, _ => false

theorem same_self (op : Operation α) : op.same op = true := by cases op <;> simp [same]

end Operation

namespace Expander

variable {α : Type}

/-- Whether two expanders are one and the same. -/
def same : Expander α → Expander α → Bool
  | .form f, .form g => f == g
  | .closure c, .closure d => c.identity == d.identity
  | .native _ m, .native _ n => m == n
  | _, _ => false

theorem same_self (e : Expander α) : e.same e = true := by cases e <;> simp [same]

end Expander

namespace StackOperation

/-- Whether two stack operations are one and the same. -/
def same : StackOperation → StackOperation → Bool
  | .word v, .word w => v == w
  | .native _ m, .native _ n => m == n
  | _, _ => false

theorem same_self (op : StackOperation) : op.same op = true := by cases op <;> simp [same]

end StackOperation

namespace Function

variable {α : Type}

/-- Whether two functions have the same name and the same callable. -/
def same (f g : Function α) : Bool :=
  f.name == g.name &&
    match f.callable, g.callable with
    | .plain o, .plain p => o.same p
    | .expander d, .expander e => d.same e
    | _, _ => false

theorem same_self (f : Function α) : f.same f = true := by
  obtain ⟨_, callable⟩ := f
  cases callable with
  | plain op => simp [same, op.same_self]
  | expander e => simp [same, e.same_self]

end Function

namespace Value

mutual

/-- Whether two values are equal. -/
def same : Value → Value → Bool
  | .nil, .nil => true
  | .bool a, .bool b => a == b
  | .number a, .number b => a == b
  | .string a, .string b => a == b
  | .list a, .list b => sameEach a b
  | .map ⟨a⟩, .map ⟨b⟩ => a.length == b.length && foundIn a b
  | .symbol a, .symbol b => a == b
  | .call ⟨t, ps, ⟨ns⟩⟩, .call ⟨t', ps', ⟨ns'⟩⟩ =>
    same t t' && sameEach ps ps' && (ns.length == ns'.length && foundIn ns ns')
  | .quote a, .quote b => same a b
  | .function f, .function g => f.same g
  | .combinator (.explicit m o), .combinator (.explicit n p) => m == n && o.same p
  | .combinator (.positional m o), .combinator (.positional n p) => m == n && o.same p
  | .combinator (.keyword m o), .combinator (.keyword n p) => m == n && o.same p
  | .combinator (.popping m j o), .combinator (.popping n k p) => m == n && (j == k && o.same p)
  | .combinator (.phrase ⟨m, a⟩), .combinator (.phrase ⟨n, b⟩) => m == n && sameEach a b
  | .definition ⟨a, c, l, u⟩, .definition ⟨b, c', l', u'⟩ =>
    c == c' && l == l' && u == u' && sameEach a b
  | .stack ⟨a⟩, .stack ⟨b⟩ => sameChain a b
  | _, _ => false
termination_by structural v => v

/-- Whether two lists are equal element by element. -/
def sameEach : List Value → List Value → Bool
  | [], [] => true
  | a :: as, b :: bs => same a b && sameEach as bs
  | _, _ => false

/-- Whether every entry of the first list is found in the second. -/
def foundIn : List (String × Value) → List (String × Value) → Bool
  | [], _ => true
  | (key, v) :: rest, entries =>
    (entries.any fun entry => entry.1 == key && same v entry.2) && foundIn rest entries

/-- Whether two chains are equal element by element. -/
def sameChain : {m n : Nat} → Chain Value m → Chain Value n → Bool
  | _, _, .nil, .nil => true
  | _, _, .cons v rest, .cons w under => same v w && sameChain rest under
  | _, _, _, _ => false

end

/-! ## A value equals itself -/

mutual

/-- **Equality is reflexive.** -/
theorem same_self : ∀ v : Value, same v v = true
  | .nil => by simp [same]
  | .bool _ => by simp [same]
  | .number _ => by simp [same]
  | .string _ => by simp [same]
  | .list items => by simp [same, sameEach_self items]
  | .map ⟨entries⟩ => by simp [same, foundIn_of_subset entries fun _ h => h]
  | .symbol _ => by simp [same]
  | .call ⟨target, positional, ⟨named⟩⟩ => by
    simp [same, same_self target, sameEach_self positional, foundIn_of_subset named fun _ h => h]
  | .quote inner => by simp [same, same_self inner]
  | .function f => by simp [same, f.same_self]
  | .combinator (.explicit _ op) => by simp [same, op.same_self]
  | .combinator (.positional _ op) => by simp [same, op.same_self]
  | .combinator (.keyword _ op) => by simp [same, op.same_self]
  | .combinator (.popping _ _ op) => by simp [same, op.same_self]
  | .combinator (.phrase ⟨_, program⟩) => by simp [same, sameEach_self program]
  | .definition ⟨program, _, _, _⟩ => by simp [same, sameEach_self program]
  | .stack ⟨chain⟩ => by simp [same, sameChain_self chain]

/-- A list equals itself element by element. -/
theorem sameEach_self : ∀ items : List Value, sameEach items items = true
  | [] => by simp [sameEach]
  | v :: rest => by simp [sameEach, same_self v, sameEach_self rest]

/-- Entries are found among themselves and others. -/
theorem foundIn_of_subset {entries : List (String × Value)} :
    ∀ part : List (String × Value), (∀ entry ∈ part, entry ∈ entries) →
      foundIn part entries = true
  | [], _ => by simp [foundIn]
  | (key, v) :: rest, h => by
    rw [foundIn, Bool.and_eq_true, List.any_eq_true]
    exact ⟨⟨(key, v), h _ List.mem_cons_self, by simp [same_self v]⟩,
      foundIn_of_subset rest fun entry he => h entry (List.mem_cons_of_mem _ he)⟩

/-- A chain equals itself element by element. -/
theorem sameChain_self : ∀ {n : Nat} (chain : Chain Value n), sameChain chain chain = true
  | _, .nil => by simp [sameChain]
  | _, .cons v rest => by simp [sameChain, same_self v, sameChain_self rest]

end

/-! ## Entries under distinct keys -/

/-- Among entries with distinct keys the only candidate for an equal entry is the one that the key
looks up. -/
theorem any_entry_eq_lookup (p : Value → Bool) (key : String) {entries : List (String × Value)}
    (h : (entries.map Prod.fst).Nodup) :
    (entries.any fun entry => entry.1 == key && p entry.2) = (entries.lookup key).any p := by
  induction entries with
  | nil => rfl
  | cons entry rest ih =>
    obtain ⟨k, v⟩ := entry
    rw [List.map_cons, List.nodup_cons] at h
    rw [List.any_cons, List.lookup_cons, ih h.2]
    by_cases hk : k = key
    · subst hk
      have hnone : rest.lookup k = none :=
        List.lookup_eq_none_iff.mpr fun entry he =>
          bne_iff_ne.mpr fun hkey => h.1 (List.mem_map.mpr ⟨entry, he, hkey.symm⟩)
      simp [hnone]
    · have hne : (k == key) = false := beq_eq_false_iff_ne.mpr hk
      have hne' : (key == k) = false := beq_eq_false_iff_ne.mpr (Ne.symm hk)
      simp [hne, hne']

end Value

end Homoiconic
