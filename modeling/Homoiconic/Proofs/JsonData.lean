import Homoiconic.Json.Conversion
import Homoiconic.Proofs.Bindings
import Homoiconic.Proofs.Equality

/-!
# Data and JSON data

Reading JSON data and writing it again gives what was read.  Writing a value as JSON data and
reading it again gives the value up to two things that JSON data does not have: the order of the
entries of a map, which equality does not see, and stacks, which become lists (`Value.listed`).
Both conversions refuse what they cannot convert, and nothing else: reading refuses numbers that are
not 64-bit integers, wherever they stand, and writing refuses code, however deep it lies in data.

Every statement is by induction along the parts.  The conversions go through the items of a list and
the entries of a map one by one and stop at the first that fails; if none fails, items and results
correspond one to one (`List.Forall₂`, with equal names for entries), and this is all the
inductions have to know about them.

Maps are where order comes in.  The members of an object are sorted, so writing a map sorts the
results of its entries, which is a permutation of them because the names are distinct; and reading
an object keeps the sorted order.  Equality of maps is by lookup, and lookup does not see a
permutation.
-/

namespace Homoiconic

universe u v w

/-! ## Traversals that may fail -/

section Traversals

variable {ε : Type u} {α : Type v} {β : Type w}

/-- A traversal succeeds if items and results correspond. -/
theorem mapM_eq_ok_iff {f : α → Except ε β} {as : List α} {bs : List β} :
    as.mapM f = .ok bs ↔ List.Forall₂ (fun a b => f a = .ok b) as bs := by
  induction as generalizing bs with
  | nil => cases bs <;> simp [pure, Except.pure]
  | cons a rest ih =>
    rw [List.mapM_cons]
    cases hfirst : f a with
    | error e => cases bs <;> simp [bind, Except.bind, hfirst]
    | ok b =>
      cases hrest : rest.mapM f with
      | error e => cases bs <;> simp [bind, Except.bind, ← ih, hrest, hfirst]
      | ok others => cases bs <;> simp [bind, Except.bind, pure, Except.pure, ← ih, hrest, hfirst]

theorem exists_forall₂_iff {r : α → β → Prop} {as : List α} :
    (∃ bs, List.Forall₂ r as bs) ↔ ∀ a ∈ as, ∃ b, r a b := by
  induction as with
  | nil => simp
  | cons a rest ih =>
    rw [List.forall_mem_cons, ← ih]
    constructor
    · rintro ⟨_, _ | ⟨hab, hrest⟩⟩
      exact ⟨⟨_, hab⟩, ⟨_, hrest⟩⟩
    · rintro ⟨⟨b, hab⟩, ⟨bs, hrest⟩⟩
      exact ⟨b :: bs, .cons hab hrest⟩

theorem exists_mem_of_forall₂ {r : α → β → Prop} {as : List α} {bs : List β}
    (h : List.Forall₂ r as bs) {b : β} (hb : b ∈ bs) : ∃ a ∈ as, r a b := by
  induction h with
  | nil => cases hb
  | cons hab _ ih =>
    rcases List.mem_cons.mp hb with rfl | hb
    · exact ⟨_, List.mem_cons_self, hab⟩
    · obtain ⟨a, ha, hab⟩ := ih hb
      exact ⟨a, List.mem_cons_of_mem _ ha, hab⟩

/-- Results that each exist can be collected. -/
theorem exists_between_of_forall₂ {γ : Type u} {r : β → γ → Prop} {s : α → γ → Prop} {as : List α}
    {bs : List β} (h : List.Forall₂ (fun a b => ∃ c, r b c ∧ s a c) as bs) :
    ∃ cs, List.Forall₂ r bs cs ∧ List.Forall₂ s as cs := by
  induction h with
  | nil => exact ⟨[], .nil, .nil⟩
  | cons hab _ ih =>
    obtain ⟨c, hr, hs⟩ := hab
    obtain ⟨cs, hrs, hss⟩ := ih
    exact ⟨c :: cs, .cons hr hrs, .cons hs hss⟩

end Traversals

/-! ## Entries under the same names -/

/-- Two entries have one name and related values. -/
def Keyed {α : Type v} {β : Type w} (r : α → β → Prop) (a : String × α) (b : String × β) : Prop :=
  a.1 = b.1 ∧ r a.2 b.2

section Keyed

variable {α : Type v} {β : Type w} {r : α → β → Prop} {as : List (String × α)}
  {bs : List (String × β)}

theorem keys_eq_of_keyed (h : List.Forall₂ (Keyed r) as bs) :
    as.map Prod.fst = bs.map Prod.fst := by
  induction h with
  | nil => rfl
  | cons hab _ ih => rw [List.map_cons, List.map_cons, hab.1, ih]

/-- A traversal of entries that keeps the names succeeds if the values correspond. -/
theorem mapM_keyed_eq_ok_iff {ε : Type u} {f : α → Except ε β} :
    (as.mapM fun a => (f a.2).map (a.1, ·)) = .ok bs ↔
      List.Forall₂ (Keyed fun x y => f x = .ok y) as bs := by
  have hkeyed (a : String × α) (b : String × β) :
      (f a.2).map (a.1, ·) = .ok b ↔ Keyed (fun x y => f x = .ok y) a b := by
    show _ ↔ a.1 = b.1 ∧ f a.2 = .ok b.2
    cases f a.2 <;> simp [Except.map, Prod.ext_iff]
  simp only [mapM_eq_ok_iff, hkeyed]

theorem exists_keyed_iff {a : String × α} : (∃ b, Keyed r a b) ↔ ∃ y, r a.2 y := by
  constructor
  · rintro ⟨b, _, hab⟩
    exact ⟨b.2, hab⟩
  · rintro ⟨y, hy⟩
    exact ⟨(a.1, y), rfl, hy⟩

end Keyed

/-! ## The parts of JSON data -/

namespace Json

/-- The items of an array and the values of the members of an object. -/
def parts : Json → List Json
  | .array items => items
  | .object members => members.map Prod.snd
  | _ => []

/-- The number that JSON data is, if it is one. -/
def number? : Json → Option JsonNumber
  | .number n => some n
  | _ => none

/-- The members of JSON data, if it is an object. -/
def members? : Json → Option (List (String × Json))
  | .object members => some members
  | _ => none

theorem sizeOf_lt_of_mem_parts {j k : Json} (h : k ∈ j.parts) : sizeOf k < sizeOf j := by
  cases j with
  | array items =>
    have hitem := List.sizeOf_lt_of_mem (show k ∈ items from h)
    rw [array.sizeOf_spec]
    omega
  | object members =>
    obtain ⟨⟨key, k⟩, hmem, rfl⟩ := List.mem_map.mp h
    have hmember := List.sizeOf_lt_of_mem hmem
    rw [Prod.mk.sizeOf_spec] at hmember
    rw [object.sizeOf_spec]
    show sizeOf k < 1 + sizeOf members
    omega
  | _ => cases h

/-- Induction along the parts. -/
theorem induction_on_parts {motive : Json → Prop}
    (step : ∀ j, (∀ k ∈ j.parts, motive k) → motive j) (j : Json) : motive j :=
  step j fun k hk =>
    have := sizeOf_lt_of_mem_parts hk
    induction_on_parts step k
termination_by sizeOf j

/-- Every number in the data is a 64-bit integer with sign. -/
def Integral (j : Json) : Prop :=
  Everywhere Json.parts (fun k => ∀ n ∈ k.number?, n.toInt64?.isSome = true) j

/-- Every object in the data lists its members sorted by key, each key once. -/
def Canonical (j : Json) : Prop :=
  Everywhere Json.parts (fun k => ∀ members ∈ k.members?, SortedEntries.Sorted members) j

theorem integral_leaf {j : Json} (hparts : j.parts = []) (hnumber : j.number? = none) :
    j.Integral := by
  rw [Integral, everywhere_iff, hparts, hnumber]
  simp

theorem integral_number {n : JsonNumber} : (number n).Integral ↔ n.toInt64?.isSome = true := by
  rw [Integral, everywhere_iff]
  simp [number?, parts]

theorem integral_array {items : List Json} :
    (array items).Integral ↔ ∀ j ∈ items, j.Integral := by
  rw [Integral, everywhere_iff]
  exact and_iff_right (by rintro _ ⟨⟩)

theorem integral_object {members : List (String × Json)} :
    (object members).Integral ↔ ∀ member ∈ members, member.2.Integral := by
  rw [Integral, everywhere_iff]
  exact (and_iff_right (by rintro _ ⟨⟩)).trans List.forall_mem_map

theorem canonical_leaf {j : Json} (hparts : j.parts = []) (hmembers : j.members? = none) :
    j.Canonical := by
  rw [Canonical, everywhere_iff, hparts, hmembers]
  simp

theorem canonical_array {items : List Json} :
    (array items).Canonical ↔ ∀ j ∈ items, j.Canonical := by
  rw [Canonical, everywhere_iff]
  exact and_iff_right (by rintro _ ⟨⟩)

theorem canonical_object {members : List (String × Json)} :
    (object members).Canonical ↔
      SortedEntries.Sorted members ∧ ∀ member ∈ members, member.2.Canonical := by
  rw [Canonical, everywhere_iff]
  refine and_congr ?_ List.forall_mem_map
  constructor
  · intro h
    exact h members rfl
  · rintro h _ ⟨⟩
    exact h

end Json

/-! ## Data -/

namespace Value

/-- Symbols, calls, quotes, functions, combinators and definitions are code. -/
def isCode : Value → Bool
  | .symbol _ | .call _ | .quote _ | .function _ | .combinator _ | .definition _ => true
  | _ => false

/-- No code occurs in the value, at any depth. -/
def IsData (v : Value) : Prop := Everywhere Value.parts (fun w => w.isCode = false) v

theorem isData_leaf {v : Value} (hcode : v.isCode = false) (hparts : v.parts = []) : v.IsData := by
  rw [IsData, everywhere_iff, hparts]
  simp [hcode]

theorem isData_list {items : List Value} : (Value.list items).IsData ↔ ∀ v ∈ items, v.IsData := by
  rw [IsData, everywhere_iff]
  exact and_iff_right rfl

theorem isData_stack {s : Stack Value} :
    (Value.stack s).IsData ↔ (Value.list s.toList).IsData := by
  rw [isData_list, IsData, everywhere_iff]
  exact and_iff_right rfl

theorem isData_map {m : Keywords Value} :
    (Value.map m).IsData ↔ ∀ entry ∈ m.entries, entry.2.IsData := by
  rw [IsData, everywhere_iff]
  exact (and_iff_right rfl).trans List.forall_mem_map

mutual

/-- Data with lists in place of stacks, the bottom of a stack first. -/
def listed : Value → Value
  | .list items => .list (listedEach items)
  | .map ⟨entries⟩ => .map ⟨listedEntries entries⟩
  | .stack ⟨chain⟩ => .list (listedChain chain [])
  | v => v
termination_by structural v => v

/-- The items, each with lists in place of stacks. -/
def listedEach : List Value → List Value
  | [] => []
  | v :: rest => listed v :: listedEach rest

/-- The entries, each with lists in place of stacks. -/
def listedEntries : List (String × Value) → List (String × Value)
  | [] => []
  | (key, v) :: rest => (key, listed v) :: listedEntries rest

/-- The elements of a chain, each with lists in place of stacks, the deepest first, in front of
others. -/
def listedChain : {n : Nat} → Chain Value n → List Value → List Value
  | _, .nil, above => above
  | _, .cons v rest, above => listedChain rest (listed v :: above)

end

theorem listedEach_eq_map (items : List Value) : listedEach items = items.map listed := by
  induction items with
  | nil => rfl
  | cons v rest ih => rw [listedEach, ih, List.map_cons]

theorem listedEntries_eq_map (entries : List (String × Value)) :
    listedEntries entries = entries.map fun entry => (entry.1, listed entry.2) := by
  induction entries with
  | nil => rfl
  | cons entry rest ih =>
    obtain ⟨key, v⟩ := entry
    rw [listedEntries, ih, List.map_cons]

theorem listedChain_listedEach {n : Nat} (chain : Chain Value n) (above : List Value) :
    listedChain chain (listedEach above) = listedEach (chain.collect above) := by
  induction chain generalizing above with
  | nil => rfl
  | cons v rest ih => exact ih (v :: above)

/-- A stack is listed as the list of its elements. -/
theorem listed_stack (s : Stack Value) : listed (.stack s) = listed (.list s.toList) := by
  obtain ⟨chain⟩ := s
  rw [listed, listed]
  exact congrArg Value.list (listedChain_listedEach chain [])

theorem listed_map (m : Keywords Value) : listed (.map m) = .map (m.map listed) := by
  obtain ⟨entries⟩ := m
  rw [listed, listedEntries_eq_map]
  rfl

/-! ## Reading -/

section Reading

variable {j : Json} {v : Value}

theorem ofJsonEach_eq_mapM (items : List Json) : ofJsonEach items = items.mapM ofJson := by
  induction items with
  | nil => rfl
  | cons j rest ih =>
    rw [ofJsonEach, List.mapM_cons, ih]
    cases ofJson j with
    | error e => rfl
    | ok v => cases rest.mapM ofJson <;> rfl

theorem ofJsonMembers_eq_mapM (members : List (String × Json)) :
    ofJsonMembers members = members.mapM fun member => (ofJson member.2).map (member.1, ·) := by
  induction members with
  | nil => rfl
  | cons member rest ih =>
    obtain ⟨key, j⟩ := member
    rw [ofJsonMembers, List.mapM_cons, ih]
    cases ofJson j with
    | error e => rfl
    | ok v => cases rest.mapM fun member => (ofJson member.2).map (member.1, ·) <;> rfl

/-- An array is read item by item. -/
theorem ofJson_array_eq_ok_iff {items : List Json} :
    ofJson (.array items) = .ok v ↔
      ∃ vs, List.Forall₂ (fun j v => ofJson j = .ok v) items vs ∧ .list vs = v := by
  simp only [← mapM_eq_ok_iff, ← ofJsonEach_eq_mapM, ofJson]
  cases ofJsonEach items <;> simp

/-- An object is read member by member. -/
theorem ofJson_object_eq_ok_iff {members : List (String × Json)} :
    ofJson (.object members) = .ok v ↔
      ∃ entries, List.Forall₂ (Keyed fun j v => ofJson j = .ok v) members entries ∧
        .map (.ofList entries) = v := by
  simp only [← mapM_keyed_eq_ok_iff, ← ofJsonMembers_eq_mapM, ofJson]
  cases ofJsonMembers members <;> simp

/-- **Reading succeeds exactly if every number is a 64-bit integer.** -/
theorem exists_ofJson_iff : (∃ v, ofJson j = .ok v) ↔ j.Integral := by
  induction j using Json.induction_on_parts with
  | step j ih =>
    cases j with
    | null => exact ⟨fun _ => Json.integral_leaf rfl rfl, fun _ => ⟨_, rfl⟩⟩
    | bool b => exact ⟨fun _ => Json.integral_leaf rfl rfl, fun _ => ⟨_, rfl⟩⟩
    | string text => exact ⟨fun _ => Json.integral_leaf rfl rfl, fun _ => ⟨_, rfl⟩⟩
    | number n =>
      rw [Json.integral_number, ofJson]
      cases n.toInt64? <;> simp
    | array items =>
      rw [Json.integral_array]
      calc (∃ v, ofJson (.array items) = .ok v)
        _ ↔ ∃ vs, List.Forall₂ (fun j v => ofJson j = .ok v) items vs := by
          simp [ofJson_array_eq_ok_iff]
        _ ↔ ∀ k ∈ items, ∃ v, ofJson k = .ok v := exists_forall₂_iff
        _ ↔ ∀ k ∈ items, k.Integral := forall₂_congr ih
    | object members =>
      rw [Json.integral_object]
      calc (∃ v, ofJson (.object members) = .ok v)
        _ ↔ ∃ entries, List.Forall₂ (Keyed fun j v => ofJson j = .ok v) members entries := by
          simp [ofJson_object_eq_ok_iff]
        _ ↔ ∀ member ∈ members, ∃ v, ofJson member.2 = .ok v := by
          simp only [exists_forall₂_iff, exists_keyed_iff]
        _ ↔ ∀ member ∈ members, member.2.Integral :=
          forall₂_congr fun member hmember => ih _ (List.mem_map_of_mem hmember)

/-- **What is read is data.** -/
theorem isData_of_ofJson (h : ofJson j = .ok v) : v.IsData := by
  induction j using Json.induction_on_parts generalizing v with
  | step j ih =>
    cases j with
    | null | bool | string =>
      cases h
      exact isData_leaf rfl rfl
    | number n =>
      rw [ofJson] at h
      split at h <;> cases h
      exact isData_leaf rfl rfl
    | array items =>
      obtain ⟨vs, hvs, rfl⟩ := ofJson_array_eq_ok_iff.mp h
      refine isData_list.mpr fun w hw => ?_
      obtain ⟨k, hk, hread⟩ := exists_mem_of_forall₂ hvs hw
      exact ih k hk hread
    | object members =>
      obtain ⟨entries, hentries, rfl⟩ := ofJson_object_eq_ok_iff.mp h
      refine isData_map.mpr fun entry hentry => ?_
      have hvalue := Keywords.mem_of_mem_values_ofList (List.mem_map_of_mem hentry)
      obtain ⟨entry', hmem, heq⟩ := List.mem_map.mp hvalue
      obtain ⟨member, hmember, _, hread⟩ := exists_mem_of_forall₂ hentries hmem
      rw [← heq]
      exact ih _ (List.mem_map_of_mem hmember) hread

end Reading

/-! ## Writing -/

section Writing

variable {v w : Value} {j : Json}

theorem toJsonEach_eq_mapM (items : List Value) : toJsonEach items = items.mapM toJson := by
  induction items with
  | nil => rfl
  | cons v rest ih =>
    rw [toJsonEach, List.mapM_cons, ih]
    cases toJson v with
    | error e => rfl
    | ok j => cases rest.mapM toJson <;> rfl

theorem toJsonMembers_eq_mapM (entries : List (String × Value)) :
    toJsonMembers entries = entries.mapM fun entry => (toJson entry.2).map (entry.1, ·) := by
  induction entries with
  | nil => rfl
  | cons entry rest ih =>
    obtain ⟨key, v⟩ := entry
    rw [toJsonMembers, List.mapM_cons, ih]
    cases toJson v with
    | error e => rfl
    | ok j => cases rest.mapM fun entry => (toJson entry.2).map (entry.1, ·) <;> rfl

theorem toJsonChain_toJsonEach {n : Nat} (chain : Chain Value n) (above : List Value) :
    toJsonChain chain (toJsonEach above) = toJsonEach (chain.collect above) := by
  induction chain generalizing above with
  | nil => rfl
  | cons v rest ih => exact ih (v :: above)

/-- A stack is written as the list of its elements. -/
theorem toJson_stack (s : Stack Value) : toJson (.stack s) = toJson (.list s.toList) := by
  obtain ⟨chain⟩ := s
  have hchain : toJsonChain chain (.ok []) = toJsonEach (Stack.toList ⟨chain⟩) :=
    toJsonChain_toJsonEach chain []
  rw [toJson, toJson, hchain]

/-- A list is written item by item. -/
theorem toJson_list_eq_ok_iff {items : List Value} :
    toJson (.list items) = .ok j ↔
      ∃ js, List.Forall₂ (fun v j => toJson v = .ok j) items js ∧ .array js = j := by
  simp only [← mapM_eq_ok_iff, ← toJsonEach_eq_mapM, toJson]
  cases toJsonEach items <;> simp

/-- A map is written entry by entry. -/
theorem toJson_map_eq_ok_iff {m : Keywords Value} :
    toJson (.map m) = .ok j ↔
      ∃ members, List.Forall₂ (Keyed fun v j => toJson v = .ok j) m.entries members ∧
        .ofMembers members = j := by
  obtain ⟨entries⟩ := m
  simp only [← mapM_keyed_eq_ok_iff, ← toJsonMembers_eq_mapM, toJson]
  cases toJsonMembers entries <;> simp

/-- Code is refused. -/
theorem toJson_of_isCode (h : v.isCode = true) : toJson v = .error (.notData v) := by
  cases v <;> first | rfl | cases h

/-- **Writing succeeds exactly on data.** -/
theorem exists_toJson_iff : (∃ j, toJson v = .ok j) ↔ v.IsData := by
  induction v using induction_on_parts with
  | step v ih =>
    have hlist (items : List Value) (ih : ∀ w ∈ items, (∃ j, toJson w = .ok j) ↔ w.IsData) :
        (∃ j, toJson (.list items) = .ok j) ↔ (Value.list items).IsData :=
      calc (∃ j, toJson (.list items) = .ok j)
        _ ↔ ∃ js, List.Forall₂ (fun v j => toJson v = .ok j) items js := by
          simp [toJson_list_eq_ok_iff]
        _ ↔ ∀ w ∈ items, ∃ j, toJson w = .ok j := exists_forall₂_iff
        _ ↔ ∀ w ∈ items, w.IsData := forall₂_congr ih
        _ ↔ (Value.list items).IsData := isData_list.symm
    cases v with
    | nil => exact ⟨fun _ => isData_leaf rfl rfl, fun _ => ⟨_, rfl⟩⟩
    | bool b => exact ⟨fun _ => isData_leaf rfl rfl, fun _ => ⟨_, rfl⟩⟩
    | number n => exact ⟨fun _ => isData_leaf rfl rfl, fun _ => ⟨_, rfl⟩⟩
    | string text => exact ⟨fun _ => isData_leaf rfl rfl, fun _ => ⟨_, rfl⟩⟩
    | list items => exact hlist items ih
    | stack s =>
      rw [toJson_stack, isData_stack]
      exact hlist s.toList ih
    | map m =>
      calc (∃ j, toJson (.map m) = .ok j)
        _ ↔ ∃ members, List.Forall₂ (Keyed fun v j => toJson v = .ok j) m.entries members := by
          simp [toJson_map_eq_ok_iff]
        _ ↔ ∀ entry ∈ m.entries, ∃ j, toJson entry.2 = .ok j := by
          simp only [exists_forall₂_iff, exists_keyed_iff]
        _ ↔ ∀ entry ∈ m.entries, entry.2.IsData :=
          forall₂_congr fun entry hentry => ih _ (List.mem_map_of_mem hentry)
        _ ↔ (Value.map m).IsData := isData_map.symm
    | symbol | call | quote | function | combinator | definition =>
      constructor
      · rintro ⟨j, h⟩
        rw [toJson_of_isCode rfl] at h
        cases h
      · intro h
        cases h.here

end Writing

/-! ## Reading, then writing -/

/-- **What was read is written back as it was.** -/
theorem toJson_ofJson {j : Json} {v : Value} (hj : j.Canonical) (h : ofJson j = .ok v) :
    toJson v = .ok j := by
  induction j using Json.induction_on_parts generalizing v with
  | step j ih =>
    cases j with
    | null | bool | string =>
      cases h
      rfl
    | number n =>
      cases n with
      | signed k =>
        cases h
        rfl
      | unsigned | double => cases h
    | array items =>
      obtain ⟨vs, hvs, rfl⟩ := ofJson_array_eq_ok_iff.mp h
      have hwritten : List.Forall₂ (fun v j => toJson v = .ok j) vs items :=
        (forall₂_imp_of_mem hvs fun k hk v _ hread =>
          ih k hk (Json.canonical_array.mp hj k hk) hread).flip
      exact toJson_list_eq_ok_iff.mpr ⟨items, hwritten, rfl⟩
    | object members =>
      obtain ⟨hsorted, hvalues⟩ := Json.canonical_object.mp hj
      obtain ⟨entries, hentries, rfl⟩ := ofJson_object_eq_ok_iff.mp h
      have hnodup : (entries.map Prod.fst).Nodup := by
        rw [← keys_eq_of_keyed hentries]
        exact SortedEntries.nodup_keys_of_sorted hsorted
      have hwritten : List.Forall₂ (Keyed fun v j => toJson v = .ok j) entries members :=
        (forall₂_imp_of_mem hentries fun member hmember entry _ hread =>
          ⟨hread.1.symm, ih _ (List.mem_map_of_mem hmember) (hvalues member hmember) hread.2⟩).flip
      rw [Keywords.ofList_of_nodup hnodup]
      refine toJson_map_eq_ok_iff.mpr ⟨members, hwritten, ?_⟩
      rw [Json.ofMembers, SortedEntries.ofList_of_sorted hsorted]

/-! ## Writing, then reading -/

section WrittenMaps

variable {m : Keywords Value} {members : List (String × Json)}

theorem nodup_written (hm : m.Distinct)
    (hmembers : List.Forall₂ (Keyed fun v j => toJson v = .ok j) m.entries members) :
    (members.map Prod.fst).Nodup := by
  rw [← keys_eq_of_keyed hmembers]
  exact hm

/-- What a written map lists: what its names find, written. -/
theorem mem_written_iff (hm : m.Distinct)
    (hmembers : List.Forall₂ (Keyed fun v j => toJson v = .ok j) m.entries members) {key : String}
    {j : Json} :
    (key, j) ∈ SortedEntries.ofList members ↔ ∃ v, m.get? key = some v ∧ toJson v = .ok j := by
  rw [(SortedEntries.perm_ofList (nodup_written hm hmembers)).mem_iff]
  constructor
  · intro hmem
    obtain ⟨⟨key', v⟩, hentry, hkey, hwrite⟩ := exists_mem_of_forall₂ hmembers hmem
    obtain rfl : key' = key := hkey
    exact ⟨v, (Keywords.lookup_eq_some_iff_mem hm).mpr hentry, hwrite⟩
  · rintro ⟨v, hfind, hwrite⟩
    have hentry := (Keywords.lookup_eq_some_iff_mem hm).mp hfind
    obtain ⟨⟨key', j'⟩, hmember, hkey, hwrite'⟩ := exists_mem_of_forall₂ hmembers.flip hentry
    obtain rfl : key = key' := hkey
    obtain rfl : j = j' := Except.ok.inj (hwrite.symm.trans hwrite')
    exact hmember

theorem length_written (hm : m.Distinct)
    (hmembers : List.Forall₂ (Keyed fun v j => toJson v = .ok j) m.entries members) :
    (SortedEntries.ofList members).length = m.entries.length := by
  rw [(SortedEntries.perm_ofList (nodup_written hm hmembers)).length_eq, hmembers.length_eq]

end WrittenMaps

/-- Data that is read back as a value, up to the order of entries. -/
def ReadsAs (j : Json) (v : Value) : Prop :=
  j.Canonical ∧ ∃ u, ofJson j = .ok u ∧ same u v = true

theorem readsAs_array {items : List Value} {js : List Json}
    (h : List.Forall₂ (fun v j => ReadsAs j v.listed) items js) :
    ReadsAs (.array js) (listed (.list items)) := by
  constructor
  · refine Json.canonical_array.mpr fun j hj => ?_
    obtain ⟨v, _, hv⟩ := exists_mem_of_forall₂ h hj
    exact hv.1
  · obtain ⟨us, hread, hsame⟩ := exists_between_of_forall₂ (h.imp fun _ _ hv => hv.2)
    refine ⟨.list us, ofJson_array_eq_ok_iff.mpr ⟨us, hread, rfl⟩, ?_⟩
    rw [listed, listedEach_eq_map, same, sameEach_iff, List.forall₂_map_right_iff]
    exact hsame.flip

theorem readsAs_object {m : Keywords Value} {members : List (String × Json)} (hm : m.Distinct)
    (hmembers : List.Forall₂ (Keyed fun v j => toJson v = .ok j) m.entries members)
    (hvalues : ∀ v ∈ m.values, ∀ j, toJson v = .ok j → ReadsAs j v.listed) :
    ReadsAs (.ofMembers members) (listed (.map m)) := by
  have hsorted := SortedEntries.sorted_ofList members
  have hreads : ∀ member ∈ SortedEntries.ofList members,
      ∃ v, m.get? member.1 = some v ∧ ReadsAs member.2 v.listed := by
    intro member hmember
    obtain ⟨v, hfind, hwrite⟩ := (mem_written_iff hm hmembers).mp hmember
    have hentry := (Keywords.lookup_eq_some_iff_mem hm).mp hfind
    exact ⟨v, hfind, hvalues v (List.mem_map_of_mem hentry) _ hwrite⟩
  constructor
  · refine Json.canonical_object.mpr ⟨hsorted, fun member hmember => ?_⟩
    obtain ⟨v, _, hv⟩ := hreads member hmember
    exact hv.1
  · have hreadable : ∀ member ∈ SortedEntries.ofList members,
        ∃ entry, Keyed (fun j v => ofJson j = .ok v) member entry := by
      intro member hmember
      obtain ⟨v, _, _, u, hread, _⟩ := hreads member hmember
      exact exists_keyed_iff.mpr ⟨u, hread⟩
    obtain ⟨entries, hentries⟩ := exists_forall₂_iff.mpr hreadable
    have hnodup : (entries.map Prod.fst).Nodup := by
      rw [← keys_eq_of_keyed hentries]
      exact SortedEntries.nodup_keys_of_sorted hsorted
    have hread : ofJson (.ofMembers members) = .ok (.map ⟨entries⟩) := by
      rw [← Keywords.ofList_of_nodup hnodup]
      exact ofJson_object_eq_ok_iff.mpr ⟨entries, hentries, rfl⟩
    have hdistinct : (m.map listed).Distinct := by
      rw [Keywords.Distinct, Keywords.keys_map]
      exact hm
    refine ⟨.map ⟨entries⟩, hread, ?_⟩
    rw [listed_map]
    refine same_of_alike (by rintro _ ⟨⟩; exact hdistinct) (.map ⟨?_, fun entry hentry => ?_⟩)
    · rw [← hentries.length_eq, length_written hm hmembers]
      exact (List.length_map _).symm
    · obtain ⟨member, hmember, hkey, hread⟩ := exists_mem_of_forall₂ hentries hentry
      obtain ⟨v, hfind, _, u, hread', hsame⟩ := hreads member hmember
      obtain rfl : u = entry.2 := Except.ok.inj (hread'.symm.trans hread)
      refine ⟨v.listed, ?_, hsame⟩
      have hfound := Keywords.get?_map listed m entry.1
      rw [← hkey, hfind] at hfound
      rw [← hkey]
      exact hfound

/-- **What is written is read back up to the order of entries, with lists in place of stacks.** -/
theorem readsAs_of_toJson {v : Value} {j : Json} (hv : v.WellKeyed) (h : toJson v = .ok j) :
    ReadsAs j v.listed := by
  induction v using induction_on_parts generalizing j with
  | step v ih =>
    have hlist (items : List Value) (h : toJson (.list items) = .ok j)
        (ih : ∀ w ∈ items, ∀ k, toJson w = .ok k → ReadsAs k w.listed) :
        ReadsAs j (listed (.list items)) := by
      obtain ⟨js, hjs, rfl⟩ := toJson_list_eq_ok_iff.mp h
      exact readsAs_array (forall₂_imp_of_mem hjs fun w hw k _ hwrite => ih w hw k hwrite)
    have hparts : ∀ w ∈ v.parts, ∀ k, toJson w = .ok k → ReadsAs k w.listed :=
      fun w hw k hwrite => ih w hw (hv.part w hw) hwrite
    cases v with
    | nil | bool | number | string =>
      cases h
      exact ⟨Json.canonical_leaf rfl rfl, _, rfl, same_self _⟩
    | list items => exact hlist items h hparts
    | stack s =>
      rw [toJson_stack] at h
      rw [listed_stack]
      exact hlist s.toList h hparts
    | map m =>
      obtain ⟨members, hmembers, rfl⟩ := toJson_map_eq_ok_iff.mp h
      exact readsAs_object (hv.distinct m rfl) hmembers hparts
    | symbol | call | quote | function | combinator | definition =>
      rw [toJson_of_isCode rfl] at h
      cases h

/-! ## Writing equal values -/

theorem toJson_list_congr {items items' : List Value}
    (h : List.Forall₂ (fun v w => toJson v = toJson w) items items') :
    toJson (.list items) = toJson (.list items') := by
  have heach : toJsonEach items = toJsonEach items' := by
    induction h with
    | nil => rfl
    | cons hvw _ ih => rw [toJsonEach, toJsonEach, hvw, ih]
  rw [toJson, toJson, heach]

theorem toJson_map_congr {m m' : Keywords Value} (hm : m.Distinct) (hm' : m'.Distinct)
    (hdata : (Value.map m).IsData) (hdata' : (Value.map m').IsData)
    (h : Keywords.Agree (fun v w => toJson v = toJson w) m.entries m'.entries) :
    toJson (.map m) = toJson (.map m') := by
  obtain ⟨j, hj⟩ := exists_toJson_iff.mpr hdata
  obtain ⟨j', hj'⟩ := exists_toJson_iff.mpr hdata'
  obtain ⟨members, hmembers, rfl⟩ := toJson_map_eq_ok_iff.mp hj
  obtain ⟨members', hmembers', rfl⟩ := toJson_map_eq_ok_iff.mp hj'
  have hlists : SortedEntries.ofList members = SortedEntries.ofList members' := by
    refine SortedEntries.eq_of_forall_mem_iff (SortedEntries.sorted_ofList _)
      (SortedEntries.sorted_ofList _) ?_
    rintro ⟨key, k⟩
    rw [mem_written_iff hm hmembers, mem_written_iff hm' hmembers', Keywords.get?, Keywords.get?]
    have hkey := h key
    generalize m.entries.lookup key = x, m'.entries.lookup key = y at hkey
    cases hkey with
    | none => rfl
    | some hvw => simp [hvw]
  rw [hj, hj', Json.ofMembers, Json.ofMembers, hlists]

/-- **Equal data is written alike.** -/
theorem toJson_eq_of_same {v w : Value} (hv : v.WellKeyed) (hw : w.WellKeyed) (hdata : v.IsData)
    (hdata' : w.IsData) (h : same v w = true) : toJson v = toJson w := by
  induction v using induction_on_parts generalizing w with
  | step v ih =>
    have halike : Alike (fun a b => toJson a = toJson b) v w :=
      (alike_of_same hw.distinct h).imp_of_mem fun a ha b hb hab =>
        ih a ha (hv.part a ha) (hw.part b hb) (hdata.part a ha) (hdata'.part b hb) hab
    cases halike with
    | nil | bool | number | string => rfl
    | list each => exact toJson_list_congr each
    | stack each =>
      rw [toJson_stack, toJson_stack]
      exact toJson_list_congr each
    | map found =>
      have hm := hv.distinct _ rfl
      have hm' := hw.distinct _ rfl
      exact toJson_map_congr hm hm' hdata hdata' ((Keywords.matches_iff_agree hm hm').mp found)
    | symbol | call | quote | function | explicit | positional | keyword | popping | phrase
    | definition => cases hdata.here

end Value

/-! ## The main result -/

/-- **JSON data and data correspond.**  JSON data is read exactly if every number in it is a 64-bit
integer; what is read is data, and is written back as it was.  A value is written exactly if it is
data; what is written is read back as an equal value, with lists in place of stacks; and equal data
is written alike. -/
theorem json_is_lossless_on_data :
    (∀ j : Json, (∃ v, Value.ofJson j = .ok v) ↔ j.Integral) ∧
      (∀ (j : Json) (v : Value), j.Canonical → Value.ofJson j = .ok v →
        v.IsData ∧ Value.toJson v = .ok j) ∧
      (∀ v : Value, (∃ j, Value.toJson v = .ok j) ↔ v.IsData) ∧
      (∀ (v : Value) (j : Json), v.WellKeyed → Value.toJson v = .ok j →
        j.Canonical ∧ ∃ u, Value.ofJson j = .ok u ∧ (u == v.listed) = true) ∧
      ∀ v w : Value, v.WellKeyed → w.WellKeyed → v.IsData → w.IsData → (v == w) = true →
        Value.toJson v = Value.toJson w := by
  simp only [Value.beq_eq_same]
  refine ⟨?_, ?_, ?_, ?_, ?_⟩
  · intro j
    exact Value.exists_ofJson_iff
  · intro j v hj h
    exact ⟨Value.isData_of_ofJson h, Value.toJson_ofJson hj h⟩
  · intro v
    exact Value.exists_toJson_iff
  · intro v j hv h
    exact Value.readsAs_of_toJson hv h
  · intro v w hv hw hdata hdata' h
    exact Value.toJson_eq_of_same hv hw hdata hdata' h

/-- A map in which a stack lies, with its entries in either order. -/
theorem json_of_reordered_maps :
    let v := Value.map (.ofList [("b", .stack (.ofList [.nil, .bool true])), ("a", .nil)])
    let w := Value.map (.ofList [("a", .nil), ("b", .stack (.ofList [.nil, .bool true]))])
    let j := Json.object [("a", .null), ("b", .array [.null, .bool true])]
    (v.WellKeyed ∧ w.WellKeyed) ∧ (v.IsData ∧ w.IsData) ∧ (v == w) = true ∧
      Value.toJson v = .ok j ∧ Value.toJson w = .ok j ∧
        ∃ u, Value.ofJson j = .ok u ∧ (u == v.listed) = true ∧ u.IsData ∧
          Value.toJson u = .ok j := by
  intro v w j
  have hnil : Value.nil.WellKeyed := Value.wellKeyed_leaf rfl rfl
  have hbool : (Value.bool true).WellKeyed := Value.wellKeyed_leaf rfl rfl
  have hstack : (Value.stack (.ofList [.nil, .bool true])).WellKeyed := by
    refine .intro (by rintro _ ⟨⟩) ?_
    exact List.forall_mem_cons.mpr ⟨hnil, List.forall_mem_singleton.mpr hbool⟩
  have hv : v.WellKeyed :=
    Value.wellKeyed_map (.ofList _)
      (List.forall_mem_cons.mpr ⟨hstack, List.forall_mem_singleton.mpr hnil⟩)
  have hw : w.WellKeyed :=
    Value.wellKeyed_map (.ofList _)
      (List.forall_mem_cons.mpr ⟨hnil, List.forall_mem_singleton.mpr hstack⟩)
  have hequal : (v == w) = true := by
    rw [Value.beq_eq_same]
    decide
  have hwrite : Value.toJson v = .ok j := rfl
  have hwrite' : Value.toJson w = .ok j := rfl
  obtain ⟨_, readWrite, written, writeRead, equal⟩ := json_is_lossless_on_data
  have hdata : v.IsData := (written v).mp ⟨j, hwrite⟩
  have hdata' : w.IsData := (written w).mp ⟨j, hwrite'⟩
  obtain ⟨hcanonical, u, hread, hsame⟩ := writeRead v j hv hwrite
  obtain ⟨hudata, huwrite⟩ := readWrite j u hcanonical hread
  refine ⟨⟨hv, hw⟩, ⟨hdata, hdata'⟩, hequal, hwrite, ?_, u, hread, hsame, hudata, huwrite⟩
  rw [← equal v w hv hw hdata hdata' hequal]
  exact hwrite

end Homoiconic
