/-!
# Keyword maps

A keyword map is a finite map from names to values that remembers the order in which its names
first appeared.  The named arguments of a call, the keyword layer of a stack program, the bindings
of a scope and map values are all keyword maps.

The map is kept as the list of its entries.  Inserting a name that is already present replaces the
value where it stands; a new name goes to the end.  Nothing else ever adds an entry, so the keys of
a map built by `insert`, `erase` and `ofList` are distinct (`distinct_insert`, `distinct_erase`,
`distinct_ofList`).  The type does not carry this invariant, because values contain keyword maps of
values; statements that need it take `Distinct` as a hypothesis.
-/

namespace Homoiconic

universe u v

/-- A finite map from names to values, listed in the order in which the names first appeared. -/
structure Keywords (α : Type u) where
  /-- The entries, oldest name first. -/
  entries : List (String × α)

namespace Keywords

variable {α : Type u} {β : Type v}

/-! ## Reading -/

/-- The map without entries. -/
def empty : Keywords α := ⟨[]⟩

/-- The number of entries. -/
def size (m : Keywords α) : Nat := m.entries.length

/-- Whether there is no entry. -/
def isEmpty (m : Keywords α) : Bool := m.entries.isEmpty

/-- The names, in order. -/
def keys (m : Keywords α) : List String := m.entries.map Prod.fst

/-- The values, in the order of their names. -/
def values (m : Keywords α) : List α := m.entries.map Prod.snd

/-- The value of `key`, if there is an entry for it. -/
def get? (m : Keywords α) (key : String) : Option α := m.entries.lookup key

/-- Whether there is an entry for `key`. -/
def contains (m : Keywords α) (key : String) : Bool := (m.get? key).isSome

/-- The first name of the map.  A callable that refuses keyword arguments reports this one. -/
def firstKey? (m : Keywords α) : Option String := m.keys.head?

/-- No name has two entries. -/
def Distinct (m : Keywords α) : Prop := m.keys.Nodup

/-! ## Writing -/

/-- Put a value at the first entry for `key`, or at the end. -/
def put (key : String) (value : α) : List (String × α) → List (String × α)
  | [] => [(key, value)]
  | (k, v) :: rest => if k = key then (k, value) :: rest else (k, v) :: put key value rest

/-- Leave out the first entry for `key`. -/
def cut (key : String) : List (String × α) → List (String × α)
  | [] => []
  | (k, v) :: rest => if k = key then rest else (k, v) :: cut key rest

/-- Bind `key` to `value`.  A name that is already bound keeps its place. -/
def insert (m : Keywords α) (key : String) (value : α) : Keywords α := ⟨put key value m.entries⟩

/-- Unbind `key`. -/
def erase (m : Keywords α) (key : String) : Keywords α := ⟨cut key m.entries⟩

/-- Put a value at the first entry for `key`, or at the end, and say which value was there. -/
def exchange (key : String) (value : α) : List (String × α) → Option α × List (String × α)
  | [] => (none, [(key, value)])
  | (k, v) :: rest =>
    if k = key then (some v, (k, value) :: rest)
    else ((exchange key value rest).1, (k, v) :: (exchange key value rest).2)

/-- Take the first entry for `key` out of a list, if there is one. -/
def extract (key : String) : List (String × α) → Option (α × List (String × α))
  | [] => none
  | (k, v) :: rest =>
    if k = key then some (v, rest)
    else (extract key rest).map fun taken => (taken.1, (k, v) :: taken.2)

/-- Bind `key` to `value`, and return the value that is replaced. -/
def getThenInsert? (m : Keywords α) (key : String) (value : α) : Option α × Keywords α :=
  ((exchange key value m.entries).1, ⟨(exchange key value m.entries).2⟩)

/-- Unbind `key`, and return the value that is removed. -/
def getThenErase? (m : Keywords α) (key : String) : Option α × Keywords α :=
  match extract key m.entries with
  | some (value, rest) => (some value, ⟨rest⟩)
  | none => (none, m)

/-- Insert the entries of a list from left to right. -/
def ofList (entries : List (String × α)) : Keywords α :=
  entries.foldl (fun m entry => m.insert entry.1 entry.2) empty

/-- Apply a function to every value. -/
def map (f : α → β) (m : Keywords α) : Keywords β :=
  ⟨m.entries.map fun entry => (entry.1, f entry.2)⟩

@[simp] theorem keys_map (f : α → β) (m : Keywords α) : (m.map f).keys = m.keys := by
  simp [map, keys, Function.comp_def]

/-- A name finds the image of what it found. -/
theorem get?_map (f : α → β) (m : Keywords α) (key : String) :
    (m.map f).get? key = (m.get? key).map f := by
  obtain ⟨entries⟩ := m
  show (entries.map fun entry => (entry.1, f entry.2)).lookup key = (entries.lookup key).map f
  induction entries with
  | nil => rfl
  | cons entry rest ih =>
    obtain ⟨k, v⟩ := entry
    rw [List.map_cons, List.lookup_cons, List.lookup_cons, ih]
    cases key == k <;> rfl

/-! ## What insertion and erasure do to lookup and to the keys -/

@[simp] theorem get?_empty (key : String) : (empty : Keywords α).get? key = none := rfl

@[simp] theorem keys_empty : (empty : Keywords α).keys = [] := rfl

theorem lookup_put_self (key : String) (value : α) (entries : List (String × α)) :
    (put key value entries).lookup key = some value := by
  induction entries with
  | nil => simp [put]
  | cons entry rest ih =>
    obtain ⟨k, v⟩ := entry
    by_cases h : k = key
    · simp [put, h]
    · have hne : (key == k) = false := by simp [Ne.symm h]
      simp [put, h, List.lookup_cons, hne, ih]

theorem lookup_put_of_ne {key other : String} (hne : other ≠ key) (value : α)
    (entries : List (String × α)) :
    (put key value entries).lookup other = entries.lookup other := by
  induction entries with
  | nil =>
    have hk : (other == key) = false := by simp [hne]
    simp [put, List.lookup_cons, hk]
  | cons entry rest ih =>
    obtain ⟨k, v⟩ := entry
    by_cases h : k = key
    · subst h
      have hk : (other == k) = false := by simp [hne]
      simp [put, List.lookup_cons, hk]
    · by_cases ho : other = k
      · subst ho; simp [put, h]
      · have hk : (other == k) = false := by simp [ho]
        simp [put, h, List.lookup_cons, hk, ih]

/-- The value just inserted is the one that is found. -/
@[simp] theorem get?_insert_self (m : Keywords α) (key : String) (value : α) :
    (m.insert key value).get? key = some value :=
  lookup_put_self key value m.entries

/-- Inserting under one name leaves every other name as it was. -/
theorem get?_insert_of_ne (m : Keywords α) {key other : String} (hne : other ≠ key) (value : α) :
    (m.insert key value).get? other = m.get? other :=
  lookup_put_of_ne hne value m.entries

theorem map_fst_put (key : String) (value : α) (entries : List (String × α)) :
    (put key value entries).map Prod.fst =
      if key ∈ entries.map Prod.fst then entries.map Prod.fst
      else entries.map Prod.fst ++ [key] := by
  induction entries with
  | nil => simp [put]
  | cons entry rest ih =>
    obtain ⟨k, v⟩ := entry
    by_cases h : k = key
    · subst h; simp [put]
    · have hne : ¬ key = k := fun e => h e.symm
      simp only [put, h, if_false, List.map_cons, ih, List.mem_cons, hne, false_or]
      split <;> simp

/-- Insertion adds a new name at the end and moves none. -/
theorem keys_insert (m : Keywords α) (key : String) (value : α) :
    (m.insert key value).keys = if key ∈ m.keys then m.keys else m.keys ++ [key] :=
  map_fst_put key value m.entries

theorem distinct_empty : (empty : Keywords α).Distinct := List.nodup_nil

/-- Insertion keeps the keys distinct. -/
theorem distinct_insert {m : Keywords α} (h : m.Distinct) (key : String) (value : α) :
    (m.insert key value).Distinct := by
  unfold Distinct
  rw [keys_insert]
  split
  · exact h
  · rename_i hk
    exact List.nodup_append.mpr ⟨h, by simp, fun a ha b hb => by
      rw [List.mem_singleton] at hb; subst hb; exact fun e => hk (e ▸ ha)⟩

theorem map_fst_cut (key : String) (entries : List (String × α)) :
    (cut key entries).map Prod.fst = (entries.map Prod.fst).erase key := by
  induction entries with
  | nil => rfl
  | cons entry rest ih =>
    obtain ⟨k, v⟩ := entry
    by_cases h : k = key
    · subst h; simp [cut]
    · have hk : (k == key) = false := by simp [h]
      simp [cut, h, hk, ih]

/-- Erasure drops the name and keeps the order of the rest. -/
theorem keys_erase (m : Keywords α) (key : String) : (m.erase key).keys = m.keys.erase key :=
  map_fst_cut key m.entries

/-- Erasure keeps the keys distinct. -/
theorem distinct_erase {m : Keywords α} (h : m.Distinct) (key : String) :
    (m.erase key).Distinct := by
  unfold Distinct
  rw [keys_erase]
  exact h.sublist List.erase_sublist

theorem distinct_foldl_insert (entries : List (String × α)) {m : Keywords α} (h : m.Distinct) :
    (entries.foldl (fun m entry => m.insert entry.1 entry.2) m).Distinct := by
  induction entries generalizing m with
  | nil => exact h
  | cons entry rest ih => exact ih (distinct_insert h entry.1 entry.2)

/-- A map built from any list of entries has distinct keys. -/
theorem distinct_ofList (entries : List (String × α)) : (ofList entries).Distinct :=
  distinct_foldl_insert entries distinct_empty

theorem put_of_not_mem {key : String} {entries : List (String × α)}
    (h : key ∉ entries.map Prod.fst) (value : α) :
    put key value entries = entries ++ [(key, value)] := by
  induction entries with
  | nil => rfl
  | cons entry rest ih =>
    obtain ⟨k, v⟩ := entry
    rw [List.map_cons, List.mem_cons, not_or] at h
    rw [put, if_neg (Ne.symm h.1), ih h.2, List.cons_append]

theorem foldl_insert_of_nodup {entries : List (String × α)} {m : Keywords α}
    (h : (m.keys ++ entries.map Prod.fst).Nodup) :
    entries.foldl (fun m entry => m.insert entry.1 entry.2) m = ⟨m.entries ++ entries⟩ := by
  induction entries generalizing m with
  | nil => rw [List.foldl_nil, List.append_nil]
  | cons entry rest ih =>
    obtain ⟨key, value⟩ := entry
    have hfresh : key ∉ m.keys := fun hkey =>
      (List.nodup_append.mp h).2.2 key hkey key (List.mem_map_of_mem List.mem_cons_self) rfl
    have hinsert : m.insert key value = ⟨m.entries ++ [(key, value)]⟩ :=
      congrArg Keywords.mk (put_of_not_mem hfresh value)
    have hnodup : ((m.insert key value).keys ++ rest.map Prod.fst).Nodup := by
      rw [keys_insert, if_neg hfresh, List.append_assoc]
      exact h
    rw [List.foldl_cons, ih hnodup, hinsert, List.append_assoc]
    rfl

/-- Erasing one name leaves every other name as it was. -/
theorem get?_erase_of_ne (m : Keywords α) {key other : String} (hne : other ≠ key) :
    (m.erase key).get? other = m.get? other := by
  obtain ⟨entries⟩ := m
  show (cut key entries).lookup other = entries.lookup other
  induction entries with
  | nil => rfl
  | cons entry rest ih =>
    obtain ⟨k, v⟩ := entry
    by_cases h : k = key
    · subst h
      have hk : (other == k) = false := by simp [hne]
      simp [cut, List.lookup_cons, hk]
    · simp only [cut, if_neg h, List.lookup_cons, ih]

/-- A name is found exactly if it is listed. -/
theorem get?_eq_none_iff (m : Keywords α) (key : String) : m.get? key = none ↔ key ∉ m.keys := by
  rw [get?, List.lookup_eq_none_iff, keys, List.mem_map]
  constructor
  · rintro h ⟨entry, hentry, rfl⟩
    exact absurd (h entry hentry) (by simp)
  · intro h entry hentry
    exact bne_iff_ne.mpr fun hkey => h ⟨entry, hentry, hkey.symm⟩

/-- An erased name is not found, because it had one entry at most. -/
theorem get?_erase_self {m : Keywords α} (h : m.Distinct) (key : String) :
    (m.erase key).get? key = none := by
  rw [get?_eq_none_iff, keys_erase]
  exact List.Nodup.not_mem_erase h

theorem exchange_eq (key : String) (value : α) (entries : List (String × α)) :
    exchange key value entries = (entries.lookup key, put key value entries) := by
  induction entries with
  | nil => rfl
  | cons entry rest ih =>
    obtain ⟨k, v⟩ := entry
    by_cases h : k = key
    · subst h; simp [exchange, put]
    · have hne : (key == k) = false := by simp [Ne.symm h]
      simp [exchange, put, h, List.lookup_cons, hne, ih]

theorem extract_eq (key : String) (entries : List (String × α)) :
    extract key entries = (entries.lookup key).map fun value => (value, cut key entries) := by
  induction entries with
  | nil => rfl
  | cons entry rest ih =>
    obtain ⟨k, v⟩ := entry
    by_cases h : k = key
    · subst h; simp [extract, cut]
    · have hne : (key == k) = false := by simp [Ne.symm h]
      simp [extract, cut, h, List.lookup_cons, hne, ih, Function.comp_def]

theorem cut_of_not_mem {key : String} {entries : List (String × α)}
    (h : key ∉ entries.map Prod.fst) : cut key entries = entries := by
  induction entries with
  | nil => rfl
  | cons entry rest ih =>
    obtain ⟨k, v⟩ := entry
    rw [List.map_cons, List.mem_cons, not_or] at h
    rw [cut, if_neg (Ne.symm h.1), ih h.2]

/-- Inserting returns what was found before. -/
theorem getThenInsert?_eq (m : Keywords α) (key : String) (value : α) :
    m.getThenInsert? key value = (m.get? key, m.insert key value) := by
  rw [getThenInsert?, exchange_eq]
  rfl

/-- Erasing returns what was found before. -/
theorem getThenErase?_eq (m : Keywords α) (key : String) :
    m.getThenErase? key = (m.get? key, m.erase key) := by
  rw [getThenErase?, extract_eq]
  cases hfound : m.entries.lookup key with
  | some value => exact Prod.ext hfound.symm rfl
  | none =>
    have hkeys := (m.get?_eq_none_iff key).mp hfound
    exact Prod.ext hfound.symm (congrArg Keywords.mk (cut_of_not_mem hkeys).symm)

/-- Entries with distinct names are the map that is built from them. -/
theorem ofList_of_nodup {entries : List (String × α)} (h : (entries.map Prod.fst).Nodup) :
    ofList entries = ⟨entries⟩ := foldl_insert_of_nodup (m := empty) h

end Keywords

end Homoiconic
