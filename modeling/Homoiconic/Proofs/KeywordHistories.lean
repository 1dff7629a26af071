import Homoiconic.Proofs.CallTargets
import Homoiconic.Proofs.ParameterLists
import Mathlib.Data.Set.Card
import Mathlib.Order.Nat

/-!
# Keyword maps remember their history

A keyword map is what a sequence of insertions and removals makes of the empty map, and everything
that can be asked of it is an answer about this sequence.

What counts of a history are the insertions of a name that no later change removes (`InsertedAt`).
A name is listed if there is one.  The last of them is where its value comes from.  The first of
them is where its place comes from, because inserting a name that is there keeps the place, and
inserting it after a removal does not.

Whether an earlier insertion counts can change with every change that is made, so the induction is
along the history from its end: a last change says what counts from then on
(`insertedAt_concat_insert`, `insertedAt_concat_erase`).  That a map records a history is kept by
both kinds of change (`Records.insert`, `Records.erase`), and holds of every map that is built
(`records_after`).
-/

namespace Homoiconic

universe u

namespace Keywords

variable {α : Type u}

/-! ## Histories -/

/-- A change to a keyword map. -/
inductive Change (α : Type u)
  | insert (key : String) (value : α)
  | erase (key : String)

/-- Make a change. -/
def Change.apply : Change α → Keywords α → Keywords α
  | .insert key value, m => m.insert key value
  | .erase key, m => m.erase key

/-- The map after a sequence of changes to the empty one. -/
def after (history : List (Change α)) : Keywords α :=
  history.foldl (fun m change => change.apply m) .empty

/-- The `i`-th change inserts a name, and no later change removes it. -/
structure InsertedAt (history : List (Change α)) (key : String) (i : Nat) : Prop where
  inserts : ∃ value, history[i]? = some (.insert key value)
  stays : ∀ j, i < j → history[j]? ≠ some (.erase key)

/-- The first insertion of a name since its last removal. -/
def FirstInsertedAt (history : List (Change α)) (key : String) (i : Nat) : Prop :=
  IsLeast {i | InsertedAt history key i} i

/-- The last insertion of a name since its last removal. -/
def LastInsertedAt (history : List (Change α)) (key : String) (i : Nat) : Prop :=
  IsGreatest {i | InsertedAt history key i} i

variable {history : List (Change α)} {m : Keywords α} {key other : String} {value : α} {i : Nat}

/-! ## What the last change does -/

theorem after_concat (history : List (Change α)) (change : Change α) :
    after (history ++ [change]) = change.apply (after history) := by
  rw [after, List.foldl_append]
  rfl

theorem getElem?_concat_eq_some_iff {change last : Change α} :
    (history ++ [last])[i]? = some change ↔
      history[i]? = some change ∨ i = history.length ∧ last = change := by
  rcases Nat.lt_trichotomy i history.length with h | rfl | h
  · simp [List.getElem?_append_left h, h.ne]
  · simp
  · simp [List.getElem?_append_right h.le, List.getElem?_eq_none h.le, h.ne',
      Nat.sub_ne_zero_of_lt h]

theorem InsertedAt.lt_length (h : InsertedAt history key i) : i < history.length := by
  obtain ⟨⟨value, hvalue⟩, _⟩ := h
  exact (List.getElem?_eq_some_iff.mp hvalue).choose

/-- A last insertion counts, and every other insertion counts as before. -/
theorem insertedAt_concat_insert :
    InsertedAt (history ++ [.insert other value]) key i ↔
      InsertedAt history key i ∨ i = history.length ∧ key = other := by
  constructor
  · rintro ⟨⟨v, hv⟩, hstays⟩
    rcases getElem?_concat_eq_some_iff.mp hv with hv | ⟨rfl, hlast⟩
    · exact Or.inl ⟨⟨v, hv⟩, fun j hj he =>
        hstays j hj (getElem?_concat_eq_some_iff.mpr (Or.inl he))⟩
    · exact Or.inr ⟨rfl, (Change.insert.inj hlast).1.symm⟩
  · rintro (⟨⟨v, hv⟩, hstays⟩ | ⟨rfl, rfl⟩)
    · refine ⟨⟨v, getElem?_concat_eq_some_iff.mpr (Or.inl hv)⟩, fun j hj he => ?_⟩
      rcases getElem?_concat_eq_some_iff.mp he with he | ⟨_, hlast⟩
      · exact hstays j hj he
      · cases hlast
    · refine ⟨⟨value, getElem?_concat_eq_some_iff.mpr (Or.inr ⟨rfl, rfl⟩)⟩, fun j hj he => ?_⟩
      rcases getElem?_concat_eq_some_iff.mp he with he | ⟨rfl, _⟩
      · rw [List.getElem?_eq_none hj.le] at he
        cases he
      · exact Nat.lt_irrefl _ hj

/-- After a last removal, no insertion of the name counts any more. -/
theorem insertedAt_concat_erase :
    InsertedAt (history ++ [.erase other]) key i ↔ InsertedAt history key i ∧ key ≠ other := by
  constructor
  · rintro ⟨⟨v, hv⟩, hstays⟩
    rcases getElem?_concat_eq_some_iff.mp hv with hold | ⟨_, hlast⟩
    · have hcounts : InsertedAt history key i := ⟨⟨v, hold⟩, fun j hj he =>
        hstays j hj (getElem?_concat_eq_some_iff.mpr (Or.inl he))⟩
      refine ⟨hcounts, ?_⟩
      rintro rfl
      exact hstays history.length hcounts.lt_length
        (getElem?_concat_eq_some_iff.mpr (Or.inr ⟨rfl, rfl⟩))
    · cases hlast
  · rintro ⟨⟨⟨v, hv⟩, hstays⟩, hne⟩
    refine ⟨⟨v, getElem?_concat_eq_some_iff.mpr (Or.inl hv)⟩, fun j hj he => ?_⟩
    rcases getElem?_concat_eq_some_iff.mp he with he | ⟨_, hlast⟩
    · exact hstays j hj he
    · exact hne (Change.erase.inj hlast).symm

/-! ## Maps that record a history -/

/-- What a map has kept of a history. -/
structure Records (history : List (Change α)) (m : Keywords α) : Prop where
  distinct : m.Distinct
  get?_iff : ∀ key value, m.get? key = some value ↔
    ∃ i, LastInsertedAt history key i ∧ history[i]? = some (.insert key value)
  mem_keys_iff : ∀ key, key ∈ m.keys ↔ ∃ i, InsertedAt history key i
  ordered : m.keys.Pairwise fun key other =>
    ∃ i j, FirstInsertedAt history key i ∧ FirstInsertedAt history other j ∧ i < j

theorem records_empty : Records ([] : List (Change α)) .empty where
  distinct := distinct_empty
  get?_iff key value := iff_of_false (by rw [get?_empty]; nofun) (by rintro ⟨i, _, h⟩; cases h)
  mem_keys_iff key := iff_of_false (by rw [keys_empty]; nofun)
    (by rintro ⟨i, ⟨v, hv⟩, _⟩; cases hv)
  ordered := .nil

/-- A name that was inserted has a first insertion. -/
theorem exists_firstInsertedAt (h : ∃ i, InsertedAt history key i) :
    ∃ i, FirstInsertedAt history key i := by
  classical exact ⟨_, Nat.isLeast_find h⟩

/-- The last insertion that is made is the last one that counts. -/
theorem lastInsertedAt_concat_self :
    LastInsertedAt (history ++ [.insert key value]) key i ↔ i = history.length := by
  have hlast : LastInsertedAt (history ++ [.insert key value]) key history.length := by
    refine ⟨insertedAt_concat_insert.mpr (Or.inr ⟨rfl, rfl⟩), fun j hj => ?_⟩
    rcases insertedAt_concat_insert.mp hj with hj | ⟨rfl, _⟩
    · exact hj.lt_length.le
    · exact le_rfl
  exact ⟨fun h => h.unique hlast, fun h => h ▸ hlast⟩

/-- An insertion does not come before those that count already. -/
theorem FirstInsertedAt.concat_insert (h : FirstInsertedAt history key i) :
    FirstInsertedAt (history ++ [.insert other value]) key i := by
  refine ⟨insertedAt_concat_insert.mpr (Or.inl h.1), fun j hj => ?_⟩
  rcases insertedAt_concat_insert.mp hj with hj | ⟨rfl, _⟩
  · exact h.2 hj
  · exact h.1.lt_length.le

/-- The insertion of a name that is not there is its first one. -/
theorem firstInsertedAt_concat_self (hnew : ¬∃ i, InsertedAt history key i) :
    FirstInsertedAt (history ++ [.insert key value]) key history.length := by
  refine ⟨insertedAt_concat_insert.mpr (Or.inr ⟨rfl, rfl⟩), fun j hj => ?_⟩
  rcases insertedAt_concat_insert.mp hj with hj | ⟨rfl, _⟩
  · exact absurd ⟨j, hj⟩ hnew
  · exact le_rfl

/-- For the other names, the same insertions count after an insertion. -/
theorem setOf_insertedAt_concat_insert (hne : key ≠ other) (value : α) :
    {i | InsertedAt (history ++ [.insert other value]) key i} = {i | InsertedAt history key i} := by
  ext i
  simp [insertedAt_concat_insert, hne]

/-- For the other names, the same insertions count after a removal. -/
theorem setOf_insertedAt_concat_erase (hne : key ≠ other) :
    {i | InsertedAt (history ++ [.erase other]) key i} = {i | InsertedAt history key i} := by
  ext i
  simp [insertedAt_concat_erase, hne]

/-- **Insertion records itself.** -/
theorem Records.insert (h : Records history m) (key : String) (value : α) :
    Records (history ++ [.insert key value]) (m.insert key value) where
  distinct := distinct_insert h.distinct key value
  get?_iff other v := by
    by_cases hkey : other = key
    · subst hkey
      simp only [get?_insert_self, lastInsertedAt_concat_self, exists_eq_left,
        getElem?_concat_eq_some_iff, List.getElem?_length, reduceCtorEq, false_or, true_and,
        Change.insert.injEq, Option.some.injEq]
    · rw [get?_insert_of_ne m hkey, h.get?_iff]
      refine exists_congr fun i => and_congr ?_ ?_
      · rw [LastInsertedAt, LastInsertedAt, setOf_insertedAt_concat_insert hkey value]
      · simp [getElem?_concat_eq_some_iff, Ne.symm hkey]
  mem_keys_iff other := by
    have hmem : other ∈ (m.insert key value).keys ↔ other ∈ m.keys ∨ other = key := by
      rw [keys_insert]
      split
      · exact ⟨Or.inl, fun hor => hor.elim id fun he => he ▸ ‹_›⟩
      · rw [List.mem_append, List.mem_singleton]
    simp only [hmem, h.mem_keys_iff, insertedAt_concat_insert, exists_or, exists_eq_left]
  ordered := by
    have hold : m.keys.Pairwise fun a b => ∃ i j,
        FirstInsertedAt (history ++ [.insert key value]) a i ∧
          FirstInsertedAt (history ++ [.insert key value]) b j ∧ i < j :=
      h.ordered.imp fun ⟨i, j, hi, hj, hij⟩ => ⟨i, j, hi.concat_insert, hj.concat_insert, hij⟩
    rw [keys_insert]
    split
    · exact hold
    · -- The new name goes to the end, and its insertion is later than every other first one.
      rename_i hnew
      refine List.pairwise_append.mpr ⟨hold, List.pairwise_singleton _ _, fun a ha b hb => ?_⟩
      obtain rfl := List.mem_singleton.mp hb
      obtain ⟨i, hi⟩ := exists_firstInsertedAt ((h.mem_keys_iff a).mp ha)
      have hfirst : FirstInsertedAt (history ++ [.insert b value]) b history.length :=
        firstInsertedAt_concat_self (mt (h.mem_keys_iff b).mpr hnew)
      exact ⟨i, history.length, hi.concat_insert, hfirst, hi.1.lt_length⟩

/-- **Removal records itself.** -/
theorem Records.erase (h : Records history m) (key : String) :
    Records (history ++ [.erase key]) (m.erase key) where
  distinct := distinct_erase h.distinct key
  get?_iff other v := by
    by_cases hkey : other = key
    · subst hkey
      rw [get?_erase_self h.distinct]
      refine iff_of_false nofun ?_
      rintro ⟨i, hi, _⟩
      exact (insertedAt_concat_erase.mp hi.1).2 rfl
    · rw [get?_erase_of_ne m hkey, h.get?_iff]
      refine exists_congr fun i => and_congr ?_ ?_
      · rw [LastInsertedAt, LastInsertedAt, setOf_insertedAt_concat_erase hkey]
      · simp [getElem?_concat_eq_some_iff]
  mem_keys_iff other := by
    rw [keys_erase, h.distinct.mem_erase_iff, h.mem_keys_iff]
    simp only [insertedAt_concat_erase, exists_and_right]
    exact and_comm
  ordered := by
    rw [keys_erase]
    refine (h.ordered.sublist List.erase_sublist).imp_of_mem fun {a b} ha hb hab => ?_
    have hfirst : ∀ c ∈ m.keys.erase key, ∀ i,
        FirstInsertedAt history c i → FirstInsertedAt (history ++ [.erase key]) c i := by
      intro c hc i hi
      rwa [FirstInsertedAt, setOf_insertedAt_concat_erase (h.distinct.mem_erase_iff.mp hc).1]
    obtain ⟨i, j, hi, hj, hij⟩ := hab
    exact ⟨i, j, hfirst a ha i hi, hfirst b hb j hj, hij⟩

/-- **Every map records the history that has built it.** -/
theorem records_after (history : List (Change α)) : Records history (after history) := by
  induction history using List.reverseRecOn with
  | nil => exact records_empty
  | append_singleton history change ih =>
    rw [after_concat]
    cases change with
    | insert key value => exact ih.insert key value
    | erase key => exact ih.erase key

/-- A name that is removed and inserted again goes to the end. -/
example : (after [.insert "a" 1, .insert "b" 2, .insert "a" 3, .erase "a", .insert "a" 4] :
    Keywords Nat).entries = [("b", 2), ("a", 4)] := by decide

/-! ## Maps that are built of a list -/

theorem after_map_insert (entries : List (String × α)) :
    after (entries.map fun entry => .insert entry.1 entry.2) = ofList entries := by
  rw [after, List.foldl_map]
  rfl

/-- Naming arguments one after the other makes the map of the entries. -/
theorem named_foldl_addNamed (entries : List (String × α)) (node : CallNode α) :
    (entries.foldl (fun node entry => node.addNamed entry.1 entry.2) node).named =
      entries.foldl (fun m entry => m.insert entry.1 entry.2) node.named := by
  induction entries generalizing node with
  | nil => rfl
  | cons entry rest ih => exact ih (node.addNamed entry.1 entry.2)

/-- **Evaluating the named arguments of a call keeps the names and their order.** -/
theorem keys_of_evalArguments {env : Environment} {node : CallNode Value} {s s' : State}
    {args : List Value} {kwargs : Keywords Value} (hdistinct : node.named.Distinct)
    (h : evalArguments env node s = (.ok (args, kwargs), s')) : kwargs.keys = node.named.keys := by
  obtain ⟨args', s₁, _, hnamed⟩ := exists_of_bind_eq_ok h
  obtain ⟨entries, s₂, hentries, hpure⟩ := exists_of_bind_eq_ok hnamed
  obtain ⟨hgiven, _⟩ := Prod.mk.inj hpure
  obtain ⟨_, rfl⟩ := Prod.mk.inj (Except.ok.inj hgiven)
  have hkeys : entries.map Prod.fst = node.named.keys := Params.keys_of_evalNamed hentries
  rw [ofList_of_nodup (hkeys.symm ▸ hdistinct)]
  exact hkeys

/-! ## The main result -/

/-- **A keyword map is a finite map in the order of insertion.**  After every sequence of changes
the names are distinct, as many as there are names with an insertion that counts, and in the order
of their first insertions since their last removals.  The value of a name is the one that was last
inserted since its last removal, if there is one.  Inserting returns the value that is replaced and
keeps its place, and otherwise goes to the end.  Removing returns the value that is removed and
keeps the order of the rest.

The maps that are built of a list of entries are such maps, those of a call whose arguments are
named one after the other too, and so are those to which the named arguments of a call are
evaluated, which have the same names in the same order. -/
theorem keyword_maps_record_insertions (history : List (Change Value)) :
    ((after history).keys.Nodup ∧
      (after history).size = {key | ∃ i, InsertedAt history key i}.ncard ∧
      (∀ key, key ∈ (after history).keys ↔ ∃ i, InsertedAt history key i) ∧
      (after history).keys.Pairwise fun key other =>
        ∃ i j, FirstInsertedAt history key i ∧ FirstInsertedAt history other j ∧ i < j) ∧
    (∀ key, (∀ value, (after history).get? key = some value ↔
        ∃ i, LastInsertedAt history key i ∧ history[i]? = some (.insert key value)) ∧
      ((after history).get? key = none ↔ ¬∃ i, InsertedAt history key i)) ∧
    (∀ key value, (after history).getThenInsert? key value =
        ((after history).get? key, after (history ++ [.insert key value])) ∧
      (after (history ++ [.insert key value])).keys =
        if key ∈ (after history).keys then (after history).keys
        else (after history).keys ++ [key]) ∧
    (∀ key, (after history).getThenErase? key =
        ((after history).get? key, after (history ++ [.erase key])) ∧
      (after (history ++ [.erase key])).keys = (after history).keys.filter (· != key)) ∧
    (∀ entries : List (String × Value),
      ofList entries = after (entries.map fun entry => .insert entry.1 entry.2) ∧
      ∀ target args, (entries.foldl (fun node entry => node.addNamed entry.1 entry.2)
        (CallNode.ofArgs target args)).named = ofList entries) ∧
    ∀ (env : Environment) (node : CallNode Value) (s s' : State) (args : List Value)
      (kwargs : Keywords Value), node.named = after history →
        evalArguments env node s = (.ok (args, kwargs), s') →
        kwargs.keys = (after history).keys ∧
          ∃ entries : List (String × Value),
            kwargs = after (entries.map fun entry => .insert entry.1 entry.2) := by
  have hrecords := records_after history
  refine ⟨⟨hrecords.distinct, ?_, hrecords.mem_keys_iff, hrecords.ordered⟩,
    fun key => ⟨hrecords.get?_iff key, ?_⟩, fun key value => ⟨?_, ?_⟩, fun key => ⟨?_, ?_⟩,
    fun entries => ⟨(after_map_insert entries).symm, fun target args => ?_⟩, ?_⟩
  · have hset : {key | ∃ i, InsertedAt history key i} = ↑(after history).keys.toFinset := by
      ext key
      simp [hrecords.mem_keys_iff]
    rw [hset, Set.ncard_coe_finset, List.toFinset_card_of_nodup hrecords.distinct, keys,
      List.length_map]
    rfl
  · rw [get?_eq_none_iff, hrecords.mem_keys_iff]
  · rw [getThenInsert?_eq, after_concat]
    rfl
  · rw [after_concat]
    exact keys_insert _ key value
  · rw [getThenErase?_eq, after_concat]
    rfl
  · rw [after_concat]
    exact (keys_erase _ key).trans (hrecords.distinct.erase_eq_filter key)
  · exact named_foldl_addNamed entries (.ofArgs target args)
  · intro env node s s' args kwargs hnamed hrun
    have hdistinct : node.named.Distinct := hnamed ▸ hrecords.distinct
    have hkeys := keys_of_evalArguments hdistinct hrun
    refine ⟨hnamed ▸ hkeys, kwargs.entries, ?_⟩
    have hnodup : (kwargs.entries.map Prod.fst).Nodup := by
      show kwargs.keys.Nodup
      rw [hkeys]
      exact hdistinct
    rw [after_map_insert, ofList_of_nodup hnodup]

end Keywords

end Homoiconic
