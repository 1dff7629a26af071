import Homoiconic.Interpreter
import Homoiconic.Proofs.Listings
import Homoiconic.Proofs.ParameterLists
import Mathlib.Logic.Function.Basic

/-!
# What arguments are bound to

A closure takes its arguments if three conditions hold.

* There are no more positional arguments than slots, or there is a parameter that collects the
  surplus (`Params.TakesPositional`).
* Every keyword argument goes to a slot that is not filled by position, or it has the name of no
  slot and there is a parameter that collects it (`Params.TakesKeyword`).
* Every required slot is filled (`Params.Complete`).

The conditions are checked in this order, and the keyword arguments from left to right, and the
first one that fails is reported.  If none fails, the bindings are those of `Params.Binds`.

This is what a call of a closure does with its arguments, whoever calls it
(`Closure.arguments_are_bound_exactly`).

The proof goes along the three passes over the slots.  Where the names are distinct, a list of slots
is a function of their names (`slots`), and each pass changes or reads this function: the first one
makes it from the positional arguments (`fillByPosition_eq`), the second one adds what the keyword
arguments say where it says nothing (`fillByName_append`), and the third one reads its values
(`takeRequired_eq`, `takeOptional_eq`).  That the names are distinct is what the reader of parameter
lists sees to (`nodup_names_of_read`).
-/

namespace Homoiconic

namespace Params

/-! ## What is taken, and what it is bound to -/

section Statement

variable (params : Params Value) (args : List Value) (kwargs : Keywords Value)

/-- The names that are filled by position. -/
def filledNames : List String := params.positionalNames.take args.length

/-- There is room for the positional arguments. -/
def TakesPositional : Prop :=
  args.length ≤ params.positionalNames.length ∨ params.rest ≠ none

/-- A keyword argument is for a slot that is not filled by position, or it is collected. -/
def TakesKeyword (key : String) : Prop :=
  (key ∈ params.positionalNames ∧ key ∉ params.filledNames args) ∨
    (key ∉ params.positionalNames ∧ params.extra ≠ none)

/-- Every required parameter is given an argument. -/
def Complete : Prop := ∀ name ∈ params.required, name ∈ params.filledNames args ∨ name ∈ kwargs.keys

/-- The arguments are those that the parameters ask for. -/
structure Accepts : Prop where
  positional : params.TakesPositional args
  keywords : ∀ key ∈ kwargs.keys, params.TakesKeyword args key
  complete : params.Complete args kwargs

/-- The keyword arguments that have the name of no slot. -/
def unmatched : Keywords Value :=
  ⟨kwargs.entries.filter fun entry => entry.1 ∉ params.positionalNames⟩

/-- How a keyword argument that is not taken is reported. -/
def keywordRefusal (key : String) : Error :=
  if key ∈ params.positionalNames then .repeatedArgument key else .unexpectedKeyword key

/-- The bindings of a call: each declared name once, in the order of the parameter list.  A slot has
its positional argument, or else its keyword argument, or else its default. -/
structure Binds (bindings : List (String × Value)) : Prop where
  names : bindings.map Prod.fst = params.names
  slot : ∀ (i : Nat) (name : String), params.positionalNames[i]? = some name →
    bindings.lookup name = args[i]?.or ((kwargs.get? name).or (params.optional.lookup name))
  rest : ∀ name, params.rest = some name →
    bindings.lookup name = some (.list (args.drop params.positionalNames.length))
  extra : ∀ name, params.extra = some name →
    bindings.lookup name = some (.map (params.unmatched kwargs))

end Statement

instance (params : Params Value) (args : List Value) (key : String) :
    Decidable (params.TakesKeyword args key) :=
  inferInstanceAs (Decidable (_ ∨ _))

theorem category_keywordRefusal (params : Params Value) (key : String) :
    (params.keywordRefusal key).category = .type := by
  unfold keywordRefusal
  split <;> rfl

/-! ## Slots as functions of their names -/

variable {names : List String} {args : List Value} {content : String → Option Value}

/-- The slots of some names, with the given contents. -/
def slots (names : List String) (content : String → Option Value) : Slots :=
  names.map fun name => (name, content name)

theorem slots_cons (name : String) (names : List String) (content : String → Option Value) :
    slots (name :: names) content = (name, content name) :: slots names content := rfl

theorem slots_congr {content' : String → Option Value}
    (h : ∀ name ∈ names, content name = content' name) :
    slots names content = slots names content' :=
  List.map_congr_left fun name hname => by rw [h name hname]

theorem lookup_slots_of_mem {key : String} (h : key ∈ names) :
    (slots names content).lookup key = some (content key) := List.lookup_graph content h

theorem lookup_slots_of_not_mem {key : String} (h : key ∉ names) :
    (slots names content).lookup key = none := by
  refine List.lookup_eq_none_iff.mpr fun slot hslot => bne_iff_ne.mpr ?_
  obtain ⟨name, hname, rfl⟩ := List.mem_map.mp hslot
  rintro rfl
  exact h hname

/-- What the name of a slot finds among the positional arguments. -/
def byPosition (names : List String) (args : List Value) (name : String) : Option Value :=
  (names.zip args).lookup name

theorem byPosition_cons_self (name : String) (names : List String) (arg : Value)
    (args : List Value) : byPosition (name :: names) (arg :: args) name = some arg :=
  List.lookup_cons_self

theorem byPosition_cons_of_ne {name first : String} (h : name ≠ first) (names : List String)
    (arg : Value) (args : List Value) :
    byPosition (first :: names) (arg :: args) name = byPosition names args name :=
  Keywords.lookup_cons_of_ne h arg (names.zip args)

theorem byPosition_of_getElem? (hnodup : names.Nodup) {i : Nat} {name : String}
    (hname : names[i]? = some name) : byPosition names args name = args[i]? := by
  induction names generalizing args i with
  | nil => cases hname
  | cons first names ih =>
    obtain ⟨hfresh, hnames⟩ := List.nodup_cons.mp hnodup
    cases args with
    | nil => rfl
    | cons arg args =>
      cases i with
      | zero =>
        obtain rfl : first = name := Option.some.inj hname
        exact byPosition_cons_self ..
      | succ i =>
        have hmem : name ∈ names := List.mem_of_getElem? hname
        rw [byPosition_cons_of_ne (ne_of_mem_of_not_mem hmem hfresh)]
        exact ih hnames hname

theorem byPosition_eq_none_iff {name : String} :
    byPosition names args name = none ↔ name ∉ names.take args.length := by
  induction names generalizing args with
  | nil => simp [byPosition]
  | cons first names ih =>
    cases args with
    | nil => simp [byPosition]
    | cons arg args =>
      rw [List.length_cons, List.take_succ_cons, List.mem_cons]
      by_cases hname : name = first
      · simp [hname, byPosition_cons_self]
      · rw [byPosition_cons_of_ne hname, ih]
        simp [hname]

/-- The first pass gives each name the argument at its place. -/
theorem fillByPosition_eq (hnodup : names.Nodup) (args : List Value) :
    fillByPosition names args = slots names (byPosition names args) := by
  induction names generalizing args with
  | nil => rfl
  | cons name names ih =>
    obtain ⟨hfresh, hnames⟩ := List.nodup_cons.mp hnodup
    cases args with
    | nil =>
      rw [fillByPosition, ih hnames, slots_cons]
      refine congrArg _ (slots_congr fun other _ => ?_)
      rw [byPosition, byPosition, List.zip_nil_right, List.zip_nil_right]
    | cons arg args =>
      rw [fillByPosition, ih hnames, slots_cons, byPosition_cons_self]
      refine congrArg _ (slots_congr fun other hother => ?_)
      rw [byPosition_cons_of_ne (ne_of_mem_of_not_mem hother hfresh)]

theorem fillSlot_slots (hnodup : names.Nodup) (key : String) (value : Value) :
    fillSlot key value (slots names content) =
      slots names (Function.update content key (some value)) := by
  induction names with
  | nil => rfl
  | cons name names ih =>
    obtain ⟨hfresh, hnames⟩ := List.nodup_cons.mp hnodup
    rw [slots_cons, fillSlot, slots_cons]
    by_cases hname : name = key
    · subst hname
      rw [if_pos rfl, Function.update_self]
      refine congrArg _ (slots_congr fun other hother => ?_)
      rw [Function.update_of_ne (ne_of_mem_of_not_mem hother hfresh)]
    · rw [if_neg hname, Function.update_of_ne hname]
      exact congrArg _ (ih hnames)

/-! ## Keyword arguments -/

/-- A keyword argument finds an empty slot, or none where keyword arguments are collected. -/
def Fits (collects : Bool) (names : List String) (content : String → Option Value) (key : String) :
    Prop :=
  (key ∈ names ∧ content key = none) ∨ (key ∉ names ∧ collects = true)

/-- The second pass over keyword arguments that fit: they fill the slots that are empty so far, and
those that find no slot are collected. -/
theorem fillByName_append {collects : Bool} (hnodup : names.Nodup)
    {before : List (String × Value)} (hbefore : (before.map Prod.fst).Nodup)
    (hfits : ∀ key ∈ before.map Prod.fst, Fits collects names content key)
    (after : List (String × Value)) (extra : Keywords Value) :
    fillByName collects (before ++ after) (slots names content) extra =
      fillByName collects after (slots names fun name => (content name).or (before.lookup name))
        ((before.filter fun entry => entry.1 ∉ names).foldl
          (fun m entry => m.insert entry.1 entry.2) extra) := by
  -- Each key changes the contents once.  The keys are distinct, so for the later ones the contents
  -- are still those of the beginning.
  induction before generalizing content extra with
  | nil =>
    have hsame : slots names content = slots names fun name => (content name).or none :=
      slots_congr fun name _ => (Option.or_none).symm
    rw [List.nil_append, hsame]
    rfl
  | cons entry before ih =>
    obtain ⟨key, value⟩ := entry
    obtain ⟨hfresh, hrest⟩ := List.nodup_cons.mp hbefore
    obtain ⟨hkey, hfits⟩ := List.forall_mem_cons.mp hfits
    rw [List.cons_append, fillByName]
    rcases hkey with ⟨hmem, hempty⟩ | ⟨hmem, hcollects⟩
    · have hfits' : ∀ other ∈ before.map Prod.fst,
          Fits collects names (Function.update content key (some value)) other := by
        intro other hother
        rw [Fits, Function.update_of_ne (ne_of_mem_of_not_mem hother hfresh)]
        exact hfits other hother
      have hcontent : ∀ name, (Function.update content key (some value) name).or
          (before.lookup name) = (content name).or (((key, value) :: before).lookup name) := by
        intro name
        by_cases hname : name = key
        · subst hname
          rw [Function.update_self, hempty, List.lookup_cons_self]
          rfl
        · rw [Function.update_of_ne hname, Keywords.lookup_cons_of_ne hname]
      rw [lookup_slots_of_mem hmem, hempty, fillSlot_slots hnodup]
      simp only [ih hrest hfits', hcontent]
      rw [List.filter_cons_of_neg (by simpa using hmem)]
    · have hcontent : ∀ name ∈ names, (content name).or (before.lookup name) =
          (content name).or (((key, value) :: before).lookup name) := by
        intro name hname
        rw [Keywords.lookup_cons_of_ne (ne_of_mem_of_not_mem hname hmem)]
      rw [lookup_slots_of_not_mem hmem]
      simp only [if_pos hcollects, ih hrest hfits]
      rw [slots_congr hcontent, List.filter_cons_of_pos (by simpa using hmem), List.foldl_cons]

/-- The second pass stops at a keyword argument that does not fit. -/
theorem fillByName_of_not_fits {collects : Bool} {key : String}
    (h : ¬Fits collects names content key) (value : Value) (after : List (String × Value))
    (extra : Keywords Value) :
    fillByName collects ((key, value) :: after) (slots names content) extra =
      .error (if key ∈ names then .repeatedArgument key else .unexpectedKeyword key) := by
  obtain ⟨hfilled, hrefuses⟩ := not_or.mp h
  rw [fillByName]
  by_cases hmem : key ∈ names
  · obtain ⟨v, hv⟩ := Option.ne_none_iff_exists'.mp fun hempty => hfilled ⟨hmem, hempty⟩
    rw [lookup_slots_of_mem hmem, hv, if_pos hmem]
  · have hcollects : ¬collects = true := fun hcollects => hrefuses ⟨hmem, hcollects⟩
    rw [lookup_slots_of_not_mem hmem, if_neg hmem]
    exact if_neg hcollects

/-! ## Taking values out of slots -/

theorem takeRequired_eq {value : String → Value}
    (h : ∀ name ∈ names, content name = some (value name)) (required supplied : Nat) :
    takeRequired required supplied (slots names content) =
      .ok (names.map fun name => (name, value name)) := by
  induction names with
  | nil => rfl
  | cons name names ih =>
    obtain ⟨hname, hnames⟩ := List.forall_mem_cons.mp h
    rw [slots_cons, hname, takeRequired, ih hnames]
    rfl

theorem takeRequired_of_empty {name : String} (hmem : name ∈ names) (hempty : content name = none)
    (required supplied : Nat) :
    takeRequired required supplied (slots names content) =
      .error (.arity none required supplied) := by
  induction names with
  | nil => cases hmem
  | cons first names ih =>
    rw [slots_cons]
    cases hfirst : content first with
    | none => rfl
    | some v =>
      have hrest : name ∈ names := by
        rcases List.mem_cons.mp hmem with rfl | hrest
        · rw [hempty] at hfirst
          cases hfirst
        · exact hrest
      rw [takeRequired, ih hrest]

theorem takeOptional_eq (optional : List (String × Value)) (content : String → Option Value) :
    takeOptional optional (slots (optional.map Prod.fst) content) =
      optional.map fun entry => (entry.1, (content entry.1).getD entry.2) := by
  induction optional with
  | nil => rfl
  | cons entry optional ih =>
    rw [List.map_cons, slots_cons, takeOptional, ih, List.map_cons]

/-! ## Binding -/

section Binding

variable {params : Params Value} {kwargs : Keywords Value}

/-- What the arguments say about a slot. -/
def given (params : Params Value) (args : List Value) (kwargs : Keywords Value) (name : String) :
    Option Value :=
  (byPosition params.positionalNames args name).or (kwargs.get? name)

/-- The bindings of a call, given those of the required slots. -/
def completed (params : Params Value) (args : List Value) (kwargs : Keywords Value)
    (required : List (String × Value)) : List (String × Value) :=
  required
    ++ params.optional.map (fun entry => (entry.1, (params.given args kwargs entry.1).getD entry.2))
    ++ collected params.rest (.list (args.drop params.positionalNames.length))
    ++ collected params.extra (.map (params.unmatched kwargs))

theorem given_eq_none_iff {name : String} :
    params.given args kwargs name = none ↔
      name ∉ params.filledNames args ∧ name ∉ kwargs.keys := by
  have hkeys : kwargs.get? name = none ↔ name ∉ kwargs.keys := by
    rw [Keywords.keys, Keywords.mem_keys_iff, not_exists]
    exact Option.eq_none_iff_forall_ne_some
  rw [given, Option.or_eq_none_iff, byPosition_eq_none_iff, hkeys]
  rfl

theorem fits_iff_takesKeyword {key : String} :
    Fits params.extra.isSome params.positionalNames (byPosition params.positionalNames args) key ↔
      params.TakesKeyword args key := by
  rw [Fits, byPosition_eq_none_iff, Option.isSome_iff_ne_none]
  rfl

theorem takesPositional_iff :
    params.TakesPositional args ↔
      ¬(params.positionalNames.length < args.length ∧ params.rest = none) := by
  rw [TakesPositional, not_and_or, Nat.not_lt]

theorem bind_of_surplus (h : ¬params.TakesPositional args) :
    params.bind args kwargs = .error (.arity none params.positionalNames.length args.length) :=
  if_pos (not_not.mp (takesPositional_iff.not.mp h))

variable (hnodup : params.names.Nodup) (hkwargs : kwargs.Distinct)

include hnodup in
theorem nodup_positionalNames : params.positionalNames.Nodup :=
  (List.nodup_append.mp (List.nodup_append.mp hnodup).1).1

include hnodup hkwargs in
theorem bind_of_refused_keyword {before after : List String} {key : String}
    (h : params.TakesPositional args) (hkeys : kwargs.keys = before ++ key :: after)
    (hbefore : ∀ k ∈ before, params.TakesKeyword args k) (hkey : ¬params.TakesKeyword args key) :
    params.bind args kwargs = .error (params.keywordRefusal key) := by
  obtain ⟨first, others, hentries, rfl, hothers⟩ := List.map_eq_append_iff.mp hkeys
  obtain ⟨⟨name, value⟩, last, rfl, hname, -⟩ := List.map_eq_cons_iff.mp hothers
  obtain rfl : name = key := hname
  have hnames := nodup_positionalNames hnodup
  have hfirst : (first.map Prod.fst).Nodup := by
    have hdistinct : kwargs.keys.Nodup := hkwargs
    rw [hkeys] at hdistinct
    exact (List.nodup_append.mp hdistinct).1
  have hfits : ¬Fits params.extra.isSome params.positionalNames
      (fun k => (byPosition params.positionalNames args k).or (first.lookup k)) name :=
    fun hfits => hkey <| fits_iff_takesKeyword.mp <|
      hfits.imp_left fun hempty => ⟨hempty.1, (Option.or_eq_none_iff.mp hempty.2).1⟩
  have hfill : fillByName params.extra.isSome kwargs.entries
      (fillByPosition params.positionalNames args) .empty =
        .error (params.keywordRefusal name) := by
    rw [hentries, fillByPosition_eq hnames, fillByName_append hnames hfirst
      fun k hk => fits_iff_takesKeyword.mpr (hbefore k hk)]
    exact fillByName_of_not_fits hfits value last _
  rw [bind, if_neg (takesPositional_iff.mp h), hfill]

include hnodup hkwargs in
/-- The first two passes over arguments that are all taken. -/
theorem fill_eq (h : ∀ key ∈ kwargs.keys, params.TakesKeyword args key) :
    fillByName params.extra.isSome kwargs.entries (fillByPosition params.positionalNames args)
        .empty =
      .ok (slots params.positionalNames (params.given args kwargs), params.unmatched kwargs) := by
  have hnames := nodup_positionalNames hnodup
  have hunmatched : ((kwargs.entries.filter fun entry =>
      entry.1 ∉ params.positionalNames).map Prod.fst).Nodup :=
    List.Nodup.sublist (List.filter_sublist.map Prod.fst) hkwargs
  have hfill := fillByName_append hnames hkwargs
    (fun key hkey => fits_iff_takesKeyword.mpr (h key hkey)) [] .empty
  rw [List.append_nil, ← fillByPosition_eq hnames] at hfill
  rw [hfill, fillByName]
  exact congrArg (fun extra => Except.ok (_, extra)) (Keywords.ofList_of_nodup hunmatched)

include hnodup hkwargs in
/-- Where everything is taken, it depends on the required slots alone whether there are bindings. -/
theorem bind_of_taken (h : params.TakesPositional args)
    (hkeywords : ∀ key ∈ kwargs.keys, params.TakesKeyword args key) :
    params.bind args kwargs =
      (takeRequired params.required.length (args.length + kwargs.size)
        (slots params.required (params.given args kwargs))).map
          (params.completed args kwargs) := by
  have htake : (slots params.positionalNames (params.given args kwargs)).take
      params.required.length = slots params.required (params.given args kwargs) := by
    rw [slots, ← List.map_take, positionalNames, List.take_left]
    rfl
  have hdrop : (slots params.positionalNames (params.given args kwargs)).drop
      params.required.length =
        slots (params.optional.map Prod.fst) (params.given args kwargs) := by
    rw [slots, ← List.map_drop, positionalNames, List.drop_left]
    rfl
  rw [bind, if_neg (takesPositional_iff.mp h), fill_eq hnodup hkwargs hkeywords]
  simp only [htake, hdrop, takeOptional_eq]
  cases takeRequired params.required.length (args.length + kwargs.size)
    (slots params.required (params.given args kwargs)) <;> rfl

include hnodup hkwargs in
theorem bind_of_incomplete (h : params.TakesPositional args)
    (hkeywords : ∀ key ∈ kwargs.keys, params.TakesKeyword args key)
    (hcomplete : ¬params.Complete args kwargs) :
    params.bind args kwargs =
      .error (.arity none params.required.length (args.length + kwargs.size)) := by
  rw [Complete] at hcomplete
  push Not at hcomplete
  obtain ⟨name, hname, hmissing⟩ := hcomplete
  rw [bind_of_taken hnodup hkwargs h hkeywords,
    takeRequired_of_empty hname (given_eq_none_iff.mpr hmissing)]
  rfl

theorem map_fst_collected (name : Option String) (v : Value) :
    (collected name v).map Prod.fst = name.toList := by
  cases name <;> rfl

theorem mem_collected {name : Option String} {n : String} (h : name = some n) (v : Value) :
    (n, v) ∈ collected name v := by
  rw [h]
  exact List.mem_singleton_self _

include hnodup in
theorem binds_completed {value : String → Value}
    (hvalue : ∀ name ∈ params.required, params.given args kwargs name = some (value name)) :
    params.Binds args kwargs
      (params.completed args kwargs (params.required.map fun name => (name, value name))) := by
  generalize hbindings :
    params.completed args kwargs (params.required.map fun name => (name, value name)) = bindings
  have hnames : bindings.map Prod.fst = params.names := by
    rw [← hbindings]
    simp only [completed, List.map_append, List.map_map, map_fst_collected, Params.names,
      positionalNames]
    congr 3
    exact List.map_id _
  -- No name is bound twice, so a name finds its value wherever in the list it stands.
  have hfind : ∀ {name v}, (name, v) ∈ bindings → bindings.lookup name = some v := fun hmem =>
    (Keywords.lookup_eq_some_iff_mem (hnames ▸ hnodup)).mpr hmem
  refine ⟨hnames, fun i name hslot => ?_, fun name hrest => ?_, fun name hextra => ?_⟩
  · have hslots := nodup_positionalNames hnodup
    rw [← byPosition_of_getElem? hslots hslot, ← Option.or_assoc, ← given]
    rcases List.mem_append.mp (List.mem_of_getElem? hslot) with hrequired | hoptional
    · rw [hvalue name hrequired]
      refine hfind ?_
      simp only [← hbindings, completed, List.mem_append]
      exact .inl (.inl (.inl (List.mem_map_of_mem hrequired)))
    · obtain ⟨⟨_, default⟩, hentry, rfl⟩ := List.mem_map.mp hoptional
      have hdistinct : (params.optional.map Prod.fst).Nodup := (List.nodup_append.mp hslots).2.1
      rw [(Keywords.lookup_eq_some_iff_mem hdistinct).mpr hentry, Option.or_some]
      refine hfind ?_
      simp only [← hbindings, completed, List.mem_append]
      exact .inl (.inl (.inr (List.mem_map_of_mem hentry)))
  · refine hfind ?_
    simp only [← hbindings, completed, List.mem_append]
    exact .inl (.inr (mem_collected hrest _))
  · refine hfind ?_
    simp only [← hbindings, completed, List.mem_append]
    exact .inr (mem_collected hextra _)

include hnodup hkwargs in
/-- Arguments that are asked for are bound. -/
theorem exists_bind_of_accepts (h : params.Accepts args kwargs) :
    ∃ bindings, params.bind args kwargs = .ok bindings ∧ params.Binds args kwargs bindings := by
  have hrequired : ∀ name ∈ params.required, params.given args kwargs name =
      some ((params.given args kwargs name).getD .nil) := by
    intro name hname
    have hgiven : params.given args kwargs name ≠ none := fun hnone =>
      (h.complete name hname).elim (given_eq_none_iff.mp hnone).1 (given_eq_none_iff.mp hnone).2
    obtain ⟨v, hv⟩ := Option.ne_none_iff_exists'.mp hgiven
    rw [hv, Option.getD_some]
  exact ⟨_, (bind_of_taken hnodup hkwargs h.positional h.keywords).trans
    (congrArg _ (takeRequired_eq hrequired _ _)), binds_completed hnodup hrequired⟩

/-- Where a keyword argument is not taken, there is a first one. -/
theorem exists_first_refused (h : ¬∀ key ∈ kwargs.keys, params.TakesKeyword args key) :
    ∃ before key after, kwargs.keys = before ++ key :: after ∧
      (∀ k ∈ before, params.TakesKeyword args k) ∧ ¬params.TakesKeyword args key := by
  push Not at h
  obtain ⟨key, hkey, hrefused⟩ := h
  have hsome : (kwargs.keys.find? fun k => ¬params.TakesKeyword args k).isSome :=
    List.find?_isSome.mpr ⟨key, hkey, by simpa using hrefused⟩
  obtain ⟨first, hfind⟩ := Option.isSome_iff_exists.mp hsome
  obtain ⟨hfirst, before, after, hkeys, hbefore⟩ := List.find?_eq_some_iff_append.mp hfind
  refine ⟨before, first, after, hkeys, fun k hk => ?_, by simpa using hfirst⟩
  simpa using hbefore k hk

include hnodup hkwargs in
/-- Arguments that are bound are those that are asked for: otherwise one of the three refusals would
be reported. -/
theorem accepts_of_bind_eq_ok {bindings : List (String × Value)}
    (hbind : params.bind args kwargs = .ok bindings) : params.Accepts args kwargs := by
  have hpositional : params.TakesPositional args := by
    by_contra hsurplus
    rw [bind_of_surplus hsurplus] at hbind
    cases hbind
  have hkeywords : ∀ key ∈ kwargs.keys, params.TakesKeyword args key := by
    by_contra hrefused
    obtain ⟨before, key, after, hkeys, hbefore, hkey⟩ := exists_first_refused hrefused
    rw [bind_of_refused_keyword hnodup hkwargs hpositional hkeys hbefore hkey] at hbind
    cases hbind
  refine ⟨hpositional, hkeywords, ?_⟩
  by_contra hincomplete
  rw [bind_of_incomplete hnodup hkwargs hpositional hkeywords hincomplete] at hbind
  cases hbind

end Binding

end Params

/-! ## Calls -/

namespace Closure

variable {c : Closure Value} {args : List Value} {kwargs : Keywords Value}

theorem call_of_bind_eq_ok {bindings : List (String × Value)}
    (hbind : c.params.bind args kwargs = .ok bindings) (hnodup : (bindings.map Prod.fst).Nodup)
    (next : Engine) (s : State) :
    c.call next args kwargs s =
      evalBody next ⟨s.heap.size⟩ .nil c.body
        { s with heap := s.heap.alloc ⟨⟨bindings⟩, some c.scope⟩ } := by
  calc c.call next args kwargs s
    _ = (openScope (some c.scope) (.ofList bindings) >>= fun scope =>
          evalBody next ⟨scope⟩ .nil c.body) s := by
        rw [call, hbind]
        rfl
    _ = _ := by
        rw [Keywords.ofList_of_nodup hnodup]
        rfl

theorem call_of_bind_eq_error {e : Error} (hbind : c.params.bind args kwargs = .error e)
    (next : Engine) (s : State) : c.call next args kwargs s = (.error e, s) := by
  rw [call, hbind]
  rfl

/-- **Arguments are bound exactly.**  For a closure whose parameter list has been read, and whatever
the arguments are:

* They are bound if and only if the positional arguments have room, every keyword argument is taken,
  and no required parameter is missing.
* If they are bound, the call evaluates the body in a new child of the closure's scope.  The new
  scope binds each declared name once: a slot to its positional argument, or else to its keyword
  argument, or else to its default; the collecting parameters to what is left over.
* Otherwise what is reported is the lack of room, then the first keyword argument that is not taken,
  then a missing parameter.
* If they are not bound, the call fails with this error and leaves the state as it was. -/
theorem arguments_are_bound_exactly {reader : Engine} {env : Environment} {form : String}
    {list : List Value} {s₀ s₁ : State} {c : Closure Value}
    (hread : Params.read (reader.eval · env) form list s₀ = (.ok c.params, s₁))
    (args : List Value) {kwargs : Keywords Value} (hkwargs : kwargs.Distinct) (next : Engine)
    (s : State) :
    ((∃ bindings, c.params.bind args kwargs = .ok bindings) ↔ c.params.Accepts args kwargs) ∧
    (∀ bindings, c.params.bind args kwargs = .ok bindings →
      c.params.Binds args kwargs bindings ∧
      c.call next args kwargs s =
        evalBody next ⟨s.heap.size⟩ .nil c.body
          { s with heap := s.heap.alloc ⟨⟨bindings⟩, some c.scope⟩ }) ∧
    (¬c.params.TakesPositional args →
      c.params.bind args kwargs =
        .error (.arity none c.params.positionalNames.length args.length)) ∧
    (∀ before key after, c.params.TakesPositional args →
      kwargs.keys = before ++ key :: after → (∀ k ∈ before, c.params.TakesKeyword args k) →
      ¬c.params.TakesKeyword args key →
        c.params.bind args kwargs = .error (c.params.keywordRefusal key) ∧
        (c.params.keywordRefusal key).category = .type) ∧
    (c.params.TakesPositional args → (∀ key ∈ kwargs.keys, c.params.TakesKeyword args key) →
      ¬c.params.Complete args kwargs →
        c.params.bind args kwargs =
          .error (.arity none c.params.required.length (args.length + kwargs.size))) ∧
    (∀ e, c.params.bind args kwargs = .error e → c.call next args kwargs s = (.error e, s)) := by
  have hnodup := Params.nodup_names_of_read hread
  refine ⟨⟨?_, fun haccepts => ?_⟩, fun bindings hbind => ?_, Params.bind_of_surplus, ?_, ?_, ?_⟩
  · rintro ⟨bindings, hbind⟩
    exact Params.accepts_of_bind_eq_ok hnodup hkwargs hbind
  · obtain ⟨bindings, hbind, _⟩ := Params.exists_bind_of_accepts hnodup hkwargs haccepts
    exact ⟨bindings, hbind⟩
  · obtain ⟨bindings', hbind', hbinds⟩ := Params.exists_bind_of_accepts hnodup hkwargs
      (Params.accepts_of_bind_eq_ok hnodup hkwargs hbind)
    obtain rfl : bindings' = bindings := Except.ok.inj (hbind'.symm.trans hbind)
    exact ⟨hbinds, call_of_bind_eq_ok hbind (hbinds.names ▸ hnodup) next s⟩
  · intro before key after hpositional hkeys hbefore hkey
    exact ⟨Params.bind_of_refused_keyword hnodup hkwargs hpositional hkeys hbefore hkey,
      Params.category_keywordRefusal _ _⟩
  · exact Params.bind_of_incomplete hnodup hkwargs
  · exact fun e hbind => call_of_bind_eq_error hbind next s

/-- Two slots are filled, one by position and one by name, and one keyword argument is collected. -/
theorem arguments_of_each_kind_are_bound :
    Params.read (Engine.full.eval · ⟨0⟩) "lambda" [.symbol "a", .list [.symbol "b", .number 1],
        .symbol restMarker, .symbol "more", .symbol extraMarker, .symbol "options"] .initial =
      (.ok ⟨["a"], [("b", .number 1)], some "more", some "options"⟩, .initial) ∧
    (⟨[("c", .number 4), ("b", .number 3)]⟩ : Keywords Value).Distinct ∧
    (⟨["a"], [("b", .number 1)], some "more", some "options"⟩ : Params Value).Binds [.number 2]
      ⟨[("c", .number 4), ("b", .number 3)]⟩
      [("a", .number 2), ("b", .number 3), ("more", .list []),
        ("options", .map ⟨[("c", .number 4)]⟩)] := by
  have hread : Params.read (Engine.full.eval · ⟨0⟩) "lambda" [.symbol "a",
      .list [.symbol "b", .number 1], .symbol restMarker, .symbol "more", .symbol extraMarker,
      .symbol "options"] .initial =
        (.ok ⟨["a"], [("b", .number 1)], some "more", some "options"⟩, .initial) := rfl
  have hdistinct : (⟨[("c", .number 4), ("b", .number 3)]⟩ : Keywords Value).Distinct := by
    unfold Keywords.Distinct Keywords.keys
    decide
  have hbound := arguments_are_bound_exactly
    (c := ⟨0, ⟨["a"], [("b", .number 1)], some "more", some "options"⟩, [.symbol "a"], 0⟩)
    hread [.number 2] hdistinct .full .initial
  exact ⟨hread, hdistinct, (hbound.2.1 _ rfl).1⟩

end Closure

end Homoiconic
