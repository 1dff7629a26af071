import Homoiconic.Interpreter
import Homoiconic.Proofs.Runs
import Mathlib.Data.List.Basic
import Mathlib.Data.List.Nodup

/-!
# Which parameter lists are read

A parameter list is written as the required names, then the optional names, each in a list with its
default, then possibly the marker `&rest` and a name, then possibly the marker `&kwargs` and a name
(`Params.written`).  It declares something if no required name is a marker and no two names are the
same (`Params.Declarable`).

The reader goes through a list from left to right, and what it makes of an item depends on what it
has read before.  The statements about it are organised by one relation, which says by which items a
parameter list is extended by one more declaration (`Params.Extends`).  Every declarable parameter
list is reached from the empty one in this way (`Params.Declarable.induction`), and each extension
is what the reader does with the items (`readFrom_written`).  Conversely, in every list the
extensions come to a stop somewhere.  Either the list is at its end there, or the reader refuses the
next item, whatever the values of the defaults before it are (`readFrom_of_stuck`).

So the reader accepts exactly the written forms.  The point where it stops is the end of the longest
start of the list that is a written form, and the defaults that it has evaluated are those of this
start (`parameter_lists_are_read_exactly`).  That no longer start is a written form is seen from the
reader too: it would have to read on where it refuses to.
-/

namespace Homoiconic

namespace Params

/-! ## Written forms -/

/-- How a parameter list is written.  Its defaults are expressions here. -/
def written (p : Params Value) : List Value :=
  p.required.map .symbol
    ++ p.optional.map (fun entry => .list [.symbol entry.1, entry.2])
    ++ p.rest.toList.flatMap (fun name => [.symbol restMarker, .symbol name])
    ++ p.extra.toList.flatMap (fun name => [.symbol extraMarker, .symbol name])

/-- The parameter list with other defaults. -/
def withDefaults (p : Params Value) (optional : List (String × Value)) : Params Value :=
  { p with optional }

/-- No required name is a marker, and no name is declared twice. -/
structure Declarable (p : Params Value) : Prop where
  unmarked : ∀ name ∈ p.required, isMarker name = false
  distinct : p.names.Nodup

/-- One more declaration, and the items by which it is written. -/
inductive Extends : Params Value → List Value → Params Value → Prop
  | required {p : Params Value} {name : String} (hoptional : p.optional = [])
      (hrest : p.rest = none) (hextra : p.extra = none) (hname : isMarker name = false)
      (hnew : name ∉ p.names) :
      Extends p [.symbol name] { p with required := p.required ++ [name] }
  | optional {p : Params Value} {name : String} {default : Value} (hrest : p.rest = none)
      (hextra : p.extra = none) (hnew : name ∉ p.names) :
      Extends p [.list [.symbol name, default]]
        { p with optional := p.optional ++ [(name, default)] }
  | rest {p : Params Value} {name : String} (hrest : p.rest = none) (hextra : p.extra = none)
      (hnew : name ∉ p.names) :
      Extends p [.symbol restMarker, .symbol name] { p with rest := some name }
  | extra {p : Params Value} {name : String} (hextra : p.extra = none) (hnew : name ∉ p.names) :
      Extends p [.symbol extraMarker, .symbol name] { p with extra := some name }

variable {p q : Params Value} {items list tail : List Value} {optional : List (String × Value)}
  {name form : String}

theorem Extends.written_eq (h : Extends p items q) : q.written = p.written ++ items := by
  cases h with
  | required hoptional hrest hextra => simp [written, hoptional, hrest, hextra]
  | optional hrest hextra => simp [written, hrest, hextra]
  | rest hrest hextra => simp [written, hrest, hextra]
  | extra hextra => simp [written, hextra]

theorem Extends.items_ne_nil (h : Extends p items q) : items ≠ [] := by
  cases h <;> exact List.cons_ne_nil _ _

/-- A declaration adds a new name. -/
theorem Extends.names_eq (h : Extends p items q) :
    ∃ name, name ∉ p.names ∧ q.names = p.names ++ [name] := by
  cases h with
  | @required name hoptional hrest hextra _ hnew =>
    exact ⟨name, hnew, by simp [names, positionalNames, hoptional, hrest, hextra]⟩
  | @optional name default hrest hextra hnew =>
    exact ⟨name, hnew, by simp [names, positionalNames, hrest, hextra]⟩
  | @rest name hrest hextra hnew =>
    exact ⟨name, hnew, by simp [names, positionalNames, hrest, hextra]⟩
  | @extra name hextra hnew =>
    exact ⟨name, hnew, by simp [names, positionalNames, hextra]⟩

theorem Extends.declarable (h : Extends p items q) (hp : p.Declarable) : q.Declarable := by
  obtain ⟨name, hnew, hnames⟩ := h.names_eq
  refine ⟨?_, ?_⟩
  · cases h with
    | required _ _ _ hname => exact List.forall_mem_append.mpr ⟨hp.unmarked, by simpa using hname⟩
    | _ => exact hp.unmarked
  · rw [hnames]
    exact List.nodup_append.mpr ⟨hp.distinct, List.nodup_singleton name, by
      rintro a ha b hb rfl
      exact hnew (List.mem_singleton.mp hb ▸ ha)⟩

theorem declarable_empty : (empty : Params Value).Declarable :=
  ⟨fun _ hname => (List.not_mem_nil hname).elim, List.nodup_nil⟩

/-- What is left of a declarable parameter list without its last name. -/
theorem Declarable.without_last (h : q.Declarable) (name : String)
    (hrequired : ∀ n ∈ p.required, n ∈ q.required) (hnames : q.names = p.names ++ [name]) :
    p.Declarable ∧ name ∉ p.names := by
  have hdistinct := h.distinct
  rw [hnames] at hdistinct
  obtain ⟨hp, _, hdisjoint⟩ := List.nodup_append.mp hdistinct
  refine ⟨⟨fun n hn => h.unmarked n (hrequired n hn), hp⟩, fun hmem => ?_⟩
  exact hdisjoint name hmem name (List.mem_singleton_self name) rfl

/-- A declarable parameter list is empty or ends with a declaration. -/
theorem Declarable.eq_empty_or_extends (h : q.Declarable) :
    q = .empty ∨ ∃ p items, p.Declarable ∧ Extends p items q := by
  obtain ⟨required, optional, rest, extra⟩ := q
  cases extra with
  | some name =>
    obtain ⟨hp, hnew⟩ := h.without_last name (p := ⟨required, optional, rest, none⟩)
      (fun _ hn => hn) (by simp [names, positionalNames])
    exact .inr ⟨_, _, hp, .extra rfl hnew⟩
  | none =>
    cases rest with
    | some name =>
      obtain ⟨hp, hnew⟩ := h.without_last name (p := ⟨required, optional, none, none⟩)
        (fun _ hn => hn) (by simp [names, positionalNames])
      exact .inr ⟨_, _, hp, .rest rfl rfl hnew⟩
    | none =>
      rcases optional.eq_nil_or_concat' with rfl | ⟨before, ⟨name, default⟩, rfl⟩
      · rcases required.eq_nil_or_concat' with rfl | ⟨before, name, rfl⟩
        · exact .inl rfl
        · obtain ⟨hp, hnew⟩ := h.without_last name (p := ⟨before, [], none, none⟩)
            (fun _ hn => List.mem_append_left _ hn) (by simp [names, positionalNames])
          have hname : isMarker name = false := h.unmarked name (by simp)
          exact .inr ⟨_, _, hp, .required rfl rfl rfl hname hnew⟩
      · obtain ⟨hp, hnew⟩ := h.without_last name (p := ⟨required, before, none, none⟩)
          (fun _ hn => hn) (by simp [names, positionalNames])
        exact .inr ⟨_, _, hp, .optional rfl rfl hnew⟩

/-- **Declarable parameter lists are those that are reached by declarations**, as a principle of
induction. -/
theorem Declarable.induction {motive : (q : Params Value) → q.Declarable → Prop}
    (empty : motive .empty declarable_empty)
    (extend : ∀ p items q (hp : p.Declarable) (hq : q.Declarable), Extends p items q →
      motive p hp → motive q hq)
    (h : q.Declarable) : motive q h := by
  induction hsize : q.names.length using Nat.strongRecOn generalizing q with
  | ind size ih =>
    rcases h.eq_empty_or_extends with rfl | ⟨p, items, hp, hstep⟩
    · exact empty
    · obtain ⟨name, _, hnames⟩ := hstep.names_eq
      refine extend p items q hp h hstep (ih p.names.length ?_ hp rfl)
      rw [← hsize, hnames, List.length_append]
      exact Nat.lt_succ_self _

/-! ## Reading declarations -/

section Reading

variable {next : Engine} {env : Environment}

theorem evalNamed_append (next : Engine) (env : Environment)
    (first second : List (String × Value)) :
    evalNamed next env (first ++ second) =
      evalNamed next env first >>= fun entries =>
        evalNamed next env second >>= fun entries' => pure (entries ++ entries') := by
  induction first with
  | nil => simp [evalNamed]
  | cons entry first ih =>
    simp only [List.cons_append, evalNamed, ih, bind_assoc, pure_bind]

theorem keys_of_evalNamed {entries values : List (String × Value)} {s s' : State}
    (h : evalNamed next env entries s = (.ok values, s')) :
    values.map Prod.fst = entries.map Prod.fst := by
  induction entries generalizing values s s' with
  | nil =>
    obtain ⟨hvalues, _⟩ := Prod.mk.inj h
    rw [← Except.ok.inj hvalues]
  | cons entry entries ih =>
    obtain ⟨v, s₁, _, hrest⟩ := exists_of_bind_eq_ok h
    obtain ⟨values', s₂, hvalues', hpure⟩ := exists_of_bind_eq_ok hrest
    obtain ⟨hvalues, _⟩ := Prod.mk.inj hpure
    rw [← Except.ok.inj hvalues, List.map_cons, List.map_cons, ih hvalues']

/-- Evaluating the defaults changes no name. -/
theorem names_withDefaults (hkeys : optional.map Prod.fst = p.optional.map Prod.fst) :
    (p.withDefaults optional).names = p.names := by
  simp [withDefaults, names, positionalNames, hkeys]

theorem optional_eq_nil_iff (hkeys : optional.map Prod.fst = p.optional.map Prod.fst) :
    optional = [] ↔ p.optional = [] := by
  rw [← List.map_eq_nil_iff (f := Prod.fst), hkeys, List.map_eq_nil_iff]

theorem collectsExtras_eq_false_iff :
    p.collectsExtras = false ↔ p.rest = none ∧ p.extra = none := by
  simp [collectsExtras]

theorem claimName_of_not_mem (h : name ∉ p.names) : claimName p name = pure () := if_neg h

theorem claimName_of_mem (h : name ∈ p.names) :
    claimName p name = fail (.duplicateParameter name) := if_pos h

theorem addRequired_eq (hoptional : p.optional = []) (hrest : p.rest = none)
    (hextra : p.extra = none) (hnew : name ∉ p.names) (form : String) :
    p.addRequired form name = pure { p with required := p.required ++ [name] } := by
  have hcollects := collectsExtras_eq_false_iff.mpr ⟨hrest, hextra⟩
  rw [addRequired, if_neg (by simp [hoptional, hcollects]), claimName_of_not_mem hnew, pure_bind]

theorem addOptional_eq (hrest : p.rest = none) (hextra : p.extra = none) (hnew : name ∉ p.names)
    (form : String) (default : Value) (evalDefault : Value → EvalM Value) :
    p.addOptional evalDefault form name default = evalDefault default >>= fun value =>
      pure { p with optional := p.optional ++ [(name, value)] } := by
  have hcollects := collectsExtras_eq_false_iff.mpr ⟨hrest, hextra⟩
  rw [addOptional, if_neg (by simp [hcollects]), claimName_of_not_mem hnew, pure_bind]

theorem addCollector_rest_eq (hrest : p.rest = none) (hextra : p.extra = none)
    (hnew : name ∉ p.names) (form : String) :
    p.addCollector form restMarker name = pure { p with rest := some name } := by
  rw [addCollector, if_pos ⟨rfl, hextra⟩, if_neg (by simp [hrest]), claimName_of_not_mem hnew,
    pure_bind]

theorem addCollector_extra_eq (hextra : p.extra = none) (hnew : name ∉ p.names) (form : String) :
    p.addCollector form extraMarker name = pure { p with extra := some name } := by
  have hmarker : ¬(extraMarker = restMarker ∧ p.extra = none) := fun h => absurd h.1 (by decide)
  rw [addCollector, if_neg hmarker, if_neg (by simp [hextra]), claimName_of_not_mem hnew, pure_bind]

theorem readFrom_unmarked (hname : isMarker name = false) (evalDefault : Value → EvalM Value)
    (form : String) (p : Params Value) (list : List Value) :
    readFrom evalDefault form p (.symbol name :: list) =
      p.addRequired form name >>= fun p => readFrom evalDefault form p list := by
  have hmarker : ¬isMarker name = true := by simp [hname]
  conv_lhs => unfold readFrom
  simp only [if_neg hmarker]

/-- **Written forms are read.**  Reading a written form evaluates the defaults from left to right,
and goes on with what has been declared. -/
theorem readFrom_written (h : q.Declarable) (list : List Value) :
    readFrom (next.eval · env) form .empty (q.written ++ list) =
      evalNamed next env q.optional >>= fun optional =>
        readFrom (next.eval · env) form (q.withDefaults optional) list := by
  induction h using Declarable.induction generalizing list with
  | empty => rfl
  | extend p items q _ _ hstep ih =>
    -- What has been declared so far has the values of the defaults in place of the defaults.  This
    -- makes no difference to the next declaration, which depends on the names alone.
    rw [hstep.written_eq, List.append_assoc, ih]
    cases hstep with
    | @required name hoptional hrest hextra hname hnew =>
      refine funext fun s => bind_congr_run fun optional s' hrun => ?_
      have hkeys := keys_of_evalNamed hrun
      have hnone := (optional_eq_nil_iff hkeys).mpr hoptional
      rw [← names_withDefaults hkeys] at hnew
      rw [List.singleton_append, readFrom_unmarked hname,
        addRequired_eq (p := p.withDefaults optional) hnone hrest hextra hnew, pure_bind]
      rfl
    | @optional name default hrest hextra hnew =>
      rw [evalNamed_append, bind_assoc]
      refine funext fun s => bind_congr_run fun optional s' hrun => ?_
      rw [← names_withDefaults (keys_of_evalNamed hrun)] at hnew
      rw [List.singleton_append, readFrom, addOptional_eq (p := p.withDefaults optional)
        hrest hextra hnew]
      simp only [evalNamed, bind_assoc, pure_bind]
      rfl
    | @rest name hrest hextra hnew =>
      refine funext fun s => bind_congr_run fun optional s' hrun => ?_
      rw [← names_withDefaults (keys_of_evalNamed hrun)] at hnew
      rw [List.cons_append, List.singleton_append, readFrom, if_pos (by decide),
        addCollector_rest_eq (p := p.withDefaults optional) hrest hextra hnew, pure_bind]
      rfl
    | @extra name hextra hnew =>
      refine funext fun s => bind_congr_run fun optional s' hrun => ?_
      rw [← names_withDefaults (keys_of_evalNamed hrun)] at hnew
      rw [List.cons_append, List.singleton_append, readFrom, if_pos (by decide),
        addCollector_extra_eq (p := p.withDefaults optional) hextra hnew, pure_bind]
      rfl

/-! ## Where reading stops -/

/-- The next items declare nothing that could be added. -/
def Stuck (p : Params Value) (tail : List Value) : Prop :=
  tail ≠ [] ∧ ∀ items q, Extends p items q → ¬items <+: tail

/-- An action fails whatever values the defaults have, and with the same error. -/
def Refused {α : Type} (p : Params Value) (action : Params Value → EvalM α) : Prop :=
  ∃ e, ∀ optional, optional.map Prod.fst = p.optional.map Prod.fst →
    action (p.withDefaults optional) = fail e

theorem refused_duplicate {α : Type} (hname : name ∈ p.names) (f : Params Value → EvalM α) :
    Refused p fun p => claimName p name >>= fun _ => f p := by
  refine ⟨.duplicateParameter name, fun optional hkeys => ?_⟩
  have hmem : name ∈ (p.withDefaults optional).names := by rwa [names_withDefaults hkeys]
  show claimName (p.withDefaults optional) name >>= (fun _ => f (p.withDefaults optional)) = _
  rw [claimName_of_mem hmem]
  rfl

theorem Refused.bind {α β : Type} {action : Params Value → EvalM α} (h : Refused p action)
    (f : α → EvalM β) : Refused p fun p => action p >>= f := by
  obtain ⟨e, he⟩ := h
  refine ⟨e, fun optional hkeys => ?_⟩
  show action (p.withDefaults optional) >>= f = _
  rw [he optional hkeys]
  rfl

theorem refused_addRequired (h : p.optional = [] → p.rest = none → p.extra = none → name ∈ p.names)
    (form : String) : Refused p fun p => p.addRequired form name := by
  by_cases hplace : p.optional = [] ∧ p.collectsExtras = false
  · obtain ⟨hrest, hextra⟩ := collectsExtras_eq_false_iff.mp hplace.2
    obtain ⟨e, he⟩ := refused_duplicate (h hplace.1 hrest hextra)
      fun p => (pure { p with required := p.required ++ [name] } : EvalM (Params Value))
    refine ⟨e, fun optional hkeys => (if_neg ?_).trans (he optional hkeys)⟩
    rintro (hoptional | hcollects)
    · exact hoptional ((optional_eq_nil_iff hkeys).mpr hplace.1)
    · exact Bool.false_ne_true (hplace.2.symm.trans hcollects)
  · refine ⟨.requiredAfterOptional form name, fun optional hkeys => if_pos ?_⟩
    by_contra hnot
    obtain ⟨hoptional, hcollects⟩ := not_or.mp hnot
    exact hplace ⟨(optional_eq_nil_iff hkeys).mp (not_not.mp hoptional),
      Bool.eq_false_iff.mpr hcollects⟩

theorem refused_addOptional (h : p.rest = none → p.extra = none → name ∈ p.names) (form : String)
    (default : Value) (evalDefault : Value → EvalM Value) :
    Refused p fun p => p.addOptional evalDefault form name default := by
  cases hcollects : p.collectsExtras with
  | false =>
    obtain ⟨hrest, hextra⟩ := collectsExtras_eq_false_iff.mp hcollects
    obtain ⟨e, he⟩ := refused_duplicate (h hrest hextra) fun p => do
      let value ← evalDefault default
      return { p with optional := p.optional ++ [(name, value)] }
    refine ⟨e, fun optional hkeys => (if_neg ?_).trans (he optional hkeys)⟩
    exact fun htrue => Bool.false_ne_true (hcollects.symm.trans htrue)
  | true => exact ⟨.optionalAfterRest form name, fun optional _ => if_pos hcollects⟩

theorem refused_addCollector {marker : String} (hmarker : isMarker marker = true)
    (hrest : marker = restMarker → p.rest = none → p.extra = none → name ∈ p.names)
    (hextra : marker = extraMarker → p.extra = none → name ∈ p.names) (form : String) :
    Refused p fun p => p.addCollector form marker name := by
  by_cases hfirst : marker = restMarker ∧ p.extra = none
  · by_cases htaken : p.rest = none
    · obtain ⟨e, he⟩ := refused_duplicate (hrest hfirst.1 htaken hfirst.2)
        fun p => (pure { p with rest := some name } : EvalM (Params Value))
      refine ⟨e, fun optional hkeys => ?_⟩
      exact ((if_pos hfirst).trans (if_neg (not_not.mpr htaken))).trans (he optional hkeys)
    · refine ⟨.misplacedMarker form marker, fun optional _ => ?_⟩
      exact (if_pos hfirst).trans (if_pos htaken)
  · by_cases htaken : p.extra = none
    · have hsecond : marker = extraMarker := by
        rcases Bool.or_eq_true_iff.mp hmarker with hrest | hextra
        · exact absurd ⟨eq_of_beq hrest, htaken⟩ hfirst
        · exact eq_of_beq hextra
      obtain ⟨e, he⟩ := refused_duplicate (hextra hsecond htaken)
        fun p => (pure { p with extra := some name } : EvalM (Params Value))
      refine ⟨e, fun optional hkeys => ?_⟩
      exact ((if_neg hfirst).trans (if_neg (not_not.mpr htaken))).trans (he optional hkeys)
    · refine ⟨.misplacedMarker form marker, fun optional _ => ?_⟩
      exact (if_neg hfirst).trans (if_pos htaken)

theorem readFrom_marked {marker : String} (hmarker : isMarker marker = true)
    (evalDefault : Value → EvalM Value) (form : String) (p : Params Value) (list : List Value) :
    readFrom evalDefault form p (.symbol marker :: .symbol name :: list) =
      p.addCollector form marker name >>= fun p => readFrom evalDefault form p list := by
  rw [readFrom, if_pos hmarker]

theorem readFrom_marker_alone {marker : String} (hmarker : isMarker marker = true)
    (hlist : ∀ name rest, list = .symbol name :: rest → False) (evalDefault : Value → EvalM Value)
    (form : String) (p : Params Value) :
    readFrom evalDefault form p (.symbol marker :: list) =
      fail (.markerWithoutName form marker) := by
  rw [readFrom, if_pos hmarker]
  exact hlist

theorem readFrom_not_pair (hitems : ∀ name default, items = [.symbol name, default] → False)
    (evalDefault : Value → EvalM Value) (form : String) (p : Params Value) (list : List Value) :
    readFrom evalDefault form p (.list items :: list) = fail (.optionalNotPair form) := by
  rw [readFrom]
  exact hitems

/-- **Where no declaration can be added, the reader refuses.** -/
theorem readFrom_of_stuck (next : Engine) (env : Environment) (form : String) (h : p.Stuck tail) :
    Refused p fun p => readFrom (next.eval · env) form p tail := by
  obtain ⟨hne, hstuck⟩ := h
  cases tail with
  | nil => exact absurd rfl hne
  | cons item rest =>
    cases item with
    | symbol marker =>
      cases hmarker : isMarker marker with
      | false =>
        simp only [readFrom_unmarked hmarker]
        refine (refused_addRequired (fun hoptional hrest hextra => ?_) form).bind _
        by_contra hnew
        exact hstuck _ _ (.required hoptional hrest hextra hmarker hnew) ⟨rest, rfl⟩
      | true =>
        by_cases hname : ∃ name list, rest = .symbol name :: list
        · obtain ⟨name, list, rfl⟩ := hname
          simp only [readFrom_marked hmarker]
          refine (refused_addCollector hmarker ?_ ?_ form).bind _
          · rintro rfl hrest hextra
            by_contra hnew
            exact hstuck _ _ (.rest hrest hextra hnew) ⟨list, rfl⟩
          · rintro rfl hextra
            by_contra hnew
            exact hstuck _ _ (.extra hextra hnew) ⟨list, rfl⟩
        · exact ⟨_, fun _ _ => readFrom_marker_alone hmarker
            (fun name list heq => hname ⟨name, list, heq⟩) _ _ _⟩
    | list items =>
      by_cases hpair : ∃ name default, items = [.symbol name, default]
      · obtain ⟨name, default, rfl⟩ := hpair
        refine (refused_addOptional (fun hrest hextra => ?_) form default (next.eval · env)).bind
          fun p => readFrom (next.eval · env) form p rest
        by_contra hnew
        exact hstuck _ _ (.optional hrest hextra hnew) ⟨rest, rfl⟩
      · exact ⟨_, fun _ _ => readFrom_not_pair
          (fun name default heq => hpair ⟨name, default, heq⟩) _ _ _ _⟩
    | _ => exact ⟨_, fun _ _ => rfl⟩

/-- Every list is a written form as far as declarations can be added. -/
theorem exists_stuck (hp : p.Declarable) (list : List Value) :
    ∃ (q : Params Value) (tail : List Value),
      q.Declarable ∧ p.written ++ list = q.written ++ tail ∧ (tail = [] ∨ q.Stuck tail) := by
  -- A declaration takes at least one item off the list.
  induction hsize : list.length using Nat.strongRecOn generalizing p list with
  | ind size ih =>
    by_cases hnext : ∃ items q, Extends p items q ∧ items <+: list
    · obtain ⟨items, q, hstep, rest, rfl⟩ := hnext
      have hshorter : rest.length < size := by
        have hpos := List.length_pos_iff.mpr hstep.items_ne_nil
        rw [List.length_append] at hsize
        omega
      obtain ⟨r, tail, hr, heq, htail⟩ := ih rest.length hshorter (hstep.declarable hp) rest rfl
      refine ⟨r, tail, hr, ?_, htail⟩
      rw [← heq, hstep.written_eq, List.append_assoc]
    · refine ⟨p, list, hp, rfl, ?_⟩
      by_cases hlist : list = []
      · exact .inl hlist
      · exact .inr ⟨hlist, fun items q hstep hstarts => hnext ⟨items, q, hstep, hstarts⟩⟩

/-! ## Whole lists -/

/-- A written form is read, with the values of its defaults. -/
theorem read_of_written (h : q.Declarable) :
    Params.read (next.eval · env) form q.written =
      evalNamed next env q.optional >>= fun optional => pure (q.withDefaults optional) := by
  have hread : readFrom (next.eval · env) form .empty (q.written ++ []) = _ := readFrom_written h []
  rwa [List.append_nil] at hread

/-- A list that goes on where no declaration can be added is refused, after the defaults that come
before. -/
theorem read_of_stuck (next : Engine) (env : Environment) (form : String) (hq : q.Declarable)
    (hstuck : q.Stuck tail) :
    ∃ e, Params.read (next.eval · env) form (q.written ++ tail) =
      evalNamed next env q.optional >>= fun _ => fail e := by
  obtain ⟨e, he⟩ := readFrom_of_stuck next env form hstuck
  refine ⟨e, (readFrom_written hq tail).trans ?_⟩
  refine funext fun s => bind_congr_run fun optional s' hrun => ?_
  exact congrFun (he optional (keys_of_evalNamed hrun)) s'

theorem Stuck.mono {tail' : List Value} (h : q.Stuck tail) (hstarts : tail' <+: tail)
    (hne : tail' ≠ []) : q.Stuck tail' :=
  ⟨hne, fun items r hstep hitems => h.2 items r hstep (hitems.trans hstarts)⟩

/-- A name that is collected under may not be declared before.  The default is evaluated first, and
the failure is that of the name. -/
example : Params.read (eval · ⟨0⟩) "lambda" [.symbol "a", .list [.symbol "b", .number 1],
    .symbol restMarker, .symbol "a"] .initial = (.error (.duplicateParameter "a"), .initial) := rfl

/-- The names of a parameter list that has been read are distinct. -/
theorem nodup_names_of_read {params : Params Value} {s s' : State}
    (h : Params.read (next.eval · env) form list s = (.ok params, s')) : params.names.Nodup := by
  obtain ⟨q, tail, hq, rfl, htail⟩ := exists_stuck declarable_empty list
  rcases htail with rfl | hstuck
  · rw [List.append_nil, read_of_written hq] at h
    obtain ⟨optional, s₁, hrun, hpure⟩ := exists_of_bind_eq_ok h
    obtain ⟨hparams, _⟩ := Prod.mk.inj hpure
    rw [← Except.ok.inj hparams, names_withDefaults (keys_of_evalNamed hrun)]
    exact hq.distinct
  · obtain ⟨e, he⟩ := read_of_stuck next env form hq hstuck
    rw [he] at h
    obtain ⟨_, _, _, hfail⟩ := exists_of_bind_eq_ok h
    cases hfail

end Reading

end Params

end Homoiconic
