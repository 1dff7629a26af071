import Homoiconic.Interpreter
import Homoiconic.Registry
import Homoiconic.Proofs.Listings
import Homoiconic.Proofs.Parts
import Mathlib.Data.List.Forall2

/-!
# Equality is an equivalence

Two values are equal if they are built alike and their parts are equal (`Alike`, which says so for a
relation of parts that is left open).  For most shapes nothing else has to be said: the parts are
compared one against one, so that symmetry and transitivity pass from the parts to the whole.

Maps are the exception.  They are compared from one side: as many entries, and every entry of the
first is found in the second.  If the second map bound a name twice, the first could leave out one
of its other names, and the comparison from the other side would fail.  A map built by insertion and
erasure binds no name twice, and then counting settles it: names of the first that are all names of
the second, and as many, are all the names of the second.  So the maps agree at every name
(`Keywords.matches_iff_agree`), which is the same from both sides.

Both halves are put together by induction along the parts.  The hypothesis is that every keyword map
in the values, however deep, was made by the operations on keyword maps (`WellKeyed`).

Two consequences follow.  Parts that are one and the same in memory need not be compared: wherever
such a shortcut is taken, it gives the answer that the comparison would have given
(`Comparison`).  And the primitive that compares several values with the first of them compares, in
effect, all with all; so it does not matter in what order they come.
-/

namespace Homoiconic

universe u v w

/-! ## Maps that agree -/

namespace Keywords

variable {α : Type u} {β : Type v}

/-- The maps that the operations on keyword maps can make. -/
inductive Made : Keywords α → Prop
  | empty : Made .empty
  | insert {m : Keywords α} (made : Made m) (key : String) (value : α) : Made (m.insert key value)
  | erase {m : Keywords α} (made : Made m) (key : String) : Made (m.erase key)
  | ofList (entries : List (String × α)) : Made (.ofList entries)

/-- **The operations make exactly the maps that bind no name twice.** -/
theorem made_iff_distinct {m : Keywords α} : m.Made ↔ m.Distinct := by
  constructor
  · intro h
    induction h with
    | empty => exact distinct_empty
    | insert _ key value ih => exact distinct_insert ih key value
    | erase _ key ih => exact distinct_erase ih key
    | ofList entries => exact distinct_ofList entries
  · intro h
    have hmade := Made.ofList m.entries
    rwa [ofList_of_nodup h] at hmade

/-- Every name finds related values in both lists, or nothing in either. -/
def Agree (r : α → β → Prop) (a : List (String × α)) (b : List (String × β)) : Prop :=
  ∀ key, Option.Rel r (a.lookup key) (b.lookup key)

/-- The comparison from one side: the lists are equally long, and what an entry of the first one
holds is related to what its name finds in the second. -/
def Matches (r : α → β → Prop) (a : List (String × α)) (b : List (String × β)) : Prop :=
  a.length = b.length ∧ ∀ entry ∈ a, ∃ w, b.lookup entry.1 = some w ∧ r entry.2 w

section Agree

variable {r : α → β → Prop} {a : List (String × α)} {b : List (String × β)}

/-- Lists that agree have the same names. -/
theorem Agree.mem_keys_iff (h : Agree r a b) (key : String) :
    key ∈ a.map Prod.fst ↔ key ∈ b.map Prod.fst := by
  rw [Keywords.mem_keys_iff, Keywords.mem_keys_iff]
  have hkey := h key
  generalize a.lookup key = x, b.lookup key = y at hkey
  cases hkey <;> simp

/-- **Comparing from one side is comparing from both**, where names are distinct.  The names of the
first list are among those of the second, and there are as many of them, so they are all. -/
theorem matches_iff_agree (ha : (a.map Prod.fst).Nodup) (hb : (b.map Prod.fst).Nodup) :
    Matches r a b ↔ Agree r a b := by
  constructor
  · rintro ⟨hlength, hfound⟩ key
    have hsubset : a.map Prod.fst ⊆ b.map Prod.fst := by
      intro name hname
      obtain ⟨entry, hentry, rfl⟩ := List.mem_map.mp hname
      obtain ⟨w, hw, _⟩ := hfound entry hentry
      exact mem_keys_iff.mpr ⟨w, hw⟩
    have hperm : (a.map Prod.fst).Perm (b.map Prod.fst) := by
      refine (List.subperm_of_subset ha hsubset).perm_of_length_le ?_
      rw [List.length_map, List.length_map, hlength]
    cases hkey : a.lookup key with
    | some v =>
      obtain ⟨w, hw, hvw⟩ := hfound (key, v) ((lookup_eq_some_iff_mem ha).mp hkey)
      rw [hw]
      exact .some hvw
    | none =>
      have hfresh : key ∉ b.map Prod.fst := by
        rw [← hperm.mem_iff, mem_keys_iff, hkey]
        simp
      have hnone : b.lookup key = none := by
        rw [mem_keys_iff] at hfresh
        exact Option.eq_none_iff_forall_ne_some.mpr fun w hw => hfresh ⟨w, hw⟩
      rw [hnone]
      exact .none
  · intro h
    constructor
    · have hperm : (a.map Prod.fst).Perm (b.map Prod.fst) :=
        (List.perm_ext_iff_of_nodup ha hb).mpr h.mem_keys_iff
      simpa using hperm.length_eq
    · rintro ⟨key, v⟩ hentry
      have hkey := h key
      rw [(lookup_eq_some_iff_mem ha).mpr hentry] at hkey
      cases hlookup : b.lookup key with
      | none =>
        rw [hlookup] at hkey
        cases hkey
      | some w =>
        rw [hlookup] at hkey
        obtain ⟨hvw⟩ := hkey
        exact ⟨w, rfl, hvw⟩

end Agree

section Matches

variable {r r' : α → β → Prop} {a : List (String × α)} {b : List (String × β)}

theorem mem_of_lookup {key : String} {v : α} (h : a.lookup key = some v) : (key, v) ∈ a := by
  obtain ⟨before, after, hentries, _⟩ := List.lookup_eq_some_iff.mp h
  rw [hentries]
  exact List.mem_append_right _ List.mem_cons_self

theorem Matches.imp_of_mem (h : Matches r a b)
    (himp : ∀ v ∈ a.map Prod.snd, ∀ w ∈ b.map Prod.snd, r v w → r' v w) : Matches r' a b := by
  obtain ⟨hlength, hfound⟩ := h
  refine ⟨hlength, fun entry hentry => ?_⟩
  obtain ⟨w, hw, hvw⟩ := hfound entry hentry
  exact ⟨w, hw, himp _ (List.mem_map_of_mem hentry) w (List.mem_map_of_mem (mem_of_lookup hw)) hvw⟩

/-- Where names are distinct, it does not matter from which side two lists are compared. -/
theorem Matches.symm (ha : (a.map Prod.fst).Nodup) (hb : (b.map Prod.fst).Nodup)
    (h : Matches r a b) : Matches (fun w v => r v w) b a := by
  rw [matches_iff_agree ha hb] at h
  rw [matches_iff_agree hb ha]
  intro key
  have hkey := h key
  generalize a.lookup key = x, b.lookup key = y at hkey ⊢
  cases hkey with
  | some hvw => exact .some hvw
  | none => exact .none

theorem Matches.comp {γ : Type w} {s : β → γ → Prop} {c : List (String × γ)} (h : Matches r a b)
    (h' : Matches s b c) :
    Matches (fun v x => ∃ w ∈ b.map Prod.snd, r v w ∧ s w x) a c := by
  obtain ⟨hlength, hfound⟩ := h
  obtain ⟨hlength', hfound'⟩ := h'
  refine ⟨hlength.trans hlength', fun entry hentry => ?_⟩
  obtain ⟨w, hw, hvw⟩ := hfound entry hentry
  obtain ⟨x, hx, hwx⟩ := hfound' (entry.1, w) (mem_of_lookup hw)
  exact ⟨x, hx, w, List.mem_map_of_mem (mem_of_lookup hw), hvw, hwx⟩

end Matches

end Keywords

/-! ## Lists of related elements -/

section Forall₂

variable {α : Type u} {β : Type v} {γ : Type w} {r r' : α → β → Prop} {s : β → γ → Prop}

/-- A relation of elements can be exchanged for another that holds of those that occur. -/
theorem forall₂_imp_of_mem {l : List α} {m : List β} (h : List.Forall₂ r l m)
    (himp : ∀ a ∈ l, ∀ b ∈ m, r a b → r' a b) : List.Forall₂ r' l m := by
  obtain ⟨hlength, hzip⟩ := List.forall₂_iff_zip.mp h
  refine List.forall₂_iff_zip.mpr ⟨hlength, fun {a b} hab => ?_⟩
  obtain ⟨ha, hb⟩ := List.of_mem_zip hab
  exact himp a ha b hb (hzip hab)

theorem forall₂_comp {l : List α} {m : List β} {n : List γ} (h : List.Forall₂ r l m)
    (h' : List.Forall₂ s m n) : List.Forall₂ (fun a c => ∃ b ∈ m, r a b ∧ s b c) l n := by
  induction h generalizing n with
  | nil =>
    cases h'
    exact .nil
  | @cons a b l m hab _ ih =>
    cases h' with
    | @cons _ c _ n hbc hrest =>
      refine .cons ⟨b, List.mem_cons_self, hab, hbc⟩ ((ih hrest).imp ?_)
      rintro a' c' ⟨b', hmem, hab', hbc'⟩
      exact ⟨b', List.mem_cons_of_mem _ hmem, hab', hbc'⟩

end Forall₂

/-! ## Callables -/

section Callables

variable {α : Type}

theorem Operation.same_comm (o p : Operation α) : o.same p = p.same o := by
  cases o <;> cases p <;> simp [same, Bool.beq_comm]

theorem Operation.same_trans {o p q : Operation α} (h : o.same p = true) (h' : p.same q = true) :
    o.same q = true := by
  cases o <;> cases p <;> cases q <;> simp_all [same]

theorem Expander.same_comm (d e : Expander α) : d.same e = e.same d := by
  cases d <;> cases e <;> simp [same, Bool.beq_comm]

theorem Expander.same_trans {c d e : Expander α} (h : c.same d = true) (h' : d.same e = true) :
    c.same e = true := by
  cases c <;> cases d <;> cases e <;> simp_all [same]

theorem StackOperation.same_comm (o p : StackOperation) : o.same p = p.same o := by
  cases o <;> cases p <;> simp [same, Bool.beq_comm]

theorem StackOperation.same_trans {o p q : StackOperation} (h : o.same p = true)
    (h' : p.same q = true) : o.same q = true := by
  cases o <;> cases p <;> cases q <;> simp_all [same]

theorem Function.same_comm (f g : Function α) : f.same g = g.same f := by
  obtain ⟨name, callable⟩ := f
  obtain ⟨name', callable'⟩ := g
  cases callable with
  | plain o =>
    cases callable' with
    | plain p => simp [same, Bool.beq_comm (a := name), Operation.same_comm o]
    | expander e => simp [same]
  | expander d =>
    cases callable' with
    | plain p => simp [same]
    | expander e => simp [same, Bool.beq_comm (a := name), Expander.same_comm d]

theorem Function.same_trans {f g k : Function α} (h : f.same g = true) (h' : g.same k = true) :
    f.same k = true := by
  obtain ⟨name, callable⟩ := f
  obtain ⟨name', callable'⟩ := g
  obtain ⟨name'', callable''⟩ := k
  cases callable <;> cases callable' <;> cases callable'' <;>
    simp only [same, Bool.and_eq_true, Bool.false_eq_true, and_false, beq_iff_eq] at h h' ⊢
  · exact ⟨h.1.trans h'.1, Operation.same_trans h.2 h'.2⟩
  · exact ⟨h.1.trans h'.1, Expander.same_trans h.2 h'.2⟩

end Callables

/-! ## The rule of comparison -/

namespace Value

/-- The keyword map that a value is or, if it is a call, takes arguments from. -/
def keywords? : Value → Option (Keywords Value)
  | .map entries => some entries
  | .call node => some node.named
  | _ => none

/-- Every keyword map in the value, however deep it lies, was made by the operations on keyword
maps. -/
def WellKeyed (v : Value) : Prop := Everywhere Value.parts (fun w => ∀ m ∈ w.keywords?, m.Made) v

/-- A value without keyword maps and parts. -/
theorem wellKeyed_leaf {v : Value} (hkeywords : v.keywords? = none) (hparts : v.parts = []) :
    v.WellKeyed := by
  constructor
  · simp [hkeywords]
  · simp [hparts]

theorem wellKeyed_map {m : Keywords Value} (hmade : m.Made)
    (hvalues : ∀ v ∈ m.values, v.WellKeyed) : (Value.map m).WellKeyed := by
  constructor
  · rintro _ ⟨⟩
    exact hmade
  · exact hvalues

theorem WellKeyed.distinct {v : Value} (h : v.WellKeyed) : ∀ m ∈ v.keywords?, m.Distinct :=
  fun m hm => Keywords.made_iff_distinct.mp (h.here m hm)

/-- **The rule by which values are compared**, given how their parts are: two values are built
alike, and their parts are related. -/
inductive Alike (r : Value → Value → Prop) : Value → Value → Prop
  | nil : Alike r .nil .nil
  | bool (b : Bool) : Alike r (.bool b) (.bool b)
  | number (n : Int64) : Alike r (.number n) (.number n)
  | string (s : String) : Alike r (.string s) (.string s)
  | symbol (name : String) : Alike r (.symbol name) (.symbol name)
  | list {items items' : List Value} (each : List.Forall₂ r items items') :
      Alike r (.list items) (.list items')
  | map {m m' : Keywords Value} (found : Keywords.Matches r m.entries m'.entries) :
      Alike r (.map m) (.map m')
  | call {node node' : CallNode Value} (target : r node.target node'.target)
      (positional : List.Forall₂ r node.positional node'.positional)
      (named : Keywords.Matches r node.named.entries node'.named.entries) :
      Alike r (.call node) (.call node')
  | quote {inner inner' : Value} (inside : r inner inner') :
      Alike r (.quote inner) (.quote inner')
  | function {f g : Function Value} (same : f.same g = true) : Alike r (.function f) (.function g)
  | explicit (name : String) {o p : StackOperation} (same : o.same p = true) :
      Alike r (.combinator (.explicit name o)) (.combinator (.explicit name p))
  | positional (name : String) {o p : Operation Value} (same : o.same p = true) :
      Alike r (.combinator (.positional name o)) (.combinator (.positional name p))
  | keyword (name : String) {o p : Operation Value} (same : o.same p = true) :
      Alike r (.combinator (.keyword name o)) (.combinator (.keyword name p))
  | popping (name : String) (count : Nat) {o p : Operation Value} (same : o.same p = true) :
      Alike r (.combinator (.popping name count o)) (.combinator (.popping name count p))
  | phrase (name : String) {program program' : List Value}
      (each : List.Forall₂ r program program') :
      Alike r (.combinator (.phrase ⟨name, program⟩)) (.combinator (.phrase ⟨name, program'⟩))
  | definition (convention : Convention) (least most : Option Nat) {program program' : List Value}
      (each : List.Forall₂ r program program') :
      Alike r (.definition ⟨program, convention, least, most⟩)
        (.definition ⟨program', convention, least, most⟩)
  | stack {s t : Stack Value} (each : List.Forall₂ r s.toList t.toList) :
      Alike r (.stack s) (.stack t)

namespace Alike

variable {r r' s : Value → Value → Prop} {u v w : Value}

theorem imp_of_mem (h : Alike r v w) (himp : ∀ a ∈ v.parts, ∀ b ∈ w.parts, r a b → r' a b) :
    Alike r' v w := by
  cases h with
  | nil => exact .nil
  | bool b => exact .bool b
  | number n => exact .number n
  | string s => exact .string s
  | symbol name => exact .symbol name
  | list each => exact .list (forall₂_imp_of_mem each himp)
  | map found => exact .map (found.imp_of_mem himp)
  | call target positional named =>
    refine .call (himp _ List.mem_cons_self _ List.mem_cons_self target)
      (forall₂_imp_of_mem positional fun a ha b hb => himp a ?_ b ?_)
      (named.imp_of_mem fun a ha b hb => himp a ?_ b ?_)
    · exact List.mem_cons_of_mem _ (List.mem_append_left _ ha)
    · exact List.mem_cons_of_mem _ (List.mem_append_left _ hb)
    · exact List.mem_cons_of_mem _ (List.mem_append_right _ ha)
    · exact List.mem_cons_of_mem _ (List.mem_append_right _ hb)
  | quote inside => exact .quote (himp _ List.mem_cons_self _ List.mem_cons_self inside)
  | function same => exact .function same
  | explicit name same => exact .explicit name same
  | positional name same => exact .positional name same
  | keyword name same => exact .keyword name same
  | popping name count same => exact .popping name count same
  | phrase name each => exact .phrase name (forall₂_imp_of_mem each himp)
  | definition convention least most each =>
    exact .definition convention least most (forall₂_imp_of_mem each himp)
  | stack each => exact .stack (forall₂_imp_of_mem each himp)

/-- The rule is symmetric, if the keyword maps bind no name twice. -/
theorem symm (hv : ∀ m ∈ v.keywords?, m.Distinct) (hw : ∀ m ∈ w.keywords?, m.Distinct)
    (h : Alike r v w) : Alike (fun b a => r a b) w v := by
  cases h with
  | nil => exact .nil
  | bool b => exact .bool b
  | number n => exact .number n
  | string s => exact .string s
  | symbol name => exact .symbol name
  | list each => exact .list each.flip
  | map found => exact .map (found.symm (hv _ rfl) (hw _ rfl))
  | call target positional named =>
    exact .call target positional.flip (named.symm (hv _ rfl) (hw _ rfl))
  | quote inside => exact .quote inside
  | function same => exact .function (by rwa [Function.same_comm])
  | explicit name same => exact .explicit name (by rwa [StackOperation.same_comm])
  | positional name same => exact .positional name (by rwa [Operation.same_comm])
  | keyword name same => exact .keyword name (by rwa [Operation.same_comm])
  | popping name count same => exact .popping name count (by rwa [Operation.same_comm])
  | phrase name each => exact .phrase name each.flip
  | definition convention least most each => exact .definition convention least most each.flip
  | stack each => exact .stack each.flip

/-- Values built alike twice over are built alike, with the parts of the one between related to the
parts on both sides. -/
theorem comp (h : Alike r u v) (h' : Alike s v w) :
    Alike (fun a c => ∃ b ∈ v.parts, r a b ∧ s b c) u w := by
  cases h with
  | nil => cases h'; exact .nil
  | bool b => cases h'; exact .bool b
  | number n => cases h'; exact .number n
  | string s => cases h'; exact .string s
  | symbol name => cases h'; exact .symbol name
  | list each => cases h' with | list each' => exact .list (forall₂_comp each each')
  | map found => cases h' with | map found' => exact .map (found.comp found')
  | call target positional named =>
    cases h' with
    | call target' positional' named' =>
      refine .call ⟨_, List.mem_cons_self, target, target'⟩
        ((forall₂_comp positional positional').imp ?_)
        ((named.comp named').imp_of_mem ?_)
      · rintro a c ⟨b, hb, hrest⟩
        exact ⟨b, List.mem_cons_of_mem _ (List.mem_append_left _ hb), hrest⟩
      · rintro a _ c _ ⟨b, hb, hrest⟩
        exact ⟨b, List.mem_cons_of_mem _ (List.mem_append_right _ hb), hrest⟩
  | quote inside =>
    cases h' with | quote inside' => exact .quote ⟨_, List.mem_cons_self, inside, inside'⟩
  | function same =>
    cases h' with | function same' => exact .function (Function.same_trans same same')
  | explicit name same =>
    cases h' with | explicit _ same' => exact .explicit name (StackOperation.same_trans same same')
  | positional name same =>
    cases h' with | positional _ same' => exact .positional name (Operation.same_trans same same')
  | keyword name same =>
    cases h' with | keyword _ same' => exact .keyword name (Operation.same_trans same same')
  | popping name count same =>
    cases h' with
    | popping _ _ same' => exact .popping name count (Operation.same_trans same same')
  | phrase name each =>
    cases h' with | phrase _ each' => exact .phrase name (forall₂_comp each each')
  | definition convention least most each =>
    cases h' with
    | definition _ _ _ each' => exact .definition convention least most (forall₂_comp each each')
  | stack each => cases h' with | stack each' => exact .stack (forall₂_comp each each')

end Alike

/-! ## Equality follows the rule -/

theorem sameEach_iff {a b : List Value} :
    sameEach a b = true ↔ List.Forall₂ (fun v w => same v w = true) a b := by
  induction a generalizing b with
  | nil => cases b <;> simp [sameEach]
  | cons v rest ih => cases b <;> simp [sameEach, ih]

/-- Chains are compared from the top down, which is the same as from the bottom up. -/
theorem sameChain_iff {m n : Nat} {a : Chain Value m} {b : Chain Value n} :
    sameChain a b = true ↔
      List.Forall₂ (fun v w => same v w = true) (Stack.toList ⟨a⟩) (Stack.toList ⟨b⟩) := by
  have hcons {n : Nat} (v : Value) (rest : Chain Value n) :
      (Stack.toList ⟨.cons v rest⟩).reverse = v :: (Stack.toList ⟨rest⟩).reverse := by
    have hpush : (⟨.cons v rest⟩ : Stack Value).toList = (⟨rest⟩ : Stack Value).toList ++ [v] :=
      Stack.toList_push ⟨rest⟩ v
    rw [hpush, List.reverse_append]
    rfl
  have hnil : (Stack.toList ⟨(.nil : Chain Value 0)⟩).reverse = [] := rfl
  rw [← List.forall₂_reverse_iff]
  induction a generalizing n with
  | nil =>
    cases b with
    | nil => simp [sameChain, hnil]
    | cons w under => simp [sameChain, hnil, hcons]
  | cons v rest ih =>
    cases b with
    | nil => simp [sameChain, hnil, hcons]
    | cons w under => simp [sameChain, hcons, ih]

theorem foundIn_iff {a b : List (String × Value)} (hb : (b.map Prod.fst).Nodup) :
    foundIn a b = true ↔
      ∀ entry ∈ a, ∃ w, b.lookup entry.1 = some w ∧ same entry.2 w = true := by
  induction a with
  | nil => simp [foundIn]
  | cons entry rest ih =>
    obtain ⟨key, v⟩ := entry
    rw [foundIn, Bool.and_eq_true, ih, any_entry_eq_lookup _ _ hb, Option.any_eq_true,
      List.forall_mem_cons]

theorem alike_of_same {v w : Value} (hw : ∀ m ∈ w.keywords?, m.Distinct)
    (h : same v w = true) : Alike (fun v w => same v w = true) v w := by
  unfold same at h
  split at h
  · exact .nil
  · obtain rfl := beq_iff_eq.mp h
    exact .bool _
  · obtain rfl := beq_iff_eq.mp h
    exact .number _
  · obtain rfl := beq_iff_eq.mp h
    exact .string _
  · exact .list (sameEach_iff.mp h)
  · obtain ⟨hlength, hfound⟩ := (Bool.and_eq_true _ _).mp h
    exact .map ⟨beq_iff_eq.mp hlength, (foundIn_iff (hw _ rfl)).mp hfound⟩
  · obtain rfl := beq_iff_eq.mp h
    exact .symbol _
  · simp only [Bool.and_eq_true] at h
    obtain ⟨⟨htarget, hpositional⟩, hlength, hfound⟩ := h
    exact .call htarget (sameEach_iff.mp hpositional)
      ⟨beq_iff_eq.mp hlength, (foundIn_iff (hw _ rfl)).mp hfound⟩
  · exact .quote h
  · exact .function h
  · obtain ⟨hname, hop⟩ := (Bool.and_eq_true _ _).mp h
    obtain rfl := beq_iff_eq.mp hname
    exact .explicit _ hop
  · obtain ⟨hname, hop⟩ := (Bool.and_eq_true _ _).mp h
    obtain rfl := beq_iff_eq.mp hname
    exact .positional _ hop
  · obtain ⟨hname, hop⟩ := (Bool.and_eq_true _ _).mp h
    obtain rfl := beq_iff_eq.mp hname
    exact .keyword _ hop
  · simp only [Bool.and_eq_true, beq_iff_eq] at h
    obtain ⟨rfl, rfl, hop⟩ := h
    exact .popping _ _ hop
  · obtain ⟨hname, heach⟩ := (Bool.and_eq_true _ _).mp h
    obtain rfl := beq_iff_eq.mp hname
    exact .phrase _ (sameEach_iff.mp heach)
  · simp only [Bool.and_eq_true, beq_iff_eq] at h
    obtain ⟨⟨⟨rfl, rfl⟩, rfl⟩, heach⟩ := h
    exact .definition _ _ _ (sameEach_iff.mp heach)
  · exact .stack (sameChain_iff.mp h)
  · cases h

theorem same_of_alike {v w : Value} (hw : ∀ m ∈ w.keywords?, m.Distinct)
    (h : Alike (fun v w => same v w = true) v w) : same v w = true := by
  cases h with
  | nil | bool | number | string | symbol => simp [same]
  | list each => rw [same, sameEach_iff.mpr each]
  | map found =>
    rw [same, foundIn_iff (hw _ rfl) |>.mpr found.2]
    simp [found.1]
  | call target positional named =>
    rw [same, foundIn_iff (hw _ rfl) |>.mpr named.2]
    simp [named.1, target, sameEach_iff.mpr positional]
  | quote inside => rwa [same]
  | function same => rwa [Value.same]
  | explicit _ same | positional _ same | keyword _ same | popping _ _ same =>
    simp [Value.same, same]
  | phrase _ each | definition _ _ _ each => simp [same, sameEach_iff.mpr each]
  | stack each => rw [same, sameChain_iff.mpr each]

/-! ## Equality is an equivalence -/

section Equivalence

variable {u v w : Value}

/-- **Equality is symmetric.** -/
theorem same_symm (hv : v.WellKeyed) (hw : w.WellKeyed) (h : same v w = true) :
    same w v = true := by
  induction v using induction_on_parts generalizing w with
  | step v ih =>
    have halike := (alike_of_same hw.distinct h).symm hv.distinct hw.distinct
    refine same_of_alike hv.distinct (halike.imp_of_mem fun b hb a ha hab => ?_)
    exact ih a ha (hv.part a ha) (hw.part b hb) hab

/-- **Equality is transitive.** -/
theorem same_trans (hu : u.WellKeyed) (hv : v.WellKeyed) (hw : w.WellKeyed)
    (huv : same u v = true) (hvw : same v w = true) : same u w = true := by
  induction u using induction_on_parts generalizing v w with
  | step u ih =>
    have halike := (alike_of_same hv.distinct huv).comp (alike_of_same hw.distinct hvw)
    refine same_of_alike hw.distinct (halike.imp_of_mem ?_)
    rintro a ha c hc ⟨b, hb, hab, hbc⟩
    exact ih a ha (hu.part a ha) (hv.part b hb) (hw.part c hc) hab hbc

end Equivalence

/-! ## Shortcuts -/

/-- The ways in which two values can be compared.  At one and the same object the comparison may
stop and answer that the values are equal; otherwise it follows the rule, and the parts are compared
in one of these ways again. -/
inductive Comparison : Value → Value → Bool → Prop
  | shared (v : Value) : Comparison v v true
  | byRule {v w : Value} (compare : Value → Value → Bool)
      (parts : ∀ a ∈ v.parts, ∀ b ∈ w.parts, Comparison a b (compare a b)) {outcome : Bool}
      (rule : outcome = true ↔ Alike (fun a b => compare a b = true) v w) :
      Comparison v w outcome

/-- Whatever shortcuts are taken, the outcome is the same. -/
theorem Comparison.outcome_eq {v w : Value} {outcome : Bool} (h : Comparison v w outcome)
    (hv : v.WellKeyed) (hw : w.WellKeyed) : outcome = same v w := by
  induction h with
  | shared v => exact (same_self v).symm
  | @byRule v w compare _ outcome rule ih =>
    rw [Bool.eq_iff_iff, rule]
    constructor
    · intro halike
      refine same_of_alike hw.distinct (halike.imp_of_mem fun a ha b hb hab => ?_)
      rwa [← ih a ha b hb (hv.part a ha) (hw.part b hb)]
    · intro hsame
      refine (alike_of_same hw.distinct hsame).imp_of_mem fun a ha b hb hab => ?_
      rwa [ih a ha b hb (hv.part a ha) (hw.part b hb)]

/-- To compare without any shortcut is one of the ways. -/
theorem comparison_same {v w : Value} (hv : v.WellKeyed) (hw : w.WellKeyed) :
    Comparison v w (same v w) := by
  induction v using induction_on_parts generalizing w with
  | step v ih =>
    exact .byRule same (fun a ha b hb => ih a ha (hv.part a ha) (hw.part b hb))
      ⟨alike_of_same hw.distinct, same_of_alike hw.distinct⟩

end Value

/-! ## Comparing several values -/

theorem ElementType.readEach_anything (vs : List Value) :
    ElementType.readEach .anything vs = .ok vs := by
  induction vs with
  | nil => rfl
  | cons v rest ih => rw [readEach, read, ih]

/-- Values are all equal to the first of them exactly if any two of them are equal. -/
theorem all_beq_iff {v : Value} {vs : List Value} (hkeyed : ∀ w ∈ v :: vs, w.WellKeyed) :
    (vs.all fun w => w == v) = true ↔ ∀ a ∈ v :: vs, ∀ b ∈ v :: vs, (a == b) = true := by
  simp only [List.all_eq_true, Value.beq_eq_same]
  constructor
  · intro h
    have hfirst : ∀ a ∈ v :: vs, Value.same a v = true := by
      intro a ha
      obtain rfl | ha := List.mem_cons.mp ha
      · exact Value.same_self a
      · exact h a ha
    intro a ha b hb
    have hv := hkeyed v List.mem_cons_self
    exact Value.same_trans (hkeyed a ha) hv (hkeyed b hb) (hfirst a ha)
      (Value.same_symm (hkeyed b hb) hv (hfirst b hb))
  · intro h w hw
    exact h w (List.mem_cons_of_mem _ hw) v List.mem_cons_self

namespace Primitive

/-- What the comparison of several values does. -/
theorem perform_equal (v : Value) (vs : List Value) (kwargs : Keywords Value) :
    perform .equal (v :: vs) kwargs =
      (kwargs.firstKey?.elim (answer (.bool (vs.all fun w => w == v)))
        fun key => fail (.unexpectedKeyword key)) := by
  unfold perform Signature.call
  cases kwargs.firstKey? with
  | some key => rfl
  | none =>
    simp [Signature.accepts, Signature.supply, ParamType.read, ElementType.readEach_anything]

theorem call_equal_perm {args args' : List Value} (hperm : args.Perm args')
    (hkeyed : ∀ v ∈ args, v.WellKeyed) (kwargs : Keywords Value) :
    call .equal args kwargs = call .equal args' kwargs := by
  cases args with
  | nil => rw [hperm.nil_eq]
  | cons v vs =>
    cases args' with
    | nil => exact absurd hperm.length_eq (by simp)
    | cons w ws =>
      have hkeyed' : ∀ a ∈ w :: ws, a.WellKeyed := fun a ha => hkeyed a (hperm.mem_iff.mpr ha)
      have hall : (vs.all fun a => a == v) = ws.all fun a => a == w := by
        rw [Bool.eq_iff_iff, all_beq_iff hkeyed, all_beq_iff hkeyed']
        simp only [hperm.mem_iff]
      rw [call, call, perform_equal, perform_equal, hall, hperm.length_eq]

end Primitive

/-! ## The main result -/

/-- **Equality of values is an equivalence** on the values whose keyword maps were made by the
operations on keyword maps.  Shortcuts for shared parts never change its outcome, and the primitive
that compares several values gives the same answer in whatever order they come. -/
theorem equality_is_an_equivalence :
    Equivalence (fun v w : { v : Value // v.WellKeyed } => (v.1 == w.1) = true) ∧
      (∀ (v w : Value) (outcome : Bool), v.WellKeyed → w.WellKeyed →
        (Value.Comparison v w outcome ↔ outcome = (v == w))) ∧
      ∀ (args args' : List Value) (kwargs : Keywords Value) (s : State),
        args.Perm args' → (∀ v ∈ args, v.WellKeyed) →
          apply (Builtin.primitive .equal).toValue args kwargs s =
            apply (Builtin.primitive .equal).toValue args' kwargs s := by
  simp only [Value.beq_eq_same]
  refine ⟨⟨?_, ?_, ?_⟩, ?_, ?_⟩
  · rintro ⟨v, hv⟩
    exact Value.same_self v
  · rintro ⟨v, hv⟩ ⟨w, hw⟩ h
    exact Value.same_symm hv hw h
  · rintro ⟨u, hu⟩ ⟨v, hv⟩ ⟨w, hw⟩ huv hvw
    exact Value.same_trans hu hv hw huv hvw
  · intro v w outcome hv hw
    constructor
    · intro h
      exact h.outcome_eq hv hw
    · rintro rfl
      exact Value.comparison_same hv hw
  · intro args args' kwargs s hperm hkeyed
    exact congrFun (Primitive.call_equal_perm hperm hkeyed kwargs) s

/-- Two maps that bind the same names in a different order. -/
theorem equality_of_reordered_maps :
    let v := Value.map (.ofList [("a", .nil), ("b", .bool true)])
    let w := Value.map (.ofList [("b", .bool true), ("a", .nil)])
    (v.WellKeyed ∧ w.WellKeyed) ∧ ((v == w) = true ∧ (w == v) = true) ∧
      Value.Comparison v w true ∧
        apply (Builtin.primitive .equal).toValue [v, w, v] .empty .initial =
          apply (Builtin.primitive .equal).toValue [w, v, v] .empty .initial := by
  intro v w
  have hnil : Value.nil.WellKeyed := Value.wellKeyed_leaf rfl rfl
  have hbool : (Value.bool true).WellKeyed := Value.wellKeyed_leaf rfl rfl
  have hv : v.WellKeyed :=
    Value.wellKeyed_map (.ofList _)
      (List.forall_mem_cons.mpr ⟨hnil, List.forall_mem_singleton.mpr hbool⟩)
  have hw : w.WellKeyed :=
    Value.wellKeyed_map (.ofList _)
      (List.forall_mem_cons.mpr ⟨hbool, List.forall_mem_singleton.mpr hnil⟩)
  have hequal : (v == w) = true := by
    rw [Value.beq_eq_same]
    decide
  obtain ⟨equivalence, comparison, perm⟩ := equality_is_an_equivalence
  refine ⟨⟨hv, hw⟩, ⟨hequal, ?_⟩, ?_, ?_⟩
  · exact equivalence.symm (x := ⟨v, hv⟩) (y := ⟨w, hw⟩) hequal
  · exact (comparison v w true hv hw).mpr hequal.symm
  · refine perm _ _ _ _ (.swap w v [v]) fun a ha => ?_
    have hcases : a = v ∨ a = w := by
      simp only [List.mem_cons, List.not_mem_nil, or_false] at ha
      tauto
    obtain rfl | rfl := hcases
    · exact hv
    · exact hw

end Homoiconic
