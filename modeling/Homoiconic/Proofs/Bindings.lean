import Homoiconic.Evaluation.Params

/-!
# What bindings are made of

A call binds parameters to arguments, to defaults, to the list of surplus positional arguments and
to the map of unmatched keyword arguments.  Nothing else can get into the scope of a call.  The
statements below say this of an arbitrary property of values: what holds of every argument and every
default, of lists of such values and of maps of such values, holds of everything that is bound
(`forall_bind`).
-/

namespace Homoiconic

universe u

namespace Keywords

variable {α : Type u}

/-- What is found after an insertion is the value inserted or was there before. -/
theorem eq_or_mem_values_of_insert {m : Keywords α} {key : String} {value w : α}
    (h : w ∈ (m.insert key value).values) : w = value ∨ w ∈ m.values := by
  obtain ⟨entries⟩ := m
  change w ∈ (put key value entries).map Prod.snd at h
  change w = value ∨ w ∈ entries.map Prod.snd
  induction entries with
  | nil => exact Or.inl (by simpa [put] using h)
  | cons entry rest ih =>
    obtain ⟨k, v⟩ := entry
    by_cases hk : k = key
    · rw [put, if_pos hk, List.map_cons, List.mem_cons] at h
      exact h.imp_right (List.mem_cons_of_mem _)
    · rw [put, if_neg hk, List.map_cons, List.mem_cons] at h
      rcases h with rfl | h
      · exact Or.inr List.mem_cons_self
      · exact (ih h).imp_right (List.mem_cons_of_mem _)

theorem mem_values_foldl_insert {entries : List (String × α)} {m : Keywords α} {w : α}
    (h : w ∈ (entries.foldl (fun m entry => m.insert entry.1 entry.2) m).values) :
    w ∈ entries.map Prod.snd ∨ w ∈ m.values := by
  induction entries generalizing m with
  | nil => exact Or.inr h
  | cons entry rest ih =>
    rw [List.foldl_cons] at h
    rw [List.map_cons, List.mem_cons]
    rcases ih h with h | h
    · exact Or.inl (Or.inr h)
    · exact (eq_or_mem_values_of_insert h).imp_left Or.inl

/-- A map built from entries holds only values of those entries. -/
theorem mem_of_mem_values_ofList {entries : List (String × α)} {w : α}
    (h : w ∈ (ofList entries).values) : w ∈ entries.map Prod.snd :=
  (mem_values_foldl_insert h).resolve_right List.not_mem_nil

end Keywords

namespace Params

variable {P : Value → Prop}

/-- What the slots are filled with has the property. -/
def Filled (P : Value → Prop) (slots : Slots) : Prop := ∀ slot ∈ slots, ∀ v ∈ slot.2, P v

theorem filled_fillByPosition {names : List String} {args : List Value} (hargs : ∀ v ∈ args, P v) :
    Filled P (fillByPosition names args) := by
  induction names generalizing args with
  | nil => simp [Filled, fillByPosition]
  | cons name names ih =>
    cases args with
    | nil => exact List.forall_mem_cons.mpr ⟨fun v hv => by simp at hv, ih hargs⟩
    | cons arg args =>
      rw [List.forall_mem_cons] at hargs
      refine List.forall_mem_cons.mpr ⟨fun v hv => ?_, ih hargs.2⟩
      obtain rfl : arg = v := Option.some.inj hv
      exact hargs.1

theorem filled_fillSlot {key : String} {value : Value} {slots : Slots} (hvalue : P value)
    (hslots : Filled P slots) : Filled P (fillSlot key value slots) := by
  induction slots with
  | nil => exact hslots
  | cons slot slots ih =>
    obtain ⟨name, content⟩ := slot
    obtain ⟨hcontent, hrest⟩ := List.forall_mem_cons.mp hslots
    unfold fillSlot
    split
    · refine List.forall_mem_cons.mpr ⟨fun v hv => ?_, hrest⟩
      obtain rfl : value = v := Option.some.inj hv
      exact hvalue
    · exact List.forall_mem_cons.mpr ⟨hcontent, ih hrest⟩

theorem filled_fillByName {collects : Bool} {entries : List (String × Value)} {slots slots' : Slots}
    {extra extra' : Keywords Value} (hentries : ∀ v ∈ entries.map Prod.snd, P v)
    (hslots : Filled P slots) (hextra : ∀ v ∈ extra.values, P v)
    (h : fillByName collects entries slots extra = .ok (slots', extra')) :
    Filled P slots' ∧ ∀ v ∈ extra'.values, P v := by
  induction entries generalizing slots extra with
  | nil =>
    obtain ⟨rfl, rfl⟩ := Prod.mk.inj (Except.ok.inj h)
    exact ⟨hslots, hextra⟩
  | cons entry rest ih =>
    obtain ⟨key, value⟩ := entry
    rw [List.map_cons, List.forall_mem_cons] at hentries
    unfold fillByName at h
    split at h
    · cases h
    · exact ih hentries.2 (filled_fillSlot hentries.1 hslots) hextra h
    · split at h
      · refine ih hentries.2 hslots (fun v hv => ?_) h
        rcases Keywords.eq_or_mem_values_of_insert hv with rfl | hv
        · exact hentries.1
        · exact hextra v hv
      · cases h

theorem forall_takeRequired {required supplied : Nat} {slots : Slots}
    {bindings : List (String × Value)} (hslots : Filled P slots)
    (h : takeRequired required supplied slots = .ok bindings) :
    ∀ v ∈ bindings.map Prod.snd, P v := by
  induction slots generalizing bindings with
  | nil =>
    obtain rfl := Except.ok.inj h
    simp
  | cons slot slots ih =>
    obtain ⟨name, content⟩ := slot
    obtain ⟨hcontent, hrest⟩ := List.forall_mem_cons.mp hslots
    cases content with
    | none => cases h
    | some value =>
      unfold takeRequired at h
      split at h
      · cases h
      · rename_i bindings' htake
        obtain rfl := Except.ok.inj h
        exact List.forall_mem_cons.mpr ⟨hcontent value rfl, ih hrest htake⟩

theorem forall_takeOptional {optional : List (String × Value)} {slots : Slots}
    (hoptional : ∀ v ∈ optional.map Prod.snd, P v) (hslots : Filled P slots) :
    ∀ v ∈ (takeOptional optional slots).map Prod.snd, P v := by
  induction optional generalizing slots with
  | nil => simp [takeOptional]
  | cons entry optional ih =>
    obtain ⟨name, default⟩ := entry
    rw [List.map_cons, List.forall_mem_cons] at hoptional
    cases slots with
    | nil => simp [takeOptional]
    | cons slot slots =>
      obtain ⟨_, content⟩ := slot
      obtain ⟨hcontent, hrest⟩ := List.forall_mem_cons.mp hslots
      refine List.forall_mem_cons.mpr ⟨?_, ih hoptional.2 hrest⟩
      cases content with
      | none => exact hoptional.1
      | some v => exact hcontent v rfl

theorem forall_collected {name : Option String} {value : Value} (hvalue : P value) :
    ∀ v ∈ (collected name value).map Prod.snd, P v := by
  cases name with
  | none => simp [collected]
  | some name => simpa [collected] using hvalue

/-- **Whatever a call binds has every property that its arguments and the defaults have**, if lists
and maps of values with the property have it too. -/
theorem forall_bind {params : Params Value} {args : List Value} {kwargs : Keywords Value}
    {bindings : List (String × Value)} (hlist : ∀ items, (∀ v ∈ items, P v) → P (.list items))
    (hmap : ∀ entries : Keywords Value, (∀ v ∈ entries.values, P v) → P (.map entries))
    (hoptional : ∀ v ∈ params.optional.map Prod.snd, P v) (hargs : ∀ v ∈ args, P v)
    (hkwargs : ∀ v ∈ kwargs.values, P v) (h : params.bind args kwargs = .ok bindings) :
    ∀ v ∈ bindings.map Prod.snd, P v := by
  unfold bind at h
  simp only at h
  split at h
  · cases h
  split at h
  · cases h
  rename_i slots extra hfill
  obtain ⟨hslots, hextra⟩ :=
    filled_fillByName hkwargs (filled_fillByPosition hargs) (fun _ hv => by cases hv) hfill
  split at h
  · cases h
  rename_i required htake
  obtain rfl := Except.ok.inj h
  simp only [List.map_append, List.forall_mem_append]
  refine ⟨⟨⟨forall_takeRequired (fun slot hslot => hslots slot (List.mem_of_mem_take hslot)) htake,
    forall_takeOptional hoptional fun slot hslot => hslots slot (List.mem_of_mem_drop hslot)⟩,
    forall_collected (hlist _ fun v hv => hargs v (List.mem_of_mem_drop hv))⟩,
    forall_collected (hmap _ hextra)⟩

end Params

end Homoiconic
