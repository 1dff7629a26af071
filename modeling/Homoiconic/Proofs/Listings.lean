import Homoiconic.Keywords
import Homoiconic.SortedEntries
import Mathlib.Data.List.Induction
import Mathlib.Data.List.Sort
import Mathlib.Data.String.Basic

/-!
# Sorted listings

A listing is made by inserting entries one after the other, so of several entries with one name the
last one counts.  Two things are said about the result.  It is sorted strictly, whatever it is made
from (`sorted_ofList`).  And it lists an entry exactly if this is what the name finds in the list
that is read from its end (`mem_ofList_iff`).  A sorted listing is determined by what it lists
(`eq_of_forall_mem_iff`), so these two say all there is to say about it.

The order of names is the order of their characters.  It is also the order of the bytes in which
they are encoded (`lt_iff_bytes_lt`).  The reason is that the first byte of a character tells how
many follow, and tells more characters with more bytes apart from those with fewer by being greater;
and that among characters of one length the bytes are the digits of the code point, the most
significant first.
-/

namespace Homoiconic

universe u

namespace SortedEntries

variable {α : Type u} {entries : List (String × α)}

/-! ## Insertion -/

theorem fst_mem_insert {key : String} {value : α} {entry : String × α}
    (h : entry ∈ insert key value entries) : entry.1 = key ∨ entry ∈ entries := by
  induction entries with
  | nil => exact Or.inl (congrArg Prod.fst (List.mem_singleton.mp h))
  | cons first rest ih =>
    obtain ⟨k, v⟩ := first
    unfold insert at h
    split_ifs at h with hsame hless
    · rcases List.mem_cons.mp h with rfl | h
      · exact Or.inl rfl
      · exact Or.inr (List.mem_cons_of_mem _ h)
    · rcases List.mem_cons.mp h with rfl | h
      · exact Or.inl rfl
      · exact Or.inr h
    · rcases List.mem_cons.mp h with rfl | h
      · exact Or.inr List.mem_cons_self
      · exact (ih h).imp_right (List.mem_cons_of_mem _)

/-- Insertion keeps a listing sorted. -/
theorem sorted_insert (hsorted : Sorted entries) (key : String) (value : α) :
    Sorted (insert key value entries) := by
  induction entries with
  | nil => exact List.pairwise_singleton _ _
  | cons first rest ih =>
    obtain ⟨k, v⟩ := first
    obtain ⟨hfirst, hrest⟩ := List.pairwise_cons.mp hsorted
    unfold insert
    split_ifs with hsame hless
    · subst hsame
      exact List.pairwise_cons.mpr ⟨hfirst, hrest⟩
    · refine List.pairwise_cons.mpr ⟨fun entry hentry => ?_, hsorted⟩
      rcases List.mem_cons.mp hentry with rfl | hentry
      · exact hless
      · exact String.lt_trans hless (hfirst entry hentry)
    · have hgreater : k < key := by
        rcases lt_trichotomy key k with h | h | h
        · exact absurd h hless
        · exact absurd h hsame
        · exact h
      refine List.pairwise_cons.mpr ⟨fun entry hentry => ?_, ih hrest⟩
      rcases fst_mem_insert hentry with hkey | hentry
      · show k < entry.1
        rwa [hkey]
      · exact hfirst entry hentry

/-- What a sorted listing holds after an insertion: the entry inserted, and what it held under other
names. -/
theorem mem_insert_iff (hsorted : Sorted entries) {key k : String} {value v : α} :
    (k, v) ∈ insert key value entries ↔
      (k = key ∧ v = value) ∨ (k ≠ key ∧ (k, v) ∈ entries) := by
  induction entries with
  | nil =>
    unfold insert
    simp
  | cons first rest ih =>
    obtain ⟨k₁, v₁⟩ := first
    obtain ⟨hfirst, hrest⟩ := List.pairwise_cons.mp hsorted
    have hne : (k, v) ∈ rest → k ≠ k₁ := fun hmem heq =>
      String.lt_irrefl k₁ (heq ▸ hfirst (k, v) hmem)
    unfold insert
    split_ifs with hsame hless
    · subst hsame
      rw [List.mem_cons, List.mem_cons, Prod.mk.injEq, Prod.mk.injEq]
      constructor
      · rintro (h | h)
        · exact Or.inl h
        · exact Or.inr ⟨hne h, Or.inr h⟩
      · rintro (h | ⟨hk, h | h⟩)
        · exact Or.inl h
        · exact absurd h.1 hk
        · exact Or.inr h
    · rw [List.mem_cons, Prod.mk.injEq]
      constructor
      · rintro (h | h)
        · exact Or.inl h
        · refine Or.inr ⟨?_, h⟩
          rintro rfl
          rcases List.mem_cons.mp h with h | h
          · exact hsame (congrArg Prod.fst h)
          · exact String.lt_asymm hless (hfirst _ h)
      · rintro (h | ⟨_, h⟩)
        · exact Or.inl h
        · exact Or.inr h
    · rw [List.mem_cons, List.mem_cons, ih hrest, Prod.mk.injEq]
      constructor
      · rintro (h | h | ⟨hk, h⟩)
        · exact Or.inr ⟨fun hk => hsame (hk.symm.trans h.1), Or.inl h⟩
        · exact Or.inl h
        · exact Or.inr ⟨hk, Or.inr h⟩
      · rintro (h | ⟨hk, h | h⟩)
        · exact Or.inr (Or.inl h)
        · exact Or.inl h
        · exact Or.inr (Or.inr ⟨hk, h⟩)

/-! ## Listings -/

theorem ofList_concat (entries : List (String × α)) (entry : String × α) :
    ofList (entries ++ [entry]) = insert entry.1 entry.2 (ofList entries) := by
  rw [ofList, List.foldl_append]
  rfl

/-- **A listing is sorted strictly.** -/
theorem sorted_ofList (entries : List (String × α)) : Sorted (ofList entries) := by
  induction entries using List.reverseRecOn with
  | nil => exact List.Pairwise.nil
  | append_singleton entries entry ih =>
    rw [ofList_concat]
    exact sorted_insert ih _ _

/-- **A listing lists what each name finds**, reading what it is made from backwards. -/
theorem mem_ofList_iff {entries : List (String × α)} {k : String} {v : α} :
    (k, v) ∈ ofList entries ↔ entries.reverse.lookup k = some v := by
  induction entries using List.reverseRecOn with
  | nil => simp [ofList]
  | append_singleton entries entry ih =>
    obtain ⟨key, value⟩ := entry
    rw [ofList_concat, mem_insert_iff (sorted_ofList entries), ih, List.reverse_append,
      List.reverse_singleton, List.singleton_append, List.lookup_cons]
    by_cases hk : k = key
    · subst hk
      simp [eq_comm]
    · have hbeq : (k == key) = false := by simpa using hk
      simp [hk, hbeq]

theorem nodup_of_sorted (h : Sorted entries) : entries.Nodup := by
  refine List.Pairwise.imp ?_ h
  rintro a _ hlt rfl
  exact String.lt_irrefl _ hlt

/-- **A sorted listing is determined by what it lists.** -/
theorem eq_of_forall_mem_iff {entries' : List (String × α)} (h : Sorted entries)
    (h' : Sorted entries') (hmem : ∀ entry, entry ∈ entries ↔ entry ∈ entries') :
    entries = entries' := by
  refine List.Perm.eq_of_pairwise (fun a b _ _ hab hba => ?_) h h' ?_
  · exact absurd hba (String.lt_asymm hab)
  · exact (List.perm_ext_iff_of_nodup (nodup_of_sorted h) (nodup_of_sorted h')).mpr hmem

end SortedEntries

/-! ## Looking names up in lists -/

namespace Keywords

variable {α : Type u}

theorem lookup_cons_of_ne {k key : String} (h : k ≠ key) (v : α) (entries : List (String × α)) :
    ((key, v) :: entries).lookup k = entries.lookup k := by
  rw [List.lookup_cons, beq_eq_false_iff_ne.mpr h]

/-- The names that find something are those that are listed. -/
theorem mem_keys_iff {entries : List (String × α)} {key : String} :
    key ∈ entries.map Prod.fst ↔ ∃ value, entries.lookup key = some value := by
  induction entries with
  | nil => simp
  | cons entry rest ih =>
    obtain ⟨k, v⟩ := entry
    rw [List.map_cons, List.mem_cons, ih, List.lookup_cons]
    by_cases hk : key = k
    · simp [hk]
    · have hne : (key == k) = false := by simpa using hk
      simp [hk, hne]

/-- Where names are distinct, an entry is what its name finds. -/
theorem lookup_eq_some_iff_mem {entries : List (String × α)}
    (hnodup : (entries.map Prod.fst).Nodup) {k : String} {v : α} :
    entries.lookup k = some v ↔ (k, v) ∈ entries := by
  induction entries with
  | nil => simp
  | cons entry rest ih =>
    obtain ⟨key, value⟩ := entry
    obtain ⟨hfresh, hrest⟩ := List.nodup_cons.mp hnodup
    rw [List.lookup_cons, List.mem_cons, Prod.mk.injEq]
    by_cases hk : k = key
    · subst hk
      have hnotmem : (k, v) ∉ rest := fun hmem => hfresh (List.mem_map.mpr ⟨_, hmem, rfl⟩)
      simp [hnotmem, eq_comm]
    · have hbeq : (k == key) = false := by simpa using hk
      simp [hk, hbeq, ih hrest]

/-- Where names are distinct, it does not matter from which end a list is read. -/
theorem lookup_reverse {entries : List (String × α)} (hnodup : (entries.map Prod.fst).Nodup)
    (k : String) : entries.reverse.lookup k = entries.lookup k := by
  have hreverse : (entries.reverse.map Prod.fst).Nodup := by
    rw [List.map_reverse]
    exact List.nodup_reverse.mpr hnodup
  refine Option.ext fun v => ?_
  rw [lookup_eq_some_iff_mem hreverse, lookup_eq_some_iff_mem hnodup, List.mem_reverse]

/-- Lists that are read one after the other. -/
theorem lookup_flatMap {β : Type u} (l : List β) (f : β → List (String × α)) (k : String) :
    (l.flatMap f).lookup k = l.findSome? fun b => (f b).lookup k := by
  induction l with
  | nil => rfl
  | cons b rest ih =>
    rw [List.flatMap_cons, List.lookup_append, ih, List.findSome?_cons]
    cases (f b).lookup k <;> rfl

end Keywords

namespace SortedEntries

variable {α : Type u} {entries : List (String × α)}

/-! ## Listings of distinct names -/

theorem nodup_keys_of_sorted (h : Sorted entries) : (entries.map Prod.fst).Nodup := by
  rw [List.Nodup, List.pairwise_map]
  refine List.Pairwise.imp ?_ h
  intro a b hlt heq
  exact String.lt_irrefl _ (heq ▸ hlt)

/-- Where names are distinct, a listing is what it is made from in another order. -/
theorem perm_ofList (hnodup : (entries.map Prod.fst).Nodup) : (ofList entries).Perm entries := by
  refine (List.perm_ext_iff_of_nodup (nodup_of_sorted (sorted_ofList entries))
    hnodup.of_map).mpr fun entry => ?_
  rw [mem_ofList_iff, Keywords.lookup_reverse hnodup, Keywords.lookup_eq_some_iff_mem hnodup]

/-- To list what is sorted already changes nothing. -/
theorem ofList_of_sorted (h : Sorted entries) : ofList entries = entries :=
  eq_of_forall_mem_iff (sorted_ofList entries) h fun _ =>
    (perm_ofList (nodup_keys_of_sorted h)).mem_iff

end SortedEntries

/-! ## The order of names -/

namespace Text

/-- The bytes in which a text is encoded. -/
def bytes (s : String) : List UInt8 := s.toUTF8.data.toList

theorem bytes_eq_flatMap (s : String) : bytes s = s.toList.flatMap String.utf8EncodeChar := by
  have hbytes : s.toUTF8 = s.toList.utf8Encode := by
    rw [String.toUTF8_eq_toByteArray, ← String.toByteArray_ofList, String.ofList_toList]
  rw [bytes, hbytes]
  exact List.toList_data_toByteArray

/-- **The bytes of a smaller character come first**, whatever follows.  Characters of one to four
bytes are distinguished by their first byte; within a length the bytes are digits. -/
theorem encodeChar_append_lt {c d : Char} (h : c < d) (x y : List UInt8) :
    String.utf8EncodeChar c ++ x < String.utf8EncodeChar d ++ y := by
  have hlt : c.val.toNat < d.val.toNat := UInt32.lt_iff_toNat_lt.mp (Char.lt_def.mp h)
  have hbound : d.val.toNat < 2097152 := by
    have hvalid := d.valid
    unfold UInt32.isValidChar Nat.isValidChar at hvalid
    omega
  unfold String.utf8EncodeChar
  generalize c.val.toNat = m, d.val.toNat = n at hlt hbound
  have hm : (m / 262144 % 8 + 240) % 2 ^ 8 = m / 262144 + 240 := by omega
  have hn : (n / 262144 % 8 + 240) % 2 ^ 8 = n / 262144 + 240 := by omega
  have hdigit : ∀ k, (k % 64 + 128) % 2 ^ 8 = k % 64 + 128 := fun k => by omega
  simp only
  split_ifs <;>
    simp only [List.cons_append, List.nil_append, List.cons_lt_cons_iff, UInt8.lt_iff_toNat_lt,
      ← UInt8.toNat_inj, UInt8.toNat_ofNat', hm, hn, hdigit] <;>
    omega

theorem flatMap_encodeChar_lt {cs ds : List Char} (h : cs < ds) :
    cs.flatMap String.utf8EncodeChar < ds.flatMap String.utf8EncodeChar := by
  induction cs generalizing ds with
  | nil =>
    cases ds with
    | nil => exact absurd h (List.lt_irrefl _)
    | cons d ds =>
      rw [List.flatMap_nil, List.flatMap_cons]
      cases hd : String.utf8EncodeChar d with
      | nil => exact absurd hd String.utf8EncodeChar_ne_nil
      | cons byte rest => exact List.nil_lt_cons _ _
  | cons c cs ih =>
    cases ds with
    | nil => cases h
    | cons d ds =>
      rw [List.flatMap_cons, List.flatMap_cons]
      rcases List.cons_lt_cons_iff.mp h with hlt | ⟨rfl, hlt⟩
      · exact encodeChar_append_lt hlt _ _
      · exact List.append_left_lt (ih hlt)

/-- **Names are ordered as their bytes are.** -/
theorem lt_iff_bytes_lt {s t : String} : s < t ↔ bytes s < bytes t := by
  have hlt : ∀ {s t : String}, s < t → bytes s < bytes t := fun {s t} h => by
    rw [bytes_eq_flatMap, bytes_eq_flatMap]
    exact flatMap_encodeChar_lt (String.lt_iff_toList_lt.mp h)
  refine ⟨hlt, fun h => ?_⟩
  rcases lt_trichotomy s t with hst | rfl | hts
  · exact hst
  · exact absurd h (List.lt_irrefl _)
  · exact absurd (hlt hts) (List.lt_asymm h)

end Text

end Homoiconic
