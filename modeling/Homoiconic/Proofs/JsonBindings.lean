import Homoiconic.Proofs.JsonData
import Homoiconic.Proofs.NameResolution

/-!
# Binding the members of a JSON object

The members of an object are converted and bound in turn, so when a value does not convert, the
members before it are bound already.  What is bound in the end is therefore always an initial part of
the object: all of it, or what comes before the first member whose value does not convert
(`defineMembers_of_reads`, `exists_reads_until`).  In either case it is bound as by so many
definitions (`defineAll_run`), and nothing else is touched (`fills_defineEach`).

That the keys of an object are distinct is needed even for what looks like a fact about a single
key: of two members with one key, the later one would override the value of the earlier one.  That
they are sorted is needed for the way back, where a listing of the scope is sorted and the object is
expected as it was.
-/

namespace Homoiconic

variable {env : Environment} {s : State} {members before rest : List (String × Json)}
  {entries : List (String × Value)} {name : String}

/-! ## Definitions one after the other -/

namespace Heap

variable {h : Heap} {id id' : ScopeId}

/-- Bind names in a scope, one after the other. -/
def defineEach (h : Heap) (id : ScopeId) (entries : List (String × Value)) : Heap :=
  entries.foldl (fun h entry => h.define id entry.1 entry.2) h

theorem size_defineEach (h : Heap) (id : ScopeId) (entries : List (String × Value)) :
    (h.defineEach id entries).size = h.size := by
  induction entries generalizing h with
  | nil => rfl
  | cons entry rest ih => exact (ih _).trans (size_define ..)

/-- The scope gets the entries, in their order. -/
theorem scope?_defineEach (h : Heap) (id : ScopeId) (entries : List (String × Value)) :
    (h.defineEach id entries).scope? id = (h.scope? id).map fun scope =>
      { scope with bindings := entries.foldl (fun m e => m.insert e.1 e.2) scope.bindings } := by
  induction entries generalizing h with
  | nil => cases hscope : h.scope? id <;> exact hscope
  | cons entry rest ih =>
    refine (ih _).trans ?_
    rw [scope?_define, if_pos rfl, Option.map_map]
    rfl

/-- Other scopes are as they were. -/
theorem scope?_defineEach_of_ne (hid : id' ≠ id) (entries : List (String × Value)) :
    (h.defineEach id entries).scope? id' = h.scope? id' := by
  induction entries generalizing h with
  | nil => rfl
  | cons entry rest ih =>
    refine ih.trans ?_
    rw [scope?_define, if_neg (Ne.symm hid)]

/-- Names that are not among those bound are as they were. -/
theorem local?_defineEach_of_not_mem (hname : name ∉ entries.map Prod.fst) :
    (h.defineEach id entries).local? id name = h.local? id name := by
  induction entries generalizing h with
  | nil => rfl
  | cons entry rest ih =>
    rw [List.map_cons, List.mem_cons, not_or] at hname
    refine (ih hname.2).trans ?_
    rw [local?_define, if_neg fun hwritten => hname.1 hwritten.2.1]

/-- Each of several distinct names has the value it was given. -/
theorem local?_defineEach_of_mem (hid : id < h.size) (hnodup : (entries.map Prod.fst).Nodup)
    {entry : String × Value} (hentry : entry ∈ entries) :
    (h.defineEach id entries).local? id entry.1 = some entry.2 := by
  induction entries generalizing h with
  | nil => cases hentry
  | cons head rest ih =>
    obtain ⟨hhead, hrest⟩ := List.nodup_cons.mp hnodup
    rcases List.mem_cons.mp hentry with rfl | hlater
    · refine (local?_defineEach_of_not_mem hhead).trans ?_
      rw [local?_define, if_pos ⟨rfl, rfl, hid⟩]
    · exact ih ((size_define ..).symm ▸ hid) hrest hlater

end Heap

/-- Definitions one after the other write to one scope. -/
theorem defineAll_run (env : Environment) (entries : List (String × Value)) (s : State) :
    env.defineAll entries s = (.ok (), { s with heap := s.heap.defineEach env.scope entries }) := by
  induction entries generalizing s with
  | nil => rfl
  | cons entry rest ih => exact ih _

/-- From one state to the other, the given entries have been bound in the scope of an environment,
and nothing else has changed. -/
structure Fills (env : Environment) (entries : List (String × Value)) (s s' : State) : Prop where
  bound : ∀ entry ∈ entries, s'.heap.local? env.scope entry.1 = some entry.2
  others : ∀ name ∉ entries.map Prod.fst,
    s'.heap.local? env.scope name = s.heap.local? env.scope name
  parent : s'.heap.parent? env.scope = s.heap.parent? env.scope
  elsewhere : ∀ id ≠ env.scope, s'.heap.scope? id = s.heap.scope? id
  size : s'.heap.size = s.heap.size
  rest : s' = { s with heap := s'.heap }

/-- **Definitions one after the other bind their names and touch nothing else.** -/
theorem fills_defineEach (henv : env.scope < s.heap.size)
    (hnodup : (entries.map Prod.fst).Nodup) :
    Fills env entries s { s with heap := s.heap.defineEach env.scope entries } where
  bound _ hentry := Heap.local?_defineEach_of_mem henv hnodup hentry
  others _ hname := Heap.local?_defineEach_of_not_mem hname
  parent := by
    rw [Heap.parent?, Heap.parent?, Heap.scope?_defineEach]
    cases s.heap.scope? env.scope <;> rfl
  elsewhere _ hid := Heap.scope?_defineEach_of_ne hid entries
  size := Heap.size_defineEach s.heap env.scope entries
  rest := rfl

/-! ## Members in turn -/

/-- A member is read as an entry: under its key, with the value that its value converts to. -/
abbrev MemberReads : String × Json → String × Value → Prop :=
  Keyed fun j v => Value.ofJson j = .ok v

/-- **Members that convert are bound**, and what follows goes on from there. -/
theorem defineMembers_of_reads (h : List.Forall₂ MemberReads before entries) :
    env.defineMembers (before ++ rest) s =
      env.defineMembers rest { s with heap := s.heap.defineEach env.scope entries } := by
  induction h generalizing s with
  | nil => rfl
  | @cons member entry _ _ hread _ ih =>
    obtain ⟨key, json⟩ := member
    obtain ⟨name, v⟩ := entry
    obtain ⟨rfl, hjson⟩ := hread
    have hvalue : ofExcept (Value.ofJson json) s = (.ok v, s) := by
      rw [ofExcept_run]
      exact congrArg (·, s) hjson
    exact (bind_of_ok hvalue).trans ih

/-- A member that does not convert stops the binding with its error. -/
theorem defineMembers_of_error {key : String} {json : Json} {e : Error}
    (h : Value.ofJson json = .error e) :
    env.defineMembers ((key, json) :: rest) s = (.error e, s) := by
  refine bind_of_error ?_
  rw [ofExcept_run, h]

/-- The members up to the first one that does not convert, if there is one. -/
theorem exists_reads_until (members : List (String × Json)) :
    ∃ before entries, List.Forall₂ MemberReads before entries ∧
      (members = before ∨ ∃ key json after e, members = before ++ (key, json) :: after ∧
        Value.ofJson json = .error e) := by
  induction members with
  | nil => exact ⟨[], [], .nil, Or.inl rfl⟩
  | cons member rest ih =>
    obtain ⟨key, json⟩ := member
    cases hjson : Value.ofJson json with
    | error e => exact ⟨[], [], .nil, Or.inr ⟨key, json, rest, e, rfl, hjson⟩⟩
    | ok v =>
      obtain ⟨before, entries, hreads, hrest⟩ := ih
      refine ⟨(key, json) :: before, (key, v) :: entries, .cons ⟨rfl, hjson⟩ hreads, ?_⟩
      rcases hrest with rfl | ⟨key', json', after, e, rfl, herror⟩
      · exact Or.inl rfl
      · exact Or.inr ⟨key', json', after, e, rfl, herror⟩

theorem exists_reads_iff :
    (∃ entries, List.Forall₂ MemberReads members entries) ↔
      ∀ member ∈ members, ∃ v, Value.ofJson member.2 = .ok v := by
  rw [exists_forall₂_iff]
  exact forall₂_congr fun _ _ => exists_keyed_iff

/-- **What binding an object does**: it binds the members before the first one that does not
convert, and fails with the error of this one if there is one. -/
theorem defineJson_run (env : Environment) (s : State) (members : List (String × Json)) :
    ∃ before entries, List.Forall₂ MemberReads before entries ∧
      ((members = before ∧ env.defineJson (.object members) s =
          (.ok (), { s with heap := s.heap.defineEach env.scope entries })) ∨
        ∃ key json after e, members = before ++ (key, json) :: after ∧
          Value.ofJson json = .error e ∧ env.defineJson (.object members) s =
            (.error e, { s with heap := s.heap.defineEach env.scope entries })) := by
  obtain ⟨before, entries, hreads, hrest⟩ := exists_reads_until members
  refine ⟨before, entries, hreads, ?_⟩
  rcases hrest with rfl | ⟨key, json, after, e, rfl, herror⟩
  · refine Or.inl ⟨rfl, ?_⟩
    have hrun : env.defineMembers (members ++ []) s = _ := defineMembers_of_reads hreads
    rw [List.append_nil] at hrun
    exact hrun
  · exact Or.inr ⟨key, json, after, e, rfl, herror,
      (defineMembers_of_reads hreads).trans (defineMembers_of_error herror)⟩

/-! ## A new environment -/

/-- Entries under the keys of sorted members are sorted. -/
theorem sorted_of_reads (hmembers : SortedEntries.Sorted members)
    (hreads : List.Forall₂ MemberReads members entries) : SortedEntries.Sorted entries := by
  have hkeys : (members.map Prod.fst).Pairwise (· < ·) := List.pairwise_map.mpr hmembers
  rw [keys_eq_of_keyed hreads] at hkeys
  exact List.pairwise_map.mp hkeys

/-- A new scope in which sorted entries are bound lists these entries. -/
theorem visible_defineEach_alloc (h : Heap) (hentries : SortedEntries.Sorted entries) :
    ((h.alloc ⟨.empty, none⟩).defineEach h.size entries).visible h.size = entries := by
  have hscope : ((h.alloc ⟨.empty, none⟩).defineEach h.size entries).scope? h.size =
      some ⟨.ofList entries, none⟩ := by
    rw [Heap.scope?_defineEach, Heap.scope?_alloc, if_pos rfl]
    rfl
  have hchain : ((h.alloc ⟨.empty, none⟩).defineEach h.size entries).chain h.size = [h.size] := by
    simp only [Heap.chain, Heap.chainUpTo, hscope]
  have hlisted : ((h.alloc ⟨.empty, none⟩).defineEach h.size entries).entries h.size = entries := by
    simp only [Heap.entries, hscope,
      Keywords.ofList_of_nodup (SortedEntries.nodup_keys_of_sorted hentries)]
  simp only [Heap.visible, hchain, List.reverse_singleton, List.flatMap_cons, List.flatMap_nil,
    List.append_nil, hlisted, SortedEntries.ofList_of_sorted hentries]

/-! ## The main result -/

/-- **Binding a JSON object is making definitions until a value does not convert.**  It succeeds
exactly if every value converts.  What is bound, in the scope itself and with nothing else changed,
is in either case the members before the first one whose value does not convert, under their keys
and with their converted values; the failure is that of the value that does not convert.

A new environment made of an object is returned on success only.  It lists the keys with the
converted values, and as a map these are written as the object again. -/
theorem json_members_are_bound_in_turn {members : List (String × Json)}
    (hobject : (Json.object members).Canonical) (env : Environment) (s : State) :
    ((∃ s', env.defineJson (.object members) s = (.ok (), s')) ↔
      ∀ member ∈ members, ∃ v, Value.ofJson member.2 = .ok v) ∧
    (env.scope < s.heap.size →
      ∃ before entries s', List.Forall₂ MemberReads before entries ∧
        env.defineAll entries s = (.ok (), s') ∧ Fills env entries s s' ∧
        ((members = before ∧ env.defineJson (.object members) s = (.ok (), s')) ∨
          ∃ key json after e, members = before ++ (key, json) :: after ∧
            Value.ofJson json = .error e ∧
            env.defineJson (.object members) s = (.error e, s'))) ∧
    ((∃ entries made s', List.Forall₂ MemberReads members entries ∧
        Environment.ofJson (.object members) s = (.ok made, s') ∧
        made.bindings s' = (.ok entries, s') ∧
        Value.toJson (.map (.ofList entries)) = .ok (.object members)) ∨
      ∃ before entries key json after e s', List.Forall₂ MemberReads before entries ∧
        members = before ++ (key, json) :: after ∧ Value.ofJson json = .error e ∧
        Environment.ofJson (.object members) s = (.error e, s')) := by
  have hsorted := (Json.canonical_object.mp hobject).1
  have hnodup := SortedEntries.nodup_keys_of_sorted hsorted
  refine ⟨?_, fun henv => ?_, ?_⟩
  · obtain ⟨before, entries, hreads, ⟨rfl, hrun⟩ | ⟨key, json, after, e, rfl, herror, hrun⟩⟩ :=
      defineJson_run env s members
    · exact iff_of_true ⟨_, hrun⟩ (exists_reads_iff.mp ⟨entries, hreads⟩)
    · refine iff_of_false ?_ fun hall => ?_
      · rintro ⟨s', hok⟩
        cases hok.symm.trans hrun
      · obtain ⟨v, hv⟩ := hall (key, json) (List.mem_append_right _ List.mem_cons_self)
        cases hv.symm.trans herror
  · obtain ⟨before, entries, hreads, hrun⟩ := defineJson_run env s members
    -- The members that are bound are an initial part of the object, so their keys are distinct.
    have hbefore : before <+: members := by
      rcases hrun with ⟨rfl, _⟩ | ⟨key, json, after, e, rfl, _⟩
      · exact List.prefix_rfl
      · exact List.prefix_append _ _
    have hdistinct : (entries.map Prod.fst).Nodup := by
      rw [← keys_eq_of_keyed hreads]
      exact hnodup.sublist (hbefore.sublist.map Prod.fst)
    exact ⟨before, entries, _, hreads, defineAll_run env entries s,
      fills_defineEach henv hdistinct, hrun⟩
  · let made : Environment := ⟨s.heap.size⟩
    let s₁ : State := { s with heap := s.heap.alloc ⟨.empty, none⟩ }
    have hnew : Environment.new s = (.ok made, s₁) := rfl
    obtain ⟨before, entries, hreads, ⟨rfl, hrun⟩ | ⟨key, json, after, e, rfl, herror, hrun⟩⟩ :=
      defineJson_run made s₁ members
    · have hentries := sorted_of_reads hsorted hreads
      have hmade : Environment.ofJson (.object members) s = _ :=
        (bind_of_ok hnew).trans (bind_of_ok hrun)
      refine Or.inl ⟨entries, made, _, hreads, hmade, ?_, ?_⟩
      · exact congrArg (fun listed => (Except.ok listed, _)) (visible_defineEach_alloc _ hentries)
      · exact Value.toJson_ofJson hobject (Value.ofJson_object_eq_ok_iff.mpr ⟨entries, hreads, rfl⟩)
    · exact Or.inr ⟨before, entries, key, json, after, e, _, hreads, rfl, herror,
        (bind_of_ok hnew).trans (bind_of_error hrun)⟩

/-- The second of three members is a number beyond 64 bits with sign: the first is bound, and the
third is not. -/
theorem number_too_large_stops_binding :
    let members : List (String × Json) :=
      [("a", .number (.signed 1)), ("b", .number (.unsigned 9223372036854775808)), ("c", .null)]
    let s := (Environment.new .initial).2
    (Json.object members).Canonical ∧
      ∃ entries s', Fills ⟨0⟩ entries s s' ∧
        (⟨0⟩ : Environment).defineJson (.object members) s =
          (.error (.numberNotInteger (.unsigned 9223372036854775808)), s') ∧
        s'.heap.local? 0 "a" = some (.number 1) ∧
        s'.heap.local? 0 "b" = none ∧ s'.heap.local? 0 "c" = none := by
  intro members s
  have hobject : (Json.object members).Canonical := by
    have hkeys : ["a", "b", "c"].Pairwise (· < ·) := by decide +kernel
    have hsorted : SortedEntries.Sorted members := List.pairwise_map.mp hkeys
    refine Json.canonical_object.mpr ⟨hsorted, ?_⟩
    refine List.forall_mem_cons.mpr ⟨Json.canonical_leaf rfl rfl, List.forall_mem_cons.mpr ⟨?_, ?_⟩⟩
    · exact Json.canonical_leaf rfl rfl
    · exact List.forall_mem_singleton.mpr (Json.canonical_leaf rfl rfl)
  obtain ⟨_, hdefine, _⟩ := json_members_are_bound_in_turn hobject ⟨0⟩ s
  obtain ⟨before, entries, s', _, _, hfills, ⟨_, hok⟩ | ⟨key, json, after, e, _, _, hrun⟩⟩ :=
    hdefine Nat.one_pos
  · cases hok
  · obtain ⟨he, hstate⟩ := Prod.mk.inj hrun
    obtain rfl := Except.error.inj he
    subst hstate
    exact ⟨hobject, entries, _, hfills, rfl, rfl, rfl, rfl⟩

end Homoiconic
