import Homoiconic.Proofs.NameResolution
import Homoiconic.Proofs.Requests

/-!
# Sessions of an embedding program

An embedding program works with what it is handed.  It asks for environments, it writes to the
environments it has, it starts runs in them, and runs hand values back (`Request`).  It can build
values of its own around these, put them into lists and calls and programs, and pass them on.  But
it cannot make a closure; a closure is made by evaluation.  So the closures in what it builds
capture scopes that closures it holds capture (`Value.BuiltFrom`).  A `Session` is a sequence of
requests of this kind, each of which may fail, together with everything that was handed out on the
way.

What a request uses is not required to belong to the heap here, but to be held, or built from what
is held.  That it belongs to the heap is carried through the session, since everything handed out
does and goes on doing so.  So a session reaches the state that it ends in (`Session.reachable`),
and the heap is well formed all along.

In a well-formed heap going up from a scope comes to an end.  This is said twice, of the way up and
of the search for a name on it, each by a relation that takes one step at a time and whose
derivations are therefore finite (`Heap.Climbs`, `Heap.Searches`).  The functions on the heap, which
take a limited number of steps, compute what these relations describe.
-/

namespace Homoiconic

/-! ## Captured scopes -/

/-- A closure in the value, however deep, captures the scope. -/
inductive Value.Captures : Value → ScopeId → Prop
  | here {v : Value} {id : ScopeId} : id ∈ v.captured? → Captures v id
  | part {v w : Value} {id : ScopeId} : w ∈ v.parts → Captures w id → Captures v id

theorem Value.within_iff_captures {captures : ScopeId → Prop} {v : Value} :
    v.Within captures (fun _ => True) ↔ ∀ id, v.Captures id → captures id := by
  constructor
  · intro hv id hcaptures
    induction hcaptures with
    | here hid => exact (within_iff.mp hv).1 _ hid
    | part hw _ ih => exact ih ((within_iff.mp hv).2.2 _ hw)
  · intro hcaptures
    induction v using induction_on_parts with
    | step v ih =>
      refine ⟨fun id hid => hcaptures id (.here hid), fun _ _ => trivial, fun w hw => ?_⟩
      exact ih w hw fun id hid => hcaptures id (.part hw hid)

/-- A value that can be built from values that are held: its closures capture nothing that those in
the held values do not capture. -/
def Value.BuiltFrom (held : List Value) (v : Value) : Prop :=
  ∀ id, v.Captures id → ∃ w ∈ held, w.Captures id

theorem Value.BuiltFrom.livesIn {held : List Value} {v : Value} {h : Heap}
    (hv : v.BuiltFrom held) (hheld : ∀ w ∈ held, w.LivesIn h) : v.LivesIn h := by
  refine within_iff_captures.mpr fun id hid => ?_
  obtain ⟨w, hw, hcaptures⟩ := hv id hid
  exact within_iff_captures.mp (hheld w hw) id hcaptures

/-! ## Sessions -/

/-- The states that an embedding program can bring about, with the environments and the values that
it has been handed.  It can use the environments again and again, and values built from those it
holds.  A request that fails hands nothing out, but what it did is not undone. -/
inductive Session : State → List Environment → List Value → Prop
  | start : Session .initial [] []
  | answered {s s' : State} {environments : List Environment} {values : List Value}
      {answer : Answer} (session : Session s environments values) (request : Request)
      (uses : ∀ env ∈ request.environments, env ∈ environments)
      (builds : ∀ v ∈ request.values, v.BuiltFrom values)
      (run : request.answer s = (.ok answer, s')) :
      Session s' (answer.environments ++ environments) (answer.values ++ values)
  | refused {s s' : State} {environments : List Environment} {values : List Value} {e : Error}
      (session : Session s environments values) (request : Request)
      (uses : ∀ env ∈ request.environments, env ∈ environments)
      (builds : ∀ v ∈ request.values, v.BuiltFrom values)
      (run : request.answer s = (.error e, s')) :
      Session s' environments values

/-! ## Sessions reach states with well-formed heaps -/

/-- **A request leads to a state that can be reached, and what is held goes on belonging to its
heap**, if all that the request uses is held or built from what is held.  What it hands out belongs
to the heap too. -/
theorem Request.sound {s : State} {environments : List Environment} {values : List Value}
    (request : Request) (uses : ∀ env ∈ request.environments, env ∈ environments)
    (builds : ∀ v ∈ request.values, v.BuiltFrom values) (hs : s.Reachable)
    (hheld : Answer.Belongs s.heap.size ⟨environments, values⟩) :
    (request.answer s).2.Reachable ∧
      Answer.Belongs (request.answer s).2.heap.size ⟨environments, values⟩ ∧
      ∀ answer, (request.answer s).1 = .ok answer →
        answer.Belongs (request.answer s).2.heap.size := by
  have henvs : ∀ env ∈ request.environments, env.scope < s.heap.size :=
    fun env henv => hheld.1 env (uses env henv)
  have hvalues : ∀ v ∈ request.values, v.LivesIn s.heap :=
    fun v hv => (builds v hv).livesIn hheld.2
  obtain ⟨_, hkeeps⟩ := request.keeps s.heap.size henvs hvalues
  obtain ⟨hgrown, _⟩ := hkeeps.heap hs.wellFormed
  refine ⟨hs.request request henvs hvalues, hheld.mono hgrown, fun answer hanswer => ?_⟩
  obtain ⟨size, hsize, hbelongs⟩ := hkeeps.result hs.wellFormed (Prod.ext hanswer rfl)
  exact hbelongs.mono hsize

/-- **A session reaches the state that it ends in, and everything handed out belongs to its
heap.** -/
theorem Session.reachable {s : State} {environments : List Environment} {values : List Value}
    (h : Session s environments values) :
    s.Reachable ∧ Answer.Belongs s.heap.size ⟨environments, values⟩ := by
  induction h with
  | start => exact ⟨.initial, List.forall_mem_nil _, List.forall_mem_nil _⟩
  | answered _ request uses builds run ih =>
    obtain ⟨hs, hheld⟩ := ih
    have hsound := request.sound uses builds hs hheld
    rw [run] at hsound
    obtain ⟨hs', hheld', hanswer⟩ := hsound
    obtain ⟨henvs, hvalues⟩ := hanswer _ rfl
    exact ⟨hs', List.forall_mem_append.mpr ⟨henvs, hheld'.1⟩,
      List.forall_mem_append.mpr ⟨hvalues, hheld'.2⟩⟩
  | refused _ request uses builds run ih =>
    obtain ⟨hs, hheld⟩ := ih
    have hsound := request.sound uses builds hs hheld
    rw [run] at hsound
    obtain ⟨hs', hheld', _⟩ := hsound
    exact ⟨hs', hheld'⟩

/-! ## Going up comes to an end -/

namespace Heap

variable {h : Heap} {id : ScopeId} {name : String}

/-- The scopes on the way up from a scope, to one without a parent. -/
inductive Climbs (h : Heap) : ScopeId → List ScopeId → Prop
  | root {id : ScopeId} : id < h.size → h.parent? id = none → Climbs h id [id]
  | up {id parent : ScopeId} {above : List ScopeId} : h.parent? id = some parent →
      Climbs h parent above → Climbs h id (id :: above)

/-- The search for a name on the way up from a scope, and the scope where it ends: the first that
binds the name, or none. -/
inductive Searches (h : Heap) (name : String) : ScopeId → Option ScopeId → Prop
  | found {id : ScopeId} : h.binds id name → Searches h name id (some id)
  | up {id parent : ScopeId} {found : Option ScopeId} : ¬ h.binds id name →
      h.parent? id = some parent → Searches h name parent found → Searches h name id found
  | missing {id : ScopeId} : ¬ h.binds id name → h.parent? id = none → Searches h name id none

theorem not_transGen_parent (hh : h.ParentsFirst) (id : ScopeId) :
    ¬ Relation.TransGen (fun a b => h.parent? a = some b) id id := by
  have hlt {a b : ScopeId} (hab : Relation.TransGen (fun a b => h.parent? a = some b) a b) :
      b < a := by
    induction hab with
    | single hparent => exact hh _ _ hparent
    | tail _ hparent ih => exact Nat.lt_trans (hh _ _ hparent) ih
  exact fun hcycle => Nat.lt_irrefl id (hlt hcycle)

/-- **The chain of a scope is the way up from it**, and this ends. -/
theorem climbs_chain (hh : h.ParentsFirst) (hid : id < h.size) : h.Climbs id (h.chain id) := by
  induction id using Nat.strong_induction_on with
  | _ id ih =>
    rw [chain_eq_cons hh hid]
    cases hparent : h.parent? id with
    | none => exact .root hid hparent
    | some parent =>
      have hlt := hh id parent hparent
      exact .up hparent (ih parent hlt (Nat.lt_trans hlt hid))

/-- **A search ends**, from wherever it starts. -/
theorem exists_searches (hh : h.ParentsFirst) (id : ScopeId) (name : String) :
    ∃ found, h.Searches name id found := by
  induction id using Nat.strong_induction_on with
  | _ id ih =>
    by_cases hbinds : h.binds id name
    · exact ⟨some id, .found hbinds⟩
    · cases hparent : h.parent? id with
      | none => exact ⟨none, .missing hbinds hparent⟩
      | some parent =>
        obtain ⟨found, hfound⟩ := ih parent (hh id parent hparent)
        exact ⟨found, .up hbinds hparent hfound⟩

/-- A search finds what is first on the chain. -/
theorem Searches.find?_chain (hh : h.ParentsFirst) {found : Option ScopeId}
    (hsearch : h.Searches name id found) :
    (h.chain id).find? (fun s => h.binds s name) = found := by
  induction hsearch with
  | found hbinds => exact find?_chain_of_binds hh hbinds
  | up hbinds hparent _ ih => exact (find?_chain_of_parent hh hbinds hparent).trans ih
  | missing hbinds hparent => exact find?_chain_of_root hh hbinds hparent

/-- What the functions on the heap find is where a search ends. -/
theorem Searches.spec (hh : h.ParentsFirst) {found : Option ScopeId}
    (hsearch : h.Searches name id found) :
    h.lookup? id name = found.bind (fun owner => h.local? owner name) ∧
      h.contains id name = found.isSome ∧ h.owner id name = found.getD id := by
  have hfind := hsearch.find?_chain hh
  refine ⟨?_, ?_, ?_⟩
  · rw [lookup?_eq_bind, hfind]
  · rw [contains, ← hfind, List.isSome_find?]
  · rw [owner, hfind]

end Heap

/-! ## The main result -/

/-- **The heap of scopes stays well formed in every session.**  No scope is above itself, and going
up from a scope comes to an end, along its chain.  Closures capture scopes of the heap: those in
what scopes bind, and those in whatever was handed out, be it inside data, inside programs, or in
the bodies and defaults of other closures.  Environments that were handed out are scopes of the
heap.  And every search for a name ends, with what looking it up finds. -/
theorem sessions_keep_heap_well_formed {s : State} {environments : List Environment}
    {values : List Value} (h : Session s environments values) :
    (∀ id, ¬ Relation.TransGen (fun a b => s.heap.parent? a = some b) id id) ∧
      (∀ id < s.heap.size, s.heap.Climbs id (s.heap.chain id)) ∧
      (∀ id, ∀ v ∈ s.heap.values id, ∀ captured, v.Captures captured →
        captured < s.heap.size) ∧
      (∀ v ∈ values, ∀ captured, v.Captures captured → captured < s.heap.size) ∧
      (∀ env ∈ environments, env.scope < s.heap.size) ∧
      ∀ id name, ∃ found, s.heap.Searches name id found ∧
        s.heap.lookup? id name = found.bind (fun owner => s.heap.local? owner name) ∧
        s.heap.contains id name = found.isSome ∧ s.heap.owner id name = found.getD id := by
  obtain ⟨hs, henvs, hvalues⟩ := h.reachable
  have hwellFormed := hs.wellFormed
  have hparents := hwellFormed.parentsFirst
  refine ⟨?_, ?_, ?_, ?_, henvs, ?_⟩
  · exact Heap.not_transGen_parent hparents
  · intro id hid
    exact Heap.climbs_chain hparents hid
  · intro id v hv
    exact Value.within_iff_captures.mp (hwellFormed.livesIn v hv)
  · intro v hv
    exact Value.within_iff_captures.mp (hvalues v hv)
  · intro id name
    obtain ⟨found, hsearch⟩ := Heap.exists_searches hparents id name
    exact ⟨found, hsearch, hsearch.spec hparents⟩

/-- A session in which a closure is assigned to a name in the scope that it captures. -/
theorem session_with_recursive_closure :
    ∃ s values v, Session s [⟨0⟩] values ∧ s.heap.local? 0 "f" = some v ∧ v.Captures 0 ∧
      0 < s.heap.size ∧ s.heap.Climbs 0 (s.heap.chain 0) ∧
      ∃ found, s.heap.Searches "g" 0 found ∧ s.heap.contains 0 "g" = found.isSome := by
  have hnew : Session (Environment.new .initial).2 [⟨0⟩] [] :=
    Session.start.answered .new (fun _ henv => by cases henv) (fun _ hv => by cases hv) rfl
  have hbuilds : ∀ v ∈ [Value.call (.ofArgs (Builtin.form .assign).toValue [.symbol "f",
      .call (.ofArgs (Builtin.form .lambda).toValue [.list [], .symbol "f"])])],
      v.BuiltFrom [] := by
    refine List.forall_mem_singleton.mpr fun id hcaptures => False.elim ?_
    have hnone : (Value.call (.ofArgs (Builtin.form .assign).toValue [.symbol "f",
        .call (.ofArgs (Builtin.form .lambda).toValue [.list [], .symbol "f"])])).Within
        (fun _ => False) fun _ => True := by
      simp [CallNode.ofArgs, Keywords.values, Keywords.empty, Value.within_builtin]
    exact Value.within_iff_captures.mp hnone id hcaptures
  have hassigned := hnew.answered (.eval _ ⟨0⟩) (fun _ henv => henv) hbuilds rfl
  obtain ⟨_, hclimbs, hbound, _, hhandles, hsearches⟩ := sessions_keep_heap_well_formed hassigned
  have hhandle := hhandles ⟨0⟩ List.mem_cons_self
  obtain ⟨found, hsearch, _, hcontains, _⟩ := hsearches 0 "g"
  exact ⟨_, _, _, hassigned, rfl, .here rfl, hhandle, hclimbs 0 hhandle, found, hsearch, hcontains⟩

end Homoiconic
