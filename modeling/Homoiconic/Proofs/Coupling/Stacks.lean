import Homoiconic.Proofs.Coupling.Basic

/-!
# Stacks over a bottom

The stack of the second run is the one of the first with something beneath it.  What the first run
takes off its stack is taken off the second one too, and what is left stands over the same bottom
(`couples_popN` and the others).  Where the first run finds too little, either there is nothing
beneath the second stack, and it finds too little too, or the coupling forgives the failure.

Every operation is brought down to one fact: a stack over a bottom whose first stack ends in some
elements ends in the same elements (`Above.of_pushAll`).
-/

namespace Homoiconic

namespace Coupling

variable {C : Coupling} {levels size : Nat} {below : List Value} {s t rest : Stack Value}

/-! ## Pushing -/

theorem Above.push {v : Value} (h : C.Above below size s t) (hv : C.Good size v) :
    C.Above below size (s.push v) (t.push v) := by
  refine ⟨by rw [Stack.toList_push, Stack.toList_push, h.1, List.append_assoc], ?_⟩
  rw [Stack.toList_push]
  exact List.forall_mem_append.mpr ⟨h.2, by simpa using hv⟩

/-- What stands on top of the first stack stands on top of the second. -/
theorem Above.of_pushAll {values : List Value} (h : C.Above below size (rest.pushAll values) t) :
    ∃ rest' : Stack Value, t = rest'.pushAll values ∧ C.Above below size rest rest' ∧
      C.GoodAll size values := by
  obtain ⟨heq, hgood⟩ := h
  rw [Stack.toList_pushAll] at heq hgood
  obtain ⟨hrest, hvalues⟩ := List.forall_mem_append.mp hgood
  refine ⟨.ofList (below ++ rest.toList), Stack.eq_of_toList_eq ?_, ⟨?_, hrest⟩, hvalues⟩
  · rw [Stack.toList_pushAll, Stack.toList_ofList, heq, List.append_assoc]
  · exact Stack.toList_ofList _

/-- Either nothing is beneath the second stack, or failures of the first run are forgiven. -/
theorem Above.eq_or_forgives (hbelow : C.base below) (h : C.Above below size s t) :
    t = s ∨ ∀ e, C.forgives e := by
  refine (C.forgives_of_base hbelow).imp_left fun hnil => Stack.eq_of_toList_eq ?_
  rw [h.1, hnil, List.nil_append]

/-! ## Taking off -/

variable {α β γ : Type}

/-- The result of taking something off two stacks: the same on both sides, and of the kind `good`,
with what is left over the same bottom. -/
def Popped (C : Coupling) (below : List Value) (good : Nat → α → Prop) (size : Nat)
    (x y : Stack Value × α) : Prop :=
  x.2 = y.2 ∧ good size x.2 ∧ C.Above below size x.1 y.1

/-- Composition after something has been taken off. -/
theorem Couples.bind_popped {good : Nat → α → Prop} {related : Nat → β → γ → Prop}
    {a b : EvalM (Stack Value × α)} {f : Stack Value × α → EvalM β}
    {g : Stack Value × α → EvalM γ} (hab : C.Couples levels size (C.Popped below good) a b)
    (hfg : ∀ size' rest rest' x, size ≤ size' → good size' x → C.Above below size' rest rest' →
      C.Couples levels size' related (f (rest, x)) (g (rest', x))) :
    C.Couples levels size related (a >>= f) (b >>= g) := by
  refine Couples.bind hab ?_
  rintro size' ⟨rest, x⟩ ⟨rest', y⟩ hsize ⟨hxy, hx, hrest⟩
  obtain rfl : x = y := hxy
  exact hfg size' rest rest' x hsize hx hrest

/-- An action on stacks is coupled if it gives the second run what it gives the first, and fails
alike where a failure is not forgiven. -/
theorem couples_ofStack {related : Nat → α → β → Prop} {x : Except Underflow α}
    {y : Except Underflow β}
    (hok : ∀ a, x = .ok a → ∃ b, y = .ok b ∧ related size a b)
    (herror : ∀ cause, x = .error cause → y = .error cause ∨ ∀ e, C.forgives e) :
    C.Couples levels size related (ofStack x) (ofStack y) := by
  cases x with
  | ok a =>
    obtain ⟨b, rfl, hab⟩ := hok a rfl
    exact Couples.returning hab
  | error cause =>
    rcases herror cause rfl with rfl | hforgives
    · exact Couples.failing _
    · exact fun _ _ _ _ => .forgiven (hforgives _)

/-- Taking something off is coupled if what it takes off is what had been pushed. -/
theorem couples_take {good : Nat → α → Prop}
    {take : Stack Value → Except Underflow (Stack Value × α)} (values : α → List Value)
    (hbelow : C.base below) (h : C.Above below size s t)
    (htake : ∀ {s rest x}, take s = .ok (rest, x) → s = rest.pushAll (values x))
    (hpush : ∀ {s rest x}, take s = .ok (rest, x) →
      ∀ rest' : Stack Value, take (rest'.pushAll (values x)) = .ok (rest', x))
    (hgood : ∀ x, C.GoodAll size (values x) → good size x) :
    C.Couples levels size (C.Popped below good) (ofStack (take s)) (ofStack (take t)) := by
  refine couples_ofStack (fun x hx => ?_) fun cause hcause => ?_
  · obtain ⟨rest, x⟩ := x
    obtain rfl := htake hx
    obtain ⟨rest', rfl, hrest, hvalues⟩ := h.of_pushAll
    exact ⟨(rest', x), hpush hx rest', rfl, hgood x hvalues, hrest⟩
  · exact (h.eq_or_forgives hbelow).imp_left fun heq => by rw [heq, hcause]

theorem couples_pop (hbelow : C.base below) (h : C.Above below size s t) :
    C.Couples levels size (C.Popped below C.Good) (ofStack s.pop) (ofStack t.pop) := by
  refine couples_take (fun v => [v]) hbelow h Stack.eq_push_of_pop ?_ ?_
  · exact fun _ rest' => Stack.pop_push rest' _
  · exact fun _ hv => by simpa [GoodAll] using hv

theorem couples_popN (n : Nat) (hbelow : C.base below) (h : C.Above below size s t) :
    C.Couples levels size (C.Popped below C.GoodAll) (ofStack (s.popN n))
      (ofStack (t.popN n)) := by
  refine couples_take id hbelow h (fun hpop => (Stack.eq_pushAll_of_popN hpop).1) ?_ fun _ hv => hv
  intro s rest values hpop rest'
  obtain ⟨_, rfl⟩ := Stack.eq_pushAll_of_popN hpop
  exact Stack.popN_pushAll rest' values

theorem couples_pop2 (hbelow : C.base below) (h : C.Above below size s t) :
    C.Couples levels size
      (C.Popped below fun size (x : Value × Value) => C.Good size x.1 ∧ C.Good size x.2)
      (ofStack s.pop2) (ofStack t.pop2) := by
  refine couples_take (fun x => [x.1, x.2]) hbelow h Stack.eq_pushAll_of_pop2 ?_ ?_
  · exact fun _ rest' => Stack.pop2_pushAll rest' _ _
  · exact fun _ hv => by simpa [GoodAll] using hv

theorem couples_pop3 (hbelow : C.base below) (h : C.Above below size s t) :
    C.Couples levels size
      (C.Popped below fun size (x : Value × Value × Value) =>
        C.Good size x.1 ∧ C.Good size x.2.1 ∧ C.Good size x.2.2)
      (ofStack s.pop3) (ofStack t.pop3) := by
  refine couples_take (fun x => [x.1, x.2.1, x.2.2]) hbelow h Stack.eq_pushAll_of_pop3 ?_ ?_
  · exact fun _ rest' => Stack.pop3_pushAll rest' _ _ _
  · exact fun _ hv => by simpa [GoodAll] using hv

theorem couples_pop4 (hbelow : C.base below) (h : C.Above below size s t) :
    C.Couples levels size
      (C.Popped below fun size (x : Value × Value × Value × Value) =>
        C.Good size x.1 ∧ C.Good size x.2.1 ∧ C.Good size x.2.2.1 ∧ C.Good size x.2.2.2)
      (ofStack s.pop4) (ofStack t.pop4) := by
  refine couples_take (fun x => [x.1, x.2.1, x.2.2.1, x.2.2.2]) hbelow h
    Stack.eq_pushAll_of_pop4 ?_ ?_
  · exact fun _ rest' => Stack.pop4_pushAll rest' _ _ _ _
  · exact fun _ hv => by simpa [GoodAll] using hv

/-- Two stacks over a bottom have the same top. -/
theorem agree_peek (hbelow : C.base below) (h : C.Above below size s t) :
    C.Agree levels size C.Good (ofStack s.peek) (ofStack t.peek) := by
  refine couples_ofStack (fun v hv => ?_) fun cause hcause => ?_
  · obtain ⟨rest, rfl⟩ := Stack.exists_push_of_peek hv
    have hpush : C.Above below size (rest.pushAll [v]) t := h
    obtain ⟨rest', rfl, _, hgood⟩ := hpush.of_pushAll
    exact ⟨v, Stack.peek_push rest' v, rfl, by simpa [GoodAll] using hgood⟩
  · exact (h.eq_or_forgives hbelow).imp_left fun heq => by rw [heq, hcause]

end Coupling

end Homoiconic
