import Homoiconic.Evaluation.Apply
import Homoiconic.Proofs.Coupling.Natives

/-!
# Operations on evaluated arguments are immediate

An operation that is given the values of its arguments, and is not a closure, is done with them at
once.  It does not evaluate or fold anything, does not nest, and does not look at a scope or at the
depth of the run.  All it can do is to return or fail, to draw a symbol and to log a line
(`Immediate`).

What holds of these few things, and is kept when one is done after the other, holds of all
operations, by induction on how an immediate action is composed.
-/

namespace Homoiconic

variable {α β : Type}

/-- An action that returns or fails at once, except that it may draw symbols and log lines. -/
inductive Immediate : {α : Type} → EvalM α → Prop
  | returning {α : Type} (x : α) : Immediate (pure x : EvalM α)
  | failing {α : Type} (e : Error) : Immediate (fail e : EvalM α)
  | generating (stem : String) : Immediate (gensym stem)
  | logging (line : String) : Immediate (writeLog line)
  | bind {α β : Type} {a : EvalM α} {f : α → EvalM β} (first : Immediate a)
      (then' : ∀ x, Immediate (f x)) : Immediate (a >>= f)

namespace Immediate

theorem ofExcept (result : Except Error α) : Immediate (Homoiconic.ofExcept result) := by
  cases result with
  | ok x => exact .returning x
  | error e => exact .failing e

theorem checkArity (arity : Arity) (got : Nat) : Immediate (Homoiconic.checkArity arity got) := by
  unfold Homoiconic.checkArity
  cases arity.violated? got with
  | none => exact .returning ()
  | some bound => exact .failing _

/-- A typed function is immediate if its answers are. -/
theorem signature {sig : Signature} {body : sig.Body} (args : List Value) (kwargs : Keywords Value)
    (hbody : Signature.Sound (fun _ => True) Immediate sig.params body) :
    Immediate (sig.call body args kwargs) := by
  unfold Signature.call
  cases kwargs.firstKey? with
  | some key => exact .failing _
  | none =>
    by_cases haccepts : sig.accepts args.length
    · simp only [haccepts, if_true]
      cases hsupply : Signature.supply sig.params body args with
      | error e => exact .failing e
      | ok action =>
        exact Signature.holds_of_supply (fun _ _ _ _ => trivial) hbody (fun _ _ => trivial) hsupply
    · simp only [haccepts]
      exact .failing _

theorem typed (native : TypedNative) (args : List Value) (kwargs : Keywords Value) :
    Immediate (native.perform args kwargs) := by
  cases native with
  | seven => exact signature args kwargs (.returning _)
  | inc | negate | shout | own | unit | sumList | sizeList =>
    exact signature args kwargs fun _ _ => .returning _
  | add | sub | mul | gt | joinList => exact signature args kwargs fun _ _ _ _ => .returning _
  | safeDiv =>
    refine signature args kwargs fun a _ b _ => ?_
    unfold safeQuotient
    by_cases hb : b = 0
    · rw [if_pos hb]
      exact .failing _
    · rw [if_neg hb]
      exact .returning _
  | sum3 => exact signature args kwargs fun _ _ _ _ _ _ => .returning _
  | list4 => exact signature args kwargs fun _ _ _ _ _ _ _ _ => .returning _
  | list5 => exact signature args kwargs fun _ _ _ _ _ _ _ _ _ _ => .returning _

theorem variadic (native : VariadicNative) (args : List Value) (kwargs : Keywords Value) :
    Immediate (native.perform args kwargs) := by
  cases native with
  | vsum | vlist | vcat => exact signature args kwargs fun _ _ => .returning _
  | vjoin => exact signature args kwargs fun _ _ _ _ => .returning _
  | vbetween => exact signature args kwargs fun _ _ _ _ _ _ => .returning _
  | vmix => exact signature args kwargs fun _ _ _ _ _ _ _ _ => .returning _

theorem free (native : FreeNative) (args : List Value) (kwargs : Keywords Value) :
    Immediate (native.perform args kwargs) := by
  cases native with
  | pack | first => exact .returning _
  | total =>
    simp only [FreeNative.perform]
    cases ElementType.number.readEach (args ++ kwargs.values) with
    | ok ns => exact .returning _
    | error e => exact .failing e
  | fail => exact .failing _
  | log => exact .bind (.logging _) fun _ => .returning _

theorem slice (native : SliceNative) (args : List Value) : Immediate (native.perform args) := by
  cases native with
  | count => exact .returning _
  | last =>
    simp only [SliceNative.perform]
    cases args.getLast? with
    | some v => exact .returning v
    | none => exact .failing _

theorem nativeOperation (op : NativeOperation) (args : List Value) (kwargs : Keywords Value) :
    Immediate (op.call args kwargs) := by
  cases op with
  | typed native => exact typed native args kwargs
  | variadic native arity => exact (checkArity arity _).bind fun _ => variadic native args kwargs
  | free native => exact free native args kwargs
  | slice native =>
    simp only [NativeOperation.call]
    cases kwargs.firstKey? with
    | some key => exact .failing _
    | none => exact slice native args

theorem primitive (op : Primitive) (args : List Value) (kwargs : Keywords Value) :
    Immediate (op.call args kwargs) := by
  refine (checkArity op.arity _).bind fun _ => ?_
  cases op with
  | add | multiply | length => exact signature args kwargs fun _ _ => ofExcept _
  | subtract | less | greater | atMost | atLeast =>
    exact signature args kwargs fun _ _ _ _ => ofExcept _
  | equal | join => exact signature args kwargs fun _ _ _ _ => .returning _
  | not | list | identity | sequence | concat | upper | lower =>
    exact signature args kwargs fun _ _ => .returning _
  | gensym => exact signature args kwargs fun _ _ => .bind (.generating _) fun _ => .returning _
  | node => exact ofExcept _

end Immediate

/-- **Operations that are not closures are immediate.** -/
theorem Operation.immediate_call {op : Operation Value} (hop : op.closure? = none)
    (next : Engine) (args : List Value) (kwargs : Keywords Value) :
    Immediate (op.call next args kwargs) := by
  cases op with
  | primitive p => exact .primitive p args kwargs
  | append => exact .ofExcept _
  | closure c => cases hop
  | native op identity => exact .nativeOperation op args kwargs

end Homoiconic
