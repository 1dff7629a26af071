/-!
# Library words

The combinators of the standard library that are defined directly on the stack.  The library also
has combinators that are spelled out as programs over these words; they are phrases, and live with
the library itself.

The comments show the stack before and after, its top last; quoted programs are lists.
-/

namespace Homoiconic

/-- A library combinator defined directly on the stack. -/
inductive Word where
  /-- `a --` -/
  | pop
  /-- `a -- a a` -/
  | dup
  /-- Leaves the stack unchanged. -/
  | nop
  /-- `a b -- b a` -/
  | swap
  /-- `a b -- b` -/
  | popd
  /-- `a b -- a a b` -/
  | dupd
  /-- `x1 .. xn n -- [x1 .. xn]` -/
  | quote
  /-- `b t f -- t` if `b` is truthy, else `f` -/
  | choice
  /-- `args f -- result` or `args kwargs f -- result` -/
  | invoke
  /-- `p [q..] -- [p q..]` -/
  | cons
  /-- `[p..] q -- [p.. q]` -/
  | take
  /-- `[p] -- ...`: folds `p` -/
  | i
  /-- `p [q] -- ...`: drops `p` and folds `q` -/
  | k
  /-- `[p] -- [p] ...`: folds `p`, keeping it -/
  | x
  /-- `x [p] -- ... x` -/
  | dip
  /-- `x y [p] -- ... x y` -/
  | dipd
  /-- `x y z [p] -- ... x y z` -/
  | dipdd
  /-- `[a..] [p] -- ...`: pushes each element and folds `p` after it -/
  | step
  /-- `[p] -- r`: pushes the top that `p` leaves, restoring the rest -/
  | nullary
  /-- `x [p] [q] -- r s`: applies both programs to `x` -/
  | cleave
  /-- `[b] [t] [e] -- ...`: folds `t` or `e`, as the top that `b` leaves is truthy or not -/
  | ifte
  /-- `n [p] -- ...`: folds `p` `n` times -/
  | times
  /-- `[a..] [p] -- stack`: folds `p` over the list as a stack, first element on top -/
  | infra
  /-- `[a..] [p] -- stack`: folds `p` over the list as a stack, last element on top -/
  | subspace
  /-- `[p] [q] -- ...`: folds `p`, then `q` -/
  | b
  /-- `p [q] [r] -- [p q..] p ...`: conses `p` onto `q`, then folds `r` -/
  | s
  /-- `[p] q -- q ...`: folds `p` over `q` -/
  | t
  /-- `p q r [s] -- q p ... r ...`: folds `s` over `q p`, then again after pushing `r` -/
  | j
deriving DecidableEq

namespace Word

/-- The name a word goes by. -/
def name : Word → String
  | .pop => "pop"
  | .dup => "dup"
  | .nop => "nop"
  | .swap => "swap"
  | .popd => "popd"
  | .dupd => "dupd"
  | .quote => "quote"
  | .choice => "choice"
  | .invoke => "do"
  | .cons => "cons"
  | .take => "take"
  | .i => "i"
  | .k => "k"
  | .x => "x"
  | .dip => "dip"
  | .dipd => "dipd"
  | .dipdd => "dipdd"
  | .step => "step"
  | .nullary => "nullary"
  | .cleave => "cleave"
  | .ifte => "ifte"
  | .times => "times"
  | .infra => "infra"
  | .subspace => "subspace"
  | .b => "b"
  | .s => "s"
  | .t => "t"
  | .j => "j"

/-- All words, in library order. -/
def all : List Word :=
  [.pop, .dup, .nop, .swap, .popd, .dupd, .quote, .choice, .invoke, .cons, .take, .i, .k, .x, .dip,
    .dipd, .dipdd, .step, .nullary, .cleave, .ifte, .times, .infra, .subspace, .b, .s, .t, .j]

/-- The list of all words leaves none out. -/
theorem mem_all (w : Word) : w ∈ all := by cases w <;> decide

end Word

end Homoiconic
