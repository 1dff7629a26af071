/-!
# Stacks

A stack is a chain of elements, the top one first.  Every link of the chain knows how many elements
there are from it down, so the length of a stack is read off its top and no operation has to count.
Pushing and popping build new stacks that share the links below; a stack never changes.

The number of elements is an index of the type of chains: a chain whose count is wrong cannot be
built.  What a stack means is the list of its elements, `toList`, bottom first: the order in which
they were pushed.
-/

namespace Homoiconic

universe u

/-- A chain of elements, top first, indexed by its length. -/
inductive Chain (α : Type u) : Nat → Type u where
  | nil : Chain α 0
  | cons {below : Nat} (value : α) (rest : Chain α below) : Chain α (below + 1)

/-- A stack: a chain of some length. -/
structure Stack (α : Type u) where
  /-- The number of elements. -/
  {depth : Nat}
  /-- The elements, top first. -/
  chain : Chain α depth

/-- A stack held fewer elements than an operation needed. -/
structure Underflow where
  /-- How many elements the operation takes. -/
  needed : Nat
  /-- How many the stack holds. -/
  available : Nat
deriving DecidableEq

namespace Chain

variable {α : Type u}

/-- The elements in front of `collected`: the deepest comes first. -/
def collect : {n : Nat} → Chain α n → List α → List α
  | _, .nil, collected => collected
  | _, .cons value rest, collected => collect rest (value :: collected)

/-- Take `n` elements off, collecting them in front of `collected`: the deepest comes first.  The
walk ends early if the chain does. -/
def unlink : Nat → {m : Nat} → Chain α m → List α → List α × Stack α
  | 0, _, chain, collected => (collected, ⟨chain⟩)
  | _ + 1, _, .nil, collected => (collected, ⟨.nil⟩)
  | n + 1, _, .cons value rest, collected => unlink n rest (value :: collected)

end Chain

namespace Stack

variable {α : Type u}

/-! ## Building and measuring -/

/-- The stack without elements. -/
def empty : Stack α := ⟨.nil⟩

/-- Whether there is no element. -/
def isEmpty (s : Stack α) : Bool := s.depth == 0

/-- The stack with one more element on top. -/
def push (s : Stack α) (value : α) : Stack α := ⟨.cons value s.chain⟩

/-- Push several elements in order; the last one ends on top. -/
def pushAll (s : Stack α) (values : List α) : Stack α := values.foldl push s

/-- The stack of the given elements, bottom first. -/
def ofList (values : List α) : Stack α := empty.pushAll values

/-- The elements bottom first, in the order in which they were pushed. -/
def toList (s : Stack α) : List α := s.chain.collect []

/-- The elements from the top down. -/
def topFirst (s : Stack α) : List α := s.toList.reverse

/-! ## Taking elements off -/

/-- The top element. -/
def peek (s : Stack α) : Except Underflow α :=
  match s with
  | ⟨.nil⟩ => .error ⟨1, 0⟩
  | ⟨.cons value _⟩ => .ok value

/-- The rest of the stack, and its top element. -/
def pop (s : Stack α) : Except Underflow (Stack α × α) :=
  match s with
  | ⟨.nil⟩ => .error ⟨1, 0⟩
  | ⟨.cons value rest⟩ => .ok (⟨rest⟩, value)

/-- The rest of the stack, and its top `n` elements, deepest first. -/
def popN (s : Stack α) (n : Nat) : Except Underflow (Stack α × List α) :=
  if n ≤ s.depth then
    match s.chain.unlink n [] with
    | (values, rest) => .ok (rest, values)
  else .error ⟨n, s.depth⟩

/-- The top `n` elements, deepest first. -/
def peekN (s : Stack α) (n : Nat) : Except Underflow (List α) := (s.popN n).map Prod.snd

/-- The rest of the stack, and its top two elements, deeper first. -/
def pop2 (s : Stack α) : Except Underflow (Stack α × α × α) :=
  match s.popN 2 with
  | .ok (rest, [a, b]) => .ok (rest, a, b)
  | .ok (_, values) => .error ⟨2, values.length⟩
  | .error underflow => .error underflow

/-- The rest of the stack, and its top three elements, deepest first. -/
def pop3 (s : Stack α) : Except Underflow (Stack α × α × α × α) :=
  match s.popN 3 with
  | .ok (rest, [a, b, c]) => .ok (rest, a, b, c)
  | .ok (_, values) => .error ⟨3, values.length⟩
  | .error underflow => .error underflow

/-- The rest of the stack, and its top four elements, deepest first. -/
def pop4 (s : Stack α) : Except Underflow (Stack α × α × α × α × α) :=
  match s.popN 4 with
  | .ok (rest, [a, b, c, d]) => .ok (rest, a, b, c, d)
  | .ok (_, values) => .error ⟨4, values.length⟩
  | .error underflow => .error underflow

end Stack

end Homoiconic
