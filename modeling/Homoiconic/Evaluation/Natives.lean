import Homoiconic.Signature

/-!
# What the native operations do

The native callables that work on their arguments alone.  Their arithmetic is that of 64-bit words
and wraps.  The native expanders and stack operations, which evaluate or fold, are interpreted where
evaluation and folding are.
-/

namespace Homoiconic

/-- The sum of numbers as 64-bit words. -/
def wrappingSum (ns : List Int64) : Int64 := ns.foldl (· + ·) 0

/-- The quotient, truncated toward zero. -/
def safeQuotient (a b : Int64) : EvalM Value :=
  if b = 0 then fail (.reported .evaluation "division by zero") else answer (.number (a / b))

namespace TypedNative

/-- What a typed native does. -/
def perform (native : TypedNative) (args : List Value) (kwargs : Keywords Value) : EvalM Value :=
  match native with
  | .seven => Signature.call ⟨[], none⟩ (answer (.number 7)) args kwargs
  | .inc => Signature.call ⟨[.number], none⟩ (fun n => answer (.number (n + 1))) args kwargs
  | .add =>
    Signature.call ⟨[.number, .number], none⟩ (fun a b => answer (.number (a + b))) args kwargs
  | .sub =>
    Signature.call ⟨[.number, .number], none⟩ (fun a b => answer (.number (a - b))) args kwargs
  | .mul =>
    Signature.call ⟨[.number, .number], none⟩ (fun a b => answer (.number (a * b))) args kwargs
  | .gt =>
    Signature.call ⟨[.number, .number], none⟩ (fun a b => answer (.bool (b < a))) args kwargs
  | .safeDiv => Signature.call ⟨[.number, .number], none⟩ safeQuotient args kwargs
  | .sum3 =>
    Signature.call ⟨[.number, .number, .number], none⟩
      (fun a b c => answer (.number (a + b + c))) args kwargs
  | .list4 =>
    Signature.call ⟨[.anything, .anything, .anything, .anything], none⟩
      (fun a b c d => answer (.list [a, b, c, d])) args kwargs
  | .list5 =>
    Signature.call ⟨[.number, .boolean, .text, .text, .anything], none⟩
      (fun a b c d e => answer (.list [.number a, .bool b, .string c, .string d, e])) args kwargs
  | .negate => Signature.call ⟨[.boolean], none⟩ (fun b => answer (.bool !b)) args kwargs
  | .shout => Signature.call ⟨[.text], none⟩ (fun s => answer (.string (s ++ "!"))) args kwargs
  | .own => Signature.call ⟨[.text], none⟩ (fun s => answer (.string s)) args kwargs
  | .unit => Signature.call ⟨[.anything], none⟩ (fun _ => answer .nil) args kwargs
  | .sumList =>
    Signature.call ⟨[.items .number], none⟩
      (fun ns => answer (.number (wrappingSum ns))) args kwargs
  | .joinList =>
    Signature.call ⟨[.text, .items .text], none⟩
      (fun separator parts => answer (.string (String.intercalate separator parts))) args kwargs
  | .sizeList =>
    Signature.call ⟨[.items .anything], none⟩
      (fun vs => answer (.list (vs ++ [.number (Int64.ofNat vs.length)]))) args kwargs

end TypedNative

namespace VariadicNative

/-- What a variadic native does. -/
def perform (native : VariadicNative) (args : List Value) (kwargs : Keywords Value) :
    EvalM Value :=
  match native with
  | .vsum =>
    Signature.call ⟨[], some .number⟩ (fun ns => answer (.number (wrappingSum ns))) args kwargs
  | .vlist => Signature.call ⟨[], some .anything⟩ (fun vs => answer (.list vs)) args kwargs
  | .vcat =>
    Signature.call ⟨[], some .text⟩ (fun parts => answer (.string (String.join parts))) args kwargs
  | .vjoin =>
    Signature.call ⟨[.text], some .text⟩
      (fun separator parts => answer (.string (String.intercalate separator parts))) args kwargs
  | .vbetween =>
    Signature.call ⟨[.number, .number], some .number⟩
      (fun low high ns =>
        answer (.number (Int64.ofNat (ns.filter fun n => low ≤ n && n ≤ high).length))) args kwargs
  | .vmix =>
    Signature.call ⟨[.anything, .boolean, .text], some .anything⟩
      (fun v b s vs => answer (.list (v :: .bool b :: .string s :: vs))) args kwargs

end VariadicNative

namespace FreeNative

/-- What a free native does. -/
def perform (native : FreeNative) (args : List Value) (kwargs : Keywords Value) : EvalM Value :=
  match native with
  | .pack => answer (.list [.list args, .map kwargs])
  | .total =>
    match ElementType.number.readEach (args ++ kwargs.values) with
    | .ok ns => answer (.number (wrappingSum ns))
    | .error e => Homoiconic.fail e
  | .first => answer (args.head?.getD .nil)
  | .fail => Homoiconic.fail (.reported .evaluation "host failure")
  | .log => do
    writeLog (String.intercalate " "
      (Value.renderEach args ++ Value.renderEntries "=" kwargs.entries))
    answer (args.head?.getD .nil)

end FreeNative

namespace SliceNative

/-- What a slice native does to positional arguments. -/
def perform (native : SliceNative) (args : List Value) : EvalM Value :=
  match native with
  | .count => answer (.number (Int64.ofNat args.length))
  | .last =>
    match args.getLast? with
    | some v => answer v
    | none => fail (.reported .evaluation "no arguments")

end SliceNative

namespace NativeOperation

/-- Call a native operation. -/
def call (op : NativeOperation) (args : List Value) (kwargs : Keywords Value) : EvalM Value :=
  match op with
  | .typed native => native.perform args kwargs
  | .variadic native arity => do
    checkArity arity args.length
    native.perform args kwargs
  | .free native => native.perform args kwargs
  | .slice native =>
    match kwargs.firstKey? with
    | some key => fail (.unexpectedKeyword key)
    | none => native.perform args

end NativeOperation

end Homoiconic
