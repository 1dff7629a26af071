import Homoiconic.Json.Basic

/-!
# Reading JSON text

The grammar is the strict one: blanks are space, tab, line feed and carriage return; there are no
comments and no trailing commas; control characters must be escaped in strings; escapes of
surrogates must come in pairs; arrays and objects may not be nested 128 deep or deeper.

## Numbers

A number without fraction and exponent that fits 64 bits is an integer.  Any other number is a
double, computed from a decimal significand and a power of ten.  As many leading digits go into the
significand as keep it below `2^64`; the others only move the point.  The significand is then scaled
by the power of ten, rounding once for every step of at most 308 places.  A number that overflows
the doubles is refused; one that is too small for them is zero.
-/

namespace Homoiconic

namespace JsonReader

/-! ## Numbers -/

/-- The value of a decimal digit. -/
def digit? (c : Char) : Option Nat :=
  if '0' ≤ c ∧ c ≤ '9' then some (c.toNat - '0'.toNat) else none

/-- The digits a text starts with, and the rest of it. -/
def digits : List Char → List Nat × List Char
  | [] => ([], [])
  | c :: rest =>
    match digit? c with
    | some d => (d :: (digits rest).1, (digits rest).2)
    | none => ([], c :: rest)

/-- Append digits to a significand while it stays below `2^64`.  Returns the significand and the
number of digits that were appended. -/
def gather (significand : Nat) : List Nat → Nat × Nat
  | [] => (significand, 0)
  | d :: rest =>
    if significand * 10 + d < UInt64.size then
      let (s, taken) := gather (significand * 10 + d) rest
      (s, taken + 1)
    else (significand, 0)

/-- A number from its decimal digits, most significant first. -/
def natOfDigits (ds : List Nat) : Nat := ds.foldl (fun n d => n * 10 + d) 0

/-- A power of ten within the range of doubles. -/
def powerOfTen (k : Nat) : Float := Float.ofScientific 1 false k

/-- Scale a double by a power of ten: at once if the exponent has at most 308, else by steps, of
which three bring any significand down to zero.  There is no result beyond the doubles. -/
def scaleByTen : Nat → Float → Int → Option Float
  | 0, x, _ => some x
  | steps + 1, x, exponent =>
    if exponent.natAbs ≤ 308 then
      if 0 ≤ exponent then
        let y := x * powerOfTen exponent.toNat
        if y.isInf then none else some y
      else some (x / powerOfTen exponent.natAbs)
    else if x == 0 then some x
    else if 0 ≤ exponent then none
    else scaleByTen steps (x / powerOfTen 308) (exponent + 308)

/-- The double of a sign, a significand below `2^64` and a power of ten. -/
def double? (negative : Bool) (significand : Nat) (exponent : Int) : Option Float :=
  (scaleByTen 4 significand.toUInt64.toFloat exponent).map fun x => if negative then -x else x

/-- The integer of a sign and a magnitude below `2^64`.  A negative zero and a negative integer
beyond 64 bits are doubles. -/
def integer (negative : Bool) (n : Nat) : JsonNumber :=
  if negative then
    if 0 < n ∧ Int64.minValue.toInt ≤ -Int.ofNat n then .signed (Int64.ofInt (-Int.ofNat n))
    else .double (-n.toUInt64.toFloat)
  else if Int.ofNat n ≤ Int64.maxValue.toInt then .signed (Int64.ofNat n)
  else .unsigned n.toUInt64

/-- The fraction of a number: the digits after a point, of which there has to be one. -/
def fraction? : List Char → Option (Option (List Nat) × List Char)
  | '.' :: rest =>
    match digits rest with
    | ([], _) => none
    | (ds, rest) => some (some ds, rest)
  | rest => some (none, rest)

/-- The digits of an exponent under a sign. -/
def exponentDigits? (negative : Bool) (cs : List Char) : Option (Option Int × List Char) :=
  match digits cs with
  | ([], _) => none
  | (ds, rest) => some (some (if negative then -(natOfDigits ds : Int) else natOfDigits ds), rest)

/-- The exponent of a number: after a letter, a sign that may be left out, and digits. -/
def exponent? : List Char → Option (Option Int × List Char)
  | c :: rest =>
    if c = 'e' ∨ c = 'E' then
      match rest with
      | '+' :: rest => exponentDigits? false rest
      | '-' :: rest => exponentDigits? true rest
      | rest => exponentDigits? false rest
    else some (none, c :: rest)
  | [] => some (none, [])

/-- A number after its sign. -/
def unsignedNumber? (negative : Bool) (cs : List Char) : Option (JsonNumber × List Char) := do
  let (whole, rest) := digits cs
  if whole = [] ∨ (whole.head? = some 0 ∧ whole.length ≠ 1) then none
  let (fraction, rest) ← fraction? rest
  let (exponent, rest) ← exponent? rest
  let (significand, taken) := gather 0 whole
  let dropped : Int := whole.length - taken
  match fraction, exponent with
  | none, none =>
    if dropped = 0 then some (integer negative significand, rest)
    else do
      let x ← double? negative significand dropped
      some (.double x, rest)
  | fraction, exponent => do
    let (significand, shift) := gather significand (fraction.getD [])
    let x ← double? negative significand (dropped - shift + exponent.getD 0)
    some (.double x, rest)

/-- A number. -/
def number? : List Char → Option (JsonNumber × List Char)
  | '-' :: rest => unsignedNumber? true rest
  | rest => unsignedNumber? false rest

/-! ## Strings -/

/-- The value of a hexadecimal digit. -/
def hexDigit? (c : Char) : Option Nat :=
  if '0' ≤ c ∧ c ≤ '9' then some (c.toNat - '0'.toNat)
  else if 'a' ≤ c ∧ c ≤ 'f' then some (c.toNat - 'a'.toNat + 10)
  else if 'A' ≤ c ∧ c ≤ 'F' then some (c.toNat - 'A'.toNat + 10)
  else none

/-- A number of four hexadecimal digits. -/
def hex4? (a b c d : Char) : Option Nat := do
  let a ← hexDigit? a
  let b ← hexDigit? b
  let c ← hexDigit? c
  let d ← hexDigit? d
  some (((a * 16 + b) * 16 + c) * 16 + d)

/-- The character a backslash and a letter stand for. -/
def escape? : Char → Option Char
  | '"' => some '"'
  | '\\' => some '\\'
  | '/' => some '/'
  | 'b' => some '\x08'
  | 'f' => some '\x0c'
  | 'n' => some '\n'
  | 'r' => some '\r'
  | 't' => some '\t'
  | _ => none

/-- The characters of a string after its opening quote, and the rest of the text. -/
def string? : List Char → Option (List Char × List Char)
  | [] => none
  | '"' :: rest => some ([], rest)
  | '\\' :: 'u' :: a :: b :: c :: d :: rest =>
    match hex4? a b c d with
    | none => none
    | some high =>
      if 0xDC00 ≤ high ∧ high ≤ 0xDFFF then none
      else if 0xD800 ≤ high ∧ high ≤ 0xDBFF then
        match rest with
        | '\\' :: 'u' :: a :: b :: c :: d :: rest =>
          match hex4? a b c d with
          | none => none
          | some low =>
            if 0xDC00 ≤ low ∧ low ≤ 0xDFFF then
              (string? rest).map fun (cs, rest) =>
                (Char.ofNat (0x10000 + (high - 0xD800) * 0x400 + (low - 0xDC00)) :: cs, rest)
            else none
        | _ => none
      else (string? rest).map fun (cs, rest) => (Char.ofNat high :: cs, rest)
  | '\\' :: e :: rest =>
    match escape? e with
    | none => none
    | some c => (string? rest).map fun (cs, rest) => (c :: cs, rest)
  | c :: rest =>
    if c.toNat < 0x20 ∨ c = '\\' then none
    else (string? rest).map fun (cs, rest) => (c :: cs, rest)

/-! ## Data -/

/-- The text after its leading blanks. -/
def skipBlanks : List Char → List Char
  | [] => []
  | c :: rest =>
    if c = ' ' ∨ c = '\t' ∨ c = '\n' ∨ c = '\r' then skipBlanks rest else c :: rest

mutual

/-- One datum.  `room` is one more than the number of arrays and objects that may still be opened;
`fuel` bounds the number of steps, and the length of the text is enough of it. -/
def value? (fuel room : Nat) (cs : List Char) : Option (Json × List Char) :=
  match fuel with
  | 0 => none
  | fuel + 1 =>
    match skipBlanks cs with
    | 'n' :: 'u' :: 'l' :: 'l' :: rest => some (.null, rest)
    | 't' :: 'r' :: 'u' :: 'e' :: rest => some (.bool true, rest)
    | 'f' :: 'a' :: 'l' :: 's' :: 'e' :: rest => some (.bool false, rest)
    | '"' :: rest => (string? rest).map fun (s, rest) => (.string (String.ofList s), rest)
    | '[' :: rest =>
      if room ≤ 1 then none
      else
        match skipBlanks rest with
        | ']' :: rest => some (.array [], rest)
        | rest => (items? fuel (room - 1) rest).map fun (items, rest) => (.array items, rest)
    | '\x7b' :: rest =>
      if room ≤ 1 then none
      else
        match skipBlanks rest with
        | '\x7d' :: rest => some (.object [], rest)
        | rest =>
          (members? fuel (room - 1) rest).map fun (members, rest) => (.ofMembers members, rest)
    | rest => (number? rest).map fun (n, rest) => (.number n, rest)

/-- The items of an array up to its closing bracket; there is one at least. -/
def items? (fuel room : Nat) (cs : List Char) : Option (List Json × List Char) :=
  match fuel with
  | 0 => none
  | fuel + 1 =>
    match value? fuel room cs with
    | none => none
    | some (item, rest) =>
      match skipBlanks rest with
      | ',' :: rest => (items? fuel room rest).map fun (items, rest) => (item :: items, rest)
      | ']' :: rest => some ([item], rest)
      | _ => none

/-- The members of an object up to its closing brace; there is one at least. -/
def members? (fuel room : Nat) (cs : List Char) : Option (List (String × Json) × List Char) :=
  match fuel with
  | 0 => none
  | fuel + 1 =>
    match skipBlanks cs with
    | '"' :: rest =>
      match string? rest with
      | none => none
      | some (key, rest) =>
        match skipBlanks rest with
        | ':' :: rest =>
          match value? fuel room rest with
          | none => none
          | some (item, rest) =>
            match skipBlanks rest with
            | ',' :: rest =>
              (members? fuel room rest).map fun (members, rest) =>
                ((String.ofList key, item) :: members, rest)
            | '\x7d' :: rest => some ([(String.ofList key, item)], rest)
            | _ => none
        | _ => none
    | _ => none

end

end JsonReader

/-- The datum that a text denotes, if it is JSON text. -/
def Json.parse? (text : String) : Option Json :=
  let cs := text.toList
  match JsonReader.value? (2 * cs.length + 2) 128 cs with
  | some (json, rest) => if JsonReader.skipBlanks rest = [] then some json else none
  | none => none

end Homoiconic
