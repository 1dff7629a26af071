import Homoiconic.Error

/-!
# Values and JSON data

JSON data becomes a value without loss as long as its numbers are 64-bit integers.  Strings stay
strings and are never read as symbols, so nothing made from JSON data is evaluable.

In the other direction data becomes JSON data, with stacks as arrays, bottom first.  Symbols, calls,
quotes, callables and programs are code and are refused.
-/

namespace Homoiconic

namespace Value

mutual

/-- The value of JSON data. -/
def ofJson : Json → Except Error Value
  | .null => .ok .nil
  | .bool b => .ok (.bool b)
  | .number n =>
    match n.toInt64? with
    | some k => .ok (.number k)
    | none => .error (.numberNotInteger n)
  | .string s => .ok (.string s)
  | .array items =>
    match ofJsonEach items with
    | .ok vs => .ok (.list vs)
    | .error e => .error e
  | .object members =>
    match ofJsonMembers members with
    | .ok entries => .ok (.map (.ofList entries))
    | .error e => .error e

/-- The values of several data; the first that fails decides. -/
def ofJsonEach : List Json → Except Error (List Value)
  | [] => .ok []
  | j :: rest =>
    match ofJson j with
    | .error e => .error e
    | .ok v =>
      match ofJsonEach rest with
      | .error e => .error e
      | .ok vs => .ok (v :: vs)

/-- The values of several members; the first that fails decides. -/
def ofJsonMembers : List (String × Json) → Except Error (List (String × Value))
  | [] => .ok []
  | (key, j) :: rest =>
    match ofJson j with
    | .error e => .error e
    | .ok v =>
      match ofJsonMembers rest with
      | .error e => .error e
      | .ok entries => .ok ((key, v) :: entries)

end

mutual

/-- A value as JSON data. -/
def toJson : Value → Except Error Json
  | .nil => .ok .null
  | .bool b => .ok (.bool b)
  | .number n => .ok (.number (.signed n))
  | .string s => .ok (.string s)
  | .list items =>
    match toJsonEach items with
    | .ok js => .ok (.array js)
    | .error e => .error e
  | .stack ⟨chain⟩ =>
    match toJsonChain chain (.ok []) with
    | .ok js => .ok (.array js)
    | .error e => .error e
  | .map ⟨entries⟩ =>
    match toJsonMembers entries with
    | .ok members => .ok (.ofMembers members)
    | .error e => .error e
  | v => .error (.notData v)

/-- Several values as JSON data; the first that fails decides. -/
def toJsonEach : List Value → Except Error (List Json)
  | [] => .ok []
  | v :: rest =>
    match toJson v with
    | .error e => .error e
    | .ok j =>
      match toJsonEach rest with
      | .error e => .error e
      | .ok js => .ok (j :: js)

/-- Several entries as members; the first that fails decides. -/
def toJsonMembers : List (String × Value) → Except Error (List (String × Json))
  | [] => .ok []
  | (key, v) :: rest =>
    match toJson v with
    | .error e => .error e
    | .ok j =>
      match toJsonMembers rest with
      | .error e => .error e
      | .ok members => .ok ((key, j) :: members)

/-- The elements of a chain as JSON data in front of what `above` holds, the deepest first; the
deepest that fails decides. -/
def toJsonChain : {n : Nat} → Chain Value n → Except Error (List Json) → Except Error (List Json)
  | _, .nil, above => above
  | _, .cons v rest, above =>
    toJsonChain rest <|
      match toJson v with
      | .error e => .error e
      | .ok j =>
        match above with
        | .error e => .error e
        | .ok js => .ok (j :: js)

end

end Value

end Homoiconic
