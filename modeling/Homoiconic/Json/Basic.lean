import Homoiconic.SortedEntries

/-!
# JSON data

A JSON number is kept in one of three forms: an integer of 64 bits with sign, an integer beyond
those that still fits 64 bits without sign, or a double.  Objects list their members sorted by key,
each key once; `Json.ofMembers` brings any list of members into that form.
-/

namespace Homoiconic

/-- A number as JSON text can denote it. -/
inductive JsonNumber where
  /-- An integer from `-2^63` to `2^63 - 1`. -/
  | signed (n : Int64)
  /-- An integer from `2^63` to `2^64 - 1`. -/
  | unsigned (n : UInt64)
  /-- Any other number. -/
  | double (x : Float)

/-- The number as a 64-bit integer with sign, if it is one. -/
def JsonNumber.toInt64? : JsonNumber → Option Int64
  | .signed n => some n
  | _ => none

/-- JSON data. -/
inductive Json where
  | null
  | bool (b : Bool)
  | number (n : JsonNumber)
  | string (s : String)
  | array (items : List Json)
  | object (members : List (String × Json))

/-- The object with the given members; of several with one key the last counts. -/
def Json.ofMembers (members : List (String × Json)) : Json :=
  .object (SortedEntries.ofList members)

end Homoiconic
