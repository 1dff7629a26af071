import Homoiconic.Json.Basic
import Homoiconic.Number.Shortest

/-!
# The text of JSON data

JSON data is written without blanks.  In strings, quotes, backslashes and control characters are
escaped; everything else stands for itself.
-/

namespace Homoiconic

/-- The text of a character inside a JSON string. -/
def jsonChar (c : Char) : List Char :=
  if c = '"' then ['\\', '"']
  else if c = '\\' then ['\\', '\\']
  else if c = '\x08' then ['\\', 'b']
  else if c = '\x0c' then ['\\', 'f']
  else if c = '\n' then ['\\', 'n']
  else if c = '\r' then ['\\', 'r']
  else if c = '\t' then ['\\', 't']
  else if c.toNat < 0x20 then
    ['\\', 'u', '0', '0', Nat.digitChar (c.toNat / 16), Nat.digitChar (c.toNat % 16)]
  else [c]

/-- A JSON string. -/
def jsonString (s : String) : String := "\"" ++ String.ofList (s.toList.flatMap jsonChar) ++ "\""

/-- The text of a number. -/
def JsonNumber.render : JsonNumber → String
  | .signed n => toString n.toInt
  | .unsigned n => toString n.toNat
  | .double x => Number.renderDouble x

namespace Json

mutual

/-- The text of JSON data. -/
def render : Json → String
  | .null => "null"
  | .bool b => if b then "true" else "false"
  | .number n => n.render
  | .string s => jsonString s
  | .array items => "[" ++ String.intercalate "," (renderEach items) ++ "]"
  | .object members => "\x7b" ++ String.intercalate "," (renderMembers members) ++ "\x7d"

/-- The texts of several data. -/
def renderEach : List Json → List String
  | [] => []
  | j :: rest => render j :: renderEach rest

/-- The texts of several members. -/
def renderMembers : List (String × Json) → List String
  | [] => []
  | (key, j) :: rest => (jsonString key ++ ":" ++ render j) :: renderMembers rest

end

end Json

end Homoiconic
