import Homoiconic.Text.Visibility

/-!
# Quoted text

Text is shown between double quotes in two ways.

* `quoted` is how a string value is displayed.  Quotes and backslashes are escaped, and so are the
  line feed, the tab and the carriage return; every other character stands for itself.
* `inspected` is how names are shown for inspection.  Beyond those, the null character is escaped,
  and a character that is unprintable or extends the grapheme before it is spelled as its code
  point.
-/

namespace Homoiconic.Text

/-- The text of a character inside a displayed string. -/
def quotedChar : Char → List Char
  | '"' => ['\\', '"']
  | '\\' => ['\\', '\\']
  | '\n' => ['\\', 'n']
  | '\t' => ['\\', 't']
  | '\r' => ['\\', 'r']
  | c => [c]

/-- A string as it is displayed. -/
def quoted (s : String) : String := "\"" ++ String.ofList (s.toList.flatMap quotedChar) ++ "\""

/-- The hexadecimal digits of a number, in lower case and without leading zeros. -/
def hexDigits (n : Nat) : List Char := Nat.toDigits 16 n

/-- The text of a character inside an inspected name. -/
def inspectedChar (c : Char) : List Char :=
  if c = '\u0000' then ['\\', '0']
  else if c = '"' || c = '\\' || c = '\n' || c = '\t' || c = '\r' then quotedChar c
  else if 0x20 ≤ c.toNat && c.toNat < 0x7F then [c]
  else if combining.contains c || unprintable.contains c then
    ['\\', 'u', '\x7b'] ++ hexDigits c.toNat ++ ['\x7d']
  else [c]

/-- A name as it is shown for inspection. -/
def inspected (s : String) : String :=
  "\"" ++ String.ofList (s.toList.flatMap inspectedChar) ++ "\""

end Homoiconic.Text
