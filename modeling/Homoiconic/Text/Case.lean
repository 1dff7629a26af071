import Homoiconic.Text.CaseTables

/-!
# Upper and lower case

A text is mapped character by character.  A character may have several characters as its upper or
lower case, so the result can be longer than the text.

One mapping looks at the surroundings.  A capital sigma becomes a final sigma at the end of a word,
that is, if a character with case stands before it and none after it, where in both directions the
case-ignorable characters next to it are skipped.
-/

namespace Homoiconic.Text

/-- Where a run takes a character, if the character belongs to it. -/
def CaseRun.apply? (run : CaseRun) (code : Nat) : Option Nat :=
  if run.first ≤ code ∧ code ≤ run.last ∧ (code - run.first) % run.step = 0 then
    some (run.target + (code - run.first))
  else none

/-- The mapping of one character by the characters listed one by one, then by the runs; a character
in neither stays as it is. -/
def mapCase (special : List (Nat × List Nat)) (runs : List CaseRun) (c : Char) : List Char :=
  match special.lookup c.toNat with
  | some codes => codes.map Char.ofNat
  | none =>
    match runs.findSome? fun run => run.apply? c.toNat with
    | some code => [Char.ofNat code]
    | none => [c]

/-- The upper case of a character. -/
def upperChar (c : Char) : List Char := mapCase upperSpecial upperRuns c

/-- The lower case of a character, whatever surrounds it. -/
def lowerChar (c : Char) : List Char := mapCase lowerSpecial lowerRuns c

/-- Whether the first character that is not case-ignorable has case. -/
def startsCased : List Char → Bool
  | [] => false
  | c :: rest => if caseIgnorable.contains c then startsCased rest else cased.contains c

/-- The lower case of the characters of a text, given those already passed, nearest first. -/
def lowerAfter (passed : List Char) : List Char → List Char
  | [] => []
  | c :: rest =>
    (if c = 'Σ' then [if startsCased passed && !startsCased rest then 'ς' else 'σ']
      else lowerChar c) ++ lowerAfter (c :: passed) rest

/-- A text in upper case. -/
def upper (s : String) : String := String.ofList (s.toList.flatMap upperChar)

/-- A text in lower case. -/
def lower (s : String) : String := String.ofList (lowerAfter [] s.toList)

end Homoiconic.Text
