import Homoiconic.Error

/-!
# Taking data out of values

A value of the right kind gives up what it holds; any other value is an error that names both kinds.
-/

namespace Homoiconic.Value

/-- The number that a value is. -/
def toNumber : Value → Except Error Int64
  | .number n => .ok n
  | v => .error (.expectedKind .number v.kind)

/-- The truth value that a value is. -/
def toBool : Value → Except Error Bool
  | .bool b => .ok b
  | v => .error (.expectedKind .boolean v.kind)

/-- The text that a value is. -/
def toText : Value → Except Error String
  | .string s => .ok s
  | v => .error (.expectedKind .string v.kind)

end Homoiconic.Value
