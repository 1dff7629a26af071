import Homoiconic.Folding.Fold

/-!
# Tracing a fold

A traced fold writes two lines for every item of the program: the stack before it and the item, and
the stack after it.  Folds inside the items are not traced.

The lines go to a sink, which may have room for a limited number of lines.  When a line does not
fit, the fold stops at once: before the item if it is the first line of the item that does not fit,
after it if it is the second.  What was written before is kept in every case.
-/

namespace Homoiconic

/-- Where trace lines go. -/
structure Sink where
  /-- The lines written so far. -/
  lines : Array String
  /-- How many more lines fit, if that is limited. -/
  room : Option Nat

namespace Sink

/-- A sink with nothing written yet. -/
def withRoom (room : Option Nat) : Sink := ⟨#[], room⟩

/-- Write a line, if it fits. -/
def write? (sink : Sink) (line : String) : Option Sink :=
  match sink.room with
  | none => some ⟨sink.lines.push line, none⟩
  | some 0 => none
  | some (n + 1) => some ⟨sink.lines.push line, some n⟩

/-- Everything written, each line ended. -/
def text (sink : Sink) : String := String.join (sink.lines.toList.map (· ++ "\n"))

end Sink

/-- The error of a line that does not fit. -/
def sinkFull : Error := .traceOutput "sink full"

/-- The line written before an item. -/
def lineBefore (stack : Stack Value) (item : Value) : String :=
  stack.render ++ " << " ++ item.render

/-- The line written after an item. -/
def lineAfter (stack : Stack Value) : String := "  => " ++ stack.render

/-- An action that writes to a sink.  The sink is kept when the action fails. -/
abbrev TraceM (α : Type) := Sink → StateM State (Except Error α × Sink)

/-- Fold the items of a program, writing a line before and after each. -/
def traceItems (next : Engine) : Stack Value → List Value → TraceM (Stack Value)
  | stack, [], sink => fun s => ((.ok stack, sink), s)
  | stack, item :: rest, sink => fun s =>
    match sink.write? (lineBefore stack item) with
    | none => ((.error sinkFull, sink), s)
    | some sink =>
      match stepItem next stack item s with
      | (.error e, s) => ((.error e, sink), s)
      | (.ok stack, s) =>
        match sink.write? (lineAfter stack) with
        | none => ((.error sinkFull, sink), s)
        | some sink => traceItems next stack rest sink s

end Homoiconic
