import Homoiconic.Proofs.Folds

/-!
# A traced fold is a fold

A traced fold has its own loop over the items of a program, and a second way to fail: a line that
does not fit.  Neither makes a difference to what the fold does.  As long as the lines fit, a traced
fold ends as the fold ends; when one does not, it stops between two items, where the fold of the
items so far would stop.

What is written is said without the loop.  The stack before an item is what the fold of the items
before it returns, and the stack after it is what the fold of the items up to it returns.  So the
lines of a program can be read off from the folds of its initial segments (`transcript`), and this
is how they are defined here.  Their texts are spelled out, too: all that the definition shares with
what the loop writes are the texts of stacks and of values.

There are two lines for an item, except that there is only one for an item that fails.  After `n`
lines, `n / 2` items were followed by their second line, and if `n` is odd, one more item was done
and it is its second line that does not fit.  In either case `(n + 1) / 2` items were done.
-/

namespace Homoiconic

/-! ## The lines of a program -/

/-- The lines of the items of `rest`, where the items of `done` come before them: what folds of
initial segments return, in turn with the items.  An item that fails has one line, and no item after
it has any. -/
def transcriptFrom (stack : Stack Value) (s : State) : List Value → List Value → List String
  | _, [] => []
  | done, item :: rest =>
    match (fold stack done s).1 with
    | .error _ => []
    | .ok before =>
      (before.render ++ " << " ++ item.render) ::
        match (fold stack (done ++ [item]) s).1 with
        | .error _ => []
        | .ok after => ("  => " ++ after.render) :: transcriptFrom stack s (done ++ [item]) rest

/-- The lines of a program that is folded over a stack. -/
def transcript (stack : Stack Value) (program : List Value) (s : State) : List String :=
  transcriptFrom stack s [] program

/-! ## Writing several lines -/

namespace Sink

/-- Write several lines that fit. -/
def append (sink : Sink) (lines : List String) : Sink :=
  ⟨sink.lines ++ lines, sink.room.map (· - lines.length)⟩

/-- So many lines fit. -/
def Fits (sink : Sink) (count : Nat) : Prop := ∀ n ∈ sink.room, count ≤ n

theorem append_nil (sink : Sink) : sink.append [] = sink := by
  obtain ⟨lines, room⟩ := sink
  cases room <;> simp [append]

theorem append_append (sink : Sink) (lines lines' : List String) :
    (sink.append lines).append lines' = sink.append (lines ++ lines') := by
  obtain ⟨written, room⟩ := sink
  have hwritten : written ++ lines ++ lines' = written ++ (lines ++ lines') :=
    Array.toList_inj.mp (by simp)
  cases room with
  | none => simp only [append, hwritten, Option.map_none]
  | some n => simp only [append, hwritten, Option.map_some, List.length_append, Nat.sub_sub]

theorem write?_of_fits {sink : Sink} {count : Nat} (h : sink.Fits (count + 1)) (line : String) :
    sink.write? line = some (sink.append [line]) ∧ (sink.append [line]).Fits count := by
  obtain ⟨lines, room⟩ := sink
  rcases room with _ | _ | n
  · exact ⟨by simp [write?, append], fun _ hn => by cases hn⟩
  · exact absurd (h 0 rfl) (Nat.not_succ_le_zero count)
  · refine ⟨by simp [write?, append], ?_⟩
    rintro _ ⟨⟩
    exact Nat.le_of_succ_le_succ (h (n + 1) rfl)

theorem write?_of_full {sink : Sink} (h : sink.room = some 0) (line : String) :
    sink.write? line = none := by
  rw [write?, h]

theorem write?_of_room {sink : Sink} {n : Nat} (h : sink.room = some (n + 1)) (line : String) :
    sink.write? line = some (sink.append [line]) ∧ (sink.append [line]).room = some n := by
  obtain ⟨lines, room⟩ := sink
  obtain rfl : room = some (n + 1) := h
  exact ⟨by simp [write?, append], rfl⟩

end Sink

/-! ## The loop of a traced fold -/

section Steps

variable {next : Engine} {stack after : Stack Value} {item : Value} {rest : List Value}
  {sink sink' sink'' : Sink} {s s' : State} {e : Error}

theorem traceItems_of_full (hfirst : sink.write? (lineBefore stack item) = none) :
    traceItems next stack (item :: rest) sink s = ((.error sinkFull, sink), s) := by
  simp only [traceItems, hfirst]

theorem traceItems_of_error (hfirst : sink.write? (lineBefore stack item) = some sink')
    (hitem : stepItem next stack item s = (.error e, s')) :
    traceItems next stack (item :: rest) sink s = ((.error e, sink'), s') := by
  simp only [traceItems, hfirst, hitem]

theorem traceItems_of_full_after (hfirst : sink.write? (lineBefore stack item) = some sink')
    (hitem : stepItem next stack item s = (.ok after, s'))
    (hsecond : sink'.write? (lineAfter after) = none) :
    traceItems next stack (item :: rest) sink s = ((.error sinkFull, sink'), s') := by
  simp only [traceItems, hfirst, hitem, hsecond]

theorem traceItems_of_ok (hfirst : sink.write? (lineBefore stack item) = some sink')
    (hitem : stepItem next stack item s = (.ok after, s'))
    (hsecond : sink'.write? (lineAfter after) = some sink'') :
    traceItems next stack (item :: rest) sink s = traceItems next after rest sink'' s' := by
  simp only [traceItems, hfirst, hitem, hsecond]

end Steps

section Loop

variable {stack before : Stack Value} {s s₁ : State} {done rest : List Value} {item : Value}

/-- The lines of an item and of those after it, where the fold has come to the item.  They are the
ones that the loop writes. -/
theorem transcriptFrom_cons (hlt : s.depth .folding < depthLimit)
    (hdone : foldItems .full stack done (s.enter .folding) = (.ok before, s₁)) :
    transcriptFrom stack s done (item :: rest) =
      lineBefore before item ::
        match (stepItem .full before item s₁).1 with
        | .error _ => []
        | .ok after => lineAfter after :: transcriptFrom stack s (done ++ [item]) rest := by
  have hbefore : (fold stack done s).1 = .ok before := by rw [fold_of_lt hlt, hdone]
  have hafter : (fold stack (done ++ [item]) s).1 = (stepItem .full before item s₁).1 := by
    rw [fold_of_lt hlt, foldItems_concat hdone]
  rw [transcriptFrom, hbefore, hafter]
  rfl

/-- **Where the lines fit, a traced fold goes on as the fold does**, by induction along the items
that are left. -/
theorem traceItems_of_fits (hlt : s.depth .folding < depthLimit)
    (hdone : foldItems .full stack done (s.enter .folding) = (.ok before, s₁)) (sink : Sink)
    (hfits : sink.Fits (transcriptFrom stack s done rest).length) :
    traceItems .full before rest sink s₁ =
      (((foldItems .full before rest s₁).1, sink.append (transcriptFrom stack s done rest)),
        (foldItems .full before rest s₁).2) := by
  induction rest generalizing done before s₁ sink with
  | nil =>
    rw [transcriptFrom, Sink.append_nil]
    rfl
  | cons item rest ih =>
    rw [transcriptFrom_cons hlt hdone] at hfits ⊢
    rw [foldItems_cons, bind_run]
    cases hitem : stepItem .full before item s₁ with
    | mk result s₂ =>
      rw [hitem] at hfits
      obtain ⟨hfirst, hroom⟩ := Sink.write?_of_fits hfits (lineBefore before item)
      cases result with
      | error e => exact traceItems_of_error hfirst hitem
      | ok after =>
        obtain ⟨hsecond, hroom⟩ := Sink.write?_of_fits hroom (lineAfter after)
        have hrest := ih ((foldItems_concat hdone item).trans hitem) _ hroom
        rw [traceItems_of_ok hfirst hitem hsecond, hrest, Sink.append_append, Sink.append_append]
        rfl

/-- **Where a line does not fit, a traced fold stops**: what was done is what the fold of so many
items does. -/
theorem traceItems_of_not_fits (hlt : s.depth .folding < depthLimit)
    (hdone : foldItems .full stack done (s.enter .folding) = (.ok before, s₁)) (sink : Sink)
    {n : Nat} (hroom : sink.room = some n)
    (hfull : n < (transcriptFrom stack s done rest).length) :
    traceItems .full before rest sink s₁ =
      ((.error sinkFull, sink.append ((transcriptFrom stack s done rest).take n)),
        (foldItems .full before (rest.take ((n + 1) / 2)) s₁).2) := by
  induction rest generalizing done before s₁ sink n with
  | nil => exact absurd hfull (Nat.not_lt_zero n)
  | cons item rest ih =>
    rw [transcriptFrom_cons hlt hdone] at hfull ⊢
    cases n with
    | zero =>
      rw [traceItems_of_full (Sink.write?_of_full hroom _), List.take_zero, Sink.append_nil]
      rfl
    | succ n =>
      obtain ⟨hfirst, hroom⟩ := Sink.write?_of_room hroom (lineBefore before item)
      have hcount : (n + 1 + 1) / 2 = n / 2 + 1 := by omega
      rw [hcount, List.take_succ_cons, List.take_succ_cons, foldItems_cons, bind_run]
      cases hitem : stepItem .full before item s₁ with
      | mk result s₂ =>
        rw [hitem] at hfull
        cases result with
        | error e => exact absurd hfull (Nat.not_lt.mpr (Nat.le_add_left 1 n))
        | ok after =>
          cases n with
          | zero =>
            rw [traceItems_of_full_after hfirst hitem (Sink.write?_of_full hroom _)]
            rfl
          | succ n =>
            obtain ⟨hsecond, hroom⟩ := Sink.write?_of_room hroom (lineAfter after)
            have hrest := ih ((foldItems_concat hdone item).trans hitem) _ hroom
              (Nat.lt_of_succ_lt_succ (Nat.lt_of_succ_lt_succ hfull))
            rw [traceItems_of_ok hfirst hitem hsecond, hrest, Sink.append_append,
              Sink.append_append]
            rfl

end Loop

/-! ## Traced folds -/

section Trace

variable (stack : Stack Value) (program : List Value) (s : State)

/-- At the limit there is nothing to write. -/
theorem transcript_of_le (h : depthLimit ≤ s.depth .folding) : transcript stack program s = [] := by
  cases program with
  | nil => rfl
  | cons item rest => rw [transcript, transcriptFrom, fold_of_le h]

theorem trace_of_le (h : depthLimit ≤ s.depth .folding) (sink : Sink) :
    trace stack program sink s = ((.error (.tooDeep .folding), sink), s) := if_pos h

theorem trace_of_lt (h : s.depth .folding < depthLimit) (sink : Sink) :
    trace stack program sink s =
      ((traceItems .full stack program sink (s.enter .folding)).1,
        (traceItems .full stack program sink (s.enter .folding)).2.leave .folding) :=
  if_neg (Nat.not_le.mpr h)

variable {stack program s}

theorem trace_of_fits (sink : Sink) (hfits : sink.Fits (transcript stack program s).length) :
    trace stack program sink s =
      (((fold stack program s).1, sink.append (transcript stack program s)),
        (fold stack program s).2) := by
  rcases Nat.lt_or_ge (s.depth .folding) depthLimit with hlt | hle
  · have hstart : foldItems .full stack [] (s.enter .folding) = (.ok stack, s.enter .folding) := rfl
    have hitems := traceItems_of_fits hlt hstart sink hfits
    rw [trace_of_lt _ _ _ hlt, fold_of_lt hlt, hitems]
    rfl
  · rw [trace_of_le _ _ _ hle, fold_of_le hle, transcript_of_le _ _ _ hle, Sink.append_nil]

theorem trace_of_not_fits (sink : Sink) {n : Nat} (hroom : sink.room = some n)
    (hfull : n < (transcript stack program s).length) :
    trace stack program sink s =
      ((.error sinkFull, sink.append ((transcript stack program s).take n)),
        (fold stack (program.take ((n + 1) / 2)) s).2) := by
  rcases Nat.lt_or_ge (s.depth .folding) depthLimit with hlt | hle
  · have hstart : foldItems .full stack [] (s.enter .folding) = (.ok stack, s.enter .folding) := rfl
    have hitems := traceItems_of_not_fits hlt hstart sink hroom hfull
    rw [trace_of_lt _ _ _ hlt, fold_of_lt hlt, hitems]
    rfl
  · rw [transcript_of_le _ _ _ hle] at hfull
    exact absurd hfull (Nat.not_lt_zero n)

/-- **A traced fold refines a fold, whatever the sink.**  If there is always room, it returns what
the fold returns, leaves the state that the fold leaves, and writes the lines of the program.  If
there is room for `n` lines, this is so as long as there are no more lines than that.  Otherwise it
fails because the sink is full, the first `n` lines are written, and what was done is what the fold
of the first `(n + 1) / 2` items does. -/
theorem trace_refines_fold (stack : Stack Value) (program : List Value) (s : State)
    (written : Array String) :
    trace stack program ⟨written, none⟩ s =
        (((fold stack program s).1, ⟨written ++ transcript stack program s, none⟩),
          (fold stack program s).2) ∧
      ∀ n, trace stack program ⟨written, some n⟩ s =
        if (transcript stack program s).length ≤ n then
          (((fold stack program s).1, ⟨written ++ transcript stack program s,
            some (n - (transcript stack program s).length)⟩), (fold stack program s).2)
        else
          ((.error (.traceOutput "sink full"),
              ⟨written ++ (transcript stack program s).take n, some 0⟩),
            (fold stack (program.take ((n + 1) / 2)) s).2) := by
  constructor
  · exact trace_of_fits ⟨written, none⟩ fun _ hn => by cases hn
  · intro n
    by_cases hfits : (transcript stack program s).length ≤ n
    · rw [if_pos hfits]
      refine trace_of_fits ⟨written, some n⟩ ?_
      rintro _ ⟨⟩
      exact hfits
    · have hfull : n < (transcript stack program s).length := Nat.lt_of_not_le hfits
      rw [if_neg hfits, trace_of_not_fits ⟨written, some n⟩ rfl hfull]
      have hroom : n - ((transcript stack program s).take n).length = 0 := by
        rw [List.length_take]
        omega
      simp only [sinkFull, Sink.append, Option.map_some, hroom]

end Trace

/-- A program that generates a symbol and then fails to add to it. -/
def generateThenAdd : List Value :=
  [.string "t", .combinator (.popping "gensym" 1 (.primitive .gensym)),
    .combinator (.popping "+" 2 (.primitive .add))]

/-- The item that fails has one line.  Five lines are all, so a sink with room for them is as good
as any.  With room for three the last item is not reached, although the symbol is generated, and
with room for two it is not generated. -/
theorem trace_generateThenAdd : ∃ lines : List String,
    lines = ["Stack(1) << \"t\"", "  => Stack(1, \"t\")", "Stack(1, \"t\") << op(gensym, 1)",
      "  => Stack(1, #:t$1)", "Stack(1, #:t$1) << op(+)"] ∧
    trace (.ofList [.number 1]) generateThenAdd (.withRoom none) .initial =
      ((.error (.expectedKind .number .symbol), ⟨lines.toArray, none⟩),
        { State.initial with gensyms := 1 }) ∧
    trace (.ofList [.number 1]) generateThenAdd (.withRoom (some 5)) .initial =
      ((.error (.expectedKind .number .symbol), ⟨lines.toArray, some 0⟩),
        { State.initial with gensyms := 1 }) ∧
    trace (.ofList [.number 1]) generateThenAdd (.withRoom (some 3)) .initial =
      ((.error (.traceOutput "sink full"), ⟨(lines.take 3).toArray, some 0⟩),
        { State.initial with gensyms := 1 }) ∧
    trace (.ofList [.number 1]) generateThenAdd (.withRoom (some 2)) .initial =
      ((.error (.traceOutput "sink full"), ⟨(lines.take 2).toArray, some 0⟩), .initial) ∧
    (Sink.mk (lines.take 2).toArray (some 0)).text =
      "Stack(1) << \"t\"\n  => Stack(1, \"t\")\n" ∧
    (Error.traceOutput "sink full").message =
      "EvaluationError: trace output failed: sink full" := by
  obtain ⟨hopen, hroom⟩ := trace_refines_fold (.ofList [.number 1]) generateThenAdd .initial #[]
  refine ⟨_, rfl, hopen.trans rfl, (hroom 5).trans rfl, (hroom 3).trans rfl, (hroom 2).trans rfl,
    ?_, ?_⟩
  · decide +kernel
  · decide +kernel

end Homoiconic
