import ByteGrammar.Parser.Basic

/-!
# Repetition

`many` applies a parser as long as it succeeds and moves; it never fails. `times`
applies it a fixed number of times and, unlike the other combinators, lets a failure
report the cursor at which the failing repetition began.

Both are loops over an accumulator. The loop of `many` counts down the bytes of the
buffer. A chain of progressing successes on one buffer that is longer than the buffer
has been at one of its cursors twice, and since a parser answers the same at the same
cursor, it would go round for ever. That is the fault `endlessRepetition`, which a
parser that only moves forward cannot meet.
-/

set_option autoImplicit false

namespace ByteGrammar

/-- A list of items with one more at its end. -/
def appended {α : Type} (items : List α) (item : α) : List α :=
  items ++ [item]

namespace Parser

variable {α : Type}

/-- The loop of `many`: `values` holds what was read so far, the latest first, and `fuel`
the number of steps that may still be taken. -/
def manyFrom (parser : Parser α) (fuel : Nat) (values : List α) (cur : Cursor) :
    Except Fault (Outcome (List α)) :=
  match parser cur with
  | .error fault => .error fault
  | .ok (.failure _ _) => .ok (.success values.reverse cur)
  | .ok (.success value remainder) =>
    if remainder == cur then
      .ok (.success values.reverse cur)
    else
      match fuel with
      | 0 => .error .endlessRepetition
      | fuel + 1 => manyFrom parser fuel (value :: values) remainder

/-- Apply a parser as long as it succeeds and moves. The value of a success that does not
move is dropped. -/
def many (parser : Parser α) : Parser (List α) :=
  fun cur => parser.manyFrom cur.buffer.size [] cur

/-- The loop of `times`: `values` holds what was read so far, the latest first. -/
def timesFrom (parser : Parser α) : Nat → List α → Cursor → Except Fault (Outcome (List α))
  | 0, values, cur => .ok (.success values.reverse cur)
  | count + 1, values, cur =>
    match parser cur with
    | .error fault => .error fault
    | .ok (.failure _ attemptedAt) => .ok (.failure cur attemptedAt)
    | .ok (.success value remainder) => timesFrom parser count (value :: values) remainder

/-- Apply a parser a given number of times. A failure reports the cursor reached by the
repetitions before the failing one. -/
def times (parser : Parser α) (count : Int) : Except Fault (Parser (List α)) :=
  if count < 0 then
    .error (.negativeCount count)
  else
    .ok (parser.timesFrom count.toNat [])

end Parser

end ByteGrammar
