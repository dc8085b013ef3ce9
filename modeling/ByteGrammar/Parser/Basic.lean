import ByteGrammar.Outcome

/-!
# Parsers

A parser is a function from a cursor to an outcome; building one runs nothing. The
combinators here put parsers in sequence, in ordered choice and under negation.

They keep one policy for failures: sequence, mapping and negation report the cursor
they were given, ordered choice returns the outcome of its last branch untouched, and
the cursor of the failed attempt is never changed. A fault of a part is a fault of the
whole.
-/

set_option autoImplicit false

namespace ByteGrammar

/-- A parser: what it answers at each cursor, unless a contract is broken. -/
abbrev Parser (α : Type) := Cursor → Except Fault (Outcome α)

namespace Parser

variable {α β γ : Type}

/-! ## Constant parsers -/

/-- Succeed with a value and read nothing. -/
def succeed (value : α) : Parser α :=
  fun cur => .ok (.success value cur)

/-- Fail wherever it is applied. -/
def fail : Parser α :=
  fun cur => .ok (.failureAt cur)

/-- A parser that is built only when it is applied, so that a fault of building it is
met there. -/
def deferred (built : Except Fault (Parser α)) : Parser α :=
  match built with
  | .ok parser => parser
  | .error fault => fun _ => .error fault

/-! ## Values -/

/-- Change the value of a success, and let a failure report the cursor it was given. -/
def map (parser : Parser α) (f : α → β) : Parser β :=
  fun cur =>
    match parser cur with
    | .error fault => .error fault
    | .ok (.success value remainder) => .ok (.success (f value) remainder)
    | .ok (.failure _ attemptedAt) => .ok (.failure cur attemptedAt)

/-- View the values of a parser in another way, leaving its failures as they are. -/
def view (parser : Parser α) (f : α → β) : Parser β :=
  fun cur => (parser cur).map (Outcome.map f)

/-! ## Sequence -/

/-- Apply a parser, then the parser its value selects, and make something of the two
values. A failure of either parser reports the cursor the sequence was given, and values
of which nothing can be made are a fault. -/
def bindMaking (parser : Parser α) (next : α → Parser β) (make : α → β → Except Fault γ) :
    Parser γ :=
  fun cur =>
    match parser cur with
    | .error fault => .error fault
    | .ok (.failure _ attemptedAt) => .ok (.failure cur attemptedAt)
    | .ok (.success first middle) =>
      match next first middle with
      | .error fault => .error fault
      | .ok (.failure _ attemptedAt) => .ok (.failure cur attemptedAt)
      | .ok (.success second remainder) =>
        match make first second with
        | .error fault => .error fault
        | .ok value => .ok (.success value remainder)

/-- Apply a parser, then the parser its value selects, and join the two values. -/
def bindWith (parser : Parser α) (next : α → Parser β) (join : α → β → γ) : Parser γ :=
  parser.bindMaking next fun first second => .ok (join first second)

/-- Apply a parser, then the parser its value selects, and keep the second value. -/
def bind (parser : Parser α) (next : α → Parser β) : Parser β :=
  parser.bindWith next fun _ second => second

/-! ## Ordered choice and negation -/

/-- The outcome of the first branch that succeeds at the cursor, and otherwise the outcome
of the last branch. -/
def firstOf : Parser α → List (Parser α) → Parser α
  | last, [] => last
  | branch, other :: others => fun cur =>
    match branch cur with
    | .ok (.failure _ _) => firstOf other others cur
    | answer => answer

/-- Ordered choice between two or more parsers. -/
def alternate (first second : Parser α) (others : List (Parser α) := []) : Parser α :=
  firstOf first (second :: others)

/-- Succeed without reading exactly where a parser fails. -/
def notFollowedBy (parser : Parser α) : Parser Unit :=
  fun cur =>
    match parser cur with
    | .error fault => .error fault
    | .ok (.success _ _) => .ok (.failureAt cur)
    | .ok (.failure _ _) => .ok (.success () cur)

end Parser

end ByteGrammar
