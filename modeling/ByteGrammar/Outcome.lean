import ByteGrammar.Cursor

/-!
# Outcomes

Applying a parser at a cursor succeeds with a value and the cursor where the parser
stopped, or fails with two cursors: the one the failing combinator reports and the one
at which the last attempt failed. Combinators move the first and never the second, so
the second keeps pointing at the byte that did not fit (`reanchor`).
-/

set_option autoImplicit false

namespace ByteGrammar

/-- The answer of a parser at a cursor. -/
inductive Outcome (α : Type)
  | success (value : α) (remainder : Cursor)
  | failure (remainder attemptedAt : Cursor)

namespace Outcome

variable {α β : Type}

/-- The failure of an attempt made at a cursor. -/
def failureAt (cur : Cursor) : Outcome α :=
  .failure cur cur

/-- Let a failure report another cursor, keeping where the attempt was made. -/
def reanchor (outcome : Outcome α) (cur : Cursor) : Outcome α :=
  match outcome with
  | .success value remainder => .success value remainder
  | .failure _ attemptedAt => .failure cur attemptedAt

/-- Change the value of a success. -/
def map (f : α → β) : Outcome α → Outcome β
  | .success value remainder => .success (f value) remainder
  | .failure remainder attemptedAt => .failure remainder attemptedAt

/-- The cursor an outcome reports. -/
def remainder : Outcome α → Cursor
  | .success _ remainder => remainder
  | .failure remainder _ => remainder

/-- The cursor of the last failed attempt, which only a failure has. -/
def attemptedAt? : Outcome α → Option Cursor
  | .success _ _ => none
  | .failure _ attemptedAt => some attemptedAt

/-- Outcomes agree when they are of one kind, with the same values and the same cursors. -/
instance [BEq α] : BEq (Outcome α) where
  beq
    | .success value remainder, .success value' remainder' =>
      value == value' && remainder == remainder'
    | .failure remainder attemptedAt, .failure remainder' attemptedAt' =>
      remainder == remainder' && attemptedAt == attemptedAt'
    | _, _ => false

end Outcome

end ByteGrammar
