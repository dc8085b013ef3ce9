import ByteGrammar.Text.Numeral
import ByteGrammar.Validation.Issue

/-!
# Faults

A parser that does not match answers with an outcome, never with a fault. A fault is
a broken contract: a position outside its buffer, a read at the end, a builder asked
for something that does not exist, a recursion without an end. It ends the whole
application and passes through every combinator unchanged.
-/

set_option autoImplicit false

namespace ByteGrammar

/-- The ways in which building or applying a parser breaks a contract. -/
inductive Fault
  /-- A cursor was asked for outside its buffer. -/
  | outOfBounds (pos : Int) (size : Nat)
  /-- The byte at the end of a buffer was asked for. -/
  | readPastEnd (pos : Nat)
  /-- A cursor at the end of its buffer was moved on. -/
  | advancePastEnd (pos : Nat)
  /-- A parser was to be repeated a negative number of times. -/
  | negativeCount (count : Int)
  /-- A single byte was to equal a number that is no byte. -/
  | byteOutOfRange (value : Int)
  /-- A word was to equal a number that is no word. -/
  | wordOutOfRange (value : Int)
  /-- The data of a model did not pass its checks. -/
  | invalid (issues : List Issue)
  /-- A repetition came back to a cursor it had left, so it would never stop. -/
  | endlessRepetition
  /-- A reference to a parser that there is not. -/
  | nothingBuilt
  /-- Parsers that refer to each other did so at too great a depth. -/
  | tooDeep
  deriving DecidableEq, Repr

/-- The text of a fault. One that names a number with too many digits tells only that. -/
def Fault.message : Fault → String
  | .outOfBounds pos size => Numeral.sentence "cursor position " pos s!" out of bounds 0..{size}"
  | .readPastEnd pos => s!"read past end at {pos}"
  | .advancePastEnd pos => s!"advance past end at {pos}"
  | .negativeCount count => Numeral.sentence "repetition count must be non-negative, got " count
  | .byteOutOfRange value => Numeral.sentence "byte out of range: " value
  | .wordOutOfRange value => Numeral.sentence "word out of range: " value
  | .invalid _ => "invalid format"
  | .endlessRepetition => "repetition never stops"
  | .nothingBuilt => "list index out of range"
  | .tooDeep => "maximum recursion depth exceeded"

end ByteGrammar
