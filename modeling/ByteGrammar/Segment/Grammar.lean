import ByteGrammar.Parser.Bytes
import ByteGrammar.Parser.Repetition
import ByteGrammar.Validation.Models

/-!
# The grammar of segments

A segment is a type word, a length word and the payload the length announces. The
three kinds of mark at its front differ in how they match the type: a start marker and
a terminal segment want one fixed word, a generic segment any word but the terminal
one.

What was read are numbers. They become a segment by the same check that raw data has to
pass, so a number that is no word would be a fault.
-/

set_option autoImplicit false

namespace ByteGrammar

namespace Segment

open ByteGrammar.Parser

/-- Read a fixed word as two bytes. Its low byte is built only once its high byte was
read. -/
def startMarker (marker : Int) : Except Fault (Parser Nat) := do
  let high ← byteEqualTo (marker / 256)
  return high.bindWith (fun _ => deferred (byteEqualTo (marker % 256)))
    fun _ _ => marker.toNat

/-- Skip the payload that a length announces: two bytes less than the length, and nothing
for the lengths 0 and 1. -/
def payload (length : Nat) : Except Fault (Parser (List UInt8)) :=
  anyByte.times (max ((length : Int) - 2) 0)

/-- Read a length and skip its payload. -/
def lengthAndPayload : Parser Nat :=
  word.bindWith (fun length => deferred (payload length)) fun length _ => length

/-- Read a segment whose type is read by the given parser. -/
def markedBy (marker : Parser Nat) : Parser Segment :=
  marker.bindMaking (fun _ => lengthAndPayload) Segment.ofNumbers

/-- Read a segment of any type but the terminal one. -/
def generic (terminal : Int) : Parser Segment :=
  markedBy (wordMatching fun type => (type : Int) != terminal)

/-- Read a segment of the terminal type. -/
def terminal (marker : Int) : Except Fault (Parser Segment) := do
  return markedBy (← wordEqualTo marker)

end Segment

end ByteGrammar
