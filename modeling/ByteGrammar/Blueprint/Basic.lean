import ByteGrammar.Blueprint.Quantity
import ByteGrammar.Document.Format
import ByteGrammar.Parser.Probes
import ByteGrammar.Validation.Format

/-!
# Blueprints

A blueprint is a parser described as data, over the one type of values in
`ByteGrammar.Blueprint.Value`. `Blueprint.build` turns it into the parser it
describes.

The second part of a sequence may refer to the value of the first, so it is built anew
each time that value is known, in an environment with the value in front. A part that
cannot be built is therefore met in two ways: outside every such second part the whole
blueprint cannot be built, inside one its fault ends the application. All other parts
are built at once, from left to right and before the whole that holds them.

A blueprint may also refer to other parsers by an index. Two meanings of the indices are
given, one for the references that are built at once and one for those inside a second
part, which are met only when the parser is applied. `ByteGrammar.Blueprint.Collection`
gives both for blueprints that refer to each other.

Functions and joins are total: applied to a value of another kind they yield nothing.
-/

set_option autoImplicit false

namespace ByteGrammar

/-- A function on values. -/
inductive Transform
  | identity
  | const (value : Value)
  | add (quantity : Quantity)
  | mul (quantity : Quantity)
  /-- The number of items of a tuple, or of characters of a text. -/
  | length
  | sum
  /-- The pair of a value with itself. -/
  | duplicate
  | segmentText
  | segmentPayloadLength
  | segmentType
  | segmentLength

/-- The sum of the integers among some values. -/
def Value.sum : List Value → Int
  | [] => 0
  | .integer value :: items => value + sum items
  | _ :: items => sum items

/-- The value of a function, in the environment its quantities refer to. -/
def Transform.apply (env : Environment) : Transform → Value → Value
  | .identity, value => value
  | .const value, _ => value
  | .add quantity, .integer value => .integer (value + quantity.eval env)
  | .mul quantity, .integer value => .integer (value * quantity.eval env)
  | .length, .tuple items => .integer items.length
  | .length, .text value => .integer value.length
  | .sum, .tuple items => .integer (Value.sum items)
  | .duplicate, value => .tuple [value, value]
  | .segmentText, .segment segment => .text segment.render
  | .segmentPayloadLength, .segment segment => .integer segment.payloadLength
  | .segmentType, .segment segment => .integer segment.type.toNat
  | .segmentLength, .segment segment => .integer segment.length.toNat
  | _, _ => .unit

/-- A way of joining the two values of a sequence. -/
inductive Join
  | first
  | second
  | pair
  | nothing
  /-- The first value, a tuple, with the second at its end. -/
  | append
  /-- The word whose high byte and low byte the values are. -/
  | word
  | add

/-- The joined value. -/
def Join.apply : Join → Value → Value → Value
  | .first, value, _ => value
  | .second, _, value => value
  | .pair, left, right => .tuple [left, right]
  | .nothing, _, _ => .unit
  | .append, .tuple items, item => .tuple (appended items item)
  | .word, .integer high, .integer low => .integer (Bits.either (high * 256) low)
  | .add, .integer left, .integer right => .integer (left + right)
  | _, _, _ => .unit

/-- A parser described as data. -/
inductive Blueprint
  | anyByte
  | word
  | endOfInput
  | byteEqualTo (quantity : Quantity)
  | wordEqualTo (quantity : Quantity)
  | byteMatching (test : Test)
  | wordMatching (test : Test)
  | succeed (value : Value)
  | fail
  | map (part : Blueprint) (transform : Transform)
  | bind (part next : Blueprint) (join : Join)
  | firstOf (branch : Blueprint) (others : List Blueprint)
  | notFollowedBy (part : Blueprint)
  | many (part : Blueprint)
  | times (part : Blueprint) (count : Quantity)
  | startMarker (marker : Quantity)
  | generic (terminal : Quantity)
  | terminal (marker : Quantity)
  /-- The document grammar of a format given as raw data, or of the standard one. -/
  | document (format : Option Datum)
  /-- Another parser, by its index. -/
  | reference (index : Int)
  | peek
  | skip
  | seek (pos : Quantity)
  | failWith (remainder attemptedAt : Quantity)

namespace Blueprint

open ByteGrammar.Parser

/-! ## Views of typed parsers -/

def ofByte (byte : UInt8) : Value :=
  .integer byte.toNat

def ofWord (word : Nat) : Value :=
  .integer word

def ofUnit (_ : Unit) : Value :=
  .unit

def ofSegments (segments : List Segment) : Value :=
  .tuple (segments.map .segment)

/-- The format that raw data describes, as a part of a blueprint. -/
def format : Option Datum → Except Fault Format
  | none => .ok Format.standard
  | some datum => (Format.ofDatum datum).orFault

/-! ## Building -/

/-- What references stand for. -/
abbrev References := Int → Except Fault (Parser Value)

/-- The meaning of references where there is nothing to refer to. -/
def noReferences : References :=
  fun _ => .error .nothingBuilt

mutual
/-- The parser that a blueprint describes, over the values read before. References mean
`now` where they are built at once and `later` inside second parts of sequences. -/
def build (now later : References) (env : Environment) :
    Blueprint → Except Fault (Parser Value)
  | .anyByte => .ok (Parser.anyByte.view ofByte)
  | .word => .ok (Parser.word.view ofWord)
  | .endOfInput => .ok (Parser.endOfInput.view ofUnit)
  | .byteEqualTo quantity => do
    return (← Parser.byteEqualTo (quantity.eval env)).view ofByte
  | .wordEqualTo quantity => do
    return (← Parser.wordEqualTo (quantity.eval env)).view ofWord
  | .byteMatching test =>
    .ok ((Parser.byteMatching fun byte => test.passes env byte.toNat).view ofByte)
  | .wordMatching test =>
    .ok ((Parser.wordMatching fun word => test.passes env word).view ofWord)
  | .succeed value => .ok (Parser.succeed value)
  | .fail => .ok Parser.fail
  | .map part transform => do
    return (← build now later env part).map (transform.apply env)
  | .bind part next join => do
    return (← build now later env part).bindWith
      (fun value => deferred (build later later (value :: env) next)) join.apply
  | .firstOf branch others => do
    return Parser.firstOf (← build now later env branch) (← buildAll now later env others)
  | .notFollowedBy part => do
    return (← build now later env part).notFollowedBy.view ofUnit
  | .many part => do
    return (← build now later env part).many.view .tuple
  | .times part count => do
    return (← (← build now later env part).times (count.eval env)).view .tuple
  | .startMarker marker => do
    return (← Segment.startMarker (marker.eval env)).view ofWord
  | .generic marker => .ok ((Segment.generic (marker.eval env)).view .segment)
  | .terminal marker => do
    return (← Segment.terminal (marker.eval env)).view .segment
  | .document datum => do
    return (← (← format datum).document).view ofSegments
  | .reference index => now index
  | .peek => .ok (Parser.peek.view ofByte)
  | .skip => .ok (Parser.skip.view ofUnit)
  | .seek pos => .ok ((Parser.seek (pos.eval env)).view ofUnit)
  | .failWith remainder attemptedAt =>
    .ok (Parser.failWith (remainder.eval env) (attemptedAt.eval env))

/-- The parsers of several blueprints, built in order. -/
def buildAll (now later : References) (env : Environment) :
    List Blueprint → Except Fault (List (Parser Value))
  | [] => .ok []
  | part :: parts => do
    return (← build now later env part) :: (← buildAll now later env parts)
end

/-- The parser of a blueprint that stands alone. -/
def parser (blueprint : Blueprint) : Except Fault (Parser Value) :=
  blueprint.build noReferences noReferences []

end Blueprint

end ByteGrammar
