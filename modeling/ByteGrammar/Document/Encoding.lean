import ByteGrammar.Document.Basic
import ByteGrammar.Text.Hexadecimal
import ByteGrammar.Text.Numeral

/-!
# Encoding documents

A document is written as its start marker followed by its segments in order. Payloads
are not kept in a document, so every payload byte is written as one fill byte.

What is written must be readable again: the last segment has the terminal type and no
earlier segment has it, and the markers and the fill byte fit into the bytes they are
written to. The conditions are checked in a fixed order and the first one that fails
is reported.
-/

set_option autoImplicit false

namespace ByteGrammar

/-- How a document is to be written. The numbers are as they were asked for and may be out
of range. -/
structure Layout where
  fill : Int := 0
  start : Int := 0xFFD8
  terminal : Int := 0xFFDA

/-- Why a document cannot be written. -/
inductive EncodeError
  | fillOutOfRange (fill : Int)
  /-- There is no segment, or the last one has another type than the terminal one. -/
  | terminalNotLast (terminal : Int)
  /-- The first segment before the last one that has the terminal type. -/
  | terminalTooEarly (index : Nat) (terminal : Int)
  | startTooBig
  | startNegative
  deriving DecidableEq, Repr

/-- The text of an encoding error. -/
def EncodeError.message : EncodeError → String
  | .fillOutOfRange fill => Numeral.sentence "fill byte out of range: " fill
  | .terminalNotLast terminal =>
    "document must end with a " ++ Hexadecimal.padded 4 terminal ++ " segment"
  | .terminalTooEarly index terminal =>
    s!"segment[{index}] uses the terminal marker " ++ Hexadecimal.padded 4 terminal ++
      " before the end"
  | .startTooBig => "int too big to convert"
  | .startNegative => "can't convert negative int to unsigned"

namespace Document

/-- Whether a segment has a given type. -/
def hasType (type : Int) (segment : Segment) : Bool :=
  (segment.type.toNat : Int) == type

/-- The bytes of a start marker and some segments, with one byte in every payload. -/
def encodeBody (fill : UInt8) (start : UInt16) (segments : List Segment) : List UInt8 :=
  Word.bytes start ++ segments.flatMap (Segment.encode fill)

/-- The bytes of a document, or the first condition that it or the layout does not meet. -/
def encode (document : Document) (layout : Layout := {}) : Except EncodeError (List UInt8) :=
  if layout.fill < 0 ∨ 255 < layout.fill then
    .error (.fillOutOfRange layout.fill)
  else if !document.terminal?.any (hasType layout.terminal) then
    .error (.terminalNotLast layout.terminal)
  else
    match document.segments.dropLast.findIdx? (hasType layout.terminal) with
    | some index => .error (.terminalTooEarly index layout.terminal)
    | none =>
      if 65535 < layout.start then
        .error .startTooBig
      else if layout.start < 0 then
        .error .startNegative
      else
        .ok (encodeBody (UInt8.ofInt layout.fill) (UInt16.ofInt layout.start) document.segments)

end Document

end ByteGrammar
