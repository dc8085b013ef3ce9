import ByteGrammar.Text.Hexadecimal
import ByteGrammar.Word

/-!
# Segments

A segment is announced by a type and a length, each a word. The length counts its own
two bytes, so the payload has two bytes less, and the lengths 0 and 1 announce an
empty payload. Payload bytes are skipped and not kept.
-/

set_option autoImplicit false

namespace ByteGrammar

/-- The head of a segment: its type and its declared length. -/
structure Segment where
  type : UInt16
  length : UInt16
  deriving DecidableEq, Repr

namespace Segment

/-- The number of payload bytes that follow the head of a segment. -/
def payloadLength (segment : Segment) : Nat :=
  segment.length.toNat - 2

/-- The number of bytes a segment takes: two words and the payload. -/
def size (segment : Segment) : Nat :=
  4 + segment.payloadLength

/-- The number of bytes that segments take together. -/
def totalSize : List Segment → Nat
  | [] => 0
  | segment :: segments => segment.size + totalSize segments

/-- The stored form of a segment whose payload holds one byte throughout. -/
def encode (fill : UInt8) (segment : Segment) : List UInt8 :=
  Word.bytes segment.type ++ Word.bytes segment.length ++
    List.replicate segment.payloadLength fill

/-- The two lines that describe a segment. -/
def render (segment : Segment) : String :=
  s!"Type={Hexadecimal.render segment.type.toNat}\nLen={segment.length.toNat}"

@[simp]
theorem length_encode (fill : UInt8) (segment : Segment) :
    (encode fill segment).length = segment.size := by
  simp [encode, size]
  omega

end Segment

end ByteGrammar
