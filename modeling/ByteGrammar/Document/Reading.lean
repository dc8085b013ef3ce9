import ByteGrammar.Document.Format

/-!
# Reading documents

Reading applies the document grammar of a format to the first byte of some data. Data
that the grammar rejects is answered with the two positions of the failure: the one it
reports and the one of the last failed attempt.

The segments of some data can also be asked for one after the other. The data is read
as a whole when the first one is asked for.
-/

set_option autoImplicit false

namespace ByteGrammar

/-- Why data could not be read as a document. -/
inductive ReadError
  /-- The grammar rejects the data. -/
  | rejected (remainder attemptedAt : Nat)
  /-- A contract of the parsers was broken. -/
  | fault (fault : Fault)
  deriving DecidableEq, Repr

namespace Document

/-- Read the document at the start of some data. -/
def read (format : Format) (bytes : List UInt8) : Except ReadError Document :=
  match format.document with
  | .error fault => .error (.fault fault)
  | .ok grammar =>
    match grammar (Buffer.ofList bytes).start with
    | .error fault => .error (.fault fault)
    | .ok (.failure remainder attemptedAt) => .error (.rejected remainder.pos attemptedAt.pos)
    | .ok (.success segments remainder) =>
      match (Document.ofParts segments remainder.pos).orFault with
      | .error fault => .error (.fault fault)
      | .ok document => .ok document

end Document

/-! ## Segments one by one -/

/-- The segments of some data that are still to come. -/
inductive SegmentStream
  /-- Nothing was asked for, so nothing was read. -/
  | unread (format : Format) (bytes : List UInt8)
  | ready (segments : List Segment)

namespace SegmentStream

/-- Why no segment came. -/
inductive Stop
  | exhausted
  | unreadable (error : ReadError)

/-- The next segment, and the stream after it. A stream whose data could not be read is
exhausted from then on. -/
def next : SegmentStream → Except Stop Segment × SegmentStream
  | .ready [] => (.error .exhausted, .ready [])
  | .ready (segment :: segments) => (.ok segment, .ready segments)
  | .unread format bytes =>
    match Document.read format bytes with
    | .error error => (.error (.unreadable error), .ready [])
    | .ok document =>
      match document.segments with
      | [] => (.error .exhausted, .ready [])
      | segment :: segments => (.ok segment, .ready segments)

/-- The answers to asking for a number of segments in a row. -/
def take : Nat → SegmentStream → List (Except Stop Segment)
  | 0, _ => []
  | count + 1, stream =>
    let (answer, rest) := stream.next
    answer :: take count rest

end SegmentStream

end ByteGrammar
