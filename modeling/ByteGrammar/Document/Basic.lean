import ByteGrammar.Index
import ByteGrammar.Segment.Basic

/-!
# Documents

A document is a list of segments in file order together with the number of bytes they
were read from. The number is only a record of the reading: edits leave it alone, and
it may be set to any integer.
-/

set_option autoImplicit false

namespace ByteGrammar

/-- The segments of a document and the number of bytes they were read from. -/
structure Document where
  segments : List Segment
  consumed : Int
  deriving DecidableEq, Repr

namespace Document

/-- The last segment, if there is one. -/
def terminal? (document : Document) : Option Segment :=
  document.segments.getLast?

/-- The number of bytes of a start marker and all segments. -/
def encodedSize (document : Document) : Nat :=
  2 + Segment.totalSize document.segments

/-- The number of different segments. -/
def distinct (document : Document) : Nat :=
  document.segments.eraseDups.length

/-! ## Edits -/

/-- A change to a document. -/
inductive Edit
  | append (segment : Segment)
  /-- Put a segment before the one at an index; past either end it goes to that end. -/
  | insert (index : Int) (segment : Segment)
  | remove (index : Int)
  | setConsumed (consumed : Int)

/-- The document after an edit. Only a removal can fail, where nothing stands at its
index. -/
def edit (document : Document) : Edit → Option Document
  | .append segment => some { document with segments := document.segments ++ [segment] }
  | .insert index segment =>
    let place := (Index.resolve index document.segments.length).toNat
    some { document with
      segments := document.segments.take place ++ segment :: document.segments.drop place }
  | .remove index =>
    (Index.place? index document.segments.length).map fun place =>
      { document with segments := document.segments.eraseIdx place }
  | .setConsumed consumed => some { document with consumed }

end Document

end ByteGrammar
