import ByteGrammar.Document.Basic
import ByteGrammar.Text.Outline

/-!
# Reports on documents

Two texts that tell all about the segments of a document: two lines for each segment,
or indented JSON text that also tells the number of bytes read.
-/

set_option autoImplicit false

namespace ByteGrammar

/-- The fields of a segment. -/
def Segment.outline (segment : Segment) : Outline :=
  .record [("type", .number segment.type.toNat), ("length", .number segment.length.toNat)]

namespace Document

/-- The fields of a document. -/
def outline (document : Document) : Outline :=
  .record [("segments", .list (document.segments.map Segment.outline)),
    ("consumed", .number document.consumed)]

/-- A document as indented JSON text. -/
def toJson (document : Document) : String :=
  document.outline.render

/-- A document as the lines of its segments. -/
def summary (document : Document) : String :=
  String.join (document.segments.map fun segment => segment.render ++ "\n")

end Document

end ByteGrammar
