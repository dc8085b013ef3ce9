import ByteGrammar.Document.Basic

/-!
# Charts

The lengths of the segments of a document as a bar chart, given as the drawing calls
that make it, in order. Each bar stands at the index of its segment and is labelled
with the type of the segment in four hexadecimal digits.
-/

set_option autoImplicit false

namespace ByteGrammar

namespace Chart

/-- An argument of a drawing call. -/
inductive Argument
  | text (value : String)
  | texts (values : List String)
  | numbers (values : List Nat)
  deriving DecidableEq, Repr

/-- A drawing call with its arguments, those with a name last. -/
structure Call where
  name : String
  arguments : List Argument := []
  named : List (String × Argument) := []
  deriving DecidableEq, Repr

end Chart

open Chart in
/-- The calls that draw the chart of a document. -/
def Document.chart (document : Document) : List Chart.Call :=
  let lengths := document.segments.map fun segment => segment.length.toNat
  let labels := document.segments.map fun segment => Hexadecimal.padded 4 segment.type.toNat
  [ ⟨"figure", [], []⟩,
    ⟨"bar", [.numbers (List.range lengths.length), .numbers lengths],
      [("tick_label", .texts labels)]⟩,
    ⟨"xlabel", [.text "Segment marker"], []⟩,
    ⟨"ylabel", [.text "Length (bytes)"], []⟩,
    ⟨"title", [.text "Segment layout (sanity plot)"], []⟩,
    ⟨"show", [], []⟩ ]

end ByteGrammar
