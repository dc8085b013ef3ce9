import ByteGrammar.Document.Basic
import ByteGrammar.Validation.Checked

/-!
# Models from raw data

How segments and documents are made from raw data. Fields that no model has are ignored.
Parts that a program has already read are made into models by the same checks.
-/

set_option autoImplicit false

namespace ByteGrammar

/-- A segment has a type and a length, both words and both required. -/
def Segment.ofDatum (datum : Datum) : Checked Segment := do
  let fields ← Checked.fields "Segment" datum
  let (type, length) ←
    (Checked.required "type" Checked.word fields).both
      (Checked.required "length" Checked.word fields)
  return ⟨type, length⟩

/-- The segment whose type and length were read as numbers. -/
def Segment.ofNumbers (type length : Nat) : Except Fault Segment :=
  (Segment.ofDatum (.record [("type", .integer type), ("length", .integer length)])).orFault

/-- The numbers of two words make a segment. -/
theorem Segment.ofNumbers_of_lt {type length : Nat} (typeSmall : type < 65536)
    (lengthSmall : length < 65536) :
    ofNumbers type length = .ok ⟨UInt16.ofNat type, UInt16.ofNat length⟩ := by
  have typeFound : Checked.required "type" Checked.word
      [("type", .integer type), ("length", .integer length)] = .ok (UInt16.ofNat type) := by
    simp [Checked.required, Checked.under, Checked.word_of_lt typeSmall]
  have lengthFound : Checked.required "length" Checked.word
      [("type", .integer type), ("length", .integer length)] = .ok (UInt16.ofNat length) := by
    simp [Checked.required, Checked.under, List.lookup_cons, Checked.word_of_lt lengthSmall]
  simp [ofNumbers, ofDatum, Checked.fields, typeFound, lengthFound, Checked.both, Checked.orFault,
    bind, Except.bind, pure, Except.pure]

/-- The number of bytes a document was read from, without an upper bound. -/
def Document.checkConsumed : Datum → Checked Int :=
  Checked.integerWithin 0 none

/-- A document has a list of segments, empty if absent, and a number of bytes consumed,
0 if absent. -/
def Document.ofDatum (datum : Datum) : Checked Document := do
  let fields ← Checked.fields "Document" datum
  let (segments, consumed) ←
    (Checked.optional "segments" [] (Checked.list Segment.ofDatum) fields).both
      (Checked.optional "consumed" 0 checkConsumed fields)
  return ⟨segments, consumed⟩

/-- The document of some segments and of the number of bytes they were read from. Segments
that exist are not checked again. -/
def Document.ofParts (segments : List Segment) (consumed : Int) : Checked Document := do
  let consumed ← Checked.under (.field "consumed") (checkConsumed (.integer consumed))
  return ⟨segments, consumed⟩

/-- A number of bytes that is counted is never refused. -/
theorem Document.ofParts_natCast (segments : List Segment) (consumed : Nat) :
    ofParts segments consumed = .ok ⟨segments, consumed⟩ := by
  have passed : checkConsumed (.integer consumed) = .ok (consumed : Int) :=
    Checked.integerWithin_of_le (by omega) (by simp)
  simp [ofParts, passed, Checked.under, bind, Except.bind, pure, Except.pure]

end ByteGrammar
