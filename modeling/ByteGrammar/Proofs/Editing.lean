import ByteGrammar.Proofs.RoundTrip

/-!
# Documents that are edited

A document is edited segment by segment, and the number of bytes it was read from may be set to
anything. Whatever was done to it, its segments alone decide whether it can be written with the standard
markers and what is written: the last one has to have the terminal type, and no other one may have it.

The number of bytes is a record that no edit of the segments keeps up to date. It is the one that was
assigned last (`Document.consumed_of_history`), or that of the reading if none was. So a document that
was written and read again has the segments it was written with, but it is the same document only if the
number happens to be the size in which the segments are written (`Document.round_trip_of_history`).

Segments hold words, so no edit can bring in a type or a length that does not fit.
-/

set_option autoImplicit false

namespace ByteGrammar

/-- Segments end as a format wants in terms of their types, with the last one apart from the rest. -/
theorem Format.terminates_iff_types {format : Format} {segments : List Segment} :
    format.Terminates segments ↔
      segments.getLast?.map Segment.type = some format.terminal ∧
        ∀ segment ∈ segments.dropLast, segment.type ≠ format.terminal := by
  constructor
  · rintro ⟨front, last, rfl, type, others⟩
    rw [List.getLast?_concat, List.dropLast_concat, Option.map_some, type]
    exact ⟨rfl, others⟩
  · rintro ⟨closing, others⟩
    obtain ⟨last, isLast, type⟩ := Option.map_eq_some_iff.mp closing
    obtain ⟨front, rfl⟩ := List.getLast?_eq_some_iff.mp isLast
    rw [List.dropLast_concat] at others
    exact ⟨front, last, rfl, type, others⟩

namespace Document

variable {document edited start reached : Document} {change : Edit} {changes : List Edit}

/-! ## The number of bytes -/

/-- The number of bytes a document claims to be read from after an edit, in terms of that before. -/
def Edit.consumedAfter (before : Int) : Edit → Int
  | .setConsumed consumed => consumed
  | .append _ | .insert _ _ | .remove _ => before

theorem consumed_of_edit (done : document.edit change = some edited) :
    edited.consumed = change.consumedAfter document.consumed := by
  cases change with
  | append segment =>
    cases done
    rfl
  | insert index segment =>
    cases done
    rfl
  | remove index =>
    obtain ⟨place, _, rfl⟩ := Option.map_eq_some_iff.mp done
    rfl
  | setConsumed consumed =>
    cases done
    rfl

/-- **After any edits the number of bytes is the one that was assigned last.** -/
theorem consumed_of_history (history : changes.foldlM edit start = some reached) :
    reached.consumed = changes.foldl Edit.consumedAfter start.consumed := by
  induction changes generalizing start with
  | nil =>
    cases history
    rfl
  | cons change changes ih =>
    rw [List.foldlM_cons] at history
    obtain ⟨edited, done, rest⟩ := Option.bind_eq_some_iff.mp history
    rw [List.foldl_cons, ← consumed_of_edit done]
    exact ih rest

/-! ## Writing with the standard markers -/

variable {fill : Int} {out : List UInt8}

theorem encode_standard_eq_ok_iff :
    document.encode { fill } = .ok out ↔
      (0 ≤ fill ∧ fill ≤ 255) ∧ Format.standard.Terminates document.segments ∧
        encodeBody (UInt8.ofInt fill) Format.standard.start document.segments = out := by
  have layout : Format.standard.layout fill = { fill } := rfl
  rw [← layout, encode_layout_eq_ok_iff]

/-- What is written depends on the segments alone. -/
theorem encode_congr {other : Document} (same : document.segments = other.segments)
    (layout : Layout) : document.encode layout = other.encode layout := by
  rw [encode, encode, terminal?, terminal?, same]

theorem encodedSize_eq (document : Document) : document.encodedSize =
    2 + (document.segments.map fun segment => 4 + segment.payloadLength).sum := by
  rw [encodedSize, Segment.totalSize_eq_sum]

/-- What is written is read as the segments and the size in which they are written. -/
theorem read_of_encode_standard (written : document.encode { fill } = .ok out) :
    read .standard out = .ok ⟨document.segments, document.encodedSize⟩ := by
  obtain ⟨_, terminates, rfl⟩ := encode_standard_eq_ok_iff.mp written
  have again := read_encodeBody (UInt8.ofInt fill) terminates fun _ => rfl
  rwa [List.append_nil, length_encodeBody] at again

/-- A document that was read and not edited is written, and comes back as it is. -/
theorem exists_encode_of_read_standard {bytes : List UInt8}
    (run : read .standard bytes = .ok document) (isByte : 0 ≤ fill ∧ fill ≤ 255) :
    ∃ out, document.encode { fill } = .ok out ∧ read .standard out = .ok document := by
  obtain ⟨last, stands, _⟩ := read_eq_ok_iff.mp run
  have written := encode_standard_eq_ok_iff.mpr ⟨isByte, stands.terminates, rfl⟩
  exact ⟨_, written, by rw [read_of_encode_standard written, ← consumed_of_read run]⟩

/-- **A document stays writable and readable whatever edits it goes through.** After any edits and with
any fill byte it can be written exactly if its last segment and no other one has the terminal type. The
bytes do not depend on the number of bytes it claims to be read from. They are read as its segments, and
as the document itself exactly if that number, which is the one that was assigned last, is the size of
its segments behind a start marker. A document that was read and not edited comes back as it is. -/
theorem round_trip_of_history (history : changes.foldlM edit start = some reached)
    (isByte : 0 ≤ fill ∧ fill ≤ 255) :
    ((∃ out, reached.encode { fill } = .ok out) ↔
      reached.segments.getLast?.map Segment.type = some 0xFFDA ∧
        ∀ segment ∈ reached.segments.dropLast, segment.type ≠ 0xFFDA) ∧
    (∀ consumed, encode { reached with consumed } { fill } = reached.encode { fill }) ∧
    (∀ out, reached.encode { fill } = .ok out → ∃ again, read .standard out = .ok again ∧
      again.segments = reached.segments ∧
      (again = reached ↔ reached.consumed =
        (2 + (reached.segments.map fun segment => 4 + segment.payloadLength).sum : Nat))) ∧
    reached.consumed = changes.foldl Edit.consumedAfter start.consumed ∧
    ∀ bytes, read .standard bytes = .ok start →
      ∃ out, start.encode { fill } = .ok out ∧ read .standard out = .ok start := by
  refine ⟨?_, ?_, ?_, consumed_of_history history, ?_⟩
  · have ends := @Format.terminates_iff_types .standard reached.segments
    simp only [encode_standard_eq_ok_iff, isByte, and_self, true_and, exists_and_left, exists_eq',
      and_true]
    exact ends
  · exact fun consumed => encode_congr rfl _
  · intro out written
    refine ⟨_, read_of_encode_standard written, rfl, ?_⟩
    rw [← encodedSize_eq, eq_comm]
    cases reached
    simp
  · exact fun bytes run => exists_encode_of_read_standard run isByte

/-- A segment of three bytes is put in front of a document of twelve, and the number of bytes is set to
what it should be. -/
theorem round_trip_of_history_sample :
    ([.insert 0 ⟨0xFFE1, 3⟩, .setConsumed 17] : List Edit).foldlM edit ⟨Format.Sample.segments, 12⟩ =
        some ⟨⟨0xFFE1, 3⟩ :: Format.Sample.segments, 17⟩ ∧
      ∃ out, encode ⟨⟨0xFFE1, 3⟩ :: Format.Sample.segments, 17⟩ { fill := 255 } = .ok out ∧
        read .standard out = .ok ⟨⟨0xFFE1, 3⟩ :: Format.Sample.segments, 17⟩ := by
  have history : ([.insert 0 ⟨0xFFE1, 3⟩, .setConsumed 17] : List Edit).foldlM edit
      ⟨Format.Sample.segments, 12⟩ = some ⟨⟨0xFFE1, 3⟩ :: Format.Sample.segments, 17⟩ := rfl
  have isByte : (0 : Int) ≤ 255 ∧ (255 : Int) ≤ 255 := by decide
  obtain ⟨written, _, again, _⟩ := round_trip_of_history history isByte
  obtain ⟨out, run⟩ := written.mpr (by decide)
  obtain ⟨document, read, _, same⟩ := again out run
  exact ⟨history, out, run, by rw [read, same.mpr (by decide)]⟩

end Document

end ByteGrammar
