import ByteGrammar.Document.Reading
import ByteGrammar.Proofs.DocumentGrammar

/-!
# What reading comes to

Reading some data applies the grammar of a format before the first byte. It has two ends.
Either a document stands there, and reading gives its segments and its size
(`Document.read_eq_ok_iff`), or the data is rejected. The third end that its type allows,
a fault, is never met (`Document.read_ends_cleanly`), although every step on the way could
end in one: a cursor that leaves its buffer, a negative count, a number that is no byte, and
the checks of the segments and of the document itself.
-/

set_option autoImplicit false

namespace ByteGrammar

namespace Format.StandsAt

variable {format : Format} {data : List UInt8} {first last : Nat} {segments : List Segment}

/-- A document takes two bytes for the start marker, and the bytes of its segments. -/
theorem last_eq (stands : format.StandsAt data first segments last) :
    last = first + 2 + Segment.totalSize segments := by
  obtain ⟨body, between, repeated⟩ := stands.stored
  have lengths := congrArg List.length between
  rw [List.length_append, Word.length_bytes, Segment.length_of_repeated repeated,
    List.extract_eq_take_drop, List.length_take, List.length_drop] at lengths
  have := stands.first_le_last
  have := stands.last_le
  omega

theorem segments_ne_nil (stands : format.StandsAt data first segments last) : segments ≠ [] := by
  obtain ⟨front, closing, rfl, _⟩ := stands.terminates
  exact List.append_ne_nil_of_right_ne_nil front (List.cons_ne_nil closing [])

/-- No document is shorter than a start marker and the head of one segment. -/
theorem first_add_six_le (stands : format.StandsAt data first segments last) :
    first + 6 ≤ last := by
  rw [stands.last_eq]
  cases segments with
  | nil => exact absurd rfl stands.segments_ne_nil
  | cons segment segments =>
    rw [Segment.totalSize, Segment.size]
    omega

end Format.StandsAt

/-- At the front of some data a document stands as its start marker and its segments, with
further bytes behind it where the format allows them. -/
theorem Format.standsAt_zero_iff {format : Format} {data : List UInt8} {segments : List Segment}
    {last : Nat} :
    format.StandsAt data 0 segments last ↔
      ∃ body tail, data = Word.bytes format.start ++ body ++ tail ∧
        Repeated Segment.Stored segments body ∧ format.Terminates segments ∧
        last = 2 + body.length ∧ (format.requireEnd = true → tail = []) := by
  constructor
  · intro stands
    obtain ⟨body, front, repeated⟩ := stands.stored
    have size := stands.last_eq
    rw [← Segment.length_of_repeated repeated, Nat.zero_add] at size
    rw [List.extract_eq_take_drop, List.drop_zero, Nat.sub_zero] at front
    refine ⟨body, data.drop last, ?_, repeated, stands.terminates, size, fun wanted => ?_⟩
    · rw [← front, List.take_append_drop]
    · rw [stands.ended wanted, List.drop_length]
  · rintro ⟨body, tail, rfl, repeated, terminates, rfl, ended⟩
    have length := Word.length_bytes_append format.start body
    refine ⟨terminates, Nat.zero_le _, ?_, ⟨body, ?_, repeated⟩, fun wanted => ?_⟩
    · rw [List.length_append, length]
      exact Nat.le_add_right _ _
    · rw [List.extract_eq_take_drop, List.drop_zero, Nat.sub_zero, ← length, List.take_left]
    · rw [ended wanted, List.append_nil, length]

namespace Document

variable {format : Format} {bytes : List UInt8} {document : Document}

/-- Reading hands on what the grammar answers before the first byte. The check of the
document never refuses it, since a position is not negative. -/
theorem read_eq (format : Format) (bytes : List UInt8) :
    read format bytes =
      match format.grammar (Buffer.ofList bytes).start with
      | .error fault => .error (.fault fault)
      | .ok (.failure remainder attemptedAt) => .error (.rejected remainder.pos attemptedAt.pos)
      | .ok (.success segments remainder) => .ok ⟨segments, remainder.pos⟩ := by
  rcases answer : format.grammar (Buffer.ofList bytes).start with fault | ⟨segments, last⟩ | _
  · simp only [read, format.document_eq, answer]
  · simp only [read, format.document_eq, answer, ofParts_natCast, Checked.orFault]
  · simp only [read, format.document_eq, answer]

/-- **Reading gives a document exactly where one stands at the front of the data.** -/
theorem read_eq_ok_iff :
    read format bytes = .ok document ↔
      ∃ last : Nat, format.StandsAt bytes 0 document.segments last ∧ document.consumed = last := by
  have accepts : ∀ segments last,
      format.grammar (Buffer.ofList bytes).start = .ok (.success segments last) ↔
        last.buffer = .ofList bytes ∧ format.StandsAt bytes 0 segments last.pos := by
    intro segments last
    rw [format.grammar_eq_success_iff_standsAt]
    simp only [Buffer.start, Buffer.toList_ofList]
  rw [read_eq]
  constructor
  · intro run
    split at run
    · cases run
    · cases run
    · next segments last answer =>
      cases run
      exact ⟨last.pos, ((accepts segments last).mp answer).2, rfl⟩
  · rintro ⟨last, stands, consumed⟩
    have inside : last ≤ (Buffer.ofList bytes).size := by simpa using stands.last_le
    have answer := (accepts document.segments ⟨.ofList bytes, last, inside⟩).mpr ⟨rfl, stands⟩
    simp only [answer, ← consumed]

/-- The number of bytes that a document was read from is the size of what it is written as. -/
theorem consumed_of_read (run : read format bytes = .ok document) :
    document.consumed = document.encodedSize := by
  obtain ⟨last, stands, consumed⟩ := read_eq_ok_iff.mp run
  rw [consumed, stands.last_eq, encodedSize, Nat.zero_add]

/-- Reading in terms of the bytes: the start marker, the segments in their stored form, and
what is behind them. -/
theorem read_eq_ok_iff_append :
    read format bytes = .ok document ↔
      ∃ body tail, bytes = Word.bytes format.start ++ body ++ tail ∧
        Repeated Segment.Stored document.segments body ∧ format.Terminates document.segments ∧
        document.consumed = (2 + body.length : Nat) ∧ (format.requireEnd = true → tail = []) := by
  simp only [read_eq_ok_iff, Format.standsAt_zero_iff]
  constructor
  · rintro ⟨last, ⟨body, tail, bytes_eq, repeated, terminates, rfl, ended⟩, consumed⟩
    exact ⟨body, tail, bytes_eq, repeated, terminates, consumed, ended⟩
  · rintro ⟨body, tail, bytes_eq, repeated, terminates, consumed, ended⟩
    exact ⟨_, ⟨body, tail, bytes_eq, repeated, terminates, rfl, ended⟩, consumed⟩

/-- Data that is not a document is rejected as a whole, with an attempt inside the data. -/
theorem read_cases (format : Format) (bytes : List UInt8) :
    (∃ document, read format bytes = .ok document) ∨
      ∃ attemptedAt, read format bytes = .error (.rejected 0 attemptedAt) ∧
        attemptedAt ≤ bytes.length := by
  rw [read_eq]
  rcases format.forward_grammar.cases (Buffer.ofList bytes).start with
    ⟨segments, last, run, _⟩ | ⟨reported, attempted, run, ahead, further⟩
  · rw [run]
    exact .inl ⟨_, rfl⟩
  · have anchored := format.eq_of_grammar_eq_failure run
    have inside := attempted.pos_le_size
    rw [further.1, ahead.1, Buffer.start, Buffer.size_ofList] at inside
    rw [run, anchored]
    exact .inr ⟨attempted.pos, rfl, inside⟩

/-- **Malformed data is never met with anything but a rejection.** The grammar of a format
can be built and answers at every cursor without a fault. Reading gives a document within
the data, or rejects the data at its front. -/
theorem read_ends_cleanly (format : Format) :
    (∃ grammar, format.document = .ok grammar ∧ ∀ cur fault, grammar cur ≠ .error fault) ∧
      ∀ bytes : List UInt8,
        (∃ document, read format bytes = .ok document ∧ document.segments ≠ [] ∧
          (∀ segment ∈ document.segments,
            segment.type.toNat ≤ 65535 ∧ segment.length.toNat ≤ 65535) ∧
          6 ≤ document.consumed ∧ document.consumed ≤ bytes.length) ∨
        ∃ attemptedAt, read format bytes = .error (.rejected 0 attemptedAt) ∧
          attemptedAt ≤ bytes.length := by
  refine ⟨⟨format.grammar, format.document_eq, fun cur fault run => ?_⟩, fun bytes => ?_⟩
  · obtain ⟨outcome, answer, _⟩ := format.forward_grammar cur
    rw [answer] at run
    cases run
  · refine (read_cases format bytes).imp_left ?_
    rintro ⟨document, run⟩
    obtain ⟨last, stands, consumed⟩ := read_eq_ok_iff.mp run
    have least := stands.first_add_six_le
    have inside := stands.last_le
    refine ⟨document, run, stands.segments_ne_nil, fun segment _ => ?_, by omega, by omega⟩
    exact ⟨Nat.le_of_lt_succ segment.type.toNat_lt_size,
      Nat.le_of_lt_succ segment.length.toNat_lt_size⟩

end Document

end ByteGrammar
