import ByteGrammar.Document.Format
import ByteGrammar.Document.Basic
import ByteGrammar.Proofs.Recognition
import Mathlib.Algebra.Ring.Nat

/-!
# The stored form of documents

What a document looks like in data, said without any parser. A segment is stored as its
type, its length and as many payload bytes as the length announces, whatever they are
(`Segment.Stored`). A document is stored as the start marker and its segments, of which the
last one and no other has the terminal type (`Format.StandsAt`).

The form leaves the payloads open and nothing else. Which bytes these are depends on the
segments alone (`Segment.inPayload`), and two stored forms of the same segments agree at all
other bytes (`Segment.getElem?_encode`). In the other direction, bytes are the stored form of at
most one list of segments (`Segment.eq_of_repeated`).
-/

set_option autoImplicit false

namespace ByteGrammar

namespace Segment

/-- The bytes of a segment: its type, its length, and a payload of as many bytes as the
length announces. -/
def Stored (segment : Segment) (bytes : List UInt8) : Prop :=
  ∃ payload : List UInt8, payload.length = segment.payloadLength ∧
    bytes = Word.bytes segment.type ++ Word.bytes segment.length ++ payload

variable {segment : Segment} {segments : List Segment} {bytes : List UInt8}

theorem Stored.length_eq (stored : segment.Stored bytes) : bytes.length = segment.size := by
  obtain ⟨payload, length, rfl⟩ := stored
  simp [size, length]
  omega

theorem not_stored_nil (segment : Segment) : ¬ segment.Stored [] := by
  intro stored
  have length := stored.length_eq
  rw [size, List.length_nil] at length
  omega

theorem stored_encode (fill : UInt8) (segment : Segment) : segment.Stored (encode fill segment) :=
  ⟨List.replicate segment.payloadLength fill, List.length_replicate, rfl⟩

theorem repeated_encode (fill : UInt8) (segments : List Segment) :
    Repeated Stored segments (segments.flatMap (encode fill)) := by
  induction segments with
  | nil => exact .nil
  | cons segment segments ih => exact .cons (stored_encode fill segment) ih

theorem length_of_repeated (stored : Repeated Stored segments bytes) :
    bytes.length = totalSize segments := by
  induction stored with
  | nil => rfl
  | cons here _ ih => rw [List.length_append, here.length_eq, ih, totalSize]

/-- The total size as a sum over the segments. -/
theorem totalSize_eq_sum (segments : List Segment) :
    totalSize segments = (segments.map fun segment => 4 + segment.payloadLength).sum := by
  induction segments with
  | nil => rfl
  | cons segment segments ih => rw [totalSize, ih, size, List.map_cons, List.sum_cons]

/-! ## Rows of segments -/

/-- Some segments fill the data between two positions, one after the other. -/
structure RowAt (data : List UInt8) (first : Nat) (segments : List Segment) (last : Nat) : Prop where
  first_le_last : first ≤ last
  last_le : last ≤ data.length
  stored : Repeated Stored segments (data.extract first last)

variable {others : List Segment} {another : Segment} {further rest more data : List UInt8}
variable {first last finish : Nat}

/-- A row of segments is what is passed between two cursors. -/
theorem rowAt_iff_passes {cur finish : Cursor} (sameBuffer : finish.buffer = cur.buffer) :
    RowAt cur.buffer.toList cur.pos segments finish.pos ↔
      ∃ bytes, cur.Passes bytes finish ∧ Repeated Stored segments bytes := by
  constructor
  · rintro ⟨forward, _, stored⟩
    exact ⟨_, Cursor.Passes.iff_extract.mpr ⟨⟨sameBuffer, forward⟩, rfl⟩, stored⟩
  · rintro ⟨bytes, passes, stored⟩
    obtain ⟨ahead, rfl⟩ := Cursor.Passes.iff_extract.mp passes
    have inside := finish.pos_le_size
    rw [sameBuffer, ← Buffer.length_toList] at inside
    exact ⟨ahead.2, inside, stored⟩

/-- A row in the data of a buffer ends at a cursor on that buffer. -/
theorem RowAt.exists_cursor {buffer : Buffer}
    (row : RowAt buffer.toList first segments last) :
    ∃ finish : Cursor, finish.buffer = buffer ∧ finish.pos = last :=
  ⟨⟨buffer, last, by simpa using row.last_le⟩, rfl, rfl⟩

/-- A row takes the bytes of its segments. -/
theorem RowAt.last_eq (row : RowAt data first segments last) :
    last = first + totalSize segments := by
  have length := length_of_repeated row.stored
  rw [List.extract_eq_take_drop, List.length_take, List.length_drop] at length
  have := row.first_le_last
  have := row.last_le
  omega

/-- The data goes on with a row, and behind it as it does at the end of the row. -/
theorem RowAt.drop_eq (row : RowAt data first segments last) :
    data.drop first = data.extract first last ++ data.drop last := by
  have halves := List.take_append_drop (last - first) (data.drop first)
  rw [List.drop_drop, Nat.add_sub_cancel' row.first_le_last] at halves
  rw [List.extract_eq_take_drop]
  exact halves.symm

/-- Rows that follow each other are one row. -/
theorem rowAt_append_iff :
    RowAt data first (segments ++ others) last ↔
      ∃ middle, RowAt data first segments middle ∧ RowAt data middle others last := by
  have halves : ∀ {middle}, first ≤ middle → middle ≤ last →
      data.extract first middle ++ data.extract middle last = data.extract first last := by
    intro middle near far
    have both : last - first = (middle - first) + (last - middle) := by omega
    simp only [List.extract_eq_take_drop]
    rw [both, List.take_add, List.drop_drop, Nat.add_sub_cancel' near]
  constructor
  · intro row
    obtain ⟨front, back, whole, stored, further⟩ := row.stored.split
    have inside := row.last_le
    have order := row.first_le_last
    have lengths := congrArg List.length whole
    rw [List.extract_eq_take_drop, List.length_take, List.length_drop, List.length_append]
      at lengths
    have near : first ≤ first + front.length := Nat.le_add_right _ _
    have far : first + front.length ≤ last := by omega
    rw [← halves near far] at whole
    obtain ⟨left, right⟩ := List.append_inj whole (by
      rw [List.extract_eq_take_drop, List.length_take, List.length_drop]
      omega)
    exact ⟨first + front.length, ⟨near, far.trans inside, left.symm ▸ stored⟩,
      ⟨far, inside, right.symm ▸ further⟩⟩
  · rintro ⟨middle, row, further⟩
    refine ⟨row.first_le_last.trans further.first_le_last, further.last_le, ?_⟩
    rw [← halves row.first_le_last further.first_le_last]
    exact row.stored.append further.stored

/-! ### A row is all that stands at its place -/

/-- Bytes begin with at most one segment. -/
theorem Stored.eq_of_append_eq (stored : segment.Stored bytes) (again : another.Stored further)
    (same : bytes ++ rest = further ++ more) : segment = another := by
  obtain ⟨type, length⟩ := segment
  obtain ⟨otherType, otherLength⟩ := another
  obtain ⟨payload, _, rfl⟩ := stored
  obtain ⟨_, _, rfl⟩ := again
  simp only [List.append_assoc] at same
  obtain rfl : type = otherType := Word.eq_of_bytes_append_eq same
  obtain rfl : length = otherLength := Word.eq_of_bytes_append_eq (List.append_cancel_left same)
  rfl

/-- Bytes are filled by at most one row of segments. -/
theorem eq_of_repeated (stored : Repeated Stored segments bytes)
    (again : Repeated Stored others bytes) : segments = others := by
  induction stored generalizing others with
  | nil =>
    cases others with
    | nil => rfl
    | cons other others =>
      have length := length_of_repeated again
      rw [List.length_nil, totalSize, size] at length
      omega
  | @cons segment segments first rest here row ih =>
    cases others with
    | nil =>
      have length := length_of_repeated again
      rw [List.length_append, here.length_eq, totalSize, size] at length
      omega
    | cons other others =>
      obtain ⟨front, back, same, there, back⟩ := repeated_cons_iff.mp again
      obtain rfl := here.eq_of_append_eq there same
      obtain ⟨_, rfl⟩ := List.append_inj same (here.length_eq.trans there.length_eq.symm)
      rw [ih back]

theorem RowAt.segments_eq (row : RowAt data first segments last)
    (again : RowAt data first others last) : segments = others :=
  eq_of_repeated row.stored again.stored

/-- At most one segment begins at a position. -/
theorem RowAt.singleton_eq (row : RowAt data first [segment] last)
    (again : RowAt data first [another] finish) : segment = another ∧ last = finish := by
  have here := repeated_singleton_iff.mp row.stored
  have there := repeated_singleton_iff.mp again.stored
  obtain rfl := here.eq_of_append_eq there (row.drop_eq.symm.trans again.drop_eq)
  exact ⟨rfl, row.last_eq.trans again.last_eq.symm⟩

/-! ## Payload bytes -/

/-- Whether the byte at an index of some segments in a row belongs to a payload. -/
def inPayload : List Segment → Nat → Bool
  | [], _ => false
  | segment :: segments, index =>
    if index < segment.size then 4 ≤ index else inPayload segments (index - segment.size)

/-- The bytes of one segment, and of the same segment with another payload. -/
theorem Stored.getElem?_encode (stored : segment.Stored bytes) (fill : UInt8) {index : Nat}
    (inside : index < segment.size) :
    (encode fill segment)[index]? = if 4 ≤ index then some fill else bytes[index]? := by
  obtain ⟨payload, length, rfl⟩ := stored
  rw [encode]
  by_cases beyond : 4 ≤ index
  · rw [if_pos beyond, List.getElem?_append_right (by simpa using beyond)]
    refine List.getElem?_replicate_of_lt ?_
    rw [size] at inside
    simp
    omega
  · have near : index < (Word.bytes segment.type ++ Word.bytes segment.length).length := by
      simp only [List.length_append, Word.length_bytes]
      omega
    rw [if_neg beyond, List.getElem?_append_left near, List.getElem?_append_left near]

/-- **Only payload bytes depend on the fill byte.** Segments written again have the fill byte
wherever a payload byte was, and their old bytes everywhere else. -/
theorem getElem?_encode (stored : Repeated Stored segments bytes) (fill : UInt8) {index : Nat}
    (inside : index < bytes.length) :
    (segments.flatMap (encode fill))[index]? =
      if inPayload segments index then some fill else bytes[index]? := by
  induction stored generalizing index with
  | nil => simp at inside
  | @cons segment segments first rest here further ih =>
    have size_eq := here.length_eq
    rw [List.flatMap_cons, inPayload]
    by_cases near : index < segment.size
    · rw [if_pos near, List.getElem?_append_left (by simpa using near),
        List.getElem?_append_left (by omega), here.getElem?_encode fill near]
      simp only [decide_eq_true_eq]
    · rw [List.length_append] at inside
      rw [if_neg near, List.getElem?_append_right (by simpa using near),
        List.getElem?_append_right (by omega), length_encode, size_eq]
      exact ih (by omega)

end Segment

/-! ## Documents -/

namespace Format

/-- The last segment has the terminal type, and no other one has. -/
def Terminates (format : Format) (segments : List Segment) : Prop :=
  ∃ front last, segments = front ++ [last] ∧ last.type = format.terminal ∧
    ∀ segment ∈ front, segment.type ≠ format.terminal

/-- Some segments stand as a document between two positions of some data: the start marker,
then the segments in order, and nothing behind them if the format wants that. -/
structure StandsAt (format : Format) (data : List UInt8) (first : Nat) (segments : List Segment)
    (last : Nat) : Prop where
  terminates : format.Terminates segments
  first_le_last : first ≤ last
  last_le : last ≤ data.length
  stored : ∃ body, data.extract first last = Word.bytes format.start ++ body ∧
    Repeated Segment.Stored segments body
  ended : format.requireEnd = true → last = data.length

end Format

/-- Whether the byte at an index of a stored document belongs to a payload. -/
def Document.inPayload (document : Document) (index : Nat) : Bool :=
  2 ≤ index && Segment.inPayload document.segments (index - 2)

end ByteGrammar
