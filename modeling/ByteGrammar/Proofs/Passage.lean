import ByteGrammar.Cursor
import Mathlib.Order.Basic

/-!
# Passing over bytes

What a parser reads are the bytes between the cursor it was given and the cursor it hands
on. Both stand on one buffer, and the bytes are those by which the rest of the buffer
behind the first cursor is longer than the rest behind the second (`Cursor.Passes`).

Cursors are ordered by their positions on one buffer, and cursors on different buffers are
not compared. The order is the form in which parsers are said to move forward only.

The edge of a buffer is met in one place. A cursor is at the end and nothing is left, or a
byte is left, and then both reading it and moving on succeed (`Cursor.atEnd_or_step`).
Statements about parsers need no other fact on single bytes.
-/

set_option autoImplicit false

namespace ByteGrammar

namespace Cursor

/-- A cursor comes before another one on the same buffer. -/
instance : PartialOrder Cursor where
  le first second := second.buffer = first.buffer ∧ first.pos ≤ second.pos
  le_refl _ := ⟨rfl, Nat.le_refl _⟩
  le_trans _ _ _ earlier later := ⟨later.1.trans earlier.1, Nat.le_trans earlier.2 later.2⟩
  le_antisymm _ _ there back := ext_pos back.1 (Nat.le_antisymm there.2 back.2)

/-- A cursor before another one that is not the same cursor stands at a lower position. -/
theorem pos_lt_of_le_of_ne {first second : Cursor} (ahead : first ≤ second)
    (moved : (second == first) = false) : first.pos < second.pos := by
  refine Nat.lt_of_le_of_ne ahead.2 fun same => ?_
  have equal : (second == first) = true := by
    rw [beq_eq_true_iff, ahead.1]
    exact ⟨rfl, same.symm⟩
  rw [equal] at moved
  contradiction

/-- Fewer bytes are left behind a cursor that comes after another one. -/
theorem remaining_lt_of_le_of_ne {first second : Cursor} (ahead : first ≤ second)
    (moved : (second == first) = false) : second.remaining < first.remaining := by
  have further := pos_lt_of_le_of_ne ahead moved
  have inside := second.pos_le_size
  rw [ahead.1] at inside
  rw [remaining, remaining, ahead.1]
  omega

/-- The bytes from a cursor to the end of its buffer. -/
def rest (cur : Cursor) : List UInt8 :=
  cur.buffer.toList.drop cur.pos

@[simp]
theorem length_rest (cur : Cursor) : cur.rest.length = cur.remaining := by
  simp [rest, remaining]

theorem pos_add_length_rest (cur : Cursor) : cur.pos + cur.rest.length = cur.buffer.size := by
  have := cur.pos_le_size
  rw [length_rest, remaining]
  omega

/-- Nothing is left behind a cursor exactly at the last position of its buffer. -/
theorem rest_eq_nil_iff (cur : Cursor) : cur.rest = [] ↔ cur.pos = cur.buffer.toList.length := by
  have whole := cur.pos_add_length_rest
  rw [← List.length_eq_zero_iff, Buffer.length_toList]
  omega

/-- Cursors of one buffer behind which nothing is left stand at the last position. -/
theorem rest_eq_nil_iff_of_buffer_eq {first last : Cursor} (buffer : last.buffer = first.buffer) :
    last.rest = [] ↔ last.pos = first.buffer.size := by
  rw [rest_eq_nil_iff, Buffer.length_toList, buffer]

theorem rest_ne_nil_iff (cur : Cursor) : cur.rest ≠ [] ↔ cur.pos < cur.buffer.toList.length := by
  have inside := cur.pos_le_size
  rw [ne_eq, rest_eq_nil_iff, Buffer.length_toList]
  omega

/-- A buffer has one cursor behind which nothing is left. -/
theorem eq_of_rest_eq_nil {first second : Cursor} (sameBuffer : first.buffer = second.buffer)
    (firstEnds : first.rest = []) (secondEnds : second.rest = []) : first = second := by
  rw [rest_eq_nil_iff] at firstEnds secondEnds
  exact ext_pos sameBuffer (by rw [firstEnds, secondEnds, sameBuffer])

/-- The first byte that is left is the byte at the position of the cursor. -/
theorem head?_rest (cur : Cursor) : cur.rest.head? = cur.buffer.toList[cur.pos]? :=
  List.head?_drop

/-- Going over some bytes leads from one cursor to another one on the same buffer. -/
structure Passes (cur : Cursor) (bytes : List UInt8) (last : Cursor) : Prop where
  buffer_eq : last.buffer = cur.buffer
  rest_eq : cur.rest = bytes ++ last.rest

namespace Passes

variable {cur middle last : Cursor} {bytes first second : List UInt8}

theorem refl (cur : Cursor) : cur.Passes [] cur :=
  ⟨rfl, rfl⟩

theorem trans (start : cur.Passes first middle) (further : middle.Passes second last) :
    cur.Passes (first ++ second) last :=
  ⟨further.buffer_eq.trans start.buffer_eq, by
    rw [start.rest_eq, further.rest_eq, List.append_assoc]⟩

theorem pos_eq (passes : cur.Passes bytes last) : last.pos = cur.pos + bytes.length := by
  have lengths := congrArg List.length passes.rest_eq
  rw [List.length_append] at lengths
  have whole := cur.pos_add_length_rest
  have part := last.pos_add_length_rest
  rw [passes.buffer_eq] at part
  omega

theorem le (passes : cur.Passes bytes last) : cur ≤ last :=
  ⟨passes.buffer_eq, by rw [passes.pos_eq]; omega⟩

/-- The rest behind a cursor can be passed as far as any number of its bytes. -/
theorem of_rest (equal : cur.rest = first ++ second) :
    ∃ last, cur.Passes first last ∧ last.rest = second := by
  have lengths := congrArg List.length equal
  rw [List.length_append] at lengths
  have whole := cur.pos_add_length_rest
  have rest_eq : (cur.buffer.toList.drop (cur.pos + first.length)) = second := by
    rw [← List.drop_drop]
    exact (congrArg (List.drop first.length) equal).trans List.drop_left
  exact ⟨⟨cur.buffer, cur.pos + first.length, by omega⟩,
    ⟨rfl, equal.trans (congrArg (first ++ ·) rest_eq.symm)⟩, rest_eq⟩

/-- A passage can be interrupted anywhere. -/
theorem split (passes : cur.Passes (first ++ second) last) :
    ∃ middle, cur.Passes first middle ∧ middle.Passes second last := by
  obtain ⟨middle, start, rest_eq⟩ :=
    of_rest (passes.rest_eq.trans (List.append_assoc first second last.rest))
  exact ⟨middle, start, passes.buffer_eq.trans start.buffer_eq.symm, rest_eq⟩

/-- Passages over equally many bytes end at the same cursor. -/
theorem last_eq {other : Cursor} (passes : cur.Passes first last)
    (again : cur.Passes second other) (lengths : first.length = second.length) :
    last = other :=
  ext_pos (passes.buffer_eq.trans again.buffer_eq.symm) (by
    rw [passes.pos_eq, again.pos_eq, lengths])

/-- The bytes of a passage are those between the positions of its two cursors. -/
theorem iff_extract :
    cur.Passes bytes last ↔
      cur ≤ last ∧ cur.buffer.toList.extract cur.pos last.pos = bytes := by
  constructor
  · intro passes
    refine ⟨passes.le, ?_⟩
    rw [List.extract_eq_take_drop, passes.pos_eq, Nat.add_sub_cancel_left]
    exact (congrArg (List.take bytes.length) passes.rest_eq).trans List.take_left
  · rintro ⟨ahead, rfl⟩
    refine ⟨ahead.1, ?_⟩
    rw [rest, rest, ahead.1, List.extract_eq_take_drop]
    have split := List.take_append_drop (last.pos - cur.pos) (cur.buffer.toList.drop cur.pos)
    rw [List.drop_drop, Nat.add_sub_cancel' ahead.2] at split
    exact split.symm

end Passes

/-- One byte is passed from a position to the next one, if it is the byte that stands there. -/
theorem passes_byte_iff {cur last : Cursor} {byte : UInt8} :
    cur.Passes [byte] last ↔
      (last.buffer = cur.buffer ∧ last.pos = cur.pos + 1) ∧
        cur.buffer.toList[cur.pos]? = some byte := by
  constructor
  · intro passes
    refine ⟨⟨passes.buffer_eq, passes.pos_eq⟩, ?_⟩
    rw [← head?_rest, passes.rest_eq]
    rfl
  · rintro ⟨⟨buffer, position⟩, found⟩
    refine ⟨buffer, ?_⟩
    rw [rest, rest, buffer, position, List.drop_eq_getElem?_toList_append, found]
    rfl

/-- A cursor is at the end of its buffer, or a byte follows that can be read and passed. -/
theorem atEnd_or_step (cur : Cursor) :
    (cur.atEnd = true ∧ cur.rest = []) ∨
      ∃ byte next, cur.atEnd = false ∧ cur.current = .ok byte ∧ cur.advance = .ok next ∧
        cur.Passes [byte] next := by
  by_cases inside : cur.pos < cur.buffer.size
  · right
    have found : cur.pos < cur.buffer.bytes.size := inside
    refine ⟨cur.buffer.bytes[cur.pos], ⟨cur.buffer, cur.pos + 1, inside⟩, ?_, ?_, ?_, rfl, ?_⟩
    · simp [atEnd, inside]
    · simp [current, found]
    · simp [advance, inside]
    · simp only [rest, Buffer.toList]
      rw [List.drop_eq_getElem_cons (by simpa using found)]
      rfl
  · left
    have ended : cur.buffer.size ≤ cur.pos := Nat.le_of_not_lt inside
    refine ⟨by simp [atEnd, ended], ?_⟩
    rw [rest, List.drop_eq_nil_iff, Buffer.length_toList]
    exact ended

end Cursor

end ByteGrammar
