import ByteGrammar.Buffer
import ByteGrammar.Fault

/-!
# Cursors

A cursor is a position in a buffer, at most one past the last byte. The bound is part
of the type, so every cursor that exists is in bounds, and the two ways of making one
from numbers, `Buffer.cursor` and `Cursor.advance`, say what happens at the edge.

Two cursors are the same when they stand at the same position of the same buffer,
where buffers are told apart by their labels and not by their bytes.
-/

set_option autoImplicit false

namespace ByteGrammar

/-- A position in a buffer, from `0` to the number of its bytes. -/
structure Cursor where
  buffer : Buffer
  pos : Nat
  pos_le_size : pos ≤ buffer.size

/-- The cursor at a position of a buffer, if there is one. -/
def Buffer.cursor (buffer : Buffer) (pos : Int) : Except Fault Cursor :=
  if h : 0 ≤ pos ∧ pos ≤ buffer.size then
    .ok ⟨buffer, pos.toNat, by omega⟩
  else
    .error (.outOfBounds pos buffer.size)

/-- The cursor before the first byte of a buffer. -/
def Buffer.start (buffer : Buffer) : Cursor :=
  ⟨buffer, 0, Nat.zero_le _⟩

namespace Cursor

/-- The number of bytes from a cursor to the end of its buffer. -/
def remaining (cur : Cursor) : Nat :=
  cur.buffer.size - cur.pos

/-- Whether no byte follows a cursor. -/
def atEnd (cur : Cursor) : Bool :=
  cur.buffer.size ≤ cur.pos

/-- The byte that follows a cursor. -/
def current (cur : Cursor) : Except Fault UInt8 :=
  if h : cur.pos < cur.buffer.bytes.size then
    .ok cur.buffer.bytes[cur.pos]
  else
    .error (.readPastEnd cur.pos)

/-- The cursor one byte further on. -/
def advance (cur : Cursor) : Except Fault Cursor :=
  if h : cur.pos < cur.buffer.size then
    .ok ⟨cur.buffer, cur.pos + 1, h⟩
  else
    .error (.advancePastEnd cur.pos)

/-- Cursors are the same at the same position of the same buffer. -/
instance : BEq Cursor where
  beq first second := first.buffer.label == second.buffer.label && first.pos == second.pos

instance : Hashable Cursor where
  hash cur := mixHash (hash cur.buffer.label) (hash cur.pos)

/-- The text of a cursor: its position and the length of its buffer. -/
def render (cur : Cursor) : String :=
  s!"Cursor(pos={cur.pos}, len={cur.buffer.size})"

theorem beq_eq_true_iff (first second : Cursor) :
    (first == second) = true ↔
      first.buffer.label = second.buffer.label ∧ first.pos = second.pos := by
  change (first.buffer.label == second.buffer.label && first.pos == second.pos) = true ↔ _
  simp

/-- Cursors on one buffer are equal when their positions are. -/
theorem ext_pos {first second : Cursor} (hBuffer : first.buffer = second.buffer)
    (hPos : first.pos = second.pos) : first = second := by
  cases first
  cases second
  simp only at hBuffer hPos
  subst hBuffer hPos
  rfl

end Cursor

end ByteGrammar
