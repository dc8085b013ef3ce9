import ByteGrammar.Parser.Basic

/-!
# Probes

Parsers made by hand that work on the cursor directly. They look at a byte without
reading it, step over one, jump to a position, or fail with two positions of their
choice. Unlike the parsers that combinators build they can meet a fault, move
backwards, and report cursors behind the one they were given.
-/

set_option autoImplicit false

namespace ByteGrammar

namespace Parser

/-- The byte at the cursor, which is not read. -/
def peek : Parser UInt8 :=
  fun cur => cur.current.map fun byte => .success byte cur

/-- Step over one byte. -/
def skip : Parser Unit :=
  fun cur => cur.advance.map fun remainder => .success () remainder

/-- Jump to a position of the buffer. -/
def seek (pos : Int) : Parser Unit :=
  fun cur => (cur.buffer.cursor pos).map fun remainder => .success () remainder

/-- Fail with two positions of the buffer, the reported one first. -/
def failWith {α : Type} (remainder attemptedAt : Int) : Parser α :=
  fun cur =>
    match cur.buffer.cursor remainder with
    | .error fault => .error fault
    | .ok reported => (cur.buffer.cursor attemptedAt).map fun attempted =>
      .failure reported attempted

end Parser

end ByteGrammar
