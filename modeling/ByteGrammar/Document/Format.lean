import ByteGrammar.Segment.Grammar

/-!
# Document formats

A document is a start marker, any number of generic segments and one terminal segment
at its end. A format fixes the two markers, which must differ, and whether bytes may
follow the terminal segment.
-/

set_option autoImplicit false

namespace ByteGrammar

/-- The markers of a document and its attitude to trailing bytes. -/
structure Format where
  start : UInt16
  terminal : UInt16
  /-- Whether the terminal segment must end the data. -/
  requireEnd : Bool
  start_ne_terminal : start ≠ terminal

namespace Format

open ByteGrammar.Parser

/-- The usual markers, with trailing bytes allowed. -/
def standard : Format :=
  ⟨0xFFD8, 0xFFDA, false, by decide⟩

/-- The terminal segment of a format, at the end of the data where the format wants it. -/
def terminalSegment (format : Format) : Except Fault (Parser Segment) := do
  let segment ← Segment.terminal format.terminal.toNat
  if format.requireEnd then
    return segment.bindWith (fun _ => endOfInput) fun last _ => last
  else
    return segment

/-- Read the segments of a document in order, the terminal one last. -/
def document (format : Format) : Except Fault (Parser (List Segment)) := do
  let start ← Segment.startMarker format.start.toNat
  let terminal ← format.terminalSegment
  let body := (many (Segment.generic format.terminal.toNat)).bindWith (fun _ => terminal) appended
  return start.bind fun _ => body

end Format

end ByteGrammar
