import ByteGrammar.Document.Format

/-!
# Formats from raw data

How a format is made from raw data. Its markers are compared only once its fields are
sound.
-/

set_option autoImplicit false

namespace ByteGrammar

/-- A format has two different markers and a flag, each of which may be left at its
standard value. -/
def Format.ofDatum (datum : Datum) : Checked Format := do
  let fields ← Checked.fields "GrammarConfig" datum
  let ((start, terminal), requireEnd) ←
    ((Checked.optional "start_marker" standard.start Checked.word fields).both
        (Checked.optional "terminal_marker" standard.terminal Checked.word fields)).both
      (Checked.optional "require_end" standard.requireEnd Checked.boolean fields)
  if h : start = terminal then
    Checked.refuse .equalMarkers
  else
    return ⟨start, terminal, requireEnd, h⟩

end ByteGrammar
