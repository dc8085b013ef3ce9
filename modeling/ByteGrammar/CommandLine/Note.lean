/-!
# Notes

What a verbose run tells while it works, one line for each note. A line starts with
the weight of the note and the part of the program it comes from.
-/

set_option autoImplicit false

namespace ByteGrammar

/-- Something worth telling while a request is answered. -/
inductive Note
  | loaded (size : Nat) (path : String)
  | parsed (segments : Nat) (consumed : Int) (size : Nat)
  | rejected (remainder attemptedAt size : Nat)
  | wrote (segments : Nat) (path : String)
  deriving DecidableEq, Repr

namespace Note

/-- The line of a note. -/
def render : Note → String
  | .loaded size path => s!"DEBUG bparse.binary.reader: loaded {size} bytes from {path}\n"
  | .parsed segments consumed size =>
    "DEBUG bparse.binary.reader: " ++
      s!"parsed {segments} segments, consumed {consumed} of {size} bytes\n"
  | .rejected remainder attemptedAt size =>
    "DEBUG bparse.binary.reader: document rejected: " ++
      s!"reported at {remainder}, attempted at {attemptedAt} (of {size} bytes)\n"
  | .wrote segments path => s!"INFO bparse.cli: wrote {segments} segments to {path}\n"

/-- The lines of the notes of a run, which only a verbose one shows. -/
def shown (verbose : Bool) (notes : List Note) : String :=
  if verbose then String.join (notes.map render) else ""

end Note

end ByteGrammar
