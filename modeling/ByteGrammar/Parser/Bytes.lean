import ByteGrammar.Parser.Basic
import ByteGrammar.Word

/-!
# Bytes and words

`byteMatching` is the only parser that reads a buffer; the others are built from it. A
fixed word is matched as two single bytes, so a mismatch in its second byte is
reported at that byte, while a word under a test is read whole and rejected at its
first byte.

The parsers for a fixed number take any integer and refuse one that is no byte or no
word when they are built.
-/

set_option autoImplicit false

namespace ByteGrammar

namespace Parser

/-! ## Single bytes -/

/-- Read one byte that passes a test. -/
def byteMatching (test : UInt8 → Bool) : Parser UInt8 :=
  fun cur =>
    if cur.atEnd then
      .ok (.failureAt cur)
    else
      match cur.current with
      | .error fault => .error fault
      | .ok byte =>
        if test byte then
          match cur.advance with
          | .error fault => .error fault
          | .ok remainder => .ok (.success byte remainder)
        else
          .ok (.failureAt cur)

/-- Read one byte, whatever it is. -/
def anyByte : Parser UInt8 :=
  byteMatching fun _ => true

/-- Read one byte that equals a number. -/
def byteEqualTo (value : Int) : Except Fault (Parser UInt8) :=
  if 0 ≤ value ∧ value ≤ 255 then
    .ok (byteMatching fun byte => (byte.toNat : Int) == value)
  else
    .error (.byteOutOfRange value)

/-- Succeed only where no byte is left. -/
def endOfInput : Parser Unit :=
  notFollowedBy anyByte

/-! ## Words -/

/-- Read two bytes as the number of a word, the high byte first. -/
def word : Parser Nat :=
  anyByte.bindWith (fun _ => anyByte) Word.ofBytes

/-- Read a word that passes a test. A word that does not pass is reported at its first
byte, and so is a word that is cut short. -/
def wordMatching (test : Nat → Bool) : Parser Nat :=
  fun cur =>
    match word cur with
    | .error fault => .error fault
    | .ok (.failure _ attemptedAt) => .ok (.failure cur attemptedAt)
    | .ok (.success value remainder) =>
      if test value then
        .ok (.success value remainder)
      else
        .ok (.failureAt cur)

/-- Read a word that equals a number, as two single bytes, so that a mismatch in the second
byte is reported there. -/
def wordEqualTo (value : Int) : Except Fault (Parser Nat) :=
  if 0 ≤ value ∧ value ≤ 65535 then do
    let high ← byteEqualTo (value / 256)
    return high.bindWith (fun _ => deferred (byteEqualTo (value % 256)))
      fun _ _ => value.toNat
  else
    .error (.wordOutOfRange value)

end Parser

end ByteGrammar
