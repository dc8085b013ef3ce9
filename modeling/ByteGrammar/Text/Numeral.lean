import ByteGrammar.Text.Blank

/-!
# Integers in text

The spellings of an integer that raw data may use. A plain spelling is an optional minus
sign and digits, with a zero in front only if it is the whole number, and it has no more
than `maxDigits` of them.

Other spellings are read by first taking away the parts that add nothing (`core?`).
Blanks around a text do not count, a plus sign may stand in front of anything but a minus
sign, and a point followed by zeros may stand at the end. Zeros in front, or right after
a minus sign in front, are passed over together with the underscores among them, up to
the first other digit or minus sign. Then single underscores between two other characters
are left out, and what remains has to be a plain spelling.

A text that starts with too many digits, as it is given, is reported as too long whatever
follows them. A text of which that is true only after something was taken away is just no
spelling.

Integers with more digits than that are not written either. A sentence that is to hold
one gives way to a sentence about the limit (`sentence`).
-/

set_option autoImplicit false

namespace ByteGrammar

namespace Numeral

/-- Why a text spells no integer. -/
inductive Problem
  /-- The text is no spelling of an integer. -/
  | unreadable
  /-- The text starts with too many digits. -/
  | tooLong
  deriving DecidableEq, Repr

/-- The greatest number of digits of an integer in text. -/
def maxDigits : Nat := 4300

/-- Whether a character is one of the ten ASCII digits. -/
def isDigit (char : Char) : Bool :=
  '0' ≤ char && char ≤ '9'

/-! ## Parts that add nothing -/

/-- A text without a plus sign in front of it. -/
def withoutPlus? : List Char → Option (List Char)
  | '+' :: '-' :: _ => none
  | '+' :: rest => some rest
  | text => some text

/-- The part of a text that follows zeros, given the last character passed over: it starts
with another digit or a minus sign, or is the last zero alone or before a point. -/
def afterZeros? (last : Char) : List Char → Option (List Char)
  | [] => some [last]
  | char :: rest =>
    if char = '0' ∨ char = '_' then afterZeros? char rest
    else if isDigit char ∨ char = '-' then some (char :: rest)
    else if char = '.' then some (last :: char :: rest)
    else none

/-- A text without the zeros in front of its number. -/
def withoutZeros? : List Char → Option (List Char)
  | [] => none
  | char :: rest =>
    if char = '0' then afterZeros? char rest
    else if isDigit char then some (char :: rest)
    else none

/-- A text without a point and zeros at its end. -/
def withoutFraction (text : List Char) : List Char :=
  match text.dropWhile (· != '.') with
  | _ :: digit :: digits =>
    if digit = '0' ∧ digits.all (· == '0') then text.takeWhile (· != '.') else text
  | _ => text

/-- Whether every underscore stands between two other characters. It is known of the
character in front whether it is there and no underscore. -/
def isSpaced (afterOther : Bool) : List Char → Bool
  | [] => afterOther
  | char :: rest => if char = '_' then afterOther && isSpaced false rest else isSpaced true rest

/-- A text without its underscores, if each of them stands between two other characters, and
otherwise the text as it is. -/
def withoutUnderscores (text : List Char) : List Char :=
  if isSpaced false text then text.filter (· != '_') else text

/-- A text with an optional minus sign in front, without all the parts of it that add nothing
to its integer. -/
def core? (text : List Char) : Option (List Char) := do
  match ← withoutPlus? (Blank.trim text) with
  | '-' :: rest => return '-' :: (← number? rest)
  | rest => number? rest
where
  /-- The same for a text without a sign. -/
  number? (text : List Char) : Option (List Char) :=
    (withoutZeros? text).map fun number => withoutUnderscores (withoutFraction number)

/-! ## Values -/

/-- The number that digits spell after a number that was read before them. -/
def valueOfDigits (number : Nat) : List Char → Nat
  | [] => number
  | digit :: rest => valueOfDigits (10 * number + (digit.toNat - '0'.toNat)) rest

/-- The natural number that a text of digits spells. -/
def readUnsigned (text : List Char) : Except Problem Nat :=
  let digits := text.takeWhile isDigit
  if digits.head? = some '0' then
    if text.length = 1 then .ok 0 else .error .unreadable
  else if maxDigits < digits.length then
    .error .tooLong
  else if digits.isEmpty || digits.length < text.length then
    .error .unreadable
  else
    .ok (valueOfDigits 0 digits)

/-- The integer that a plain spelling stands for. -/
def readSigned : List Char → Except Problem Int
  | '-' :: digits => (readUnsigned digits).map fun number => -(number : Int)
  | digits => (readUnsigned digits).map Int.ofNat

/-- The integer that a text spells without the parts that add nothing. -/
def readCore (text : List Char) : Except Problem Int :=
  match (core? text).map readSigned with
  | some (.ok value) => .ok value
  | _ => .error .unreadable

/-- The integer a text spells. -/
def readInteger (text : String) : Except Problem Int :=
  match readSigned text.toList with
  | .error .unreadable => readCore text.toList
  | answer => answer

/-! ## Writing -/

/-- The least natural number that has too many digits. -/
def limit : Nat := Nat.pow 10 maxDigits

/-- Whether an integer has too many digits to be written. -/
def isTooLong (value : Int) : Bool :=
  limit ≤ value.natAbs

/-- What is said in place of an integer with too many digits. -/
def limitText : String :=
  s!"Exceeds the limit ({maxDigits} digits) for integer string conversion; " ++
    "use sys.set_int_max_str_digits() to increase the limit"

/-- A sentence about an integer, from what stands before and after its digits. -/
def sentence (before : String) (value : Int) (after : String := "") : String :=
  if isTooLong value then limitText else before ++ toString value ++ after

end Numeral

end ByteGrammar
