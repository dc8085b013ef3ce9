import ByteGrammar.Binary64
import ByteGrammar.Text.Numeral
import ByteGrammar.Validation.Issue

/-!
# Raw data

Models are made from raw data: numbers, texts, lists and records whose fields are
named. Each piece of raw data can be read as an integer or as a truth value by a fixed
rule, and data that cannot be read says why.

Numbers are integers of any size or real numbers of the 64-bit binary format. A real
number without a fraction stands for its integer if that is less than `2 ^ 63` in size.
-/

set_option autoImplicit false

namespace ByteGrammar

/-- Raw data, before anything is known about its meaning. -/
inductive Datum
  | null
  | boolean (value : Bool)
  | integer (value : Int)
  | real (value : Binary64)
  | text (value : String)
  | list (items : List Datum)
  | record (fields : List (String × Datum))
  deriving Inhabited

namespace Datum

/-- The least power of two that no integer of 64 bits reaches. -/
def wholeLimit : Int := 9223372036854775808

/-- The integer that a real number stands for, if it lies between the two limits. -/
def wholeReal : Binary64 → Except Issue.Cause Int
  | .infinite => .error .infinite
  | .finite units exponent =>
    match Binary64.whole? units exponent with
    | none => .error .fractional
    | some number =>
      if -wholeLimit < number ∧ number < wholeLimit then .ok number else .error .tooLargeInteger

/-- The integer that raw data stands for: an integer, a truth value as 1 or 0, a real number
whose fraction is zero, or a text that spells an integer. -/
def toInteger : Datum → Except Issue.Cause Int
  | .integer value => .ok value
  | .boolean value => .ok (if value then 1 else 0)
  | .real value => wholeReal value
  | .text value =>
    match Numeral.readInteger value with
    | .ok number => .ok number
    | .error .unreadable => .error .unreadableInteger
    | .error .tooLong => .error .tooLargeInteger
  | .null | .list _ | .record _ => .error .notInteger

/-- The words for true, in small letters. -/
def trueWords : List String :=
  ["1", "true", "t", "yes", "y", "on"]

/-- The words for false, in small letters. -/
def falseWords : List String :=
  ["0", "false", "f", "no", "n", "off"]

/-- The truth value that a word names, in letters of either case. -/
def booleanWord? (word : String) : Option Bool :=
  let small := word.map Char.toLower
  if trueWords.contains small then some true
  else if falseWords.contains small then some false
  else none

/-- The truth value that a number names: 1 or 0. -/
def booleanNumber? (number : Int) : Option Bool :=
  if number = 1 then some true
  else if number = 0 then some false
  else none

/-- The truth value that raw data stands for: itself, the numbers 1 and 0, or one of the
words for them. A number that is no integer of 64 bits names none. -/
def toBoolean : Datum → Except Issue.Cause Bool
  | .boolean value => .ok value
  | .integer value =>
    if -wholeLimit ≤ value ∧ value < wholeLimit then named (booleanNumber? value)
    else .error .notBoolean
  | .real value =>
    match wholeReal value with
    | .ok number => named (booleanNumber? number)
    | .error _ => .error .notBoolean
  | .text value => named (booleanWord? value)
  | .null | .list _ | .record _ => .error .notBoolean
where
  /-- A truth value that was named, or the cause that none was. -/
  named : Option Bool → Except Issue.Cause Bool
    | some value => .ok value
    | none => .error .unreadableBoolean

end Datum

end ByteGrammar
