/-!
# Hexadecimal text

Two ways of writing numbers and bytes in base sixteen: numbers with capital digits,
bare or filled up with zeros to a width in which a minus sign counts, and byte strings
with two small digits a byte.
-/

set_option autoImplicit false

namespace ByteGrammar

namespace Hexadecimal

/-- The digits of a number, most significant first, in capitals. -/
def digits (number : Nat) : List Char :=
  (Nat.toDigits 16 number).map Char.toUpper

/-- A number in capital digits without leading zeros. -/
def render (number : Nat) : String :=
  String.ofList (digits number)

/-- An integer filled up with zeros, after the sign, to a least width that includes the
sign. -/
def padded (width : Nat) (number : Int) : String :=
  let body := digits number.natAbs
  let sign := if number < 0 then ['-'] else []
  let zeros := List.replicate (width - (sign.length + body.length)) '0'
  String.ofList (sign ++ zeros ++ body)

/-- The small digits of a byte string, two for each byte. -/
def renderBytes (bytes : List UInt8) : String :=
  bytes.foldl
    (fun text byte =>
      (text.push (Nat.digitChar (byte.toNat / 16))).push (Nat.digitChar (byte.toNat % 16)))
    ""

/-- The number that a digit of either case stands for. -/
def digitValue? (char : Char) : Option Nat :=
  if '0' ≤ char ∧ char ≤ '9' then some (char.toNat - '0'.toNat)
  else if 'a' ≤ char ∧ char ≤ 'f' then some (char.toNat - 'a'.toNat + 10)
  else if 'A' ≤ char ∧ char ≤ 'F' then some (char.toNat - 'A'.toNat + 10)
  else none

/-- The loop of `readBytes?`: `bytes` holds the bytes read so far, the latest first. -/
def readBytesFrom : List UInt8 → List Char → Option (List UInt8)
  | bytes, [] => some bytes.reverse
  | _, [_] => none
  | bytes, high :: low :: rest =>
    match digitValue? high, digitValue? low with
    | some first, some second => readBytesFrom (UInt8.ofNat (16 * first + second) :: bytes) rest
    | _, _ => none

/-- Read a byte string back from its digits. -/
def readBytes? (text : String) : Option (List UInt8) :=
  readBytesFrom [] text.toList

end Hexadecimal

end ByteGrammar
