import ByteGrammar.Text.Printable

/-!
# Quoted text

A text is shown between two marks on one line. The mark is the apostrophe, unless the
text holds an apostrophe and no double quote; then it is the double quote. The mark
and the backslash are escaped by a backslash, line feed, carriage return and tab have
escapes of their own, and a character that is not printable is written as its number
in two, four or eight hexadecimal digits, the fewest that suffice.
-/

set_option autoImplicit false

namespace ByteGrammar

namespace Quoted

def apostrophe : Char := Char.ofNat 0x27

def doubleQuote : Char := Char.ofNat 0x22

def backslash : Char := Char.ofNat 0x5C

/-- The mark that stands around a text. -/
def markFor (text : List Char) : Char :=
  if text.contains apostrophe && !text.contains doubleQuote then doubleQuote else apostrophe

/-- The digits of a number in base sixteen, filled up with zeros to a width. -/
def hexDigits (width number : Nat) : List Char :=
  let body := Nat.toDigits 16 number
  List.replicate (width - body.length) '0' ++ body

/-- How a character is written between two marks. -/
def escape (mark char : Char) : List Char :=
  if char = mark ∨ char = backslash then [backslash, char]
  else if char = '\n' then [backslash, 'n']
  else if char = '\r' then [backslash, 'r']
  else if char = '\t' then [backslash, 't']
  else if Printable.isPrintable char then [char]
  else if char.toNat < 0x100 then backslash :: 'x' :: hexDigits 2 char.toNat
  else if char.toNat < 0x10000 then backslash :: 'u' :: hexDigits 4 char.toNat
  else backslash :: 'U' :: hexDigits 8 char.toNat

/-- A text between its marks. -/
def quote (text : String) : String :=
  let chars := text.toList
  let mark := markFor chars
  String.ofList (mark :: chars.flatMap (escape mark) ++ [mark])

end Quoted

end ByteGrammar
