import ByteGrammar.Text.Digit

/-!
# Words of a command line

A command line is a list of words. Up to the first double dash, a word that starts
with a dash may set flags: by a long name, by the beginning of a long name that no
other flag shares, or by letters run together after a single dash. All other words are
operands, and so are a lone dash, a negative number and an unknown flag with a blank
in it.

Flags never take a value. A long flag with a value attached by an equals sign is
malformed, while an equals sign right after the first of several letters is passed over.
A run of letters that goes on with an unknown one is malformed as a whole.

The words from the first double dash on are operands. The double dash belongs to the
operand before it if that is the word in front, and otherwise to the operand after it. An
operand of its own that is a double dash again has no text.
-/

set_option autoImplicit false

namespace ByteGrammar

/-- A flag: what it stands for, its long name with its dashes, and its letter. -/
structure Flag (φ : Type) where
  meaning : φ
  name : String
  letter : Option Char := none

/-- What a word is to a command with certain flags. -/
inductive Token (φ : Type)
  | operand (text : String)
  /-- A word that sets flags. -/
  | flags (meanings : List φ)
  | unknown
  | malformed
  /-- The beginning of several long names. -/
  | ambiguous
  /-- The first double dash with the words after it, all of which are operands. -/
  | divider (words : List String)

namespace Token

variable {φ : Type}

/-- The flag with a letter. -/
def withLetter (flags : List (Flag φ)) (letter : Char) : Option (Flag φ) :=
  flags.find? fun flag => flag.letter == some letter

/-- A word of letters, after a letter that set the last of some flags. -/
def ofLetters (flags : List (Flag φ)) (meanings : List φ) : List Char → Token φ
  | [] => .flags meanings
  | letter :: letters =>
    match withLetter flags letter with
    | none => .malformed
    | some flag => ofLetters flags (meanings ++ [flag.meaning]) letters

/-- A word of letters that starts with the letter of a flag. An equals sign after it is passed
over if more letters follow. -/
def ofFirstLetter (flags : List (Flag φ)) (flag : Flag φ) : List Char → Token φ
  | '=' :: [] => .malformed
  | '=' :: letters => ofLetters flags [flag.meaning] letters
  | letters => ofLetters flags [flag.meaning] letters

/-- A text without the line end that may close it. -/
def withoutLineEnd (text : List Char) : List Char :=
  if text.getLast? = some '\n' then text.dropLast else text

/-- Whether a word is a negative number in decimal digits of any script, with a point
allowed and with one line end after it allowed. -/
def isNegativeNumber : List Char → Bool
  | '-' :: rest =>
    let number := withoutLineEnd rest
    let whole := number.takeWhile Digit.isDigit
    match number.dropWhile Digit.isDigit with
    | [] => !whole.isEmpty
    | '.' :: fraction => !fraction.isEmpty && fraction.all Digit.isDigit
    | _ => false
  | _ => false

/-- A word that starts with two dashes and is no flag's full name. -/
def ofLongName (flags : List (Flag φ)) (word : String) : Option (Token φ) :=
  let chars := word.toList
  let name := chars.takeWhile (· != '=')
  match flags.filter fun flag => name.isPrefixOf flag.name.toList with
  | [] => none
  | [flag] =>
    some <| if name.length < chars.length then .malformed else .flags [flag.meaning]
  | _ => some .ambiguous

/-- A word before the first double dash. -/
def ofWord (flags : List (Flag φ)) (word : String) : Token φ :=
  match word.toList with
  | '-' :: first :: rest =>
    let recognized :=
      if first = '-' then ofLongName flags word
      else (withLetter flags first).map fun flag => ofFirstLetter flags flag rest
    match flags.find? (fun flag => flag.name == word), recognized with
    | some flag, _ => .flags [flag.meaning]
    | none, some token => token
    | none, none =>
      if isNegativeNumber word.toList || word.toList.contains ' ' then .operand word else .unknown
  | _ => .operand word

/-- The tokens of a command line. -/
def ofWords (flags : List (Flag φ)) : List String → List (Token φ)
  | [] => []
  | "--" :: words => [.divider words]
  | word :: words => ofWord flags word :: ofWords flags words

end Token

/-! ## Gathering -/

/-- Why a command line asks for no command. -/
inductive Usage
  | helpWanted
  | refused
  deriving DecidableEq, Repr

/-- What the words of a command amount to. -/
structure Gathered (φ : Type) where
  /-- The texts of the operands; one without a text was nothing but a double dash. -/
  operands : List (Option String) := []
  flags : List φ := []
  /-- Whether every word was understood. -/
  complete : Bool := true

namespace Gathered

variable {φ : Type}

/-- The text of an operand to which no other double dash belongs. -/
def operandText? (word : String) : Option String :=
  if word = "--" then none else some word

/-- The operands that the words after the first double dash are, when it is known whether the
double dash belongs to an operand in front of it. -/
def operandsAfter (belongsBefore : Bool) : List String → List (Option String)
  | [] => []
  | word :: words =>
    (if belongsBefore then operandText? word else some word) :: words.map operandText?

/-- What is gathered from tokens in order. Help is granted as soon as it is asked for; a
malformed word is refused there. A double dash at the end counts as understood only
right after an operand. -/
def ofTokens (isHelp : φ → Bool) (afterOperand : Bool) (gathered : Gathered φ) :
    List (Token φ) → Except Usage (Gathered φ)
  | [] => .ok gathered
  | .operand text :: rest =>
    ofTokens isHelp true { gathered with operands := gathered.operands ++ [some text] } rest
  | .flags meanings :: rest =>
    if meanings.any isHelp then
      .error .helpWanted
    else
      ofTokens isHelp false { gathered with flags := gathered.flags ++ meanings } rest
  | .unknown :: rest => ofTokens isHelp false { gathered with complete := false } rest
  | .divider words :: rest =>
    ofTokens isHelp false
      { gathered with
        operands := gathered.operands ++ operandsAfter afterOperand words
        complete := gathered.complete && (afterOperand || !words.isEmpty) } rest
  | .malformed :: _ => .error .refused
  | .ambiguous :: _ => .error .refused

/-- Whether a word is the beginning of several long names. -/
def isAmbiguous : Token φ → Bool
  | .ambiguous => true
  | _ => false

/-- What is gathered from the words of a command. An ambiguous word anywhere is refused
before anything else. -/
def ofWords (isHelp : φ → Bool) (flags : List (Flag φ)) (words : List String) :
    Except Usage (Gathered φ) :=
  let tokens := Token.ofWords flags words
  if tokens.any isAmbiguous then .error .refused else ofTokens isHelp false {} tokens

end Gathered

end ByteGrammar
