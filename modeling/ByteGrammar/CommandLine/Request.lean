import ByteGrammar.CommandLine.Words

/-!
# Requests

What a command line asks for: one of three commands on an input file, and whether to
tell on the way what is being done. `Request.ofWords` reads the request off the words.

The flags before the name of the command belong to the program, those after it to the
command. The name of the command must be written in full.
-/

set_option autoImplicit false

namespace ByteGrammar

/-- A command with its operands and flags. -/
inductive Command
  /-- Print the segments of a document, as lines or as JSON text. -/
  | info (input : String) (json requireEnd : Bool)
  /-- Write a document to a file as JSON text. The output may have been given without a
  text. -/
  | toJson (input : String) (output : Option String) (requireEnd : Bool)
  /-- Draw the chart of a document. -/
  | plot (input : String)
  deriving DecidableEq, Repr

namespace Command

/-- The path of the data a command reads. -/
def input : Command → String
  | .info input _ _ => input
  | .toJson input _ _ => input
  | .plot input => input

/-- Whether a command rejects data with trailing bytes. -/
def requireEnd : Command → Bool
  | .info _ _ requireEnd => requireEnd
  | .toJson _ _ requireEnd => requireEnd
  | .plot _ => false

end Command

/-- A command, and whether to tell what is being done. -/
structure Request where
  verbose : Bool
  command : Command
  deriving DecidableEq, Repr

/-! ## Flags -/

/-- The flags of the program. -/
inductive ProgramFlag
  | help
  | verbose
  deriving DecidableEq, Repr

/-- The flags of the commands. -/
inductive CommandFlag
  | help
  | json
  | requireEnd
  deriving DecidableEq, Repr

def ProgramFlag.all : List (Flag ProgramFlag) :=
  [⟨.help, "--help", some 'h'⟩, ⟨.verbose, "--verbose", some 'v'⟩]

def CommandFlag.helpOnly : List (Flag CommandFlag) :=
  [⟨.help, "--help", some 'h'⟩]

def CommandFlag.withEnd : List (Flag CommandFlag) :=
  helpOnly ++ [⟨.requireEnd, "--require-end", none⟩]

def CommandFlag.withJson : List (Flag CommandFlag) :=
  helpOnly ++ [⟨.json, "--json", none⟩, ⟨.requireEnd, "--require-end", none⟩]

namespace Command

/-- What the words of a command amount to, if all of them are understood. -/
def gather (flags : List (Flag CommandFlag)) (words : List String) :
    Except Usage (Gathered CommandFlag) := do
  let gathered ← Gathered.ofWords (· == .help) flags words
  if gathered.complete then return gathered else throw .refused

/-- The command with a name, from the words after it. -/
def ofWords (name : String) (words : List String) : Except Usage Command :=
  match name with
  | "info" => do
    let gathered ← gather CommandFlag.withJson words
    match gathered.operands with
    | [some input] =>
      return .info input (gathered.flags.contains .json) (gathered.flags.contains .requireEnd)
    | _ => throw .refused
  | "to-json" => do
    let gathered ← gather CommandFlag.withEnd words
    match gathered.operands with
    | [some input, output] => return .toJson input output (gathered.flags.contains .requireEnd)
    | _ => throw .refused
  | "plot" => do
    let gathered ← gather CommandFlag.helpOnly words
    match gathered.operands with
    | [some input] => return .plot input
    | _ => throw .refused
  | _ => throw .refused

end Command

namespace Request

/-- The request of a command line from some word on, when it is known so far whether to be
verbose and whether every word was understood. Words that were not understood are refused
only after the command had its turn, which may grant help. -/
def ofWordsFrom (verbose complete : Bool) : List String → Except Usage Request
  | [] => .error .refused
  | "--" :: _ => .error .refused
  | word :: words =>
    match Token.ofWord ProgramFlag.all word with
    | .operand name =>
      match Command.ofWords name words with
      | .error usage => .error usage
      | .ok command => if complete then .ok ⟨verbose, command⟩ else .error .refused
    | .flags meanings =>
      if meanings.contains .help then
        .error .helpWanted
      else
        ofWordsFrom (verbose || meanings.contains .verbose) complete words
    | .unknown => ofWordsFrom verbose false words
    | .malformed | .ambiguous | .divider _ => .error .refused

/-- The request of a command line. -/
def ofWords (words : List String) : Except Usage Request :=
  if (Token.ofWords ProgramFlag.all words).any Gathered.isAmbiguous then
    .error .refused
  else
    ofWordsFrom false true words

end Request

end ByteGrammar
