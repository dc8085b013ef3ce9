import ByteGrammar.Text.Quoted

/-!
# File errors

What can go wrong with a file. Most errors are met at the file or on the way to it; they
are a kind of error together with the path that was used, and their text starts with the
number of the kind and shows the path as quoted text. The others are faults of the path
itself, which then leads nowhere at all.
-/

set_option autoImplicit false

namespace ByteGrammar

namespace FileError

/-- The kinds of file errors. -/
inductive Kind
  | notFound
  | notFolder
  | isFolder
  | nameTooLong
  deriving DecidableEq, Repr

/-- The number of a kind. -/
def Kind.number : Kind → Nat
  | .notFound => 2
  | .notFolder => 20
  | .isFolder => 21
  | .nameTooLong => 36

/-- The sentence of a kind. -/
def Kind.sentence : Kind → String
  | .notFound => "No such file or directory"
  | .notFolder => "Not a directory"
  | .isFolder => "Is a directory"
  | .nameTooLong => "File name too long"

end FileError

/-- A file error and the path at which it was met. -/
structure FileError where
  kind : FileError.Kind
  path : String
  deriving DecidableEq, Repr

/-- The text of a file error. -/
def FileError.message (error : FileError) : String :=
  s!"[Errno {error.kind.number}] {error.kind.sentence}: " ++ Quoted.quote error.path

/-- What can be wrong with a path itself. -/
inductive PathFault
  /-- The path holds a null character. -/
  | nullCharacter
  /-- No text was given for the path. -/
  | noText
  deriving DecidableEq, Repr

/-- The text of a fault of a path. -/
def PathFault.message : PathFault → String
  | .nullCharacter => "embedded null byte"
  | .noText => "expected str, bytes or os.PathLike object, not list"

/-- Why a file cannot be read or written. -/
inductive AccessError
  | file (error : FileError)
  | path (fault : PathFault)
  deriving DecidableEq, Repr

end ByteGrammar
