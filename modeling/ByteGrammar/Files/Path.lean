/-!
# Paths

A path is a text of names with slashes between them. The usual form of a path drops
empty names and single dots, keeps double dots, and keeps a leading slash, or two of
them if there are exactly two. The usual form of a path without names is a dot.
-/

set_option autoImplicit false

namespace ByteGrammar

namespace Path

/-- The names between the slashes of a text, empty ones included. -/
def names (path : String) : List String :=
  (path.toList.splitOn '/').map String.ofList

/-- The slashes at the front that the usual form keeps. -/
def root (path : String) : String :=
  match path.toList with
  | '/' :: '/' :: '/' :: _ => "/"
  | '/' :: '/' :: _ => "//"
  | '/' :: _ => "/"
  | _ => ""

/-- Whether a path starts at the root and not in the working folder. -/
def isAbsolute (path : String) : Bool :=
  path.startsWith "/"

/-- The usual form of a path. -/
def normalize (path : String) : String :=
  let kept := (names path).filter fun name => name != "" && name != "."
  let text := root path ++ "/".intercalate kept
  if text = "" then "." else text

end Path

end ByteGrammar
