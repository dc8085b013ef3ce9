import ByteGrammar.Files.Error
import ByteGrammar.Files.Path

/-!
# File trees

A tree of folders and files, with one of its folders as the working folder. A place in
the tree is the list of names from the root to it. Paths are followed name by name
from the root or from the working folder: a double dot leads to the folder above, and
the root is the folder above itself.

Reading and writing meet the same obstacles: a name that is not there, a file where a
folder is wanted or the reverse, and names or paths that are too long. A path to be
written may end in a name that is not there, as long as no slash follows it. A path
with a null character is refused before any of that. A change at one place leaves all
others alone (`lookup_put`).
-/

set_option autoImplicit false

namespace ByteGrammar

/-- What stands at a place of a tree. -/
inductive Entry
  | folder
  | file (bytes : List UInt8)
  deriving DecidableEq, Repr

/-- The names from the root to a place. -/
abbrev Place := List String

/-- A tree of folders and files. Of several entries for one place the first one counts. -/
structure FileTree where
  entries : List (Place × Entry)
  home : Place

namespace FileTree

/-- The greatest length of a name, in bytes. -/
def maxNameSize : Nat := 255

/-- The greatest length of a path, in bytes. -/
def maxPathSize : Nat := 4095

/-! ## Entries -/

/-- What stands at a place; the root is always a folder. -/
def lookup (tree : FileTree) (place : Place) : Option Entry :=
  if place = [] then some .folder else tree.entries.lookup place

/-- The tree with another entry at a place. -/
def put (tree : FileTree) (place : Place) (entry : Entry) : FileTree :=
  { tree with entries := (place, entry) :: tree.entries }

/-- The tree with a file at a place and folders at all places above it. -/
def plant (tree : FileTree) (place : Place) (entry : Entry) : FileTree :=
  let above := (List.range place.length).map fun count => place.take count
  (above.foldl (fun grown place => grown.put place .folder) tree).put place entry

/-! ## Following paths -/

/-- Where a name leads from a place. -/
def enter (tree : FileTree) (place : Place) (name : String) : Except FileError.Kind Place :=
  match tree.lookup place with
  | none => .error .notFound
  | some (.file _) => .error .notFolder
  | some .folder =>
    if name = "" ∨ name = "." then .ok place
    else if name = ".." then .ok place.dropLast
    else if maxNameSize < name.utf8ByteSize then .error .nameTooLong
    else if (tree.lookup (place ++ [name])).isSome then .ok (place ++ [name])
    else .error .notFound

/-- Where several names lead, one after the other. -/
def follow (tree : FileTree) (place : Place) (names : List String) :
    Except FileError.Kind Place :=
  names.foldlM (tree.enter) place

/-- The place from which a path is followed. -/
def origin (tree : FileTree) (path : String) : Place :=
  if Path.isAbsolute path then [] else tree.home

/-! ## Reading and writing -/

/-- What is wrong with a path before any name of it is followed: no path leads nowhere, and
a path that is too long is followed nowhere. -/
def pathProblem? (path : String) : Option FileError.Kind :=
  if path = "" then some .notFound
  else if maxPathSize < path.utf8ByteSize then some .nameTooLong
  else none

/-- The bytes of the file that a path leads to. -/
def contents (tree : FileTree) (path : String) : Except FileError.Kind (List UInt8) :=
  match pathProblem? path with
  | some kind => .error kind
  | none =>
    match tree.follow (tree.origin path) (Path.names path) with
    | .error kind => .error kind
    | .ok place =>
      match tree.lookup place with
      | some (.file bytes) => .ok bytes
      | some .folder => .error .isFolder
      | none => .error .notFound

/-- The place of a name in a folder, if a file may be written there. -/
def placeIn (tree : FileTree) (folder : Place) (name : String) : Except FileError.Kind Place :=
  if maxNameSize < name.utf8ByteSize then
    .error .nameTooLong
  else
    match tree.lookup (folder ++ [name]) with
    | some .folder => .error .isFolder
    | _ => .ok (folder ++ [name])

/-- The place at which a path can be written: that of a file, or one in a folder at which
nothing stands. A path that ends in dots or in a slash names a folder. -/
def writable (tree : FileTree) (path : String) : Except FileError.Kind Place :=
  match pathProblem? path with
  | some kind => .error kind
  | none =>
    let names := Path.names path
    let core := (names.reverse.dropWhile (· == "")).reverse
    match core.getLast? with
    | none => .error .isFolder
    | some name =>
      match tree.follow (tree.origin path) core.dropLast with
      | .error kind => .error kind
      | .ok folder =>
        match tree.lookup folder with
        | none => .error .notFound
        | some (.file _) => .error .notFolder
        | some .folder =>
          if name = "." ∨ name = ".." ∨ core.length < names.length then
            .error .isFolder
          else
            tree.placeIn folder name

/-- Whether a path holds a null character, which no path can. -/
def holdsNull (path : String) : Bool :=
  path.toList.contains '\x00'

/-- The bytes of the file that a path leads to, or the error met on the way. -/
def load (tree : FileTree) (path : String) : Except AccessError (List UInt8) :=
  if holdsNull path then
    .error (.path .nullCharacter)
  else
    match tree.contents path with
    | .ok bytes => .ok bytes
    | .error kind => .error (.file ⟨kind, path⟩)

/-- The tree with other bytes in the file that a path leads to, whether or not the file was
there before. -/
def save (tree : FileTree) (path : String) (bytes : List UInt8) :
    Except AccessError FileTree :=
  if holdsNull path then
    .error (.path .nullCharacter)
  else
    match tree.writable path with
    | .ok place => .ok (tree.put place (.file bytes))
    | .error kind => .error (.file ⟨kind, path⟩)

/-! ## What a change leaves alone -/

/-- After a change at a place other than the root, that place holds the new entry and every
other place holds what it held before. -/
theorem lookup_put (tree : FileTree) {place : Place} (entry : Entry) (hPlace : place ≠ [])
    (other : Place) :
    (tree.put place entry).lookup other =
      if other = place then some entry else tree.lookup other := by
  by_cases hOther : other = place
  · subst hOther
    simp [lookup, put, hPlace]
  · have hBeq : (other == place) = false := by simpa using hOther
    simp [lookup, put, hOther, List.lookup_cons, hBeq]

end FileTree

end ByteGrammar
