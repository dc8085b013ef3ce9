/-!
# Indented data

Numbers, lists and records written as JSON text over several lines. Each item of a
list and each field of a record has a line of its own, two blanks further in than the
brackets around it; an empty list or record stays on one line.
-/

set_option autoImplicit false

namespace ByteGrammar

/-- Data to be written as indented JSON text. Field names are written as they are. -/
inductive Outline
  | number (value : Int)
  | list (items : List Outline)
  | record (fields : List (String × Outline))

namespace Outline

/-- The start of a new line at some depth. -/
def lineAt (depth : Nat) : String :=
  "\n" ++ String.ofList (List.replicate (2 * depth) ' ')

mutual
/-- The text of data whose brackets stand at some depth. -/
def renderAt (depth : Nat) : Outline → String
  | .number value => toString value
  | .list [] => "[]"
  | .list (item :: items) =>
    "[" ++ lineAt (depth + 1) ++ renderAt (depth + 1) item ++ renderItems (depth + 1) items ++
      lineAt depth ++ "]"
  | .record [] => "\x7b\x7d"
  | .record ((name, item) :: fields) =>
    "\x7b" ++ lineAt (depth + 1) ++ "\"" ++ name ++ "\": " ++ renderAt (depth + 1) item ++
      renderFields (depth + 1) fields ++ lineAt depth ++ "\x7d"

/-- The items after the first one of a list. -/
def renderItems (depth : Nat) : List Outline → String
  | [] => ""
  | item :: items => "," ++ lineAt depth ++ renderAt depth item ++ renderItems depth items

/-- The fields after the first one of a record. -/
def renderFields (depth : Nat) : List (String × Outline) → String
  | [] => ""
  | (name, item) :: fields =>
    "," ++ lineAt depth ++ "\"" ++ name ++ "\": " ++ renderAt depth item ++
      renderFields depth fields
end

/-- The text of data. -/
def render (outline : Outline) : String :=
  outline.renderAt 0

end Outline

end ByteGrammar
