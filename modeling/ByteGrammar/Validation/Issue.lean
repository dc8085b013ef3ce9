/-!
# Validation issues

Raw data that does not fit a model is answered with the list of all its issues, in
the order of the fields. An issue says where in the data it was found and what is
wrong there; its code and its sentence are fixed by the cause alone.
-/

set_option autoImplicit false

namespace ByteGrammar

/-- One step from a value into a part of it. -/
inductive Key
  | field (name : String)
  | index (position : Nat)
  deriving DecidableEq, Repr

namespace Issue

/-- What can be wrong with a piece of raw data. -/
inductive Cause
  /-- A required field is absent. -/
  | missing
  /-- Data of a kind that never stands for an integer. -/
  | notInteger
  /-- Text that does not spell an integer. -/
  | unreadableInteger
  /-- Text that spells an integer at too great a length, or a real number whose integer does
  not fit 64 bits. -/
  | tooLargeInteger
  /-- A number with a fraction where an integer is wanted. -/
  | fractional
  /-- An infinite number where an integer is wanted. -/
  | infinite
  /-- An integer below the least one allowed. -/
  | below (least : Int)
  /-- An integer above the greatest one allowed. -/
  | above (greatest : Int)
  /-- Data of a kind that never stands for a truth value. -/
  | notBoolean
  /-- A number or a text that names no truth value. -/
  | unreadableBoolean
  /-- Something else where a list is wanted. -/
  | notList
  /-- Something else where the fields of the named model are wanted. -/
  | notRecord (model : String)
  /-- The two markers of a format are the same word. -/
  | equalMarkers
  /-- A field of a model whose values never change was assigned. -/
  | frozen
  deriving DecidableEq, Repr

/-- The short code of a cause. -/
def Cause.code : Cause → String
  | .missing => "missing"
  | .notInteger => "int_type"
  | .unreadableInteger => "int_parsing"
  | .tooLargeInteger => "int_parsing_size"
  | .fractional => "int_from_float"
  | .infinite => "finite_number"
  | .below _ => "greater_than_equal"
  | .above _ => "less_than_equal"
  | .notBoolean => "bool_type"
  | .unreadableBoolean => "bool_parsing"
  | .notList => "list_type"
  | .notRecord _ => "model_type"
  | .equalMarkers => "value_error"
  | .frozen => "frozen_instance"

/-- The sentence that explains a cause. -/
def Cause.message : Cause → String
  | .missing => "Field required"
  | .notInteger => "Input should be a valid integer"
  | .unreadableInteger => "Input should be a valid integer, unable to parse string as an integer"
  | .tooLargeInteger => "Unable to parse input string as an integer, exceeded maximum size"
  | .fractional => "Input should be a valid integer, got a number with a fractional part"
  | .infinite => "Input should be a finite number"
  | .below least => s!"Input should be greater than or equal to {least}"
  | .above greatest => s!"Input should be less than or equal to {greatest}"
  | .notBoolean => "Input should be a valid boolean"
  | .unreadableBoolean => "Input should be a valid boolean, unable to interpret input"
  | .notList => "Input should be a valid list"
  | .notRecord model => s!"Input should be a valid dictionary or instance of {model}"
  | .equalMarkers => "Value error, start and terminal markers must differ"
  | .frozen => "Instance is frozen"

end Issue

/-- Something wrong at one place of the raw data. -/
structure Issue where
  path : List Key
  cause : Issue.Cause
  deriving DecidableEq, Repr

namespace Issue

/-- The same issue, seen from the value that holds this one under a key. -/
def under (key : Key) (issue : Issue) : Issue :=
  { issue with path := key :: issue.path }

end Issue

end ByteGrammar
