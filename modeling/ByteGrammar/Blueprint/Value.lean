import ByteGrammar.Segment.Basic
import ByteGrammar.Text.Quoted

/-!
# Values of described parsers

A parser that is described as data yields values of one type: nothing, an integer, a
text, a tuple of values, or a segment. Values are equal when they are built alike, and
each has one text.
-/

set_option autoImplicit false

namespace ByteGrammar

/-- What a described parser can yield. -/
inductive Value
  | unit
  | integer (value : Int)
  | text (value : String)
  | tuple (items : List Value)
  | segment (value : Segment)

namespace Value

/-! ## Equality -/

mutual
/-- Whether two values are built alike. -/
def same : Value → Value → Bool
  | .unit, .unit => true
  | .integer first, .integer second => first == second
  | .text first, .text second => first == second
  | .tuple first, .tuple second => sameItems first second
  | .segment first, .segment second => first == second
  | _, _ => false

/-- Whether two tuples have the same items in the same order. -/
def sameItems : List Value → List Value → Bool
  | [], [] => true
  | first :: others, second :: rest => same first second && sameItems others rest
  | _, _ => false
end

instance : BEq Value where
  beq := same

/-! ## Text -/

mutual
/-- The text of a value. A tuple of one item keeps a comma after it. -/
def render : Value → String
  | .unit => "None"
  | .integer value => toString value
  | .text value => Quoted.quote value
  | .tuple [] => "()"
  | .tuple [item] => "(" ++ render item ++ ",)"
  | .tuple (item :: other :: items) =>
    "(" ++ render item ++ ", " ++ render other ++ renderRest items ++ ")"
  | .segment value => s!"Segment(type={value.type.toNat}, length={value.length.toNat})"

/-- The items after the second one of a tuple, each after a comma. -/
def renderRest : List Value → String
  | [] => ""
  | item :: items => ", " ++ render item ++ renderRest items
end

end Value

end ByteGrammar
