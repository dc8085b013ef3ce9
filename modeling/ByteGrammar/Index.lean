/-!
# Indices

An integer names a place in a row of items. From zero on it counts from the front, and
a negative one counts from the end, so that `-1` names the last item.
-/

set_option autoImplicit false

namespace ByteGrammar

namespace Index

/-- The place that an integer names in a row of some length, which may lie outside of it. -/
def resolve (index : Int) (length : Nat) : Int :=
  if index < 0 then index + length else index

/-- The place that an integer names, if it lies in the row. -/
def place? (index : Int) (length : Nat) : Option Nat :=
  let place := resolve index length
  if 0 ≤ place ∧ place < length then some place.toNat else none

/-- The item that an integer names, if there is one. -/
def item? {α : Type} (items : List α) (index : Int) : Option α :=
  (place? index items.length).bind fun place => items[place]?

end Index

end ByteGrammar
