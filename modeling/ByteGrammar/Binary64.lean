/-!
# Binary floating-point numbers

The numbers of the 64-bit binary format. A finite one is a whole number of units, at
most `2 ^ 53` of them, where a unit is a power of two from `2 ^ -1074` on. A decimal
number stands for the nearest number of the format, and for the one with an even number
of units if two are equally near (`ofDecimal`). Everything here is exact arithmetic on
whole numbers.
-/

set_option autoImplicit false

namespace ByteGrammar

/-- A number of the 64-bit binary format. -/
inductive Binary64
  /-- The number `units * 2 ^ exponent`. -/
  | finite (units exponent : Int)
  /-- A number beyond all finite ones. -/
  | infinite
  deriving DecidableEq, Repr

namespace Binary64

/-! ## Rounding -/

/-- The whole number nearest to a quotient; of two equally near ones, the even one. -/
def nearest (dividend divisor : Nat) : Nat :=
  let quotient := dividend / divisor
  let rest := dividend % divisor
  if 2 * rest < divisor ∨ 2 * rest = divisor ∧ quotient % 2 = 0 then quotient else quotient + 1

/-- A quotient measured in units of `2 ^ exponent`, as another quotient. -/
def inUnits (dividend divisor : Nat) : Int → Nat × Nat
  | .ofNat exponent => (dividend, divisor * Nat.pow 2 exponent)
  | .negSucc exponent => (dividend * Nat.pow 2 (exponent + 1), divisor)

/-- The exponent of the unit in which a quotient is measured: the one that makes it at least
`2 ^ 52` units and fewer than `2 ^ 53`, but never less than `-1074`. -/
def exponentOf (dividend divisor : Nat) : Int :=
  let low : Int := Int.ofNat dividend.log2 - Int.ofNat divisor.log2 - 53
  let (units, whole) := inUnits dividend divisor low
  max (-1074) (if units < whole * Nat.pow 2 53 then low else low + 1)

/-- The number of the format that is nearest to a quotient, with a sign. -/
def ofQuotient (negative : Bool) (dividend divisor : Nat) : Binary64 :=
  let exponent := exponentOf dividend divisor
  let (units, whole) := inUnits dividend divisor exponent
  let count := nearest units whole
  if 1024 ≤ Int.ofNat count.log2 + exponent then
    .infinite
  else
    .finite (if negative then -Int.ofNat count else Int.ofNat count) exponent

/-- The number of the format that is nearest to `parts / 10 ^ places`. -/
def ofDecimal (parts : Int) (places : Nat) : Binary64 :=
  ofQuotient (parts < 0) parts.natAbs (Nat.pow 10 places)

/-! ## Whole numbers -/

/-- The whole number that a finite number equals, if its fraction is zero. -/
def whole? (units : Int) : (exponent : Int) → Option Int
  | .ofNat exponent => some (units * Int.ofNat (Nat.pow 2 exponent))
  | .negSucc exponent =>
    let unit := Int.ofNat (Nat.pow 2 (exponent + 1))
    if units % unit = 0 then some (units / unit) else none

end Binary64

end ByteGrammar
