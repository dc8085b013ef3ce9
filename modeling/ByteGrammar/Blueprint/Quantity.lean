import ByteGrammar.Blueprint.Bits
import ByteGrammar.Blueprint.Value

/-!
# Quantities and tests

The numbers in a description may depend on values read before. The values at hand form
an environment, the latest first; a quantity is evaluated in it, and so are the tests
on bytes and words that compare with quantities.

Every quantity has a value: a reference to a value that is not there or is no number
counts as 0, and so does the length of something that is no tuple.
-/

set_option autoImplicit false

namespace ByteGrammar

/-- The values read so far, the latest first. -/
abbrev Environment := List Value

/-- An integer that may depend on values read before. -/
inductive Quantity
  | literal (value : Int)
  /-- The integer at a place of the environment. -/
  | bound (index : Nat)
  /-- The length of the tuple at a place of the environment. -/
  | boundLength (index : Nat)
  | add (first second : Quantity)
  | sub (first second : Quantity)
  | mul (first second : Quantity)
  | max (first second : Quantity)
  | min (first second : Quantity)
  /-- The first quantity without as many low bits as the second one says. -/
  | shiftRight (first second : Quantity)
  | bitAnd (first second : Quantity)

namespace Quantity

/-- The integer a quantity stands for in an environment. -/
def eval (env : Environment) : Quantity → Int
  | .literal value => value
  | .bound index =>
    match env[index]? with
    | some (.integer value) => value
    | _ => 0
  | .boundLength index =>
    match env[index]? with
    | some (.tuple items) => items.length
    | _ => 0
  | .add first second => first.eval env + second.eval env
  | .sub first second => first.eval env - second.eval env
  | .mul first second => first.eval env * second.eval env
  | .max first second => Max.max (first.eval env) (second.eval env)
  | .min first second => Min.min (first.eval env) (second.eval env)
  | .shiftRight first second => first.eval env >>> (second.eval env).toNat
  | .bitAnd first second => Bits.both (first.eval env) (second.eval env)

end Quantity

/-- A test on a byte or a word. -/
inductive Test
  | const (answer : Bool)
  | equal (quantity : Quantity)
  | notEqual (quantity : Quantity)
  | less (quantity : Quantity)
  | greater (quantity : Quantity)
  /-- From the first quantity to the second, both included. -/
  | range (first last : Quantity)
  /-- The bits under the mask are those of the second quantity. -/
  | mask (bits expected : Quantity)
  | oneOf (quantities : List Quantity)

namespace Test

/-- Whether a number passes a test in an environment. -/
def passes (env : Environment) (test : Test) (number : Int) : Bool :=
  match test with
  | .const answer => answer
  | .equal quantity => number == quantity.eval env
  | .notEqual quantity => number != quantity.eval env
  | .less quantity => number < quantity.eval env
  | .greater quantity => quantity.eval env < number
  | .range first last => first.eval env ≤ number && number ≤ last.eval env
  | .mask bits expected => Bits.both number (bits.eval env) == expected.eval env
  | .oneOf quantities => quantities.any fun quantity => number == quantity.eval env

end Test

end ByteGrammar
