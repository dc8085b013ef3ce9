/-!
# Bits of integers

Conjunction and disjunction of integers bit by bit, where a negative integer has
infinitely many leading ones. The cases follow from `-(n + 1)` being the complement
of `n`.
-/

set_option autoImplicit false

namespace ByteGrammar

namespace Bits

/-- The bits of the first number that the second one lacks. -/
def without (first second : Nat) : Nat :=
  first ^^^ (first &&& second)

/-- The bits that both integers have. -/
def both : Int → Int → Int
  | .ofNat first, .ofNat second => .ofNat (first &&& second)
  | .ofNat first, .negSucc second => .ofNat (without first second)
  | .negSucc first, .ofNat second => .ofNat (without second first)
  | .negSucc first, .negSucc second => .negSucc (first ||| second)

/-- The bits that either integer has. -/
def either : Int → Int → Int
  | .ofNat first, .ofNat second => .ofNat (first ||| second)
  | .ofNat first, .negSucc second => .negSucc (without second first)
  | .negSucc first, .ofNat second => .negSucc (without first second)
  | .negSucc first, .negSucc second => .negSucc (first &&& second)

end Bits

end ByteGrammar
