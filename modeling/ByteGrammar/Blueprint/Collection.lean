import ByteGrammar.Blueprint.Basic
import ByteGrammar.Index

/-!
# Collections of blueprints

Blueprints that are collected one after the other may refer to each other by their
indices. What a reference means depends on when it is met.

A reference that is built at once, together with its blueprint, is to one of the
blueprints collected before. A reference inside the second part of a sequence is met when
the parser is applied, and then it is to any blueprint of the whole collection, also to a
later one or to the one that holds it. Parsers can therefore be recursive.

A recursion that reads nothing has no end. References are followed to a fixed depth, and
one that lies deeper is the fault `tooDeep`.
-/

set_option autoImplicit false

namespace ByteGrammar

namespace Blueprint

/-- The depth to which references are followed. -/
def maxDepth : Nat := 1000

/-- The parser that an index names among the first blueprints of a collection, when
references may still be followed to some depth. -/
def parserAmong (blueprints : List Blueprint) :
    (depth count : Nat) → Int → Except Fault (Parser Value)
  | 0, _, _ => .error .tooDeep
  | depth + 1, count, index =>
    match Index.place? index count with
    | none => .error .nothingBuilt
    | some place =>
      match blueprints[place]? with
      | none => .error .nothingBuilt
      | some blueprint =>
        blueprint.build (parserAmong blueprints depth place)
          (parserAmong blueprints depth blueprints.length) []

/-- The meaning of references to a whole collection. -/
def references (blueprints : List Blueprint) : References :=
  parserAmong blueprints maxDepth blueprints.length

end Blueprint

end ByteGrammar
