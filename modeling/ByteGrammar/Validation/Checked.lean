import ByteGrammar.Fault
import ByteGrammar.Validation.Datum
import ByteGrammar.Word

/-!
# Checked values

A check of raw data gives a value or the list of everything wrong with it. Checks of
several parts are joined by `both`, which collects the issues of all parts in order
instead of stopping at the first.
-/

set_option autoImplicit false

namespace ByteGrammar

/-- A value, or everything wrong with the data it was to be made from. -/
abbrev Checked (α : Type) := Except (List Issue) α

namespace Checked

variable {α β : Type}

/-- The check that finds one thing wrong, at the place itself. -/
def refuse (cause : Issue.Cause) : Checked α :=
  .error [⟨[], cause⟩]

/-- The check whose only issue, if any, is at the place itself. -/
def ofCause : Except Issue.Cause α → Checked α
  | .ok value => .ok value
  | .error cause => refuse cause

/-- The same check, of a part that stands under a key. -/
def under (key : Key) : Checked α → Checked α
  | .ok value => .ok value
  | .error issues => .error (issues.map (Issue.under key))

/-- A check that has to be passed, so that not passing it is a fault. -/
def orFault : Checked α → Except Fault α
  | .ok value => .ok value
  | .error issues => .error (.invalid issues)

/-- Two checks at once, with the issues of both. -/
def both : Checked α → Checked β → Checked (α × β)
  | .ok first, .ok second => .ok (first, second)
  | .ok _, .error issues => .error issues
  | .error issues, .ok _ => .error issues
  | .error issues, .error others => .error (issues ++ others)

/-- Check every item of a list under its index, with the issues of all items. -/
def all (check : Datum → Checked α) (items : List Datum) : Checked (List α) :=
  go 0 items
where
  /-- The items from an index on. -/
  go : Nat → List Datum → Checked (List α)
    | _, [] => .ok []
    | index, item :: rest =>
      match both (under (.index index) (check item)) (go (index + 1) rest) with
      | .ok (value, values) => .ok (value :: values)
      | .error issues => .error issues

/-! ## Fields -/

/-- An integer within optional bounds. -/
def integerWithin (least : Int) (greatest : Option Int) (datum : Datum) : Checked Int :=
  match datum.toInteger with
  | .error cause => refuse cause
  | .ok value =>
    if value < least then refuse (.below least)
    else
      match greatest with
      | none => .ok value
      | some bound => if bound < value then refuse (.above bound) else .ok value

/-- An integer that is a word. -/
def word (datum : Datum) : Checked UInt16 :=
  (integerWithin 0 (some 65535) datum).map UInt16.ofInt

/-- An integer within the bounds passes. -/
theorem integerWithin_of_le {least value : Int} {greatest : Option Int} (above : least ≤ value)
    (below : ∀ bound, greatest = some bound → value ≤ bound) :
    integerWithin least greatest (.integer value) = .ok value := by
  have notLess : ¬ value < least := by omega
  cases greatest with
  | none => simp [integerWithin, Datum.toInteger, notLess]
  | some bound =>
    have notMore : ¬ bound < value := by
      have := below bound rfl
      omega
    simp [integerWithin, Datum.toInteger, notLess, notMore]

/-- The number of a word passes as that word. -/
theorem word_of_lt {number : Nat} (small : number < 65536) :
    word (.integer number) = .ok (UInt16.ofNat number) := by
  have passed : integerWithin 0 (some 65535) (.integer number) = .ok (number : Int) := by
    refine integerWithin_of_le (by omega) ?_
    intro bound equal
    cases equal
    omega
  rw [word, passed]
  simp [Except.map, Word.ofInt_natCast]

/-- A truth value. -/
def boolean (datum : Datum) : Checked Bool :=
  ofCause datum.toBoolean

/-- The items of a list. -/
def list (check : Datum → Checked α) : Datum → Checked (List α)
  | .list items => all check items
  | _ => refuse .notList

/-- The fields of raw data for the named model. -/
def fields (model : String) : Datum → Checked (List (String × Datum))
  | .record fields => .ok fields
  | _ => refuse (.notRecord model)

/-- A field that has to be there. -/
def required (name : String) (check : Datum → Checked α) (fields : List (String × Datum)) :
    Checked α :=
  under (.field name) <|
    match fields.lookup name with
    | some datum => check datum
    | none => refuse .missing

/-- A field that has a value of its own when it is absent. -/
def optional (name : String) (absent : α) (check : Datum → Checked α)
    (fields : List (String × Datum)) : Checked α :=
  match fields.lookup name with
  | some datum => under (.field name) (check datum)
  | none => .ok absent

end Checked

end ByteGrammar
