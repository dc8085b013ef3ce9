import ByteGrammar.Proofs.DocumentGrammar

/-!
# Requiring the end of the data

A format may want nothing behind the terminal segment. Its grammar then looks for the end of the
data inside of two sequences, right behind the terminal segment. It could as well look for it once
the whole document was read. The end that is required of the second part of a sequence can be
required of the sequence (`Parser.bindWith_endRequired`), since a sequence reports the cursor it
was given whichever part failed, and keeps the cursor of the last attempt.

So the two grammars with the same markers differ by a filter on outcomes
(`Format.strict_grammar_eq`). It leaves failures alone, and turns a success in front of further
bytes into a failed attempt at the first of them.
-/

set_option autoImplicit false

namespace ByteGrammar

variable {α β γ : Type}

/-- The outcome at a cursor when the data has to end where a success does. A success in front of
further bytes is a failure whose last attempt is made at these bytes. -/
def Outcome.endRequired (cur : Cursor) : Outcome α → Outcome α
  | .success value last =>
    if last.rest = [] then .success value last else .failure cur last
  | .failure _ attempted => .failure cur attempted

namespace Parser

/-- A parser that has to come to the end of the data. -/
def endRequired (parser : Parser α) : Parser α :=
  fun cur => (parser cur).map (Outcome.endRequired cur)

/-- Looking for the end of the data behind a parser is requiring it of the parser. -/
theorem bindWith_endOfInput (parser : Parser α) :
    parser.bindWith (fun _ => endOfInput) (fun value _ => value) = parser.endRequired := by
  funext cur
  rw [bindWith, bindMaking, endRequired]
  rcases parser cur with fault | ⟨value, last⟩ | ⟨reported, attempted⟩
  · rfl
  · by_cases ended : last.rest = []
    · simp [endOfInput_eq, ended, Except.map, Outcome.endRequired]
    · simp [endOfInput_eq, ended, Except.map, Outcome.endRequired, Outcome.failureAt]
  · rfl

/-- **The end that is required of the second part of a sequence is required of the sequence.** -/
theorem bindWith_endRequired (parser : Parser α) (next : α → Parser β) (join : α → β → γ) :
    parser.bindWith (fun value => (next value).endRequired) join =
      (parser.bindWith next join).endRequired := by
  funext cur
  simp only [bindWith, bindMaking, endRequired]
  rcases parser cur with fault | ⟨value, middle⟩ | ⟨reported, attempted⟩
  · rfl
  · dsimp only
    rcases next value middle with fault | ⟨other, last⟩ | ⟨reported, attempted⟩
    · rfl
    · by_cases ended : last.rest = []
      · simp [ended, Except.map, Outcome.endRequired]
      · simp [ended, Except.map, Outcome.endRequired]
    · rfl
  · rfl

end Parser

namespace Format

open ByteGrammar.Parser

/-- The format with the same markers that allows bytes behind the terminal segment. -/
def lenient (format : Format) : Format :=
  { format with requireEnd := false }

/-- The format with the same markers that allows no bytes behind the terminal segment. -/
def strict (format : Format) : Format :=
  { format with requireEnd := true }

theorem strict_lastSegment_eq (format : Format) :
    format.strict.lastSegment = format.lenient.lastSegment.endRequired :=
  bindWith_endOfInput _

/-- **The strict grammar is the lenient one, with the end of the data required of it.** -/
theorem strict_grammar_eq (format : Format) :
    format.strict.grammar = format.lenient.grammar.endRequired := by
  have body : format.strict.body = format.lenient.body.endRequired := by
    rw [Format.body, strict_lastSegment_eq]
    exact bindWith_endRequired _ _ _
  rw [grammar, body]
  exact bindWith_endRequired _ _ _

/-- **Requiring the end of the data is a filter on the lenient grammar.** At every cursor the
lenient grammar has an outcome, and the strict one has the same, except for a success in front of
further bytes. That is a failure which reports the cursor it was given and was attempted where the
success ends. -/
theorem strict_document_filters (format : Format) :
    ∃ lenient strict, format.lenient.document = .ok lenient ∧
      format.strict.document = .ok strict ∧ ∀ cur : Cursor, ∃ outcome, lenient cur = .ok outcome ∧
        strict cur = .ok (match outcome with
          | .failure reported attempted => .failure reported attempted
          | .success segments last =>
            if last.pos = cur.buffer.size then .success segments last else .failure cur last) := by
  refine ⟨format.lenient.grammar, format.strict.grammar, document_eq _, document_eq _, fun cur => ?_⟩
  rw [strict_grammar_eq, endRequired]
  obtain ⟨outcome, run, ahead⟩ := format.lenient.forward_grammar cur
  refine ⟨outcome, run, ?_⟩
  rw [run]
  cases outcome with
  | success segments last =>
    have ended : last.rest = [] ↔ last.pos = cur.buffer.size := by
      rw [Cursor.rest_eq_nil_iff, Buffer.length_toList, ahead.2.1]
    simp only [Except.map, Outcome.endRequired, ended]
  | failure reported attempted =>
    rw [eq_of_grammar_eq_failure _ run]
    rfl

end Format

end ByteGrammar
