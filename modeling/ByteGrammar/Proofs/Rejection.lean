import ByteGrammar.Proofs.Recognition

/-!
# Where parsers fail

A failure carries two cursors. The one it reports is moved by every combinator around it, while
the one of the last failed attempt is only handed on. So the second can be described without
the first, as a relation between the cursor a parser was given and the cursor of the attempt
(`Parser.FailsAt`).

The relation goes through a sequence part by part (`failsAt_bindMaking_iff`). A greedy
repetition never fails, so that in front of another parser it contributes nothing but the
cursor at which it stopped (`failsAt_many_bindWith_iff`): whatever the last repetition
attempted is forgotten.

Parsers that read any bytes at all fail in one way only, when they run out of bytes
(`Parser.OnlyAtEnd`). Where they fail is then known as soon as it is known that they fail.
-/

set_option autoImplicit false

namespace ByteGrammar

variable {α β γ : Type}

namespace Parser

/-- A parser fails at a cursor, and the last attempt was made at the other cursor. -/
def FailsAt (parser : Parser α) (cur attempted : Cursor) : Prop :=
  ∃ reported, parser cur = .ok (.failure reported attempted)

variable {parser : Parser α} {cur attempted : Cursor}

/-- A parser that moves forward attempts nothing before the cursor it is given. -/
theorem FailsAt.le {holds : α → Prop} (fails : parser.FailsAt cur attempted)
    (forward : parser.Forward holds) : cur ≤ attempted := by
  obtain ⟨reported, run⟩ := fails
  obtain ⟨ahead, further⟩ := forward.of_failure run
  exact ahead.trans further

/-- A parser that succeeds at a cursor does not fail there. -/
theorem FailsAt.not_success {value : α} {last : Cursor} (fails : parser.FailsAt cur attempted) :
    parser cur ≠ .ok (.success value last) := by
  obtain ⟨reported, run⟩ := fails
  rw [run]
  simp

/-- A failed attempt at the cursor itself is the only way to fail there. -/
theorem failsAt_iff_of_failureAt (run : parser cur = .ok (.failureAt cur)) :
    parser.FailsAt cur attempted ↔ attempted = cur := by
  constructor
  · rintro ⟨reported, other⟩
    rw [run] at other
    cases other
    rfl
  · rintro rfl
    exact ⟨attempted, run⟩

/-- A parser that moves forward fails where it does not succeed. -/
theorem Forward.exists_failsAt {holds : α → Prop} (forward : parser.Forward holds)
    (nowhere : ∀ value last, parser cur ≠ .ok (.success value last)) :
    ∃ attempted, parser.FailsAt cur attempted := by
  rcases forward.cases cur with ⟨value, last, run, _⟩ | ⟨reported, attempted, run, _⟩
  · exact absurd run (nowhere value last)
  · exact ⟨attempted, reported, run⟩

/-! ## Sequence -/

/-- **A sequence fails where its first part fails, or where its second part fails behind the
first.** -/
theorem failsAt_bindMaking_iff {next : α → Parser β} {make : α → β → Except Fault γ} :
    (parser.bindMaking next make).FailsAt cur attempted ↔
      parser.FailsAt cur attempted ∨
        ∃ value middle, parser cur = .ok (.success value middle) ∧
          (next value).FailsAt middle attempted := by
  constructor
  · rintro ⟨reported, run⟩
    rw [bindMaking] at run
    split at run
    · cases run
    · next reported attempt first =>
      cases run
      exact .inl ⟨reported, first⟩
    · next value middle first =>
      split at run
      · cases run
      · next reported attempt second =>
        cases run
        exact .inr ⟨value, middle, first, reported, second⟩
      · split at run <;> cases run
  · rintro (⟨reported, first⟩ | ⟨value, middle, first, reported, second⟩)
    · exact ⟨cur, by simp only [bindMaking, first]⟩
    · exact ⟨cur, by simp only [bindMaking, first, second]⟩

/-- A sequence that fails is reported at the cursor it was given. -/
theorem bindMaking_eq_failure_iff {next : α → Parser β} {make : α → β → Except Fault γ}
    {reported : Cursor} :
    parser.bindMaking next make cur = .ok (.failure reported attempted) ↔
      reported = cur ∧ (parser.bindMaking next make).FailsAt cur attempted := by
  constructor
  · intro run
    exact ⟨eq_of_bindMaking_eq_failure run, reported, run⟩
  · rintro ⟨rfl, other, run⟩
    obtain rfl := eq_of_bindMaking_eq_failure run
    exact run

theorem failsAt_bindWith_iff {next : α → Parser β} {join : α → β → γ} :
    (parser.bindWith next join).FailsAt cur attempted ↔
      parser.FailsAt cur attempted ∨
        ∃ value middle, parser cur = .ok (.success value middle) ∧
          (next value).FailsAt middle attempted :=
  failsAt_bindMaking_iff

/-! ## Repetition -/

/-- **A greedy repetition hands the failure to the parser behind it.** The sequence fails where
that parser fails at the end of the chain. -/
theorem failsAt_many_bindWith_iff {next : Parser β} {join : List α → β → γ}
    (onward : parser.Onward) :
    (parser.many.bindWith (fun _ => next) join).FailsAt cur attempted ↔
      ∃ middle, (∃ values, parser.Chain cur values middle ∧ parser.Halts middle) ∧
        next.FailsAt middle attempted := by
  rw [failsAt_bindWith_iff]
  constructor
  · rintro (⟨reported, run⟩ | ⟨values, middle, run, fails⟩)
    · obtain ⟨values, last, chain, halts⟩ := exists_chain onward cur
      rw [(many_eq_success_iff onward).mpr ⟨chain, halts⟩] at run
      cases run
    · exact ⟨middle, ⟨values, (many_eq_success_iff onward).mp run⟩, fails⟩
  · rintro ⟨middle, ⟨values, chain⟩, fails⟩
    exact .inr ⟨values, middle, (many_eq_success_iff onward).mpr chain, fails⟩

/-! ## Running out of bytes -/

/-- A parser fails only for want of bytes: its last attempt is at the end of the buffer. -/
def OnlyAtEnd (parser : Parser α) : Prop :=
  ∀ cur attempted, parser.FailsAt cur attempted → attempted.rest = []

namespace OnlyAtEnd

/-- Where a parser runs out of bytes is known once it is known that it fails. -/
theorem failsAt_iff {holds : α → Prop} (onlyAtEnd : parser.OnlyAtEnd)
    (forward : parser.Forward holds) :
    parser.FailsAt cur attempted ↔
      attempted.buffer = cur.buffer ∧ attempted.rest = [] ∧
        ∀ value last, parser cur ≠ .ok (.success value last) := by
  constructor
  · intro fails
    exact ⟨(fails.le forward).1, onlyAtEnd cur attempted fails, fun _ _ => fails.not_success⟩
  · rintro ⟨buffer, ended, nowhere⟩
    obtain ⟨other, fails⟩ := forward.exists_failsAt nowhere
    have sameBuffer : attempted.buffer = other.buffer := buffer.trans (fails.le forward).1.symm
    rwa [Cursor.eq_of_rest_eq_nil sameBuffer ended (onlyAtEnd cur other fails)]

theorem bindMaking {next : α → Parser β} {make : α → β → Except Fault γ}
    (first : parser.OnlyAtEnd) (second : ∀ value, (next value).OnlyAtEnd) :
    (parser.bindMaking next make).OnlyAtEnd := by
  intro cur attempted fails
  rcases failsAt_bindMaking_iff.mp fails with here | ⟨value, middle, _, there⟩
  · exact first cur attempted here
  · exact second value middle attempted there

theorem bindWith {next : α → Parser β} {join : α → β → γ}
    (first : parser.OnlyAtEnd) (second : ∀ value, (next value).OnlyAtEnd) :
    (parser.bindWith next join).OnlyAtEnd :=
  bindMaking first second

theorem deferred {built : Except Fault (Parser α)} (build : built = .ok parser)
    (onlyAtEnd : parser.OnlyAtEnd) : (deferred built).OnlyAtEnd := by
  subst build
  exact onlyAtEnd

theorem timesFrom (onlyAtEnd : parser.OnlyAtEnd) (count : Nat) (before : List α) :
    OnlyAtEnd (parser.timesFrom count before) := by
  induction count generalizing before with
  | zero =>
    rintro cur attempted ⟨reported, run⟩
    cases run
  | succ count ih =>
    rintro cur attempted ⟨reported, run⟩
    rw [Parser.timesFrom] at run
    split at run
    · cases run
    · next other attempt step =>
      cases run
      exact onlyAtEnd _ attempted ⟨other, step⟩
    · next value next step => exact ih (value :: before) next attempted ⟨reported, run⟩

end OnlyAtEnd

/-! ## Bytes -/

/-- A byte under a test is missed where it was looked for. -/
theorem failsAt_byteMatching_iff {test : UInt8 → Bool} :
    (byteMatching test).FailsAt cur attempted ↔
      attempted = cur ∧ ∀ byte, cur.buffer.toList[cur.pos]? = some byte → test byte = false := by
  rcases byteMatching_cases test cur with ⟨nothing, run⟩ | ⟨byte, next, passes, run⟩
  · rw [failsAt_iff_of_failureAt run, ← Cursor.head?_rest, nothing]
    simp
  · rw [(Cursor.passes_byte_iff.mp passes).2]
    by_cases passed : test byte = true
    · rw [if_pos passed] at run
      constructor
      · intro fails
        exact absurd run fails.not_success
      · rintro ⟨_, missed⟩
        rw [missed byte rfl] at passed
        contradiction
    · rw [if_neg passed] at run
      rw [failsAt_iff_of_failureAt run]
      simpa using fun _ => passed

theorem onlyAtEnd_anyByte : anyByte.OnlyAtEnd := by
  intro cur attempted fails
  obtain ⟨rfl, missed⟩ := failsAt_byteMatching_iff.mp fails
  rw [← List.head?_eq_none_iff, Cursor.head?_rest]
  cases found : attempted.buffer.toList[attempted.pos]? with
  | none => rfl
  | some byte => exact absurd (missed byte found) (by simp)

theorem onlyAtEnd_word : word.OnlyAtEnd :=
  onlyAtEnd_anyByte.bindWith fun _ => onlyAtEnd_anyByte

/-- The end of the data is missed exactly where a byte is left. -/
theorem failsAt_endOfInput_iff :
    endOfInput.FailsAt cur attempted ↔ attempted = cur ∧ cur.rest ≠ [] := by
  by_cases nothing : cur.rest = []
  · have run : endOfInput cur = .ok (.success () cur) :=
      endOfInput_eq_success_iff.mpr ⟨nothing, rfl⟩
    constructor
    · intro fails
      exact absurd run fails.not_success
    · rintro ⟨_, more⟩
      exact absurd nothing more
  · have run : endOfInput cur = .ok (.failureAt cur) := by
      rw [endOfInput_eq, if_neg nothing]
    rw [failsAt_iff_of_failureAt run, and_iff_left nothing]

end Parser

end ByteGrammar
