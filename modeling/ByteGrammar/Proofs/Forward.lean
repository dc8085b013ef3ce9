import ByteGrammar.Parser.Bytes
import ByteGrammar.Proofs.Passage

/-!
# Parsers that only move forward

A parser advances when it hands on no cursor before the one it was given, and fails nowhere
before the cursor it reports (`Parser.Advances`). The values it yields are described by a
predicate, because the second part of a sequence is built from the value of the first: that
a word is less than `2 ^ 16` is what keeps the second part from a fault. The faults it may
meet are described by a predicate as well. A parser that may meet none moves forward: it
answers everywhere (`Parser.Forward`).

The combinators that run their parts once keep the property. In a sequence the order of the
two cursors of a failure survives because the reported cursor is moved back to the first
one and the attempted cursor is left alone (`Advances.bindMaking`). In an ordered choice it
survives because every branch is given the same cursor (`Advances.firstOf`).
-/

set_option autoImplicit false

namespace ByteGrammar

variable {α β γ : Type}

/-- An outcome hands on cursors that do not come before the given one, and a value for
which a predicate holds. -/
def Outcome.Ahead (cur : Cursor) (holds : α → Prop) : Outcome α → Prop
  | .success value last => holds value ∧ cur ≤ last
  | .failure reported attempted => cur ≤ reported ∧ reported ≤ attempted

/-- The outcome of a failed attempt at the given cursor does not come before it. -/
theorem Outcome.ahead_failureAt (cur : Cursor) (holds : α → Prop) :
    (failureAt cur).Ahead cur holds :=
  ⟨le_refl cur, le_refl cur⟩

/-- An answer is a fault that is allowed, or an outcome that does not go back. -/
def Outcome.AheadOr (allowed : Fault → Prop) (cur : Cursor) (holds : α → Prop) :
    Except Fault (Outcome α) → Prop
  | .error fault => allowed fault
  | .ok outcome => outcome.Ahead cur holds

/-- What does not go back behind one cursor does not go back behind an earlier one. -/
theorem Outcome.AheadOr.trans {allowed : Fault → Prop} {cur next : Cursor} {holds : α → Prop}
    {answer : Except Fault (Outcome α)} (further : AheadOr allowed next holds answer)
    (ahead : cur ≤ next) : AheadOr allowed cur holds answer := by
  rcases answer with fault | ⟨value, last⟩ | ⟨reported, attempted⟩
  · exact further
  · exact ⟨further.1, ahead.trans further.2⟩
  · exact ⟨ahead.trans further.1, further.2⟩

namespace Parser

/-- A parser meets no faults but those that are allowed and does not go back, and a predicate
holds for its values. -/
def Advances (parser : Parser α) (allowed : Fault → Prop) (holds : α → Prop) : Prop :=
  ∀ cur, Outcome.AheadOr allowed cur holds (parser cur)

namespace Advances

variable {parser : Parser α} {allowed : Fault → Prop} {holds : α → Prop}

/-- The three ways in which a parser that advances can answer. -/
theorem cases (advances : parser.Advances allowed holds) (cur : Cursor) :
    (∃ fault, parser cur = .error fault ∧ allowed fault) ∨
      (∃ value last, parser cur = .ok (.success value last) ∧ holds value ∧ cur ≤ last) ∨
        ∃ reported attempted, parser cur = .ok (.failure reported attempted) ∧
          cur ≤ reported ∧ reported ≤ attempted := by
  have answer := advances cur
  rcases run : parser cur with fault | ⟨value, last⟩ | ⟨reported, attempted⟩
  · rw [run] at answer
    exact .inl ⟨fault, rfl, answer⟩
  · rw [run] at answer
    exact .inr (.inl ⟨value, last, rfl, answer⟩)
  · rw [run] at answer
    exact .inr (.inr ⟨reported, attempted, rfl, answer⟩)

theorem mono {weaker : α → Prop} (advances : parser.Advances allowed holds)
    (implies : ∀ value, holds value → weaker value) : parser.Advances allowed weaker := by
  intro cur
  rcases advances.cases cur with ⟨fault, run, met⟩ | ⟨value, last, run, held, ahead⟩ |
    ⟨reported, attempted, run, ahead⟩
  · rw [run]
    exact met
  · rw [run]
    exact ⟨implies value held, ahead⟩
  · rw [run]
    exact ahead

/-! ## Sequence -/

/-- **A sequence of parsers that advance advances.** A fault of making something of the two
values is a fault of the sequence. -/
theorem bindMaking {next : α → Parser β} {make : α → β → Except Fault γ}
    {follows : α → β → Prop} {made : γ → Prop} (first : parser.Advances allowed holds)
    (second : ∀ value, holds value → (next value).Advances allowed (follows value))
    (makes : ∀ value other whole, holds value → follows value other →
      make value other = .ok whole → made whole)
    (faults : ∀ value other fault, holds value → follows value other →
      make value other = .error fault → allowed fault) :
    (parser.bindMaking next make).Advances allowed made := by
  intro cur
  rcases first.cases cur with ⟨fault, run, met⟩ | ⟨value, middle, run, held, ahead⟩ |
    ⟨reported, attempted, run, ahead, attempt⟩
  · simp only [Parser.bindMaking, run]
    exact met
  · rcases (second value held).cases middle with ⟨fault, runNext, met⟩ |
      ⟨other, last, runNext, heldNext, further⟩ | ⟨reported, attempted, runNext, further, attempt⟩
    · simp only [Parser.bindMaking, run, runNext]
      exact met
    · cases making : make value other with
      | error fault =>
        simp only [Parser.bindMaking, run, runNext, making]
        exact faults value other fault held heldNext making
      | ok whole =>
        simp only [Parser.bindMaking, run, runNext, making]
        exact ⟨makes value other whole held heldNext making, ahead.trans further⟩
    · simp only [Parser.bindMaking, run, runNext]
      exact ⟨le_refl cur, (ahead.trans further).trans attempt⟩
  · simp only [Parser.bindMaking, run]
    exact ⟨le_refl cur, ahead.trans attempt⟩

theorem map {f : α → β} {mapped : β → Prop} (advances : parser.Advances allowed holds)
    (maps : ∀ value, holds value → mapped (f value)) : (parser.map f).Advances allowed mapped := by
  intro cur
  rcases advances.cases cur with ⟨fault, run, met⟩ | ⟨value, last, run, held, ahead⟩ |
    ⟨reported, attempted, run, ahead, attempt⟩
  · simp only [Parser.map, run]
    exact met
  · simp only [Parser.map, run]
    exact ⟨maps value held, ahead⟩
  · simp only [Parser.map, run]
    exact ⟨le_refl cur, ahead.trans attempt⟩

/-! ## Ordered choice and negation -/

/-- Every branch is given the cursor of the choice, so the outcome of the one that is taken
does not go back. -/
theorem firstOf {others : List (Parser α)} (first : parser.Advances allowed holds)
    (rest : ∀ other ∈ others, other.Advances allowed holds) :
    (Parser.firstOf parser others).Advances allowed holds := by
  induction others generalizing parser with
  | nil => exact first
  | cons other others ih =>
    obtain ⟨here, there⟩ := List.forall_mem_cons.mp rest
    intro cur
    rcases first.cases cur with ⟨fault, run, met⟩ | ⟨value, last, run, held, ahead⟩ |
      ⟨reported, attempted, run, _⟩
    · simp only [Parser.firstOf, run]
      exact met
    · simp only [Parser.firstOf, run]
      exact ⟨held, ahead⟩
    · simp only [Parser.firstOf, run]
      exact ih here there cur

theorem notFollowedBy (advances : parser.Advances allowed holds) :
    parser.notFollowedBy.Advances allowed fun _ => True := by
  intro cur
  rcases advances.cases cur with ⟨fault, run, met⟩ | ⟨value, last, run, _⟩ |
    ⟨reported, attempted, run, _⟩
  · simp only [Parser.notFollowedBy, run]
    exact met
  · simp only [Parser.notFollowedBy, run]
    exact ⟨le_refl cur, le_refl cur⟩
  · simp only [Parser.notFollowedBy, run]
    exact ⟨trivial, le_refl cur⟩

end Advances

/-! ## Parsers that meet no fault -/

/-- A parser answers everywhere without a fault and does not go back, and a predicate
holds for its values. -/
def Forward (parser : Parser α) (holds : α → Prop) : Prop :=
  ∀ cur, ∃ outcome, parser cur = .ok outcome ∧ outcome.Ahead cur holds

/-- A parser that advances and may meet no fault answers everywhere. -/
theorem Advances.forward {parser : Parser α} {holds : α → Prop}
    (advances : parser.Advances (fun _ => False) holds) : parser.Forward holds := by
  intro cur
  rcases advances.cases cur with ⟨fault, _, met⟩ | ⟨value, last, run, ahead⟩ |
    ⟨reported, attempted, run, ahead⟩
  · exact met.elim
  · exact ⟨_, run, ahead⟩
  · exact ⟨_, run, ahead⟩

namespace Forward

variable {parser : Parser α} {holds weaker : α → Prop}

/-- A parser that meets no fault meets none but the allowed ones. -/
theorem advances (forward : parser.Forward holds) (allowed : Fault → Prop) :
    parser.Advances allowed holds := by
  intro cur
  obtain ⟨outcome, run, ahead⟩ := forward cur
  rw [run]
  exact ahead

/-- The two ways in which a parser that moves forward can answer. -/
theorem cases (forward : parser.Forward holds) (cur : Cursor) :
    (∃ value last, parser cur = .ok (.success value last) ∧ holds value ∧ cur ≤ last) ∨
      ∃ reported attempted, parser cur = .ok (.failure reported attempted) ∧
        cur ≤ reported ∧ reported ≤ attempted := by
  obtain ⟨outcome, run, ahead⟩ := forward cur
  cases outcome with
  | success value last => exact .inl ⟨value, last, run, ahead⟩
  | failure reported attempted => exact .inr ⟨reported, attempted, run, ahead⟩

/-- What a success of a parser that moves forward hands on. -/
theorem of_success {cur last : Cursor} {value : α} (forward : parser.Forward holds)
    (run : parser cur = .ok (.success value last)) : holds value ∧ cur ≤ last := by
  obtain ⟨outcome, answer, ahead⟩ := forward cur
  rw [run] at answer
  cases answer
  exact ahead

/-- What a failure of a parser that moves forward hands on. -/
theorem of_failure {cur reported attempted : Cursor} (forward : parser.Forward holds)
    (run : parser cur = .ok (.failure reported attempted)) :
    cur ≤ reported ∧ reported ≤ attempted := by
  obtain ⟨outcome, answer, ahead⟩ := forward cur
  rw [run] at answer
  cases answer
  exact ahead

theorem mono (forward : parser.Forward holds) (implies : ∀ value, holds value → weaker value) :
    parser.Forward weaker :=
  ((forward.advances _).mono implies).forward

/-- A parser that can be built is the same whether it is built now or later. -/
theorem deferred {built : Except Fault (Parser α)} (build : built = .ok parser)
    (forward : parser.Forward holds) : (deferred built).Forward holds := by
  subst build
  exact forward

/-- **A sequence of parsers that move forward moves forward**, if something can be made of
all values that its parts yield. -/
theorem bindMaking {next : α → Parser β} {make : α → β → Except Fault γ}
    {follows : α → β → Prop} {made : γ → Prop} (first : parser.Forward holds)
    (second : ∀ value, holds value → (next value).Forward (follows value))
    (makes : ∀ value other, holds value → follows value other →
      ∃ whole, make value other = .ok whole ∧ made whole) :
    (parser.bindMaking next make).Forward made := by
  apply Advances.forward
  refine (first.advances _).bindMaking (fun value held => (second value held).advances _) ?_ ?_
  · intro value other whole held heldNext making
    obtain ⟨made, other, heldWhole⟩ := makes value other held heldNext
    rw [making] at other
    cases other
    exact heldWhole
  · intro value other fault held heldNext making
    obtain ⟨made, other, _⟩ := makes value other held heldNext
    rw [making] at other
    cases other

theorem bindWith {next : α → Parser β} {join : α → β → γ} {follows : α → β → Prop}
    {made : γ → Prop} (first : parser.Forward holds)
    (second : ∀ value, holds value → (next value).Forward (follows value))
    (joined : ∀ value other, holds value → follows value other → made (join value other)) :
    (parser.bindWith next join).Forward made :=
  bindMaking first second fun value other held heldNext =>
    ⟨join value other, rfl, joined value other held heldNext⟩

theorem notFollowedBy (forward : parser.Forward holds) :
    parser.notFollowedBy.Forward fun _ => True :=
  (forward.advances _).notFollowedBy.forward

end Forward

/-! ## Bytes and words -/

/-- What reading a byte under a test comes to: nothing is left, or a byte is and passes the
test or not. -/
theorem byteMatching_cases (test : UInt8 → Bool) (cur : Cursor) :
    (cur.rest = [] ∧ byteMatching test cur = .ok (.failureAt cur)) ∨
      ∃ byte next, cur.Passes [byte] next ∧
        byteMatching test cur =
          if test byte then .ok (.success byte next) else .ok (.failureAt cur) := by
  rcases cur.atEnd_or_step with ⟨ended, nothing⟩ | ⟨byte, next, inside, found, step, passes⟩
  · exact .inl ⟨nothing, by simp [byteMatching, ended]⟩
  · exact .inr ⟨byte, next, passes, by simp [byteMatching, inside, found, step]⟩

theorem byteMatching_of_rest_eq_nil (test : UInt8 → Bool) {cur : Cursor} (nothing : cur.rest = []) :
    byteMatching test cur = .ok (.failureAt cur) := by
  rcases byteMatching_cases test cur with ⟨_, run⟩ | ⟨byte, next, passes, _⟩
  · exact run
  · rw [passes.rest_eq] at nothing
    cases nothing

theorem byteMatching_of_passes (test : UInt8 → Bool) {cur next : Cursor} {byte : UInt8}
    (passes : cur.Passes [byte] next) :
    byteMatching test cur =
      if test byte then .ok (.success byte next) else .ok (.failureAt cur) := by
  rcases byteMatching_cases test cur with ⟨nothing, _⟩ | ⟨found, last, again, run⟩
  · rw [passes.rest_eq] at nothing
    cases nothing
  · obtain ⟨rfl, _⟩ := List.cons.inj (passes.rest_eq.symm.trans again.rest_eq)
    rw [run, passes.last_eq again rfl]

/-- Looking for the end of the data succeeds where no byte is left, and is a failed attempt
elsewhere. -/
theorem endOfInput_eq (cur : Cursor) :
    endOfInput cur = .ok (if cur.rest = [] then .success () cur else .failureAt cur) := by
  rcases byteMatching_cases (fun _ => true) cur with ⟨nothing, run⟩ | ⟨byte, next, passes, run⟩
  · simp [endOfInput, notFollowedBy, anyByte, run, Outcome.failureAt, nothing]
  · simp [endOfInput, notFollowedBy, anyByte, run, passes.rest_eq]

theorem forward_byteMatching (test : UInt8 → Bool) :
    (byteMatching test).Forward fun byte => test byte = true := by
  intro cur
  rcases byteMatching_cases test cur with ⟨_, run⟩ | ⟨byte, next, passes, run⟩
  · exact ⟨_, run, Outcome.ahead_failureAt _ _⟩
  · by_cases passed : test byte = true
    · exact ⟨.success byte next, by rw [run, if_pos passed], passed, passes.le⟩
    · exact ⟨.failureAt cur, by rw [run, if_neg passed], Outcome.ahead_failureAt _ _⟩

theorem forward_anyByte : anyByte.Forward fun _ => True :=
  (forward_byteMatching _).mono fun _ _ => trivial

theorem forward_endOfInput : endOfInput.Forward fun _ => True :=
  forward_anyByte.notFollowedBy

/-- The number of a word that was read is less than `2 ^ 16`. -/
theorem forward_word : word.Forward fun number => number < 65536 :=
  forward_anyByte.bindWith (fun _ _ => forward_anyByte) fun high low _ _ => Word.ofBytes_lt high low

theorem forward_wordMatching (test : Nat → Bool) :
    (wordMatching test).Forward fun number => number < 65536 := by
  intro cur
  rcases forward_word.cases cur with
    ⟨number, last, run, small, ahead⟩ | ⟨reported, attempted, run, ahead, attempt⟩
  · by_cases passed : test number = true
    · exact ⟨.success number last, by simp [wordMatching, run, passed], small, ahead⟩
    · exact ⟨.failureAt cur, by simp [wordMatching, run, passed], Outcome.ahead_failureAt _ _⟩
  · exact ⟨.failure cur attempted, by simp [wordMatching, run], le_refl cur, ahead.trans attempt⟩

end Parser

end ByteGrammar
