import ByteGrammar.Proofs.Construction
import ByteGrammar.Proofs.Rejection
import Mathlib.Data.Fin.VecNotation

/-!
# Which cursor a failure reports

The cursor that a failure reports does not depend on what the parts of a parser read or reported. It
depends on the shape of the parser, that is on the tree by which it is put together.

A tree ends in a repetition if it is a repetition of a fixed number, or an ordered choice whose last
branch ends in one (`Construction.endsInRepetition`). All other trees report the cursor they were given
(`Parser.Anchored`): most combinators put it in the place of what their parts report, and a choice
hands on the failure of its last branch, which was given the same cursor. An open-ended repetition
never fails.

A repetition of a fixed number reports the cursor to which the repetitions before the failing one have
come (`timesFrom_eq_failure_iff`). A choice that ends in one hands this on, so that it may report a
cursor it was not given.
-/

set_option autoImplicit false

namespace ByteGrammar

variable {α β γ : Type}

namespace Parser

/-- Every failure of a parser reports the cursor that the parser was given. -/
def Anchored (parser : Parser α) : Prop :=
  ∀ cur reported attempted, parser cur = .ok (.failure reported attempted) → reported = cur

/-- Some successes of a parser, each at the cursor where the one before it stopped. -/
inductive Successes (parser : Parser α) : Cursor → List α → Cursor → Prop
  | nil (cur : Cursor) : Successes parser cur [] cur
  | cons {cur next last : Cursor} {value : α} {values : List α}
      (run : parser cur = .ok (.success value next)) (rest : Successes parser next values last) :
      Successes parser cur (value :: values) last

variable {parser : Parser α} {cur reported attempted : Cursor}

/-! ## Parsers that report the cursor they were given -/

theorem anchored_byteMatching (test : UInt8 → Bool) : (byteMatching test).Anchored := by
  intro cur reported attempted failed
  rcases byteMatching_cases test cur with ⟨_, run⟩ | ⟨byte, next, _, run⟩
  · rw [run] at failed
    cases failed
    rfl
  · rw [run] at failed
    split at failed
    · cases failed
    · cases failed
      rfl

theorem anchored_wordMatching (test : Nat → Bool) : (wordMatching test).Anchored := by
  intro cur reported attempted failed
  rw [wordMatching] at failed
  split at failed
  · cases failed
  · cases failed
    rfl
  · split at failed
    · cases failed
    · cases failed
      rfl

theorem anchored_map (parser : Parser α) (f : α → β) : (parser.map f).Anchored := by
  intro cur reported attempted failed
  rw [map] at failed
  split at failed
  · cases failed
  · cases failed
  · cases failed
    rfl

theorem anchored_notFollowedBy (parser : Parser α) : parser.notFollowedBy.Anchored := by
  intro cur reported attempted failed
  rw [notFollowedBy] at failed
  split at failed
  · cases failed
  · cases failed
    rfl
  · cases failed

/-- The loop of an open-ended repetition never fails. -/
theorem manyFrom_ne_failure (fuel : Nat) (before : List α) (cur : Cursor) :
    parser.manyFrom fuel before cur ≠ .ok (.failure reported attempted) := by
  fun_induction manyFrom parser fuel before cur with
  | case5 _ _ _ _ _ _ _ ih => exact ih
  | _ => rintro ⟨⟩

theorem anchored_many (parser : Parser α) : parser.many.Anchored :=
  fun _ _ _ failed => absurd failed (manyFrom_ne_failure _ _ _)

/-- The failures of a parser that reports the cursor it was given are its failed attempts. -/
theorem Anchored.eq_failure_iff (anchored : parser.Anchored) :
    parser cur = .ok (.failure reported attempted) ↔
      reported = cur ∧ parser.FailsAt cur attempted := by
  constructor
  · intro failed
    exact ⟨anchored cur reported attempted failed, reported, failed⟩
  · intro ⟨same, other, failed⟩
    obtain rfl := anchored cur other attempted failed
    rwa [same]

/-! ## Parsers that hand on a cursor -/

/-- **A choice fails as its last branch does.** -/
theorem getLast_eq_of_firstOf_eq_failure {others : List (Parser α)}
    (failed : firstOf parser others cur = .ok (.failure reported attempted)) :
    (parser :: others).getLast (List.cons_ne_nil _ _) cur = .ok (.failure reported attempted) := by
  induction others generalizing parser with
  | nil => exact failed
  | cons other others ih =>
    rw [List.getLast_cons (List.cons_ne_nil other others)]
    simp only [firstOf] at failed
    split at failed
    · exact ih failed
    · next notFailure => exact absurd failed (notFailure _ _)

/-- **A repetition of a fixed number reports the cursor behind the repetitions that succeeded.** -/
theorem timesFrom_eq_failure_iff {count : Nat} {before : List α} :
    parser.timesFrom count before cur = .ok (.failure reported attempted) ↔
      ∃ values, parser.Successes cur values reported ∧ values.length < count ∧
        parser.FailsAt reported attempted := by
  induction count generalizing cur before with
  | zero => simp [timesFrom]
  | succ count ih =>
    rw [timesFrom]
    constructor
    · intro failed
      split at failed
      · cases failed
      · next other attempt run =>
        cases failed
        exact ⟨[], .nil _, Nat.succ_pos count, other, run⟩
      · next value middle run =>
        obtain ⟨values, successes, fewer, fails⟩ := ih.mp failed
        exact ⟨value :: values, .cons run successes, Nat.succ_lt_succ fewer, fails⟩
    · rintro ⟨values, successes, fewer, fails⟩
      cases successes with
      | nil =>
        obtain ⟨other, run⟩ := fails
        simp only [run]
      | cons run rest =>
        simp only [run]
        exact ih.mpr ⟨_, rest, Nat.lt_of_succ_lt_succ fewer, fails⟩

/-! ## The shape decides -/

namespace Construction

/-- Whether a tree is a repetition of a fixed number, or a choice whose last branch ends in one. -/
def endsInRepetition : {α : Type} → Construction α → Bool
  | _, .times _ _ => true
  | _, .alternate branches => (branches (Fin.last _)).endsInRepetition
  | _, _ => false

/-- A choice fails as its last branch does. -/
theorem last_eq_of_alternate_eq_failure {more : Nat} {branches : Fin (more + 2) → Construction α}
    (failed : (alternate branches).parser cur = .ok (.failure reported attempted)) :
    (branches (Fin.last _)).parser cur = .ok (.failure reported attempted) := by
  have list : List.ofFn (fun index => (branches index).parser) =
      (branches 0).parser :: (branches 1).parser ::
        List.ofFn fun index => (branches index.succ.succ).parser := by
    rw [List.ofFn_succ, List.ofFn_succ]
    rfl
  have last := getLast_eq_of_firstOf_eq_failure failed
  have ends := List.getLast_ofFn_succ fun index => (branches index).parser
  simp only [list] at ends
  rwa [ends] at last

/-- **A tree that does not end in a repetition reports the cursor it was given.** -/
theorem anchored (construction : Construction α) (plain : construction.endsInRepetition = false) :
    construction.parser.Anchored := by
  induction construction with
  | byteMatching test => exact anchored_byteMatching test
  | wordMatching test => exact anchored_wordMatching test
  | succeed value => rintro _ _ _ ⟨⟩
  | fail =>
    rintro _ _ _ ⟨⟩
    rfl
  | unbuildable cause => rintro _ _ _ ⟨⟩
  | map part f _ => exact anchored_map part.parser f
  | bindMaking _ _ _ _ _ => exact fun _ _ _ failed => eq_of_bindMaking_eq_failure failed
  | alternate branches ih =>
    intro cur reported attempted failed
    exact ih _ plain cur reported attempted (last_eq_of_alternate_eq_failure failed)
  | notFollowedBy part _ => exact anchored_notFollowedBy part.parser
  | many part _ => exact anchored_many part.parser
  | times _ _ _ => cases plain

/-! ### Segments and documents -/

theorem anchored_generic (terminal : Int) : (Segment.generic terminal).Anchored := by
  rw [← parser_generic]
  exact anchored (generic terminal) rfl

theorem anchored_terminal {marker : Int} {built : Parser Segment}
    (run : Segment.terminal marker = .ok built) : built.Anchored := by
  obtain ⟨word, _, rfl⟩ := terminal_eq_ok_iff.mp run
  exact anchored (terminal word) rfl

theorem anchored_document {format : Format} {built : Parser (List Segment)}
    (run : format.document = .ok built) : built.Anchored := by
  rw [document_eq] at run
  cases run
  exact anchored (grammar format) rfl

/-! ### A choice that is not anchored -/

/-- Two words, or a failure. -/
def twoWords : Construction (List Nat) :=
  alternate ![fail, times word 2]

theorem not_anchored_twoWords : ¬ twoWords.parser.Anchored := by
  intro anchored
  have failed : twoWords.parser (Sample.threeBytes 0 (by decide)) =
      .ok (.failure (Sample.threeBytes 2 (by decide)) (Sample.threeBytes 3 (by decide))) := rfl
  have same := congrArg Cursor.pos (anchored _ _ _ failed)
  contradiction

/-- **The shape of a parser decides which cursor its failures report.** A tree that does not end in a
repetition reports the cursor it was given, and the trees of segments and documents are of this kind. A
repetition reports the cursor behind its parts that succeeded one after the other, of which there are
fewer than it wants, where its part fails. A choice hands on the failure of its last branch. So a choice
whose last branch ends in a repetition need not report the cursor it was given. -/
theorem reports_by_shape :
    (∀ {α : Type} (construction : Construction α), construction.endsInRepetition = false →
      construction.parser.Anchored) ∧
    ((∀ terminal, (Segment.generic terminal).Anchored) ∧
      (∀ marker built, Segment.terminal marker = .ok built → built.Anchored) ∧
      ∀ (format : Format) built, format.document = .ok built → built.Anchored) ∧
    (∀ {α : Type} (part : Construction α) count cur reported attempted,
      (times part count).parser cur = .ok (.failure reported attempted) ↔
        ∃ values, part.parser.Successes cur values reported ∧ values.length < count ∧
          part.parser.FailsAt reported attempted) ∧
    (∀ {α : Type} {more : Nat} (branches : Fin (more + 2) → Construction α) cur reported attempted,
      (alternate branches).parser cur = .ok (.failure reported attempted) →
        (branches (Fin.last _)).parser cur = .ok (.failure reported attempted)) ∧
    ∃ branches : Fin 2 → Construction (List Nat), (branches 1).endsInRepetition = true ∧
      ¬ (alternate branches).parser.Anchored := by
  refine ⟨anchored, ⟨anchored_generic, ?_, ?_⟩, ?_, ?_, ?_⟩
  · exact fun _ _ run => anchored_terminal run
  · exact fun _ _ run => anchored_document run
  · exact fun _ _ _ _ _ => timesFrom_eq_failure_iff
  · exact fun _ _ _ _ failed => last_eq_of_alternate_eq_failure failed
  · exact ⟨![fail, times word 2], rfl, not_anchored_twoWords⟩

/-- Three bytes hold one word of two, so the choice reports the cursor behind the first word. -/
theorem twoWords_reports_by_shape :
    twoWords.parser (Sample.threeBytes 0 (by decide)) =
        .ok (.failure (Sample.threeBytes 2 (by decide)) (Sample.threeBytes 3 (by decide))) ∧
      ∃ values, word.parser.Successes (Sample.threeBytes 0 (by decide)) values
          (Sample.threeBytes 2 (by decide)) ∧
        values.length < 2 ∧
          word.parser.FailsAt (Sample.threeBytes 2 (by decide)) (Sample.threeBytes 3 (by decide)) := by
  have failed : twoWords.parser (Sample.threeBytes 0 (by decide)) =
      .ok (.failure (Sample.threeBytes 2 (by decide)) (Sample.threeBytes 3 (by decide))) := rfl
  obtain ⟨_, _, repetitions, choices, _⟩ := reports_by_shape
  exact ⟨failed, (repetitions word 2 _ _ _).mp (choices ![fail, times word 2] _ _ _ failed)⟩

end Construction

end Parser

end ByteGrammar
