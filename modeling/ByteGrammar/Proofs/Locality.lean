import ByteGrammar.Proofs.Composition

/-!
# Parsing is local

A composed parser knows nothing about its input but the bytes behind the cursor it is given. At
two cursors with the same bytes behind them it answers alike, whatever stands before them and
wherever in their buffers they are (`Parser.Composed.local`).

Answers are compared along a relation between the cursors of one run and those of the other
(`Alike`). That relation is carried through every combinator. In an open-ended repetition it has
to decide one thing more, namely whether a success moved: two cursors of one run are the same
exactly when the related ones of the other run are (`Cursor.SameRest.beq_eq`).

Data that is put in front of a buffer therefore moves all positions in an outcome by its length
and changes nothing else (`Parser.Composed.position_independent`).
-/

set_option autoImplicit false

namespace ByteGrammar

variable {α β γ : Type}

/-! ## Answers that are alike -/

/-- Two answers are alike when they are the same fault, or outcomes of one kind with the same value
and related cursors. -/
inductive Alike (related : Cursor → Cursor → Prop) :
    Except Fault (Outcome α) → Except Fault (Outcome α) → Prop
  | fault (fault : Fault) : Alike related (.error fault) (.error fault)
  | success (value : α) {last other : Cursor} (ends : related last other) :
      Alike related (.ok (.success value last)) (.ok (.success value other))
  | failure {reported other attempted another : Cursor} (reports : related reported other)
      (attempts : related attempted another) :
      Alike related (.ok (.failure reported attempted)) (.ok (.failure other another))

namespace Alike

variable {related weaker : Cursor → Cursor → Prop} {cur other : Cursor} {parser : Parser α}

theorem mono {first second : Except Fault (Outcome α)} (alike : Alike related first second)
    (implies : ∀ cur other, related cur other → weaker cur other) : Alike weaker first second := by
  cases alike with
  | fault cause => exact .fault cause
  | success value ends => exact .success value (implies _ _ ends)
  | failure reports attempts => exact .failure (implies _ _ reports) (implies _ _ attempts)

/-- What is alike to a success is a success with the same value. -/
theorem exists_of_success {value : α} {last : Cursor} {answer : Except Fault (Outcome α)}
    (alike : Alike related (.ok (.success value last)) answer) :
    ∃ other, answer = .ok (.success value other) ∧ related last other := by
  cases alike with
  | success _ ends => exact ⟨_, rfl, ends⟩

theorem failureAt (here : related cur other) :
    Alike related (.ok (.failureAt cur : Outcome α)) (.ok (.failureAt other)) :=
  .failure here here

theorem map (here : related cur other) (first : Alike related (parser cur) (parser other))
    (f : α → β) : Alike related (parser.map f cur) (parser.map f other) := by
  rw [Parser.map, Parser.map]
  generalize parser cur = answer, parser other = another at first
  cases first with
  | fault cause => exact .fault cause
  | success value ends => exact .success (f value) ends
  | failure _ attempts => exact .failure here attempts

/-- **Sequences answer alike** if their first parts do, and their second parts where the first
ones end. -/
theorem bindMaking {next : α → Parser β} {make : α → β → Except Fault γ}
    (here : related cur other) (first : Alike related (parser cur) (parser other))
    (second : ∀ value middle between, parser cur = .ok (.success value middle) →
      related middle between → Alike related (next value middle) (next value between)) :
    Alike related (parser.bindMaking next make cur) (parser.bindMaking next make other) := by
  rw [Parser.bindMaking, Parser.bindMaking]
  generalize run : parser cur = answer, parser other = another at first
  cases first with
  | fault cause => exact .fault cause
  | failure _ attempts => exact .failure here attempts
  | @success value middle between ends =>
    have further := second value middle between run ends
    dsimp only
    generalize next value middle = answer, next value between = another at further
    cases further with
    | fault cause => exact .fault cause
    | failure _ attempts => exact .failure here attempts
    | success follower ends =>
      cases made : make value follower with
      | error cause => simp only [made]; exact .fault cause
      | ok whole => simp only [made]; exact .success whole ends

theorem notFollowedBy (here : related cur other)
    (part : Alike related (parser cur) (parser other)) :
    Alike related (parser.notFollowedBy cur) (parser.notFollowedBy other) := by
  rw [Parser.notFollowedBy, Parser.notFollowedBy]
  generalize parser cur = answer, parser other = another at part
  cases part with
  | fault cause => exact .fault cause
  | success value _ => exact failureAt here
  | failure _ _ => exact .success () here

end Alike

/-! ## Cursors with the same bytes behind them -/

namespace Cursor

/-- A cursor on one buffer and a cursor on another one have the same bytes behind them. -/
structure SameRest (first second : Buffer) (cur other : Cursor) : Prop where
  buffer_eq : cur.buffer = first
  other_buffer_eq : other.buffer = second
  rest_eq : cur.rest = other.rest

namespace SameRest

variable {first second : Buffer} {cur other next another : Cursor}

theorem remaining_eq (here : SameRest first second cur other) :
    cur.remaining = other.remaining := by
  rw [← length_rest, ← length_rest, here.rest_eq]

/-- A byte that is passed in one run is passed in the other run, too. -/
theorem step {byte : UInt8} (here : SameRest first second cur other)
    (passes : cur.Passes [byte] next) :
    ∃ another, other.Passes [byte] another ∧ SameRest first second next another := by
  obtain ⟨another, passesOther, rest⟩ :=
    Passes.of_rest (here.rest_eq.symm.trans passes.rest_eq)
  exact ⟨another, passesOther, passes.buffer_eq.trans here.buffer_eq,
    passesOther.buffer_eq.trans here.other_buffer_eq, rest.symm⟩

/-- **Two cursors of one run are the same exactly when those of the other run are.** -/
theorem beq_eq (here : SameRest first second cur other)
    (there : SameRest first second next another) : (next == cur) = (another == other) := by
  obtain ⟨rfl, rfl, rest⟩ := here
  obtain ⟨buffer, otherBuffer, restThere⟩ := there
  have lengths := congrArg List.length rest
  have lengthsThere := congrArg List.length restThere
  have wholeCur := cur.pos_add_length_rest
  have wholeOther := other.pos_add_length_rest
  have wholeNext := next.pos_add_length_rest
  have wholeAnother := another.pos_add_length_rest
  rw [buffer] at wholeNext
  rw [otherBuffer] at wholeAnother
  rw [Bool.eq_iff_iff, beq_eq_true_iff, beq_eq_true_iff, buffer, otherBuffer]
  simp only [true_and]
  omega

end SameRest

end Cursor

/-! ## Local parsers -/

namespace Parser

open Cursor (SameRest)

/-- A parser answers alike where the same bytes follow. -/
def Local (parser : Parser α) : Prop :=
  ∀ ⦃first second cur other⦄, SameRest first second cur other →
    Alike (SameRest first second) (parser cur) (parser other)

variable {parser : Parser α} {allowed : Fault → Prop}

theorem local_byteMatching (test : UInt8 → Bool) : (byteMatching test).Local := by
  intro first second cur other here
  rcases byteMatching_cases test cur with ⟨nothing, run⟩ | ⟨byte, next, passes, run⟩
  · rw [run, byteMatching_of_rest_eq_nil test (here.rest_eq.symm.trans nothing)]
    exact .failureAt here
  · obtain ⟨another, passesOther, there⟩ := here.step passes
    rw [run, byteMatching_of_passes test passesOther]
    split
    · exact .success byte there
    · exact .failureAt here

theorem local_wordMatching (test : Nat → Bool) : (wordMatching test).Local := by
  intro first second cur other here
  have read : Alike (SameRest first second) (word cur) (word other) := by
    rw [word, bindWith]
    apply (local_byteMatching _ here).bindMaking here
    intro _ _ _ _ ends
    exact local_byteMatching _ ends
  rw [wordMatching, wordMatching]
  generalize word cur = answer, word other = another at read
  cases read with
  | fault cause => exact .fault cause
  | failure _ attempts => exact .failure here attempts
  | success number ends =>
    dsimp only
    split
    · exact .success number ends
    · exact .failureAt here

namespace Local

theorem firstOf {others : List (Parser α)} (first : parser.Local)
    (rest : ∀ other ∈ others, other.Local) : (Parser.firstOf parser others).Local := by
  induction others generalizing parser with
  | nil => exact first
  | cons branch branches ih =>
    obtain ⟨second, third⟩ := List.forall_mem_cons.mp rest
    intro _ _ cur other here
    have start := first here
    simp only [Parser.firstOf]
    generalize parser cur = answer, parser other = another at start
    cases start with
    | fault cause => exact .fault cause
    | success value ends => exact .success value ends
    | failure _ _ => exact ih second third here

/-- The two loops take the same turns, if both may take as many steps as bytes are left. -/
theorem manyFrom {holds : α → Prop} (law : parser.Local) (advances : parser.Advances allowed holds)
    {first second : Buffer} {cur other : Cursor} {fuel steps : Nat} {before : List α}
    (here : SameRest first second cur other) (enough : cur.remaining ≤ fuel)
    (enoughOther : other.remaining ≤ steps) :
    Alike (SameRest first second) (parser.manyFrom fuel before cur)
      (parser.manyFrom steps before other) := by
  induction fuel using Nat.strongRecOn generalizing cur other steps before with
  | ind fuel ih =>
    have start := law here
    have answer := advances cur
    rw [Parser.manyFrom.eq_def, Parser.manyFrom.eq_def _ steps]
    generalize parser cur = answer, parser other = another at start answer
    cases start with
    | fault cause => exact .fault cause
    | failure _ _ => exact .success _ here
    | @success value next another ends =>
      dsimp only
      rw [← here.beq_eq ends]
      cases moved : next == cur with
      | true => exact .success _ here
      | false =>
        have fewer := Cursor.remaining_lt_of_le_of_ne answer.2 moved
        have left := here.remaining_eq
        have leftBehind := ends.remaining_eq
        obtain ⟨more, rfl⟩ : ∃ more, fuel = more + 1 := Nat.exists_eq_add_one.mpr (by omega)
        obtain ⟨others, rfl⟩ : ∃ others, steps = others + 1 :=
          Nat.exists_eq_add_one.mpr (by omega)
        exact ih more (Nat.lt_succ_self more) ends (by omega) (by omega)

theorem many {holds : α → Prop} (law : parser.Local) (advances : parser.Advances allowed holds) :
    parser.many.Local := by
  intro _ _ cur other here
  exact law.manyFrom advances here (Nat.sub_le _ _) (Nat.sub_le _ _)

theorem timesFrom (law : parser.Local) (count : Nat) (before : List α) :
    Local (parser.timesFrom count before) := by
  induction count generalizing before with
  | zero => exact fun _ _ _ _ here => .success _ here
  | succ count ih =>
    intro _ _ cur other here
    have start := law here
    rw [Parser.timesFrom, Parser.timesFrom]
    generalize parser cur = answer, parser other = another at start
    cases start with
    | fault cause => exact .fault cause
    | failure _ attempts => exact .failure here attempts
    | success value ends => exact ih (value :: before) ends

end Local

/-- **A composed parser answers alike where the same bytes follow.** -/
theorem Composed.local (composed : parser.Composed allowed) : parser.Local := by
  induction composed with
  | byteMatching test => exact local_byteMatching test
  | wordMatching test => exact local_wordMatching test
  | succeed value => exact fun _ _ _ _ here => .success value here
  | fail => exact fun _ _ _ _ here => .failureAt here
  | unbuildable _ => exact fun _ _ _ _ _ => .fault _
  | map _ f ih => exact fun _ _ _ _ here => (ih here).map here f
  | bindMaking _ _ _ first second =>
    intro _ _ cur other here
    apply (first here).bindMaking here
    intro value middle between run ends
    exact second value ⟨cur, middle, run⟩ ends
  | alternate _ _ _ first second rest =>
    exact first.firstOf (List.forall_mem_cons.mpr ⟨second, rest⟩)
  | notFollowedBy _ ih => exact fun _ _ _ _ here => (ih here).notFollowedBy here
  | many composed ih => exact ih.many composed.advances
  | times _ built ih =>
    rw [Parser.times] at built
    split at built
    · cases built
    · cases built
      exact ih.timesFrom _ _

/-- **Parsing does not depend on positions.** Where a buffer holds the bytes of another one behind
some others, a composed parser answers alike at the cursor that stands as many bytes further on. It
meets the same fault, or yields the same value or none, and the cursors of the two outcomes are as
far apart as the cursors it was given. -/
theorem Composed.position_independent (composed : parser.Composed allowed) {before : List UInt8}
    {far near : Cursor} (contents : far.buffer.toList = before ++ near.buffer.toList)
    (place : far.pos = before.length + near.pos) :
    Alike (fun last other => (last.buffer = far.buffer ∧ other.buffer = near.buffer) ∧
      last.pos = before.length + other.pos) (parser far) (parser near) := by
  have sizes := congrArg List.length contents
  rw [List.length_append, Buffer.length_toList, Buffer.length_toList] at sizes
  have here : SameRest far.buffer near.buffer far near := by
    refine ⟨rfl, rfl, ?_⟩
    rw [Cursor.rest, Cursor.rest, contents, place, ← List.drop_drop, List.drop_left]
  apply (composed.local here).mono
  intro last other ends
  have whole := last.pos_add_length_rest
  have wholeOther := other.pos_add_length_rest
  have left := congrArg List.length ends.rest_eq
  rw [ends.buffer_eq] at whole
  rw [ends.other_buffer_eq] at wholeOther
  exact ⟨⟨ends.buffer_eq, ends.other_buffer_eq⟩, by omega⟩

/-! ### A document with and without the byte in front of it -/

namespace Sample

/-- The cursor in front of the document, where one byte stands before it. -/
def behindByte : Cursor :=
  ⟨.ofList Format.Sample.data, 1, by decide⟩

/-- The cursor in front of the document, where nothing stands before it. -/
def foremost : Cursor :=
  (Buffer.ofList (Format.Sample.data.drop 1) 1).start

theorem grammar_position_independent :
    Format.standard.grammar behindByte =
        .ok (.success Format.Sample.segments ⟨behindByte.buffer, 13, by decide⟩) ∧
      ∃ last, Format.standard.grammar foremost = .ok (.success Format.Sample.segments last) ∧
        13 = 1 + last.pos := by
  have run : Format.standard.grammar behindByte =
      .ok (.success Format.Sample.segments ⟨behindByte.buffer, 13, by decide⟩) :=
    Format.standard.grammar_eq_success_iff_standsAt.mpr ⟨rfl, Format.Sample.standsAt⟩
  have contents : behindByte.buffer.toList = [0x00] ++ foremost.buffer.toList := rfl
  have composed : Format.standard.grammar.Composed fun _ => False := .grammar _
  have alike := composed.position_independent contents rfl
  rw [run] at alike
  obtain ⟨last, runForemost, ends⟩ := alike.exists_of_success
  exact ⟨run, last, runForemost, ends.2⟩

end Sample

end Parser

end ByteGrammar
