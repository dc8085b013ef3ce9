import ByteGrammar.Proofs.Construction
import Mathlib.Data.List.FinRange
import Mathlib.Data.List.Forall2

/-!
# Failed attempts in the order in which they are made

The second cursor of a failure is said to be that of the last failed attempt. The combinators do not
look at attempts. They hand that cursor on, or drop it with the failure it belongs to, and a success
has none. This module says what is meant, by running parsers on an engine that keeps a record.

Four things are failed attempts: a byte that is missing or does not pass its test, the parser that
always fails, a negation whose parser succeeds, and a whole word that does not pass its test. The
recording engine notes the position of each when it happens (`Parser.Recorder`), and does what the
plain engine does otherwise. The notes of a part are kept whatever becomes of its outcome: those of
the tries that end a repetition, of the branches of a choice that are given up and of a parser under a
negation stay in the record.

A run on this engine has the outcome of the plain parser, and if that is a failure its attempted
cursor stands at the last note (`Parser.Run.Records`). The law is closed under the combinators. A
combinator that reports another cursor adds no note behind the failure it hands on
(`Run.Records.reported`), and one that goes on after a failure starts a part whose own notes come last
(`Run.Records.andThen`).
-/

set_option autoImplicit false

namespace ByteGrammar

variable {α β γ : Type}

namespace Parser

/-! ## The recording engine -/

/-- An answer, with the positions of the failed attempts that were made on the way to it. -/
structure Run (α : Type) where
  attempts : List Nat
  answer : Except Fault (Outcome α)

namespace Run

/-- An answer without a failed attempt of its own. -/
def plain (answer : Except Fault (Outcome α)) : Run α :=
  ⟨[], answer⟩

/-- The failed attempt at a cursor. -/
def failedAt (cur : Cursor) : Run α :=
  ⟨[cur.pos], .ok (.failureAt cur)⟩

/-- Go on with the answer of a run. Its notes come first. -/
def andThen (run : Run α) (next : Except Fault (Outcome α) → Run β) : Run β :=
  ⟨run.attempts ++ (next run.answer).attempts, (next run.answer).answer⟩

end Run

/-- A parser on the recording engine. -/
abbrev Recorder (α : Type) := Cursor → Run α

namespace Recorder

def byteMatching (test : UInt8 → Bool) : Recorder UInt8 :=
  fun cur =>
    if cur.atEnd then
      .failedAt cur
    else
      match cur.current with
      | .error fault => .plain (.error fault)
      | .ok byte =>
        if test byte then
          match cur.advance with
          | .error fault => .plain (.error fault)
          | .ok remainder => .plain (.ok (.success byte remainder))
        else
          .failedAt cur

def succeed (value : α) : Recorder α :=
  fun cur => .plain (.ok (.success value cur))

def fail : Recorder α :=
  fun cur => .failedAt cur

def unbuildable (fault : Fault) : Recorder α :=
  fun _ => .plain (.error fault)

def map (recorder : Recorder α) (f : α → β) : Recorder β :=
  fun cur => (recorder cur).andThen fun
    | .error fault => .plain (.error fault)
    | .ok (.success value remainder) => .plain (.ok (.success (f value) remainder))
    | .ok (.failure _ attemptedAt) => .plain (.ok (.failure cur attemptedAt))

def bindMaking (recorder : Recorder α) (next : α → Recorder β) (make : α → β → Except Fault γ) :
    Recorder γ :=
  fun cur => (recorder cur).andThen fun
    | .error fault => .plain (.error fault)
    | .ok (.failure _ attemptedAt) => .plain (.ok (.failure cur attemptedAt))
    | .ok (.success first middle) => (next first middle).andThen fun
      | .error fault => .plain (.error fault)
      | .ok (.failure _ attemptedAt) => .plain (.ok (.failure cur attemptedAt))
      | .ok (.success second remainder) =>
        match make first second with
        | .error fault => .plain (.error fault)
        | .ok value => .plain (.ok (.success value remainder))

/-- A word is read as two bytes. A whole word that does not pass is an attempt at its first byte. -/
def wordMatching (test : Nat → Bool) : Recorder Nat :=
  let anyByte := byteMatching fun _ => true
  let word := anyByte.bindMaking (fun _ => anyByte) fun high low => .ok (Word.ofBytes high low)
  fun cur => (word cur).andThen fun
    | .error fault => .plain (.error fault)
    | .ok (.failure _ attemptedAt) => .plain (.ok (.failure cur attemptedAt))
    | .ok (.success value remainder) =>
      if test value then .plain (.ok (.success value remainder)) else .failedAt cur

def firstOf : Recorder α → List (Recorder α) → Recorder α
  | last, [] => last
  | branch, other :: others => fun cur => (branch cur).andThen fun
    | .ok (.failure _ _) => firstOf other others cur
    | answer => .plain answer

def notFollowedBy (recorder : Recorder α) : Recorder Unit :=
  fun cur => (recorder cur).andThen fun
    | .error fault => .plain (.error fault)
    | .ok (.success _ _) => .failedAt cur
    | .ok (.failure _ _) => .plain (.ok (.success () cur))

/-- The loop of an open-ended repetition. The note of the try that ends it is kept. -/
def manyFrom (recorder : Recorder α) (fuel : Nat) (values : List α) (cur : Cursor) : Run (List α) :=
  (recorder cur).andThen fun
    | .error fault => .plain (.error fault)
    | .ok (.failure _ _) => .plain (.ok (.success values.reverse cur))
    | .ok (.success value remainder) =>
      if remainder == cur then
        .plain (.ok (.success values.reverse cur))
      else
        match fuel with
        | 0 => .plain (.error .endlessRepetition)
        | fuel + 1 => manyFrom recorder fuel (value :: values) remainder

def timesFrom (recorder : Recorder α) : Nat → List α → Recorder (List α)
  | 0, values => fun cur => .plain (.ok (.success values.reverse cur))
  | count + 1, values => fun cur => (recorder cur).andThen fun
    | .error fault => .plain (.error fault)
    | .ok (.failure _ attemptedAt) => .plain (.ok (.failure cur attemptedAt))
    | .ok (.success value remainder) => timesFrom recorder count (value :: values) remainder

end Recorder

/-- The parser of a tree on the recording engine. -/
def Construction.recorder : {α : Type} → Construction α → Recorder α
  | _, .byteMatching test => Recorder.byteMatching test
  | _, .wordMatching test => Recorder.wordMatching test
  | _, .succeed value => Recorder.succeed value
  | _, .fail => Recorder.fail
  | _, .unbuildable fault => Recorder.unbuildable fault
  | _, .map part f => part.recorder.map f
  | _, .bindMaking first next make =>
    first.recorder.bindMaking (fun value => (next value).recorder) make
  | _, .alternate branches =>
    Recorder.firstOf (branches 0).recorder
      ((branches 1).recorder :: List.ofFn fun index => (branches index.succ.succ).recorder)
  | _, .notFollowedBy part => part.recorder.notFollowedBy
  | _, .many part => fun cur => part.recorder.manyFrom cur.buffer.size [] cur
  | _, .times part count => part.recorder.timesFrom count []

/-! ## What a record tells -/

/-- A run has a given answer, and if that is a failure, its last note is the position of the attempted
cursor. -/
structure Run.Records (run : Run α) (answer : Except Fault (Outcome α)) : Prop where
  answer_eq : run.answer = answer
  last_attempt : ∀ reported attempted, answer = .ok (.failure reported attempted) →
    run.attempts.getLast? = some attempted.pos

namespace Run.Records

variable {run : Run α} {answer : Except Fault (Outcome α)} {cur : Cursor}

theorem failedAt (cur : Cursor) : (Run.failedAt cur : Run α).Records (.ok (.failureAt cur)) := by
  refine ⟨rfl, ?_⟩
  rintro _ _ ⟨⟩
  rfl

theorem fault (cause : Fault) : (Run.plain (.error cause) : Run α).Records (.error cause) := by
  refine ⟨rfl, ?_⟩
  rintro _ _ ⟨⟩

theorem success (value : α) (last : Cursor) :
    (Run.plain (.ok (.success value last))).Records (.ok (.success value last)) := by
  refine ⟨rfl, ?_⟩
  rintro _ _ ⟨⟩

/-- The notes of what comes after a run come last. -/
theorem andThen {next : Except Fault (Outcome α) → Run β} {further : Except Fault (Outcome β)}
    (first : run.Records answer) (second : (next answer).Records further) :
    (run.andThen next).Records further := by
  obtain ⟨rfl, _⟩ := first
  refine ⟨second.answer_eq, fun reported attempted failed => ?_⟩
  rw [Run.andThen, List.getLast?_append, second.last_attempt reported attempted failed]
  rfl

/-- Reporting a failure at another cursor adds no note. -/
theorem reported {next : Except Fault (Outcome α) → Run β} {reported attempted : Cursor}
    (first : run.Records (.ok (.failure reported attempted)))
    (moved : next (.ok (.failure reported attempted)) = .plain (.ok (.failure cur attempted))) :
    (run.andThen next).Records (.ok (.failure cur attempted)) := by
  obtain ⟨same, last⟩ := first
  rw [Run.andThen, same, moved]
  refine ⟨rfl, ?_⟩
  rintro _ _ ⟨⟩
  rw [Run.plain, List.append_nil]
  exact last reported attempted rfl

end Run.Records

/-! ## One law for each combinator -/

/-- A recorder runs a parser at every cursor. -/
def Recorder.Tracks (recorder : Recorder α) (parser : Parser α) : Prop :=
  ∀ cur, (recorder cur).Records (parser cur)

namespace Recorder.Tracks

variable {recorder : Recorder α} {parser : Parser α}

theorem byteMatching (test : UInt8 → Bool) :
    (Recorder.byteMatching test).Tracks (Parser.byteMatching test) := by
  intro cur
  rw [Recorder.byteMatching, Parser.byteMatching]
  split
  · exact .failedAt cur
  · cases cur.current with
    | error cause => exact .fault cause
    | ok byte =>
      dsimp only
      split
      · cases cur.advance with
        | error cause => exact .fault cause
        | ok next => exact .success byte next
      · exact .failedAt cur

theorem map (part : recorder.Tracks parser) (f : α → β) :
    (recorder.map f).Tracks (parser.map f) := by
  intro cur
  have first := part cur
  rw [Recorder.map, Parser.map]
  generalize parser cur = answer at first
  rcases answer with cause | ⟨value, last⟩ | ⟨reported, attempted⟩
  · exact first.andThen (.fault cause)
  · exact first.andThen (.success (f value) last)
  · exact first.reported rfl

theorem bindMaking {next : α → Recorder β} {follows : α → Parser β}
    (part : recorder.Tracks parser) (rest : ∀ value, (next value).Tracks (follows value))
    (make : α → β → Except Fault γ) :
    (recorder.bindMaking next make).Tracks (parser.bindMaking follows make) := by
  intro cur
  have first := part cur
  rw [Recorder.bindMaking, Parser.bindMaking]
  generalize parser cur = answer at first
  rcases answer with cause | ⟨value, middle⟩ | ⟨reported, attempted⟩
  · exact first.andThen (.fault cause)
  · refine first.andThen ?_
    have second := rest value middle
    dsimp only
    generalize follows value middle = answer at second
    rcases answer with cause | ⟨other, last⟩ | ⟨reported, attempted⟩
    · exact second.andThen (.fault cause)
    · refine second.andThen ?_
      dsimp only
      cases make value other with
      | error cause => exact .fault cause
      | ok whole => exact .success whole last
    · exact second.reported rfl
  · exact first.reported rfl

theorem wordMatching (test : Nat → Bool) :
    (Recorder.wordMatching test).Tracks (Parser.wordMatching test) := by
  intro cur
  have read := (byteMatching fun _ => true).bindMaking (fun _ => byteMatching fun _ => true)
    (fun high low => .ok (Word.ofBytes high low)) cur
  rw [Recorder.wordMatching, Parser.wordMatching, word, bindWith, anyByte]
  generalize Parser.bindMaking _ _ _ cur = answer at read
  rcases answer with cause | ⟨number, last⟩ | ⟨reported, attempted⟩
  · exact read.andThen (.fault cause)
  · refine read.andThen ?_
    dsimp only
    split
    · exact .success number last
    · exact .failedAt cur
  · exact read.reported rfl

/-- The notes of the branches that are given up stand before those of the branch that is taken. -/
theorem firstOf {recorders : List (Recorder α)} {parsers : List (Parser α)}
    (first : recorder.Tracks parser) (rest : List.Forall₂ Recorder.Tracks recorders parsers) :
    (Recorder.firstOf recorder recorders).Tracks (Parser.firstOf parser parsers) := by
  induction rest generalizing recorder parser with
  | nil => exact first
  | cons second _ ih =>
    intro cur
    have start := first cur
    simp only [Recorder.firstOf, Parser.firstOf]
    generalize parser cur = answer at start
    rcases answer with cause | ⟨value, last⟩ | ⟨reported, attempted⟩
    · exact start.andThen (.fault cause)
    · exact start.andThen (.success value last)
    · exact start.andThen (ih second cur)

theorem notFollowedBy (part : recorder.Tracks parser) :
    recorder.notFollowedBy.Tracks parser.notFollowedBy := by
  intro cur
  have first := part cur
  rw [Recorder.notFollowedBy, Parser.notFollowedBy]
  generalize parser cur = answer at first
  rcases answer with cause | ⟨value, last⟩ | ⟨reported, attempted⟩
  · exact first.andThen (.fault cause)
  · exact first.andThen (.failedAt cur)
  · exact first.andThen (.success () cur)

theorem manyFrom (part : recorder.Tracks parser) (fuel : Nat) (values : List α) (cur : Cursor) :
    (recorder.manyFrom fuel values cur).Records (parser.manyFrom fuel values cur) := by
  induction fuel generalizing values cur with
  | zero =>
    have first := part cur
    rw [Recorder.manyFrom, Parser.manyFrom]
    generalize parser cur = answer at first
    rcases answer with cause | ⟨value, last⟩ | ⟨reported, attempted⟩
    · exact first.andThen (.fault cause)
    · refine first.andThen ?_
      dsimp only
      split
      · exact .success _ cur
      · exact .fault _
    · exact first.andThen (.success _ cur)
  | succ fuel ih =>
    have first := part cur
    rw [Recorder.manyFrom, Parser.manyFrom]
    generalize parser cur = answer at first
    rcases answer with cause | ⟨value, last⟩ | ⟨reported, attempted⟩
    · exact first.andThen (.fault cause)
    · refine first.andThen ?_
      dsimp only
      split
      · exact .success _ cur
      · exact ih (value :: values) last
    · exact first.andThen (.success _ cur)

theorem timesFrom (part : recorder.Tracks parser) (count : Nat) (values : List α) :
    (recorder.timesFrom count values).Tracks (parser.timesFrom count values) := by
  induction count generalizing values with
  | zero => exact fun cur => .success _ cur
  | succ count ih =>
    intro cur
    have first := part cur
    rw [Recorder.timesFrom, Parser.timesFrom]
    generalize parser cur = answer at first
    rcases answer with cause | ⟨value, last⟩ | ⟨reported, attempted⟩
    · exact first.andThen (.fault cause)
    · exact first.andThen (ih (value :: values) last)
    · exact first.reported rfl

end Recorder.Tracks

/-- Every tree is run alike on both engines. -/
theorem Construction.tracks (construction : Construction α) :
    construction.recorder.Tracks construction.parser := by
  induction construction with
  | byteMatching test => exact .byteMatching test
  | wordMatching test => exact .wordMatching test
  | succeed value => exact fun cur => .success value cur
  | fail => exact fun cur => .failedAt cur
  | unbuildable cause => exact fun _ => .fault cause
  | map _ f ih => exact ih.map f
  | bindMaking _ _ make first second => exact first.bindMaking second make
  | alternate branches ih =>
    refine (ih 0).firstOf (.cons (ih 1) ?_)
    rw [List.ofFn_eq_map, List.ofFn_eq_map, List.forall₂_map_left_iff, List.forall₂_map_right_iff,
      List.forall₂_same]
    exact fun index _ => ih index.succ.succ
  | notFollowedBy _ ih => exact ih.notFollowedBy
  | many _ ih => exact fun cur => ih.manyFrom _ [] cur
  | times _ count ih => exact ih.timesFrom count []

/-- **The attempted cursor of a failure is that of the last failed attempt.** Whatever tree a parser is
put together by, and at every cursor, the recording engine comes to the answer of the parser. If that
is a failure, attempts were recorded, and the last of them was made at its attempted cursor. -/
theorem Construction.fails_at_last_attempt (construction : Construction α) (cur : Cursor) :
    (construction.recorder cur).answer = construction.parser cur ∧
      ∀ reported attempted, construction.parser cur = .ok (.failure reported attempted) →
        (construction.recorder cur).attempts.getLast? = some attempted.pos :=
  ⟨(construction.tracks cur).answer_eq, (construction.tracks cur).last_attempt⟩

/-! ### A document that breaks off in a payload

The generic segment is tried first, and the byte that its payload misses is noted at the end of the
data. That ends the repetition. The terminal segment is tried then, and fails further to the front, at
its second byte. -/

namespace Sample

/-- The cursor at a position of a start marker and a segment whose payload is a byte too short. -/
def brokenOff (pos : Nat) (inside : pos ≤ 7) : Cursor :=
  ⟨.ofList [0xFF, 0xD8, 0xFF, 0xE0, 0x00, 0x04, 0xAA], pos, inside⟩

theorem brokenOff_fails_at_last_attempt :
    (Construction.grammar .standard).parser (brokenOff 0 (by decide)) =
        .ok (.failure (brokenOff 0 (by decide)) (brokenOff 3 (by decide))) ∧
      ((Construction.grammar .standard).recorder (brokenOff 0 (by decide))).attempts = [7, 3] ∧
      ((Construction.grammar .standard).recorder (brokenOff 0 (by decide))).attempts.getLast? =
        some 3 := by
  have run : (Construction.grammar .standard).parser (brokenOff 0 (by decide)) =
      .ok (.failure (brokenOff 0 (by decide)) (brokenOff 3 (by decide))) := rfl
  exact ⟨run, by decide +kernel, ((Construction.grammar .standard).fails_at_last_attempt _).2 _ _ run⟩

end Sample

end Parser

end ByteGrammar
