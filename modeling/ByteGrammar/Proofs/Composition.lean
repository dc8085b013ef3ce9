import ByteGrammar.Proofs.DocumentGrammar

/-!
# Parsers that are put together

A parser is composed if it is put together from the primitives by the combinators, to any
depth (`Parser.Composed`). The tests, the functions on values and the second parts of
sequences that go into it are arbitrary. A second part is chosen by a value, and it has to
be composed for the values that the first part can yield.

Such a part is built when the value is known. It may turn out that it cannot be built, and
in the same way it may turn out that nothing can be made of the two values of a sequence.
The application then ends in a fault. The faults that can come about like this are a
parameter of the notion, so a parser in which every part can be built is one that is
composed without any fault.

The grammars of segments and documents are composed in this strict sense
(`Parser.Composed.document`), although their parts are built from numbers in the data.

What is known of each combinator holds for all that is put together from them, by
induction on the composition. The first such fact is that a composed parser stays in its
buffer and never goes back (`Parser.Composed.stays_in_buffer`). It needs the law of all
parsers inside: the loop of a repetition ends because its parser does not go back.
-/

set_option autoImplicit false

namespace ByteGrammar

variable {α β γ : Type} {allowed : Fault → Prop}

namespace Parser

/-- A parser succeeds with a value at some cursor. -/
def Yields (parser : Parser α) (value : α) : Prop :=
  ∃ cur last, parser cur = .ok (.success value last)

/-- Parsers that are put together from the primitives by the combinators. No fault comes from
the parts that were put in but those that are allowed. -/
inductive Composed (allowed : Fault → Prop) : {α : Type} → Parser α → Prop
  | byteMatching (test : UInt8 → Bool) : Composed allowed (byteMatching test)
  | wordMatching (test : Nat → Bool) : Composed allowed (wordMatching test)
  | succeed {α : Type} (value : α) : Composed allowed (succeed value)
  | fail {α : Type} : Composed allowed (fail : Parser α)
  /-- A part that cannot be built where it is needed. -/
  | unbuildable {α : Type} {fault : Fault} (met : allowed fault) :
      Composed allowed (deferred (.error fault) : Parser α)
  | map {α β : Type} {part : Parser α} (composed : Composed allowed part) (f : α → β) :
      Composed allowed (part.map f)
  | bindMaking {α β γ : Type} {first : Parser α} {next : α → Parser β}
      {make : α → β → Except Fault γ} (composed : Composed allowed first)
      (follows : ∀ value, first.Yields value → Composed allowed (next value))
      (faults : ∀ value other fault, first.Yields value → (next value).Yields other →
        make value other = .error fault → allowed fault) :
      Composed allowed (first.bindMaking next make)
  | alternate {α : Type} {first second : Parser α} {others : List (Parser α)}
      (composed : Composed allowed first) (follows : Composed allowed second)
      (rest : ∀ other ∈ others, Composed allowed other) :
      Composed allowed (alternate first second others)
  | notFollowedBy {α : Type} {part : Parser α} (composed : Composed allowed part) :
      Composed allowed part.notFollowedBy
  | many {α : Type} {part : Parser α} (composed : Composed allowed part) :
      Composed allowed part.many
  | times {α : Type} {part : Parser α} {count : Int} {repeated : Parser (List α)}
      (composed : Composed allowed part) (built : part.times count = .ok repeated) :
      Composed allowed repeated

namespace Composed

/-! ## Sequences whose values are joined by a function -/

theorem bindWith {first : Parser α} {next : α → Parser β} (composed : first.Composed allowed)
    (follows : ∀ value, first.Yields value → (next value).Composed allowed) (join : α → β → γ) :
    (first.bindWith next join).Composed allowed := by
  apply composed.bindMaking follows
  intro value other fault _ _ made
  cases made

theorem bind {first : Parser α} {next : α → Parser β} (composed : first.Composed allowed)
    (follows : ∀ value, first.Yields value → (next value).Composed allowed) :
    (first.bind next).Composed allowed :=
  composed.bindWith follows _

/-! ## Bytes and words -/

theorem anyByte : anyByte.Composed allowed :=
  .byteMatching _

theorem endOfInput : endOfInput.Composed allowed :=
  .notFollowedBy .anyByte

theorem word : word.Composed allowed :=
  anyByte.bindWith (fun _ _ => .anyByte) _

/-- Every parser of one byte that can be built. -/
theorem byteEqualTo {value : Int} {parser : Parser UInt8}
    (built : byteEqualTo value = .ok parser) : parser.Composed allowed := by
  rw [Parser.byteEqualTo] at built
  split at built
  · cases built
    exact .byteMatching _
  · cases built

theorem fixedWord (value : UInt16) : (fixedWord value).Composed allowed := by
  apply (byteMatching _).bindWith
  intro _ _
  exact .byteMatching _

/-- Every parser of a fixed word that can be built. -/
theorem wordEqualTo {value : Int} {parser : Parser Nat}
    (built : wordEqualTo value = .ok parser) : parser.Composed allowed := by
  obtain ⟨word, _, rfl⟩ := wordEqualTo_eq_ok_iff.mp built
  exact .fixedWord word

/-- Every start marker that can be built. -/
theorem startMarker {marker : Int} {parser : Parser Nat}
    (built : Segment.startMarker marker = .ok parser) : parser.Composed allowed := by
  obtain ⟨word, _, rfl⟩ := startMarker_eq_ok_iff.mp built
  exact .fixedWord word

/-! ## Segments and documents -/

/-- The payload of every length can be built, and so can the repetition of bytes in it. -/
theorem lengthAndPayload : Segment.lengthAndPayload.Composed allowed := by
  apply word.bindWith
  intro length _
  cases built : Segment.payload length with
  | error fault =>
    rw [Segment.payload_eq] at built
    cases built
  | ok parser => exact .times .anyByte built

/-- A segment is composed if its type is, because the check of a segment never fails for a type
that is a word. -/
theorem markedBy {marker : Parser Nat} (composed : marker.Composed allowed)
    (small : marker.Forward fun number => number < 65536) :
    (Segment.markedBy marker).Composed allowed := by
  refine composed.bindMaking (fun _ _ => .lengthAndPayload) ?_
  rintro type length fault ⟨_, _, runType⟩ ⟨_, _, runLength⟩ made
  have typeSmall := (small.of_success runType).1
  have lengthSmall := (Segment.forward_lengthAndPayload.of_success runLength).1
  rw [Segment.ofNumbers_of_lt typeSmall lengthSmall] at made
  cases made

theorem generic (terminal : Int) : (Segment.generic terminal).Composed allowed :=
  .markedBy (.wordMatching _) (forward_wordMatching _)

/-- Every terminal segment that can be built. -/
theorem terminal {marker : Int} {parser : Parser Segment}
    (built : Segment.terminal marker = .ok parser) : parser.Composed allowed := by
  rw [Segment.terminal] at built
  cases word : Parser.wordEqualTo marker with
  | error fault =>
    rw [word] at built
    cases built
  | ok first =>
    rw [word] at built
    cases built
    obtain ⟨type, _, rfl⟩ := wordEqualTo_eq_ok_iff.mp word
    exact .markedBy (.fixedWord type) (forward_fixedWord type)

/-- The grammar of every format. -/
theorem grammar (format : Format) : format.grammar.Composed allowed := by
  have last : format.lastSegment.Composed allowed := by
    have segment : (Segment.markedBy (Parser.fixedWord format.terminal)).Composed allowed :=
      .markedBy (.fixedWord _) (forward_fixedWord _)
    rw [Format.lastSegment]
    split
    · exact segment.bindWith (fun _ _ => .endOfInput) _
    · exact segment
  apply (fixedWord format.start).bind
  intro _ _
  exact (many (.generic _)).bindWith (fun _ _ => last) _

/-- Every document grammar that can be built, which is that of every format. -/
theorem document {format : Format} {parser : Parser (List Segment)}
    (built : format.document = .ok parser) : parser.Composed allowed := by
  rw [format.document_eq] at built
  cases built
  exact .grammar format

end Composed

/-! ## Where composed parsers go -/

theorem Advances.yields {parser : Parser α} {holds : α → Prop}
    (advances : parser.Advances allowed holds) : parser.Advances allowed parser.Yields := by
  intro cur
  rcases advances.cases cur with ⟨fault, run, met⟩ | ⟨value, last, run, _, ahead⟩ |
    ⟨reported, attempted, run, ahead⟩
  · rw [run]
    exact met
  · rw [run]
    exact ⟨⟨cur, last, run⟩, ahead⟩
  · rw [run]
    exact ahead

/-- **A composed parser never goes back, and meets no fault but those that come from its
parts.** -/
theorem Composed.advances {parser : Parser α} (composed : parser.Composed allowed) :
    parser.Advances allowed fun _ => True := by
  induction composed with
  | byteMatching test => exact ((forward_byteMatching test).advances _).mono fun _ _ => trivial
  | wordMatching test => exact ((forward_wordMatching test).advances _).mono fun _ _ => trivial
  | succeed value => exact fun cur => ⟨trivial, le_refl cur⟩
  | fail => exact fun cur => ⟨le_refl cur, le_refl cur⟩
  | unbuildable met => exact fun _ => met
  | map _ f ih => exact ih.map fun _ _ => trivial
  | bindMaking _ _ faults first second =>
    apply first.yields.bindMaking (fun value yields => (second value yields).yields)
    · intro _ _ _ _ _ _
      trivial
    · exact faults
  | alternate _ _ _ first second rest =>
    exact first.firstOf (List.forall_mem_cons.mpr ⟨second, rest⟩)
  | notFollowedBy _ ih => exact ih.notFollowedBy
  | many _ ih => exact ih.many.mono fun _ _ => trivial
  | times _ built ih =>
    rw [Parser.times] at built
    split at built
    · cases built
    · cases built
      exact ih.timesFrom _ _

/-- **Cursors only move forward and stay in their buffer.** A success of a composed parser ends on
the buffer it began on, not before its beginning. Both cursors of a failure stand on that buffer,
the attempted one not before the reported one, and that one not before the beginning. -/
theorem Composed.stays_in_buffer {parser : Parser α} (composed : parser.Composed allowed)
    (cur : Cursor) :
    (∀ value last, parser cur = .ok (.success value last) →
      last.buffer = cur.buffer ∧ cur.pos ≤ last.pos ∧ last.pos ≤ cur.buffer.size) ∧
    ∀ reported attempted, parser cur = .ok (.failure reported attempted) →
      (reported.buffer = cur.buffer ∧ attempted.buffer = cur.buffer) ∧
        cur.pos ≤ reported.pos ∧ reported.pos ≤ attempted.pos ∧
          attempted.pos ≤ cur.buffer.size := by
  have answer := composed.advances cur
  constructor
  · intro value last run
    rw [run] at answer
    obtain ⟨_, ahead⟩ := answer
    have inside := last.pos_le_size
    rw [ahead.1] at inside
    exact ⟨ahead.1, ahead.2, inside⟩
  · intro reported attempted run
    rw [run] at answer
    obtain ⟨ahead, further⟩ := answer
    have sameBuffer := further.1.trans ahead.1
    have inside := attempted.pos_le_size
    rw [sameBuffer] at inside
    exact ⟨⟨ahead.1, sameBuffer⟩, ahead.2, further.2, inside⟩

/-! ### A repetition that fails behind its first part

The choice hands on the failure of its last branch as it is. That branch reports the cursor
behind the word that was read, and the byte that is missed lies behind it. -/

namespace Sample

/-- The cursor at a position of three bytes. -/
def threeBytes (pos : Nat) (inside : pos ≤ 3) : Cursor :=
  ⟨.ofList [0x01, 0x02, 0x03], pos, inside⟩

/-- Two words, or a failure. -/
def twoWords : Parser (List Nat) :=
  alternate fail (word.timesFrom 2 [])

theorem composed_twoWords : twoWords.Composed allowed := by
  have built : word.times 2 = .ok (word.timesFrom 2 []) := rfl
  have words : Composed allowed (word.timesFrom 2 []) := .times .word built
  exact .alternate .fail words (by simp)

theorem twoWords_stays_in_buffer :
    twoWords (threeBytes 0 (by decide)) =
        .ok (.failure (threeBytes 2 (by decide)) (threeBytes 3 (by decide))) ∧
      0 ≤ 2 ∧ 2 ≤ 3 ∧ 3 ≤ (threeBytes 0 (by decide)).buffer.size := by
  have run : twoWords (threeBytes 0 (by decide)) =
      .ok (.failure (threeBytes 2 (by decide)) (threeBytes 3 (by decide))) := rfl
  have composed : twoWords.Composed fun _ => False := composed_twoWords
  exact ⟨run, ((composed.stays_in_buffer _).2 _ _ run).2⟩

end Sample

end Parser

end ByteGrammar
