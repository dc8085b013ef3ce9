import ByteGrammar.Proofs.SegmentGrammar

/-!
# The grammar of documents

The grammar of every format can be built (`Format.document_eq`), and it accepts exactly the
stored forms of documents. The generic segments are read by a repetition that never steps
back. Nothing is lost by that, because a segment of the terminal type is never generic: the
repetition stops in front of the first one, and it cannot have gone on beyond it.

A cursor has at most one stored document behind it. This needs no argument about the form.
It follows from the equivalence, since the grammar has one answer.
-/

set_option autoImplicit false

namespace ByteGrammar

namespace Format

open ByteGrammar.Parser

/-! ## The parsers that are built -/

/-- The parser of the last segment. -/
def lastSegment (format : Format) : Parser Segment :=
  let segment := Segment.markedBy (fixedWord format.terminal)
  if format.requireEnd then segment.bindWith (fun _ => endOfInput) fun last _ => last else segment

/-- The parser of the segments behind the start marker. -/
def body (format : Format) : Parser (List Segment) :=
  (many (Segment.generic format.terminal.toNat)).bindWith (fun _ => format.lastSegment) appended

/-- The parser of a document. -/
def grammar (format : Format) : Parser (List Segment) :=
  (fixedWord format.start).bind fun _ => format.body

theorem terminalSegment_eq (format : Format) : format.terminalSegment = .ok format.lastSegment := by
  rw [terminalSegment, Segment.terminal_toNat, lastSegment]
  cases format.requireEnd <;> rfl

/-- The grammar of every format can be built. -/
theorem document_eq (format : Format) : format.document = .ok format.grammar := by
  rw [document, startMarker_toNat, terminalSegment_eq]
  rfl

/-! ## What they accept -/

theorem forward_lastSegment (format : Format) : format.lastSegment.Forward fun _ => True := by
  have segment := Segment.forward_markedBy (forward_fixedWord format.terminal)
  rw [lastSegment]
  split
  · exact segment.bindWith (fun _ _ => forward_endOfInput) fun _ _ _ _ => trivial
  · exact segment

theorem forward_body (format : Format) : format.body.Forward fun _ => True :=
  (Segment.forward_generic _).many.bindWith (fun _ _ => format.forward_lastSegment)
    fun _ _ _ _ => trivial

/-- **The grammar of a format meets no fault and does not go back.** -/
theorem forward_grammar (format : Format) : format.grammar.Forward fun _ => True :=
  (forward_fixedWord format.start).bindWith (fun _ _ => format.forward_body)
    fun _ _ _ _ => trivial

/-- A failure of the grammar is reported at the cursor it was given. -/
theorem eq_of_grammar_eq_failure (format : Format) {cur reported attempted : Cursor}
    (run : format.grammar cur = .ok (.failure reported attempted)) : reported = cur := by
  unfold grammar Parser.bind Parser.bindWith at run
  exact eq_of_bindMaking_eq_failure run

theorem lastSegment_eq_success_iff (format : Format) {cur last : Cursor} {segment : Segment} :
    format.lastSegment cur = .ok (.success segment last) ↔
      (∃ bytes, cur.Passes bytes last ∧ segment.Stored bytes ∧ segment.type = format.terminal) ∧
        (format.requireEnd = true → last.rest = []) := by
  have recognised := Segment.recognises_terminal format.terminal cur segment last
  rw [lastSegment]
  split
  · next wanted =>
    simp only [bindWith_eq_success_iff, endOfInput_eq_success_iff, wanted, true_implies]
    constructor
    · rintro ⟨_, middle, _, run, ⟨nothing, rfl⟩, rfl⟩
      exact ⟨recognised.mp run, nothing⟩
    · rintro ⟨stored, nothing⟩
      exact ⟨segment, last, (), recognised.mpr stored, ⟨nothing, rfl⟩, rfl⟩
  · next unwanted =>
    rw [recognised]
    simp [unwanted]

/-- No segment is both generic and the last one. -/
theorem generic_apart_lastSegment (format : Format) (cur : Cursor) (segment : Segment)
    (middle : Cursor) (other : Segment) (last : Cursor)
    (run : Segment.generic format.terminal.toNat cur = .ok (.success segment middle)) :
    format.lastSegment cur ≠ .ok (.success other last) := by
  intro runLast
  obtain ⟨_, passes, stored, different⟩ :=
    (Segment.recognises_generic format.terminal cur segment middle).mp run
  obtain ⟨⟨_, passesLast, storedLast, same⟩, _⟩ := format.lastSegment_eq_success_iff.mp runLast
  obtain rfl := stored.eq_of_append_eq storedLast
    (passes.rest_eq.symm.trans passesLast.rest_eq)
  exact different same

theorem body_eq_success_iff (format : Format) {cur last : Cursor} {segments : List Segment} :
    format.body cur = .ok (.success segments last) ↔
      (∃ bytes, cur.Passes bytes last ∧ Repeated Segment.Stored segments bytes) ∧
        format.Terminates segments ∧ (format.requireEnd = true → last.rest = []) := by
  have generic := Segment.recognises_generic format.terminal
  rw [body, generic.many_bindWith_eq_success_iff (Segment.forward_generic _).onward
    (fun segment stored => segment.not_stored_nil stored.1) format.generic_apart_lastSegment]
  constructor
  · rintro ⟨front, bytes, middle, closing, passes, repeated, run, rfl⟩
    obtain ⟨stored, others⟩ := repeated_and_iff.mp repeated
    obtain ⟨⟨further, beyond, here, type⟩, ended⟩ := format.lastSegment_eq_success_iff.mp run
    have single : Repeated Segment.Stored [closing] further := repeated_singleton_iff.mpr here
    exact ⟨⟨bytes ++ further, passes.trans beyond, stored.append single⟩,
      ⟨front, closing, rfl, type, others⟩, ended⟩
  · rintro ⟨⟨_, passes, repeated⟩, ⟨front, closing, rfl, type, others⟩, ended⟩
    obtain ⟨bytes, further, rfl, stored, single⟩ := repeated.split
    obtain ⟨middle, start, beyond⟩ := passes.split
    have here : closing.Stored further := repeated_singleton_iff.mp single
    exact ⟨front, bytes, middle, closing, start, repeated_and_iff.mpr ⟨stored, others⟩,
      format.lastSegment_eq_success_iff.mpr ⟨⟨further, beyond, here, type⟩, ended⟩, rfl⟩

theorem grammar_eq_success_iff (format : Format) {cur last : Cursor} {segments : List Segment} :
    format.grammar cur = .ok (.success segments last) ↔
      (∃ bytes, cur.Passes (Word.bytes format.start ++ bytes) last ∧
        Repeated Segment.Stored segments bytes) ∧
        format.Terminates segments ∧ (format.requireEnd = true → last.rest = []) := by
  unfold grammar Parser.bind
  rw [bindWith_eq_success_iff]
  constructor
  · rintro ⟨_, middle, _, run, runBody, rfl⟩
    obtain ⟨_, start, _, rfl⟩ := (recognises_fixedWord format.start _ _ _).mp run
    obtain ⟨⟨bytes, further, repeated⟩, valid⟩ := format.body_eq_success_iff.mp runBody
    exact ⟨⟨bytes, start.trans further, repeated⟩, valid⟩
  · rintro ⟨⟨bytes, passes, repeated⟩, valid⟩
    obtain ⟨middle, start, further⟩ := passes.split
    exact ⟨_, middle, segments, (recognises_fixedWord format.start _ _ _).mpr ⟨_, start, rfl, rfl⟩,
      format.body_eq_success_iff.mpr ⟨⟨bytes, further, repeated⟩, valid⟩, rfl⟩

/-- **The grammar accepts exactly the stored forms of documents.** -/
theorem grammar_eq_success_iff_standsAt (format : Format) {cur last : Cursor}
    {segments : List Segment} :
    format.grammar cur = .ok (.success segments last) ↔
      last.buffer = cur.buffer ∧
        format.StandsAt cur.buffer.toList cur.pos segments last.pos := by
  rw [grammar_eq_success_iff, last.rest_eq_nil_iff]
  constructor
  · rintro ⟨⟨bytes, passes, repeated⟩, terminates, ended⟩
    obtain ⟨ahead, between⟩ := Cursor.Passes.iff_extract.mp passes
    refine ⟨ahead.1, terminates, ahead.2, ?_, ⟨bytes, between, repeated⟩, fun wanted => ?_⟩
    · have inside := last.pos_le_size
      rwa [ahead.1, ← Buffer.length_toList] at inside
    · rw [← ahead.1]
      exact ended wanted
  · rintro ⟨buffer, terminates, forward, _, ⟨bytes, between, repeated⟩, ended⟩
    refine ⟨⟨bytes, Cursor.Passes.iff_extract.mpr ⟨⟨buffer, forward⟩, between⟩, repeated⟩,
      terminates, fun wanted => ?_⟩
    rw [buffer]
    exact ended wanted

/-- **A document that stands at a position is the only one there.** -/
theorem StandsAt.unique {format : Format} {data : List UInt8} {first last finish : Nat}
    {segments others : List Segment} (stands : format.StandsAt data first segments last)
    (again : format.StandsAt data first others finish) : segments = others ∧ last = finish := by
  have accepted : ∀ {segments last} (stands : format.StandsAt data first segments last),
      format.grammar ⟨.ofList data, first, by simpa using Nat.le_trans stands.first_le_last stands.last_le⟩ =
        .ok (.success segments ⟨.ofList data, last, by simpa using stands.last_le⟩) := by
    intro segments last stands
    exact format.grammar_eq_success_iff_standsAt.mpr ⟨rfl, by simpa using stands⟩
  have same := (accepted stands).symm.trans (accepted again)
  simp only [Except.ok.injEq, Outcome.success.injEq, Cursor.mk.injEq, true_and] at same
  exact same

/-- **The grammar of every format can be built, and at every cursor it accepts exactly the
documents that stand there, of which there is at most one.** -/
theorem document_accepts_exactly (format : Format) :
    ∃ grammar, format.document = .ok grammar ∧ ∀ cur : Cursor,
      (∀ segments last, grammar cur = .ok (.success segments last) ↔
        last.buffer = cur.buffer ∧
          format.StandsAt cur.buffer.toList cur.pos segments last.pos) ∧
      ∀ segments last others finish,
        format.StandsAt cur.buffer.toList cur.pos segments last →
        format.StandsAt cur.buffer.toList cur.pos others finish →
        segments = others ∧ last = finish := by
  refine ⟨format.grammar, format.document_eq, fun cur => ⟨fun segments last => ?_, ?_⟩⟩
  · exact format.grammar_eq_success_iff_standsAt
  · intro segments last others finish stands again
    exact stands.unique again

/-! ### A document between other bytes

The payload of the first segment is the terminal marker itself, the length of the second one
is less than the two bytes it takes, and bytes stand before and behind the document. -/

namespace Sample

def data : List UInt8 :=
  [0x00, 0xFF, 0xD8, 0xFF, 0xE0, 0x00, 0x04, 0xFF, 0xDA, 0xFF, 0xDA, 0x00, 0x01, 0x99]

def segments : List Segment :=
  [⟨0xFFE0, 4⟩, ⟨0xFFDA, 1⟩]

theorem standsAt : standard.StandsAt data 1 segments 13 where
  terminates := ⟨[⟨0xFFE0, 4⟩], ⟨0xFFDA, 1⟩, rfl, rfl, by decide⟩
  first_le_last := by decide
  last_le := by decide
  stored := by
    have first : Segment.Stored ⟨0xFFE0, 4⟩ [0xFF, 0xE0, 0x00, 0x04, 0xFF, 0xDA] :=
      ⟨[0xFF, 0xDA], rfl, rfl⟩
    have second : Segment.Stored ⟨0xFFDA, 1⟩ [0xFF, 0xDA, 0x00, 0x01] := ⟨[], rfl, rfl⟩
    exact ⟨_, rfl, .cons first (.cons second .nil)⟩
  ended := by decide

theorem document_accepts : ∃ grammar, standard.document = .ok grammar ∧
    grammar ⟨.ofList data, 1, by decide⟩ =
      .ok (.success segments ⟨.ofList data, 13, by decide⟩) ∧
    standard.StandsAt data 1 segments 13 ∧
    ∀ others finish, standard.StandsAt data 1 others finish → segments = others ∧ 13 = finish := by
  obtain ⟨grammar, built, exactly⟩ := document_accepts_exactly standard
  have here := exactly ⟨.ofList data, 1, by decide⟩
  refine ⟨grammar, built, (here.1 segments _).mpr ⟨rfl, standsAt⟩, standsAt, ?_⟩
  intro others finish again
  exact here.2 segments 13 others finish standsAt again

end Sample

end Format

end ByteGrammar
