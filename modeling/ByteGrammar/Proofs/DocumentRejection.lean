import ByteGrammar.Proofs.DocumentGrammar
import ByteGrammar.Proofs.SegmentRejection
import Mathlib.Order.Bounds.Basic

/-!
# Where documents are rejected

Data that is no document is rejected with a position, which is meant for the reader of a
diagnostic. Which position it is can be said without the parser (`Format.RejectedAt`). It is the
first byte of the start marker that is missed. Behind the start marker the longest run of
whole generic segments is passed over, and what is reported then is the first byte of the
terminal marker that is missed, the end of the data if the terminal segment is cut short, or its
own end if bytes follow where none may.

A generic segment that is cut short does not belong to the run, and what is missed where it begins
is the terminal marker (`Format.RejectedAt.missedAt_of_not_terminal`). So it is reported at its first
or at its second byte, and as a rule that is not where the data ends. The one exception is a segment
of which only the first byte is there, if that byte begins the terminal marker as well. Its second
byte is then looked for, and the data ends there (`Format.Sample.tornSegment_reported_at_end`).
-/

set_option autoImplicit false

namespace ByteGrammar

open ByteGrammar.Parser

namespace Format

variable {format : Format} {data : List UInt8} {cur finish attempted : Cursor}

/-! ## Positions of a rejection -/

/-- Whole segments of other types than the terminal one fill the data between two positions. -/
def GenericRun (format : Format) (data : List UInt8) (first last : Nat) : Prop :=
  ∃ segments, Segment.RowAt data first segments last ∧
    ∀ segment ∈ segments, segment.type ≠ format.terminal

/-- The run of generic segments from one position that goes as far as any does ends at the
other one. -/
def LongestRun (format : Format) (data : List UInt8) (first last : Nat) : Prop :=
  IsGreatest {finish | format.GenericRun data first finish} last

/-- A whole terminal segment fills the data between two positions. -/
def ClosedAt (format : Format) (data : List UInt8) (first last : Nat) : Prop :=
  ∃ closing, Segment.RowAt data first [closing] last ∧ closing.type = format.terminal

/-- Where the last attempt is made on data in which no document stands at a position. -/
inductive RejectedAt (format : Format) (data : List UInt8) (first : Nat) : Nat → Prop
  /-- The start marker is missed. -/
  | start {attempt : Nat} (missed : Word.MissedAt format.start data first attempt) :
      RejectedAt format data first attempt
  /-- The terminal marker is missed behind the generic segments. -/
  | terminal {behind attempt : Nat} (started : Word.At format.start data first)
      (run : format.LongestRun data (first + 2) behind)
      (missed : Word.MissedAt format.terminal data behind attempt) :
      RejectedAt format data first attempt
  /-- The terminal marker is there, and the data ends in the length or the payload behind it. -/
  | cutShort {behind : Nat} (started : Word.At format.start data first)
      (run : format.LongestRun data (first + 2) behind)
      (announced : Word.At format.terminal data behind)
      (cut : ∀ last, ¬ format.ClosedAt data behind last) :
      RejectedAt format data first data.length
  /-- The terminal segment is there, and bytes follow where the format allows none. -/
  | trailing {behind last : Nat} (started : Word.At format.start data first)
      (run : format.LongestRun data (first + 2) behind)
      (closed : format.ClosedAt data behind last) (more : last < data.length)
      (wanted : format.requireEnd = true) : RejectedAt format data first last

/-! ## Runs and terminal segments at cursors -/

/-- A run of generic segments is a chain of successes of their parser. -/
theorem genericRun_iff_chain (sameBuffer : finish.buffer = cur.buffer) :
    format.GenericRun cur.buffer.toList cur.pos finish.pos ↔
      ∃ segments, (Segment.generic format.terminal.toNat).Chain cur segments finish := by
  have chains : ∀ segments, (Segment.generic format.terminal.toNat).Chain cur segments finish ↔
      ∃ bytes, cur.Passes bytes finish ∧ Repeated (fun segment bytes =>
        segment.Stored bytes ∧ segment.type ≠ format.terminal) segments bytes := fun _ =>
    (Segment.recognises_generic format.terminal).chain_iff fun segment stored =>
      segment.not_stored_nil stored.1
  simp only [GenericRun, Segment.rowAt_iff_passes sameBuffer, chains, repeated_and_iff]
  constructor
  · rintro ⟨segments, ⟨bytes, passes, stored⟩, others⟩
    exact ⟨segments, bytes, passes, stored, others⟩
  · rintro ⟨segments, bytes, passes, stored, others⟩
    exact ⟨segments, ⟨bytes, passes, stored⟩, others⟩

/-- **The longest run of generic segments is the one at which their repetition stops.** -/
theorem longestRun_iff_chain (sameBuffer : finish.buffer = cur.buffer) :
    format.LongestRun cur.buffer.toList cur.pos finish.pos ↔
      ∃ segments, (Segment.generic format.terminal.toNat).Chain cur segments finish ∧
        (Segment.generic format.terminal.toNat).Halts finish := by
  have onward := (Segment.forward_generic format.terminal.toNat).onward
  constructor
  · rintro ⟨member, greatest⟩
    obtain ⟨segments, chain⟩ := (genericRun_iff_chain sameBuffer).mp member
    obtain ⟨all, beyond, whole, halts⟩ := exists_chain onward cur
    have further : finish ≤ beyond := chain.le_of_halts onward whole halts
    have run := (genericRun_iff_chain (whole.length_le onward).1.1).mpr ⟨all, whole⟩
    have notFurther : beyond.pos ≤ finish.pos := greatest run
    have same : beyond = finish :=
      Cursor.ext_pos further.1 (Nat.le_antisymm notFurther further.2)
    subst same
    exact ⟨all, whole, halts⟩
  · rintro ⟨segments, chain, halts⟩
    refine ⟨(genericRun_iff_chain sameBuffer).mpr ⟨segments, chain⟩, ?_⟩
    rintro last ⟨others, row, types⟩
    obtain ⟨stop, buffer, rfl⟩ := row.exists_cursor
    obtain ⟨_, other⟩ := (genericRun_iff_chain buffer).mp ⟨others, row, types⟩
    exact (other.le_of_halts onward chain halts).2

/-- The longest run in the data of a buffer ends at a cursor on that buffer. -/
theorem LongestRun.exists_cursor {buffer : Buffer} {first last : Nat}
    (longest : format.LongestRun buffer.toList first last) :
    ∃ middle : Cursor, middle.buffer = buffer ∧ middle.pos = last := by
  obtain ⟨⟨segments, row, _⟩, _⟩ := longest
  exact row.exists_cursor

/-- A whole terminal segment is what its parser reads. -/
theorem closedAt_iff_success (sameBuffer : finish.buffer = cur.buffer) :
    format.ClosedAt cur.buffer.toList cur.pos finish.pos ↔
      ∃ closing, Segment.markedBy (fixedWord format.terminal) cur =
        .ok (.success closing finish) := by
  simp only [ClosedAt, Segment.rowAt_iff_passes sameBuffer, repeated_singleton_iff,
    Segment.recognises_terminal format.terminal cur _ finish]
  constructor
  · rintro ⟨closing, ⟨bytes, passes, stored⟩, type⟩
    exact ⟨closing, bytes, passes, stored, type⟩
  · rintro ⟨closing, bytes, passes, stored, type⟩
    exact ⟨closing, ⟨bytes, passes, stored⟩, type⟩

/-- No whole terminal segment stands where its parser does not succeed. -/
theorem forall_not_closedAt_iff :
    (∀ last, ¬ format.ClosedAt cur.buffer.toList cur.pos last) ↔
      ∀ closing finish, Segment.markedBy (fixedWord format.terminal) cur ≠
        .ok (.success closing finish) := by
  have forward := Segment.forward_markedBy (forward_fixedWord format.terminal)
  constructor
  · intro nowhere closing finish run
    have sameBuffer := (forward.of_success run).2.1
    exact nowhere finish.pos ((closedAt_iff_success sameBuffer).mpr ⟨closing, run⟩)
  · rintro nowhere last ⟨closing, row, type⟩
    obtain ⟨finish, buffer, rfl⟩ := row.exists_cursor
    obtain ⟨other, run⟩ := (closedAt_iff_success buffer).mp ⟨closing, row, type⟩
    exact nowhere other finish run

/-! ## The parsers of a document -/

/-- Where a segment of the terminal type is rejected. -/
theorem failsAt_terminal_iff :
    (Segment.markedBy (fixedWord format.terminal)).FailsAt cur attempted ↔
      attempted.buffer = cur.buffer ∧
        (Word.MissedAt format.terminal cur.buffer.toList cur.pos attempted.pos ∨
          Word.At format.terminal cur.buffer.toList cur.pos ∧
            (∀ last, ¬ format.ClosedAt cur.buffer.toList cur.pos last) ∧
            attempted.pos = cur.buffer.toList.length) := by
  rw [Segment.failsAt_markedBy_iff (· = format.terminal) (Segment.recognises_terminalType _),
    failsAt_fixedWord_iff, forall_not_closedAt_iff, Cursor.rest_eq_nil_iff]
  constructor
  · rintro (⟨buffer, missed⟩ | ⟨⟨_, announced, rfl⟩, nowhere, buffer, ended⟩)
    · exact ⟨buffer, .inl missed⟩
    · rw [buffer] at ended
      exact ⟨buffer, .inr ⟨announced, nowhere, ended⟩⟩
  · rintro ⟨buffer, missed | ⟨announced, nowhere, ended⟩⟩
    · exact .inl ⟨buffer, missed⟩
    · rw [← buffer] at ended
      exact .inr ⟨⟨_, announced, rfl⟩, nowhere, buffer, ended⟩

/-- The last segment is rejected as a terminal segment is, or where it ends. -/
theorem failsAt_lastSegment_iff :
    format.lastSegment.FailsAt cur attempted ↔
      (Segment.markedBy (fixedWord format.terminal)).FailsAt cur attempted ∨
        attempted.buffer = cur.buffer ∧
          format.ClosedAt cur.buffer.toList cur.pos attempted.pos ∧
          attempted.pos < cur.buffer.toList.length ∧ format.requireEnd = true := by
  have forward := Segment.forward_markedBy (forward_fixedWord format.terminal)
  rw [lastSegment]
  split
  · next wanted =>
    rw [failsAt_bindWith_iff]
    refine or_congr_right ?_
    simp only [failsAt_endOfInput_iff]
    constructor
    · rintro ⟨closing, _, run, rfl, more⟩
      have buffer := (forward.of_success run).2.1
      rw [Cursor.rest_ne_nil_iff, buffer] at more
      exact ⟨buffer, (closedAt_iff_success buffer).mpr ⟨closing, run⟩, more, wanted⟩
    · rintro ⟨buffer, closed, more, _⟩
      obtain ⟨closing, run⟩ := (closedAt_iff_success buffer).mp closed
      rw [← buffer, ← Cursor.rest_ne_nil_iff] at more
      exact ⟨closing, attempted, run, rfl, more⟩
  · next unwanted =>
    simp [unwanted]

/-- The segments behind the start marker are rejected where the last one is, at the end of the
longest run of generic segments. -/
theorem failsAt_body_iff :
    format.body.FailsAt cur attempted ↔
      ∃ middle : Cursor, middle.buffer = cur.buffer ∧
        format.LongestRun cur.buffer.toList cur.pos middle.pos ∧
        format.lastSegment.FailsAt middle attempted := by
  have onward := (Segment.forward_generic format.terminal.toNat).onward
  rw [body, failsAt_many_bindWith_iff onward]
  constructor
  · rintro ⟨middle, ⟨segments, chain, halts⟩, fails⟩
    have buffer := (chain.length_le onward).1.1
    exact ⟨middle, buffer, (longestRun_iff_chain buffer).mpr ⟨segments, chain, halts⟩, fails⟩
  · rintro ⟨middle, buffer, run, fails⟩
    exact ⟨middle, (longestRun_iff_chain buffer).mp run, fails⟩

/-- A document is rejected at its start marker, or behind the longest run of generic segments
as its last segment is. -/
theorem failsAt_grammar_iff :
    format.grammar.FailsAt cur attempted ↔
      (fixedWord format.start).FailsAt cur attempted ∨
        ∃ middle : Cursor, middle.buffer = cur.buffer ∧
          Word.At format.start cur.buffer.toList cur.pos ∧
          format.LongestRun cur.buffer.toList (cur.pos + 2) middle.pos ∧
          format.lastSegment.FailsAt middle attempted := by
  unfold grammar Parser.bind
  rw [failsAt_bindWith_iff]
  refine or_congr_right ?_
  constructor
  · rintro ⟨number, started, run, fails⟩
    obtain ⟨_, passes, _, rfl⟩ := (recognises_fixedWord format.start _ _ _).mp run
    obtain ⟨⟨buffer, position⟩, marker⟩ := Word.passes_bytes_iff.mp passes
    obtain ⟨middle, sameBuffer, longest, failsLast⟩ := failsAt_body_iff.mp fails
    rw [buffer, position] at longest
    exact ⟨middle, sameBuffer.trans buffer, marker, longest, failsLast⟩
  · rintro ⟨middle, sameBuffer, marker, longest, failsLast⟩
    obtain ⟨started, passes⟩ := marker.exists_passes
    obtain ⟨⟨buffer, position⟩, _⟩ := Word.passes_bytes_iff.mp passes
    rw [← position, ← buffer] at longest
    have run := (recognises_fixedWord format.start _ _ _).mpr ⟨_, passes, rfl, rfl⟩
    exact ⟨_, started, run,
      failsAt_body_iff.mpr ⟨middle, sameBuffer.trans buffer.symm, longest, failsLast⟩⟩

theorem grammar_eq_failure_iff (format : Format) {reported : Cursor} :
    format.grammar cur = .ok (.failure reported attempted) ↔
      reported = cur ∧ format.grammar.FailsAt cur attempted := by
  unfold grammar Parser.bind Parser.bindWith
  exact bindMaking_eq_failure_iff

/-- **The last attempt on data that is rejected is the one that its bytes determine.** -/
theorem failsAt_grammar_iff_rejectedAt :
    format.grammar.FailsAt cur attempted ↔
      attempted.buffer = cur.buffer ∧
        format.RejectedAt cur.buffer.toList cur.pos attempted.pos := by
  rw [failsAt_grammar_iff, failsAt_fixedWord_iff]
  simp only [failsAt_lastSegment_iff, failsAt_terminal_iff]
  constructor
  · rintro (⟨buffer, missed⟩ | ⟨behind, sameBuffer, marker, run, fails⟩)
    · exact ⟨buffer, .start missed⟩
    · rw [sameBuffer] at fails
      rcases fails with ⟨buffer, missed | ⟨announced, cut, ended⟩⟩ | ⟨buffer, closed, more, wanted⟩
      · exact ⟨buffer, .terminal marker run missed⟩
      · rw [ended]
        exact ⟨buffer, .cutShort marker run announced cut⟩
      · exact ⟨buffer, .trailing marker run closed more wanted⟩
  · rintro ⟨buffer, rejected⟩
    generalize attempted.pos = attempt at rejected ⊢
    cases rejected with
    | start missed => exact .inl ⟨buffer, missed⟩
    | terminal marker run missed =>
      obtain ⟨middle, sameBuffer, rfl⟩ := run.exists_cursor
      refine .inr ⟨middle, sameBuffer, marker, run, .inl ⟨buffer.trans sameBuffer.symm, .inl ?_⟩⟩
      rwa [sameBuffer]
    | cutShort marker run announced cut =>
      obtain ⟨middle, sameBuffer, rfl⟩ := run.exists_cursor
      refine .inr ⟨middle, sameBuffer, marker, run, .inl ⟨buffer.trans sameBuffer.symm, .inr ?_⟩⟩
      rw [sameBuffer]
      exact ⟨announced, cut, rfl⟩
    | trailing marker run closed more wanted =>
      obtain ⟨middle, sameBuffer, rfl⟩ := run.exists_cursor
      refine .inr ⟨middle, sameBuffer, marker, run, .inr ⟨buffer.trans sameBuffer.symm, ?_⟩⟩
      rw [sameBuffer]
      exact ⟨closed, more, wanted⟩

/-! ## Generic segments that are cut short -/

/-- **What is missed where a generic segment is cut short is the terminal marker**, if no terminal
marker stands behind the longest run. -/
theorem RejectedAt.missedAt_of_not_terminal {first attempt behind : Nat}
    (rejected : format.RejectedAt data first attempt) (started : Word.At format.start data first)
    (run : format.LongestRun data (first + 2) behind)
    (other : ¬ Word.At format.terminal data behind) :
    Word.MissedAt format.terminal data behind attempt := by
  cases rejected with
  | start missed => exact absurd started missed.not_at
  | terminal _ again missed =>
    obtain rfl := IsGreatest.unique run again
    exact missed
  | cutShort _ again announced _ =>
    obtain rfl := IsGreatest.unique run again
    exact absurd announced other
  | trailing _ again closed _ _ =>
    obtain rfl := IsGreatest.unique run again
    obtain ⟨closing, row, type⟩ := closed
    exact absurd (type ▸ row.type_at) other

/-- **The grammar of every format rejects with exactly the positions that the data determines.**
It reports the cursor it was given, and the last attempt is where the start marker, the terminal
marker behind the longest run of generic segments, the rest of the terminal segment or the end of
the data is missed. A generic segment that is cut short behind the run is reported at its first or
its second byte. That is where the data ends exactly if only its first byte is there and begins the
terminal marker. -/
theorem document_rejects_exactly (format : Format) :
    ∃ grammar, format.document = .ok grammar ∧ ∀ cur reported attempted : Cursor,
      (grammar cur = .ok (.failure reported attempted) ↔
        reported = cur ∧ attempted.buffer = cur.buffer ∧
          format.RejectedAt cur.buffer.toList cur.pos attempted.pos) ∧
      (grammar cur = .ok (.failure reported attempted) → ∀ behind,
        Word.At format.start cur.buffer.toList cur.pos →
        format.LongestRun cur.buffer.toList (cur.pos + 2) behind →
        ¬ Word.At format.terminal cur.buffer.toList behind →
        (attempted.pos = behind ∨ attempted.pos = behind + 1) ∧
          (behind < cur.buffer.toList.length →
            (attempted.pos = cur.buffer.toList.length ↔
              behind + 1 = cur.buffer.toList.length ∧
                cur.buffer.toList[behind]? = some (Word.high format.terminal)))) := by
  refine ⟨format.grammar, format.document_eq, fun cur reported attempted => ?_⟩
  have rejects : format.grammar cur = .ok (.failure reported attempted) ↔
      reported = cur ∧ attempted.buffer = cur.buffer ∧
        format.RejectedAt cur.buffer.toList cur.pos attempted.pos := by
    rw [grammar_eq_failure_iff, failsAt_grammar_iff_rejectedAt]
  refine ⟨rejects, fun run behind started longest other => ?_⟩
  obtain ⟨_, _, rejected⟩ := rejects.mp run
  have missed := rejected.missedAt_of_not_terminal started longest other
  exact ⟨missed.near, missed.eq_length_iff⟩

/-! ### A generic segment that is cut short

A whole segment stands behind the start marker. The payload of the next one is longer than what
is left, and its type begins as the terminal marker does. -/

namespace Sample

def cutData : List UInt8 :=
  [0x00, 0xFF, 0xD8, 0xFF, 0xE0, 0x00, 0x02, 0xFF, 0xE1, 0x00, 0x05, 0x01]

/-- The cursor at a position of the data. -/
def cutCursor (pos : Nat) (inside : pos ≤ 12) : Cursor :=
  ⟨.ofList cutData, pos, inside⟩

theorem longestRun_cutData : standard.LongestRun cutData 3 7 := by
  have read : Segment.generic standard.terminal.toNat (cutCursor 3 (by decide)) =
      .ok (.success ⟨0xFFE0, 2⟩ (cutCursor 7 (by decide))) := rfl
  have missed : Segment.generic standard.terminal.toNat (cutCursor 7 (by decide)) =
      .ok (.failure (cutCursor 7 (by decide)) (cutCursor 12 (by decide))) := rfl
  have sameBuffer : (cutCursor 7 (by decide)).buffer = (cutCursor 3 (by decide)).buffer := rfl
  exact (longestRun_iff_chain sameBuffer).mpr ⟨_, .cons read rfl (.nil _), .failed missed⟩

theorem rejectedAt_cutData : standard.RejectedAt cutData 1 8 :=
  .terminal ⟨rfl, rfl⟩ longestRun_cutData (.low rfl (by decide))

theorem document_rejects : ∃ grammar, standard.document = .ok grammar ∧
    Word.At standard.start cutData 1 ∧ standard.LongestRun cutData 3 7 ∧
    ¬ Word.At standard.terminal cutData 7 ∧
    grammar (cutCursor 1 (by decide)) =
      .ok (.failure (cutCursor 1 (by decide)) (cutCursor 8 (by decide))) ∧
    (8 = 7 ∨ 8 = 7 + 1) ∧
    (8 = cutData.length ↔
      7 + 1 = cutData.length ∧ cutData[7]? = some (Word.high standard.terminal)) := by
  obtain ⟨grammar, built, exactly⟩ := document_rejects_exactly standard
  obtain ⟨rejects, near⟩ := exactly (cutCursor 1 (by decide)) (cutCursor 1 (by decide))
    (cutCursor 8 (by decide))
  have run := rejects.mpr ⟨rfl, rfl, rejectedAt_cutData⟩
  have started : Word.At standard.start cutData 1 := ⟨rfl, rfl⟩
  have other : ¬ Word.At standard.terminal cutData 7 := by
    rintro ⟨_, low⟩
    exact absurd low (by decide)
  obtain ⟨place, inside⟩ := near run 7 started longestRun_cutData other
  exact ⟨grammar, built, started, longestRun_cutData, other, run, place, inside (by decide)⟩

/-! ### A generic segment of which only the first byte is there -/

/-- A start marker and the first byte of a segment, which is that of the terminal marker too. -/
def tornData : List UInt8 :=
  [0xFF, 0xD8, 0xFF]

/-- The cursor at a position of the data. -/
def tornCursor (pos : Nat) (inside : pos ≤ 3) : Cursor :=
  ⟨.ofList tornData, pos, inside⟩

/-- The cursor at a position of the data with the rest of the segment behind it. -/
def mendedCursor (pos : Nat) (inside : pos ≤ 6) : Cursor :=
  ⟨.ofList [0xFF, 0xD8, 0xFF, 0xE0, 0x00, 0x02], pos, inside⟩

/-- **A generic segment that is cut short can be reported where the data ends.** With three bytes more a
whole generic segment would stand behind the start marker. Without them none does, and the data is
rejected at the second byte of that segment, where it ends. -/
theorem tornSegment_reported_at_end :
    standard.GenericRun (tornData ++ [0xE0, 0x00, 0x02]) 2 6 ∧
    ∃ grammar, standard.document = .ok grammar ∧
      Word.At standard.start tornData 0 ∧ standard.LongestRun tornData 2 2 ∧
      2 < tornData.length ∧ ¬ Word.At standard.terminal tornData 2 ∧
      grammar (tornCursor 0 (by decide)) =
        .ok (.failure (tornCursor 0 (by decide)) (tornCursor 3 (by decide))) ∧
      (tornCursor 3 (by decide)).pos = tornData.length := by
  have whole : Segment.generic standard.terminal.toNat (mendedCursor 2 (by decide)) =
      .ok (.success ⟨0xFFE0, 2⟩ (mendedCursor 6 (by decide))) := rfl
  have sameBuffer : (mendedCursor 6 (by decide)).buffer = (mendedCursor 2 (by decide)).buffer := rfl
  have mended : standard.GenericRun (tornData ++ [0xE0, 0x00, 0x02]) 2 6 :=
    (genericRun_iff_chain sameBuffer).mpr ⟨_, .cons whole rfl (.nil _)⟩
  have missed : Segment.generic standard.terminal.toNat (tornCursor 2 (by decide)) =
      .ok (.failure (tornCursor 2 (by decide)) (tornCursor 3 (by decide))) := rfl
  have nothing : standard.LongestRun tornData 2 2 :=
    (longestRun_iff_chain rfl).mpr ⟨_, .nil (tornCursor 2 (by decide)), .failed missed⟩
  have run : standard.grammar (tornCursor 0 (by decide)) =
      .ok (.failure (tornCursor 0 (by decide)) (tornCursor 3 (by decide))) := rfl
  exact ⟨mended, _, standard.document_eq, ⟨rfl, rfl⟩, nothing, by decide, by decide, run, rfl⟩

end Sample

end Format

end ByteGrammar
