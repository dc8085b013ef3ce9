import ByteGrammar.Proofs.SegmentRejection

/-!
# Generic and terminal segments as complements

A segment is generic or terminal by its type alone. The parsers of the two kinds recognise the
type in different ways: the one reads a whole word and tests it, the other compares two bytes in
turn. Where they succeed can still be said in the same words, as a whole segment ahead of the
cursor (`Segment.Ahead`) whose type is the terminal one or is not (`Segment.success_iff_ahead`).
So the two never succeed at the same cursor, and one of them does wherever a whole segment is
ahead.

Where they fail they differ in the attempt they leave behind (`Segment.genericAttempt`,
`Segment.terminalAttempt`). A word under a test is rejected at its first byte, and a fixed word at
the first of its bytes that is missed. Apart from that, both fail for want of bytes, at the end of
the data.
-/

set_option autoImplicit false

namespace ByteGrammar

open ByteGrammar.Parser

variable {cur last reported attempted : Cursor}

/-! ## Whole segments -/

namespace Segment

/-- A whole segment is ahead of a cursor: its type, its length, and as many bytes as it takes. -/
structure Ahead (segment : Segment) (cur : Cursor) : Prop where
  type_at : Word.At segment.type cur.buffer.toList cur.pos
  length_at : Word.At segment.length cur.buffer.toList (cur.pos + 2)
  room : segment.size ≤ cur.remaining

variable {segment other : Segment} {parser : Parser Segment}

/-- The whole segment that is ahead is what stands there in stored form. -/
theorem exists_passes_stored_iff :
    (∃ bytes, cur.Passes bytes last ∧ segment.Stored bytes) ↔
      segment.Ahead cur ∧ last.buffer = cur.buffer ∧ last.pos = cur.pos + segment.size := by
  constructor
  · rintro ⟨bytes, passes, stored⟩
    have position := passes.pos_eq
    rw [stored.length_eq] at position
    have inside := last.pos_le_size
    rw [passes.buffer_eq] at inside
    obtain ⟨payload, _, rfl⟩ := stored
    obtain ⟨behind, head, _⟩ := passes.split
    obtain ⟨middle, start, further⟩ := head.split
    obtain ⟨⟨buffer, two⟩, typeFound⟩ := Word.passes_bytes_iff.mp start
    have lengthFound := (Word.passes_bytes_iff.mp further).2
    rw [buffer, two] at lengthFound
    refine ⟨⟨typeFound, lengthFound, ?_⟩, passes.buffer_eq, position⟩
    rw [Cursor.remaining]
    omega
  · rintro ⟨⟨typeFound, lengthFound, _⟩, buffer, position⟩
    obtain ⟨middle, start⟩ := typeFound.exists_passes
    obtain ⟨⟨buffer', two⟩, _⟩ := Word.passes_bytes_iff.mp start
    rw [← buffer', ← two] at lengthFound
    obtain ⟨behind, further⟩ := lengthFound.exists_passes
    obtain ⟨⟨buffer'', four⟩, _⟩ := Word.passes_bytes_iff.mp further
    have ahead : behind ≤ last := by
      refine ⟨buffer.trans (buffer''.trans buffer').symm, ?_⟩
      rw [position, four, two, size]
      omega
    have payload := Cursor.Passes.iff_extract.mpr ⟨ahead, rfl⟩
    refine ⟨_, (start.trans further).trans payload, _, ?_, rfl⟩
    have lengths := payload.pos_eq
    have whole : last.pos = cur.pos + (4 + segment.payloadLength) := position
    omega

/-- At most one segment is ahead of a cursor. -/
theorem Ahead.unique (ahead : segment.Ahead cur) (again : other.Ahead cur) : segment = other := by
  obtain ⟨type, length⟩ := segment
  obtain ⟨otherType, otherLength⟩ := other
  obtain rfl : type = otherType := ahead.type_at.unique again.type_at
  obtain rfl : length = otherLength := ahead.length_at.unique again.length_at
  rfl

section Recognised

variable (accepts : UInt16 → Prop) (recognises : parser.Recognises fun segment bytes =>
  segment.Stored bytes ∧ accepts segment.type)
include recognises

/-- **A parser that recognises stored segments succeeds where a whole segment is ahead.** -/
theorem success_iff_ahead :
    parser cur = .ok (.success segment last) ↔
      (segment.Ahead cur ∧ accepts segment.type) ∧
        last.buffer = cur.buffer ∧ last.pos = cur.pos + segment.size := by
  rw [recognises cur segment last]
  constructor
  · rintro ⟨bytes, passes, stored, accepted⟩
    obtain ⟨ahead, ends⟩ := exists_passes_stored_iff.mp ⟨bytes, passes, stored⟩
    exact ⟨⟨ahead, accepted⟩, ends⟩
  · rintro ⟨⟨ahead, accepted⟩, ends⟩
    obtain ⟨bytes, passes, stored⟩ := exists_passes_stored_iff.mpr ⟨ahead, ends⟩
    exact ⟨bytes, passes, stored, accepted⟩

/-- There is a cursor behind a whole segment, so nothing else is needed to succeed. -/
theorem exists_success_iff :
    (∃ segment last, parser cur = .ok (.success segment last)) ↔
      ∃ segment : Segment, segment.Ahead cur ∧ accepts segment.type := by
  simp only [success_iff_ahead accepts recognises]
  constructor
  · rintro ⟨segment, _, accepted, _⟩
    exact ⟨segment, accepted⟩
  · rintro ⟨segment, ahead, accepted⟩
    have inside : cur.pos + segment.size ≤ cur.buffer.size := by
      have room := ahead.room
      have := cur.pos_le_size
      rw [Cursor.remaining] at room
      omega
    exact ⟨segment, ⟨cur.buffer, cur.pos + segment.size, inside⟩, ⟨ahead, accepted⟩, rfl, rfl⟩

/-- Such a parser does not succeed where no whole segment of an accepted type is ahead. -/
theorem forall_ne_success_iff :
    (∀ segment last, parser cur ≠ .ok (.success segment last)) ↔
      ∀ segment : Segment, segment.Ahead cur → ¬ accepts segment.type := by
  have nowhere : ¬ (∃ segment last, parser cur = .ok (.success segment last)) ↔
      ¬ ∃ segment : Segment, segment.Ahead cur ∧ accepts segment.type :=
    not_congr (exists_success_iff accepts recognises)
  simpa only [not_exists, not_and] using nowhere

end Recognised

/-! ## Failed attempts -/

section Marked

variable {marker : Parser Nat} (accepts : UInt16 → Prop)
  (recognises : marker.Recognises fun number bytes => ∃ type : UInt16,
    number = type.toNat ∧ bytes = Word.bytes type ∧ accepts type)
include recognises

/-- **A segment whose type is accepted is rejected at the end of the data.** -/
theorem failsAt_markedBy_iff_of_at {type : UInt16}
    (found : Word.At type cur.buffer.toList cur.pos) (accepted : accepts type) :
    (markedBy marker).FailsAt cur attempted ↔
      (∀ segment : Segment, segment.Ahead cur → ¬ accepts segment.type) ∧
        attempted.buffer = cur.buffer ∧ attempted.pos = cur.buffer.size := by
  obtain ⟨middle, passes⟩ := found.exists_passes
  have read := (recognises cur type.toNat middle).mpr ⟨_, passes, type, rfl, rfl, accepted⟩
  rw [failsAt_markedBy_iff accepts recognises,
    forall_ne_success_iff accepts (recognises_markedBy accepts recognises)]
  constructor
  · rintro (⟨_, failed⟩ | ⟨_, nowhere, buffer, ended⟩)
    · cases read.symm.trans failed
    · exact ⟨nowhere, buffer, (Cursor.rest_eq_nil_iff_of_buffer_eq buffer).mp ended⟩
  · rintro ⟨nowhere, buffer, ended⟩
    exact .inr ⟨⟨type, found, accepted⟩, nowhere, buffer,
      (Cursor.rest_eq_nil_iff_of_buffer_eq buffer).mpr ended⟩

/-- **A segment without an accepted type is rejected where its type is.** -/
theorem failsAt_markedBy_iff_of_not_at
    (absent : ∀ type, Word.At type cur.buffer.toList cur.pos → ¬ accepts type) :
    (markedBy marker).FailsAt cur attempted ↔
      (∀ segment : Segment, segment.Ahead cur → ¬ accepts segment.type) ∧
        marker.FailsAt cur attempted := by
  rw [failsAt_markedBy_iff accepts recognises]
  constructor
  · rintro (failed | ⟨⟨type, found, accepted⟩, _⟩)
    · exact ⟨fun segment ahead => absent segment.type ahead.type_at, failed⟩
    · exact absurd accepted (absent type found)
  · rintro ⟨_, failed⟩
    exact .inl failed

end Marked

/-- The position of the last attempt at a generic segment that is not there: the type, if the
terminal one stands there as a whole, and the end of the data otherwise. -/
def genericAttempt (marker : UInt16) (cur : Cursor) : Nat :=
  if Word.At marker cur.buffer.toList cur.pos then cur.pos else cur.buffer.size

/-- The position of the last attempt at a terminal segment that is not there: the first byte of the
terminal type that is missed, and the end of the data if both are there. -/
def terminalAttempt (marker : UInt16) (cur : Cursor) : Nat :=
  if cur.buffer.toList[cur.pos]? ≠ some (Word.high marker) then cur.pos
  else if cur.buffer.toList[cur.pos + 1]? ≠ some (Word.low marker) then cur.pos + 1
  else cur.buffer.size

/-- A terminal segment whose type is there is looked for to the end of the data. -/
theorem terminalAttempt_of_at {marker : UInt16} (found : Word.At marker cur.buffer.toList cur.pos) :
    terminalAttempt marker cur = cur.buffer.size := by
  rw [terminalAttempt, if_neg (not_not_intro found.1), if_neg (not_not_intro found.2)]

/-- A terminal segment whose type is not there is looked for where the type is missed. -/
theorem terminalAttempt_of_not_at {marker : UInt16}
    (absent : ¬ Word.At marker cur.buffer.toList cur.pos) :
    terminalAttempt marker cur =
      if cur.buffer.toList[cur.pos]? ≠ some (Word.high marker) then cur.pos else cur.pos + 1 := by
  rw [terminalAttempt]
  split
  · rfl
  · next found =>
    rw [not_not] at found
    exact if_pos fun low => absent ⟨found, low⟩

/-- The type of a generic segment is rejected if it is the terminal one or cut short. -/
theorem failsAt_genericType_iff {marker : UInt16}
    (absent : ∀ type, Word.At type cur.buffer.toList cur.pos → type = marker) :
    (wordMatching fun type => (type : Int) != (marker.toNat : Int)).FailsAt cur attempted ↔
      attempted.buffer = cur.buffer ∧ attempted.pos = genericAttempt marker cur := by
  rw [failsAt_wordMatching_iff, genericAttempt]
  constructor
  · rintro (⟨type, found, _, rfl⟩ | ⟨nowhere, buffer, ended⟩)
    · obtain rfl := absent type found
      exact ⟨rfl, (if_pos found).symm⟩
    · rw [if_neg (nowhere marker)]
      exact ⟨buffer, (Cursor.rest_eq_nil_iff_of_buffer_eq buffer).mp ended⟩
  · rintro ⟨buffer, position⟩
    split at position
    · next found =>
      exact .inl ⟨marker, found, bne_self_eq_false _, Cursor.ext_pos buffer position⟩
    · next missing =>
      refine .inr ⟨fun type found => missing ?_, buffer,
        (Cursor.rest_eq_nil_iff_of_buffer_eq buffer).mpr position⟩
      obtain rfl := absent type found
      exact found

/-- **A generic segment is rejected where no whole segment of another type than the terminal one is
ahead.** -/
theorem failsAt_generic_iff {marker : UInt16} :
    (generic marker.toNat).FailsAt cur attempted ↔
      (∀ segment : Segment, segment.Ahead cur → segment.type = marker) ∧
        attempted.buffer = cur.buffer ∧ attempted.pos = genericAttempt marker cur := by
  have recognises := recognises_genericType marker
  by_cases standing : ∃ type, Word.At type cur.buffer.toList cur.pos ∧ type ≠ marker
  · obtain ⟨type, found, other⟩ := standing
    have notTerminal : ¬ Word.At marker cur.buffer.toList cur.pos := fun again =>
      other (found.unique again)
    rw [generic, failsAt_markedBy_iff_of_at (· ≠ marker) recognises found other, genericAttempt,
      if_neg notTerminal]
    simp only [ne_eq, not_not]
  · simp only [not_exists, not_and, not_not] at standing
    rw [generic, failsAt_markedBy_iff_of_not_at (· ≠ marker) recognises
      fun type found => not_not_intro (standing type found), failsAt_genericType_iff standing]
    simp only [ne_eq, not_not]

/-- **A terminal segment is rejected where no whole segment of the terminal type is ahead.** -/
theorem failsAt_markedBy_fixedWord_iff {marker : UInt16} :
    (markedBy (fixedWord marker)).FailsAt cur attempted ↔
      (∀ segment : Segment, segment.Ahead cur → segment.type ≠ marker) ∧
        attempted.buffer = cur.buffer ∧ attempted.pos = terminalAttempt marker cur := by
  by_cases found : Word.At marker cur.buffer.toList cur.pos
  · rw [failsAt_markedBy_iff_of_at (· = marker) (recognises_terminalType marker) found rfl,
      terminalAttempt_of_at found]
  · have absent : ∀ type, Word.At type cur.buffer.toList cur.pos → type ≠ marker := by
      rintro type standing rfl
      exact found standing
    rw [failsAt_markedBy_iff_of_not_at (· = marker) (recognises_terminalType marker) absent,
      failsAt_fixedWord_iff, Word.missedAt_iff, terminalAttempt_of_not_at found]
    simp only [found, not_false_eq_true, true_and]

/-! ## The two kinds together -/

/-- **Generic and terminal segments are complements.** The parsers of the two kinds share the whole
segments that are ahead out between them, by the type, and come to the cursor behind the segment.
Where one of them fails, it leaves the cursor as it was, and tells how far it looked. -/
theorem generic_and_terminal_complement (marker : UInt16) :
    ∃ closing, terminal marker.toNat = .ok closing ∧ ∀ cur,
      (∀ segment last, generic marker.toNat cur = .ok (.success segment last) ↔
        (segment.Ahead cur ∧ segment.type ≠ marker) ∧
          last.buffer = cur.buffer ∧ last.pos = cur.pos + segment.size) ∧
      (∀ segment last, closing cur = .ok (.success segment last) ↔
        (segment.Ahead cur ∧ segment.type = marker) ∧
          last.buffer = cur.buffer ∧ last.pos = cur.pos + segment.size) ∧
      ((∃ segment last, generic marker.toNat cur = .ok (.success segment last)) ∨
        (∃ segment last, closing cur = .ok (.success segment last)) ↔
          ∃ segment : Segment, segment.Ahead cur) ∧
      ¬ ((∃ segment last, generic marker.toNat cur = .ok (.success segment last)) ∧
        ∃ segment last, closing cur = .ok (.success segment last)) ∧
      (∀ reported attempted, generic marker.toNat cur = .ok (.failure reported attempted) ↔
        (∀ segment : Segment, segment.Ahead cur → segment.type = marker) ∧ reported = cur ∧
          attempted.buffer = cur.buffer ∧ attempted.pos = genericAttempt marker cur) ∧
      ∀ reported attempted, closing cur = .ok (.failure reported attempted) ↔
        (∀ segment : Segment, segment.Ahead cur → segment.type ≠ marker) ∧ reported = cur ∧
          attempted.buffer = cur.buffer ∧ attempted.pos = terminalAttempt marker cur := by
  refine ⟨_, terminal_toNat marker, fun cur => ⟨fun segment last => ?_, fun segment last => ?_,
    ?_, ?_, fun reported attempted => ?_, fun reported attempted => ?_⟩⟩
  · exact success_iff_ahead (· ≠ marker) (recognises_generic marker)
  · exact success_iff_ahead (· = marker) (recognises_terminal marker)
  · rw [exists_success_iff (· ≠ marker) (recognises_generic marker),
      exists_success_iff (· = marker) (recognises_terminal marker)]
    constructor
    · rintro (⟨segment, ahead, _⟩ | ⟨segment, ahead, _⟩)
      · exact ⟨segment, ahead⟩
      · exact ⟨segment, ahead⟩
    · rintro ⟨segment, ahead⟩
      by_cases closes : segment.type = marker
      · exact .inr ⟨segment, ahead, closes⟩
      · exact .inl ⟨segment, ahead, closes⟩
  · rw [exists_success_iff (· ≠ marker) (recognises_generic marker),
      exists_success_iff (· = marker) (recognises_terminal marker)]
    rintro ⟨⟨segment, ahead, continues⟩, other, again, closes⟩
    obtain rfl := ahead.unique again
    exact continues closes
  · rw [and_left_comm, ← failsAt_generic_iff]
    exact bindMaking_eq_failure_iff
  · rw [and_left_comm, ← failsAt_markedBy_fixedWord_iff]
    exact bindMaking_eq_failure_iff

end Segment

end ByteGrammar
