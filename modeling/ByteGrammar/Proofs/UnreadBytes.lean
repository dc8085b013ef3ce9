import ByteGrammar.Proofs.DocumentRejection
import ByteGrammar.Proofs.Locality

/-!
# Bytes that are never looked at

The bytes of a payload are passed over, and of the bytes behind a document it matters at most that
they are there. Which bytes of some data these are is found in the data itself. They are the
payload bytes of the segments that are there as a whole, namely those of the longest run of
generic segments and the terminal one behind it, and all that follows this one
(`Format.Unread`).

Other bytes in these places make no difference, whether the data is accepted or rejected
(`Format.document_ignores_unread`). They can look like markers, and still no segment begins at
another place. What is shown of this is that the same rows of segments stand in both data. The
types and lengths are the same, so the rows that stand in the first data stand in the second one
(`Segment.RowAt.of_agree`), and a row is all that stands at its place
(`Segment.RowAt.segments_eq`). The rows of the first data determine one answer of the grammar,
and the same rows determine the same answer on the second data.
-/

set_option autoImplicit false

namespace ByteGrammar

namespace Segment

variable {segment : Segment} {segments : List Segment}
variable {bytes further data other : List UInt8} {first last : Nat}

/-! ## Rows in other data -/

/-- Bytes with the head of a segment are that segment again, if they are as many. -/
theorem Stored.of_agree (stored : segment.Stored bytes) (sameLength : further.length = bytes.length)
    (heads : ∀ index < 4, further[index]? = bytes[index]?) : segment.Stored further := by
  obtain ⟨payload, length, rfl⟩ := stored
  have head : further.take 4 = Word.bytes segment.type ++ Word.bytes segment.length := by
    apply List.ext_getElem?
    intro index
    rw [List.getElem?_take]
    split
    · next near => rw [heads index near, List.getElem?_append_left (by simpa using near)]
    · next beyond => exact (List.getElem?_eq_none (by simpa using beyond)).symm
  refine ⟨further.drop 4, ?_, ?_⟩
  · simp only [List.length_append, Word.length_bytes] at sameLength
    rw [List.length_drop]
    omega
  · rw [← head, List.take_append_drop]

/-- Bytes that agree with those of a row outside of the payloads are the same row of segments. -/
theorem repeated_of_agree (stored : Repeated Stored segments bytes)
    (sameLength : further.length = bytes.length)
    (agree : ∀ index, inPayload segments index = false → further[index]? = bytes[index]?) :
    Repeated Stored segments further := by
  induction stored generalizing further with
  | nil =>
    obtain rfl := List.length_eq_zero_iff.mp sameLength
    exact .nil
  | @cons segment segments first rest here row ih =>
    have size_eq := here.length_eq
    rw [List.length_append] at sameLength
    rw [← List.take_append_drop segment.size further]
    apply Repeated.cons
    · apply here.of_agree
      · rw [List.length_take]
        omega
      · intro index head
        have near : index < segment.size := by
          rw [size]
          omega
        have outside : inPayload (segment :: segments) index = false := by
          simp [inPayload, near, head]
        rw [List.getElem?_take_of_lt near, agree index outside,
          List.getElem?_append_left (by omega)]
    · apply ih
      · rw [List.length_drop]
        omega
      · intro index outside
        have outside : inPayload (segment :: segments) (segment.size + index) = false := by
          simp [inPayload, outside]
        rw [List.getElem?_drop, agree _ outside, List.getElem?_append_right (by omega), size_eq,
          Nat.add_sub_cancel_left]

theorem lt_totalSize_of_inPayload {index : Nat} (inside : inPayload segments index = true) :
    index < totalSize segments := by
  induction segments generalizing index with
  | nil => cases inside
  | cons segment segments ih =>
    rw [totalSize]
    by_cases near : index < segment.size
    · omega
    · rw [inPayload, if_neg near] at inside
      have := ih inside
      omega

/-- The byte at an index belongs to a payload of the segments that stand from a position on. -/
def PayloadAt (segments : List Segment) (first index : Nat) : Prop :=
  first ≤ index ∧ inPayload segments (index - first) = true

theorem RowAt.lt_last (row : RowAt data first segments last) {index : Nat}
    (inside : PayloadAt segments first index) : index < last := by
  have := lt_totalSize_of_inPayload inside.2
  have := row.last_eq
  have := inside.1
  omega

/-- **A row depends on no payload.** Data with the same bytes at all other places of a row has the
same row there. -/
theorem RowAt.of_agree (row : RowAt data first segments last)
    (sameLength : other.length = data.length)
    (agree : ∀ index, first ≤ index → index < last → ¬ PayloadAt segments first index →
      other[index]? = data[index]?) : RowAt other first segments last where
  first_le_last := row.first_le_last
  last_le := sameLength ▸ row.last_le
  stored := by
    apply repeated_of_agree row.stored
    · simp only [List.extract_eq_take_drop, List.length_take, List.length_drop, sameLength]
    · intro index outside
      simp only [List.extract_eq_take_drop, List.getElem?_take, List.getElem?_drop]
      split
      · next near =>
        apply agree (first + index) (Nat.le_add_right _ _) (by omega)
        intro payload
        rw [PayloadAt, Nat.add_sub_cancel_left, outside] at payload
        cases payload.2
      · rfl

end Segment

namespace Format

open Segment (RowAt PayloadAt)

variable {format : Format} {data other : List UInt8} {first behind last : Nat}
variable {segments : List Segment} {segment : Segment}

/-! ## Documents as rows -/

/-- The repetition of generic segments stops where no segment of another type than the terminal
one begins. -/
theorem halts_generic {cur : Cursor} (stuck : ∀ segment finish,
    RowAt cur.buffer.toList cur.pos [segment] finish → segment.type = format.terminal) :
    (Segment.generic format.terminal.toNat).Halts cur := by
  rcases (Segment.forward_generic format.terminal.toNat).cases cur with
    ⟨segment, next, run, _⟩ | ⟨reported, attempted, run, _⟩
  · obtain ⟨bytes, passes, stored, different⟩ :=
      (Segment.recognises_generic format.terminal cur segment next).mp run
    have row := (Segment.rowAt_iff_passes passes.buffer_eq).mpr
      ⟨bytes, passes, repeated_singleton_iff.mpr stored⟩
    exact absurd (stuck segment next.pos row) different
  · exact .failed run

/-- A run of generic segments is the longest one, if what stands behind it is no generic segment. -/
theorem longestRun_iff_genericRun :
    format.LongestRun data first last ↔ format.GenericRun data first last ∧
      ∀ segment finish, RowAt data last [segment] finish → segment.type = format.terminal := by
  constructor
  · rintro ⟨⟨segments, row, types⟩, greatest⟩
    refine ⟨⟨segments, row, types⟩, fun segment finish next => ?_⟩
    by_contra different
    have longer : format.GenericRun data first finish := by
      refine ⟨segments ++ [segment], Segment.rowAt_append_iff.mpr ⟨last, row, next⟩, ?_⟩
      simpa [or_imp, forall_and] using ⟨types, different⟩
    have notFurther : finish ≤ last := greatest longer
    have size := next.last_eq
    rw [Segment.totalSize, Segment.size] at size
    omega
  · rintro ⟨⟨segments, row, types⟩, stuck⟩
    let cur : Cursor := ⟨.ofList data, first, by simpa using row.first_le_last.trans row.last_le⟩
    let stop : Cursor := ⟨.ofList data, last, by simpa using row.last_le⟩
    have sameBuffer : stop.buffer = cur.buffer := rfl
    obtain ⟨others, chain⟩ := (genericRun_iff_chain sameBuffer).mp ⟨segments, row, types⟩
    exact (longestRun_iff_chain sameBuffer).mpr ⟨others, chain, halts_generic stuck⟩

/-- The grammar accepts the start marker and a row of segments behind it. -/
theorem grammar_eq_success_iff_rowAt {cur last : Cursor} :
    format.grammar cur = .ok (.success segments last) ↔
      last.buffer = cur.buffer ∧ Word.At format.start cur.buffer.toList cur.pos ∧
        RowAt cur.buffer.toList (cur.pos + 2) segments last.pos ∧ format.Terminates segments ∧
        (format.requireEnd = true → last.pos = cur.buffer.toList.length) := by
  rw [grammar_eq_success_iff, last.rest_eq_nil_iff]
  constructor
  · rintro ⟨⟨bytes, passes, repeated⟩, terminates, ended⟩
    obtain ⟨middle, start, further⟩ := passes.split
    obtain ⟨⟨buffer, position⟩, marker⟩ := Word.passes_bytes_iff.mp start
    have row := (Segment.rowAt_iff_passes further.buffer_eq).mpr ⟨bytes, further, repeated⟩
    rw [buffer, position] at row
    rw [passes.buffer_eq] at ended
    exact ⟨passes.buffer_eq, marker, row, terminates, ended⟩
  · rintro ⟨buffer, marker, row, terminates, ended⟩
    obtain ⟨middle, start⟩ := marker.exists_passes
    obtain ⟨⟨sameBuffer, position⟩, _⟩ := Word.passes_bytes_iff.mp start
    rw [← sameBuffer, ← position] at row
    obtain ⟨bytes, further, repeated⟩ :=
      (Segment.rowAt_iff_passes (buffer.trans sameBuffer.symm)).mp row
    rw [← buffer] at ended
    exact ⟨⟨bytes, start.trans further, repeated⟩, terminates, ended⟩

/-! ## Bytes that are not read -/

/-- The indices of the bytes that reading from a position passes over or leaves alone. -/
inductive Unread (format : Format) (data : List UInt8) (first : Nat) : Nat → Prop
  /-- A payload byte of a segment in the longest run of generic ones. -/
  | generic {behind index : Nat} {segments : List Segment}
      (run : format.LongestRun data (first + 2) behind)
      (row : RowAt data (first + 2) segments behind)
      (inside : PayloadAt segments (first + 2) index) : Unread format data first index
  /-- A payload byte of the whole terminal segment behind the run. -/
  | terminal {behind last index : Nat} {closing : Segment}
      (run : format.LongestRun data (first + 2) behind) (row : RowAt data behind [closing] last)
      (type : closing.type = format.terminal) (inside : PayloadAt [closing] behind index) :
      Unread format data first index
  /-- A byte behind the whole terminal segment. -/
  | trailing {behind last index : Nat} (run : format.LongestRun data (first + 2) behind)
      (closed : format.ClosedAt data behind last) (beyond : last ≤ index) :
      Unread format data first index

theorem LongestRun.first_le_last (run : format.LongestRun data first last) : first ≤ last := by
  obtain ⟨⟨_, row, _⟩, _⟩ := run
  exact row.first_le_last

/-- Both bytes of the start marker are read. -/
theorem Unread.add_two_le {index : Nat} (unread : format.Unread data first index) :
    first + 2 ≤ index := by
  cases unread with
  | generic _ _ inside => exact inside.1
  | terminal run _ _ inside => exact run.first_le_last.trans inside.1
  | trailing run closed beyond =>
    obtain ⟨_, row, _⟩ := closed
    exact (run.first_le_last.trans row.first_le_last).trans beyond

/-- In front of the end of the longest run, the bytes that are not read belong to its payloads. -/
theorem Unread.of_lt {index : Nat} (unread : format.Unread data first index)
    (run : format.LongestRun data (first + 2) behind) (near : index < behind) :
    ∃ segments, RowAt data (first + 2) segments behind ∧
      PayloadAt segments (first + 2) index := by
  cases unread with
  | generic again row inside =>
    obtain rfl := IsGreatest.unique run again
    exact ⟨_, row, inside⟩
  | terminal again _ _ inside =>
    obtain rfl := IsGreatest.unique run again
    exact absurd inside.1 (by omega)
  | trailing again closed beyond =>
    obtain rfl := IsGreatest.unique run again
    obtain ⟨_, row, _⟩ := closed
    exact absurd (row.first_le_last.trans beyond) (by omega)

/-- Behind the longest run, bytes are not read only if a whole terminal segment stands there. They
belong to its payload or follow it. -/
theorem Unread.of_le {index : Nat} (unread : format.Unread data first index)
    (run : format.LongestRun data (first + 2) behind) (far : behind ≤ index) :
    ∃ closing last, RowAt data behind [closing] last ∧ closing.type = format.terminal ∧
      (PayloadAt [closing] behind index ∨ last ≤ index) := by
  cases unread with
  | generic again row inside =>
    obtain rfl := IsGreatest.unique run again
    exact absurd (row.lt_last inside) (by omega)
  | terminal again row type inside =>
    obtain rfl := IsGreatest.unique run again
    exact ⟨_, _, row, type, .inl inside⟩
  | trailing again closed beyond =>
    obtain rfl := IsGreatest.unique run again
    obtain ⟨closing, row, type⟩ := closed
    exact ⟨closing, _, row, type, .inr beyond⟩

/-! ## Other data that agrees where it is read -/

/-- Other data has as many bytes, and the same ones wherever reading from a position looks at
them. -/
structure AgreesWhereRead (format : Format) (data : List UInt8) (first : Nat)
    (other : List UInt8) : Prop where
  length_eq : other.length = data.length
  agree : ∀ index, first ≤ index → ¬ format.Unread data first index →
    other[index]? = data[index]?

namespace AgreesWhereRead

variable (agrees : format.AgreesWhereRead data first other)

include agrees

/-- The bytes of the start marker are the same. -/
theorem start_eq (index : Nat) (near : first ≤ index) (inMarker : index < first + 2) :
    other[index]? = data[index]? := by
  apply agrees.agree index near
  intro unread
  have := unread.add_two_le
  omega

/-- The generic segments stand in the other data, too. -/
theorem genericRow (run : format.LongestRun data (first + 2) behind)
    (row : RowAt data (first + 2) segments behind) : RowAt other (first + 2) segments behind := by
  apply row.of_agree agrees.length_eq
  intro index near far outside
  apply agrees.agree index (by omega)
  intro unread
  obtain ⟨others, sameRow, inside⟩ := unread.of_lt run far
  obtain rfl := row.segments_eq sameRow
  exact outside inside

/-- A segment behind the run stands in the other data, too. -/
theorem rowBehind (run : format.LongestRun data (first + 2) behind)
    (row : RowAt data behind [segment] last) : RowAt other behind [segment] last := by
  have ahead := run.first_le_last
  apply row.of_agree agrees.length_eq
  intro index near far outside
  apply agrees.agree index (by omega)
  intro unread
  obtain ⟨closing, finish, sameRow, _, place⟩ := unread.of_le run near
  obtain ⟨rfl, rfl⟩ := row.singleton_eq sameRow
  cases place with
  | inl inside => exact outside inside
  | inr beyond => omega

/-- Where no whole terminal segment stands behind the run, all further bytes are the same. -/
theorem eq_of_not_closed (run : format.LongestRun data (first + 2) behind)
    (nowhere : ∀ last, ¬ format.ClosedAt data behind last) (index : Nat) (near : behind ≤ index) :
    other[index]? = data[index]? := by
  have ahead := run.first_le_last
  apply agrees.agree index (by omega)
  intro unread
  obtain ⟨closing, last, row, type, _⟩ := unread.of_le run near
  exact nowhere last ⟨closing, row, type⟩

/-- **No segment is made up behind the run.** What stands there in the other data stands there in
the first one. -/
theorem rowBehind_iff (run : format.LongestRun data (first + 2) behind) :
    RowAt other behind [segment] last ↔ RowAt data behind [segment] last := by
  refine ⟨fun next => ?_, agrees.rowBehind run⟩
  by_cases closed : ∃ finish, format.ClosedAt data behind finish
  · obtain ⟨finish, closing, row, _⟩ := closed
    obtain ⟨rfl, rfl⟩ := next.singleton_eq (agrees.rowBehind run row)
    exact row
  · apply next.of_agree agrees.length_eq.symm
    intro index near _ _
    exact (agrees.eq_of_not_closed run (not_exists.mp closed) index near).symm

/-- **The run ends where it did.** -/
theorem longestRun (run : format.LongestRun data (first + 2) behind) :
    format.LongestRun other (first + 2) behind := by
  obtain ⟨⟨segments, row, types⟩, stuck⟩ := longestRun_iff_genericRun.mp run
  apply longestRun_iff_genericRun.mpr
  refine ⟨⟨segments, agrees.genericRow run row, types⟩, fun segment finish next => ?_⟩
  exact stuck segment finish ((agrees.rowBehind_iff run).mp next)

/-- The segments of a document stand in the other data, too. -/
theorem documentRow (row : RowAt data (first + 2) segments last)
    (terminates : format.Terminates segments) : RowAt other (first + 2) segments last := by
  obtain ⟨front, closing, rfl, type, others⟩ := terminates
  obtain ⟨behind, frontRow, closingRow⟩ := Segment.rowAt_append_iff.mp row
  have run : format.LongestRun data (first + 2) behind := by
    refine longestRun_iff_genericRun.mpr ⟨⟨front, frontRow, others⟩, fun segment finish next => ?_⟩
    obtain ⟨rfl, _⟩ := next.singleton_eq closingRow
    exact type
  exact Segment.rowAt_append_iff.mpr
    ⟨behind, agrees.genericRow run frontRow, agrees.rowBehind run closingRow⟩

/-- Data that is rejected is rejected in the same way with other unread bytes. -/
theorem rejectedAt {attempt : Nat} (rejected : format.RejectedAt data first attempt) :
    format.RejectedAt other first attempt := by
  cases rejected with
  | start missed => exact .start (missed.of_agree agrees.start_eq)
  | @terminal behind _ started run missed =>
    have nowhere : ∀ last, ¬ format.ClosedAt data behind last := by
      rintro last ⟨closing, row, type⟩
      exact missed.not_at (type ▸ row.type_at)
    apply RejectedAt.terminal (started.of_agree agrees.start_eq) (agrees.longestRun run)
    apply missed.of_agree
    intro index near _
    exact agrees.eq_of_not_closed run nowhere index near
  | cutShort started run announced cut =>
    rw [← agrees.length_eq]
    apply RejectedAt.cutShort (started.of_agree agrees.start_eq) (agrees.longestRun run)
    · apply announced.of_agree
      intro index near _
      exact agrees.eq_of_not_closed run cut index near
    · rintro last ⟨closing, row, type⟩
      exact cut last ⟨closing, (agrees.rowBehind_iff run).mp row, type⟩
  | trailing started run closed more wanted =>
    obtain ⟨closing, row, type⟩ := closed
    rw [← agrees.length_eq] at more
    exact .trailing (started.of_agree agrees.start_eq) (agrees.longestRun run)
      ⟨closing, agrees.rowBehind run row, type⟩ more wanted

end AgreesWhereRead

/-- **Payloads and bytes behind a document cannot influence parsing.** At one position of two
buffers of the same size whose bytes agree wherever the first one is read, the grammar of every
format has alike outcomes. Both are successes with the same segments that end at the same
position, or both are failures with the same two positions. -/
theorem document_ignores_unread (format : Format) {cur other : Cursor}
    (samePos : other.pos = cur.pos)
    (agrees : format.AgreesWhereRead cur.buffer.toList cur.pos other.buffer.toList) :
    ∃ grammar, format.document = .ok grammar ∧ (∃ outcome, grammar cur = .ok outcome) ∧
      Alike (fun last there => (last.buffer = cur.buffer ∧ there.buffer = other.buffer) ∧
        last.pos = there.pos) (grammar cur) (grammar other) := by
  have sizes := agrees.length_eq
  rw [Buffer.length_toList, Buffer.length_toList] at sizes
  have counterpart : ∀ last : Cursor, last.buffer = cur.buffer →
      ∃ there : Cursor, there.buffer = other.buffer ∧ there.pos = last.pos := by
    intro last buffer
    have inside := last.pos_le_size
    rw [buffer, ← sizes] at inside
    exact ⟨⟨other.buffer, last.pos, inside⟩, rfl, rfl⟩
  obtain ⟨outcome, answered, _⟩ := format.forward_grammar cur
  refine ⟨format.grammar, format.document_eq, ⟨outcome, answered⟩, ?_⟩
  cases outcome with
  | success segments last =>
    obtain ⟨buffer, marker, row, terminates, ended⟩ := grammar_eq_success_iff_rowAt.mp answered
    obtain ⟨there, sameBuffer, position⟩ := counterpart last buffer
    have again : format.grammar other = .ok (.success segments there) := by
      rw [grammar_eq_success_iff_rowAt, samePos, position, agrees.length_eq]
      exact ⟨sameBuffer, marker.of_agree agrees.start_eq,
        agrees.documentRow row terminates, terminates, ended⟩
    rw [answered, again]
    exact .success segments ⟨⟨buffer, sameBuffer⟩, position.symm⟩
  | failure reported attempted =>
    obtain ⟨rfl, fails⟩ := (grammar_eq_failure_iff format).mp answered
    obtain ⟨buffer, rejected⟩ := failsAt_grammar_iff_rejectedAt.mp fails
    obtain ⟨there, sameBuffer, position⟩ := counterpart attempted buffer
    have again : format.grammar other = .ok (.failure other there) := by
      rw [grammar_eq_failure_iff, failsAt_grammar_iff_rejectedAt, samePos, position]
      exact ⟨rfl, sameBuffer, agrees.rejectedAt rejected⟩
    rw [answered, again]
    exact .failure ⟨⟨rfl, rfl⟩, samePos.symm⟩ ⟨⟨buffer, sameBuffer⟩, position.symm⟩

/-! ### Planted markers

Both payloads and the byte behind the document are replaced so that terminal markers stand in
front of the terminal segment, across its end and nowhere else. -/

namespace Sample

def plainData : List UInt8 :=
  [0xFF, 0xD8, 0xFF, 0xE0, 0x00, 0x04, 0x01, 0x02, 0xFF, 0xDA, 0x00, 0x03, 0x05, 0x99]

def plantedData : List UInt8 :=
  [0xFF, 0xD8, 0xFF, 0xE0, 0x00, 0x04, 0xFF, 0xDA, 0xFF, 0xDA, 0x00, 0x03, 0xFF, 0xDA]

theorem frontRow_plainData : RowAt plainData 2 [⟨0xFFE0, 4⟩] 8 :=
  ⟨by decide, by decide, repeated_singleton_iff.mpr ⟨[0x01, 0x02], rfl, rfl⟩⟩

theorem closingRow_plainData : RowAt plainData 8 [⟨0xFFDA, 3⟩] 13 :=
  ⟨by decide, by decide, repeated_singleton_iff.mpr ⟨[0x05], rfl, rfl⟩⟩

theorem longestRun_plainData : standard.LongestRun plainData 2 8 := by
  apply longestRun_iff_genericRun.mpr
  refine ⟨⟨_, frontRow_plainData, by decide⟩, fun segment finish next => ?_⟩
  obtain ⟨rfl, _⟩ := next.singleton_eq closingRow_plainData
  rfl

theorem agreesWhereRead_plantedData : standard.AgreesWhereRead plainData 0 plantedData where
  length_eq := rfl
  agree := by
    intro index _ read
    have same : ∀ index < 13, index ≠ 6 → index ≠ 7 → index ≠ 12 →
        plantedData[index]? = plainData[index]? := by decide
    apply same index
    · by_contra beyond
      exact read (.trailing longestRun_plainData ⟨_, closingRow_plainData, rfl⟩ (by omega))
    · rintro rfl
      exact read (.generic longestRun_plainData frontRow_plainData ⟨by decide, rfl⟩)
    · rintro rfl
      exact read (.generic longestRun_plainData frontRow_plainData ⟨by decide, rfl⟩)
    · rintro rfl
      exact read (.terminal longestRun_plainData closingRow_plainData rfl ⟨by decide, rfl⟩)

theorem document_ignores_planted : standard.AgreesWhereRead plainData 0 plantedData ∧
    ∃ grammar last there, standard.document = .ok grammar ∧
      grammar (Buffer.ofList plainData).start =
        .ok (.success [⟨0xFFE0, 4⟩, ⟨0xFFDA, 3⟩] last) ∧
      grammar (Buffer.ofList plantedData 1).start =
        .ok (.success [⟨0xFFE0, 4⟩, ⟨0xFFDA, 3⟩] there) ∧
      last.pos = 13 ∧ there.pos = 13 := by
  let last : Cursor := ⟨.ofList plainData, 13, by decide⟩
  have row := Segment.rowAt_append_iff.mpr ⟨8, frontRow_plainData, closingRow_plainData⟩
  have terminates : standard.Terminates [⟨0xFFE0, 4⟩, ⟨0xFFDA, 3⟩] :=
    ⟨[⟨0xFFE0, 4⟩], ⟨0xFFDA, 3⟩, rfl, rfl, by decide⟩
  have run : standard.grammar (Buffer.ofList plainData).start =
      .ok (.success [⟨0xFFE0, 4⟩, ⟨0xFFDA, 3⟩] last) :=
    grammar_eq_success_iff_rowAt.mpr ⟨rfl, ⟨rfl, rfl⟩, row, terminates, by decide⟩
  obtain ⟨grammar, built, _, alike⟩ := document_ignores_unread standard
    (show (Buffer.ofList plantedData 1).start.pos = (Buffer.ofList plainData).start.pos from rfl)
    agreesWhereRead_plantedData
  obtain rfl : standard.grammar = grammar := Except.ok.inj (standard.document_eq.symm.trans built)
  rw [run] at alike
  obtain ⟨there, runPlanted, ends⟩ := alike.exists_of_success
  exact ⟨agreesWhereRead_plantedData, _, last, there, built, run, runPlanted, rfl, ends.2.symm⟩

end Sample

end Format

end ByteGrammar
