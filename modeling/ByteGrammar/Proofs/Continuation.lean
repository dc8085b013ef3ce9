import ByteGrammar.Proofs.Reading
import Mathlib.Order.Bounds.Basic

/-!
# Prefixes and continuations

What follows a document does not matter to a format that allows bytes behind it. A document that
was read is read again from the bytes it takes, whatever is put behind them, and it is read from no
fewer bytes (`Document.read_delimits_itself`). So the number of bytes that reading consumes is the
length of the shortest prefix that is accepted.

The other way round, data that is rejected may be the beginning of a document. This is so unless
its first bytes already differ from the start marker (`Document.completable_iff`). Behind the start
marker every byte fits: whatever two bytes are read as a type belong to a generic segment or to
the terminal one, any length is allowed, and so is any payload. A segment that is cut short can
therefore be completed (`Segment.exists_completion`), and a terminal segment put behind it.
-/

set_option autoImplicit false

namespace ByteGrammar

/-! ## Bytes behind a document -/

namespace Document

variable {format : Format} {bytes : List UInt8} {document : Document}

/-- A format that allows bytes behind a document reads the same document with further bytes. -/
theorem read_append (lenient : format.requireEnd = false)
    (run : read format bytes = .ok document) (tail : List UInt8) :
    read format (bytes ++ tail) = .ok document := by
  obtain ⟨body, others, rfl, repeated, terminates, consumed, _⟩ := read_eq_ok_iff_append.mp run
  refine read_eq_ok_iff_append.mpr ⟨body, others ++ tail, List.append_assoc _ _ _, repeated,
    terminates, consumed, fun wanted => ?_⟩
  rw [lenient] at wanted
  contradiction

/-- A document is read from the bytes that it takes. -/
theorem read_take_consumed (run : read format bytes = .ok document) :
    ∃ size : Nat, document.consumed = size ∧ size ≤ bytes.length ∧
      read format (bytes.take size) = .ok document := by
  obtain ⟨body, tail, rfl, repeated, terminates, consumed, _⟩ := read_eq_ok_iff_append.mp run
  have length := Word.length_bytes_append format.start body
  refine ⟨2 + body.length, consumed, ?_, read_eq_ok_iff_append.mpr
    ⟨body, [], ?_, repeated, terminates, consumed, fun _ => rfl⟩⟩
  · rw [List.length_append, length]
    exact Nat.le_add_right _ _
  · rw [← length, List.take_left, List.append_nil]

/-- **A format that allows bytes behind a document is self-delimiting.** The bytes that a document
takes are read as the same document with anything behind them, and with any of them missing at the
end they are rejected. Their number is the least length of a prefix that is accepted. -/
theorem read_delimits_itself (lenient : format.requireEnd = false)
    (run : read format bytes = .ok document) :
    ∃ size : Nat, document.consumed = size ∧ size ≤ bytes.length ∧
      (∀ shorter < size, ∃ attemptedAt,
        read format (bytes.take shorter) = .error (.rejected 0 attemptedAt)) ∧
      (∀ tail, read format (bytes.take size ++ tail) = .ok document) ∧
      IsLeast {length | ∃ other, read format (bytes.take length) = .ok other} size := by
  obtain ⟨size, consumed, inside, again⟩ := read_take_consumed run
  -- A prefix that is accepted is read as the same document, and so has all bytes it takes.
  have least : ∀ length other, read format (bytes.take length) = .ok other → size ≤ length := by
    intro length other runPrefix
    have whole := read_append lenient runPrefix (bytes.drop length)
    rw [List.take_append_drop, run] at whole
    cases whole
    obtain ⟨taken, sameConsumed, within, _⟩ := read_take_consumed runPrefix
    have sameSize : size = taken := Int.ofNat_inj.mp (consumed.symm.trans sameConsumed)
    rw [sameSize]
    exact within.trans (List.length_take_le _ _)
  refine ⟨size, consumed, inside, fun shorter less => ?_, read_append lenient again,
    ⟨document, again⟩, fun length ⟨other, runPrefix⟩ => least length other runPrefix⟩
  rcases read_cases format (bytes.take shorter) with ⟨other, accepted⟩ | ⟨attemptedAt, rejected, _⟩
  · exact absurd (least shorter other accepted) (Nat.not_le.mpr less)
  · exact ⟨attemptedAt, rejected⟩

/-- The twelve bytes of a document whose payload is the terminal marker, and one byte behind it. -/
theorem read_delimits_itself_sample :
    Format.standard.requireEnd = false ∧
      read Format.standard (Format.Sample.data.drop 1) = .ok ⟨Format.Sample.segments, 12⟩ ∧
      (∀ shorter < 12, ∃ attemptedAt,
        read Format.standard ((Format.Sample.data.drop 1).take shorter) =
          .error (.rejected 0 attemptedAt)) ∧
      read Format.standard ((Format.Sample.data.drop 1).take 12 ++ [0xFF, 0xDA]) =
        .ok ⟨Format.Sample.segments, 12⟩ := by
  have run : read Format.standard (Format.Sample.data.drop 1) =
      .ok ⟨Format.Sample.segments, 12⟩ := by
    decide
  obtain ⟨size, consumed, _, rejects, accepts, _⟩ := read_delimits_itself rfl run
  obtain rfl : 12 = size := Int.ofNat_inj.mp consumed
  exact ⟨rfl, run, rejects, accepts [0xFF, 0xDA]⟩

end Document

/-! ## Completions -/

namespace Word

/-- Any two bytes are the stored form of a word. -/
theorem exists_bytes_eq (first second : UInt8) : ∃ word, bytes word = [first, second] :=
  ⟨UInt16.ofNat (ofBytes first second), by rw [bytes, high_ofNat_ofBytes, low_ofNat_ofBytes]⟩

/-- Data that agrees with a word as far as its first two bytes go is continued to the word by the
bytes of the word that it lacks. -/
theorem append_drop_bytes {word : UInt16} {data : List UInt8}
    (front : data.take (min 2 data.length) = (bytes word).take (min 2 data.length)) :
    data ++ (bytes word).drop data.length = bytes word ++ data.drop 2 := by
  rcases Nat.le_total 2 data.length with whole | part
  · rw [Nat.min_eq_left whole, List.take_of_length_le (Nat.le_of_eq (length_bytes _))] at front
    rw [List.drop_eq_nil_of_le whole, List.append_nil, ← front, List.take_append_drop]
  · rw [Nat.min_eq_right part, List.take_length] at front
    calc data ++ (bytes word).drop data.length
        = (bytes word).take data.length ++ (bytes word).drop data.length := by rw [← front]
      _ = bytes word := List.take_append_drop _ _
      _ = bytes word ++ data.drop 2 := by rw [List.drop_eq_nil_of_le part, List.append_nil]

end Word

/-- Behind a segment of another type than the terminal one, segments may end as they did. -/
theorem Format.Terminates.cons {format : Format} {segment : Segment} {segments : List Segment}
    (terminates : format.Terminates segments) (other : segment.type ≠ format.terminal) :
    format.Terminates (segment :: segments) := by
  obtain ⟨front, closing, rfl, type, others⟩ := terminates
  exact ⟨segment :: front, closing, rfl, type, List.forall_mem_cons.mpr ⟨other, others⟩⟩

/-- A segment of the terminal type ends a document by itself. -/
theorem Format.terminates_singleton {format : Format} {segment : Segment}
    (type : segment.type = format.terminal) : format.Terminates [segment] :=
  ⟨[], segment, rfl, type, by simp⟩

namespace Segment

/-- Bytes can be continued to the four bytes of a type and a length, which leave fewer of them. -/
theorem exists_head_completion {rest : List UInt8} (nonempty : rest ≠ []) :
    ∃ pad a b c d others, rest ++ pad = a :: b :: c :: d :: others ∧
      others.length < rest.length := by
  match rest with
  | [a] => exact ⟨[0, 0, 0], a, 0, 0, 0, [], rfl, Nat.zero_lt_one⟩
  | [a, b] => exact ⟨[0, 0], a, b, 0, 0, [], rfl, Nat.zero_lt_two⟩
  | [a, b, c] => exact ⟨[0], a, b, c, 0, [], rfl, Nat.zero_lt_succ _⟩
  | a :: b :: c :: d :: others =>
    exact ⟨[], a, b, c, d, others, List.append_nil _, by simp only [List.length_cons]; omega⟩

/-- **Every byte can begin a segment.** Bytes can be continued so that they begin with a whole
segment, which leaves fewer of them. -/
theorem exists_completion {rest : List UInt8} (nonempty : rest ≠ []) :
    ∃ tail segment bytes more, rest ++ tail = bytes ++ more ∧ Stored segment bytes ∧
      more.length < rest.length := by
  -- The head is completed first, because it tells how long the payload has to be.
  obtain ⟨pad, a, b, c, d, others, padded, fewer⟩ := exists_head_completion nonempty
  obtain ⟨type, typeBytes⟩ := Word.exists_bytes_eq a b
  obtain ⟨length, lengthBytes⟩ := Word.exists_bytes_eq c d
  let segment : Segment := ⟨type, length⟩
  let filled := others ++ List.replicate (segment.payloadLength - others.length) 0
  have filledLength : filled.length = others.length + (segment.payloadLength - others.length) := by
    rw [List.length_append, List.length_replicate]
  refine ⟨pad ++ List.replicate (segment.payloadLength - others.length) 0, segment,
    Word.bytes type ++ Word.bytes length ++ filled.take segment.payloadLength,
    filled.drop segment.payloadLength, ?_, ⟨_, ?_, rfl⟩, ?_⟩
  · rw [List.append_assoc _ (filled.take _), List.take_append_drop, typeBytes, lengthBytes,
      ← List.append_assoc, padded]
    rfl
  · rw [List.length_take, filledLength]
    omega
  · rw [List.length_drop, filledLength]
    omega

end Segment

namespace Format

/-- **All bytes can be continued to the segments of a document.** -/
theorem exists_completion (format : Format) (rest : List UInt8) :
    ∃ tail segments body more, rest ++ tail = body ++ more ∧
      Repeated Segment.Stored segments body ∧ format.Terminates segments := by
  -- Each whole segment that is not the terminal one leaves fewer bytes to continue.
  induction size : rest.length using Nat.strong_induction_on generalizing rest with
  | _ size ih =>
    by_cases nonempty : rest = []
    · subst nonempty
      exact ⟨Segment.encode 0 ⟨format.terminal, 0⟩, [⟨format.terminal, 0⟩], _, [], by simp,
        repeated_singleton_iff.mpr (Segment.stored_encode 0 _), terminates_singleton rfl⟩
    · obtain ⟨tail, segment, bytes, more, goesOn, stored, fewer⟩ :=
        Segment.exists_completion nonempty
      by_cases terminal : segment.type = format.terminal
      · exact ⟨tail, [segment], bytes, more, goesOn, repeated_singleton_iff.mpr stored,
          terminates_singleton terminal⟩
      · obtain ⟨further, segments, body, beyond, goesFurther, storedFurther, terminates⟩ :=
          ih more.length (by omega) more rfl
        refine ⟨tail ++ further, segment :: segments, bytes ++ body, beyond, ?_,
          .cons stored storedFurther, terminates.cons terminal⟩
        rw [← List.append_assoc, goesOn, List.append_assoc, goesFurther, List.append_assoc]

end Format

namespace Document

variable {format : Format}

/-- **Behind the start marker, data is rejected only for want of bytes.** With a format that allows
bytes behind a document, data can be continued to one exactly if its first two bytes, or as many as
there are, are those of the start marker. -/
theorem completable_iff (lenient : format.requireEnd = false) (bytes : List UInt8) :
    (∃ tail document, read format (bytes ++ tail) = .ok document) ↔
      bytes.take (min 2 bytes.length) = (Word.bytes format.start).take (min 2 bytes.length) := by
  constructor
  · rintro ⟨tail, document, run⟩
    obtain ⟨body, others, same, _⟩ := read_eq_ok_iff_append.mp run
    have short : min 2 bytes.length ≤ (Word.bytes format.start).length := Nat.min_le_left _ _
    have front := congrArg (List.take (min 2 bytes.length)) same
    rwa [List.append_assoc, List.take_append_of_le_length (Nat.min_le_right _ _),
      List.take_append_of_le_length short] at front
  · intro front
    obtain ⟨tail, segments, body, more, goesOn, repeated, terminates⟩ :=
      format.exists_completion (bytes.drop 2)
    refine ⟨(Word.bytes format.start).drop bytes.length ++ tail, ⟨segments, (2 + body.length : Nat)⟩,
      read_eq_ok_iff_append.mpr ⟨body, more, ?_, repeated, terminates, rfl, fun wanted => ?_⟩⟩
    · -- The rest of the start marker comes first, if it is not there as a whole.
      rw [← List.append_assoc, Word.append_drop_bytes front, List.append_assoc, goesOn,
        List.append_assoc]
    · rw [lenient] at wanted
      contradiction

/-- A payload that is cut short can be completed, and a start marker with another second byte
cannot. -/
theorem completable_sample :
    Format.standard.requireEnd = false ∧
      (∃ tail document, read Format.standard ([0xFF, 0xD8, 0xFF, 0xE1, 0x00, 0x05, 0x01] ++ tail) =
        .ok document) ∧
      ¬ ∃ tail document, read Format.standard ([0xFF, 0xD9, 0xFF, 0xDA] ++ tail) = .ok document :=
  ⟨rfl, (completable_iff rfl _).mpr (by decide), fun completed =>
    absurd ((completable_iff rfl _).mp completed) (by decide)⟩

end Document

end ByteGrammar
