import ByteGrammar.Proofs.Reporting
import ByteGrammar.Proofs.SegmentRejection

/-!
# Readings of a fixed word

A number can be asked for in three ways. It can be split into two bytes that are compared in turn,
it can be the start marker of a document, which is split in the same way but under a check of its
own, and it can be compared with a word that is read as a whole.

The checks refuse the same numbers. The start marker only checks the high byte, and that is enough,
because a number of which the high byte fits has two bytes, and the low byte of a number always fits
(`byteEqualTo_emod`). So both parsers can be built for exactly the numbers of words, they are one
parser, and nothing is left to go wrong when the low byte is built later.

All three succeed where both bytes of the number stand (`NumberAt`), and they report the cursor they
were given where they fail. They differ in the attempt they leave behind. Bytes that are compared in
turn are missed at the first of them that is not there (`comparedAttempt`). A word that is read as a
whole is missed where it begins, or at the end of the data if it is cut short (`testedAttempt`).
-/

set_option autoImplicit false

namespace ByteGrammar

namespace Parser

variable {number : Int} {data : List UInt8} {cur last reported attempted : Cursor}

/-! ## Numbers in data -/

/-- The byte at a position of some data has the given number. -/
def ByteAt (number : Int) (data : List UInt8) (pos : Nat) : Prop :=
  data[pos]?.map (fun byte => (byte.toNat : Int)) = some number

instance (number : Int) (data : List UInt8) (pos : Nat) : Decidable (ByteAt number data pos) :=
  inferInstanceAs (Decidable (_ = _))

/-- The two bytes of a number stand at a position of some data, the high one first. -/
def NumberAt (number : Int) (data : List UInt8) (pos : Nat) : Prop :=
  ByteAt (number / 256) data pos ∧ ByteAt (number % 256) data (pos + 1)

theorem byteAt_toNat_iff {byte : UInt8} {pos : Nat} :
    ByteAt byte.toNat data pos ↔ data[pos]? = some byte := by
  rw [ByteAt]
  cases data[pos]? with
  | none => simp
  | some other => simp only [Option.map_some, Option.some.injEq, Int.ofNat_inj, UInt8.toNat_inj]

/-- The number of a word stands where the word does. -/
theorem numberAt_toNat_iff {word : UInt16} {pos : Nat} :
    NumberAt word.toNat data pos ↔ Word.At word data pos := by
  rw [NumberAt, Word.At, ← Word.natCast_toNat_high, ← Word.natCast_toNat_low, byteAt_toNat_iff,
    byteAt_toNat_iff]

/-- Some word stands behind a cursor if two bytes are left. -/
theorem exists_at_iff : (∃ word, Word.At word cur.buffer.toList cur.pos) ↔ 2 ≤ cur.remaining := by
  rw [Cursor.remaining, ← Buffer.length_toList]
  constructor
  · intro whole
    obtain ⟨word, _, low⟩ := whole
    have := (List.getElem?_eq_some_iff.mp low).1
    omega
  · intro room
    have first : cur.pos < cur.buffer.toList.length := by omega
    have second : cur.pos + 1 < cur.buffer.toList.length := by omega
    refine ⟨UInt16.ofNat (Word.ofBytes cur.buffer.toList[cur.pos] cur.buffer.toList[cur.pos + 1]),
      ?_, ?_⟩
    · rw [Word.high_ofNat_ofBytes, List.getElem?_eq_getElem first]
    · rw [Word.low_ofNat_ofBytes, List.getElem?_eq_getElem second]

/-! ## The checks -/

/-- The low byte of any number can be asked for. -/
theorem byteEqualTo_emod (number : Int) : ∃ low, byteEqualTo (number % 256) = .ok low := by
  have inRange : 0 ≤ number % 256 ∧ number % 256 ≤ 255 := by omega
  exact ⟨_, if_pos inRange⟩

/-- **Both parsers of a fixed word refuse the same numbers**, each with the fault of its own check. -/
theorem refused_of_not_word (outside : ¬ (0 ≤ number ∧ number ≤ 65535)) :
    wordEqualTo number = .error (.wordOutOfRange number) ∧
      Segment.startMarker number = .error (.byteOutOfRange (number / 256)) := by
  have highOutside : ¬ (0 ≤ number / 256 ∧ number / 256 ≤ 255) := by omega
  constructor
  · rw [wordEqualTo, if_neg outside]
  · rw [Segment.startMarker, byteEqualTo, if_neg highOutside]
    rfl

/-! ## Where a fixed word is read and missed -/

/-- The position of the last attempt at a number that is compared byte by byte: its second byte if
the first one is there. -/
def comparedAttempt (number : Int) (cur : Cursor) : Nat :=
  if ByteAt (number / 256) cur.buffer.toList cur.pos then cur.pos + 1 else cur.pos

/-- The position of the last attempt at a number that is compared as a whole: its first byte, or the
end of the data if only one byte is left or none. -/
def testedAttempt (cur : Cursor) : Nat :=
  if 2 ≤ cur.remaining then cur.pos else cur.buffer.size

theorem fixedWord_eq_success_iff {word : UInt16} {value : Nat} :
    fixedWord word cur = .ok (.success value last) ↔
      (value : Int) = word.toNat ∧ NumberAt word.toNat cur.buffer.toList cur.pos ∧
        last.buffer = cur.buffer ∧ last.pos = cur.pos + 2 := by
  rw [recognises_fixedWord word cur value last, numberAt_toNat_iff, Int.ofNat_inj]
  constructor
  · intro ⟨_, passes, same, stored⟩
    subst stored
    obtain ⟨ends, found⟩ := Word.passes_bytes_iff.mp passes
    exact ⟨same, found, ends⟩
  · intro ⟨same, found, ends⟩
    exact ⟨_, Word.passes_bytes_iff.mpr ⟨ends, found⟩, same, rfl⟩

theorem fixedWord_eq_failure_iff {word : UInt16} :
    fixedWord word cur = .ok (.failure reported attempted) ↔
      ¬ NumberAt word.toNat cur.buffer.toList cur.pos ∧ reported = cur ∧
        attempted.buffer = cur.buffer ∧ attempted.pos = comparedAttempt word.toNat cur := by
  have place : comparedAttempt word.toNat cur =
      if cur.buffer.toList[cur.pos]? ≠ some (Word.high word) then cur.pos else cur.pos + 1 := by
    rw [comparedAttempt, ← Word.natCast_toNat_high, ite_not]
    simp only [byteAt_toNat_iff]
  have anchored : fixedWord word cur = .ok (.failure reported attempted) ↔
      reported = cur ∧ (fixedWord word).FailsAt cur attempted := by
    unfold fixedWord bindWith
    exact bindMaking_eq_failure_iff
  rw [anchored, failsAt_fixedWord_iff, Word.missedAt_iff, numberAt_toNat_iff, place]
  constructor
  · intro ⟨same, buffer, absent, position⟩
    exact ⟨absent, same, buffer, position⟩
  · intro ⟨absent, same, buffer, position⟩
    exact ⟨same, buffer, absent, position⟩

/-- A word that is compared as a whole is read where its two bytes are. -/
theorem testedWord_eq_success_iff {word : UInt16} {value : Nat} :
    wordMatching (fun found => (found : Int) == (word.toNat : Int)) cur =
        .ok (.success value last) ↔
      fixedWord word cur = .ok (.success value last) := by
  rw [recognises_wordMatching _ cur value last, recognises_fixedWord word cur value last]
  simp only [beq_iff_eq, Int.ofNat_inj]
  constructor
  · intro ⟨bytes, passes, found, same, stored, equal⟩
    obtain rfl : found = word := UInt16.toNat_inj.mp (same.symm.trans equal)
    exact ⟨bytes, passes, same, stored⟩
  · intro ⟨bytes, passes, same, stored⟩
    exact ⟨bytes, passes, word, same, stored, same⟩

theorem testedWord_eq_failure_iff {word : UInt16} :
    wordMatching (fun found => (found : Int) == (word.toNat : Int)) cur =
        .ok (.failure reported attempted) ↔
      ¬ NumberAt word.toNat cur.buffer.toList cur.pos ∧ reported = cur ∧
        attempted.buffer = cur.buffer ∧ attempted.pos = testedAttempt cur := by
  have rejected : ∀ other : UInt16,
      ((other.toNat : Int) == (word.toNat : Int)) = false ↔ other ≠ word := by
    intro other
    rw [beq_eq_false_iff_ne, ne_eq, Int.ofNat_inj, UInt16.toNat_inj]
  rw [(anchored_wordMatching _).eq_failure_iff, failsAt_wordMatching_iff, numberAt_toNat_iff,
    testedAttempt]
  simp only [rejected]
  by_cases whole : ∃ other, Word.At other cur.buffer.toList cur.pos
  · rw [if_pos (exists_at_iff.mp whole)]
    obtain ⟨other, found⟩ := whole
    constructor
    · intro ⟨same, failed⟩
      rcases failed with ⟨standing, again, different, rfl⟩ | ⟨nowhere, _⟩
      · exact ⟨fun here => different (again.unique here), same, rfl, rfl⟩
      · exact absurd found (nowhere other)
    · intro ⟨absent, same, buffer, position⟩
      refine ⟨same, .inl ⟨other, found, ?_, Cursor.ext_pos buffer position⟩⟩
      intro equal
      exact absent (equal ▸ found)
  · rw [if_neg (mt exists_at_iff.mpr whole)]
    constructor
    · intro ⟨same, failed⟩
      rcases failed with ⟨standing, again, _⟩ | ⟨_, buffer, ended⟩
      · exact absurd ⟨standing, again⟩ whole
      · exact ⟨fun here => whole ⟨word, here⟩, same, buffer,
          (Cursor.rest_eq_nil_iff_of_buffer_eq buffer).mp ended⟩
    · intro ⟨_, same, buffer, position⟩
      exact ⟨same, .inr ⟨not_exists.mp whole, buffer,
        (Cursor.rest_eq_nil_iff_of_buffer_eq buffer).mpr position⟩⟩

/-! ## The three readings together -/

/-- **The three readings of a fixed word agree.** The two parsers that split a number can be built
exactly for the numbers of words, and the low byte can be asked for whatever the number is. They are
then one parser, which meets no fault. It succeeds where the two bytes of the number stand, and so
does the comparison of a whole word, with the same value and the same cursor behind it. Elsewhere
both report the cursor they were given. The one leaves its last attempt at the first byte that is
missed, the other one where the word begins, or at the end of the data if the word is cut short. -/
theorem fixed_word_readings_agree (number : Int) :
    ((∃ parser, wordEqualTo number = .ok parser) ↔ 0 ≤ number ∧ number ≤ 65535) ∧
    ((∃ parser, Segment.startMarker number = .ok parser) ↔ 0 ≤ number ∧ number ≤ 65535) ∧
    (¬ (0 ≤ number ∧ number ≤ 65535) →
      wordEqualTo number = .error (.wordOutOfRange number) ∧
        Segment.startMarker number = .error (.byteOutOfRange (number / 256))) ∧
    (∃ low, byteEqualTo (number % 256) = .ok low) ∧
    (0 ≤ number ∧ number ≤ 65535 → ∃ parser,
      wordEqualTo number = .ok parser ∧ Segment.startMarker number = .ok parser ∧
      ∀ cur : Cursor,
        (∀ fault, parser cur ≠ .error fault) ∧
        (∀ value last, parser cur = .ok (.success value last) ↔
          (value : Int) = number ∧ NumberAt number cur.buffer.toList cur.pos ∧
            last.buffer = cur.buffer ∧ last.pos = cur.pos + 2) ∧
        (∀ reported attempted, parser cur = .ok (.failure reported attempted) ↔
          ¬ NumberAt number cur.buffer.toList cur.pos ∧ reported = cur ∧
            attempted.buffer = cur.buffer ∧ attempted.pos = comparedAttempt number cur) ∧
        (∀ value last, wordMatching (fun found => (found : Int) == number) cur =
            .ok (.success value last) ↔ parser cur = .ok (.success value last)) ∧
        ∀ reported attempted, wordMatching (fun found => (found : Int) == number) cur =
            .ok (.failure reported attempted) ↔
          ¬ NumberAt number cur.buffer.toList cur.pos ∧ reported = cur ∧
            attempted.buffer = cur.buffer ∧ attempted.pos = testedAttempt cur) := by
  have readings : 0 ≤ number ∧ number ≤ 65535 → ∃ word : UInt16, number = word.toNat ∧
      wordEqualTo number = .ok (fixedWord word) ∧
      Segment.startMarker number = .ok (fixedWord word) := by
    intro inRange
    obtain ⟨word, rfl⟩ := Word.exists_toNat_eq inRange
    exact ⟨word, rfl, wordEqualTo_toNat word, startMarker_toNat word⟩
  have refuses := @refused_of_not_word number
  refine ⟨⟨?_, ?_⟩, ⟨?_, ?_⟩, refuses, byteEqualTo_emod number, ?_⟩
  · intro ⟨parser, built⟩
    by_contra outside
    rw [(refuses outside).1] at built
    contradiction
  · intro inRange
    obtain ⟨word, _, built, _⟩ := readings inRange
    exact ⟨_, built⟩
  · intro ⟨parser, built⟩
    by_contra outside
    rw [(refuses outside).2] at built
    contradiction
  · intro inRange
    obtain ⟨word, _, _, built⟩ := readings inRange
    exact ⟨_, built⟩
  · intro inRange
    obtain ⟨word, rfl, compared, marker⟩ := readings inRange
    refine ⟨_, compared, marker, fun cur => ⟨fun fault met => ?_, ?_, ?_, ?_, ?_⟩⟩
    · obtain ⟨outcome, run, _⟩ := forward_fixedWord word cur
      rw [run] at met
      contradiction
    · exact fun value last => fixedWord_eq_success_iff
    · exact fun reported attempted => fixedWord_eq_failure_iff
    · exact fun value last => testedWord_eq_success_iff
    · exact fun reported attempted => testedWord_eq_failure_iff

/-! ### A marker with a wrong second byte, and half a marker at the end of the data -/

namespace Sample

/-- The cursor at a position of a wrong marker and a marker that is cut short. -/
def wrongMarkers (pos : Nat) (inside : pos ≤ 3) : Cursor :=
  ⟨.ofList [0xFF, 0xD9, 0xFF], pos, inside⟩

theorem terminal_readings_agree :
    (∃ parser, wordEqualTo 0xFFDA = .ok parser ∧ Segment.startMarker 0xFFDA = .ok parser ∧
      parser (wrongMarkers 0 (by decide)) =
        .ok (.failure (wrongMarkers 0 (by decide)) (wrongMarkers 1 (by decide))) ∧
      parser (wrongMarkers 2 (by decide)) =
        .ok (.failure (wrongMarkers 2 (by decide)) (wrongMarkers 3 (by decide)))) ∧
    wordMatching (fun found => (found : Int) == 0xFFDA) (wrongMarkers 0 (by decide)) =
      .ok (.failure (wrongMarkers 0 (by decide)) (wrongMarkers 0 (by decide))) ∧
    wordMatching (fun found => (found : Int) == 0xFFDA) (wrongMarkers 2 (by decide)) =
      .ok (.failure (wrongMarkers 2 (by decide)) (wrongMarkers 3 (by decide))) ∧
    wordEqualTo (-1) = .error (.wordOutOfRange (-1)) ∧
    Segment.startMarker (-1) = .error (.byteOutOfRange (-1)) := by
  obtain ⟨_, _, _, _, reads⟩ := fixed_word_readings_agree 0xFFDA
  obtain ⟨_, _, refuses, _, _⟩ := fixed_word_readings_agree (-1)
  obtain ⟨parser, compared, marker, outcomes⟩ := reads (by decide)
  obtain ⟨_, _, wrong, _, wrongTested⟩ := outcomes (wrongMarkers 0 (by decide))
  obtain ⟨_, _, cut, _, cutTested⟩ := outcomes (wrongMarkers 2 (by decide))
  have absent : ¬ NumberAt 0xFFDA [0xFF, 0xD9, 0xFF] 0 := fun found => absurd found.2 (by decide)
  have missing : ¬ NumberAt 0xFFDA [0xFF, 0xD9, 0xFF] 2 := fun found => absurd found.2 (by decide)
  refine ⟨⟨parser, compared, marker, ?_, ?_⟩, ?_, ?_, refuses (by decide)⟩
  · exact (wrong _ _).mpr ⟨absent, rfl, rfl, rfl⟩
  · exact (cut _ _).mpr ⟨missing, rfl, rfl, rfl⟩
  · exact (wrongTested _ _).mpr ⟨absent, rfl, rfl, rfl⟩
  · exact (cutTested _ _).mpr ⟨missing, rfl, rfl, rfl⟩

end Sample

end Parser

end ByteGrammar
