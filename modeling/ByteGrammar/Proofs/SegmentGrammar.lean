import ByteGrammar.Proofs.StoredForm

/-!
# The parsers of segments

The start marker of a document and the type of a terminal segment are fixed words. A fixed
word is split into two bytes when its parser is built and joined again when it is read. Both
bytes are in the range that is asked for, so the parser can be built and meets no fault when
its second half is built later (`fixedWord`).

A generic segment and a terminal one differ in nothing but the types they accept. Both
recognise the stored form of a segment (`Segment.recognises_markedBy`), and neither can come
to numbers that are no words, which the check of a segment would refuse
(`Segment.forward_markedBy`).
-/

set_option autoImplicit false

namespace ByteGrammar

open ByteGrammar.Parser

namespace Word

theorem natCast_toNat_high (word : UInt16) :
    ((high word).toNat : Int) = (word.toNat : Int) / 256 := by
  rw [toNat_high, Int.natCast_ediv]
  rfl

theorem natCast_toNat_low (word : UInt16) :
    ((low word).toNat : Int) = (word.toNat : Int) % 256 := by
  rw [toNat_low, Int.natCast_emod]
  rfl

/-- An integer that fits into two bytes is the number of a word. -/
theorem exists_toNat_eq {value : Int} (inRange : 0 ≤ value ∧ value ≤ 65535) :
    ∃ word : UInt16, (word.toNat : Int) = value := by
  refine ⟨UInt16.ofNat value.toNat, ?_⟩
  rw [UInt16.toNat_ofNat']
  omega

end Word

/-! ## Fixed words -/

namespace Parser

/-- The parser of one fixed byte. -/
def fixedByte (byte : UInt8) : Parser UInt8 :=
  byteMatching fun found => (found.toNat : Int) == (byte.toNat : Int)

/-- The number of a byte can be asked for. -/
theorem byteEqualTo_toNat (byte : UInt8) : byteEqualTo byte.toNat = .ok (fixedByte byte) := by
  have small := byte.toNat_lt_size
  simp only [UInt8.size] at small
  exact if_pos ⟨by omega, by omega⟩

theorem forward_fixedByte (byte : UInt8) : (fixedByte byte).Forward fun _ => True :=
  (forward_byteMatching _).mono fun _ _ => trivial

theorem recognises_fixedByte (byte : UInt8) :
    (fixedByte byte).Recognises fun found bytes => found = byte ∧ bytes = [byte] := by
  refine (recognises_byteMatching _).congr fun found bytes => ?_
  simp only [beq_iff_eq, Int.ofNat_inj, UInt8.toNat_inj]
  constructor
  · rintro ⟨rfl, rfl⟩
    exact ⟨rfl, rfl⟩
  · rintro ⟨rfl, rfl⟩
    exact ⟨rfl, rfl⟩

/-- The parser of one fixed word, as two bytes. -/
def fixedWord (value : UInt16) : Parser Nat :=
  (fixedByte (Word.high value)).bindWith (fun _ => fixedByte (Word.low value))
    fun _ _ => value.toNat

/-- A start marker that is a word is read as that fixed word. -/
theorem startMarker_toNat (marker : UInt16) :
    Segment.startMarker marker.toNat = .ok (fixedWord marker) := by
  rw [Segment.startMarker, ← Word.natCast_toNat_high, ← Word.natCast_toNat_low,
    byteEqualTo_toNat, byteEqualTo_toNat]
  rfl

/-- A word that is wanted is read as that fixed word. -/
theorem wordEqualTo_toNat (value : UInt16) :
    wordEqualTo value.toNat = .ok (fixedWord value) := by
  have small := value.toNat_lt_size
  simp only [UInt16.size] at small
  have inRange : 0 ≤ (value.toNat : Int) ∧ (value.toNat : Int) ≤ 65535 := by omega
  rw [wordEqualTo, if_pos inRange]
  exact startMarker_toNat value

/-- A start marker can be built from the numbers of words alone. -/
theorem startMarker_eq_ok_iff {marker : Int} {parser : Parser Nat} :
    Segment.startMarker marker = .ok parser ↔
      ∃ word : UInt16, marker = word.toNat ∧ parser = fixedWord word := by
  constructor
  · intro built
    by_cases inRange : 0 ≤ marker / 256 ∧ marker / 256 ≤ 255
    · have fits : 0 ≤ marker ∧ marker ≤ 65535 := by omega
      obtain ⟨word, rfl⟩ := Word.exists_toNat_eq fits
      rw [startMarker_toNat] at built
      cases built
      exact ⟨word, rfl, rfl⟩
    · rw [Segment.startMarker, byteEqualTo, if_neg inRange] at built
      cases built
  · rintro ⟨word, rfl, rfl⟩
    exact startMarker_toNat word

/-- A fixed word can be asked for by the numbers of words alone. -/
theorem wordEqualTo_eq_ok_iff {value : Int} {parser : Parser Nat} :
    wordEqualTo value = .ok parser ↔
      ∃ word : UInt16, value = word.toNat ∧ parser = fixedWord word := by
  constructor
  · intro built
    rw [wordEqualTo] at built
    split at built
    · exact startMarker_eq_ok_iff.mp built
    · cases built
  · rintro ⟨word, rfl, rfl⟩
    exact wordEqualTo_toNat word

theorem forward_fixedWord (value : UInt16) :
    (fixedWord value).Forward fun number => number < 65536 :=
  (forward_fixedByte _).bindWith (fun _ _ => forward_fixedByte _) fun _ _ _ _ =>
    value.toNat_lt_size

theorem recognises_fixedWord (value : UInt16) :
    (fixedWord value).Recognises fun number bytes =>
      number = value.toNat ∧ bytes = Word.bytes value := by
  refine ((recognises_fixedByte _).bindWith fun _ => recognises_fixedByte _).congr
    fun number bytes => ?_
  constructor
  · rintro ⟨_, _, _, _, ⟨rfl, rfl⟩, ⟨rfl, rfl⟩, rfl, rfl⟩
    exact ⟨rfl, rfl⟩
  · rintro ⟨rfl, rfl⟩
    exact ⟨_, _, _, _, ⟨rfl, rfl⟩, ⟨rfl, rfl⟩, rfl, rfl⟩

end Parser

/-! ## Lengths and payloads -/

namespace Segment

/-- The number of payload bytes that a length announces is never negative. -/
theorem payload_eq (length : Nat) : payload length = .ok (anyByte.timesFrom (length - 2) []) := by
  have nonnegative : ¬ max ((length : Int) - 2) 0 < 0 := by omega
  have count : (max ((length : Int) - 2) 0).toNat = length - 2 := by omega
  rw [payload, times, if_neg nonnegative, count]

theorem forward_lengthAndPayload : lengthAndPayload.Forward fun number => number < 65536 :=
  forward_word.bindWith
    (fun length _ => .deferred (payload_eq length) (forward_anyByte.timesFrom _ _))
    fun _ _ small _ => small

theorem recognises_payload (length : Nat) :
    (deferred (payload length)).Recognises fun values bytes =>
      values.length = length - 2 ∧ bytes = values := by
  refine ((recognises_anyByte.timesFrom (length - 2) []).congr fun values bytes => ?_).deferred
    (payload_eq length)
  simp only [repeated_byte_iff]
  constructor
  · rintro ⟨others, count, rfl, rfl⟩
    exact ⟨count, rfl⟩
  · rintro ⟨count, rfl⟩
    exact ⟨bytes, count, rfl, rfl⟩

/-- A length is recognised together with as many bytes as it announces. -/
theorem recognises_lengthAndPayload :
    lengthAndPayload.Recognises fun number bytes => ∃ (length : UInt16) (skipped : List UInt8),
      number = length.toNat ∧ skipped.length = length.toNat - 2 ∧
        bytes = Word.bytes length ++ skipped := by
  refine (recognises_word.bindWith recognises_payload).congr fun number bytes => ?_
  constructor
  · rintro ⟨_, _, _, _, ⟨length, rfl, rfl⟩, ⟨count, rfl⟩, rfl, rfl⟩
    exact ⟨length, _, rfl, count, rfl⟩
  · rintro ⟨length, skipped, rfl, count, rfl⟩
    exact ⟨_, skipped, _, _, ⟨length, rfl, rfl⟩, ⟨count, rfl⟩, rfl, rfl⟩

/-! ## Segments -/

/-- The numbers of a type and a length that are words make that segment. -/
theorem ofNumbers_toNat (type length : UInt16) :
    ofNumbers type.toNat length.toNat = .ok ⟨type, length⟩ := by
  rw [ofNumbers_of_lt type.toNat_lt_size length.toNat_lt_size, UInt16.ofNat_toNat,
    UInt16.ofNat_toNat]

/-- **The check of a segment that was read never fails.** -/
theorem forward_markedBy {marker : Parser Nat} (small : marker.Forward fun number => number < 65536) :
    (markedBy marker).Forward fun _ => True :=
  small.bindMaking (fun _ _ => forward_lengthAndPayload) fun _ _ typeSmall lengthSmall =>
    ⟨_, ofNumbers_of_lt typeSmall lengthSmall, trivial⟩

/-- **A segment is recognised in its stored form** if its type is recognised as a word. -/
theorem recognises_markedBy {marker : Parser Nat} (accepts : UInt16 → Prop)
    (recognises : marker.Recognises fun number bytes => ∃ type : UInt16,
      number = type.toNat ∧ bytes = Word.bytes type ∧ accepts type) :
    (markedBy marker).Recognises fun segment bytes =>
      segment.Stored bytes ∧ accepts segment.type := by
  refine (recognises.bindMaking fun _ => recognises_lengthAndPayload).congr fun segment bytes => ?_
  constructor
  · rintro ⟨_, _, _, _, ⟨type, rfl, rfl, accepted⟩, ⟨length, skipped, rfl, count, rfl⟩, made, rfl⟩
    rw [ofNumbers_toNat] at made
    cases made
    exact ⟨⟨skipped, count, (List.append_assoc _ _ _).symm⟩, accepted⟩
  · rintro ⟨⟨skipped, count, rfl⟩, accepted⟩
    exact ⟨_, _, _, _, ⟨segment.type, rfl, rfl, accepted⟩,
      ⟨segment.length, skipped, rfl, count, rfl⟩, ofNumbers_toNat _ _, List.append_assoc _ _ _⟩

theorem forward_generic (terminal : Int) : (generic terminal).Forward fun _ => True :=
  forward_markedBy (forward_wordMatching _)

/-- The type that is read in front of a generic segment is not the terminal one. -/
theorem recognises_genericType (terminal : UInt16) :
    (wordMatching fun type => (type : Int) != (terminal.toNat : Int)).Recognises
      fun number bytes => ∃ type : UInt16,
        number = type.toNat ∧ bytes = Word.bytes type ∧ type ≠ terminal := by
  refine (recognises_wordMatching _).congr fun number bytes => ?_
  refine exists_congr fun type => and_congr_right ?_
  rintro rfl
  simp only [bne_iff_ne, ne_eq, Int.ofNat_inj, UInt16.toNat_inj]

/-- A generic segment is a segment of any type but the terminal one. -/
theorem recognises_generic (terminal : UInt16) :
    (generic terminal.toNat).Recognises fun segment bytes =>
      segment.Stored bytes ∧ segment.type ≠ terminal :=
  recognises_markedBy (· ≠ terminal) (recognises_genericType terminal)

/-- The parser of a terminal segment. -/
theorem terminal_toNat (marker : UInt16) :
    terminal marker.toNat = .ok (markedBy (fixedWord marker)) := by
  rw [terminal, wordEqualTo_toNat]
  rfl

/-- The type that is read in front of a terminal segment is the terminal one. -/
theorem recognises_terminalType (marker : UInt16) :
    (fixedWord marker).Recognises fun number bytes => ∃ type : UInt16,
      number = type.toNat ∧ bytes = Word.bytes type ∧ type = marker := by
  refine (recognises_fixedWord marker).congr fun number bytes => ?_
  constructor
  · rintro ⟨rfl, rfl⟩
    exact ⟨marker, rfl, rfl, rfl⟩
  · rintro ⟨_, rfl, rfl, rfl⟩
    exact ⟨rfl, rfl⟩

/-- A terminal segment is a segment of the terminal type. -/
theorem recognises_terminal (marker : UInt16) :
    (markedBy (fixedWord marker)).Recognises fun segment bytes =>
      segment.Stored bytes ∧ segment.type = marker :=
  recognises_markedBy (· = marker) (recognises_terminalType marker)

end Segment

end ByteGrammar
