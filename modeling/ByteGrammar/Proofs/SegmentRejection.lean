import ByteGrammar.Proofs.Rejection
import ByteGrammar.Proofs.SegmentGrammar

/-!
# Where segments are rejected

A fixed word is compared byte by byte, so it is missed at its first byte that is not there
(`Word.MissedAt`). A word under a test is read as a whole before it is tested, so it is rejected at
its first byte (`Parser.failsAt_wordMatching_iff`). Everything behind the type of a segment consists
of bytes that may have any value, so what goes wrong there is that the data ends
(`Segment.failsAt_markedBy_iff`): a segment that is cut short is reported at the end of the data and
not where it begins.
-/

set_option autoImplicit false

namespace ByteGrammar

open ByteGrammar.Parser

variable {cur last attempted : Cursor}

/-! ## Words in data -/

namespace Word

/-- A word stands at a position of some data, its high byte first. -/
def At (word : UInt16) (data : List UInt8) (first : Nat) : Prop :=
  data[first]? = some (high word) ∧ data[first + 1]? = some (low word)

instance (word : UInt16) (data : List UInt8) (first : Nat) : Decidable (At word data first) :=
  inferInstanceAs (Decidable (_ ∧ _))

/-- A word does not stand at a position of some data, and the first of its bytes that is missed
is looked for at the other position. A byte is missed where the data ends. -/
inductive MissedAt (word : UInt16) (data : List UInt8) (first : Nat) : Nat → Prop
  | high (missed : data[first]? ≠ some (Word.high word)) : MissedAt word data first first
  | low (found : data[first]? = some (Word.high word))
      (missed : data[first + 1]? ≠ some (Word.low word)) : MissedAt word data first (first + 1)

/-- A word that stands at a position is not missed there. -/
theorem MissedAt.not_at {word : UInt16} {data : List UInt8} {first attempt : Nat}
    (missed : MissedAt word data first attempt) : ¬ At word data first := by
  rintro ⟨highFound, lowFound⟩
  cases missed with
  | high missed => exact missed highFound
  | low _ missed => exact missed lowFound

/-- A word is missed at one of its two bytes. -/
theorem MissedAt.near {word : UInt16} {data : List UInt8} {first attempt : Nat}
    (missed : MissedAt word data first attempt) : attempt = first ∨ attempt = first + 1 := by
  cases missed with
  | high _ => exact .inl rfl
  | low _ _ => exact .inr rfl

/-- A word that begins in the data is missed at the end of the data if its high byte is the last one
there is. -/
theorem MissedAt.eq_length_iff {word : UInt16} {data : List UInt8} {first attempt : Nat}
    (missed : MissedAt word data first attempt) (inside : first < data.length) :
    attempt = data.length ↔ first + 1 = data.length ∧ data[first]? = some (Word.high word) := by
  cases missed with
  | high missed =>
    constructor
    · intro ended
      omega
    · intro lastByte
      exact absurd lastByte.2 missed
  | low found _ => exact (and_iff_left found).symm

/-- A word is missed where it does not stand, at its second byte if the first one is there. -/
theorem missedAt_iff {word : UInt16} {data : List UInt8} {first attempt : Nat} :
    MissedAt word data first attempt ↔
      ¬ At word data first ∧
        attempt = if data[first]? ≠ some (high word) then first else first + 1 := by
  constructor
  · intro missed
    refine ⟨missed.not_at, ?_⟩
    cases missed with
    | high missed => rw [if_pos missed]
    | low found _ => rw [if_neg (not_not_intro found)]
  · rintro ⟨absent, rfl⟩
    split
    · next missed => exact .high missed
    · next found =>
      rw [not_not] at found
      exact .low found fun low => absent ⟨found, low⟩

/-- At most one word stands at a position. -/
theorem At.unique {word other : UInt16} {data : List UInt8} {first : Nat}
    (found : At word data first) (again : At other data first) : word = other := by
  have sameHigh := Option.some.inj (found.1.symm.trans again.1)
  have sameLow := Option.some.inj (found.2.symm.trans again.2)
  apply UInt16.toNat_inj.mp
  rw [← ofBytes_high_low word, ← ofBytes_high_low other, sameHigh, sameLow]

/-- A word stands in all data that has the same two bytes. -/
theorem At.of_agree {word : UInt16} {data other : List UInt8} {first : Nat}
    (found : At word data first)
    (agree : ∀ index, first ≤ index → index < first + 2 → other[index]? = data[index]?) :
    At word other first := by
  rw [At, agree first (by omega) (by omega), agree (first + 1) (by omega) (by omega)]
  exact found

/-- A word is missed in the same way in all data that has the same two bytes. -/
theorem MissedAt.of_agree {word : UInt16} {data other : List UInt8} {first attempt : Nat}
    (missed : MissedAt word data first attempt)
    (agree : ∀ index, first ≤ index → index < first + 2 → other[index]? = data[index]?) :
    MissedAt word other first attempt := by
  cases missed with
  | high missed =>
    rw [← agree first (by omega) (by omega)] at missed
    exact .high missed
  | low found missed =>
    rw [← agree first (by omega) (by omega)] at found
    rw [← agree (first + 1) (by omega) (by omega)] at missed
    exact .low found missed

/-- A word stands where the data goes on with its bytes. -/
theorem at_of_drop_eq {word : UInt16} {data rest : List UInt8} {first : Nat}
    (goesOn : data.drop first = bytes word ++ rest) : At word data first := by
  constructor
  · rw [← Nat.add_zero first, ← List.getElem?_drop, goesOn]
    rfl
  · rw [← List.getElem?_drop, goesOn]
    rfl

/-- A word is passed over two positions, if it is the word that stands there. -/
theorem passes_bytes_iff {word : UInt16} :
    cur.Passes (bytes word) last ↔
      (last.buffer = cur.buffer ∧ last.pos = cur.pos + 2) ∧ At word cur.buffer.toList cur.pos := by
  constructor
  · intro passes
    have both : cur.Passes ([high word] ++ [low word]) last := passes
    obtain ⟨middle, start, further⟩ := both.split
    obtain ⟨⟨buffer, position⟩, highFound⟩ := Cursor.passes_byte_iff.mp start
    have lowFound := (Cursor.passes_byte_iff.mp further).2
    rw [buffer, position] at lowFound
    exact ⟨⟨passes.buffer_eq, passes.pos_eq⟩, highFound, lowFound⟩
  · rintro ⟨⟨buffer, position⟩, highFound, lowFound⟩
    have inside : cur.pos + 1 ≤ cur.buffer.size := by
      have := (List.getElem?_eq_some_iff.mp highFound).1
      rwa [Buffer.length_toList] at this
    let middle : Cursor := ⟨cur.buffer, cur.pos + 1, inside⟩
    have start : cur.Passes [high word] middle :=
      Cursor.passes_byte_iff.mpr ⟨⟨rfl, rfl⟩, highFound⟩
    have further : middle.Passes [low word] last :=
      Cursor.passes_byte_iff.mpr ⟨⟨buffer, position⟩, lowFound⟩
    exact start.trans further

/-- A word that stands behind a cursor can be passed. -/
theorem At.exists_passes {word : UInt16} (found : At word cur.buffer.toList cur.pos) :
    ∃ last, cur.Passes (bytes word) last := by
  have inside : cur.pos + 2 ≤ cur.buffer.size := by
    have := (List.getElem?_eq_some_iff.mp found.2).1
    rwa [Buffer.length_toList] at this
  exact ⟨⟨cur.buffer, cur.pos + 2, inside⟩, passes_bytes_iff.mpr ⟨⟨rfl, rfl⟩, found⟩⟩

end Word

namespace Parser

theorem failsAt_fixedByte_iff {byte : UInt8} :
    (fixedByte byte).FailsAt cur attempted ↔
      attempted = cur ∧ cur.buffer.toList[cur.pos]? ≠ some byte := by
  rw [fixedByte, failsAt_byteMatching_iff]
  refine and_congr_right fun _ => ?_
  constructor
  · intro missed found
    simpa using missed byte found
  · intro missed other found
    rw [beq_eq_false_iff_ne, ne_eq, Int.ofNat_inj, UInt8.toNat_inj]
    rintro rfl
    exact missed found

/-- **A fixed word is reported at the first of its bytes that is missed.** -/
theorem failsAt_fixedWord_iff {value : UInt16} :
    (fixedWord value).FailsAt cur attempted ↔
      attempted.buffer = cur.buffer ∧
        Word.MissedAt value cur.buffer.toList cur.pos attempted.pos := by
  rw [fixedWord, failsAt_bindWith_iff]
  simp only [failsAt_fixedByte_iff]
  constructor
  · rintro (⟨rfl, missed⟩ | ⟨found, middle, run, rfl, missed⟩)
    · exact ⟨rfl, .high missed⟩
    · obtain ⟨_, passes, _, rfl⟩ := (recognises_fixedByte _ _ _ _).mp run
      obtain ⟨⟨buffer, position⟩, here⟩ := Cursor.passes_byte_iff.mp passes
      rw [buffer, position] at missed
      rw [position]
      exact ⟨buffer, .low here missed⟩
  · rintro ⟨buffer, missed⟩
    generalize position : attempted.pos = attempt at missed
    cases missed with
    | high missed => exact .inl ⟨Cursor.ext_pos buffer position, missed⟩
    | low found missed =>
      have passes := Cursor.passes_byte_iff.mpr ⟨⟨buffer, position⟩, found⟩
      have run := (recognises_fixedByte _ _ _ _).mpr ⟨_, passes, rfl, rfl⟩
      refine .inr ⟨Word.high value, attempted, run, rfl, ?_⟩
      rwa [buffer, position]

/-- **A word under a test is rejected at its first byte, or at the end of the data** if it is cut
short. -/
theorem failsAt_wordMatching_iff {test : Nat → Bool} :
    (wordMatching test).FailsAt cur attempted ↔
      (∃ value, Word.At value cur.buffer.toList cur.pos ∧ test value.toNat = false ∧
        attempted = cur) ∨
      (∀ value, ¬ Word.At value cur.buffer.toList cur.pos) ∧
        attempted.buffer = cur.buffer ∧ attempted.rest = [] := by
  have cutShort : word.FailsAt cur attempted ↔ attempted.buffer = cur.buffer ∧
      attempted.rest = [] ∧ ∀ number last, word cur ≠ .ok (.success number last) :=
    onlyAtEnd_word.failsAt_iff forward_word
  constructor
  · rintro ⟨reported, run⟩
    rw [wordMatching] at run
    split at run
    · cases run
    · next other attempt failed =>
      cases run
      obtain ⟨buffer, ended, nowhere⟩ := cutShort.mp ⟨other, failed⟩
      refine .inr ⟨fun value found => ?_, buffer, ended⟩
      obtain ⟨middle, passes⟩ := found.exists_passes
      exact nowhere _ middle ((recognises_word _ _ _).mpr ⟨_, passes, value, rfl, rfl⟩)
    · next number middle read =>
      obtain ⟨_, passes, value, rfl, rfl⟩ := (recognises_word _ _ _).mp read
      split at run
      · cases run
      · next rejected =>
        cases run
        exact .inl ⟨value, (Word.passes_bytes_iff.mp passes).2, by simpa using rejected, rfl⟩
  · rintro (⟨value, found, rejected, rfl⟩ | ⟨absent, buffer, ended⟩)
    · obtain ⟨middle, passes⟩ := found.exists_passes
      have read := (recognises_word _ _ _).mpr ⟨_, passes, value, rfl, rfl⟩
      exact ⟨attempted, by simp [wordMatching, read, rejected, Outcome.failureAt]⟩
    · obtain ⟨reported, failed⟩ := cutShort.mpr ⟨buffer, ended, fun number middle read => by
        obtain ⟨_, passes, value, _, rfl⟩ := (recognises_word _ _ _).mp read
        exact absent value (Word.passes_bytes_iff.mp passes).2⟩
      exact ⟨cur, by simp only [wordMatching, failed]⟩

end Parser

/-! ## Segments -/

namespace Segment

/-- A row of segments begins with the type of the first one. -/
theorem RowAt.type_at {data : List UInt8} {first last : Nat} {segment : Segment}
    {segments : List Segment} (row : RowAt data first (segment :: segments) last) :
    Word.At segment.type data first := by
  obtain ⟨_, others, between, ⟨payload, _, rfl⟩, _⟩ := repeated_cons_iff.mp row.stored
  have goesOn := row.drop_eq
  rw [between] at goesOn
  simp only [List.append_assoc] at goesOn
  exact Word.at_of_drop_eq goesOn

theorem onlyAtEnd_lengthAndPayload : lengthAndPayload.OnlyAtEnd :=
  onlyAtEnd_word.bindWith fun length =>
    .deferred (payload_eq length) (onlyAtEnd_anyByte.timesFrom _ _)

/-- **A segment is rejected at its type, or at the end of the data.** The end is reported when a
type stands there that is accepted, and the segment is not there as a whole. -/
theorem failsAt_markedBy_iff {marker : Parser Nat} (accepts : UInt16 → Prop)
    (recognises : marker.Recognises fun number bytes => ∃ type : UInt16,
      number = type.toNat ∧ bytes = Word.bytes type ∧ accepts type) :
    (markedBy marker).FailsAt cur attempted ↔
      marker.FailsAt cur attempted ∨
        (∃ type, Word.At type cur.buffer.toList cur.pos ∧ accepts type) ∧
          (∀ segment last, markedBy marker cur ≠ .ok (.success segment last)) ∧
          attempted.buffer = cur.buffer ∧ attempted.rest = [] := by
  have behind : ∀ middle, lengthAndPayload.FailsAt middle attempted ↔
      attempted.buffer = middle.buffer ∧ attempted.rest = [] ∧
        ∀ length last, lengthAndPayload middle ≠ .ok (.success length last) := fun _ =>
    onlyAtEnd_lengthAndPayload.failsAt_iff forward_lengthAndPayload
  rw [markedBy, failsAt_bindMaking_iff]
  refine or_congr_right ?_
  constructor
  · rintro ⟨number, middle, run, fails⟩
    obtain ⟨_, passes, type, rfl, rfl, accepted⟩ := (recognises _ _ _).mp run
    obtain ⟨buffer, ended, nowhere⟩ := (behind middle).mp fails
    refine ⟨⟨type, (Word.passes_bytes_iff.mp passes).2, accepted⟩, fun segment last whole => ?_,
      buffer.trans passes.buffer_eq, ended⟩
    obtain ⟨_, other, length, first, second, _⟩ := bindMaking_eq_success_iff.mp whole
    rw [run] at first
    cases first
    exact nowhere length last second
  · rintro ⟨⟨type, found, accepted⟩, nowhere, buffer, ended⟩
    obtain ⟨middle, passes⟩ := found.exists_passes
    have run := (recognises cur type.toNat middle).mpr ⟨_, passes, type, rfl, rfl, accepted⟩
    refine ⟨type.toNat, middle, run, (behind middle).mpr
      ⟨buffer.trans passes.buffer_eq.symm, ended, fun number last rest => ?_⟩⟩
    obtain ⟨_, _, length, _, rfl, _⟩ := (recognises_lengthAndPayload middle number last).mp rest
    exact nowhere _ last (bindMaking_eq_success_iff.mpr
      ⟨_, middle, _, run, rest, ofNumbers_toNat type length⟩)

end Segment

end ByteGrammar
