import ByteGrammar.Document.Encoding
import ByteGrammar.Proofs.Reading

/-!
# Writing and reading

A document is written with the markers of the format it is read with, and with some byte in
its payloads. Writing succeeds exactly if the byte is one and the document has a stored form
(`Document.encode_layout_eq_ok_iff`), and what is written is a stored form of it. Since a stored form
belongs to one document only, reading undoes writing, whatever stands behind it
(`Document.read_of_encode`).

The other way round, a document that was read can always be written. Its payloads are not
kept, so the data comes back except for them, and they come back filled
(`Document.encode_of_read`). One such round is enough: what was written is read as the
document it was written from.
-/

set_option autoImplicit false

namespace ByteGrammar

/-- The layout with the markers of a format. -/
def Format.layout (format : Format) (fill : Int) : Layout :=
  ⟨fill, format.start.toNat, format.terminal.toNat⟩

namespace Document

variable {format : Format} {document : Document} {segments : List Segment}

/-! ## When a document is written -/

theorem hasType_toNat (type : UInt16) (segment : Segment) :
    hasType type.toNat segment = true ↔ segment.type = type := by
  rw [hasType, beq_iff_eq, Int.ofNat_inj, UInt16.toNat_inj]

/-- A document is written exactly if the numbers of the layout fit and its segments pass
both guards on their types. -/
theorem encode_eq_ok_iff {layout : Layout} {out : List UInt8} :
    document.encode layout = .ok out ↔
      (0 ≤ layout.fill ∧ layout.fill ≤ 255) ∧
        (document.segments.getLast?.any (hasType layout.terminal) = true ∧
          document.segments.dropLast.findIdx? (hasType layout.terminal) = none) ∧
        (0 ≤ layout.start ∧ layout.start ≤ 65535) ∧
        encodeBody (UInt8.ofInt layout.fill) (UInt16.ofInt layout.start) document.segments =
          out := by
  rw [encode, terminal?]
  constructor
  · intro run
    split at run
    · cases run
    · next fill =>
      split at run
      · cases run
      · next closing =>
        split at run
        · cases run
        · next others =>
          split at run
          · cases run
          · next small =>
            split at run
            · cases run
            · next natural =>
              cases run
              exact ⟨by omega, ⟨by simpa using closing, others⟩, by omega, rfl⟩
  · rintro ⟨fill, ⟨closing, others⟩, start, rfl⟩
    rw [if_neg (by omega), if_neg (by simp [closing])]
    simp only [others]
    rw [if_neg (by omega), if_neg (by omega)]

/-- The guards of the writer let exactly the segments pass that end as the format wants. -/
theorem terminates_iff_guards :
    format.Terminates segments ↔
      segments.getLast?.any (hasType format.terminal.toNat) = true ∧
        segments.dropLast.findIdx? (hasType format.terminal.toNat) = none := by
  simp only [List.findIdx?_eq_none_iff, ← Bool.not_eq_true, hasType_toNat]
  constructor
  · rintro ⟨front, last, rfl, type, others⟩
    rw [List.getLast?_concat, List.dropLast_concat, Option.any_some, hasType_toNat]
    exact ⟨type, others⟩
  · rintro ⟨closing, others⟩
    obtain ⟨last, isLast, type⟩ := (Option.any_eq_true _ _).mp closing
    obtain ⟨front, rfl⟩ := List.getLast?_eq_some_iff.mp isLast
    rw [List.dropLast_concat] at others
    exact ⟨front, last, rfl, (hasType_toNat _ _).mp type, others⟩

/-- **With the markers of a format, exactly the documents that end as it wants are written.** -/
theorem encode_layout_eq_ok_iff {fill : Int} {out : List UInt8} :
    document.encode (format.layout fill) = .ok out ↔
      (0 ≤ fill ∧ fill ≤ 255) ∧ format.Terminates document.segments ∧
        encodeBody (UInt8.ofInt fill) format.start document.segments = out := by
  have fits : (0 : Int) ≤ format.start.toNat ∧ (format.start.toNat : Int) ≤ 65535 := by
    have := format.start.toNat_lt_size
    rw [UInt16.size] at this
    omega
  rw [encode_eq_ok_iff, terminates_iff_guards]
  simp only [Format.layout, Word.ofInt_toNat, fits, and_self, true_and]

/-! ## What is written -/

theorem length_encodeBody (fill : UInt8) (start : UInt16) (segments : List Segment) :
    (encodeBody fill start segments).length = 2 + Segment.totalSize segments := by
  rw [encodeBody, Word.length_bytes_append,
    Segment.length_of_repeated (Segment.repeated_encode fill segments)]

/-- What is written stands at the front of all data that begins with it. -/
theorem standsAt_encodeBody (fill : UInt8) {tail : List UInt8}
    (terminates : format.Terminates segments) (ended : format.requireEnd = true → tail = []) :
    format.StandsAt (encodeBody fill format.start segments ++ tail) 0 segments
      (encodeBody fill format.start segments).length :=
  Format.standsAt_zero_iff.mpr ⟨segments.flatMap (Segment.encode fill), tail, rfl,
    Segment.repeated_encode fill segments, terminates, Word.length_bytes_append _ _, ended⟩

/-- **Writing a stored document again keeps all bytes but those of the payloads.** -/
theorem getElem?_encodeBody {data : List UInt8} {last : Nat} (fill : UInt8)
    (stands : format.StandsAt data 0 document.segments last) {index : Nat} (inside : index < last) :
    (encodeBody fill format.start document.segments)[index]? =
      if document.inPayload index then some fill else data[index]? := by
  obtain ⟨body, between, repeated⟩ := stands.stored
  have size := Segment.length_of_repeated repeated
  have total := stands.last_eq
  have front : data[index]? = (Word.bytes format.start ++ body)[index]? := by
    rw [← between, List.extract_eq_take_drop, List.drop_zero, Nat.sub_zero,
      List.getElem?_take_of_lt inside]
  rw [front, encodeBody, inPayload]
  by_cases marker : index < 2
  · rw [List.getElem?_append_left marker, List.getElem?_append_left marker]
    simp [Nat.not_le.mpr marker]
  · have beyond : 2 ≤ index := Nat.not_lt.mp marker
    rw [List.getElem?_append_right beyond, List.getElem?_append_right beyond, Word.length_bytes,
      Segment.getElem?_encode repeated fill (by omega)]
    simp [beyond]

/-! ## There and back -/

/-- What is written is read as the segments it was written from, whatever stands behind it. -/
theorem read_encodeBody (fill : UInt8) {tail : List UInt8} (terminates : format.Terminates segments)
    (ended : format.requireEnd = true → tail = []) :
    read format (encodeBody fill format.start segments ++ tail) =
      .ok ⟨segments, (encodeBody fill format.start segments).length⟩ :=
  read_eq_ok_iff.mpr ⟨_, standsAt_encodeBody fill terminates ended, rfl⟩

/-- **Reading undoes writing.** What is written has the size of its segments, and is read as
these segments, whatever stands behind it where the format allows that. -/
theorem read_of_encode {fill : Int} {out : List UInt8}
    (written : document.encode (format.layout fill) = .ok out) :
    out.length = 2 + (document.segments.map fun segment => 4 + segment.payloadLength).sum ∧
      ∀ tail, (format.requireEnd = true → tail = []) →
        read format (out ++ tail) = .ok ⟨document.segments, out.length⟩ := by
  obtain ⟨_, terminates, rfl⟩ := encode_layout_eq_ok_iff.mp written
  refine ⟨?_, fun tail ended => read_encodeBody _ terminates ended⟩
  rw [length_encodeBody, Segment.totalSize_eq_sum]

/-- A payload of two bytes that look like half a marker, and more of them behind the document. -/
theorem read_of_encode_sample :
    (⟨Format.Sample.segments, 99⟩ : Document).encode (Format.standard.layout 255) =
        .ok [0xFF, 0xD8, 0xFF, 0xE0, 0x00, 0x04, 0xFF, 0xFF, 0xFF, 0xDA, 0x00, 0x01] ∧
      read Format.standard [0xFF, 0xD8, 0xFF, 0xE0, 0x00, 0x04, 0xFF, 0xFF, 0xFF, 0xDA, 0x00, 0x01,
        0xFF, 0xDA] = .ok ⟨Format.Sample.segments, 12⟩ := by
  have written : (⟨Format.Sample.segments, 99⟩ : Document).encode (Format.standard.layout 255) =
      .ok [0xFF, 0xD8, 0xFF, 0xE0, 0x00, 0x04, 0xFF, 0xFF, 0xFF, 0xDA, 0x00, 0x01] := by
    decide
  exact ⟨written, (read_of_encode written).2 [0xFF, 0xDA] (by decide)⟩

/-- **Writing undoes reading but for the payloads.** A document that was read is written with
any fill byte, in the size it was read from. The data comes back at every byte that is not in
a payload, the fill byte stands at all others, and what is written is read as the same
document. -/
theorem encode_of_read {bytes : List UInt8} (run : read format bytes = .ok document)
    (fill : UInt8) :
    ∃ out, document.encode (format.layout fill.toNat) = .ok out ∧
      (out.length : Int) = document.consumed ∧
      (∀ index < out.length,
        out[index]? = if document.inPayload index then some fill else bytes[index]?) ∧
      read format out = .ok document := by
  obtain ⟨last, stands, consumed⟩ := read_eq_ok_iff.mp run
  have fits : fill.toNat < 256 := fill.toNat_lt_size
  have isFill : UInt8.ofInt fill.toNat = fill := by
    apply UInt8.toNat_inj.mp
    simp [UInt8.ofInt]
    omega
  have length : (encodeBody fill format.start document.segments).length = last := by
    rw [length_encodeBody, stands.last_eq, Nat.zero_add]
  refine ⟨encodeBody fill format.start document.segments, ?_, ?_, fun index inside => ?_, ?_⟩
  · exact encode_layout_eq_ok_iff.mpr ⟨by omega, stands.terminates, by rw [isFill]⟩
  · rw [length, consumed]
  · exact getElem?_encodeBody fill stands (length ▸ inside)
  · have again := read_encodeBody fill stands.terminates fun _ => rfl
    rwa [List.append_nil, length, ← consumed] at again

theorem encode_of_read_sample :
    read Format.standard (Format.Sample.data.drop 1) = .ok ⟨Format.Sample.segments, 12⟩ ∧
      ∃ out, encode ⟨Format.Sample.segments, 12⟩ (Format.standard.layout 7) = .ok out ∧
        out[6]? = some 7 ∧ read Format.standard out = .ok ⟨Format.Sample.segments, 12⟩ := by
  have run : read Format.standard (Format.Sample.data.drop 1) =
      .ok ⟨Format.Sample.segments, 12⟩ := by
    decide
  obtain ⟨out, written, length, bytes, again⟩ := encode_of_read run 7
  have size : out.length = 12 := Int.ofNat_inj.mp length
  have inPayload : inPayload ⟨Format.Sample.segments, 12⟩ 6 = true := by
    decide
  exact ⟨run, out, written, (bytes 6 (by omega)).trans (if_pos inPayload), again⟩

end Document

end ByteGrammar
