import ByteGrammar.Proofs.Editing
import ByteGrammar.Proofs.Legibility
import ByteGrammar.Validation.Format
import Mathlib.Order.Bounds.Basic

/-!
# What has to hold of a document that is written

The numbers of a layout may be any integers, and a document may end with any segment or have none.
Writing asks for four things in a fixed order: the fill byte is a byte, the last segment has the terminal
type, no earlier one has it, and the start marker is a word. A document for which all of them hold is
`Document.Writable`, and `Document.Refused` names the first one that fails. One of the two is always the
case (`Document.writable_or_refused`), and writing follows them. So both its successes and its errors are
known from the conditions alone (`Document.encode_checks_in_order`).

No condition asks for a terminal type that is a word. The type of a segment is one, and so the terminal
type is one if the last segment has it. The start marker belongs to no segment, so it is the only number
that can turn out not to fit while bytes are written.

A format has two different markers, and writing does not ask for that. This is the only gap between the
two: what was written with different markers can be read with them, and what was written with equal ones
cannot, since they are those of no format (`Document.encode_readable_iff_markers_differ`).
-/

set_option autoImplicit false

namespace ByteGrammar

namespace Layout

/-- The number that is to fill the payloads is a byte. -/
def FillFits (layout : Layout) : Prop :=
  0 ≤ layout.fill ∧ layout.fill ≤ 255

/-- The number that is to stand at the front is a word. -/
def StartFits (layout : Layout) : Prop :=
  0 ≤ layout.start ∧ layout.start ≤ 65535

/-- The numbers that are to be written for some segments, one for each byte. -/
def numbers (layout : Layout) (segments : List Segment) : List Int :=
  [layout.start / 256, layout.start % 256] ++ segments.flatMap fun segment =>
    [(segment.type.toNat : Int) / 256, (segment.type.toNat : Int) % 256,
      (segment.length.toNat : Int) / 256, (segment.length.toNat : Int) % 256] ++
        List.replicate (segment.length.toNat - 2) layout.fill

/-- The markers of a layout, as the raw data of a format. -/
def markers (layout : Layout) : Datum :=
  .record [("start_marker", .integer layout.start), ("terminal_marker", .integer layout.terminal)]

end Layout

namespace Document

variable {document : Document} {layout : Layout} {out : List UInt8}

/-! ## The conditions -/

/-- The last segment of a document has a type. -/
def EndsWith (document : Document) (type : Int) : Prop :=
  ∃ last, document.segments.getLast? = some last ∧ (last.type.toNat : Int) = type

/-- A segment that is not the last one has a type. -/
def EarlyAt (document : Document) (type : Int) (index : Nat) : Prop :=
  index + 1 < document.segments.length ∧
    ∃ segment, document.segments[index]? = some segment ∧ (segment.type.toNat : Int) = type

/-- All that is asked for before a document is written. -/
structure Writable (document : Document) (layout : Layout) : Prop where
  fill : layout.FillFits
  closing : document.EndsWith layout.terminal
  once : ∀ index, ¬ document.EarlyAt layout.terminal index
  start : layout.StartFits

/-- The first of the conditions that does not hold, with all before it holding. -/
inductive Refused (document : Document) (layout : Layout) : EncodeError → Prop
  | fill (outside : ¬ layout.FillFits) : Refused document layout (.fillOutOfRange layout.fill)
  | closing (fill : layout.FillFits) (otherEnd : ¬ document.EndsWith layout.terminal) :
      Refused document layout (.terminalNotLast layout.terminal)
  | early (fill : layout.FillFits) (closing : document.EndsWith layout.terminal) (index : Nat)
      (first : IsLeast {index | document.EarlyAt layout.terminal index} index) :
      Refused document layout (.terminalTooEarly index layout.terminal)
  | startTooBig (fill : layout.FillFits) (closing : document.EndsWith layout.terminal)
      (once : ∀ index, ¬ document.EarlyAt layout.terminal index) (big : 65535 < layout.start) :
      Refused document layout .startTooBig
  | startNegative (fill : layout.FillFits) (closing : document.EndsWith layout.terminal)
      (once : ∀ index, ¬ document.EarlyAt layout.terminal index) (negative : layout.start < 0) :
      Refused document layout .startNegative

theorem terminal?_any_iff {type : Int} :
    document.terminal?.any (hasType type) = true ↔ document.EndsWith type := by
  simp only [terminal?, Option.any_eq_true, hasType, beq_iff_eq, EndsWith]

theorem earlyAt_iff {type : Int} {index : Nat} :
    document.EarlyAt type index ↔
      ∃ inside : index < document.segments.dropLast.length,
        hasType type document.segments.dropLast[index] = true := by
  rw [EarlyAt]
  constructor
  · intro early
    obtain ⟨before, segment, stands, type⟩ := early
    obtain ⟨_, rfl⟩ := List.getElem?_eq_some_iff.mp stands
    refine ⟨by rw [List.length_dropLast]; omega, ?_⟩
    rw [List.getElem_dropLast, hasType, beq_iff_eq]
    exact type
  · intro early
    obtain ⟨inside, type⟩ := early
    rw [List.getElem_dropLast, hasType, beq_iff_eq] at type
    rw [List.length_dropLast] at inside
    exact ⟨by omega, _, List.getElem?_eq_getElem (by omega), type⟩

/-- The scan that stops at the first early terminal segment finds the least index of one. -/
theorem findIdx?_eq_some_iff_isLeast {type : Int} {index : Nat} :
    document.segments.dropLast.findIdx? (hasType type) = some index ↔
      IsLeast {index | document.EarlyAt type index} index := by
  rw [List.findIdx?_eq_some_iff_getElem]
  constructor
  · intro found
    obtain ⟨inside, type, before⟩ := found
    refine ⟨earlyAt_iff.mpr ⟨inside, type⟩, fun other early => ?_⟩
    obtain ⟨_, sameType⟩ := earlyAt_iff.mp early
    by_contra less
    exact before other (by omega) sameType
  · intro least
    obtain ⟨early, bound⟩ := least
    obtain ⟨inside, type⟩ := earlyAt_iff.mp early
    refine ⟨inside, type, fun other less sameType => ?_⟩
    have : index ≤ other := bound (earlyAt_iff.mpr ⟨by omega, sameType⟩)
    omega

theorem findIdx?_eq_none_iff_not_earlyAt {type : Int} :
    document.segments.dropLast.findIdx? (hasType type) = none ↔
      ∀ index, ¬ document.EarlyAt type index := by
  rw [List.findIdx?_eq_none_iff]
  constructor
  · intro others index early
    obtain ⟨inside, type⟩ := earlyAt_iff.mp early
    rw [others _ (List.getElem_mem inside)] at type
    cases type
  · intro never segment member
    obtain ⟨index, inside, rfl⟩ := List.getElem_of_mem member
    exact Bool.eq_false_iff.mpr fun type => never index (earlyAt_iff.mpr ⟨inside, type⟩)

/-- Either all conditions hold or one of them is the first that does not. -/
theorem writable_or_refused (document : Document) (layout : Layout) :
    document.Writable layout ∨ ∃ error, document.Refused layout error := by
  by_cases fill : layout.FillFits
  · by_cases closing : document.EndsWith layout.terminal
    · cases scan : document.segments.dropLast.findIdx? (hasType layout.terminal) with
      | some index => exact .inr ⟨_, .early fill closing index (findIdx?_eq_some_iff_isLeast.mp scan)⟩
      | none =>
        have once := findIdx?_eq_none_iff_not_earlyAt.mp scan
        by_cases big : 65535 < layout.start
        · exact .inr ⟨_, .startTooBig fill closing once big⟩
        · by_cases negative : layout.start < 0
          · exact .inr ⟨_, .startNegative fill closing once negative⟩
          · exact .inl ⟨fill, closing, once, by omega, by omega⟩
    · exact .inr ⟨_, .closing fill closing⟩
  · exact .inr ⟨_, .fill fill⟩

/-! ## What is written and what is reported -/

theorem encode_of_writable (writable : document.Writable layout) :
    document.encode layout =
      .ok (encodeBody (UInt8.ofInt layout.fill) (UInt16.ofInt layout.start) document.segments) :=
  encode_eq_ok_iff.mpr ⟨writable.fill, ⟨terminal?_any_iff.mpr writable.closing,
    findIdx?_eq_none_iff_not_earlyAt.mpr writable.once⟩, writable.start, rfl⟩

theorem encode_of_refused {error : EncodeError} (refused : document.Refused layout error) :
    document.encode layout = .error error := by
  -- The guards before the one that fails are passed one by one.
  have passFill : layout.FillFits → ¬ (layout.fill < 0 ∨ 255 < layout.fill) := by
    intro fill
    rw [Layout.FillFits] at fill
    omega
  have passClosing : document.EndsWith layout.terminal →
      ¬ (!document.terminal?.any (hasType layout.terminal)) = true := by
    intro closing
    rw [terminal?_any_iff.mpr closing]
    simp
  rw [encode]
  cases refused with
  | fill outside =>
    rw [Layout.FillFits] at outside
    exact if_pos (by omega)
  | closing fill otherEnd =>
    rw [← terminal?_any_iff] at otherEnd
    rw [if_neg (passFill fill), if_pos (by simpa using otherEnd)]
  | early fill closing index first =>
    rw [if_neg (passFill fill), if_neg (passClosing closing), findIdx?_eq_some_iff_isLeast.mpr first]
  | startTooBig fill closing once big =>
    rw [if_neg (passFill fill), if_neg (passClosing closing),
      findIdx?_eq_none_iff_not_earlyAt.mpr once]
    exact if_pos big
  | startNegative fill closing once negative =>
    rw [if_neg (passFill fill), if_neg (passClosing closing),
      findIdx?_eq_none_iff_not_earlyAt.mpr once]
    exact (if_neg (by omega)).trans (if_pos negative)

theorem encode_eq_error_iff {error : EncodeError} :
    document.encode layout = .error error ↔ document.Refused layout error := by
  refine ⟨fun run => ?_, encode_of_refused⟩
  rcases writable_or_refused document layout with writable | ⟨other, refused⟩
  · rw [encode_of_writable writable] at run
    cases run
  · rw [encode_of_refused refused] at run
    cases run
    exact refused

theorem writable_of_encode (written : document.encode layout = .ok out) :
    document.Writable layout := by
  rcases writable_or_refused document layout with writable | ⟨_, refused⟩
  · exact writable
  · rw [encode_of_refused refused] at written
    cases written

/-- The bytes of a document that fits are those of the numbers that are to be written. -/
theorem map_toNat_encodeBody (fill : layout.FillFits) (start : layout.StartFits)
    (segments : List Segment) :
    (encodeBody (UInt8.ofInt layout.fill) (UInt16.ofInt layout.start) segments).map
        (fun byte => (byte.toNat : Int)) =
      layout.numbers segments := by
  obtain ⟨word, isStart⟩ := Word.exists_toNat_eq start
  have isFill : ((UInt8.ofInt layout.fill).toNat : Int) = layout.fill := by
    rw [Layout.FillFits] at fill
    simp [UInt8.ofInt]
    omega
  rw [encodeBody, Layout.numbers, List.map_append, List.map_flatMap, ← isStart, Word.ofInt_toNat]
  simp only [Segment.encode, Word.bytes, List.map_cons, List.map_nil,
    List.map_replicate, Word.natCast_toNat_high, Word.natCast_toNat_low, isFill,
    Segment.payloadLength, List.cons_append, List.nil_append]

theorem encode_eq_ok_iff_writable : document.encode layout = .ok out ↔
    document.Writable layout ∧
      out.map (fun byte => (byte.toNat : Int)) = layout.numbers document.segments := by
  constructor
  · intro written
    have writable := writable_of_encode written
    rw [encode_of_writable writable] at written
    cases written
    exact ⟨writable, map_toNat_encodeBody writable.fill writable.start _⟩
  · intro conditions
    obtain ⟨writable, numbers⟩ := conditions
    rw [← map_toNat_encodeBody writable.fill writable.start] at numbers
    have oneByte : ∀ byte other : UInt8, (byte.toNat : Int) = other.toNat → byte = other :=
      fun byte other same => UInt8.toNat_inj.mp (Int.ofNat_inj.mp same)
    rw [encode_of_writable writable, (List.map_inj_right oneByte).mp numbers]

/-- The report of an early terminal segment names its index and no other. -/
theorem message_terminalTooEarly_injective (terminal : Int) :
    Function.Injective fun index => (EncodeError.terminalTooEarly index terminal).message := by
  have text : ∀ index, (EncodeError.terminalTooEarly index terminal).message =
      "segment[" ++ index.repr ++ "] uses the terminal marker " ++ Hexadecimal.padded 4 terminal ++
        " before the end" := fun _ => rfl
  intro index other same
  have texts := congrArg String.toList ((text index).symm.trans (same.trans (text other)))
  simp only [String.toList_append, Nat.toList_repr, List.append_assoc] at texts
  have digits := List.append_cancel_right (List.append_cancel_left texts)
  have numbers := congrArg (Nat.ofDigitChars 10 · 0) digits
  simpa only [Nat.ofDigitChars_ten_toDigits] using numbers

/-- **Exactly the documents that meet all conditions are written, and otherwise the first condition that
fails is reported.** The numbers of the layout are any integers. What is written are the numbers of the
start marker and of the segments in order, two bytes for each word with the high one first, and the fill
byte for all of the payloads. It does not depend on the number of bytes that the document claims to be
read from. Of early terminal segments the first one is reported, and the text of the report tells which
one that is. -/
theorem encode_checks_in_order (document : Document) (layout : Layout) :
    ((∃ out, document.encode layout = .ok out) ↔ document.Writable layout) ∧
      (∀ out, document.encode layout = .ok out ↔ document.Writable layout ∧
        out.map (fun byte => (byte.toNat : Int)) = layout.numbers document.segments) ∧
      (∀ error, document.encode layout = .error error ↔ document.Refused layout error) ∧
      (∀ consumed, encode { document with consumed } layout = document.encode layout) ∧
      Function.Injective fun index =>
        (EncodeError.terminalTooEarly index layout.terminal).message := by
  refine ⟨⟨?_, fun writable => ⟨_, encode_of_writable writable⟩⟩,
    fun _ => encode_eq_ok_iff_writable, fun _ => encode_eq_error_iff,
    fun _ => encode_congr rfl _, message_terminalTooEarly_injective _⟩
  intro written
  obtain ⟨out, written⟩ := written
  exact writable_of_encode written

/-- Two faults at once: the terminal type stands before the end, twice, and the start marker is
negative. -/
theorem encode_checks_in_order_sample :
    encode ⟨[⟨0xFFE0, 2⟩, ⟨0xFFDA, 2⟩, ⟨0xFFDA, 3⟩, ⟨0xFFDA, 4⟩], 7⟩ { start := -1 } =
        .error (.terminalTooEarly 1 0xFFDA) ∧
      Refused ⟨[⟨0xFFE0, 2⟩, ⟨0xFFDA, 2⟩, ⟨0xFFDA, 3⟩, ⟨0xFFDA, 4⟩], 7⟩ { start := -1 }
        (.terminalTooEarly 1 0xFFDA) := by
  have reported :
      encode ⟨[⟨0xFFE0, 2⟩, ⟨0xFFDA, 2⟩, ⟨0xFFDA, 3⟩, ⟨0xFFDA, 4⟩], 7⟩ { start := -1 } =
        .error (.terminalTooEarly 1 0xFFDA) := by
    decide
  exact ⟨reported, ((encode_checks_in_order _ _).2.2.1 _).mp reported⟩

/-! ## Markers that are equal -/

/-- Two words are the markers of a format unless they are equal. -/
theorem ofDatum_markers {start terminal : UInt16} (isStart : (start.toNat : Int) = layout.start)
    (isTerminal : (terminal.toNat : Int) = layout.terminal) :
    Format.ofDatum layout.markers =
      if different : start = terminal then Checked.refuse .equalMarkers
      else .ok ⟨start, terminal, false, different⟩ := by
  have passed : ∀ word : UInt16, Checked.word (.integer word.toNat) = .ok word := by
    intro word
    rw [Checked.word_of_lt word.toNat_lt_size, UInt16.ofNat_toNat]
  rw [Layout.markers, ← isStart, ← isTerminal]
  simp [Format.ofDatum, Checked.fields, Checked.optional, List.lookup_cons, Checked.under, passed,
    Checked.both, bind, Except.bind, pure, Except.pure, Format.standard]

/-- What is written with equal markers is written with those of no format. -/
theorem ofDatum_of_equal (written : document.encode layout = .ok out)
    (same : layout.start = layout.terminal) :
    Format.ofDatum layout.markers = .error [⟨[], .equalMarkers⟩] := by
  obtain ⟨word, isStart⟩ := Word.exists_toNat_eq (writable_of_encode written).start
  rw [ofDatum_markers isStart (isStart.trans same), dif_pos rfl]
  rfl

/-- What is written with different markers is written with those of a format, and can be read with it. -/
theorem exists_format_of_ne (written : document.encode layout = .ok out)
    (different : layout.start ≠ layout.terminal) :
    ∃ format, Format.ofDatum layout.markers = .ok format ∧
      read format out = .ok ⟨document.segments, out.length⟩ := by
  have writable := writable_of_encode written
  obtain ⟨start, isStart⟩ := Word.exists_toNat_eq writable.start
  -- The terminal type is a word because it is that of a segment.
  obtain ⟨last, _, isTerminal⟩ := writable.closing
  have differ : start ≠ last.type := by
    intro same
    rw [← isStart, ← isTerminal, same] at different
    exact different rfl
  have sameLayout : Format.layout ⟨start, last.type, false, differ⟩ layout.fill = layout := by
    rw [Format.layout, isStart, isTerminal]
  rw [← sameLayout] at written
  have again := (read_of_encode written).2 [] fun _ => rfl
  rw [List.append_nil] at again
  exact ⟨_, (ofDatum_markers isStart isTerminal).trans (dif_neg differ), again⟩

/-- **What is written can be read again exactly if the two markers differ.** Whatever is written, its
markers are those of a format if and only if they differ, and then it is read with that format as the
segments it was written from. If they are equal then this is the only thing that is wrong with them. -/
theorem encode_readable_iff_markers_differ (written : document.encode layout = .ok out) :
    ((∃ format again, Format.ofDatum layout.markers = .ok format ∧ read format out = .ok again) ↔
      layout.start ≠ layout.terminal) ∧
    (∀ format, Format.ofDatum layout.markers = .ok format →
      read format out = .ok ⟨document.segments, out.length⟩) ∧
    (layout.start = layout.terminal →
      Format.ofDatum layout.markers = .error [⟨[], .equalMarkers⟩]) := by
  have ofFormat : ∀ format, Format.ofDatum layout.markers = .ok format →
      layout.start ≠ layout.terminal := by
    intro format isFormat same
    rw [ofDatum_of_equal written same] at isFormat
    cases isFormat
  refine ⟨⟨?_, ?_⟩, ?_, ofDatum_of_equal written⟩
  · intro readable
    obtain ⟨format, _, isFormat, _⟩ := readable
    exact ofFormat format isFormat
  · intro different
    obtain ⟨format, isFormat, again⟩ := exists_format_of_ne written different
    exact ⟨format, _, isFormat, again⟩
  · intro format isFormat
    obtain ⟨other, isOther, again⟩ := exists_format_of_ne written (ofFormat format isFormat)
    rw [isFormat] at isOther
    cases isOther
    exact again

/-- A document of one segment, with markers of its own. -/
theorem encode_readable_iff_markers_differ_sample :
    encode ⟨[⟨0xBEEF, 3⟩], 0⟩ ⟨7, 0xCAFE, 0xBEEF⟩ =
        .ok [0xCA, 0xFE, 0xBE, 0xEF, 0x00, 0x03, 0x07] ∧
      ∃ format again, Format.ofDatum (Layout.markers ⟨7, 0xCAFE, 0xBEEF⟩) = .ok format ∧
        read format [0xCA, 0xFE, 0xBE, 0xEF, 0x00, 0x03, 0x07] = .ok again := by
  have written : encode ⟨[⟨0xBEEF, 3⟩], 0⟩ ⟨7, 0xCAFE, 0xBEEF⟩ =
      .ok [0xCA, 0xFE, 0xBE, 0xEF, 0x00, 0x03, 0x07] := by
    decide
  exact ⟨written, (encode_readable_iff_markers_differ written).1.mpr (by decide)⟩

/-- **What is written cannot always be read again.** Here the start marker is the terminal type, and all
conditions of writing hold. -/
theorem unreadable_with_equal_markers :
    encode ⟨[⟨0xFFDA, 2⟩], 0⟩ ⟨0, 0xFFDA, 0xFFDA⟩ = .ok [0xFF, 0xDA, 0xFF, 0xDA, 0x00, 0x02] ∧
      Format.ofDatum (Layout.markers ⟨0, 0xFFDA, 0xFFDA⟩) = .error [⟨[], .equalMarkers⟩] ∧
      ¬ ∃ format again, Format.ofDatum (Layout.markers ⟨0, 0xFFDA, 0xFFDA⟩) = .ok format ∧
        read format [0xFF, 0xDA, 0xFF, 0xDA, 0x00, 0x02] = .ok again := by
  have written : encode ⟨[⟨0xFFDA, 2⟩], 0⟩ ⟨0, 0xFFDA, 0xFFDA⟩ =
      .ok [0xFF, 0xDA, 0xFF, 0xDA, 0x00, 0x02] := by
    decide
  have refused := ofDatum_of_equal written rfl
  refine ⟨written, refused, ?_⟩
  intro readable
  obtain ⟨format, _, isFormat, _⟩ := readable
  rw [refused] at isFormat
  cases isFormat

end Document

end ByteGrammar
