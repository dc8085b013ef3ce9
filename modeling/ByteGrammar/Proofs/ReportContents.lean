import ByteGrammar.Proofs.Answering
import ByteGrammar.Proofs.Editing
import ByteGrammar.Proofs.Legibility
import Mathlib.Tactic.TFAE

/-!
# What the texts on a document tell

The lines of a document tell its segments and nothing else: the digits of a type end at the new line
behind them, and so do those of a length, so the lines of the first segment can be cancelled from the
front of any longer text (`Segment.render_append_inj`). The JSON text tells the whole document
(`Document.toJson_injective`), since its names are fixed.

The number of bytes that a document was read from stands in the JSON text only. Nothing is lost with the
lines all the same, as the number is the size of the segments behind a start marker, whatever the format
(`Document.consumed_of_read`). So the lines of two documents that were read are the same exactly if the
documents are (`Request.outputs_tell_documents_apart`).
-/

set_option autoImplicit false

namespace ByteGrammar

/-! ## The bytes of a text -/

theorem toList_loop_eq (bytes : ByteArray) (place : Nat) (before : List UInt8) :
    ByteArray.toList.loop bytes place before = before.reverse ++ bytes.data.toList.drop place := by
  fun_induction ByteArray.toList.loop bytes place before with
  | case1 place before inside ih =>
    have insideToo : place < bytes.data.toList.length := inside
    rw [ih, List.drop_eq_getElem_cons insideToo]
    simp [ByteArray.get!, inside]
  | case2 place before outside =>
    rw [List.drop_eq_nil_of_le (Nat.le_of_not_lt outside), List.append_nil]

theorem eq_of_toUTF8_eq {text other : String} (same : text.toUTF8.toList = other.toUTF8.toList) :
    text = other := by
  rw [ByteArray.toList, ByteArray.toList, toList_loop_eq, toList_loop_eq] at same
  have arrays := ByteArray.ext (Array.toList_inj.mp same)
  rwa [String.toUTF8_eq_toByteArray, String.toUTF8_eq_toByteArray, String.toByteArray_inj] at arrays

/-! ## The lines of a document -/

namespace Segment

theorem toList_render (segment : Segment) : (segment.render ++ "\n").toList =
    "Type=".toList ++ (Hexadecimal.digits segment.type.toNat ++
      '\n' :: ("Len=".toList ++ (Nat.toDigits 10 segment.length.toNat ++ ['\n']))) := by
  simp only [render, Hexadecimal.render, toString, String.toList_append, String.toList_ofList,
    Nat.toList_repr, List.append_assoc]
  rfl

/-- **The lines of a segment can be cancelled from the front of a text.** -/
theorem render_append_inj {segment other : Segment} {rest more : List Char}
    (same : (segment.render ++ "\n").toList ++ rest = (other.render ++ "\n").toList ++ more) :
    segment = other ∧ rest = more := by
  simp only [toList_render, List.append_assoc, List.cons_append, List.nil_append] at same
  have ended : ∀ text, Stops (fun char => (Hexadecimal.digitValue? char).isSome) ('\n' :: text) :=
    fun text => stops_cons text rfl
  obtain ⟨types, fromLine⟩ := append_inj_of_stops
    (fun _ => Hexadecimal.isSome_digitValue?_of_mem) (fun _ => Hexadecimal.isSome_digitValue?_of_mem)
    (ended _) (ended _) (List.append_cancel_left same)
  have fromLength := List.append_cancel_left (List.cons.inj fromLine).2
  have endedToo : ∀ text, Stops Char.isDigit ('\n' :: text) := fun text => stops_cons text rfl
  obtain ⟨lengths, behind⟩ := append_inj_of_stops (fun _ => Outline.isDigit_of_mem_toDigits)
    (fun _ => Outline.isDigit_of_mem_toDigits) (endedToo _) (endedToo _) fromLength
  refine ⟨?_, (List.cons.inj behind).2⟩
  have lengths := congrArg (Nat.ofDigitChars 10 · 0) lengths
  simp only [Nat.ofDigitChars_ten_toDigits] at lengths
  cases segment
  cases other
  rw [Segment.mk.injEq]
  exact ⟨UInt16.toNat_inj.mp (Hexadecimal.digits_injective types), UInt16.toNat_inj.mp lengths⟩

theorem render_append_ne_nil (segment : Segment) : (segment.render ++ "\n").toList ≠ [] := by
  rw [String.toList_append]
  exact List.append_ne_nil_of_right_ne_nil _ (List.cons_ne_nil _ _)

/-- The fields of a segment are those of no other segment. -/
theorem outline_injective : Function.Injective outline := by
  intro segment other same
  cases segment
  cases other
  simpa [outline, UInt16.toNat_inj] using same

/-- Since no lines are empty, nothing is needed to tell where they end. -/
theorem eq_of_flatMap_render_eq : (segments others : List Segment) →
    (segments.flatMap fun segment => (segment.render ++ "\n").toList) =
      (others.flatMap fun segment => (segment.render ++ "\n").toList) → segments = others
  | [], [], _ => rfl
  | [], another :: others, same => by
    rw [List.flatMap_nil, List.flatMap_cons] at same
    exact absurd (List.nil_eq_append_iff.mp same).1 (render_append_ne_nil another)
  | segment :: segments, [], same => by
    rw [List.flatMap_nil, List.flatMap_cons] at same
    exact absurd (List.append_eq_nil_iff.mp same).1 (render_append_ne_nil segment)
  | segment :: segments, another :: others, same => by
    rw [List.flatMap_cons, List.flatMap_cons] at same
    obtain ⟨rfl, behind⟩ := render_append_inj same
    rw [eq_of_flatMap_render_eq segments others behind]

end Segment

namespace Document

variable {document other : Document}

theorem toList_summary (document : Document) : document.summary.toList =
    document.segments.flatMap fun segment => (segment.render ++ "\n").toList := by
  rw [summary, String.toList_join, List.flatMap_map]

/-- **The lines of documents are the same exactly if the segments are.** -/
theorem summary_eq_iff : document.summary = other.summary ↔ document.segments = other.segments := by
  refine ⟨fun same => ?_, fun same => by rw [summary, summary, same]⟩
  have texts := congrArg String.toList same
  rw [toList_summary, toList_summary] at texts
  exact Segment.eq_of_flatMap_render_eq _ _ texts

/-! ## The JSON text -/

theorem plain_segments (segments : List Segment) :
    Outline.PlainItems (segments.map Segment.outline) := by
  induction segments with
  | nil => trivial
  | cons segment segments ih =>
    exact ⟨⟨by decide, trivial, by decide, trivial, trivial⟩, ih⟩

theorem plain_outline (document : Document) : document.outline.Plain :=
  ⟨by decide, plain_segments _, by decide, trivial, trivial⟩

theorem outline_injective : Function.Injective outline := by
  intro document other same
  cases document
  cases other
  simpa [outline, List.map_inj_right fun _ _ same => Segment.outline_injective same] using same

/-- **A document is determined by its JSON text.** -/
theorem toJson_injective : Function.Injective toJson := fun document other same =>
  outline_injective (Outline.eq_of_render_eq document.plain_outline other.plain_outline same)

theorem jsonBytes_injective : Function.Injective jsonBytes := fun _ _ same =>
  toJson_injective (eq_of_toUTF8_eq same)

end Document

/-! ## The texts of runs -/

namespace Request

variable {request : Request} {tree : FileTree} {document : Document}

/-- The run goes through and prints a text. -/
def Prints (request : Request) (tree : FileTree) (text : String) : Prop :=
  ∃ report, (request.answerOn tree).1 = .ok report ∧ report.exitCode = 0 ∧ report.stdout = text

/-- The run goes through, and some bytes are found in a file afterwards. -/
def Saves (request : Request) (tree : FileTree) (output : String) (bytes : List UInt8) : Prop :=
  request.Exits tree 0 ∧ (request.answerOn tree).2.load output = .ok bytes

theorem Accepts.unique {other : Document} (accepts : request.Accepts tree document)
    (acceptsToo : request.Accepts tree other) : document = other := by
  obtain ⟨bytes, loaded, run⟩ := accepts
  obtain ⟨bytesToo, loadedToo, runToo⟩ := acceptsToo
  rw [loaded, Except.ok.injEq] at loadedToo
  rw [← loadedToo, run, Except.ok.injEq] at runToo
  exact runToo

theorem Accepts.consumed_eq (accepts : request.Accepts tree document) :
    document.consumed = document.encodedSize := by
  obtain ⟨bytes, _, run⟩ := accepts
  exact Document.consumed_of_read run

theorem prints_of_accepts {input : String} {json requireEnd : Bool}
    (command : request.command = .info input json requireEnd)
    (accepts : request.Accepts tree document) :
    request.Prints tree (request.command.printed document) := by
  obtain ⟨notes, run⟩ := answerOn_of_leaves accepts (.same fun _ _ _ => by rw [command]; exact nofun)
  exact ⟨_, congrArg Prod.fst (run request.verbose), rfl, rfl⟩

/-- An output that can be written holds the bytes of the JSON text afterwards. -/
theorem saves_of_accepts {verbose requireEnd : Bool} {input output : String} {after : FileTree}
    (accepts : Accepts ⟨verbose, .toJson input (some output) requireEnd⟩ tree document)
    (saved : tree.save output document.jsonBytes = .ok after) :
    Saves ⟨verbose, .toJson input (some output) requireEnd⟩ tree output document.jsonBytes := by
  have leaves : Leaves ⟨verbose, .toJson input (some output) requireEnd⟩ tree document after :=
    .written rfl saved
  obtain ⟨notes, run⟩ := answerOn_of_leaves accepts leaves
  have answer : answerOn tree ⟨verbose, .toJson input (some output) requireEnd⟩ = _ := run verbose
  refine ⟨exits_of_leaves accepts leaves, ?_⟩
  rw [answer]
  exact FileTree.load_of_save saved

/-- Writing the JSON text of a document leaves its bytes in the output. -/
theorem bytes_of_saves {verbose requireEnd : Bool} {input output : String} {bytes : List UInt8}
    (saves : Saves ⟨verbose, .toJson input (some output) requireEnd⟩ tree output bytes)
    (accepts : Accepts ⟨verbose, .toJson input (some output) requireEnd⟩ tree document) :
    bytes = document.jsonBytes := by
  obtain ⟨through, loaded⟩ := saves
  obtain ⟨another, report, after, acceptsToo, leaves, answer, _⟩ := effect_of_exits_zero through
  rw [answer] at loaded
  cases leaves with
  | same others => exact absurd rfl (others _ _ _)
  | written command saved =>
    cases command
    rw [FileTree.load_of_save saved, Except.ok.injEq] at loaded
    rw [← loaded, acceptsToo.unique accepts]

/-- **The outputs on a document lose nothing about it.** Two inputs are accepted, each with or without
trailing bytes being let through. The lines printed of them are the same exactly if the JSON texts are,
exactly if the segments are, and exactly if the documents are. The JSON texts that are written to files
are the same exactly then as well. The number of bytes that a document was read from is that of its
segments behind a start marker. -/
theorem outputs_tell_documents_apart {treeToo : FileTree} {other : Document}
    {input inputToo : String} {requireEnd requireEndToo : Bool}
    (accepts : Accepts ⟨false, .info input false requireEnd⟩ tree document)
    (acceptsToo : Accepts ⟨false, .info inputToo false requireEndToo⟩ treeToo other)
    (verbose verboseToo : Bool) :
    (∃ lines linesToo json jsonToo,
      Prints ⟨verbose, .info input false requireEnd⟩ tree lines ∧
      Prints ⟨verboseToo, .info inputToo false requireEndToo⟩ treeToo linesToo ∧
      Prints ⟨verbose, .info input true requireEnd⟩ tree json ∧
      Prints ⟨verboseToo, .info inputToo true requireEndToo⟩ treeToo jsonToo ∧
      [lines = linesToo, json = jsonToo, document.segments = other.segments, document = other].TFAE) ∧
    (∀ output outputToo bytes bytesToo,
      Saves ⟨verbose, .toJson input (some output) requireEnd⟩ tree output bytes →
      Saves ⟨verboseToo, .toJson inputToo (some outputToo) requireEndToo⟩ treeToo outputToo bytesToo →
        (bytes = bytesToo ↔ document = other)) ∧
    document.consumed =
      (2 + (document.segments.map fun segment => 4 + segment.payloadLength).sum : Nat) := by
  refine ⟨⟨_, _, _, _, prints_of_accepts rfl accepts, prints_of_accepts rfl acceptsToo,
    prints_of_accepts rfl accepts, prints_of_accepts rfl acceptsToo, ?_⟩, ?_, ?_⟩
  · tfae_have 1 ↔ 3 := Document.summary_eq_iff
    tfae_have 4 → 3 := congrArg Document.segments
    tfae_have 3 → 4 := by
      intro same
      have consumed := accepts.consumed_eq
      rw [Document.encodedSize, same, ← Document.encodedSize, ← acceptsToo.consumed_eq] at consumed
      cases document
      cases other
      cases same
      cases consumed
      rfl
    tfae_have 2 ↔ 4 := by
      change document.toJson ++ "\n" = other.toJson ++ "\n" ↔ _
      rw [← String.toList_inj, String.toList_append, String.toList_append, List.append_left_inj,
        String.toList_inj, Document.toJson_injective.eq_iff]
    tfae_finish
  · intro output outputToo bytes bytesToo saves savesToo
    rw [bytes_of_saves saves accepts, bytes_of_saves savesToo acceptsToo]
    exact Document.jsonBytes_injective.eq_iff
  · rw [accepts.consumed_eq, Document.encodedSize_eq]

namespace Sample

/-- A segment with one payload byte, which ends the data. -/
def exactFiles : FileTree := ⟨[(["a"], .file [0xFF, 0xD8, 0xFF, 0xDA, 0x00, 0x03, 0x2A])], []⟩

/-- The same segment with another payload byte and one more byte behind it. -/
def trailingFiles : FileTree :=
  ⟨[(["b"], .file [0xFF, 0xD8, 0xFF, 0xDA, 0x00, 0x03, 0x00, 0x99])], []⟩

def oneByte : Document := ⟨[⟨0xFFDA, 3⟩], 7⟩

theorem accepts_exactFiles :
    Accepts ⟨false, .info "a" false true⟩ exactFiles oneByte :=
  ⟨[0xFF, 0xD8, 0xFF, 0xDA, 0x00, 0x03, 0x2A], by decide +kernel, by decide +kernel⟩

theorem accepts_trailingFiles :
    Accepts ⟨false, .info "b" false false⟩ trailingFiles oneByte :=
  ⟨[0xFF, 0xD8, 0xFF, 0xDA, 0x00, 0x03, 0x00, 0x99], by decide +kernel, by decide +kernel⟩

theorem save_exactFiles : exactFiles.save "c" oneByte.jsonBytes =
    .ok (exactFiles.put ["c"] (.file oneByte.jsonBytes)) := by
  have found : exactFiles.writable "c" = .ok ["c"] := by decide +kernel
  rw [FileTree.save, found]
  rfl

theorem save_trailingFiles : trailingFiles.save "c" oneByte.jsonBytes =
    .ok (trailingFiles.put ["c"] (.file oneByte.jsonBytes)) := by
  have found : trailingFiles.writable "c" = .ok ["c"] := by decide +kernel
  rw [FileTree.save, found]
  rfl

/-- Payload bytes and bytes behind the last segment are no part of a document. -/
theorem same_outputs :
    ∃ lines json bytes,
      Prints ⟨false, .info "a" false true⟩ exactFiles lines ∧
      Prints ⟨true, .info "b" false false⟩ trailingFiles lines ∧
      Prints ⟨false, .info "a" true true⟩ exactFiles json ∧
      Prints ⟨true, .info "b" true false⟩ trailingFiles json ∧
      Saves ⟨false, .toJson "a" (some "c") true⟩ exactFiles "c" bytes ∧
      Saves ⟨true, .toJson "b" (some "c") false⟩ trailingFiles "c" bytes ∧ oneByte.consumed = 7 := by
  obtain ⟨⟨lines, linesToo, json, jsonToo, plain, plainToo, asJson, asJsonToo, same⟩, _, consumed⟩ :=
    outputs_tell_documents_apart accepts_exactFiles accepts_trailingFiles false true
  have sameLines : lines = linesToo := (same.out 3 0).mp rfl
  have sameJson : json = jsonToo := (same.out 3 1).mp rfl
  have saves : Saves ⟨false, .toJson "a" (some "c") true⟩ exactFiles "c" oneByte.jsonBytes :=
    saves_of_accepts accepts_exactFiles save_exactFiles
  have savesToo : Saves ⟨true, .toJson "b" (some "c") false⟩ trailingFiles "c" oneByte.jsonBytes :=
    saves_of_accepts accepts_trailingFiles save_trailingFiles
  subst sameLines sameJson
  exact ⟨lines, json, _, plain, plainToo, asJson, asJsonToo, saves, savesToo, consumed⟩

end Sample

end Request

end ByteGrammar
