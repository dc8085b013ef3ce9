import ByteGrammar.Proofs.Composition
import Mathlib.Data.Fin.Tuple.Basic
import Mathlib.Data.List.OfFn

/-!
# How parsers are put together

A parser is a function and does not show how it was put together. Its construction does: a tree with
primitives at its leaves and combinators at its nodes (`Parser.Construction`). The second part of a
sequence is a subtree for every value that the first part might yield. A tree means a parser
(`Construction.parser`), and the parsers that are meant by trees are exactly the composed ones
(`composed_iff_exists_construction`).

Trees are needed where a statement is not about the parser as a function: where it runs on another
engine, or where the shape of the construction decides what happens. The grammars of segments and
documents are given as trees for that (`Construction.document_eq`).
-/

set_option autoImplicit false

namespace ByteGrammar

variable {α β γ : Type}

namespace Parser

/-- A number of repetitions that is not negative can be asked for. -/
theorem times_natCast (parser : Parser α) (count : Nat) :
    parser.times count = .ok (parser.timesFrom count []) := by
  rw [times, if_neg (by omega), Int.toNat_natCast]

/-- Only the values that the first part yields matter to the second part of a sequence. -/
theorem bindMaking_congr {parser : Parser α} {next other : α → Parser β}
    (make : α → β → Except Fault γ) (same : ∀ value, parser.Yields value → next value = other value) :
    parser.bindMaking next make = parser.bindMaking other make := by
  funext cur
  rw [bindMaking, bindMaking]
  rcases run : parser cur with fault | ⟨value, middle⟩ | ⟨reported, attempted⟩
  · rfl
  · dsimp only
    rw [same value ⟨cur, middle, run⟩]
  · rfl

/-! ## Trees of parsers -/

/-- How a parser is put together from the primitives by the combinators. -/
inductive Construction : Type → Type 1
  | byteMatching (test : UInt8 → Bool) : Construction UInt8
  | wordMatching (test : Nat → Bool) : Construction Nat
  | succeed {α : Type} (value : α) : Construction α
  | fail {α : Type} : Construction α
  /-- A part that cannot be built where it is needed. -/
  | unbuildable {α : Type} (fault : Fault) : Construction α
  | map {α β : Type} (part : Construction α) (f : α → β) : Construction β
  | bindMaking {α β γ : Type} (first : Construction α) (next : α → Construction β)
      (make : α → β → Except Fault γ) : Construction γ
  /-- Ordered choice between two or more branches. -/
  | alternate {α : Type} {more : Nat} (branches : Fin (more + 2) → Construction α) :
      Construction α
  | notFollowedBy {α : Type} (part : Construction α) : Construction Unit
  | many {α : Type} (part : Construction α) : Construction (List α)
  | times {α : Type} (part : Construction α) (count : Nat) : Construction (List α)

namespace Construction

/-- The parser that is put together in this way. -/
def parser : {α : Type} → Construction α → Parser α
  | _, .byteMatching test => Parser.byteMatching test
  | _, .wordMatching test => Parser.wordMatching test
  | _, .succeed value => Parser.succeed value
  | _, .fail => Parser.fail
  | _, .unbuildable fault => deferred (.error fault)
  | _, .map part f => part.parser.map f
  | _, .bindMaking first next make => first.parser.bindMaking (fun value => (next value).parser) make
  | _, .alternate branches =>
    Parser.alternate (branches 0).parser (branches 1).parser
      (List.ofFn fun index => (branches index.succ.succ).parser)
  | _, .notFollowedBy part => part.parser.notFollowedBy
  | _, .many part => part.parser.many
  | _, .times part count => part.parser.timesFrom count []

/-- What a tree means is composed, if every fault is allowed. -/
theorem composed {allowed : Fault → Prop} (all : ∀ fault, allowed fault)
    (construction : Construction α) : construction.parser.Composed allowed := by
  induction construction with
  | byteMatching test => exact .byteMatching test
  | wordMatching test => exact .wordMatching test
  | succeed value => exact .succeed value
  | fail => exact .fail
  | unbuildable fault => exact .unbuildable (all fault)
  | map _ f ih => exact ih.map f
  | bindMaking _ _ _ first second =>
    exact first.bindMaking (fun value _ => second value) fun _ _ fault _ _ _ => all fault
  | alternate branches ih =>
    refine .alternate (ih 0) (ih 1) fun other member => ?_
    obtain ⟨index, rfl⟩ := (List.mem_ofFn' _ _).mp member
    exact ih index.succ.succ
  | notFollowedBy _ ih => exact ih.notFollowedBy
  | many _ ih => exact ih.many
  | times _ count ih => exact .times ih (times_natCast _ count)

end Construction

/-- Every composed parser is meant by a tree. -/
theorem Composed.exists_construction {allowed : Fault → Prop} {parser : Parser α}
    (composed : parser.Composed allowed) :
    ∃ construction : Construction α, construction.parser = parser := by
  induction composed with
  | byteMatching test => exact ⟨.byteMatching test, rfl⟩
  | wordMatching test => exact ⟨.wordMatching test, rfl⟩
  | succeed value => exact ⟨.succeed value, rfl⟩
  | fail => exact ⟨.fail, rfl⟩
  | @unbuildable _ fault _ => exact ⟨.unbuildable fault, rfl⟩
  | map _ f ih =>
    obtain ⟨part, rfl⟩ := ih
    exact ⟨.map part f, rfl⟩
  | @bindMaking α β γ first next make _ _ _ ihFirst ihNext =>
    obtain ⟨part, rfl⟩ := ihFirst
    -- A second part is only known to be composed for the values that can come up.
    have seconds : ∀ value, ∃ second : Construction β,
        part.parser.Yields value → second.parser = next value := by
      intro value
      by_cases yields : part.parser.Yields value
      · obtain ⟨second, same⟩ := ihNext value yields
        exact ⟨second, fun _ => same⟩
      · exact ⟨.fail, fun contrary => absurd contrary yields⟩
    choose second same using seconds
    exact ⟨.bindMaking part second make, bindMaking_congr make same⟩
  | @alternate α first second others _ _ _ ihFirst ihSecond ihOthers =>
    obtain ⟨one, rfl⟩ := ihFirst
    obtain ⟨two, rfl⟩ := ihSecond
    have rest : ∀ index : Fin others.length, ∃ other : Construction α,
        other.parser = others[index] :=
      fun index => ihOthers _ (List.getElem_mem index.isLt)
    choose other same using rest
    refine ⟨.alternate (Fin.cons one (Fin.cons two other)), ?_⟩
    have branches : (List.ofFn fun index => (other index).parser) = others := by
      simp only [same]
      exact List.ofFn_getElem
    change Parser.alternate one.parser two.parser (List.ofFn fun index => (other index).parser) = _
    rw [branches]
  | notFollowedBy _ ih =>
    obtain ⟨part, rfl⟩ := ih
    exact ⟨.notFollowedBy part, rfl⟩
  | many _ ih =>
    obtain ⟨part, rfl⟩ := ih
    exact ⟨.many part, rfl⟩
  | @times _ _ count _ _ built ih =>
    obtain ⟨part, rfl⟩ := ih
    rw [Parser.times] at built
    split at built
    · cases built
    · cases built
      exact ⟨.times part count.toNat, rfl⟩

/-- **The composed parsers are those that a tree means.** -/
theorem composed_iff_exists_construction {parser : Parser α} :
    parser.Composed (fun _ => True) ↔ ∃ construction : Construction α, construction.parser = parser := by
  constructor
  · exact Composed.exists_construction
  · rintro ⟨construction, rfl⟩
    exact construction.composed fun _ => trivial

/-! ## The trees of segments and documents -/

namespace Construction

/-- The tree of a sequence whose two values are joined. -/
def bindWith (first : Construction α) (next : α → Construction β) (join : α → β → γ) :
    Construction γ :=
  .bindMaking first next fun value other => .ok (join value other)

def anyByte : Construction UInt8 :=
  .byteMatching fun _ => true

def endOfInput : Construction Unit :=
  .notFollowedBy anyByte

def word : Construction Nat :=
  bindWith anyByte (fun _ => anyByte) Word.ofBytes

def fixedByte (byte : UInt8) : Construction UInt8 :=
  .byteMatching fun found => (found.toNat : Int) == (byte.toNat : Int)

def fixedWord (value : UInt16) : Construction Nat :=
  bindWith (fixedByte (Word.high value)) (fun _ => fixedByte (Word.low value)) fun _ _ => value.toNat

/-- The tree of a length and its payload. The number of repetitions in it is read from the data. -/
def lengthAndPayload : Construction Nat :=
  bindWith word (fun length => .times anyByte (length - 2)) fun length _ => length

/-- The tree of a segment whose type is read by another tree. -/
def markedBy (marker : Construction Nat) : Construction Segment :=
  .bindMaking marker (fun _ => lengthAndPayload) Segment.ofNumbers

def generic (terminal : Int) : Construction Segment :=
  markedBy (.wordMatching fun type => (type : Int) != terminal)

def terminal (marker : UInt16) : Construction Segment :=
  markedBy (fixedWord marker)

def lastSegment (format : Format) : Construction Segment :=
  let segment := terminal format.terminal
  if format.requireEnd then bindWith segment (fun _ => endOfInput) fun last _ => last else segment

/-- The tree of the grammar of documents. -/
def grammar (format : Format) : Construction (List Segment) :=
  bindWith (fixedWord format.start)
    (fun _ => bindWith (.many (generic format.terminal.toNat)) (fun _ => lastSegment format) appended)
    fun _ segments => segments

theorem parser_bindWith (first : Construction α) (next : α → Construction β) (join : α → β → γ) :
    (bindWith first next join).parser =
      first.parser.bindWith (fun value => (next value).parser) join :=
  rfl

theorem parser_lengthAndPayload : lengthAndPayload.parser = Segment.lengthAndPayload := by
  simp only [Segment.lengthAndPayload, Segment.payload_eq]
  rfl

theorem parser_markedBy (marker : Construction Nat) :
    (markedBy marker).parser = Segment.markedBy marker.parser := by
  rw [markedBy, parser, parser_lengthAndPayload]
  rfl

theorem parser_generic (terminal : Int) : (generic terminal).parser = Segment.generic terminal :=
  parser_markedBy _

/-- A terminal segment can be asked for by the numbers of words alone, and is what its tree means. -/
theorem terminal_eq_ok_iff {marker : Int} {built : Parser Segment} :
    Segment.terminal marker = .ok built ↔
      ∃ word : UInt16, marker = word.toNat ∧ built = (terminal word).parser := by
  have tree : ∀ word, Segment.terminal (UInt16.toNat word) = .ok (terminal word).parser := by
    intro word
    rw [Segment.terminal_toNat, terminal, parser_markedBy]
    rfl
  constructor
  · intro run
    cases type : wordEqualTo marker with
    | error cause =>
      rw [Segment.terminal, type] at run
      cases run
    | ok first =>
      obtain ⟨word, rfl, _⟩ := wordEqualTo_eq_ok_iff.mp type
      rw [tree] at run
      cases run
      exact ⟨word, rfl, rfl⟩
  · rintro ⟨word, rfl, rfl⟩
    exact tree word

theorem parser_lastSegment (format : Format) : (lastSegment format).parser = format.lastSegment := by
  rw [lastSegment, Format.lastSegment]
  split
  · rw [parser_bindWith, terminal, parser_markedBy]
    rfl
  · exact parser_markedBy _

/-- **The grammar of every format is what its tree means.** -/
theorem document_eq (format : Format) : format.document = .ok (grammar format).parser := by
  rw [format.document_eq, grammar, parser_bindWith]
  simp only [parser_bindWith, parser_lastSegment]
  rw [parser, parser_generic]
  rfl

end Construction

end Parser

end ByteGrammar
