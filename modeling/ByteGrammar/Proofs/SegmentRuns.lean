import ByteGrammar.Proofs.GreedyRepetition
import ByteGrammar.Proofs.Locality

/-!
# Runs of generic segments

Generic segments that are stored one after the other are read one after the other. Wherever they
stand, their repetition returns them in order and goes on with what follows them, and what follows
does not change what was read (`Segment.many_generic_of_passes`). So the repetition turns the
concatenation of stored segments and further bytes into the concatenation of the segments and
whatever it returns on the further bytes alone (`Segment.many_generic_over_row`).

On the further bytes it returns nothing exactly if no whole generic segment begins there
(`Segment.many_generic_eq_nil_iff`). This is so if they begin with a terminal segment or one that is
cut short, or if there are none.
-/

set_option autoImplicit false

namespace ByteGrammar

open ByteGrammar.Parser

namespace Segment

variable {terminal : UInt16} {segments more : List Segment} {bytes : List UInt8}
variable {cur behind stop : Cursor}

/-- A whole segment of another type than the terminal one begins some bytes. -/
def GenericBegins (terminal : UInt16) (rest : List UInt8) : Prop :=
  ∃ (segment : Segment) (front back : List UInt8), rest = front ++ back ∧ segment.Stored front ∧
    segment.type ≠ terminal

/-- The parser of a generic segment succeeds where one begins. -/
theorem exists_generic_success_iff :
    (∃ segment last, generic terminal.toNat cur = .ok (.success segment last)) ↔
      GenericBegins terminal cur.rest := by
  simp only [recognises_generic terminal cur]
  constructor
  · intro ⟨segment, last, front, passes, stored, other⟩
    exact ⟨segment, front, last.rest, passes.rest_eq, stored, other⟩
  · intro ⟨segment, front, back, goesOn, stored, other⟩
    obtain ⟨last, passes, _⟩ := Cursor.Passes.of_rest goesOn
    exact ⟨segment, last, front, passes, stored, other⟩

/-- **Stored generic segments are read one after the other**, and the repetition goes on behind
them. -/
theorem many_generic_of_passes (passes : cur.Passes bytes behind)
    (stored : Repeated Stored segments bytes)
    (others : ∀ segment ∈ segments, segment.type ≠ terminal) :
    many (generic terminal.toNat) cur =
      (many (generic terminal.toNat) behind).map (Outcome.map (segments ++ ·)) := by
  have nonempty : ∀ segment : Segment, ¬ (segment.Stored [] ∧ segment.type ≠ terminal) :=
    fun segment empty => segment.not_stored_nil empty.1
  have chain : (generic terminal.toNat).Chain cur segments behind :=
    ((recognises_generic terminal).chain_iff nonempty).mpr
      ⟨bytes, passes, repeated_and_iff.mpr ⟨stored, others⟩⟩
  exact many_of_chain (forward_generic _).onward chain

/-- **The repetition returns nothing exactly if no generic segment begins at the cursor.** -/
theorem many_generic_eq_nil_iff
    (run : many (generic terminal.toNat) cur = .ok (.success more stop)) :
    more = [] ↔ ¬ GenericBegins terminal cur.rest := by
  obtain ⟨chain, halts⟩ := chain_of_many run
  rw [← exists_generic_success_iff]
  constructor
  · intro nothing begins
    subst nothing
    obtain ⟨segment, last, read⟩ := begins
    cases chain
    -- A stored segment is not empty, so that its parser moves.
    obtain ⟨front, passes, stored, _⟩ := (recognises_generic terminal _ _ _).mp read
    have still := ((Cursor.beq_eq_true_iff _ _).mp (halts.not_moved read)).2
    have size := stored.length_eq
    rw [passes.pos_eq, size, Segment.size] at still
    omega
  · intro nowhere
    cases chain with
    | nil => rfl
    | cons read _ _ => exact absurd ⟨_, _, read⟩ nowhere

/-- Where the repetition returns nothing, it stays where it is. -/
theorem stop_eq_of_many_generic (run : many (generic terminal.toNat) cur = .ok (.success [] stop)) :
    stop = cur := by
  obtain ⟨chain, _⟩ := chain_of_many run
  cases chain
  rfl

/-- **Reading generic segments turns concatenation into concatenation.** Some bytes, the stored form
of segments of other types than the terminal one, and further bytes stand in a buffer. From where the
segments begin, the repetition returns them in order, and behind them what it returns on the further
bytes, in this buffer as well as in a buffer of their own. It stops as far behind the segments as it
gets on the further bytes alone. It adds nothing, and stops right behind the segments, exactly if no
whole generic segment begins there. -/
theorem many_generic_over_row (terminal : UInt16) (stored : Repeated Stored segments bytes)
    (others : ∀ segment ∈ segments, segment.type ≠ terminal) (before rest : List UInt8)
    {cur near : Cursor} (contents : cur.buffer.toList = before ++ bytes ++ rest)
    (place : cur.pos = before.length) (alone : near.buffer.toList = rest) (front : near.pos = 0) :
    ∃ more stop last, many (generic terminal.toNat) near = .ok (.success more stop) ∧
      many (generic terminal.toNat) cur = .ok (.success (segments ++ more) last) ∧
      (last.buffer = cur.buffer ∧ last.pos = before.length + bytes.length + stop.pos) ∧
      (∃ behind, (behind.buffer = cur.buffer ∧ behind.pos = before.length + bytes.length) ∧
        many (generic terminal.toNat) behind = .ok (.success more last)) ∧
      (more = [] ↔ ¬ GenericBegins terminal rest) ∧ (more = [] → stop = near) := by
  have goesOn : cur.rest = bytes ++ rest := by
    rw [Cursor.rest, contents, place, List.append_assoc, List.drop_left]
  have nearRest : near.rest = rest := by
    rw [Cursor.rest, alone, front, List.drop_zero]
  obtain ⟨behind, passes, _⟩ := Cursor.Passes.of_rest goesOn
  have position : behind.pos = (before ++ bytes).length := by
    rw [passes.pos_eq, place, List.length_append]
  obtain ⟨more, last, chain, halts⟩ := exists_chain (forward_generic terminal.toNat).onward behind
  have further : many (generic terminal.toNat) behind = .ok (.success more last) :=
    (many_eq_success_iff (forward_generic _).onward).mpr ⟨chain, halts⟩
  -- The repetition is a composed parser, so it does the same on the further bytes alone.
  have composed : (many (generic terminal.toNat)).Composed fun _ => False := .many (.generic _)
  have whole : behind.buffer.toList = (before ++ bytes) ++ near.buffer.toList := by
    rw [passes.buffer_eq, contents, alone]
  have alike := composed.position_independent whole (by rw [position, front, Nat.add_zero])
  rw [further] at alike
  obtain ⟨stop, run, ⟨buffer, _⟩, far⟩ := alike.exists_of_success
  refine ⟨more, stop, last, run, ?_, ⟨buffer.trans passes.buffer_eq, ?_⟩,
    ⟨behind, ⟨passes.buffer_eq, ?_⟩, further⟩, ?_, ?_⟩
  · rw [many_generic_of_passes passes stored others, further]
    rfl
  · rw [far, List.length_append]
  · rw [position, List.length_append]
  · rw [← nearRest]
    exact many_generic_eq_nil_iff run
  · intro nothing
    rw [nothing] at run
    exact stop_eq_of_many_generic run

/-! ### Three segments, of which the last one follows by itself

The payload of the first segment is the terminal marker, and the length of the second one is less
than the two bytes it takes. A terminal segment ends the run. -/

namespace Sample

/-- The bytes of the first two segments. -/
def rowBytes : List UInt8 :=
  [0xFF, 0xE0, 0x00, 0x04, 0xFF, 0xDA] ++ [0xFF, 0xE1, 0x00, 0x01]

/-- The bytes of a third segment and of a terminal one. -/
def restBytes : List UInt8 :=
  [0xFF, 0xE2, 0x00, 0x02, 0xFF, 0xDA, 0x00, 0x02]

/-- The cursor in front of the segments, where a byte that belongs to none of them stands before
it. -/
def frontOfRow : Cursor :=
  ⟨.ofList ([0x00] ++ rowBytes ++ restBytes), 1, by decide⟩

/-- The cursor in front of the third segment, where nothing stands before it. -/
def frontOfRest : Cursor :=
  (Buffer.ofList restBytes).start

theorem stored_rowBytes : Repeated Stored [⟨0xFFE0, 4⟩, ⟨0xFFE1, 1⟩] rowBytes := by
  have first : Stored ⟨0xFFE0, 4⟩ [0xFF, 0xE0, 0x00, 0x04, 0xFF, 0xDA] := ⟨[0xFF, 0xDA], rfl, rfl⟩
  have second : Stored ⟨0xFFE1, 1⟩ [0xFF, 0xE1, 0x00, 0x01] := ⟨[], rfl, rfl⟩
  exact .cons first (.cons second .nil)

theorem three_segments_over_row :
    Repeated Stored [⟨0xFFE0, 4⟩, ⟨0xFFE1, 1⟩] rowBytes ∧
      many (generic (0xFFDA : UInt16).toNat) frontOfRest =
        .ok (.success [⟨0xFFE2, 2⟩] ⟨frontOfRest.buffer, 4, by decide⟩) ∧
      ∃ last, many (generic (0xFFDA : UInt16).toNat) frontOfRow =
        .ok (.success [⟨0xFFE0, 4⟩, ⟨0xFFE1, 1⟩, ⟨0xFFE2, 2⟩] last) ∧ last.pos = 1 + 10 + 4 := by
  have others : ∀ segment ∈ [(⟨0xFFE0, 4⟩ : Segment), ⟨0xFFE1, 1⟩], segment.type ≠ 0xFFDA := by
    simp
  have contents : frontOfRow.buffer.toList = [0x00] ++ rowBytes ++ restBytes := rfl
  have alone : frontOfRest.buffer.toList = restBytes := rfl
  have further : many (generic (0xFFDA : UInt16).toNat) frontOfRest =
      .ok (.success [⟨0xFFE2, 2⟩] ⟨frontOfRest.buffer, 4, by decide⟩) := rfl
  obtain ⟨more, stop, last, run, whole, ⟨_, position⟩, _⟩ :=
    many_generic_over_row 0xFFDA stored_rowBytes others [0x00] restBytes contents rfl alone rfl
  rw [further] at run
  cases run
  exact ⟨stored_rowBytes, further, last, whole, position⟩

end Sample

end Segment

end ByteGrammar
