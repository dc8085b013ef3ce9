import ByteGrammar.Proofs.Composition

/-!
# How often a repetition is taken

A parser that is composed without faults answers at every cursor (`Parser.Composed.forward`).
For the open-ended repetition this is not plain, since nothing but the parser inside it ends
its loop. Each turn of the loop that goes on passes at least one byte, so there are at most as
many of them as bytes are left, and one more turn at which the loop ends.

The turns are counted by a loop that also keeps the number of applications
(`Parser.manyCounted`). It is the loop of `Parser.many` otherwise (`manyCounted_snd`). Its
bound on steps is of no importance: the loop has come to its end before any bound that is not
less than the number of bytes left is met.
-/

set_option autoImplicit false

namespace ByteGrammar

namespace Parser

variable {α : Type} {parser : Parser α} {cur last : Cursor} {values : List α}

/-- The loop of `many` with the number of times it has applied its parser. -/
def manyCounted (parser : Parser α) (fuel : Nat) (values : List α) (calls : Nat) (cur : Cursor) :
    Nat × Except Fault (Outcome (List α)) :=
  match parser cur with
  | .error fault => (calls + 1, .error fault)
  | .ok (.failure _ _) => (calls + 1, .ok (.success values.reverse cur))
  | .ok (.success value remainder) =>
    if remainder == cur then
      (calls + 1, .ok (.success values.reverse cur))
    else
      match fuel with
      | 0 => (calls + 1, .error .endlessRepetition)
      | fuel + 1 => manyCounted parser fuel (value :: values) (calls + 1) remainder

/-- Counting changes nothing else. -/
theorem manyCounted_snd (fuel : Nat) (before : List α) (calls : Nat) (cur : Cursor) :
    (parser.manyCounted fuel before calls cur).2 = parser.manyFrom fuel before cur := by
  fun_induction manyCounted parser fuel before calls cur with
  | case1 fuel before calls cur fault run => simp [manyFrom.eq_def, run]
  | case2 fuel before calls cur reported attempted run => simp [manyFrom.eq_def, run]
  | case3 fuel before calls cur value next run still => simp [manyFrom.eq_def, run, still]
  | case4 before calls cur value next run moved => simp [manyFrom.eq_def, run, moved]
  | case5 before calls cur value next run moved fuel ih =>
    rw [ih, manyFrom.eq_def _ (fuel + 1)]
    simp [run, moved]

/-- The loop applies its parser once for every value of a chain that has come to its end, and
once more at that end. -/
theorem manyCounted_of_chain {fuel calls : Nat} {before : List α}
    (chain : parser.Chain cur values last) (halts : parser.Halts last)
    (enough : values.length ≤ fuel) :
    parser.manyCounted fuel before calls cur =
      (calls + values.length + 1, .ok (.success (before.reverse ++ values) last)) := by
  induction chain generalizing fuel calls before with
  | nil cur =>
    cases halts with
    | failed run => simp [manyCounted, run]
    | stayed run still => simp [manyCounted, run, still]
  | @cons cur next last value values run moved rest ih =>
    cases fuel with
    | zero => simp at enough
    | succ fuel =>
      rw [manyCounted, run]
      simp only [moved, Bool.false_eq_true, if_false]
      rw [ih halts (Nat.le_of_succ_le_succ enough), List.reverse_cons, List.append_assoc,
        List.length_cons, Nat.add_right_comm calls 1, Nat.add_assoc calls]
      rfl

/-- A parser that is composed without faults moves forward. -/
theorem Composed.forward (composed : parser.Composed fun _ => False) :
    parser.Forward fun _ => True :=
  composed.advances.forward

/-- **A composed parser always ends, and a mismatch is never a fault.** If no part of it can meet a
fault, it has an outcome at every cursor. Its repetition keeps at most as many values as bytes are
left and applies it at most once more than that, whatever bound there is on the steps of the
loop. -/
theorem Composed.always_ends (composed : parser.Composed fun _ => False) (cur : Cursor) :
    (∃ outcome, parser cur = .ok outcome) ∧
      ∃ values last calls, parser.many cur = .ok (.success values last) ∧
        (∀ fuel, cur.remaining ≤ fuel →
          parser.manyCounted fuel [] 0 cur = (calls, .ok (.success values last))) ∧
        values.length ≤ cur.remaining ∧ calls ≤ cur.remaining + 1 := by
  have forward := composed.forward
  obtain ⟨outcome, run, _⟩ := forward cur
  obtain ⟨values, last, chain, halts⟩ := exists_chain forward.onward cur
  have few : values.length ≤ cur.remaining := by
    obtain ⟨ahead, passed⟩ := chain.length_le forward.onward
    have inside := last.pos_le_size
    rw [ahead.1] at inside
    rw [Cursor.remaining]
    omega
  have counted : ∀ fuel, cur.remaining ≤ fuel →
      parser.manyCounted fuel [] 0 cur = (0 + values.length + 1, .ok (.success values last)) :=
    fun fuel enough => manyCounted_of_chain chain halts (few.trans enough)
  refine ⟨⟨outcome, run⟩, values, last, _, ?_, counted, few, by omega⟩
  have all : parser.many cur = (parser.manyCounted cur.buffer.size [] 0 cur).2 :=
    (manyCounted_snd _ _ _ _).symm
  rw [all, counted _ (Nat.sub_le _ _)]

/-- A repetition of a repetition takes all bytes at once, and is asked again where nothing is
left. -/
theorem anyByte_many_always_ends :
    (∃ outcome, anyByte.many (Sample.threeBytes 0 (by decide)) = .ok outcome) ∧
      anyByte.many.many (Sample.threeBytes 0 (by decide)) =
        .ok (.success [[0x01, 0x02, 0x03]] (Sample.threeBytes 3 (by decide))) ∧
      (anyByte.many.manyCounted 3 [] 0 (Sample.threeBytes 0 (by decide))).1 ≤ 4 := by
  have composed : anyByte.many.Composed fun _ => False := .many .anyByte
  obtain ⟨answered, values, last, calls, _, counted, _, few⟩ :=
    composed.always_ends (Sample.threeBytes 0 (by decide))
  refine ⟨answered, rfl, ?_⟩
  rw [counted 3 (by decide)]
  exact few

end Parser

end ByteGrammar
