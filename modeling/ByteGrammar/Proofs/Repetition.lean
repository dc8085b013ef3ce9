import ByteGrammar.Parser.Repetition
import ByteGrammar.Proofs.Forward

/-!
# What the two loops compute

The loop of `Parser.many` follows a chain of successes that move (`Chain`) until it comes to
a cursor where the parser fails or succeeds without moving (`Halts`). A chain that has come
to such a cursor is the only one (`Chain.unique`), so the answer of the loop is determined
by the parser alone and not by the accumulator or by the number of steps it may take.

A parser whose successes do not go back needs no more steps than bytes are left, since each
step passes at least one. The loop then always answers, and its answers are exactly the
chains that have come to their end (`many_eq_success_iff`).

The loop of `Parser.times` takes a number of steps that is known before, so that the number
alone carries the induction.
-/

set_option autoImplicit false

namespace ByteGrammar

namespace Parser

variable {α : Type} {parser : Parser α} {cur next last : Cursor} {values : List α}

/-- A parser answers everywhere without a fault, and no success of it goes back. -/
def Onward (parser : Parser α) : Prop :=
  ∀ cur, ∃ outcome, parser cur = .ok outcome ∧
    ∀ value next, outcome = .success value next → cur ≤ next

/-- Some successes of a parser, each at the cursor where the one before it stopped, and
each of them moving. -/
inductive Chain (parser : Parser α) : Cursor → List α → Cursor → Prop
  | nil (cur : Cursor) : Chain parser cur [] cur
  | cons {cur next last : Cursor} {value : α} {values : List α}
      (run : parser cur = .ok (.success value next)) (moved : (next == cur) = false)
      (rest : Chain parser next values last) : Chain parser cur (value :: values) last

/-- A parser cannot be repeated at a cursor: it fails there, or does not move. -/
inductive Halts (parser : Parser α) (cur : Cursor) : Prop
  | failed {reported attempted : Cursor} (run : parser cur = .ok (.failure reported attempted))
  | stayed {value : α} {next : Cursor} (run : parser cur = .ok (.success value next))
      (still : (next == cur) = true)

/-- A parser that moves at a cursor does not halt there. -/
theorem Halts.not_moved {value : α} (halts : parser.Halts cur)
    (run : parser cur = .ok (.success value next)) : (next == cur) = true := by
  cases halts with
  | failed other =>
    rw [other] at run
    cases run
  | stayed other still =>
    rw [other] at run
    cases run
    exact still

/-! ## Chains -/

/-- A chain that has come to its end goes on from wherever another chain from its first cursor
stops. -/
theorem Chain.exists_rest {others : List α} {finish : Cursor}
    (other : parser.Chain cur others finish) (chain : parser.Chain cur values last)
    (halts : parser.Halts last) :
    ∃ rest, values = others ++ rest ∧ parser.Chain finish rest last := by
  induction other generalizing values with
  | nil cur => exact ⟨values, rfl, chain⟩
  | cons run moved _ ih =>
    cases chain with
    | nil =>
      rw [halts.not_moved run] at moved
      contradiction
    | cons run' _ further =>
      rw [run] at run'
      cases run'
      obtain ⟨rest, rfl, beyond⟩ := ih further
      exact ⟨rest, rfl, beyond⟩

/-- **From one cursor there is at most one chain that has come to its end.** -/
theorem Chain.unique {others : List α} {finish : Cursor} (chain : parser.Chain cur values last)
    (halts : parser.Halts last) (other : parser.Chain cur others finish)
    (halts' : parser.Halts finish) : values = others ∧ last = finish := by
  obtain ⟨rest, rfl, beyond⟩ := other.exists_rest chain halts
  cases beyond with
  | nil => exact ⟨List.append_nil others, rfl⟩
  | cons run moved _ =>
    rw [halts'.not_moved run] at moved
    contradiction

/-- A chain that does not go back passes at least one byte for each of its values. -/
theorem Chain.length_le (onward : parser.Onward) (chain : parser.Chain cur values last) :
    cur ≤ last ∧ cur.pos + values.length ≤ last.pos := by
  induction chain with
  | nil cur => exact ⟨le_refl cur, Nat.le_refl _⟩
  | @cons cur next last value values run moved rest ih =>
    obtain ⟨outcome, answer, ahead⟩ := onward cur
    rw [answer] at run
    cases run
    have step : cur ≤ next := ahead value next rfl
    have further := Cursor.pos_lt_of_le_of_ne step moved
    refine ⟨step.trans ih.1, ?_⟩
    rw [List.length_cons]
    omega

/-- No chain goes beyond the end of one that has come to its end. -/
theorem Chain.le_of_halts (onward : parser.Onward) {others : List α} {finish : Cursor}
    (other : parser.Chain cur others finish) (chain : parser.Chain cur values last)
    (halts : parser.Halts last) : finish ≤ last := by
  obtain ⟨_, _, beyond⟩ := other.exists_rest chain halts
  exact (beyond.length_le onward).1

/-- From every cursor a chain that does not go back comes to its end. -/
theorem exists_chain (onward : parser.Onward) (cur : Cursor) :
    ∃ values last, parser.Chain cur values last ∧ parser.Halts last := by
  -- Each step leaves fewer bytes, so the number of those that are left carries the induction.
  induction left : cur.remaining using Nat.strongRecOn generalizing cur with
  | ind bound ih =>
    obtain ⟨outcome, run, ahead⟩ := onward cur
    cases outcome with
    | failure reported attempted => exact ⟨[], cur, .nil cur, .failed run⟩
    | success value next =>
      cases moved : next == cur with
      | true => exact ⟨[], cur, .nil cur, .stayed run moved⟩
      | false =>
        have fewer := Cursor.remaining_lt_of_le_of_ne (ahead value next rfl) moved
        rw [left] at fewer
        obtain ⟨values, last, chain, halts⟩ := ih next.remaining fewer next rfl
        exact ⟨value :: values, last, .cons run moved chain, halts⟩

/-! ## The loop of `many` -/

/-- The loop follows a chain that has come to its end, if it may take enough steps. -/
theorem manyFrom_of_chain {fuel : Nat} {before : List α} (chain : parser.Chain cur values last)
    (halts : parser.Halts last) (enough : values.length ≤ fuel) :
    parser.manyFrom fuel before cur = .ok (.success (before.reverse ++ values) last) := by
  induction chain generalizing fuel before with
  | nil cur =>
    cases halts with
    | failed run => simp [manyFrom, run]
    | stayed run still => simp [manyFrom, run, still]
  | @cons cur next last value values run moved rest ih =>
    cases fuel with
    | zero => simp at enough
    | succ fuel =>
      rw [manyFrom, run]
      simp only [moved, Bool.false_eq_true, if_false]
      rw [ih halts (Nat.le_of_succ_le_succ enough), List.reverse_cons, List.append_assoc]
      rfl

/-- Whatever the loop answers, it has followed a chain to its end. -/
theorem exists_chain_of_manyFrom {fuel : Nat} {before all : List α}
    (run : parser.manyFrom fuel before cur = .ok (.success all last)) :
    ∃ values, all = before.reverse ++ values ∧ parser.Chain cur values last ∧
      parser.Halts last := by
  fun_induction manyFrom parser fuel before cur with
  | case1 => cases run
  | case2 _ _ _ _ _ failed =>
    cases run
    exact ⟨[], (List.append_nil _).symm, .nil last, .failed failed⟩
  | case3 _ _ _ _ _ step still =>
    cases run
    exact ⟨[], (List.append_nil _).symm, .nil last, .stayed step still⟩
  | case4 => cases run
  | case5 before cur value next step moved fuel ih =>
    obtain ⟨values, rfl, chain, halts⟩ := ih run
    refine ⟨value :: values, ?_, .cons step (by simpa using moved) chain, halts⟩
    rw [List.reverse_cons, List.append_assoc, List.singleton_append]

/-- A parser is repeated along a chain that has come to its end, also one that goes back. -/
theorem chain_of_many (run : parser.many cur = .ok (.success values last)) :
    parser.Chain cur values last ∧ parser.Halts last := by
  obtain ⟨others, rfl, chain, halts⟩ := exists_chain_of_manyFrom run
  exact ⟨chain, halts⟩

/-- **A parser that does not go back is repeated exactly along the chain of its successes
that has come to its end.** -/
theorem many_eq_success_iff (onward : parser.Onward) :
    parser.many cur = .ok (.success values last) ↔
      parser.Chain cur values last ∧ parser.Halts last := by
  constructor
  · exact chain_of_many
  · rintro ⟨chain, halts⟩
    have length := (chain.length_le onward).2
    have inside := last.pos_le_size
    rw [(chain.length_le onward).1.1] at inside
    exact manyFrom_of_chain chain halts (by omega)

theorem Forward.onward {holds : α → Prop} (forward : parser.Forward holds) : parser.Onward := by
  intro cur
  obtain ⟨outcome, run, ahead⟩ := forward cur
  refine ⟨outcome, run, ?_⟩
  rintro value next rfl
  exact ahead.2

/-- What one step of the loop comes to: a fault of the parser, the end of the loop, or the loop
behind a success that moved, with fewer bytes left than steps. -/
theorem Advances.manyFrom_step {allowed : Fault → Prop} {holds : α → Prop}
    (advances : parser.Advances allowed holds) {fuel : Nat} (before : List α)
    (enough : cur.remaining ≤ fuel) :
    (∃ fault, parser.manyFrom fuel before cur = .error fault ∧ allowed fault) ∨
      parser.manyFrom fuel before cur = .ok (.success before.reverse cur) ∨
        ∃ value next fewer, holds value ∧ cur ≤ next ∧ next.remaining ≤ fewer ∧ fewer < fuel ∧
          parser.manyFrom fuel before cur = parser.manyFrom fewer (value :: before) next := by
  rw [Parser.manyFrom.eq_def]
  rcases advances.cases cur with ⟨fault, run, met⟩ | ⟨value, next, run, held, ahead⟩ |
    ⟨reported, attempted, run, _⟩
  · exact .inl ⟨fault, by simp only [run], met⟩
  · cases moved : next == cur with
    | true => exact .inr (.inl (by simp only [run, moved, if_true]))
    | false =>
      have fewer := Cursor.remaining_lt_of_le_of_ne ahead moved
      obtain ⟨steps, rfl⟩ : ∃ steps, fuel = steps + 1 :=
        Nat.exists_eq_add_one.mpr (by omega)
      refine .inr (.inr ⟨value, next, steps, held, ahead, by omega, Nat.lt_succ_self steps, ?_⟩)
      simp only [run, moved, Bool.false_eq_true, if_false]
  · exact .inr (.inl (by simp only [run]))

/-- **The loop of a parser that advances meets no fault of its own**, if it may take as many
steps as bytes are left. -/
theorem Advances.manyFrom {allowed : Fault → Prop} {holds : α → Prop}
    (advances : parser.Advances allowed holds) {fuel : Nat} {before : List α}
    (enough : cur.remaining ≤ fuel) (held : ∀ value ∈ before, holds value) :
    Outcome.AheadOr allowed cur (fun values => ∀ value ∈ values, holds value)
      (parser.manyFrom fuel before cur) := by
  induction fuel using Nat.strongRecOn generalizing before cur with
  | ind fuel ih =>
    rcases advances.manyFrom_step before enough with ⟨fault, run, met⟩ | run |
      ⟨value, next, fewer, heldNext, ahead, left, less, run⟩
    · rw [run]
      exact met
    · rw [run]
      exact ⟨by simpa using held, le_refl cur⟩
    · rw [run]
      exact (ih fewer less left (List.forall_mem_cons.mpr ⟨heldNext, held⟩)).trans ahead

theorem Advances.many {allowed : Fault → Prop} {holds : α → Prop}
    (advances : parser.Advances allowed holds) :
    parser.many.Advances allowed fun values => ∀ value ∈ values, holds value := by
  intro cur
  apply advances.manyFrom
  · exact Nat.sub_le _ _
  · simp

theorem Forward.many {holds : α → Prop} (forward : parser.Forward holds) :
    parser.many.Forward fun values => ∀ value ∈ values, holds value :=
  (forward.advances _).many.forward

/-! ## The loop of `times` -/

theorem Advances.timesFrom {allowed : Fault → Prop} {holds : α → Prop}
    (advances : parser.Advances allowed holds) (count : Nat) (before : List α) :
    Advances (parser.timesFrom count before) allowed fun _ => True := by
  induction count generalizing before with
  | zero => exact fun cur => ⟨trivial, le_refl cur⟩
  | succ count ih =>
    intro cur
    rw [Parser.timesFrom]
    rcases advances.cases cur with ⟨fault, run, met⟩ | ⟨value, next, run, _, ahead⟩ |
      ⟨reported, attempted, run, ahead, attempt⟩
    · simp only [run]
      exact met
    · simp only [run]
      exact (ih (value :: before) next).trans ahead
    · simp only [run]
      exact ⟨le_refl cur, ahead.trans attempt⟩

theorem Forward.timesFrom {holds : α → Prop} (forward : parser.Forward holds) (count : Nat)
    (before : List α) : Forward (parser.timesFrom count before) fun _ => True :=
  ((forward.advances _).timesFrom count before).forward

end Parser

end ByteGrammar
