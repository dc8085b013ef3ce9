import ByteGrammar.Proofs.CountedRepetition
import Mathlib.Order.Bounds.Basic

/-!
# How the two repetitions agree

The open-ended repetition and the counted one apply their parser in the same way and differ in when
they stop. The open-ended one stops where the parser fails or does not move. The counted one goes on
where the parser does not move, and does not get over a failure.

So both have the same answer if the count is the number of values of the open-ended repetition, and a
smaller count gives the first of these values. A larger count ends in the failure of the parser, or
repeats its value without moving as often as is still wanted (`successes_replicate`).

The number of values is the largest number of repetitions that all move (`Chain.isGreatest_length`).
Only one thing is needed from the parser: a success that stays at its position has to stay at its
buffer too, which holds for all parsers that are put together (`Composed.eq_of_stayed`).
-/

set_option autoImplicit false

namespace ByteGrammar

namespace Parser

variable {α : Type} {allowed : Fault → Prop} {parser : Parser α} {cur next last : Cursor}
variable {value : α} {values : List α}

/-! ## Chains as successes in a row -/

/-- A chain is a row of successes that move. -/
theorem Chain.successes (chain : parser.Chain cur values last) :
    parser.Successes cur values last := by
  induction chain with
  | nil cur => exact .nil cur
  | cons run _ _ ih => exact .cons run ih

/-- A success that stays can be repeated any number of times. -/
theorem successes_replicate (run : parser cur = .ok (.success value cur)) (count : Nat) :
    parser.Successes cur (List.replicate count value) cur := by
  induction count with
  | zero => exact .nil cur
  | succ count ih => exact .cons run ih

/-- Some repetitions in a row that all move are no more than those of a chain that has come to its
end. -/
theorem Chain.isGreatest_length (chain : parser.Chain cur values last) (halts : parser.Halts last) :
    IsGreatest {count | ∃ others finish, parser.Chain cur others finish ∧ others.length = count}
      values.length := by
  refine ⟨⟨values, last, chain, rfl⟩, ?_⟩
  rintro _ ⟨others, finish, other, rfl⟩
  obtain ⟨rest, rfl, _⟩ := other.exists_rest chain halts
  rw [List.length_append]
  exact Nat.le_add_right _ _

/-! ## Counts along a chain -/

/-- No more repetitions than a chain has values succeed with the first of these values. -/
theorem Chain.timesFrom_take (chain : parser.Chain cur values last) {count : Nat}
    (few : count ≤ values.length) :
    ∃ middle, parser.timesFrom count [] cur = .ok (.success (values.take count) middle) := by
  have successes := chain.successes
  rw [← List.take_append_drop count values] at successes
  obtain ⟨middle, start, _⟩ := successes_append_iff.mp successes
  exact ⟨middle, timesFrom_nil_eq_success_iff.mpr ⟨start, List.length_take_of_le few⟩⟩

/-- As many repetitions as a chain has values end where the chain does. -/
theorem Chain.timesFrom_length (chain : parser.Chain cur values last) :
    parser.timesFrom values.length [] cur = .ok (.success values last) :=
  timesFrom_nil_eq_success_iff.mpr ⟨chain.successes, rfl⟩

/-- More repetitions fail where the parser fails behind the chain. -/
theorem Chain.timesFrom_of_failure (chain : parser.Chain cur values last)
    {reported attempted : Cursor} (run : parser last = .ok (.failure reported attempted))
    {count : Nat} (more : values.length < count) :
    parser.timesFrom count [] cur = .ok (.failure last attempted) :=
  timesFrom_eq_failure_iff.mpr ⟨values, chain.successes, more, reported, run⟩

/-- More repetitions succeed where the parser stays behind the chain, with its value for each of
them. -/
theorem Chain.timesFrom_of_stayed (chain : parser.Chain cur values last)
    (run : parser last = .ok (.success value last)) {count : Nat} (more : values.length < count) :
    parser.timesFrom count [] cur =
      .ok (.success (values ++ List.replicate (count - values.length) value) last) := by
  refine timesFrom_nil_eq_success_iff.mpr ⟨chain.successes.append (successes_replicate run _), ?_⟩
  rw [List.length_append, List.length_replicate]
  omega

/-! ## Parsers that are put together -/

/-- A composed parser that stays at a position has not left its buffer. -/
theorem Composed.eq_of_stayed (composed : parser.Composed allowed)
    (run : parser cur = .ok (.success value next)) (still : (next == cur) = true) : next = cur := by
  obtain ⟨sameBuffer, _⟩ := (composed.stays_in_buffer cur).1 value next run
  exact Cursor.ext_pos sameBuffer ((Cursor.beq_eq_true_iff next cur).mp still).2

/-- **The two repetitions of a composed parser agree.** The open-ended one meets a fault that comes
from the parts of the parser, or succeeds. Where it succeeds, behind its last value the parser fails
or stays, and its values are as many as there are repetitions that all move.

Every count can then be asked for. As many repetitions as there are values have the same answer, and
fewer have the first of the values. More of them fail behind all the values as the parser does there,
with the same attempt, or have its value in addition as often as it is still wanted if it stays. -/
theorem Composed.repetitions_agree (composed : parser.Composed allowed) (cur : Cursor) :
    ((∃ fault, parser.many cur = .error fault ∧ allowed fault) ∨
      ∃ values last, parser.many cur = .ok (.success values last)) ∧
    ∀ values last, parser.many cur = .ok (.success values last) →
      ((∃ reported attempted, parser last = .ok (.failure reported attempted)) ∨
        ∃ value, parser last = .ok (.success value last)) ∧
      IsGreatest {count | ∃ others finish, parser.Chain cur others finish ∧ others.length = count}
        values.length ∧
      ∀ count : Nat, ∃ repeated, parser.times count = .ok repeated ∧
        (count = values.length → repeated cur = parser.many cur) ∧
        (count ≤ values.length →
          ∃ middle, repeated cur = .ok (.success (values.take count) middle)) ∧
        (values.length < count →
          (∀ reported attempted, parser last = .ok (.failure reported attempted) →
            repeated cur = .ok (.failure last attempted)) ∧
          ∀ value next, parser last = .ok (.success value next) → next = last ∧
            repeated cur =
              .ok (.success (values ++ List.replicate (count - values.length) value) last)) := by
  constructor
  · have answer := composed.advances.many cur
    rcases run : parser.many cur with fault | ⟨values, last⟩ | ⟨reported, attempted⟩
    · rw [run] at answer
      exact .inl ⟨fault, rfl, answer⟩
    · exact .inr ⟨values, last, rfl⟩
    · exact absurd run (manyFrom_ne_failure _ _ _)
  · intro values last run
    obtain ⟨chain, halts⟩ := chain_of_many run
    have stays : ∀ value next, parser last = .ok (.success value next) → next = last :=
      fun value next step => composed.eq_of_stayed step (halts.not_moved step)
    refine ⟨?_, chain.isGreatest_length halts, fun count => ⟨_, times_natCast _ count, ?_, ?_, ?_⟩⟩
    · cases halts with
      | failed failed => exact .inl ⟨_, _, failed⟩
      | stayed step _ =>
        obtain rfl := stays _ _ step
        exact .inr ⟨_, step⟩
    · rintro rfl
      rw [run, chain.timesFrom_length]
    · exact fun few => chain.timesFrom_take few
    · refine fun more => ⟨fun _ _ failed => chain.timesFrom_of_failure failed more, ?_⟩
      intro value next step
      obtain rfl := stays _ _ step
      exact ⟨rfl, chain.timesFrom_of_stayed step more⟩

/-! ### A parser that fails at the end, and one that stays

Both read from three bytes. The first takes all of them. The second takes two and has a number of its
own for every repetition that is wanted beyond these. -/

namespace Sample

/-- A byte below three, or zero where there is none. -/
def smallByteOrZero : Parser UInt8 :=
  alternate (byteMatching fun byte => byte < 3) (succeed 0)

theorem repetitions_of_bytes_agree :
    (anyByte.Composed (fun _ => False) ∧
      anyByte.many (threeBytes 0 (by decide)) =
        .ok (.success [0x01, 0x02, 0x03] (threeBytes 3 (by decide))) ∧
      anyByte (threeBytes 3 (by decide)) = .ok (.failureAt (threeBytes 3 (by decide))) ∧
      ∃ repeated, anyByte.times 5 = .ok repeated ∧
        repeated (threeBytes 0 (by decide)) =
          .ok (.failure (threeBytes 3 (by decide)) (threeBytes 3 (by decide)))) ∧
    smallByteOrZero.Composed (fun _ => False) ∧
      smallByteOrZero.many (threeBytes 0 (by decide)) =
        .ok (.success [0x01, 0x02] (threeBytes 2 (by decide))) ∧
      smallByteOrZero (threeBytes 2 (by decide)) = .ok (.success 0 (threeBytes 2 (by decide))) ∧
      ∃ repeated, smallByteOrZero.times 5 = .ok repeated ∧
        repeated (threeBytes 0 (by decide)) =
          .ok (.success [0x01, 0x02, 0x00, 0x00, 0x00] (threeBytes 2 (by decide))) := by
  constructor
  · have composed : anyByte.Composed fun _ => False := .anyByte
    have ends : anyByte (threeBytes 3 (by decide)) =
        .ok (.failureAt (threeBytes 3 (by decide))) := rfl
    have all : anyByte.many (threeBytes 0 (by decide)) =
        .ok (.success [0x01, 0x02, 0x03] (threeBytes 3 (by decide))) := rfl
    obtain ⟨_, _, counts⟩ := (composed.repetitions_agree _).2 _ _ all
    obtain ⟨repeated, built, _, _, more⟩ := counts 5
    exact ⟨composed, all, ends, repeated, built, (more (by decide)).1 _ _ ends⟩
  · have composed : smallByteOrZero.Composed fun _ => False :=
      .alternate (.byteMatching _) (.succeed 0) (by simp)
    have stays : smallByteOrZero (threeBytes 2 (by decide)) =
        .ok (.success 0 (threeBytes 2 (by decide))) := rfl
    have two : smallByteOrZero.many (threeBytes 0 (by decide)) =
        .ok (.success [0x01, 0x02] (threeBytes 2 (by decide))) := rfl
    obtain ⟨_, _, counts⟩ := (composed.repetitions_agree _).2 _ _ two
    obtain ⟨repeated, built, _, _, more⟩ := counts 5
    exact ⟨composed, two, stays, repeated, built, ((more (by decide)).2 _ _ stays).2⟩

end Sample

end Parser

end ByteGrammar
