import ByteGrammar.Parser.Probes
import ByteGrammar.Proofs.SequenceLaws

/-!
# Laws of choice and negation

An ordered choice is decided by its first branch that does not fail. It answers as that branch does, be
it with a success or with a fault, and what stands behind that branch has no part in it
(`Parser.firstOf_of_decided`). If all branches fail, the failure of the last one is the answer as it is
(`Parser.firstOf_of_all_fail`). Two equations, for a first branch that fails and for one that does not,
carry all of this (`Parser.firstOf_of_fails`, `Parser.firstOf_of_not_fails`).

It makes no difference how the branches of a choice are grouped into choices between two
(`Parser.firstOf_eq_nestedRight`, `Parser.firstOf_eq_nestedLeft`). A choice behind a common first part is
a choice between two sequences, which runs the first part twice if the first branch fails
(`Parser.bind_alternate`).

A negation answers with the cursor it was given and with nothing of its parser. The negation of a choice
is therefore a sequence of negations (`Parser.notFollowedBy_alternate`), and a negation that is negated
twice is what it was.
-/

set_option autoImplicit false

namespace ByteGrammar

namespace Parser

variable {α β : Type} {parser branch other : Parser α} {others : List (Parser α)} {cur : Cursor}

/-- A parser fails at a cursor. Otherwise it succeeds there or ends in a fault. -/
def Fails (parser : Parser α) (cur : Cursor) : Prop :=
  ∃ reported attempted, parser cur = .ok (.failure reported attempted)

theorem not_fails_of_fault {fault : Fault} (run : parser cur = .error fault) : ¬ parser.Fails cur := by
  rintro ⟨reported, attempted, failed⟩
  rw [run] at failed
  cases failed

theorem not_fails_of_success {value : α} {last : Cursor} (run : parser cur = .ok (.success value last)) :
    ¬ parser.Fails cur := by
  rintro ⟨reported, attempted, failed⟩
  rw [run] at failed
  cases failed

/-! ## The branch that decides -/

/-- A branch that fails leaves the answer to the branches behind it. -/
theorem firstOf_of_fails (fails : branch.Fails cur) (other : Parser α) (others : List (Parser α)) :
    firstOf branch (other :: others) cur = firstOf other others cur := by
  obtain ⟨reported, attempted, run⟩ := fails
  simp only [firstOf, run]

/-- A branch that does not fail gives the answer. -/
theorem firstOf_of_not_fails (decides : ¬ branch.Fails cur) (others : List (Parser α)) :
    firstOf branch others cur = branch cur := by
  cases others with
  | nil => rfl
  | cons other others =>
    rcases run : branch cur with fault | ⟨value, last⟩ | ⟨reported, attempted⟩
    · simp only [firstOf, run]
    · simp only [firstOf, run]
    · exact absurd ⟨reported, attempted, run⟩ decides

theorem alternate_of_fails (fails : branch.Fails cur) (other : Parser α) :
    alternate branch other [] cur = other cur :=
  firstOf_of_fails fails other []

theorem alternate_of_not_fails (decides : ¬ branch.Fails cur) (other : Parser α) :
    alternate branch other [] cur = branch cur :=
  firstOf_of_not_fails decides [other]

/-- **The first branch that does not fail decides**, whatever stands behind it. -/
theorem firstOf_of_decided {before rest : List (Parser α)} (fail : ∀ other ∈ before, other.Fails cur)
    (decides : ¬ branch.Fails cur) (split : parser :: others = before ++ branch :: rest) :
    firstOf parser others cur = branch cur := by
  induction before generalizing parser others with
  | nil =>
    obtain ⟨rfl, rfl⟩ := List.cons.inj split
    exact firstOf_of_not_fails decides others
  | cons first before ih =>
    obtain ⟨rfl, behind⟩ := List.cons.inj split
    obtain ⟨here, there⟩ := List.forall_mem_cons.mp fail
    cases others with
    | nil => simp at behind
    | cons second others =>
      rw [firstOf_of_fails here]
      exact ih there behind

/-- If all branches fail, the last one gives the answer. -/
theorem firstOf_of_all_fail (fail : ∀ other ∈ parser :: others, other.Fails cur) :
    firstOf parser others cur = (parser :: others).getLast (List.cons_ne_nil _ _) cur := by
  induction others generalizing parser with
  | nil => rfl
  | cons other others ih =>
    obtain ⟨here, there⟩ := List.forall_mem_cons.mp fail
    rw [firstOf_of_fails here, ih there, List.getLast_cons (List.cons_ne_nil other others)]

/-! ## Grouping of branches -/

/-- Choices between two, in which the first branch stands against all the others. -/
def nestedRight : Parser α → List (Parser α) → Parser α
  | branch, [] => branch
  | branch, other :: others => alternate branch (nestedRight other others)

/-- Choices between two, in which all other branches stand against the last one. -/
def nestedLeft (branch : Parser α) (others : List (Parser α)) : Parser α :=
  others.foldl (fun left right => alternate left right) branch

theorem firstOf_eq_nestedRight (branch : Parser α) (others : List (Parser α)) :
    firstOf branch others = nestedRight branch others := by
  induction others generalizing branch with
  | nil => rfl
  | cons other others ih =>
    funext cur
    rw [nestedRight, ← ih other]
    by_cases fails : branch.Fails cur
    · rw [firstOf_of_fails fails, alternate_of_fails fails]
    · rw [firstOf_of_not_fails fails, alternate_of_not_fails fails]

/-- The first two branches can be taken as one. -/
theorem firstOf_alternate (branch other : Parser α) (others : List (Parser α)) :
    firstOf (alternate branch other) others = firstOf branch (other :: others) := by
  cases others with
  | nil => rfl
  | cons third others =>
    funext cur
    by_cases fails : branch.Fails cur
    · have same := alternate_of_fails fails other
      rw [firstOf_of_fails fails]
      by_cases failsToo : other.Fails cur
      · have both : (alternate branch other).Fails cur := by rwa [Fails, same]
        rw [firstOf_of_fails both, firstOf_of_fails failsToo]
      · have decides : ¬ (alternate branch other).Fails cur := by rwa [Fails, same]
        rw [firstOf_of_not_fails decides, firstOf_of_not_fails failsToo, same]
    · have same := alternate_of_not_fails fails other
      have decides : ¬ (alternate branch other).Fails cur := by rwa [Fails, same]
      rw [firstOf_of_not_fails decides, firstOf_of_not_fails fails, same]

theorem firstOf_eq_nestedLeft (branch : Parser α) (others : List (Parser α)) :
    firstOf branch others = nestedLeft branch others := by
  induction others generalizing branch with
  | nil => rfl
  | cons other others ih =>
    rw [← firstOf_alternate, ih]
    rfl

/-! ## Choice behind a common first part -/

/-- **A choice of second parts is a choice of sequences.** -/
theorem bind_alternate (parser : Parser α) (next other : α → Parser β) :
    (parser.bind fun value => alternate (next value) (other value)) =
      alternate (parser.bind next) (parser.bind other) := by
  funext cur
  rcases run : parser cur with fault | ⟨value, middle⟩ | ⟨reported, attempted⟩
  · rw [bind_of_fault run, alternate_of_not_fails (not_fails_of_fault (bind_of_fault run next)),
      bind_of_fault run]
  · have left := bind_of_success run next
    rw [bind_of_success run]
    rcases runNext : next value middle with fault | ⟨result, last⟩ | ⟨reported, attempted⟩
    · rw [runNext] at left
      rw [alternate_of_not_fails (not_fails_of_fault runNext),
        alternate_of_not_fails (not_fails_of_fault left), runNext, left]
    · rw [runNext] at left
      rw [alternate_of_not_fails (not_fails_of_success runNext),
        alternate_of_not_fails (not_fails_of_success left), runNext, left]
    · -- The first sequence fails, and the second one starts from the same success of its first part.
      rw [runNext] at left
      rw [alternate_of_fails ⟨reported, attempted, runNext⟩,
        alternate_of_fails ⟨cur, attempted, left⟩, bind_of_success run]
  · have left := bind_of_failure run next
    rw [bind_of_failure run, alternate_of_fails ⟨cur, attempted, left⟩, bind_of_failure run]

/-! ## Negation -/

theorem notFollowedBy_of_fault {fault : Fault} (run : parser cur = .error fault) :
    parser.notFollowedBy cur = .error fault := by
  rw [notFollowedBy, run]

theorem notFollowedBy_of_success {value : α} {last : Cursor}
    (run : parser cur = .ok (.success value last)) :
    parser.notFollowedBy cur = .ok (.failureAt cur) := by
  rw [notFollowedBy, run]

theorem notFollowedBy_of_fails (fails : parser.Fails cur) :
    parser.notFollowedBy cur = .ok (.success () cur) := by
  obtain ⟨reported, attempted, run⟩ := fails
  rw [notFollowedBy, run]

/-- **A choice is negated branch by branch.** The second branch is tried only where the first one
fails, on both sides. -/
theorem notFollowedBy_alternate (parser other : Parser α) :
    (alternate parser other).notFollowedBy =
      parser.notFollowedBy.bind fun _ => other.notFollowedBy := by
  funext cur
  rcases run : parser cur with fault | ⟨value, last⟩ | ⟨reported, attempted⟩
  · have decided := alternate_of_not_fails (not_fails_of_fault run) other
    rw [run] at decided
    rw [notFollowedBy_of_fault decided, bind_of_fault (notFollowedBy_of_fault run)]
  · have decided := alternate_of_not_fails (not_fails_of_success run) other
    rw [run] at decided
    rw [notFollowedBy_of_success decided, bind_of_failure (notFollowedBy_of_success run)]
    rfl
  · have fails : parser.Fails cur := ⟨reported, attempted, run⟩
    rw [bind_of_success (notFollowedBy_of_fails fails), notFollowedBy, alternate_of_fails fails,
      notFollowedBy]
    rcases other cur with fault | ⟨value, last⟩ | ⟨reported, attempted⟩ <;> rfl

theorem notFollowedBy_notFollowedBy_notFollowedBy (parser : Parser α) :
    parser.notFollowedBy.notFollowedBy.notFollowedBy = parser.notFollowedBy := by
  funext cur
  rcases run : parser cur with fault | ⟨value, last⟩ | ⟨reported, attempted⟩
  · have once := notFollowedBy_of_fault run
    rw [once, notFollowedBy_of_fault (notFollowedBy_of_fault once)]
  · have once := notFollowedBy_of_success run
    rw [once, notFollowedBy_of_success (notFollowedBy_of_fails ⟨cur, cur, once⟩)]
  · have once := notFollowedBy_of_fails ⟨reported, attempted, run⟩
    have twice := notFollowedBy_of_success once
    rw [once, notFollowedBy_of_fails ⟨cur, cur, twice⟩]

/-! ## All laws together -/

/-- **The laws of choice and negation hold for answers as a whole**, with both cursors of a failure and
with faults.

A choice between any number of branches is the same as choices between two, nested to either side. It
answers as its first branch that does not fail. That holds for all branches behind it, also for such as
would end in a fault, so none of them is run. If all branches fail, the answer is the failure of the last
one with both its cursors.

The negation of a choice is the sequence of the negations, three negations are one, and a choice of
second parts is a choice of sequences. The second parts are given as parsers, so nothing is said of those
that cannot be built. -/
theorem laws_of_choice :
    (∀ {α : Type} (first second : Parser α) (others : List (Parser α)),
      alternate first second others = nestedRight first (second :: others) ∧
        alternate first second others = nestedLeft first (second :: others)) ∧
    (∀ {α : Type} (before : List (Parser α)) (branch : Parser α) cur,
      (∀ other ∈ before, other.Fails cur) → ¬ branch.Fails cur →
        ∀ rest first second others, first :: second :: others = before ++ branch :: rest →
          alternate first second others cur = branch cur) ∧
    (∀ {α : Type} (first second : Parser α) (others : List (Parser α)) cur,
      (∀ other ∈ first :: second :: others, other.Fails cur) →
        alternate first second others cur =
          (second :: others).getLast (List.cons_ne_nil _ _) cur) ∧
    (∀ {α : Type} (parser other : Parser α),
      (alternate parser other).notFollowedBy =
        parser.notFollowedBy.bind fun _ => other.notFollowedBy) ∧
    (∀ {α : Type} (parser : Parser α),
      parser.notFollowedBy.notFollowedBy.notFollowedBy = parser.notFollowedBy) ∧
    ∀ {α β : Type} (parser : Parser α) (next other : α → Parser β),
      (parser.bind fun value => alternate (next value) (other value)) =
        alternate (parser.bind next) (parser.bind other) := by
  refine ⟨?_, ?_, ?_, notFollowedBy_alternate, notFollowedBy_notFollowedBy_notFollowedBy,
    bind_alternate⟩
  · intro _ first second others
    exact ⟨firstOf_eq_nestedRight _ _, firstOf_eq_nestedLeft _ _⟩
  · intro _ before branch cur fail decides rest first second others split
    exact firstOf_of_decided fail decides split
  · intro _ first second others cur fail
    rw [alternate, firstOf_of_all_fail fail, List.getLast_cons (List.cons_ne_nil second others)]

/-! ### A branch that is not run, and a last branch that reports cursors of its own -/

namespace Sample

/-- The cursor at a position of a single byte. -/
def oneByte (pos : Nat) (inside : pos ≤ 1) : Cursor :=
  ⟨.ofList [0x41], pos, inside⟩

/-- A parser that fails with the end of the byte as the cursor it reports. -/
def failsBehind : Parser Nat :=
  failWith 1 0

theorem choice_answers :
    (fail.Fails (α := Nat) (oneByte 0 (by decide)) ∧ ¬ (succeed 7).Fails (oneByte 0 (by decide)) ∧
      alternate fail (succeed 7) [deferred (.error .nothingBuilt)] (oneByte 0 (by decide)) =
        .ok (.success 7 (oneByte 0 (by decide)))) ∧
    alternate fail failsBehind [] (oneByte 0 (by decide)) =
      .ok (.failure (oneByte 1 (by decide)) (oneByte 0 (by decide))) := by
  obtain ⟨_, decided, allFail, _⟩ := laws_of_choice
  have fails : fail.Fails (α := Nat) (oneByte 0 (by decide)) := ⟨_, _, rfl⟩
  have stops : ¬ (succeed 7).Fails (oneByte 0 (by decide)) := not_fails_of_success rfl
  have failsToo : failsBehind.Fails (oneByte 0 (by decide)) := ⟨_, _, rfl⟩
  refine ⟨⟨fails, stops, ?_⟩, ?_⟩
  · exact decided [fail] (succeed 7) _ (by simpa using fails) stops _ _ _ _ rfl
  · exact allFail fail failsBehind [] _ (by simpa using ⟨fails, failsToo⟩)

end Sample

end Parser

end ByteGrammar
