import ByteGrammar.Proofs.Repetition

/-!
# Parsers that recognise a form

A form says which bytes stand for a value. A parser recognises a form when it succeeds
exactly where such bytes follow, with a value that they stand for and behind them
(`Parser.Recognises`). The statement is an equivalence, so it says at once that nothing
else is accepted and that nothing of the form is lost.

Recognition is kept by sequence and by counted repetition, whatever follows the bytes. A
greedy repetition by itself recognises nothing, because it stops only where no further
repetition is possible. Followed by a parser that succeeds nowhere where it could go on, it
is as good as one that could step back (`Recognises.many_bindWith_eq_success_iff`).
-/

set_option autoImplicit false

namespace ByteGrammar

variable {α β γ : Type}

/-! ## Repeated forms -/

/-- Bytes that stand for some values, one after the other. -/
inductive Repeated (stands : α → List UInt8 → Prop) : List α → List UInt8 → Prop
  | nil : Repeated stands [] []
  | cons {value : α} {values : List α} {first rest : List UInt8} (here : stands value first)
      (further : Repeated stands values rest) : Repeated stands (value :: values) (first ++ rest)

theorem Repeated.append {stands : α → List UInt8 → Prop} {values others : List α}
    {first second : List UInt8} (start : Repeated stands values first)
    (further : Repeated stands others second) :
    Repeated stands (values ++ others) (first ++ second) := by
  induction start with
  | nil => exact further
  | cons here _ ih =>
    rw [List.cons_append, List.append_assoc]
    exact .cons here ih

theorem Repeated.split {stands : α → List UInt8 → Prop} {values others : List α}
    {bytes : List UInt8} (whole : Repeated stands (values ++ others) bytes) :
    ∃ first second, bytes = first ++ second ∧ Repeated stands values first ∧
      Repeated stands others second := by
  induction values generalizing bytes with
  | nil => exact ⟨[], bytes, rfl, .nil, whole⟩
  | cons value values ih =>
    cases whole with
    | cons here further =>
      obtain ⟨first, second, rfl, start, rest⟩ := ih further
      exact ⟨_, second, (List.append_assoc _ first second).symm, .cons here start, rest⟩

/-- A repetition that begins with a value begins with the bytes that stand for it. -/
theorem repeated_cons_iff {stands : α → List UInt8 → Prop} {value : α} {values : List α}
    {bytes : List UInt8} :
    Repeated stands (value :: values) bytes ↔
      ∃ first rest, bytes = first ++ rest ∧ stands value first ∧ Repeated stands values rest := by
  constructor
  · intro whole
    cases whole with
    | cons here further => exact ⟨_, _, rfl, here, further⟩
  · rintro ⟨_, _, rfl, here, further⟩
    exact .cons here further

/-- A repetition of one value is that value. -/
theorem repeated_singleton_iff {stands : α → List UInt8 → Prop} {value : α} {bytes : List UInt8} :
    Repeated stands [value] bytes ↔ stands value bytes := by
  constructor
  · intro single
    cases single with
    | cons here nothing =>
      cases nothing
      rwa [List.append_nil]
  · intro here
    rw [← List.append_nil bytes]
    exact .cons here .nil

theorem repeated_and_iff {stands : α → List UInt8 → Prop} {holds : α → Prop} {values : List α}
    {bytes : List UInt8} :
    Repeated (fun value bytes => stands value bytes ∧ holds value) values bytes ↔
      Repeated stands values bytes ∧ ∀ value ∈ values, holds value := by
  constructor
  · intro both
    induction both with
    | nil => exact ⟨.nil, by simp⟩
    | cons here _ ih => exact ⟨.cons here.1 ih.1, List.forall_mem_cons.mpr ⟨here.2, ih.2⟩⟩
  · rintro ⟨repeated, all⟩
    induction repeated with
    | nil => exact .nil
    | cons here _ ih =>
      obtain ⟨first, others⟩ := List.forall_mem_cons.mp all
      exact .cons ⟨here, first⟩ (ih others)

/-- Values that each stand as one byte stand as the list of these bytes. -/
theorem repeated_byte_iff {values bytes : List UInt8} :
    Repeated (fun byte bytes => bytes = [byte]) values bytes ↔ bytes = values := by
  constructor
  · intro stands
    induction stands with
    | nil => rfl
    | cons here _ ih => rw [here, ih, List.singleton_append]
  · rintro rfl
    induction bytes with
    | nil => exact .nil
    | cons byte bytes ih =>
      rw [← List.singleton_append]
      exact .cons rfl ih

namespace Parser

/-- A parser succeeds exactly where bytes follow that stand for a value, with that value
and behind those bytes. -/
def Recognises (parser : Parser α) (stands : α → List UInt8 → Prop) : Prop :=
  ∀ cur value last, parser cur = .ok (.success value last) ↔
    ∃ bytes, cur.Passes bytes last ∧ stands value bytes

/-! ## Sequence -/

/-- A sequence succeeds exactly if its parts succeed one after the other and something can
be made of their values. -/
theorem bindMaking_eq_success_iff {parser : Parser α} {next : α → Parser β}
    {make : α → β → Except Fault γ} {cur last : Cursor} {whole : γ} :
    parser.bindMaking next make cur = .ok (.success whole last) ↔
      ∃ value middle other, parser cur = .ok (.success value middle) ∧
        next value middle = .ok (.success other last) ∧ make value other = .ok whole := by
  constructor
  · intro run
    rw [bindMaking] at run
    split at run
    · cases run
    · cases run
    · next value middle first =>
      split at run
      · cases run
      · cases run
      · next other finish second =>
        split at run
        · cases run
        · next made making =>
          cases run
          exact ⟨value, middle, other, first, second, making⟩
  · rintro ⟨value, middle, other, first, second, making⟩
    simp only [bindMaking, first, second, making]

theorem bindWith_eq_success_iff {parser : Parser α} {next : α → Parser β} {join : α → β → γ}
    {cur last : Cursor} {whole : γ} :
    parser.bindWith next join cur = .ok (.success whole last) ↔
      ∃ value middle other, parser cur = .ok (.success value middle) ∧
        next value middle = .ok (.success other last) ∧ join value other = whole := by
  simp only [bindWith, bindMaking_eq_success_iff, Except.ok.injEq]

/-- A failure of a sequence is reported at the cursor the sequence was given. -/
theorem eq_of_bindMaking_eq_failure {parser : Parser α} {next : α → Parser β}
    {make : α → β → Except Fault γ} {cur reported attempted : Cursor}
    (run : parser.bindMaking next make cur = .ok (.failure reported attempted)) :
    reported = cur := by
  rw [bindMaking] at run
  split at run
  · cases run
  · cases run
    rfl
  · split at run
    · cases run
    · cases run
      rfl
    · split at run <;> cases run

namespace Recognises

variable {parser : Parser α} {stands : α → List UInt8 → Prop}

theorem congr {others : α → List UInt8 → Prop} (recognises : parser.Recognises stands)
    (same : ∀ value bytes, stands value bytes ↔ others value bytes) :
    parser.Recognises others := by
  intro cur value last
  rw [recognises cur value last]
  simp only [same]

theorem deferred {built : Except Fault (Parser α)} (build : built = .ok parser)
    (recognises : parser.Recognises stands) : (deferred built).Recognises stands := by
  subst build
  exact recognises

/-- **A sequence recognises the forms of its parts one after the other.** -/
theorem bindMaking {next : α → Parser β} {make : α → β → Except Fault γ}
    {follows : α → β → List UInt8 → Prop} (first : parser.Recognises stands)
    (second : ∀ value, (next value).Recognises (follows value)) :
    (parser.bindMaking next make).Recognises fun whole bytes =>
      ∃ value other front back, stands value front ∧ follows value other back ∧
        make value other = .ok whole ∧ bytes = front ++ back := by
  intro cur whole last
  rw [bindMaking_eq_success_iff]
  constructor
  · rintro ⟨value, middle, other, run, runNext, making⟩
    obtain ⟨front, start, here⟩ := (first cur value middle).mp run
    obtain ⟨back, further, there⟩ := (second value middle other last).mp runNext
    exact ⟨front ++ back, start.trans further, value, other, front, back, here, there, making, rfl⟩
  · rintro ⟨_, passes, value, other, front, back, here, there, making, rfl⟩
    obtain ⟨middle, start, further⟩ := passes.split
    exact ⟨value, middle, other, (first cur value middle).mpr ⟨front, start, here⟩,
      (second value middle other last).mpr ⟨back, further, there⟩, making⟩

theorem bindWith {next : α → Parser β} {join : α → β → γ} {follows : α → β → List UInt8 → Prop}
    (first : parser.Recognises stands) (second : ∀ value, (next value).Recognises (follows value)) :
    (parser.bindWith next join).Recognises fun whole bytes =>
      ∃ value other front back, stands value front ∧ follows value other back ∧
        join value other = whole ∧ bytes = front ++ back :=
  (first.bindMaking second).congr fun _ _ => by simp only [Except.ok.injEq]

/-! ## Repetition -/

/-- The chains of a parser that recognises bytes are the repetitions of its form. -/
theorem chain_iff (recognises : parser.Recognises stands)
    (nonempty : ∀ value, ¬ stands value []) {cur last : Cursor} {values : List α} :
    parser.Chain cur values last ↔ ∃ bytes, cur.Passes bytes last ∧ Repeated stands values bytes := by
  constructor
  · intro chain
    induction chain with
    | nil cur => exact ⟨[], .refl cur, .nil⟩
    | cons run _ _ ih =>
      obtain ⟨first, start, here⟩ := (recognises _ _ _).mp run
      obtain ⟨rest, further, there⟩ := ih
      exact ⟨first ++ rest, start.trans further, .cons here there⟩
  · rintro ⟨bytes, passes, repeated⟩
    induction repeated generalizing cur with
    | nil =>
      rw [(Cursor.Passes.refl cur).last_eq passes rfl]
      exact .nil last
    | @cons value values first rest here further ih =>
      obtain ⟨next, start, remaining⟩ := passes.split
      have moved : (next == cur) = false := by
        refine Bool.eq_false_iff.mpr fun equal => nonempty value ?_
        have position := ((Cursor.beq_eq_true_iff next cur).mp equal).2
        rw [start.pos_eq] at position
        rwa [List.length_eq_zero_iff.mp (by omega : first.length = 0)] at here
      exact .cons ((recognises cur value next).mpr ⟨first, start, here⟩) moved (ih remaining)

/-- A counted repetition recognises as many repetitions of the form. -/
theorem timesFrom (recognises : parser.Recognises stands) (count : Nat) (before : List α) :
    Recognises (parser.timesFrom count before) fun values bytes =>
      ∃ others, others.length = count ∧ Repeated stands others bytes ∧
        values = before.reverse ++ others := by
  induction count generalizing before with
  | zero =>
    intro cur values last
    simp only [Parser.timesFrom, Except.ok.injEq, Outcome.success.injEq, List.length_eq_zero_iff]
    constructor
    · rintro ⟨rfl, rfl⟩
      exact ⟨[], .refl cur, [], rfl, .nil, (List.append_nil _).symm⟩
    · rintro ⟨bytes, passes, others, rfl, repeated, rfl⟩
      cases repeated
      exact ⟨(List.append_nil _).symm, (Cursor.Passes.refl cur).last_eq passes rfl⟩
  | succ count ih =>
    intro cur values last
    constructor
    · intro run
      rw [Parser.timesFrom] at run
      split at run
      · cases run
      · cases run
      · next value next step =>
        obtain ⟨first, start, here⟩ := (recognises cur value next).mp step
        obtain ⟨rest, further, others, length, repeated, rfl⟩ := (ih _ next values last).mp run
        refine ⟨first ++ rest, start.trans further, value :: others, ?_, .cons here repeated, ?_⟩
        · rw [List.length_cons, length]
        · rw [List.reverse_cons, List.append_assoc, List.singleton_append]
    · rintro ⟨bytes, passes, others, length, repeated, rfl⟩
      cases repeated with
      | nil => simp at length
      | @cons value values first rest here further =>
        obtain ⟨next, start, remaining⟩ := passes.split
        have step := (recognises cur value next).mpr ⟨first, start, here⟩
        simp only [Parser.timesFrom, step]
        refine (ih _ next _ last).mpr ⟨rest, remaining, values, ?_, further, ?_⟩
        · exact Nat.succ.inj length
        · rw [List.reverse_cons, List.append_assoc, List.singleton_append]

/-- **A greedy repetition loses nothing** if what follows it succeeds only where the repeated
parser does not. -/
theorem many_bindWith_eq_success_iff {next : Parser β} {join : List α → β → γ}
    (recognises : parser.Recognises stands) (onward : parser.Onward)
    (nonempty : ∀ value, ¬ stands value [])
    (apart : ∀ cur value middle other last, parser cur = .ok (.success value middle) →
      next cur ≠ .ok (.success other last))
    {cur last : Cursor} {whole : γ} :
    parser.many.bindWith (fun _ => next) join cur = .ok (.success whole last) ↔
      ∃ values bytes middle other, cur.Passes bytes middle ∧ Repeated stands values bytes ∧
        next middle = .ok (.success other last) ∧ join values other = whole := by
  rw [bindWith_eq_success_iff]
  constructor
  · rintro ⟨values, middle, other, run, runNext, joined⟩
    obtain ⟨chain, _⟩ := (many_eq_success_iff onward).mp run
    obtain ⟨bytes, passes, repeated⟩ := (recognises.chain_iff nonempty).mp chain
    exact ⟨values, bytes, middle, other, passes, repeated, runNext, joined⟩
  · rintro ⟨values, bytes, middle, other, passes, repeated, runNext, joined⟩
    have halts : parser.Halts middle := by
      obtain ⟨outcome, run, _⟩ := onward middle
      cases outcome with
      | success value beyond => exact absurd runNext (apart middle value beyond other last run)
      | failure reported attempted => exact .failed run
    have chain := (recognises.chain_iff nonempty).mpr ⟨bytes, passes, repeated⟩
    exact ⟨values, middle, other, (many_eq_success_iff onward).mpr ⟨chain, halts⟩, runNext, joined⟩

end Recognises

/-! ## Bytes and words -/

theorem recognises_byteMatching (test : UInt8 → Bool) :
    (byteMatching test).Recognises fun byte bytes => bytes = [byte] ∧ test byte = true := by
  intro cur value last
  rcases byteMatching_cases test cur with ⟨nothing, run⟩ | ⟨byte, next, passes, run⟩
  · rw [run]
    constructor
    · intro equal
      cases equal
    · rintro ⟨bytes, passes, rfl, _⟩
      have rest := passes.rest_eq
      rw [nothing] at rest
      cases rest
  · rw [run]
    constructor
    · intro equal
      split at equal
      · next passed =>
        cases equal
        exact ⟨_, passes, rfl, passed⟩
      · cases equal
    · rintro ⟨bytes, again, rfl, passed⟩
      have rest := passes.rest_eq.symm.trans again.rest_eq
      have same : byte = value := (List.cons.inj rest).1
      subst same
      rw [if_pos passed, passes.last_eq again rfl]

theorem endOfInput_eq_success_iff {cur last : Cursor} {value : Unit} :
    endOfInput cur = .ok (.success value last) ↔ cur.rest = [] ∧ last = cur := by
  rw [endOfInput_eq]
  split
  · next nothing => simp [nothing, eq_comm]
  · next more => simp [more, Outcome.failureAt]

theorem recognises_anyByte : anyByte.Recognises fun byte bytes => bytes = [byte] :=
  (recognises_byteMatching _).congr fun _ _ => by simp

/-- Any two bytes are a word, and stand for its number. -/
theorem recognises_word :
    word.Recognises fun number bytes => ∃ value : UInt16, number = value.toNat ∧
      bytes = Word.bytes value := by
  refine (recognises_anyByte.bindWith fun _ => recognises_anyByte).congr fun number bytes => ?_
  constructor
  · rintro ⟨high, low, front, back, rfl, rfl, rfl, rfl⟩
    refine ⟨UInt16.ofNat (Word.ofBytes high low), (Word.toNat_ofNat_ofBytes high low).symm, ?_⟩
    rw [Word.bytes, Word.high_ofNat_ofBytes, Word.low_ofNat_ofBytes]
    rfl
  · rintro ⟨value, rfl, rfl⟩
    exact ⟨Word.high value, Word.low value, _, _, rfl, rfl, Word.ofBytes_high_low value, rfl⟩

theorem recognises_wordMatching (test : Nat → Bool) :
    (wordMatching test).Recognises fun number bytes => ∃ value : UInt16,
      number = value.toNat ∧ bytes = Word.bytes value ∧ test number = true := by
  intro cur number last
  have whole := recognises_word cur number last
  constructor
  · intro run
    rw [wordMatching] at run
    split at run
    · cases run
    · cases run
    · next value next read =>
      split at run
      · next passed =>
        cases run
        obtain ⟨bytes, passes, word, same, stored⟩ := whole.mp read
        exact ⟨bytes, passes, word, same, stored, passed⟩
      · cases run
  · rintro ⟨bytes, passes, word, same, stored, passed⟩
    have read := whole.mpr ⟨bytes, passes, word, same, stored⟩
    simp only [wordMatching, read, passed, if_true]

end Parser

end ByteGrammar
