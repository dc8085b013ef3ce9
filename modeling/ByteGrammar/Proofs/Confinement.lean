import ByteGrammar.Blueprint.Collection
import ByteGrammar.Parser.Probes
import ByteGrammar.Proofs.Composition
import Mathlib.Tactic.Choose

/-!
# Parsers that stay on their buffer

A parser is confined if all cursors in its outcomes stand on the buffer of the cursor it was given
(`Parser.Confined`). Unlike the parsers that are only composed, a confined one may go back.

Parsers made by hand work on the cursor directly. They look at it in any way, and then they step, jump
or fail on its buffer. Together with the combinators they make up the assembled parsers
(`Parser.Assembled`), which are exactly the confined ones (`Parser.assembled_iff_confined`): whatever
stays on its buffer can be made by hand, and no combinator leaves it.

Every blueprint describes an assembled parser, as long as its references do
(`Blueprint.assembles_build`). References into a collection are followed to a fixed depth, and by
induction on the depth all of them are to assembled parsers, in whatever way they refer to each other
(`Blueprint.assembles_references`).
-/

set_option autoImplicit false

namespace ByteGrammar

variable {α β γ : Type}

/-- All cursors of an outcome stand on a buffer. -/
def Outcome.StandsOn (buffer : Buffer) : Outcome α → Prop
  | .success _ last => last.buffer = buffer
  | .failure reported attempted => reported.buffer = buffer ∧ attempted.buffer = buffer

theorem Outcome.StandsOn.remainder {buffer : Buffer} {outcome : Outcome α}
    (stands : outcome.StandsOn buffer) : outcome.remainder.buffer = buffer := by
  cases outcome with
  | success value last => exact stands
  | failure reported attempted => exact stands.1

theorem Outcome.StandsOn.attemptedAt {buffer : Buffer} {outcome : Outcome α} {cur : Cursor}
    (stands : outcome.StandsOn buffer) (attempt : outcome.attemptedAt? = some cur) :
    cur.buffer = buffer := by
  cases outcome with
  | success value last => cases attempt
  | failure reported attempted =>
    cases attempt
    exact stands.2

/-- A cursor that is made on a buffer stands on it. -/
theorem Buffer.buffer_of_cursor {buffer : Buffer} {pos : Int} {cur : Cursor}
    (made : buffer.cursor pos = .ok cur) : cur.buffer = buffer := by
  rw [Buffer.cursor] at made
  split at made
  · cases made
    rfl
  · cases made

theorem Buffer.cursor_of_outside {buffer : Buffer} {pos : Int} (outside : pos < 0 ∨ buffer.size < pos) :
    buffer.cursor pos = .error (.outOfBounds pos buffer.size) := by
  rw [Buffer.cursor, dif_neg (by omega)]

theorem Cursor.advance_of_ended {cur : Cursor} (ended : cur.pos = cur.buffer.size) :
    cur.advance = .error (.advancePastEnd cur.pos) := by
  rw [Cursor.advance, dif_neg (by omega)]

theorem Cursor.buffer_of_advance {cur next : Cursor} (moved : cur.advance = .ok next) :
    next.buffer = cur.buffer := by
  rw [Cursor.advance] at moved
  split at moved
  · cases moved
    rfl
  · cases moved

namespace Parser

/-- All outcomes of a parser stand on the buffer of the cursor that it was given. -/
def Confined (parser : Parser α) : Prop :=
  ∀ cur outcome, parser cur = .ok outcome → outcome.StandsOn cur.buffer

/-- A parser that never goes back stays on its buffer. -/
theorem Advances.confined {parser : Parser α} {allowed : Fault → Prop} {holds : α → Prop}
    (advances : parser.Advances allowed holds) : parser.Confined := by
  intro cur outcome run
  have answer := advances cur
  rw [run] at answer
  cases outcome with
  | success value last => exact answer.2.1
  | failure reported attempted => exact ⟨answer.1.1, answer.2.1.trans answer.1.1⟩

namespace Confined

variable {parser : Parser α}

theorem of_success {cur last : Cursor} {value : α} (confined : parser.Confined)
    (run : parser cur = .ok (.success value last)) : last.buffer = cur.buffer :=
  confined cur _ run

theorem of_failure {cur reported attempted : Cursor} (confined : parser.Confined)
    (run : parser cur = .ok (.failure reported attempted)) :
    reported.buffer = cur.buffer ∧ attempted.buffer = cur.buffer :=
  confined cur _ run

/-! ## Combinators -/

theorem map (confined : parser.Confined) (f : α → β) : (parser.map f).Confined := by
  intro cur outcome run
  rw [Parser.map] at run
  rcases answer : parser cur with fault | ⟨value, last⟩ | ⟨reported, attempted⟩
  · rw [answer] at run
    cases run
  · rw [answer] at run
    cases run
    exact confined.of_success answer
  · rw [answer] at run
    cases run
    exact ⟨rfl, (confined.of_failure answer).2⟩

theorem view (confined : parser.Confined) (f : α → β) : (parser.view f).Confined := by
  intro cur outcome run
  rw [Parser.view] at run
  rcases answer : parser cur with fault | ⟨value, last⟩ | ⟨reported, attempted⟩
  · rw [answer] at run
    cases run
  · rw [answer] at run
    cases run
    exact confined.of_success answer
  · rw [answer] at run
    cases run
    exact confined.of_failure answer

/-- The second part of a sequence is given a cursor on the buffer of the first. -/
theorem bindMaking {next : α → Parser β} {make : α → β → Except Fault γ} (first : parser.Confined)
    (second : ∀ value, parser.Yields value → (next value).Confined) :
    (parser.bindMaking next make).Confined := by
  intro cur outcome run
  rw [Parser.bindMaking] at run
  rcases answer : parser cur with fault | ⟨value, middle⟩ | ⟨reported, attempted⟩
  · rw [answer] at run
    cases run
  · have here := first.of_success answer
    have there := second value ⟨cur, middle, answer⟩
    rcases following : next value middle with fault | ⟨other, last⟩ | ⟨reported, attempted⟩
    · simp only [answer, following] at run
      cases run
    · simp only [answer, following] at run
      cases made : make value other with
      | error fault =>
        rw [made] at run
        cases run
      | ok whole =>
        rw [made] at run
        cases run
        exact (there.of_success following).trans here
    · simp only [answer, following] at run
      cases run
      exact ⟨rfl, (there.of_failure following).2.trans here⟩
  · rw [answer] at run
    cases run
    exact ⟨rfl, (first.of_failure answer).2⟩

theorem firstOf {others : List (Parser α)} (first : parser.Confined)
    (rest : ∀ other ∈ others, other.Confined) : (Parser.firstOf parser others).Confined := by
  induction others generalizing parser with
  | nil => exact first
  | cons other others ih =>
    obtain ⟨here, there⟩ := List.forall_mem_cons.mp rest
    intro cur outcome run
    rcases answer : parser cur with fault | ⟨value, last⟩ | ⟨reported, attempted⟩
    · simp only [Parser.firstOf, answer] at run
      cases run
    · simp only [Parser.firstOf, answer] at run
      cases run
      exact first.of_success answer
    · simp only [Parser.firstOf, answer] at run
      exact ih here there cur outcome run

/-- Whatever the part does, only the cursor that was given is handed on. -/
theorem notFollowedBy (parser : Parser α) : parser.notFollowedBy.Confined := by
  intro cur outcome run
  rw [Parser.notFollowedBy] at run
  rcases answer : parser cur with fault | ⟨value, last⟩ | ⟨reported, attempted⟩
  · rw [answer] at run
    cases run
  · rw [answer] at run
    cases run
    exact ⟨rfl, rfl⟩
  · rw [answer] at run
    cases run
    rfl

/-- The loop hands on the cursor of its last round, which is reached from the first one. -/
theorem manyFrom (confined : parser.Confined) (fuel : Nat) (values : List α) :
    Parser.Confined (parser.manyFrom fuel values) := by
  intro cur outcome run
  fun_induction Parser.manyFrom parser fuel values cur with
  | case1 => cases run
  | case2 =>
    cases run
    rfl
  | case3 =>
    cases run
    rfl
  | case4 => cases run
  | case5 values cur value last answer _ fuel ih =>
    rw [← confined.of_success answer]
    exact ih run

theorem many (confined : parser.Confined) : parser.many.Confined :=
  fun cur => confined.manyFrom cur.buffer.size [] cur

theorem timesFrom (confined : parser.Confined) (count : Nat) (values : List α) :
    Parser.Confined (parser.timesFrom count values) := by
  intro cur outcome run
  fun_induction Parser.timesFrom parser count values cur with
  | case1 =>
    cases run
    rfl
  | case2 => cases run
  | case3 values cur count reported attempted answer =>
    cases run
    exact ⟨rfl, (confined.of_failure answer).2⟩
  | case4 values cur count value last answer ih =>
    rw [← confined.of_success answer]
    exact ih run

end Confined

/-! ## Parsers made by hand -/

theorem confined_peek : peek.Confined := by
  intro cur outcome run
  rw [peek] at run
  cases found : cur.current with
  | error fault =>
    rw [found] at run
    cases run
  | ok byte =>
    rw [found] at run
    cases run
    rfl

theorem confined_skip : skip.Confined := by
  intro cur outcome run
  rw [skip] at run
  cases moved : cur.advance with
  | error fault =>
    rw [moved] at run
    cases run
  | ok next =>
    rw [moved] at run
    cases run
    exact Cursor.buffer_of_advance moved

theorem confined_seek (pos : Int) : (seek pos).Confined := by
  intro cur outcome run
  rw [seek] at run
  cases made : cur.buffer.cursor pos with
  | error fault =>
    rw [made] at run
    cases run
  | ok next =>
    rw [made] at run
    cases run
    exact Buffer.buffer_of_cursor made

theorem confined_failWith (remainder attemptedAt : Int) :
    (failWith remainder attemptedAt : Parser α).Confined := by
  intro cur outcome run
  rw [failWith] at run
  cases made : cur.buffer.cursor remainder with
  | error fault =>
    rw [made] at run
    cases run
  | ok reported =>
    cases madeToo : cur.buffer.cursor attemptedAt with
    | error fault =>
      rw [made, madeToo] at run
      cases run
    | ok attempted =>
      rw [made, madeToo] at run
      cases run
      exact ⟨Buffer.buffer_of_cursor made, Buffer.buffer_of_cursor madeToo⟩

/-! ### Beyond the ends of a buffer -/

section Outside

variable {cur : Cursor} {pos other : Int}

theorem skip_of_ended (ended : cur.pos = cur.buffer.size) :
    skip cur = .error (.advancePastEnd cur.pos) := by
  rw [skip, Cursor.advance_of_ended ended]
  rfl

theorem seek_of_outside (outside : pos < 0 ∨ cur.buffer.size < pos) :
    seek pos cur = .error (.outOfBounds pos cur.buffer.size) := by
  rw [seek, Buffer.cursor_of_outside outside]
  rfl

theorem failWith_of_outside (outside : pos < 0 ∨ cur.buffer.size < pos) :
    (failWith pos other : Parser α) cur = .error (.outOfBounds pos cur.buffer.size) := by
  rw [failWith, Buffer.cursor_of_outside outside]

/-- The reported position is looked at first, so a fault there comes before one at the attempted
position. -/
theorem exists_failWith_of_outside (outside : pos < 0 ∨ cur.buffer.size < pos) :
    ∃ fault, (failWith other pos : Parser α) cur = .error fault := by
  rw [failWith]
  cases made : cur.buffer.cursor other with
  | error fault => exact ⟨fault, rfl⟩
  | ok reported =>
    refine ⟨.outOfBounds pos cur.buffer.size, ?_⟩
    rw [Buffer.cursor_of_outside outside]
    rfl

end Outside

/-! ## Assembled parsers -/

/-- Parsers that are put together by the combinators from the primitives and from parsers made by
hand. -/
inductive Assembled : {α : Type} → Parser α → Prop
  | byteMatching (test : UInt8 → Bool) : Assembled (byteMatching test)
  | wordMatching (test : Nat → Bool) : Assembled (wordMatching test)
  | succeed {α : Type} (value : α) : Assembled (succeed value)
  | fail {α : Type} : Assembled (fail : Parser α)
  | unbuildable {α : Type} (fault : Fault) : Assembled (deferred (.error fault) : Parser α)
  | peek : Assembled peek
  | skip : Assembled skip
  | seek (pos : Int) : Assembled (seek pos)
  | failWith {α : Type} (remainder attemptedAt : Int) :
      Assembled (failWith remainder attemptedAt : Parser α)
  /-- Look at the cursor in any way, and then do as a parser that was chosen by it. -/
  | choose {α : Type} {choice : Cursor → Parser α} (parts : ∀ cur, Assembled (choice cur)) :
      Assembled fun cur => choice cur cur
  | map {α β : Type} {part : Parser α} (assembled : Assembled part) (f : α → β) :
      Assembled (part.map f)
  | view {α β : Type} {part : Parser α} (assembled : Assembled part) (f : α → β) :
      Assembled (part.view f)
  | bindMaking {α β γ : Type} {first : Parser α} {next : α → Parser β}
      {make : α → β → Except Fault γ} (assembled : Assembled first)
      (follows : ∀ value, first.Yields value → Assembled (next value)) :
      Assembled (first.bindMaking next make)
  | firstOf {α : Type} {first : Parser α} {others : List (Parser α)} (assembled : Assembled first)
      (rest : ∀ other ∈ others, Assembled other) : Assembled (firstOf first others)
  | notFollowedBy {α : Type} {part : Parser α} (assembled : Assembled part) :
      Assembled part.notFollowedBy
  | many {α : Type} {part : Parser α} (assembled : Assembled part) : Assembled part.many
  | times {α : Type} {part : Parser α} {count : Int} {repeated : Parser (List α)}
      (assembled : Assembled part) (built : part.times count = .ok repeated) : Assembled repeated

/-- **An assembled parser stays on the buffer of the cursor that it was given.** -/
theorem Assembled.confined {parser : Parser α} (assembled : parser.Assembled) : parser.Confined := by
  induction assembled with
  | byteMatching test => exact ((forward_byteMatching test).advances fun _ => False).confined
  | wordMatching test => exact ((forward_wordMatching test).advances fun _ => False).confined
  | succeed value =>
    intro cur outcome run
    cases run
    rfl
  | fail =>
    intro cur outcome run
    cases run
    exact ⟨rfl, rfl⟩
  | unbuildable fault =>
    intro cur outcome run
    cases run
  | peek => exact confined_peek
  | skip => exact confined_skip
  | seek pos => exact confined_seek pos
  | failWith remainder attemptedAt => exact confined_failWith remainder attemptedAt
  | choose _ parts => exact fun cur => parts cur cur
  | map _ f part => exact part.map f
  | view _ f part => exact part.view f
  | bindMaking _ _ first second => exact first.bindMaking second
  | firstOf _ _ first rest => exact first.firstOf rest
  | @notFollowedBy _ part _ _ => exact .notFollowedBy part
  | many _ part => exact part.many
  | times _ built part =>
    rw [Parser.times] at built
    split at built
    · cases built
    · cases built
      exact part.timesFrom _ _

/-- A position of a cursor on a buffer is one that a cursor can be made at. -/
theorem cursor_pos_of_buffer_eq {buffer : Buffer} {cur : Cursor} (same : cur.buffer = buffer) :
    buffer.cursor cur.pos = .ok cur := by
  subst same
  have inside : 0 ≤ (cur.pos : Int) ∧ (cur.pos : Int) ≤ cur.buffer.size :=
    ⟨Int.natCast_nonneg _, Int.ofNat_le.mpr cur.pos_le_size⟩
  rw [Buffer.cursor, dif_pos inside]
  rfl

/-- What a confined parser answers at a cursor can be made by hand, by jumping to where it succeeds or
failing with the positions of its failure. -/
theorem Confined.assembled {parser : Parser α} (confined : parser.Confined) : parser.Assembled := by
  have parts : ∀ cur, ∃ part : Parser α, part.Assembled ∧ part cur = parser cur := by
    intro cur
    rcases answer : parser cur with fault | ⟨value, last⟩ | ⟨reported, attempted⟩
    · exact ⟨_, .unbuildable fault, rfl⟩
    · refine ⟨_, (Assembled.seek last.pos).view fun _ => value, ?_⟩
      rw [Parser.view, Parser.seek, cursor_pos_of_buffer_eq (confined.of_success answer)]
      rfl
    · obtain ⟨here, there⟩ := confined.of_failure answer
      refine ⟨_, .failWith reported.pos attempted.pos, ?_⟩
      rw [Parser.failWith, cursor_pos_of_buffer_eq here, cursor_pos_of_buffer_eq there]
      rfl
  choose choice assembled same using parts
  have whole : parser = fun cur => choice cur cur := funext fun cur => (same cur).symm
  rw [whole]
  exact .choose assembled

/-- **The assembled parsers are those that stay on their buffer.** -/
theorem assembled_iff_confined {parser : Parser α} : parser.Assembled ↔ parser.Confined :=
  ⟨Assembled.confined, Confined.assembled⟩

/-- Composed parsers are assembled without parsers made by hand. -/
theorem Composed.assembled {allowed : Fault → Prop} {parser : Parser α}
    (composed : parser.Composed allowed) : parser.Assembled :=
  composed.advances.confined.assembled

end Parser

/-! ## Blueprints -/

namespace Blueprint

open ByteGrammar.Parser

/-- What was built is assembled, if anything was built. -/
def Assembles (built : Except Fault (Parser α)) : Prop :=
  ∀ parser, built = .ok parser → parser.Assembled

theorem assembles_ok {parser : Parser α} (assembled : parser.Assembled) :
    Assembles (.ok parser) := by
  rintro _ ⟨⟩
  exact assembled

theorem assembles_error (fault : Fault) : Assembles (.error fault : Except Fault (Parser α)) :=
  nofun

theorem assembles_bind {first : Except Fault β} {next : β → Except Fault (Parser α)}
    (follows : ∀ value, first = .ok value → Assembles (next value)) : Assembles (first >>= next) := by
  cases first with
  | error fault => exact assembles_error fault
  | ok value => exact follows value rfl

/-- A part that cannot be built at last is a part all the same. -/
theorem Assembles.deferred {built : Except Fault (Parser α)} (assembles : Assembles built) :
    (deferred built).Assembled := by
  cases built with
  | error fault => exact .unbuildable fault
  | ok parser => exact assembles parser rfl

/-- All parsers that references stand for are assembled. -/
def References.AllAssembled (references : References) : Prop :=
  ∀ index, Assembles (references index)

/-- The parsers of the library show up in blueprints under a view of their values. -/
theorem assembles_view {part : Parser α} (composed : part.Composed fun _ => False) (f : α → Value) :
    Assembles (.ok (part.view f)) :=
  assembles_ok (.view composed.assembled f)

mutual
/-- **A blueprint describes an assembled parser.** The environment is arbitrary, since the second part of
a sequence is built for every value that comes to stand in front of it. -/
theorem assembles_build : (blueprint : Blueprint) → ∀ {now later : References} (env : Environment),
    now.AllAssembled → later.AllAssembled → Assembles (blueprint.build now later env)
  | .anyByte => fun _ _ _ => assembles_view .anyByte _
  | .word => fun _ _ _ => assembles_view .word _
  | .endOfInput => fun _ _ _ => assembles_view .endOfInput _
  | .byteEqualTo _ => fun _ _ _ => assembles_bind fun _ built => assembles_view (.byteEqualTo built) _
  | .wordEqualTo _ => fun _ _ _ => assembles_bind fun _ built => assembles_view (.wordEqualTo built) _
  | .byteMatching _ => fun _ _ _ => assembles_view (.byteMatching _) _
  | .wordMatching _ => fun _ _ _ => assembles_view (.wordMatching _) _
  | .succeed value => fun _ _ _ => assembles_ok (.succeed value)
  | .fail => fun _ _ _ => assembles_ok .fail
  | .map part _ => fun env before behind => by
    refine assembles_bind fun parser built => assembles_ok (.map ?_ _)
    exact assembles_build part env before behind parser built
  | .bind part next _ => fun env before behind => by
    refine assembles_bind fun parser built => assembles_ok (.bindMaking ?_ fun value _ => ?_)
    · exact assembles_build part env before behind parser built
    · exact (assembles_build next (value :: env) behind behind).deferred
  | .firstOf branch others => fun env before behind => by
    refine assembles_bind fun parser built => assembles_bind fun parsers builtToo => ?_
    refine assembles_ok (.firstOf ?_ ?_)
    · exact assembles_build branch env before behind parser built
    · exact assembled_of_buildAll others env before behind parsers builtToo
  | .notFollowedBy part => fun env before behind => by
    refine assembles_bind fun parser built => assembles_ok (.view (.notFollowedBy ?_) _)
    exact assembles_build part env before behind parser built
  | .many part => fun env before behind => by
    refine assembles_bind fun parser built => assembles_ok (.view (.many ?_) _)
    exact assembles_build part env before behind parser built
  | .times part _ => fun env before behind => by
    refine assembles_bind fun parser built => assembles_bind fun _ repeated => ?_
    refine assembles_ok (.view (.times ?_ repeated) _)
    exact assembles_build part env before behind parser built
  | .startMarker _ => fun _ _ _ => assembles_bind fun _ built => assembles_view (.startMarker built) _
  | .generic _ => fun _ _ _ => assembles_view (.generic _) _
  | .terminal _ => fun _ _ _ => assembles_bind fun _ built => assembles_view (.terminal built) _
  | .document _ => fun _ _ _ =>
    assembles_bind fun _ _ => assembles_bind fun _ built => assembles_view (.document built) _
  | .reference index => fun _ before _ => before index
  | .peek => fun _ _ _ => assembles_ok (.view .peek _)
  | .skip => fun _ _ _ => assembles_ok (.view .skip _)
  | .seek _ => fun _ _ _ => assembles_ok (.view (.seek _) _)
  | .failWith _ _ => fun _ _ _ => assembles_ok (.failWith _ _)
termination_by structural blueprint => blueprint

theorem assembled_of_buildAll : (blueprints : List Blueprint) →
    ∀ {now later : References} (env : Environment), now.AllAssembled → later.AllAssembled →
      ∀ parsers, buildAll now later env blueprints = .ok parsers →
        ∀ parser ∈ parsers, parser.Assembled
  | [] => fun _ _ _ parsers built => by
    cases built
    exact nofun
  | blueprint :: blueprints => fun env before behind parsers built => by
    rw [buildAll] at built
    cases first : blueprint.build _ _ env with
    | error fault =>
      rw [first] at built
      cases built
    | ok parser =>
      cases rest : buildAll _ _ env blueprints with
      | error fault =>
        rw [first, rest] at built
        cases built
      | ok others =>
        rw [first, rest] at built
        cases built
        exact List.forall_mem_cons.mpr ⟨assembles_build blueprint env before behind parser first,
          assembled_of_buildAll blueprints env before behind others rest⟩
termination_by structural blueprints => blueprints
end

/-- **Whatever the parsers of a collection refer to, all of them are assembled.** -/
theorem assembles_parserAmong (blueprints : List Blueprint) (depth count : Nat) :
    References.AllAssembled (parserAmong blueprints depth count) := by
  induction depth generalizing count with
  | zero => exact fun _ => assembles_error .tooDeep
  | succ depth ih =>
    intro index
    rw [parserAmong]
    split
    · exact assembles_error .nothingBuilt
    · split
      · exact assembles_error .nothingBuilt
      · exact assembles_build _ [] (ih _) (ih _)

theorem assembles_references (blueprints : List Blueprint) :
    (references blueprints).AllAssembled :=
  assembles_parserAmong blueprints maxDepth blueprints.length

end Blueprint

end ByteGrammar
