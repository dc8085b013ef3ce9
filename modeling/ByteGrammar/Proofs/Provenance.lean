import ByteGrammar.Proofs.Confinement
import ByteGrammar.Session
import Mathlib.Data.Finset.Dedup
import Mathlib.Data.Finset.Card
import Mathlib.Data.List.Forall2

/-!
# Where the cursors of a session come from

A session makes buffers and hands cursors on: from one cursor to the next, through parsers into
outcomes, from outcomes into other outcomes, and out of them again. Which step made the buffer that a
cursor descends from can be told without looking at any buffer, only from the indices that the steps
name (`Session.Lineage.extend`).

The session itself knows nothing of this. It hands out labels to buffers, in order. That both agree is
an invariant (`Session.Traced`): the label of a buffer counts the makings before it, so labels and
origins determine each other, and the step of the origin has the bytes of the buffer. It is carried from
step to step (`Session.Traced.onward`) and so through any number of them (`Session.Traced.run`). What
makes it work is that parsers are confined: what comes out of a run stands on the buffer that went in.
-/

set_option autoImplicit false

namespace ByteGrammar

/-! ## Answers one after the other -/

section Sequence

variable {ε α β : Type} {first : Except ε α} {next : α → Except ε β}

/-- What comes before a result that was reached has a result itself. -/
theorem exists_of_bind_eq_ok {result : β} (run : (first >>= next) = .ok result) :
    ∃ value, first = .ok value ∧ next value = .ok result := by
  cases first with
  | error error => cases run
  | ok value => exact ⟨value, rfl, run⟩

theorem bind_of_eq_ok {value : α} (run : first = .ok value) : (first >>= next) = next value := by
  subst run
  rfl

theorem bind_of_eq_error {error : ε} (run : first = .error error) :
    (first >>= next) = .error error := by
  subst run
  rfl

end Sequence

namespace Session

/-! ## Lineages -/

/-- The numbers of the steps that made the buffers which the cursors of a session stand on, one for each
cursor, and one for each of the two cursors that an outcome can have. -/
structure Lineage where
  cursors : List Nat := []
  outcomes : List (Nat × Nat) := []

namespace Lineage

def cursor? (lineage : Lineage) (index : Int) : Option Nat :=
  Index.item? lineage.cursors index

def remainder? (lineage : Lineage) (index : Int) : Option Nat :=
  (Index.item? lineage.outcomes index).map Prod.fst

def attemptedAt? (lineage : Lineage) (index : Int) : Option Nat :=
  (Index.item? lineage.outcomes index).map Prod.snd

def addCursor (lineage : Lineage) (origin : Option Nat) : Lineage :=
  { lineage with cursors := lineage.cursors ++ origin.toList }

def addOutcome (lineage : Lineage) (reported attempted : Option Nat) : Lineage :=
  { lineage with outcomes := lineage.outcomes ++
      (reported.bind fun first => attempted.map fun second => (first, second)).toList }

/-- The lineage after a step with a number that was not refused. Only making a buffer gives rise to a new
origin. Everything else takes its origins from the cursors and outcomes that the step names. -/
def extend (lineage : Lineage) (number : Nat) : Step → Lineage
  | .over _ | .place _ _ => lineage.addCursor (some number)
  | .placeOn cursor _ | .advance cursor => lineage.addCursor (lineage.cursor? cursor)
  | .remainder outcome => lineage.addCursor (lineage.remainder? outcome)
  | .attemptedAt outcome => lineage.addCursor (lineage.attemptedAt? outcome)
  | .run _ cursor | .apply _ cursor | .success _ cursor | .failureAt cursor =>
    lineage.addOutcome (lineage.cursor? cursor) (lineage.cursor? cursor)
  | .failure remainder attemptedAt =>
    lineage.addOutcome (lineage.cursor? remainder) (lineage.cursor? attemptedAt)
  | .reanchor outcome cursor =>
    lineage.addOutcome (lineage.cursor? cursor) (lineage.attemptedAt? outcome)
  | _ => lineage

/-- The lineage after some steps, the first of which has a number. Refused steps are numbered too, but
they leave the lineage as it was. -/
def after (lineage : Lineage) (session : Session) (number : Nat) : List Step → Lineage
  | [] => lineage
  | step :: rest =>
    match session.perform step with
    | .ok (next, _) => (lineage.extend number step).after next (number + 1) rest
    | .error _ => lineage.after session (number + 1) rest

end Lineage

/-- A session holds a cursor, directly or inside an outcome. -/
inductive Holds (session : Session) (lineage : Lineage) : Cursor → Nat → Prop
  | cursor {index origin : Nat} {cur : Cursor} (held : session.cursors[index]? = some cur)
      (since : lineage.cursors[index]? = some origin) : Holds session lineage cur origin
  | remainder {index : Nat} {outcome : Outcome Value} {origins : Nat × Nat}
      (held : session.outcomes[index]? = some outcome)
      (since : lineage.outcomes[index]? = some origins) :
      Holds session lineage outcome.remainder origins.1
  | attemptedAt {index : Nat} {outcome : Outcome Value} {origins : Nat × Nat} {cur : Cursor}
      (held : session.outcomes[index]? = some outcome)
      (since : lineage.outcomes[index]? = some origins)
      (attempt : outcome.attemptedAt? = some cur) : Holds session lineage cur origins.2

/-- A step makes a buffer with some bytes. -/
inductive Step.Makes : Step → List UInt8 → Prop
  | over (bytes : List UInt8) : Makes (.over bytes) bytes
  | place (bytes : List UInt8) (pos : Int) : Makes (.place bytes pos) bytes

/-! ## The invariant -/

variable {done : List Step} {makings : List Nat} {session : Session} {lineage : Lineage}
  {step : Step}

/-- A buffer was made by the step with a number. The step has its bytes, and its label tells how many
buffers were made before. -/
structure MadeBy (done : List Step) (makings : List Nat) (buffer : Buffer) (origin : Nat) : Prop where
  label : makings[buffer.label]? = some origin
  bytes : ∃ step, done[origin]? = some step ∧ step.Makes buffer.toList

/-- The buffers of both cursors of an outcome were made by the steps with two numbers. -/
structure BothMadeBy (done : List Step) (makings : List Nat) (outcome : Outcome Value)
    (origins : Nat × Nat) : Prop where
  remainder : MadeBy done makings outcome.remainder.buffer origins.1
  attemptedAt : ∀ cur, outcome.attemptedAt? = some cur → MadeBy done makings cur.buffer origins.2

/-- After some steps a lineage tells of all cursors of a session where they come from. The makings are
the numbers of the steps that made a buffer. -/
structure Traced (done : List Step) (makings : List Nat) (session : Session) (lineage : Lineage) :
    Prop where
  labels : makings.length = session.nextLabel
  earlier : ∀ origin ∈ makings, origin < done.length
  nodup : makings.Nodup
  cursors : List.Forall₂ (fun cur origin => MadeBy done makings cur.buffer origin)
    session.cursors.toList lineage.cursors
  outcomes : List.Forall₂ (BothMadeBy done makings) session.outcomes.toList lineage.outcomes

theorem getElem?_append_of_eq_some {α : Type} {items : List α} {index : Nat} {item : α}
    (found : items[index]? = some item) (more : List α) : (items ++ more)[index]? = some item := by
  obtain ⟨inside, rfl⟩ := List.getElem?_eq_some_iff.mp found
  rw [List.getElem?_append_left inside, List.getElem?_eq_getElem inside]

theorem MadeBy.append {buffer : Buffer} {origin : Nat} (made : MadeBy done makings buffer origin)
    (more : List Step) (others : List Nat) :
    MadeBy (done ++ more) (makings ++ others) buffer origin := by
  obtain ⟨step, found, makes⟩ := made.bytes
  exact ⟨getElem?_append_of_eq_some made.label others, step,
    getElem?_append_of_eq_some found more, makes⟩

theorem BothMadeBy.append {outcome : Outcome Value} {origins : Nat × Nat}
    (made : BothMadeBy done makings outcome origins) (more : List Step) (others : List Nat) :
    BothMadeBy (done ++ more) (makings ++ others) outcome origins :=
  ⟨made.remainder.append more others,
    fun cur attempt => (made.attemptedAt cur attempt).append more others⟩

/-! ### Looking up what is named -/

theorem exists_of_forall₂ {α β : Type} {related : α → β → Prop} {items : List α} {others : List β}
    (all : List.Forall₂ related items others) {index : Nat} {item : α}
    (found : items[index]? = some item) : ∃ other, others[index]? = some other ∧ related item other := by
  induction all generalizing index with
  | nil => cases found
  | cons here _ ih =>
    cases index with
    | zero =>
      cases found
      exact ⟨_, rfl, here⟩
    | succ index => exact ih found

theorem exists_item_of_forall₂ {α β : Type} {related : α → β → Prop} {items : Array α}
    {others : List β} (all : List.Forall₂ related items.toList others) {index : Int} {item : α}
    (found : item? items index = .ok item) :
    ∃ other, Index.item? others index = some other ∧ related item other := by
  have named : Index.item? items.toList index = some item := by
    rw [item?] at found
    split at found
    · cases found
      assumption
    · cases found
  obtain ⟨place, inside, here⟩ := Option.bind_eq_some_iff.mp named
  obtain ⟨other, there, relation⟩ := exists_of_forall₂ all here
  refine ⟨other, ?_, relation⟩
  rw [Index.item?, ← all.length_eq, inside]
  exact there

namespace Traced

variable {cur : Cursor} {outcome : Outcome Value} {index : Int}

theorem cursor? (traced : Traced done makings session lineage)
    (found : session.cursor? index = .ok cur) :
    ∃ origin, lineage.cursor? index = some origin ∧ MadeBy done makings cur.buffer origin :=
  exists_item_of_forall₂ traced.cursors found

theorem remainder? (traced : Traced done makings session lineage)
    (found : session.outcome? index = .ok outcome) :
    ∃ origin, lineage.remainder? index = some origin ∧
      MadeBy done makings outcome.remainder.buffer origin := by
  obtain ⟨origins, named, made⟩ := exists_item_of_forall₂ traced.outcomes found
  exact ⟨origins.1, by rw [Lineage.remainder?, named]; rfl, made.remainder⟩

theorem attemptedAt? (traced : Traced done makings session lineage)
    (found : session.outcome? index = .ok outcome) (attempt : outcome.attemptedAt? = some cur) :
    ∃ origin, lineage.attemptedAt? index = some origin ∧ MadeBy done makings cur.buffer origin := by
  obtain ⟨origins, named, made⟩ := exists_item_of_forall₂ traced.outcomes found
  exact ⟨origins.2, by rw [Lineage.attemptedAt?, named]; rfl, made.attemptedAt cur attempt⟩

/-! ### What steps preserve -/

/-- A step that adds no cursor and no outcome, or is refused. -/
theorem idle (traced : Traced done makings session lineage) (step : Step) :
    Traced (done ++ [step]) makings session lineage where
  labels := traced.labels
  earlier := by
    intro origin member
    have := traced.earlier origin member
    rw [List.length_append]
    omega
  nodup := traced.nodup
  cursors := traced.cursors.imp fun _ _ made => by simpa using made.append [step] []
  outcomes := traced.outcomes.imp fun _ _ made => by simpa using made.append [step] []

theorem addCursor {origin : Nat} (traced : Traced done makings session lineage) (step : Step)
    (made : MadeBy done makings cur.buffer origin) :
    Traced (done ++ [step]) makings (session.addCursor cur).1 (lineage.addCursor (some origin)) := by
  have idle := traced.idle step
  refine ⟨idle.labels, idle.earlier, idle.nodup, ?_, idle.outcomes⟩
  rw [Session.addCursor, Array.toList_push]
  exact List.rel_append idle.cursors (.cons (by simpa using made.append [step] []) .nil)

theorem addOutcome {reported attempted : Nat} (traced : Traced done makings session lineage)
    (step : Step) (made : MadeBy done makings outcome.remainder.buffer reported)
    (madeToo : ∀ cur, outcome.attemptedAt? = some cur → MadeBy done makings cur.buffer attempted) :
    Traced (done ++ [step]) makings (session.addOutcome outcome).1
      (lineage.addOutcome (some reported) (some attempted)) := by
  have idle := traced.idle step
  have both : BothMadeBy done makings outcome (reported, attempted) := ⟨made, madeToo⟩
  refine ⟨idle.labels, idle.earlier, idle.nodup, idle.cursors, ?_⟩
  rw [Session.addOutcome, Array.toList_push]
  exact List.rel_append idle.outcomes (.cons (by simpa using both.append [step] []) .nil)

/-- A cursor on the buffer of another one has its origin. -/
theorem addMoved {added : Cursor} (traced : Traced done makings session lineage) (step : Step)
    (found : session.cursor? index = .ok cur) (sameBuffer : added.buffer = cur.buffer) :
    Traced (done ++ [step]) makings (session.addCursor added).1
      (lineage.addCursor (lineage.cursor? index)) := by
  obtain ⟨origin, named, made⟩ := traced.cursor? found
  rw [named]
  rw [← sameBuffer] at made
  exact traced.addCursor step made

/-- A failure may put together cursors of two origins. -/
theorem addFailure {reported attempted : Cursor} {origin source : Nat}
    (traced : Traced done makings session lineage) (step : Step)
    (made : MadeBy done makings reported.buffer origin)
    (madeToo : MadeBy done makings attempted.buffer source) :
    Traced (done ++ [step]) makings (session.addOutcome (.failure reported attempted)).1
      (lineage.addOutcome (some origin) (some source)) := by
  refine traced.addOutcome step made ?_
  rintro _ ⟨⟩
  exact madeToo

/-- A new buffer has a label and an origin that nothing else has. -/
theorem make {bytes : List UInt8} (traced : Traced done makings session lineage)
    (makes : step.Makes bytes) (fresh : cur.buffer = .ofList bytes session.nextLabel) :
    Traced (done ++ [step]) (makings ++ [done.length])
      ((session.newBuffer bytes).1.addCursor cur).1 (lineage.addCursor (some done.length)) := by
  have made : MadeBy (done ++ [step]) (makings ++ [done.length]) cur.buffer done.length := by
    refine ⟨?_, step, List.getElem?_concat_length, ?_⟩
    · rw [fresh, Buffer.ofList, ← traced.labels]
      exact List.getElem?_concat_length
    · rwa [fresh, Buffer.toList_ofList]
  refine ⟨?_, ?_, ?_, ?_, ?_⟩
  · rw [List.length_append, traced.labels]
    rfl
  · intro origin member
    rw [List.length_append, List.length_singleton]
    rcases List.mem_append.mp member with old | new
    · have := traced.earlier origin old
      omega
    · have := List.mem_singleton.mp new
      omega
  · refine traced.nodup.append (List.nodup_singleton _) ?_
    intro origin old new
    have := traced.earlier origin old
    have := List.mem_singleton.mp new
    omega
  · rw [Session.addCursor, Array.toList_push]
    exact List.rel_append (traced.cursors.imp fun _ _ made => made.append _ _) (.cons made .nil)
  · exact traced.outcomes.imp fun _ _ made => made.append _ _

end Traced

/-! ### One step -/

theorem eq_ok_of_orFault {α : Type} {answer : Except Fault α} {value : α}
    (run : orFault answer = .ok value) : answer = .ok value := by
  cases answer with
  | error fault => cases run
  | ok other =>
    cases run
    rfl

/-- The parsers of blueprints stay on the buffer that they are given. -/
theorem confined_of_references {index : Int} {parser : Parser Value}
    (found : session.references index = .ok parser) : parser.Confined :=
  (Blueprint.assembles_references session.blueprints.toList index parser found).confined

/-- The outcome of a run has the origin of the cursor that the parser was given. -/
theorem Traced.addRun {parser : Parser Value} {index : Int} {cur : Cursor} {outcome : Outcome Value}
    (traced : Traced done makings session lineage) (step : Step) (confined : parser.Confined)
    (found : session.cursor? index = .ok cur) (run : parser cur = .ok outcome) :
    Traced (done ++ [step]) makings (session.addOutcome outcome).1
      (lineage.addOutcome (lineage.cursor? index) (lineage.cursor? index)) := by
  obtain ⟨origin, named, made⟩ := traced.cursor? found
  have stands := confined cur outcome run
  rw [named]
  refine traced.addOutcome step ?_ fun attempted attempt => ?_
  · rwa [stands.remainder]
  · rwa [stands.attemptedAt attempt]

/-- **A step that is not refused keeps track of where cursors come from.** -/
theorem Traced.onward {next : Session} {answer : Answer}
    (traced : Traced done makings session lineage)
    (assembled : ∀ parser cursor, step = .apply parser cursor → parser.Assembled)
    (performed : session.perform step = .ok (next, answer)) :
    ∃ numbers, Traced (done ++ [step]) numbers next (lineage.extend done.length step) := by
  -- Steps that only answer come last: what they looked up does not matter to what is held.
  have idle := traced.idle step
  cases step with
  | «over» bytes =>
    cases performed
    exact ⟨_, traced.make (.over bytes) rfl⟩
  | place bytes pos =>
    obtain ⟨cur, made, ended⟩ := exists_of_bind_eq_ok performed
    cases ended
    exact ⟨_, traced.make (.place bytes pos) (Buffer.buffer_of_cursor (eq_ok_of_orFault made))⟩
  | placeOn index pos =>
    obtain ⟨cur, found, rest⟩ := exists_of_bind_eq_ok performed
    obtain ⟨added, made, ended⟩ := exists_of_bind_eq_ok rest
    cases ended
    exact ⟨_, traced.addMoved _ found (Buffer.buffer_of_cursor (eq_ok_of_orFault made))⟩
  | advance index =>
    obtain ⟨cur, found, rest⟩ := exists_of_bind_eq_ok performed
    obtain ⟨added, moved, ended⟩ := exists_of_bind_eq_ok rest
    cases ended
    exact ⟨_, traced.addMoved _ found (Cursor.buffer_of_advance (eq_ok_of_orFault moved))⟩
  | remainder index =>
    obtain ⟨outcome, found, ended⟩ := exists_of_bind_eq_ok performed
    cases ended
    obtain ⟨origin, named, madeBy⟩ := traced.remainder? found
    rw [Lineage.extend, named]
    exact ⟨_, traced.addCursor _ madeBy⟩
  | attemptedAt index =>
    obtain ⟨outcome, found, rest⟩ := exists_of_bind_eq_ok performed
    cases attempt : outcome.attemptedAt? with
    | none =>
      simp only [attempt] at rest
      cases rest
    | some cur =>
      simp only [attempt] at rest
      cases rest
      obtain ⟨origin, named, madeBy⟩ := traced.attemptedAt? found attempt
      rw [Lineage.extend, named]
      exact ⟨_, traced.addCursor _ madeBy⟩
  | run parser index =>
    obtain ⟨part, known, rest⟩ := exists_of_bind_eq_ok performed
    obtain ⟨cur, found, last⟩ := exists_of_bind_eq_ok rest
    obtain ⟨outcome, run, ended⟩ := exists_of_bind_eq_ok last
    cases ended
    have confined := confined_of_references (eq_ok_of_orFault known)
    exact ⟨_, traced.addRun _ confined found (eq_ok_of_orFault run)⟩
  | apply parser index =>
    obtain ⟨cur, found, rest⟩ := exists_of_bind_eq_ok performed
    obtain ⟨outcome, run, ended⟩ := exists_of_bind_eq_ok rest
    cases ended
    exact ⟨_, traced.addRun _ (assembled parser index rfl).confined found (eq_ok_of_orFault run)⟩
  | success value index =>
    obtain ⟨cur, found, ended⟩ := exists_of_bind_eq_ok performed
    cases ended
    exact ⟨_, traced.addRun _ (Parser.Assembled.succeed value).confined found rfl⟩
  | failureAt index =>
    obtain ⟨cur, found, ended⟩ := exists_of_bind_eq_ok performed
    cases ended
    exact ⟨_, traced.addRun _ Parser.Assembled.fail.confined found rfl⟩
  | failure remainder attemptedAt =>
    obtain ⟨reported, found, rest⟩ := exists_of_bind_eq_ok performed
    obtain ⟨attempted, foundToo, ended⟩ := exists_of_bind_eq_ok rest
    cases ended
    obtain ⟨origin, named, madeBy⟩ := traced.cursor? found
    obtain ⟨originToo, namedToo, madeByToo⟩ := traced.cursor? foundToo
    rw [Lineage.extend, named, namedToo]
    exact ⟨_, traced.addFailure _ madeBy madeByToo⟩
  | reanchor index cursor =>
    obtain ⟨outcome, known, rest⟩ := exists_of_bind_eq_ok performed
    cases outcome with
    | success value last => cases rest
    | failure reported attempted =>
      obtain ⟨cur, found, ended⟩ := exists_of_bind_eq_ok rest
      cases ended
      obtain ⟨origin, named, madeBy⟩ := traced.cursor? found
      obtain ⟨originToo, namedToo, madeByToo⟩ := traced.attemptedAt? known rfl
      rw [Lineage.extend, named, namedToo]
      exact ⟨_, traced.addFailure _ madeBy madeByToo⟩
  | build blueprint =>
    obtain ⟨parser, built, ended⟩ := exists_of_bind_eq_ok performed
    cases ended
    exact ⟨_, idle.labels, idle.earlier, idle.nodup, idle.cursors, idle.outcomes⟩
  | current index =>
    obtain ⟨cur, found, rest⟩ := exists_of_bind_eq_ok performed
    obtain ⟨byte, read, ended⟩ := exists_of_bind_eq_ok rest
    cases ended
    exact ⟨_, idle⟩
  | cursorsEqual first second =>
    obtain ⟨cur, found, rest⟩ := exists_of_bind_eq_ok performed
    obtain ⟨other, foundToo, ended⟩ := exists_of_bind_eq_ok rest
    cases ended
    exact ⟨_, idle⟩
  | outcomesEqual first second =>
    obtain ⟨outcome, found, rest⟩ := exists_of_bind_eq_ok performed
    obtain ⟨other, foundToo, ended⟩ := exists_of_bind_eq_ok rest
    cases ended
    exact ⟨_, idle⟩
  | cursorText index =>
    obtain ⟨cur, found, ended⟩ := exists_of_bind_eq_ok performed
    cases ended
    exact ⟨_, idle⟩
  | cursorEqualsValue index =>
    obtain ⟨cur, found, ended⟩ := exists_of_bind_eq_ok performed
    cases ended
    exact ⟨_, idle⟩
  | distinctCursors indices =>
    obtain ⟨cursors, found, ended⟩ := exists_of_bind_eq_ok performed
    cases ended
    exact ⟨_, idle⟩
  | distinctOutcomes indices =>
    obtain ⟨outcomes, found, ended⟩ := exists_of_bind_eq_ok performed
    cases ended
    exact ⟨_, idle⟩
  | outcomeText index =>
    obtain ⟨outcome, found, ended⟩ := exists_of_bind_eq_ok performed
    cases ended
    exact ⟨_, idle⟩
  | setCursorField index name =>
    obtain ⟨cur, found, ended⟩ := exists_of_bind_eq_ok performed
    cases ended
  | deleteCursorField index name =>
    obtain ⟨cur, found, ended⟩ := exists_of_bind_eq_ok performed
    cases ended
  | setOutcomeField index name =>
    obtain ⟨outcome, found, ended⟩ := exists_of_bind_eq_ok performed
    cases ended

/-! ### All steps -/

/-- **The origins of cursors are kept track of through any number of steps.** -/
theorem Traced.run (steps : List Step) (traced : Traced done makings session lineage)
    (assembled : ∀ parser cursor, .apply parser cursor ∈ steps → parser.Assembled) :
    ∃ numbers, Traced (done ++ steps) numbers (session.runSteps steps).1
      (lineage.after session done.length steps) := by
  induction steps generalizing done makings session lineage with
  | nil =>
    rw [List.append_nil]
    exact ⟨makings, traced⟩
  | cons step rest ih =>
    have later : ∀ parser cursor, .apply parser cursor ∈ rest → parser.Assembled :=
      fun parser cursor member => assembled parser cursor (List.mem_cons_of_mem _ member)
    have ran : (session.runSteps (step :: rest)).1 = ((session.step step).1.runSteps rest).1 := rfl
    rw [ran, Session.step, Lineage.after, List.append_cons]
    cases performed : session.perform step with
    | error refusal =>
      have := ih (traced.idle step) later
      rwa [List.length_append] at this
    | ok result =>
      obtain ⟨next, answer⟩ := result
      obtain ⟨numbers, onward⟩ := traced.onward
        (fun parser cursor same => assembled parser cursor (same ▸ List.mem_cons_self)) performed
      have := ih onward later
      rwa [List.length_append] at this

/-- The session after some steps from the start. -/
def reached (steps : List Step) : Session :=
  (runSteps {} steps).1

/-- Where the cursors come from that are held after some steps from the start. -/
def Lineage.of (steps : List Step) : Lineage :=
  Lineage.after {} {} 0 steps

theorem exists_traced {steps : List Step}
    (assembled : ∀ parser cursor, .apply parser cursor ∈ steps → parser.Assembled) :
    ∃ makings, Traced steps makings (reached steps) (.of steps) := by
  have start : Traced [] [] {} {} := ⟨rfl, nofun, .nil, .nil, .nil⟩
  exact start.run steps assembled

/-! ## Cursors and their origins -/

/-- A cursor that a session holds, directly or inside an outcome. -/
def Keeps (session : Session) (cur : Cursor) : Prop :=
  cur ∈ session.cursors ∨
    ∃ outcome ∈ session.outcomes, cur = outcome.remainder ∨ outcome.attemptedAt? = some cur

namespace Traced

variable {cur other : Cursor} {origin source : Nat}

/-- Every cursor that is held has an origin. -/
theorem exists_holds (traced : Traced done makings session lineage) (keeps : session.Keeps cur) :
    ∃ origin, session.Holds lineage cur origin := by
  rcases keeps with direct | ⟨outcome, inside, part⟩
  · obtain ⟨index, found⟩ := Array.mem_iff_getElem?.mp direct
    rw [← Array.getElem?_toList] at found
    obtain ⟨origin, since, _⟩ := exists_of_forall₂ traced.cursors found
    rw [Array.getElem?_toList] at found
    exact ⟨origin, .cursor found since⟩
  · obtain ⟨index, found⟩ := Array.mem_iff_getElem?.mp inside
    rw [← Array.getElem?_toList] at found
    obtain ⟨origins, since, _⟩ := exists_of_forall₂ traced.outcomes found
    rw [Array.getElem?_toList] at found
    rcases part with rfl | attempt
    · exact ⟨origins.1, .remainder found since⟩
    · exact ⟨origins.2, .attemptedAt found since attempt⟩

theorem madeBy (traced : Traced done makings session lineage)
    (holds : session.Holds lineage cur origin) : MadeBy done makings cur.buffer origin := by
  have both : ∀ {index : Nat} {outcome : Outcome Value} {origins : Nat × Nat},
      session.outcomes[index]? = some outcome → lineage.outcomes[index]? = some origins →
        BothMadeBy done makings outcome origins := by
    intro index outcome origins held since
    rw [← Array.getElem?_toList] at held
    obtain ⟨others, found, made⟩ := exists_of_forall₂ traced.outcomes held
    rw [since] at found
    cases found
    exact made
  cases holds with
  | cursor held since =>
    rw [← Array.getElem?_toList] at held
    obtain ⟨source, found, made⟩ := exists_of_forall₂ traced.cursors held
    rw [since] at found
    cases found
    exact made
  | remainder held since => exact (both held since).remainder
  | attemptedAt held since attempt => exact (both held since).attemptedAt cur attempt

/-- **Cursors are equal exactly if they have the same origin and the same position.** -/
theorem beq_iff (traced : Traced done makings session lineage)
    (holds : session.Holds lineage cur origin) (holdsToo : session.Holds lineage other source) :
    (cur == other) = true ↔ origin = source ∧ cur.pos = other.pos := by
  have label := (traced.madeBy holds).label
  have labelToo := (traced.madeBy holdsToo).label
  have inside := (List.getElem?_eq_some_iff.mp label).1
  rw [Cursor.beq_eq_true_iff, ← List.getElem?_inj inside traced.nodup, label, labelToo,
    Option.some.injEq]

end Traced

/-! ## Different cursors -/

/-- Dropping duplicates leaves as many items as there are keys, if items are equal where keys are. -/
theorem length_eraseDups_map {ι α κ : Type} [BEq α] [DecidableEq κ] (f : ι → α) (key : ι → κ)
    (items : List ι)
    (same : ∀ first ∈ items, ∀ second ∈ items,
      (f first == f second) = true ↔ key first = key second) :
    (items.map f).eraseDups.length = (items.map key).toFinset.card := by
  match items with
  | [] => rfl
  | item :: items =>
    have kept : ∀ other ∈ items, (f other == f item) = true ↔ key other = key item :=
      fun other member => same other (List.mem_cons_of_mem _ member) item List.mem_cons_self
    have others := length_eraseDups_map f key (items.filter fun other => !(f other == f item))
      fun first member second memberToo =>
        same first (List.mem_cons_of_mem _ (List.mem_of_mem_filter member)) second
          (List.mem_cons_of_mem _ (List.mem_of_mem_filter memberToo))
    have keys : ((items.filter fun other => !(f other == f item)).map key).toFinset =
        (items.map key).toFinset.erase (key item) := by
      ext number
      simp only [List.mem_toFinset, List.mem_map, List.mem_filter, Finset.mem_erase]
      constructor
      · rintro ⟨other, ⟨member, differs⟩, rfl⟩
        refine ⟨fun equal => ?_, other, member, rfl⟩
        rw [(kept other member).mpr equal] at differs
        cases differs
      · rintro ⟨differs, other, member, rfl⟩
        refine ⟨other, ⟨member, ?_⟩, rfl⟩
        rw [Bool.not_eq_true', Bool.eq_false_iff]
        exact fun equal => differs ((kept other member).mp equal)
    rw [List.map_cons, List.eraseDups_cons, List.length_cons, List.filter_map]
    change ((items.filter fun other => !(f other == f item)).map f).eraseDups.length + 1 = _
    rw [others, keys, List.map_cons, List.toFinset_cons, ← Finset.erase_insert_eq_erase,
      Finset.card_erase_add_one (Finset.mem_insert_self _ _)]
termination_by items.length
decreasing_by
  have := List.length_filter_le (fun other => !(f other == f item)) items
  simp only [List.length_cons]
  omega

/-- Equality of cursors is an equivalence. -/
theorem beq_equivalence : Equivalence fun cur other : Cursor => (cur == other) = true where
  refl cur := (Cursor.beq_eq_true_iff _ _).mpr ⟨rfl, rfl⟩
  symm same := by
    rw [Cursor.beq_eq_true_iff] at same ⊢
    exact ⟨same.1.symm, same.2.symm⟩
  trans same further := by
    rw [Cursor.beq_eq_true_iff] at same further ⊢
    exact ⟨same.1.trans further.1, same.2.trans further.2⟩

/-- Equal cursors have equal hashes. -/
theorem hash_eq_of_beq {cur other : Cursor} (same : (cur == other) = true) : hash cur = hash other := by
  obtain ⟨labels, positions⟩ := (Cursor.beq_eq_true_iff _ _).mp same
  change mixHash (hash cur.buffer.label) (hash cur.pos) =
    mixHash (hash other.buffer.label) (hash other.pos)
  rw [labels, positions]

/-! ## Leaving a buffer -/

/-- A step would put a cursor outside of a buffer, or its parser would, or meets another fault. -/
inductive Oversteps (session : Session) : Step → Fault → Prop
  | place {bytes : List UInt8} {pos : Int} (outside : pos < 0 ∨ bytes.length < pos) :
      Oversteps session (.place bytes pos) (.outOfBounds pos bytes.length)
  | placeOn {index pos : Int} {cur : Cursor} (found : session.cursor? index = .ok cur)
      (outside : pos < 0 ∨ cur.buffer.size < pos) :
      Oversteps session (.placeOn index pos) (.outOfBounds pos cur.buffer.size)
  | advance {index : Int} {cur : Cursor} (found : session.cursor? index = .ok cur)
      (ended : cur.pos = cur.buffer.size) :
      Oversteps session (.advance index) (.advancePastEnd cur.pos)
  | run {parser index : Int} {part : Parser Value} {cur : Cursor} {fault : Fault}
      (known : session.references parser = .ok part) (found : session.cursor? index = .ok cur)
      (met : part cur = .error fault) : Oversteps session (.run parser index) fault
  | apply {parser : Parser Value} {index : Int} {cur : Cursor} {fault : Fault}
      (found : session.cursor? index = .ok cur) (met : parser cur = .error fault) :
      Oversteps session (.apply parser index) fault

/-- **A step that would leave a buffer is refused and adds nothing.** -/
theorem Oversteps.step_eq {fault : Fault} (oversteps : session.Oversteps step fault) :
    session.step step = (session, .refused (.fault fault)) := by
  have refused : session.perform step = .error (.fault fault) := by
    cases oversteps with
    | @place bytes pos outside =>
      rw [← Buffer.size_ofList bytes session.nextLabel] at outside ⊢
      exact bind_of_eq_error (congrArg orFault (Buffer.cursor_of_outside outside))
    | placeOn found outside =>
      refine (bind_of_eq_ok found).trans ?_
      exact bind_of_eq_error (congrArg orFault (Buffer.cursor_of_outside outside))
    | advance found ended =>
      refine (bind_of_eq_ok found).trans ?_
      exact bind_of_eq_error (congrArg orFault (Cursor.advance_of_ended ended))
    | run known found met =>
      refine (bind_of_eq_ok (congrArg orFault known)).trans ((bind_of_eq_ok found).trans ?_)
      exact bind_of_eq_error (congrArg orFault met)
    | apply found met =>
      refine (bind_of_eq_ok found).trans ?_
      exact bind_of_eq_error (congrArg orFault met)
  rw [Session.step, refused]

/-! ## Runs -/

/-- A step runs a parser at the cursor of an index. -/
inductive Step.RunsAt : Step → Int → Prop
  | run (parser index : Int) : RunsAt (.run parser index) index
  | apply (parser : Parser Value) (index : Int) : RunsAt (.apply parser index) index

/-- **The outcome of a run stands on the buffer of the cursor that its parser was given.** -/
theorem standsOn_of_runsAt {index : Int} {cur : Cursor} {number : Nat} {outcome : Outcome Value}
    (runs : step.RunsAt index)
    (assembled : ∀ parser cursor, step = .apply parser cursor → parser.Assembled)
    (found : session.cursor? index = .ok cur)
    (ran : (session.step step).2 = .outcome number outcome) : outcome.StandsOn cur.buffer := by
  rw [Session.step] at ran
  cases performed : session.perform step with
  | error refusal =>
    rw [performed] at ran
    cases ran
  | ok result =>
    rw [performed] at ran
    cases runs with
    | run parser =>
      obtain ⟨part, known, rest⟩ := exists_of_bind_eq_ok performed
      obtain ⟨other, foundToo, last⟩ := exists_of_bind_eq_ok rest
      obtain ⟨answer, run, ended⟩ := exists_of_bind_eq_ok last
      cases found.symm.trans foundToo
      cases ended
      cases ran
      exact confined_of_references (eq_ok_of_orFault known) _ _ (eq_ok_of_orFault run)
    | apply parser =>
      obtain ⟨other, foundToo, rest⟩ := exists_of_bind_eq_ok performed
      obtain ⟨answer, run, ended⟩ := exists_of_bind_eq_ok rest
      cases found.symm.trans foundToo
      cases ended
      cases ran
      exact (assembled parser index rfl).confined _ _ (eq_ok_of_orFault run)

/-! ## All cursors of all sessions -/

/-- **Every cursor of a session is in bounds and belongs to the buffer it came from.** Steps make
buffers, move cursors, run parsers that are blueprints or assembled in any other way, and put outcomes
together from cursors and from other outcomes, in any order. Every cursor that is held in the end,
directly or inside an outcome, has an origin: the step that made the buffer which it descends from. It
stands within the bytes of that step. A step that would leave a buffer is refused and changes nothing. A
parser made by hand that jumps, moves or fails beyond its buffer meets a fault, and so its run is
refused. The outcome of a run stands on the buffer that the run was given. Two cursors are equal exactly
if they have the same origin and the same position, whatever the bytes are. This is an equivalence that
hashes respect, and so a collection has as many different cursors as it has pairs of an origin and a
position. -/
theorem cursors_belong_to_their_origins {steps : List Step}
    (assembled : ∀ parser cursor, .apply parser cursor ∈ steps → parser.Assembled) :
    (∀ cur, (reached steps).Keeps cur → ∃ origin, (reached steps).Holds (.of steps) cur origin) ∧
    (∀ cur origin, (reached steps).Holds (.of steps) cur origin →
      ∃ step, steps[origin]? = some step ∧ step.Makes cur.buffer.toList ∧
        cur.pos ≤ cur.buffer.toList.length) ∧
    (∀ step fault, (reached steps).Oversteps step fault →
      (reached steps).step step = (reached steps, .refused (.fault fault))) ∧
    (∀ (cur : Cursor) (pos other : Int), pos < 0 ∨ cur.buffer.size < pos →
      Parser.seek pos cur = .error (.outOfBounds pos cur.buffer.size) ∧
      (Parser.failWith pos other : Parser Value) cur = .error (.outOfBounds pos cur.buffer.size) ∧
      ∃ fault, (Parser.failWith other pos : Parser Value) cur = .error fault) ∧
    (∀ cur : Cursor, cur.pos = cur.buffer.size → Parser.skip cur = .error (.advancePastEnd cur.pos)) ∧
    (∀ step index cur number outcome, step.RunsAt index →
      (∀ parser cursor, step = .apply parser cursor → parser.Assembled) →
      (reached steps).cursor? index = .ok cur →
      ((reached steps).step step).2 = .outcome number outcome → outcome.StandsOn cur.buffer) ∧
    (∀ cur origin other source, (reached steps).Holds (.of steps) cur origin →
      (reached steps).Holds (.of steps) other source →
        ((cur == other) = true ↔ origin = source ∧ cur.pos = other.pos)) ∧
    (Equivalence fun cur other : Cursor => (cur == other) = true) ∧
    (∀ cur other : Cursor, (cur == other) = true → hash cur = hash other) ∧
    ∀ held : List (Cursor × Nat),
      (∀ pair ∈ held, (reached steps).Holds (.of steps) pair.1 pair.2) →
        distinct (held.map Prod.fst) = (held.map fun pair => (pair.2, pair.1.pos)).toFinset.card := by
  obtain ⟨makings, traced⟩ := exists_traced assembled
  refine ⟨fun cur => traced.exists_holds, fun cur origin holds => ?_, fun step fault => Oversteps.step_eq,
    fun cur pos other outside => ⟨Parser.seek_of_outside outside, Parser.failWith_of_outside outside,
      Parser.exists_failWith_of_outside outside⟩, fun cur => Parser.skip_of_ended,
    fun step index cur number outcome => standsOn_of_runsAt,
    fun cur origin other source => traced.beq_iff, beq_equivalence, fun cur other => hash_eq_of_beq,
    fun held holds => ?_⟩
  · obtain ⟨step, found, makes⟩ := (traced.madeBy holds).bytes
    refine ⟨step, found, makes, ?_⟩
    rw [Buffer.length_toList]
    exact cur.pos_le_size
  · refine length_eraseDups_map Prod.fst _ held fun first member second memberToo => ?_
    rw [traced.beq_iff (holds first member) (holds second memberToo), Prod.mk.injEq]

namespace Sample

/-- Two buffers with the same bytes, a step that is refused, a jump on the second buffer, and a failure
with one cursor on each of them, of which the second is taken out again. -/
def steps : List Step :=
  [.over [1, 2], .over [1, 2], .advance 0, .place [1] 5,
    .apply ((Parser.seek 2).view Blueprint.ofUnit) 1, .failure 2 1, .reanchor 1 0, .attemptedAt 2]

/-- The cursor before the first byte of one of the two buffers. -/
def front (label : Nat) : Cursor :=
  ⟨.ofList [1, 2] label, 0, Nat.zero_le _⟩

theorem assembled_steps : ∀ parser cursor, .apply parser cursor ∈ steps → parser.Assembled := by
  intro parser cursor member
  simp only [steps, List.mem_cons, Step.apply.injEq, reduceCtorEq, List.not_mem_nil, or_false,
    false_or] at member
  rw [member.1]
  exact .view (.seek 2) _

/-- The cursor that was taken out of the failure descends from the second buffer. It is equal to the
first cursor there and differs from the one at the same position of the first buffer, although the bytes
of the two buffers are the same. -/
theorem attemptedAt_descends_from_second_buffer :
    (reached steps).outcomes[2]? = some (.failure (front 0) (front 1)) ∧
      (reached steps).cursors[3]? = some (front 1) ∧
      (front 0).buffer.toList = (front 1).buffer.toList ∧ ¬ (front 1 == front 0) = true ∧
      distinct [front 0, front 1, front 1] = 2 := by
  obtain ⟨_, _, _, _, _, _, equal, _, _, count⟩ := cursors_belong_to_their_origins assembled_steps
  have first : (reached steps).Holds (.of steps) (front 0) 0 :=
    .cursor (show (reached steps).cursors[0]? = _ from rfl) rfl
  have last : (reached steps).Holds (.of steps) (front 1) 1 :=
    .cursor (show (reached steps).cursors[3]? = _ from rfl) rfl
  refine ⟨rfl, rfl, rfl, ?_, ?_⟩
  · rw [equal _ _ _ _ last first]
    decide
  · refine (count [(front 0, 0), (front 1, 1), (front 1, 1)] ?_).trans (by decide)
    simp only [List.mem_cons, List.not_mem_nil, or_false]
    rintro _ (rfl | rfl | rfl)
    · exact first
    · exact last
    · exact last

end Sample

end Session

end ByteGrammar
