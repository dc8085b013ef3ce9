import ByteGrammar.Blueprint.Collection

/-!
# Sessions

A session keeps every cursor, every outcome and the blueprint of every parser it was
given, in three growing lists, and refers to them by their index. A parser that is run
may refer to all parsers of the session, whether they are older than itself or not.
Parsers that are no blueprints can be run as well, and are not kept. Each buffer that a
session makes has a label of its own, so cursors that come from different makings are
different even where the bytes agree.

A step that meets an error answers with it and leaves the lists as they are. Cursors and
outcomes never change once they are made; a step that tries to change one is refused.
-/

set_option autoImplicit false

namespace ByteGrammar

/-- Everything a session holds, and the label of the next buffer. -/
structure Session where
  cursors : Array Cursor := #[]
  outcomes : Array (Outcome Value) := #[]
  blueprints : Array Blueprint := #[]
  nextLabel : Nat := 0

namespace Session

/-- One step of a session. Indices refer to the lists of the session. -/
inductive Step
  /-- Make a buffer and put a cursor before its first byte. -/
  | over (bytes : List UInt8)
  /-- Make a buffer and put a cursor at a position of it. -/
  | place (bytes : List UInt8) (pos : Int)
  /-- Put a cursor at a position of the buffer of another cursor. -/
  | placeOn (cursor pos : Int)
  | advance (cursor : Int)
  | remainder (outcome : Int)
  | attemptedAt (outcome : Int)
  | current (cursor : Int)
  | cursorText (cursor : Int)
  | cursorsEqual (first second : Int)
  /-- Compare a cursor with something that is no cursor. -/
  | cursorEqualsValue (cursor : Int)
  | distinctCursors (cursors : List Int)
  | setCursorField (cursor : Int) (name : String)
  | deleteCursorField (cursor : Int) (name : String)
  | build (blueprint : Blueprint)
  | run (parser cursor : Int)
  /-- Run a parser that is no blueprint of the session. -/
  | apply (parser : Parser Value) (cursor : Int)
  | success (value : Value) (cursor : Int)
  | failure (remainder attemptedAt : Int)
  | failureAt (cursor : Int)
  | reanchor (outcome cursor : Int)
  | outcomesEqual (first second : Int)
  | distinctOutcomes (outcomes : List Int)
  | outcomeText (outcome : Int)
  | setOutcomeField (outcome : Int) (name : String)

/-- Why a step was refused. -/
inductive Refusal
  | fault (fault : Fault)
  | cursorSet (name : String)
  | cursorDelete (name : String)
  | outcomeSet (name : String)
  /-- A success was asked for something that only a failure has. -/
  | onlyOfFailures (name : String)
  /-- An index refers to nothing. -/
  | nothingThere

/-- The text of a refusal. -/
def Refusal.message : Refusal → String
  | .fault cause => cause.message
  | .cursorSet name => "Cursor is immutable; cannot set " ++ Quoted.quote name
  | .cursorDelete name => "Cursor is immutable; cannot delete " ++ Quoted.quote name
  | .outcomeSet name => "cannot assign to field " ++ Quoted.quote name
  | .onlyOfFailures name => "'Success' object has no attribute " ++ Quoted.quote name
  | .nothingThere => "list index out of range"

/-- The answer to a step. -/
inductive Answer
  /-- A cursor was added at an index. -/
  | cursor (index : Nat) (cursor : Cursor)
  /-- An outcome was added at an index. -/
  | outcome (index : Nat) (outcome : Outcome Value)
  /-- A parser was added at an index. -/
  | parser (index : Nat)
  | number (value : Nat)
  | truth (value : Bool)
  | text (value : String)
  | refused (refusal : Refusal)

/-! ## Parts of steps -/

/-- The item at an index of a list of the session. -/
def item? {α : Type} (items : Array α) (index : Int) : Except Refusal α :=
  match Index.item? items.toList index with
  | some item => .ok item
  | none => .error .nothingThere

/-- The cursor at an index. -/
def cursor? (session : Session) (index : Int) : Except Refusal Cursor :=
  item? session.cursors index

/-- The outcome at an index. -/
def outcome? (session : Session) (index : Int) : Except Refusal (Outcome Value) :=
  item? session.outcomes index

/-- The meaning of references to the parsers of a session. -/
def references (session : Session) : Blueprint.References :=
  Blueprint.references session.blueprints.toList

/-- Add a cursor. -/
def addCursor (session : Session) (cursor : Cursor) : Session × Answer :=
  ({ session with cursors := session.cursors.push cursor },
    .cursor session.cursors.size cursor)

/-- Add an outcome. -/
def addOutcome (session : Session) (outcome : Outcome Value) : Session × Answer :=
  ({ session with outcomes := session.outcomes.push outcome },
    .outcome session.outcomes.size outcome)

/-- Add the blueprint of a parser. -/
def addBlueprint (session : Session) (blueprint : Blueprint) : Session × Answer :=
  ({ session with blueprints := session.blueprints.push blueprint },
    .parser session.blueprints.size)

/-- A new buffer under the next label. -/
def newBuffer (session : Session) (bytes : List UInt8) : Session × Buffer :=
  ({ session with nextLabel := session.nextLabel + 1 }, Buffer.ofList bytes session.nextLabel)

/-- A fault as the reason of a refusal. -/
def orFault {α : Type} : Except Fault α → Except Refusal α
  | .ok value => .ok value
  | .error fault => .error (.fault fault)

/-- The number of different items in a list. -/
def distinct {α : Type} [BEq α] (items : List α) : Nat :=
  items.eraseDups.length

/-- The text of an outcome: its fields by name. -/
def outcomeText : Outcome Value → String
  | .success value remainder =>
    "Success(value=" ++ value.render ++ ", remainder=" ++ remainder.render ++ ")"
  | .failure remainder attemptedAt =>
    "Failure(remainder=" ++ remainder.render ++ ", attempted_at=" ++ attemptedAt.render ++ ")"

/-! ## Steps -/

/-- The session after a step and the answer to it, or why the step is refused. -/
def perform (session : Session) : Step → Except Refusal (Session × Answer)
  | .over bytes =>
    let (session, buffer) := session.newBuffer bytes
    return session.addCursor buffer.start
  | .place bytes pos => do
    let (session, buffer) := session.newBuffer bytes
    return session.addCursor (← orFault (buffer.cursor pos))
  | .placeOn index pos => do
    return session.addCursor (← orFault ((← session.cursor? index).buffer.cursor pos))
  | .advance index => do
    return session.addCursor (← orFault (← session.cursor? index).advance)
  | .remainder index => do
    return session.addCursor (← session.outcome? index).remainder
  | .attemptedAt index => do
    match (← session.outcome? index).attemptedAt? with
    | some cursor => return session.addCursor cursor
    | none => throw (.onlyOfFailures "attempted_at")
  | .current index => do
    return (session, .number (← orFault (← session.cursor? index).current).toNat)
  | .cursorText index => do
    return (session, .text (← session.cursor? index).render)
  | .cursorsEqual first second => do
    return (session, .truth ((← session.cursor? first) == (← session.cursor? second)))
  | .cursorEqualsValue index => do
    let _ ← session.cursor? index
    return (session, .truth false)
  | .distinctCursors indices => do
    return (session, .number (distinct (← indices.mapM session.cursor?)))
  | .setCursorField index name => do
    let _ ← session.cursor? index
    throw (.cursorSet name)
  | .deleteCursorField index name => do
    let _ ← session.cursor? index
    throw (.cursorDelete name)
  | .build blueprint => do
    let _ ← orFault (blueprint.build session.references session.references [])
    return session.addBlueprint blueprint
  | .run parser index => do
    let parser ← orFault (session.references parser)
    return session.addOutcome (← orFault (parser (← session.cursor? index)))
  | .apply parser index => do
    return session.addOutcome (← orFault (parser (← session.cursor? index)))
  | .success value index => do
    return session.addOutcome (.success value (← session.cursor? index))
  | .failure remainder attemptedAt => do
    return session.addOutcome
      (.failure (← session.cursor? remainder) (← session.cursor? attemptedAt))
  | .failureAt index => do
    return session.addOutcome (.failureAt (← session.cursor? index))
  | .reanchor outcome index => do
    match ← session.outcome? outcome with
    | .failure remainder attemptedAt =>
      let reported ← session.cursor? index
      return session.addOutcome ((Outcome.failure remainder attemptedAt).reanchor reported)
    | .success .. => throw (.onlyOfFailures "reanchor")
  | .outcomesEqual first second => do
    return (session, .truth ((← session.outcome? first) == (← session.outcome? second)))
  | .distinctOutcomes indices => do
    return (session, .number (distinct (← indices.mapM session.outcome?)))
  | .outcomeText index => do
    return (session, .text (outcomeText (← session.outcome? index)))
  | .setOutcomeField index name => do
    let _ ← session.outcome? index
    throw (.outcomeSet name)

/-- The session after a step and the answer to it. A refused step leaves the session as it
was. -/
def step (session : Session) (step : Step) : Session × Answer :=
  match session.perform step with
  | .ok result => result
  | .error refusal => (session, .refused refusal)

/-- The session after some steps, and their answers in order. -/
def runSteps (session : Session) : List Step → Session × List Answer
  | [] => (session, [])
  | first :: rest =>
    let (next, answer) := session.step first
    let (last, answers) := next.runSteps rest
    (last, answer :: answers)

end Session

end ByteGrammar
