import ByteGrammar.CommandLine.Run
import ByteGrammar.Proofs.FileChange
import ByteGrammar.Proofs.Reading

/-!
# What answering a request comes to

A request meets one of three things on a file tree (`Request.course`). The grammar may reject the data
of its input (`Request.Rejects`). A path may lead nowhere or not be a path at all, that of the input at
first and that of the output after the data was read (`Request.Meets`). Otherwise a document was read
and, if an output is wanted, written (`Request.Leaves`). One lemma for each of them tells the whole
answer, and how little of it depends on being verbose (`Request.answerOn_of_rejects`,
`Request.answerOn_of_meets`, `Request.answerOn_of_leaves`). What is said of all runs follows from these
four by cases.

A request that was accepted may still have an output without a text, and a path may hold a null
character. Such a path is no file error, and such a run breaks off without an exit code
(`Request.lostOutput_has_no_report`). What it has shown until then can be told all the same
(`Request.displayOn`), so that all runs can be compared in what they show.
-/

set_option autoImplicit false

namespace ByteGrammar

/-! ## What the answer shows -/

/-- The text that a command prints of a document. -/
def Command.printed (document : Document) : Command → String
  | .info _ json _ => if json then document.toJson ++ "\n" else document.summary
  | .toJson _ _ _ | .plot _ => ""

/-- The chart that a command draws of a document. -/
def Command.drawn (document : Document) : Command → List Chart.Call
  | .plot _ => document.chart
  | .info _ _ _ | .toJson _ _ _ => []

/-- The bytes of the JSON text of a document. -/
def Document.jsonBytes (document : Document) : List UInt8 :=
  document.toJson.toUTF8.toList

/-! ## Access to a tree -/

namespace FileTree

theorem run_read (tree : FileTree) (path : String) :
    (access.read path).run tree = pure (tree.load path, tree) := rfl

theorem run_write (tree : FileTree) (path text : String) :
    (access.write path text).run tree =
      match tree.save path text.toUTF8.toList with
      | .error error => pure (.error error, tree)
      | .ok after => pure (.ok (), after) := by
  rw [access]
  simp only [StateT.run_bind, StateT.run_get, pure_bind]
  cases tree.save path text.toUTF8.toList <;> rfl

end FileTree

namespace Request

variable {request : Request} {tree after : FileTree} {document : Document}

/-- The input can be read, and its data as a document. -/
def Accepts (request : Request) (tree : FileTree) (document : Document) : Prop :=
  ∃ bytes, tree.load (Path.normalize request.command.input) = .ok bytes ∧
    Document.read request.format bytes = .ok document

/-- The input can be read, but the grammar rejects its data. -/
def Rejects (request : Request) (tree : FileTree) : Prop :=
  ∃ bytes remainder attemptedAt, tree.load (Path.normalize request.command.input) = .ok bytes ∧
    Document.read request.format bytes = .error (.rejected remainder attemptedAt)

/-- The errors met on the way: at the input, or at the output once a document was read. -/
inductive Meets (request : Request) (tree : FileTree) : AccessError → Prop
  | reading {error : AccessError}
      (failed : tree.load (Path.normalize request.command.input) = .error error) :
      Meets request tree error
  | noOutput {document : Document} {input : String} {requireEnd : Bool}
      (accepts : request.Accepts tree document)
      (command : request.command = .toJson input none requireEnd) :
      Meets request tree (.path .noText)
  | writing {error : AccessError} {document : Document} {input output : String} {requireEnd : Bool}
      (accepts : request.Accepts tree document)
      (command : request.command = .toJson input (some output) requireEnd)
      (failed : tree.save output document.jsonBytes = .error error) : Meets request tree error

/-- The trees that a document which was read leaves behind. -/
inductive Leaves (request : Request) (tree : FileTree) (document : Document) : FileTree → Prop
  | same (command : ∀ input output requireEnd, request.command ≠ .toJson input output requireEnd) :
      Leaves request tree document tree
  | written {after : FileTree} {input output : String} {requireEnd : Bool}
      (command : request.command = .toJson input (some output) requireEnd)
      (saved : tree.save output document.jsonBytes = .ok after) : Leaves request tree document after

/-- The run has a report with an exit code. -/
def Exits (request : Request) (tree : FileTree) (code : Nat) : Prop :=
  ∃ report, (request.answerOn tree).1 = .ok report ∧ report.exitCode = code

/-- The run breaks off because of a fault of a path. -/
def BreaksOff (request : Request) (tree : FileTree) (fault : PathFault) : Prop :=
  ∃ breakdown, (request.answerOn tree).1 = .error breakdown ∧ breakdown.fault = fault

/-- What a run shows, however it ends. -/
def displayOn (tree : FileTree) (request : Request) : Display :=
  match (request.answerOn tree).1 with
  | .ok report => report.toDisplay
  | .error breakdown => breakdown.toDisplay

/-! ## The three courses of a run -/

/-- Every run takes one of three courses. -/
theorem course (request : Request) (tree : FileTree) :
    request.Rejects tree ∨ (∃ error, request.Meets tree error) ∨
      ∃ document after, request.Accepts tree document ∧ request.Leaves tree document after := by
  cases loaded : tree.load (Path.normalize request.command.input) with
  | error error => exact .inr (.inl ⟨error, .reading loaded⟩)
  | ok bytes =>
    cases result : Document.read request.format bytes with
    | error error =>
      cases error with
      | rejected remainder attemptedAt => exact .inl ⟨bytes, remainder, attemptedAt, loaded, result⟩
      | fault fault =>
        -- Reading has no fault of its own, although its type has room for one.
        rcases Document.read_cases request.format bytes with ⟨document, run⟩ | ⟨attemptedAt, run, _⟩
        · rw [result] at run
          cases run
        · rw [result] at run
          cases run
    | ok document =>
      have accepts : request.Accepts tree document := ⟨bytes, loaded, result⟩
      refine .inr ?_
      cases command : request.command with
      | info input json requireEnd =>
        exact .inr ⟨document, tree, accepts, .same fun _ _ _ => by rw [command]; exact nofun⟩
      | plot input =>
        exact .inr ⟨document, tree, accepts, .same fun _ _ _ => by rw [command]; exact nofun⟩
      | toJson input output requireEnd =>
        cases output with
        | none => exact .inl ⟨_, .noOutput accepts command⟩
        | some output =>
          cases saved : tree.save output document.jsonBytes with
          | error error => exact .inl ⟨error, .writing accepts command saved⟩
          | ok after => exact .inr ⟨document, after, accepts, .written command saved⟩

/-- A rejected run tells that, and leaves the tree as it was. -/
theorem answerOn_of_rejects (rejects : request.Rejects tree) :
    ∃ notes, ∀ verbose, answerOn tree { request with verbose } =
      (.ok { exitCode := 1, stderr := Note.shown verbose notes ++ "parse failed\n" }, tree) := by
  obtain ⟨bytes, remainder, attemptedAt, loaded, result⟩ := rejects
  refine ⟨notesOn (Path.normalize request.command.input) bytes
    (.error (.rejected remainder attemptedAt)), fun verbose => ?_⟩
  have format : Request.format { request with verbose } = request.format := rfl
  simp only [answerOn, answer, StateT.run_bind, FileTree.run_read, pure_bind, loaded, format, result]
  rfl

/-- Once a document was read, what is left to do is to carry out the command. -/
theorem answerOn_of_accepts (accepts : request.Accepts tree document) :
    ∃ notes, ∀ verbose, answerOn tree { request with verbose } =
      (carryOut FileTree.access { request with verbose } notes document).run tree := by
  obtain ⟨bytes, loaded, result⟩ := accepts
  refine ⟨notesOn (Path.normalize request.command.input) bytes (.ok document), fun verbose => ?_⟩
  have format : Request.format { request with verbose } = request.format := rfl
  simp only [answerOn, answer, StateT.run_bind, FileTree.run_read, pure_bind, loaded, format, result]

/-- A run that meets an error tells of it if it is a file error and breaks off if it is none, and leaves
the tree as it was. -/
theorem answerOn_of_meets {error : AccessError} (meets : request.Meets tree error) :
    ∃ notes, ∀ verbose, answerOn tree { request with verbose } =
      (Report.ofAccessError (Note.shown verbose notes) error, tree) := by
  cases meets with
  | reading failed =>
    refine ⟨[], fun verbose => ?_⟩
    have silent : Note.shown verbose [] = "" := by cases verbose <;> rfl
    simp only [answerOn, answer, StateT.run_bind, FileTree.run_read, pure_bind, failed, silent]
    rfl
  | noOutput accepts command =>
    obtain ⟨notes, run⟩ := answerOn_of_accepts accepts
    refine ⟨notes, fun verbose => ?_⟩
    rw [run, carryOut, command]
    rfl
  | writing accepts command failed =>
    obtain ⟨notes, run⟩ := answerOn_of_accepts accepts
    refine ⟨notes, fun verbose => ?_⟩
    rw [Document.jsonBytes] at failed
    rw [run, carryOut, command]
    simp only [StateT.run_bind, FileTree.run_write, failed, pure_bind]
    rfl

/-- A run that goes through shows what its command prints and draws, and leaves the tree changed at most
by its output. -/
theorem answerOn_of_leaves (accepts : request.Accepts tree document)
    (leaves : request.Leaves tree document after) :
    ∃ notes, ∀ verbose, answerOn tree { request with verbose } =
      (.ok { stdout := request.command.printed document, stderr := Note.shown verbose notes
             chart := request.command.drawn document }, after) := by
  obtain ⟨notes, run⟩ := answerOn_of_accepts accepts
  cases leaves with
  | same others =>
    refine ⟨notes, fun verbose => ?_⟩
    rw [run, carryOut]
    cases command : request.command with
    | info input json requireEnd => rfl
    | plot input => rfl
    | toJson input output requireEnd => exact absurd command (others input output requireEnd)
  | @written _ _ output _ command saved =>
    refine ⟨notes ++ [.wrote document.segments.length output], fun verbose => ?_⟩
    rw [Document.jsonBytes] at saved
    rw [run, carryOut, command]
    simp only [StateT.run_bind, FileTree.run_write, saved, pure_bind]
    rfl

/-! ## Exit codes -/

theorem exits_of_rejects (rejects : request.Rejects tree) : request.Exits tree 1 := by
  obtain ⟨notes, run⟩ := answerOn_of_rejects rejects
  exact ⟨_, congrArg Prod.fst (run request.verbose), rfl⟩

theorem exits_of_meets_file {error : FileError} (meets : request.Meets tree (.file error)) :
    request.Exits tree 2 := by
  obtain ⟨notes, run⟩ := answerOn_of_meets meets
  exact ⟨_, congrArg Prod.fst (run request.verbose), rfl⟩

theorem breaksOff_of_meets_path {fault : PathFault} (meets : request.Meets tree (.path fault)) :
    request.BreaksOff tree fault := by
  obtain ⟨notes, run⟩ := answerOn_of_meets meets
  exact ⟨_, congrArg Prod.fst (run request.verbose), rfl⟩

theorem exits_of_leaves (accepts : request.Accepts tree document)
    (leaves : request.Leaves tree document after) : request.Exits tree 0 := by
  obtain ⟨notes, run⟩ := answerOn_of_leaves accepts leaves
  exact ⟨_, congrArg Prod.fst (run request.verbose), rfl⟩

theorem Exits.unique {code other : Nat} (exits : request.Exits tree code)
    (exitsToo : request.Exits tree other) : code = other := by
  obtain ⟨report, answer, rfl⟩ := exits
  obtain ⟨again, answerToo, rfl⟩ := exitsToo
  rw [answer] at answerToo
  cases answerToo
  rfl

theorem Exits.not_breaksOff {code : Nat} (exits : request.Exits tree code) (fault : PathFault) :
    ¬ request.BreaksOff tree fault := by
  intro breaks
  obtain ⟨report, answer, _⟩ := exits
  obtain ⟨breakdown, answerToo, _⟩ := breaks
  rw [answer] at answerToo
  cases answerToo

theorem BreaksOff.unique {fault other : PathFault} (breaks : request.BreaksOff tree fault)
    (breaksToo : request.BreaksOff tree other) : fault = other := by
  obtain ⟨breakdown, answer, rfl⟩ := breaks
  obtain ⟨again, answerToo, rfl⟩ := breaksToo
  rw [answer] at answerToo
  cases answerToo
  rfl

/-- The four ends of a run, each with what it comes from. -/
theorem ends (request : Request) (tree : FileTree) :
    (request.Rejects tree ∧ request.Exits tree 1) ∨
      (∃ error, request.Meets tree (.file error) ∧ request.Exits tree 2) ∨
      (∃ fault, request.Meets tree (.path fault) ∧ request.BreaksOff tree fault) ∨
      ∃ document after, request.Accepts tree document ∧ request.Leaves tree document after ∧
        request.Exits tree 0 := by
  rcases request.course tree with rejects | ⟨error | fault, meets⟩ | ⟨document, after, accepts, leaves⟩
  · exact .inl ⟨rejects, exits_of_rejects rejects⟩
  · exact .inr (.inl ⟨error, meets, exits_of_meets_file meets⟩)
  · exact .inr (.inr (.inl ⟨fault, meets, breaksOff_of_meets_path meets⟩))
  · exact .inr (.inr (.inr ⟨document, after, accepts, leaves, exits_of_leaves accepts leaves⟩))

theorem exits_one_iff : request.Exits tree 1 ↔ request.Rejects tree := by
  refine ⟨fun exits => ?_, exits_of_rejects⟩
  rcases request.ends tree with
    ⟨rejects, _⟩ | ⟨_, _, two⟩ | ⟨_, _, breaks⟩ | ⟨_, _, _, _, zero⟩
  · exact rejects
  · exact absurd (exits.unique two) (by decide)
  · exact absurd breaks (exits.not_breaksOff _)
  · exact absurd (exits.unique zero) (by decide)

theorem exits_two_iff : request.Exits tree 2 ↔ ∃ error, request.Meets tree (.file error) := by
  refine ⟨fun exits => ?_, fun ⟨error, meets⟩ => exits_of_meets_file meets⟩
  rcases request.ends tree with
    ⟨_, one⟩ | ⟨error, meets, _⟩ | ⟨_, _, breaks⟩ | ⟨_, _, _, _, zero⟩
  · exact absurd (exits.unique one) (by decide)
  · exact ⟨error, meets⟩
  · exact absurd breaks (exits.not_breaksOff _)
  · exact absurd (exits.unique zero) (by decide)

theorem breaksOff_iff {fault : PathFault} :
    request.BreaksOff tree fault ↔ request.Meets tree (.path fault) := by
  refine ⟨fun breaks => ?_, breaksOff_of_meets_path⟩
  rcases request.ends tree with
    ⟨_, one⟩ | ⟨_, _, two⟩ | ⟨other, meets, breaksToo⟩ | ⟨_, _, _, _, zero⟩
  · exact absurd breaks (one.not_breaksOff _)
  · exact absurd breaks (two.not_breaksOff _)
  · rwa [breaks.unique breaksToo]
  · exact absurd breaks (zero.not_breaksOff _)

theorem exits_zero_iff :
    request.Exits tree 0 ↔ ¬ request.Rejects tree ∧ ∀ error, ¬ request.Meets tree error := by
  constructor
  · refine fun exits => ⟨fun rejects => ?_, fun error meets => ?_⟩
    · exact absurd (exits.unique (exits_of_rejects rejects)) (by decide)
    · cases error with
      | file error => exact absurd (exits.unique (exits_of_meets_file meets)) (by decide)
      | path fault => exact exits.not_breaksOff fault (breaksOff_of_meets_path meets)
  · rintro ⟨accepted, met⟩
    rcases request.course tree with rejects | ⟨error, meets⟩ | ⟨document, after, accepts, leaves⟩
    · exact absurd rejects accepted
    · exact absurd meets (met error)
    · exact exits_of_leaves accepts leaves

/-! ## Runs that fail and runs that go through -/

/-- **A run that fails has no effect**, whether it has an exit code or not. -/
theorem no_effect_of_not_exits_zero (failed : ¬ request.Exits tree 0) :
    (request.answerOn tree).2 = tree ∧ (request.displayOn tree).stdout = "" ∧
      (request.displayOn tree).chart = [] := by
  rw [displayOn]
  rcases request.course tree with rejects | ⟨error, meets⟩ | ⟨document, after, accepts, leaves⟩
  · obtain ⟨notes, run⟩ := answerOn_of_rejects rejects
    have answer : request.answerOn tree = _ := run request.verbose
    rw [answer]
    exact ⟨rfl, rfl, rfl⟩
  · obtain ⟨notes, run⟩ := answerOn_of_meets meets
    have answer : request.answerOn tree = _ := run request.verbose
    rw [answer]
    cases error with
    | file error => exact ⟨rfl, rfl, rfl⟩
    | path fault => exact ⟨rfl, rfl, rfl⟩
  · exact absurd (exits_of_leaves accepts leaves) failed

/-- **A run that goes through changes at most the file of its output.** -/
theorem effect_of_exits_zero (through : request.Exits tree 0) :
    ∃ document report after, request.Accepts tree document ∧ request.Leaves tree document after ∧
      request.answerOn tree = (.ok report, after) ∧
      report.stdout = request.command.printed document ∧
      report.chart = request.command.drawn document := by
  obtain ⟨accepted, met⟩ := exits_zero_iff.mp through
  rcases request.course tree with rejects | ⟨error, meets⟩ | ⟨document, after, accepts, leaves⟩
  · exact absurd rejects accepted
  · exact absurd meets (met error)
  · obtain ⟨notes, run⟩ := answerOn_of_leaves accepts leaves
    exact ⟨document, _, after, accepts, leaves, run request.verbose, rfl, rfl⟩

/-- The text printed of the document that a request reads from its input. -/
theorem info_of_accepts {input : String} {requireEnd : Bool} (accepts : request.Accepts tree document)
    (sameInput : request.command.input = input) (sameEnd : request.command.requireEnd = requireEnd)
    (verbose : Bool) :
    ∃ printed, answerOn tree ⟨verbose, .info input true requireEnd⟩ = (.ok printed, tree) ∧
      printed.exitCode = 0 ∧ printed.stdout = document.toJson ++ "\n" := by
  subst sameInput sameEnd
  have acceptsToo : Request.Accepts
      ⟨verbose, .info request.command.input true request.command.requireEnd⟩ tree document := accepts
  obtain ⟨notes, run⟩ := answerOn_of_leaves acceptsToo (.same fun _ _ _ => nofun)
  exact ⟨_, run verbose, rfl, rfl⟩

/-! ## Verbose runs -/

theorem exists_shown_append (verbose : Bool) (notes : List Note) :
    ∃ more, Note.shown true notes = more ++ Note.shown verbose notes := by
  cases verbose with
  | true => exact ⟨"", String.empty_append.symm⟩
  | false => exact ⟨Note.shown true notes, String.append_empty.symm⟩

/-- The end of a run with some notes in front of what it tells. -/
def noted (notes : String) : Except Breakdown Report → Except Breakdown Report
  | .ok report => .ok { report with stderr := notes ++ report.stderr }
  | .error breakdown => .error { breakdown with stderr := notes ++ breakdown.stderr }

theorem noted_append (more notes : String) (plain : Except Breakdown Report) :
    noted (more ++ notes) plain = noted more (noted notes plain) := by
  cases plain with
  | ok report => simp only [noted, String.append_assoc]
  | error breakdown => simp only [noted, String.append_assoc]

/-- All that depends on being verbose is what is told in front of the rest. -/
theorem exists_noted (request : Request) (tree : FileTree) :
    ∃ notes after plain, ∀ verbose,
      answerOn tree { request with verbose } = (noted (Note.shown verbose notes) plain, after) := by
  rcases request.course tree with rejects | ⟨error, meets⟩ | ⟨document, after, accepts, leaves⟩
  · obtain ⟨notes, run⟩ := answerOn_of_rejects rejects
    exact ⟨notes, tree, .ok { exitCode := 1, stderr := "parse failed\n" }, run⟩
  · obtain ⟨notes, run⟩ := answerOn_of_meets meets
    refine ⟨notes, tree, Report.ofAccessError "" error, fun verbose => ?_⟩
    rw [run]
    cases error with
    | file error =>
      simp only [Report.ofAccessError, Report.ofFileError, noted, String.empty_append,
        String.append_assoc]
    | path fault => simp only [Report.ofAccessError, noted, String.append_empty]
  · obtain ⟨notes, run⟩ := answerOn_of_leaves accepts leaves
    refine ⟨notes, after, .ok { stdout := request.command.printed document
                                chart := request.command.drawn document }, fun verbose => ?_⟩
    rw [run]
    simp only [noted, String.append_empty]

/-- **Being verbose only puts notes in front of what is told of a run.** -/
theorem answerOn_verbose (request : Request) (tree : FileTree) :
    ∃ notes, answerOn tree { request with verbose := true } =
      (noted notes (request.answerOn tree).1, (request.answerOn tree).2) := by
  -- A request that is verbose already has no notes to gain, so what comes in front may be empty.
  obtain ⟨notes, after, plain, run⟩ := exists_noted request tree
  obtain ⟨more, shown⟩ := exists_shown_append request.verbose notes
  have asked : request.answerOn tree = _ := run request.verbose
  refine ⟨more, ?_⟩
  rw [asked, run true, shown, noted_append]

theorem exits_verbose_iff {code : Nat} :
    Exits { request with verbose := true } tree code ↔ request.Exits tree code := by
  obtain ⟨notes, louder⟩ := answerOn_verbose request tree
  rw [Exits, Exits, louder]
  cases (request.answerOn tree).1 with
  | ok report => simp [noted]
  | error breakdown => simp [noted]

theorem breaksOff_verbose_iff {fault : PathFault} :
    BreaksOff { request with verbose := true } tree fault ↔ request.BreaksOff tree fault := by
  obtain ⟨notes, louder⟩ := answerOn_verbose request tree
  rw [BreaksOff, BreaksOff, louder]
  cases (request.answerOn tree).1 with
  | ok report => simp [noted]
  | error breakdown => simp [noted]

/-- What a verbose run shows is what the run shows otherwise, behind its notes. -/
theorem displayOn_verbose (request : Request) (tree : FileTree) :
    ∃ notes, displayOn tree { request with verbose := true } =
      { request.displayOn tree with stderr := notes ++ (request.displayOn tree).stderr } := by
  obtain ⟨notes, louder⟩ := answerOn_verbose request tree
  refine ⟨notes, ?_⟩
  rw [displayOn, displayOn, louder]
  cases (request.answerOn tree).1 with
  | ok report => rfl
  | error breakdown => rfl

/-- Whether to be verbose from the start on has no say in which command lines are understood. -/
theorem ofWordsFrom_verbose (verbose complete : Bool) (words : List String) :
    ofWordsFrom true complete words =
      (ofWordsFrom verbose complete words).map fun request => { request with verbose := true } := by
  -- The flags in front of the command can only set what is set here from the start on.
  induction words generalizing verbose complete with
  | nil => rfl
  | cons word words ih =>
    by_cases divides : word = "--"
    · subst divides
      rfl
    · rw [ofWordsFrom, ofWordsFrom]
      · cases Token.ofWord ProgramFlag.all word with
        | operand name =>
          dsimp only
          cases Command.ofWords name words with
          | error usage => rfl
          | ok command => cases complete <;> rfl
        | flags meanings =>
          dsimp only
          split
          · rfl
          · rw [Bool.true_or]
            exact ih _ _
        | unknown => exact ih _ _
        | malformed => rfl
        | ambiguous => rfl
        | divider words => rfl
      · exact divides
      · exact divides

/-- A word for being verbose in front of a command line that is understood is understood. -/
theorem ofWords_cons_verbose {words : List String} (parsed : ofWords words = .ok request) :
    ofWords ("-v" :: words) = .ok { request with verbose := true } := by
  have flag : Token.ofWord ProgramFlag.all "-v" = .flags [.verbose] := by rfl
  have clear : Gathered.isAmbiguous (Token.flags [ProgramFlag.verbose]) = false := rfl
  have front : Token.ofWords ProgramFlag.all ("-v" :: words) =
      .flags [.verbose] :: Token.ofWords ProgramFlag.all words := by
    rw [Token.ofWords, flag]
    decide
  have onward : ofWordsFrom false true ("-v" :: words) = ofWordsFrom true true words := by
    rw [ofWordsFrom, flag]
    · rfl
    · decide
  rw [ofWords] at parsed ⊢
  rw [front, List.any_cons, clear, Bool.false_or, onward, ofWordsFrom_verbose false]
  split at parsed
  · cases parsed
  · next unambiguous =>
    rw [if_neg unambiguous, parsed]
    rfl

/-! ## All runs -/

/-- **What a run comes to is decided by what it meets on the tree.** Of a command line that is
understood the exit code is 1 exactly if the grammar rejects the data of the input, 2 exactly if a file
error is met at the input or, after the data was read, at the output, and 0 otherwise, unless one of the
two is no path at all, in which case the run breaks off. A run that does not end with exit code 0 prints
nothing, draws nothing and leaves the tree alone, also if it breaks off. One that does leaves it alone
too, except for the file of an output, which holds the JSON text that could be printed of the input
before. Being verbose only puts notes in front of what is told, however the run ends. -/
theorem every_run_classified {words : List String} (parsed : ofWords words = .ok request)
    (tree : FileTree) :
    (request.Exits tree 1 ↔ request.Rejects tree) ∧
    (request.Exits tree 2 ↔ ∃ error, request.Meets tree (.file error)) ∧
    (∀ fault, request.BreaksOff tree fault ↔ request.Meets tree (.path fault)) ∧
    (request.Exits tree 0 ↔ ¬ request.Rejects tree ∧ ∀ error, ¬ request.Meets tree error) ∧
    (¬ request.Exits tree 0 → (request.answerOn tree).2 = tree ∧
      (request.displayOn tree).stdout = "" ∧ (request.displayOn tree).chart = []) ∧
    (request.Exits tree 0 → ∃ document report after, request.Accepts tree document ∧
      request.answerOn tree = (.ok report, after) ∧
      report.stdout = request.command.printed document ∧
      report.chart = request.command.drawn document ∧
      ((∀ input output requireEnd, request.command ≠ .toJson input output requireEnd) →
        after = tree) ∧
      ∀ input output requireEnd, request.command = .toJson input output requireEnd →
        ∃ path place, output = some path ∧ tree.writable path = .ok place ∧
          (∀ other, after.lookup other =
            if other = place then some (.file document.jsonBytes) else tree.lookup other) ∧
          after.load path = .ok document.jsonBytes ∧
          ∀ verbose, ∃ printed,
            answerOn tree ⟨verbose, .info input true requireEnd⟩ = (.ok printed, tree) ∧
              printed.exitCode = 0 ∧ printed.stdout = document.toJson ++ "\n") ∧
    ofWords ("-v" :: words) = .ok { request with verbose := true } ∧
    (∀ code, Exits { request with verbose := true } tree code ↔ request.Exits tree code) ∧
    (∀ fault, BreaksOff { request with verbose := true } tree fault ↔ request.BreaksOff tree fault) ∧
    (answerOn tree { request with verbose := true }).2 = (request.answerOn tree).2 ∧
    ∃ notes, displayOn tree { request with verbose := true } =
      { request.displayOn tree with stderr := notes ++ (request.displayOn tree).stderr } := by
  obtain ⟨_, louder⟩ := answerOn_verbose request tree
  refine ⟨exits_one_iff, exits_two_iff, fun fault => breaksOff_iff, exits_zero_iff,
    no_effect_of_not_exits_zero, fun through => ?_, ofWords_cons_verbose parsed,
    fun code => exits_verbose_iff, fun fault => breaksOff_verbose_iff, by rw [louder],
    displayOn_verbose request tree⟩
  obtain ⟨document, report, after, accepts, leaves, answer, stdout, chart⟩ :=
    effect_of_exits_zero through
  refine ⟨document, report, after, accepts, answer, stdout, chart, ?_, ?_⟩
  · intro others
    cases leaves with
    | same => rfl
    | @written _ input _ requireEnd command => exact absurd command (others input _ requireEnd)
  · intro input output requireEnd isToJson
    cases leaves with
    | same others => exact absurd isToJson (others input output requireEnd)
    | @written _ _ path _ command saved =>
      rw [command] at isToJson
      cases isToJson
      obtain ⟨place, found, changed⟩ := FileTree.lookup_of_save saved
      exact ⟨path, place, rfl, found, changed, FileTree.load_of_save saved, info_of_accepts accepts
        (congrArg Command.input command) (congrArg Command.requireEnd command)⟩

namespace Sample

/-- The data of a document of one segment. -/
def data : List UInt8 := [0xFF, 0xD8, 0xFF, 0xDA, 0x00, 0x02]

def onlyClosing : Document := ⟨[⟨0xFFDA, 2⟩], 6⟩

/-- A tree with the data in a file of its working folder. -/
def files : FileTree := ⟨[(["a"], .file data)], []⟩

/-- The request to write the JSON text of a document over its data. -/
def inPlace : Request := ⟨false, .toJson "a" (some "a") false⟩

/-- The request to write the JSON text of a document to an output without a text. -/
def lostOutput : Request := ⟨false, .toJson "a" none false⟩

theorem load_files : files.load (Path.normalize "a") = .ok data := by
  decide +kernel

theorem read_data : Document.read .standard data = .ok onlyClosing := by
  decide +kernel

theorem accepts_of_toJson (output : Option String) :
    Accepts ⟨false, .toJson "a" output false⟩ files onlyClosing :=
  ⟨_, load_files, read_data⟩

end Sample

open Sample

/-- The data of a document is overwritten with its JSON text. -/
theorem inPlace_classified :
    ofWords ["to-json", "a", "a"] = .ok inPlace ∧
      ofWords ["-v", "to-json", "a", "a"] = .ok { inPlace with verbose := true } ∧
      ∃ document report after, inPlace.Accepts files document ∧
        inPlace.answerOn files = (.ok report, after) ∧ report.stdout = "" ∧ report.chart = [] ∧
        after.load "a" = .ok document.jsonBytes := by
  have parsed : ofWords ["to-json", "a", "a"] = .ok inPlace := by rfl
  obtain ⟨place, found⟩ : ∃ place, files.writable "a" = .ok place := ⟨["a"], by decide +kernel⟩
  have saved : files.save "a" onlyClosing.jsonBytes =
      .ok (files.put place (.file onlyClosing.jsonBytes)) := by
    rw [FileTree.save, found]
    rfl
  have through : inPlace.Exits files 0 :=
    exits_of_leaves (accepts_of_toJson (some "a")) (.written rfl saved)
  obtain ⟨_, _, _, _, _, effect, louder, _⟩ := every_run_classified parsed files
  obtain ⟨document, report, after, accepts, answer, stdout, chart, _, written⟩ := effect through
  obtain ⟨path, _, same, _, _, loaded, _⟩ := written _ _ _ rfl
  cases same
  exact ⟨parsed, louder, document, report, after, accepts, answer, stdout, chart, loaded⟩

/-- The second of two double dashes is an output without a text. The data is a document and no file error
is met, but the run breaks off and does not end with exit code 0. -/
theorem lostOutput_has_no_report :
    ofWords ["to-json", "a", "--", "--"] = .ok lostOutput ∧
      lostOutput.Accepts files onlyClosing ∧ ¬ lostOutput.Rejects files ∧
      (∀ error, ¬ lostOutput.Meets files (.file error)) ∧ ¬ lostOutput.Exits files 0 ∧
      lostOutput.BreaksOff files .noText := by
  have accepts := accepts_of_toJson none
  have breaks : lostOutput.BreaksOff files .noText :=
    breaksOff_of_meets_path (.noOutput accepts rfl)
  refine ⟨by rfl, accepts, fun rejects => ?_, fun error meets => ?_, fun exits => ?_, breaks⟩
  · exact (exits_of_rejects rejects).not_breaksOff _ breaks
  · exact (exits_of_meets_file meets).not_breaksOff _ breaks
  · exact exits.not_breaksOff _ breaks

end Request

end ByteGrammar
