import ByteGrammar.CommandLine.Note
import ByteGrammar.CommandLine.Request
import ByteGrammar.Document.Chart
import ByteGrammar.Document.Reading
import ByteGrammar.Document.Report
import ByteGrammar.Files.Tree

/-!
# Answering requests

A request reads one file and answers with an exit code, two texts and the calls of a
chart. The exit code is 1 if the grammar rejects the data, 2 if a file cannot be read
or written, and 0 otherwise. An output file is opened only after the data was read.
Where a path cannot be used at all, the run breaks off without an exit code. What it has
shown until then stays shown.

`Request.answer` needs nothing but a way to read and to write files, so it runs alike
on the files of a machine and on a `FileTree` (`Request.answerOn`).
-/

set_option autoImplicit false

namespace ByteGrammar

/-- A way to read and to write files. -/
structure FileAccess (m : Type → Type) where
  read : String → m (Except AccessError (List UInt8))
  write : String → String → m (Except AccessError Unit)

/-- What a run has shown by the time it ends. -/
structure Display where
  stdout : String := ""
  stderr : String := ""
  chart : List Chart.Call := []
  deriving DecidableEq, Repr

/-- The end of a run with an exit code. -/
structure Report extends Display where
  exitCode : Nat := 0
  deriving DecidableEq, Repr

/-- The end of a run that breaks off because of a path. -/
structure Breakdown extends Display where
  fault : PathFault
  deriving DecidableEq, Repr

/-- A breakdown is told by its fault. -/
instance : Coe Breakdown PathFault :=
  ⟨Breakdown.fault⟩

namespace Report

/-- The report of a run that met a file error. -/
def ofFileError (notes : String) (error : FileError) : Report :=
  { exitCode := 2, stderr := notes ++ "I/O error: " ++ error.message ++ "\n" }

/-- The end of a run that could not read or write a file. -/
def ofAccessError (notes : String) : AccessError → Except Breakdown Report
  | .file error => .ok (ofFileError notes error)
  | .path fault => .error { stderr := notes, fault }

/-- The report of a run whose data could not be read as a document. -/
def ofReadError (notes : String) : ReadError → Report
  | .rejected _ _ => { exitCode := 1, stderr := notes ++ "parse failed\n" }
  | .fault fault => { exitCode := 1, stderr := notes ++ fault.message ++ "\n" }

end Report

namespace Request

variable {m : Type → Type} [Monad m]

/-- The format a request reads. -/
def format (request : Request) : Format :=
  { Format.standard with requireEnd := request.command.requireEnd }

/-- The notes on data that was loaded and then read or not. -/
def notesOn (path : String) (bytes : List UInt8) : Except ReadError Document → List Note
  | .ok document =>
    [.loaded bytes.length path,
      .parsed document.segments.length document.consumed bytes.length]
  | .error (.rejected remainder attemptedAt) =>
    [.loaded bytes.length path, .rejected remainder attemptedAt bytes.length]
  | .error (.fault _) => [.loaded bytes.length path]

/-- Carry out a command on its document, after some notes. -/
def carryOut (files : FileAccess m) (request : Request) (notes : List Note)
    (document : Document) : m (Except Breakdown Report) :=
  let shown := Note.shown request.verbose notes
  match request.command with
  | .info _ json _ =>
    let text := if json then document.toJson ++ "\n" else document.summary
    return .ok { stdout := text, stderr := shown }
  | .plot _ => return .ok { stderr := shown, chart := document.chart }
  | .toJson _ none _ => return .error { stderr := shown, fault := .noText }
  | .toJson _ (some output) _ => do
    match ← files.write output document.toJson with
    | .error error => return Report.ofAccessError shown error
    | .ok () =>
      let all := notes ++ [.wrote document.segments.length output]
      return .ok { stderr := Note.shown request.verbose all }

/-- Answer a request. -/
def answer (files : FileAccess m) (request : Request) : m (Except Breakdown Report) := do
  let path := Path.normalize request.command.input
  match ← files.read path with
  | .error error => return Report.ofAccessError "" error
  | .ok bytes =>
    let result := Document.read request.format bytes
    let notes := notesOn path bytes result
    match result with
    | .error error => return .ok (Report.ofReadError (Note.shown request.verbose notes) error)
    | .ok document => request.carryOut files notes document

end Request

/-! ## On file trees -/

/-- Access to the files of a tree. -/
def FileTree.access : FileAccess (StateM FileTree) where
  read path := do
    return (← get).load path
  write path text := do
    match (← get).save path text.toUTF8.toList with
    | .error error => return .error error
    | .ok tree =>
      set tree
      return .ok ()

/-- The answer to a request on a tree, and the tree afterwards. -/
def Request.answerOn (tree : FileTree) (request : Request) :
    Except Breakdown Report × FileTree :=
  (request.answer FileTree.access).run tree

end ByteGrammar
