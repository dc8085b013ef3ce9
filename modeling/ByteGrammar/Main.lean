import ByteGrammar.CommandLine.Run

/-!
# The program

The command line over the files of the machine. Only this module performs input and
output. A chart is not drawn, since there is no display.
-/

set_option autoImplicit false

namespace ByteGrammar

/-- The file error that stands for an error of the machine. -/
def FileError.ofMachine (path : String) : IO.Error → FileError
  | .noFileOrDirectory .. => ⟨.notFound, path⟩
  | .inappropriateType _ code _ => ⟨ofCode code, path⟩
  | .invalidArgument .. => ⟨.nameTooLong, path⟩
  | _ => ⟨.notFound, path⟩
where
  /-- The kind with the number of a machine error about folders. -/
  ofCode (code : UInt32) : Kind :=
    if code.toNat = Kind.isFolder.number then .isFolder else .notFolder

/-- The result of an action on a file of the machine, if the path can be used. -/
def accessMachine {α : Type} (path : String) (action : IO α) : IO (Except AccessError α) := do
  if FileTree.holdsNull path then
    return .error (.path .nullCharacter)
  else
    try
      return .ok (← action)
    catch error => return .error (.file (FileError.ofMachine path error))

/-- Access to the files of the machine. -/
def machineFiles : FileAccess IO where
  read path := accessMachine path do return (← IO.FS.readBinFile path).toList
  write path text := accessMachine path (IO.FS.writeFile path text)

/-- What the program can be asked. -/
def usage : String :=
  "usage: bytegrammar [-h] [-v] info [--json] [--require-end] input\n" ++
    "       bytegrammar [-h] [-v] to-json [--require-end] input output\n" ++
    "       bytegrammar [-h] [-v] plot input\n"

end ByteGrammar

open ByteGrammar

def main (words : List String) : IO UInt32 := do
  match Request.ofWords words with
  | .error .helpWanted =>
    IO.print usage
    return 0
  | .error .refused =>
    IO.eprint usage
    return 2
  | .ok request =>
    match ← request.answer machineFiles with
    | .error breakdown =>
      IO.print breakdown.stdout
      IO.eprint breakdown.stderr
      IO.eprintln (PathFault.message breakdown)
      return 1
    | .ok report =>
      IO.print report.stdout
      IO.eprint report.stderr
      return UInt32.ofNat report.exitCode
