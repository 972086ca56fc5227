import RadioLink.CommandLine.Run

/-!
# The program

Reads the command line, runs it against the files of the machine, prints what it comes to and exits
with its code. Nothing is decided here.
-/

namespace RadioLink.CommandLine

/-- The text of an error that the operating system numbers. -/
def numbered (detail : String) (code : UInt32) : String :=
  detail ++ " (os error " ++ toString code.toNat ++ ")"

/-- The error of the machine as it is reported. -/
def fileErrorOf : IO.Error → FileError
  | .noFileOrDirectory _ code detail => ⟨.notFound, numbered detail code⟩
  | .permissionDenied _ code detail => ⟨.permissionDenied, numbered detail code⟩
  | error => ⟨.other, toString error⟩

/-- A file of the machine, as it is now. -/
def readNow (path : String) : IO (Except FileError ByteArray) := do
  let content ← (IO.FS.readBinFile path).toBaseIO
  pure (content.mapError fileErrorOf)

/-- The files that a command line may read: the ones that are named on it. -/
def readNamed (paths : List String) : IO (String → Except FileError ByteArray) := do
  let contents ← paths.mapM readNow
  pure fun path =>
    ((paths.zip contents).lookup path).getD (.error ⟨.notFound, "No such file or directory"⟩)

/-- The paths that an invocation names. -/
def pathsOf (i : Invocation) : List String :=
  match i.command with
  | .simulate o => o.script.toList
  | .version _ => []

/-- Prints an outcome and gives its exit code. -/
def conclude (o : Outcome) : IO UInt32 := do
  (← IO.getStdout).write o.output
  match o.failure with
  | none => pure ()
  | some failure => IO.eprintln ("error: " ++ failure.message)
  pure (UInt32.ofNat o.exitCode)

/-- Runs what some words ask for. -/
def runWords (words : List String) : IO UInt32 := do
  match parse words with
  | .error e =>
    if e.isAnswer then IO.println e.message else IO.eprintln e.message
    pure (UInt32.ofNat e.exitCode)
  | .ok i =>
    let build : Build := ⟨"unknown", "unknown", "unknown"⟩
    let terminal ← (← IO.getStdout).isTty
    conclude (i.run { file := ← readNamed (pathsOf i), build } (if terminal then .table else .json))

end RadioLink.CommandLine

/-- Runs the program. -/
def main (words : List String) : IO UInt32 :=
  RadioLink.CommandLine.runWords words
