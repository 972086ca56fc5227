import RadioLink.CommandLine.Parser

/-!
# Running a command

A command is run against what it can see of the world: the files, by a function that gives the
content of one, what is known of the build, and the terminal, by a function that draws a table on
it. It comes to an `Outcome`: the bytes printed, and a failure if there is one. What was printed
before a failure stays printed.
-/

namespace RadioLink.CommandLine

/-- What is known of the build. -/
structure Build where
  /-- The platform that the program was built for. -/
  target : String
  /-- Its operating system. -/
  os : String
  /-- Its processor. -/
  arch : String

/-- What a command can see. -/
structure World where
  /-- The content of a file. -/
  file : String → Except FileError ByteArray
  /-- The build. -/
  build : Build
  /-- The text of a table as it is drawn. A terminal may have cells broken to its width; the text
  given here is the one for an output that is no terminal. -/
  draw : Text.Table → String := Text.Table.render

/-- What a command comes to. -/
structure Outcome where
  /-- The bytes printed. -/
  output : ByteArray := ByteArray.empty
  /-- Why the command failed, if it did. -/
  failure : Option Failure := none

/-- The exit code of an outcome. -/
def Outcome.exitCode (o : Outcome) : Nat :=
  (o.failure.map Failure.exitCode).getD ExitCode.success

/-- The version of the program. -/
def version : String := "0.1.0"

/-- The lines that show the version. -/
def versionLines (build : Build) : Bool → List String
  | false => ["acilink " ++ version]
  | true => [
    "name: acilink",
    "version: " ++ version,
    "build_target: " ++ build.target,
    "target_os: " ++ build.os,
    "target_arch: " ++ build.arch,
    "max_frame_length: " ++ toString Frame.defaultCapacity,
    "queue_depth: " ++ toString Queue.defaultDepth,
    "features: embedded-hal=true, cli=true"]

/-- The text of a file. -/
def readText (world : World) (path : String) : Except Failure String :=
  match world.file path with
  | .error error => .error (.file ("failed reading " ++ path) error)
  | .ok bytes =>
    match String.fromUTF8? bytes with
    | some text => .ok text
    | none =>
      .error (.file ("failed reading " ++ path) ⟨.other, "stream did not contain valid UTF-8"⟩)

/-- The script that a simulation starts from. -/
def loadScript (world : World) : Option String → Except Failure Simulation.Script
  | none => .ok {}
  | some path =>
    match readText world path with
    | .error failure => .error failure
    | .ok text =>
      match Simulation.Script.parse? text with
      | some script => .ok script
      | none => .error (.script path)

/-- The plan of a simulation: its script, with the commands and events of the command line
behind. -/
def plan (world : World) (o : SimulateOptions) : Except Failure Simulation.Plan :=
  match loadScript world o.script with
  | .error failure => .error failure
  | .ok script =>
    (script.extend o.commands (o.events.map fun payload => { status := o.status, payload })).plan

/-- Runs a simulation. -/
def simulate (world : World) (format : Simulation.Format) (o : SimulateOptions) : Outcome :=
  match plan world o with
  | .error failure => { failure := some failure }
  | .ok plan =>
    let course := plan.run o.driver o.maxCycles.toNat
    { output := course.print world.draw format, failure := course.failure }

/-- Runs what a command line asks for. Without a format it prints the given one. -/
def Invocation.run (world : World) (format : Simulation.Format) (i : Invocation) : Outcome :=
  match i.command with
  | .simulate o => simulate world (i.format.getD format) o
  | .version extended =>
    { output := Simulation.concat ((versionLines world.build extended).map Simulation.asLine) }

end RadioLink.CommandLine
