import RadioLink.Simulation.Report

/-!
# The command line's data

What a command line asks for: a command with its options, and the options that every command shares.
The command line itself is written with the options of `Opt`, each of which has a long name, some a
short one.
-/

namespace RadioLink.CommandLine

/-- The format of log lines. -/
inductive LogFormat where
  | text
  | json
  deriving DecidableEq

namespace LogFormat

/-- Both formats. -/
def all : List LogFormat :=
  [text, json]

/-- The name of a log format. -/
def name : LogFormat → String
  | text => "text"
  | json => "json"

end LogFormat

/-- The least level of the lines that are logged. -/
inductive LogLevel where
  | error
  | warn
  | info
  | debug
  | trace
  deriving DecidableEq

namespace LogLevel

/-- Every level. -/
def all : List LogLevel :=
  [error, warn, info, debug, trace]

/-- The name of a level. -/
def name : LogLevel → String
  | error => "error"
  | warn => "warn"
  | info => "info"
  | debug => "debug"
  | trace => "trace"

end LogLevel

/-- What to simulate. -/
structure SimulateOptions where
  /-- The payloads of commands to send, after those of the script. -/
  commands : List String := []
  /-- The payloads of events that the radio delivers, after those of the script. -/
  events : List String := []
  /-- The status byte of these events. -/
  status : UInt8 := 0
  /-- The path of a script. -/
  script : Option String := none
  /-- What drives the transport. -/
  driver : Simulation.Driver := .poll
  /-- The most cycles to run. -/
  maxCycles : UInt64 := 256
  deriving DecidableEq

/-- A command. -/
inductive Command where
  /-- Run a simulation. -/
  | simulate (options : SimulateOptions)
  /-- Show the version, with everything that is known of the build if `extended`. -/
  | version (extended : Bool)
  deriving DecidableEq

/-- What a command line asks for. -/
structure Invocation where
  /-- The format of the output, if one is asked for. -/
  format : Option Simulation.Format := none
  /-- The format of log lines. -/
  logFormat : LogFormat := .text
  /-- The least level of log lines. -/
  logLevel : LogLevel := .info
  /-- The command. -/
  command : Command
  deriving DecidableEq

/-- An option of the command line. -/
inductive Opt where
  | format
  | logFormat
  | logLevel
  | command
  | event
  | status
  | script
  | driver
  | maxCycles
  | extended
  | help
  | version
  deriving DecidableEq

namespace Opt

/-- The long name, which stands behind two hyphens. -/
def long : Opt → String
  | format => "format"
  | logFormat => "log-format"
  | logLevel => "log-level"
  | command => "command"
  | event => "event"
  | status => "status"
  | script => "script"
  | driver => "driver"
  | maxCycles => "max-cycles"
  | extended => "extended"
  | help => "help"
  | version => "version"

/-- The short name, which stands behind one hyphen. -/
def short? : Opt → Option Char
  | command => some 'c'
  | event => some 'e'
  | help => some 'h'
  | version => some 'V'
  | _ => none

/-- Whether the option is followed by a value. -/
def takesValue : Opt → Bool
  | extended | help | version => false
  | _ => true

/-- Whether the option may be given more than once. -/
def repeatable : Opt → Bool
  | command | event => true
  | _ => false

end Opt

/-- Where on a command line an option stands: before the command, or behind one. -/
inductive Scope where
  | top
  | simulate
  | version
  deriving DecidableEq

/-- The options that may stand somewhere. Those before the command may also stand behind it, except
the one for the version. -/
def Scope.options : Scope → List Opt
  | top => [.format, .logFormat, .logLevel, .help, .version]
  | simulate =>
    [.command, .event, .status, .script, .driver, .maxCycles, .format, .logFormat, .logLevel, .help]
  | version => [.extended, .format, .logFormat, .logLevel, .help]

/-- An option with its value. -/
inductive Setting where
  | format (f : Simulation.Format)
  | logFormat (f : LogFormat)
  | logLevel (l : LogLevel)
  | command (payload : String)
  | event (payload : String)
  | status (status : UInt8)
  | script (path : String)
  | driver (d : Simulation.Driver)
  | maxCycles (n : UInt64)
  | extended
  deriving DecidableEq

/-- Why a command line asks for nothing that can be done. -/
inductive UsageError where
  /-- Help is asked for. -/
  | helpWanted
  /-- The version is asked for by an option. -/
  | versionWanted
  /-- The command line is empty. -/
  | nothingGiven
  /-- There are options but no command. -/
  | commandMissing
  /-- A word stands where a command belongs and is none. -/
  | commandUnknown (word : String)
  /-- An argument has no meaning where it stands. -/
  | argumentUnknown (word : String)
  /-- An option lacks its value. -/
  | valueMissing (option : Opt)
  /-- A value is none of those that an option can have. -/
  | valueNotListed (option : Opt) (value : String)
  /-- A value cannot be read as the number that an option needs. -/
  | valueUnreadable (option : Opt) (value : String)
  /-- An option without a value has one attached. -/
  | valueUnwanted (option : Opt)
  /-- An option is given twice. -/
  | repeated (option : Opt)
  deriving DecidableEq

namespace UsageError

/-- The text of a usage error. -/
def message : UsageError → String
  | helpWanted | nothingGiven =>
    "Usage: acilink [OPTIONS] <simulate|version|help> [ARGUMENTS]"
  | versionWanted => "acilink 0.1.0"
  | commandMissing => "error: a subcommand is required but was not given"
  | commandUnknown word => "error: unrecognized subcommand '" ++ word ++ "'"
  | argumentUnknown word => "error: unexpected argument '" ++ word ++ "' found"
  | valueMissing option => "error: a value is required for '--" ++ option.long ++ "'"
  | valueNotListed option value | valueUnreadable option value =>
    "error: invalid value '" ++ value ++ "' for '--" ++ option.long ++ "'"
  | valueUnwanted option => "error: unexpected value for '--" ++ option.long ++ "'"
  | repeated option => "error: the argument '--" ++ option.long ++ "' cannot be used multiple times"

/-- Whether what is printed was asked for and is no error. -/
def isAnswer : UsageError → Bool
  | helpWanted | versionWanted => true
  | _ => false

/-- The exit code. -/
def exitCode (e : UsageError) : Nat :=
  if e.isAnswer then 0 else 2

end UsageError

end RadioLink.CommandLine
