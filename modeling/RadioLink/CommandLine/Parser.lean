import RadioLink.CommandLine.Options
import RadioLink.Text.Decimal

/-!
# Reading the command line

A command line is read from left to right: options, the command, and the options and arguments
behind it. An option that takes a value has it attached (`--status=1`, `-c=0a`, `-c0a`) or in the
next word.

A value in a word of its own is not looked at before the next option is met, or the end. So of two
mistakes the later one can be the one that is reported: a word with no meaning, and an option that
is not known, are reported whatever the value before them looks like. `Pending` is what such a value
waits in.
-/

namespace RadioLink.CommandLine

/-- One of several things by its name. -/
def oneOf {α : Type} (option : Opt) (name : α → String) (all : List α) (value : String) :
    Except UsageError α :=
  match all.find? fun a => name a == value with
  | some a => .ok a
  | none => .error (.valueNotListed option value)

/-- A byte in base ten. Zero may have a minus sign. -/
def byteOf (option : Opt) (value : String) : Except UsageError UInt8 :=
  match Text.Decimal.integer? value with
  | some (.ofNat n) =>
    if n < UInt8.size then .ok (UInt8.ofNat n) else .error (.valueUnreadable option value)
  | _ => .error (.valueUnreadable option value)

/-- A count in base ten. -/
def countOf (option : Opt) (value : String) : Except UsageError UInt64 :=
  match Text.Decimal.natural? value with
  | some n => if n < UInt64.size then .ok (UInt64.ofNat n)
      else .error (.valueUnreadable option value)
  | none => .error (.valueUnreadable option value)

/-- An option with the value that a text gives it. -/
def Setting.read (option : Opt) (value : String) : Except UsageError Setting :=
  match option with
  | .format => (oneOf option Simulation.Format.name Simulation.Format.all value).map .format
  | .logFormat => (oneOf option LogFormat.name LogFormat.all value).map .logFormat
  | .logLevel => (oneOf option LogLevel.name LogLevel.all value).map .logLevel
  | .command => .ok (.command value)
  | .event => .ok (.event value)
  | .status => (byteOf option value).map .status
  | .script => if value.isEmpty then .error (.valueMissing option) else .ok (.script value)
  | .driver => (oneOf option Simulation.Driver.name Simulation.Driver.all value).map .driver
  | .maxCycles => (countOf option value).map .maxCycles
  | .extended => .ok .extended
  | .help => .error .helpWanted
  | .version => .error .versionWanted

/-- An option that has been met and not been looked at. -/
inductive Pending where
  /-- There is none. -/
  | nothing
  /-- The value is still to come. -/
  | awaiting (option : Opt)
  /-- The value was in a word of its own. -/
  | valued (option : Opt) (value : String)
  deriving DecidableEq

/-- What has been read of one scope. -/
structure Reading where
  /-- The settings, in the order in which they were given. -/
  given : List (Opt × Setting) := []
  /-- The option that has not been looked at. -/
  pending : Pending := .nothing
  deriving DecidableEq

namespace Reading

/-- Takes note of an option and its value. -/
def note (option : Opt) (value : String) (r : Reading) : Except UsageError Reading :=
  if !option.repeatable && r.given.any (fun g => g.1 == option) then
    .error (.repeated option)
  else
    (Setting.read option value).map fun setting =>
      { r with given := r.given ++ [(option, setting)] }

/-- Looks at the option that is pending. -/
def settle (r : Reading) : Except UsageError Reading :=
  match r.pending with
  | .nothing => .ok r
  | .awaiting option => .error (.valueMissing option)
  | .valued option value => note option value { r with pending := .nothing }

/-- Meets an option, perhaps with a value attached. -/
def meet (option : Opt) (attached : Option String) (r : Reading) : Except UsageError Reading :=
  if option.takesValue then
    match r.settle, attached with
    | .error e, _ => .error e
    | .ok r, some value => note option value r
    | .ok r, none => .ok { r with pending := .awaiting option }
  else
    match attached with
    | some _ => .error (.valueUnwanted option)
    | none =>
      match r.settle with
      | .error e => .error e
      | .ok r => note option "" r

end Reading

/-- What a word looks like. -/
inductive Shape where
  /-- Two hyphens alone: no options after it. -/
  | stop
  /-- A long name and what is attached to it. -/
  | long (name : String) (attached : Option String)
  /-- A short name and the characters behind it. -/
  | short (name : Char) (rest : List Char)
  /-- Anything else, such as a lone hyphen. -/
  | plain
  deriving DecidableEq

/-- The shape of a word. -/
def Shape.of (word : String) : Shape :=
  match word.toList with
  | ['-', '-'] => .stop
  | '-' :: '-' :: text =>
    match text.dropWhile (· != '=') with
    | [] => .long (String.ofList text) none
    | _ :: value =>
      .long (String.ofList (text.takeWhile (· != '='))) (some (String.ofList value))
  | '-' :: name :: rest => .short name rest
  | _ => .plain

/-- What is attached to a short name. An equals sign in front of it does not belong to it. -/
def attachedTo : List Char → Option String
  | [] => none
  | '=' :: value => some (String.ofList value)
  | value => some (String.ofList value)

namespace Scope

/-- The option of a long name. -/
def long? (scope : Scope) (name : String) : Option Opt :=
  scope.options.find? fun o => o.long == name

/-- The option of a short name. -/
def short? (scope : Scope) (name : Char) : Option Opt :=
  scope.options.find? fun o => o.short? == some name

/-- The words that are commands where this scope is read, with the scope behind each; none stands
for help. -/
def commands : Scope → List (String × Option Scope)
  | top => [("simulate", some simulate), ("version", some version), ("help", none)]
  | simulate | version => []

/-- The command that a word is. -/
def command? (scope : Scope) (word : String) : Option (Option Scope) :=
  scope.commands.lookup word

/-- The error for a word that means nothing. -/
def stray (scope : Scope) (word : String) : UsageError :=
  if scope.commands.isEmpty then .argumentUnknown word else .commandUnknown word

/-- The error for a word behind two hyphens, where no command may stand either. -/
def strayAfterStop (scope : Scope) (word : String) : UsageError :=
  if (scope.command? word).isSome then .argumentUnknown word else scope.stray word

end Scope

/-- The error for the words behind the command for help, which name commands to be helped with. -/
def helpError : List String → UsageError
  | [] => .helpWanted
  | [word] => if (Scope.top.command? word).isSome then .helpWanted else .commandUnknown word
  | word :: next :: _ =>
    if (Scope.top.command? word).isSome then .commandUnknown next else .commandUnknown word

/-- Reads the words of one scope, up to a command if there is one. The words behind the command are
left over. -/
def readScope (scope : Scope) :
    List String → Reading → Except UsageError (Reading × Option (Scope × List String))
  | [], r => .ok (r, none)
  | word :: words, r =>
    match Shape.of word with
    | .stop =>
      match words with
      | [] => .ok (r, none)
      | next :: _ => .error (scope.strayAfterStop next)
    | .long name attached =>
      match scope.long? name with
      | none => .error (.argumentUnknown word)
      | some option =>
        match r.meet option attached with
        | .error e => .error e
        | .ok r => readScope scope words r
    | .short name rest =>
      match scope.short? name with
      | none => .error (.argumentUnknown word)
      | some option =>
        match r.meet option (if option.takesValue then attachedTo rest else none) with
        | .error e => .error e
        | .ok r => readScope scope words r
    | .plain =>
      match r.pending with
      | .awaiting option => readScope scope words { r with pending := .valued option word }
      | _ =>
        match scope.command? word with
        | some (some inner) => .ok (r, some (inner, words))
        | some none => .error (helpError words)
        | none => .error (scope.stray word)

/-- Reads the words of a scope that no command can follow. -/
def readLast (scope : Scope) (words : List String) : Except UsageError (List Setting) :=
  match readScope scope words {} with
  | .error e => .error e
  | .ok (r, _) => r.settle.map fun r => r.given.map Prod.snd

/-- A simulation with one setting applied. -/
def SimulateOptions.apply (o : SimulateOptions) : Setting → SimulateOptions
  | .command payload => { o with commands := o.commands ++ [payload] }
  | .event payload => { o with events := o.events ++ [payload] }
  | .status status => { o with status }
  | .script path => { o with script := some path }
  | .driver driver => { o with driver }
  | .maxCycles maxCycles => { o with maxCycles }
  | _ => o

/-- The command of a scope with some settings. -/
def commandOf (scope : Scope) (settings : List Setting) : Command :=
  match scope with
  | .version => .version (settings.contains .extended)
  | .top | .simulate => .simulate (settings.foldl SimulateOptions.apply {})

/-- An invocation with one of the settings applied that every command shares. -/
def Invocation.apply (i : Invocation) : Setting → Invocation
  | .format f => { i with format := some f }
  | .logFormat logFormat => { i with logFormat }
  | .logLevel logLevel => { i with logLevel }
  | _ => i

/-- What a command line asks for. Of a setting that is given before and behind the command, the one
behind it counts. -/
def parse (words : List String) : Except UsageError Invocation :=
  match readScope .top words {} with
  | .error e => .error e
  | .ok (r, some (scope, words)) =>
    match readLast scope words with
    | .error e => .error e
    | .ok inner =>
      r.settle.map fun r =>
        (r.given.map Prod.snd ++ inner).foldl Invocation.apply { command := commandOf scope inner }
  | .ok (r, none) =>
    match r.settle with
    | .error e => .error e
    | .ok r => .error (if r.given.isEmpty then .nothingGiven else .commandMissing)

end RadioLink.CommandLine
