import RadioLink.Frame.Basic
import RadioLink.Transport.Error

/-!
# Failures

Why a command that was understood did not succeed. Each failure has a text and the exit code that
tells a calling program what kind of failure it is.
-/

namespace RadioLink

/-- The kinds of file errors that are told apart. -/
inductive FileErrorKind where
  /-- There is no such file. -/
  | notFound
  /-- The file may not be read. -/
  | permissionDenied
  /-- Anything else. -/
  | other
  deriving DecidableEq

/-- Why a file could not be read. -/
structure FileError where
  /-- The kind of error. -/
  kind : FileErrorKind
  /-- The text of the error. -/
  detail : String
  deriving DecidableEq

namespace ExitCode

/-- The command did what it was asked to. -/
def success : Nat := 0

/-- The command did only a part of it. -/
def failure : Nat := 1

/-- The link or the transport failed. -/
def transportError : Nat := 3

/-- A file may not be read. -/
def permissionDenied : Nat := 50

/-- The data given is not valid. -/
def dataInvalid : Nat := 60

/-- The command was used wrongly. -/
def usage : Nat := 64

/-- Something else went wrong. -/
def internal : Nat := 125

end ExitCode

/-- Why a command failed. What was being done is given as a context where several steps fail
alike. -/
inductive Failure where
  /-- A file could not be read. -/
  | file (context : String) (error : FileError)
  /-- The link failed. -/
  | link (context : String) (error : LinkError)
  /-- The transport failed. -/
  | transport (context : String) (error : TransportError)
  /-- A script is no valid document. -/
  | script (path : String)
  /-- A payload is no hexadecimal text. -/
  | malformedPayload (text : String)
  /-- A payload ends in the middle of a byte. -/
  | oddPayload (text : String)
  /-- A command does not fit a frame. -/
  | command (text : String) (error : FrameError)
  /-- Some commands were not delivered within the cycles allowed. -/
  | undelivered (commands cycles : Nat)
  deriving DecidableEq

namespace Failure

/-- The text of a failure. A failing link is reported by its own words also when it failed under a
transport. -/
def message : Failure → String
  | file context error => context ++ ": " ++ error.detail
  | link context error => context ++ ": " ++ error.message
  | transport context (.link cause) => context ++ ": " ++ cause.message
  | transport context error => context ++ ": " ++ error.message
  | script path => "invalid script " ++ path
  | malformedPayload text => "invalid hex payload: " ++ text
  | oddPayload text => "hex payload has an odd number of digits: " ++ text
  | command text error => "command " ++ text ++ ": " ++ error.message
  | undelivered commands cycles => s!"{commands} command(s) undelivered after {cycles} cycles"

/-- The exit code of a failure. -/
def exitCode : Failure → Nat
  | file _ ⟨.notFound, _⟩ => ExitCode.usage
  | file _ ⟨.permissionDenied, _⟩ => ExitCode.permissionDenied
  | file _ ⟨.other, _⟩ => ExitCode.internal
  | link .. => ExitCode.transportError
  | transport _ (.link _) | transport _ (.eventOverflow _) | transport _ .faulted =>
    ExitCode.transportError
  | transport _ (.frameTooLong ..) => ExitCode.dataInvalid
  | transport _ (.commandQueueFull _) => ExitCode.failure
  | transport _ .poisoned => ExitCode.internal
  | script _ | command .. => ExitCode.dataInvalid
  | malformedPayload _ | oddPayload _ => ExitCode.usage
  | undelivered .. => ExitCode.failure

end Failure

end RadioLink
