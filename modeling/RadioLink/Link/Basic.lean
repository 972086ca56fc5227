/-!
# Links

A link is what a transport drives: it exchanges bytes, holds the REQUEST line, samples the READY
line and resets the radio. `Link` asks for these four primitives of a state type. Each of them may
fail at any call, and gives back the state that it leaves behind whether it failed or not, so
nothing is assumed about what a failure did.

Levels are logical: `true` is asserted, whatever the voltage on the wire.
-/

namespace RadioLink

/-- The lines between host and radio. -/
inductive Line where
  /-- The line that the host asserts to ask for a transfer. -/
  | request
  /-- The line that the radio asserts when it can take part in a transfer. -/
  | ready
  /-- The line that resets the radio. -/
  | reset
  deriving DecidableEq

/-- The name printed on the radio's pin. -/
def Line.name : Line → String
  | .request => "REQN"
  | .ready => "RDYN"
  | .reset => "RESET"

/-- Why a primitive of a link failed. -/
inductive LinkError where
  /-- A byte could not be exchanged. -/
  | exchange (detail : String)
  /-- A line could not be driven or sampled. -/
  | pin (line : Line) (detail : String)
  deriving DecidableEq

/-- The text of a link error. -/
def LinkError.message : LinkError → String
  | .exchange detail => "byte exchange failed: " ++ detail
  | .pin line detail => "failed to access " ++ line.name ++ " line: " ++ detail

/-- The primitives of a link whose state is `σ`. -/
class Link (σ : Type) where
  /-- Sends a byte and gives the byte received meanwhile. -/
  exchange : UInt8 → σ → Except LinkError UInt8 × σ
  /-- Drives the REQUEST line. -/
  setRequest : Bool → σ → Except LinkError Unit × σ
  /-- Samples the READY line. -/
  readReady : σ → Except LinkError Bool × σ
  /-- Brings the radio into a known state, with REQUEST deasserted. -/
  reset : σ → Except LinkError Unit × σ

end RadioLink
