import RadioLink.Duration

/-!
# Link configuration

How a board drives its link: the divider between the core clock and the bus clock, whether READY
raises an interrupt or is polled, and how long the radio is left alone after a reset.
-/

namespace RadioLink

/-- The divider between the host's core clock and the bus clock. -/
inductive ClockDivider where
  | div2
  | div4
  | div8
  | div16
  | div32
  | div64
  | div128
  deriving DecidableEq

namespace ClockDivider

/-- A link runs at an eighth of the core clock unless it is told otherwise. -/
instance : Inhabited ClockDivider := ⟨div8⟩

/-- Every divider. -/
def all : List ClockDivider :=
  [div2, div4, div8, div16, div32, div64, div128]

/-- The name of a divider in a configuration. -/
def name : ClockDivider → String
  | div2 => "div2"
  | div4 => "div4"
  | div8 => "div8"
  | div16 => "div16"
  | div32 => "div32"
  | div64 => "div64"
  | div128 => "div128"

/-- The number by which the core clock is divided. -/
def divisor : ClockDivider → UInt32
  | div2 => 2
  | div4 => 4
  | div8 => 8
  | div16 => 16
  | div32 => 32
  | div64 => 64
  | div128 => 128

/-- The bus clock that a core clock gives, rounded down to whole hertz. -/
def busFrequency (d : ClockDivider) (coreHz : UInt32) : UInt32 :=
  coreHz / d.divisor

end ClockDivider

/-- How the READY line reaches the host. -/
inductive InterfaceMode where
  /-- An edge of the line raises an interrupt that drives the transport. -/
  | interrupt
  /-- The application polls the transport. -/
  | polling
  deriving DecidableEq

namespace InterfaceMode

instance : Inhabited InterfaceMode := ⟨interrupt⟩

/-- Both modes. -/
def all : List InterfaceMode :=
  [interrupt, polling]

/-- The name of a mode in a configuration. -/
def name : InterfaceMode → String
  | interrupt => "interrupt"
  | polling => "polling"

end InterfaceMode

/-- The configuration of a link. -/
structure LinkConfig where
  /-- The bus clock. -/
  clockDivider : ClockDivider := .div8
  /-- The wiring of the READY line. -/
  interface : InterfaceMode := .interrupt
  /-- The time after a reset pulse in which the radio takes hold of its lines. -/
  resetSettle : Duration := .ofMillis 30
  deriving DecidableEq

instance : Inhabited LinkConfig := ⟨{}⟩

end RadioLink
