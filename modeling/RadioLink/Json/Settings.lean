import RadioLink.Json.Decode
import RadioLink.Json.Parser
import RadioLink.Json.Printer
import RadioLink.Link.Config
import RadioLink.Transport.Config

/-!
# Settings as JSON

The configurations of links and transports as JSON values. A configuration is a record whose fields
all have defaults; an enumeration is its name; a duration is a record of seconds and nanoseconds,
both of which are required.
-/

namespace RadioLink

open Json (Value)

namespace Duration

/-- The fields of a duration. -/
def fieldNames : List String :=
  ["secs", "nanos"]

/-- The JSON value of a duration. -/
def toJson (d : Duration) : Value :=
  .object [(some "secs", .ofNat d.seconds.toNat), (some "nanos", .ofNat d.nanos.toNat)]

/-- The duration that a JSON value stands for. -/
def ofJson? (v : Value) : Option Duration :=
  match v.strictFields? fieldNames with
  | some [some seconds, some nanos] => do
    let seconds ← seconds.natBelow? UInt64.size
    let nanos ← nanos.natBelow? UInt32.size
    ofParts? (UInt64.ofNat seconds) (UInt32.ofNat nanos)
  | _ => none

end Duration

namespace ClockDivider

/-- The JSON value of a divider. -/
def toJson (d : ClockDivider) : Value :=
  .ofString d.name

/-- The divider that a JSON value stands for. -/
def ofJson? : Value → Option ClockDivider :=
  Value.oneOf? name all

end ClockDivider

namespace InterfaceMode

/-- The JSON value of a mode. -/
def toJson (m : InterfaceMode) : Value :=
  .ofString m.name

/-- The mode that a JSON value stands for. -/
def ofJson? : Value → Option InterfaceMode :=
  Value.oneOf? name all

end InterfaceMode

namespace OverflowPolicy

/-- The JSON value of a policy. -/
def toJson (p : OverflowPolicy) : Value :=
  .ofString p.name

/-- The policy that a JSON value stands for. -/
def ofJson? : Value → Option OverflowPolicy :=
  Value.oneOf? name all

end OverflowPolicy

namespace LinkConfig

/-- The fields of a link configuration. -/
def fieldNames : List String :=
  ["spi_clock_divider", "interface", "reset_settle"]

/-- The JSON value of a link configuration. -/
def toJson (c : LinkConfig) : Value :=
  .object [
    (some "spi_clock_divider", c.clockDivider.toJson),
    (some "interface", c.interface.toJson),
    (some "reset_settle", c.resetSettle.toJson)]

/-- The link configuration that a JSON value stands for. -/
def ofJson? (v : Value) : Option LinkConfig :=
  match v.fields? fieldNames with
  | some [divider, interface, settle] => do
    let standard : LinkConfig := default
    let clockDivider ← Value.orDefault? standard.clockDivider ClockDivider.ofJson? divider
    let interface ← Value.orDefault? standard.interface InterfaceMode.ofJson? interface
    let resetSettle ← Value.orDefault? standard.resetSettle Duration.ofJson? settle
    some { clockDivider, interface, resetSettle }
  | _ => none

/-- The link configuration in a document. -/
def parse? (document : String) : Option LinkConfig :=
  (Json.parse? document).bind ofJson?

/-- The document of a link configuration. -/
def render (c : LinkConfig) : String :=
  c.toJson.render

end LinkConfig

namespace TransportConfig

/-- The fields of a transport configuration. -/
def fieldNames : List String :=
  ["overflow_policy", "reset_on_init"]

/-- The JSON value of a transport configuration. -/
def toJson (c : TransportConfig) : Value :=
  .object [
    (some "overflow_policy", c.overflowPolicy.toJson),
    (some "reset_on_init", .bool c.resetOnInit)]

/-- The transport configuration that a JSON value stands for. -/
def ofJson? (v : Value) : Option TransportConfig :=
  match v.fields? fieldNames with
  | some [policy, reset] => do
    let standard : TransportConfig := default
    let overflowPolicy ← Value.orDefault? standard.overflowPolicy OverflowPolicy.ofJson? policy
    let resetOnInit ← Value.orDefault? standard.resetOnInit Value.bool? reset
    some { overflowPolicy, resetOnInit }
  | _ => none

/-- The transport configuration in a document. -/
def parse? (document : String) : Option TransportConfig :=
  (Json.parse? document).bind ofJson?

/-- The document of a transport configuration. -/
def render (c : TransportConfig) : String :=
  c.toJson.render

end TransportConfig

end RadioLink
