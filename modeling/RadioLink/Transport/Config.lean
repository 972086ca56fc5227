/-!
# Transport configuration

What a transport does with an event that it has no room for, and whether it resets the radio when it
is brought up.
-/

namespace RadioLink

/-- What to do when a received frame finds the event queue full. Flow control keeps this from
happening, so reaching it means that flow control was bypassed. -/
inductive OverflowPolicy where
  /-- Latch a fault and refuse further work until a flush. -/
  | fault
  /-- Discard the oldest queued event and go on. -/
  | dropOldest
  deriving DecidableEq

namespace OverflowPolicy

instance : Inhabited OverflowPolicy := ⟨fault⟩

/-- Both policies. -/
def all : List OverflowPolicy :=
  [fault, dropOldest]

/-- The name of a policy in a configuration. -/
def name : OverflowPolicy → String
  | fault => "fault"
  | dropOldest => "drop_oldest"

end OverflowPolicy

/-- The configuration of a transport. -/
structure TransportConfig where
  /-- What happens to an event without room. -/
  overflowPolicy : OverflowPolicy := .fault
  /-- Whether bringing up the transport resets the radio. -/
  resetOnInit : Bool := true
  deriving DecidableEq

instance : Inhabited TransportConfig := ⟨{}⟩

end RadioLink
