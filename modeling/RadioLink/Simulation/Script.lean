import RadioLink.Failure
import RadioLink.Json.Settings
import RadioLink.Radio

/-!
# Simulation scripts

A script gives the commands to send and the events that the radio delivers, both as hexadecimal
text, and the settings of transport and radio. `Script.plan` reads the payloads: first those of the
events, then those of the commands, and the first that cannot be read is reported.
-/

namespace RadioLink.Simulation

open Json (Value)

/-- A frame of a simulation. -/
abbrev StandardFrame : Type :=
  Frame Frame.defaultCapacity

/-- An event as a script gives it. -/
structure ScriptEvent where
  /-- The status byte. -/
  status : UInt8 := 0
  /-- The payload in hexadecimal. -/
  payload : String
  deriving DecidableEq

/-- A script. -/
structure Script where
  /-- The payloads of the commands in hexadecimal. -/
  commands : List String := []
  /-- The events. -/
  events : List ScriptEvent := []
  /-- The configuration of the transport. -/
  transport : TransportConfig := {}
  /-- The byte that the radio clocks out past the end of a frame. -/
  filler : Option UInt8 := none
  /-- The status byte of an idle radio. -/
  idleStatus : UInt8 := 0
  deriving DecidableEq

/-- The event that a JSON value stands for. Its payload is required. -/
def ScriptEvent.ofJson? (v : Value) : Option ScriptEvent :=
  match v.fields? ["status", "payload"] with
  | some [status, some payload] => do
    let status ← Value.orDefault? 0 Value.byte? status
    let payload ← payload.string?
    some { status, payload }
  | _ => none

namespace Script

/-- The fields of a script. -/
def fieldNames : List String :=
  ["commands", "events", "transport", "filler", "idle_status"]

/-- The script that a JSON value stands for. -/
def ofJson? (v : Value) : Option Script :=
  match v.fields? fieldNames with
  | some [commands, events, transport, filler, idleStatus] => do
    let commands ← Value.orDefault? [] (Value.list? Value.string?) commands
    let events ← Value.orDefault? [] (Value.list? ScriptEvent.ofJson?) events
    let transport ← Value.orDefault? {} TransportConfig.ofJson? transport
    let filler ← Value.orDefault? none (Value.nullable? Value.byte?) filler
    let idleStatus ← Value.orDefault? 0 Value.byte? idleStatus
    some { commands, events, transport, filler, idleStatus }
  | _ => none

/-- The script in a document. -/
def parse? (document : String) : Option Script :=
  (Json.parse? document).bind ofJson?

/-- The script with further commands and events after its own. -/
def extend (commands : List String) (events : List ScriptEvent) (s : Script) : Script :=
  { s with commands := s.commands ++ commands, events := s.events ++ events }

end Script

/-- What a simulation starts from. -/
structure Plan where
  /-- The commands to send. -/
  commands : List StandardFrame := []
  /-- The radio, with its events. -/
  radio : Radio := {}
  /-- The configuration of the transport. -/
  config : TransportConfig := {}

/-- The bytes of a payload. -/
def readPayload (text : String) : Except Failure (List UInt8) :=
  match Text.Hex.decode text with
  | .ok bytes => .ok bytes
  | .error .malformed => .error (.malformedPayload text)
  | .error .odd => .error (.oddPayload text)

/-- The event that a radio is given for an event of a script. -/
def readEvent (event : ScriptEvent) : Except Failure RadioEvent :=
  (readPayload event.payload).map (RadioEvent.ofPayload event.status)

/-- The frame of a command. -/
def readCommand (text : String) : Except Failure StandardFrame :=
  match readPayload text with
  | .error failure => .error failure
  | .ok payload =>
    match Frame.command payload with
    | .error error => .error (.command text error)
    | .ok frame => .ok frame

/-- The plan of a script. -/
def Script.plan (s : Script) : Except Failure Plan :=
  match s.events.mapM readEvent with
  | .error failure => .error failure
  | .ok events =>
    match s.commands.mapM readCommand with
    | .error failure => .error failure
    | .ok commands =>
      .ok {
        commands
        radio := { events, filler := s.filler.getD 0, idleStatus := s.idleStatus }
        config := s.transport }

end RadioLink.Simulation
