import RadioLink.Simulation.Basic
import RadioLink.Text.Table

/-!
# Simulation reports

The course of a simulation as it is printed: its events as they come, then its summary. There are
four formats: JSON, one object a line; tables; lines of plain text; and raw, which is the payloads
of the events and nothing else. How a table is drawn is for the terminal to say, so it is a
parameter here (`draw`).
-/

namespace RadioLink.Simulation

open Json (Value)

/-- A format of reports. -/
inductive Format where
  /-- One JSON object a line. -/
  | json
  /-- Tables in boxes. -/
  | table
  /-- Lines of plain text. -/
  | pretty
  /-- The bytes of the payloads. -/
  | raw
  deriving DecidableEq

namespace Format

/-- Every format. -/
def all : List Format :=
  [json, table, pretty, raw]

/-- The name of a format on the command line. -/
def name : Format → String
  | json => "json"
  | table => "table"
  | pretty => "pretty"
  | raw => "raw"

end Format

/-- The JSON value of an event. -/
def eventJson (index : Nat) (event : StandardFrame) : Value :=
  .object [
    (some "kind", .ofString "event"),
    (some "index", .ofNat index),
    (some "status", .ofNat event.status.toNat),
    (some "length", .ofNat event.length.toNat),
    (some "payload", .ofString (Text.Hex.encode event.payload))]

/-- A byte in hexadecimal, with its mark. -/
def markedHex (byte : UInt8) : String :=
  "0x" ++ Text.Hex.encode [byte]

/-- The table of an event. -/
def eventTable (index : Nat) (event : StandardFrame) : Text.Table where
  header := ["#", "STATUS", "LENGTH", "PAYLOAD"]
  rows := [[toString index, markedHex event.status, toString event.length.toNat,
    Text.Hex.encode event.payload]]

/-- The line of an event. -/
def eventLine (index : Nat) (event : StandardFrame) : String :=
  "event #" ++ toString index ++ " status=" ++ markedHex event.status ++ " length="
    ++ toString event.length.toNat ++ " payload=" ++ Text.Hex.encode event.payload

/-- A text and a line break. -/
def asLine (text : String) : ByteArray :=
  (text ++ "\n").toUTF8

/-- What is printed for an event. -/
def Format.event (draw : Text.Table → String) (format : Format) (index : Nat)
    (event : StandardFrame) : ByteArray :=
  match format with
  | .json => asLine (eventJson index event).render
  | .table => asLine (draw (eventTable index event))
  | .pretty => asLine (eventLine index event)
  | .raw => event.payload.toByteArray

namespace Summary

/-- The JSON value of a summary. -/
def toJson (s : Summary) : Value :=
  .object [
    (some "kind", .ofString "summary"),
    (some "cycles", .ofNat s.cycles),
    (some "transfers", .ofNat s.stats.transfers),
    (some "empty_polls", .ofNat s.stats.emptyPolls),
    (some "commands_sent", .ofNat s.stats.commandsSent),
    (some "events_received", .ofNat s.stats.eventsReceived),
    (some "events_dropped", .ofNat s.stats.eventsDropped),
    (some "backpressure_stalls", .ofNat s.stats.backpressureStalls),
    (some "delivered_commands", .array (s.delivered.map fun c => .ofString (Text.Hex.encode c)))]

/-- The table of a summary. -/
def toTable (s : Summary) : Text.Table where
  header := ["METRIC", "VALUE"]
  rows := [
    ["cycles", toString s.cycles],
    ["transfers", toString s.stats.transfers],
    ["empty polls", toString s.stats.emptyPolls],
    ["commands sent", toString s.stats.commandsSent],
    ["events received", toString s.stats.eventsReceived],
    ["backpressure stalls", toString s.stats.backpressureStalls]]

/-- The lines of a summary: one of counters, and one for each command delivered. -/
def lines (s : Summary) : List String :=
  ("cycles=" ++ toString s.cycles ++ " transfers=" ++ toString s.stats.transfers
    ++ " empty_polls=" ++ toString s.stats.emptyPolls
    ++ " commands_sent=" ++ toString s.stats.commandsSent
    ++ " events_received=" ++ toString s.stats.eventsReceived
    ++ " stalls=" ++ toString s.stats.backpressureStalls) ::
  s.delivered.map fun c => "radio got command " ++ Text.Hex.encode c

end Summary

/-- Pieces of output, one after the other. -/
def concat (pieces : List ByteArray) : ByteArray :=
  pieces.foldl (· ++ ·) ByteArray.empty

/-- What is printed for a summary. -/
def Format.summary (draw : Text.Table → String) (format : Format) (s : Summary) : ByteArray :=
  match format with
  | .json => asLine s.toJson.render
  | .table => asLine (draw s.toTable)
  | .pretty => concat (s.lines.map asLine)
  | .raw => ByteArray.empty

/-- What is printed for the course of a simulation. -/
def Course.print (draw : Text.Table → String) (format : Format) (c : Course) : ByteArray :=
  concat (c.events.zipIdx.map fun (event, index) => format.event draw index event)
    ++ (c.summary.map (format.summary draw)).getD ByteArray.empty

end RadioLink.Simulation
