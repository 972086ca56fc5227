/-!
# Flow control

Whether a cycle exchanges a frame, waits or stands back depends on three facts alone: whether a
command is queued, whether the event queue is full and whether the radio is ready. These decisions
keep no state, since all three facts may change between the moment REQUEST is asserted and the
moment the radio answers.

Every transfer brings a frame back, so a full event queue stops all of them: it wins over everything
else.
-/

namespace RadioLink

/-- The phase of the handshake between host and radio. -/
inductive Phase where
  /-- REQUEST is deasserted. -/
  | idle
  /-- REQUEST is asserted and the radio has not answered yet. -/
  | requestPending
  /-- A frame is being exchanged. -/
  | transferring
  deriving DecidableEq

/-- The name of a phase in a transport's text. -/
def Phase.name : Phase → String
  | .idle => "Idle"
  | .requestPending => "RequestPending"
  | .transferring => "Transferring"

/-- The phase that a level of the REQUEST line stands for while no transfer runs. -/
def Phase.atRest (requested : Bool) : Phase :=
  if requested then .requestPending else .idle

namespace Flow

/-- What a cycle does. -/
inductive Decision where
  /-- The event queue is full: no transfer, and REQUEST is deasserted. -/
  | backpressured
  /-- The radio is not ready: hold REQUEST at this level. -/
  | wait (request : Bool)
  /-- The radio is ready and what it sends can be stored: exchange a frame. -/
  | transfer
  deriving DecidableEq

/-- Whether REQUEST belongs asserted: there is a command to send and room for an event. -/
def shouldRequest (commandQueued eventsFull : Bool) : Bool :=
  commandQueued && !eventsFull

/-- Whether a transfer may run now. -/
def canTransfer (eventsFull ready : Bool) : Bool :=
  !eventsFull && ready

/-- The decision of one cycle. -/
def decide (commandQueued eventsFull ready : Bool) : Decision :=
  if eventsFull then
    .backpressured
  else if canTransfer eventsFull ready then
    .transfer
  else
    .wait (shouldRequest commandQueued eventsFull)

end Flow

end RadioLink
