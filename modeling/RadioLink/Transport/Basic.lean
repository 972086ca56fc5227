import RadioLink.Flow
import RadioLink.Frame.Queue
import RadioLink.Transfer
import RadioLink.Transport.Config
import RadioLink.Transport.Error

/-!
# The transport

A transport owns a link and two bounded queues: commands on their way to the radio and events on
their way to the application. It runs in cycles. A cycle looks at the queues and the READY line
afresh (`Flow.decide`) and then exchanges one frame, waits with REQUEST at the level that the queues
ask for, or stands back because the event queue is full.

`Transport.requestAsserted` is what the transport takes the level of the REQUEST line to be. The
line is only driven when the wanted level differs from it (`driveRequest`); a transfer drives the
line itself and leaves it released. Every operation answers with a `Reply`: its result and the
transport that it leaves behind, whether it failed or not.
-/

namespace RadioLink

/-- The counters of a transport. They are natural numbers, which do not wrap around; a counter of 64
bits agrees with them as long as less than `2 ^ 64` has been counted. -/
structure Stats where
  /-- Completed transfers. -/
  transfers : Nat := 0
  /-- Completed transfers that had nothing to send. -/
  emptyPolls : Nat := 0
  /-- Completed transfers that sent a command. -/
  commandsSent : Nat := 0
  /-- Events stored in the event queue. -/
  eventsReceived : Nat := 0
  /-- Events discarded for want of room. -/
  eventsDropped : Nat := 0
  /-- Cycles skipped because the event queue was full. -/
  backpressureStalls : Nat := 0
  deriving DecidableEq

/-- What is known of a completed transfer. -/
structure TransferSummary where
  /-- The length of the command sent, zero if there was none. -/
  sent : UInt8
  /-- The length that the radio declared. -/
  received : UInt8
  /-- The status byte that the radio reported. -/
  status : UInt8
  /-- The payload bytes exchanged after the header. -/
  exchanged : Nat
  /-- Whether the received frame was queued as an event. -/
  eventQueued : Bool
  deriving DecidableEq

/-- What a cycle did. -/
inductive Cycle where
  /-- The event queue is full and nothing was attempted. -/
  | backpressured
  /-- REQUEST is asserted and the radio is not ready yet. -/
  | waiting
  /-- There is nothing to send and the radio is not ready. -/
  | idle
  /-- A frame was exchanged. -/
  | transferred (summary : TransferSummary)
  deriving DecidableEq

/-- A transport over a link of state `σ`, for frames of `max` payload bytes and queues of `depth`
frames. -/
structure Transport (σ : Type) (max depth : Nat) where
  /-- The link. -/
  link : σ
  /-- The commands to send. -/
  commands : Queue (Frame max) depth := .empty
  /-- The events received. -/
  events : Queue (Frame max) depth := .empty
  /-- The configuration. -/
  config : TransportConfig := {}
  /-- The level of the REQUEST line, as far as the transport knows. -/
  requestAsserted : Bool := false
  /-- The phase of the handshake. -/
  phase : Phase := .idle
  /-- Whether an overflow has halted the transport. -/
  faulted : Bool := false
  /-- The counters. -/
  stats : Stats := {}

namespace Transport

variable {σ : Type} {max depth : Nat}

/-- Brings up a transport: resets the radio if that is configured, and deasserts REQUEST. If that
fails, the link is handed back with the error. -/
def init [Link σ] (link : σ) (config : TransportConfig) :
    Except (TransportError × σ) (Transport σ max depth) :=
  match if config.resetOnInit then Link.reset link else (.ok (), link) with
  | (.error e, link) => .error (.link e, link)
  | (.ok (), link) =>
    match Link.setRequest false link with
    | (.error e, link) => .error (.link e, link)
    | (.ok (), link) => .ok { link, config }

/-! ## The REQUEST line -/

/-- Drives REQUEST to a level, unless it is known to be there. A failure leaves the known level as
it was. -/
def driveRequest [Link σ] (level : Bool) (t : Transport σ max depth) :
    Reply Unit (Transport σ max depth) :=
  if t.requestAsserted = level then
    (.ok (), t)
  else
    match Link.setRequest level t.link with
    | (.error e, link) => (.error (.link e), { t with link })
    | (.ok (), link) => (.ok (), { t with link, requestAsserted := level })

/-- Drives REQUEST to a level and rests in the phase that goes with it. -/
def holdRequest [Link σ] (level : Bool) (t : Transport σ max depth) :
    Reply Unit (Transport σ max depth) :=
  match t.driveRequest level with
  | (.error e, t) => (.error e, t)
  | (.ok (), t) => (.ok (), { t with phase := .atRest level })

/-- The level of REQUEST that the queues ask for. -/
def wantsRequest (t : Transport σ max depth) : Bool :=
  Flow.shouldRequest (!t.commands.isEmpty) t.events.isFull

/-- Brings REQUEST to the level that the queues ask for. -/
def syncRequest [Link σ] (t : Transport σ max depth) : Reply Unit (Transport σ max depth) :=
  t.holdRequest t.wantsRequest

/-! ## Cycles -/

/-- Stores a received event. Without room for it the overflow policy decides: the transport halts
and the event is lost, or the oldest event makes room. -/
def deliver [Link σ] (event : Frame max) (t : Transport σ max depth) :
    Reply Unit (Transport σ max depth) :=
  match t.events.enqueue event with
  | .ok events =>
    (.ok (), { t with
      events, stats := { t.stats with eventsReceived := t.stats.eventsReceived + 1 } })
  | .error event =>
    match t.config.overflowPolicy with
    | .fault =>
      let (_, t) := driveRequest false { t with faulted := true, phase := .idle }
      (.error (.eventOverflow depth), t)
    | .dropOldest =>
      let stats := { t.stats with eventsDropped := t.stats.eventsDropped + 1 }
      match t.events.tail.enqueue event with
      | .ok events =>
        (.ok (), { t with
          events, stats := { stats with eventsReceived := stats.eventsReceived + 1 } })
      | .error _ => (.ok (), { t with events := t.events.tail, stats })

/-- Counts a completed transfer, which did or did not send a command. -/
def countTransfer (sentCommand : Bool) (t : Transport σ max depth) : Transport σ max depth :=
  let stats := { t.stats with transfers := t.stats.transfers + 1 }
  { t with stats :=
      if sentCommand then
        { stats with commandsSent := stats.commandsSent + 1 }
      else
        { stats with emptyPolls := stats.emptyPolls + 1 } }

/-- Stores what a transfer brought, if it is an event. -/
def accept [Link σ] (outcome : Transfer.Outcome max) (t : Transport σ max depth) :
    Reply Unit (Transport σ max depth) :=
  if outcome.hasEvent then t.deliver outcome.received else (.ok (), t)

/-- Exchanges the oldest command, or an empty frame if there is none, for a frame from the radio.
The command has left its queue whether it arrives or not. An empty frame from the radio is no
event. -/
def runTransfer [Link σ] (t : Transport σ max depth) : Reply Cycle (Transport σ max depth) :=
  let outbound := t.commands.peek?
  let frame := outbound.getD .empty
  let (answer, link) := Transfer.run frame t.link
  let t := { t with
    link, commands := t.commands.tail, requestAsserted := false, phase := .transferring }
  match answer with
  | .error e =>
    let (_, t) := syncRequest { t with phase := .idle }
    (.error (.link e), t)
  | .ok outcome =>
    let t := t.countTransfer outbound.isSome
    match t.accept outcome with
    | (.error e, t) => (.error e, t)
    | (.ok (), t) =>
      match t.syncRequest with
      | (.error e, t) => (.error e, t)
      | (.ok (), t) =>
        (.ok (.transferred {
          sent := frame.length
          received := outcome.received.length
          status := outcome.received.status
          exchanged := outcome.exchanged
          eventQueued := outcome.hasEvent }), t)

/-- Samples READY, unless the event queue is full and the answer would not matter. -/
def sampleReady [Link σ] (t : Transport σ max depth) : Reply Bool (Transport σ max depth) :=
  if t.events.isFull then
    (.ok false, t)
  else
    match Link.readReady t.link with
    | (.error e, link) => (.error (.link e), { t with link })
    | (.ok ready, link) => (.ok ready, { t with link })

/-- Counts a cycle that the full event queue made idle. -/
def countStall (t : Transport σ max depth) : Transport σ max depth :=
  { t with stats := { t.stats with backpressureStalls := t.stats.backpressureStalls + 1 } }

/-- Runs one cycle. -/
def cycle [Link σ] (t : Transport σ max depth) : Reply Cycle (Transport σ max depth) :=
  match t.sampleReady with
  | (.error e, t) => (.error e, t)
  | (.ok ready, t) =>
    match Flow.decide (!t.commands.isEmpty) t.events.isFull ready with
    | .backpressured =>
      match t.countStall.syncRequest with
      | (.error e, t) => (.error e, t)
      | (.ok (), t) => (.ok .backpressured, t)
    | .wait request =>
      match t.holdRequest request with
      | (.error e, t) => (.error e, t)
      | (.ok (), t) => (.ok (if request then .waiting else .idle), t)
    | .transfer => t.runTransfer

/-! ## Operations -/

/-- Refuses an operation on a transport that an overflow has halted. -/
def whenHealthy {α : Type} (run : Transport σ max depth → Reply α (Transport σ max depth))
    (t : Transport σ max depth) : Reply α (Transport σ max depth) :=
  if t.faulted then (.error .faulted, t) else run t

/-- Queues a command. A frame that declares more than it can carry and a frame without room in the
queue are refused. -/
def send [Link σ] (frame : Frame max) :
    Transport σ max depth → Reply Unit (Transport σ max depth) :=
  whenHealthy fun t =>
    if frame.fits then
      match t.commands.enqueue frame with
      | .error _ => (.error (.commandQueueFull depth), t)
      | .ok commands => syncRequest { t with commands }
    else
      (.error (.frameTooLong frame.length.toNat max), t)

/-- Drives one cycle for an application that polls. -/
def poll [Link σ] : Transport σ max depth → Reply Cycle (Transport σ max depth) :=
  whenHealthy cycle

/-- Drives one cycle for the handler of a READY edge. -/
def onReadyEdge [Link σ] : Transport σ max depth → Reply Cycle (Transport σ max depth) :=
  whenHealthy cycle

/-- Runs a cycle if there is room for another event. -/
def refill [Link σ] (t : Transport σ max depth) : Reply Unit (Transport σ max depth) :=
  if t.events.isFull then
    (.ok (), t)
  else
    match t.cycle with
    | (.error e, t) => (.error e, t)
    | (.ok _, t) => (.ok (), t)

/-- Takes the oldest event, after a cycle if there is room for another one. -/
def tryReceive [Link σ] :
    Transport σ max depth → Reply (Option (Frame max)) (Transport σ max depth) :=
  whenHealthy fun t =>
    match t.refill with
    | (.error e, t) => (.error e, t)
    | (.ok (), t) =>
      match t.events.dequeue with
      | (none, _) => (.ok none, t)
      | (some event, events) =>
        match syncRequest { t with events } with
        | (.error e, t) => (.error e, t)
        | (.ok (), t) => (.ok (some event), t)

/-- Samples the READY line. -/
def isPeerReady [Link σ] (t : Transport σ max depth) : Reply Bool (Transport σ max depth) :=
  match Link.readReady t.link with
  | (.error e, link) => (.error (.link e), { t with link })
  | (.ok ready, link) => (.ok ready, { t with link })

/-- Empties both queues, clears a latched fault and deasserts REQUEST. -/
def flush [Link σ] (t : Transport σ max depth) : Reply Unit (Transport σ max depth) :=
  match driveRequest false { t with commands := .empty, events := .empty, faulted := false } with
  | (.error e, t) => (.error e, t)
  | (.ok (), t) => (.ok (), { t with phase := .idle })

/-- The text that shows a transport to a developer. -/
def describe (t : Transport σ max depth) : String :=
  "Transport \x7b state: " ++ t.phase.name
    ++ ", request_asserted: " ++ toString t.requestAsserted
    ++ ", pending_commands: " ++ toString t.commands.size
    ++ ", pending_events: " ++ toString t.events.size
    ++ ", faulted: " ++ toString t.faulted ++ " \x7d"

end Transport

end RadioLink
