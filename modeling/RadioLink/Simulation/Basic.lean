import RadioLink.Simulation.Script
import RadioLink.Transport.Basic

/-!
# Simulations

A simulation drives a transport against a simulated radio until the commands of its plan are
delivered and the radio has nothing more to say, or until it has used up its cycles. In each cycle
as many commands as fit are queued, then the transport is driven and an event is taken. Under
`Driver.poll` taking an event is what drives the transport; under `Driver.edge` a READY edge has
driven it before.

`Plan.run` gives the whole course: the events taken in order, the summary at the end, and what went
wrong if anything did.
-/

namespace RadioLink.Simulation

/-- What drives the transport. -/
inductive Driver where
  /-- The application polls for events. -/
  | poll
  /-- The handler of a READY edge runs cycles, and the application takes events besides. -/
  | edge
  deriving DecidableEq

namespace Driver

/-- Both drivers. -/
def all : List Driver :=
  [poll, edge]

/-- The name of a driver on the command line. -/
def name : Driver → String
  | poll => "poll"
  | edge => "edge"

end Driver

/-- The transport of a simulation. -/
abbrev Host : Type :=
  Transport Radio Frame.defaultCapacity Queue.defaultDepth

/-- How far a simulation has come. -/
structure Progress where
  /-- The transport, with the radio as its link. -/
  host : Host
  /-- The commands that the transport has not accepted yet. -/
  waiting : List StandardFrame
  /-- The events taken, oldest first. -/
  received : List StandardFrame := []
  /-- The cycles begun. -/
  cycles : Nat := 0

/-- Whether a simulation goes on after a cycle. -/
inductive Verdict where
  /-- There may be more to do. -/
  | goOn
  /-- Nothing is left to do. -/
  | finished
  /-- Something went wrong. -/
  | failed (failure : Failure)
  deriving DecidableEq

namespace Progress

/-- Queues commands in order until one has to wait. -/
def sendAll : List StandardFrame → Host → Except Failure (List StandardFrame) × Host
  | [], host => (.ok [], host)
  | frame :: frames, host =>
    match host.send frame with
    | (.ok (), host) => sendAll frames host
    | (.error e, host) =>
      if e.isRejection then
        (.ok (frame :: frames), host)
      else
        (.error (.transport "send failed" e), host)

/-- Handles a READY edge if the radio is ready. -/
def handleEdge (host : Host) : Except Failure Unit × Host :=
  match host.isPeerReady with
  | (.error e, host) => (.error (.transport "ready check failed" e), host)
  | (.ok false, host) => (.ok (), host)
  | (.ok true, host) =>
    match host.onReadyEdge with
    | (.error e, host) => (.error (.transport "transfer failed" e), host)
    | (.ok _, host) => (.ok (), host)

/-- What the driver does before an event is taken. -/
def drive : Driver → Host → Except Failure Unit × Host
  | .poll, host => (.ok (), host)
  | .edge, host => handleEdge host

/-- Whether a simulation that took no event is finished: no command is left, and the radio is not
ready. -/
def rest (p : Progress) : Verdict × Progress :=
  if p.waiting.isEmpty && p.host.commands.isEmpty then
    match p.host.isPeerReady with
    | (.error e, host) => (.failed (.transport "ready check failed" e), { p with host })
    | (.ok ready, host) =>
      (if !ready && host.events.isEmpty then .finished else .goOn, { p with host })
  else
    (.goOn, p)

/-- Takes an event, or looks whether anything is left to do. -/
def receive (p : Progress) : Verdict × Progress :=
  match p.host.tryReceive with
  | (.error e, host) => (.failed (.transport "receive failed" e), { p with host })
  | (.ok (some event), host) => (.goOn, { p with host, received := p.received ++ [event] })
  | (.ok none, host) => rest { p with host }

/-- Runs one cycle. -/
def cycle (driver : Driver) (p : Progress) : Verdict × Progress :=
  let p := { p with cycles := p.cycles + 1 }
  match sendAll p.waiting p.host with
  | (.error failure, host) => (.failed failure, { p with host })
  | (.ok waiting, host) =>
    match drive driver host with
    | (.error failure, host) => (.failed failure, { p with waiting, host })
    | (.ok (), host) => receive { p with waiting, host }

/-- Runs cycles until nothing is left to do, something goes wrong, or no cycle is left. -/
def loop (driver : Driver) : Nat → Progress → Except Failure Unit × Progress
  | 0, p => (.ok (), p)
  | left + 1, p =>
    match cycle driver p with
    | (.goOn, p) => loop driver left p
    | (.finished, p) => (.ok (), p)
    | (.failed failure, p) => (.error failure, p)

/-- The commands that no transfer has taken. -/
def undelivered (p : Progress) : Nat :=
  p.waiting.length + p.host.commands.size

end Progress

/-- What a simulation comes to. -/
structure Summary where
  /-- The cycles begun. -/
  cycles : Nat
  /-- The counters of the transport. -/
  stats : Stats
  /-- The commands that the radio received. -/
  delivered : List (List UInt8)
  deriving DecidableEq

/-- The course of a simulation. -/
structure Course where
  /-- The events taken, oldest first. -/
  events : List StandardFrame := []
  /-- The summary, if the simulation came to its end. -/
  summary : Option Summary := none
  /-- What went wrong, if anything did. -/
  failure : Option Failure := none

/-- The course of a simulation that has ended. -/
def Progress.course : Except Failure Unit × Progress → Course
  | (.error failure, p) => { events := p.received, failure := some failure }
  | (.ok (), p) =>
    { events := p.received
      summary := some
        { cycles := p.cycles, stats := p.host.stats, delivered := p.host.link.commands }
      failure := if p.undelivered = 0 then none else some (.undelivered p.undelivered p.cycles) }

/-- Runs a plan for some number of cycles at most. -/
def Plan.run (driver : Driver) (maxCycles : Nat) (plan : Plan) : Course :=
  match Transport.init plan.radio plan.config with
  | .error (e, _) => { failure := some (.transport "init failed" e) }
  | .ok host => Progress.course (Progress.loop driver maxCycles { host, waiting := plan.commands })

end RadioLink.Simulation
