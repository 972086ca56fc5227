import RadioLink.Shared.Gate
import RadioLink.Transport.Basic

/-!
# Shared transports

`Shared` is the handle through which an edge handler and a polling application use one transport.
Every operation runs under the lock of its `Gate`. An edge or a receive that finds the lock held is
turned away with nothing; the edge stays latched and is replayed by the holder before the lock is
released (`Shared.release`).

Everything here happens on one thread: calls that come while the lock is held come from inside an
exchange (`Wired`) or from inside the work done under `Shared.within`.
-/

namespace RadioLink

/-- A transport behind a gate. The gate is kept with the link, since calls reach it from inside the
link's exchanges. -/
structure Shared (σ : Type) (max depth : Nat) where
  /-- The transport, with the gate in its link. -/
  transport : Transport (Wired σ) max depth

namespace Shared

variable {σ α : Type} {max depth : Nat}

/-- The gate. -/
def gate (s : Shared σ max depth) : Gate :=
  s.transport.link.gate

/-- A transport whose gate is in another state. -/
def withGate (gate : Gate) (t : Transport (Wired σ) max depth) : Transport (Wired σ) max depth :=
  { t with link := { t.link with gate } }

/-- Runs a cycle for a latched edge, and again for every edge that was latched meanwhile. What a
cycle answers is dropped, also when it fails. Each further replay needs an edge latched by the one
before, so the number of calls still to come bounds the fuel. -/
def replay [Link σ] : Nat → Transport (Wired σ) max depth → Transport (Wired σ) max depth
  | 0, t => t
  | fuel + 1, t =>
    if t.link.gate.latched then
      replay fuel (withGate t.link.gate.unlatch t).onReadyEdge.2
    else
      t

/-- Replays latched edges and lets go of the lock. -/
def release [Link σ] (t : Transport (Wired σ) max depth) : Shared σ max depth :=
  let t := replay (t.link.knocksLeft + 1) t
  ⟨withGate t.link.gate.leave t⟩

/-- Does some work on the transport under the lock, which is waited for. -/
def within [Link σ]
    (work : Transport (Wired σ) max depth → α × Transport (Wired σ) max depth)
    (s : Shared σ max depth) : Reply α (Shared σ max depth) :=
  match s.gate.lock with
  | .poisoned => (.error .poisoned, s)
  | .free | .held =>
    let (a, t) := work (withGate { s.gate with lock := .held } s.transport)
    (.ok a, release t)

/-- Starts some work on the transport under the lock and gives it up at once. The lock is poisoned
from then on, and latched edges are not replayed. -/
def abandon (s : Shared σ max depth) : Reply Unit (Shared σ max depth) :=
  match s.gate.lock with
  | .poisoned => (.error .poisoned, s)
  | .free | .held => (.ok (), ⟨withGate { s.gate with lock := .poisoned } s.transport⟩)

/-- Runs one operation of the transport under the lock. -/
def ask [Link σ]
    (operation : Transport (Wired σ) max depth → Reply α (Transport (Wired σ) max depth))
    (s : Shared σ max depth) : Reply α (Shared σ max depth) :=
  match s.within operation with
  | (.error e, s) => (.error e, s)
  | (.ok answer, s) => (answer, s)

/-- Queues a command. -/
def send [Link σ] (frame : Frame max) : Shared σ max depth → Reply Unit (Shared σ max depth) :=
  ask (Transport.send frame)

/-- Drives one cycle. -/
def poll [Link σ] : Shared σ max depth → Reply Cycle (Shared σ max depth) :=
  ask Transport.poll

/-- Samples the READY line. -/
def isPeerReady [Link σ] : Shared σ max depth → Reply Bool (Shared σ max depth) :=
  ask Transport.isPeerReady

/-- Empties both queues. -/
def flush [Link σ] : Shared σ max depth → Reply Unit (Shared σ max depth) :=
  ask Transport.flush

/-- Runs an operation if the lock is free. Nothing is what a caller gets that is turned away. -/
def knock [Link σ] (call : Knock)
    (operation : Transport (Wired σ) max depth → Reply (Option α) (Transport (Wired σ) max depth))
    (s : Shared σ max depth) : Reply (Option α) (Shared σ max depth) :=
  match s.gate.knock call with
  | (.poisoned, g) => (.error .poisoned, ⟨withGate g s.transport⟩)
  | (.busy, g) => (.ok none, ⟨withGate g s.transport⟩)
  | (.granted, g) =>
    let (answer, t) := operation (withGate g s.transport)
    (answer, release t)

/-- Handles a READY edge: drives one cycle, or latches the edge if the lock is held. -/
def onReadyEdge [Link σ] : Shared σ max depth → Reply (Option Cycle) (Shared σ max depth) :=
  knock .readyEdge fun t => Reply.map some t.onReadyEdge

/-- Takes the oldest event, or nothing if there is none or the lock is held. -/
def tryReceive [Link σ] : Shared σ max depth → Reply (Option (Frame max)) (Shared σ max depth) :=
  knock .tryReceive Transport.tryReceive

/-- The transport, unless the lock is poisoned. -/
def toTransport? (s : Shared σ max depth) : Except TransportError (Transport (Wired σ) max depth) :=
  match s.gate.lock with
  | .poisoned => .error .poisoned
  | .free | .held => .ok s.transport

end Shared

end RadioLink
