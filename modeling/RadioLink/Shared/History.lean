import RadioLink.Shared.Basic
import RadioLink.Transport.History

/-!
# Histories of a shared transport

A history of a shared transport is a list of operations on its handle. One of them does several
things under one hold of the lock (`Shared.Op.within`): it operates on the transport, uses its link
directly, and calls the handle again while it is inside (`Shared.Step`).

Steps and operations are over the type `ι` of the changes that are made to the link. They run with
changes that are functions; anything that stands for such functions can be put in their place
(`Shared.Op.map`).
-/

namespace RadioLink.Shared

open Transport (Answer)

/-- One thing done under a hold of the lock. -/
inductive Step (ι : Type) (max : Nat) where
  /-- An operation on the transport. -/
  | operate (op : Transport.Op max)
  /-- A change made to the link directly. -/
  | touch (change : ι)
  /-- A byte exchanged on the link directly. -/
  | clock (byte : UInt8)
  /-- A call on the handle itself. -/
  | knock (call : Knock)

/-- An operation on the handle. -/
inductive Op (ι : Type) (max : Nat) where
  /-- Do some things under one hold of the lock. -/
  | within (steps : List (Step ι max))
  /-- Queue a command. -/
  | send (frame : Frame max)
  /-- Drive a cycle. -/
  | poll
  /-- Sample the READY line. -/
  | isPeerReady
  /-- Empty both queues. -/
  | flush
  /-- A call that does not wait. -/
  | knock (call : Knock)

variable {σ ι κ : Type} {max depth : Nat}

/-- The step with other changes. -/
def Step.map (f : ι → κ) : Step ι max → Step κ max
  | .operate op => .operate op
  | .touch change => .touch (f change)
  | .clock byte => .clock byte
  | .knock call => .knock call

/-- The operation with other changes. -/
def Op.map (f : ι → κ) : Op ι max → Op κ max
  | .within steps => .within (steps.map (Step.map f))
  | .send frame => .send frame
  | .poll => .poll
  | .isPeerReady => .isPeerReady
  | .flush => .flush
  | .knock call => .knock call

/-- A handle on a transport. The calls given are those that will come inside the exchanges of its
link. -/
def share (knocks : List (List Knock)) (t : Transport σ max depth) : Shared σ max depth where
  transport := { t with link := { link := t.link, knocks } }

/-- A call on the handle that does not wait. Nothing is what an edge answers that was turned
away. -/
def Knock.run [Link σ] :
    Knock → Shared σ max depth → Reply (Option (Answer max)) (Shared σ max depth)
  | .readyEdge, s => Reply.map (Option.map .cycle) s.onReadyEdge
  | .tryReceive, s => Reply.map (fun event => some (.event event)) s.tryReceive

/-- One thing done under a hold of the lock. What is done to the link directly answers nothing. -/
def Step.run [Link σ] : Step (σ → σ) max → Transport (Wired σ) max depth →
    Reply (Option (Answer max)) (Transport (Wired σ) max depth)
  | .operate op, t => Reply.map some (op.run t)
  | .touch change, t => (.ok none, { t with link := { t.link with link := change t.link.link } })
  | .clock byte, t => (.ok none, { t with link := (Link.exchange byte t.link).2 })
  | .knock call, t =>
    let (answer, s) := Knock.run call ⟨t⟩
    (answer, s.transport)

/-- The things done under one hold of the lock, in order. -/
def Step.runAll [Link σ] : List (Step (σ → σ) max) → Transport (Wired σ) max depth →
    List (Except TransportError (Option (Answer max))) × Transport (Wired σ) max depth
  | [], t => ([], t)
  | step :: steps, t =>
    let (answer, t) := step.run t
    let (answers, t) := Step.runAll steps t
    (answer :: answers, t)

/-- One operation on the handle, with the answers to all that it did. -/
def Op.run [Link σ] : Op (σ → σ) max → Shared σ max depth →
    Reply (List (Except TransportError (Option (Answer max)))) (Shared σ max depth)
  | .within steps, s => s.within (Step.runAll steps)
  | .send frame, s => Reply.map (fun _ => [.ok (some .done)]) (s.send frame)
  | .poll, s => Reply.map (fun c => [.ok (some (.cycle c))]) s.poll
  | .isPeerReady, s => Reply.map (fun level => [.ok (some (.level level))]) s.isPeerReady
  | .flush, s => Reply.map (fun _ => [.ok (some .done)]) s.flush
  | .knock call, s => Reply.map (fun a => [.ok a]) (Knock.run call s)

/-- A history of the handle. The answers are in the order of the operations. -/
def runAll [Link σ] : List (Op (σ → σ) max) → Shared σ max depth →
    List (Except TransportError (List (Except TransportError (Option (Answer max))))) ×
      Shared σ max depth
  | [], s => ([], s)
  | op :: ops, s =>
    let (answer, s) := op.run s
    let (answers, s) := runAll ops s
    (answer :: answers, s)

end RadioLink.Shared
