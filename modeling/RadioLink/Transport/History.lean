import RadioLink.Transport.Basic

/-!
# Histories of a transport

A history is a list of operations on one transport, run in order whatever each of them answers.
`Transport.Op.run` is one operation, `Transport.runAll` a whole history.
-/

namespace RadioLink.Transport

/-- An operation that an application or an edge handler can ask of a transport. -/
inductive Op (max : Nat) where
  /-- Queue a command. -/
  | send (frame : Frame max)
  /-- Take the oldest event. -/
  | tryReceive
  /-- Drive a cycle from the application. -/
  | poll
  /-- Drive a cycle from the handler of a READY edge. -/
  | readyEdge
  /-- Sample the READY line. -/
  | isPeerReady
  /-- Empty both queues. -/
  | flush
  deriving DecidableEq

/-- What an operation gives when it succeeds. -/
inductive Answer (max : Nat) where
  /-- Nothing but the fact. -/
  | done
  /-- What the cycle did. -/
  | cycle (what : Cycle)
  /-- The event taken, if there was one. -/
  | event (taken : Option (Frame max))
  /-- The level of a line. -/
  | level (asserted : Bool)
  deriving DecidableEq

variable {σ : Type} {max depth : Nat}

/-- Runs one operation. -/
def Op.run [Link σ] : Op max → Transport σ max depth → Reply (Answer max) (Transport σ max depth)
  | .send frame, t => Reply.map (fun _ => .done) (t.send frame)
  | .tryReceive, t => Reply.map .event t.tryReceive
  | .poll, t => Reply.map .cycle t.poll
  | .readyEdge, t => Reply.map .cycle t.onReadyEdge
  | .isPeerReady, t => Reply.map .level t.isPeerReady
  | .flush, t => Reply.map (fun _ => .done) t.flush

/-- Runs a history. The answers are in the order of the operations. -/
def runAll [Link σ] : List (Op max) → Transport σ max depth →
    List (Except TransportError (Answer max)) × Transport σ max depth
  | [], t => ([], t)
  | op :: ops, t =>
    let (answer, t) := op.run t
    let (answers, t) := runAll ops t
    (answer :: answers, t)

/-- A history can be run in two parts. -/
theorem runAll_append [Link σ] (a b : List (Op max)) (t : Transport σ max depth) :
    (runAll (a ++ b) t).2 = (runAll b (runAll a t).2).2 := by
  induction a generalizing t with
  | nil => rfl
  | cons op ops ih => simp only [List.cons_append, runAll, ih]

/-- What every operation preserves holds after a history, and what it makes of every answer holds of
all answers of the history. -/
theorem runAll_invariant [Link σ] {P : Transport σ max depth → Prop}
    {Q : Except TransportError (Answer max) → Prop}
    (hstep : ∀ (op : Op max) t, P t → Q (op.run t).1 ∧ P (op.run t).2) (ops : List (Op max))
    {t : Transport σ max depth} (ht : P t) :
    (∀ answer ∈ (runAll ops t).1, Q answer) ∧ P (runAll ops t).2 := by
  induction ops generalizing t with
  | nil => exact ⟨nofun, ht⟩
  | cons op ops ih =>
    obtain ⟨hanswer, hnext⟩ := hstep op t ht
    obtain ⟨hanswers, hlast⟩ := ih hnext
    exact ⟨fun answer h => (List.mem_cons.1 h).elim (fun h => h ▸ hanswer) (hanswers answer), hlast⟩

end RadioLink.Transport
