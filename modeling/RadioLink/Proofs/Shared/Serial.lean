import RadioLink.Proofs.Shared.Lockstep
import RadioLink.Shared.History

/-!
# Shared transports are serialised

A handle on a shared transport does what the transport alone would do with nobody calling in
between: the steps of an operation one after the other, and then a cycle for every part of the
operation in which an edge came (`Shared.Serialised`). The calls that come while somebody is inside
are turned away with nothing, and all that they leave behind is the latch.

The transport alone runs over a link that records its calls, in lockstep with the wired link of the
handle (`Wired.Lockstep`), so it is known how many bytes it has exchanged and whether an edge came
meanwhile.
-/

namespace RadioLink

variable {σ : Type} {max depth : Nat}

/-! ## The transport alone -/

/-- Nothing, as a call answers it that does not wait. -/
def Knock.nothing : Knock → Option (Transport.Answer max)
  | .readyEdge => none
  | .tryReceive => some (.event none)

namespace Shared

open Transport (Answer)

variable {schedule : List (List Knock)} {past : List (List Entry)} {edge : Prop} {since : Nat}

/-- The steps of an operation. -/
def Op.steps {ι : Type} : Op ι max → List (Step ι max)
  | .within steps => steps
  | .send frame => [.operate (.send frame)]
  | .poll => [.operate .poll]
  | .isPeerReady => [.operate .isPeerReady]
  | .flush => [.operate .flush]
  | .knock .readyEdge => [.operate .readyEdge]
  | .knock .tryReceive => [.operate .tryReceive]

/-- What an operation answers whose steps have answered this. The error of its only step is its
own. -/
def Op.report {ι : Type} : Op ι max → List (Except TransportError (Option (Answer max))) →
    Except TransportError (List (Except TransportError (Option (Answer max))))
  | .within _, answers => .ok answers
  | _, [.error e] => .error e
  | _, answers => .ok answers

/-- Nobody is inside and no edge is latched, and the transport and its link are those of a transport
alone: one that has not been called while it exchanged its bytes, and here all these calls were
turned away. -/
structure Rests (schedule : List (List Knock)) (past : List (List Entry)) (s : Shared σ max depth)
    (t : Transport (Traced σ) max depth) : Prop where
  gate : s.gate = {}
  transport : s.transport.Over (Wired.Beside schedule past) t

/-- A handle that has just been made is at rest. -/
theorem share_rests (schedule : List (List Knock)) (t : Transport σ max depth) :
    Rests schedule [] (share schedule t) (t.relink { link := t.link }) :=
  ⟨rfl, _, ⟨rfl, rfl, rfl⟩, rfl⟩

variable [Link σ]

/-- A step on a transport alone. A call on the handle does nothing and answers nothing. -/
def Step.runAlone : Step (σ → σ) max → Transport (Traced σ) max depth →
    Reply (Option (Answer max)) (Transport (Traced σ) max depth)
  | .operate op, t => Reply.map some (op.run t)
  | .touch change, t => (.ok none, { t with link := { t.link with link := change t.link.link } })
  | .clock byte, t => (.ok none, { t with link := (Link.exchange byte t.link).2 })
  | .knock call, t => (.ok call.nothing, t)

/-- Some steps on a transport alone, in order. -/
def Step.runAllAlone : List (Step (σ → σ) max) → Transport (Traced σ) max depth →
    List (Except TransportError (Option (Answer max))) × Transport (Traced σ) max depth
  | [], t => ([], t)
  | step :: steps, t =>
    let (answer, t) := step.runAlone t
    let (answers, t) := Step.runAllAlone steps t
    (answer :: answers, t)

/-- The transport after some edges have been handled, whatever their cycles answer. -/
def serve : Nat → Transport (Traced σ) max depth → Transport (Traced σ) max depth
  | 0, t => t
  | r + 1, t => serve r t.onReadyEdge.2

/-- A transport that an edge has or has not come for is served `r` times: once if an edge has come,
and then as often as is due for the edges that come while it is served. -/
inductive Replays (schedule : List (List Knock)) :
    Prop → Transport (Traced σ) max depth → Nat → Prop
  | rest {edge : Prop} {t : Transport (Traced σ) max depth} : ¬edge → Replays schedule edge t 0
  | again {edge : Prop} {t : Transport (Traced σ) max depth} {r : Nat} :
      edge →
      Replays schedule (Arrived schedule t.link.exchanged t.onReadyEdge.2.link.exchanged)
        t.onReadyEdge.2 r →
      Replays schedule edge t (r + 1)

/-- An operation on a handle does what a transport alone does in its place: the steps of the
operation, which make up the answer, and then `r` edges, as many as are due. -/
structure Serialised (schedule : List (List Knock)) (past : List (List Entry))
    (s : Shared σ max depth)
    (t : Transport (Traced σ) max depth) (op : Op (σ → σ) max) (r : Nat) : Prop where
  answer : (op.run s).1 = op.report (Step.runAllAlone op.steps t).1
  replays : Replays schedule
    (.knock .readyEdge ∈ op.steps ∨
      Arrived schedule t.link.exchanged (Step.runAllAlone op.steps t).2.link.exchanged)
    (Step.runAllAlone op.steps t).2 r
  rests : Rests schedule past (op.run s).2 (serve r (Step.runAllAlone op.steps t).2)

/-! ## Under the lock -/

/-- A call on the handle while somebody is inside answers nothing, and only an edge changes
something: the latch. -/
theorem Knock.run_of_held (call : Knock) {t : Transport (Wired σ) max depth}
    (h : t.link.gate.lock = .held) :
    Knock.run call ⟨t⟩ =
      (.ok call.nothing,
        ⟨withGate { t.link.gate with latched := t.link.gate.latched || .readyEdge == call }
          t⟩) := by
  cases call with
  | readyEdge =>
    rw [Knock.run, onReadyEdge, Shared.knock, gate, Gate.knock_of_held .readyEdge h]
    rfl
  | tryReceive =>
    rw [Knock.run, tryReceive, Shared.knock, gate, Gate.knock_of_held .tryReceive h]
    rfl

/-- The step: under the lock it does what it does on a transport alone, and latches the edges that
come. -/
theorem Step.run_lockstep (step : Step (σ → σ) max) {t : Transport (Wired σ) max depth}
    {p : Transport (Traced σ) max depth} (h : t.Over (Wired.Lockstep schedule past edge since) p) :
    Alike (Transport.Over (Wired.Lockstep schedule past (edge ∨ step = .knock .readyEdge) since))
      (step.run t) (step.runAlone p) := by
  cases step with
  | operate op =>
    simp only [reduceCtorEq, or_false]
    exact (op.run_alike (Wired.simulates schedule past edge since) h).map some
  | touch change =>
    obtain ⟨link, hlink, rfl⟩ := h
    simp only [reduceCtorEq, or_false]
    exact ⟨rfl, { link with link := change link.link },
      ⟨⟨congrArg change hlink.link, hlink.knocks, hlink.entries⟩, hlink.lock, hlink.latched,
        hlink.since_le⟩, rfl⟩
  | clock byte =>
    obtain ⟨link, hlink, rfl⟩ := h
    simp only [reduceCtorEq, or_false]
    exact ⟨rfl, _, (hlink.exchange byte).2, rfl⟩
  | knock call =>
    obtain ⟨link, hlink, rfl⟩ := h
    rw [Step.run, Knock.run_of_held call hlink.lock]
    refine ⟨rfl, link, ⟨hlink.toBeside.regate _, hlink.lock, ?_, hlink.since_le⟩, rfl⟩
    show (t.link.gate.latched || .readyEdge == call) = true ↔ _
    rw [Bool.or_eq_true, hlink.latched, beq_iff_eq, Step.knock.injEq, or_right_comm,
      eq_comm (a := call)]

/-- The run over the steps, by induction. -/
theorem Step.runAll_lockstep (steps : List (Step (σ → σ) max)) {t : Transport (Wired σ) max depth}
    {p : Transport (Traced σ) max depth} (h : t.Over (Wired.Lockstep schedule past edge since) p) :
    Alike (Transport.Over (Wired.Lockstep schedule past (edge ∨ .knock .readyEdge ∈ steps) since))
      (Step.runAll steps t) (Step.runAllAlone steps p) := by
  induction steps generalizing t p edge with
  | nil =>
    simp only [List.not_mem_nil, or_false]
    exact ⟨rfl, h⟩
  | cons step steps ih =>
    obtain ⟨answer, t₁, p₁, hx, hx', h₁⟩ := (step.run_lockstep h).split
    obtain ⟨answers, t₂, p₂, hy, hy', h₂⟩ := (ih h₁).split
    have hedge : (edge ∨ .knock .readyEdge ∈ step :: steps) =
        ((edge ∨ step = .knock .readyEdge) ∨ .knock .readyEdge ∈ steps) := by
      simp only [List.mem_cons, or_assoc, eq_comm]
    simp only [Step.runAll, Step.runAllAlone, hx, hx', hy, hy', hedge]
    exact ⟨rfl, h₂⟩

/-- Without a latched edge there is nothing to replay. -/
theorem replay_of_unlatched (fuel : Nat) {t : Transport (Wired σ) max depth}
    (h : t.link.gate.latched = false) :
    replay fuel t = t := by
  cases fuel with
  | zero => rfl
  | succ fuel => rw [replay, h, if_neg Bool.false_ne_true]

/-- Without a latched edge nothing is due. -/
theorem unlatched_lockstep (fuel : Nat) {t : Transport (Wired σ) max depth}
    {p : Transport (Traced σ) max depth} (h : t.Over (Wired.Lockstep schedule past edge since) p)
    (hlatched : t.link.gate.latched = false) :
    Replays schedule (edge ∨ Arrived schedule since p.link.exchanged) p 0 ∧
      (replay fuel t).Over
        (Wired.Beside schedule past) p ∧ (replay fuel t).link.gate.latched = false := by
  obtain ⟨link, hlink, rfl⟩ := h
  rw [replay_of_unlatched fuel hlatched]
  refine ⟨.rest fun hedge => ?_, ⟨link, hlink.toBeside, rfl⟩, hlatched⟩
  rw [hlink.latched.2 hedge] at hlatched
  cases hlatched

/-- A cycle for a latched edge leaves the latch to the edges that come during the cycle. -/
theorem unlatch_lockstep {t : Transport (Wired σ) max depth} {p : Transport (Traced σ) max depth}
    (h : t.Over (Wired.Lockstep schedule past edge since) p) :
    (withGate t.link.gate.unlatch t).onReadyEdge.2.Over
      (Wired.Lockstep schedule past False p.link.exchanged) p.onReadyEdge.2 := by
  obtain ⟨link, hlink, rfl⟩ := h
  have hunlatched : Wired.Lockstep schedule past False link.exchanged
      { t.link with gate := t.link.gate.unlatch } link := by
    refine ⟨hlink.toBeside.regate _, hlink.lock, ?_, Nat.le_refl _⟩
    simp [Gate.unlatch, not_arrived_self]
  exact (Transport.onReadyEdge_respects (Wired.simulates schedule past False link.exchanged)
    (t := withGate t.link.gate.unlatch t) hunlatched).2

/-- The replays of a release, with fuel for every call that is still to come, are those that are
due. -/
theorem replay_lockstep (fuel : Nat) {t : Transport (Wired σ) max depth}
    {p : Transport (Traced σ) max depth} (h : t.Over (Wired.Lockstep schedule past edge since) p)
    (hfuel : t.link.knocksLeft + t.link.gate.latched.toNat ≤ fuel) :
    ∃ r, Replays schedule (edge ∨ Arrived schedule since p.link.exchanged) p r ∧
      (replay fuel t).Over (Wired.Beside schedule past) (serve r p) ∧
      (replay fuel t).link.gate.latched = false := by
  induction fuel generalizing t p edge since with
  | zero =>
    cases hlatched : t.link.gate.latched with
    | false => exact ⟨0, unlatched_lockstep 0 h hlatched⟩
    | true =>
      rw [hlatched] at hfuel
      cases hfuel
  | succ fuel ih =>
    cases hlatched : t.link.gate.latched with
    | false => exact ⟨0, unlatched_lockstep (fuel + 1) h hlatched⟩
    | true =>
      have hcycle := unlatch_lockstep h
      obtain ⟨link, hlink, rfl⟩ := h
      have hleft : callsFrom schedule link.exchanged ≤ fuel := by
        rw [hlatched, hlink.knocksLeft] at hfuel
        exact Nat.le_of_succ_le_succ hfuel
      have ⟨_, hlink₁, _⟩ := hcycle
      obtain ⟨r, hreplays, hserved⟩ := ih hcycle (hlink₁.fuel.trans hleft)
      rw [false_or] at hreplays
      refine ⟨r + 1, .again (hlink.latched.1 hlatched) hreplays, ?_⟩
      rw [replay, if_pos hlatched]
      exact hserved

/-- Letting go of the lock serves the transport as often as is due. -/
theorem release_rests {t : Transport (Wired σ) max depth} {p : Transport (Traced σ) max depth}
    (h : t.Over (Wired.Lockstep schedule past edge since) p) :
    ∃ r, Replays schedule (edge ∨ Arrived schedule since p.link.exchanged) p r ∧
      Rests schedule past (release t) (serve r p) := by
  have hfuel : t.link.knocksLeft + t.link.gate.latched.toNat ≤ t.link.knocksLeft + 1 :=
    Nat.add_le_add_left (Bool.toNat_le _) _
  obtain ⟨r, hreplays, ⟨link, hlink, hserved⟩, hlatched⟩ := replay_lockstep _ h hfuel
  refine ⟨r, hreplays, ?_, link, hlink.regate _, hserved⟩
  show (replay (t.link.knocksLeft + 1) t).link.gate.leave = {}
  rw [Gate.leave, hlatched]

/-! ## Operations -/

/-- The transport of a handle with the lock held. -/
def entered (s : Shared σ max depth) : Transport (Wired σ) max depth :=
  withGate { lock := .held } s.transport

/-- With the handle free, work under the lock is entered, done and released. -/
theorem within_eq {α : Type}
    (work : Transport (Wired σ) max depth → α × Transport (Wired σ) max depth)
    {s : Shared σ max depth} (h : s.gate = {}) :
    s.within work = (.ok (work s.entered).1, release (work s.entered).2) := by
  simp only [within, h]
  rfl

/-- The same of an operation that waits for the lock. -/
theorem ask_eq {α : Type}
    (operation : Transport (Wired σ) max depth → Reply α (Transport (Wired σ) max depth))
    {s : Shared σ max depth} (h : s.gate = {}) :
    s.ask operation = ((operation s.entered).1, release (operation s.entered).2) := by
  rw [ask, within_eq operation h]

/-- The same of a call that does not wait, which is not turned away then. -/
theorem knock_eq {α : Type} (call : Knock)
    (operation : Transport (Wired σ) max depth → Reply (Option α) (Transport (Wired σ) max depth))
    {s : Shared σ max depth} (h : s.gate = {}) :
    s.knock call operation = ((operation s.entered).1, release (operation s.entered).2) := by
  have hgranted : s.gate.knock call = (.granted, { lock := .held }) := by
    rw [h]
    cases call <;> rfl
  rw [knock, hgranted]
  rfl

/-- An operation of one step gives the answer of that step. -/
theorem Op.run_single {α : Type} {op : Op (σ → σ) max} {asked : Transport.Op max}
    {s : Shared σ max depth} {x : Reply α (Transport (Wired σ) max depth)} {f : α → Answer max}
    (hsteps : op.steps = [.operate asked])
    (herror : ∀ e, op.report [.error e] = .error e) (hok : ∀ a, op.report [.ok a] = .ok [.ok a])
    (hasked : asked.run s.entered = Reply.map f x)
    (hrun : op.run s = Reply.map (fun a => [.ok (some (f a))]) (x.1, release x.2)) :
    op.run s = (op.report (Step.runAll op.steps s.entered).1,
      release (Step.runAll op.steps s.entered).2) := by
  obtain ⟨answer, t⟩ := x
  rw [hrun, hsteps, Step.runAll, Step.run, hasked]
  cases answer with
  | error e => exact Prod.ext (herror e).symm rfl
  | ok a => exact Prod.ext (hok (some (f a))).symm rfl

/-- So every operation on a free handle runs its steps under the lock, and is released behind
them. -/
theorem Op.run_eq (op : Op (σ → σ) max) {s : Shared σ max depth} (h : s.gate = {}) :
    op.run s = (op.report (Step.runAll op.steps s.entered).1,
      release (Step.runAll op.steps s.entered).2) := by
  cases op with
  | within steps => exact within_eq (Step.runAll steps) h
  | send frame =>
    exact run_single rfl (fun _ => rfl) (fun _ => rfl) rfl (congrArg (Reply.map _) (ask_eq _ h))
  | poll =>
    exact run_single rfl (fun _ => rfl) (fun _ => rfl) rfl (congrArg (Reply.map _) (ask_eq _ h))
  | isPeerReady =>
    exact run_single rfl (fun _ => rfl) (fun _ => rfl) rfl (congrArg (Reply.map _) (ask_eq _ h))
  | flush =>
    exact run_single rfl (fun _ => rfl) (fun _ => rfl) rfl (congrArg (Reply.map _) (ask_eq _ h))
  | knock call =>
    cases call with
    | readyEdge =>
      refine run_single rfl (fun _ => rfl) (fun _ => rfl) rfl ?_
      rw [Op.run, Knock.run, onReadyEdge, knock_eq _ _ h]
      rcases s.entered.onReadyEdge with ⟨_ | what, t⟩ <;> rfl
    | tryReceive =>
      refine run_single rfl (fun _ => rfl) (fun _ => rfl) rfl ?_
      rw [Op.run, Knock.run, tryReceive, knock_eq _ _ h]
      rcases s.entered.tryReceive with ⟨_ | event, t⟩ <;> rfl

/-- An operation on a handle at rest is serialised, and leaves the handle at rest. -/
theorem Rests.serialised {s : Shared σ max depth} {t : Transport (Traced σ) max depth}
    (h : Rests schedule past s t) (op : Op (σ → σ) max) :
    ∃ r, Serialised schedule past s t op r := by
  obtain ⟨link, hlink, rfl⟩ := h.transport
  have hentered : s.entered.Over (Wired.Lockstep schedule past False link.exchanged)
      (s.transport.relink link) := by
    refine ⟨link, ⟨hlink.regate _, rfl, ?_, Nat.le_refl _⟩, rfl⟩
    simp [entered, withGate, not_arrived_self]
  obtain ⟨hanswers, hown⟩ := Step.runAll_lockstep op.steps hentered
  obtain ⟨r, hreplays, hrests⟩ := release_rests hown
  have hrun := op.run_eq h.gate
  refine ⟨r, ?_, ?_, ?_⟩
  · rw [hrun, hanswers]
  · rw [false_or] at hreplays
    exact hreplays
  · rw [hrun]
    exact hrests

/-- The operations of a history are serialised one after the other, each with its number of replays,
and at the end the handle is at rest. -/
inductive SerialisedAll (schedule : List (List Knock)) (past : List (List Entry)) :
    Shared σ max depth → Transport (Traced σ) max depth → List (Op (σ → σ) max) → List Nat → Prop
  | nil {s : Shared σ max depth} {t : Transport (Traced σ) max depth} :
      Rests schedule past s t → SerialisedAll schedule past s t [] []
  | cons {s : Shared σ max depth} {t : Transport (Traced σ) max depth} {op : Op (σ → σ) max}
      {ops : List (Op (σ → σ) max)} {r : Nat} {replays : List Nat} :
      Serialised schedule past s t op r →
      SerialisedAll schedule past (op.run s).2 (serve r (Step.runAllAlone op.steps t).2)
        ops replays →
      SerialisedAll schedule past s t (op :: ops) (r :: replays)

/-- Every history of a handle at rest is serialised. -/
theorem Rests.serialisedAll {s : Shared σ max depth} {t : Transport (Traced σ) max depth}
    (h : Rests schedule past s t) (ops : List (Op (σ → σ) max)) :
    ∃ replays, SerialisedAll schedule past s t ops replays := by
  induction ops generalizing s t with
  | nil => exact ⟨[], .nil h⟩
  | cons op ops ih =>
    obtain ⟨r, hserialised⟩ := h.serialised op
    obtain ⟨replays, hrest⟩ := ih hserialised.rests
    exact ⟨r :: replays, .cons hserialised hrest⟩

theorem SerialisedAll.length_eq {s : Shared σ max depth} {t : Transport (Traced σ) max depth}
    {ops : List (Op (σ → σ) max)} {replays : List Nat}
    (h : SerialisedAll schedule past s t ops replays) : replays.length = ops.length := by
  induction h with
  | nil => rfl
  | cons _ _ ih => exact congrArg Nat.succ ih

/-- A handle at rest is at rest again behind every history. -/
theorem Rests.runAll {s : Shared σ max depth} {t : Transport (Traced σ) max depth}
    (h : Rests schedule past s t) (ops : List (Op (σ → σ) max)) :
    ∃ t', Rests schedule past (runAll ops s).2 t' := by
  induction ops generalizing s t with
  | nil => exact ⟨t, h⟩
  | cons op ops ih =>
    obtain ⟨r, hserialised⟩ := h.serialised op
    exact ih hserialised.rests

/-- The transport of a handle, over a link whose record starts now. -/
def alone (s : Shared σ max depth) : Transport (Traced σ) max depth :=
  s.transport.relink { link := s.transport.link.link }

/-- **Re-entrant use is serialised.** At any point of a history in which calls come from inside the
exchanges of the link and from inside the work done under a hold of the lock, every operation on the
handle has the effect on the transport and its link that its own steps have on the transport alone,
followed by some edges, and answers what those steps answer. All calls that come meanwhile are
turned away. An edge follows exactly if one was latched during the own steps, and after each of them
another one exactly if one was latched during its cycle. To be turned away means to be answered
nothing, and to change nothing but the latch. -/
theorem operations_serialised (schedule : List (List Knock)) (t : Transport σ max depth)
    (ops : List (Op (σ → σ) max)) (op : Op (σ → σ) max) :
    let s := (runAll ops (share schedule t)).2
    (∃ r, Serialised s.transport.link.knocks s.transport.link.entries s s.alone op r) ∧
    ∀ (call : Knock) (u : Transport (Wired σ) max depth), u.link.gate.lock = .held →
      Knock.run call ⟨u⟩ =
        (.ok call.nothing,
          ⟨withGate { u.link.gate with latched := u.link.gate.latched || .readyEdge == call }
            u⟩) := by
  intro s
  refine ⟨?_, fun call u hheld => Knock.run_of_held call hheld⟩
  obtain ⟨t', hrests⟩ := (share_rests schedule t).runAll ops
  have halone : Rests s.transport.link.knocks s.transport.link.entries s s.alone :=
    ⟨hrests.gate, _, ⟨rfl, rfl, (List.append_nil _).symm⟩, rfl⟩
  exact halone.serialised op

end Shared

end RadioLink
