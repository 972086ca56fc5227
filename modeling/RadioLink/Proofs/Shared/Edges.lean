import RadioLink.Proofs.Radio.Cycle
import RadioLink.Proofs.Shared.Serial

/-!
# Edges behind a shared handle

Letting go of the lock replays a latched edge, and a replay is one cycle. So a release takes as many
commands and events further as it has replays, and no more. The latch holds one edge however many
were turned away, and only an edge that comes during a replay brings another one.

Over a radio whose exchanges do not fail, a replay is a transfer unless there is no room for an
event or the radio is not ready, and in these cases no later replay is one either
(`Shared.serve_further`). So if the radio asserts READY behind a release and there is room for an
event, every replay was a transfer, and what is left is what was there before, less one command and
one event for each (`Shared.replays_take_one_each`). If more than that was there, then it is left
while READY stays asserted, and no edge tells anybody of it (`Shared.event_left_behind_replay`).
-/

namespace RadioLink

variable {max depth : Nat}

/-! ## One edge -/

/-- The number of events that the radio has still to deliver, the one in an open transaction among
them. -/
def Radio.backlog (radio : Radio) : Nat :=
  radio.events.length + radio.transaction.toList.length

/-- With a transaction open one event less waits than the radio has still to deliver. -/
theorem Radio.length_events_opened (radio : Radio) :
    radio.opened.2.events.length = radio.backlog - 1 := by
  rw [opened, backlog]
  cases radio.transaction with
  | none => exact List.length_tail
  | some tx => rfl

namespace Transport

/-- No transfer runs: there is no room for an event, or the radio is not ready. -/
def Stuck (t : Transport Radio max depth) : Prop :=
  t.events.isFull = true ∨ t.link.ready = false

/-- Some number of commands and events have been taken further, and no transaction has been left
open by it. -/
structure Further (n : Nat) (t t' : Transport Radio max depth) : Prop where
  commands : t'.commands.toList = t.commands.toList.drop n
  backlog : t'.link.backlog = t.link.backlog - n
  transaction : t.link.transaction = none ∨ 0 < n → t'.link.transaction = none

theorem Further.refl (t : Transport Radio max depth) : Further 0 t t :=
  ⟨rfl, rfl, fun h => h.resolve_right (Nat.lt_irrefl 0)⟩

theorem Further.trans {m n : Nat} {t t₁ t' : Transport Radio max depth} (h : Further m t t₁)
    (h' : Further n t₁ t') : Further (m + n) t t' where
  commands := by rw [h'.commands, h.commands, List.drop_drop]
  backlog := by rw [h'.backlog, h.backlog, Nat.sub_sub]
  transaction hclosed := by
    by_cases hn : 0 < n
    · exact h'.transaction (.inr hn)
    · exact h'.transaction (.inl (h.transaction (hclosed.imp_right (by omega))))

variable {t : Transport Radio max depth}

/-- Where no transfer runs, an edge changes nothing that could let one run. -/
theorem Stuck.edge (h : t.Stuck) (hsettled : t.host.Settled) :
    t.onReadyEdge.2.Stuck := by
  -- A settled host leaves REQUEST alone, so nothing is called on the radio.
  have hrest (t₁ : Transport Radio max depth) (hhost : t₁.requestAsserted = t₁.wantsRequest)
      (ht : t₁.Stuck) : t₁.syncRequest.2.Stuck := by
    rw [syncRequest_of_wanted hhost]
    exact ht
  have hhealthy : t.faulted = false := hsettled.healthy
  rw [onReadyEdge_of_healthy hhealthy]
  cases hfull : t.events.isFull with
  | true =>
    rw [cycle_of_full hfull, Reply.snd_map]
    exact hrest t.countStall hsettled.wanted h
  | false =>
    have hready : t.link.ready = false := h.resolve_left (by simp [hfull])
    have hsample : Link.readReady t.link = (.ok false, t.link) :=
      Prod.ext (congrArg Except.ok hready) rfl
    rw [cycle_of_unready hfull hsample, Reply.snd_map]
    exact hrest t hsettled.wanted h

/-- Otherwise an edge takes one command and one event further. -/
theorem edge_further (h : ¬t.Stuck) (hhealthy : t.faulted = false)
    (hbudget : t.link.budget = none) :
    Further 1 t t.onReadyEdge.2 := by
  obtain ⟨hroom, hready⟩ := not_or.1 h
  rw [Bool.not_eq_true] at hroom
  rw [Bool.not_eq_false] at hready
  have hsample : Link.readReady t.link = (.ok true, t.link) :=
    Prod.ext (congrArg Except.ok hready) rfl
  obtain ⟨outcome, radio, hrun, hserves⟩ := Transfer.run_serves t.host.outbound hbudget
  obtain ⟨t₁, rfl, haccepts, hrun'⟩ := runTransfer_of_ok hrun hroom
  have hlevel : t₁.link.request = t₁.requestAsserted :=
    hserves.request.trans haccepts.frame.2.1.symm
  have hedge : t.onReadyEdge.2 = t₁.rested := by
    rw [onReadyEdge_of_healthy hhealthy, cycle_of_ready hroom hsample, hrun', Reply.snd_map,
      syncRequest_eq_rested hserves.transaction hlevel]
  rw [hedge]
  constructor
  case commands =>
    have hcommands : t₁.commands = t.commands.tail := haccepts.events.1
    show t₁.commands.toList = t.commands.toList.drop 1
    rw [hcommands, List.drop_one]
    rfl
  case backlog =>
    show t₁.link.events.length + t₁.link.transaction.toList.length = _
    rw [hserves.transaction, hserves.events, Radio.length_events_opened]
    rfl
  case transaction => exact fun _ => hserves.transaction

end Transport

/-! ## Several edges -/

namespace Transport

/-- The transport over the link underneath a record. -/
def bare {σ : Type} (t : Transport (Traced σ) max depth) : Transport σ max depth :=
  t.relink t.link.link

/-- Recording the calls makes no difference to an edge. -/
theorem bare_onReadyEdge {σ : Type} [Link σ] (t : Transport (Traced σ) max depth) :
    t.onReadyEdge.2.bare = t.bare.onReadyEdge.2 := by
  have hlink : t.bare.link = t.link.link := rfl
  obtain ⟨-, link, hlink', hover⟩ := onReadyEdge_respects Traced.simulates hlink
  have hsame : t.onReadyEdge.2 = t.bare.onReadyEdge.2.relink link := hover
  rw [hsame, bare]
  show t.bare.onReadyEdge.2.relink link.link = _
  rw [← hlink']
  rfl

/-- The transport is settled, and the exchanges of its radio do not fail. -/
structure Unhindered (t : Transport (Traced Radio) max depth) : Prop where
  settled : t.host.Settled
  budget : t.link.link.budget = none

variable {t : Transport (Traced Radio) max depth}

/-- An operation leaves a transport unhindered. -/
theorem Unhindered.op (h : t.Unhindered) (op : Op max) : (op.run t).2.Unhindered := by
  obtain ⟨calls, htrace, hperforms⟩ := op.run_performs t
  obtain ⟨hcalls, hbudget⟩ := htrace.link.unlimited h.budget
  exact ⟨(hperforms.settles hcalls h.settled).1, hbudget⟩

/-- So does an edge. -/
theorem Unhindered.edge (h : t.Unhindered) : t.onReadyEdge.2.Unhindered := by
  have hop := h.op .readyEdge
  rwa [Op.run, Reply.snd_map] at hop

end Transport

namespace Shared

open Transport (Unhindered Stuck Further)

variable {t : Transport (Traced Radio) max depth}

/-- So do any number of edges. -/
theorem serve_unhindered (h : t.Unhindered) (r : Nat) : (serve r t).Unhindered := by
  induction r generalizing t with
  | zero => exact h
  | succ r ih => exact ih h.edge

/-- Where no transfer runs, none runs behind any number of edges. -/
theorem serve_stuck (h : t.Unhindered) (hstuck : t.bare.Stuck) (r : Nat) :
    (serve r t).bare.Stuck := by
  induction r generalizing t with
  | zero => exact hstuck
  | succ r ih =>
    refine ih h.edge ?_
    rw [Transport.bare_onReadyEdge]
    exact hstuck.edge h.settled

/-- Edges take one command and one event further each, unless there comes a point where no transfer
runs any more. -/
theorem serve_further (h : t.Unhindered) (r : Nat) :
    (serve r t).bare.Stuck ∨ Further r t.bare (serve r t).bare := by
  induction r generalizing t with
  | zero => exact .inr (.refl _)
  | succ r ih =>
    by_cases hstuck : t.bare.Stuck
    · exact .inl (serve_stuck h hstuck (r + 1))
    · have hfirst : Further 1 t.bare t.onReadyEdge.2.bare := by
        rw [Transport.bare_onReadyEdge]
        exact Transport.edge_further hstuck h.settled.healthy h.budget
      refine (ih h.edge).imp_right fun hrest => ?_
      have hboth := hfirst.trans hrest
      rwa [Nat.add_comm] at hboth

/-! ## Operations -/

/-- A change made to a radio does not make its exchanges fail. -/
def Spares (change : Radio → Radio) : Prop :=
  ∀ radio, radio.budget = none → (change radio).budget = none

/-- Telling the radio of an event does not make its exchanges fail. -/
theorem spares_pushEvent (event : RadioEvent) : Spares (Radio.pushEvent event) :=
  fun _ h => h

/-- A step leaves a transport alone unhindered if what it does to the radio spares it. -/
theorem Step.runAlone_unhindered (h : t.Unhindered) {step : Step (Radio → Radio) max}
    (hstep : ∀ change, step = .touch change → Spares change) : (step.runAlone t).2.Unhindered := by
  cases step with
  | operate op =>
    rw [Step.runAlone, Reply.snd_map]
    exact h.op op
  | touch change => exact ⟨h.settled, hstep change rfl _ h.budget⟩
  | clock byte => exact ⟨h.settled, Radio.budget_exchange byte h.budget⟩
  | knock call => exact h

/-- So does a sequence of steps, by induction. -/
theorem Step.runAllAlone_unhindered (h : t.Unhindered) {steps : List (Step (Radio → Radio) max)}
    (hsteps : ∀ change, .touch change ∈ steps → Spares change) :
    (Step.runAllAlone steps t).2.Unhindered := by
  induction steps generalizing t with
  | nil => exact h
  | cons step steps ih =>
    have hfirst := Step.runAlone_unhindered h fun change hchange =>
      hsteps change (hchange ▸ List.mem_cons_self)
    exact ih hfirst fun change hchange => hsteps change (List.mem_cons_of_mem _ hchange)

variable {schedule : List (List Knock)} {past : List (List Entry)} {s : Shared Radio max depth}

/-- So does a sequence of operations on a handle at rest, with their replays. -/
theorem Rests.unhindered (hrests : Rests schedule past s t) (h : t.Unhindered)
    {ops : List (Op (Radio → Radio) max)}
    (hops : ∀ op ∈ ops, ∀ change, .touch change ∈ op.steps → Spares change) :
    ∃ t', Rests schedule past (Shared.runAll ops s).2 t' ∧ t'.Unhindered := by
  induction ops generalizing s t with
  | nil => exact ⟨t, hrests, h⟩
  | cons op ops ih =>
    obtain ⟨r, hserialised⟩ := hrests.serialised op
    have hown := Step.runAllAlone_unhindered h (hops op List.mem_cons_self)
    exact ih hserialised.rests (serve_unhindered hown r) fun op hop =>
      hops op (List.mem_cons_of_mem _ hop)

variable {op : Op (Radio → Radio) max} {r : Nat}

/-- An operation in which an edge was turned away is followed by a replay. -/
theorem Serialised.replays_pos (h : Serialised schedule past s t op r)
    (hedge : .knock .readyEdge ∈ op.steps ∨
      Arrived schedule t.link.exchanged (Step.runAllAlone op.steps t).2.link.exchanged) :
        0 < r := by
  cases h.replays with
  | rest hnone => exact absurd hedge hnone
  | again => exact Nat.succ_pos _

/-- The replays behind an operation take one command and one event further each, unless there comes
a point where no transfer runs any more. -/
theorem Serialised.further (h : Serialised schedule past s t op r)
    (hown : (Step.runAllAlone op.steps t).2.Unhindered) :
    let final := (op.run s).2.transport
    (final.relink final.link.link).Stuck ∨
      Further r (Step.runAllAlone op.steps t).2.bare (final.relink final.link.link) := by
  intro final
  obtain ⟨served, hserved, hover⟩ := h.rests.transport
  have hfinal : (serve r (Step.runAllAlone op.steps t).2).bare = final.relink final.link.link := by
    rw [hover, Transport.bare]
    show final.relink served.link = _
    rw [← hserved.link]
  rw [← hfinal]
  exact serve_further hown r

/-- The handle is at rest also for a transport alone whose record starts now. -/
theorem Rests.alone (h : Rests schedule past s t) :
    Rests s.transport.link.knocks s.transport.link.entries s s.alone :=
  ⟨h.gate, _, ⟨rfl, rfl, (List.append_nil _).symm⟩, rfl⟩

/-- If the transport that a handle at rest agrees with is unhindered, so is the one whose record
starts now. -/
theorem Rests.alone_unhindered (h : Rests schedule past s t) (hunhindered : t.Unhindered) :
    s.alone.Unhindered := by
  obtain ⟨link, hlink, rfl⟩ := h.transport
  exact ⟨hunhindered.settled, (congrArg Radio.budget hlink.link).trans hunhindered.budget⟩

/-- **A release takes one command and one event further for each replay.** Over a radio whose
exchanges do not fail, at any point of a history in which calls come from inside the exchanges and
from inside the work done under a hold of the lock: an operation in which an edge was turned away is
followed by `r` replays, which are one at least. If the radio asserts READY behind them, then the
event queue is full, or the `r` oldest commands have left the queue and `r` events the radio. So
nothing is left exactly if there was no more than one command and one event for each replay. -/
theorem replays_take_one_each {radio : Radio} (hradio : radio.budget = none)
    {config : TransportConfig}
    {t : Transport Radio max depth} (h : Transport.init radio config = .ok t)
    (schedule : List (List Knock))
    (ops : List (Op (Radio → Radio) max)) (op : Op (Radio → Radio) max)
    (hops : ∀ other ∈ op :: ops, ∀ change, .touch change ∈ other.steps → Spares change) :
    let s := (runAll ops (share schedule t)).2
    let own := (Step.runAllAlone op.steps s.alone).2
    let final := (op.run s).2.transport
    ∃ r, Serialised s.transport.link.knocks s.transport.link.entries s s.alone op r ∧
      (.knock .readyEdge ∈ op.steps ∨ Arrived s.transport.link.knocks 0 own.link.exchanged →
        0 < r ∧
        (final.link.link.ready = true →
          final.events.isFull = true ∨
          (final.commands.toList = own.commands.toList.drop r ∧
            final.link.link.events.length = own.link.link.backlog - r))) := by
  intro s own final
  obtain ⟨hop, hops⟩ := List.forall_mem_cons.1 hops
  have hstart : Unhindered (t.relink { link := t.link }) := by
    obtain ⟨hhost, calls, htrace, -⟩ := Transport.init_eq_ok h
    refine ⟨?_, (htrace.unlimited hradio).2⟩
    show t.host.Settled
    rw [hhost]
    exact ⟨rfl, rfl, rfl⟩
  obtain ⟨t', hrests, hunhindered⟩ := (share_rests schedule t).unhindered hstart hops
  have hown : own.Unhindered :=
    Step.runAllAlone_unhindered (hrests.alone_unhindered hunhindered) hop
  obtain ⟨r, hserialised⟩ := hrests.alone.serialised op
  refine ⟨r, hserialised, fun hedge => ⟨hserialised.replays_pos hedge, fun hready => ?_⟩⟩
  rcases hserialised.further hown with (hfull | hunready) | hfurther
  · exact .inl hfull
  · -- a replay that found the radio not ready has left it so
    cases hready.symm.trans hunready
  · have hclosed := hfurther.transaction (.inr (hserialised.replays_pos hedge))
    have hbacklog := hfurther.backlog
    rw [Radio.backlog, hclosed] at hbacklog
    exact .inr ⟨hfurther.commands, hbacklog⟩

/-- Some work under the lock during which two events come, each with an edge that is turned away:
both edges share one replay, which takes one event, and the other one is left although READY is
asserted and there is room for it. -/
theorem event_left_behind_replay :
    ∃ t : Transport Radio 31 4, Transport.init {} {} = .ok t ∧
      let op : Op (Radio → Radio) 31 := .within [.touch (Radio.pushEvent (.ofPayload 0 [7])),
        .knock .readyEdge, .touch (Radio.pushEvent (.ofPayload 0 [8])), .knock .readyEdge]
      let run := runAll [op] (share [] t)
      run.1 = [.ok [.ok none, .ok none, .ok none, .ok none]] ∧ run.2.gate = {} ∧
      run.2.transport.link.link.ready = true ∧
      run.2.transport.link.link.events = [.ofPayload 0 [8]] ∧
      run.2.transport.events.isFull = false :=
  ⟨_, rfl, rfl, rfl, rfl, rfl, rfl⟩

/-- Three events come and two edges, the second one during the replay of the first: the two replays
take two events. -/
theorem replays_take_one_each_of_three :
    ∃ t : Transport Radio 31 4, Transport.init {} {} = .ok t ∧
      let s := share [[.readyEdge]] t
      let op : Op (Radio → Radio) 31 := .within [.touch (Radio.pushEvent (.ofPayload 0 [7])),
        .touch (Radio.pushEvent (.ofPayload 0 [8])), .touch (Radio.pushEvent (.ofPayload 0 [9])),
          .knock .readyEdge]
      Serialised s.transport.link.knocks s.transport.link.entries s s.alone op 2 ∧
      (op.run s).2.transport.link.link.events = [.ofPayload 0 [9]] := by
  have hinit : Transport.init {} {} = (.ok _ : Except _ (Transport Radio 31 4)) := rfl
  refine ⟨_, hinit, ?_, rfl⟩
  obtain ⟨r, hserialised, htakes⟩ := replays_take_one_each rfl hinit [[.readyEdge]] []
    (.within [.touch (Radio.pushEvent (.ofPayload 0 [7])),
      .touch (Radio.pushEvent (.ofPayload 0 [8])), .touch (Radio.pushEvent (.ofPayload 0 [9])),
      .knock .readyEdge])
    (by
      intro other hother change hchange
      obtain rfl := List.mem_singleton.1 hother
      simp only [Op.steps, List.mem_cons, Step.touch.injEq, reduceCtorEq, List.not_mem_nil,
        or_false] at hchange
      rcases hchange with rfl | rfl | rfl <;> exact spares_pushEvent _)
  obtain ⟨-, hleft⟩ := htakes (.inl (by simp [Op.steps]))
  rcases hleft rfl with hfull | ⟨-, hevents⟩
  · cases hfull
  · have htwo : 1 = 3 - r := hevents
    obtain rfl : r = 2 := by omega
    exact hserialised

end Shared

end RadioLink
