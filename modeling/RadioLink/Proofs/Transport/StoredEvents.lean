import RadioLink.Proofs.Transport.FailedOperations
import RadioLink.Proofs.Transport.LostRequest
import RadioLink.Proofs.Transport.Statistics

/-!
# What becomes of an event that has come in

A cycle that has exchanged all its bytes still drives REQUEST up to two times: the transfer releases
the line, and the transport then brings it to the level that the queues ask for. The event is stored
between the two. So the second drive may fail without harm, but if the first one does, the event is
in no queue, and the radio has given it away (`Transport.event_stored_iff_released`).

`Transport.ClocksIn` says of the link, and not of the transport, that a cycle gets as far as its
last byte. A receive takes the head of the queue behind its cycle; what it can lose then is what
`Transport.Forfeits` describes.
-/

namespace RadioLink

variable {σ : Type} {max depth : Nat} [Link σ]

namespace Transfer

variable {frame : Frame max} {outcome : Outcome max} {start asserted link link' : σ}

/-- A transfer whose bytes have all been exchanged succeeds if REQUEST is released behind them. -/
theorem run_of_released (hassert : Link.setRequest true start = (.ok (), asserted))
    (hclock : clockFrame frame asserted = (.ok outcome, link))
    (hrelease : Link.setRequest false link = (.ok (), link')) :
    run frame start = (.ok outcome, link') := by
  simp only [run, hassert, hclock, hrelease]

/-- A transfer whose bytes have all been exchanged fails if REQUEST is not released behind them. -/
theorem run_of_unreleased {cause : LinkError}
    (hassert : Link.setRequest true start = (.ok (), asserted))
    (hclock : clockFrame frame asserted = (.ok outcome, link))
    (hrelease : Link.setRequest false link = (.error cause, link')) :
    run frame start = (.error cause, link') := by
  simp only [run, hassert, hclock, hrelease]

end Transfer

namespace Transport

variable {t : Transport σ max depth} {outcome : Transfer.Outcome max} {link link' : σ}

/-- A cycle exchanges all bytes of its transfer: there is room for an event, the radio is ready,
REQUEST can be asserted, and no byte fails. The bytes bring `outcome` and leave the link at
`link`. -/
structure ClocksIn (t : Transport σ max depth) (outcome : Transfer.Outcome max) (link : σ) :
    Prop where
  room : t.events.isFull = false
  clocked : ∃ ready asserted, Link.readReady t.link = (.ok true, ready) ∧
    Link.setRequest true ready = (.ok (), asserted) ∧
    Transfer.clockFrame t.host.outbound asserted = (.ok outcome, link)

/-- A cycle stores the event that its transfer has brought, whatever comes of REQUEST behind
that. -/
theorem ClocksIn.cycle_of_released (h : t.ClocksIn outcome link) (hevent : outcome.hasEvent = true)
    (hrelease : Link.setRequest false link = (.ok (), link')) :
    t.cycle.2.events.toList = t.events.toList ++ [outcome.received] := by
  obtain ⟨hroom, ready, asserted, hready, hassert, hclock⟩ := h
  have hrun := Transfer.run_of_released hassert hclock hrelease
  obtain ⟨t₁, -, haccepts, htransfer⟩ :=
    runTransfer_of_ok (t := { t with link := ready }) hrun hroom
  have hstored : t.events.toList ++ Transfer.gained (some (.ok outcome)) = t₁.events.toList :=
    haccepts.events.2
  rw [Transfer.gained, if_pos hevent] at hstored
  rw [cycle_of_ready hroom hready, htransfer, Reply.snd_map, (syncRequest_same t₁).2.1, hstored]

/-- A cycle that cannot release REQUEST behind its last byte fails, and neither stores nor counts
what the bytes have brought. -/
theorem ClocksIn.cycle_of_unreleased (h : t.ClocksIn outcome link) {cause : LinkError}
    (hrelease : Link.setRequest false link = (.error cause, link')) :
    t.cycle.1 = .error (.link cause) ∧ t.cycle.2.events = t.events ∧ t.cycle.2.stats = t.stats := by
  obtain ⟨hroom, ready, asserted, hready, hassert, hclock⟩ := h
  have hrun := Transfer.run_of_unreleased hassert hclock hrelease
  rw [cycle_of_ready hroom hready, runTransfer_of_error (t := { t with link := ready }) hrun]
  obtain ⟨-, hevents, hstats⟩ := syncRequest_same (handedOver link' .idle { t with link := ready })
  exact ⟨rfl, hevents, hstats⟩

/-- A receive behind whose cycle an event is queued hands over the oldest one, or fails with all of
them kept, or fails and forfeits the oldest one. -/
theorem Receives.disposes {cycled : Reply Unit (Transport σ max depth)}
    {received : Reply (Option (Frame max)) (Transport σ max depth)} (h : Receives cycled received)
    (hqueued : cycled.2.events.toList ≠ []) :
    (∃ event rest, cycled.2.events.toList = event :: rest ∧ received.1 = .ok (some event) ∧
      received.2.events.toList = rest) ∨
    (∃ e, received.1 = .error e ∧ received.2.events = cycled.2.events) ∨
    ∃ cause, received.1 = .error (.link cause) ∧ cycled.2.Forfeits cause ∧
      received.2.events.toList = cycled.2.events.toList.tail := by
  cases h with
  | @unrefilled e t₁ hcycled =>
    rw [hcycled]
    exact .inr (.inl ⟨e, rfl, rfl⟩)
  | missed hcycled hhead =>
    rw [hcycled] at hqueued
    exact absurd (List.head?_eq_none_iff.1 hhead) hqueued
  | @taken event t₁ t' hcycled hhead hevents =>
    rw [hcycled]
    exact .inl ⟨event, _, Queue.toList_of_peek hhead, rfl, congrArg Queue.toList hevents⟩
  | @forfeited cause t₁ t' hcycled hforfeits hevents =>
    rw [hcycled]
    exact .inr (.inr ⟨cause, rfl, hforfeits, congrArg Queue.toList hevents⟩)

/-- **An event that has come in is stored exactly if REQUEST can be released behind its last byte.**
On every link, let a transport that is not halted run a cycle that exchanges all its bytes, and let
the radio declare a length. If the release behind the last byte succeeds, the event is put behind
the events that are queued, also if REQUEST cannot be brought to its level after that and the
operation fails; a receive then hands over the oldest event, or it fails and keeps them all, or it
forfeits the oldest one. If the release fails, the operation fails with its error, and the event is
lost: it is not queued, and no counter tells of it. -/
theorem event_stored_iff_released (hhealthy : t.faulted = false) (h : t.ClocksIn outcome link)
    (hevent : outcome.hasEvent = true) :
    let stored := t.events.toList ++ [outcome.received]
    let release := (Link.setRequest false link).1
    let received := t.tryReceive
    (release = .ok () →
      (∀ op : Op max, op = .poll ∨ op = .readyEdge → (op.run t).2.events.toList = stored) ∧
      ((∃ event rest, stored = event :: rest ∧ received.1 = .ok (some event) ∧
        received.2.events.toList = rest) ∨
        (∃ e, received.1 = .error e ∧ received.2.events.toList = stored) ∨
        ∃ cause, received.1 = .error (.link cause) ∧ t.refill.2.Forfeits cause ∧
          received.2.events.toList = stored.tail)) ∧
    ∀ cause, release = .error cause → ∀ op : Op max, op.drivesCycle = true →
      (op.run t).1 = .error (.link cause) ∧ (op.run t).2.events = t.events ∧
        (op.run t).2.stats = t.stats := by
  intro stored release received
  constructor
  · intro hreleased
    have hcycle : t.cycle.2.events.toList = stored :=
      h.cycle_of_released hevent (Prod.ext hreleased rfl)
    constructor
    · intro op hop
      rw [Op.run_of_drive hhealthy hop, Reply.snd_map, hcycle]
    · have hqueued : t.refill.2.events.toList = stored := by
        rw [refill_of_room h.room, Reply.snd_map, hcycle]
      have hdisposes := (tryReceive_receives hhealthy).disposes (by simp [hqueued, stored])
      rw [hqueued] at hdisposes
      refine hdisposes.imp_right (.imp_left ?_)
      rintro ⟨e, he, hkept⟩
      exact ⟨e, he, by rw [hkept, hqueued]⟩
  · intro cause hunreleased op hop
    obtain ⟨hanswer, hevents, hstats⟩ := h.cycle_of_unreleased (Prod.ext hunreleased rfl)
    rw [Op.run_of_cycle_failed hhealthy h.room hop (Prod.ext hanswer rfl)]
    exact ⟨rfl, hevents, hstats⟩

/-- Of two commands the first one is exchanged for an event, and REQUEST, which has been released,
cannot be asserted for the second one. The poll fails, and the event is queued. -/
theorem event_stored_iff_released_behind_poll :
    ∃ t : Transport (Faulty Radio) 1 4,
      init
        { link := { events := [⟨0, 1, [7]⟩] }
          faults := { request := [false, false, false, false, true] } } {} = .ok t ∧
      let before := (runAll [.send ⟨0, 1, #v[1]⟩, .send ⟨0, 1, #v[2]⟩] t).2
      before.faulted = false ∧
        (∃ outcome link, before.ClocksIn outcome link ∧ outcome.hasEvent = true) ∧
      ((Op.poll : Op 1).run before).1 = .error (.link (.pin .request Faulty.detail)) ∧
      ((Op.poll : Op 1).run before).2.events.toList = [⟨0, 1, #v[7]⟩] := by
  refine ⟨_, rfl, ?_⟩
  intro before
  have hclocks : ∃ outcome link, before.ClocksIn outcome link ∧ outcome.hasEvent = true ∧
      outcome.received = ⟨0, 1, #v[7]⟩ ∧ (Link.setRequest false link).1 = .ok () :=
    ⟨_, _, ⟨rfl, _, _, rfl, rfl, rfl⟩, rfl, rfl, rfl⟩
  obtain ⟨outcome, link, hclocks, hevent, hreceived, hrelease⟩ := hclocks
  refine ⟨rfl, ⟨outcome, link, hclocks, hevent⟩, rfl, ?_⟩
  have hstored := ((event_stored_iff_released rfl hclocks hevent).1 hrelease).1 .poll (.inl rfl)
  rw [hstored, hreceived]
  rfl

/-- A poll has exchanged all bytes of an event and cannot release REQUEST. The radio has given the
event away, and the transport has not got it. -/
theorem event_lost_behind_release :
    ∃ t : Transport (Faulty Radio) 31 4, init unreleasedLink {} = .ok t ∧
      t.faulted = false ∧
      (∃ outcome link, t.ClocksIn outcome link ∧ outcome.hasEvent = true ∧
        outcome.received.payload = [7]) ∧
      t.poll.1 = .error (.link (.pin .request Faulty.detail)) ∧ t.poll.2.events.toList = [] ∧
      t.poll.2.stats = {} ∧ t.link.link.events.length = 1 ∧ t.poll.2.link.link.events = [] :=
  ⟨_, rfl, rfl, ⟨_, _, ⟨rfl, _, _, rfl, rfl, rfl⟩, rfl, rfl⟩, rfl, rfl, rfl, rfl, rfl⟩

end Transport

end RadioLink
