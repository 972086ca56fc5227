import RadioLink.Proofs.Transport.Backpressure

/-!
# The counters account for every frame

A `Tally` counts what the operations of a history have done to frames, independently of the counters
of the transport: the commands that were queued, the transfers that succeeded, the commands that
were lost in transfers that failed, the events that were taken, and what was discarded.
`Transport.Reconciles` says that the counters and the lengths of the queues agree with a tally.

The counters are bumped on paths that can still fail behind them, when REQUEST is brought to its
level. That changes neither a queue nor a counter (`Reconciles.syncRequest`), so an operation
reconciles whatever it answers. What an operation did is therefore read off the transport that it
met: from its answer alone it could not be told whether an event that is lost to an error has left
the queue.
-/

namespace RadioLink

variable {σ : Type} {max depth : Nat}

/-! ## Tallies -/

/-- What operations have done to frames. -/
@[ext] structure Tally where
  /-- The commands that were queued. -/
  queued : Nat := 0
  /-- The transfers that succeeded. -/
  succeeded : Nat := 0
  /-- The transfers that succeeded and received a frame with a length. -/
  brought : Nat := 0
  /-- The commands that left their queue for a transfer that failed. -/
  lost : Nat := 0
  /-- The events that left their queue for the application. -/
  taken : Nat := 0
  /-- The commands that were discarded. -/
  discardedCommands : Nat := 0
  /-- The events that were discarded. -/
  discardedEvents : Nat := 0
  /-- The polls and edges that found the event queue full. -/
  stalled : Nat := 0

namespace Tally

instance : Add Tally where
  add a b := {
    queued := a.queued + b.queued
    succeeded := a.succeeded + b.succeeded
    brought := a.brought + b.brought
    lost := a.lost + b.lost
    taken := a.taken + b.taken
    discardedCommands := a.discardedCommands + b.discardedCommands
    discardedEvents := a.discardedEvents + b.discardedEvents
    stalled := a.stalled + b.stalled }

variable (a b c : Tally)

@[simp] theorem queued_add : (a + b).queued = a.queued + b.queued := rfl

@[simp] theorem succeeded_add : (a + b).succeeded = a.succeeded + b.succeeded := rfl

@[simp] theorem brought_add : (a + b).brought = a.brought + b.brought := rfl

@[simp] theorem lost_add : (a + b).lost = a.lost + b.lost := rfl

@[simp] theorem taken_add : (a + b).taken = a.taken + b.taken := rfl

@[simp] theorem discardedCommands_add :
    (a + b).discardedCommands = a.discardedCommands + b.discardedCommands := rfl

@[simp] theorem discardedEvents_add :
    (a + b).discardedEvents = a.discardedEvents + b.discardedEvents := rfl

@[simp] theorem stalled_add : (a + b).stalled = a.stalled + b.stalled := rfl

theorem add_assoc : a + b + c = a + (b + c) := by
  ext <;> simp [Nat.add_assoc]

theorem empty_add : {} + a = a := by
  ext <;> simp

/-- What a transfer that takes a command out of its queue, if there is one, does to frames by its
result. -/
def ofTransfer (command : Option (Frame max)) :
    Option (Except LinkError (Transfer.Outcome max)) → Tally
  | none => {}
  | some (.error _) => { lost := command.toList.length }
  | some (.ok outcome) =>
      { succeeded := 1 } + { brought := if outcome.received.length = 0 then 0 else 1 }

end Tally

namespace Transport

/-- The counters and the queues agree with a tally. -/
structure Reconciles (b : Tally) (t : Transport σ max depth) : Prop where
  transfers : t.stats.transfers = b.succeeded
  sent : t.stats.transfers = t.stats.commandsSent + t.stats.emptyPolls
  commands : b.queued = t.stats.commandsSent + t.commands.size + b.discardedCommands + b.lost
  received : t.stats.eventsReceived = b.brought
  events : t.stats.eventsReceived = t.events.size + b.taken + b.discardedEvents
  stalls : t.stats.backpressureStalls = b.stalled

variable {b : Tally} {t : Transport σ max depth}

/-- Nothing but the queues and the counters matters. -/
theorem Reconciles.of_same {τ : Type} {t' : Transport τ max depth} (h : Reconciles b t)
    (hcommands : t'.commands = t.commands) (hevents : t'.events = t.events)
    (hstats : t'.stats = t.stats) :
    Reconciles b t' := by
  constructor
  case transfers => rw [hstats, h.transfers]
  case sent => rw [hstats, h.sent]
  case commands => rw [hstats, hcommands, h.commands]
  case received => rw [hstats, h.received]
  case events => rw [hstats, hevents, h.events]
  case stalls => rw [hstats, h.stalls]

/-- A transfer that fails loses the oldest command. -/
theorem Reconciles.handedOver (h : Reconciles b t) (e : LinkError) (link : σ) (phase : Phase) :
    Reconciles (b + .ofTransfer t.commands.peek?
      (some (.error e) : Option (Except _ (Transfer.Outcome max)))) (t.handedOver link phase) := by
  have hqueue := t.commands.size_eq_peek_add_tail
  have hcommands := h.commands
  refine ⟨h.transfers, h.sent, ?_, h.received, h.events, h.stalls⟩
  simp only [Transport.handedOver, Tally.ofTransfer, Tally.queued_add, Tally.discardedCommands_add,
    Tally.lost_add]
  omega

/-- A transfer that succeeds counts the oldest command, or an empty poll if there is none. -/
theorem Reconciles.counted {t : Host max depth} (h : Reconciles b t) :
    Reconciles (b + { succeeded := 1 }) t.counted := by
  have hqueue : t.commands.size = _ + t.counted.commands.size := t.commands.size_eq_peek_add_tail
  have ⟨htransfers, hsent, hcommands, hreceived, hevents, hstalls⟩ := h
  constructor
  case transfers => rw [t.counted_stats, htransfers, Tally.succeeded_add]
  case sent =>
    rw [t.counted_stats]
    cases t.commands.peek? with
    | none => exact congrArg Nat.succ hsent
    | some frame => exact (congrArg Nat.succ hsent).trans (Nat.succ_add _ _).symm
  case commands =>
    simp only [t.counted_stats, Tally.queued_add, Tally.discardedCommands_add, Tally.lost_add]
    omega
  case received =>
    rw [t.counted_stats]
    exact hreceived
  case events =>
    rw [t.counted_stats]
    exact hevents
  case stalls =>
    rw [t.counted_stats]
    exact hstalls

/-- An event that a transfer brings is counted as it is stored. -/
theorem Reconciles.accepts {outcome : Transfer.Outcome max} {t t' : Host max depth}
    (h : Reconciles b t) (haccepts : Host.Accepts outcome t t') :
    Reconciles (b + { brought := if outcome.received.length = 0 then 0 else 1 }) t' := by
  have ⟨htransfers, hsent, hcommands, hreceived, hevents, hstalls⟩ := h
  cases haccepts with
  | blank hblank =>
    have hlength : outcome.received.length = 0 := by simpa [Transfer.Outcome.hasEvent] using hblank
    rw [if_pos hlength]
    exact ⟨htransfers, hsent, hcommands, hreceived, hevents, hstalls⟩
  | @stored events hevent hstored =>
    have hlength : outcome.received.length ≠ 0 := by simpa [Transfer.Outcome.hasEvent] using hevent
    have hsize : events.size = t.events.size + 1 := Queue.size_of_enqueue hstored
    rw [if_neg hlength]
    refine ⟨htransfers, hsent, hcommands, congrArg Nat.succ hreceived, ?_, hstalls⟩
    show t.stats.eventsReceived + 1 = events.size + b.taken + b.discardedEvents
    omega

/-! ## Cycles -/

variable [Link σ]

/-- Bringing REQUEST to its level touches neither the queues nor the counters. -/
theorem syncRequest_same (t : Transport σ max depth) :
    t.syncRequest.2.commands = t.commands ∧ t.syncRequest.2.events = t.events ∧
      t.syncRequest.2.stats = t.stats := by
  obtain ⟨calls, -, hholds⟩ := syncRequest_obeys t
  obtain ⟨asserted, phase, hframe⟩ := hholds.frame
  exact ⟨(congrArg (·.commands) hframe :), (congrArg (·.events) hframe :),
    (congrArg (·.stats) hframe :)⟩

/-- Bringing REQUEST to its level keeps the books. -/
theorem Reconciles.syncRequest (h : Reconciles b t) : Reconciles b t.syncRequest.2 := by
  obtain ⟨hcommands, hevents, hstats⟩ := syncRequest_same t
  exact h.of_same hcommands hevents hstats

/-- The result of the transfer that a cycle runs, if it runs one: there is room for an event, and
the radio is ready. -/
def transfer? (t : Transport σ max depth) : Option (Except LinkError (Transfer.Outcome max)) :=
  if t.events.isFull then
    none
  else
    match Link.readReady t.link with
    | (.ok true, link) => some (Transfer.run t.host.outbound link).1
    | _ => none

/-- With the event queue full a cycle runs no transfer. -/
theorem transfer?_of_full (h : t.events.isFull = true) : t.transfer? = none := by
  simp only [transfer?, h, if_true]

/-- Without READY a cycle runs no transfer. -/
theorem transfer?_of_unready {answer : Except LinkError Bool} {link : σ}
    (hready : Link.readReady t.link = (answer, link)) (h : answer ≠ .ok true) :
    t.transfer? = none := by
  rw [transfer?, hready]
  split
  · rfl
  · split
    · rename_i hanswer
      exact absurd (Prod.mk.inj hanswer).1 h
    · rfl

/-- With room in the event queue and READY asserted a cycle runs a transfer. -/
theorem transfer?_of_ready (hroom : t.events.isFull = false) {link : σ}
    (hready : Link.readReady t.link = (.ok true, link)) :
    t.transfer? = some (Transfer.run t.host.outbound link).1 := by
  simp only [transfer?, hroom, hready, Bool.false_eq_true, if_false]

/-- A transfer keeps the books, with its own tally added: a lost command if it was aborted, one
transfer and what it sent and brought otherwise. -/
theorem Reconciles.runTransfer (h : Reconciles b t) (hroom : t.events.isFull = false) :
    Reconciles (b + .ofTransfer t.commands.peek? (some (Transfer.run t.host.outbound t.link).1))
      t.runTransfer.2 := by
  rcases hrun : Transfer.run t.host.outbound t.link with ⟨e | outcome, link⟩
  · rw [runTransfer_of_error hrun]
    exact (h.handedOver e link .idle).syncRequest
  · obtain ⟨t₁, -, haccepts, hrun'⟩ := runTransfer_of_ok hrun hroom
    rw [hrun', Reply.snd_map]
    have hhost : Reconciles b t.host := h.of_same rfl rfl rfl
    have hstored := hhost.counted.accepts haccepts
    rw [Tally.add_assoc] at hstored
    exact Reconciles.syncRequest (hstored.of_same rfl rfl rfl)

/-- A cycle with room for an event counts what its transfer does, if it runs one. -/
theorem Reconciles.cycle (h : Reconciles b t) (hroom : t.events.isFull = false) :
    Reconciles (b + .ofTransfer t.commands.peek? t.transfer?) t.cycle.2 := by
  rcases hready : Link.readReady t.link with ⟨e | _ | _, link⟩
  · rw [cycle_of_unsampled hroom hready, transfer?_of_unready hready nofun]
    exact h.of_same rfl rfl rfl
  · rw [cycle_of_unready hroom hready, Reply.snd_map, transfer?_of_unready hready nofun]
    exact Reconciles.syncRequest (h.of_same rfl rfl rfl)
  · rw [cycle_of_ready hroom hready, transfer?_of_ready hroom hready]
    exact Reconciles.runTransfer (t := { t with link }) (h.of_same rfl rfl rfl) hroom

/-- A cycle without room for an event is counted, and does nothing else. -/
theorem Reconciles.stall (h : Reconciles b t) (hfull : t.events.isFull = true) :
    Reconciles (b + { stalled := 1 }) t.cycle.2 := by
  have hcounted : Reconciles (b + { stalled := 1 }) t.countStall :=
    ⟨h.transfers, h.sent, h.commands, h.received, h.events, congrArg Nat.succ h.stalls⟩
  rw [cycle_of_full hfull, Reply.snd_map]
  exact hcounted.syncRequest

/-- A cycle ahead of a receive keeps the books, with the tally of the transfer that it has run, if
any. -/
theorem Reconciles.refill (h : Reconciles b t) :
    Reconciles (b + .ofTransfer t.commands.peek? t.transfer?) t.refill.2 := by
  cases hfull : t.events.isFull with
  | true =>
    rw [refill_of_full hfull, transfer?_of_full hfull]
    exact h
  | false =>
    rw [refill_of_room hfull, Reply.snd_map]
    exact h.cycle hfull

/-! ## Operations -/

/-- The result of the transfer that an operation runs, if it runs one. -/
def Op.transfer? (op : Op max) (t : Transport σ max depth) :
    Option (Except LinkError (Transfer.Outcome max)) :=
  if op.drivesCycle && !t.faulted then t.transfer? else none

/-- The event that a receive takes out of the queue: the oldest one after the refill. The receive
may still fail then. -/
def dequeued? (t : Transport σ max depth) : Option (Frame max) :=
  match t.faulted, t.refill with
  | false, (.ok (), t) => t.events.peek?
  | _, _ => none

/-- What an operation does to frames. The commands that a send has queued are those behind the ones
that it has met. -/
def Op.tally (op : Op max) (t : Transport σ max depth) : Tally :=
  Tally.ofTransfer t.commands.peek? (op.transfer? t) +
    match op with
    | .send frame => { queued := ((t.send frame).2.commands.toList.drop t.commands.size).length }
    | .tryReceive => { taken := t.dequeued?.toList.length }
    | .poll | .readyEdge => { stalled := if t.events.isFull then 1 else 0 }
    | .isPeerReady => {}
    | .flush => { discardedCommands := t.commands.size, discardedEvents := t.events.size }

/-- What the operations of a history do to frames. -/
def tally : List (Op max) → Transport σ max depth → Tally
  | [], _ => {}
  | op :: ops, t => op.tally t + tally ops (op.run t).2

/-- A poll and an edge count a stall or what the transfer of their cycle does. -/
theorem Reconciles.drive (h : Reconciles b t) :
    Reconciles (b + (.ofTransfer t.commands.peek? t.transfer? +
      { stalled := if t.events.isFull then 1 else 0 }))
      t.cycle.2 := by
  cases hfull : t.events.isFull with
  | true =>
    rw [transfer?_of_full hfull]
    exact h.stall hfull
  | false => exact h.cycle hfull

/-- Sampling READY keeps the books and tallies nothing. -/
theorem Reconciles.isPeerReady (h : Reconciles b t) :
    Reconciles (b + Op.isPeerReady.tally t) ((Op.isPeerReady : Op max).run t).2 := by
  rcases hready : Link.readReady t.link with ⟨answer, link⟩
  rw [Op.run_isPeerReady hready]
  exact h.of_same rfl rfl rfl

/-- A flush empties the queues also when it cannot deassert REQUEST. -/
theorem flush_same (t : Transport σ max depth) :
    t.flush.2.commands = .empty ∧ t.flush.2.events = .empty ∧ t.flush.2.stats = t.stats := by
  cases hasserted : t.requestAsserted with
  | false =>
    rw [flush_of_released hasserted]
    exact ⟨rfl, rfl, rfl⟩
  | true =>
    rcases hdrive : Link.setRequest false t.link with ⟨cause | ⟨⟩, link⟩
    · rw [flush_of_failed hasserted hdrive]
      exact ⟨rfl, rfl, rfl⟩
    · rw [flush_of_asserted hasserted hdrive]
      exact ⟨rfl, rfl, rfl⟩

/-- A flush keeps the books and tallies what it has discarded. -/
theorem Reconciles.flush (h : Reconciles b t) :
    Reconciles (b + Op.flush.tally t) ((Op.flush : Op max).run t).2 := by
  have htally : Op.flush.tally t =
      { discardedCommands := t.commands.size, discardedEvents := t.events.size } :=
    Tally.empty_add _
  obtain ⟨hcommands, hevents, hstats⟩ := flush_same t
  have hqueued := h.commands
  have hreceived := h.events
  rw [htally, Op.run, Reply.snd_map]
  constructor
  case transfers => rw [hstats]; exact h.transfers
  case sent => rw [hstats]; exact h.sent
  case commands =>
    rw [hstats, hcommands]
    show b.queued = t.stats.commandsSent + 0 + (b.discardedCommands + t.commands.size) + b.lost
    omega
  case received => rw [hstats]; exact h.received
  case events =>
    rw [hstats, hevents]
    show t.stats.eventsReceived = 0 + b.taken + (b.discardedEvents + t.events.size)
    omega
  case stalls => rw [hstats]; exact h.stalls

section

variable (hhealthy : t.faulted = false)
include hhealthy

/-- While no overflow halts the transport, an operation that drives a cycle runs the transfer of
that cycle. -/
theorem Op.transfer?_of_healthy {op : Op max} (hop : op.drivesCycle = true) :
    op.transfer? t = t.transfer? := by
  simp only [Op.transfer?, hop, hhealthy, Bool.not_false, Bool.and_self, if_true]

/-- A send keeps the books and tallies the frame if it was queued. -/
theorem Reconciles.send (h : Reconciles b t) (frame : Frame max) :
    Reconciles (b + (Op.send frame).tally t) ((Op.send frame).run t).2 := by
  have htally : (Op.send frame).tally t =
      { queued := ((t.send frame).2.commands.toList.drop t.commands.size).length } :=
        Tally.empty_add _
  rw [htally, Op.run, Reply.snd_map]
  have hsame (hrun : (t.send frame).2 = t) :
      Reconciles (b + { queued := ((t.send frame).2.commands.toList.drop t.commands.size).length })
        (t.send frame).2 := by
    have hqueued : t.commands.toList.drop t.commands.size = [] := List.drop_length
    rw [hrun, hqueued]
    exact h
  cases hfits : frame.fits with
  | false => exact hsame (by rw [send_of_overlong hhealthy hfits])
  | true =>
    cases hroom : t.commands.enqueue frame with
    | error back => exact hsame (by rw [send_of_crowded hhealthy hfits hroom])
    | ok commands =>
      have hsize := Queue.size_of_enqueue hroom
      have hqueued : (commands.toList.drop t.commands.size).length = 1 := by
        rw [List.length_drop, ← Queue.size, hsize]
        exact Nat.add_sub_cancel_left _ _
      have hcommands := h.commands
      rw [send_of_room hhealthy hfits hroom]
      refine Reconciles.syncRequest ⟨h.transfers, h.sent, ?_, h.received, h.events, h.stalls⟩
      rw [(syncRequest_same _).1, Tally.queued_add, hqueued]
      show b.queued + 1 = t.stats.commandsSent + commands.size + b.discardedCommands + b.lost
      omega

/-- A receive keeps the books and tallies the event taken and the transfer run. -/
theorem Reconciles.tryReceive (h : Reconciles b t) :
    Reconciles (b + Op.tryReceive.tally t) ((Op.tryReceive : Op max).run t).2 := by
  have htally : Op.tryReceive.tally t =
      .ofTransfer t.commands.peek? t.transfer? + { taken := t.dequeued?.toList.length } := by
    rw [Op.tally, Op.transfer?_of_healthy hhealthy rfl]
  have hrefill := h.refill
  rw [htally, Op.run, Reply.snd_map, ← Tally.add_assoc]
  rcases hrun : t.refill with ⟨e | ⟨⟩, t₁⟩
  · rw [hrun] at hrefill
    have hnone : t.dequeued? = none := by simp only [dequeued?, hhealthy, hrun]
    rw [tryReceive_of_error hhealthy hrun, hnone]
    exact hrefill
  · rw [hrun] at hrefill
    have hhead : t.dequeued? = t₁.events.peek? := by simp only [dequeued?, hhealthy, hrun]
    rw [hhead]
    cases hpeek : t₁.events.peek? with
    | none =>
      rw [tryReceive_of_none hhealthy hrun hpeek]
      exact hrefill
    | some event =>
      have hqueue := t₁.events.size_eq_peek_add_tail
      rw [hpeek, Option.toList_some, List.length_singleton] at hqueue
      rw [tryReceive_of_some hhealthy hrun hpeek, Reply.snd_map]
      have hevents := hrefill.events
      refine Reconciles.syncRequest
        ⟨hrefill.transfers, hrefill.sent, hrefill.commands, hrefill.received, ?_, hrefill.stalls⟩
      simp only [Tally.taken_add, Tally.discardedEvents_add, Option.toList_some,
        List.length_singleton] at hevents ⊢
      omega

/-- The counters account for an operation, whatever it answers. -/
theorem Reconciles.op (h : Reconciles b t) (op : Op max) :
    Reconciles (b + op.tally t) (op.run t).2 := by
  cases op with
  | send frame => exact h.send hhealthy frame
  | tryReceive => exact h.tryReceive hhealthy
  | poll | readyEdge =>
    rw [Op.tally, Op.transfer?_of_healthy hhealthy rfl, Op.run_of_drive hhealthy (by simp),
      Reply.snd_map]
    exact h.drive
  | isPeerReady => exact h.isPeerReady
  | flush => exact h.flush

end

/-- The counters account for a history, on a transport that no overflow has come upon. -/
theorem Reconciles.runAll (h : Reconciles b t) (hsound : t.host.Sound) (ops : List (Op max)) :
    Reconciles (b + tally ops t) (runAll ops t).2 ∧ (runAll ops t).2.host.Sound := by
  induction ops generalizing b t with
  | nil => exact ⟨h, hsound⟩
  | cons op ops ih =>
    have hhealthy : t.faulted = false := hsound.healthy
    obtain ⟨calls, -, hperforms⟩ := op.run_performs t
    have hnext := ih (h.op hhealthy op) (hperforms.sound hsound).2
    rw [Tally.add_assoc] at hnext
    exact hnext

/-! ## The transfers of a record -/

/-- The calls of a cycle are those of its transfer, if it runs one, and calls without bytes. -/
theorem cycle_within (t : Transport σ max depth) :
    ∃ calls, Trace t.link calls t.cycle.2.link ∧
      Transfer.Within t.host.outbound calls t.transfer? := by
  cases hfull : t.events.isFull with
  | true =>
    obtain ⟨calls, htrace, hsyncs⟩ := syncRequest_obeys t.countStall
    rw [cycle_of_full hfull, Reply.snd_map, transfer?_of_full hfull]
    exact ⟨calls, htrace, .none hsyncs.silent⟩
  | false =>
    rcases hready : Link.readReady t.link with ⟨e | _ | _, link⟩
    · have hcall : Call.Leads (.ready (.error e)) t.link link := hready
      rw [cycle_of_unsampled hfull hready, transfer?_of_unready hready nofun]
      exact ⟨_, .single hcall, .none (.ready _)⟩
    · obtain ⟨calls, htrace, hsyncs⟩ := syncRequest_obeys { t with link }
      have hcall : Call.Leads (.ready (.ok false)) t.link link := hready
      rw [cycle_of_unready hfull hready, Reply.snd_map, transfer?_of_unready hready nofun]
      exact ⟨_, .cons hcall htrace, .none ((Silent.ready (.ok false)).append hsyncs.silent)⟩
    · have hcall : Call.Leads (.ready (.ok true)) t.link link := hready
      have hbefore : Silent [.ready (.ok true)] := .ready _
      obtain ⟨said, hsaid, hspoken⟩ := Transfer.says_run t.host.outbound link
      rw [cycle_of_ready hfull hready, transfer?_of_ready hfull hready]
      rcases hrun : Transfer.run t.host.outbound link with ⟨e | outcome, link'⟩
      · rw [hrun] at hsaid hspoken
        obtain ⟨sync, hsync, hsyncs⟩ := syncRequest_obeys (handedOver link' .idle { t with link })
        rw [runTransfer_of_error (t := { t with link }) hrun]
        exact ⟨_, .cons hcall (hsaid.append hsync), .one hbefore hspoken hsyncs.silent⟩
      · rw [hrun] at hsaid hspoken
        obtain ⟨t₁, hlink, -, hrun'⟩ := runTransfer_of_ok (t := { t with link }) hrun hfull
        obtain ⟨sync, hsync, hsyncs⟩ := syncRequest_obeys t₁
        rw [hrun', Reply.snd_map]
        exact ⟨_, .cons hcall (hsaid.append (hlink ▸ hsync)), .one hbefore hspoken hsyncs.silent⟩

/-- What a cycle says to the link is within the one transfer that it runs. -/
theorem refill_within (t : Transport σ max depth) :
    ∃ calls, Trace t.link calls t.refill.2.link ∧
      Transfer.Within t.host.outbound calls t.transfer? := by
  cases hfull : t.events.isFull with
  | true =>
    rw [refill_of_full hfull, transfer?_of_full hfull]
    exact ⟨[], .nil, .none .nil⟩
  | false =>
    rw [refill_of_room hfull, Reply.snd_map]
    exact cycle_within t

section

variable (hhealthy : t.faulted = false)
include hhealthy

/-- What a receive says to the link is within the one transfer that it runs. -/
theorem tryReceive_within :
    ∃ calls, Trace t.link calls t.tryReceive.2.link ∧
      Transfer.Within t.host.outbound calls t.transfer? := by
  obtain ⟨calls, htrace, hwithin⟩ := refill_within t
  rcases hrun : t.refill with ⟨e | ⟨⟩, t₁⟩
  · rw [hrun] at htrace
    rw [tryReceive_of_error hhealthy hrun]
    exact ⟨calls, htrace, hwithin⟩
  · rw [hrun] at htrace
    cases hpeek : t₁.events.peek? with
    | none =>
      rw [tryReceive_of_none hhealthy hrun hpeek]
      exact ⟨calls, htrace, hwithin⟩
    | some event =>
      obtain ⟨sync, hsync, hsyncs⟩ := syncRequest_obeys { t₁ with events := t₁.events.tail }
      rw [tryReceive_of_some hhealthy hrun hpeek, Reply.snd_map]
      exact ⟨calls ++ sync, htrace.append hsync, hwithin.append hsyncs.silent⟩

/-- The calls of an operation are those of its transfer, if it runs one, and calls without bytes. -/
theorem Op.run_within (op : Op max) :
    ∃ calls, Trace t.link calls (op.run t).2.link ∧
      Transfer.Within t.host.outbound calls (op.transfer? t) := by
  cases hop : op.drivesCycle with
  | true =>
    rw [Op.transfer?_of_healthy hhealthy hop]
    cases op with
    | tryReceive =>
      rw [Op.run, Reply.snd_map]
      exact tryReceive_within hhealthy
    | poll | readyEdge =>
      rw [Op.run_of_drive hhealthy (by simp), Reply.snd_map]
      exact cycle_within t
    | send | isPeerReady | flush => cases hop
  | false =>
    obtain ⟨calls, htrace, hperforms⟩ := op.run_performs t
    have hnone : op.transfer? t = none := by
      simp only [Op.transfer?, hop, Bool.false_and, Bool.false_eq_true, if_false]
    have hsilent : Silent calls := by
      rcases hperforms.bytes with hsilent | ⟨hdrives, -⟩
      · exact hsilent
      · rw [hop] at hdrives
        cases hdrives
    rw [hnone]
    exact ⟨calls, htrace, .none hsilent⟩

end

/-! ## Histories -/

/-- **The counters account for every frame.** On every link, after any history since the transport
was brought up, the counters and the queues agree with what the history has done: the transfers are
those that succeeded, each with a command or as an empty poll; the commands that were queued were
sent, are still queued, were discarded by a flush or were lost in a transfer that failed; the events
received are those that a transfer brought, and they were taken, are still queued or were discarded
by a flush; and each poll or edge that found the event queue full has been counted, whatever it
answered. The calls of each further operation are those of the transfer that is counted for it, if
there is one. -/
theorem statistics_account {link : Traced σ} {config : TransportConfig}
    {t : Transport (Traced σ) max depth} (h : init link config = .ok t) (ops : List (Op max)) :
    Reconciles (tally ops t) (runAll ops t).2 ∧
    ∀ op : Op max, ∃ calls,
      (op.run (runAll ops t).2).2.link.calls = (runAll ops t).2.link.calls ++ calls ∧
      Transfer.Within (runAll ops t).2.host.outbound calls (op.transfer? (runAll ops t).2) := by
  obtain ⟨hhost, -⟩ := init_eq_ok h
  have hsound : t.host.Sound := by
    rw [hhost]
    exact ⟨rfl, rfl⟩
  have hempty : Reconciles {} t.host := by
    rw [hhost]
    exact ⟨rfl, rfl, rfl, rfl, rfl, rfl⟩
  have hstart : Reconciles {} t := hempty.of_same rfl rfl rfl
  obtain ⟨hreconciles, hlast⟩ := hstart.runAll hsound ops
  rw [Tally.empty_add] at hreconciles
  refine ⟨hreconciles, fun op => ?_⟩
  obtain ⟨calls, htrace, hwithin⟩ := op.run_within (t := (runAll ops t).2) hlast.healthy
  exact ⟨calls, htrace.calls_eq, hwithin⟩

/-- The first command is lost to a failing byte, the second one is sent, and the third one is
discarded together with one of two events. The other event is lost in a receive that has taken it
from the full queue and then fails to assert REQUEST. -/
theorem statistics_account_around_faults :
    ∃ t : Transport (Traced (Faulty Radio)) 1 2,
      init { link := { link := { events := [⟨1, 1, [1]⟩, ⟨2, 1, [2]⟩] }, faults := {
        exchange := [true], request := .replicate 9 false ++ [true] } } } {} = .ok t ∧
      let ops : List (Op 1) := [.send ⟨0, 1, #v[7]⟩, .poll, .send ⟨0, 1, #v[8]⟩, .poll, .poll,
        .send ⟨0, 1, #v[9]⟩, .poll, .tryReceive, .flush]
      (runAll ops t).1[7]? = some (.error (.link (.pin .request Faulty.detail))) ∧
      tally ops t = ⟨3, 2, 2, 1, 1, 1, 1, 1⟩ ∧ Reconciles (tally ops t) (runAll ops t).2 := by
  have hinit : init { link := { link := { events := [⟨1, 1, [1]⟩, ⟨2, 1, [2]⟩] }, faults := {
      exchange := [true], request := .replicate 9 false ++ [true] } } } {} =
        (.ok _ : Except _ (Transport (Traced (Faulty Radio)) 1 2)) := rfl
  refine ⟨_, hinit, rfl, rfl, ?_⟩
  obtain ⟨hreconciles, -⟩ := statistics_account hinit [.send ⟨0, 1, #v[7]⟩, .poll,
    .send ⟨0, 1, #v[8]⟩, .poll, .poll, .send ⟨0, 1, #v[9]⟩, .poll, .tryReceive, .flush]
  exact hreconciles

end Transport

end RadioLink
