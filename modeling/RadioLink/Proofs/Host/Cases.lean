import RadioLink.Proofs.Host.Basic

/-!
# Operations case by case

What the parts of a transport come to, one equation for each way in which they can go: whether there
is room for an event, what the sample of READY answers, and how the transfer ends. The equations
hold over every link, and say of the transport itself what `Host.Cycles` and `Host.Performs` say of
its host.
-/

namespace RadioLink

variable {σ : Type} {max depth : Nat}

/-- What a transfer that has exchanged all its bytes adds to the counters. -/
theorem Host.counted_stats (t : Host max depth) :
    t.counted.stats = { t.stats with
      transfers := t.stats.transfers + 1
      commandsSent := t.stats.commandsSent + t.commands.peek?.toList.length
      emptyPolls := t.stats.emptyPolls + (if t.commands.peek?.isSome then 0 else 1) } := by
  rw [counted, Transport.countTransfer]
  cases t.commands.peek? <;> rfl

namespace Transport

variable [Link σ]

omit [Link σ] in
/-- The transport after a transfer has left the link in some state: the oldest command has been
handed over, and REQUEST is taken to be released. -/
def handedOver (link : σ) (phase : Phase) (t : Transport σ max depth) : Transport σ max depth :=
  { t with link, commands := t.commands.tail, requestAsserted := false, phase }

/-! ## Transfers -/

/-- With room for an event, accepting what a transfer brought does not fail and makes no call. -/
theorem accept_accepts (outcome : Transfer.Outcome max) {t : Transport σ max depth}
    (hroom : t.events.isFull = false) :
    ∃ t', t.accept outcome = (.ok (), t') ∧ t'.link = t.link ∧
      Host.Accepts outcome t.host t'.host := by
  cases hevent : outcome.hasEvent with
  | false => exact ⟨t, by simp [accept, hevent], rfl, .blank hevent⟩
  | true =>
    rcases h : t.events.enqueue outcome.received with frame | events
    · rw [(Queue.enqueue_eq_error_iff.1 h).1] at hroom
      cases hroom
    · have haccept : t.accept outcome = (.ok (), { t with
          events, stats := { t.stats with eventsReceived := t.stats.eventsReceived + 1 } }) := by
        simp only [accept, hevent, deliver, h, if_true]
      exact ⟨_, haccept, rfl, .stored hevent h⟩

/-- A transfer that fails is answered with its error, whatever comes of bringing REQUEST to its
level. -/
theorem runTransfer_of_error {t : Transport σ max depth} {e : LinkError} {link : σ}
    (h : Transfer.run t.host.outbound t.link = (.error e, link)) :
    t.runTransfer = (.error (.link e), (t.handedOver link .idle).syncRequest.2) := by
  unfold Host.outbound at h
  rw [host_commands] at h
  simp only [runTransfer, h]
  rfl

/-- A transfer that succeeds is counted, and what it brought is accepted before REQUEST is brought
to its level. -/
theorem runTransfer_of_completed {t : Transport σ max depth}
    {outcome : Transfer.Outcome max} {link : σ}
    (h : Transfer.run t.host.outbound t.link = (.ok outcome, link)) :
    t.runTransfer =
      match ((t.handedOver link .transferring).countTransfer t.commands.peek?.isSome).accept outcome
        with
      | (.error e, t₁) => (.error e, t₁)
      | (.ok (), t₁) =>
        Reply.map (fun _ => .transferred (Host.summary t.host.outbound outcome))
          t₁.syncRequest := by
  unfold Host.outbound at h ⊢
  rw [host_commands] at h ⊢
  simp only [runTransfer, h]
  rcases haccept : ((t.handedOver link .transferring).countTransfer t.commands.peek?.isSome).accept
    outcome with
    ⟨e | ⟨⟩, t₁⟩
  · rw [handedOver] at haccept
    rw [haccept]
  · rw [handedOver] at haccept
    rw [haccept]
    dsimp only
    rcases t₁.syncRequest with ⟨_ | ⟨⟩, _⟩ <;> rfl

/-- With room for an event, what a transfer brought is stored. -/
theorem runTransfer_of_ok {t : Transport σ max depth} {outcome : Transfer.Outcome max} {link : σ}
    (h : Transfer.run t.host.outbound t.link = (.ok outcome, link))
    (hroom : t.events.isFull = false) :
    ∃ t₁ : Transport σ max depth, t₁.link = link ∧ Host.Accepts outcome t.host.counted t₁.host ∧
      t.runTransfer = Reply.map (fun _ => .transferred (Host.summary t.host.outbound outcome))
        t₁.syncRequest := by
  obtain ⟨t₁, haccept, hlink, haccepts⟩ := accept_accepts outcome
    (t := (t.handedOver link .transferring).countTransfer t.commands.peek?.isSome) hroom
  exact ⟨t₁, hlink, haccepts, by rw [runTransfer_of_completed h, haccept]⟩

/-! ## Cycles -/

/-- A line that is known to be at its level is left alone. -/
theorem syncRequest_of_wanted {t : Transport σ max depth} (h : t.requestAsserted = t.wantsRequest) :
    t.syncRequest = (.ok (), { t with phase := .atRest t.wantsRequest }) := by
  simp only [syncRequest, holdRequest, driveRequest, if_pos h]

/-- A line that cannot be driven is an error of the link, and nothing else has changed. -/
theorem syncRequest_of_failed {t : Transport σ max depth} {cause : LinkError} {link : σ}
    (hdue : t.requestAsserted ≠ t.wantsRequest)
    (h : Link.setRequest t.wantsRequest t.link = (.error cause, link)) :
    t.syncRequest = (.error (.link cause), { t with link }) := by
  simp only [syncRequest, holdRequest, driveRequest, if_neg hdue, h]

/-- Where REQUEST is to change and the link drives it, the level, the cached level and the phase all
follow. -/
theorem syncRequest_of_driven {t : Transport σ max depth} {link : σ}
    (hdue : t.requestAsserted ≠ t.wantsRequest)
    (h : Link.setRequest t.wantsRequest t.link = (.ok (), link)) :
    t.syncRequest = (.ok (), { t with
      link, requestAsserted := t.wantsRequest, phase := .atRest t.wantsRequest }) := by
  simp only [syncRequest, holdRequest, driveRequest, if_neg hdue, h]

/-- With the event queue full a cycle counts a stall, and only brings REQUEST to its level. -/
theorem cycle_of_full {t : Transport σ max depth} (h : t.events.isFull = true) :
    t.cycle = Reply.map (fun _ => .backpressured) t.countStall.syncRequest := by
  have hsample : t.sampleReady = (.ok false, t) := by simp only [sampleReady, h, if_true]
  simp only [cycle, hsample, h, Flow.decide, if_true]
  rcases t.countStall.syncRequest with ⟨_ | ⟨⟩, _⟩ <;> rfl

variable {t : Transport σ max depth} {link : σ}

/-- A cycle that cannot sample READY ends there. -/
theorem cycle_of_unsampled (h : t.events.isFull = false) {e : LinkError}
    (hready : Link.readReady t.link = (.error e, link)) :
    t.cycle = (.error (.link e), { t with link }) := by
  simp only [cycle, sampleReady, h, hready, Bool.false_eq_true, if_false]

/-- With room in the event queue READY is sampled, once. -/
theorem sampleReady_eq (h : t.events.isFull = false) {ready : Bool}
    (hready : Link.readReady t.link = (.ok ready, link)) :
    t.sampleReady = (.ok ready, { t with link }) := by
  simp only [sampleReady, h, hready, Bool.false_eq_true, if_false]

/-- A cycle that finds the radio not ready only brings REQUEST to its level. -/
theorem cycle_of_unready (h : t.events.isFull = false)
    (hready : Link.readReady t.link = (.ok false, link)) :
    t.cycle = Reply.map (fun _ => if t.wantsRequest then .waiting else .idle)
      (syncRequest { t with link }) := by
  simp only [syncRequest, wantsRequest, cycle, sampleReady_eq h hready, h, Flow.decide,
    Flow.canTransfer, Bool.and_false, Bool.false_eq_true, if_false]
  rcases holdRequest _ { t with link } with ⟨_ | ⟨⟩, _⟩ <;> rfl

/-- A cycle that finds room and the radio ready runs a transfer. -/
theorem cycle_of_ready (h : t.events.isFull = false)
    (hready : Link.readReady t.link = (.ok true, link)) :
    t.cycle = runTransfer { t with link } := by
  simp only [cycle, sampleReady_eq h hready, h, Flow.decide, Flow.canTransfer, Bool.not_false,
    Bool.and_self, Bool.false_eq_true, if_false, if_true]

/-! ## Operations -/

/-- A receive that finds the event queue full runs no cycle ahead. -/
theorem refill_of_full (h : t.events.isFull = true) : t.refill = (.ok (), t) := by
  simp only [refill, h, if_true]

/-- A receive that finds room runs a cycle ahead. -/
theorem refill_of_room (h : t.events.isFull = false) :
    t.refill = Reply.map (fun _ => ()) t.cycle := by
  simp only [refill, h, Bool.false_eq_true, if_false]
  rcases t.cycle with ⟨_ | _, _⟩ <;> rfl

/-- A halted transport refuses all operations but two, and stays as it is. -/
theorem Op.run_of_faulted (h : t.faulted = true) {op : Op max} (hready : op ≠ .isPeerReady)
    (hflush : op ≠ .flush) :
    op.run t = (.error .faulted, t) := by
  cases op with
  | isPeerReady => exact absurd rfl hready
  | flush => exact absurd rfl hflush
  | send frame => simp only [run, Transport.send, whenHealthy, h, if_true, Reply.map]
  | tryReceive => simp only [run, Transport.tryReceive, whenHealthy, h, if_true, Reply.map]
  | poll => simp only [run, Transport.poll, whenHealthy, h, if_true, Reply.map]
  | readyEdge => simp only [run, onReadyEdge, whenHealthy, h, if_true, Reply.map]

/-- A sample of READY for the application moves nothing but the link. -/
theorem Op.run_isPeerReady {answer : Except LinkError Bool}
    (h : Link.readReady t.link = (answer, link)) :
    (Op.isPeerReady : Op max).run t = ((answer.mapError .link).map .level, { t with link }) := by
  simp only [run, Transport.isPeerReady, h]
  cases answer with
  | error e => rfl
  | ok ready => rfl

/-- A flush makes no call where REQUEST is taken to be released. -/
theorem flush_of_released (h : t.requestAsserted = false) :
    t.flush = (.ok (),
      { t with commands := .empty, events := .empty, phase := .idle, faulted := false }) := by
  simp only [flush, driveRequest, h, if_true]

/-- A flush releases REQUEST where it is taken to be asserted. -/
theorem flush_of_asserted (h : t.requestAsserted = true)
    (hdrive : Link.setRequest false t.link = (.ok (), link)) :
    t.flush = (.ok (), { t with
      link, commands := .empty, events := .empty, requestAsserted := false, phase := .idle,
        faulted := false }) := by
  simp only [flush, driveRequest, h, hdrive, Bool.true_eq_false, if_false]

/-- A flush that cannot release REQUEST has emptied the queues and cleared a fault all the same. -/
theorem flush_of_failed (h : t.requestAsserted = true) {cause : LinkError}
    (hdrive : Link.setRequest false t.link = (.error cause, link)) :
    t.flush = (.error (.link cause),
      { t with link, commands := .empty, events := .empty, faulted := false }) := by
  simp only [flush, driveRequest, h, hdrive, Bool.true_eq_false, if_false]

variable (hhealthy : t.faulted = false)
include hhealthy

/-- An edge runs a cycle. -/
theorem onReadyEdge_of_healthy : t.onReadyEdge = t.cycle := by
  simp only [onReadyEdge, whenHealthy, hhealthy, Bool.false_eq_true, if_false]

/-- Polls and edges run a cycle. -/
theorem Op.run_of_drive {op : Op max} (hop : op = .poll ∨ op = .readyEdge) :
    op.run t = Reply.map .cycle t.cycle := by
  rcases hop with rfl | rfl
  · simp only [run, Transport.poll, whenHealthy, hhealthy, Bool.false_eq_true, if_false]
  · rw [run, onReadyEdge_of_healthy hhealthy]

/-- A frame that fits is queued, and REQUEST is brought to its level. -/
theorem send_of_room {frame : Frame max} {commands : Queue (Frame max) depth}
    (hfits : frame.fits = true) (h : t.commands.enqueue frame = .ok commands) :
    t.send frame = syncRequest { t with commands } := by
  simp only [send, whenHealthy, hhealthy, hfits, h, Bool.false_eq_true, if_false, if_true]

/-- With the command queue full a frame is refused, and nothing has changed. -/
theorem send_of_crowded {frame back : Frame max} (hfits : frame.fits = true)
    (h : t.commands.enqueue frame = .error back) :
    t.send frame = (.error (.commandQueueFull depth), t) := by
  simp only [send, whenHealthy, hhealthy, hfits, h, Bool.false_eq_true, if_false, if_true]

/-- A frame whose length byte claims too much is refused, and nothing has changed. -/
theorem send_of_overlong {frame : Frame max} (hfits : frame.fits = false) :
    t.send frame = (.error (.frameTooLong frame.length.toNat max), t) := by
  simp only [send, whenHealthy, hhealthy, hfits, Bool.false_eq_true, if_false]

variable {t₁ : Transport σ max depth}

/-- A receive fails if the cycle ahead of it does. -/
theorem tryReceive_of_error {e : TransportError} (h : t.refill = (.error e, t₁)) :
    t.tryReceive = (.error e, t₁) := by
  simp only [tryReceive, whenHealthy, hhealthy, h, Bool.false_eq_true, if_false]

/-- A receive finds no event, and the cycle ahead of it is all that it does. -/
theorem tryReceive_of_none (h : t.refill = (.ok (), t₁)) (hhead : t₁.events.peek? = none) :
    t.tryReceive = (.ok none, t₁) := by
  simp only [tryReceive, whenHealthy, hhealthy, h, Queue.dequeue, hhead,
    Bool.false_eq_true, if_false]

/-- A receive takes the oldest event, and brings REQUEST to the level that is asked for then. -/
theorem tryReceive_of_some {event : Frame max} (h : t.refill = (.ok (), t₁))
    (hhead : t₁.events.peek? = some event) :
    t.tryReceive = Reply.map (fun _ => some event)
      (syncRequest { t₁ with events := t₁.events.tail }) := by
  simp only [tryReceive, whenHealthy, hhealthy, h, Queue.dequeue, hhead,
    Bool.false_eq_true, if_false]
  rcases syncRequest { t₁ with events := t₁.events.tail } with ⟨_ | ⟨⟩, _⟩ <;> rfl

end Transport

end RadioLink
