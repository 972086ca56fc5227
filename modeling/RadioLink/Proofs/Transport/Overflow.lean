import Mathlib.Data.List.DropRight
import RadioLink.Proofs.Host.Run
import RadioLink.Radio

/-!
# Overflow

Flow control runs no transfer without room for its event, so no history of operations delivers an
event to a full queue. What becomes of one that is delivered all the same is up to the overflow
policy, and it is said here of every transport whose queue is full, however it has come to be.

Under `fault` the transport halts: the event is lost, what was queued stays queued, REQUEST is
released as far as the link lets it, and every operation but a flush and a sample of READY is
refused without a call from then on (`Transport.overflow_halts_until_flush`). Under `dropOldest`
nothing halts, and the queue is a window that slides over the events: whatever is delivered, it
holds the last ones (`Transport.deliverAll_keeps_newest`).
-/

namespace RadioLink

variable {σ : Type} {max depth : Nat}

/-- The last elements of two lists in a row are found among the last ones of the first list and the
second one. -/
theorem rtake_rtake_append {α : Type} (n : Nat) (l m : List α) :
    (l.rtake n ++ m).rtake n = (l ++ m).rtake n := by
  simp only [List.rtake_eq_reverse_take_reverse, List.reverse_append, List.reverse_reverse,
    List.take_append, List.take_take]
  rw [Nat.min_eq_left (Nat.sub_le n m.reverse.length)]

/-- REQUEST stays asserted behind its release only if the release is called and fails. -/
theorem Host.Drives.released {t t' : Host max depth} {calls : List Call}
    {answer : Except TransportError Unit} (h : Host.Drives false t calls answer t') :
    t'.requestAsserted = true ↔ ∃ cause, calls = [.request false (.error cause)] := by
  cases h with
  | held hreleased => simp [hreleased]
  | moved => simp
  | failed cause hasserted =>
    have hkept : t.requestAsserted = true := (Bool.not_eq_false _).mp hasserted
    simp [hkept]

namespace Transport

variable [Link σ]

/-! ## Halting -/

/-- With the queue full and the policy to halt, a received event halts the transport and releases
REQUEST. -/
theorem deliver_of_fault {t : Transport σ max depth} (hfull : t.events.isFull = true)
    (hpolicy : t.config.overflowPolicy = .fault) (event : Frame max) :
    t.deliver event =
      (.error (.eventOverflow depth),
        (driveRequest false { t with faulted := true, phase := .idle }).2) := by
  have hrefused : t.events.enqueue event = .error event := Queue.enqueue_eq_error_iff.2 ⟨hfull, rfl⟩
  simp only [deliver, hrefused, hpolicy]

/-- A halted transport refuses all operations but two, however many come, and stays as it is. -/
theorem runAll_of_faulted {t : Transport σ max depth} (h : t.faulted = true) {ops : List (Op max)}
    (hops : ∀ op ∈ ops, op ≠ .isPeerReady ∧ op ≠ .flush) :
    runAll ops t = (ops.map fun _ => .error .faulted, t) := by
  induction ops with
  | nil => rfl
  | cons op ops ih =>
    obtain ⟨⟨hready, hflush⟩, hops⟩ := List.forall_mem_cons.1 hops
    have hrefused : op.run t = (.error .faulted, t) := Op.run_of_faulted h hready hflush
    simp only [runAll, hrefused, ih hops, List.map_cons]

/-- A reply tells of an overflow that has halted a transport. The link is the one that was there
when the event came: the only call on it is the release of REQUEST, and REQUEST stays asserted only
if that call has failed. -/
structure Halts {α : Type} (t : Transport (Traced σ) max depth) (link : Traced σ)
    (reply : Reply α (Transport (Traced σ) max depth)) : Prop where
  answer : reply.1 = .error (.eventOverflow depth)
  events : reply.2.events = t.events
  received : reply.2.stats.eventsReceived = t.stats.eventsReceived
  dropped : reply.2.stats.eventsDropped = t.stats.eventsDropped
  halted : reply.2.faulted = true
  idle : reply.2.phase = .idle
  line : ∃ calls, reply.2.link.calls = link.calls ++ calls ∧
    (reply.2.requestAsserted = true ↔ ∃ cause, calls = [.request false (.error cause)])
  refuses : ∀ ops : List (Op max), (∀ op ∈ ops, op ≠ .isPeerReady ∧ op ≠ .flush) →
    runAll ops reply.2 = (ops.map fun _ => .error .faulted, reply.2)

variable {t : Transport (Traced σ) max depth}

/-- A delivery that overflows so tells of it, keeps every event and refuses what comes after it. -/
theorem deliver_halts (hfull : t.events.isFull = true) (hpolicy : t.config.overflowPolicy = .fault)
    (event : Frame max) : Halts t t.link (t.deliver event) := by
  let halted : Transport (Traced σ) max depth := { t with faulted := true, phase := .idle }
  obtain ⟨calls, htrace, hdrives⟩ := driveRequest_obeys false halted
  obtain ⟨asserted, hhost⟩ := hdrives.frame
  have hfaulted : (driveRequest false halted).2.faulted = true := congrArg (·.faulted) hhost
  rw [deliver_of_fault hfull hpolicy]
  constructor
  case answer => rfl
  case events => exact congrArg (·.events) hhost
  case received => exact congrArg (·.stats.eventsReceived) hhost
  case dropped => exact congrArg (·.stats.eventsDropped) hhost
  case halted => exact hfaulted
  case idle => exact congrArg (·.phase) hhost
  case line => exact ⟨calls, htrace.calls_eq, Host.Drives.released hdrives⟩
  case refuses =>
    intro ops hops
    exact runAll_of_faulted hfaulted hops

/-- A transfer counts what it has sent before its event overflows, and leaves REQUEST released. -/
theorem runTransfer_halts (hfull : t.events.isFull = true)
    (hpolicy : t.config.overflowPolicy = .fault) {outcome : Transfer.Outcome max} {link : Traced σ}
    (hrun : Transfer.run t.host.outbound t.link = (.ok outcome, link))
    (hevent : outcome.hasEvent = true) :
    Halts t link t.runTransfer := by
  let sent := (t.handedOver link .transferring).countTransfer t.commands.peek?.isSome
  have hhalts : Halts sent link (sent.deliver outcome.received) :=
    deliver_halts (t := sent) hfull hpolicy outcome.received
  have haccept : sent.accept outcome =
      (.error (.eventOverflow depth), (sent.deliver outcome.received).2) := by
    rw [accept, if_pos hevent]
    exact Prod.ext hhalts.answer rfl
  have hsame : t.runTransfer =
      (.error (.eventOverflow depth), (sent.deliver outcome.received).2) := by
    rw [runTransfer_of_completed hrun, haccept]
  have hcounted : sent.stats.eventsReceived = t.stats.eventsReceived ∧
      sent.stats.eventsDropped = t.stats.eventsDropped := by
    cases hhead : t.commands.peek?.isSome <;> simp [sent, countTransfer, handedOver, hhead]
  rw [hsame]
  exact ⟨rfl, hhalts.events, hhalts.received.trans hcounted.1, hhalts.dropped.trans hcounted.2,
    hhalts.halted, hhalts.idle, hhalts.line, hhalts.refuses⟩

/-- **An overflow halts the transport until a flush.** Over any link, and whatever a transport with
a full event queue under the policy `fault` has done before: an event that is delivered to it, or
that a transfer brings, is answered with the overflow; the events that were queued stay queued in
their order, and none is counted as received or dropped; the transport is halted and idle, and
REQUEST is released unless the release that it attempts fails. From then on any sequence of sends,
receives, polls and edges is refused, without a call on the link and without a change to the
transport. -/
theorem overflow_halts_until_flush (hfull : t.events.isFull = true)
    (hpolicy : t.config.overflowPolicy = .fault) :
    (∀ event : Frame max, Halts t t.link (t.deliver event)) ∧
    ∀ (outcome : Transfer.Outcome max) (link : Traced σ),
      Transfer.run t.host.outbound t.link = (.ok outcome, link) → outcome.hasEvent = true →
      Halts t link t.runTransfer :=
  ⟨fun event => deliver_halts hfull hpolicy event,
    fun _ _ hrun hevent => runTransfer_halts hfull hpolicy hrun hevent⟩

/-- With a command waiting and no room left, an event is delivered whose overflow releases REQUEST;
and on a transport that has just been brought up and filled in the same way, a transfer brings
one. -/
theorem overflow_halts_until_flush_of_depth_one :
    ∃ t : Transport (Traced Radio) 1 1,
      init { link := { events := [.ofPayload 0 [9]] } } {} = .ok t ∧
      let full := ((t.send ⟨0, 1, #v[7]⟩).2.deliver ⟨0, 1, #v[8]⟩).2
      full.events.isFull = true ∧ full.config.overflowPolicy = .fault ∧
      full.requestAsserted = true ∧ Halts full full.link (full.deliver ⟨0, 1, #v[6]⟩) ∧
      ∃ outcome link, Transfer.run full.host.outbound full.link = (.ok outcome, link) ∧
        outcome.hasEvent = true ∧
        outcome.received = ⟨0, 1, #v[9]⟩ ∧ Halts full link full.runTransfer := by
  have hinit : init { link := { events := [.ofPayload 0 [9]] } } {} =
      (.ok _ : Except _ (Transport (Traced Radio) 1 1)) := rfl
  refine ⟨_, hinit, ?_⟩
  intro full
  have hfull : full.events.isFull = true := rfl
  have hpolicy : full.config.overflowPolicy = .fault := rfl
  obtain ⟨hdeliver, htransfer⟩ := overflow_halts_until_flush hfull hpolicy
  exact ⟨hfull, hpolicy, rfl, hdeliver _, _, _, rfl, rfl, rfl, htransfer _ _ rfl rfl⟩

/-! ## A sliding window -/

omit [Link σ] in
/-- The transport with other events in its queue, after it has counted some more as stored and as
dropped. -/
def restock (events : Queue (Frame max) depth) (stored dropped : Nat) (t : Transport σ max depth) :
    Transport σ max depth :=
  { t with
    events
    stats := { t.stats with
      eventsReceived := t.stats.eventsReceived + stored
      eventsDropped := t.stats.eventsDropped + dropped } }

omit [Link σ] in
/-- Storing and dropping in two parts is storing and dropping all of it. -/
theorem restock_restock (events events' : Queue (Frame max) depth)
    (stored stored' dropped dropped' : Nat) (t : Transport σ max depth) :
    (t.restock events stored dropped).restock events' stored' dropped' =
      t.restock events' (stored + stored') (dropped + dropped') := by
  simp only [restock, Nat.add_assoc]

/-- Delivers some events, one after the other. The answers are in the order of the events. -/
def deliverAll : List (Frame max) → Transport σ max depth →
    List (Except TransportError Unit) × Transport σ max depth
  | [], t => ([], t)
  | event :: events, t =>
    let (answer, t) := t.deliver event
    let (answers, t) := deliverAll events t
    (answer :: answers, t)

/-- A delivery stores its event, and drops the oldest one if there was no room. -/
theorem deliver_slides {t : Transport σ max depth} (hdepth : 0 < depth)
    (hpolicy : t.config.overflowPolicy = .dropOldest) (event : Frame max) :
    ∃ events : Queue (Frame max) depth, events.toList = (t.events.toList ++ [event]).rtake depth ∧
      t.deliver event = (.ok (), t.restock events 1 (t.events.size + 1 - depth)) := by
  cases hroom : t.events.enqueue event with
  | ok events =>
    obtain ⟨hlt, hevents⟩ := Queue.enqueue_eq_ok_iff.1 hroom
    have hdropped : t.events.size + 1 - depth = 0 := Nat.sub_eq_zero_of_le hlt
    refine ⟨events, ?_, ?_⟩
    · have hnone : (t.events.toList ++ [event]).length - depth = 0 := by
        rw [List.length_append, List.length_singleton]
        exact hdropped
      rw [hevents, List.rtake, hnone, List.drop_zero]
    · simp only [deliver, hroom, hdropped, restock, Nat.add_zero]
  | error back =>
    obtain ⟨hfull, rfl⟩ := Queue.enqueue_eq_error_iff.1 hroom
    have hlength : t.events.toList.length = depth := Queue.isFull_iff.1 hfull
    have hdropped : t.events.size + 1 - depth = 1 := by
      rw [Queue.size, hlength]
      omega
    have hnonempty : t.events.toList ≠ [] := List.ne_nil_of_length_pos (hlength.symm ▸ hdepth)
    -- the tail of a full queue has room for one element, since the queue has a head
    have htail : t.events.tail.toList.length < depth := by
      rw [Queue.toList_tail, List.length_tail, hlength]
      omega
    let slid : Queue (Frame max) depth :=
      ⟨t.events.tail.toList ++ [back], by simpa using Nat.succ_le_of_lt htail⟩
    have hstored : t.events.tail.enqueue back = .ok slid := Queue.enqueue_eq_ok_iff.2 ⟨htail, rfl⟩
    refine ⟨slid, ?_, ?_⟩
    · have hone : (t.events.toList ++ [back]).length - depth = 1 := by
        rw [List.length_append, List.length_singleton]
        exact hdropped
      rw [List.rtake, hone, List.drop_one, List.tail_append_of_ne_nil hnonempty]
      rfl
    · simp only [deliver, hroom, hpolicy, hstored, hdropped, restock]

/-- **Under `dropOldest` the event queue is a sliding window.** Over any link and from any content
of the queue, which has room for one event at least: however many events are delivered with none
taken in between, every delivery succeeds, the queue ends with the last ones of those that were
there and those delivered, in this order, all of these are counted as received and those that did
not fit as dropped, and the transport and its link are as before in everything else. -/
theorem deliverAll_keeps_newest {t : Transport σ max depth} (hdepth : 0 < depth)
    (hpolicy : t.config.overflowPolicy = .dropOldest) (events : List (Frame max)) :
    let run := deliverAll events t
    run.1 = events.map (fun _ => .ok ()) ∧
    run.2.events.toList = (t.events.toList ++ events).rtake depth ∧
    run.2 = t.restock run.2.events events.length (t.events.size + events.length - depth) := by
  induction events generalizing t with
  | nil =>
    have hle : t.events.size ≤ depth := t.events.size_le
    have hnone : t.events.toList.length - depth = 0 := Nat.sub_eq_zero_of_le hle
    refine ⟨rfl, ?_, ?_⟩
    · rw [List.append_nil, List.rtake, hnone, List.drop_zero]
      rfl
    · have hdropped : t.events.size + 0 - depth = 0 := hnone
      rw [List.length_nil, hdropped]
      rfl
  | cons event events ih =>
    obtain ⟨slid, hslid, hdeliver⟩ := deliver_slides hdepth hpolicy event
    obtain ⟨hanswers, hwindow, hrest⟩ :=
      ih (t := t.restock slid 1 (t.events.size + 1 - depth)) hpolicy
    have hrun : deliverAll (event :: events) t =
        (.ok () :: (deliverAll events (t.restock slid 1 (t.events.size + 1 - depth))).1,
          (deliverAll events (t.restock slid 1 (t.events.size + 1 - depth))).2) := by
      rw [deliverAll, hdeliver]
    simp only [hrun]
    refine ⟨by rw [hanswers]; rfl, ?_, ?_⟩
    · rw [hwindow]
      show (slid.toList ++ events).rtake depth = _
      rw [hslid, rtake_rtake_append, List.append_assoc, List.singleton_append]
    · have hlength : slid.size = t.events.size + 1 - (t.events.size + 1 - depth) := by
        rw [Queue.size, hslid, List.rtake, List.length_drop, List.length_append,
          List.length_singleton, Queue.size]
      have hle : t.events.size ≤ depth := t.events.size_le
      have hdropped : t.events.size + 1 - depth + (slid.size + events.length - depth) =
          t.events.size + (events.length + 1) - depth := by omega
      rw [restock_restock] at hrest
      rw [List.length_cons, ← hdropped, Nat.add_comm events.length 1]
      exact hrest

/-- Five events are delivered to a queue that has room for two and holds one: four are dropped. -/
theorem deliverAll_keeps_newest_of_two :
    ∃ t : Transport Radio 1 2, init {} { overflowPolicy := .dropOldest } = .ok t ∧
      let held := (t.deliver ⟨0, 1, #v[1]⟩).2
      let events : List (Frame 1) := [⟨0, 1, #v[2]⟩, ⟨0, 1, #v[3]⟩, ⟨0, 1, #v[4]⟩, ⟨0, 1, #v[5]⟩,
        ⟨0, 1, #v[6]⟩]
      held.config.overflowPolicy = .dropOldest ∧
      (deliverAll events held).2.events.toList = [⟨0, 1, #v[5]⟩, ⟨0, 1, #v[6]⟩] ∧
      (deliverAll events held).2 = held.restock (deliverAll events held).2.events 5 4 := by
  have hinit : init {} { overflowPolicy := .dropOldest } =
      (.ok _ : Except _ (Transport Radio 1 2)) := rfl
  refine ⟨_, hinit, ?_⟩
  intro held events
  have hpolicy : held.config.overflowPolicy = .dropOldest := rfl
  obtain ⟨-, hwindow, hrest⟩ := deliverAll_keeps_newest (by decide : 0 < 2) hpolicy events
  exact ⟨hpolicy, hwindow, hrest⟩

end Transport

end RadioLink
