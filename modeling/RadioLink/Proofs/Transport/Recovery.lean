import RadioLink.Proofs.Transport.LostRequest

/-!
# Recovery by a flush

A flush empties both queues, clears a fault, releases REQUEST and does nothing else, whatever state
the transport is in. The states that an overflow leads to are among them. No history of operations
comes there, since flow control keeps a transfer from running without room for its event, so
histories are widened here to the steps that flow control guards (`Transport.Move`): an event may be
delivered, and a transfer may run, whether there is room or not.

What a flush cannot always recover is the line. It leaves REQUEST alone if the transport takes it to
be released, as every other operation does, and if REQUEST has slipped, the transport takes it to be
released while it is asserted. The flush succeeds in that case, and the line stays as it is
(`Transport.flush_releases_iff_not_slipped`).
-/

namespace RadioLink

variable {σ : Type} {max depth : Nat}

namespace Transport

/-- What can be done to a transport: an operation, or a step of one without the look at the event
queue that goes before it. -/
inductive Move (max : Nat) where
  /-- An operation is run. -/
  | operate (op : Op max)
  /-- A received event is stored, or meets the overflow policy. -/
  | deliver (event : Frame max)
  /-- A frame is exchanged. -/
  | transfer
  deriving DecidableEq

variable [Link σ]

/-- The transport after a move, whatever came of it. -/
def Move.apply : Move max → Transport σ max depth → Transport σ max depth
  | .operate op, t => (op.run t).2
  | .deliver event, t => (t.deliver event).2
  | .transfer, t => t.runTransfer.2

/-- The transport after some moves. -/
def moveAll (moves : List (Move max)) (t : Transport σ max depth) : Transport σ max depth :=
  moves.foldl (fun t move => move.apply t) t

/-! ## Moves and the record -/

omit [Link σ] in
/-- What the transport remembers of REQUEST stands against the record of its link. -/
def RequestStands (t : Transport (Traced σ) max depth) : Prop :=
  Stands t.link.calls t.requestAsserted

variable {t : Transport (Traced σ) max depth}

/-- A part of the transport whose every way leaves REQUEST standing leaves it standing. -/
theorem RequestStands.of_obeys {α : Type}
    {R : List Call → Except TransportError α → Host max depth → Prop}
    {link : Traced σ} {reply : Reply α (Transport (Traced σ) max depth)} (h : Obeys R link reply)
    (hR : ∀ calls answer t', R calls answer t' → Stands (link.calls ++ calls) t'.requestAsserted) :
    reply.2.RequestStands := by
  obtain ⟨calls, htrace, hcalls⟩ := h
  rw [RequestStands, htrace.calls_eq]
  exact hR _ _ _ hcalls

/-- What is remembered stands over a drive of REQUEST, which is remembered if it succeeds. -/
theorem RequestStands.driveRequest (h : t.RequestStands) (level : Bool) :
    (Transport.driveRequest level t).2.RequestStands :=
  .of_obeys (driveRequest_obeys level t) fun _ _ _ hdrives => hdrives.stands h

/-- So it does over one to the level that the queues ask for. -/
theorem RequestStands.syncRequest (h : t.RequestStands) : t.syncRequest.2.RequestStands :=
  .of_obeys (syncRequest_obeys t) fun _ _ _ hsyncs => hsyncs.stands h

/-- Only an overflow that halts the transport drives REQUEST. -/
theorem RequestStands.deliver (h : t.RequestStands) (event : Frame max) :
    (t.deliver event).2.RequestStands := by
  unfold Transport.deliver
  split
  · exact h
  · split
    · exact RequestStands.driveRequest (t := { t with faulted := true, phase := .idle }) h false
    · split
      · exact h
      · exact h

/-- Accepting what a transfer has brought drives REQUEST at most to release it. -/
theorem RequestStands.accept (h : t.RequestStands) (outcome : Transfer.Outcome max) :
    (t.accept outcome).2.RequestStands := by
  unfold Transport.accept
  split
  · exact h.deliver outcome.received
  · exact h

/-- A transfer leaves REQUEST standing with or without room for its event. -/
theorem RequestStands.runTransfer (h : t.RequestStands) : t.runTransfer.2.RequestStands := by
  obtain ⟨calls, htrace, hsays⟩ := Transfer.says_run t.host.outbound t.link
  have hstands : Stands (Transfer.run t.host.outbound t.link).2.calls false := by
    rw [htrace.calls_eq]
    exact hsays.stands h
  rcases hrun : Transfer.run t.host.outbound t.link with ⟨e | outcome, link⟩
  · rw [hrun] at hstands
    rw [runTransfer_of_error hrun]
    exact RequestStands.syncRequest (t := t.handedOver link .idle) hstands
  · rw [hrun] at hstands
    have haccepted := RequestStands.accept
      (t := (t.handedOver link .transferring).countTransfer t.commands.peek?.isSome) hstands outcome
    rw [runTransfer_of_completed hrun]
    split
    · rename_i hrefused
      rw [hrefused] at haccepted
      exact haccepted
    · rename_i hstored
      rw [hstored] at haccepted
      rw [Reply.snd_map]
      exact haccepted.syncRequest

/-- The step: every move lets it stand. -/
theorem RequestStands.apply (h : t.RequestStands) (move : Move max) :
    (move.apply t).RequestStands := by
  cases move with
  | operate op => exact .of_obeys (op.run_performs t) fun _ _ _ hperforms => hperforms.stands h
  | deliver event => exact h.deliver event
  | transfer => exact h.runTransfer

/-- The run, by induction over the moves. -/
theorem RequestStands.moveAll (h : t.RequestStands) (moves : List (Move max)) :
    (moveAll moves t).RequestStands := by
  induction moves generalizing t with
  | nil => exact h
  | cons move moves ih => exact ih (h.apply move)

/-- It stands behind the start, which releases REQUEST if it drives it. -/
theorem init_requestStands {link : Traced σ} {config : TransportConfig}
    (h : init link config = .ok t) :
    t.RequestStands := by
  obtain ⟨hhost, before, htrace, -⟩ := init_trace h
  have hreleased : t.requestAsserted = false := congrArg (·.requestAsserted) hhost
  rw [RequestStands, htrace.calls_eq, hreleased, ← List.append_assoc]
  exact .driven _ false

/-! ## Flushes -/

/-- What a flush that succeeds leaves of a transport, apart from its link: nothing but the counters
and the configuration. It has exchanged no byte. -/
structure Flushed (before after : Transport (Traced σ) max depth) : Prop where
  commands : after.commands = .empty
  events : after.events = .empty
  healthy : after.faulted = false
  idle : after.phase = .idle
  released : after.requestAsserted = false
  stats : after.stats = before.stats
  config : after.config = before.config
  silent : ∃ calls, after.link.calls = before.link.calls ++ calls ∧ Silent calls

/-- **A flush that succeeds recovers everything but a line that has slipped.** A transport is
brought up over any link and then moved in any way, with flow control or without it. If a flush
succeeds, both queues are empty, no fault is latched, the phase is idle and REQUEST is taken to be
released; the counters and the configuration are as before, and no byte has been exchanged. The line
itself is released if and only if REQUEST had not slipped before. -/
theorem flush_releases_iff_not_slipped {link : Traced σ} {config : TransportConfig}
    {t : Transport (Traced σ) max depth} (h : init link config = .ok t) (moves : List (Move max)) :
    let before := moveAll moves t
    let flushed := before.flush
    flushed.1 = .ok () →
      Flushed before flushed.2 ∧
      (lastDriven flushed.2.link.calls = some false ↔ ¬Slipped before.link.calls) := by
  intro before flushed hok
  have hstands : Stands before.link.calls before.requestAsserted :=
    (init_requestStands h).moveAll moves
  cases hasserted : before.requestAsserted with
  | false =>
    -- the line is left alone, so the record before the flush is all there is
    have hrun : flushed = _ := flush_of_released hasserted
    rw [hrun]
    refine ⟨⟨rfl, rfl, rfl, rfl, hasserted, rfl, rfl, [], (List.append_nil _).symm, .nil⟩, ?_⟩
    show lastDriven before.link.calls = some false ↔ _
    rcases hstands.level with ⟨hline, hkept⟩ | ⟨-, hline, hslipped⟩
    · rw [hasserted] at hline
      exact iff_of_true hline hkept
    · exact iff_of_false (by simp [hline]) (not_not_intro hslipped)
  | true =>
    have hkept : ¬Slipped before.link.calls := by
      rcases hstands.level with ⟨-, hkept⟩ | ⟨hreleased, -, -⟩
      · exact hkept
      · rw [hasserted] at hreleased
        cases hreleased
    rcases hdrive : Link.setRequest false before.link with ⟨cause | ⟨⟩, link'⟩
    · have hrun : flushed = _ := flush_of_failed hasserted hdrive
      rw [hrun] at hok
      cases hok
    · have hrun : flushed = _ := flush_of_asserted hasserted hdrive
      have hcall : Call.Leads (.request false (.ok ())) before.link link' := hdrive
      have hcalls := (Trace.single hcall).calls_eq
      rw [hrun]
      refine ⟨⟨rfl, rfl, rfl, rfl, rfl, rfl, rfl, _, hcalls, .single rfl⟩, iff_of_true ?_ hkept⟩
      show lastDriven link'.calls = some false
      rw [hcalls, lastDriven_append]
      rfl

/-- An event is delivered to a full queue while a command waits, and the transport, which halts,
cannot release REQUEST. The flush releases it. -/
theorem flush_releases_iff_not_slipped_behind_overflow :
    ∃ t : Transport (Traced (Faulty Radio)) 1 1,
      init { link := { link := {}, faults := { request := [false, false, true] } } } {} = .ok t ∧
      let before := moveAll [.operate (.send ⟨0, 1, #v[7]⟩), .deliver ⟨0, 1, #v[8]⟩,
        .deliver ⟨0, 1, #v[9]⟩] t
      before.faulted = true ∧ before.requestAsserted = true ∧ before.flush.1 = .ok () ∧
      Flushed before before.flush.2 ∧ ¬Slipped before.link.calls := by
  have hinit : init { link := { link := {}, faults := { request := [false, false, true] } } } {} =
      (.ok _ : Except _ (Transport (Traced (Faulty Radio)) 1 1)) := rfl
  refine ⟨_, hinit, rfl, rfl, rfl, ?_⟩
  obtain ⟨hflushed, hline⟩ := flush_releases_iff_not_slipped hinit
    [.operate (.send ⟨0, 1, #v[7]⟩), .deliver ⟨0, 1, #v[8]⟩, .deliver ⟨0, 1, #v[9]⟩] rfl
  exact ⟨hflushed, hline.1 rfl⟩

/-- A poll cannot release REQUEST behind its transfer. The flush after it succeeds without driving
the line, which stays asserted. -/
theorem line_asserted_behind_flush :
    ∃ t : Transport (Traced (Faulty Radio)) 31 4, init { link := unreleasedLink } {} = .ok t ∧
      let before := moveAll [.operate .poll] t
      before.flush.1 = .ok () ∧ before.flush.2.link.calls = before.link.calls ∧
      lastDriven before.flush.2.link.calls = some true ∧
        before.flush.2.link.link.link.request = true :=
  ⟨_, rfl, rfl, rfl, rfl, rfl⟩

end Transport

end RadioLink
