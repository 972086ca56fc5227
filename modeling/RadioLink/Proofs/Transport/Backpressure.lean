import RadioLink.Proofs.Host.Run
import RadioLink.Radio

/-!
# Backpressure

A transport never exchanges a byte that it could not keep. Bytes move only in a cycle that was
entered with room in the event queue, whose sample of READY has just answered that the radio is
ready, and under a REQUEST that has been asserted for them (`ExchangesGuarded`). So a received event
always finds room: under either overflow policy no history of operations reaches the overflow, and
none is halted by it.

The invariant is that the transport has not been halted and has dropped nothing. It needs no bound
on the event queue, because `Host.Cycles` looks at the queue before the transfer and a transfer does
not touch it before it stores its event.
-/

namespace RadioLink

variable {σ : Type} {max depth : Nat}

/-! ## Where bytes stand in a record -/

/-- Every byte of the calls is exchanged after READY has answered that the radio is ready and
REQUEST has been asserted, with nothing but bytes in between. -/
def ExchangesGuarded (calls : List Call) : Prop :=
  ∀ earlier byte answer later, calls = earlier ++ .exchange byte answer :: later →
    ∃ clocked, earlier = .ready (.ok true) :: .request true (.ok ()) :: clocked ∧
      ∀ call ∈ clocked, call.isExchange = true

/-- The bytes of the calls are exchanged in one run behind the calls `front`. -/
def BytesBehind (front calls : List Call) : Prop :=
  ∃ clocked rest, calls = front ++ (clocked ++ rest) ∧
    (∀ call ∈ clocked, call.isExchange = true) ∧ Silent rest

theorem BytesBehind.append {front calls calls' : List Call} (h : BytesBehind front calls)
    (h' : Silent calls') : BytesBehind front (calls ++ calls') := by
  obtain ⟨clocked, rest, rfl, hclocked, hrest⟩ := h
  exact ⟨clocked, rest ++ calls', by simp, hclocked, hrest.append h'⟩

theorem BytesBehind.cons {front calls : List Call} (call : Call) (h : BytesBehind front calls) :
    BytesBehind (call :: front) (call :: calls) := by
  obtain ⟨clocked, rest, rfl, hclocked, hrest⟩ := h
  exact ⟨clocked, rest, rfl, hclocked, hrest⟩

theorem Silent.exchangesGuarded {calls : List Call} (h : Silent calls) :
    ExchangesGuarded calls := by
  rintro earlier byte answer later rfl
  have := h (.exchange byte answer) (by simp)
  cases this

/-- One run of bytes behind READY and REQUEST is guarded. -/
theorem BytesBehind.exchangesGuarded {calls : List Call}
    (h : BytesBehind [.ready (.ok true), .request true (.ok ())] calls) :
    ExchangesGuarded calls := by
  obtain ⟨clocked, rest, rfl, hclocked, hrest⟩ := h
  intro earlier byte answer later h
  -- the byte in question is behind the first two calls, and not in the rest
  match earlier with
  | [] => simp at h
  | [_] => simp at h
  | first :: second :: earlier =>
    simp only [List.cons_append, List.nil_append, List.cons.injEq] at h
    obtain ⟨rfl, rfl, h⟩ := h
    refine ⟨earlier, rfl, ?_⟩
    rcases List.append_eq_append_iff.1 h with ⟨front, rfl, hfront⟩ | ⟨front, rfl, -⟩
    · have := hrest (.exchange byte answer) (by simp [hfront])
      cases this
    · exact fun call hcall => hclocked call (List.mem_append_left _ hcall)

/-! ## Bytes of a transfer, of a cycle and of an operation -/

/-- A transfer exchanges its bytes in one run behind the assertion of REQUEST. -/
theorem Transfer.Says.bytes {frame : Frame max} {calls : List Call}
    {result : Except LinkError (Transfer.Outcome max)} (h : Transfer.Says frame calls result) :
    Silent calls ∨ BytesBehind [.request true (.ok ())] calls := by
  cases h with
  | refused e => exact .inl (.single rfl)
  | @aborted replies e release _ =>
    refine .inr ⟨swaps (frame.wire replies.length) replies ++
      [.exchange (frame.wireByte replies.length) (.error e)],
      [.request false release], by simp, ?_, ?_⟩
    · intro call hcall
      rcases List.mem_append.1 hcall with hcall | hcall
      · exact isExchange_of_mem_swaps hcall
      · rw [List.mem_singleton.1 hcall]
        rfl
    · exact .single rfl
  | unreleased e _ | completed _ =>
    exact .inr ⟨_, _, rfl, fun _ hcall => isExchange_of_mem_swaps hcall, .single rfl⟩

namespace Host

variable {t t' : Host max depth} {calls : List Call}

/-- A transfer exchanges its bytes behind the assertion of REQUEST, or none. -/
theorem Transfers.bytes {answer : Except TransportError Cycle} (h : Transfers t calls answer t') :
    Silent calls ∨ BytesBehind [.request true (.ok ())] calls := by
  cases h with
  | aborted hspoken hsyncs | completed hspoken _ hsyncs =>
    exact hspoken.bytes.imp (·.append hsyncs.silent) (·.append hsyncs.silent)

/-- A cycle that exchanges bytes was entered with room for an event, and READY was sampled
before. -/
theorem Cycles.bytes {answer : Except TransportError Cycle} (h : Cycles t calls answer t') :
    Silent calls ∨ t.events.isFull = false ∧
      BytesBehind [.ready (.ok true), .request true (.ok ())] calls := by
  cases h with
  | stalled _ hsyncs => exact .inl hsyncs.silent
  | unsampled => exact .inl (.ready _)
  | waited _ hsyncs =>
    exact .inl ((Silent.ready (.ok false)).append hsyncs.silent)
  | transferred hroom htransfers =>
    rcases htransfers.bytes with hsilent | hbytes
    · exact .inl ((Silent.ready (.ok true)).append hsilent)
    · exact .inr ⟨hroom, hbytes.cons _⟩

/-- The cycle ahead of a receive exchanges bytes only with room for an event, behind READY and
REQUEST. -/
theorem Refills.bytes (h : Refills t calls t') :
    Silent calls ∨ t.events.isFull = false ∧
      BytesBehind [.ready (.ok true), .request true (.ok ())] calls := by
  cases h with
  | skipped => exact .inl nofun
  | cycled _ hcycles => exact hcycles.bytes

end Host

/-- The operation runs a cycle, at least when there is room for an event. -/
def Transport.Op.drivesCycle : Transport.Op max → Bool
  | .tryReceive | .poll | .readyEdge => true
  | .send _ | .isPeerReady | .flush => false

namespace Host

variable {t t' : Host max depth} {calls : List Call}

/-- An operation that exchanges bytes does so in a cycle. -/
theorem Performs.bytes {op : Transport.Op max}
    {answer : Except TransportError (Transport.Answer max)} (h : Performs t op calls answer t') :
    Silent calls ∨ op.drivesCycle = true ∧ t.events.isFull = false ∧
      BytesBehind [.ready (.ok true), .request true (.ok ())] calls := by
  cases h with
  | refused | overlong | crowded => exact .inl nofun
  | queued _ _ _ hsyncs => exact .inl hsyncs.silent
  | cycled _ hop hcycles =>
    have hdrives : op.drivesCycle = true := by rcases hop with rfl | rfl <;> rfl
    exact hcycles.bytes.imp_right (⟨hdrives, ·⟩)
  | unrefilled _ _ hcycles => exact hcycles.bytes.imp_right (⟨rfl, ·⟩)
  | missed _ hrefills => exact hrefills.bytes.imp_right (⟨rfl, ·⟩)
  | taken _ hrefills _ hsyncs =>
    exact hrefills.bytes.imp (·.append hsyncs.silent) fun h => ⟨rfl, h.1, h.2.append hsyncs.silent⟩
  | sampled => exact .inl (.ready _)
  | flushed hdrives | unflushed hdrives => exact .inl hdrives.silent

end Host

/-! ## No overflow -/

/-- The answer of an operation that no overflow has come into. -/
def NoOverflow (answer : Except TransportError (Transport.Answer max)) : Prop :=
  (∀ capacity, answer ≠ .error (.eventOverflow capacity)) ∧ answer ≠ .error .faulted

theorem OkOrLinkError.noOverflow {answer : Except TransportError (Transport.Answer max)}
    (h : OkOrLinkError answer) : NoOverflow answer := by
  constructor
  · intro capacity hanswer
    obtain ⟨cause, ⟨⟩⟩ := h _ hanswer
  · intro hanswer
    obtain ⟨cause, ⟨⟩⟩ := h _ hanswer

namespace Host

variable {t t' : Host max depth} {calls : List Call}

/-- No overflow has happened: the host has not been halted and has dropped no event. -/
structure Sound (t : Host max depth) : Prop where
  healthy : t.faulted = false
  kept : t.stats.eventsDropped = 0

variable {answer : Except TransportError Unit}

/-- Driving REQUEST overflows nothing. -/
theorem Holds.sound {level : Bool} (h : Holds level t calls answer t') (ht : t.Sound) :
    t'.Sound := by
  obtain ⟨asserted, phase, rfl⟩ := h.frame
  exact ⟨ht.healthy, ht.kept⟩

theorem Sound.counted (ht : t.Sound) : t.counted.Sound := by
  refine ⟨ht.healthy, ?_⟩
  unfold Host.counted Transport.countTransfer
  split <;> exact ht.kept

/-- Accepting what a transfer has brought drops nothing. -/
theorem Accepts.sound {outcome : Transfer.Outcome max} (h : Accepts outcome t t') (ht : t.Sound) :
    t'.Sound := by
  cases h with
  | blank => exact ht
  | stored => exact ⟨ht.healthy, ht.kept⟩

/-- A transfer ends well or in an error of the link, and nothing overflows in it. -/
theorem Transfers.sound {answer : Except TransportError Cycle} (h : Transfers t calls answer t')
    (ht : t.Sound) : OkOrLinkError answer ∧ t'.Sound := by
  cases h with
  | aborted _ hsyncs => exact ⟨by rintro _ ⟨⟩; exact ⟨_, rfl⟩, hsyncs.sound ⟨ht.healthy, ht.kept⟩⟩
  | completed _ haccepts hsyncs =>
    exact ⟨hsyncs.okOrLinkError.map _, hsyncs.sound (haccepts.sound ht.counted)⟩

/-- So does a cycle. -/
theorem Cycles.sound {answer : Except TransportError Cycle} (h : Cycles t calls answer t')
    (ht : t.Sound) :
    OkOrLinkError answer ∧ t'.Sound := by
  cases h with
  | stalled _ hsyncs => exact ⟨hsyncs.okOrLinkError.map _, hsyncs.sound ⟨ht.healthy, ht.kept⟩⟩
  | unsampled e => exact ⟨by rintro _ ⟨⟩; exact ⟨_, rfl⟩, ht⟩
  | waited _ hsyncs => exact ⟨hsyncs.okOrLinkError.map _, hsyncs.sound ht⟩
  | transferred _ htransfers => exact htransfers.sound ht

/-- The cycle ahead of a receive overflows nothing either. -/
theorem Refills.sound (h : Refills t calls t') (ht : t.Sound) : t'.Sound := by
  cases h with
  | skipped => exact ht
  | cycled _ hcycles => exact (hcycles.sound ht).2

/-- No operation overflows, and none is refused for an earlier overflow. -/
theorem Performs.sound {op : Transport.Op max}
    {answer : Except TransportError (Transport.Answer max)}
    (h : Performs t op calls answer t') (ht : t.Sound) : NoOverflow answer ∧ t'.Sound := by
  cases h with
  | refused hfaulted =>
    rw [ht.healthy] at hfaulted
    cases hfaulted
  | overlong | crowded => exact ⟨⟨nofun, nofun⟩, ht⟩
  | queued _ _ _ hsyncs =>
    exact ⟨(hsyncs.okOrLinkError.map _).noOverflow, hsyncs.sound ⟨ht.healthy, ht.kept⟩⟩
  | cycled _ _ hcycles =>
    obtain ⟨hanswer, ht'⟩ := hcycles.sound ht
    exact ⟨(hanswer.map _).noOverflow, ht'⟩
  | unrefilled _ _ hcycles =>
    obtain ⟨hanswer, ht'⟩ := hcycles.sound ht
    obtain ⟨cause, rfl⟩ := hanswer _ rfl
    exact ⟨⟨nofun, nofun⟩, ht'⟩
  | missed _ hrefills => exact ⟨⟨nofun, nofun⟩, hrefills.sound ht⟩
  | taken _ hrefills _ hsyncs =>
    have ht₁ := hrefills.sound ht
    exact ⟨(hsyncs.okOrLinkError.map _).noOverflow, hsyncs.sound ⟨ht₁.healthy, ht₁.kept⟩⟩
  | sampled answer =>
    cases answer with
    | error e => exact ⟨⟨nofun, nofun⟩, ht⟩
    | ok ready => exact ⟨⟨nofun, nofun⟩, ht⟩
  | flushed hdrives =>
    obtain ⟨asserted, rfl⟩ := hdrives.frame
    exact ⟨⟨nofun, nofun⟩, ⟨rfl, ht.kept⟩⟩
  | unflushed hdrives =>
    obtain ⟨cause, rfl⟩ := hdrives.okOrLinkError _ rfl
    obtain ⟨asserted, rfl⟩ := hdrives.frame
    exact ⟨⟨nofun, nofun⟩, ⟨rfl, ht.kept⟩⟩

end Host

namespace Transport

variable [Link σ]

/-- The backpressure property of one operation: what it exchanges is exchanged in a cycle that was
entered with room for an event, behind READY and REQUEST; without that room it exchanges nothing. -/
structure Backpressured (op : Op max) (t : Transport σ max depth) (calls : List Call) : Prop where
  guarded : ExchangesGuarded calls
  inCycle : ¬Silent calls → op.drivesCycle = true ∧ t.events.size < depth
  silent : t.events.size = depth → Silent calls

/-- **Bytes move only when their event has a place.** On every link, after any history since the
transport was brought up, each operation exchanges bytes only in a cycle that was entered with room
in the event queue, right after READY has answered and REQUEST has been asserted. So no operation of
the history overflows or is refused for an overflow, the transport is not halted, and it has dropped
no event. -/
theorem exchange_only_with_room {link : Traced σ} {config : TransportConfig}
    {t : Transport (Traced σ) max depth} (h : init link config = .ok t) (ops : List (Op max)) :
    (∀ op : Op max, ∃ calls,
      (op.run (runAll ops t).2).2.link.calls = (runAll ops t).2.link.calls ++ calls ∧
      Backpressured op (runAll ops t).2 calls) ∧
    (∀ answer ∈ (runAll ops t).1,
      (∀ capacity, answer ≠ .error (.eventOverflow capacity)) ∧ answer ≠ .error .faulted) ∧
    (runAll ops t).2.faulted = false ∧ (runAll ops t).2.stats.eventsDropped = 0 := by
  have hstart : t.host.Sound := by
    rw [(init_eq_ok h).1]
    exact ⟨rfl, rfl⟩
  obtain ⟨hanswers, hsound⟩ := runAll_invariant (P := fun t => t.host.Sound) (Q := NoOverflow)
    (fun op t ht => by
      obtain ⟨calls, -, hperforms⟩ := op.run_performs t
      exact hperforms.sound ht) ops hstart
  refine ⟨fun op => ?_, hanswers, hsound.healthy, hsound.kept⟩
  obtain ⟨calls, htrace, hperforms⟩ := op.run_performs (runAll ops t).2
  refine ⟨calls, htrace.calls_eq, ?_⟩
  rcases hperforms.bytes with hsilent | ⟨hop, hroom, hbytes⟩
  · exact ⟨hsilent.exchangesGuarded, fun hloud => absurd hsilent hloud, fun _ => hsilent⟩
  · have hsize := Queue.isFull_eq_false_iff.1 hroom
    exact ⟨hbytes.exchangesGuarded, fun _ => ⟨hop, hsize⟩,
      fun hfull => absurd hfull (Nat.ne_of_lt hsize)⟩

/-- With two events waiting in the radio and room for one, the first poll takes one and the second
stands back. -/
theorem exchange_only_with_room_for_one :
    ∃ t : Transport (Traced Radio) 2 1,
      init { link := { events := [⟨1, 1, [7]⟩, ⟨2, 1, [8]⟩] } } {} = .ok t ∧
      (runAll [.poll, .poll] t).2.events.size = 1 ∧
      ∃ calls, (Op.poll.run (runAll [.poll] t).2).2.link.calls =
        (runAll [.poll] t).2.link.calls ++ calls ∧
        Silent calls := by
  have hinit : init { link := { events := [⟨1, 1, [7]⟩, ⟨2, 1, [8]⟩] } } {} =
      (.ok _ : Except _ (Transport (Traced Radio) 2 1)) := rfl
  refine ⟨_, hinit, rfl, ?_⟩
  obtain ⟨hguarded, -⟩ := exchange_only_with_room hinit [.poll]
  obtain ⟨calls, hcalls, hpressed⟩ := hguarded .poll
  exact ⟨calls, hcalls, hpressed.silent rfl⟩

end Transport

end RadioLink
