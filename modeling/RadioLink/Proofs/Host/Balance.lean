import RadioLink.Proofs.Host.Steady

/-!
# What goes in and what comes out

An operation whose calls do not fail to drive REQUEST does at most one transfer (`Transfer.Within`),
and its answer tells what came of that. Everything else it does to the queues of the host is a
balance: what was queued and what has come in is what has gone out and what is still queued, in this
order (`Host.Balances`). A transfer takes the oldest command out of its queue before its first byte,
whether it arrives or not, so the balance does not depend on how the transfer ends.
-/

namespace RadioLink

variable {max depth : Nat}

namespace Transfer

/-- What a transfer, if there is one, adds to the events. -/
def gained : Option (Except LinkError (Outcome max)) → List (Frame max)
  | some (.ok outcome) => if outcome.hasEvent then [outcome.received] else []
  | _ => []

/-- The answer of an operation tells what came of its transfer, if there was one. -/
def Told {α : Type} (answer : Except TransportError α) :
    Option (Except LinkError (Outcome max)) → Prop
  | none => True
  | some (.error e) => answer = .error (.link e)
  | some (.ok _) => ∃ a, answer = .ok a

/-- What an answer tells of a transfer does not depend on how a success is read. -/
theorem Told.map {α β : Type} {answer : Except TransportError α}
    {result : Option (Except LinkError (Outcome max))} (h : Told answer result) (f : α → β) :
    Told (answer.map f) result := by
  rcases result with _ | e | outcome
  · trivial
  · obtain rfl : answer = .error (.link e) := h
    rfl
  · obtain ⟨a, rfl⟩ := h
    exact ⟨f a, rfl⟩

end Transfer

/-! ## What an operation takes in and gives out -/

namespace Transport

/-- The commands that an operation has accepted. -/
def Op.accepted : Op max → Except TransportError (Answer max) → List (Frame max)
  | .send frame, .ok _ => [frame]
  | _, _ => []

/-- Whether the operation empties the queues. -/
def Op.flushes : Op max → Bool
  | .flush => true
  | _ => false

/-- The events that an answer hands over. -/
def taken : Except TransportError (Answer max) → List (Frame max)
  | .ok (.event (some frame)) => [frame]
  | _ => []

end Transport

namespace Host

variable {t t₁ t' : Host max depth} {calls : List Call}

/-- The commands that a transfer, if there is one, takes out of the queue. -/
def handed (t : Host max depth) (result : Option (Except LinkError (Transfer.Outcome max))) :
    List (Frame max) :=
  if result.isSome then t.commands.peek?.toList else []

/-- The balance of the queues over some calls with at most one transfer. -/
structure Moves (t : Host max depth) (calls : List Call)
    (result : Option (Except LinkError (Transfer.Outcome max))) (t' : Host max depth) : Prop where
  within : Transfer.Within t.outbound calls result
  commands : t.commands.toList = t.handed result ++ t'.commands.toList
  events : t.events.toList ++ Transfer.gained result = t'.events.toList

/-- The balance of the queues over an operation. Every command accepted fits into a frame. -/
structure Balances (t : Host max depth) (op : Transport.Op max) (calls : List Call)
    (answer : Except TransportError (Transport.Answer max))
    (result : Option (Except LinkError (Transfer.Outcome max))) (t' : Host max depth) : Prop where
  within : Transfer.Within t.outbound calls result
  told : Transfer.Told answer result
  fitting : ∀ frame ∈ op.accepted answer, frame.fits = true
  commands : t.commands.toList ++ op.accepted answer =
    (if op.flushes then t.commands.toList else []) ++ t.handed result ++ t'.commands.toList
  events : t.events.toList ++ Transfer.gained result =
    Transport.taken answer ++ (if op.flushes then t.events.toList else []) ++ t'.events.toList

/-- Calls that exchange no byte and leave the queues alone balance. -/
theorem Moves.still (hcalls : Silent calls) (hcommands : t'.commands = t.commands)
    (hevents : t'.events = t.events) : Moves t calls none t' :=
  ⟨.none hcalls, by simp [handed, hcommands], by simp [Transfer.gained, hevents]⟩

/-- Bringing REQUEST to its level moves no frame. -/
theorem Syncs.queues {answer : Except TransportError Unit} (h : t.Syncs calls answer t') :
    t'.commands = t.commands ∧ t'.events = t.events := by
  obtain ⟨asserted, phase, rfl⟩ := Holds.frame h
  exact ⟨rfl, rfl⟩

/-- Accepting what a transfer has brought queues it behind the others, if it is an event. -/
theorem Accepts.events {outcome : Transfer.Outcome max} (h : Accepts outcome t t') :
    t'.commands = t.commands ∧
      t.events.toList ++ Transfer.gained (some (.ok outcome)) = t'.events.toList := by
  cases h with
  | blank hblank => exact ⟨rfl, by simp [Transfer.gained, hblank]⟩
  | stored hevent hstored =>
    refine ⟨rfl, ?_⟩
    rw [Transfer.gained, if_pos hevent]
    exact (Queue.enqueue_eq_ok_iff.1 hstored).2.symm

/-- The queued commands are the oldest one, if there is one, and the others. -/
theorem commands_eq (t : Host max depth) :
    t.commands.toList = t.commands.peek?.toList ++ t.commands.tail.toList :=
  t.commands.toList_dequeue.symm

/-- A transfer hands over the oldest command and gains what it has brought, whatever came of it. -/
theorem Transfers.moves {answer : Except TransportError Cycle} (h : Transfers t calls answer t')
    (hcalls : RequestsSucceed calls) :
    ∃ result, Moves t (.ready (.ok true) :: calls) result t' ∧ Transfer.Told answer result := by
  have hready : Silent [.ready (.ok true)] := .ready _
  cases h with
  | @aborted said sync e _ _ hspoken hsyncs =>
    obtain ⟨hcommands, hevents⟩ := hsyncs.queues
    refine ⟨some (.error e), ⟨.one hready hspoken hsyncs.silent, ?_, ?_⟩, rfl⟩
    · rw [hcommands]
      exact t.commands_eq
    · rw [hevents]
      exact List.append_nil _
  | @completed said sync outcome _ t₁ _ hspoken haccepts hsyncs =>
    obtain ⟨rfl, -⟩ := hsyncs.steady (requestsSucceed_append.1 hcalls).2
    obtain ⟨hcommands, hevents⟩ := hsyncs.queues
    obtain ⟨hcommands₁, hevents₁⟩ := haccepts.events
    refine ⟨some (.ok outcome), ⟨.one hready hspoken hsyncs.silent, ?_, ?_⟩, _, rfl⟩
    · rw [hcommands, hcommands₁]
      exact t.commands_eq
    · rw [hevents]
      exact hevents₁

/-- A cycle moves what its transfer moves, if it runs one. -/
theorem Cycles.moves {answer : Except TransportError Cycle} (h : Cycles t calls answer t')
    (hcalls : RequestsSucceed calls) :
    ∃ result, Moves t calls result t' ∧ Transfer.Told answer result := by
  cases h with
  | stalled _ hsyncs =>
    exact ⟨none, .still hsyncs.silent hsyncs.queues.1 hsyncs.queues.2, trivial⟩
  | unsampled e =>
    exact ⟨none, .still (.ready _) rfl rfl, trivial⟩
  | waited _ hsyncs =>
    have hcalls := (Silent.ready (.ok false)).append hsyncs.silent
    exact ⟨none, .still hcalls hsyncs.queues.1 hsyncs.queues.2, trivial⟩
  | transferred _ htransfers => exact htransfers.moves (requestsSucceed_ready_cons.1 hcalls)

/-- So does the cycle ahead of a receive, which has succeeded. -/
theorem Refills.moves (h : Refills t calls t') (hcalls : RequestsSucceed calls) :
    ∃ result, Moves t calls result t' ∧ Transfer.Told (.ok ()) result := by
  cases h with
  | skipped => exact ⟨none, .still .nil rfl rfl, trivial⟩
  | cycled _ hcycles =>
    obtain ⟨result, hmoves, htold⟩ := hcycles.moves hcalls
    exact ⟨result, hmoves, htold.map fun _ => ()⟩

/-- Behind an operation that balances, all commands that are queued fit into a frame if those before
it did. -/
theorem Balances.queued_fit {op : Transport.Op max}
    {answer : Except TransportError (Transport.Answer max)}
    {result : Option (Except LinkError (Transfer.Outcome max))}
    (h : Balances t op calls answer result t')
    (hfitting : ∀ frame ∈ t.commands.toList, frame.fits = true) :
    ∀ frame ∈ t'.commands.toList, frame.fits = true := by
  intro frame hframe
  have hmem : frame ∈ t.commands.toList ++ op.accepted answer := by
    rw [h.commands]
    exact List.mem_append_right _ hframe
  exact (List.mem_append.1 hmem).elim (hfitting frame) (h.fitting frame)

/-- An operation that neither accepts a command nor hands over an event nor empties the queues
balances like its calls. -/
theorem Moves.balances {op : Transport.Op max}
    {answer : Except TransportError (Transport.Answer max)}
    {result : Option (Except LinkError (Transfer.Outcome max))} (h : Moves t calls result t')
    (htold : Transfer.Told answer result) (haccepted : op.accepted answer = [])
    (hflushes : op.flushes = false)
    (htaken : Transport.taken answer = []) : Balances t op calls answer result t' := by
  refine ⟨h.within, htold, by simp [haccepted], ?_, ?_⟩
  · simpa [haccepted, hflushes] using h.commands
  · simpa [htaken, hflushes] using h.events

/-- Every operation that does not fail to drive REQUEST balances. -/
theorem Performs.balances {op : Transport.Op max}
    {answer : Except TransportError (Transport.Answer max)}
    (h : Performs t op calls answer t') (hcalls : RequestsSucceed calls) :
    ∃ result, Balances t op calls answer result t' := by
  cases h with
  | refused _ _ hflush =>
    have hflushes : op.flushes = false := by cases op <;> first | rfl | contradiction
    have haccepted : op.accepted (.error .faulted) = [] := by cases op <;> rfl
    exact ⟨none, (Moves.still .nil rfl rfl).balances trivial haccepted hflushes rfl⟩
  | overlong | crowded => exact ⟨none, (Moves.still .nil rfl rfl).balances trivial rfl rfl rfl⟩
  | @queued frame commands _ _ _ _ hfits hqueued hsyncs =>
    obtain ⟨rfl, -⟩ := hsyncs.steady hcalls
    obtain ⟨hcommands, hevents⟩ := hsyncs.queues
    refine ⟨none, .none hsyncs.silent, trivial, ?_, ?_, ?_⟩
    · intro accepted haccepted
      obtain rfl : accepted = frame := List.mem_singleton.1 haccepted
      exact hfits
    · rw [hcommands]
      exact (Queue.enqueue_eq_ok_iff.1 hqueued).2.symm
    · rw [hevents]
      exact List.append_nil _
  | @cycled _ _ what _ _ hop hcycles =>
    obtain ⟨result, hmoves, htold⟩ := hcycles.moves hcalls
    have htaken : Transport.taken (what.map (.cycle : Cycle → Transport.Answer max)) = [] := by
      cases what <;> rfl
    refine ⟨result, hmoves.balances (htold.map _) ?_ ?_ htaken⟩
    · rcases hop with rfl | rfl <;> rfl
    · rcases hop with rfl | rfl <;> rfl
  | unrefilled _ _ hcycles =>
    obtain ⟨result, hmoves, htold⟩ := hcycles.moves hcalls
    refine ⟨result, hmoves.balances ?_ rfl rfl rfl⟩
    rcases result with _ | cause | outcome
    · trivial
    · exact congrArg Except.error (Except.error.inj htold)
    · obtain ⟨_, ⟨⟩⟩ := htold
  | missed _ hrefills =>
    obtain ⟨result, hmoves, htold⟩ := hrefills.moves hcalls
    exact ⟨result, hmoves.balances (htold.map fun _ => (.event none : Transport.Answer max)) rfl rfl
      rfl⟩
  | @taken _ _ event _ t₁ _ _ hrefills hhead hsyncs =>
    obtain ⟨hrefill, hsync⟩ := requestsSucceed_append.1 hcalls
    obtain ⟨result, hmoves, htold⟩ := hrefills.moves hrefill
    obtain ⟨rfl, -⟩ := hsyncs.steady hsync
    obtain ⟨hcommands, hevents⟩ := hsyncs.queues
    have htold' := htold.map fun _ => Transport.Answer.event (some event)
    refine ⟨result, hmoves.within.append hsyncs.silent, htold', ?_, ?_, ?_⟩
    · intro frame hframe
      cases hframe
    · rw [hcommands]
      simpa [Transport.Op.accepted, Transport.Op.flushes] using hmoves.commands
    · rw [hevents, hmoves.events, Queue.toList_of_peek hhead]
      rfl
  | sampled answer =>
    refine ⟨none, (Moves.still (.ready _) rfl rfl).balances trivial rfl rfl ?_⟩
    cases answer <;> rfl
  | flushed hdrives =>
    obtain ⟨asserted, rfl⟩ := hdrives.frame
    refine ⟨none, .none hdrives.silent, trivial, ?_, ?_, ?_⟩
    · intro frame hframe
      cases hframe
    · simp [Transport.Op.accepted, Transport.Op.flushes, handed, emptied]
    · simp [Transport.taken, Transport.Op.flushes, Transfer.gained, emptied]
  | unflushed hdrives => cases (hdrives.steady hcalls).1

end Host

end RadioLink
