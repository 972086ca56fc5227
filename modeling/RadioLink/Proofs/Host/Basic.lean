import RadioLink.Proofs.Transfer.Wire
import RadioLink.Transport.History

/-!
# What a transport can do

A `Host` is a transport without its link: its queues, its configuration, its idea of the REQUEST
line and its counters. The relations of this module say what each part of the transport does to the
host over any link whatsoever. `Host.Performs host op calls answer host'` lists every way in which
an operation can go: the calls that it makes on the link with the answers that it gets, the answer
that it gives and the host that it leaves behind.

`Op.run_performs` ties the relation to the transport that runs: over every link, each operation is
one of these ways, and its calls are a trace of the link. Whatever is claimed of a transport over
all links is then a case analysis of `Host.Performs`, and nothing has to look into the operations
again.
-/

namespace RadioLink

variable {σ : Type} {max depth : Nat}

/-- A transport without its link. -/
abbrev Host (max depth : Nat) : Type :=
  Transport Unit max depth

namespace Transport

/-- What a transport is apart from its link. -/
def host (t : Transport σ max depth) : Host max depth where
  link := ()
  commands := t.commands
  events := t.events
  config := t.config
  requestAsserted := t.requestAsserted
  phase := t.phase
  faulted := t.faulted
  stats := t.stats

@[simp] theorem host_commands (t : Transport σ max depth) : t.host.commands = t.commands := rfl

end Transport

/-- The answer is no error but one of the link. -/
def OkOrLinkError {α : Type} (answer : Except TransportError α) : Prop :=
  ∀ e, answer = .error e → ∃ cause, e = .link cause

theorem OkOrLinkError.map {α β : Type} {answer : Except TransportError α} (f : α → β)
    (h : OkOrLinkError answer) : OkOrLinkError (answer.map f) := by
  rintro e he
  cases answer with
  | error e' => exact h e (by simpa [Except.map] using he)
  | ok a => cases he

namespace Host

/-! ## The REQUEST line -/

/-- Bringing REQUEST to a level: the line is left alone if it is known to be there. -/
inductive Drives (level : Bool) (t : Host max depth) :
    List Call → Except TransportError Unit → Host max depth → Prop
  | held : t.requestAsserted = level → Drives level t [] (.ok ()) t
  | moved : t.requestAsserted ≠ level →
      Drives level t [.request level (.ok ())] (.ok ()) { t with requestAsserted := level }
  | failed (e : LinkError) : t.requestAsserted ≠ level →
      Drives level t [.request level (.error e)] (.error (.link e)) t

/-- Bringing REQUEST to a level and resting there. -/
inductive Holds (level : Bool) (t : Host max depth) :
    List Call → Except TransportError Unit → Host max depth → Prop
  | rested {calls : List Call} {t' : Host max depth} : Drives level t calls (.ok ()) t' →
      Holds level t calls (.ok ()) { t' with phase := .atRest level }
  | failed {calls : List Call} {e : TransportError} {t' : Host max depth} :
      Drives level t calls (.error e) t' → Holds level t calls (.error e) t'

/-- Bringing REQUEST to the level that the queues ask for. -/
abbrev Syncs (t : Host max depth) :
    List Call → Except TransportError Unit → Host max depth → Prop :=
  Holds t.wantsRequest t

/-! ## Cycles -/

/-- The frame that a transfer sends: the oldest command, or an empty frame if there is none. -/
def outbound (t : Host max depth) : Frame max :=
  t.commands.peek?.getD .empty

/-- The host as a transfer leaves it in a phase: the command has left its queue, and REQUEST is
taken to be released. -/
def spent (phase : Phase) (t : Host max depth) : Host max depth :=
  { t with commands := t.commands.tail, requestAsserted := false, phase }

/-- The host after a transfer that has exchanged all its bytes. -/
def counted (t : Host max depth) : Host max depth :=
  (t.spent .transferring).countTransfer t.commands.peek?.isSome

/-- What is told of a transfer that has sent a frame. -/
def summary (sent : Frame max) (outcome : Transfer.Outcome max) : TransferSummary where
  sent := sent.length
  received := outcome.received.length
  status := outcome.received.status
  exchanged := outcome.exchanged
  eventQueued := outcome.hasEvent

/-- Storing what a transfer brought, if it is an event and there is room for it. -/
inductive Accepts (outcome : Transfer.Outcome max) (t : Host max depth) : Host max depth → Prop
  | blank : outcome.hasEvent = false → Accepts outcome t t
  | stored {events : Queue (Frame max) depth} : outcome.hasEvent = true →
      t.events.enqueue outcome.received = .ok events →
      Accepts outcome t
        { t with events, stats := { t.stats with eventsReceived := t.stats.eventsReceived + 1 } }

/-- Running a transfer with room for the event that it may bring. -/
inductive Transfers (t : Host max depth) :
    List Call → Except TransportError Cycle → Host max depth → Prop
  | aborted {calls sync : List Call} {e : LinkError} {answer : Except TransportError Unit}
      {t' : Host max depth} : Transfer.Says t.outbound calls (.error e) →
      Syncs (t.spent .idle) sync answer t' →
      Transfers t (calls ++ sync) (.error (.link e)) t'
  | completed {calls sync : List Call} {outcome : Transfer.Outcome max}
      {answer : Except TransportError Unit} {t₁ t' : Host max depth} :
      Transfer.Says t.outbound calls (.ok outcome) → Accepts outcome t.counted t₁ →
      Syncs t₁ sync answer t' →
      Transfers t (calls ++ sync) (answer.map fun _ => .transferred (summary t.outbound outcome)) t'

/-- Running one cycle. -/
inductive Cycles (t : Host max depth) :
    List Call → Except TransportError Cycle → Host max depth → Prop
  | stalled {calls : List Call} {answer : Except TransportError Unit} {t' : Host max depth} :
      t.events.isFull = true → Syncs t.countStall calls answer t' →
      Cycles t calls (answer.map fun _ => .backpressured) t'
  | unsampled (e : LinkError) : t.events.isFull = false →
      Cycles t [.ready (.error e)] (.error (.link e)) t
  | waited {calls : List Call} {answer : Except TransportError Unit} {t' : Host max depth} :
      t.events.isFull = false → Syncs t calls answer t' →
      Cycles t (.ready (.ok false) :: calls)
        (answer.map fun _ => if t.wantsRequest then .waiting else .idle) t'
  | transferred {calls : List Call} {answer : Except TransportError Cycle} {t' : Host max depth} :
      t.events.isFull = false → Transfers t calls answer t' →
      Cycles t (.ready (.ok true) :: calls) answer t'

/-- Running a cycle before an event is taken, if there is room for another one. -/
inductive Refills (t : Host max depth) : List Call → Host max depth → Prop
  | skipped : t.events.isFull = true → Refills t [] t
  | cycled {calls : List Call} {what : Cycle} {t' : Host max depth} : t.events.isFull = false →
      Cycles t calls (.ok what) t' → Refills t calls t'

/-! ## Operations -/

/-- The host after both queues have been emptied and a fault has been cleared. -/
def emptied (t : Host max depth) : Host max depth :=
  { t with commands := .empty, events := .empty, faulted := false }

/-- Running one operation. -/
inductive Performs (t : Host max depth) : Transport.Op max → List Call →
    Except TransportError (Transport.Answer max) → Host max depth → Prop
  | refused {op : Transport.Op max} : t.faulted = true → op ≠ .isPeerReady → op ≠ .flush →
      Performs t op [] (.error .faulted) t
  | overlong {frame : Frame max} : t.faulted = false → frame.fits = false →
      Performs t (.send frame) [] (.error (.frameTooLong frame.length.toNat max)) t
  | crowded {frame : Frame max} : t.faulted = false → frame.fits = true → t.commands.isFull = true →
      Performs t (.send frame) [] (.error (.commandQueueFull depth)) t
  | queued {frame : Frame max} {commands : Queue (Frame max) depth} {calls : List Call}
      {answer : Except TransportError Unit} {t' : Host max depth} :
      t.faulted = false → frame.fits = true → t.commands.enqueue frame = .ok commands →
      Syncs { t with commands } calls answer t' →
      Performs t (.send frame) calls (answer.map fun _ => .done) t'
  | cycled {op : Transport.Op max} {calls : List Call} {answer : Except TransportError Cycle}
      {t' : Host max depth} : t.faulted = false → op = .poll ∨ op = .readyEdge →
      Cycles t calls answer t' → Performs t op calls (answer.map .cycle) t'
  | unrefilled {calls : List Call} {e : TransportError} {t' : Host max depth} :
      t.faulted = false → t.events.isFull = false → Cycles t calls (.error e) t' →
      Performs t .tryReceive calls (.error e) t'
  | missed {calls : List Call} {t' : Host max depth} : t.faulted = false → Refills t calls t' →
      t'.events.peek? = none → Performs t .tryReceive calls (.ok (.event none)) t'
  | taken {calls sync : List Call} {event : Frame max} {answer : Except TransportError Unit}
      {t₁ t' : Host max depth} : t.faulted = false → Refills t calls t₁ →
      t₁.events.peek? = some event → Syncs { t₁ with events := t₁.events.tail } sync answer t' →
      Performs t .tryReceive (calls ++ sync) (answer.map fun _ => .event (some event)) t'
  | sampled (answer : Except LinkError Bool) :
      Performs t .isPeerReady [.ready answer] ((answer.mapError .link).map .level) t
  | flushed {calls : List Call} {t' : Host max depth} : Drives false t.emptied calls (.ok ()) t' →
      Performs t .flush calls (.ok .done) { t' with phase := .idle }
  | unflushed {calls : List Call} {e : TransportError} {t' : Host max depth} :
      Drives false t.emptied calls (.error e) t' → Performs t .flush calls (.error e) t'

/-! ## What the parts leave alone -/

variable {level : Bool} {t t' : Host max depth} {calls : List Call}
  {answer : Except TransportError Unit}

/-- Bringing REQUEST to a level changes nothing but the known level. -/
theorem Drives.frame (h : Drives level t calls answer t') :
    ∃ asserted, t' = { t with requestAsserted := asserted } := by
  cases h with
  | held | failed => exact ⟨t.requestAsserted, rfl⟩
  | moved => exact ⟨level, rfl⟩

/-- Resting at a level changes nothing but the known level and the phase. -/
theorem Holds.frame (h : Holds level t calls answer t') :
    ∃ asserted phase, t' = { t with requestAsserted := asserted, phase } := by
  cases h with
  | rested hdrives =>
    obtain ⟨asserted, rfl⟩ := hdrives.frame
    exact ⟨asserted, .atRest level, rfl⟩
  | failed hdrives =>
    obtain ⟨asserted, rfl⟩ := hdrives.frame
    exact ⟨asserted, t.phase, rfl⟩

/-- Accepting what a transfer brought is about the events and the counters only. -/
theorem Accepts.frame {outcome : Transfer.Outcome max} (h : Accepts outcome t t') :
    t'.faulted = t.faulted ∧ t'.requestAsserted = t.requestAsserted ∧ t'.phase = t.phase := by
  cases h with
  | blank | stored => exact ⟨rfl, rfl, rfl⟩

/-- Driving REQUEST can only fail with an error of the link. -/
theorem Drives.okOrLinkError (h : Drives level t calls answer t') : OkOrLinkError answer := by
  rintro e rfl
  cases h with
  | failed cause => exact ⟨cause, rfl⟩

/-- Driving REQUEST fails only with an error of the link. -/
theorem Holds.okOrLinkError (h : Holds level t calls answer t') : OkOrLinkError answer := by
  cases h with
  | rested hdrives | failed hdrives => exact hdrives.okOrLinkError

/-- Driving REQUEST exchanges no byte. -/
theorem Drives.silent (h : Drives level t calls answer t') : Silent calls := by
  cases h with
  | held => exact .nil
  | moved | failed => exact .single rfl

/-- Neither does resting at its level. -/
theorem Holds.silent (h : Holds level t calls answer t') : Silent calls := by
  cases h with
  | rested hdrives | failed hdrives => exact hdrives.silent

end Host

end RadioLink
