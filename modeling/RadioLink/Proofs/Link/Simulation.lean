import RadioLink.Link.Traced
import RadioLink.Transport.History

/-!
# Links that answer alike

Two links answer alike along a relation of their states if every primitive, called on related
states, gives the same answer and leaves related states (`Link.Simulates`). A transport sees nothing
of a link but its answers, so transports that are alike in everything but such links stay so:
`Op.run_alike` says it of one operation. Each part of the transport has its own lemma, in the order
in which they call one another.

An instrument on a link is then dealt with by its four primitives alone, whatever it keeps for
itself, and an invariant of its state may be part of the relation. The simplest one records the
calls (`Traced.simulates`).
-/

namespace RadioLink

variable {σ τ α : Type} {max depth : Nat}

/-- Two answers are the same and leave related states behind. -/
def Alike (R : σ → τ → Prop) (x : α × σ) (y : α × τ) : Prop :=
  x.1 = y.1 ∧ R x.2 y.2

theorem Alike.split {R : σ → τ → Prop} {x : α × σ} {y : α × τ} (h : Alike R x y) :
    ∃ a s s', x = (a, s) ∧ y = (a, s') ∧ R s s' := by
  obtain ⟨a, s⟩ := x
  obtain ⟨b, s'⟩ := y
  obtain ⟨rfl, hR⟩ := h
  exact ⟨a, s, s', rfl, rfl, hR⟩

/-- A change of the result alone keeps answers alike. -/
theorem Alike.map {β : Type} {R : σ → τ → Prop} {x : Reply α σ} {y : Reply α τ} (h : Alike R x y)
    (f : α → β) : Alike R (Reply.map f x) (Reply.map f y) := by
  obtain ⟨answer, s, s', rfl, rfl, hR⟩ := h.split
  cases answer with
  | error e => exact ⟨rfl, hR⟩
  | ok a => exact ⟨rfl, hR⟩

/-- Two links answer alike along a relation of their states. -/
structure Link.Simulates [Link σ] [Link τ] (R : σ → τ → Prop) : Prop where
  exchange {s : σ} {s' : τ} (byte : UInt8) : R s s' →
    Alike R (Link.exchange byte s) (Link.exchange byte s')
  setRequest {s : σ} {s' : τ} (level : Bool) :
    R s s' → Alike R (Link.setRequest level s) (Link.setRequest level s')
  readReady {s : σ} {s' : τ} : R s s' → Alike R (Link.readReady s) (Link.readReady s')
  reset {s : σ} {s' : τ} : R s s' → Alike R (Link.reset s) (Link.reset s')

/-- The transport with another link. -/
def Transport.relink (t : Transport σ max depth) (link : τ) : Transport τ max depth :=
  { t with link }

/-- Two transports have related links and are the same apart from them. -/
def Transport.Over (R : σ → τ → Prop) (t : Transport σ max depth) (t' : Transport τ max depth) :
    Prop :=
  ∃ link, R t.link link ∧ t' = t.relink link

variable [Link σ] [Link τ] {R : σ → τ → Prop}

/-! ## Transfers -/

namespace Transfer

/-- The run over the bytes of a transfer, by induction: the calls are answered alike up to the first
error. -/
theorem exchangeAll_alike (sim : Link.Simulates R) (bytes : List UInt8) {s : σ} {s' : τ}
    (h : R s s') :
    Alike R (exchangeAll bytes s) (exchangeAll bytes s') := by
  induction bytes generalizing s s' with
  | nil => exact ⟨rfl, h⟩
  | cons byte bytes ih =>
    obtain ⟨answer, s₁, s₁', hx, hx', h₁⟩ := (sim.exchange byte h).split
    cases answer with
    | error e =>
      simp only [exchangeAll, hx, hx']
      exact ⟨rfl, h₁⟩
    | ok reply =>
      obtain ⟨answers, s₂, s₂', hrest, hrest', h₂⟩ := (ih h₁).split
      simp only [exchangeAll, hx, hx', hrest, hrest']
      cases answers with
      | error e => exact ⟨rfl, h₂⟩
      | ok replies => exact ⟨rfl, h₂⟩

/-- The phases of a transfer read the same lengths on both sides, so they clock the same bytes. -/
theorem clockFrame_alike (sim : Link.Simulates R) (frame : Frame max) {s : σ} {s' : τ}
    (h : R s s') :
    Alike R (clockFrame frame s) (clockFrame frame s') := by
  obtain ⟨answer, s₁, s₁', hx, hx', h₁⟩ := (sim.exchange frame.length h).split
  cases answer with
  | error e =>
    simp only [clockFrame, hx, hx']
    exact ⟨rfl, h₁⟩
  | ok status =>
    obtain ⟨answer, s₂, s₂', hy, hy', h₂⟩ := (sim.exchange (frame.byteAt 0) h₁).split
    cases answer with
    | error e =>
      simp only [clockFrame, hx, hx', hy, hy']
      exact ⟨rfl, h₂⟩
    | ok length =>
      obtain ⟨answer, s₃, s₃', hz, hz', h₃⟩ :=
        (exchangeAll_alike sim (bytesInWindow frame (window frame.length length max)) h₂).split
      simp only [clockFrame, hx, hx', hy, hy', hz, hz']
      cases answer with
      | error e => exact ⟨rfl, h₃⟩
      | ok replies => exact ⟨rfl, h₃⟩

/-- A whole transfer, with its release of REQUEST, is answered alike. -/
theorem run_alike (sim : Link.Simulates R) (frame : Frame max) {s : σ} {s' : τ} (h : R s s') :
    Alike R (run frame s) (run frame s') := by
  obtain ⟨answer, s₁, s₁', hassert, hassert', h₁⟩ := (sim.setRequest true h).split
  cases answer with
  | error e =>
    simp only [run, hassert, hassert']
    exact ⟨rfl, h₁⟩
  | ok =>
    obtain ⟨result, s₂, s₂', hclock, hclock', h₂⟩ := (clockFrame_alike sim frame h₁).split
    obtain ⟨release, s₃, s₃', hrelease, hrelease', h₃⟩ := (sim.setRequest false h₂).split
    simp only [run, hassert, hassert', hclock, hclock']
    cases result with
    | error e =>
      simp only [hrelease, hrelease']
      exact ⟨rfl, h₃⟩
    | ok outcome =>
      simp only [hrelease, hrelease']
      cases release with
      | error e => exact ⟨rfl, h₃⟩
      | ok => exact ⟨rfl, h₃⟩

end Transfer

/-! ## The parts of a transport -/

namespace Transport

/-- A part of a transport does the same on transports that are alike. -/
def Respects (max depth : Nat) (R : σ → τ → Prop)
    (run : Transport σ max depth → Reply α (Transport σ max depth))
    (run' : Transport τ max depth → Reply α (Transport τ max depth)) : Prop :=
  ∀ ⦃t link⦄, R t.link link → Alike (Over R) (run t) (run' (t.relink link))

/-- The line is driven on both sides or on neither, since the cached levels are the same. -/
theorem driveRequest_respects (sim : Link.Simulates R) (level : Bool) :
    Respects max depth R (driveRequest level) (driveRequest level) := by
  intro t link h
  by_cases hlevel : t.requestAsserted = level
  · have hlevel' : (t.relink link).requestAsserted = level := hlevel
    simp only [driveRequest, if_pos hlevel, if_pos hlevel']
    exact ⟨rfl, link, h, rfl⟩
  · have hlevel' : ¬(t.relink link).requestAsserted = level := hlevel
    obtain ⟨answer, s₁, s₁', hx, hx', h₁⟩ := (sim.setRequest level h).split
    have hx' : Link.setRequest level (t.relink link).link = (answer, s₁') := hx'
    simp only [driveRequest, if_neg hlevel, if_neg hlevel', hx, hx']
    cases answer with
    | error e => exact ⟨rfl, s₁', h₁, rfl⟩
    | ok => exact ⟨rfl, s₁', h₁, rfl⟩

/-- REQUEST is held at its level alike. -/
theorem holdRequest_respects (sim : Link.Simulates R) (level : Bool) :
    Respects max depth R (holdRequest level) (holdRequest level) := by
  intro t link h
  obtain ⟨answer, t₁, _, hx, hx', link₁, h₁, rfl⟩ := (driveRequest_respects sim level h).split
  simp only [holdRequest, hx, hx']
  cases answer with
  | error e => exact ⟨rfl, link₁, h₁, rfl⟩
  | ok => exact ⟨rfl, link₁, h₁, rfl⟩

/-- The level that the queues ask for is the same, so REQUEST is brought to it alike. -/
theorem syncRequest_respects (sim : Link.Simulates R) :
    Respects max depth R syncRequest syncRequest := by
  intro t link h
  exact holdRequest_respects sim t.wantsRequest h

/-- An event is delivered into the same queue with the same answer. -/
theorem deliver_respects (sim : Link.Simulates R) (event : Frame max) :
    Respects max depth R (deliver event) (deliver event) := by
  intro t link h
  cases hroom : t.events.enqueue event with
  | ok events =>
    simp only [deliver, relink, hroom]
    exact ⟨rfl, link, h, rfl⟩
  | error event =>
    cases hpolicy : t.config.overflowPolicy with
    | fault =>
      have hdrive := driveRequest_respects sim false
        (t := { t with faulted := true, phase := .idle }) h
      simp only [deliver, relink, hroom, hpolicy]
      exact ⟨rfl, hdrive.2⟩
    | dropOldest =>
      cases hroom' : t.events.tail.enqueue event with
      | ok events =>
        simp only [deliver, relink, hroom, hpolicy, hroom']
        exact ⟨rfl, link, h, rfl⟩
      | error frame =>
        simp only [deliver, relink, hroom, hpolicy, hroom']
        exact ⟨rfl, link, h, rfl⟩

/-- What a transfer has brought is accepted alike. -/
theorem accept_respects (sim : Link.Simulates R) (outcome : Transfer.Outcome max) :
    Respects max depth R (accept outcome) (accept outcome) := by
  intro t link h
  cases hevent : outcome.hasEvent with
  | false =>
    simp only [accept, hevent, Bool.false_eq_true, if_false]
    exact ⟨rfl, link, h, rfl⟩
  | true =>
    simp only [accept, hevent, if_true]
    exact deliver_respects sim outcome.received h

/-- A transfer that a transport runs sends the same command and is accepted alike. -/
theorem runTransfer_respects (sim : Link.Simulates R) :
    Respects max depth R runTransfer runTransfer := by
  intro t link h
  obtain ⟨result, s₁, s₁', hx, hx', h₁⟩ :=
    (Transfer.run_alike sim (t.commands.peek?.getD .empty) h).split
  have hx' : Transfer.run ((t.relink link).commands.peek?.getD .empty) (t.relink link).link =
      (result, s₁') := hx'
  cases result with
  | error e =>
    have hsync := syncRequest_respects sim (t := { t with
      link := s₁, commands := t.commands.tail, requestAsserted := false, phase := .idle }) h₁
    simp only [runTransfer, hx, hx']
    exact ⟨rfl, hsync.2⟩
  | ok outcome =>
    obtain ⟨answer, t₂, _, hy, hy', link₂, h₂, rfl⟩ := (accept_respects sim outcome
      (t := countTransfer t.commands.peek?.isSome { t with
        link := s₁, commands := t.commands.tail, requestAsserted := false
        phase := .transferring }) h₁).split
    have hy' : accept outcome
      (countTransfer (t.relink link).commands.peek?.isSome { t.relink link with
        link := s₁', commands := (t.relink link).commands.tail, requestAsserted := false
        phase := .transferring }) = (answer, t₂.relink link₂) := hy'
    simp only [runTransfer, hx, hx', hy, hy']
    cases answer with
    | error e => exact ⟨rfl, link₂, h₂, rfl⟩
    | ok =>
      obtain ⟨answer, t₃, _, hz, hz', link₃, h₃, rfl⟩ := (syncRequest_respects sim h₂).split
      simp only [hz, hz']
      cases answer with
      | error e => exact ⟨rfl, link₃, h₃, rfl⟩
      | ok => exact ⟨rfl, link₃, h₃, rfl⟩

/-- READY is sampled with the same answer. -/
theorem sampleReady_respects (sim : Link.Simulates R) :
    Respects max depth R sampleReady sampleReady := by
  intro t link h
  cases hfull : t.events.isFull with
  | true =>
    simp only [sampleReady, relink, hfull, if_true]
    exact ⟨rfl, link, h, rfl⟩
  | false =>
    obtain ⟨answer, s₁, s₁', hx, hx', h₁⟩ := (sim.readReady h).split
    simp only [sampleReady, relink, hfull, hx, hx', Bool.false_eq_true, if_false]
    cases answer with
    | error e => exact ⟨rfl, s₁', h₁, rfl⟩
    | ok ready => exact ⟨rfl, s₁', h₁, rfl⟩

/-- A cycle takes the same decision on both sides, as READY and the queues are the same. -/
theorem cycle_respects (sim : Link.Simulates R) :
    Respects max depth R cycle cycle := by
  intro t link h
  obtain ⟨answer, t₁, _, hx, hx', link₁, h₁, rfl⟩ := (sampleReady_respects sim h).split
  simp only [cycle, hx, hx']
  cases answer with
  | error e => exact ⟨rfl, link₁, h₁, rfl⟩
  | ok ready =>
    have hcommands : (t₁.relink link₁).commands = t₁.commands := rfl
    have hevents : (t₁.relink link₁).events = t₁.events := rfl
    simp only [hcommands, hevents]
    cases Flow.decide (!t₁.commands.isEmpty) t₁.events.isFull ready with
    | backpressured =>
      obtain ⟨answer, t₂, _, hy, hy', link₂, h₂, rfl⟩ :=
        (syncRequest_respects sim (t := t₁.countStall) h₁).split
      have hy' : (t₁.relink link₁).countStall.syncRequest = (answer, t₂.relink link₂) := hy'
      simp only [hy, hy']
      cases answer with
      | error e => exact ⟨rfl, link₂, h₂, rfl⟩
      | ok => exact ⟨rfl, link₂, h₂, rfl⟩
    | wait request =>
      obtain ⟨answer, t₂, _, hy, hy', link₂, h₂, rfl⟩ := (holdRequest_respects sim request h₁).split
      simp only [hy, hy']
      cases answer with
      | error e => exact ⟨rfl, link₂, h₂, rfl⟩
      | ok => exact ⟨rfl, link₂, h₂, rfl⟩
    | transfer => exact runTransfer_respects sim h₁

/-! ## Operations -/

omit [Link σ] [Link τ] in
/-- What is refused while an overflow halts the transport is refused on both sides. -/
theorem whenHealthy_respects {run : Transport σ max depth → Reply α (Transport σ max depth)}
    {run' : Transport τ max depth → Reply α (Transport τ max depth)}
    (hrun : Respects max depth R run run') :
    Respects max depth R (whenHealthy run) (whenHealthy run') := by
  intro t link h
  have hsame : (t.relink link).faulted = t.faulted := rfl
  cases hfaulted : t.faulted with
  | true =>
    simp only [whenHealthy, hsame, hfaulted, if_true]
    exact ⟨rfl, link, h, rfl⟩
  | false =>
    simp only [whenHealthy, hsame, hfaulted, Bool.false_eq_true, if_false]
    exact hrun h

/-- A send is answered alike. -/
theorem send_respects (sim : Link.Simulates R) (frame : Frame max) :
    Respects max depth R (send frame) (send frame) := by
  refine whenHealthy_respects fun t link h => ?_
  cases hfits : frame.fits with
  | false =>
    simp only [Bool.false_eq_true, if_false]
    exact ⟨rfl, link, h, rfl⟩
  | true =>
    have hcommands : (t.relink link).commands = t.commands := rfl
    simp only [if_true, hcommands]
    cases t.commands.enqueue frame with
    | error back => exact ⟨rfl, link, h, rfl⟩
    | ok commands => exact syncRequest_respects sim (t := { t with commands }) h

/-- The cycle ahead of a receive is answered alike. -/
theorem refill_respects (sim : Link.Simulates R) :
    Respects max depth R refill refill := by
  intro t link h
  have hevents : (t.relink link).events = t.events := rfl
  cases hfull : t.events.isFull with
  | true =>
    simp only [refill, hevents, hfull, if_true]
    exact ⟨rfl, link, h, rfl⟩
  | false =>
    obtain ⟨answer, t₁, _, hx, hx', link₁, h₁, rfl⟩ := (cycle_respects sim h).split
    simp only [refill, hevents, hfull, hx, hx', Bool.false_eq_true, if_false]
    cases answer with
    | error e => exact ⟨rfl, link₁, h₁, rfl⟩
    | ok what => exact ⟨rfl, link₁, h₁, rfl⟩

/-- A receive takes the same event. -/
theorem tryReceive_respects (sim : Link.Simulates R) :
    Respects max depth R tryReceive tryReceive := by
  refine whenHealthy_respects fun t link h => ?_
  obtain ⟨answer, t₁, _, hx, hx', link₁, h₁, rfl⟩ := (refill_respects sim h).split
  simp only [hx, hx']
  cases answer with
  | error e => exact ⟨rfl, link₁, h₁, rfl⟩
  | ok =>
    have hevents : (t₁.relink link₁).events = t₁.events := rfl
    simp only [hevents]
    rcases hhead : t₁.events.dequeue with ⟨_ | event, events⟩
    · exact ⟨rfl, link₁, h₁, rfl⟩
    · obtain ⟨answer, t₂, _, hy, hy', link₂, h₂, rfl⟩ :=
        (syncRequest_respects sim (t := { t₁ with events }) h₁).split
      have hy' : syncRequest { t₁.relink link₁ with events } = (answer, t₂.relink link₂) := hy'
      simp only [hy, hy']
      cases answer with
      | error e => exact ⟨rfl, link₂, h₂, rfl⟩
      | ok => exact ⟨rfl, link₂, h₂, rfl⟩

/-- READY is reported alike. -/
theorem isPeerReady_respects (sim : Link.Simulates R) :
    Respects max depth R isPeerReady isPeerReady := by
  intro t link h
  obtain ⟨answer, s₁, s₁', hx, hx', h₁⟩ := (sim.readReady h).split
  simp only [isPeerReady, relink, hx, hx']
  cases answer with
  | error e => exact ⟨rfl, s₁', h₁, rfl⟩
  | ok ready => exact ⟨rfl, s₁', h₁, rfl⟩

/-- A flush empties both sides and is answered alike. -/
theorem flush_respects (sim : Link.Simulates R) :
    Respects max depth R flush flush := by
  intro t link h
  obtain ⟨answer, t₁, _, hx, hx', link₁, h₁, rfl⟩ := (driveRequest_respects sim false
    (t := { t with commands := .empty, events := .empty, faulted := false }) h).split
  have hx' : driveRequest false { t.relink link with
      commands := (.empty : Queue (Frame max) depth), events := .empty, faulted := false } =
        (answer, t₁.relink link₁) := hx'
  simp only [flush, hx, hx']
  cases answer with
  | error e => exact ⟨rfl, link₁, h₁, rfl⟩
  | ok => exact ⟨rfl, link₁, h₁, rfl⟩

/-- An edge runs the same cycle. -/
theorem onReadyEdge_respects (sim : Link.Simulates R) :
    Respects max depth R onReadyEdge onReadyEdge :=
  whenHealthy_respects (cycle_respects sim)

/-- An operation answers the same on transports that are alike, and leaves them alike. -/
theorem Op.run_alike (sim : Link.Simulates R) (op : Op max) {t : Transport σ max depth}
    {t' : Transport τ max depth} (h : t.Over R t') : Alike (Over R) (op.run t) (op.run t') := by
  obtain ⟨link, h, rfl⟩ := h
  cases op with
  | send frame => exact (send_respects sim frame h).map _
  | tryReceive => exact (tryReceive_respects sim h).map _
  | poll => exact (whenHealthy_respects (cycle_respects sim) h).map _
  | readyEdge => exact (onReadyEdge_respects sim h).map _
  | isPeerReady => exact (isPeerReady_respects sim h).map _
  | flush => exact (flush_respects sim h).map _

/-- A transport that is brought up over one of two links is brought up alike over the other. -/
theorem init_alike (sim : Link.Simulates R) {config : TransportConfig} {s : σ} {s' : τ} (h : R s s')
    {t : Transport σ max depth} (hinit : init s config = .ok t) :
    ∃ link, R t.link link ∧ init s' config = .ok (t.relink link) := by
  have hreset : Alike R (if config.resetOnInit then Link.reset s else (.ok (), s))
      (if config.resetOnInit then Link.reset s' else (.ok (), s')) := by
    split
    · exact sim.reset h
    · exact ⟨rfl, h⟩
  obtain ⟨answer, s₁, s₁', hx, hx', h₁⟩ := hreset.split
  cases answer with
  | error e =>
    rw [init, hx] at hinit
    cases hinit
  | ok =>
    obtain ⟨answer, s₂, s₂', hy, hy', h₂⟩ := (sim.setRequest false h₁).split
    cases answer with
    | error e =>
      simp only [init, hx, hy] at hinit
      cases hinit
    | ok =>
      simp only [init, hx, hy, Except.ok.injEq] at hinit
      subst hinit
      refine ⟨s₂', h₂, ?_⟩
      simp only [init, hx', hy']
      rfl

end Transport

/-- A link that records its calls answers like the link underneath. -/
theorem Traced.simulates : Link.Simulates fun (s : σ) (p : Traced σ) => s = p.link where
  exchange _ h := h ▸ ⟨rfl, rfl⟩
  setRequest _ h := h ▸ ⟨rfl, rfl⟩
  readReady h := h ▸ ⟨rfl, rfl⟩
  reset h := h ▸ ⟨rfl, rfl⟩

end RadioLink
