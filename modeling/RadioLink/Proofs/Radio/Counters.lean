import RadioLink.Proofs.Delivery.Journal
import RadioLink.Proofs.Radio.Cycle
import RadioLink.Proofs.Transport.Statistics

/-!
# Both sides count

A transport and its radio count the same transfers, each from what it can see. The transport counts
a command if one has left its queue; the radio counts one if the first byte of the transaction,
which is the length of the frame, is not zero. The two differ on commands without a length, and on
nothing else (`Transport.counters_agree`): such a command is one that the transport has handed over,
and to the radio it looks like a poll without a command.

`Transport.Agrees` is the invariant. Next to the counters it needs only what lets every transfer be
a whole transaction: none is open, no exchange is going to fail, and REQUEST is where the transport
takes it to be. READY may be forced to any level, which makes transfers come and go but does not
make either side count differently.
-/

namespace RadioLink

variable {σ : Type} {max depth : Nat}

/-! ## Runs -/

/-- The radio is told nothing that makes an exchange fail. -/
def RadioScript.harmless : RadioScript → Bool
  | failAfter (some _) => false
  | pushEvent _ | forceReady _ | failAfter none => true

/-- Nothing that makes an exchange fail is done in the act. -/
def Act.harmless : Act max → Bool
  | .op _ => true
  | .script told => told.harmless

namespace Transport

/-- The transport after an act, over a radio that nothing stands in front of. -/
def enact (t : Transport Radio max depth) : Act max → Transport Radio max depth
  | .op op => (op.run t).2
  | .script told => { t with link := told.apply t.link }

/-- The transport after a run. -/
def enactAll (acts : List (Act max)) (t : Transport Radio max depth) : Transport Radio max depth :=
  acts.foldl enact t

/-- One if the oldest command has no length, and zero otherwise. -/
def blank (t : Transport σ max depth) : Nat :=
  t.commands.peek?.toList.countP (·.length == 0)

/-- The number of commands without a length that are handed to the transfer of an act, if it runs
one. -/
def blankIn (t : Transport Radio max depth) : Act max → Nat
  | .op op => if (op.transfer? t).isSome then t.blank else 0
  | .script _ => 0

/-- The number of commands without a length that are handed to the transfers of a run. -/
def blanks : List (Act max) → Transport Radio max depth → Nat
  | [], _ => 0
  | act :: acts, t => t.blankIn act + blanks acts (t.enact act)

end Transport

/-! ## Counters -/

/-- Storing an event is counted as an event, and as nothing else. -/
theorem Host.Accepts.stats {outcome : Transfer.Outcome max} {t t' : Host max depth}
    (h : Host.Accepts outcome t t') :
    t'.stats = { t.stats with eventsReceived := t'.stats.eventsReceived } := by
  cases h with
  | blank | stored => rfl

/-- What is harmless gives the radio no budget. -/
theorem RadioScript.budget_apply {script : RadioScript} (h : script.harmless = true) {radio : Radio}
    (hbudget : radio.budget = none) : (script.apply radio).budget = none := by
  cases script with
  | pushEvent | forceReady => exact hbudget
  | failAfter count =>
    cases count with
    | none => rfl
    | some count => cases h

/-- What a radio is told changes none of its counters, opens no transaction and leaves REQUEST
alone. -/
theorem RadioScript.apply_counters (script : RadioScript) (radio : Radio) :
    (script.apply radio).transaction = radio.transaction ∧
      (script.apply radio).request = radio.request ∧
      (script.apply radio).transactions = radio.transactions ∧
        (script.apply radio).commands = radio.commands ∧
      (script.apply radio).emptyPolls = radio.emptyPolls := by
  cases script with
  | pushEvent | forceReady | failAfter => exact ⟨rfl, rfl, rfl, rfl, rfl⟩

namespace Radio

/-- The radio has counted nothing, no transaction is open, and no exchange is going to fail. -/
structure Fresh (radio : Radio) : Prop where
  closed : radio.transaction = none
  unlimited : radio.budget = none
  transactions : radio.transactions = 0
  commands : radio.commands = []
  emptyPolls : radio.emptyPolls = 0

/-- A reset counts none of the transactions. -/
theorem Fresh.reset {radio : Radio} (h : radio.Fresh) : radio.reset.Fresh :=
  ⟨rfl, h.unlimited, h.transactions, h.commands, h.emptyPolls⟩

/-- The step: what is harmless leaves a fresh radio fresh. -/
theorem Fresh.apply {radio : Radio} (h : radio.Fresh) {script : RadioScript}
    (hscript : script.harmless = true) :
    (script.apply radio).Fresh := by
  obtain ⟨hclosed, -, htransactions, hcommands, hpolls⟩ := script.apply_counters radio
  exact ⟨hclosed.trans h.closed, RadioScript.budget_apply hscript h.unlimited,
    htransactions.trans h.transactions, hcommands.trans h.commands, hpolls.trans h.emptyPolls⟩

/-- The run: a radio that was told harmless things only is fresh. -/
theorem Fresh.prepared (idleStatus filler : UInt8) {scripts : List RadioScript}
    (hscripts : ∀ script ∈ scripts, script.harmless = true) :
    (Radio.prepared idleStatus filler scripts).Fresh := by
  have hblank : Fresh { idleStatus, filler } := ⟨rfl, rfl, rfl, rfl, rfl⟩
  unfold Radio.prepared
  generalize ({ idleStatus, filler } : Radio) = radio at hblank
  induction scripts generalizing radio with
  | nil => exact hblank
  | cons script scripts ih =>
    obtain ⟨hscript, hscripts⟩ := List.forall_mem_cons.1 hscripts
    exact ih hscripts _ (hblank.apply hscript)

end Radio

namespace Transport

/-- The first byte of a transfer is not zero if there is a command, unless that command has no
length. -/
theorem blank_add (t : Transport σ max depth) :
    (if t.host.outbound.length = 0 then 0 else 1) + t.blank = t.commands.peek?.toList.length ∧
      (if t.host.outbound.length = 0 then 1 else 0) = (if t.commands.peek?.isSome then 0 else 1) +
        t.blank := by
  rw [Host.outbound, host_commands, blank]
  cases t.commands.peek? with
  | none => exact ⟨rfl, rfl⟩
  | some frame =>
    by_cases hzero : frame.length = 0
    · simp [hzero]
    · simp [hzero]

/-- The transport and its radio agree on what they have counted, apart from some commands without a
length; and the next transfer is going to be a whole transaction. -/
structure Agrees (blanks : Nat) (t : Transport Radio max depth) : Prop where
  healthy : t.faulted = false
  closed : t.link.transaction = none
  unlimited : t.link.budget = none
  level : t.link.request = t.requestAsserted
  transfers : t.stats.transfers = t.link.transactions
  commands : t.stats.commandsSent = t.link.commands.length + blanks
  polls : t.link.emptyPolls = t.stats.emptyPolls + blanks

namespace Agrees

variable {n : Nat} {t : Transport Radio max depth}

/-- Bringing REQUEST to its level cannot fail, and keeps the agreement. -/
theorem rested (h : Agrees n t) : t.syncRequest = (.ok (), t.rested) ∧ Agrees n t.rested :=
  ⟨syncRequest_eq_rested h.closed h.level,
    ⟨h.healthy, h.closed, h.unlimited, rfl, h.transfers, h.commands, h.polls⟩⟩

/-- The same of what `syncRequest` leaves behind. -/
theorem syncRequest (h : Agrees n t) : Agrees n t.syncRequest.2 := by
  rw [h.rested.1]
  exact h.rested.2

/-- The transport counts a command that it has taken out of its queue, the radio one whose first
byte is not zero. -/
theorem runTransfer (h : Agrees n t) (hroom : t.events.isFull = false) :
    Agrees (n + t.blank) t.runTransfer.2 := by
  let bytes := t.host.outbound.wire (Transfer.windowOf t.host.outbound t.link + 2)
  have hfirst : bytes.getD 0 0 = t.host.outbound.length := t.host.outbound.first_wire _
  obtain ⟨hrun, hserves⟩ := Transfer.run_transferred t.host.outbound h.closed h.unlimited
  have hkept := (Radio.transferred_of_bytes h.closed bytes).commands
  obtain ⟨-, htransactions, hpolls, -⟩ := t.link.transferred_counts (t.host.outbound.wire_ne_nil _)
  rw [hfirst] at hpolls
  rw [Radio.entry, hfirst] at hkept
  obtain ⟨hlength, hzero⟩ := t.blank_add
  obtain ⟨t₁, hlink, haccepts, hrun'⟩ := runTransfer_of_ok hrun hroom
  have hstats : t₁.stats = _ := haccepts.stats
  rw [t.host.counted_stats] at hstats
  rw [hrun', Reply.snd_map]
  refine syncRequest ?_
  constructor
  case healthy => exact haccepts.frame.1.trans h.healthy
  case closed => rw [hlink, hserves.transaction]
  case unlimited => rw [hlink, hserves.budget]
  case level =>
    have hasserted : t₁.requestAsserted = false := haccepts.frame.2.1
    rw [hlink, hserves.request, hasserted]
  case transfers =>
    rw [hstats, hlink, htransactions]
    exact congrArg Nat.succ h.transfers
  case commands =>
    have hrecorded : t₁.link.commands.length =
        t.link.commands.length + if t.host.outbound.length = 0 then 0 else 1 := by
      rw [hlink, hkept, List.length_append]
      split <;> rfl
    have hsent : t₁.stats.commandsSent = t.stats.commandsSent + t.commands.peek?.toList.length := by
      rw [hstats]
      rfl
    have hcommands := h.commands
    omega
  case polls =>
    have hpolled : t₁.stats.emptyPolls = t.stats.emptyPolls + if t.commands.peek?.isSome
        then 0 else 1 := by
      rw [hstats]
      rfl
    have hempty : t₁.link.emptyPolls = t.link.emptyPolls + if t.host.outbound.length =
        0 then 1 else 0 := by
      rw [hlink, hpolls]
    have hcounted := h.polls
    omega

/-! ## Operations -/

/-- Sampling READY leaves the radio as it is. -/
theorem cycle (h : Agrees n t) (hroom : t.events.isFull = false) :
    Agrees (n + if t.transfer?.isSome then t.blank else 0) t.cycle.2 := by
  cases hlevel : t.link.ready with
  | false =>
    have hready : Link.readReady t.link = (.ok false, t.link) :=
      Prod.ext (congrArg Except.ok hlevel) rfl
    rw [cycle_of_unready hroom hready, transfer?_of_unready hready nofun, Reply.snd_map]
    exact h.syncRequest
  | true =>
    have hready : Link.readReady t.link = (.ok true, t.link) :=
      Prod.ext (congrArg Except.ok hlevel) rfl
    rw [cycle_of_ready hroom hready, transfer?_of_ready hroom hready]
    exact h.runTransfer hroom

/-- A cycle that finds the event queue full keeps the agreement. -/
theorem stall (h : Agrees n t) (hfull : t.events.isFull = true) : Agrees n t.cycle.2 := by
  have hstalled : Agrees n t.countStall :=
    ⟨h.healthy, h.closed, h.unlimited, h.level, h.transfers, h.commands, h.polls⟩
  rw [cycle_of_full hfull, Reply.snd_map]
  exact hstalled.syncRequest

/-- A poll or an edge adds the command without a length that its transfer was handed, if any. -/
theorem drive (h : Agrees n t) :
    Agrees (n + if t.transfer?.isSome then t.blank else 0) t.cycle.2 := by
  cases hfull : t.events.isFull with
  | true =>
    rw [transfer?_of_full hfull]
    exact h.stall hfull
  | false => exact h.cycle hfull

/-- So does the cycle ahead of a receive. -/
theorem refill (h : Agrees n t) :
    Agrees (n + if t.transfer?.isSome then t.blank else 0) t.refill.2 := by
  cases hfull : t.events.isFull with
  | true =>
    rw [refill_of_full hfull, transfer?_of_full hfull]
    exact h
  | false =>
    rw [refill_of_room hfull, Reply.snd_map]
    exact h.cycle hfull

/-- So does a receive: taking the event out of its queue counts nothing. -/
theorem tryReceive (h : Agrees n t) :
    Agrees (n + if t.transfer?.isSome then t.blank else 0) t.tryReceive.2 := by
  have hrefill := h.refill
  rcases hrun : t.refill with ⟨e | ⟨⟩, t₁⟩
  · rw [hrun] at hrefill
    rw [tryReceive_of_error h.healthy hrun]
    exact hrefill
  · rw [hrun] at hrefill
    cases hhead : t₁.events.peek? with
    | none =>
      rw [tryReceive_of_none h.healthy hrun hhead]
      exact hrefill
    | some event =>
      rw [tryReceive_of_some h.healthy hrun hhead, Reply.snd_map]
      exact syncRequest ⟨hrefill.healthy, hrefill.closed, hrefill.unlimited, hrefill.level,
        hrefill.transfers, hrefill.commands, hrefill.polls⟩

/-- A send runs no transfer, and counts nothing. -/
theorem send (h : Agrees n t) (frame : Frame max) : Agrees n (t.send frame).2 := by
  cases hfits : frame.fits with
  | false =>
    rw [send_of_overlong h.healthy hfits]
    exact h
  | true =>
    cases hroom : t.commands.enqueue frame with
    | error back =>
      rw [send_of_crowded h.healthy hfits hroom]
      exact h
    | ok commands =>
      rw [send_of_room h.healthy hfits hroom]
      exact syncRequest ⟨h.healthy, h.closed, h.unlimited, h.level, h.transfers,
        h.commands, h.polls⟩

/-- Driving REQUEST outside a transaction cannot fail, and closes none. -/
theorem driveRequest (h : Agrees n t) (level : Bool) :
    ∃ t', t.driveRequest level = (.ok (), t') ∧ Agrees n t' := by
  by_cases hlevel : t.requestAsserted = level
  · exact ⟨t, by simp only [Transport.driveRequest, if_pos hlevel], h⟩
  · have hset : Link.setRequest level t.link = (.ok (), t.link.withRequest level) :=
      Prod.ext rfl (Radio.setRequest_of_closed h.closed level)
    refine ⟨{ t with link := t.link.withRequest level, requestAsserted := level }, ?_, ?_⟩
    · simp only [Transport.driveRequest, if_neg hlevel, hset]
    · exact ⟨h.healthy, h.closed, h.unlimited, rfl, h.transfers, h.commands, h.polls⟩

/-- A flush counts nothing. -/
theorem flush (h : Agrees n t) : Agrees n t.flush.2 := by
  have hemptied : Agrees n ({ t with commands := .empty, events := .empty, faulted := false } :
      Transport Radio max depth) :=
    ⟨rfl, h.closed, h.unlimited, h.level, h.transfers, h.commands, h.polls⟩
  obtain ⟨t', hrun, h'⟩ := hemptied.driveRequest false
  simp only [Transport.flush, hrun]
  exact ⟨h'.healthy, h'.closed, h'.unlimited, h'.level, h'.transfers, h'.commands, h'.polls⟩

/-- The step: each operation adds the commands without a length that its transfer was handed. -/
theorem op (h : Agrees n t) (op : Op max) : Agrees (n + t.blankIn (.op op)) (op.run t).2 := by
  cases op with
  | send frame =>
    rw [Op.run, Reply.snd_map]
    exact h.send frame
  | tryReceive =>
    rw [blankIn, Op.transfer?_of_healthy h.healthy rfl, Op.run, Reply.snd_map]
    exact h.tryReceive
  | poll | readyEdge =>
    rw [blankIn, Op.transfer?_of_healthy h.healthy rfl, Op.run_of_drive h.healthy (by simp),
      Reply.snd_map]
    exact h.drive
  | isPeerReady =>
    rw [Op.run, Reply.snd_map]
    exact h
  | flush =>
    rw [Op.run, Reply.snd_map]
    exact h.flush

/-- The step of a run, over operations and over what the radio is told. -/
theorem enact (h : Agrees n t) {act : Act max} (hact : act.harmless = true) :
    Agrees (n + t.blankIn act) (t.enact act) := by
  cases act with
  | op op => exact h.op op
  | script told =>
    obtain ⟨hclosed, hrequest, htransactions, hcommands, hpolls⟩ := told.apply_counters t.link
    constructor
    case healthy => exact h.healthy
    case closed => exact hclosed.trans h.closed
    case unlimited => exact RadioScript.budget_apply hact h.unlimited
    case level => exact hrequest.trans h.level
    case transfers => exact h.transfers.trans htransactions.symm
    case commands =>
      show t.stats.commandsSent = (told.apply t.link).commands.length + n
      rw [hcommands]
      exact h.commands
    case polls =>
      show (told.apply t.link).emptyPolls = t.stats.emptyPolls + n
      rw [hpolls]
      exact h.polls

/-- The run, by induction over its acts. -/
theorem enactAll (h : Agrees n t) {acts : List (Act max)}
    (hacts : ∀ act ∈ acts, act.harmless = true) :
    Agrees (n + blanks acts t) (t.enactAll acts) := by
  induction acts generalizing n t with
  | nil => exact h
  | cons act acts ih =>
    obtain ⟨hact, hacts⟩ := List.forall_mem_cons.1 hacts
    have hnext := ih (h.enact hact) hacts
    rw [Nat.add_assoc] at hnext
    exact hnext

end Agrees

/-- A transport is brought up with its counters at zero, and the radio does not count either. -/
theorem init_agrees {radio : Radio} (h : radio.Fresh) (config : TransportConfig) :
    ∃ t : Transport Radio max depth, init radio config = .ok t ∧ Agrees 0 t := by
  have hup {radio' : Radio} (h' : radio'.Fresh) :
      Agrees 0 ({ link := radio'.setRequest false, config } : Transport Radio max depth) := by
    rw [Radio.setRequest_of_closed h'.closed]
    exact ⟨rfl, h'.closed, h'.unlimited, rfl, h'.transactions.symm,
      (congrArg List.length h'.commands).symm, h'.emptyPolls⟩
  cases hreset : config.resetOnInit with
  | false =>
    refine ⟨_, ?_, hup h⟩
    simp only [init, hreset, Bool.false_eq_true, if_false]
    rfl
  | true =>
    refine ⟨_, ?_, hup h.reset⟩
    simp only [init, hreset, if_true]
    rfl

end Transport

/-! ## Commands with a length -/

namespace Host

variable {t t' : Host max depth} {calls : List Call}

/-- A transfer takes commands out of the queue and puts none in. -/
theorem Transfers.commands_subset {answer : Except TransportError Cycle}
    (h : Transfers t calls answer t') :
    t'.commands.toList ⊆ t.commands.toList := by
  cases h with
  | aborted _ hsyncs =>
    rw [hsyncs.queues.1]
    exact fun _ hframe => List.mem_of_mem_tail hframe
  | completed _ haccepts hsyncs =>
    rw [hsyncs.queues.1, haccepts.events.1]
    exact fun _ hframe => List.mem_of_mem_tail hframe

/-- Neither does a cycle put any in. -/
theorem Cycles.commands_subset {answer : Except TransportError Cycle}
    (h : Cycles t calls answer t') :
    t'.commands.toList ⊆ t.commands.toList := by
  cases h with
  | unsampled => exact List.Subset.refl _
  | stalled _ hsyncs | waited _ hsyncs =>
    rw [hsyncs.queues.1]
    exact List.Subset.refl _
  | transferred _ htransfers => exact htransfers.commands_subset

/-- Nor the cycle ahead of a receive. -/
theorem Refills.commands_subset (h : Refills t calls t') :
    t'.commands.toList ⊆ t.commands.toList := by
  cases h with
  | skipped => exact List.Subset.refl _
  | cycled _ hcycles => exact hcycles.commands_subset

/-- A command that is queued behind an operation was queued before it, or is the one that the
operation sends. -/
theorem Performs.sent_of_mem {op : Transport.Op max}
    {answer : Except TransportError (Transport.Answer max)}
    (h : Performs t op calls answer t') {frame : Frame max} (hframe : frame ∈ t'.commands.toList) :
    frame ∈ t.commands.toList ∨ op = .send frame := by
  cases h with
  | refused | overlong | crowded | sampled => exact .inl hframe
  | queued _ _ hqueued hsyncs =>
    rw [hsyncs.queues.1, (Queue.enqueue_eq_ok_iff.1 hqueued).2] at hframe
    rcases List.mem_append.1 hframe with hframe | hframe
    · exact .inl hframe
    · exact .inr (congrArg Transport.Op.send (List.mem_singleton.1 hframe).symm)
  | cycled _ _ hcycles | unrefilled _ _ hcycles => exact .inl (hcycles.commands_subset hframe)
  | missed _ hrefills => exact .inl (hrefills.commands_subset hframe)
  | taken _ hrefills _ hsyncs =>
    rw [hsyncs.queues.1] at hframe
    exact .inl (hrefills.commands_subset hframe)
  | flushed hdrives | unflushed hdrives =>
    obtain ⟨asserted, rfl⟩ := hdrives.frame
    cases hframe

end Host

namespace Transport

variable {t : Transport Radio max depth}

/-- As long as the commands that are queued have a length, none without one is handed over. -/
theorem blank_of_lengths (h : ∀ frame ∈ t.commands.toList, frame.length ≠ 0) : t.blank = 0 := by
  rw [blank, List.countP_eq_zero]
  intro frame hframe hzero
  exact h frame (List.mem_of_head? (Option.mem_toList.1 hframe)) (beq_iff_eq.1 hzero)

/-- Where every command has a length no transfer is handed one without. -/
theorem blanks_of_lengths {acts : List (Act max)}
    (hqueued : ∀ frame ∈ t.commands.toList, frame.length ≠ 0)
    (hacts : ∀ frame, .op (.send frame) ∈ acts → frame.length ≠ 0) : blanks acts t = 0 := by
  induction acts generalizing t with
  | nil => rfl
  | cons act acts ih =>
    have hfirst : t.blankIn act = 0 := by
      cases act with
      | script => rfl
      | op op =>
        rw [blankIn, blank_of_lengths hqueued]
        exact ite_self 0
    have hnext : ∀ frame ∈ (t.enact act).commands.toList, frame.length ≠ 0 := by
      intro frame hframe
      cases act with
      | script => exact hqueued frame hframe
      | op op =>
        obtain ⟨calls, -, hperforms⟩ := op.run_performs t
        rcases hperforms.sent_of_mem hframe with hframe | rfl
        · exact hqueued frame hframe
        · exact hacts frame List.mem_cons_self
    rw [blanks, hfirst, ih hnext fun frame hframe => hacts frame (List.mem_cons_of_mem _ hframe)]

/-- **The counters of the transport and of its radio agree up to commands without a length.** A
transport is brought up over a radio that a test has prepared, and the radio is then only told of
events to deliver and of a level for READY. After any run, the transport has counted as many
transfers as the radio has closed transactions; it has counted as many commands as the radio has
recorded, and those of its transfers whose command had no length, which the radio has counted as
empty polls next to those of the transport. There are none of these as long as every frame that is
sent has a length. -/
theorem counters_agree (idleStatus filler : UInt8) {scripts : List RadioScript}
    (hscripts : ∀ script ∈ scripts, script.harmless = true) (config : TransportConfig) :
    ∃ t : Transport Radio max depth, init (.prepared idleStatus filler scripts) config = .ok t ∧
      ∀ acts : List (Act max), (∀ act ∈ acts, act.harmless = true) →
        let final := t.enactAll acts
        final.stats.transfers = final.link.transactions ∧
        final.stats.commandsSent = final.link.commands.length + blanks acts t ∧
        final.link.emptyPolls = final.stats.emptyPolls + blanks acts t ∧
        ((∀ frame, .op (.send frame) ∈ acts → frame.length ≠ 0) → blanks acts t = 0) := by
  obtain ⟨t, hinit, hagrees⟩ :=
    @init_agrees max depth _ (.prepared idleStatus filler hscripts) config
  refine ⟨t, hinit, fun acts hacts => ?_⟩
  have hfinal := hagrees.enactAll hacts
  rw [Nat.zero_add] at hfinal
  refine ⟨hfinal.transfers, hfinal.commands, hfinal.polls, blanks_of_lengths ?_⟩
  have hempty : t.commands = .empty := congrArg (·.commands) (init_eq_ok hinit).1
  rw [hempty]
  exact nofun

/-- With READY forced low for the first poll, a command is exchanged for an event in the second one,
and a third poll has nothing to send. -/
theorem counters_agree_over_three_polls :
    (∀ script ∈ [RadioScript.pushEvent (.ofPayload 1 [7]), .forceReady (some false)],
      script.harmless = true) ∧
    ∃ t : Transport Radio 2 2,
      init (.prepared 0 0 [.pushEvent (.ofPayload 1 [7]), .forceReady (some false)]) {} = .ok t ∧
      let final := t.enactAll [.op (.send ⟨0, 1, #v[8, 0]⟩), .op .poll,
        .script (.forceReady (some true)), .op .poll, .op .poll]
      final.link.transactions = 2 ∧ final.stats.transfers = 2 ∧
      final.stats.commandsSent = final.link.commands.length ∧
      final.link.emptyPolls = final.stats.emptyPolls := by
  have hscripts : ∀ script ∈ [RadioScript.pushEvent (.ofPayload 1 [7]), .forceReady (some false)],
      script.harmless = true := by decide
  obtain ⟨t, hinit, hagree⟩ := @counters_agree 2 2 0 0 _ hscripts {}
  obtain ⟨htransfers, hcommands, hpolls, hblanks⟩ :=
    hagree [.op (.send ⟨0, 1, #v[8, 0]⟩), .op .poll,
    .script (.forceReady (some true)), .op .poll, .op .poll] (by decide)
  have hnone := hblanks (by simp)
  rw [hnone] at hcommands hpolls
  have htransactions :
    (t.enactAll [.op (.send ⟨0, 1, #v[8, 0]⟩), .op .poll, .script (.forceReady (some true)),
      .op .poll, .op .poll]).link.transactions = 2 := by
    cases hinit
    rfl
  exact ⟨hscripts, t, hinit, htransactions, htransfers.trans htransactions, hcommands, hpolls⟩

/-- A command without a length is a command to the transport and an empty poll to the radio. -/
theorem counters_apart_after_empty_command :
    ∃ t : Transport Radio 31 4, init (.prepared 0 0 []) {} = .ok t ∧
      let final := t.enactAll [.op (.send .empty), .op .poll]
      final.stats.commandsSent = 1 ∧ final.link.commands = [] ∧
      final.stats.emptyPolls = 0 ∧ final.link.emptyPolls = 1 :=
  ⟨_, rfl, rfl, rfl, rfl, rfl⟩

end Transport

end RadioLink
