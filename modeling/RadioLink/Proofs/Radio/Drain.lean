import RadioLink.Proofs.Radio.Counters

/-!
# Receives carry the commands along

An application that only receives sends its commands all the same. A command that is queued has
REQUEST asserted if there is room for an event, REQUEST makes the radio ready unless READY is forced
low, and then a receive runs a transfer and takes an event out of the queue again, so there is room
behind it for the next one (`Transport.Poised.advance`). Where the event queue is full at first, one
receive without a transfer makes room.

So some number of receives known beforehand sends all commands, whatever events come and however
little room there is (`Transport.receives_drain_commands`). A transport gets into such a state by
any run over a radio whose exchanges do not fail (`Transport.Poised.enactAll`).
-/

namespace RadioLink

variable {max depth : Nat}

namespace Transport

variable {n : Nat} {t : Transport Radio max depth}

/-! ## Between operations -/

/-- A harmless act leaves the transport where the next operation may come. -/
theorem Poised.enact (h : t.Poised) (hagrees : Agrees n t) {act : Act max}
    (hact : act.harmless = true) :
    (t.enact act).Poised := by
  have hnext := hagrees.enact hact
  cases act with
  | script told => exact ⟨hnext.closed, hnext.unlimited, h.settled, hnext.level, h.fitting⟩
  | op op =>
    obtain ⟨calls, htrace, hperforms⟩ := op.run_performs t
    have hcalls : RequestsSucceed calls := (htrace.unlimited h.unlimited).1
    obtain ⟨result, hbalances⟩ := hperforms.balances hcalls
    exact ⟨hnext.closed, hnext.unlimited, (hperforms.settles hcalls h.settled).1, hnext.level,
      hbalances.queued_fit h.fitting⟩

/-- A run without harm leaves a transport poised, as long as its books agree with those of the
radio. -/
theorem Poised.enactAll (h : t.Poised) (hagrees : Agrees n t) {acts : List (Act max)}
    (hacts : ∀ act ∈ acts, act.harmless = true) : (t.enactAll acts).Poised := by
  induction acts generalizing n t with
  | nil => exact h
  | cons act acts ih =>
    obtain ⟨hact, hacts⟩ := List.forall_mem_cons.1 hacts
    exact ih (h.enact hagrees hact) (hagrees.enact hact) hacts

/-! ## One receive -/

/-- With a command queued and room for an event, the radio is ready unless READY is forced low. -/
theorem Poised.ready (h : t.Poised) (hroom : t.events.isFull = false)
    (hqueued : t.commands.isEmpty = false)
    (hforced : t.link.forcedReady ≠ some false) : t.link.ready = true := by
  have hrequest : t.link.request = true := by rw [h.wantsRequest_iff hroom, hqueued, Bool.not_false]
  rw [Radio.ready, hrequest]
  rcases hlevel : t.link.forcedReady with _ | _ | _
  · rfl
  · exact absurd hlevel hforced
  · rfl

/-- What a receive answers if it succeeds. -/
def Received (answer : Except TransportError (Answer max)) : Prop :=
  ∃ event, answer = .ok (.event event)

/-- The transport has been left with some of its commands, and with room for an event if there are
any. The radio has been handed what was sent. -/
structure Advances (t : Transport Radio max depth) (sent left : List (Frame max))
    (t' : Transport Radio max depth) :
    Prop where
  poised : t'.Poised
  forced : t'.link.forcedReady = t.link.forcedReady
  commands : t'.commands.toList = left
  room : left ≠ [] → t'.events.isFull = false
  recorded : t'.link.commands = t.link.commands ++ payloads sent

/-- A receive advances the transport as far as its refill does, and makes room for an event. -/
theorem Poised.advance_behind (h : t.Poised) {t₁ : Transport Radio max depth}
    (hrefill : t.refill = (.ok (), t₁))
    (h₁ : t₁.Poised) (hforced : t₁.link.forcedReady = t.link.forcedReady)
    {sent left : List (Frame max)} (hleft : t₁.commands.toList = left)
    (hrecorded : t₁.link.commands = t.link.commands ++ payloads sent) :
    Received (Op.tryReceive.run t).1 ∧ Advances t sent left (Op.tryReceive.run t).2 := by
  obtain ⟨t', hreceive, h', hforced', hstock⟩ := h₁.receive h.healthy hrefill
  have hanswer : Op.tryReceive.run t = (.ok (.event t₁.stock.events.head?), t') := by
    rw [Op.run, hreceive]
    rfl
  have hcommands : t'.commands.toList = t₁.commands.toList := congrArg Stock.commands hstock
  have hevents : t'.events.toList = t₁.events.toList.tail := congrArg Stock.events hstock
  have hdelivered : t'.link.commands = t₁.link.commands := congrArg Stock.delivered hstock
  have hroom (hqueued : left ≠ []) : t'.events.isFull = false := by
    -- a command is queued, so the queues have room for one frame at least
    have hdepth : t₁.commands.toList.length ≤ depth := t₁.commands.length_le
    have hpos : 0 < left.length := List.length_pos_of_ne_nil hqueued
    have hle := t₁.events.length_le
    rw [hleft] at hdepth
    rw [Queue.isFull_eq_false_iff, Queue.size, hevents, List.length_tail]
    omega
  rw [hanswer]
  exact ⟨⟨_, rfl⟩, h', hforced'.trans hforced, hcommands.trans hleft, hroom,
    hdelivered.trans hrecorded⟩

/-- With room for an event, a receive sends the oldest command. -/
theorem Poised.advance (h : t.Poised) (hforced : t.link.forcedReady ≠ some false)
    (hroom : t.events.isFull = false)
    {frame : Frame max} {left : List (Frame max)} (hqueued : t.commands.toList = frame :: left) :
    Received (Op.tryReceive.run t).1 ∧ Advances t [frame] left (Op.tryReceive.run t).2 := by
  have hnonempty : t.commands.isEmpty = false := by rw [Queue.isEmpty, hqueued, List.isEmpty_cons]
  have hready := h.ready hroom hnonempty hforced
  have hsample : Link.readReady t.link = (.ok true, t.link) :=
    Prod.ext (congrArg Except.ok hready) rfl
  obtain ⟨what, t₁, hrun, h₁, hforced₁, hexchanges⟩ := h.runTransfer hroom
  have hrefill : t.refill = (.ok (), t₁) := by
    rw [refill_of_room hroom, cycle_of_ready hroom hsample]
    exact congrArg (Reply.map fun _ => ()) hrun
  have hcommands : t.stock.commands = frame :: left := hqueued
  refine h.advance_behind hrefill h₁ hforced₁ ?left ?recorded
  case left =>
    show t₁.stock.commands = left
    rw [hexchanges.commands, hcommands, List.tail_cons]
  case recorded =>
    show t₁.stock.delivered = t.stock.delivered ++ payloads [frame]
    rw [hexchanges.delivered, hcommands]
    rfl

/-- With a full event queue, a receive takes an event and sends nothing. -/
theorem Poised.advance_of_full (h : t.Poised) (hfull : t.events.isFull = true) :
    Received (Op.tryReceive.run t).1 ∧ Advances t [] t.commands.toList (Op.tryReceive.run t).2 :=
  h.advance_behind (refill_of_full hfull) h rfl rfl (List.append_nil _).symm

/-! ## Several receives -/

/-- As many receives as there are commands send all of them, if there is room for an event. -/
theorem Poised.drain (h : t.Poised) (hforced : t.link.forcedReady ≠ some false)
    {queued : List (Frame max)}
    (hqueued : t.commands.toList = queued) (hroom : queued ≠ [] → t.events.isFull = false) :
    let run := runAll (List.replicate queued.length .tryReceive) t
    (∀ answer ∈ run.1, Received answer) ∧ run.2.commands.toList = [] ∧
      run.2.link.commands = t.link.commands ++ payloads queued := by
  induction queued generalizing t with
  | nil => exact ⟨nofun, hqueued, (List.append_nil _).symm⟩
  | cons frame left ih =>
    obtain ⟨hanswer, hfirst⟩ := h.advance hforced (hroom (List.cons_ne_nil _ _)) hqueued
    obtain ⟨hanswers, hempty, hrecorded⟩ :=
      ih hfirst.poised (hfirst.forced ▸ hforced) hfirst.commands hfirst.room
    refine ⟨List.forall_mem_cons.2 ⟨hanswer, hanswers⟩, hempty, ?_⟩
    show (runAll (List.replicate left.length .tryReceive) (Op.tryReceive.run t).2).2.link.commands =
      _
    rw [hrecorded, hfirst.recorded, List.append_assoc, payloads, payloads, ← List.map_append,
      ← List.filter_append]
    rfl

/-- A transport that is brought up over a fresh radio has empty queues, and the next operation may
come. -/
theorem init_poised {radio : Radio} {config : TransportConfig} (hinit : init radio config = .ok t)
    (hagrees : Agrees n t) : t.Poised := by
  obtain ⟨hhost, -⟩ := init_eq_ok hinit
  have hsettled : t.host.Settled := by
    rw [hhost]
    exact ⟨rfl, rfl, rfl⟩
  have hcommands : t.commands = .empty := congrArg (·.commands) hhost
  refine ⟨hagrees.closed, hagrees.unlimited, hsettled, hagrees.level, ?_⟩
  rw [hcommands]
  exact nofun

/-- **Receives send the commands.** A transport is brought up over a radio that a test has prepared,
and the radio is then only told of events to deliver and of a level for READY. After any run that
does not leave READY forced low, as many receives as there are commands, and one more if the event
queue is full, all succeed and leave no command behind, and the radio has recorded those of the
commands that have a length, in their order, behind what it had recorded before. How many events
there are on either side makes no difference, nor how many frames the queues have room for. -/
theorem receives_drain_commands (idleStatus filler : UInt8) {scripts : List RadioScript}
    (hscripts : ∀ script ∈ scripts, script.harmless = true) (config : TransportConfig) :
    ∃ t : Transport Radio max depth, init (.prepared idleStatus filler scripts) config = .ok t ∧
      ∀ acts : List (Act max), (∀ act ∈ acts, act.harmless = true) →
        let start := t.enactAll acts
        start.link.forcedReady ≠ some false →
        let receives := start.commands.size + if start.events.isFull then 1 else 0
        let run := runAll (List.replicate receives .tryReceive) start
        (∀ answer ∈ run.1, Received answer) ∧ run.2.commands.toList = [] ∧
        run.2.link.commands = start.link.commands ++ payloads start.commands.toList := by
  obtain ⟨t, hinit, hagrees⟩ :=
    @init_agrees max depth _ (.prepared idleStatus filler hscripts) config
  refine ⟨t, hinit, ?_⟩
  intro acts hacts start hforced receives run
  have hstart : start.Poised := (init_poised hinit hagrees).enactAll hagrees hacts
  cases hfull : start.events.isFull with
  | false =>
    have hreceives : receives = start.commands.toList.length := by
      simp only [receives, hfull, Bool.false_eq_true, if_false]
      rfl
    have hdrain := hstart.drain hforced rfl fun _ => hfull
    rw [← hreceives] at hdrain
    exact hdrain
  | true =>
    have hreceives : receives = start.commands.toList.length + 1 := by
      simp only [receives, hfull, if_true]
      rfl
    obtain ⟨hanswer, hfirst⟩ := hstart.advance_of_full hfull
    obtain ⟨hanswers, hempty, hrecorded⟩ :=
      hfirst.poised.drain (hfirst.forced ▸ hforced) hfirst.commands hfirst.room
    have hnothing : (Op.tryReceive.run start).2.link.commands = start.link.commands := by
      rw [hfirst.recorded]
      exact List.append_nil _
    rw [hnothing] at hrecorded
    simp only [run, hreceives]
    exact ⟨List.forall_mem_cons.2 ⟨hanswer, hanswers⟩, hempty, hrecorded⟩

/-- Two commands are queued behind a full event queue, one of them without a length, and another
event is pending: three receives send both, and the radio has recorded one. -/
theorem receives_drain_commands_of_full :
    (∀ script ∈ List.replicate 3 (RadioScript.pushEvent (.ofPayload 1 [7])),
      script.harmless = true) ∧
    ∃ t : Transport Radio 2 2,
      init (.prepared 0 0 (List.replicate 3 (.pushEvent (.ofPayload 1 [7])))) {} = .ok t ∧
      let start := t.enactAll [.op .poll, .op .poll, .op (.send ⟨0, 1, #v[8, 0]⟩),
        .op (.send .empty), .script (.forceReady (some true))]
      start.link.forcedReady = some true ∧ start.events.isFull = true ∧
      start.commands.toList = [⟨0, 1, #v[8, 0]⟩, .empty] ∧ start.link.events = [.ofPayload 1 [7]] ∧
      let run := runAll (List.replicate 3 .tryReceive) start
      (∀ answer ∈ run.1, Received answer) ∧ run.2.commands.toList = [] ∧
        run.2.link.commands = [[8]] := by
  have hscripts : ∀ script ∈ List.replicate 3 (RadioScript.pushEvent (.ofPayload 1 [7])),
      script.harmless = true := by
    decide
  have hinit : init (.prepared 0 0 (List.replicate 3 (.pushEvent (.ofPayload 1 [7])))) {} =
      (.ok _ : Except _ (Transport Radio 2 2)) := rfl
  obtain ⟨t, hinit', hdrain⟩ := @receives_drain_commands 2 2 0 0 _ hscripts {}
  obtain rfl := Except.ok.inj (hinit.symm.trans hinit')
  refine ⟨hscripts, _, hinit, ?_⟩
  intro start
  have hforced : start.link.forcedReady = some true := rfl
  have hfull : start.events.isFull = true := rfl
  have hcommands : start.commands.toList = [⟨0, 1, #v[8, 0]⟩, .empty] := rfl
  have hnone : start.link.commands = [] := rfl
  have hunforced : start.link.forcedReady ≠ some false := by
    rw [hforced]
    decide
  obtain ⟨hanswers, hempty, hrecorded⟩ := hdrain _ (by decide) hunforced
  rw [Queue.size, hfull, hcommands] at hanswers hempty hrecorded
  rw [hnone] at hrecorded
  exact ⟨hforced, hfull, hcommands, rfl, hanswers, hempty, hrecorded⟩

end Transport

end RadioLink
