import Mathlib.Data.List.Forall2
import RadioLink.Proofs.Radio.Cycle
import RadioLink.Simulation.Basic

/-!
# Simulations make progress

`Follows` is the invariant of a simulation: every command of the plan has been sent, is queued or
still waits, in this order, and every event has been taken, is queued or is still with the radio. It
is stated on where the frames are (`Stock`), so that each part of a cycle, sending, driving and
receiving, keeps it for the reason that it moves frames on.

A cycle takes one command and one event further, whichever driver runs it
(`Progress.cycle_passes`): a driven cycle has room for an event, since the queue is never full when
a cycle of the simulation begins, and at rest the radio is ready as long as there is something to
exchange. So the larger of the two numbers bounds the cycles that are needed, and one more is enough
to see that nothing is left.
-/

namespace RadioLink.Simulation

variable {plan : Plan}

/-! ## The frames of a plan -/

/-- The frames of a plan are where a simulation has brought them: some commands have been sent, the
queued ones and those that wait are what is left of them; some events have been read off the radio,
which the frames received and those queued carry, and the radio has the rest. -/
structure Follows (plan : Plan) (waiting received : List StandardFrame)
    (s : Stock Frame.defaultCapacity) : Prop where
  commands : ∃ sent, plan.commands = sent ++ s.commands ++ waiting ∧ sent.length = s.sent ∧
    s.delivered = payloads sent
  events : ∃ read, plan.radio.events = read ++ s.pending ∧
    List.Forall₂ (RadioEvent.Carried plan.radio.filler) (read.filter (·.length != 0))
      (received ++ s.events)
  filler : s.filler = plan.radio.filler

namespace Follows

variable {waiting received : List StandardFrame} {s s' : Stock Frame.defaultCapacity}

/-- Accepting commands moves the first ones that wait to the queue. -/
theorem send {accepted : List StandardFrame} (h : Follows plan (accepted ++ waiting) received s) :
    Follows plan waiting received { s with commands := s.commands ++ accepted } := by
  obtain ⟨sent, hplan, hsent, hdelivered⟩ := h.commands
  refine ⟨⟨sent, ?_, hsent, hdelivered⟩, h.events, h.filler⟩
  rw [hplan]
  simp only [List.append_assoc]

/-- An exchange takes the oldest command to the radio and the oldest event off it. -/
theorem exchange (h : Follows plan waiting received s) (hexchange : s.Exchanges s') :
    Follows plan waiting received s' := by
  obtain ⟨sent, hplan, hsent, hdelivered⟩ := h.commands
  obtain ⟨read, hradio, hcarried⟩ := h.events
  obtain ⟨gained, hgained, hcarried'⟩ := hexchange.events
  constructor
  case commands =>
    refine ⟨sent ++ s.commands.head?.toList, ?_, ?_, ?_⟩
    · rw [hplan, hexchange.commands]
      cases s.commands <;> simp
    · rw [List.length_append, hsent, hexchange.sent]
    · rw [hexchange.delivered, hdelivered]
      simp [payloads]
  case events =>
    refine ⟨read ++ s.pending.head?.toList, ?_, ?_⟩
    · rw [hradio, hexchange.pending]
      cases s.pending <;> simp
    · rw [List.filter_append, hgained, ← List.append_assoc]
      exact List.rel_append hcarried (h.filler ▸ hcarried')
  case filler => rw [hexchange.filler, h.filler]

/-- A cycle follows the plan, whether there is room for an exchange or not. -/
theorem turn (h : Follows plan waiting received s) {depth : Nat} (hturns : s.Turns depth s') :
    Follows plan waiting received s' := by
  rw [Stock.Turns] at hturns
  split at hturns
  · rw [hturns]
    exact h
  · exact h.exchange hturns

/-- So do one cycle or two. -/
theorem run (h : Follows plan waiting received s) {depth : Nat} (hruns : s.Runs depth s') :
    Follows plan waiting received s' := by
  obtain ⟨s₁, rfl | hfirst, hturns⟩ := hruns
  · exact h.turn hturns
  · exact (h.turn hfirst).turn hturns

/-- Taking an event moves it from the queue to those received. -/
theorem take (h : Follows plan waiting received s) :
    Follows plan waiting (received ++ s.events.head?.toList)
      { s with events := s.events.tail } := by
  obtain ⟨read, hradio, hcarried⟩ := h.events
  refine ⟨h.commands, ⟨read, hradio, ?_⟩, h.filler⟩
  cases hevents : s.events with
  | nil =>
    rw [hevents] at hcarried
    simpa using hcarried
  | cons event events =>
    rw [hevents] at hcarried
    simpa using hcarried

end Follows

/-! ## How far a cycle gets -/

namespace Progress

/-- The number of cycles that what is left takes: each takes one command and one event further. -/
def left (p : Progress) : Nat :=
  max p.undelivered (p.host.link.events.length + p.host.events.size)

/-- What holds of a simulation of a plan between two cycles. A cycle finds room for an event,
whatever drives the transport, since the one before has taken one. -/
structure Underway (plan : Plan) (p : Progress) : Prop where
  atRest : p.host.AtRest
  room : p.host.events.isFull = false
  fitting : ∀ frame ∈ p.waiting, frame.fits = true
  follows : Follows plan p.waiting p.received p.host.stock

/-- What a cycle comes to: it goes on only if there was something left to do, and is the last one
only if there is nothing left. -/
inductive Ends (p p' : Progress) : Verdict → Prop
  | goOn : p.left ≠ 0 → Ends p p' .goOn
  | finished : p'.left = 0 → Ends p p' .finished

variable {p : Progress} {host : Host}

/-- Commands are queued in order until the queue is full or none waits. -/
theorem sendAll_queues {frames : List StandardFrame}
    (hfitting : ∀ frame ∈ frames, frame.fits = true) (h : host.AtRest) :
    ∃ accepted waiting host', sendAll frames host = (.ok waiting, host') ∧
      frames = accepted ++ waiting ∧
      host'.AtRest ∧ host'.stock = { host.stock with commands := host.stock.commands ++ accepted } ∧
      (waiting = [] ∨ host'.commands.isFull = true) := by
  induction frames generalizing host with
  | nil => exact ⟨[], [], host, rfl, rfl, h, by simp, .inl rfl⟩
  | cons frame frames ih =>
    obtain ⟨hfits, hfitting⟩ := List.forall_mem_cons.1 hfitting
    rcases h.send hfits with ⟨hfull, hsend⟩ | ⟨host₁, hsend, h₁, hstock₁⟩
    · exact ⟨[], frame :: frames, host, by rw [sendAll, hsend]; rfl, rfl, h, by simp, .inr hfull⟩
    · obtain ⟨accepted, waiting, host', hrun, rfl, h', hstock, hend⟩ := ih hfitting h₁
      refine ⟨frame :: accepted, waiting, host', by rw [sendAll, hsend]; exact hrun, rfl,
        h', ?_, hend⟩
      rw [hstock, hstock₁]
      simp only [List.append_assoc, List.singleton_append]

theorem isPeerReady_eq (host : Host) : host.isPeerReady = (.ok host.link.ready, host) := rfl

/-- A driver runs a cycle or does nothing. -/
theorem drive_turns (driver : Driver) (h : host.AtRest) :
    ∃ host', drive driver host = (.ok (), host') ∧ host'.AtRest ∧
      (host'.stock = host.stock ∨ host.stock.Turns Queue.defaultDepth host'.stock) := by
  cases driver with
  | poll => exact ⟨host, rfl, h, .inl rfl⟩
  | edge =>
    show ∃ host', handleEdge host = _ ∧ _
    cases hready : host.link.ready with
    | false => exact ⟨host, by rw [handleEdge, isPeerReady_eq, hready], h, .inl rfl⟩
    | true =>
      obtain ⟨what, host', hrun, h', hturns⟩ := h.onReadyEdge
      exact ⟨host', by rw [handleEdge, isPeerReady_eq, hready]; simp only [hrun], h', .inr hturns⟩

/-- A simulation that took no event is finished exactly if nothing is left. -/
theorem rest_ends (h : p.host.AtRest) (hempty : p.host.events.toList = []) :
    ∃ verdict, rest p = (verdict, p) ∧ Ends p p verdict := by
  have hroom : p.host.events.isFull = false := by
    rw [Queue.isFull, hempty]
    rfl
  have hsize : p.host.events.size = 0 := congrArg List.length hempty
  by_cases hcommands : p.waiting = [] ∧ p.host.commands.toList = []
  · have hnone : (p.waiting.isEmpty && p.host.commands.isEmpty) = true := by
      simp [hcommands.1, Queue.isEmpty, hcommands.2]
    have hundelivered : p.undelivered = 0 := by
      rw [undelivered, hcommands.1, Queue.size, hcommands.2]
      rfl
    -- Without a command REQUEST is released, so READY tells whether the radio has an event.
    have hready : p.host.link.ready = !p.host.link.events.isEmpty := by
      rw [h.radio.ready, h.poised.wantsRequest_iff hroom, Queue.isEmpty, hcommands.2]
      rfl
    have hqueue : p.host.events.isEmpty = true := Queue.isEmpty_iff.2 hempty
    refine ⟨_, by rw [rest, if_pos hnone, isPeerReady_eq], ?_⟩
    rw [hready, hqueue, Bool.not_not, Bool.and_true]
    cases hpending : p.host.link.events with
    | nil =>
      have hnothing : p.left = 0 := by rw [left, hundelivered, hsize, hpending]; rfl
      exact .finished hnothing
    | cons event events =>
      have hsomething : p.left ≠ 0 := by rw [left, hundelivered, hsize, hpending]; simp
      exact .goOn hsomething
  · have hsome : ¬(p.waiting.isEmpty && p.host.commands.isEmpty) = true := by
      simpa [Queue.isEmpty] using hcommands
    have hundelivered : p.undelivered ≠ 0 := by
      rw [undelivered, Queue.size]
      simpa [not_and] using hcommands
    have hsomething : p.left ≠ 0 := by
      rw [left]
      omega
    exact ⟨.goOn, by rw [rest, if_neg hsome], .goOn hsomething⟩

/-- What a receive makes of a simulation: a cycle of the transport runs, which brings the frames
where `s` says, and then the oldest event is taken. -/
structure Takes (s : Stock Frame.defaultCapacity) (p p' : Progress) (verdict : Verdict) : Prop where
  atRest : p'.host.AtRest
  stock : p'.host.stock = { s with events := s.events.tail }
  received : p'.received = p.received ++ s.events.head?.toList
  waiting : p'.waiting = p.waiting
  cycles : p'.cycles = p.cycles
  ends : s.events ≠ [] ∧ verdict = .goOn ∨ s.events = [] ∧ Ends p' p' verdict

/-- A receive at rest cannot fail: a cycle runs, and the oldest event is taken. -/
theorem receive_takes (h : p.host.AtRest) :
    ∃ s verdict p', p.host.stock.Turns Queue.defaultDepth s ∧ receive p = (verdict, p') ∧
      Takes s p p' verdict := by
  obtain ⟨s, host', hturns, hrun, h', hstock⟩ := h.tryReceive
  cases hhead : s.events.head? with
  | some event =>
    have hsome : s.events ≠ [] := by
      rintro hnil
      simp [hnil] at hhead
    refine ⟨s, .goOn, { p with host := host', received := p.received ++ [event] }, hturns, ?_,
      h', hstock, ?_, rfl, rfl, .inl ⟨hsome, rfl⟩⟩
    · rw [receive, hrun, hhead]
    · rw [hhead]
      rfl
  | none =>
    have hnone : s.events = [] := List.head?_eq_none_iff.1 hhead
    have hempty : host'.events.toList = [] := by
      have hevents := congrArg Stock.events hstock
      rw [hnone] at hevents
      exact hevents
    obtain ⟨verdict, hrest, hends⟩ := rest_ends (p := { p with host := host' }) h' hempty
    refine ⟨s, verdict, { p with host := host' }, hturns, ?_, h', hstock, ?_, rfl, rfl,
      .inr ⟨hnone, hends⟩⟩
    · rw [receive, hrun, hhead]
      exact hrest
    · rw [hhead]
      exact (List.append_nil _).symm

/-- What a cycle makes of a simulation: some commands are accepted, and others still wait only if
the queue is full then; one cycle of the transport or two bring the frames to where `s` says; and
the oldest event is taken. -/
structure Passes (accepted waiting : List StandardFrame) (s : Stock Frame.defaultCapacity)
    (p p' : Progress) (verdict : Verdict) : Prop where
  sends : p.waiting = accepted ++ waiting
  fills : waiting = [] ∨ p.host.stock.commands.length + accepted.length = Queue.defaultDepth
  runs : { p.host.stock with commands := p.host.stock.commands ++ accepted }.Runs
    Queue.defaultDepth s
  takes : Takes s { p with cycles := p.cycles + 1, waiting } p' verdict

/-- A cycle of a simulation underway cannot fail, whatever drives it. -/
theorem cycle_passes (driver : Driver) (h : Underway plan p) :
    ∃ accepted waiting s verdict p', cycle driver p = (verdict, p') ∧
      Passes accepted waiting s p p' verdict := by
  obtain ⟨accepted, waiting, host₁, hsend, hwaiting, h₁, hstock₁, hqueued⟩ :=
    sendAll_queues h.fitting h.atRest
  obtain ⟨host₂, hdrive, h₂, hturns₂⟩ := drive_turns driver h₁
  obtain ⟨s, verdict, p', hturns, hreceive, htakes⟩ :=
    receive_takes (p := { p with cycles := p.cycles + 1, waiting, host := host₂ }) h₂
  have hrun : cycle driver p = (verdict, p') := by
    simp only [cycle, hsend, hdrive]
    exact hreceive
  have hruns : host₁.stock.Runs Queue.defaultDepth s := ⟨host₂.stock, hturns₂, hturns⟩
  have hfills : waiting = [] ∨ p.host.stock.commands.length + accepted.length =
      Queue.defaultDepth := by
    refine hqueued.imp_right fun hfull => ?_
    have hcommands : host₁.commands.toList = p.host.stock.commands ++ accepted :=
      congrArg Stock.commands hstock₁
    rw [← List.length_append, ← hcommands]
    exact Queue.isFull_iff.1 hfull
  have htakes' : Takes s { p with cycles := p.cycles + 1, waiting } p' verdict :=
    ⟨htakes.atRest, htakes.stock, htakes.received, htakes.waiting, htakes.cycles, htakes.ends⟩
  exact ⟨accepted, waiting, s, verdict, p', hrun, hwaiting, hfills, hstock₁ ▸ hruns, htakes'⟩

theorem left_eq (p : Progress) :
    p.left = max (p.waiting.length + p.host.stock.commands.length)
      (p.host.stock.pending.length + p.host.stock.events.length) := rfl

section

variable {accepted waiting : List StandardFrame} {s : Stock Frame.defaultCapacity} {p' : Progress}
  {verdict : Verdict}
  (hpasses : Passes accepted waiting s p p' verdict) (h : Underway plan p)
include hpasses h

/-- A cycle takes one command and one event further, if there are any, and keeps to the room. -/
theorem Passes.advances :
    s.commands.length ≤ p.host.stock.commands.length + accepted.length - 1 ∧
      s.pending.length ≤ p.host.stock.pending.length - 1 ∧ s.events.length ≤ Queue.defaultDepth ∧
      s.pending.length + s.events.length ≤
        p.host.stock.pending.length + p.host.stock.events.length := by
  rw [← List.length_append]
  exact hpasses.runs.advances (Queue.isFull_eq_false_iff.1 h.room)

/-- The step: a simulation that is underway stays so. -/
theorem Passes.underway : Underway plan p' := by
  obtain ⟨-, -, hevents, -⟩ := hpasses.advances h
  obtain ⟨hsends, -, hruns, htakes⟩ := hpasses
  constructor
  case atRest => exact htakes.atRest
  case room =>
    have hsize : p'.host.events.size = s.events.tail.length :=
      congrArg (·.events.length) htakes.stock
    have hdepth : 0 < Queue.defaultDepth := by decide
    refine Queue.isFull_eq_false_iff.2 ?_
    rw [hsize, List.length_tail]
    omega
  case fitting =>
    rw [htakes.waiting]
    exact fun frame hframe => h.fitting frame (hsends ▸ List.mem_append_right _ hframe)
  case follows =>
    have hsent := Follows.send (hsends ▸ h.follows)
    rw [htakes.waiting, htakes.received, htakes.stock]
    exact (hsent.run hruns).take

/-- What is left gets less. If a command has to wait, then the queue is full, and the command that
leaves the queue is one less to deliver. -/
theorem Passes.left_le : p'.left ≤ p.left - 1 := by
  obtain ⟨hcommands, hpending, -, hboth⟩ := hpasses.advances h
  obtain ⟨hsends, hfills, -, htakes⟩ := hpasses
  have hfills : waiting.length = 0 ∨ 0 < p.host.stock.commands.length + accepted.length := by
    rcases hfills with hnone | hfull
    · exact .inl (hnone ▸ rfl)
    · rw [hfull]
      exact .inr (by decide)
  have hleft' : p'.left =
      max (waiting.length + s.commands.length) (s.pending.length + (s.events.length - 1)) := by
    rw [left_eq, htakes.waiting, htakes.stock, List.length_tail]
  rw [hleft', left_eq, hsends, List.length_append]
  omega

/-- A cycle ends the simulation exactly where it leaves nothing to do. -/
theorem Passes.ends : Ends p p' verdict := by
  obtain ⟨-, -, -, hboth⟩ := hpasses.advances h
  have hleft := hpasses.left_le h
  rcases hpasses.takes.ends with ⟨hsome, rfl⟩ | ⟨-, hends⟩
  · have hlength : 0 < s.events.length := List.length_pos_iff.2 hsome
    have hsomething : p.left ≠ 0 := by
      rw [left_eq]
      omega
    exact .goOn hsomething
  · cases hends with
    | goOn hsomething => exact .goOn (by omega)
    | finished hnothing => exact .finished hnothing

end

/-- A cycle of a simulation does not fail, and takes the simulation one cycle further. -/
theorem cycle_underway (driver : Driver) (h : Underway plan p) :
    ∃ verdict p', cycle driver p = (verdict, p') ∧ Underway plan p' ∧ p'.cycles = p.cycles + 1 ∧
      p'.left ≤ p.left - 1 ∧ Ends p p' verdict := by
  obtain ⟨accepted, waiting, s, verdict, p', hrun, hpasses⟩ := cycle_passes driver h
  exact ⟨verdict, p', hrun, hpasses.underway h, hpasses.takes.cycles, hpasses.left_le h,
    hpasses.ends h⟩

/-- A simulation does not fail. It needs as many cycles as are left and one more to see that nothing
is left, and comes to its end if it has that many. -/
theorem loop_underway (driver : Driver) (cycles : Nat) (h : Underway plan p) :
    ∃ p', loop driver cycles p = (.ok (), p') ∧ Underway plan p' ∧
      p'.cycles ≤ p.cycles + p.left + 1 ∧
      (p.left ≤ cycles → p'.left = 0) := by
  induction cycles generalizing p with
  | zero => exact ⟨p, rfl, h, by omega, fun hle => by omega⟩
  | succ cycles ih =>
    obtain ⟨verdict, p₁, hcycle, h₁, hcount, hadvance, hends⟩ := cycle_underway driver h
    cases hends with
    | goOn hsomething =>
      -- There was something left, so the cycle that has been used up is one less that is needed.
      obtain ⟨p', hloop, h', hcount', hend⟩ := ih h₁
      exact ⟨p', by rw [loop, hcycle]; exact hloop, h', by omega, fun hle => hend (by omega)⟩
    | finished hnothing => exact ⟨p₁, by rw [loop, hcycle], h₁, by omega, fun _ => hnothing⟩

end Progress

/-- Over a healthy radio that has received nothing yet, a simulation of commands that fit does not
fail. -/
theorem Plan.run_underway (hradio : plan.radio.Healthy) (hfresh : plan.radio.commands = [])
    (hfitting : ∀ frame ∈ plan.commands, frame.fits = true) (driver : Driver) (maxCycles : Nat) :
    ∃ p, plan.run driver maxCycles = Progress.course (.ok (), p) ∧ p.Underway plan ∧
      p.cycles ≤ max plan.commands.length plan.radio.events.length + 1 ∧
      (max plan.commands.length plan.radio.events.length ≤ maxCycles → p.left = 0) := by
  obtain ⟨host, hinit, hrest, hstock⟩ : ∃ host : Host,
      Transport.init plan.radio plan.config = .ok host ∧ host.AtRest ∧
      host.stock = ⟨[], [], plan.radio.events, plan.radio.commands, 0, plan.radio.filler⟩ :=
    Transport.init_atRest hradio plan.config
  let start : Progress := { host, waiting := plan.commands }
  have hunderway : start.Underway plan := by
    constructor
    case atRest => exact hrest
    case room =>
      have hempty : host.events.toList = [] := congrArg Stock.events hstock
      show host.events.isFull = false
      rw [Queue.isFull, hempty]
      rfl
    case fitting => exact hfitting
    case follows =>
      show Follows plan plan.commands [] host.stock
      rw [hstock, hfresh]
      exact ⟨⟨[], rfl, rfl, rfl⟩, ⟨[], rfl, .nil⟩, rfl⟩
  have hleft : start.left = max plan.commands.length plan.radio.events.length := by
    rw [Progress.left_eq]
    show max (plan.commands.length + host.stock.commands.length) _ = _
    rw [hstock]
    rfl
  obtain ⟨p, hloop, h, hcycles, hend⟩ := Progress.loop_underway driver maxCycles hunderway
  refine ⟨p, by rw [Plan.run, hinit, ← hloop], h, ?_, ?_⟩
  · rw [← hleft]
    have hzero : start.cycles = 0 := rfl
    omega
  · rw [← hleft]
    exact hend

namespace Progress.Underway

variable {p : Progress}

/-- The commands that are left are those not sent. -/
theorem undelivered_add_sent (h : p.Underway plan) :
    p.undelivered + p.host.stats.commandsSent = plan.commands.length := by
  obtain ⟨sent, hplan, hsent, -⟩ := h.follows.commands
  have hlength : sent.length = p.host.stats.commandsSent := hsent
  rw [hplan, List.length_append, List.length_append, hlength, undelivered]
  show p.waiting.length + p.host.stock.commands.length + _ = _
  omega

/-- The radio has received the commands sent, but for those without length. -/
theorem delivered_eq (h : p.Underway plan) :
    p.host.link.commands = payloads (plan.commands.take p.host.stats.commandsSent) := by
  obtain ⟨sent, hplan, hsent, hdelivered⟩ := h.follows.commands
  have hlength : p.host.stats.commandsSent = sent.length := hsent.symm
  rw [hlength, hplan, List.append_assoc, List.take_left]
  exact hdelivered

/-- The events taken are the first ones of the radio, but for those without length. -/
theorem received_carried (h : p.Underway plan) :
    List.Forall₂ (RadioEvent.Carried plan.radio.filler)
      ((plan.radio.events.filter (·.length != 0)).take p.received.length) p.received := by
  obtain ⟨read, hradio, hcarried⟩ := h.follows.events
  have hshown := List.forall₂_take p.received.length hcarried
  rw [List.take_left] at hshown
  have hlength : p.received.length ≤ (read.filter (·.length != 0)).length := by
    rw [hcarried.length_eq, List.length_append]
    exact Nat.le_add_right _ _
  rwa [hradio, List.filter_append, List.take_append_of_le_length hlength]

/-- Once nothing is left, every event has been taken. -/
theorem length_received (h : p.Underway plan) (hend : p.left = 0) :
    p.received.length = (plan.radio.events.filter (·.length != 0)).length := by
  obtain ⟨read, hradio, hcarried⟩ := h.follows.events
  have hnone : p.host.stock.pending = [] ∧ p.host.stock.events = [] := by
    rw [left_eq, Nat.max_eq_zero_iff, Nat.add_eq_zero_iff, Nat.add_eq_zero_iff] at hend
    exact ⟨List.length_eq_zero_iff.1 hend.2.1, List.length_eq_zero_iff.1 hend.2.2⟩
  rw [hradio, hnone.1, List.append_nil, hcarried.length_eq, hnone.2, List.append_nil]

end Progress.Underway

end RadioLink.Simulation
