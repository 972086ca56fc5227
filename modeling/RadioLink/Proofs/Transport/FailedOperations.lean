import RadioLink.Proofs.Host.Balance
import RadioLink.Proofs.Transport.Backpressure

/-!
# What failed operations leave behind

A send and a receive each change a queue before they bring REQUEST to the level that the queues then
ask for. Everything else that can fail in them does so before, and leaves that queue alone. If it is
REQUEST that fails, the queue stays as it has been changed: the command is queued although its send
has failed (`Transport.send_fails_before_or_behind_queue`), and the event is gone although no
receive has handed it over (`Transport.receive_loses_only_from_full`).

A receive gets into this only if it has taken its event out of a full queue. From any other queue it
takes an event right behind a cycle, which has brought REQUEST to the level that the queues ask for
(`Host.Refills.wanted`), and the free place that the event leaves behind is not the first one, so
the level asked for stays the same.
-/

namespace RadioLink

variable {σ : Type} {max depth : Nat}

/-- A transfer gains one event at most. -/
theorem Transfer.length_gained_le (result : Option (Except LinkError (Transfer.Outcome max))) :
    (gained result).length ≤ 1 := by
  unfold gained
  split
  · split <;> simp
  · simp

/-- A queue that an element has been taken out of has room. -/
theorem Queue.isFull_tail {α : Type} {q : Queue α depth} {a : α} (h : q.peek? = some a) :
    q.tail.isFull = false := by
  have hsize := q.size_eq_peek_add_tail
  have hle := q.size_le
  rw [h, Option.toList_some, List.length_singleton] at hsize
  refine Queue.isFull_eq_false_iff.2 ?_
  omega

/-- A queue without a head stays as it is without it. -/
theorem Queue.tail_of_peek_none {α : Type} {q : Queue α depth} (h : q.peek? = none) :
    q.tail = q := by
  have hnil : q.toList = [] := List.head?_eq_none_iff.1 h
  refine Queue.ext ?_
  rw [Queue.toList_tail, hnil, List.tail_nil]

/-! ## The cycle before a receive -/

namespace Host

variable {t t' : Host max depth} {calls : List Call}

/-- The host remembers REQUEST at the level that its queues ask for. -/
theorem Syncs.wanted (h : t.Syncs calls (.ok ()) t') : t'.requestAsserted = t'.wantsRequest := by
  cases h with
  | rested hdrives =>
    cases hdrives with
    | held hlevel => exact hlevel
    | moved => rfl

/-- A transfer that succeeds leaves REQUEST at the level that the queues ask for. -/
theorem Transfers.wanted {answer : Except TransportError Cycle} (h : Transfers t calls answer t')
    {what : Cycle} (hanswer : answer = .ok what) : t'.requestAsserted = t'.wantsRequest := by
  cases h with
  | aborted => cases hanswer
  | @completed _ _ _ synced _ _ _ _ hsyncs =>
    cases synced with
    | error e => cases hanswer
    | ok => exact hsyncs.wanted

/-- A cycle that has not failed has brought REQUEST to the level that the queues ask for. -/
theorem Cycles.wanted {answer : Except TransportError Cycle} (h : Cycles t calls answer t')
    {what : Cycle} (hanswer : answer = .ok what) : t'.requestAsserted = t'.wantsRequest := by
  cases h with
  | unsampled => cases hanswer
  | @stalled _ synced _ _ hsyncs | @waited _ synced _ _ hsyncs =>
    cases synced with
    | error e => cases hanswer
    | ok => exact hsyncs.wanted
  | transferred _ htransfers => exact htransfers.wanted hanswer

/-- So does the cycle ahead of a receive, if it leaves room for an event. -/
theorem Refills.wanted (h : Refills t calls t') (hroom : t'.events.isFull = false) :
    t'.requestAsserted = t'.wantsRequest := by
  cases h with
  | skipped hfull =>
    rw [hfull] at hroom
    cases hroom
  | cycled _ hcycles => exact hcycles.wanted rfl

/-- A transfer queues one event at most, behind those that wait. -/
theorem Transfers.gains {answer : Except TransportError Cycle} (h : Transfers t calls answer t') :
    ∃ gained : List (Frame max), gained.length ≤ 1 ∧
      t'.events.toList = t.events.toList ++ gained := by
  cases h with
  | aborted _ hsyncs =>
    refine ⟨[], Nat.zero_le 1, ?_⟩
    rw [hsyncs.queues.2, List.append_nil]
    rfl
  | @completed _ _ outcome _ _ _ _ haccepts hsyncs =>
    refine ⟨Transfer.gained (some (.ok outcome)), Transfer.length_gained_le _, ?_⟩
    rw [hsyncs.queues.2]
    exact haccepts.events.2.symm

/-- A cycle keeps the events that are queued and adds one at most, whether it fails or not. -/
theorem Cycles.gains {answer : Except TransportError Cycle} (h : Cycles t calls answer t') :
    ∃ gained : List (Frame max), gained.length ≤ 1 ∧
      t'.events.toList = t.events.toList ++ gained := by
  have hsame (hevents : t'.events = t.events) :
      ∃ gained : List (Frame max), gained.length ≤ 1 ∧
        t'.events.toList = t.events.toList ++ gained :=
    ⟨[], Nat.zero_le 1, by rw [hevents, List.append_nil]⟩
  cases h with
  | stalled _ hsyncs => exact hsame hsyncs.queues.2
  | unsampled => exact hsame rfl
  | waited _ hsyncs => exact hsame hsyncs.queues.2
  | transferred _ htransfers => exact htransfers.gains

/-- So does the cycle ahead of a receive. -/
theorem Refills.gains (h : Refills t calls t') :
    ∃ gained : List (Frame max), gained.length ≤ 1 ∧
      t'.events.toList = t.events.toList ++ gained := by
  cases h with
  | skipped => exact ⟨[], Nat.zero_le 1, (List.append_nil _).symm⟩
  | cycled _ hcycles => exact hcycles.gains

end Host

namespace Transport

variable [Link σ] {t t₁ : Transport σ max depth}

/-- The same of what it does when it runs. -/
theorem refill_gains (t : Transport σ max depth) :
    ∃ gained : List (Frame max), gained.length ≤ 1 ∧
      t.refill.2.events.toList = t.events.toList ++ gained := by
  rcases refill_refills t with ⟨calls, t₁, hrun, -, hrefills⟩ | ⟨calls, e, t₁, hrun, -, -, hcycles⟩
  · rw [hrun]
    exact hrefills.gains
  · rw [hrun]
    exact hcycles.gains

/-- Behind a refill that leaves room in the event queue, REQUEST is known at the level that the
queues ask for. -/
theorem refill_wanted (h : t.refill = (.ok (), t₁)) (hroom : t₁.events.isFull = false) :
    t₁.requestAsserted = t₁.wantsRequest := by
  rcases refill_refills t with ⟨calls, t₂, hrun, -, hrefills⟩ | ⟨calls, e, t₂, hrun, -⟩
  · rw [h] at hrun
    obtain rfl := (Prod.mk.inj hrun).2
    exact hrefills.wanted hroom
  · rw [h] at hrun
    cases (Prod.mk.inj hrun).1

/-! ## Receives -/

/-- The event queue is full, and the commands ask for REQUEST at another level once an event has
been taken out of it; but the link fails to drive the line there. -/
structure Forfeits (t : Transport σ max depth) (cause : LinkError) : Prop where
  full : t.events.isFull = true
  stored : t.events.toList ≠ []
  due : t.requestAsserted ≠ !t.commands.isEmpty
  failed : (Link.setRequest (!t.commands.isEmpty) t.link).1 = .error cause

omit [Link σ] in
/-- With an event taken out of the queue, there is room and only the commands count. -/
theorem wantsRequest_of_taken {event : Frame max} (h : t.events.peek? = some event) :
    ({ t with events := t.events.tail } : Transport σ max depth).wantsRequest =
      !t.commands.isEmpty := by
  show (!t.commands.isEmpty && !t.events.tail.isFull) = _
  rw [Queue.isFull_tail h, Bool.not_false, Bool.and_true]

/-- How a receive ends, by what its cycle has left behind. -/
inductive Receives (cycled : Reply Unit (Transport σ max depth)) :
    Reply (Option (Frame max)) (Transport σ max depth) → Prop
  | unrefilled {e : TransportError} {t₁ : Transport σ max depth} : cycled = (.error e, t₁) →
      Receives cycled (.error e, t₁)
  | missed {t₁ : Transport σ max depth} : cycled = (.ok (), t₁) → t₁.events.peek? = none →
      Receives cycled (.ok none, t₁)
  | taken {event : Frame max} {t₁ t' : Transport σ max depth} : cycled = (.ok (), t₁) →
      t₁.events.peek? = some event → t'.events = t₁.events.tail →
        Receives cycled (.ok (some event), t')
  | forfeited {cause : LinkError} {t₁ t' : Transport σ max depth} : cycled = (.ok (), t₁) →
      t₁.Forfeits cause → t'.events = t₁.events.tail → Receives cycled (.error (.link cause), t')

section

variable (hhealthy : t.faulted = false)
include hhealthy

/-- An operation that runs a cycle with room for an event fails as the cycle does. -/
theorem Op.run_of_cycle_failed (hroom : t.events.isFull = false) {op : Op max}
    (hop : op.drivesCycle = true)
    {e : TransportError} (h : t.cycle = (.error e, t₁)) : op.run t = (.error e, t₁) := by
  cases op with
  | poll | readyEdge =>
    rw [run_of_drive hhealthy (by simp), h]
    rfl
  | tryReceive =>
    have hfailed : t.refill = (.error e, t₁) := by
      rw [refill_of_room hroom, h]
      rfl
    rw [run, tryReceive_of_error hhealthy hfailed]
    rfl
  | send | isPeerReady | flush => cases hop

/-- A receive that has taken an event hands it over unless the event queue was full and REQUEST
fails. -/
theorem tryReceive_of_taken {event : Frame max} (h : t.refill = (.ok (), t₁))
    (hhead : t₁.events.peek? = some event) :
    Receives t.refill t.tryReceive := by
  let taken : Transport σ max depth := { t₁ with events := t₁.events.tail }
  have hwants : taken.wantsRequest = !t₁.commands.isEmpty := wantsRequest_of_taken hhead
  have hrun : t.tryReceive = Reply.map (fun _ => some event) taken.syncRequest :=
    tryReceive_of_some hhealthy h hhead
  by_cases hdue : taken.requestAsserted = taken.wantsRequest
  · rw [hrun, syncRequest_of_wanted hdue]
    exact .taken h hhead rfl
  · rcases hdrive : Link.setRequest taken.wantsRequest taken.link with ⟨cause | ⟨⟩, link⟩
    · rw [hrun, syncRequest_of_failed hdue hdrive]
      refine .forfeited h ?_ rfl
      rw [hwants] at hdue hdrive
      constructor
      case full =>
        cases hroom : t₁.events.isFull with
        | true => rfl
        | false =>
          -- the cycle has left nothing to drive
          have hwanted := refill_wanted h hroom
          rw [wantsRequest, Flow.shouldRequest, hroom, Bool.not_false, Bool.and_true] at hwanted
          exact absurd hwanted hdue
      case stored =>
        intro hempty
        rw [Queue.peek?, hempty] at hhead
        cases hhead
      case due => exact hdue
      case failed => exact congrArg Prod.fst hdrive
    · rw [hrun, syncRequest_of_driven hdue hdrive]
      exact .taken h hhead rfl

/-- A receive ends in one of these four ways. -/
theorem tryReceive_receives : Receives t.refill t.tryReceive := by
  rcases h : t.refill with ⟨e | ⟨⟩, t₁⟩
  · rw [tryReceive_of_error hhealthy h]
    exact .unrefilled rfl
  · cases hhead : t₁.events.peek? with
    | none =>
      rw [tryReceive_of_none hhealthy h hhead]
      exact .missed rfl hhead
    | some event =>
      rw [← h]
      exact tryReceive_of_taken hhealthy h hhead

/-- What a full queue forfeits in a receive is its oldest event. -/
theorem tryReceive_of_forfeits {cause : LinkError} (h : t.refill = (.ok (), t₁))
    (hforfeits : t₁.Forfeits cause) :
    t.tryReceive.1 = .error (.link cause) ∧ t.tryReceive.2.events = t₁.events.tail := by
  obtain ⟨-, hstored, hdue, hfailed⟩ := hforfeits
  obtain ⟨event, hhead⟩ : ∃ event, t₁.events.peek? = some event := by
    cases hevents : t₁.events.toList with
    | nil => exact absurd hevents hstored
    | cons event events => exact ⟨event, by rw [Queue.peek?, hevents]; rfl⟩
  let taken : Transport σ max depth := { t₁ with events := t₁.events.tail }
  have hwants : taken.wantsRequest = !t₁.commands.isEmpty := wantsRequest_of_taken hhead
  rw [← hwants] at hdue hfailed
  have hdrive : Link.setRequest taken.wantsRequest taken.link =
      (.error cause, (Link.setRequest taken.wantsRequest taken.link).2) := Prod.ext hfailed rfl
  rw [tryReceive_of_some hhealthy h hhead, syncRequest_of_failed hdue hdrive]
  exact ⟨rfl, rfl⟩

end

/-- No history halts a transport. -/
theorem healthy_runAll {link : σ} {config : TransportConfig} {t : Transport σ max depth}
    (h : init link config = .ok t) (ops : List (Op max)) : (runAll ops t).2.faulted = false := by
  have hstart : t.host.Sound := by
    rw [(init_eq_ok h).1]
    exact ⟨rfl, rfl⟩
  obtain ⟨-, hsound⟩ := runAll_invariant (P := fun t => t.host.Sound) (Q := NoOverflow)
    (fun op t ht => by
      obtain ⟨calls, -, hperforms⟩ := op.run_performs t
      exact hperforms.sound ht) ops hstart
  exact hsound.healthy

/-- **A receive that fails has lost an event only if it took it out of a full queue and could not
drive REQUEST.** On every link, after any history since the transport was brought up: the cycle of a
receive keeps the events that are queued and adds one at most; a receive that succeeds hands over
the oldest event that is queued behind its cycle and keeps the others; and one that fails keeps them
all, unless its cycle has succeeded, REQUEST has to be driven because the event queue was full, and
the drive fails. In that case it always fails, and the oldest event is gone; and it does not fail in
any other one in which its cycle has succeeded. -/
theorem receive_loses_only_from_full {link : σ} {config : TransportConfig}
    {t : Transport σ max depth} (h : init link config = .ok t) (ops : List (Op max)) :
    let before := (runAll ops t).2
    let cycled := before.refill
    let received := before.tryReceive
    (∃ gained : List (Frame max), gained.length ≤ 1 ∧
      cycled.2.events.toList = before.events.toList ++ gained) ∧
    (∀ taken, received.1 = .ok taken →
      taken = cycled.2.events.peek? ∧ received.2.events = cycled.2.events.tail) ∧
    (∀ e, received.1 = .error e → received.2.events = cycled.2.events ∨
      ∃ cause, e = .link cause ∧ cycled.1 = .ok () ∧ cycled.2.Forfeits cause) ∧
    (∀ cause, cycled.1 = .ok () → cycled.2.Forfeits cause →
      received.1 = .error (.link cause) ∧ received.2.events = cycled.2.events.tail) ∧
    (cycled.1 = .ok () → (∀ cause, ¬cycled.2.Forfeits cause) →
      ∃ taken, received.1 = .ok taken) := by
  intro before cycled received
  have hhealthy : before.faulted = false := healthy_runAll h ops
  have hreceives : Receives cycled received := tryReceive_receives hhealthy
  refine ⟨refill_gains before, ?_, ?_, ?_, ?_⟩
  · intro taken htaken
    generalize received = reply at hreceives htaken ⊢
    cases hreceives with
    | unrefilled | forfeited => cases htaken
    | missed hcycled hhead =>
      obtain rfl := Except.ok.inj htaken
      rw [hcycled]
      exact ⟨hhead.symm, (Queue.tail_of_peek_none hhead).symm⟩
    | taken hcycled hhead hevents =>
      obtain rfl := Except.ok.inj htaken
      rw [hcycled]
      exact ⟨hhead.symm, hevents⟩
  · intro e he
    generalize received = reply at hreceives he ⊢
    cases hreceives with
    | missed | taken => cases he
    | unrefilled hcycled =>
      rw [hcycled]
      exact .inl rfl
    | @forfeited cause _ _ hcycled hforfeits =>
      obtain rfl := Except.error.inj he
      rw [hcycled]
      exact .inr ⟨cause, rfl, rfl, hforfeits⟩
  · intro cause hok hforfeits
    have hrun : before.refill = (.ok (), cycled.2) := Prod.ext hok rfl
    exact tryReceive_of_forfeits hhealthy hrun hforfeits
  · intro hok hkept
    generalize received = reply at hreceives ⊢
    cases hreceives with
    | unrefilled hcycled =>
      rw [hcycled] at hok
      cases hok
    | missed | taken => exact ⟨_, rfl⟩
    | @forfeited cause _ _ hcycled hforfeits =>
      rw [hcycled] at hkept
      exact absurd hforfeits (hkept cause)

/-- A receive that fails at READY, before anything else, keeps the event that is queued. -/
theorem receive_loses_only_from_full_at_ready :
    ∃ t : Transport (Faulty Radio) 1 2,
      init { link := { events := [⟨0, 1, [7]⟩] }, faults := { ready := [false, true] } } {} =
        .ok t ∧
      let before := (runAll [.poll] t).2
      before.tryReceive.1 = .error (.link (.pin .ready Faulty.detail)) ∧
      before.tryReceive.2.events = before.refill.2.events ∧
      before.tryReceive.2.events.size = 1 := by
  have hinit : init
      { link := { events := [⟨0, 1, [7]⟩] }, faults := { ready := [false, true] } } {} =
      (.ok _ : Except _ (Transport (Faulty Radio) 1 2)) := rfl
  refine ⟨_, hinit, rfl, ?_, rfl⟩
  obtain ⟨-, -, hfailed, -⟩ := receive_loses_only_from_full hinit [.poll]
  obtain hkept | ⟨cause, -, hcycled, -⟩ := hfailed _ rfl
  · exact hkept
  · cases hcycled

/-- Room for one event, which is taken, and a command that has been waiting for that room: REQUEST
cannot be asserted for it, and the event is gone. -/
theorem event_lost_behind_receive :
    ∃ t : Transport (Faulty Radio) 1 1,
      init
        { link := { events := [⟨0, 1, [7]⟩] }
          faults := { request := [false, false, false, true] } } {} = .ok t ∧
      let before := (runAll [.poll, .send ⟨0, 1, #v[1]⟩] t).2
      before.events.toList = [⟨0, 1, #v[7]⟩] ∧
      before.tryReceive.1 = .error (.link (.pin .request Faulty.detail)) ∧
      before.tryReceive.2.events.toList = [] :=
  ⟨_, rfl, rfl, rfl, rfl⟩

/-! ## Sends -/

omit [Link σ] in
/-- With a command in the queue, REQUEST belongs asserted as long as there is room for an event. -/
theorem wantsRequest_of_queued {frame : Frame max} {commands : Queue (Frame max) depth}
    (h : t.commands.enqueue frame = .ok commands) :
    ({ t with commands } : Transport σ max depth).wantsRequest = !t.events.isFull := by
  have hsome : commands.isEmpty = false := by
    rw [Queue.isEmpty, (Queue.enqueue_eq_ok_iff.1 h).2]
    simp
  show (!commands.isEmpty && !t.events.isFull) = _
  rw [hsome, Bool.not_false, Bool.true_and]

/-- The transport has not been halted, the frame fits, and there is room for it among the
commands. -/
def Admits (t : Transport σ max depth) (frame : Frame max) : Prop :=
  t.faulted = false ∧ frame.fits = true ∧ t.commands.isFull = false

/-- How a send ends. -/
inductive Sends (frame : Frame max) (t : Transport σ max depth) :
    Reply Unit (Transport σ max depth) → Prop
  | rejected {e : TransportError} : ¬t.Admits frame → (∀ cause, e ≠ .link cause) →
      Sends frame t (.error e, t)
  | queued {calls : List Call} {t' : Transport σ max depth} : t.Admits frame →
      Trace t.link calls t'.link →
      Silent calls → t'.commands.toList = t.commands.toList ++ [frame] → t'.events = t.events →
      Sends frame t (.ok (), t')
  | stuck {commands : Queue (Frame max) depth} {cause : LinkError} {link : σ} : t.Admits frame →
      commands.toList = t.commands.toList ++ [frame] → t.requestAsserted ≠ !t.events.isFull →
      Link.setRequest (!t.events.isFull) t.link = (.error cause, link) →
      Sends frame t (.error (.link cause), { t with link, commands })

/-- Once its frame has been queued, a send can only fail at REQUEST. -/
theorem sends_of_enqueued {frame : Frame max} {commands : Queue (Frame max) depth}
    (hadmits : t.Admits frame) (h : t.commands.enqueue frame = .ok commands) :
    Sends frame t (syncRequest { t with commands }) := by
  let queued : Transport σ max depth := { t with commands }
  have hlist : queued.commands.toList = t.commands.toList ++ [frame] :=
    (Queue.enqueue_eq_ok_iff.1 h).2
  have hwants : queued.wantsRequest = !t.events.isFull := wantsRequest_of_queued h
  by_cases hdue : queued.requestAsserted = queued.wantsRequest
  · rw [syncRequest_of_wanted hdue]
    exact .queued hadmits .nil .nil hlist rfl
  · rcases hdrive : Link.setRequest queued.wantsRequest queued.link with ⟨cause | ⟨⟩, link⟩
    · rw [syncRequest_of_failed hdue hdrive]
      rw [hwants] at hdue hdrive
      exact .stuck hadmits hlist hdue hdrive
    · rw [syncRequest_of_driven hdue hdrive]
      have hcall : Call.Leads (.request queued.wantsRequest (.ok ())) t.link link := hdrive
      exact .queued hadmits (.single hcall) (.single rfl) hlist rfl

/-- A send ends in one of these three ways. -/
theorem send_sends (frame : Frame max) (t : Transport σ max depth) :
    Sends frame t (t.send frame) := by
  cases hhealthy : t.faulted with
  | true =>
    have hrun : t.send frame = (.error .faulted, t) := by
      simp only [send, whenHealthy, hhealthy, if_true]
    rw [hrun]
    exact .rejected (by simp [Admits, hhealthy]) (by simp)
  | false =>
    cases hfits : frame.fits with
    | false =>
      rw [send_of_overlong hhealthy hfits]
      exact .rejected (by simp [Admits, hfits]) (by simp)
    | true =>
      cases hroom : t.commands.enqueue frame with
      | error back =>
        have hfull := (Queue.enqueue_eq_error_iff.1 hroom).1
        rw [send_of_crowded hhealthy hfits hroom]
        exact .rejected (by simp [Admits, -Queue.isFull_iff, hfull]) (by simp)
      | ok commands =>
        have hspace := Queue.isFull_eq_false_iff.2 (Queue.enqueue_eq_ok_iff.1 hroom).1
        rw [send_of_room hhealthy hfits hroom]
        exact sends_of_enqueued ⟨hhealthy, hfits, hspace⟩ hroom

/-- **A send that fails has left everything alone, or has queued its command and failed at
REQUEST.** On every link and from every state of the transport, a send exchanges no byte, and only
the link can make it fail once its frame is admitted. If it succeeds, its frame has been put behind
the commands, and the events are the same. If it fails with an error that is not one of the link, it
has left the transport as it was. If it fails with an error of the link, its only call was to drive
REQUEST to the level that the events ask for, from another one; and apart from the link all that has
changed is that the frame has been put behind the commands, where it stays. -/
theorem send_fails_before_or_behind_queue (frame : Frame max) (t : Transport (Traced σ) max depth) :
    let sent := t.send frame
    ∃ calls, sent.2.link.calls = t.link.calls ++ calls ∧ Silent calls ∧
      (t.Admits frame ↔ sent.1 = .ok () ∨ ∃ cause, sent.1 = .error (.link cause)) ∧
      (sent.1 = .ok () → sent.2.commands.toList = t.commands.toList ++ [frame] ∧
        sent.2.events = t.events) ∧
      (∀ e, sent.1 = .error e → (∀ cause, e ≠ .link cause) → sent.2 = t) ∧
      ∀ cause, sent.1 = .error (.link cause) →
        t.requestAsserted ≠ !t.events.isFull ∧
        calls = [.request (!t.events.isFull) (.error cause)] ∧
        ∃ commands, commands.toList = t.commands.toList ++ [frame] ∧
          sent.2.host = { t.host with commands } := by
  intro sent
  have hsends : Sends frame t sent := send_sends frame t
  generalize sent = reply at hsends ⊢
  cases hsends with
  | rejected hrefused hcause =>
    refine ⟨[], (List.append_nil _).symm, .nil, iff_of_false hrefused ?_, nofun,
      fun _ _ _ => rfl, ?_⟩
    · rintro (hok | ⟨cause, he⟩)
      · cases hok
      · exact hcause cause (Except.error.inj he)
    · rintro cause ⟨⟩
      exact absurd rfl (hcause cause)
  | queued hadmits htrace hsilent hcommands hevents =>
    exact ⟨_, htrace.calls_eq, hsilent, iff_of_true hadmits (.inl rfl),
      fun _ => ⟨hcommands, hevents⟩, nofun, nofun⟩
  | @stuck commands cause link hadmits hcommands hdue hdrive =>
    have hcall : Call.Leads (.request (!t.events.isFull) (.error cause)) t.link link := hdrive
    refine ⟨_, (Trace.single hcall).calls_eq, .single rfl, iff_of_true hadmits (.inr ⟨cause, rfl⟩),
      nofun, ?_, ?_⟩
    · rintro _ ⟨⟩ hcause
      exact absurd rfl (hcause cause)
    · rintro _ ⟨⟩
      exact ⟨hdue, rfl, commands, hcommands, rfl⟩

/-- REQUEST cannot be asserted for a command that has just been queued. Its send fails, and when it
is sent again the radio is going to receive it twice. -/
theorem command_queued_behind_failed_send :
    ∃ t : Transport (Faulty Radio) 1 4,
      init { link := {}, faults := { request := [false, true] } } {} = .ok t ∧
      let frame : Frame 1 := ⟨0, 1, #v[7]⟩
      (t.send frame).1 = .error (.link (.pin .request Faulty.detail)) ∧
      (t.send frame).2.commands.toList = [frame] ∧
      (runAll [.send frame, .send frame, .poll, .poll] t).2.link.link.commands = [[7], [7]] :=
  ⟨_, rfl, rfl, rfl, rfl⟩

end Transport

end RadioLink
