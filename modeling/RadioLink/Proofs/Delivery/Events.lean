import Mathlib.Data.List.Forall2
import RadioLink.Proofs.Delivery.Journal

/-!
# Events arrive in order, at most once, and whole

A ledger of a run has one entry for each event that a test has had the radio deliver, with what has
become of it (`EventFate`). `EventLedger.Closes` says what makes a ledger right: its entries are the
events in the order in which the radio got them, and read in this order they give every frame that
the application has taken or can still take, every frame that a flush has discarded, every event
that was clocked by an operation that answered with an error of the link, and every event that the
radio still has. The only events that are in none of these places are those that declare no length,
which are no events to the transport.

The ledger of a run is put together from two balances, the one of the radio's events and the one of
the transport's event queue, which a step joins by the one event that its transfer has clocked.
-/

namespace RadioLink

variable {max depth : Nat}

namespace Step

/-- The event that the operation has given to the application, if it has. -/
def taken (step : Step max depth) : List (Frame max) :=
  Transport.taken step.answer

/-- The events that the operation has discarded. -/
def flushed (step : Step max depth) : List (Frame max) :=
  if step.op.flushes then step.before.events.toList else []

/-- The event of the radio that the operation has clocked: its oldest one, if a byte was clocked. -/
def heard (step : Step max depth) : Option RadioEvent :=
  if step.clocked.isEmpty then none else step.before.radio.events.head?

/-- Whether the operation has answered with an error of the link. -/
def failed (step : Step max depth) : Bool :=
  match step.answer with
  | .error (.link _) => true
  | _ => false

/-- The event that comes to be queued: the one clocked, unless the operation has failed or the event
declares no length. -/
def stores (step : Step max depth) : List RadioEvent :=
  if step.failed then [] else step.heard.toList.filter (·.length != 0)

variable {step : Step max depth} {result : Option (Except LinkError (Transfer.Outcome max))}
  {count : Nat}

/-- A step has clocked nothing exactly if its transfer has clocked no byte. -/
theorem Accounts.isEmpty_clocked (h : step.Accounts result count) :
    step.clocked.isEmpty = true ↔ count = 0 := by
  rw [clocked, h.heard.clocked, List.isEmpty_iff_length_eq_zero, Frame.length_wire]

/-- A step hears the oldest event of the radio, or none. -/
theorem Accounts.radioEvents (h : step.Accounts result count) :
    step.before.radio.events = step.heard.toList ++ step.after.radio.events := by
  rw [h.transferred.events, Step.heard]
  by_cases hcount : count = 0
  · rw [if_pos (h.isEmpty_clocked.2 hcount), if_pos (by rw [hcount]; rfl)]
    rfl
  · have hwire : step.outbound.wire count ≠ [] := fun hwire =>
      hcount (by simpa using congrArg List.length hwire)
    rw [if_neg (mt h.isEmpty_clocked.1 hcount), if_neg hwire]
    cases step.before.radio.events <;> rfl

/-- What was queued before a step and what its transfer has gained is taken, flushed or still
queued. -/
theorem Accounts.queuedEvents (h : step.Accounts result count) :
    step.before.events.toList ++ Transfer.gained result =
      step.taken ++ step.flushed ++ step.after.events.toList :=
  h.balances.events

/-- What a step adds to the event queue carries the event that it stores. -/
theorem Accounts.carried (h : step.Accounts result count) :
    List.Forall₂ (RadioEvent.Carried step.before.radio.filler) step.stores
      (Transfer.gained result) := by
  rcases result with _ | e | outcome
  · have hheard : step.heard = none := if_pos (h.isEmpty_clocked.2 (h.heard.idle rfl))
    rw [stores, hheard]
    split <;> exact .nil
  · have hanswer : step.answer = .error (.link e) := h.balances.told
    have hfailed : step.failed = true := by rw [failed, hanswer]
    rw [stores, if_pos hfailed]
    exact .nil
  · obtain ⟨a, hanswer⟩ : ∃ a, step.answer = .ok a := h.balances.told
    have hfailed : ¬step.failed = true := by simp [failed, hanswer]
    obtain ⟨rfl, hcount⟩ := h.heard.ok outcome rfl
    have hheard : step.heard = step.before.radio.events.head? := by
      rw [Step.heard, if_neg (mt h.isEmpty_clocked.1 (by omega))]
    rw [stores, if_neg hfailed, hheard]
    exact Transfer.Outcome.carried_of_ofRadio step.outbound step.before.radio

end Step

/-! ## Balances of a run -/

/-- The balance of the radio's events over a run. -/
theorem radioEvents_balance {t : Bench max depth} (h : t.Quiet) (acts : List (Act max)) :
    t.radio.events ++ acts.filterMap Act.event? =
      (journal acts t).filterMap Step.heard ++ (playAll acts t).radio.events := by
  induction acts generalizing t with
  | nil => simp [journal, playAll]
  | cons act acts ih =>
    cases act with
    | script script =>
      have htold : (t.tell script).radio.events = t.radio.events ++ script.event?.toList :=
        (script.apply_eq t.radio).2.2.2
      rw [journal_script, playAll_script, ← ih (h.tell script), htold, List.append_assoc]
      cases hevent : script.event? <;> simp [Act.event?, hevent]
    | op op =>
      obtain ⟨⟨result, count, haccounts⟩, hquiet⟩ := Step.accounts ⟨op, t⟩ h
      have hstep := haccounts.radioEvents
      have hfirst : (Act.op op : Act max).event? = none := rfl
      rw [List.filterMap_cons_none hfirst, journal_op, playAll_op, List.filterMap_cons, hstep,
        List.append_assoc, ih hquiet]
      cases Step.heard ⟨op, t⟩ <;> rfl

/-- The balance of the event queue over a run: the events stored are carried by the frames that
leave the queue and those that stay in it. -/
theorem queuedEvents_balance {t : Bench max depth} (h : t.Quiet) (acts : List (Act max)) :
    ∃ frames, List.Forall₂ (RadioEvent.Carried t.radio.filler)
      ((journal acts t).flatMap Step.stores) frames ∧
      t.events.toList ++ frames =
        (journal acts t).flatMap
          (fun step => step.taken ++ step.flushed) ++ (playAll acts t).events.toList := by
  induction acts generalizing t with
  | nil => exact ⟨[], .nil, by simp [journal, playAll]⟩
  | cons act acts ih =>
    cases act with
    | script script =>
      obtain ⟨frames, hcarried, hbalance⟩ := ih (h.tell script)
      have htold : (t.tell script).radio.filler = t.radio.filler := (script.apply_eq t.radio).2.2.1
      exact ⟨frames, htold ▸ hcarried, hbalance⟩
    | op op =>
      obtain ⟨⟨result, count, haccounts⟩, hquiet⟩ := Step.accounts ⟨op, t⟩ h
      obtain ⟨frames, hcarried, hbalance⟩ := ih hquiet
      have hfiller : (Step.after ⟨op, t⟩).radio.filler = t.radio.filler :=
        haccounts.transferred.filler
      refine ⟨Transfer.gained result ++ frames, ?_, ?_⟩
      · rw [journal_op, List.flatMap_cons]
        exact List.rel_append haccounts.carried (hfiller ▸ hcarried)
      · have hstep := haccounts.queuedEvents
        rw [journal_op, playAll_op, List.flatMap_cons, ← List.append_assoc, hstep,
          List.append_assoc, hbalance, ← List.append_assoc]

/-! ## Ledgers -/

/-- What has become of an event. -/
inductive EventFate (max : Nat) where
  /-- The application has taken it as this frame, or can still take it. -/
  | received (frame : Frame max)
  /-- A flush has discarded it as this frame. -/
  | flushed (frame : Frame max)
  /-- It declares no length, and so is no event. -/
  | blank
  /-- The operation that has clocked it has answered with an error of the link. -/
  | lost
  /-- The radio still has it. -/
  | pending
  deriving DecidableEq

namespace EventFate

/-- The frame that the application has taken or can still take. -/
def received? : EventFate max → Option (Frame max)
  | received frame => some frame
  | _ => none

/-- The frame that a flush has discarded. -/
def flushed? : EventFate max → Option (Frame max)
  | flushed frame => some frame
  | _ => none

/-- Whether the event has been queued. -/
def isStored : EventFate max → Bool
  | received _ | flushed _ => true
  | _ => false

/-- The frame that has been queued for the event, or an empty one. -/
def frame : EventFate max → Frame max
  | received frame | flushed frame => frame
  | _ => .empty

/-- Whether the fate can be that of an event: a frame that has been queued carries the event, and
only an event without length is none. -/
def Suits (filler : UInt8) (event : RadioEvent) : EventFate max → Prop
  | received frame | flushed frame => event.Carried filler frame
  | blank => event.length = 0
  | lost | pending => True

theorem not_stored {fate : EventFate max} (h : fate.isStored = false) :
    fate.received? = none ∧ fate.flushed? = none := by
  cases fate with
  | received frame | flushed frame => cases h
  | blank | lost | pending => exact ⟨rfl, rfl⟩

/-- A queued fate suits the event that its frame carries. -/
theorem suits_of_carried {filler : UInt8} {event : RadioEvent} {fate : EventFate max}
    (hstored : fate.isStored = true) (h : event.Carried filler fate.frame) :
    fate.Suits filler event := by
  cases fate with
  | received frame | flushed frame => exact h
  | blank | lost | pending => cases hstored

end EventFate

/-- The events of a run, in the order in which the radio got them, with what has become of each. -/
abbrev EventLedger (max : Nat) : Type :=
  List (RadioEvent × EventFate max)

namespace EventLedger

/-- The ledger is that of the events clocked in some steps, and those that have been queued have the
fates given in this order. -/
structure Covers (ledger : EventLedger max) (filler : UInt8) (steps : List (Step max depth))
    (fates : List (EventFate max)) : Prop where
  events : ledger.map Prod.fst = steps.filterMap Step.heard
  suits : ∀ entry ∈ ledger, entry.2.Suits filler entry.1
  stored : (ledger.map Prod.snd).filter EventFate.isStored = fates
  lost : (ledger.filter (·.2 = .lost)).map Prod.fst =
    (steps.filter Step.failed).filterMap Step.heard
  clocked : ∀ entry ∈ ledger, entry.2 ≠ .pending

/-- The ledger is right for a run: it lists the events scripted, each with a fate that suits it;
what it says of the frames received and flushed is what the steps have given out and what is still
queued; the events that it gives up for lost are those clocked in steps that failed; and those
pending are those of the radio. -/
structure Closes (ledger : EventLedger max) (filler : UInt8) (scripted : List RadioEvent)
    (steps : List (Step max depth)) (last : Bench max depth) : Prop where
  events : ledger.map Prod.fst = scripted
  suits : ∀ entry ∈ ledger, entry.2.Suits filler entry.1
  received : ledger.filterMap (·.2.received?) = steps.flatMap Step.taken ++ last.events.toList
  flushed : ledger.filterMap (·.2.flushed?) = steps.flatMap Step.flushed
  lost : (ledger.filter (·.2 = .lost)).map Prod.fst =
    (steps.filter Step.failed).filterMap Step.heard
  pending : (ledger.filter (·.2 = .pending)).map Prod.fst = last.radio.events

variable {filler : UInt8} {steps : List (Step max depth)} {fates : List (EventFate max)}

/-- A step that clocks no event adds nothing to a ledger. -/
theorem Covers.skip {ledger : EventLedger max} (h : ledger.Covers filler steps fates)
    {step : Step max depth}
    (hheard : step.heard = none) : ledger.Covers filler (step :: steps) fates := by
  refine ⟨?_, h.suits, h.stored, ?_, h.clocked⟩
  · rw [h.events, List.filterMap_cons_none hheard]
  · rw [h.lost, List.filter_cons]
    split
    · rw [List.filterMap_cons_none hheard]
    · rfl

/-- A step that has clocked an event has an entry, in which the event is lost exactly if the step
has failed. -/
theorem Covers.enter {ledger : EventLedger max} (h : ledger.Covers filler steps fates)
    {step : Step max depth} {event : RadioEvent} (fate : EventFate max)
    (hheard : step.heard = some event) (hsuits : fate.Suits filler event)
    (hpending : fate ≠ .pending) (hlost : fate = .lost ↔ step.failed = true) :
    Covers ((event, fate) :: ledger) filler (step :: steps)
      (if fate.isStored then fate :: fates else fates) := by
  refine ⟨?_, ?_, ?_, ?_, ?_⟩
  · simp [h.events, hheard]
  · exact List.forall_mem_cons.2 ⟨hsuits, h.suits⟩
  · rw [List.map_cons, List.filter_cons, h.stored]
  · by_cases hfailed : step.failed = true
    · simp [hlost.2 hfailed, hfailed, hheard, h.lost]
    · simp [mt hlost.1 hfailed, hfailed, h.lost]
  · exact List.forall_mem_cons.2 ⟨hpending, h.clocked⟩

/-- The events that steps have clocked can be entered in a ledger, if fates are known for those that
have been queued. -/
theorem exists_covers (hstored : ∀ fate ∈ fates, fate.isStored = true)
    (h : List.Forall₂ (fun event fate => event.Carried filler fate.frame)
      (steps.flatMap Step.stores) fates) :
    ∃ ledger : EventLedger max, ledger.Covers filler steps fates := by
  induction steps generalizing fates with
  | nil =>
    cases h
    exact ⟨[], rfl, nofun, rfl, rfl, nofun⟩
  | cons step steps ih =>
    rw [List.flatMap_cons] at h
    cases hheard : step.heard with
    | none =>
      have hstores : step.stores = [] := by
        rw [Step.stores, hheard]
        split <;> rfl
      rw [hstores] at h
      obtain ⟨ledger, hledger⟩ := ih hstored h
      exact ⟨ledger, hledger.skip hheard⟩
    | some event =>
      by_cases hfailed : step.failed = true
      · have hstores : step.stores = [] := by rw [Step.stores, if_pos hfailed]
        rw [hstores] at h
        obtain ⟨ledger, hledger⟩ := ih hstored h
        exact ⟨_, hledger.enter .lost hheard trivial nofun (iff_of_true rfl hfailed)⟩
      by_cases hblank : event.length = 0
      · have hstores : step.stores = [] := by simp [Step.stores, hfailed, hheard, hblank]
        rw [hstores] at h
        obtain ⟨ledger, hledger⟩ := ih hstored h
        exact ⟨_, hledger.enter .blank hheard hblank nofun (iff_of_false nofun hfailed)⟩
      · have hstores : step.stores = [event] := by simp [Step.stores, hfailed, hheard, hblank]
        rw [hstores] at h
        cases h with
        | @cons _ fate _ fates hcarried hrest =>
          obtain ⟨hfate, hstored⟩ := List.forall_mem_cons.1 hstored
          obtain ⟨ledger, hledger⟩ := ih hstored hrest
          have hopen : fate ≠ .pending ∧ fate ≠ .lost := by
            constructor <;> rintro rfl <;> cases hfate
          have henter := hledger.enter fate hheard (EventFate.suits_of_carried hfate hcarried)
            hopen.1 (iff_of_false hopen.2 hfailed)
          rw [if_pos hfate] at henter
          exact ⟨_, henter⟩

/-- What is read off the stored entries of a ledger is what is read off the whole ledger. -/
theorem Covers.filterMap_eq {ledger : EventLedger max} (h : ledger.Covers filler steps fates)
    {read : EventFate max → Option (Frame max)}
    (hread : ∀ fate, fate.isStored = false → read fate = none) :
    ledger.filterMap (fun entry => read entry.2) = fates.filterMap read := by
  rw [← h.stored, List.filterMap_filter, List.filterMap_map]
  refine congrArg (List.filterMap · ledger) (funext fun entry => ?_)
  by_cases hstored : entry.2.isStored = true
  · simp [hstored]
  · simp [hstored, hread entry.2 (by simpa using hstored)]

/-- A ledger of the events clocked becomes one of all events scripted with the events that the radio
still has. -/
theorem Covers.closes {ledger : EventLedger max} {last : Bench max depth}
    (h : ledger.Covers filler steps fates)
    (hreceived : fates.filterMap EventFate.received? =
      steps.flatMap Step.taken ++ last.events.toList)
    (hflushed : fates.filterMap EventFate.flushed? = steps.flatMap Step.flushed) :
    Closes (ledger ++ last.radio.events.map (·, .pending)) filler
      (steps.filterMap Step.heard ++ last.radio.events) steps last := by
  refine ⟨?_, ?_, ?_, ?_, ?_, ?_⟩
  · simp [h.events, Function.comp_def]
  · intro entry hentry
    rcases List.mem_append.1 hentry with hentry | hentry
    · exact h.suits entry hentry
    · obtain ⟨event, -, rfl⟩ := List.mem_map.1 hentry
      trivial
  · have hread := h.filterMap_eq fun fate hfate => (EventFate.not_stored hfate).1
    rw [List.filterMap_append, hread, hreceived]
    simp [EventFate.received?, List.filterMap_map]
  · have hread := h.filterMap_eq fun fate hfate => (EventFate.not_stored hfate).2
    rw [List.filterMap_append, hread, hflushed]
    simp [EventFate.flushed?, List.filterMap_map]
  · simp [List.filter_append, h.lost, List.filter_map, Function.comp_def]
  · have hclocked : ledger.filter (·.2 = .pending) = [] := by
      simpa [List.filter_eq_nil_iff] using h.clocked
    rw [List.filter_append, hclocked]
    simp [List.filter_map, Function.comp_def]

end EventLedger

/-! ## Runs -/

/-- The fates of the events that leave the queue in a step. -/
def Step.departures (step : Step max depth) : List (EventFate max) :=
  step.taken.map .received ++ step.flushed.map .flushed

/-- The fates of the events that some steps have taken out of the queue and of those still in it. -/
def storedFates (steps : List (Step max depth)) (last : Bench max depth) : List (EventFate max) :=
  steps.flatMap Step.departures ++ last.events.toList.map .received

/-- The fates of what leaves the queue are those of queued events. -/
theorem isStored_of_mem_storedFates {steps : List (Step max depth)} {last : Bench max depth}
    {fate : EventFate max} (h : fate ∈ storedFates steps last) : fate.isStored = true := by
  simp only [storedFates, Step.departures, List.mem_append, List.mem_flatMap, List.mem_map] at h
  obtain ⟨_, _, ⟨_, _, rfl⟩ | ⟨_, _, rfl⟩⟩ | ⟨_, _, rfl⟩ := h <;> rfl

/-- Their frames are those taken and flushed, step by step, and those still queued. -/
theorem map_frame_storedFates (steps : List (Step max depth)) (last : Bench max depth) :
    (storedFates steps last).map EventFate.frame =
      steps.flatMap (fun step => step.taken ++ step.flushed) ++ last.events.toList := by
  simp [storedFates, Step.departures, List.map_flatMap, EventFate.frame, Function.comp_def]

/-- Those received are the frames taken and those still queued. -/
theorem received_storedFates (steps : List (Step max depth)) (last : Bench max depth) :
    (storedFates steps last).filterMap EventFate.received? =
      steps.flatMap Step.taken ++ last.events.toList := by
  simp [storedFates, Step.departures, List.filterMap_flatMap, EventFate.received?,
    List.filterMap_map, Function.comp_def]

/-- Those flushed are the frames that the steps have flushed. -/
theorem flushed_storedFates (steps : List (Step max depth)) (last : Bench max depth) :
    (storedFates steps last).filterMap EventFate.flushed? = steps.flatMap Step.flushed := by
  simp [storedFates, Step.departures, List.filterMap_flatMap, EventFate.flushed?,
    List.filterMap_map, Function.comp_def]

/-- **Events arrive in order, at most once, uncorrupted, and there are no others.** Over a prepared
radio, with bytes, samples of READY and resets failing as scheduled, and after any run, there is a
ledger of the events that the radio was told to deliver. In it the frames taken by the application,
and then those still queued, stand in order against events that they carry; every other event was
discarded by a flush, declares no length, was clocked by an operation that answered with an error of
the link, or is still with the radio. -/
theorem events_received {idleStatus filler : UInt8} {scripts : List RadioScript}
    {exchange ready reset : List Bool} {config : TransportConfig} {t : Bench max depth}
    (h : Transport.init ((Radio.prepared idleStatus filler scripts).wired exchange ready reset)
      config = .ok t)
    (acts : List (Act max)) :
    ∃ ledger : EventLedger max, ledger.Closes filler
      (scripts.filterMap RadioScript.event? ++ acts.filterMap Act.event?) (journal acts t)
        (playAll acts t) := by
  obtain ⟨hquiet, -, hqueue, -, hfiller, hevents⟩ := Bench.quiet_of_init h
  have hscripted := radioEvents_balance hquiet acts
  obtain ⟨frames, hcarried, hbalance⟩ := queuedEvents_balance hquiet acts
  rw [hqueue, List.nil_append, ← map_frame_storedFates] at hbalance
  rw [hfiller, hbalance, List.forall₂_map_right_iff] at hcarried
  obtain ⟨ledger, hledger⟩ :=
    EventLedger.exists_covers (fun _ => isStored_of_mem_storedFates) hcarried
  rw [← hevents, hscripted]
  exact ⟨_, hledger.closes (received_storedFates _ _) (flushed_storedFates _ _)⟩

/-- Of five events the first is taken with the filler that its length asks for, the second is lost
in an aborted transfer, the third declares no length, the fourth is flushed, and the fifth stays
with the radio. -/
theorem events_received_of_five :
    ∃ t : Bench 2 2,
      Transport.init ((Radio.prepared 0 9 [.pushEvent ⟨1, 2, [7]⟩, .pushEvent ⟨2, 1, [7]⟩,
        .pushEvent ⟨3, 0, [7]⟩]).wired [false, false, false, false, false, true] [] []) {} = .ok t ∧
      let acts : List (Act 2) := [.op .tryReceive, .op .poll, .op .poll,
        .script (.pushEvent ⟨4, 1, [7]⟩), .op .poll, .op .flush, .script (.pushEvent ⟨5, 1, [7]⟩)]
      (journal acts t).flatMap Step.taken = [⟨1, 2, #v[7, 9]⟩] ∧
      (journal acts t).flatMap Step.flushed = [⟨4, 1, #v[7, 0]⟩] ∧
      (playAll acts t).radio.events = [⟨5, 1, [7]⟩] ∧
      ∃ ledger : EventLedger 2, ledger.Closes 9 [⟨1, 2, [7]⟩, ⟨2, 1, [7]⟩, ⟨3, 0, [7]⟩, ⟨4, 1, [7]⟩,
        ⟨5, 1, [7]⟩] (journal acts t) (playAll acts t) := by
  have hinit : Transport.init ((Radio.prepared 0 9 [.pushEvent ⟨1, 2, [7]⟩, .pushEvent ⟨2, 1, [7]⟩,
      .pushEvent ⟨3, 0, [7]⟩]).wired [false, false, false, false, false, true] [] []) {} =
      (.ok _ : Except _ (Bench 2 2)) := rfl
  refine ⟨_, hinit, rfl, rfl, rfl, ?_⟩
  exact events_received hinit [.op .tryReceive, .op .poll, .op .poll,
    .script (.pushEvent ⟨4, 1, [7]⟩), .op .poll, .op .flush, .script (.pushEvent ⟨5, 1, [7]⟩)]

end RadioLink
