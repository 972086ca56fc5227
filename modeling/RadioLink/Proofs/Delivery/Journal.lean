import RadioLink.Proofs.Host.Balance
import RadioLink.Proofs.Host.Run
import RadioLink.Proofs.Radio.Carried

/-!
# A bench and its journal

A bench is a transport over a simulated radio whose bytes, samples of READY and resets may fail as a
schedule has it. A run of it is a list of acts: operations of the transport, and what a test tells
the radio between them. `journal` lists the operations of a run, each with the bench that it met;
everything else about an operation is read off that bench: its answer, the bench after it, the calls
that it made, the bytes that were clocked in it, and the frames that it took in or gave out.

`Step.accounts` is what holds of every step of a run. A bench is `Quiet` between two operations: the
radio has no open transaction, so the next transfer opens one of its own, and the frames of the
transport reach the radio one transaction each.
-/

namespace RadioLink

variable {max depth : Nat}

/-! ## Benches -/

/-- The radio that a test prepares before a transport is brought up over it. -/
def Radio.prepared (idleStatus filler : UInt8) (scripts : List RadioScript) : Radio :=
  scripts.foldl (fun radio script => script.apply radio) { idleStatus, filler }

/-- A link to a radio on which bytes, samples of READY and resets fail as scheduled, and driving
REQUEST does not. -/
def Radio.wired (exchange ready reset : List Bool) (radio : Radio) : Traced (Faulty Radio) where
  link := { link := radio, faults := { exchange, ready, reset } }

/-- A transport over a radio with scheduled faults, whose calls are recorded. -/
abbrev Bench (max depth : Nat) : Type :=
  Transport (Traced (Faulty Radio)) max depth

/-- The radio of a bench. -/
def Bench.radio (t : Bench max depth) : Radio :=
  t.link.link.link

/-- The bench after its radio has been told something. -/
def Bench.tell (script : RadioScript) (t : Bench max depth) : Bench max depth :=
  { t with link := { t.link with link := { t.link.link with link := script.apply t.radio } } }

/-- What can happen to a bench. -/
inductive Act (max : Nat) where
  /-- An operation of the transport. -/
  | op (op : Transport.Op max)
  /-- Something that a test tells the radio. -/
  | script (script : RadioScript)

/-- The bench after an act. -/
def Act.play : Act max → Bench max depth → Bench max depth
  | .op asked, t => (asked.run t).2
  | .script told, t => t.tell told

/-- The bench after a run. -/
def playAll (acts : List (Act max)) (t : Bench max depth) : Bench max depth :=
  acts.foldl (fun t act => act.play t) t

/-- The event that a test has a radio deliver, if that is what it tells it. -/
def RadioScript.event? : RadioScript → Option RadioEvent
  | pushEvent event => some event
  | _ => none

/-- The event that a test has a radio deliver in an act, if there is one. -/
def Act.event? : Act max → Option RadioEvent
  | .op _ => none
  | .script told => told.event?

/-! ## Journals -/

/-- An operation of a run, with the bench that it met. -/
structure Step (max depth : Nat) where
  /-- The operation. -/
  op : Transport.Op max
  /-- The bench before it. -/
  before : Bench max depth

/-- The bench after the operation. -/
def Step.after (step : Step max depth) : Bench max depth :=
  (step.op.run step.before).2

/-- The operations of a run, in order. -/
def journal : List (Act max) → Bench max depth → List (Step max depth)
  | [], _ => []
  | .op op :: acts, t => ⟨op, t⟩ :: journal acts (Step.after ⟨op, t⟩)
  | .script script :: acts, t => journal acts (t.tell script)

theorem journal_op (op : Transport.Op max) (acts : List (Act max)) (t : Bench max depth) :
    journal (.op op :: acts) t = ⟨op, t⟩ :: journal acts (Step.after ⟨op, t⟩) := rfl

theorem journal_script (script : RadioScript) (acts : List (Act max)) (t : Bench max depth) :
    journal (.script script :: acts) t = journal acts (t.tell script) := rfl

theorem playAll_op (op : Transport.Op max) (acts : List (Act max)) (t : Bench max depth) :
    playAll (.op op :: acts) t = playAll acts (Step.after ⟨op, t⟩) := rfl

theorem playAll_script (script : RadioScript) (acts : List (Act max)) (t : Bench max depth) :
    playAll (.script script :: acts) t = playAll acts (t.tell script) := rfl

namespace Step

/-- What the operation answered. -/
def answer (step : Step max depth) : Except TransportError (Transport.Answer max) :=
  (step.op.run step.before).1

/-- The calls that the operation has made on the link. -/
def calls (step : Step max depth) : List Call :=
  step.after.link.calls.drop step.before.link.calls.length

/-- The bytes that were clocked out. -/
def clocked (step : Step max depth) : List UInt8 :=
  step.calls.filterMap Call.clocked?

/-- The command that the operation has accepted, if it has. -/
def accepted (step : Step max depth) : List (Frame max) :=
  step.op.accepted step.answer

/-- The commands that the operation has discarded. -/
def discarded (step : Step max depth) : List (Frame max) :=
  if step.op.flushes then step.before.commands.toList else []

/-- The command that the operation has handed to a transfer: the oldest one, if a byte was sent,
successfully or not. -/
def handed (step : Step max depth) : List (Frame max) :=
  if step.calls.any Call.isExchange then step.before.commands.peek?.toList else []

/-- The frame that a transfer of the operation sends: the oldest command, or an empty frame if there
is none. -/
def outbound (step : Step max depth) : Frame max :=
  step.before.commands.peek?.getD .empty

end Step

/-! ## Quiet benches -/

/-- Between operations the radio has no open transaction, no failure of REQUEST is scheduled, and
all queued commands fit into a frame. -/
structure Bench.Quiet (t : Bench max depth) : Prop where
  transaction : t.radio.transaction = none
  requests : t.link.link.faults.request = []
  fitting : ∀ frame ∈ t.commands.toList, frame.fits = true

/-- A script changes nothing of a radio that has to do with transactions, and adds its event. -/
theorem RadioScript.apply_eq (script : RadioScript) (radio : Radio) :
    (script.apply radio).transaction = radio.transaction ∧
    (script.apply radio).commands = radio.commands ∧
    (script.apply radio).filler = radio.filler ∧
    (script.apply radio).events = radio.events ++ script.event?.toList := by
  cases script with
  | pushEvent event => exact ⟨rfl, rfl, rfl, rfl⟩
  | forceReady level | failAfter count => exact ⟨rfl, rfl, rfl, (List.append_nil _).symm⟩

/-- Whatever its radio is told a bench stays quiet. -/
theorem Bench.Quiet.tell {t : Bench max depth} (h : t.Quiet) (script : RadioScript) :
    (t.tell script).Quiet :=
  ⟨(script.apply_eq t.radio).1.trans h.transaction, h.requests, h.fitting⟩

/-- A prepared radio has the events that it was told to deliver, and nothing else has happened to
it. -/
theorem Radio.prepared_eq (idleStatus filler : UInt8) (scripts : List RadioScript) :
    (prepared idleStatus filler scripts).transaction = none ∧
    (prepared idleStatus filler scripts).commands = [] ∧
    (prepared idleStatus filler scripts).filler = filler ∧
    (prepared idleStatus filler scripts).events = scripts.filterMap RadioScript.event? := by
  suffices h : ∀ radio : Radio,
      (scripts.foldl (fun radio script => script.apply radio) radio).transaction =
      radio.transaction ∧
      (scripts.foldl (fun radio script => script.apply radio) radio).commands = radio.commands ∧
      (scripts.foldl (fun radio script => script.apply radio) radio).filler = radio.filler ∧
      (scripts.foldl (fun radio script => script.apply radio) radio).events =
        radio.events ++ scripts.filterMap RadioScript.event? from h { idleStatus, filler }
  induction scripts with
  | nil => exact fun radio => ⟨rfl, rfl, rfl, (List.append_nil _).symm⟩
  | cons script scripts ih =>
    intro radio
    obtain ⟨htransaction, hcommands, hfiller, hevents⟩ := script.apply_eq radio
    obtain ⟨htransaction', hcommands', hfiller', hevents'⟩ := ih (script.apply radio)
    refine ⟨htransaction'.trans htransaction, hcommands'.trans hcommands,
      hfiller'.trans hfiller, ?_⟩
    rw [List.foldl_cons, hevents', hevents, List.append_assoc]
    cases h : script.event? <;> simp [h]

/-- A transport brought up over a prepared radio is a quiet bench with empty queues, and the radio
is as it was prepared. -/
theorem Bench.quiet_of_init {idleStatus filler : UInt8} {scripts : List RadioScript}
    {exchange ready reset : List Bool} {config : TransportConfig} {t : Bench max depth}
    (h : Transport.init ((Radio.prepared idleStatus filler scripts).wired exchange ready reset)
      config = .ok t) :
    t.Quiet ∧ t.commands.toList = [] ∧ t.events.toList = [] ∧ t.radio.commands = [] ∧
      t.radio.filler = filler ∧ t.radio.events = scripts.filterMap RadioScript.event? := by
  obtain ⟨hhost, calls, htrace, hsilent, -⟩ := Transport.init_eq_ok h
  obtain ⟨htransaction, hcommands, hfiller, hevents⟩ := Radio.prepared_eq idleStatus filler scripts
  have hqueues : t.commands.toList = [] ∧ t.events.toList = [] :=
    ⟨congrArg (·.commands.toList) hhost, congrArg (·.events.toList) hhost⟩
  have hrequests := (htrace.link.requestsSucceed (fun _ _ => rfl) rfl).2
  have hradio : t.radio = calls.foldl Radio.hear (.prepared idleStatus filler scripts) :=
    (Radio.of_trace htrace.link).1
  have hstill := Radio.silent_undisturbed htransaction hsilent
  rw [← hradio] at hstill
  refine ⟨⟨hstill.transaction, hrequests, ?_⟩, hqueues.1, hqueues.2,
    hstill.commands.trans hcommands, hstill.filler.trans hfiller, hstill.events.trans hevents⟩
  rw [hqueues.1]
  exact nofun

/-! ## The account of a step -/

/-- What holds of a step of a run: its queues balance around a transfer that came to `result`, and
its calls are a transfer of `count` bytes to the radio. -/
structure Step.Accounts (step : Step max depth)
    (result : Option (Except LinkError (Transfer.Outcome max))) (count : Nat) : Prop where
  balances : step.before.host.Balances step.op step.calls step.answer result step.after.host
  heard : Transfer.Heard step.outbound step.calls result step.before.radio count
  radio : step.after.radio = step.calls.foldl Radio.hear step.before.radio

/-- A step is a transfer to the radio, of the bytes that were clocked. -/
theorem Step.Accounts.transferred {step : Step max depth}
    {result : Option (Except LinkError (Transfer.Outcome max))} {count : Nat}
    (h : step.Accounts result count) :
    step.before.radio.Transferred (step.outbound.wire count) step.after.radio := by
  rw [h.radio]
  exact h.heard.transferred

/-- A step on a quiet bench has an account, and leaves the bench quiet. -/
theorem Step.accounts (step : Step max depth) (h : step.before.Quiet) :
    (∃ result count, step.Accounts result count) ∧ step.after.Quiet := by
  obtain ⟨calls, htrace, hperforms⟩ := step.op.run_performs step.before
  obtain rfl : step.calls = calls := by
    rw [Step.calls, Step.after, htrace.calls_eq, List.drop_left]
  obtain ⟨hrequests, hrequests'⟩ := htrace.link.requestsSucceed (fun _ _ => rfl) h.requests
  obtain ⟨hradio, hreplies⟩ := Radio.of_trace htrace.link
  obtain ⟨result, hbalances⟩ := hperforms.balances hrequests
  obtain ⟨count, hheard⟩ := hbalances.within.heard hrequests h.transaction hreplies
  have haccounts : step.Accounts result count := ⟨hbalances, hheard, hradio⟩
  exact ⟨⟨result, count, haccounts⟩, haccounts.transferred.transaction, hrequests',
    hbalances.queued_fit h.fitting⟩

/-- All benches of a run are quiet. -/
theorem quiet_of_mem_journal {t : Bench max depth} (h : t.Quiet) {acts : List (Act max)}
    {step : Step max depth} (hstep : step ∈ journal acts t) : step.before.Quiet := by
  induction acts generalizing t with
  | nil => cases hstep
  | cons act acts ih =>
    cases act with
    | op op =>
      rcases List.mem_cons.1 hstep with rfl | hstep
      · exact h
      · exact ih (Step.accounts ⟨op, t⟩ h).2 hstep
    | script script => exact ih (h.tell script) hstep

end RadioLink
