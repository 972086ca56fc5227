import RadioLink.CommandLine.Run
import RadioLink.Proofs.Frame.Encoding
import RadioLink.Proofs.Simulation.Printed
import RadioLink.Proofs.Simulation.Progress

/-!
# What a simulation comes to

A simulation whose script and payloads can be read, and whose commands fit a frame, runs over a
healthy radio (`Reads.plan`), and how far it has come tells what it prints and how it ends. Within
any number of cycles it tells the truth: the commands reported as undelivered are those that no
transfer has taken, and what is printed of events and commands are the first of each
(`simulate_truthful`). Within as many cycles as there are commands or events it comes to its end
(`simulate_complete`).
-/

namespace RadioLink

/-! ## Frames and events of payloads -/

namespace Frame

variable {max : Nat}

/-- A frame to send with the given bytes as its payload. -/
structure Bears (bytes : List UInt8) (frame : Frame max) : Prop where
  payload : frame.payload = bytes
  length : frame.length = 0 ↔ bytes = []
  fits : frame.fits = true

/-- A length that fits a byte is zero as a byte only if it is zero. -/
theorem ofNat_eq_zero_iff {n : Nat} (h : n < 256) : UInt8.ofNat n = 0 ↔ n = 0 := by
  rw [← UInt8.toNat_inj, UInt8.toNat_ofNat_of_lt' h]
  rfl

/-- A payload that fits a frame makes a command that bears it. -/
theorem command_bears {bytes : List UInt8} (h : bytes.length ≤ max) (hmax : max < 256) :
    ∃ frame : Frame max, command bytes = .ok frame ∧ frame.Bears bytes := by
  have hbuilt := encodes_fill 0 h (Nat.le_of_lt_succ hmax)
  refine ⟨_, by rw [command, event, if_pos h], hbuilt.payload, ?_, hbuilt.fits⟩
  rw [← UInt8.toNat_inj, hbuilt.length]
  exact List.length_eq_zero_iff

/-- The commands that a radio has of frames are the payloads that are not empty. -/
theorem payloads_of_bears {payloads : List (List UInt8)} {frames : List (Frame max)}
    (h : List.Forall₂ Bears payloads frames) :
    RadioLink.payloads frames = payloads.filter (· ≠ []) := by
  induction h with
  | nil => rfl
  | @cons bytes frame payloads frames hbears _ ih =>
    rw [RadioLink.payloads] at ih ⊢
    by_cases hbytes : bytes = []
    · have hlength := hbears.length.2 hbytes
      simp [hlength, hbytes, ih]
    · have hlength := mt hbears.length.1 hbytes
      simp [hlength, hbytes, ih, hbears.payload]

/-- Frames that bear payloads fit their length bytes. -/
theorem fits_of_bears {payloads : List (List UInt8)} {frames : List (Frame max)}
    (h : List.Forall₂ Bears payloads frames) : ∀ frame ∈ frames, frame.fits = true := by
  induction h with
  | nil => nofun
  | cons hbears _ ih => exact List.forall_mem_cons.2 ⟨hbears.fits, ih⟩

end Frame

namespace Simulation

/-- The event that the radio delivers. -/
def GivenEvent.toRadio (event : GivenEvent) : RadioEvent :=
  .ofPayload event.status event.payload

/-- The radio declares the length of the payload, up to the greatest length there is. -/
theorem GivenEvent.toNat_length (event : GivenEvent) :
    event.toRadio.length.toNat = min event.payload.length 255 := by
  have hbyte : min event.payload.length 255 < 256 := by omega
  exact UInt8.toNat_ofNat_of_lt' hbyte

/-- An event declares a length exactly if it has a payload. -/
theorem GivenEvent.length_ne_zero (event : GivenEvent) :
    (event.toRadio.length != 0) = decide (event.payload ≠ []) := by
  have hbyte : min event.payload.length 255 < 256 := by omega
  have hzero : event.toRadio.length = 0 ↔ event.payload = [] := by
    show UInt8.ofNat (min event.payload.length 255) = 0 ↔ _
    rw [Frame.ofNat_eq_zero_iff hbyte, ← List.length_eq_zero_iff]
    omega
  rw [Bool.eq_iff_iff, bne_iff_ne, decide_eq_true_iff, ne_eq, hzero]

/-- The events that declare a length are those with a payload. -/
theorem filter_toRadio (events : List GivenEvent) :
    (events.map GivenEvent.toRadio).filter (·.length != 0) =
      (events.filter (·.payload ≠ [])).map GivenEvent.toRadio := by
  rw [List.filter_map]
  exact congrArg (List.map _) (List.filter_congr fun event _ => event.length_ne_zero)

/-- A frame that carries an event shows it. The filler has no part in it, since the event declares
no more than it has. -/
theorem shows_of_carried {filler : UInt8} {event : GivenEvent} {frame : StandardFrame}
    (h : event.toRadio.Carried filler frame) : Shows event frame where
  status := h.status
  length := by rw [h.length, event.toNat_length]
  payload := by
    have hdeclared : min event.toRadio.length.toNat Frame.defaultCapacity =
        min event.payload.length Frame.defaultCapacity := by
      rw [event.toNat_length, Frame.defaultCapacity]
      omega
    have hpayload : event.toRadio.payload = event.payload := rfl
    rw [h.payload, hdeclared, hpayload, List.take_append_of_le_length (Nat.min_le_left _ _),
      Nat.min_comm]
    exact List.take_eq_take_min.symm

/-! ## Reading the input -/

/-- If each element is read as something, then the list is. -/
theorem mapM_of_forall₂ {α β γ ε : Type} {f : α → Except ε β} {P : γ → β → Prop} {xs : List α}
    {cs : List γ} (h : List.Forall₂ (fun x c => ∃ y, f x = .ok y ∧ P c y) xs cs) :
    ∃ ys, xs.mapM f = .ok ys ∧ List.Forall₂ P cs ys := by
  induction h with
  | nil => exact ⟨[], rfl, .nil⟩
  | cons hx _ ih =>
    obtain ⟨y, hy, hP⟩ := hx
    obtain ⟨ys, hys, hPs⟩ := ih
    exact ⟨y :: ys, by rw [List.mapM_cons, hy, hys]; rfl, .cons hP hPs⟩

/-- A text gives the payload of a command, which fits a frame. -/
structure ReadsCommand (text : String) (bytes : List UInt8) : Prop where
  payload : Text.Hex.decode text = .ok bytes
  fits : bytes.length ≤ Frame.defaultCapacity

/-- An event of a script is the given one. -/
structure ReadsEvent (event : ScriptEvent) (given : GivenEvent) : Prop where
  status : event.status = given.status
  payload : Text.Hex.decode event.payload = .ok given.payload

/-- What can be read as a command becomes a frame that bears it. -/
theorem ReadsCommand.bears {text : String} {bytes : List UInt8} (h : ReadsCommand text bytes) :
    ∃ frame, readCommand text = .ok frame ∧ Frame.Bears bytes frame := by
  obtain ⟨frame, hframe, hbears⟩ := Frame.command_bears h.fits (by decide)
  exact ⟨frame, by simp only [readCommand, readPayload, h.payload, hframe], hbears⟩

/-- What can be read as an event becomes the event that the radio delivers. -/
theorem ReadsEvent.toRadio {event : ScriptEvent} {given : GivenEvent} (h : ReadsEvent event given) :
    readEvent event = .ok given.toRadio := by
  rw [readEvent, readPayload, h.payload, h.status]
  rfl

end Simulation

namespace CommandLine

open Simulation

/-- What a simulation is asked for can be read: its script, and the commands and events, those of
the script before those of the command line. -/
structure Reads (world : World) (o : SimulateOptions) (script : Script)
    (commands : List (List UInt8)) (events : List GivenEvent) : Prop where
  loads : loadScript world o.script = .ok script
  readsCommands : List.Forall₂ ReadsCommand (script.commands ++ o.commands) commands
  readsEvents : List.Forall₂ ReadsEvent
    (script.events ++ o.events.map fun payload => { status := o.status, payload }) events

variable {world : World} {o : SimulateOptions} {script : Script} {commands : List (List UInt8)}
  {events : List GivenEvent}

/-- What can be read becomes a plan: frames that bear the commands, and a healthy radio with the
events. -/
theorem Reads.plan (h : Reads world o script commands events) :
    ∃ plan, CommandLine.plan world o = .ok plan ∧ List.Forall₂ Frame.Bears commands plan.commands ∧
      plan.radio.Healthy ∧ plan.radio.commands = [] ∧
      plan.radio.events = events.map GivenEvent.toRadio := by
  obtain ⟨frames, hframes, hbear⟩ :=
    mapM_of_forall₂ (h.readsCommands.imp fun _ _ hreads => hreads.bears)
  obtain ⟨pending, hpending, hsame⟩ := mapM_of_forall₂
    (h.readsEvents.imp fun _ given hreads => ⟨given.toRadio, hreads.toRadio, rfl⟩)
  have hevents : events.map GivenEvent.toRadio = pending := by
    rw [← List.forall₂_eq_eq_eq, List.forall₂_map_left_iff]
    exact hsame
  let radio : Radio :=
    { events := pending, filler := script.filler.getD 0, idleStatus := script.idleStatus }
  refine ⟨{ commands := frames, radio, config := script.transport }, ?_, hbear, ⟨rfl, rfl, rfl⟩,
    rfl, hevents.symm⟩
  simp only [CommandLine.plan, h.loads, Script.plan, Script.extend, hpending, hframes]
  rfl

/-! ## The end of a simulation -/

/-- A simulation that can read its input comes to where its cycles have brought it. -/
theorem Reads.simulate_eq (h : Reads world o script commands events) (format : Format) :
    ∃ plan p, CommandLine.plan world o = .ok plan ∧
      plan.run o.driver o.maxCycles.toNat = Progress.course (.ok (), p) ∧
      simulate world format o =
        ⟨(Progress.course (.ok (), p)).print world.draw format,
          (Progress.course (.ok (), p)).failure⟩ ∧
      p.Underway plan ∧ List.Forall₂ Frame.Bears commands plan.commands ∧
      plan.radio.events = events.map GivenEvent.toRadio ∧
      p.cycles ≤ max commands.length events.length + 1 ∧
      (max commands.length events.length ≤ o.maxCycles.toNat → p.left = 0) := by
  obtain ⟨plan, hplan, hbear, hradio, hfresh, hevents⟩ := h.plan
  obtain ⟨p, hrun, hunderway, hcycles, hend⟩ :=
    Plan.run_underway hradio hfresh (Frame.fits_of_bears hbear) o.driver o.maxCycles.toNat
  have hlengths : max plan.commands.length plan.radio.events.length =
      max commands.length events.length := by
    rw [hbear.length_eq, hevents, List.length_map]
  rw [hlengths] at hcycles hend
  refine ⟨plan, p, hplan, hrun, ?_, hunderway, hbear, hevents, hcycles, hend⟩
  simp only [simulate, hplan, hrun]

/-- While a simulation is underway the radio has the commands sent, except those without a
payload. -/
theorem delivered_of_bear {plan : Plan} {p : Progress} (h : p.Underway plan)
    (hbear : List.Forall₂ Frame.Bears commands plan.commands) :
    p.host.link.commands = (commands.take p.host.stats.commandsSent).filter (· ≠ []) := by
  rw [h.delivered_eq, Frame.payloads_of_bears (List.forall₂_take _ hbear)]

/-- While a simulation is underway the frames received show the first events that have a payload. -/
theorem received_shows {plan : Plan} {p : Progress} (h : p.Underway plan)
    (hevents : plan.radio.events = events.map GivenEvent.toRadio) :
    List.Forall₂ Shows ((events.filter (·.payload ≠ [])).take p.received.length) p.received := by
  have hcarried := h.received_carried
  rw [hevents, filter_toRadio, ← List.map_take, List.forall₂_map_left_iff] at hcarried
  exact hcarried.imp fun _ _ => shows_of_carried

/-- Whatever number of cycles it has, a simulation that can read its input runs without an error of
the transport. It succeeds exactly if every command has been sent, and otherwise fails with the
number of commands that have not. It prints the first of the events, with consecutive indices, and
then a summary; the radio has received the first of the commands. Both leave out what has no
payload. -/
theorem simulate_truthful (format : Format) (h : Reads world o script commands events) :
    ∃ plan frames summary undelivered,
      CommandLine.plan world o = .ok plan ∧
      plan.run o.driver o.maxCycles.toNat =
        ⟨frames, some summary,
          if undelivered = 0 then none else some (.undelivered undelivered summary.cycles)⟩ ∧
      (simulate world format o).output.data.toList =
        (((events.filter (·.payload ≠ [])).take frames.length).zipIdx.flatMap
          fun (event, index) => event.printed world.draw format index) ++
        summary.printed world.draw format ∧
      (simulate world format o).failure =
        (if undelivered = 0 then none else some (.undelivered undelivered summary.cycles)) ∧
      (simulate world format o).failure.map Failure.message =
        (if undelivered = 0 then none
          else some s!"{undelivered} command(s) undelivered after {summary.cycles} cycles") ∧
      (simulate world format o).exitCode = (if undelivered = 0 then 0 else 1) ∧
      undelivered + summary.stats.commandsSent = commands.length ∧
      summary.delivered = (commands.take (commands.length - undelivered)).filter (· ≠ []) ∧
      List.Forall₂ Shows ((events.filter (·.payload ≠ [])).take frames.length) frames := by
  obtain ⟨plan, p, hplan, hrun, hsimulate, hunderway, hbear, hevents, -⟩ := h.simulate_eq format
  have hcount := hunderway.undelivered_add_sent
  rw [← hbear.length_eq] at hcount
  have hsent : p.host.stats.commandsSent = commands.length - p.undelivered := by omega
  have hshows := received_shows hunderway hevents
  have hfailure : (simulate world format o).failure =
      if p.undelivered = 0 then none else some (.undelivered p.undelivered p.cycles) := by
    rw [hsimulate]
    rfl
  refine ⟨plan, p.received, ⟨p.cycles, p.host.stats, p.host.link.commands⟩, p.undelivered, hplan,
    hrun, ?_, hfailure, ?_, ?_, hcount, ?_, hshows⟩
  · rw [hsimulate]
    exact Course.data_print hshows world.draw format _ _
  · rw [hfailure]
    split <;> rfl
  · rw [Outcome.exitCode, hfailure]
    split <;> rfl
  · rw [← hsent]
    exact delivered_of_bear hunderway hbear

/-- A world in which every file is a script of one command. -/
def World.scripted : World where
  file _ := .ok "\x7b\"commands\": [\"0102\"]\x7d".toUTF8
  build := ⟨"", "", ""⟩

/-- The script, with two commands and two events of the command line behind its command. -/
def scriptedOptions (driver : Driver) (maxCycles : UInt64) : SimulateOptions :=
  { commands := ["", "03"], events := ["aa", ""], status := 7, script := some "script", driver,
    maxCycles }

/-- What the scripted world is asked for can be read. -/
theorem reads_scripted (driver : Driver) (maxCycles : UInt64) :
    Reads .scripted (scriptedOptions driver maxCycles) { commands := ["0102"] } [[1, 2], [], [3]]
      [⟨7, [0xaa]⟩, ⟨7, []⟩] where
  loads := by
    show loadScript .scripted (some "script") = _
    decide +kernel
  readsCommands := .cons ⟨rfl, by decide⟩ (.cons ⟨rfl, by decide⟩ (.cons ⟨rfl, by decide⟩ .nil))
  readsEvents := by
    have hdecode : Text.Hex.decode "aa" = .ok [0xaa] := by decide
    exact .cons ⟨rfl, hdecode⟩ (.cons ⟨rfl, rfl⟩ .nil)

/-- One cycle for three commands and two events: the event with a payload is taken and the first
command sent, and the simulation fails for the other two. -/
theorem simulate_truthful_of_script :
    let outcome := simulate .scripted .pretty (scriptedOptions .poll 1)
    outcome.output.data.toList =
      utf8 ("event #0 status=0x07 length=1 payload=aa\n" ++
        "cycles=1 transfers=1 empty_polls=0 commands_sent=1 events_received=1 stalls=0\n" ++
        "radio got command 0102\n") ∧
    outcome.failure = some (.undelivered 2 1) ∧
    outcome.failure.map Failure.message = some "2 command(s) undelivered after 1 cycles" ∧
    outcome.exitCode = 1 ∧
    ∃ (frames : List StandardFrame) (summary : Summary) (undelivered : Nat),
      outcome.output.data.toList =
        ((([⟨7, [0xaa]⟩] : List GivenEvent).take frames.length).zipIdx.flatMap
          fun (event, index) => event.printed Text.Table.render .pretty index) ++
        summary.printed Text.Table.render .pretty ∧
      outcome.exitCode = (if undelivered = 0 then 0 else 1) ∧
      undelivered + summary.stats.commandsSent = 3 ∧
      summary.delivered = ([[1, 2], [], [3]].take (3 - undelivered)).filter (· ≠ []) := by
  have hfailure : (simulate .scripted .pretty (scriptedOptions .poll 1)).failure =
      some (.undelivered 2 1) := by decide +kernel
  obtain ⟨plan, frames, summary, undelivered, -, -, houtput, -, -, hexit, hcount, hdelivered, -⟩ :=
    simulate_truthful .pretty (reads_scripted .poll 1)
  refine ⟨by decide +kernel, hfailure, ?_, by decide +kernel, frames, summary, undelivered, houtput,
    hexit, hcount, hdelivered⟩
  rw [hfailure]
  rfl

/-- Within as many cycles as there are commands or events, whichever are more, a simulation that can
read its input succeeds, whichever driver it has. It stops after one more cycle at most. The radio
has received every command, and every event is printed, with consecutive indices, but for those
without a payload. -/
theorem simulate_complete (format : Format) (h : Reads world o script commands events)
    (hcycles : max commands.length events.length ≤ o.maxCycles.toNat) :
    ∃ plan frames summary,
      CommandLine.plan world o = .ok plan ∧
      plan.run o.driver o.maxCycles.toNat = ⟨frames, some summary, none⟩ ∧
      (simulate world format o).output.data.toList =
        ((events.filter (·.payload ≠ [])).zipIdx.flatMap
          fun (event, index) => event.printed world.draw format index) ++
        summary.printed world.draw format ∧
      (simulate world format o).failure = none ∧
      (simulate world format o).exitCode = 0 ∧
      summary.cycles ≤ max commands.length events.length + 1 ∧
      summary.delivered = commands.filter (· ≠ []) ∧
      List.Forall₂ Shows (events.filter (·.payload ≠ [])) frames := by
  obtain ⟨plan, p, hplan, hrun, hsimulate, hunderway, hbear, hevents, hcount, hend⟩ :=
    h.simulate_eq format
  have hleft := hend hcycles
  have hundelivered : p.undelivered = 0 := Nat.le_zero.1 (hleft ▸ Nat.le_max_left _ _)
  have hcourse : Progress.course (.ok (), p) =
      ⟨p.received, some ⟨p.cycles, p.host.stats, p.host.link.commands⟩, none⟩ := by
    rw [Progress.course, if_pos hundelivered]
  have hsent : p.host.stats.commandsSent = commands.length := by
    have hsum := hunderway.undelivered_add_sent
    rw [← hbear.length_eq] at hsum
    omega
  have hshows : List.Forall₂ Shows (events.filter (·.payload ≠ [])) p.received := by
    have hall : p.received.length = (events.filter (·.payload ≠ [])).length := by
      rw [hunderway.length_received hleft, hevents, filter_toRadio, List.length_map]
    have hfirst := received_shows hunderway hevents
    rwa [hall, List.take_length] at hfirst
  refine ⟨plan, p.received, ⟨p.cycles, p.host.stats, p.host.link.commands⟩, hplan,
    hrun.trans hcourse, ?_, ?_, ?_, hcount, ?_, hshows⟩
  · rw [hsimulate, hcourse]
    exact Course.data_print hshows world.draw format _ _
  · rw [hsimulate, hcourse]
  · rw [hsimulate, hcourse]
    rfl
  · rw [← List.take_length (l := commands), ← hsent]
    exact delivered_of_bear hunderway hbear

/-- Three cycles for three commands and two events, of which the simulation needs two. -/
theorem simulate_complete_of_script :
    let outcome := simulate .scripted .json (scriptedOptions .edge 3)
    outcome.output.data.toList =
      utf8 ("\x7b\"kind\":\"event\",\"index\":0,\"status\":7,\"length\":1," ++
        "\"payload\":\"aa\"\x7d\n" ++
        "\x7b\"kind\":\"summary\",\"cycles\":2,\"transfers\":3,\"empty_polls\":0," ++
        "\"commands_sent\":3,\"events_received\":1,\"events_dropped\":0," ++
        "\"backpressure_stalls\":0,\"delivered_commands\":[\"0102\",\"03\"]\x7d\n") ∧
    outcome.failure = none ∧ outcome.exitCode = 0 ∧
    ∃ summary : Summary,
      outcome.output.data.toList =
        (([⟨7, [0xaa]⟩] : List GivenEvent).zipIdx.flatMap
          fun (event, index) => event.printed Text.Table.render .json index) ++
        summary.printed Text.Table.render .json ∧
      summary.cycles ≤ 4 ∧ summary.delivered = [[1, 2], [3]] := by
  obtain ⟨plan, frames, summary, -, -, houtput, hfailure, hexit, hcycles, hdelivered, -⟩ :=
    simulate_complete .json (reads_scripted .edge 3) (by decide)
  exact ⟨by decide +kernel, hfailure, hexit, summary, houtput, hcycles, hdelivered⟩

end CommandLine

end RadioLink
