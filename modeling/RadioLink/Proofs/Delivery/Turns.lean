import RadioLink.Proofs.Delivery.Commands

/-!
# What becomes of a command

A command leaves its queue in a turn of the transport: an operation that somebody has asked for, or
the replay of an edge, which answers nobody (`Turn`). A flush discards it, or a transfer takes it to
the radio, or the link fails in its transfer (`CommandFate`), and `settled` is the ledger of all
that leave the queue in some turns. In other turns somebody uses the link beside the transport.

`Settles` is what holds of turns one after another: the commands accepted in them are those that the
ledger has and those still queued, the radio has what was recorded, and the errors of which a caller
was told are among those that the turns have answered. It holds of each kind of turn, and turns can
be put together (`Settles.append`). A turn of the transport needs a bench without an open
transaction, so bytes that somebody else exchanges have to be followed by a release of REQUEST
before its next turn: `Bench.Orderly` says whether that release is still to come.
-/

namespace RadioLink

variable {max depth : Nat}

/-! ## Fates -/

/-- What becomes of a command when it leaves its queue. -/
inductive CommandFate where
  /-- A flush discards it. -/
  | flushed
  /-- It is handed to a transfer that takes all of it to the radio. -/
  | recorded
  /-- It is handed to a transfer in which the link fails. A caller is or is not told. -/
  | failed (e : LinkError) (told : Bool)

/-- Commands with what becomes of them. -/
abbrev CommandLedger (max : Nat) : Type :=
  List (Frame max × CommandFate)

namespace CommandLedger

/-- The payloads that the radio has to have. A command without payload leaves nothing with the
radio. -/
def recorded (ledger : CommandLedger max) : List (List UInt8) :=
  ledger.filterMap fun
    | (frame, .recorded) => if frame.length = 0 then none else some frame.payload
    | _ => none

/-- The errors that a caller has to have got. -/
def reported (ledger : CommandLedger max) : List LinkError :=
  ledger.filterMap fun
    | (_, .failed e true) => some e
    | _ => none

theorem recorded_append (a b : CommandLedger max) : recorded (a ++ b) = recorded a ++ recorded b :=
  List.filterMap_append

theorem reported_append (a b : CommandLedger max) : reported (a ++ b) = reported a ++ reported b :=
  List.filterMap_append

/-- Where no entry is recorded the radio has nothing to have. -/
theorem recorded_eq_nil {ledger : CommandLedger max} (h : ∀ entry ∈ ledger, entry.2 ≠ .recorded) :
    ledger.recorded = [] := by
  refine List.filterMap_eq_nil_iff.2 fun entry hentry => ?_
  have hfate := h entry hentry
  obtain ⟨frame, fate⟩ := entry
  cases fate with
  | recorded => exact absurd rfl hfate
  | flushed | failed => rfl

/-- Where no failure is told no caller has anything to get. -/
theorem reported_eq_nil {ledger : CommandLedger max}
    (h : ∀ entry ∈ ledger, ∀ e, entry.2 ≠ .failed e true) :
    ledger.reported = [] := by
  refine List.filterMap_eq_nil_iff.2 fun entry hentry => ?_
  have hfate := h entry hentry
  obtain ⟨frame, fate⟩ := entry
  cases fate with
  | failed e told =>
    cases told with
    | true => exact absurd rfl (hfate e)
    | false => rfl
  | flushed | recorded => rfl

end CommandLedger

/-- The link error in an answer, if there is one. -/
def TransportError.cause? : TransportError → Option LinkError
  | link cause => some cause
  | _ => none

/-- The link errors in some answers. -/
def linkErrors {α : Type} (answers : List (Except TransportError α)) : List LinkError :=
  answers.filterMap fun
    | .error e => e.cause?
    | .ok _ => none

theorem linkErrors_cons {α : Type} (answer : Except TransportError α)
    (answers : List (Except TransportError α)) :
    linkErrors (answer :: answers) = linkErrors [answer] ++ linkErrors answers := by
  rw [linkErrors, linkErrors, linkErrors, ← List.filterMap_append, List.singleton_append]

/-! ## Turns -/

/-- What somebody does with a radio beside the transport, other than to exchange a byte. -/
inductive Touch where
  /-- Drives REQUEST. -/
  | setRequest (level : Bool)
  /-- Samples READY. -/
  | readReady
  /-- Resets the radio. -/
  | reset
  /-- Tells the radio something. -/
  | script (told : RadioScript)

/-- The link after a touch, which fails if that is scheduled. -/
def Touch.apply : Touch → Faulty Radio → Faulty Radio
  | setRequest level, link => (Link.setRequest level link).2
  | readReady, link => (Link.readReady link).2
  | reset, link => (Link.reset link).2
  | script told, link => { link with link := told.apply link.link }

/-- The bench after somebody has touched its radio. -/
def Bench.touch (touch : Touch) (t : Bench max depth) : Bench max depth :=
  { t with link := { t.link with link := touch.apply t.link.link } }

/-- The bench after somebody has exchanged a byte on its link. -/
def Bench.clock (byte : UInt8) (t : Bench max depth) : Bench max depth :=
  { t with link := (Link.exchange byte t.link).2 }

/-- What happens to the transport behind a handle and to its link, one thing at a time. -/
inductive Turn (max : Nat) where
  /-- An operation that somebody has asked for. -/
  | own (op : Transport.Op max)
  /-- A cycle for a latched edge, which nobody waits for. -/
  | replay
  /-- Something that somebody does with the radio. -/
  | touch (touch : Touch)
  /-- A byte that somebody exchanges. -/
  | clock (byte : UInt8)

/-- The bench after a turn. -/
def Turn.play : Turn max → Bench max depth → Bench max depth
  | own op, t => (op.run t).2
  | replay, t => t.onReadyEdge.2
  | touch what, t => t.touch what
  | clock byte, t => t.clock byte

/-- What becomes of a command that is handed over in an operation with this answer. -/
def CommandFate.ofAnswer {α : Type} (told : Bool) : Except TransportError α → CommandFate
  | .error (.link e) => .failed e told
  | _ => .recorded

/-- The commands that leave the queue in an operation. A caller is or is not told what the operation
answers. -/
def Step.settled (told : Bool) (step : Step max depth) : CommandLedger max :=
  step.discarded.map (·, .flushed) ++ step.handed.map (·, .ofAnswer told step.answer)

/-- The commands that leave the queue in a turn. -/
def Turn.settled : Turn max → Bench max depth → CommandLedger max
  | own op, t => Step.settled true ⟨op, t⟩
  | replay, t => Step.settled false ⟨.readyEdge, t⟩
  | touch _, _ | clock _, _ => []

/-- The bench after some turns. -/
def playTurns (turns : List (Turn max)) (t : Bench max depth) : Bench max depth :=
  turns.foldl (fun t turn => turn.play t) t

/-- The commands that leave the queue in some turns, in order. -/
def settled : List (Turn max) → Bench max depth → CommandLedger max
  | [], _ => []
  | turn :: turns, t => turn.settled t ++ settled turns (turn.play t)

theorem playTurns_append (a b : List (Turn max)) (t : Bench max depth) :
    playTurns (a ++ b) t = playTurns b (playTurns a t) :=
  List.foldl_append

/-- The ledger of turns in two parts. -/
theorem settled_append (a b : List (Turn max)) (t : Bench max depth) :
    settled (a ++ b) t = settled a t ++ settled b (playTurns a t) := by
  induction a generalizing t with
  | nil => rfl
  | cons turn turns ih =>
    simp only [List.cons_append, settled, ih, List.append_assoc]
    rfl

/-- Some turns take a bench to another one. The commands accepted in them have left the queue or are
queued, the radio has those that have been recorded, and those reported are among the errors
answered. -/
structure Settles (turns : List (Turn max)) (t : Bench max depth) (accepted : List (Frame max))
    (errors : List LinkError) (t' : Bench max depth) : Prop where
  ends : t' = playTurns turns t
  commands : t.commands.toList ++ accepted = (settled turns t).map Prod.fst ++ t'.commands.toList
  recorded : ∃ entries, t'.radio.commands = t.radio.commands ++ entries ∧
    ((settled turns t).recorded).Sublist entries
  reported : ((settled turns t).reported).Sublist errors

namespace Settles

/-- Without a turn nothing happens. -/
theorem nil (t : Bench max depth) : Settles [] t [] [] t where
  ends := rfl
  commands := List.append_nil _
  recorded := ⟨[], (List.append_nil _).symm, .refl _⟩
  reported := .refl _

/-- What some turns settle and what further turns settle from there makes up what all of them do. -/
theorem append {a b : List (Turn max)} {t t₁ t₂ : Bench max depth}
    {accepted accepted' : List (Frame max)} {errors errors' : List LinkError}
    (h : Settles a t accepted errors t₁) (h' : Settles b t₁ accepted' errors' t₂) :
    Settles (a ++ b) t (accepted ++ accepted') (errors ++ errors') t₂ := by
  have hsettled : settled (a ++ b) t = settled a t ++ settled b t₁ := by
    rw [settled_append, h.ends]
  obtain ⟨entries, hradio, hrecorded⟩ := h.recorded
  obtain ⟨entries', hradio', hrecorded'⟩ := h'.recorded
  constructor
  case ends => rw [playTurns_append, ← h.ends, h'.ends]
  case commands =>
    rw [hsettled, ← List.append_assoc, h.commands, List.append_assoc, h'.commands, List.map_append,
      List.append_assoc]
  case recorded =>
    refine ⟨entries ++ entries', by rw [hradio', hradio, List.append_assoc], ?_⟩
    rw [hsettled, CommandLedger.recorded_append]
    exact hrecorded.append hrecorded'
  case reported =>
    rw [hsettled, CommandLedger.reported_append]
    exact h.reported.append h'.reported

end Settles

namespace Step

variable {step : Step max depth} {result : Option (Except LinkError (Transfer.Outcome max))}
  {count : Nat}

theorem map_fst_settled (told : Bool) (step : Step max depth) :
    (step.settled told).map Prod.fst = step.discarded ++ step.handed := by
  simp [settled, Function.comp_def]

theorem recorded_settled (told : Bool) (step : Step max depth) :
    (step.settled told).recorded =
      CommandLedger.recorded (step.handed.map (·, .ofAnswer told step.answer)) := by
  have hflushed : CommandLedger.recorded (step.discarded.map (·, .flushed)) = [] := by
    apply CommandLedger.recorded_eq_nil
    simp
  rw [settled, CommandLedger.recorded_append, hflushed, List.nil_append]

theorem reported_settled (told : Bool) (step : Step max depth) :
    (step.settled told).reported =
      CommandLedger.reported (step.handed.map (·, .ofAnswer told step.answer)) := by
  have hflushed : CommandLedger.reported (step.discarded.map (·, .flushed)) = [] := by
    apply CommandLedger.reported_eq_nil
    simp
  rw [settled, CommandLedger.reported_append, hflushed, List.nil_append]

/-- The radio gets all of a command that is handed over in an operation without a link error. -/
theorem Accounts.recorded_sublist (h : step.Accounts result count) (hquiet : step.before.Quiet)
    (told : Bool) :
    ((step.settled told).recorded).Sublist (Radio.entry (step.outbound.wire count)) := by
  rw [recorded_settled, h.handed]
  rcases result with _ | e | outcome
  · exact List.nil_sublist _
  · have hanswer : step.answer = .error (.link e) := h.balances.told
    have hnone : CommandLedger.recorded
        ((step.before.host.handed (some (.error e))).map (·, .ofAnswer told step.answer)) = [] := by
      apply CommandLedger.recorded_eq_nil
      simp [hanswer, CommandFate.ofAnswer]
    rw [hnone]
    exact List.nil_sublist _
  · obtain ⟨a, hanswer⟩ : ∃ a, step.answer = .ok a := h.balances.told
    have hcount := (h.heard.ok outcome rfl).2
    have hwhole : step.outbound.payload.take (count - 1) = step.outbound.payload := by
      rw [hcount]
      exact Frame.payload_take_window (fits_outbound hquiet) _
    have hzero : count ≠ 0 := by
      rw [hcount]
      exact Nat.succ_ne_zero _
    rw [Frame.entry_wire (fits_outbound hquiet), hwhole, hanswer, Host.handed,
      Transport.host_commands, Step.outbound]
    cases hhead : step.before.commands.peek? with
    | none => exact List.nil_sublist _
    | some frame =>
      by_cases hlength : frame.length = 0
      · simp [CommandLedger.recorded, CommandFate.ofAnswer, hlength]
      · simp [CommandLedger.recorded, CommandFate.ofAnswer, hlength, hzero]

/-- An operation answers the error with which its transfer has failed. -/
theorem reported_sublist (step : Step max depth) :
    ((step.settled true).reported).Sublist (linkErrors [step.answer]) := by
  rw [reported_settled, handed]
  by_cases hcalls : step.calls.any Call.isExchange = true
  · rw [if_pos hcalls]
    cases step.before.commands.peek? with
    | none => exact List.nil_sublist _
    | some frame =>
      cases step.answer with
      | ok a => exact List.nil_sublist _
      | error e => cases e <;> exact .refl _
  · rw [if_neg hcalls]
    exact List.nil_sublist _

/-- A cycle that nobody waits for reports nothing. -/
theorem reported_untold (step : Step max depth) : (step.settled false).reported = [] := by
  rw [reported_settled]
  apply CommandLedger.reported_eq_nil
  intro entry hentry e
  obtain ⟨frame, -, rfl⟩ := List.mem_map.1 hentry
  cases step.answer with
  | ok a => nofun
  | error e => cases e <;> nofun

end Step

/-! ## Turns of the transport -/

/-- A turn that is an operation settles what the operation does. -/
theorem Settles.of_step (turn : Turn max) {t : Bench max depth} (h : t.Quiet)
    {op : Transport.Op max} {told : Bool} {errors : List LinkError}
    (hplay : turn.play t = (op.run t).2) (hturn : turn.settled t = Step.settled told ⟨op, t⟩)
    (herrors : ((Step.settled told ⟨op, t⟩).reported).Sublist errors) :
    Settles [turn] t (op.accepted (op.run t).1) errors (op.run t).2 := by
  obtain ⟨⟨result, count, haccounts⟩, -⟩ := Step.accounts ⟨op, t⟩ h
  have hsettled : settled [turn] t = Step.settled told ⟨op, t⟩ := (List.append_nil _).trans hturn
  constructor
  case ends => exact hplay.symm
  case commands =>
    rw [hsettled, Step.map_fst_settled]
    exact haccounts.commands
  case recorded =>
    rw [hsettled]
    exact ⟨_, haccounts.transferred.commands, haccounts.recorded_sublist h told⟩
  case reported =>
    rw [hsettled]
    exact herrors

/-- An operation whose caller is told. -/
theorem Settles.own {t : Bench max depth} (h : t.Quiet) (op : Transport.Op max) :
    Settles [.own op] t (op.accepted (op.run t).1) (linkErrors [(op.run t).1]) (op.run t).2 :=
  .of_step (.own op) h rfl rfl (Step.reported_sublist ⟨op, t⟩)

/-- The bench after an edge is the one after the operation that handles it. -/
theorem onReadyEdge_eq_run (t : Bench max depth) :
    t.onReadyEdge.2 = (Transport.Op.readyEdge.run t).2 := by
  rw [Transport.Op.run, Reply.snd_map]

/-- A replay, which nobody is told of. -/
theorem Settles.replay {t : Bench max depth} (h : t.Quiet) :
    Settles [.replay] t [] [] t.onReadyEdge.2 := by
  have huntold : ((Step.settled false ⟨.readyEdge, t⟩).reported).Sublist [] := by
    rw [Step.reported_untold]
  rw [onReadyEdge_eq_run]
  exact .of_step .replay h (onReadyEdge_eq_run t) rfl huntold

/-! ## Turns of somebody else -/

/-- A bench that is quiet, unless somebody beside the transport has exchanged bytes on its link and
is still to release REQUEST (`meddled`). -/
structure Bench.Orderly (meddled : Bool) (t : Bench max depth) : Prop where
  transaction : meddled = false → t.radio.transaction = none
  requests : t.link.link.faults.request = []
  fitting : ∀ frame ∈ t.commands.toList, frame.fits = true

/-- Unless somebody has meddled, an orderly bench is quiet. -/
theorem Bench.orderly_false_iff {t : Bench max depth} : t.Orderly false ↔ t.Quiet :=
  ⟨fun h => ⟨h.transaction rfl, h.requests, h.fitting⟩,
    fun h => ⟨fun _ => h.transaction, h.requests, h.fitting⟩⟩

/-- Whether a touch leaves REQUEST to be released. Only a release is sure to end a transaction,
since a reset can fail. -/
def Touch.leaves (meddled : Bool) : Touch → Bool
  | setRequest false => false
  | _ => meddled

/-- A release of REQUEST ends the transaction, and leaves its command among those received. -/
theorem Radio.setRequest_false (radio : Radio) :
    (radio.setRequest false).transaction = none ∧
      ∃ entries, (radio.setRequest false).commands = radio.commands ++ entries := by
  unfold setRequest
  cases htransaction : radio.transaction with
  | none => exact ⟨htransaction, [], (List.append_nil _).symm⟩
  | some tx =>
    show (close tx _).transaction = none ∧ ∃ entries, (close tx _).commands = _
    rw [close]
    split
    · exact ⟨rfl, [], (List.append_nil _).symm⟩
    · exact ⟨rfl, _, rfl⟩

/-- A byte leaves the commands received as they are. -/
theorem Radio.commands_exchange (byte : UInt8) (radio : Radio) :
    (radio.exchange byte).2.commands = radio.commands := by
  unfold exchange opened
  cases radio.transaction <;> split_ifs <;> rfl

/-- No call takes a command from a radio that has received it. -/
theorem Radio.commands_hear (radio : Radio) (call : Call) :
    ∃ entries, (radio.hear call).commands = radio.commands ++ entries := by
  have hsame : ∃ entries, radio.commands = radio.commands ++ entries :=
    ⟨[], (List.append_nil _).symm⟩
  cases call with
  | ready answer => exact hsame
  | exchange byte answer =>
    cases answer with
    | error e => exact hsame
    | ok reply => exact (radio.commands_exchange byte).symm ▸ hsame
  | reset answer => cases answer <;> exact hsame
  | request level answer =>
    cases answer with
    | error e => exact hsame
    | ok =>
      cases level with
      | true => exact hsame
      | false => exact radio.setRequest_false.2

/-- A touch is a call on the link, or the radio is told something. -/
theorem Touch.apply_cases (touch : Touch) (link : Faulty Radio) :
    (∃ call : Call, call.Leads link (touch.apply link)) ∨ ∃ told, touch = script told := by
  cases touch with
  | setRequest level => exact .inl ⟨.request level _, rfl⟩
  | readReady => exact .inl ⟨.ready _, rfl⟩
  | reset => exact .inl ⟨.reset _, rfl⟩
  | script told => exact .inr ⟨told, rfl⟩

/-- Without a scheduled failure of REQUEST a release ends the transaction, and no touch opens
one. -/
theorem Touch.transaction_apply {touch : Touch} {link : Faulty Radio} {meddled : Bool}
    (hrequests : link.faults.request = [])
    (hlink : meddled = false → link.link.transaction = none)
    (hleaves : touch.leaves meddled = false) : (touch.apply link).link.transaction = none := by
  cases touch with
  | setRequest level =>
    rw [apply, Faulty.setRequest_eq hrequests]
    cases level with
    | true => exact (Radio.setRequest_undisturbed (hlink hleaves) true).transaction
    | false => exact link.link.setRequest_false.1
  | readReady =>
    have hleads : (Call.ready (Link.readReady link).1).Leads link (readReady.apply link) := rfl
    rw [(Radio.of_leads hleads).1]
    exact hlink hleaves
  | reset =>
    have hleads : (Call.reset (Link.reset link).1).Leads link (reset.apply link) := rfl
    rw [(Radio.of_leads hleads).1]
    exact (Radio.silent_undisturbed (hlink hleaves) (.single rfl)).transaction
  | script told => exact (told.apply_eq link.link).1.trans (hlink hleaves)

/-- A touch leaves a bench orderly, and releases what was to be released only if it drives REQUEST
low. -/
theorem Bench.Orderly.touch {meddled : Bool} {t : Bench max depth} (h : t.Orderly meddled)
    (touch : Touch) : (t.touch touch).Orderly (touch.leaves meddled) where
  transaction := Touch.transaction_apply h.requests h.transaction
  requests := by
    obtain ⟨call, hleads⟩ | ⟨told, rfl⟩ := touch.apply_cases t.link.link
    · exact (hleads.requestSucceeds (fun _ _ => rfl) h.requests).2
    · exact h.requests
  fitting := h.fitting

/-- Behind a byte that somebody has exchanged REQUEST is to be released. -/
theorem Bench.Orderly.clock {meddled : Bool} {t : Bench max depth} (h : t.Orderly meddled)
    (byte : UInt8) : (t.clock byte).Orderly true where
  transaction := nofun
  requests := h.requests
  fitting := h.fitting

/-- A turn in which only the link is used leaves the queue alone, and the radio what it has
received. -/
theorem Settles.of_link (turn : Turn max) {t : Bench max depth} (hturn : turn.settled t = [])
    (hqueue : (turn.play t).commands = t.commands)
    (hradio : ∃ entries, (turn.play t).radio.commands = t.radio.commands ++ entries) :
    Settles [turn] t [] [] (turn.play t) := by
  have hsettled : settled [turn] t = [] := (List.append_nil _).trans hturn
  obtain ⟨entries, hentries⟩ := hradio
  constructor
  case ends => rfl
  case commands => rw [hsettled, hqueue, List.append_nil, List.map_nil, List.nil_append]
  case recorded =>
    rw [hsettled]
    exact ⟨entries, hentries, List.nil_sublist _⟩
  case reported =>
    rw [hsettled]
    exact List.nil_sublist _

/-- A touch settles nothing. -/
theorem Settles.touch (t : Bench max depth) (touch : Touch) :
    Settles [.touch touch] t [] [] (t.touch touch) := by
  refine .of_link (.touch touch) rfl rfl ?_
  show ∃ entries, (touch.apply t.link.link).link.commands = t.radio.commands ++ entries
  obtain ⟨call, hleads⟩ | ⟨told, rfl⟩ := touch.apply_cases t.link.link
  · rw [(Radio.of_leads hleads).1]
    exact Radio.commands_hear _ call
  · exact ⟨[], ((told.apply_eq t.radio).2.1).trans (List.append_nil _).symm⟩

/-- A byte that somebody exchanges settles nothing. -/
theorem Settles.clock (t : Bench max depth) (byte : UInt8) :
    Settles [.clock byte] t [] [] (t.clock byte) := by
  refine .of_link (.clock byte) rfl rfl ?_
  have hleads : (Call.exchange byte (Link.exchange byte t.link.link).1).Leads t.link.link
      (t.clock byte).link.link := rfl
  show ∃ entries, (t.clock byte).link.link.link.commands = t.radio.commands ++ entries
  rw [(Radio.of_leads hleads).1]
  exact Radio.commands_hear _ _

end RadioLink
