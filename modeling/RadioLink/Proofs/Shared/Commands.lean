import RadioLink.Proofs.Delivery.Turns
import RadioLink.Proofs.Shared.Serial

/-!
# Commands behind a shared handle

A history of a handle over a simulated radio is a run of the transport alone
(`Shared.Rests.serialisedAll`): the operations of the history in turn, and behind each of them the
replays of the edges that were latched meanwhile. So a command that somebody has sent through the
handle fares as it does in these turns, and the ledger of the turns says what became of it
(`Shared.commands_settled`).

Two things can take a command without a word. An error of the link in a replay is one that nobody is
told of, and a byte that somebody exchanges beside the transport, in a transaction that the next
transfer goes on with, has the radio read the command in the wrong place (`Shared.command_lost`).
-/

namespace RadioLink

variable {max depth : Nat}

/-! ## Turns of a handle -/

namespace Shared

open Transport (Answer)

variable {ι κ : Type}

/-- The turns in a step. A call on the handle is turned away. -/
def Step.turns : Step Touch max → List (Turn max)
  | .operate op => [.own op]
  | .touch change => [.touch change]
  | .clock byte => [.clock byte]
  | .knock _ => []

/-- Whether the transport operates in a step. -/
def Step.operates {ι : Type} : Step ι max → Bool
  | .operate _ => true
  | .touch _ | .clock _ | .knock _ => false

/-- Whether bytes that somebody has exchanged still wait for a release of REQUEST behind a step, if
they do or do not before it. -/
def Step.leaves (meddled : Bool) : Step Touch max → Bool
  | .clock _ => true
  | .touch change => change.leaves meddled
  | .operate _ | .knock _ => meddled

/-- Whether some steps release REQUEST behind the bytes that they exchange, before the transport
operates and before they end. -/
def Step.tidy (meddled : Bool) : List (Step Touch max) → Bool
  | [] => !meddled
  | step :: steps => !(meddled && step.operates) && tidy (step.leaves meddled) steps

/-- Whether an operation releases REQUEST behind the bytes that it exchanges. -/
def Op.tidy (op : Op Touch max) : Bool :=
  Step.tidy false op.steps

/-- The turns in an operation with some replays. -/
def Op.turns (op : Op Touch max) (replays : Nat) : List (Turn max) :=
  op.steps.flatMap Step.turns ++ List.replicate replays .replay

/-- The turns in a history, with the replays of each operation. -/
def turnsOf (ops : List (Op Touch max)) (replays : List Nat) : List (Turn max) :=
  (List.zipWith Op.turns ops replays).flatten

/-- The command that a step has accepted, if it has. -/
def Step.accepted : Step ι max → Except TransportError (Option (Answer max)) → List (Frame max)
  | .operate (.send frame), .ok _ => [frame]
  | _, _ => []

/-- The commands that an operation has accepted. -/
def Op.accepted (op : Op ι max) :
    Except TransportError (List (Except TransportError (Option (Answer max)))) → List (Frame max)
  | .ok answers => (List.zipWith Step.accepted op.steps answers).flatten
  | .error _ => []

/-- The link errors that an operation has answered, or the steps in it. -/
def returned {α : Type} : Except TransportError (List (Except TransportError α)) → List LinkError
  | .ok answers => linkErrors answers
  | .error e => e.cause?.toList

theorem Op.steps_map (f : ι → κ) (op : Op ι max) :
    (op.map f).steps = op.steps.map (Step.map f) := by
  cases op with
  | knock call => cases call <;> rfl
  | within | send | poll | isPeerReady | flush => rfl

/-- An operation answers what its steps have answered, or fails with the error of its only step. -/
theorem Op.report_eq (op : Op ι max)
    (answers : List (Except TransportError (Option (Answer max)))) :
    op.report answers = .ok answers ∨ ∃ e, answers = [.error e] ∧ op.report answers = .error e := by
  unfold Op.report
  split
  · exact .inl rfl
  · exact .inr ⟨_, rfl, rfl⟩
  · exact .inl rfl

theorem Step.accepted_error (step : Step ι max) (e : TransportError) :
    step.accepted (.error e) = [] := by
  cases step with
  | operate op => cases op <;> rfl
  | touch | clock | knock => rfl

/-- The commands accepted and the link errors answered are those of the steps, also when the answer
to the only step is the answer to the operation. -/
theorem Op.accepted_report (f : ι → κ) (op : Op ι max)
    (answers : List (Except TransportError (Option (Answer max)))) :
    op.accepted ((op.map f).report answers) =
      (List.zipWith Step.accepted op.steps answers).flatten ∧
      returned ((op.map f).report answers) = linkErrors answers := by
  rcases (op.map f).report_eq answers with hreport | ⟨e, rfl, hreport⟩
  · rw [hreport]
    exact ⟨rfl, rfl⟩
  · rw [hreport]
    constructor
    · cases op.steps with
      | nil => rfl
      | cons step steps => simp [Op.accepted, Step.accepted_error]
    · cases hcause : e.cause? with
      | none => simp [returned, linkErrors, hcause]
      | some cause => simp [returned, linkErrors, hcause]

/-- A step on a bench is its turns. -/
theorem Step.settles {meddled : Bool} {t : Bench max depth} (h : t.Orderly meddled)
    {step : Step Touch max} (htidy : (meddled && step.operates) = false) :
    let run := (step.map Touch.apply).runAlone t
    Settles step.turns t (step.accepted run.1) (linkErrors [run.1]) run.2 ∧
      Bench.Orderly (step.leaves meddled) run.2 := by
  cases step with
  | operate op =>
    have hclean : meddled = false := by simpa [operates] using htidy
    subst hclean
    have hquiet := Bench.orderly_false_iff.1 h
    have hrun : (Step.map Touch.apply (.operate op)).runAlone t = Reply.map some (op.run t) := rfl
    have hquiet' : Bench.Quiet (Reply.map some (op.run t)).2 := by
      rw [Reply.snd_map]
      exact (Step.accounts ⟨op, t⟩ hquiet).2
    have hown := Settles.own hquiet op
    rw [hrun]
    refine ⟨?_, Bench.orderly_false_iff.2 hquiet'⟩
    rcases hanswer : op.run t with ⟨e | a, t'⟩
    · rw [hanswer] at hown
      cases op <;> exact hown
    · rw [hanswer] at hown
      cases op <;> exact hown
  | touch change => exact ⟨.touch t change, h.touch change⟩
  | clock byte => exact ⟨.clock t byte, h.clock byte⟩
  | knock call => exact ⟨.nil t, h⟩

/-- Tidy work under the lock is its turns and leaves a quiet bench. The induction goes through the
benches on which somebody has a transaction open. -/
theorem Step.settles_all {meddled : Bool} {t : Bench max depth} (h : t.Orderly meddled)
    {steps : List (Step Touch max)} (htidy : Step.tidy meddled steps = true) :
    let run := Step.runAllAlone (steps.map (Step.map Touch.apply)) t
    Settles (steps.flatMap Step.turns) t (List.zipWith Step.accepted steps run.1).flatten
      (linkErrors run.1) run.2 ∧ Bench.Quiet run.2 := by
  induction steps generalizing t meddled with
  | nil =>
    have hclean : meddled = false := by simpa [tidy] using htidy
    exact ⟨.nil t, Bench.orderly_false_iff.1 (hclean ▸ h)⟩
  | cons step steps ih =>
    rw [tidy, Bool.and_eq_true, Bool.not_eq_true'] at htidy
    obtain ⟨hfirst, horderly⟩ := Step.settles h htidy.1
    obtain ⟨hrest, hquiet⟩ := ih horderly htidy.2
    have hboth := hfirst.append hrest
    rw [← linkErrors_cons] at hboth
    exact ⟨hboth, hquiet⟩

/-- Edges that are served are as many replays. -/
theorem serve_settles {t : Bench max depth} (h : t.Quiet) (r : Nat) :
    Settles (List.replicate r .replay) t [] [] (serve r t) ∧ Bench.Quiet (serve r t) := by
  induction r generalizing t with
  | zero => exact ⟨.nil t, h⟩
  | succ r ih =>
    have hquiet : Bench.Quiet t.onReadyEdge.2 :=
      onReadyEdge_eq_run t ▸ (Step.accounts ⟨.readyEdge, t⟩ h).2
    obtain ⟨hrest, hlast⟩ := ih hquiet
    exact ⟨(Settles.replay h).append hrest, hlast⟩

variable {schedule : List (List Knock)} {past : List (List Entry)}
  {s : Shared (Faulty Radio) max depth} {t : Bench max depth}

/-- An operation on a handle is its turns and its replays. -/
theorem Serialised.settles {op : Op Touch max} {r : Nat}
    (h : Serialised schedule past s t (op.map Touch.apply) r) (hquiet : t.Quiet)
    (htidy : op.tidy = true) :
    let run := (op.map Touch.apply).run s
    let t' := serve r (Step.runAllAlone (op.map Touch.apply).steps t).2
    Settles (op.turns r) t (op.accepted run.1) (returned run.1) t' ∧ Bench.Quiet t' := by
  intro run t'
  obtain ⟨hsteps, hquiet₁⟩ := Step.settles_all (Bench.orderly_false_iff.2 hquiet) htidy
  rw [← Op.steps_map] at hsteps hquiet₁
  obtain ⟨hreplays, hquiet'⟩ := serve_settles hquiet₁ r
  have hboth := hsteps.append hreplays
  rw [List.append_nil, List.append_nil] at hboth
  obtain ⟨haccepted, hreturned⟩ := op.accepted_report Touch.apply
    (Step.runAllAlone (op.map Touch.apply).steps t).1
  refine ⟨?_, hquiet'⟩
  show Settles _ t (op.accepted ((op.map Touch.apply).run s).1)
    (returned ((op.map Touch.apply).run s).1) _
  rw [h.answer, haccepted, hreturned]
  exact hboth

/-- A history of a handle is the turns and the replays of its operations. -/
theorem SerialisedAll.settles {ops : List (Op Touch max)} {replays : List Nat}
    (h : SerialisedAll schedule past s t (ops.map (Op.map Touch.apply)) replays) (hquiet : t.Quiet)
    (htidy : ∀ op ∈ ops, op.tidy = true) :
    let run := runAll (ops.map (Op.map Touch.apply)) s
    ∃ t', Rests schedule past run.2 t' ∧ Settles (turnsOf ops replays) t
      (List.zipWith Op.accepted ops run.1).flatten (run.1.flatMap returned) t' := by
  induction ops generalizing s t replays with
  | nil =>
    cases h with
    | nil hrests => exact ⟨t, hrests, .nil t⟩
  | cons op ops ih =>
    cases h with
    | cons hserialised hrest =>
      obtain ⟨hfirst, hquiet₁⟩ := hserialised.settles hquiet (htidy op List.mem_cons_self)
      obtain ⟨t', hrests, hlast⟩ := ih hrest hquiet₁
        fun op hop => htidy op (List.mem_cons_of_mem _ hop)
      exact ⟨t', hrests, hfirst.append hlast⟩

/-- **No command vanishes behind a shared handle but where an edge is replayed.** Over a prepared
radio, with bytes, samples of READY and resets failing as scheduled, and after any history of a
handle in which calls come from inside the exchanges and from inside the work done under a hold of
the lock, and in which that work uses the radio as it likes, as long as it releases REQUEST behind
the bytes that it exchanges: the operations of the history are serialised, each with some replays,
which run exactly where an edge was latched. The commands accepted are, in order, those that have
left the queue in these turns and those still queued. Of those that have left it, a flush has
discarded some; the radio has the whole payload of each that was handed to a transfer in which the
link did not fail; and the link error of any other was answered, unless the turn was a replay. -/
theorem commands_settled {idleStatus filler : UInt8} {scripts : List RadioScript}
    {exchange ready reset : List Bool} {config : TransportConfig}
    {t : Transport (Faulty Radio) max depth}
    (h : Transport.init
      { link := .prepared idleStatus filler scripts, faults := { exchange, ready, reset } } config =
      .ok t)
    (schedule : List (List Knock)) (ops : List (Op Touch max))
    (htidy : ∀ op ∈ ops, op.tidy = true) :
    let run := runAll (ops.map (Op.map Touch.apply)) (share schedule t)
    let bench : Bench max depth := t.relink { link := t.link }
    ∃ replays : List Nat, replays.length = ops.length ∧
      SerialisedAll schedule [] (share schedule t) bench (ops.map (Op.map Touch.apply)) replays ∧
      Rests schedule [] run.2 (playTurns (turnsOf ops replays) bench) ∧
      let ledger := settled (turnsOf ops replays) bench
      (List.zipWith Op.accepted ops run.1).flatten =
        ledger.map Prod.fst ++ run.2.transport.commands.toList ∧
      (ledger.recorded).Sublist run.2.transport.link.link.link.commands ∧
      (ledger.reported).Sublist (run.1.flatMap returned) := by
  intro run bench
  let wired := (Radio.prepared idleStatus filler scripts).wired exchange ready reset
  obtain ⟨link, hlink, hinit⟩ :=
    Transport.init_alike Traced.simulates (rfl : wired.link = wired.link) h
  obtain ⟨hquiet, hcommands, -, hradio, -⟩ := Bench.quiet_of_init hinit
  have hsame : bench.radio = Bench.radio (t.relink link) := congrArg Faulty.link hlink
  have hbench : bench.Quiet := ⟨hsame ▸ hquiet.transaction,
    (congrArg (·.faults.request) hlink).trans hquiet.requests, hquiet.fitting⟩
  obtain ⟨replays, hserialised⟩ :=
    (share_rests schedule t).serialisedAll (ops.map (Op.map Touch.apply))
  obtain ⟨t', hrests, hsettles⟩ := hserialised.settles hbench htidy
  obtain ⟨entries, hentries, hrecorded⟩ := hsettles.recorded
  obtain ⟨link', hlink', hover⟩ := hrests.transport
  have hfinal : t'.commands = run.2.transport.commands ∧
      Bench.radio t' = run.2.transport.link.link.link := by
    rw [hover]
    exact ⟨rfl, congrArg Faulty.link hlink'.link.symm⟩
  refine ⟨replays, ?_, hserialised, hsettles.ends ▸ hrests, ?_, ?_, hsettles.reported⟩
  · exact hserialised.length_eq.trans (List.length_map _)
  · have hbalance := hsettles.commands
    rw [show bench.commands.toList = [] from hcommands, List.nil_append, hfinal.1] at hbalance
    exact hbalance
  · rw [hsame, hradio, List.nil_append, hfinal.2] at hentries
    rw [hentries]
    exact hrecorded

/-- The first command is lost in the replay of an edge that was latched behind it, and the second
one, in whose first exchange another edge comes, arrives. Before both, somebody has exchanged a byte
that declares a command of no bytes and released REQUEST. -/
theorem commands_settled_around_replay :
    ∃ t : Transport (Faulty Radio) 1 2,
      Transport.init { link := .prepared 0 0 [], faults := { exchange := [false, true] } } {} =
        .ok t ∧
      let ops : List (Op Touch 1) :=
        [.within [.touch (.setRequest true), .clock 9, .touch (.setRequest false),
          .operate (.send ⟨0, 1, #v[7]⟩), .knock .readyEdge], .send ⟨0, 1, #v[8]⟩, .poll]
      let bench : Bench 1 2 := t.relink { link := t.link }
      let run := runAll (ops.map (Op.map Touch.apply)) (share [[], [], [.readyEdge]] t)
      run.2.transport.link.link.link.commands = [[], [8]] ∧
      ∃ replays : List Nat, replays.length = ops.length ∧
        SerialisedAll [[], [], [.readyEdge]] [] (share [[], [], [.readyEdge]] t) bench
          (ops.map (Op.map Touch.apply)) replays ∧
        (settled (turnsOf ops replays) bench).map Prod.fst = [⟨0, 1, #v[7]⟩, ⟨0, 1, #v[8]⟩] := by
  have hinit : Transport.init
      { link := .prepared 0 0 [], faults := { exchange := [false, true] } } {} =
      (.ok _ : Except _ (Transport (Faulty Radio) 1 2)) := rfl
  refine ⟨_, hinit, rfl, ?_⟩
  obtain ⟨replays, hlength, hserialised, -, haccepted, -⟩ := commands_settled hinit
    [[], [], [.readyEdge]] [.within [.touch (.setRequest true), .clock 9,
      .touch (.setRequest false), .operate (.send ⟨0, 1, #v[7]⟩), .knock .readyEdge],
      .send ⟨0, 1, #v[8]⟩, .poll] (by decide)
  exact ⟨replays, hlength, hserialised, (List.append_nil _).symm.trans haccepted.symm⟩

/-- Two histories after which a command has left the queue, the radio does not have it, and every
answer is a success. In the first one some work queues a command and is called by an edge, on a link
that fails in its first exchange: the replay of the edge hands over the command and loses it. In the
second one, on a link that never fails, some work queues a command, exchanges a zero byte, and
polls: the radio takes the zero for the length that the host declares, and the transfer that follows
for what comes behind it. -/
theorem command_lost :
    (∃ t : Transport (Faulty Radio) 31 4,
      Transport.init { link := .prepared 0 0 [], faults := { exchange := [true] } } {} = .ok t ∧
      let op : Op Touch 31 :=
        .within [.operate (.send ⟨0, 1, Frame.fill [7]⟩), .knock .readyEdge]
      let run := runAll [op.map Touch.apply] (share [] t)
      run.1 = [.ok [.ok (some .done), .ok none]] ∧ run.2.gate = {} ∧
      run.2.transport.commands.toList = [] ∧ run.2.transport.link.link.link.commands = []) ∧
    ∃ t : Transport (Faulty Radio) 31 4,
      Transport.init { link := .prepared 0 0 [] } {} = .ok t ∧
      let op : Op Touch 31 :=
        .within [.operate (.send ⟨0, 1, Frame.fill [7]⟩), .clock 0, .operate .poll]
      let run := runAll [op.map Touch.apply] (share [] t)
      run.1 = [.ok [.ok (some .done), .ok none,
        .ok (some (.cycle (.transferred ⟨1, 0, 0, 0, false⟩)))]] ∧ run.2.gate = {} ∧
      run.2.transport.commands.toList = [] ∧ run.2.transport.link.link.link.commands = [] :=
  ⟨⟨_, rfl, rfl, rfl, rfl, rfl⟩, _, rfl, rfl, rfl, rfl, rfl⟩

end Shared

end RadioLink
