import Mathlib.Data.List.Forall2
import RadioLink.Proofs.Delivery.Journal

/-!
# Commands arrive in order, at most once

Every command that a transport has accepted is discarded by a flush, handed to one transfer, or
still queued, and the order is kept throughout. The radio has one command for each of those handed
over that had a payload and of which a byte was clocked: the whole payload, unless the operation has
answered that the link failed, and then as much of it as was clocked.

Both halves are balances. What a step of a run does to the queue is in `Step.Accounts`, and what the
radio keeps of it is `Frame.entry_wire`; a run adds them up.
-/

namespace RadioLink

variable {max depth : Nat}

namespace Step

/-- Whether the operation has handed over a command with a payload and a byte of it was clocked. -/
def reaches (step : Step max depth) : Bool :=
  step.handed.any (·.length != 0) && !step.clocked.isEmpty

/-- What the radio keeps of a command that has reached it: the payload bytes that were clocked
behind the length byte. It is the whole payload if the operation succeeded; if it is less, the
operation has answered with an error of the link. -/
structure Delivered (step : Step max depth) (entry : List UInt8) : Prop where
  eq_take : entry = step.outbound.payload.take (step.clocked.length - 1)
  whole : (∃ a, step.answer = .ok a) → entry = step.outbound.payload
  cut : entry ≠ step.outbound.payload → ∃ e, step.answer = .error (.link e)

variable {step : Step max depth} {result : Option (Except LinkError (Transfer.Outcome max))}
  {count : Nat}

/-- A step has clocked as many bytes as its transfer. -/
theorem Accounts.length_clocked (h : step.Accounts result count) : step.clocked.length = count := by
  rw [clocked, h.heard.clocked, Frame.length_wire]

/-- A step hands over what its transfer takes out of the queue. -/
theorem Accounts.handed (h : step.Accounts result count) :
    step.handed = step.before.host.handed result := by
  rw [Step.handed, h.heard.attempted]
  rfl

/-- What was queued and what was accepted is discarded, handed over or still queued. -/
theorem Accounts.commands (h : step.Accounts result count) :
    step.before.commands.toList ++ step.accepted =
      step.discarded ++ step.handed ++ step.after.commands.toList := by
  rw [h.handed]
  exact h.balances.commands

/-- On a quiet bench the frame that is sent next fits its length byte. -/
theorem fits_outbound (h : step.before.Quiet) : step.outbound.fits = true := by
  rw [Step.outbound]
  cases hhead : step.before.commands.peek? with
  | none => exact decide_eq_true (Nat.zero_le max)
  | some frame => exact h.fitting frame (List.mem_of_head? hhead)

/-- A command reaches the radio exactly if a byte of it is clocked and it has a payload. -/
theorem Accounts.reaches_iff (h : step.Accounts result count) :
    step.reaches = true ↔ ¬(count = 0 ∨ step.outbound.length = 0) := by
  have hclocked : step.clocked.isEmpty = true ↔ count = 0 := by
    rw [List.isEmpty_iff_length_eq_zero, h.length_clocked]
  have hcount : count ≠ 0 → result.isSome = true := fun hcount =>
    Option.isSome_iff_ne_none.2 fun hresult => hcount (h.heard.idle hresult)
  rw [reaches, h.handed, Host.handed, Step.outbound, Transport.host_commands]
  cases hhead : step.before.commands.peek? with
  | none =>
    have hlength : (Frame.empty : Frame max).length = 0 := rfl
    simp [hlength]
  | some frame =>
    by_cases hzero : count = 0
    · simp [hclocked.2 hzero, hzero]
    · have hopen : step.clocked.isEmpty = false := by simpa [hzero] using hclocked
      simp [hcount hzero, hopen, hzero]

/-- A step in which a byte was clocked has failed with an error of the link, or it has succeeded and
enough was clocked for the whole payload. -/
theorem Accounts.ended (h : step.Accounts result count) (hquiet : step.before.Quiet)
    (hcount : count ≠ 0) :
    (∃ e, step.answer = .error (.link e)) ∨
      (∃ a, step.answer = .ok a) ∧ step.outbound.payload.take
        (count - 1) = step.outbound.payload := by
  rcases result with _ | e | outcome
  · exact absurd (h.heard.idle rfl) hcount
  · exact .inl ⟨e, h.balances.told⟩
  · refine .inr ⟨h.balances.told, ?_⟩
    rw [(h.heard.ok outcome rfl).2]
    exact Frame.payload_take_window (fits_outbound hquiet) _

/-- A step delivers one command or none, by how many of its bytes were clocked. -/
theorem Accounts.delivered (h : step.Accounts result count) (hquiet : step.before.Quiet) :
    ∃ entries, step.after.radio.commands = step.before.radio.commands ++ entries ∧
      List.Forall₂ Delivered (if step.reaches then [step] else []) entries := by
  have hentry := h.transferred.commands
  rw [Frame.entry_wire (fits_outbound hquiet)] at hentry
  by_cases hzero : count = 0 ∨ step.outbound.length = 0
  · have hreaches : ¬step.reaches = true := fun hreaches => h.reaches_iff.1 hreaches hzero
    rw [if_pos hzero] at hentry
    refine ⟨[], hentry, ?_⟩
    rw [if_neg hreaches]
    exact .nil
  · rw [if_neg hzero] at hentry
    refine ⟨_, hentry, ?_⟩
    rw [if_pos (h.reaches_iff.2 hzero)]
    have hended := h.ended hquiet (mt Or.inl hzero)
    refine .cons ⟨by rw [h.length_clocked], ?_, ?_⟩ .nil
    · rintro ⟨a, hanswer⟩
      rcases hended with ⟨e, herror⟩ | ⟨-, hwhole⟩
      · rw [herror] at hanswer
        cases hanswer
      · exact hwhole
    · intro hcut
      rcases hended with herror | ⟨-, hwhole⟩
      · exact herror
      · exact absurd hwhole hcut

end Step

/-! ## Runs -/

/-- The balance of the command queue over a run. -/
theorem commands_balance {t : Bench max depth} (h : t.Quiet) (acts : List (Act max)) :
    t.commands.toList ++ (journal acts t).flatMap Step.accepted =
      (journal acts t).flatMap (fun step => step.discarded ++ step.handed) ++
        (playAll acts t).commands.toList := by
  induction acts generalizing t with
  | nil => simp [journal, playAll]
  | cons act acts ih =>
    cases act with
    | script script => exact ih (h.tell script)
    | op op =>
      obtain ⟨⟨result, count, haccounts⟩, hquiet⟩ := Step.accounts ⟨op, t⟩ h
      have hstep := haccounts.commands
      have hrest := ih hquiet
      rw [journal_op, playAll_op, List.flatMap_cons, List.flatMap_cons]
      rw [← List.append_assoc, hstep, List.append_assoc, hrest, ← List.append_assoc]

/-- What a run adds to the commands of the radio. -/
theorem commands_delivered_from {t : Bench max depth} (h : t.Quiet) (acts : List (Act max)) :
    ∃ entries, (playAll acts t).radio.commands = t.radio.commands ++ entries ∧
      List.Forall₂ Step.Delivered ((journal acts t).filter Step.reaches) entries := by
  induction acts generalizing t with
  | nil => exact ⟨[], (List.append_nil _).symm, .nil⟩
  | cons act acts ih =>
    cases act with
    | script script =>
      obtain ⟨entries, hradio, hdelivered⟩ := ih (h.tell script)
      have htold : (t.tell script).radio.commands = t.radio.commands :=
        (script.apply_eq t.radio).2.1
      exact ⟨entries, htold ▸ hradio, hdelivered⟩
    | op op =>
      obtain ⟨⟨result, count, haccounts⟩, hquiet⟩ := Step.accounts ⟨op, t⟩ h
      obtain ⟨first, hfirst, hdelivered⟩ := haccounts.delivered h
      obtain ⟨rest, hrest, hdelivered'⟩ := ih hquiet
      refine ⟨first ++ rest, ?_, ?_⟩
      · rw [playAll_op, hrest, hfirst, List.append_assoc]
      · have hfilter : (journal (.op op :: acts) t).filter Step.reaches =
            (if Step.reaches ⟨op, t⟩ then [⟨op, t⟩] else []) ++
              (journal acts (Step.after ⟨op, t⟩)).filter Step.reaches := by
          rw [journal_op, List.filter_cons]
          split <;> rfl
        rw [hfilter]
        exact List.rel_append hdelivered hdelivered'

/-- **Commands arrive in order, at most once, and none is dropped silently.** Over a prepared radio,
with bytes, samples of READY and resets failing as scheduled, and after any run: the commands
accepted are, in order, those that were discarded by a flush or handed to a transfer, step by step,
and then those still queued. The commands that the radio has received are, in order, one for each
command handed over that has a payload and of which a byte was clocked: the whole payload if the
operation succeeded, and less only if it answered with an error of the link. The calls of each step
are those of one transfer of the oldest command at most, so no byte of another frame is clocked in
it. -/
theorem commands_delivered {idleStatus filler : UInt8} {scripts : List RadioScript}
    {exchange ready reset : List Bool} {config : TransportConfig} {t : Bench max depth}
    (h : Transport.init ((Radio.prepared idleStatus filler scripts).wired exchange ready reset)
      config = .ok t)
    (acts : List (Act max)) :
    (journal acts t).flatMap Step.accepted =
      (journal acts t).flatMap (fun step => step.discarded ++ step.handed) ++
        (playAll acts t).commands.toList ∧
    List.Forall₂ Step.Delivered ((journal acts t).filter Step.reaches)
      (playAll acts t).radio.commands ∧
    ∀ step ∈ journal acts t, (∃ result, Transfer.Within step.outbound step.calls result) ∧
      step.clocked = step.outbound.wire step.clocked.length := by
  obtain ⟨hquiet, hcommands, -, hreceived, -⟩ := Bench.quiet_of_init h
  refine ⟨?_, ?_, fun step hstep => ?_⟩
  · have hbalance := commands_balance hquiet acts
    rw [hcommands, List.nil_append] at hbalance
    exact hbalance
  · obtain ⟨entries, hradio, hdelivered⟩ := commands_delivered_from hquiet acts
    rw [hreceived, List.nil_append] at hradio
    exact hradio ▸ hdelivered
  · obtain ⟨⟨result, count, haccounts⟩, -⟩ := step.accounts (quiet_of_mem_journal hquiet hstep)
    refine ⟨⟨result, haccounts.balances.within⟩, ?_⟩
    rw [haccounts.length_clocked]
    exact haccounts.heard.clocked

/-- With the third byte of the first command failing, the radio keeps the one payload byte that it
has got, the second command arrives whole, and a flush discards the third. -/
theorem commands_delivered_around_fault :
    ∃ t : Bench 3 2,
      Transport.init ((Radio.prepared 0 0 []).wired [false, false, true] [] []) {} = .ok t ∧
      let acts : List (Act 3) := [.op (.send ⟨0, 3, #v[1, 2, 3]⟩),
        .op (.send ⟨0, 1, #v[4, 0, 0]⟩), .op .poll, .op .poll,
          .op (.send ⟨0, 2, #v[5, 6, 0]⟩), .op .flush]
      (playAll acts t).radio.commands = [[1], [4]] ∧
      (journal acts t).flatMap Step.accepted =
        (journal acts t).flatMap (fun step => step.discarded ++ step.handed) ++
          (playAll acts t).commands.toList ∧
      List.Forall₂ Step.Delivered ((journal acts t).filter Step.reaches)
        (playAll acts t).radio.commands := by
  have hinit : Transport.init ((Radio.prepared 0 0 []).wired [false, false, true] [] []) {} =
      (.ok _ : Except _ (Bench 3 2)) := rfl
  refine ⟨_, hinit, rfl, ?_⟩
  obtain ⟨hbalance, hdelivered, -⟩ := commands_delivered hinit [.op (.send ⟨0, 3, #v[1, 2, 3]⟩),
    .op (.send ⟨0, 1, #v[4, 0, 0]⟩), .op .poll, .op .poll,
    .op (.send ⟨0, 2, #v[5, 6, 0]⟩), .op .flush]
  exact ⟨hbalance, hdelivered⟩

end RadioLink
