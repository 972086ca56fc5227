import Mathlib.Data.List.Induction
import RadioLink.Proofs.Host.Run
import RadioLink.Radio

/-!
# Losing track of REQUEST

The transport remembers the level of REQUEST and drives the line only where it wants another one.
What it drives itself it remembers rightly, whether the drive succeeds or fails. A transfer drives
the line behind what is remembered, and the transport takes the line to be released after it,
however it went. That is wrong in two places: REQUEST was asserted already and could not be asserted
again, so that the transfer ended before it had a chance to release it; or the release behind the
last byte has failed. `Slipped` reads both off the record of the calls.

`Stands` is the invariant. As long as REQUEST has not slipped, what is remembered is the level of
the line; once it has, the line is asserted and taken to be released, until a drive of the line
succeeds. The transport then only ever asserts the line, so it is never taken to be asserted while
it is not.
-/

namespace RadioLink

variable {σ : Type} {max depth : Nat}

/-! ## Records in which REQUEST has slipped -/

/-- REQUEST could not be asserted while it was asserted already, or could not be released right
behind a byte, and has not been driven since. -/
inductive Slipped : List Call → Prop
  | unasserted {calls : List Call} (e : LinkError) : lastDriven calls = some true →
      Slipped (calls ++ [.request true (.error e)])
  | unreleased {calls : List Call} (byte : UInt8) (answer : Except LinkError UInt8)
      (e : LinkError) :
      Slipped (calls ++ [.exchange byte answer, .request false (.error e)])
  | undriven {calls : List Call} {call : Call} : Slipped calls → call.driven? = none →
      Slipped (calls ++ [call])

/-- The last call of a record in which REQUEST has slipped has not driven the line: REQUEST had
slipped before, or slips with this call. -/
theorem Slipped.last {calls : List Call} {call : Call} (h : Slipped (calls ++ [call])) :
    call.driven? = none ∧
      (Slipped calls ∨ (∃ e, call = .request true (.error e) ∧ lastDriven calls = some true) ∨
        ∃ earlier byte answer e, calls = earlier ++ [.exchange byte answer] ∧
          call = .request false (.error e)) := by
  generalize hrecord : calls ++ [call] = record at h
  cases h with
  | unasserted e hasserted =>
    obtain ⟨rfl, hcall⟩ := List.append_inj' hrecord rfl
    cases hcall
    exact ⟨rfl, .inr (.inl ⟨e, rfl, hasserted⟩)⟩
  | @unreleased earlier byte answer e =>
    have hsplit : calls ++ [call] =
        (earlier ++ [.exchange byte answer]) ++ [.request false (.error e)] := by
      simpa using hrecord
    obtain ⟨rfl, hcall⟩ := List.append_inj' hsplit rfl
    cases hcall
    exact ⟨rfl, .inr (.inr ⟨earlier, byte, answer, e, rfl, rfl⟩)⟩
  | undriven hslipped hcall =>
    obtain ⟨rfl, hlast⟩ := List.append_inj' hrecord rfl
    cases hlast
    exact ⟨hcall, .inl hslipped⟩

/-- Bytes do not drive REQUEST: behind its assertion the line stays asserted. -/
theorem lastDriven_asserted {record calls : List Call}
    (h : ∀ call ∈ calls, call.isExchange = true) :
    lastDriven (record ++ .request true (.ok ()) :: calls) = some true := by
  have hnone : calls.filterMap Call.driven? = [] := by
    refine List.filterMap_eq_nil_iff.2 fun call hcall => ?_
    have hexchange := h call hcall
    cases call with
    | exchange byte answer => rfl
    | request | ready | reset => cases hexchange
  simp [lastDriven, Call.driven?, hnone]

/-! ## What is remembered against the record -/

/-- What is remembered of REQUEST, against a record that does not end within a transfer: it is the
level of the line, or REQUEST has slipped, and then the line is asserted and taken to be
released. -/
structure Stands (record : List Call) (asserted : Bool) : Prop where
  rested : ∀ byte answer, record.getLast? ≠ some (.exchange byte answer)
  level : lastDriven record = some asserted ∧ ¬Slipped record ∨
    asserted = false ∧ lastDriven record = some true ∧ Slipped record

namespace Stands

variable {record : List Call} {asserted : Bool}

/-- A drive of REQUEST that succeeds sets everything right. -/
theorem driven (record : List Call) (level : Bool) :
    Stands (record ++ [.request level (.ok ())]) level := by
  refine ⟨by simp, .inl ⟨?_, fun hslipped => ?_⟩⟩
  · rw [lastDriven_append]
    rfl
  · cases hslipped.last.1

/-- A sample of READY lets a record stand. -/
theorem ready (h : Stands record asserted) (answer : Except LinkError Bool) :
    Stands (record ++ [.ready answer]) asserted := by
  have hlevel : lastDriven (record ++ [.ready answer]) = lastDriven record := lastDriven_append ..
  refine ⟨by simp, ?_⟩
  rw [hlevel]
  rcases h.level with ⟨hline, hkept⟩ | ⟨hasserted, hline, hslipped⟩
  · refine .inl ⟨hline, fun hslipped => ?_⟩
    obtain ⟨-, hearlier | ⟨e, hcall, -⟩ | ⟨earlier, byte, reply, e, -, hcall⟩⟩ := hslipped.last
    · exact hkept hearlier
    · cases hcall
    · cases hcall
  · exact .inr ⟨hasserted, hline, .undriven hslipped rfl⟩

/-- A failed drive that the transport has asked for leaves what is remembered as it was. -/
theorem undriven (h : Stands record asserted) {level : Bool} (hlevel : asserted ≠ level)
    (e : LinkError) :
    Stands (record ++ [.request level (.error e)]) asserted := by
  have hlast : lastDriven (record ++ [.request level (.error e)]) = lastDriven record :=
    lastDriven_append ..
  refine ⟨by simp, ?_⟩
  rw [hlast]
  rcases h.level with ⟨hline, hkept⟩ | ⟨hasserted, hline, hslipped⟩
  · refine .inl ⟨hline, fun hslipped => ?_⟩
    obtain ⟨-, hearlier | ⟨e', hcall, hasserted⟩ | ⟨earlier, byte, reply, e', hrecord, -⟩⟩ :=
      hslipped.last
    · exact hkept hearlier
    · -- the line is not asserted, or the transport would not have asked for it
      obtain ⟨rfl, -⟩ := Call.request.inj hcall
      exact hlevel (Option.some.inj (hline.symm.trans hasserted))
    · -- no byte stands right before the call
      exact h.rested byte reply (by simp [hrecord])
  · exact .inr ⟨hasserted, hline, .undriven hslipped rfl⟩

/-- A transfer that cannot assert REQUEST takes it to be released. -/
theorem refused (h : Stands record asserted) (e : LinkError) :
    Stands (record ++ [.request true (.error e)]) false := by
  cases asserted with
  | false => exact h.undriven Bool.false_ne_true e
  | true =>
    have hasserted : lastDriven record = some true := by
      rcases h.level with ⟨hline, -⟩ | ⟨hfalse, -, -⟩
      · exact hline
      · cases hfalse
    refine ⟨by simp, .inr ⟨rfl, ?_, .unasserted e hasserted⟩⟩
    rw [lastDriven_append]
    exact hasserted

/-- A transfer whose release fails takes REQUEST to be released. -/
theorem unreleased (hasserted : lastDriven record = some true) (byte : UInt8)
    (answer : Except LinkError UInt8) (e : LinkError) :
    Stands (record ++ [.exchange byte answer, .request false (.error e)]) false := by
  refine ⟨by simp, .inr ⟨rfl, ?_, .unreleased byte answer e⟩⟩
  rw [lastDriven_append]
  exact hasserted

end Stands

/-! ## What a transfer and an operation make of it -/

/-- After a transfer REQUEST is taken to be released, and stands as the record has it. -/
theorem Transfer.Says.stands {frame : Frame max} {calls record : List Call}
    {result : Except LinkError (Transfer.Outcome max)} {asserted : Bool}
    (h : Transfer.Says frame calls result)
    (hrecord : Stands record asserted) : Stands (record ++ calls) false := by
  cases h with
  | refused e => exact hrecord.refused e
  | @aborted replies e release _ =>
    cases release with
    | ok =>
      have hstands := Stands.driven (record ++ .request true (.ok ()) ::
        (swaps (frame.wire replies.length) replies ++
          [.exchange (frame.wireByte replies.length) (.error e)])) false
      simpa using hstands
    | error e' =>
      have hasserted : lastDriven (record ++ .request true (.ok ()) ::
          swaps (frame.wire replies.length) replies) = some true :=
        lastDriven_asserted fun call => isExchange_of_mem_swaps
      have hstands := Stands.unreleased hasserted (frame.wireByte replies.length) (.error e) e'
      simpa using hstands
  | @unreleased status length body e _ =>
    -- the last byte is the call right before the release
    have hbytes : ∀ call ∈ swaps (frame.wire (body.length + 2)) (status :: length :: body),
        call.isExchange = true := fun call => isExchange_of_mem_swaps
    rcases List.eq_nil_or_concat (swaps (frame.wire (body.length + 2)) (status :: length :: body))
      with
      hnil | ⟨front, call, hswaps⟩
    · rw [Frame.wire_add_two] at hnil
      cases hnil
    · rw [hswaps, List.concat_eq_append] at hbytes
      rw [hswaps, List.concat_eq_append]
      have hasserted : lastDriven (record ++ .request true (.ok ()) :: front) = some true :=
        lastDriven_asserted fun call hcall => hbytes call (List.mem_append_left _ hcall)
      have hlast := hbytes call (List.mem_append_right _ (List.mem_singleton_self call))
      cases call with
      | request | ready | reset => cases hlast
      | exchange byte answer =>
        have hstands := Stands.unreleased hasserted byte answer e
        simpa using hstands
  | @completed status length body _ =>
    have hstands := Stands.driven (record ++ .request true (.ok ()) ::
      swaps (frame.wire (body.length + 2)) (status :: length :: body)) false
    simpa using hstands

namespace Host

variable {t t' : Host max depth} {calls record : List Call}

/-- What the transport drives itself it remembers rightly. -/
theorem Drives.stands {level : Bool} {answer : Except TransportError Unit}
    (h : Drives level t calls answer t') (hrecord : Stands record t.requestAsserted) :
    Stands (record ++ calls) t'.requestAsserted := by
  cases h with
  | held => simpa using hrecord
  | moved => exact .driven record level
  | failed e hlevel => exact hrecord.undriven hlevel e

/-- Driving REQUEST to a level lets the record stand, also if it fails. -/
theorem Holds.stands {level : Bool} {answer : Except TransportError Unit}
    (h : Holds level t calls answer t') (hrecord : Stands record t.requestAsserted) :
    Stands (record ++ calls) t'.requestAsserted := by
  cases h with
  | rested hdrives | failed hdrives => exact hdrives.stands hrecord

/-- So does a transfer, whatever came of its own release. -/
theorem Transfers.stands {answer : Except TransportError Cycle} (h : Transfers t calls answer t')
    (hrecord : Stands record t.requestAsserted) : Stands (record ++ calls) t'.requestAsserted := by
  cases h with
  | aborted hspoken hsyncs =>
    rw [← List.append_assoc]
    exact hsyncs.stands (hspoken.stands hrecord)
  | @completed said sync outcome _ t₁ _ hspoken haccepts hsyncs =>
    rw [← List.append_assoc]
    have hreleased : t₁.requestAsserted = false := haccepts.frame.2.1
    exact hsyncs.stands (hreleased ▸ hspoken.stands hrecord)

/-- So does a cycle. -/
theorem Cycles.stands {answer : Except TransportError Cycle} (h : Cycles t calls answer t')
    (hrecord : Stands record t.requestAsserted) : Stands (record ++ calls) t'.requestAsserted := by
  cases h with
  | stalled _ hsyncs => exact hsyncs.stands hrecord
  | unsampled e => exact hrecord.ready (.error e)
  | waited _ hsyncs =>
    rw [List.append_cons]
    exact hsyncs.stands (hrecord.ready (.ok false))
  | transferred _ htransfers =>
    rw [List.append_cons]
    exact htransfers.stands (hrecord.ready (.ok true))

/-- So does the cycle ahead of a receive. -/
theorem Refills.stands (h : Refills t calls t') (hrecord : Stands record t.requestAsserted) :
    Stands (record ++ calls) t'.requestAsserted := by
  cases h with
  | skipped => simpa using hrecord
  | cycled _ hcycles => exact hcycles.stands hrecord

/-- Every operation, whether it succeeds or fails, keeps what is remembered in step with the
record. -/
theorem Performs.stands {op : Transport.Op max}
    {answer : Except TransportError (Transport.Answer max)}
    (h : Performs t op calls answer t') (hrecord : Stands record t.requestAsserted) :
    Stands (record ++ calls) t'.requestAsserted := by
  cases h with
  | refused | overlong | crowded => simpa using hrecord
  | queued _ _ _ hsyncs => exact hsyncs.stands hrecord
  | cycled _ _ hcycles | unrefilled _ _ hcycles => exact hcycles.stands hrecord
  | missed _ hrefills => exact hrefills.stands hrecord
  | taken _ hrefills _ hsyncs =>
    rw [← List.append_assoc]
    exact hsyncs.stands (hrefills.stands hrecord)
  | sampled answer => exact hrecord.ready answer
  | flushed hdrives | unflushed hdrives => exact hdrives.stands hrecord

end Host

namespace Transport

variable [Link σ]

/-- **The transport knows the level of REQUEST exactly as long as the line has not slipped.** On
every link, after any history since the transport was brought up, whatever has failed: the level
that the transport remembers is the one last driven on the line if and only if REQUEST has not
slipped. And it never takes the line to be asserted while it is not. -/
theorem request_known_iff_not_slipped {s : σ} {config : TransportConfig}
    {t : Transport (Traced σ) max depth} (h : init { link := s } config = .ok t)
    (ops : List (Op max)) :
    (lastDriven (runAll ops t).2.link.calls = some (runAll ops t).2.requestAsserted ↔
      ¬Slipped (runAll ops t).2.link.calls) ∧
    ((runAll ops t).2.requestAsserted = true →
      lastDriven (runAll ops t).2.link.calls = some true) := by
  have hstart : Stands t.link.calls t.requestAsserted := by
    obtain ⟨hhost, before, htrace, -⟩ := init_trace h
    have hasserted : t.requestAsserted = false := congrArg (·.requestAsserted) hhost
    rw [htrace.calls_eq, hasserted]
    exact .driven before false
  have hstands : Stands (runAll ops t).2.link.calls (runAll ops t).2.requestAsserted := by
    have hstep : ∀ (op : Op max) (t : Transport (Traced σ) max depth),
      Stands t.link.calls t.requestAsserted →
        True ∧ Stands (op.run t).2.link.calls (op.run t).2.requestAsserted := by
      intro op t ht
      obtain ⟨calls, htrace, hperforms⟩ := op.run_performs t
      rw [htrace.calls_eq]
      exact ⟨trivial, hperforms.stands ht⟩
    exact (runAll_invariant (Q := fun _ => True) hstep ops hstart).2
  rcases hstands.level with ⟨hline, hkept⟩ | ⟨hasserted, hline, hslipped⟩
  · refine ⟨iff_of_true hline hkept, fun hasserted => ?_⟩
    rw [hline, hasserted]
  · refine ⟨iff_of_false (fun hknown => ?_) (not_not_intro hslipped), fun _ => hline⟩
    rw [hline, hasserted] at hknown
    cases hknown

/-- A radio with an event, on a link that fails to release REQUEST behind the first transfer. -/
def unreleasedLink : Faulty Radio where
  link := { events := [⟨0, 1, [7]⟩] }
  faults := { request := [false, false, true] }

/-- A poll receives the event and cannot release REQUEST: the line stays asserted, and the transport
takes it to be released. -/
theorem request_forgotten_behind_poll :
    ∃ t : Transport (Traced (Faulty Radio)) 31 4, init { link := unreleasedLink } {} = .ok t ∧
      let final := (runAll [.poll] t).2
      final.link.calls =
        [.reset (.ok ()), .request false (.ok ()), .ready (.ok true), .request true (.ok ()),
        .exchange 0 (.ok 0), .exchange 0 (.ok 1), .exchange 0 (.ok 7),
        .request false (.error (.pin .request Faulty.detail))] ∧
      lastDriven final.link.calls = some true ∧ final.link.link.link.request = true ∧
      final.requestAsserted = false :=
  ⟨_, rfl, rfl, rfl, rfl, rfl⟩

/-- The poll that cannot release REQUEST lets it slip, and a command that is sent later sets it
right. -/
theorem request_known_again_after_send :
    ∃ t : Transport (Traced (Faulty Radio)) 2 4, init { link := unreleasedLink } {} = .ok t ∧
      Slipped (runAll [.poll] t).2.link.calls ∧
      ¬Slipped (runAll [.poll, .send ⟨0, 1, #v[7, 0]⟩] t).2.link.calls := by
  have hinit : init { link := unreleasedLink } {} =
      (.ok _ : Except _ (Transport (Traced (Faulty Radio)) 2 4)) := rfl
  refine ⟨_, hinit, ?_, ?_⟩
  · by_contra hslipped
    have hknown := (request_known_iff_not_slipped hinit [.poll]).1.2 hslipped
    cases hknown
  · exact (request_known_iff_not_slipped hinit [.poll, .send ⟨0, 1, #v[7, 0]⟩]).1.1 rfl

end Transport

end RadioLink
