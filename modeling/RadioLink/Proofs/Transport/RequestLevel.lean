import Mathlib.Data.List.Induction
import RadioLink.Proofs.Host.Run
import RadioLink.Proofs.Host.Steady
import RadioLink.Radio

/-!
# The level of REQUEST

Between two operations REQUEST is asserted exactly while there is a command to send and room for an
event, and the transport knows it: the level that it remembers is the one that was last driven on
the line, and its phase is the one that goes with that level. `Host.Settled` is the invariant; every
exit of every operation re-establishes it, the ones on which a byte or a sample of READY has failed
included, as long as driving REQUEST itself does not fail.

That the remembered level is the level of the line is kept apart (`Host.Tracks`). The transport
drives the line only where the level that it remembers differs from the wanted one, and a transfer
drives the line behind the remembered level, so the two agree only because a transfer leaves the
line released.
-/

namespace RadioLink

variable {σ : Type} {max depth : Nat}

/-- A transfer that has not failed to drive REQUEST leaves the line released. -/
theorem Transfer.Says.released {frame : Frame max} {calls : List Call}
    {result : Except LinkError (Transfer.Outcome max)} (h : Transfer.Says frame calls result)
    (hcalls : RequestsSucceed calls) : lastDriven calls = some false := by
  obtain ⟨front, rfl⟩ := h.ends_released hcalls
  rw [lastDriven_append]
  rfl

namespace Host

variable {t t₁ t' : Host max depth} {calls calls' : List Call}

/-! ## The line follows the remembered level -/

/-- If the line stands at the level that one host remembers, the calls leave it at the level that
the other one remembers. -/
def Tracks (calls : List Call) (t t' : Host max depth) : Prop :=
  (lastDriven calls).or (some t.requestAsserted) = some t'.requestAsserted

theorem Tracks.refl (t : Host max depth) : Tracks [] t t := rfl

theorem Tracks.append (h : Tracks calls t t₁) (h' : Tracks calls' t₁ t') :
    Tracks (calls ++ calls') t t' := by
  unfold Tracks at *
  rw [lastDriven_append, Option.or_assoc, h, h']

/-- The level driven last is remembered. -/
theorem Tracks.of_last (h : lastDriven calls = some t'.requestAsserted) : Tracks calls t t' := by
  rw [Tracks, h, Option.some_or]

/-- Whether driving REQUEST fails or not, what is remembered of it is true. -/
theorem Drives.tracks {level : Bool} {answer : Except TransportError Unit}
    (h : Drives level t calls answer t') : Tracks calls t t' := by
  cases h with
  | held | moved | failed => rfl

/-- Holding REQUEST at a level remembers it if the line was driven, and remembers the old one if
that failed. -/
theorem Holds.tracks {level : Bool} {answer : Except TransportError Unit}
    (h : Holds level t calls answer t') : Tracks calls t t' := by
  cases h with
  | rested hdrives | failed hdrives => exact hdrives.tracks

/-! ## At rest -/

/-- The host has not been halted, remembers REQUEST at the level that its queues ask for, and is in
the phase that goes with that level. -/
structure Settled (t : Host max depth) : Prop where
  healthy : t.faulted = false
  wanted : t.requestAsserted = t.wantsRequest
  resting : t.phase = .atRest t.requestAsserted

/-- At rest a host is settled, unless an overflow has halted it. -/
theorem synced_settled (h : t.faulted = false) : t.synced.Settled :=
  ⟨h, rfl, rfl⟩

/-- As long as the link drives REQUEST, bringing it to the level that the queues ask for settles the
host. -/
theorem Syncs.settles {answer : Except TransportError Unit} (h : t.Syncs calls answer t')
    (hcalls : RequestsSucceed calls) (ht : t.faulted = false) : t'.Settled ∧ Tracks calls t t' := by
  obtain ⟨-, rfl⟩ := h.steady hcalls
  exact ⟨synced_settled ht, h.tracks⟩

/-- So does a transfer, which ends so. -/
theorem Transfers.settles {answer : Except TransportError Cycle} (h : Transfers t calls answer t')
    (hcalls : RequestsSucceed calls) (ht : t.faulted = false) : t'.Settled ∧ Tracks calls t t' := by
  cases h with
  | aborted hspoken hsyncs =>
    obtain ⟨hsaid, hsync⟩ := requestsSucceed_append.1 hcalls
    obtain ⟨hsettled, htracks⟩ := hsyncs.settles hsync ht
    exact ⟨hsettled, Tracks.append (.of_last (hspoken.released hsaid)) htracks⟩
  | @completed said sync outcome _ t₁ _ hspoken haccepts hsyncs =>
    obtain ⟨hsaid, hsync⟩ := requestsSucceed_append.1 hcalls
    obtain ⟨hfaulted, hasserted, -⟩ := haccepts.frame
    obtain ⟨hsettled, htracks⟩ := hsyncs.settles hsync (hfaulted.trans ht)
    refine ⟨hsettled, Tracks.append (.of_last ?_) htracks⟩
    rw [hspoken.released hsaid, hasserted]
    rfl

/-- A cycle leaves a settled host settled: it settles it anew, or READY could not be sampled and
nothing has changed. -/
theorem Cycles.settles {answer : Except TransportError Cycle} (h : Cycles t calls answer t')
    (hcalls : RequestsSucceed calls) (ht : t.Settled) : t'.Settled ∧ Tracks calls t t' := by
  cases h with
  | stalled _ hsyncs => exact hsyncs.settles hcalls ht.healthy
  | unsampled => exact ⟨ht, rfl⟩
  | waited _ hsyncs => exact hsyncs.settles (requestsSucceed_ready_cons.1 hcalls) ht.healthy
  | transferred _ htransfers =>
    exact htransfers.settles (requestsSucceed_ready_cons.1 hcalls) ht.healthy

/-- The cycle ahead of a receive keeps a host settled. -/
theorem Refills.settles (h : Refills t calls t') (hcalls : RequestsSucceed calls) (ht : t.Settled) :
    t'.Settled ∧ Tracks calls t t' := by
  cases h with
  | skipped => exact ⟨ht, .refl t⟩
  | cycled _ hcycles => exact hcycles.settles hcalls ht

/-- An operation leaves a settled host settled, whether it succeeds or not. -/
theorem Performs.settles {op : Transport.Op max}
    {answer : Except TransportError (Transport.Answer max)}
    (h : Performs t op calls answer t') (hcalls : RequestsSucceed calls) (ht : t.Settled) :
    t'.Settled ∧ Tracks calls t t' := by
  cases h with
  | refused | overlong | crowded => exact ⟨ht, .refl t⟩
  | queued _ _ _ hsyncs => exact hsyncs.settles hcalls ht.healthy
  | cycled _ _ hcycles => exact hcycles.settles hcalls ht
  | unrefilled _ _ hcycles => exact hcycles.settles hcalls ht
  | missed _ hrefills => exact hrefills.settles hcalls ht
  | taken _ hrefills _ hsyncs =>
    obtain ⟨hrefill, hsync⟩ := requestsSucceed_append.1 hcalls
    obtain ⟨hsettled, htracks⟩ := hrefills.settles hrefill ht
    obtain ⟨hsettled', htracks'⟩ := hsyncs.settles hsync hsettled.healthy
    exact ⟨hsettled', htracks.append htracks'⟩
  | sampled => exact ⟨ht, rfl⟩
  | flushed hdrives =>
    have htracks := hdrives.tracks
    obtain ⟨-, rfl⟩ := hdrives.steady hcalls
    exact ⟨⟨rfl, rfl, rfl⟩, htracks⟩
  | unflushed hdrives => cases (hdrives.steady hcalls).1

end Host

namespace Transport

variable [Link σ]

/-- **REQUEST is asserted exactly while there is a command to send and room for an event.** On every
link, after any history since the transport was brought up in which no call failed to drive REQUEST,
whatever else has failed: the level last driven on the line is the one that the transport remembers
and the one that its queues ask for, and the transport is in the phase that goes with it, which is
not that of a transfer. -/
theorem request_follows_queues {s : σ} {config : TransportConfig}
    {t : Transport (Traced σ) max depth}
    (h : init { link := s } config = .ok t) (ops : List (Op max))
    (hrequests : ∀ level answer,
      Call.request level answer ∈ (runAll ops t).2.link.calls → answer = .ok ()) :
    lastDriven (runAll ops t).2.link.calls = some (runAll ops t).2.requestAsserted ∧
    (runAll ops t).2.requestAsserted =
      (!(runAll ops t).2.commands.isEmpty && !(runAll ops t).2.events.isFull) ∧
    (runAll ops t).2.phase = .atRest (runAll ops t).2.requestAsserted ∧
    (runAll ops t).2.phase ≠ .transferring := by
  suffices hsettled : (runAll ops t).2.host.Settled ∧
      lastDriven (runAll ops t).2.link.calls = some (runAll ops t).2.requestAsserted by
    obtain ⟨⟨-, hwanted, hresting⟩, htracks⟩ := hsettled
    refine ⟨htracks, hwanted, hresting, fun htransferring => ?_⟩
    have hatRest : Phase.atRest (runAll ops t).2.requestAsserted = .transferring :=
      hresting.symm.trans htransferring
    cases hlevel : (runAll ops t).2.requestAsserted <;> rw [hlevel] at hatRest <;> cases hatRest
  induction ops using List.reverseRecOn with
  | nil =>
    obtain ⟨hhost, calls, htrace, -, hlast⟩ := init_eq_ok h
    refine ⟨?_, ?_⟩
    · show t.host.Settled
      rw [hhost]
      exact ⟨rfl, rfl, rfl⟩
    · show lastDriven t.link.calls = some t.host.requestAsserted
      rw [htrace.calls_eq, hhost]
      exact hlast
  | append_singleton ops op ih =>
    obtain ⟨calls, htrace, hperforms⟩ := op.run_performs (runAll ops t).2
    have hlast : (runAll (ops ++ [op]) t).2 = (op.run (runAll ops t).2).2 :=
      runAll_append ops [op] t
    rw [hlast] at hrequests ⊢
    rw [htrace.calls_eq] at hrequests ⊢
    obtain ⟨hearlier, hcalls⟩ := requestsSucceed_append.1 hrequests
    obtain ⟨hsettled, hline⟩ := ih hearlier
    obtain ⟨hsettled', htracks⟩ := hperforms.settles hcalls hsettled
    refine ⟨hsettled', ?_⟩
    rw [lastDriven_append, hline]
    exact htracks

/-- With two commands queued and the second byte of the first one failing, REQUEST is released by
the aborted transfer and asserted anew for the second command. -/
theorem request_follows_queues_after_abort :
    ∃ t : Transport (Traced (Faulty Radio)) 2 2,
      init { link := { link := {}, faults := { exchange := [false, true] } } } {} = .ok t ∧
      let final := (runAll [.send ⟨0, 1, #v[7, 0]⟩, .send ⟨0, 1, #v[8, 0]⟩, .poll] t).2
      final.link.calls = [.reset (.ok ()), .request false (.ok ()), .request true (.ok ()),
        .ready (.ok true), .request true (.ok ()), .exchange 1 (.ok 0),
        .exchange 7 (.error (.exchange Faulty.detail)), .request false (.ok ()),
        .request true (.ok ())] ∧
      final.requestAsserted = true ∧ lastDriven final.link.calls = some final.requestAsserted ∧
      final.phase = .atRest final.requestAsserted := by
  have hinit : init { link := { link := {}, faults := { exchange := [false, true] } } } {} =
      (.ok _ : Except _ (Transport (Traced (Faulty Radio)) 2 2)) := rfl
  refine ⟨_, hinit, rfl, rfl, ?_⟩
  obtain ⟨hline, -, hphase, -⟩ := request_follows_queues hinit
    [.send ⟨0, 1, #v[7, 0]⟩, .send ⟨0, 1, #v[8, 0]⟩, .poll] (by
      intro level answer hmem
      change Call.request level answer ∈ [Call.reset (.ok ()), .request false (.ok ()),
        .request true (.ok ()), .ready (.ok true), .request true (.ok ()), .exchange 1 (.ok 0),
        .exchange 7 (.error (.exchange Faulty.detail)), .request false (.ok ()),
        .request true (.ok ())] at hmem
      simp at hmem
      rcases hmem with ⟨-, h⟩ | ⟨-, h⟩ | ⟨-, h⟩ | ⟨-, h⟩ <;> exact h)
  exact ⟨hline, hphase⟩

end Transport

end RadioLink
