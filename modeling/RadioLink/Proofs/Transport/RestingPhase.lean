import Mathlib.Data.List.Induction
import RadioLink.Proofs.Transport.FailedOperations
import RadioLink.Proofs.Transport.Statistics

/-!
# The phase between operations

While no transfer runs, the phase of a transport goes with the level that it remembers of REQUEST.
Bringing REQUEST to a level keeps the two together: it sets both, or it fails and sets neither. A
transfer sets them apart. It takes REQUEST to be released, and relies on what comes behind it to
leave the phase of a transfer. Where it has failed, it goes back to the idle phase first; where it
has succeeded, nothing but the drive of REQUEST to its level does so. If REQUEST is due for a
further command then and cannot be asserted, the transfer is over and its phase stays
(`Transport.Strands`).

It stays until an operation brings REQUEST to its level or runs a transfer that fails.
`Transport.Stranded` reads that off a history, and `Transport.phase_rests_iff_not_stranded` says
that there is no other way to lose the phase.
-/

namespace RadioLink

variable {σ : Type} {max depth : Nat}

theorem Phase.atRest_ne_transferring (requested : Bool) :
    Phase.atRest requested ≠ .transferring := by
  cases requested with
  | false | true => simp [Phase.atRest]

namespace Transport

/-- The phase goes with the level that is remembered of REQUEST. -/
def PhaseRests (t : Transport σ max depth) : Prop :=
  t.phase = .atRest t.requestAsserted

/-- The phase is still that of a transfer, which has released REQUEST. There has been room for its
event. -/
structure PhaseStays (t : Transport σ max depth) : Prop where
  phase : t.phase = .transferring
  released : t.requestAsserted = false
  room : 0 < depth

variable {t t₁ t' : Transport σ max depth}

/-- A phase that has stayed does not rest. -/
theorem PhaseStays.not_rests (h : t.PhaseStays) : ¬t.PhaseRests := by
  intro hrests
  exact Phase.atRest_ne_transferring _ (hrests.symm.trans h.phase)

theorem PhaseRests.of_same (h : t.PhaseRests) (hphase : t'.phase = t.phase)
    (hlevel : t'.requestAsserted = t.requestAsserted) : t'.PhaseRests := by
  rw [PhaseRests, hphase, hlevel]
  exact h

theorem PhaseStays.of_same (h : t.PhaseStays) (hphase : t'.phase = t.phase)
    (hlevel : t'.requestAsserted = t.requestAsserted) : t'.PhaseStays :=
  ⟨hphase.trans h.phase, hlevel.trans h.released, h.room⟩

/-- Behind a transfer that has succeeded, REQUEST is due if another command is queued and there is
room for another event. -/
theorem wantsRequest_of_accepts {outcome : Transfer.Outcome max}
    (h : Host.Accepts outcome t.host.counted t₁.host) :
    t₁.wantsRequest = true ↔
      t.commands.tail.isEmpty = false ∧
      t.events.size + (if outcome.hasEvent then 1 else 0) < depth := by
  have hcommands : t₁.commands = t.commands.tail := h.events.1
  have hevents : t.events.toList ++ Transfer.gained (some (.ok outcome)) = t₁.events.toList :=
    h.events.2
  have hgained : (Transfer.gained (some (.ok outcome)) : List (Frame max)).length =
      if outcome.hasEvent then 1 else 0 := by
    rw [Transfer.gained]
    cases outcome.hasEvent with
    | false | true => rfl
  have hsize : t₁.events.size = t.events.size + (if outcome.hasEvent then 1 else 0) := by
    rw [Queue.size, ← hevents, List.length_append, hgained, Queue.size]
  rw [← hsize, ← Queue.isFull_eq_false_iff, wantsRequest, Flow.shouldRequest, hcommands,
    Bool.and_eq_true, Bool.not_eq_true', Bool.not_eq_true']

variable [Link σ]

/-- A cycle exchanges a whole frame, and another command is queued behind it with room for another
event; but REQUEST, which is due then, cannot be asserted. -/
structure Strands (t : Transport σ max depth) (outcome : Transfer.Outcome max) (ready link : σ)
    (cause : LinkError) :
    Prop where
  room : t.events.isFull = false
  sampled : Link.readReady t.link = (.ok true, ready)
  exchanged : Transfer.run t.host.outbound ready = (.ok outcome, link)
  queued : t.commands.tail.isEmpty = false
  space : t.events.size + (if outcome.hasEvent then 1 else 0) < depth
  failed : (Link.setRequest true link).1 = .error cause

/-- How an operation, or a part of one, leaves the phase, by the transfer that it has run: it has
failed without one and left the phase as it was; or the phase rests; or the phase of the transfer
has stayed. -/
inductive Ends {α : Type} (t : Transport σ max depth) :
    Option (Except LinkError (Transfer.Outcome max)) → Reply α (Transport σ max depth) → Prop
  | kept {e : TransportError} {t' : Transport σ max depth} : t'.phase = t.phase →
      t'.requestAsserted = t.requestAsserted → Ends t none (.error e, t')
  | rested {result : Option (Except LinkError (Transfer.Outcome max))}
      {reply : Reply α (Transport σ max depth)} :
      (result = none → ∃ a, reply.1 = .ok a) → reply.2.PhaseRests → Ends t result reply
  | stranded {outcome : Transfer.Outcome max} {ready link : σ} {cause : LinkError}
      {t' : Transport σ max depth} :
      Strands t outcome ready link cause → t'.PhaseStays →
        Ends t (some (.ok outcome)) (.error (.link cause), t')

namespace Ends

variable {α β : Type} {reply : Reply α (Transport σ max depth)}
  {result : Option (Except LinkError (Transfer.Outcome max))}

theorem map (h : Ends t result reply) (f : α → β) : Ends t result (Reply.map f reply) := by
  cases h with
  | kept hphase hlevel => exact .kept hphase hlevel
  | stranded hstrands hstays => exact .stranded hstrands hstays
  | rested hok hrests =>
    refine .rested ?_ (by rwa [Reply.snd_map])
    intro hnone
    obtain ⟨a, ha⟩ := hok hnone
    obtain ⟨answer, t'⟩ := reply
    cases ha
    exact ⟨f a, rfl⟩

/-- Without a transfer, nothing but the phase and the level of REQUEST matters. -/
theorem of_same (h : Ends t none reply) (hphase : t.phase = t'.phase)
    (hlevel : t.requestAsserted = t'.requestAsserted) : Ends t' none reply := by
  cases h with
  | kept hphase' hlevel' => exact .kept (hphase'.trans hphase) (hlevel'.trans hlevel)
  | rested hok hrests => exact .rested hok hrests

/-- Without a transfer, a phase that rests goes on resting. -/
theorem rests (h : Ends t none reply) (hrests : t.PhaseRests) : reply.2.PhaseRests := by
  cases h with
  | kept hphase hlevel => exact hrests.of_same hphase hlevel
  | rested _ hrests' => exact hrests'

end Ends

/-- Bringing REQUEST to its level ends at rest, or fails and leaves the phase as it was. -/
theorem syncRequest_ends (t : Transport σ max depth) : Ends t none t.syncRequest := by
  by_cases hdue : t.requestAsserted = t.wantsRequest
  · have hrests : PhaseRests { t with phase := .atRest t.wantsRequest } :=
      congrArg Phase.atRest hdue.symm
    rw [syncRequest_of_wanted hdue]
    exact .rested (fun _ => ⟨(), rfl⟩) hrests
  · rcases hdrive : Link.setRequest t.wantsRequest t.link with ⟨cause | ⟨⟩, link⟩
    · rw [syncRequest_of_failed hdue hdrive]
      exact .kept rfl rfl
    · rw [syncRequest_of_driven hdue hdrive]
      exact .rested (fun _ => ⟨(), rfl⟩) rfl

/-! ## Cycles -/

section

variable {outcome : Transfer.Outcome max} {ready link : σ} {cause : LinkError}

/-- The cycle fails, and the phase of its transfer stays. -/
theorem Strands.cycle (h : t.Strands outcome ready link cause) :
    ∃ t', t.cycle = (.error (.link cause), t') ∧ t'.PhaseStays := by
  obtain ⟨t₁, hlink, haccepts, htransfer⟩ :=
    runTransfer_of_ok (t := { t with link := ready }) h.exchanged h.room
  obtain ⟨-, hreleased, hphase⟩ := haccepts.frame
  have hreleased : t₁.requestAsserted = false := hreleased
  have hwants : t₁.wantsRequest = true :=
    (wantsRequest_of_accepts (t := t) haccepts).2 ⟨h.queued, h.space⟩
  have hdue : t₁.requestAsserted ≠ t₁.wantsRequest := by simp [hreleased, hwants]
  have hdrive : Link.setRequest t₁.wantsRequest t₁.link =
      (.error cause, (Link.setRequest true link).2) := by
    rw [hwants, hlink]
    exact Prod.ext h.failed rfl
  refine ⟨{ t₁ with link := (Link.setRequest true link).2 }, ?_, hphase, hreleased, ?_⟩
  · rw [cycle_of_ready h.room h.sampled, htransfer, syncRequest_of_failed hdue hdrive]
    rfl
  · exact Nat.lt_of_le_of_lt (Nat.zero_le _) h.space

/-- A cycle whose transfer succeeds ends at rest, unless it strands. -/
theorem cycle_ends_of_completed (hroom : t.events.isFull = false)
    (hready : Link.readReady t.link = (.ok true, ready))
    (hrun : Transfer.run t.host.outbound ready = (.ok outcome, link)) :
    Ends t (some (.ok outcome)) t.cycle := by
  obtain ⟨t₁, hlink, haccepts, htransfer⟩ :=
    runTransfer_of_ok (t := { t with link := ready }) hrun hroom
  have hreleased : t₁.requestAsserted = false := haccepts.frame.2.1
  have hsynced := syncRequest_ends t₁
  rcases hsync : t₁.syncRequest with ⟨e | ⟨⟩, t'⟩
  · -- REQUEST has been driven, so it was due
    have hdue : t₁.requestAsserted ≠ t₁.wantsRequest := by
      intro hwanted
      rw [syncRequest_of_wanted hwanted] at hsync
      cases hsync
    have hwants : t₁.wantsRequest = true := by simpa [hreleased] using hdue
    obtain ⟨hqueued, hspace⟩ := (wantsRequest_of_accepts (t := t) haccepts).1 hwants
    rcases hdrive : Link.setRequest t₁.wantsRequest t₁.link with ⟨cause | ⟨⟩, link'⟩
    · rw [hwants, hlink] at hdrive
      have hstrands : t.Strands outcome ready link cause :=
        ⟨hroom, hready, hrun, hqueued, hspace, congrArg Prod.fst hdrive⟩
      obtain ⟨t', hcycle, hstays⟩ := hstrands.cycle
      rw [hcycle]
      exact .stranded hstrands hstays
    · rw [syncRequest_of_driven hdue hdrive] at hsync
      cases hsync
  · rw [hsync] at hsynced
    rw [cycle_of_ready hroom hready, htransfer, hsync]
    cases hsynced with
    | rested _ hrests => exact .rested nofun hrests

end

/-- How a cycle leaves the phase, by the transfer that it has run. -/
theorem cycle_ends (t : Transport σ max depth) : Ends t t.transfer? t.cycle := by
  cases hfull : t.events.isFull with
  | true =>
    rw [transfer?_of_full hfull, cycle_of_full hfull]
    have hsynced : Ends t none t.countStall.syncRequest :=
      (syncRequest_ends t.countStall).of_same rfl rfl
    exact hsynced.map _
  | false =>
    rcases hready : Link.readReady t.link with ⟨e | _ | _, ready⟩
    · rw [transfer?_of_unready hready nofun, cycle_of_unsampled hfull hready]
      exact .kept rfl rfl
    · rw [transfer?_of_unready hready nofun, cycle_of_unready hfull hready]
      have hsynced : Ends t none (syncRequest { t with link := ready }) :=
        (syncRequest_ends _).of_same rfl rfl
      exact hsynced.map _
    · rw [transfer?_of_ready hfull hready]
      rcases hrun : Transfer.run t.host.outbound ready with ⟨e | outcome, link⟩
      · -- a transfer that has failed has left its phase before REQUEST is driven
        have hidle : (handedOver link .idle { t with link := ready }).PhaseRests := rfl
        rw [cycle_of_ready hfull hready, runTransfer_of_error (t := { t with link := ready }) hrun]
        exact .rested nofun ((syncRequest_ends _).rests hidle)
      · exact cycle_ends_of_completed hfull hready hrun

/-- A cycle without a transfer leaves the events as they were. -/
theorem cycle_events (h : t.transfer? = none) : t.cycle.2.events = t.events := by
  cases hfull : t.events.isFull with
  | true =>
    rw [cycle_of_full hfull, Reply.snd_map]
    exact (syncRequest_same t.countStall).2.1
  | false =>
    rcases hready : Link.readReady t.link with ⟨e | _ | _, ready⟩
    · rw [cycle_of_unsampled hfull hready]
    · rw [cycle_of_unready hfull hready, Reply.snd_map]
      exact (syncRequest_same { t with link := ready }).2.1
    · rw [transfer?_of_ready hfull hready] at h
      cases h

/-! ## Operations -/

section

variable (hhealthy : t.faulted = false)
include hhealthy

/-- A send runs no transfer, so it rests the phase or leaves it as it was. -/
theorem send_ends (frame : Frame max) : Ends t none (t.send frame) := by
  cases hfits : frame.fits with
  | false =>
    rw [send_of_overlong hhealthy hfits]
    exact .kept rfl rfl
  | true =>
    rcases hqueue : t.commands.enqueue frame with back | commands
    · rw [send_of_crowded hhealthy hfits hqueue]
      exact .kept rfl rfl
    · rw [send_of_room hhealthy hfits hqueue]
      exact (syncRequest_ends { t with commands }).of_same rfl rfl

/-- A receive from a full queue ends as bringing REQUEST to its level does, behind the event that it
has taken. If there is no event, because there is no room for one at all, it leaves everything as it
was. -/
theorem tryReceive_ends_of_full (h : t.PhaseRests ∨ t.PhaseStays) (hfull : t.events.isFull = true) :
    Ends t none t.tryReceive := by
  have hrefill := refill_of_full hfull
  cases hhead : t.events.peek? with
  | some event =>
    have hsynced : Ends t none (syncRequest { t with events := t.events.tail }) :=
      (syncRequest_ends _).of_same rfl rfl
    rw [tryReceive_of_some hhealthy hrefill hhead]
    exact hsynced.map _
  | none =>
    rw [tryReceive_of_none hhealthy hrefill hhead]
    rcases h with hrests | hstays
    · exact .rested (fun _ => ⟨none, rfl⟩) hrests
    · -- a transfer has stayed, so there was room for its event
      have hempty : t.events.toList = [] := List.head?_eq_none_iff.1 hhead
      have hdepth : t.events.toList.length = depth := Queue.isFull_iff.1 hfull
      have hroom := hstays.room
      rw [← hdepth, hempty] at hroom
      cases hroom

/-- A receive succeeds if its cycle has succeeded without a transfer: the event queue has as much
room as before, so there is nothing that it could forfeit. -/
theorem tryReceive_eq_ok (hroom : t.events.isFull = false) (hnone : t.transfer? = none)
    (hrefill : t.refill = (.ok (), t₁)) : ∃ taken, t.tryReceive.1 = .ok taken := by
  have hevents : t₁.events = t.events := by
    have hkept := cycle_events hnone
    rw [← Reply.snd_map fun _ => (), ← refill_of_room hroom, hrefill] at hkept
    exact hkept
  have hreceives := tryReceive_receives hhealthy
  rw [hrefill] at hreceives
  generalize t.tryReceive = received at hreceives ⊢
  cases hreceives with
  | unrefilled hfailed => cases hfailed
  | missed | taken => exact ⟨_, rfl⟩
  | forfeited hcycled hforfeits =>
    cases hcycled
    rw [← hevents, hforfeits.full] at hroom
    cases hroom

/-- A receive from a queue with room ends as its cycle does; and behind a cycle that has succeeded
the phase goes on resting, whatever comes of REQUEST. -/
theorem tryReceive_ends_of_room (hroom : t.events.isFull = false) :
    Ends t t.transfer? t.tryReceive := by
  have hrefill := refill_of_room hroom
  have hcycle := cycle_ends t
  generalize htransfer : t.transfer? = result at hcycle ⊢
  rcases hrun : t.cycle with ⟨e | what, t₁⟩
  · rw [hrun] at hrefill hcycle
    rw [tryReceive_of_error hhealthy hrefill]
    cases hcycle with
    | kept hphase hlevel => exact .kept hphase hlevel
    | stranded hstrands hstays => exact .stranded hstrands hstays
    | rested hok hrests =>
      refine .rested ?_ hrests
      intro hnone
      obtain ⟨_, hcases⟩ := hok hnone
      cases hcases
  · rw [hrun] at hrefill hcycle
    have hrests : t₁.PhaseRests := by
      cases hcycle with
      | rested _ hrests => exact hrests
    refine .rested ?_ ?_
    · intro hnone
      exact tryReceive_eq_ok hhealthy hroom (htransfer.trans hnone) hrefill
    · cases hhead : t₁.events.peek? with
      | none =>
        rw [tryReceive_of_none hhealthy hrefill hhead]
        exact hrests
      | some event =>
        rw [tryReceive_of_some hhealthy hrefill hhead, Reply.snd_map]
        exact (syncRequest_ends { t₁ with events := t₁.events.tail }).rests hrests

omit hhealthy in
/-- So does a flush. -/
theorem flush_ends (t : Transport σ max depth) : Ends t none t.flush := by
  cases hasserted : t.requestAsserted with
  | false =>
    have hrests : t.flush.2.PhaseRests := by
      rw [flush_of_released hasserted, PhaseRests, hasserted]
      rfl
    exact .rested (fun _ => ⟨(), by rw [flush_of_released hasserted]⟩) hrests
  | true =>
    rcases hdrive : Link.setRequest false t.link with ⟨cause | ⟨⟩, link⟩
    · rw [flush_of_failed hasserted hdrive]
      exact .kept rfl rfl
    · rw [flush_of_asserted hasserted hdrive]
      exact .rested (fun _ => ⟨(), rfl⟩) rfl

/-- All operations but the sample of READY end in one of the ways above. -/
theorem Op.run_ends (h : t.PhaseRests ∨ t.PhaseStays) {op : Op max} (hop : op ≠ .isPeerReady) :
    Ends t (op.transfer? t) (op.run t) := by
  cases op with
  | isPeerReady => exact absurd rfl hop
  | send frame => exact (send_ends hhealthy frame).map _
  | flush => exact (flush_ends t).map _
  | tryReceive =>
    rw [Op.transfer?_of_healthy hhealthy rfl]
    cases hfull : t.events.isFull with
    | true =>
      rw [transfer?_of_full hfull]
      exact (tryReceive_ends_of_full hhealthy h hfull).map _
    | false => exact (tryReceive_ends_of_room hhealthy hfull).map _
  | poll | readyEdge =>
    rw [Op.transfer?_of_healthy hhealthy rfl, run_of_drive hhealthy (by simp)]
    exact (cycle_ends t).map _

end

/-- The operation runs a cycle that strands the phase. -/
def Op.Strands (op : Op max) (t : Transport σ max depth) (cause : LinkError) : Prop :=
  op.drivesCycle = true ∧ ∃ outcome ready link, t.Strands outcome ready link cause

/-- The operation neither runs a transfer nor brings REQUEST to its level: it samples READY, or it
fails. -/
def Op.Idles (op : Op max) (t : Transport σ max depth) : Prop :=
  op = .isPeerReady ∨ op.transfer? t = none ∧ ∃ e, (op.run t).1 = .error e

/-- An operation that strands the phase answers with the error of the failed assertion. -/
theorem Op.Strands.run {op : Op max} {cause : LinkError} (h : op.Strands t cause)
    (hhealthy : t.faulted = false) :
    (op.run t).1 = .error (.link cause) ∧ (op.run t).2.PhaseStays := by
  obtain ⟨hop, outcome, ready, link, hstrands⟩ := h
  obtain ⟨t', hcycle, hstays⟩ := hstrands.cycle
  rw [Op.run_of_cycle_failed hhealthy hstrands.room hop hcycle]
  exact ⟨rfl, hstays⟩

/-- An operation that idles leaves the phase and the level of REQUEST as they were. -/
theorem Op.Idles.same {op : Op max} (hidles : op.Idles t) (hhealthy : t.faulted = false)
    (h : t.PhaseRests ∨ t.PhaseStays) :
    (op.run t).2.phase = t.phase ∧ (op.run t).2.requestAsserted = t.requestAsserted := by
  by_cases hop : op = .isPeerReady
  · subst hop
    rcases hready : Link.readReady t.link with ⟨answer, link⟩
    rw [run_isPeerReady hready]
    exact ⟨rfl, rfl⟩
  · obtain ⟨hnone, e, hfailed⟩ := hidles.resolve_left hop
    have hends := op.run_ends hhealthy h hop
    rw [hnone] at hends
    generalize op.run t = reply at hfailed hends ⊢
    cases hends with
    | kept hphase hlevel => exact ⟨hphase, hlevel⟩
    | rested hok =>
      obtain ⟨a, ha⟩ := hok rfl
      rw [hfailed] at ha
      cases ha

/-- The operation leaves the phase of a transfer behind: it strands it, or it meets it stranded and
idles. -/
def Op.Leaves (op : Op max) (t : Transport σ max depth) : Prop :=
  (∃ cause, op.Strands t cause) ∨ t.PhaseStays ∧ op.Idles t

/-- An operation that leaves the phase of a transfer behind does so. -/
theorem Op.run_stays (hhealthy : t.faulted = false) {op : Op max} (h : op.Leaves t) :
    (op.run t).2.PhaseStays := by
  rcases h with ⟨cause, hstrands⟩ | ⟨hstays, hidles⟩
  · exact (hstrands.run hhealthy).2
  · obtain ⟨hphase, hlevel⟩ := hidles.same hhealthy (.inr hstays)
    exact hstays.of_same hphase hlevel

/-- The step: every other operation rests the phase. -/
theorem Op.run_rests (hhealthy : t.faulted = false) (h : t.PhaseRests ∨ t.PhaseStays) {op : Op max}
    (hleaves : ¬op.Leaves t) : (op.run t).2.PhaseRests := by
  by_cases hidles : op.Idles t
  · obtain ⟨hphase, hlevel⟩ := hidles.same hhealthy h
    have hrests : t.PhaseRests := h.resolve_right fun hstays => hleaves (.inr ⟨hstays, hidles⟩)
    exact hrests.of_same hphase hlevel
  · have hends := op.run_ends hhealthy h fun hop => hidles (.inl hop)
    generalize htransfer : op.transfer? t = result at hends
    generalize hrun : op.run t = reply at hends ⊢
    cases hends with
    | rested _ hrests => exact hrests
    | @kept e => exact absurd (.inr ⟨htransfer, e, congrArg Prod.fst hrun⟩) hidles
    | @stranded outcome ready link cause _ hstrands =>
      have hdrives : op.drivesCycle = true := by
        cases hdrives : op.drivesCycle with
        | true => rfl
        | false => simp [Op.transfer?, hdrives] at htransfer
      exact absurd (.inl ⟨cause, hdrives, outcome, ready, link, hstrands⟩) hleaves

/-! ## Histories -/

/-- The phase of a transfer has been stranded in a history, and every operation since then has
idled. -/
inductive Stranded (t : Transport σ max depth) : List (Op max) → Prop
  | struck {ops : List (Op max)} {op : Op max} {cause : LinkError} :
      op.Strands (runAll ops t).2 cause → Stranded t (ops ++ [op])
  | left {ops : List (Op max)} {op : Op max} : Stranded t ops → op.Idles (runAll ops t).2 →
      Stranded t (ops ++ [op])

theorem not_stranded_nil (t : Transport σ max depth) : ¬Stranded t [] := by
  intro h
  generalize hnil : ([] : List (Op max)) = ops at h
  cases h with
  | struck | left => simp at hnil

/-- The last operation decides: it strands the phase, or it idles and the phase was stranded before
it. -/
theorem stranded_concat_iff {ops : List (Op max)} {op : Op max} :
    Stranded t (ops ++ [op]) ↔
      (∃ cause, op.Strands (runAll ops t).2 cause) ∨
        Stranded t ops ∧ op.Idles (runAll ops t).2 := by
  constructor
  · intro h
    generalize hhistory : ops ++ [op] = history at h
    cases h with
    | struck hstrands =>
      obtain ⟨rfl, hlast⟩ := List.append_inj' hhistory rfl
      cases hlast
      exact .inl ⟨_, hstrands⟩
    | left hstranded hidles =>
      obtain ⟨rfl, hlast⟩ := List.append_inj' hhistory rfl
      cases hlast
      exact .inr ⟨hstranded, hidles⟩
  · rintro (⟨cause, hstrands⟩ | ⟨hstranded, hidles⟩)
    · exact .struck hstrands
    · exact .left hstranded hidles

/-- After a history, the phase rests, or it has been stranded. -/
theorem runAll_phase {link : σ} {config : TransportConfig} (h : init link config = .ok t)
    (ops : List (Op max)) :
    (runAll ops t).2.PhaseRests ∧ ¬Stranded t ops ∨ (runAll ops t).2.PhaseStays ∧
      Stranded t ops := by
  induction ops using List.reverseRecOn with
  | nil =>
    have hhost := (init_eq_ok h).1
    have hphase : t.phase = .idle := congrArg (·.phase) hhost
    have hreleased : t.requestAsserted = false := congrArg (·.requestAsserted) hhost
    refine .inl ⟨?_, not_stranded_nil t⟩
    show t.phase = .atRest t.requestAsserted
    rw [hphase, hreleased]
    rfl
  | append_singleton ops op ih =>
    have hlast : (runAll (ops ++ [op]) t).2 = (op.run (runAll ops t).2).2 :=
      runAll_append ops [op] t
    have hhealthy := healthy_runAll h ops
    have hstays : (runAll ops t).2.PhaseStays ↔ Stranded t ops := by
      rcases ih with ⟨hrests, hkept⟩ | ⟨hstays, hstranded⟩
      · exact iff_of_false (fun hstays => hstays.not_rests hrests) hkept
      · exact iff_of_true hstays hstranded
    rw [hlast, stranded_concat_iff, ← hstays]
    by_cases hleaves : op.Leaves (runAll ops t).2
    · exact .inr ⟨Op.run_stays hhealthy hleaves, hleaves⟩
    · exact .inl ⟨Op.run_rests hhealthy (ih.imp And.left And.left) hleaves, hleaves⟩

/-- **The phase goes with REQUEST between operations, unless a transfer has stranded it.** On every
link, after any history since the transport was brought up: the phase is the one that the remembered
level of REQUEST stands for at rest, exactly if the phase of a transfer is not stranded. While it is
stranded, the phase is that of a transfer, and REQUEST is taken to be released. A cycle strands its
phase if it has exchanged a whole frame and then cannot assert REQUEST for the next one, and the
operation fails with the error of REQUEST. -/
theorem phase_rests_iff_not_stranded {link : σ} {config : TransportConfig}
    {t : Transport σ max depth} (h : init link config = .ok t) (ops : List (Op max)) :
    let after := (runAll ops t).2
    (after.phase = .atRest after.requestAsserted ↔ ¬Stranded t ops) ∧
    (Stranded t ops → after.phase = .transferring ∧ after.requestAsserted = false) ∧
    ∀ (op : Op max) (cause : LinkError), op.Strands after cause →
      (op.run after).1 = .error (.link cause) := by
  intro after
  have hstruck (op : Op max) (cause : LinkError) (hstrands : op.Strands after cause) :
      (op.run after).1 = .error (.link cause) := (hstrands.run (healthy_runAll h ops)).1
  rcases runAll_phase h ops with ⟨hrests, hkept⟩ | ⟨hstays, hstranded⟩
  · exact ⟨iff_of_true hrests hkept, fun hstranded => absurd hstranded hkept, hstruck⟩
  · exact ⟨iff_of_false hstays.not_rests (not_not_intro hstranded),
      fun _ => ⟨hstays.phase, hstays.released⟩, hstruck⟩

/-- Of two commands the first one is exchanged, and REQUEST cannot be asserted for the second one.
The phase is stranded until the next poll exchanges that command as well. -/
theorem phase_rests_iff_not_stranded_until_poll :
    ∃ t : Transport (Faulty Radio) 1 4,
      init { link := {}, faults := { request := [false, false, false, false, true] } } {} = .ok t ∧
      Stranded t [.send ⟨0, 1, #v[1]⟩, .send ⟨0, 1, #v[2]⟩, .poll] ∧
      ¬Stranded t [.send ⟨0, 1, #v[1]⟩, .send ⟨0, 1, #v[2]⟩, .poll, .poll] := by
  have hinit : init { link := {}, faults := { request := [false, false, false, false, true] } } {} =
      (.ok _ : Except _ (Transport (Faulty Radio) 1 4)) := rfl
  refine ⟨_, hinit, ?_, ?_⟩
  · obtain ⟨hrests, -⟩ :=
      phase_rests_iff_not_stranded hinit [.send ⟨0, 1, #v[1]⟩, .send ⟨0, 1, #v[2]⟩, .poll]
    by_contra hkept
    cases hrests.2 hkept
  · obtain ⟨hrests, -⟩ := phase_rests_iff_not_stranded hinit
      [.send ⟨0, 1, #v[1]⟩, .send ⟨0, 1, #v[2]⟩, .poll, .poll]
    exact hrests.1 rfl

/-- A poll has exchanged the first of two commands and cannot assert REQUEST for the second one. The
transfer is over, REQUEST is released, and the phase is still that of a transfer. -/
theorem phase_left_behind_transfer :
    ∃ t : Transport (Faulty Radio) 1 4,
      init { link := {}, faults := { request := [false, false, false, false, true] } } {} = .ok t ∧
      let after := (runAll [.send ⟨0, 1, #v[1]⟩, .send ⟨0, 1, #v[2]⟩, .poll] t).2
      after.phase = .transferring ∧ after.requestAsserted = false ∧
        after.link.link.request = false ∧
      after.phase ≠ .atRest after.requestAsserted :=
  ⟨_, rfl, rfl, rfl, rfl, nofun⟩

end Transport

end RadioLink
