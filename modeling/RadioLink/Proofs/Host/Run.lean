import RadioLink.Proofs.Host.Cases

/-!
# Transports do what hosts can do

`Transport.Op.run_performs`: over every link, an operation of a transport is one of the ways that
`Host.Performs` lists, by calls that are a trace of the link. Each part of the transport has its own
lemma, in the order in which they call one another.
-/

namespace RadioLink

variable {σ : Type} {max depth : Nat} [Link σ]

namespace Transport

/-- A reply has come about by calls, answers and a host that `R` allows, and the calls lead from
`link` to the link of the reply. -/
def Obeys {α : Type} (R : List Call → Except TransportError α → Host max depth → Prop) (link : σ)
    (reply : Reply α (Transport σ max depth)) : Prop :=
  ∃ calls, Trace link calls reply.2.link ∧ R calls reply.1 reply.2.host

/-- A reply that obeys `R`, with its value turned into another one and with some calls before it,
obeys what `R` becomes thereby. -/
theorem Obeys.map {α β : Type} {R : List Call → Except TransportError α → Host max depth → Prop}
    {S : List Call → Except TransportError β → Host max depth → Prop} {f : α → β} {link link₁ : σ}
    {before : List Call} {reply : Reply α (Transport σ max depth)}
    (hbefore : Trace link before link₁) (h : Obeys R link₁ reply)
    (hS : ∀ calls answer t', R calls answer t' → S (before ++ calls) (answer.map f) t') :
    Obeys S link (Reply.map f reply) := by
  obtain ⟨calls, htrace, hR⟩ := h
  rcases reply with ⟨e | a, t'⟩
  · exact ⟨before ++ calls, hbefore.append htrace, hS _ _ _ hR⟩
  · exact ⟨before ++ calls, hbefore.append htrace, hS _ _ _ hR⟩

/-- Driving REQUEST does what a host may do to drive it. -/
theorem driveRequest_obeys (level : Bool) (t : Transport σ max depth) :
    Obeys (Host.Drives level t.host) t.link (t.driveRequest level) := by
  by_cases hlevel : t.requestAsserted = level
  · have hrun : t.driveRequest level = (.ok (), t) := by simp only [driveRequest, if_pos hlevel]
    rw [hrun]
    exact ⟨[], .nil, .held hlevel⟩
  · rcases h : Link.setRequest level t.link with ⟨e | ⟨⟩, link⟩
    · have hrun : t.driveRequest level = (.error (.link e), { t with link }) := by
        simp only [driveRequest, if_neg hlevel, h]
      rw [hrun]
      exact ⟨[.request level (.error e)], .single h, .failed e hlevel⟩
    · have hrun : t.driveRequest level = (.ok (), { t with link, requestAsserted := level }) := by
        simp only [driveRequest, if_neg hlevel, h]
      rw [hrun]
      exact ⟨[.request level (.ok ())], .single h, .moved hlevel⟩

/-- Holding REQUEST at a level drives it there, or leaves it. -/
theorem holdRequest_obeys (level : Bool) (t : Transport σ max depth) :
    Obeys (Host.Holds level t.host) t.link (t.holdRequest level) := by
  obtain ⟨calls, htrace, hdrives⟩ := driveRequest_obeys level t
  rcases h : t.driveRequest level with ⟨e | ⟨⟩, t'⟩
  · have hrun : t.holdRequest level = (.error e, t') := by simp only [holdRequest, h]
    rw [hrun]
    rw [h] at htrace hdrives
    exact ⟨calls, htrace, .failed hdrives⟩
  · have hrun : t.holdRequest level = (.ok (), { t' with phase := .atRest level }) := by
      simp only [holdRequest, h]
    rw [hrun]
    rw [h] at htrace hdrives
    exact ⟨calls, htrace, .rested hdrives⟩

/-- Bringing REQUEST to the level that the queues ask for is such a hold. -/
theorem syncRequest_obeys (t : Transport σ max depth) :
    Obeys t.host.Syncs t.link t.syncRequest :=
  holdRequest_obeys t.wantsRequest t

/-- A transfer goes as a host may have one go, if there is room for its event. -/
theorem runTransfer_obeys {t : Transport σ max depth} (hroom : t.events.isFull = false) :
    Obeys (Host.Transfers t.host) t.link t.runTransfer := by
  obtain ⟨said, hsaid, hspoken⟩ := Transfer.says_run t.host.outbound t.link
  rcases h : Transfer.run t.host.outbound t.link with ⟨e | outcome, link⟩
  · rw [h] at hsaid hspoken
    obtain ⟨sync, hsync, hsyncs⟩ := syncRequest_obeys (t.handedOver link .idle)
    rw [runTransfer_of_error h]
    exact ⟨said ++ sync, hsaid.append hsync, .aborted hspoken hsyncs⟩
  · rw [h] at hsaid hspoken
    obtain ⟨t₁, hlink, haccepts, hrun⟩ := runTransfer_of_ok h hroom
    rw [hrun]
    refine Obeys.map hsaid (hlink ▸ syncRequest_obeys t₁) fun _ _ _ hsyncs => ?_
    exact .completed hspoken haccepts hsyncs

/-- A cycle goes as a host may have one go. -/
theorem cycle_obeys (t : Transport σ max depth) : Obeys (Host.Cycles t.host) t.link t.cycle := by
  cases hfull : t.events.isFull with
  | true =>
    rw [cycle_of_full hfull]
    exact Obeys.map .nil (syncRequest_obeys t.countStall) fun _ _ _ hsyncs => .stalled hfull hsyncs
  | false =>
    rcases hready : Link.readReady t.link with ⟨e | ready, link⟩
    · rw [cycle_of_unsampled hfull hready]
      exact ⟨[.ready (.error e)], .single hready, .unsampled e hfull⟩
    · have hcall : Call.Leads (.ready (.ok ready)) t.link link := hready
      cases ready with
      | false =>
        rw [cycle_of_unready hfull hready]
        exact Obeys.map (.single hcall) (syncRequest_obeys { t with link })
          fun _ _ _ hsyncs => .waited hfull hsyncs
      | true =>
        obtain ⟨calls, htrace, htransfers⟩ := runTransfer_obeys (t := { t with link }) hfull
        rw [cycle_of_ready hfull hready]
        exact ⟨_, .cons hcall htrace, .transferred hfull htransfers⟩

/-! ## Operations -/

/-- A refill that succeeds is one that a host can do; one that fails has run a cycle that failed. -/
theorem refill_refills (t : Transport σ max depth) :
    (∃ calls t', t.refill = (.ok (), t') ∧ Trace t.link calls t'.link ∧
      t.host.Refills calls t'.host) ∨
    (∃ calls e t', t.refill = (.error e, t') ∧ Trace t.link calls t'.link ∧
      t.events.isFull = false ∧
      t.host.Cycles calls (.error e) t'.host) := by
  cases hfull : t.events.isFull with
  | true => exact .inl ⟨[], t, refill_of_full hfull, .nil, .skipped hfull⟩
  | false =>
    obtain ⟨calls, htrace, hcycles⟩ := cycle_obeys t
    have hrun := refill_of_room hfull
    rcases h : t.cycle with ⟨e | what, t'⟩
    · rw [h] at htrace hcycles hrun
      exact .inr ⟨calls, e, t', hrun, htrace, rfl, hcycles⟩
    · rw [h] at htrace hcycles hrun
      exact .inl ⟨calls, t', hrun, htrace, .cycled hfull hcycles⟩

/-- A send goes as the relation says. -/
theorem send_performs (frame : Frame max) {t : Transport σ max depth}
    (hhealthy : t.faulted = false) :
    Obeys (t.host.Performs (.send frame)) t.link ((Op.send frame).run t) := by
  cases hfits : frame.fits with
  | false =>
    rw [Op.run, send_of_overlong hhealthy hfits]
    exact ⟨[], .nil, .overlong hhealthy hfits⟩
  | true =>
    rcases h : t.commands.enqueue frame with back | commands
    · rw [Op.run, send_of_crowded hhealthy hfits h]
      exact ⟨[], .nil, .crowded hhealthy hfits (Queue.enqueue_eq_error_iff.1 h).1⟩
    · rw [Op.run, send_of_room hhealthy hfits h]
      exact Obeys.map .nil (syncRequest_obeys { t with commands })
        fun _ _ _ hsyncs => .queued hhealthy hfits h hsyncs

/-- So does a receive. -/
theorem tryReceive_performs {t : Transport σ max depth} (hhealthy : t.faulted = false) :
    Obeys (t.host.Performs .tryReceive) t.link (Op.tryReceive.run t) := by
  rcases refill_refills t with ⟨calls, t₁, h, htrace, hrefills⟩
    | ⟨calls, e, t', h, htrace, hroom, hcycles⟩
  · cases hhead : t₁.events.peek? with
    | none =>
      rw [Op.run, tryReceive_of_none hhealthy h hhead]
      exact ⟨calls, htrace, .missed hhealthy hrefills hhead⟩
    | some event =>
      have hrun : Op.tryReceive.run t = Reply.map (fun _ => .event (some event))
          (syncRequest { t₁ with events := t₁.events.tail }) := by
        rw [Op.run, tryReceive_of_some hhealthy h hhead, Reply.map_map]
      rw [hrun]
      exact Obeys.map htrace (syncRequest_obeys { t₁ with events := t₁.events.tail })
        fun _ _ _ hsyncs => .taken hhealthy hrefills hhead hsyncs
  · rw [Op.run, tryReceive_of_error hhealthy h]
    exact ⟨calls, htrace, .unrefilled hhealthy hroom hcycles⟩

/-- So does a flush, also over an overflow that has halted the host. -/
theorem flush_performs (t : Transport σ max depth) :
    Obeys (t.host.Performs .flush) t.link (Op.flush.run t) := by
  rw [Op.run]
  cases hasserted : t.requestAsserted with
  | false =>
    have hdrives : Host.Drives false t.host.emptied [] (.ok ()) t.host.emptied := .held hasserted
    rw [flush_of_released hasserted]
    exact ⟨[], .nil, .flushed hdrives⟩
  | true =>
    have hlevel : t.host.emptied.requestAsserted ≠ false := by simp [Host.emptied, host, hasserted]
    rcases hdrive : Link.setRequest false t.link with ⟨cause | ⟨⟩, link⟩
    · rw [flush_of_failed hasserted hdrive]
      exact ⟨[.request false (.error cause)], .single hdrive, .unflushed (.failed cause hlevel)⟩
    · rw [flush_of_asserted hasserted hdrive]
      exact ⟨[.request false (.ok ())], .single hdrive, .flushed (.moved hlevel)⟩

/-- So does a sample of READY. -/
theorem isPeerReady_performs (t : Transport σ max depth) :
    Obeys (t.host.Performs .isPeerReady) t.link (Op.isPeerReady.run t) := by
  rcases h : Link.readReady t.link with ⟨answer, link⟩
  rw [Op.run_isPeerReady h]
  exact ⟨[.ready answer], .single h, .sampled answer⟩

/-- Every operation over every link goes in one of the ways that a host can go. -/
theorem Op.run_performs (op : Op max) (t : Transport σ max depth) :
    Obeys (t.host.Performs op) t.link (op.run t) := by
  cases hfaulted : t.faulted with
  | true =>
    have hrefused (hready : op ≠ .isPeerReady) (hflush : op ≠ .flush) :
        Obeys (t.host.Performs op) t.link (op.run t) := by
      rw [run_of_faulted hfaulted hready hflush]
      exact ⟨[], .nil, .refused hfaulted hready hflush⟩
    cases op with
    | isPeerReady => exact isPeerReady_performs t
    | flush => exact flush_performs t
    | send | tryReceive | poll | readyEdge => exact hrefused (by simp) (by simp)
  | false =>
    cases op with
    | isPeerReady => exact isPeerReady_performs t
    | flush => exact flush_performs t
    | send frame => exact send_performs frame hfaulted
    | tryReceive => exact tryReceive_performs hfaulted
    | poll | readyEdge =>
      rw [run_of_drive hfaulted (by simp)]
      exact Obeys.map .nil (cycle_obeys t) fun _ _ _ hcycles => .cycled hfaulted (by simp) hcycles

/-! ## Bringing up a transport -/

/-- Bringing up a transport may reset the radio, and ends with deasserting REQUEST. -/
theorem init_trace {link : σ} {config : TransportConfig} {t : Transport σ max depth}
    (h : init link config = .ok t) :
    t.host = { link := (), config } ∧
      ∃ before, Trace link (before ++ [.request false (.ok ())]) t.link ∧ Silent before := by
  obtain ⟨link₁, before, hbefore, hsilent, hstart⟩ : ∃ link₁ before, Trace link before link₁ ∧
      Silent before ∧ (if config.resetOnInit then Link.reset link else (.ok (), link)) =
        (.ok (), link₁) := by
    cases hreset : config.resetOnInit with
    | false => exact ⟨link, [], .nil, .nil, rfl⟩
    | true =>
      rcases hr : Link.reset link with ⟨e | ⟨⟩, link₁⟩
      · simp only [init, hreset, if_true, hr] at h
        cases h
      · exact ⟨link₁, [.reset (.ok ())], .single hr, .single rfl, rfl⟩
  rcases hreq : Link.setRequest false link₁ with ⟨e | ⟨⟩, link₂⟩
  · simp only [init, hstart, hreq] at h
    cases h
  · simp only [init, hstart, hreq, Except.ok.injEq] at h
    subst h
    have hcall : Call.Leads (.request false (.ok ())) link₁ link₂ := hreq
    exact ⟨rfl, before, hbefore.append (.single hcall), hsilent⟩

/-- A transport that has been brought up has empty queues, has exchanged no byte, and the last thing
that it has done to the link is to deassert REQUEST. -/
theorem init_eq_ok {link : σ} {config : TransportConfig} {t : Transport σ max depth}
    (h : init link config = .ok t) :
    t.host = { link := (), config } ∧
      ∃ calls, Trace link calls t.link ∧ Silent calls ∧ lastDriven calls = some false := by
  obtain ⟨hhost, before, htrace, hsilent⟩ := init_trace h
  refine ⟨hhost, _, htrace, hsilent.append (.single rfl), ?_⟩
  rw [lastDriven_append]
  rfl

end Transport

end RadioLink
