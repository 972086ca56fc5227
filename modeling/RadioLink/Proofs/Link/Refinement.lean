import RadioLink.Proofs.Link.Accesses
import RadioLink.Proofs.Transfer.Wire

/-!
# Links over boards

A `BoardLink` is a link: its REQUEST and READY are the pins of its board, at the level that an
active-low line has at their voltage. `Call.Makes` lists the accesses that one call makes, with the
answers that it makes of theirs; `Call.Leads.makes` says that a call on a link over any board makes
no other ones. Everything else is read off that list. A call succeeds if all its accesses do, and
stops at the first one that does not; and it moves REQUEST as a call of its kind is said to
(`Call.requested`), although the line is only one of the pins that it drives, and a reset drives it
last.

A transfer is a list of calls (`Transfer.Says`), so its accesses follow: `Clocks` is the run of
bytes in the middle of it, each with its flush behind it.
-/

namespace RadioLink

variable {β : Type} {max : Nat}

/-! ## Calls -/

/-- The level of REQUEST after a call, as a link has it. -/
def Call.requested (before : Bool) : Call → Bool
  | request level (.ok ()) => level
  | reset (.ok ()) => false
  | _ => before

/-- Every access but the last one has succeeded. -/
def StopsAtFailure (accesses : List Access) : Prop :=
  ∀ access ∈ accesses.dropLast, access.failed = false

/-- The drives of the reset pin through some voltages. -/
def pulses (voltages : List Voltage) : List Access :=
  voltages.map fun voltage => .reset voltage (.ok ())

/-- The voltages through which a reset drives its pin. -/
def resetPulse : List Voltage :=
  [.high, .low, .high]

/-- The accesses that a call makes over a board whose radio is given the time `settle` after a
reset. -/
inductive Call.Makes (settle : Duration) : Call → List Access → Prop
  | unswapped {byte : UInt8} {fault : BusFault} :
      Makes settle (.exchange byte (.error (.exchange fault.name))) [.swap byte (.error fault)]
  | unflushed {byte reply : UInt8} {fault : BusFault} :
      Makes settle (.exchange byte (.error (.exchange fault.name)))
        [.swap byte (.ok reply), .flush (.error fault)]
  | swapped {byte reply : UInt8} :
      Makes settle (.exchange byte (.ok reply)) [.swap byte (.ok reply), .flush (.ok ())]
  | undriven {level : Bool} {fault : PinFault} :
      Makes settle (.request level (.error (.pin .request fault.name)))
        [.request (BoardLink.voltage level) (.error fault)]
  | driven {level : Bool} :
      Makes settle (.request level (.ok ())) [.request (BoardLink.voltage level) (.ok ())]
  | unread {fault : PinFault} :
      Makes settle (.ready (.error (.pin .ready fault.name))) [.ready (.error fault)]
  | read {low : Bool} : Makes settle (.ready (.ok low)) [.ready (.ok low)]
  | unpulsed {done rest : List Voltage} {voltage : Voltage} {fault : PinFault} :
      resetPulse = done ++ voltage :: rest →
      Makes settle (.reset (.error (.pin .reset fault.name)))
        (pulses done ++ [.reset voltage (.error fault)])
  | unreleased {fault : PinFault} :
      Makes settle (.reset (.error (.pin .request fault.name)))
        (pulses resetPulse ++ [.request .high (.error fault)])
  | settled {millis : UInt32} :
      millis.toNat = min (settle.seconds.toNat * 1000 + settle.nanos.toNat / 1000000)
        (UInt32.size - 1) →
      Makes settle (.reset (.ok ())) (pulses resetPulse ++ [.request .high (.ok ()), .delay millis])

namespace BoardLink

/-- A delay is a duration in whole milliseconds, as far as there is such a delay. -/
theorem toNat_delayFor (d : Duration) :
    (delayFor d).toNat = min (d.seconds.toNat * 1000 + d.nanos.toNat / 1000000)
      (UInt32.size - 1) := by
  show (delayFor d).toNat = min d.toMillis (UInt32.size - 1)
  rw [delayFor]
  split
  · next hfits => rw [UInt32.toNat_ofNat_of_lt' hfits, Nat.min_eq_left (Nat.le_sub_one_of_lt hfits)]
  · next hlong =>
    rw [UInt32.toNat_ofNat_of_lt' (by decide), Nat.min_eq_right]
    omega

theorem onPin_ok {α : Type} (line : Line) (a : α) (b : β) :
    onPin line (.ok a, b) = (.ok a, b) := rfl

/-- A pin access that fails is reported with its line and the name of the fault. -/
theorem onPin_error {α : Type} (line : Line) (fault : PinFault) (b : β) :
    (onPin line (.error fault, b) : Except LinkError α × β) = (.error (.pin line fault.name), b) :=
  rfl

theorem onBus_ok {α : Type} (a : α) (b : β) : onBus (.ok a, b) = (.ok a, b) := rfl

/-- A bus access that fails is reported as a failed exchange with the name of the fault. -/
theorem onBus_error {α : Type} (fault : BusFault) (b : β) :
    (onBus (.error fault, b) : Except LinkError α × β) = (.error (.exchange fault.name), b) := rfl

variable [Board β]

/-- An exchange swaps the byte and flushes the bus, unless the swap fails. -/
theorem exchange_makes (settle : Duration) (byte : UInt8) (b : β) :
    ∃ accesses, Accessed b accesses (exchange byte b).2 ∧
      (Call.exchange byte (exchange byte b).1).Makes settle accesses := by
  rcases hswap : Board.swap byte b with ⟨fault | reply, b₁⟩
  · have hrun : exchange byte b = (.error (.exchange fault.name), b₁) := by
      simp only [exchange, hswap, onBus_error]
    have hfirst : Access.Leads (.swap byte (.error fault)) b b₁ := hswap
    rw [hrun]
    exact ⟨_, .single hfirst, .unswapped⟩
  · have hfirst : Access.Leads (.swap byte (.ok reply)) b b₁ := hswap
    rcases hflush : Board.flush b₁ with ⟨fault | ⟨⟩, b₂⟩
    · have hrun : exchange byte b = (.error (.exchange fault.name), b₂) := by
        simp only [exchange, hswap, hflush, onBus_ok, onBus_error]
      have hsecond : Access.Leads (.flush (.error fault)) b₁ b₂ := hflush
      rw [hrun]
      exact ⟨_, .cons hfirst (.single hsecond), .unflushed⟩
    · have hrun : exchange byte b = (.ok reply, b₂) := by
        simp only [exchange, hswap, hflush, onBus_ok]
      have hsecond : Access.Leads (.flush (.ok ())) b₁ b₂ := hflush
      rw [hrun]
      exact ⟨_, .cons hfirst (.single hsecond), .swapped⟩

/-- Driving REQUEST is one drive of its pin. -/
theorem setRequest_makes (settle : Duration) (level : Bool) (b : β) :
    ∃ accesses, Accessed b accesses (onPin .request (Board.driveRequest (voltage level) b)).2 ∧
      (Call.request level (onPin .request (Board.driveRequest (voltage level) b)).1).Makes settle
        accesses := by
  rcases hdrive : Board.driveRequest (voltage level) b with ⟨fault | ⟨⟩, b'⟩
  · have haccess : Access.Leads (.request (voltage level) (.error fault)) b b' := hdrive
    exact ⟨_, .single haccess, .undriven⟩
  · have haccess : Access.Leads (.request (voltage level) (.ok ())) b b' := hdrive
    exact ⟨_, .single haccess, .driven⟩

/-- Reading READY is one sample of its pin. -/
theorem readReady_makes (settle : Duration) (b : β) :
    ∃ accesses, Accessed b accesses (onPin .ready (Board.readyIsLow b)).2 ∧
      (Call.ready (onPin .ready (Board.readyIsLow b)).1).Makes settle accesses := by
  rcases hread : Board.readyIsLow b with ⟨fault | low, b'⟩
  · have haccess : Access.Leads (.ready (.error fault)) b b' := hread
    exact ⟨_, .single haccess, .unread⟩
  · have haccess : Access.Leads (.ready (.ok low)) b b' := hread
    exact ⟨_, .single haccess, .read⟩

/-- A pulse drives all its voltages in order, or those up to the first that fails. -/
theorem pulse_accessed (voltages : List Voltage) (b : β) :
    (∃ b', pulse voltages b = (.ok (), b') ∧ Accessed b (pulses voltages) b') ∨
    (∃ done voltage rest fault b', voltages = done ++ voltage :: rest ∧
      pulse voltages b = (.error (.pin .reset fault.name), b') ∧
      Accessed b (pulses done ++ [.reset voltage (.error fault)]) b') := by
  induction voltages generalizing b with
  | nil => exact .inl ⟨b, rfl, .nil⟩
  | cons voltage voltages ih =>
    rcases hdrive : Board.driveReset voltage b with ⟨fault | ⟨⟩, b₁⟩
    · refine .inr ⟨[], voltage, voltages, fault, b₁, rfl, ?_, .single hdrive⟩
      simp only [pulse, hdrive, onPin_error]
    · have hrun : pulse (voltage :: voltages) b = pulse voltages b₁ := by
        simp only [pulse, hdrive, onPin_ok]
      have hcall : Access.Leads (.reset voltage (.ok ())) b b₁ := hdrive
      rw [hrun]
      rcases ih b₁ with ⟨b', hrest, haccessed⟩
        | ⟨done, next, rest, fault, b', rfl, hrest, haccessed⟩
      · exact .inl ⟨b', hrest, .cons hcall haccessed⟩
      · exact .inr ⟨voltage :: done, next, rest, fault, b', rfl, hrest, .cons hcall haccessed⟩

/-- A reset pulses its pin, releases REQUEST and waits, up to the first of these that fails. -/
theorem reset_makes (settle : Duration) (b : β) :
    ∃ accesses, Accessed b accesses (reset settle b).2 ∧
      (Call.reset (reset settle b).1).Makes settle accesses := by
  rcases pulse_accessed resetPulse b with
    ⟨b₁, hpulse, haccessed⟩ | ⟨done, voltage, rest, fault, b', hsplit, hpulse, haccessed⟩
  · rw [resetPulse] at hpulse
    rcases hdrive : Board.driveRequest .high b₁ with ⟨fault | ⟨⟩, b₂⟩
    · have hrun : reset settle b = (.error (.pin .request fault.name), b₂) := by
        simp only [reset, hpulse, hdrive, onPin_error]
      have hrelease : Access.Leads (.request .high (.error fault)) b₁ b₂ := hdrive
      rw [hrun]
      exact ⟨_, haccessed.append (.single hrelease), .unreleased⟩
    · have hrun : reset settle b = (.ok (), Board.delay (delayFor settle) b₂) := by
        simp only [reset, hpulse, hdrive, onPin_ok]
      have hrelease : Access.Leads (.request .high (.ok ())) b₁ b₂ := hdrive
      have hdelay : Access.Leads (.delay (delayFor settle)) b₂ (Board.delay (delayFor settle) b₂) :=
        rfl
      rw [hrun]
      exact ⟨_, haccessed.append (.cons hrelease (.single hdelay)),
        .settled (toNat_delayFor settle)⟩
  · rw [resetPulse] at hpulse
    have hrun : reset settle b = (.error (.pin .reset fault.name), b') := by
      simp only [reset, hpulse]
    rw [hrun]
    exact ⟨_, haccessed, .unpulsed hsplit⟩

end BoardLink

/-- A call on a link over a board makes the accesses that `Call.Makes` lists, and leaves the
configuration alone. -/
theorem Call.Leads.makes [Board β] {call : Call} {s s' : BoardLink β} (h : call.Leads s s') :
    s'.config = s.config ∧ ∃ accesses, Accessed s.board accesses s'.board ∧
      call.Makes s.config.resetSettle accesses := by
  cases call with
  | exchange byte answer =>
    obtain ⟨rfl, rfl⟩ := Prod.mk.inj h
    exact ⟨rfl, BoardLink.exchange_makes _ byte s.board⟩
  | request level answer =>
    obtain ⟨rfl, rfl⟩ := Prod.mk.inj h
    exact ⟨rfl, BoardLink.setRequest_makes _ level s.board⟩
  | ready answer =>
    obtain ⟨rfl, rfl⟩ := Prod.mk.inj h
    exact ⟨rfl, BoardLink.readReady_makes _ s.board⟩
  | reset answer =>
    obtain ⟨rfl, rfl⟩ := Prod.mk.inj h
    exact ⟨rfl, BoardLink.reset_makes _ s.board⟩

/-! ## What the accesses of a call amount to -/

/-- The drives of `pulses` are those that have succeeded. -/
theorem failed_of_mem_pulses {voltages : List Voltage} {access : Access}
    (h : access ∈ pulses voltages) :
    access.failed = false := by
  obtain ⟨voltage, -, rfl⟩ := List.mem_map.1 h
  rfl

/-- A drive of the reset pin leaves REQUEST alone. -/
theorem requestPin_pulses (voltages : List Voltage) (pin : Voltage) :
    (pulses voltages).foldl Access.requestPin pin = pin := by
  induction voltages with
  | nil => rfl
  | cons voltage voltages ih => exact ih

namespace Call.Makes

variable {settle : Duration} {call : Call} {accesses : List Access}

/-- A call fails if one of its accesses does. -/
theorem answered (h : call.Makes settle accesses) :
    call.failed = false ↔ ∀ access ∈ accesses, access.failed = false := by
  cases h with
  | unswapped | unflushed | swapped | undriven | driven | unread | read | unreleased | settled =>
    simp [Call.failed, Access.failed, pulses, resetPulse]
  | unpulsed =>
    refine iff_of_false nofun fun hsucceed => ?_
    cases hsucceed _ (List.mem_append_right _ (List.mem_singleton.2 rfl))

/-- A call makes no access behind one that has failed. -/
theorem stops (h : call.Makes settle accesses) : StopsAtFailure accesses := by
  cases h with
  | unswapped | unflushed | swapped | undriven | driven | unread | read | unreleased | settled =>
    simp [StopsAtFailure, Access.failed, pulses, resetPulse]
  | unpulsed =>
    rw [StopsAtFailure, List.dropLast_concat]
    exact fun access haccess => failed_of_mem_pulses haccess

/-- The REQUEST pin goes where the call says that REQUEST goes. -/
theorem requested (h : call.Makes settle accesses) (pin : Voltage) :
    (accesses.foldl Access.requestPin pin).asserts = call.requested pin.asserts := by
  cases h with
  | unswapped | unflushed | swapped | undriven | unread | read => rfl
  | driven => exact Voltage.asserts_voltage _
  | unpulsed =>
    rw [List.foldl_append, requestPin_pulses]
    rfl
  | unreleased | settled => rfl

/-- A call that drives REQUEST makes one access, which fails if the call does. -/
theorem of_request {level : Bool} {answer : Except LinkError Unit}
    (h : (Call.request level answer).Makes settle accesses) :
    ∃ verdict, accesses = [.request (BoardLink.voltage level) verdict] ∧
      (verdict = .ok () ↔ answer = .ok ()) := by
  cases h with
  | undriven => exact ⟨_, rfl, iff_of_false nofun nofun⟩
  | driven => exact ⟨_, rfl, iff_of_true rfl rfl⟩

end Call.Makes

/-! ## Runs of calls -/

/-- The accesses that some calls make, one after the other. -/
inductive Call.MakeAll (settle : Duration) : List Call → List Access → Prop
  | nil : MakeAll settle [] []
  | cons {call : Call} {calls : List Call} {accesses rest : List Access} :
      call.Makes settle accesses → MakeAll settle calls rest →
        MakeAll settle (call :: calls) (accesses ++ rest)

namespace Call.MakeAll

variable {settle : Duration} {calls calls' : List Call} {accesses : List Access}

/-- Calls made in a row make the accesses of the first ones and then those of the others. -/
theorem split (h : MakeAll settle (calls ++ calls') accesses) :
    ∃ before after, accesses = before ++ after ∧ MakeAll settle calls before ∧
      MakeAll settle calls' after := by
  induction calls generalizing accesses with
  | nil => exact ⟨[], accesses, rfl, .nil, h⟩
  | cons call calls ih =>
    cases h with
    | cons hcall hrest =>
      obtain ⟨before, after, rfl, hbefore, hafter⟩ := ih hrest
      exact ⟨_, after, (List.append_assoc _ _ _).symm, .cons hcall hbefore, hafter⟩

/-- The REQUEST pin goes where the calls say that REQUEST goes, by induction on the run. -/
theorem requested (h : MakeAll settle calls accesses) (pin : Voltage) :
    (accesses.foldl Access.requestPin pin).asserts = calls.foldl Call.requested pin.asserts := by
  induction h generalizing pin with
  | nil => rfl
  | cons hcall _ ih => rw [List.foldl_append, ih, hcall.requested, List.foldl_cons]

/-- Each call makes its accesses. -/
theorem of_mem (h : MakeAll settle calls accesses) {call : Call} (hcall : call ∈ calls) :
    ∃ part, call.Makes settle part ∧ part ⊆ accesses := by
  induction h with
  | nil => cases hcall
  | @cons first calls part rest hfirst _ ih =>
    rcases List.mem_cons.1 hcall with rfl | hcall
    · exact ⟨part, hfirst, List.subset_append_left _ _⟩
    · obtain ⟨part, hmakes, hsubset⟩ := ih hcall
      exact ⟨part, hmakes, fun access haccess => List.mem_append_right _ (hsubset haccess)⟩

/-- All calls succeed if and only if all their accesses do. -/
theorem answered (h : MakeAll settle calls accesses) :
    (∀ call ∈ calls, call.failed = false) ↔ ∀ access ∈ accesses, access.failed = false := by
  induction h with
  | nil => exact iff_of_true nofun nofun
  | cons hcall _ ih => rw [List.forall_mem_cons, List.forall_mem_append, hcall.answered, ih]

end Call.MakeAll

/-- Each call of a trace over a board makes its accesses, and none of them touches the
configuration. -/
theorem Trace.makes [Board β] {calls : List Call} {s s' : BoardLink β} (h : Trace s calls s') :
    s'.config = s.config ∧ ∃ accesses, Accessed s.board accesses s'.board ∧
      Call.MakeAll s.config.resetSettle calls accesses := by
  induction h with
  | nil => exact ⟨rfl, [], .nil, .nil⟩
  | cons hcall _ ih =>
    obtain ⟨hconfig, accesses, haccessed, hmakes⟩ := hcall.makes
    obtain ⟨hconfig', rest, hrest, hmakes'⟩ := ih
    rw [hconfig] at hmakes'
    exact ⟨hconfig'.trans hconfig, accesses ++ rest, haccessed.append hrest, .cons hmakes hmakes'⟩

/-! ## Transfers -/

/-- A run of bytes, each swapped and then flushed. -/
inductive Clocked : List Access → Prop
  | nil : Clocked []
  | cons {byte reply : UInt8} {rest : List Access} : Clocked rest →
      Clocked (.swap byte (.ok reply) :: .flush (.ok ()) :: rest)

/-- An access of a transfer, with the voltage of the REQUEST pin before it and the accesses behind
it: a byte is swapped while the pin is low, a byte that has been swapped is flushed next, and behind
an access that has failed there is nothing but the release of REQUEST. -/
structure Orderly (pin : Voltage) (access : Access) (later : List Access) : Prop where
  low : ∀ byte answer, access = .swap byte answer → pin = .low
  flushed : ∀ byte reply, access = .swap byte (.ok reply) →
    ∃ answer rest, later = .flush answer :: rest
  spared : access.failed = true → later = [] ∨ ∃ answer, later = [.request .high answer]

/-- All accesses are orderly, from some voltage of the REQUEST pin on. -/
def AllOrderly (pin : Voltage) (accesses : List Access) : Prop :=
  ∀ earlier access later, accesses = earlier ++ access :: later →
    Orderly (earlier.foldl Access.requestPin pin) access later

namespace AllOrderly

variable {pin : Voltage} {access : Access} {accesses : List Access}

theorem nil : AllOrderly pin [] := by
  intro earlier access later h
  cases earlier <;> cases h

/-- An orderly access in front of orderly ones. -/
theorem cons (h : Orderly pin access accesses)
    (hrest : AllOrderly (access.requestPin pin) accesses) :
    AllOrderly pin (access :: accesses) := by
  intro earlier other later hsplit
  cases earlier with
  | nil =>
    obtain ⟨rfl, rfl⟩ := List.cons.inj hsplit
    exact h
  | cons first earlier =>
    obtain ⟨rfl, hlater⟩ := List.cons.inj hsplit
    exact hrest earlier other later hlater

/-- A drive of REQUEST is orderly as long as nothing comes after it if it fails. -/
theorem request (voltage : Voltage) (answer : Except PinFault Unit) :
    AllOrderly pin [.request voltage answer] :=
  .cons ⟨nofun, nofun, fun _ => .inl rfl⟩ .nil

/-- Behind an assertion of REQUEST the pin is low, which is where bytes can be swapped. -/
theorem asserted (h : AllOrderly .low accesses) :
    AllOrderly pin (.request .low (.ok ()) :: accesses) :=
  .cons ⟨nofun, nofun, nofun⟩ h

/-- Bytes that are swapped and flushed while REQUEST is asserted are orderly, and leave it
asserted. -/
theorem clocked {bytes : List Access} (h : Clocked bytes) (hrest : AllOrderly .low accesses) :
    AllOrderly .low (bytes ++ accesses) := by
  induction h with
  | nil => exact hrest
  | cons _ ih =>
    refine cons ⟨fun _ _ _ => rfl, fun _ _ _ => ⟨_, _, rfl⟩, nofun⟩ (cons ⟨nofun, nofun, nofun⟩ ?_)
    exact ih

end AllOrderly

variable {settle : Duration}

/-- Bytes that are exchanged in a row are each swapped and flushed. -/
theorem Call.MakeAll.clocked {bytes replies : List UInt8} {accesses : List Access}
    (h : MakeAll settle (swaps bytes replies) accesses) : Clocked accesses := by
  induction bytes generalizing replies accesses with
  | nil =>
    cases h
    exact .nil
  | cons byte bytes ih =>
    cases replies with
    | nil =>
      cases h
      exact .nil
    | cons reply replies =>
      rw [swaps_cons] at h
      cases h with
      | cons hcall hrest =>
        cases hcall
        exact .cons (ih hrest)

/-- A single drive of REQUEST is a single access. -/
theorem Call.MakeAll.of_request {level : Bool} {answer : Except LinkError Unit}
    {accesses : List Access} (h : MakeAll settle [.request level answer] accesses) :
    ∃ verdict, accesses = [.request (BoardLink.voltage level) verdict] := by
  cases h with
  | cons hcall hrest =>
    cases hrest
    obtain ⟨verdict, rfl, -⟩ := hcall.of_request
    exact ⟨verdict, rfl⟩

/-- Calls that begin with REQUEST asserted begin with its pin driven low. -/
theorem Call.MakeAll.of_asserted {calls : List Call} {accesses : List Access}
    (h : MakeAll settle (.request true (.ok ()) :: calls) accesses) :
    ∃ rest, accesses = .request .low (.ok ()) :: rest ∧ MakeAll settle calls rest := by
  cases h with
  | @cons _ _ _ rest hcall hrest =>
    cases hcall
    exact ⟨rest, rfl, hrest⟩

/-- The byte that fails is the last one, whether it was swapped or not. -/
theorem Call.Makes.orderly_of_failed {byte : UInt8} {e : LinkError} {accesses : List Access}
    (h : (Call.exchange byte (.error e)).Makes settle accesses) (release : Except PinFault Unit) :
    AllOrderly .low (accesses ++ [.request .high release]) := by
  cases h with
  | unswapped =>
    exact .cons ⟨fun _ _ _ => rfl, nofun, fun _ => .inr ⟨release, rfl⟩⟩ (.request .high release)
  | unflushed =>
    exact .cons ⟨fun _ _ _ => rfl, fun _ _ _ => ⟨_, _, rfl⟩, nofun⟩
      (.cons ⟨nofun, nofun, fun _ => .inr ⟨release, rfl⟩⟩ (.request .high release))

namespace Transfer.Says

variable {frame : Frame max} {calls : List Call} {result : Except LinkError (Outcome max)}

/-- A transfer succeeds if all its calls do. -/
theorem answered (h : Says frame calls result) :
    (∃ outcome, result = .ok outcome) ↔ ∀ call ∈ calls, call.failed = false := by
  cases h with
  | refused e =>
    refine iff_of_false nofun fun hsucceed => ?_
    cases hsucceed (.request true (.error e)) (by simp)
  | @aborted replies e release _ =>
    refine iff_of_false nofun fun hsucceed => ?_
    cases hsucceed (.exchange (frame.wireByte replies.length) (.error e)) (by simp)
  | unreleased e _ =>
    refine iff_of_false nofun fun hsucceed => ?_
    cases hsucceed (.request false (.error e)) (by simp)
  | completed _ =>
    refine iff_of_true ⟨_, rfl⟩ (List.forall_mem_cons.2 ⟨rfl, List.forall_mem_append.2 ⟨?_, ?_⟩⟩)
    · exact fun call hcall => failed_of_mem_swaps hcall
    · exact fun call hcall => List.mem_singleton.1 hcall ▸ rfl

/-- The accesses of a transfer are orderly. -/
theorem orderly (h : Says frame calls result) {accesses : List Access}
    (hmakes : Call.MakeAll settle calls accesses) (pin : Voltage) : AllOrderly pin accesses := by
  cases h with
  | refused e =>
    obtain ⟨verdict, rfl⟩ := hmakes.of_request
    exact .request _ verdict
  | @aborted replies e release _ =>
    obtain ⟨rest, rfl, hrest⟩ := hmakes.of_asserted
    obtain ⟨clocked, after, rfl, hclocked, hafter⟩ := hrest.split
    cases hafter with
    | cons hfailed hlast =>
      obtain ⟨verdict, rfl⟩ := hlast.of_request
      exact .asserted (.clocked hclocked.clocked (hfailed.orderly_of_failed verdict))
  | unreleased e _ | completed _ =>
    obtain ⟨rest, rfl, hrest⟩ := hmakes.of_asserted
    obtain ⟨clocked, after, rfl, hclocked, hafter⟩ := hrest.split
    obtain ⟨verdict, rfl⟩ := hafter.of_request
    exact .asserted (.clocked hclocked.clocked (.request .high verdict))

end Transfer.Says

/-! ## Sequences -/

/-- Something to do with a link: to call one of its primitives, or to exchange a frame over it. -/
inductive Link.Op where
  /-- Exchange a byte. -/
  | exchange (byte : UInt8)
  /-- Drive REQUEST. -/
  | setRequest (level : Bool)
  /-- Sample READY. -/
  | readReady
  /-- Reset the radio. -/
  | reset
  /-- Exchange a frame. -/
  | transfer {max : Nat} (frame : Frame max)

namespace Link

variable {σ : Type} [Link σ]

/-- The link after it has been used once. -/
def Op.run : Op → σ → σ
  | .exchange byte, s => (Link.exchange byte s).2
  | .setRequest level, s => (Link.setRequest level s).2
  | .readReady, s => (Link.readReady s).2
  | .reset, s => (Link.reset s).2
  | .transfer frame, s => (Transfer.run frame s).2

/-- The link after it has been used for a sequence. -/
def runAll (ops : List Op) (s : σ) : σ :=
  ops.foldl (fun s op => op.run s) s

/-- What an operation of a link does is a trace of calls. -/
theorem Op.run_trace (op : Op) (s : σ) : ∃ calls, Trace s calls (op.run s) := by
  cases op with
  | exchange byte =>
    have hcall : Call.Leads (.exchange byte (Link.exchange byte s).1) s (Link.exchange byte s).2 :=
      rfl
    exact ⟨_, .single hcall⟩
  | setRequest level =>
    have hcall : Call.Leads (.request level (Link.setRequest level s).1) s
        (Link.setRequest level s).2 := rfl
    exact ⟨_, .single hcall⟩
  | readReady =>
    have hcall : Call.Leads (.ready (Link.readReady s).1) s (Link.readReady s).2 := rfl
    exact ⟨_, .single hcall⟩
  | reset =>
    have hcall : Call.Leads (.reset (Link.reset s).1) s (Link.reset s).2 := rfl
    exact ⟨_, .single hcall⟩
  | transfer frame =>
    obtain ⟨calls, htrace, -⟩ := Transfer.says_run frame s
    exact ⟨calls, htrace⟩

/-- So is what a sequence of them does. -/
theorem runAll_trace (ops : List Op) (s : σ) : ∃ calls, Trace s calls (runAll ops s) := by
  induction ops generalizing s with
  | nil => exact ⟨[], .nil⟩
  | cons op ops ih =>
    obtain ⟨calls, hfirst⟩ := op.run_trace s
    obtain ⟨rest, hrest⟩ := ih (op.run s)
    exact ⟨calls ++ rest, hfirst.append hrest⟩

end Link

namespace BoardLink

variable [Board β] [Pins β]

/-- The level of REQUEST, which is active-low. -/
def requested (s : BoardLink β) : Bool :=
  (Pins.requestPin s.board).asserts

/-- The level of READY, which is active-low. -/
def readied (s : BoardLink β) : Bool :=
  (Pins.readyPin s.board).asserts

end BoardLink

/-- One call over a board, with the accesses that it has made: it succeeds if they all do, and has
made none behind one that has failed; REQUEST goes where such a call takes it on a link, and a
sample of READY that succeeds is its level; and a reset that succeeds has pulsed its pin, deasserted
REQUEST and waited, in this order, as many whole milliseconds as the radio needs or as a board can
be asked for. -/
structure Call.Refines [Board β] [Pins β] (call : Call) (accesses : List Access)
    (s s' : BoardLink β) : Prop where
  answered : call.failed = false ↔ ∀ access ∈ accesses, access.failed = false
  stops : StopsAtFailure accesses
  requested : s'.requested = call.requested s.requested
  sampled : ∀ level, call = .ready (.ok level) → level = s.readied
  pulsed : call = .reset (.ok ()) → ∃ millis : UInt32,
    millis.toNat = min (s.config.resetSettle.seconds.toNat * 1000 +
      s.config.resetSettle.nanos.toNat / 1000000) (UInt32.size - 1) ∧
    accesses = [.reset .high (.ok ()), .reset .low (.ok ()), .reset .high (.ok ()),
      .request .high (.ok ()), .delay millis]

/-- One transfer over a board, with the accesses that it has made: it succeeds if they all do; each
byte is swapped while the REQUEST pin is low and then flushed, with nothing but the release of
REQUEST behind an access that has failed; and unless the pin could not be driven, REQUEST is
deasserted behind it. -/
structure Transfer.Refines [Board β] [Pins β] (result : Except LinkError (Transfer.Outcome max))
    (accesses : List Access) (s s' : BoardLink β) : Prop where
  answered : (∃ outcome, result = .ok outcome) ↔ ∀ access ∈ accesses, access.failed = false
  orderly : AllOrderly (Pins.requestPin s.board) accesses
  released : (∀ voltage fault, .request voltage (.error fault) ∉ accesses) → s'.requested = false

section

variable [Board β] [Pins β] {s s' : BoardLink (TracedBoard β)}

/-- The step: a call that leads from one state to another refines it to accesses of the board. -/
theorem Call.Leads.refines {call : Call} (h : call.Leads s s') :
    ∃ accesses, s'.board.accesses = s.board.accesses ++ accesses ∧ call.Refines accesses s s' := by
  obtain ⟨-, accesses, haccessed, hmakes⟩ := h.makes
  refine ⟨accesses, haccessed.accesses_eq, hmakes.answered, hmakes.stops, ?_, ?_, ?_⟩
  · rw [BoardLink.requested, BoardLink.requested, haccessed.requestPin, hmakes.requested]
  · rintro level rfl
    cases hmakes with
    | read =>
      cases haccessed with
      | cons haccess _ => exact Pins.readyPin_of_leads haccess
  · rintro rfl
    cases hmakes with
    | settled hmillis => exact ⟨_, hmillis, rfl⟩

/-- The run: a whole transfer refines to accesses of the board. -/
theorem Transfer.run_refines (frame : Frame max) (s : BoardLink (TracedBoard β)) :
    ∃ accesses, (run frame s).2.board.accesses = s.board.accesses ++ accesses ∧
      Refines (run frame s).1 accesses s (run frame s).2 := by
  obtain ⟨calls, htrace, hspoken⟩ := says_run frame s
  obtain ⟨-, accesses, haccessed, hmakes⟩ := htrace.makes
  refine ⟨accesses, haccessed.accesses_eq, ?_, hspoken.orderly hmakes _, fun hdrives => ?_⟩
  · rw [hspoken.answered, hmakes.answered]
  · have hcalls : RequestsSucceed calls := by
      intro level answer hcall
      obtain ⟨part, hpart, hsubset⟩ := hmakes.of_mem hcall
      obtain ⟨verdict, rfl, hanswer⟩ := hpart.of_request
      cases verdict with
      | error fault => exact absurd (hsubset (List.mem_singleton.2 rfl)) (hdrives _ fault)
      | ok => exact hanswer.1 rfl
    obtain ⟨front, rfl⟩ := hspoken.ends_released hcalls
    rw [BoardLink.requested, haccessed.requestPin, hmakes.requested, List.foldl_append]
    rfl

end

/-- **A link over a board is a link, whatever fails.** On every board whose REQUEST pin stays where
it has last been driven and whose READY pin can be read, after any sequence of calls and transfers,
with any of the accesses failing: the accesses are those that the calls make, one call after the
other, and REQUEST is where the calls have taken it; and each further call and each further transfer
is one over the board. -/
theorem board_refines_link [Board β] [Pins β] (ops : List Link.Op)
    (s : Traced (BoardLink (TracedBoard β))) :
    let now := Link.runAll ops s
    (∃ calls accesses, now.calls = s.calls ++ calls ∧
      now.link.board.accesses = s.link.board.accesses ++ accesses ∧
      Call.MakeAll s.link.config.resetSettle calls accesses ∧
      now.link.requested = calls.foldl Call.requested s.link.requested) ∧
    (∀ (call : Call) (next : Traced (BoardLink (TracedBoard β))), call.Leads now next → ∃ accesses,
      next.link.board.accesses = now.link.board.accesses ++ accesses ∧
      call.Refines accesses now.link next.link) ∧
    ∀ {max : Nat} (frame : Frame max), ∃ accesses,
      (Transfer.run frame now.link).2.board.accesses = now.link.board.accesses ++ accesses ∧
      Transfer.Refines (Transfer.run frame now.link).1 accesses now.link
        (Transfer.run frame now.link).2 := by
  intro now
  refine ⟨?_, fun call next hcall => hcall.traced.1.refines,
    fun frame => Transfer.run_refines frame now.link⟩
  obtain ⟨calls, htrace⟩ := Link.runAll_trace ops s
  obtain ⟨-, accesses, haccessed, hmakes⟩ := htrace.link.makes
  refine ⟨calls, accesses, htrace.calls_eq, haccessed.accesses_eq, hmakes, ?_⟩
  rw [BoardLink.requested, haccessed.requestPin, hmakes.requested, BoardLink.requested]

/-- A link over a board whose second flush is going to fail, to a radio that needs two and a half
milliseconds to settle. -/
def unflushedLink : Traced (BoardLink (TracedBoard ScriptedBoard)) where
  link := {
    board := { board := { script := { flushFaults := [none, some .overrun] } } }
    config := { resetSettle := ⟨0, 2500000, by decide⟩ } }

/-- A reset succeeds and waits for two milliseconds. The flush behind the second byte of a transfer
fails: the transfer stops there and releases REQUEST. -/
theorem board_refines_link_at_failed_flush :
    let asserted := Link.runAll [.setRequest true] unflushedLink
    let now := (Link.reset asserted).2.link
    let done := Transfer.run (⟨0, 1, #v[7]⟩ : Frame 1) now
    (Link.reset asserted).1 = .ok () ∧
    now.board.accesses = asserted.link.board.accesses ++
      [.reset .high (.ok ()), .reset .low (.ok ()), .reset .high (.ok ()), .request .high (.ok ()),
        .delay 2] ∧
    now.requested = false ∧
    done.1 = .error (.exchange "Overrun") ∧
    done.2.board.accesses = now.board.accesses ++
      [.request .low (.ok ()), .swap 1 (.ok 254), .flush (.ok ()), .swap 7 (.ok 248),
        .flush (.error .overrun), .request .high (.ok ())] ∧
    done.2.requested = false := by
  intro asserted now done
  have hreset : Call.Leads (.reset (.ok ())) asserted (Link.reset asserted).2 := rfl
  have hdone : done.2.board.accesses = now.board.accesses ++
      [.request .low (.ok ()), .swap 1 (.ok 254), .flush (.ok ()), .swap 7 (.ok 248),
        .flush (.error .overrun), .request .high (.ok ())] := rfl
  obtain ⟨-, hcall, -⟩ := board_refines_link [.setRequest true] unflushedLink
  obtain ⟨pulse, hpulse, hrefines⟩ := hcall _ _ hreset
  obtain ⟨millis, hmillis, rfl⟩ := hrefines.pulsed rfl
  obtain rfl : millis = 2 := UInt32.toNat_inj.1 (hmillis.trans (by decide))
  obtain ⟨-, -, htransfer⟩ := board_refines_link [.setRequest true, .reset] unflushedLink
  obtain ⟨accesses, haccesses, hrefines'⟩ := htransfer (⟨0, 1, #v[7]⟩ : Frame 1)
  obtain rfl := List.append_cancel_left (haccesses.symm.trans hdone)
  exact ⟨rfl, hpulse, hrefines.requested, rfl, hdone, hrefines'.released (by simp)⟩

end RadioLink
