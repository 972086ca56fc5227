import Mathlib.Data.List.Forall2
import RadioLink.Proofs.Host.Balance
import RadioLink.Proofs.Radio.RoundTrip
import RadioLink.Proofs.Transport.RequestLevel

/-!
# Operations over a healthy radio

A radio whose exchanges do not fail lets every transfer run to its end, whatever state it is in
(`Transfer.run_serves`): a transaction that is open goes on, and is closed by the release of
REQUEST.

A radio is healthy while no transaction is open either, and READY follows its own logic. A transport
over such a radio is at rest between two operations (`Transport.AtRest`), and what an operation then
does is told by where the frames are (`Stock`): a cycle exchanges the oldest command for the oldest
event of the radio if there is room for it, and changes nothing otherwise (`Stock.Turns`). A cycle
that finds the radio not ready is no exception, since at rest there is nothing to exchange then.
Where READY may be forced to a level this fails, and what is left is what a transfer and a receive
do once they run (`Transport.Poised`).
-/

namespace RadioLink

variable {max depth : Nat}

/-! ## Exchanges that do not fail -/

namespace Radio

variable {radio radio₁ radio' : Radio}

/-- What some exchanges that have not failed have made of a radio: a transaction is open, and the
oldest event has left the radio unless the transaction was open before. -/
structure Clocks (radio radio' : Radio) : Prop where
  transaction : radio'.transaction.isSome = true
  events : radio'.events = radio.opened.2.events
  request : radio'.request = true
  budget : radio'.budget = none
  forcedReady : radio'.forcedReady = radio.forcedReady

/-- What a whole transfer has made of a radio: no transaction is open, and the oldest event has left
the radio unless a transaction was open before. -/
structure Serves (radio radio' : Radio) : Prop where
  transaction : radio'.transaction = none
  events : radio'.events = radio.opened.2.events
  request : radio'.request = false
  budget : radio'.budget = none
  forcedReady : radio'.forcedReady = radio.forcedReady

/-- An open transaction has already taken its event, so opening it again takes none. -/
theorem events_opened_of_open (h : radio.transaction.isSome = true) :
    radio.opened.2.events = radio.events := by
  obtain ⟨tx, htx⟩ := Option.isSome_iff_exists.1 h
  rw [opened, htx]

theorem Clocks.refl (hopen : radio.transaction.isSome = true) (hrequest : radio.request = true)
    (hbudget : radio.budget = none) : radio.Clocks radio :=
  ⟨hopen, (events_opened_of_open hopen).symm, hrequest, hbudget, rfl⟩

/-- Exchanges compose: those behind the first find the transaction open and take no further
event. -/
theorem Clocks.trans (h : radio.Clocks radio₁) (h' : radio₁.Clocks radio') :
    radio.Clocks radio' where
  transaction := h'.transaction
  events := by rw [h'.events, events_opened_of_open h.transaction, h.events]
  request := h'.request
  budget := h'.budget
  forcedReady := h'.forcedReady.trans h.forcedReady

/-- The step of a byte: with REQUEST asserted and no budget it is answered, and leaves the
transaction open. -/
theorem exchange_clocks (byte : UInt8) (hrequest : radio.request = true)
    (hbudget : radio.budget = none) :
    ∃ reply radio', Link.exchange byte radio = (.ok reply, radio') ∧ radio.Clocks radio' := by
  have hasserted : ¬radio.request = false := by simp [hrequest]
  have hleft : ¬radio.budget = some 0 := by simp [hbudget]
  refine ⟨_, _, by simp only [Link.exchange, exchange, if_neg hasserted, if_neg hleft]; rfl, ?_⟩
  unfold opened
  cases htx : radio.transaction with
  | none => exact ⟨rfl, by rw [opened, htx], hrequest, by simp [hbudget], rfl⟩
  | some tx => exact ⟨rfl, by rw [opened, htx], hrequest, by simp [hbudget], rfl⟩

/-- The release of REQUEST closes the transaction. -/
theorem Clocks.released (h : radio.Clocks radio') : radio.Serves (radio'.setRequest false) := by
  obtain ⟨tx, htx⟩ := Option.isSome_iff_exists.1 h.transaction
  have hclose : radio'.setRequest false =
      close tx { radio'.withRequest false with transaction := none } := by
    unfold setRequest
    rw [htx]
  rw [hclose, close]
  split
  · exact ⟨rfl, h.events, rfl, h.budget, h.forcedReady⟩
  · exact ⟨rfl, h.events, rfl, h.budget, h.forcedReady⟩

/-- Driving REQUEST does not touch the budget. -/
theorem budget_setRequest (level : Bool) (radio : Radio) :
    (radio.setRequest level).budget = radio.budget := by
  unfold setRequest
  split
  · unfold close
    split <;> rfl
  · rfl

/-- An exchange without a budget leaves no budget, whether it is answered or refused. -/
theorem budget_exchange (byte : UInt8) {radio : Radio} (h : radio.budget = none) :
    (radio.exchange byte).2.budget = none := by
  unfold exchange opened
  cases radio.transaction with
  | none | some tx => split <;> simp [h]

end Radio

/-- A call on a radio without a budget leaves it without one, and does not fail to drive REQUEST. -/
theorem Call.Leads.unlimited {call : Call} {radio radio' : Radio} (h : call.Leads radio radio')
    (hbudget : radio.budget = none) : RequestsSucceed [call] ∧ radio'.budget = none := by
  cases call with
  | exchange byte answer =>
    refine ⟨by simp [RequestsSucceed], ?_⟩
    obtain ⟨-, rfl⟩ := Prod.mk.inj h
    exact Radio.budget_exchange byte hbudget
  | request level answer =>
    obtain ⟨rfl, rfl⟩ := Prod.mk.inj h
    exact ⟨requestsSucceed_request.2 rfl, (radio.budget_setRequest level).trans hbudget⟩
  | ready answer | reset answer =>
    obtain ⟨-, rfl⟩ := Prod.mk.inj h
    exact ⟨by simp [RequestsSucceed], hbudget⟩

/-- The run of a call sequence: without a budget no call of REQUEST fails, and no budget appears. -/
theorem Trace.unlimited {calls : List Call} {radio radio' : Radio} (h : Trace radio calls radio')
    (hbudget : radio.budget = none) : RequestsSucceed calls ∧ radio'.budget = none := by
  induction h with
  | nil => exact ⟨requestsSucceed_nil, hbudget⟩
  | cons hcall _ ih =>
    obtain ⟨hfirst, hbudget₁⟩ := hcall.unlimited hbudget
    obtain ⟨hrest, hbudget'⟩ := ih hbudget₁
    exact ⟨requestsSucceed_cons.2 ⟨hfirst, hrest⟩, hbudget'⟩

namespace Transfer

variable {radio : Radio}

/-- The run over the bytes: each is answered, and the transaction stays open. -/
theorem exchangeAll_clocks (bytes : List UInt8) (hopen : radio.transaction.isSome = true)
    (hrequest : radio.request = true) (hbudget : radio.budget = none) :
    ∃ replies radio', exchangeAll bytes radio = (.ok replies, radio') ∧ radio.Clocks radio' := by
  induction bytes generalizing radio with
  | nil => exact ⟨[], radio, rfl, .refl hopen hrequest hbudget⟩
  | cons byte bytes ih =>
    obtain ⟨reply, radio₁, hfirst, hclocks⟩ := Radio.exchange_clocks byte hrequest hbudget
    obtain ⟨replies, radio', hrest, hclocks'⟩ :=
      ih hclocks.transaction hclocks.request hclocks.budget
    exact ⟨reply :: replies, radio', by simp only [exchangeAll, hfirst, hrest],
      hclocks.trans hclocks'⟩

/-- A frame is clocked to its end, through all the phases of a transfer. -/
theorem clockFrame_clocks (frame : Frame max) (hrequest : radio.request = true)
    (hbudget : radio.budget = none) :
    ∃ outcome radio', clockFrame frame radio = (.ok outcome, radio') ∧ radio.Clocks radio' := by
  obtain ⟨status, radio₁, hstatus, h₁⟩ := Radio.exchange_clocks frame.length hrequest hbudget
  obtain ⟨length, radio₂, hlength, h₂⟩ :=
    Radio.exchange_clocks (frame.byteAt 0) h₁.request h₁.budget
  obtain ⟨replies, radio₃, hbody, h₃⟩ := exchangeAll_clocks
    (bytesInWindow frame (window frame.length length max)) h₂.transaction h₂.request h₂.budget
  exact ⟨_, radio₃, by simp only [clockFrame, hstatus, hlength, hbody]; rfl, (h₁.trans h₂).trans h₃⟩

/-- A transfer with a radio whose exchanges do not fail runs to its end, also if a transaction is
open. -/
theorem run_serves (frame : Frame max) (hbudget : radio.budget = none) :
    ∃ outcome radio', run frame radio = (.ok outcome, radio') ∧ radio.Serves radio' := by
  have hasserted : (radio.withRequest true).request = true := rfl
  obtain ⟨outcome, radio₁, hclock, hclocks⟩ := clockFrame_clocks frame hasserted hbudget
  have hassert : Link.setRequest true radio = (.ok (), radio.withRequest true) := rfl
  have hrelease : Link.setRequest false radio₁ = (.ok (), radio₁.setRequest false) := rfl
  -- An open transaction goes on with what it has: asserting REQUEST does not open another one.
  have hopened : (radio.withRequest true).opened.2.events = radio.opened.2.events := by
    cases htx : radio.transaction with
    | none =>
      have htx' : (radio.withRequest true).transaction = none := htx
      simp only [Radio.opened, htx, htx']
      rfl
    | some tx =>
      have htx' : (radio.withRequest true).transaction = some tx := htx
      simp only [Radio.opened, htx, htx']
      rfl
  have hserves := hclocks.released
  have hrun : run frame radio = (.ok outcome, radio₁.setRequest false) := by
    simp only [run, hassert, hclock, hrelease]
  refine ⟨outcome, _, hrun, ?_⟩
  exact ⟨hserves.transaction, hserves.events.trans hopened, hserves.request, hserves.budget,
    hserves.forcedReady⟩

/-- A transfer with such a radio, if it has no transaction open, is one transaction of the bytes of
the frame. -/
theorem run_transferred (frame : Frame max) (hopen : radio.transaction = none)
    (hbudget : radio.budget = none) :
    run frame radio = (.ok (.ofRadio frame radio),
      radio.transferred (frame.wire (windowOf frame radio + 2))) ∧
      radio.Serves (radio.transferred (frame.wire (windowOf frame radio + 2))) := by
  have haffords : radio.Affords (windowOf frame radio + 2) := by
    intro budget hleft
    cases hbudget.symm.trans hleft
  have hrun := run_radio hopen haffords
  obtain ⟨outcome, radio', hrun', hserves⟩ := run_serves frame hbudget
  rw [hrun] at hrun'
  exact ⟨hrun, (Prod.mk.inj hrun').2 ▸ hserves⟩

end Transfer

/-! ## Healthy radios -/

namespace Radio

variable {radio : Radio}

/-- No transaction is open, exchanges do not fail, and READY is not forced to a level. -/
structure Healthy (radio : Radio) : Prop where
  transaction : radio.transaction = none
  budget : radio.budget = none
  forcedReady : radio.forcedReady = none

/-- READY of a healthy radio follows REQUEST and the events that wait. -/
theorem Healthy.ready (h : radio.Healthy) :
    radio.ready = (radio.request || !radio.events.isEmpty) := by
  simp [Radio.ready, h.forcedReady, h.transaction]

/-- Driving REQUEST to the level that it has adds nothing to the log. -/
theorem withRequest_self (radio : Radio) : radio.withRequest radio.request = radio := by
  simp [withRequest]

end Radio

/-! ## Where the frames are -/

/-- The commands that a radio has of some frames. A frame without length leaves none. -/
def payloads (frames : List (Frame max)) : List (List UInt8) :=
  (frames.filter (·.length != 0)).map Frame.payload

/-- A radio that a transfer runs to its end with has one command more, or none. -/
theorem Frame.entry_of_transfer {frame : Frame max} (hfits : frame.fits = true) (radio : Radio) :
    Radio.entry (frame.wire (Transfer.windowOf frame radio + 2)) = payloads [frame] := by
  rw [Frame.entry_wire hfits, Transfer.windowOf, Frame.payload_take_window hfits]
  by_cases hlength : frame.length = 0
  · simp [payloads, hlength]
  · simp [payloads, hlength]

/-- Where the frames of a transport and its radio are. -/
structure Stock (max : Nat) where
  /-- The commands that are queued. -/
  commands : List (Frame max)
  /-- The events that are queued. -/
  events : List (Frame max)
  /-- The events that the radio has to deliver. -/
  pending : List RadioEvent
  /-- The commands that the radio has received. -/
  delivered : List (List UInt8)
  /-- The number of commands sent. -/
  sent : Nat
  /-- The byte that the radio clocks out past the end of a frame. -/
  filler : UInt8

/-- Accepting what a transfer has brought is not what counts the commands sent. -/
theorem Host.Accepts.commandsSent {outcome : Transfer.Outcome max} {t t' : Host max depth}
    (h : Host.Accepts outcome t t') : t'.stats.commandsSent = t.stats.commandsSent := by
  cases h with
  | blank | stored => rfl

namespace Stock

/-- One exchange: the oldest command goes to the radio, and the oldest event of the radio is queued
unless it declares no length. -/
structure Exchanges (s s' : Stock max) : Prop where
  commands : s'.commands = s.commands.tail
  events : ∃ gained, s'.events = s.events ++ gained ∧
    List.Forall₂ (RadioEvent.Carried s.filler) (s.pending.head?.toList.filter (·.length != 0))
      gained
  pending : s'.pending = s.pending.tail
  delivered : s'.delivered = s.delivered ++ payloads s.commands.head?.toList
  sent : s'.sent = s.sent + s.commands.head?.toList.length
  filler : s'.filler = s.filler

/-- One cycle: an exchange if there is room for an event, and nothing otherwise. -/
def Turns (depth : Nat) (s s' : Stock max) : Prop :=
  if s.events.length = depth then s' = s else s.Exchanges s'

/-- Where there is nothing, an exchange moves nothing. -/
theorem Exchanges.still {s : Stock max} (hcommands : s.commands = []) (hpending : s.pending = []) :
    s.Exchanges s where
  commands := by rw [hcommands]; rfl
  events := ⟨[], (List.append_nil _).symm, by rw [hpending]; exact .nil⟩
  pending := by rw [hpending]; rfl
  delivered := by rw [hcommands]; exact (List.append_nil _).symm
  sent := by rw [hcommands]; rfl
  filler := rfl

variable {s s₁ s' : Stock max}

/-- An exchange takes one command and one event further, and queues one event at most. -/
theorem Exchanges.lengths (h : s.Exchanges s') :
    s'.commands.length = s.commands.length - 1 ∧ s'.pending.length = s.pending.length - 1 ∧
      s.events.length ≤ s'.events.length ∧
      s'.events.length ≤ s.events.length + min 1 s.pending.length := by
  obtain ⟨gained, hgained, hcarried⟩ := h.events
  have hone : s.pending.head?.toList.length = min 1 s.pending.length := by
    cases s.pending with
    | nil => rfl
    | cons event events =>
      show 1 = min 1 (events.length + 1)
      omega
  have hlength : gained.length ≤ min 1 s.pending.length := by
    rw [← hcarried.length_eq, ← hone]
    exact List.length_filter_le _ _
  rw [h.commands, h.pending, hgained, List.length_tail, List.length_tail, List.length_append]
  omega

/-- A turn lengthens neither the commands nor the events of the radio, loses no event of the
transport, and keeps to the room. -/
theorem Turns.lengths (h : s.Turns depth s') (hle : s.events.length ≤ depth) :
    s'.commands.length ≤ s.commands.length ∧ s'.pending.length ≤ s.pending.length ∧
      s.events.length ≤ s'.events.length ∧ s'.events.length ≤ depth ∧
      s'.pending.length + s'.events.length ≤ s.pending.length + s.events.length := by
  rw [Turns] at h
  split at h
  · rw [h]
    omega
  · obtain ⟨hcommands, hpending, hkept, hgained⟩ := h.lengths
    omega

/-- With room in the event queue a turn is an exchange. -/
theorem Turns.exchanges (h : s.Turns depth s') (hroom : s.events.length < depth) :
    s.Exchanges s' := by
  rwa [Turns, if_neg (Nat.ne_of_lt hroom)] at h

/-- One cycle or two. -/
def Runs (depth : Nat) (s s' : Stock max) : Prop :=
  ∃ s₁, (s₁ = s ∨ s.Turns depth s₁) ∧ s₁.Turns depth s'

/-- If there is room for an event, one cycle or two take at least one command and one event
further. -/
theorem Runs.advances (h : s.Runs depth s') (hroom : s.events.length < depth) :
    s'.commands.length ≤ s.commands.length - 1 ∧ s'.pending.length ≤ s.pending.length - 1 ∧
      s'.events.length ≤ depth ∧
      s'.pending.length + s'.events.length ≤ s.pending.length + s.events.length := by
  obtain ⟨s₁, rfl | hfirst, h⟩ := h
  · obtain ⟨hcommands, hpending, -⟩ := (h.exchanges hroom).lengths
    obtain ⟨-, -, -, hevents, hboth⟩ := h.lengths (Nat.le_of_lt hroom)
    omega
  · obtain ⟨hcommands, hpending, -⟩ := (hfirst.exchanges hroom).lengths
    obtain ⟨-, -, -, hevents, hboth⟩ := hfirst.lengths (Nat.le_of_lt hroom)
    have hrest := h.lengths hevents
    omega

end Stock

namespace Transport

/-- Where the frames of a transport and its radio are. -/
def stock (t : Transport Radio max depth) : Stock max where
  commands := t.commands.toList
  events := t.events.toList
  pending := t.link.events
  delivered := t.link.commands
  sent := t.stats.commandsSent
  filler := t.link.filler

/-- The transport is as it is between two operations over a healthy radio. -/
structure AtRest (t : Transport Radio max depth) : Prop where
  radio : t.link.Healthy
  settled : t.host.Settled
  level : t.link.request = t.requestAsserted
  fitting : ∀ frame ∈ t.commands.toList, frame.fits = true

/-- The same, but for READY, which may be forced to a level. -/
structure Poised (t : Transport Radio max depth) : Prop where
  closed : t.link.transaction = none
  unlimited : t.link.budget = none
  settled : t.host.Settled
  level : t.link.request = t.requestAsserted
  fitting : ∀ frame ∈ t.commands.toList, frame.fits = true

/-- The transport with REQUEST at the level that its queues ask for. -/
def rested (t : Transport Radio max depth) : Transport Radio max depth :=
  { t with
    link := t.link.withRequest t.wantsRequest
    requestAsserted := t.wantsRequest
    phase := .atRest t.wantsRequest }

variable {t : Transport Radio max depth}

/-- With no transaction open and the cached level that of the line, bringing REQUEST to the level
that the queues ask for is all that `syncRequest` does, and it cannot fail. -/
theorem syncRequest_eq_rested (hradio : t.link.transaction = none)
    (hlevel : t.link.request = t.requestAsserted) :
    t.syncRequest = (.ok (), t.rested) := by
  by_cases hwanted : t.requestAsserted = t.wantsRequest
  · have hlink : t.link.withRequest t.wantsRequest = t.link := by
      rw [← hwanted, ← hlevel, Radio.withRequest_self]
    rw [syncRequest_of_wanted hwanted, rested, hlink]
    exact Prod.ext rfl (by rw [← hwanted])
  · have hset : Link.setRequest t.wantsRequest t.link =
        (.ok (), t.link.withRequest t.wantsRequest) :=
      Prod.ext rfl (Radio.setRequest_of_closed hradio _)
    simp only [syncRequest, holdRequest, driveRequest, if_neg hwanted, hset, rested]

/-- Between transactions with a radio whose exchanges do not fail, bringing REQUEST to its level
brings the transport to where the next operation may come, and no frame moves. -/
theorem rested_poised (hclosed : t.link.transaction = none) (hunlimited : t.link.budget = none)
    (hhealthy : t.faulted = false) (hfitting : ∀ frame ∈ t.commands.toList, frame.fits = true) :
    t.rested.Poised where
  closed := hclosed
  unlimited := hunlimited
  settled := ⟨hhealthy, rfl, rfl⟩
  level := rfl
  fitting := hfitting

theorem AtRest.poised (h : t.AtRest) : t.Poised :=
  ⟨h.radio.transaction, h.radio.budget, h.settled, h.level, h.fitting⟩

/-- A poised transport over a radio that does not force READY is at rest. -/
theorem Poised.atRest (h : t.Poised) (hforced : t.link.forcedReady = none) : t.AtRest :=
  ⟨⟨h.closed, h.unlimited, hforced⟩, h.settled, h.level, h.fitting⟩

/-- Bringing REQUEST to the level that the queues ask for brings a transport to rest. -/
theorem rested_atRest (hradio : t.link.Healthy) (hhealthy : t.faulted = false)
    (hfitting : ∀ frame ∈ t.commands.toList, frame.fits = true) : t.rested.AtRest :=
  (rested_poised hradio.transaction hradio.budget hhealthy hfitting).atRest hradio.forcedReady

/-- Driving REQUEST moves no frame. -/
theorem stock_rested (t : Transport Radio max depth) : t.rested.stock = t.stock := rfl

theorem Poised.healthy (h : t.Poised) : t.faulted = false :=
  h.settled.healthy

theorem AtRest.healthy (h : t.AtRest) : t.faulted = false :=
  h.settled.healthy

/-- With the event queue full nothing moves. -/
theorem turns_of_full (hfull : t.events.isFull = true) : t.stock.Turns depth t.stock := by
  have hlength : t.stock.events.length = depth := Queue.isFull_iff.1 hfull
  rw [Stock.Turns, if_pos hlength]

/-- With room in the event queue an exchange is a turn. -/
theorem turns_of_room (hroom : t.events.isFull = false) {s : Stock max} (h : t.stock.Exchanges s) :
    t.stock.Turns depth s := by
  have hlength : ¬t.stock.events.length = depth := Nat.ne_of_lt (Queue.isFull_eq_false_iff.1 hroom)
  rw [Stock.Turns, if_neg hlength]
  exact h

/-! ## Cycles -/

/-- With room in the event queue REQUEST is at the level that the commands ask for. -/
theorem Poised.wantsRequest_iff (h : t.Poised) (hroom : t.events.isFull = false) :
    t.link.request = !t.commands.isEmpty := by
  rw [h.level]
  refine h.settled.wanted.trans ?_
  show (!t.commands.isEmpty && !t.events.isFull) = _
  rw [hroom, Bool.not_false, Bool.and_true]

/-- At rest and with room for an event, the radio is ready unless there is nothing to exchange. -/
theorem AtRest.exchanges_of_unready (h : t.AtRest) (hroom : t.events.isFull = false)
    (hready : t.link.ready = false) :
    t.stock.Exchanges t.stock := by
  -- READY follows REQUEST and the events of the radio, and REQUEST follows the commands.
  rw [h.radio.ready, h.poised.wantsRequest_iff hroom, Bool.or_eq_false_iff] at hready
  obtain ⟨hcommands, hevents⟩ := hready
  have hempty : t.commands.toList = [] := by simpa using hcommands
  have hnothing : t.link.events = [] := by simpa using hevents
  exact .still hempty hnothing

/-- What a poised transport sends next fits its length byte. -/
theorem Poised.fits_outbound (h : t.Poised) : t.host.outbound.fits = true := by
  unfold Host.outbound
  cases hhead : t.host.commands.peek? with
  | none => exact decide_eq_true (Nat.zero_le max)
  | some frame => exact h.fitting frame (List.mem_of_head? hhead)

/-- The payload that is sent next is that of the oldest command, if there is one. -/
theorem payloads_outbound (t : Transport Radio max depth) :
    payloads [t.host.outbound] = payloads t.commands.toList.head?.toList := by
  rw [Host.outbound, host_commands, Queue.peek?]
  cases t.commands.toList.head? <;> rfl

/-- A transfer with room for its event is an exchange. -/
theorem Poised.runTransfer (h : t.Poised) (hroom : t.events.isFull = false) :
    ∃ what t', t.runTransfer = (.ok what, t') ∧ t'.Poised ∧
      t'.link.forcedReady = t.link.forcedReady ∧
      t.stock.Exchanges t'.stock := by
  let bytes := t.host.outbound.wire (Transfer.windowOf t.host.outbound t.link + 2)
  have hbytes : bytes ≠ [] := t.host.outbound.wire_ne_nil _
  obtain ⟨hrun, hserves⟩ := Transfer.run_transferred t.host.outbound h.closed h.unlimited
  have hclosed := Radio.transferred_of_bytes h.closed bytes
  obtain ⟨t₁, hlink, haccepts, hrun'⟩ := runTransfer_of_ok hrun hroom
  have hfaulted : t₁.faulted = false := haccepts.frame.1.trans h.healthy
  have hasserted : t₁.requestAsserted = false := haccepts.frame.2.1
  have hcommands : t₁.commands = t.commands.tail := haccepts.events.1
  have hevents := haccepts.events.2
  have hlevel : t₁.link.request = t₁.requestAsserted := by rw [hlink, hserves.request, hasserted]
  have htransaction : t₁.link.transaction = none := by rw [hlink, hserves.transaction]
  have hbudget : t₁.link.budget = none := by rw [hlink, hserves.budget]
  have hforced : t₁.link.forcedReady = t.link.forcedReady := by rw [hlink, hserves.forcedReady]
  have hfitting : ∀ frame ∈ t₁.commands.toList, frame.fits = true := by
    intro frame hframe
    rw [hcommands] at hframe
    exact h.fitting frame (List.mem_of_mem_tail hframe)
  refine ⟨_, t₁.rested, by rw [hrun', syncRequest_eq_rested htransaction hlevel]; rfl,
    rested_poised htransaction hbudget hfaulted hfitting, hforced, ?_⟩
  rw [stock_rested]
  constructor
  case commands => exact congrArg Queue.toList hcommands
  case events =>
    exact ⟨_, hevents.symm, Transfer.Outcome.carried_of_ofRadio t.host.outbound t.link⟩
  case pending =>
    show t₁.link.events = t.link.events.tail
    rw [hlink, hclosed.events, if_neg hbytes]
  case delivered =>
    show t₁.link.commands = t.link.commands ++ payloads t.commands.toList.head?.toList
    rw [hlink, hclosed.commands, Frame.entry_of_transfer h.fits_outbound, payloads_outbound]
  case sent =>
    show t₁.host.stats.commandsSent = t.stats.commandsSent + t.commands.toList.head?.toList.length
    rw [haccepts.commandsSent, Host.counted_stats]
    rfl
  case filler =>
    show t₁.link.filler = t.link.filler
    rw [hlink, hclosed.filler]

/-- A transfer at rest cannot fail: it exchanges the oldest command for the oldest event and comes
back to rest. -/
theorem AtRest.runTransfer (h : t.AtRest) (hroom : t.events.isFull = false) :
    ∃ what t', t.runTransfer = (.ok what, t') ∧ t'.AtRest ∧ t.stock.Exchanges t'.stock := by
  obtain ⟨what, t', hrun, hpoised, hforced, hexchanges⟩ := h.poised.runTransfer hroom
  exact ⟨what, t', hrun, hpoised.atRest (hforced.trans h.radio.forcedReady), hexchanges⟩

/-- At rest a cycle succeeds, and is an exchange if there is room for an event. -/
theorem AtRest.cycle (h : t.AtRest) :
    ∃ what t', t.cycle = (.ok what, t') ∧ t'.AtRest ∧ t.stock.Turns depth t'.stock := by
  cases hfull : t.events.isFull with
  | true =>
    have hrest : t.countStall.syncRequest = (.ok (), t.countStall.rested) :=
      syncRequest_eq_rested h.radio.transaction h.level
    exact ⟨.backpressured, t.countStall.rested, by rw [cycle_of_full hfull, hrest]; rfl,
      rested_atRest h.radio h.healthy h.fitting, turns_of_full hfull⟩
  | false =>
    cases hready : t.link.ready with
    | false =>
      have hsample : Link.readReady t.link = (.ok false, t.link) :=
        Prod.ext (congrArg Except.ok hready) rfl
      have hrest : t.syncRequest = (.ok (), t.rested) :=
        syncRequest_eq_rested h.radio.transaction h.level
      exact ⟨_, t.rested, by rw [cycle_of_unready hfull hsample, hrest]; rfl,
        rested_atRest h.radio h.healthy h.fitting,
          turns_of_room hfull (h.exchanges_of_unready hfull hready)⟩
    | true =>
      have hsample : Link.readReady t.link = (.ok true, t.link) :=
        Prod.ext (congrArg Except.ok hready) rfl
      obtain ⟨what, t', hrun, ht', hexchanges⟩ := h.runTransfer hfull
      exact ⟨what, t', by rw [cycle_of_ready hfull hsample]; exact hrun, ht',
        turns_of_room hfull hexchanges⟩

/-! ## Operations -/

/-- A command that fits is queued, or refused for want of room. -/
theorem AtRest.send (h : t.AtRest) {frame : Frame max} (hfits : frame.fits = true) :
    (t.commands.isFull = true ∧ t.send frame = (.error (.commandQueueFull depth), t)) ∨
    ∃ t', t.send frame = (.ok (), t') ∧ t'.AtRest ∧
      t'.stock = { t.stock with commands := t.stock.commands ++ [frame] } := by
  cases hroom : t.commands.enqueue frame with
  | error back =>
    exact .inl ⟨(Queue.enqueue_eq_error_iff.1 hroom).1, send_of_crowded h.healthy hfits hroom⟩
  | ok commands =>
    have hqueue := (Queue.enqueue_eq_ok_iff.1 hroom).2
    let queued : Transport Radio max depth := { t with commands }
    have hrest : queued.syncRequest = (.ok (), queued.rested) :=
      syncRequest_eq_rested h.radio.transaction h.level
    refine .inr ⟨queued.rested, by rw [send_of_room h.healthy hfits hroom]; exact hrest, ?_, ?_⟩
    · refine rested_atRest h.radio h.healthy fun other hother => ?_
      have hmem : other ∈ t.commands.toList ++ [frame] := hqueue ▸ hother
      rcases List.mem_append.1 hmem with hmem | hmem
      · exact h.fitting other hmem
      · rw [List.mem_singleton.1 hmem]
        exact hfits
    · rw [stock_rested]
      show queued.stock = { t.stock with commands := t.commands.toList ++ [frame] }
      rw [← hqueue]
      rfl

/-- An edge that comes when the radio is ready runs a cycle, and otherwise there is nothing to
exchange. -/
theorem AtRest.onReadyEdge (h : t.AtRest) :
    ∃ what t', t.onReadyEdge = (.ok what, t') ∧ t'.AtRest ∧ t.stock.Turns depth t'.stock := by
  rw [onReadyEdge_of_healthy h.healthy]
  exact h.cycle

/-- A cycle at rest cannot fail: it takes one turn and comes back to rest. -/
theorem AtRest.refill (h : t.AtRest) :
    ∃ t', t.refill = (.ok (), t') ∧ t'.AtRest ∧ t.stock.Turns depth t'.stock := by
  cases hfull : t.events.isFull with
  | true =>
    exact ⟨t, refill_of_full hfull, h, turns_of_full hfull⟩
  | false =>
    obtain ⟨what, t', hrun, ht', hturns⟩ := h.cycle
    exact ⟨t', by rw [refill_of_room hfull, hrun]; rfl, ht', hturns⟩

/-- A receive takes the oldest event that is queued behind the refill, if there is one. -/
theorem Poised.receive {t₁ : Transport Radio max depth} (h₁ : t₁.Poised)
    (hhealthy : t.faulted = false) (hrefill : t.refill = (.ok (), t₁)) :
    ∃ t', t.tryReceive = (.ok t₁.stock.events.head?, t') ∧ t'.Poised ∧
      t'.link.forcedReady = t₁.link.forcedReady ∧
      t'.stock = { t₁.stock with events := t₁.stock.events.tail } := by
  cases hhead : t₁.events.peek? with
  | none =>
    have hempty : t₁.stock.events = [] := List.head?_eq_none_iff.1 hhead
    refine ⟨t₁, ?_, h₁, rfl, ?_⟩
    · rw [tryReceive_of_none hhealthy hrefill hhead, hempty]
      rfl
    · rw [hempty, List.tail_nil, ← hempty]
  | some event =>
    let taken : Transport Radio max depth := { t₁ with events := t₁.events.tail }
    have hrest : taken.syncRequest = (.ok (), taken.rested) :=
      syncRequest_eq_rested h₁.closed h₁.level
    have hevent : t₁.stock.events.head? = some event := hhead
    refine ⟨taken.rested, ?_, rested_poised h₁.closed h₁.unlimited h₁.healthy h₁.fitting, rfl, rfl⟩
    rw [tryReceive_of_some hhealthy hrefill hhead, hrest, hevent]
    rfl

/-- At rest a receive runs a cycle and takes the oldest event, if there is one. -/
theorem AtRest.tryReceive (h : t.AtRest) :
    ∃ s t', t.stock.Turns depth s ∧ t.tryReceive = (.ok s.events.head?, t') ∧ t'.AtRest ∧
      t'.stock = { s with events := s.events.tail } := by
  obtain ⟨t₁, hrefill, h₁, hturns⟩ := h.refill
  obtain ⟨t', hrun, hpoised, hforced, hstock⟩ := h₁.poised.receive h.healthy hrefill
  exact ⟨t₁.stock, t', hturns, hrun, hpoised.atRest (hforced.trans h₁.radio.forcedReady), hstock⟩

/-! ## Bringing up a transport -/

/-- A transport that is brought up over a healthy radio is at rest, with empty queues. -/
theorem init_atRest {radio : Radio} (hradio : radio.Healthy) (config : TransportConfig) :
    ∃ t : Transport Radio max depth, init radio config = .ok t ∧ t.AtRest ∧
      t.stock = ⟨[], [], radio.events, radio.commands, 0, radio.filler⟩ := by
  have hup (radio' : Radio) (hradio' : radio'.Healthy) :
      AtRest ({ link := radio'.withRequest false, config } : Transport Radio max depth) :=
    ⟨⟨hradio'.transaction, hradio'.budget, hradio'.forcedReady⟩, ⟨rfl, rfl, rfl⟩, rfl, nofun⟩
  have hset (radio' : Radio) (hradio' : radio'.Healthy) :
      Link.setRequest false radio' = (.ok (), radio'.withRequest false) :=
    Prod.ext rfl (Radio.setRequest_of_closed hradio'.transaction false)
  cases hreset : config.resetOnInit with
  | false =>
    refine ⟨_, ?_, hup radio hradio, rfl⟩
    simp only [init, hreset, hset radio hradio, Bool.false_eq_true, if_false]
  | true =>
    have hradio' : radio.reset.Healthy := ⟨rfl, hradio.budget, hradio.forcedReady⟩
    have hrun : Link.reset radio = (.ok (), radio.reset) := rfl
    refine ⟨_, ?_, hup radio.reset hradio', rfl⟩
    simp only [init, hreset, hrun, hset radio.reset hradio', if_true]

end Transport

end RadioLink
