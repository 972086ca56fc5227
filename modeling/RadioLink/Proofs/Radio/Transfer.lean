import RadioLink.Proofs.Transfer.Wire
import RadioLink.Radio

/-!
# What a radio hears

`Radio.hear` is a radio after one call of a record, and `Radio.Replies` says that the replies in a
record are those that the radio gives. Together they are what a trace of a radio with scheduled
faults amounts to (`Radio.of_trace`): a call that fails does not reach the radio, whoever made it
fail.

A transfer, heard by a radio without an open transaction, is one transaction from its first byte to
the release of REQUEST (`Radio.transferred`). The radio takes its oldest event for it if at least
one byte came, and keeps what was clocked as a command.
-/

namespace RadioLink

namespace Radio

/-! ## Single calls -/

/-- The radio after a call. A call that has failed leaves it as it was. -/
def hear (radio : Radio) : Call → Radio
  | .exchange byte (.ok _) => (radio.exchange byte).2
  | .request level (.ok ()) => radio.setRequest level
  | .reset (.ok ()) => radio.reset
  | _ => radio

/-- The replies to the bytes of the calls are those that the radio gives. -/
def Replies : Radio → List Call → Prop
  | _, [] => True
  | radio, call :: calls =>
    (∀ byte reply, call = .exchange byte (.ok reply) → (radio.exchange byte).1 = .ok reply) ∧
      Replies (radio.hear call) calls

/-- An exchange that fails leaves the radio as it was. -/
theorem eq_of_exchange_error {byte : UInt8} {e : LinkError} {radio radio' : Radio}
    (h : radio.exchange byte = (.error e, radio')) : radio' = radio := by
  unfold exchange at h
  split at h
  · exact (Prod.mk.inj h).2.symm
  · split at h
    · exact (Prod.mk.inj h).2.symm
    · cases (Prod.mk.inj h).1

/-- A call on a radio with scheduled faults reaches the radio if it does not fail, and is answered
by it. -/
theorem of_leads {call : Call} {s s' : Faulty Radio} (h : call.Leads s s') :
    s'.link = s.link.hear call ∧
      ∀ byte reply, call = .exchange byte (.ok reply) → (s.link.exchange byte).1 = .ok reply := by
  rcases h.faulty with ⟨hlink, hfailed⟩ | h
  · -- the radio has not been reached
    cases call with
    | exchange byte answer | request level answer | ready answer | reset answer =>
      cases answer with
      | error e => exact ⟨hlink, nofun⟩
      | ok => cases hfailed
  · cases call with
    | exchange byte answer =>
      have hexchange : s.link.exchange byte = (answer, s'.link) := h
      cases answer with
      | error e => exact ⟨eq_of_exchange_error hexchange, nofun⟩
      | ok reply =>
        refine ⟨(congrArg Prod.snd hexchange).symm, ?_⟩
        rintro _ _ ⟨⟩
        exact congrArg Prod.fst hexchange
    | request level answer | ready answer | reset answer =>
      obtain ⟨rfl, hlink⟩ := Prod.mk.inj h
      exact ⟨hlink.symm, nofun⟩

/-- The radio at the end of a trace is the one that has heard its calls, and has given their
replies. -/
theorem of_trace {calls : List Call} {s s' : Faulty Radio} (h : Trace s calls s') :
    s'.link = calls.foldl hear s.link ∧ s.link.Replies calls := by
  induction h with
  | nil => exact ⟨rfl, trivial⟩
  | cons hcall _ ih =>
    obtain ⟨hheard, hreply⟩ := of_leads hcall
    rw [List.foldl_cons, ← hheard]
    exact ⟨ih.1, hreply, hheard ▸ ih.2⟩

/-- Replies in a row are those to the first calls, and then those to the others. -/
theorem replies_append {radio : Radio} {calls calls' : List Call} :
    radio.Replies (calls ++ calls') ↔ radio.Replies calls ∧
      (calls.foldl hear radio).Replies calls' := by
  induction calls generalizing radio with
  | nil => simp [Replies]
  | cons call calls ih => simp only [List.cons_append, Replies, ih, List.foldl_cons, and_assoc]

/-! ## Calls without bytes -/

/-- The radio has no open transaction, and has the events, the commands and the bytes of its own
that another one has. -/
structure Undisturbed (radio radio' : Radio) : Prop where
  transaction : radio'.transaction = none
  events : radio'.events = radio.events
  commands : radio'.commands = radio.commands
  filler : radio'.filler = radio.filler
  idleStatus : radio'.idleStatus = radio.idleStatus

theorem Undisturbed.refl {radio : Radio} (h : radio.transaction = none) : radio.Undisturbed radio :=
  ⟨h, rfl, rfl, rfl, rfl⟩

theorem Undisturbed.trans {radio radio' radio'' : Radio} (h : radio.Undisturbed radio')
    (h' : radio'.Undisturbed radio'') : radio.Undisturbed radio'' :=
  ⟨h'.transaction, h'.events.trans h.events, h'.commands.trans h.commands, h'.filler.trans h.filler,
    h'.idleStatus.trans h.idleStatus⟩

/-- Without an open transaction nothing closes when REQUEST is driven. -/
theorem setRequest_of_closed {radio : Radio} (h : radio.transaction = none) (level : Bool) :
    radio.setRequest level = radio.withRequest level := by
  unfold setRequest
  rw [h]
  cases level <;> rfl

/-- Without an open transaction REQUEST can be driven to either level. -/
theorem setRequest_undisturbed {radio : Radio} (h : radio.transaction = none) (level : Bool) :
    radio.Undisturbed (radio.setRequest level) := by
  rw [setRequest_of_closed h]
  exact ⟨h, rfl, rfl, rfl, rfl⟩

/-- Between transactions, calls without bytes do not disturb the radio. -/
theorem silent_undisturbed {radio : Radio} {calls : List Call} (hradio : radio.transaction = none)
    (hcalls : Silent calls) : radio.Undisturbed (calls.foldl hear radio) := by
  induction calls generalizing radio with
  | nil => exact .refl hradio
  | cons call calls ih =>
    have hfirst : radio.Undisturbed (radio.hear call) := by
      have hcall := hcalls call (by simp)
      cases call with
      | exchange byte answer => cases hcall
      | request level answer =>
        cases answer with
        | error e => exact .refl hradio
        | ok => exact setRequest_undisturbed hradio level
      | ready answer => exact .refl hradio
      | reset answer =>
        cases answer with
        | error e => exact .refl hradio
        | ok => exact ⟨rfl, rfl, rfl, rfl, rfl⟩
    exact hfirst.trans (ih hfirst.transaction fun c hc => hcalls c (by simp [hc]))

/-! ## One transaction -/

/-- The radio after some bytes of a transaction: the first of them has opened it. -/
def clocked (radio : Radio) : List UInt8 → Radio
  | [] => radio
  | byte :: bytes => { radio with
      events := radio.events.tail
      transaction := some { outgoing := radio.nextOutgoing, incoming := byte :: bytes }
      exchanges := radio.exchanges + (bytes.length + 1)
      budget := radio.budget.map (· - (bytes.length + 1)) }

/-- The byte that the radio clocks out at a place of a transaction that opens now. -/
def replyAt (radio : Radio) (i : Nat) : UInt8 :=
  radio.nextOutgoing.getD i radio.filler

/-- One more byte of a transaction. -/
theorem exchange_clocked {radio radio' : Radio} {bytes : List UInt8} {byte reply : UInt8}
    (hradio : radio.transaction = none)
    (h : (radio.clocked bytes).exchange byte = (.ok reply, radio')) :
    radio' = radio.clocked (bytes ++ [byte]) ∧ reply = radio.replyAt bytes.length := by
  unfold exchange at h
  split at h
  · cases (Prod.mk.inj h).1
  · split at h
    · cases (Prod.mk.inj h).1
    · cases bytes with
      | nil =>
        simp only [clocked, opened, hradio] at h
        obtain ⟨⟨⟩, rfl⟩ := Prod.mk.inj h
        exact ⟨rfl, rfl⟩
      | cons first bytes =>
        simp only [clocked, opened] at h
        obtain ⟨⟨⟩, rfl⟩ := Prod.mk.inj h
        have hbudget : (radio.budget.map (· - (bytes.length + 1))).map (· - 1) =
            radio.budget.map (· - (bytes.length + 1 + 1)) := by
          cases radio.budget with
          | none => rfl
          | some n =>
            have hleft : n - (bytes.length + 1) - 1 = n - (bytes.length + 1 + 1) := by omega
            exact congrArg some hleft
        refine ⟨?_, rfl⟩
        simp only [clocked, List.cons_append, List.length_append, List.length_singleton]
        rw [← hbudget]
        rfl

/-- A run of bytes is clocked within one transaction, and the replies are what the radio has to
send. -/
theorem hear_swaps {radio : Radio} (hradio : radio.transaction = none)
    {sent bytes replies : List UInt8} (hlen : bytes.length = replies.length)
    (hreplies : (radio.clocked sent).Replies (swaps bytes replies)) :
    (swaps bytes replies).foldl hear (radio.clocked sent) = radio.clocked (sent ++ bytes) ∧
      replies = (List.range' sent.length bytes.length).map radio.replyAt := by
  induction bytes generalizing sent replies with
  | nil =>
    obtain rfl : replies = [] := List.eq_nil_of_length_eq_zero hlen.symm
    simp
  | cons byte bytes ih =>
    obtain ⟨reply, replies, rfl⟩ := List.exists_cons_of_length_eq_add_one hlen.symm
    obtain ⟨hreply, hrest⟩ := hreplies
    rcases hcall : (radio.clocked sent).exchange byte with ⟨answer, radio'⟩
    have hanswer := hreply byte reply rfl
    rw [hcall] at hanswer
    obtain rfl : answer = .ok reply := hanswer
    obtain ⟨rfl, rfl⟩ := exchange_clocked hradio hcall
    have hheard : (radio.clocked sent).hear (.exchange byte (.ok (radio.replyAt sent.length))) =
        radio.clocked (sent ++ [byte]) := congrArg Prod.snd hcall
    rw [hheard] at hrest
    obtain ⟨hfold, hreplies⟩ := ih (by simpa using hlen) hrest
    refine ⟨?_, ?_⟩
    · rw [swaps_cons, List.foldl_cons, hheard, hfold, List.append_assoc, List.singleton_append]
    · rw [hreplies]
      simp [List.range'_succ]

/-- An undisturbed radio has the same bytes to clock out. -/
theorem Undisturbed.replyAt {radio radio' : Radio} (h : radio.Undisturbed radio') :
    radio'.replyAt = radio.replyAt := by
  funext i
  rw [Radio.replyAt, Radio.replyAt, nextOutgoing, nextOutgoing, h.events, h.filler, h.idleStatus]

/-- The radio after a transfer in which some bytes have been clocked, and REQUEST has been
released. -/
def transferred (radio : Radio) (bytes : List UInt8) : Radio :=
  ((radio.setRequest true).clocked bytes).setRequest false

/-- The command that the bytes of a transaction amount to: none if no byte came, or the first one is
zero. -/
def entry (bytes : List UInt8) : List (List UInt8) :=
  if bytes.getD 0 0 = 0 then [] else [commandOf bytes]

/-- After a transfer no transaction is open, the radio has taken its oldest event if a byte came,
and has kept the command if there was one. -/
structure Transferred (bytes : List UInt8) (radio radio' : Radio) : Prop where
  transaction : radio'.transaction = none
  events : radio'.events = if bytes = [] then radio.events else radio.events.tail
  commands : radio'.commands = radio.commands ++ entry bytes
  filler : radio'.filler = radio.filler
  idleStatus : radio'.idleStatus = radio.idleStatus

/-- Asserting REQUEST, clocking some bytes and releasing it is a transfer of these bytes. -/
theorem transferred_of_bytes {radio : Radio} (h : radio.transaction = none) (bytes : List UInt8) :
    radio.Transferred bytes (radio.transferred bytes) := by
  have hrequest := setRequest_undisturbed h true
  cases bytes with
  | nil =>
    have hrelease := hrequest.trans (setRequest_undisturbed hrequest.transaction false)
    refine ⟨hrelease.transaction, hrelease.events, ?_, hrelease.filler, hrelease.idleStatus⟩
    rw [entry, List.getD_nil, if_pos rfl, List.append_nil]
    exact hrelease.commands
  | cons byte bytes =>
    have hclose : radio.transferred (byte :: bytes) =
        close { outgoing := (radio.setRequest true).nextOutgoing, incoming := byte :: bytes }
          { ((radio.setRequest true).clocked (byte :: bytes)).withRequest false
            with transaction := none } :=
      rfl
    rw [hclose, close]
    by_cases hzero : (byte :: bytes).getD 0 0 = 0
    · rw [if_pos hzero]
      refine ⟨rfl, congrArg List.tail hrequest.events, ?_, hrequest.filler, hrequest.idleStatus⟩
      rw [entry, if_pos hzero, List.append_nil]
      exact hrequest.commands
    · rw [if_neg hzero]
      refine ⟨rfl, congrArg List.tail hrequest.events, ?_, hrequest.filler, hrequest.idleStatus⟩
      rw [entry, if_neg hzero]
      exact congrArg (· ++ [commandOf (byte :: bytes)]) hrequest.commands

/-- A transfer may come behind what leaves the radio undisturbed. -/
theorem Transferred.of_undisturbed {bytes : List UInt8} {radio radio₁ radio₂ : Radio}
    (h : radio₁.Transferred bytes radio₂) (hbefore : radio.Undisturbed radio₁) :
    radio.Transferred bytes radio₂ :=
  ⟨h.transaction, by rw [h.events, hbefore.events], by rw [h.commands, hbefore.commands],
    h.filler.trans hbefore.filler, h.idleStatus.trans hbefore.idleStatus⟩

/-- It may also come before it. -/
theorem Transferred.undisturbed {bytes : List UInt8} {radio radio₁ radio₂ : Radio}
    (h : radio.Transferred bytes radio₁) (hafter : radio₁.Undisturbed radio₂) :
    radio.Transferred bytes radio₂ :=
  ⟨hafter.transaction, hafter.events.trans h.events, hafter.commands.trans h.commands,
    hafter.filler.trans h.filler, hafter.idleStatus.trans h.idleStatus⟩

/-- To the radio a transfer of no byte is nothing at all. -/
theorem Undisturbed.transferred_nil {radio radio' : Radio} (h : radio.Undisturbed radio') :
    radio.Transferred [] radio' :=
  ⟨h.transaction, h.events, by rw [h.commands]; exact (List.append_nil _).symm, h.filler,
    h.idleStatus⟩

end Radio

/-! ## A whole transfer -/

namespace Transfer

variable {max : Nat}

/-- What a transfer of a frame brings from a radio that has no open transaction. -/
def Outcome.ofRadio (frame : Frame max) (radio : Radio) : Outcome max :=
  .ofReplies (radio.replyAt 0) (radio.replyAt 1)
    ((List.range (window frame.length (radio.replyAt 1) max)).map fun i => radio.replyAt (i + 2))

/-- What calls with at most one transfer of a frame are to a radio: `count` bytes of the frame are
clocked in one transaction, or none without a transfer. If the transfer succeeds it brings what the
radio has to send, and `count` covers the header and the window. -/
structure Heard (frame : Frame max) (calls : List Call)
    (result : Option (Except LinkError (Outcome max))) (radio : Radio) (count : Nat) : Prop where
  clocked : calls.filterMap Call.clocked? = frame.wire count
  attempted : calls.any Call.isExchange = result.isSome
  transferred : radio.Transferred (frame.wire count) (calls.foldl Radio.hear radio)
  idle : result = none → count = 0
  ok : ∀ outcome, result = some (.ok outcome) →
    outcome = .ofRadio frame radio ∧ count = window frame.length (radio.replyAt 1) max + 2

/-- REQUEST, some bytes of a frame and the release of REQUEST, as a radio hears them. -/
theorem heard_of_swaps {frame : Frame max} {radio : Radio} {replies : List UInt8}
    (hradio : radio.transaction = none)
    (hreplies : (radio.setRequest true).Replies (swaps (frame.wire replies.length) replies)) :
    (swaps (frame.wire replies.length) replies).foldl Radio.hear (radio.setRequest true) =
        (radio.setRequest true).clocked (frame.wire replies.length) ∧
      replies = (List.range replies.length).map radio.replyAt := by
  have hrequest := Radio.setRequest_undisturbed hradio true
  have hopened : ((radio.setRequest true).clocked []).Replies
      (swaps (frame.wire replies.length) replies) :=
    hreplies
  obtain ⟨hfold, hreplies⟩ := Radio.hear_swaps hrequest.transaction (by simp) hopened
  refine ⟨hfold, ?_⟩
  rw [hrequest.replyAt, Frame.length_wire, List.length_nil, ← List.range_eq_range'] at hreplies
  exact hreplies

/-- Every transfer that does not fail to drive REQUEST is one transaction to a radio without an open
one. -/
theorem Says.heard {frame : Frame max} {calls : List Call} {result : Except LinkError (Outcome max)}
    {radio : Radio} (h : Says frame calls result) (hcalls : RequestsSucceed calls)
    (hradio : radio.transaction = none) (hreplies : radio.Replies calls) :
    ∃ count, Heard frame calls (some result) radio count := by
  cases h with
  | refused e => cases requestsSucceed_request.1 hcalls
  | unreleased e _ => cases hcalls false (.error e) (by simp)
  | @aborted replies e release _ =>
    obtain rfl : release = .ok () := hcalls false release (by simp)
    obtain ⟨hfold, -⟩ := heard_of_swaps hradio (Radio.replies_append.1 hreplies.2).1
    refine ⟨replies.length, ?_, ?_, ?_, ?_, ?_⟩
    · rw [List.filterMap_cons_none rfl, List.filterMap_append, clocked_swaps (by simp)]
      simp [Call.clocked?]
    · simp [Call.isExchange]
    · rw [List.foldl_cons, List.foldl_append]
      show radio.Transferred _
        (List.foldl Radio.hear ((swaps _ replies).foldl Radio.hear (radio.setRequest true)) _)
      rw [hfold]
      exact Radio.transferred_of_bytes hradio _
    · intro hidle
      cases hidle
    · intro outcome houtcome
      cases houtcome
  | @completed status length body hbody =>
    have hopened : (radio.setRequest true).Replies
        (swaps (frame.wire (status :: length :: body).length) (status :: length :: body)) :=
      (Radio.replies_append.1 hreplies.2).1
    obtain ⟨hfold, hreplied⟩ := heard_of_swaps hradio hopened
    refine ⟨body.length + 2, ?_, ?_, ?_, ?_, ?_⟩
    · rw [List.filterMap_cons_none rfl, List.filterMap_append, clocked_swaps (by simp)]
      simp [Call.clocked?]
    · rw [Frame.wire_add_two]
      rfl
    · rw [List.foldl_cons, List.foldl_append]
      show radio.Transferred _
        (List.foldl Radio.hear ((swaps _ _).foldl Radio.hear (radio.setRequest true)) _)
      have hclosed := Radio.transferred_of_bytes hradio (frame.wire (body.length + 2))
      rw [Radio.transferred] at hclosed
      exact hfold ▸ hclosed
    · intro hidle
      cases hidle
    · intro outcome houtcome
      cases houtcome
      simp only [List.length_cons, List.range_succ_eq_map, List.map_cons, List.map_map,
        List.cons.injEq] at hreplied
      obtain ⟨rfl, rfl, hbytes⟩ := hreplied
      refine ⟨?_, by rw [hbody]⟩
      rw [Outcome.ofRadio, ← hbody]
      exact congrArg (Outcome.ofReplies _ _) hbytes

/-- Calls with at most one transfer are at most one transaction to a radio without an open one. -/
theorem Within.heard {frame : Frame max} {calls : List Call}
    {result : Option (Except LinkError (Outcome max))} {radio : Radio}
    (h : Within frame calls result)
    (hcalls : RequestsSucceed calls) (hradio : radio.transaction = .none)
    (hreplies : radio.Replies calls) :
    ∃ count, Heard frame calls result radio count := by
  cases h with
  | none hsilent =>
    have hstill := Radio.silent_undisturbed hradio hsilent
    refine ⟨0, ?_, ?_, ?_, ?_, ?_⟩
    · rw [hsilent.clocked]
      rfl
    · rw [hsilent.any_isExchange]
      rfl
    · exact hstill.transferred_nil
    · intro _
      rfl
    · intro outcome houtcome
      cases houtcome
  | @one before said after result hbefore hspoken hafter =>
    have hsaid := (requestsSucceed_append.1 (requestsSucceed_append.1 hcalls).2).1
    obtain ⟨-, hreplies⟩ := Radio.replies_append.1 hreplies
    have hfirst := Radio.silent_undisturbed hradio hbefore
    obtain ⟨count, hclocked, hattempted, htransferred, -, hok⟩ :=
      hspoken.heard hsaid hfirst.transaction (Radio.replies_append.1 hreplies).1
    refine ⟨count, ?_, ?_, ?_, ?_, ?_⟩
    · simp [hbefore.clocked, hafter.clocked, hclocked]
    · simp [hbefore.any_isExchange, hafter.any_isExchange, hattempted]
    · rw [List.foldl_append, List.foldl_append]
      have hlast := Radio.silent_undisturbed htransferred.transaction hafter
      exact (htransferred.of_undisturbed hfirst).undisturbed hlast
    · intro hidle
      cases hidle
    · intro outcome houtcome
      obtain ⟨rfl, rfl⟩ := hok outcome houtcome
      simp only [Outcome.ofRadio, hfirst.replyAt, and_self]

end Transfer

end RadioLink
