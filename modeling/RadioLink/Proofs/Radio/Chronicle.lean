import Mathlib.Data.List.Chain
import RadioLink.Proofs.Radio.Transfer

/-!
# The chronicle of a radio

Between the bytes of a transfer anything else can be done with a radio: REQUEST can be driven to the
level that it has, the radio can be reset with a transaction open, be told of another event, or run
out of its budget. What is seen of all this from outside are the calls with their answers, and what
the radio has been told (`Radio.Sight`).

`Radio.Chronicle` tells the history of a radio from what was seen of it, in terms of sessions. A
session begins with the first byte that is answered, takes the oldest event that no session has
taken, and is over when REQUEST is released or the radio is reset. `Radio.Chronicle.Describes` says
that the radio has kept this history: its transaction is the current session, its commands are those
of the sessions that were released, and its counters count them. It holds of a new radio and is
preserved by each use (`Chronicle.Describes.use`), hence after every sequence of uses; all that is
said about the radio alone follows from it (`useAll_chronicled`).

What carries the invariant is that no byte is answered unless REQUEST is asserted: so the release of
REQUEST, whoever drives it and for whatever reason, ends every session, and none goes on behind it.
-/

namespace RadioLink.Radio

/-! ## Uses -/

/-- Something to do with a radio. -/
inductive Use where
  /-- Exchange a byte. -/
  | exchange (byte : UInt8)
  /-- Drive REQUEST. -/
  | setRequest (level : Bool)
  /-- Sample READY. -/
  | readReady
  /-- Reset it. -/
  | reset
  /-- Tell it something. -/
  | script (told : RadioScript)

/-- What is seen of a use. -/
inductive Sight where
  /-- A call with its answer. -/
  | call (call : Call)
  /-- What the radio was told. -/
  | script (told : RadioScript)

/-- What is seen of a use, and the radio after it. -/
def Use.run : Use → Radio → Sight × Radio
  | .exchange byte, radio =>
    (.call (.exchange byte (Link.exchange byte radio).1), (Link.exchange byte radio).2)
  | .setRequest level, radio =>
    (.call (.request level (Link.setRequest level radio).1), (Link.setRequest level radio).2)
  | .readReady, radio => (.call (.ready (Link.readReady radio).1), (Link.readReady radio).2)
  | .reset, radio => (.call (.reset (Link.reset radio).1), (Link.reset radio).2)
  | .script told, radio => (.script told, told.apply radio)

/-- What is seen of some uses, and the radio after them. -/
def useAll : List Use → Radio → List Sight × Radio
  | [], radio => ([], radio)
  | use :: uses, radio =>
    let (sight, radio) := use.run radio
    let (sights, radio) := useAll uses radio
    (sight :: sights, radio)

/-- The event that a radio is told of, if it is. -/
def Use.event? : Use → Option RadioEvent
  | .script (.pushEvent event) => some event
  | _ => none

/-! ## Sessions -/

/-- A session: the bytes that were sent to a radio and what it has replied, from the first byte that
was answered. -/
structure Session where
  /-- The event that waited longest when the session began, if any did. -/
  event : Option RadioEvent
  /-- The bytes sent. -/
  sent : List UInt8 := []
  /-- The replies to them. -/
  replies : List UInt8 := []

namespace Session

/-- The length that the host declares, which is the first byte of a session. -/
def declared (session : Session) : UInt8 :=
  session.sent.getD 0 0

/-- What the radio has to send in a session: the bytes of its event, or an empty frame with the idle
status. -/
def outgoing (idleStatus : UInt8) (session : Session) : List UInt8 :=
  match session.event with
  | some event => event.wire
  | none => [idleStatus, 0]

/-- The replies of a session are what the radio has to send, continued with its filler. -/
def Answered (idleStatus filler : UInt8) (session : Session) : Prop :=
  session.replies =
    (List.range session.sent.length).map fun i => (session.outgoing idleStatus).getD i filler

/-- The command of a session: the bytes behind the first one, as many as it declares. -/
def command (session : Session) : List UInt8 :=
  session.sent.tail.take session.declared.toNat

/-- Whether the host declares a command. -/
def declares (session : Session) : Bool :=
  session.declared != 0

/-- The session with one more byte. -/
def clock (sent reply : UInt8) (session : Session) : Session :=
  { session with sent := session.sent ++ [sent], replies := session.replies ++ [reply] }

/-- A command has as many bytes as it declares, as far as they were clocked. -/
theorem length_command (session : Session) :
    session.command.length = min session.declared.toNat (session.sent.length - 1) := by
  simp [command]

/-- The command of a session is the one that its bytes amount to. -/
theorem commandOf_sent (session : Session) : commandOf session.sent = session.command := by
  unfold command declared
  cases session.sent with
  | nil => rfl
  | cons first bytes => rfl

/-- What a session leaves among the commands of the radio. -/
theorem entry_sent (session : Session) :
    entry session.sent = ([session].filter Session.declares).map Session.command := by
  rw [entry, commandOf_sent, ← declared]
  by_cases hblank : session.declared = 0
  · have hdeclares : session.declares = false := by simpa [declares] using hblank
    rw [if_pos hblank, List.filter_singleton, hdeclares]
    rfl
  · have hdeclares : session.declares = true := by simpa [declares] using hblank
    rw [if_neg hblank, List.filter_singleton, hdeclares]
    rfl

/-- The next reply continues the replies. -/
theorem Answered.clock {idleStatus filler : UInt8} {session : Session}
    (h : session.Answered idleStatus filler) (sent : UInt8) :
    (session.clock sent ((session.outgoing idleStatus).getD session.sent.length filler)).Answered
      idleStatus filler := by
  unfold Answered at h ⊢
  simp only [Session.clock, List.length_append, List.length_singleton, List.range_succ,
    List.map_append, h]
  rfl

end Session

/-- The release of REQUEST closes the transaction that is open. -/
theorem setRequest_of_open {radio : Radio} {tx : Transaction} (h : radio.transaction = some tx) :
    radio.setRequest false = { radio.withRequest false with
      transaction := none
      transactions := radio.transactions + 1
      emptyPolls := radio.emptyPolls + (entry tx.incoming).isEmpty.toNat
      commands := radio.commands ++ entry tx.incoming } := by
  have hclose : radio.setRequest false =
      close tx { radio.withRequest false with transaction := none } := by
    unfold setRequest
    rw [h]
  rw [hclose, close, entry]
  by_cases hblank : tx.incoming.getD 0 0 = 0
  · rw [if_pos hblank, if_pos hblank, List.append_nil]
    rfl
  · rw [if_neg hblank, if_neg hblank]
    rfl

/-! ## Chronicles -/

/-- How a session has ended. -/
inductive Ending where
  /-- REQUEST was released. -/
  | released
  /-- The radio was reset. -/
  | dropped
  deriving DecidableEq

/-- What the sights of a radio tell. -/
structure Chronicle where
  /-- The events that the radio was told of and that no session has taken, oldest first. -/
  pending : List RadioEvent := []
  /-- The sessions that are over, oldest first. -/
  ended : List (Session × Ending) := []
  /-- The session that is not over. -/
  current : Option Session := none
  /-- The level to which REQUEST was last driven. -/
  level : Bool := false

namespace Chronicle

/-- All sessions, in the order in which they began. -/
def sessions (c : Chronicle) : List Session :=
  c.ended.map Prod.fst ++ c.current.toList

/-- The sessions that ended with the release of REQUEST. -/
def released (c : Chronicle) : List Session :=
  (c.ended.filter fun session => session.2 = .released).map Prod.fst

/-- The events that sessions have taken, in the order in which those began. -/
def taken (c : Chronicle) : List RadioEvent :=
  c.sessions.filterMap Session.event

/-- The session of the next byte: the current one, or one that begins with it. -/
def session (c : Chronicle) : Session :=
  c.current.getD { event := c.pending.head? }

/-- The events that the session of the next byte leaves. -/
def left (c : Chronicle) : List RadioEvent :=
  if c.current.isSome then c.pending else c.pending.tail

/-- REQUEST is deasserted, and the current session is over. -/
def finish (ending : Ending) (c : Chronicle) : Chronicle :=
  { c with ended := c.ended ++ c.current.toList.map (·, ending), current := none, level := false }

/-- The chronicle behind another sight. Calls that have failed are not heard of. -/
def enter (c : Chronicle) : Sight → Chronicle
  | .call (.exchange byte (.ok reply)) =>
      { c with pending := c.left, current := some (c.session.clock byte reply) }
  | .call (.request true (.ok ())) => { c with level := true }
  | .call (.request false (.ok ())) => c.finish .released
  | .call (.reset (.ok ())) => c.finish .dropped
  | .script (.pushEvent event) => { c with pending := c.pending ++ [event] }
  | _ => c

/-- A radio whose idle status and filler are given has kept the history that a chronicle tells. -/
structure Describes (idle fill : UInt8) (c : Chronicle) (radio : Radio) : Prop where
  idleStatus : radio.idleStatus = idle
  filler : radio.filler = fill
  events : radio.events = c.pending
  transaction : radio.transaction =
    c.current.map fun session => { outgoing := session.outgoing idle, incoming := session.sent }
  request : radio.request = c.level
  asserted : c.current.isSome = true → c.level = true
  begun : ∀ session ∈ c.sessions, session.sent ≠ []
  answered : ∀ session ∈ c.sessions, session.Answered idle fill
  commands : radio.commands = (c.released.filter Session.declares).map Session.command
  emptyPolls : radio.emptyPolls = c.released.countP (!·.declares)
  transactions : radio.transactions = c.released.length
  exchanges : radio.exchanges = (c.sessions.flatMap Session.sent).length
  alternates : (false :: radio.requestLog).IsChain (· ≠ ·)
  last : radio.requestLog.getLastD false = c.level

variable {idle fill : UInt8} {c : Chronicle} {radio : Radio}

/-- Finishing a session changes where it is, but not that it has been. -/
@[simp] theorem sessions_finish (ending : Ending) (c : Chronicle) :
    (c.finish ending).sessions = c.sessions := by
  simp [sessions, finish, Function.comp_def]

/-- A session that is released is the last one released. -/
theorem released_finish_released (c : Chronicle) :
    (c.finish .released).released = c.released ++ c.current.toList := by
  cases h : c.current <;> simp [released, finish, h]

/-- A session that is dropped is not released. -/
theorem released_finish_dropped (c : Chronicle) : (c.finish .dropped).released = c.released := by
  cases h : c.current <;> simp [released, finish, h]

/-- Without a session only REQUEST is released. -/
theorem finish_of_none (ending : Ending) (h : c.current = none) :
    c.finish ending = { c with level := false } := by
  obtain ⟨pending, ended, current, level⟩ := c
  obtain rfl : current = none := h
  simp [finish]

/-- The byte that begins a session takes the oldest event that waits, and the others take none. -/
theorem taken_append_left (c : Chronicle) (byte reply : UInt8) :
    (c.enter (.call (.exchange byte (.ok reply)))).taken ++ c.left = c.taken ++ c.pending := by
  have htaken : (c.enter (.call (.exchange byte (.ok reply)))).taken =
      (c.ended.map Prod.fst).filterMap Session.event ++ c.session.event.toList := by
    have hevent : (c.session.clock byte reply).event = c.session.event := rfl
    simp only [taken, sessions, enter, Option.toList_some, List.filterMap_append]
    cases h : c.session.event <;> simp [hevent, h]
  have hbefore : c.taken = (c.ended.map Prod.fst).filterMap Session.event ++
      (c.current.bind Session.event).toList := by
    rw [taken, sessions, List.filterMap_append]
    cases c.current with
    | none => rfl
    | some session => cases h : session.event <;> simp [h]
  rw [htaken, hbefore, session, left]
  cases c.current with
  | some session => rfl
  | none => cases c.pending <;> simp

/-- Events are neither lost nor reordered: those that sessions have taken, followed by those that
wait, are the ones that the radio was told of. -/
theorem taken_append_pending (c : Chronicle) (use : Use) (radio : Radio) :
    (c.enter (use.run radio).1).taken ++ (c.enter (use.run radio).1).pending =
      c.taken ++ c.pending ++ use.event?.toList := by
  cases use with
  | exchange byte =>
    have hrun : (Use.exchange byte).run radio =
        (.call (.exchange byte (Link.exchange byte radio).1), (Link.exchange byte radio).2) := rfl
    rw [hrun]
    rcases (Link.exchange byte radio).1 with e | reply
    · exact (List.append_nil _).symm
    · exact (c.taken_append_left byte reply).trans (List.append_nil _).symm
  | setRequest level => cases level <;> simp [Use.run, Link.setRequest, Use.event?, enter, taken,
      sessions, finish]
  | readReady => simp [Use.run, Use.event?, enter]
  | reset => simp [Use.run, Link.reset, Use.event?, enter, taken, sessions, finish]
  | script told => cases told <;> simp [Use.run, Use.event?, enter, taken, sessions]

namespace Describes

/-! ### Bytes -/

/-- The transaction of the next byte is the session of the next byte. -/
theorem opened (h : c.Describes idle fill radio) :
    radio.opened = ({ outgoing := c.session.outgoing idle, incoming := c.session.sent },
      { radio with events := c.left }) := by
  cases hcurrent : c.current with
  | some session =>
    have hopened : radio.opened =
        ({ outgoing := session.outgoing idle, incoming := session.sent }, radio) := by
      rw [Radio.opened, h.transaction, hcurrent]
      rfl
    have hsession : c.session = session := by simp [Chronicle.session, hcurrent]
    have hleft : c.left = radio.events := by simp [left, hcurrent, h.events]
    rw [hopened, hsession, hleft]
  | none =>
    have hopened : radio.opened =
        ({ outgoing := radio.nextOutgoing }, { radio with events := radio.events.tail }) := by
      rw [Radio.opened, h.transaction, hcurrent]
      rfl
    have houtgoing : c.session.outgoing idle = radio.nextOutgoing := by
      rw [session, hcurrent, nextOutgoing, h.idleStatus, h.events]
      cases c.pending <;> rfl
    have hsent : c.session.sent = [] := by simp [session, hcurrent]
    have hleft : c.left = radio.events.tail := by simp [left, hcurrent, h.events]
    rw [hopened, houtgoing, hsent, hleft]

/-- The session of the next byte is answered so far, also if it is about to begin. -/
theorem answered_session (h : c.Describes idle fill radio) : c.session.Answered idle fill := by
  cases hcurrent : c.current with
  | none =>
    unfold session
    rw [hcurrent]
    rfl
  | some session =>
    have hmem : session ∈ c.sessions := by simp [sessions, hcurrent]
    unfold Chronicle.session
    rw [hcurrent]
    exact h.answered session hmem

/-- The step of an exchange: it begins a session or goes on with it, or is refused and changes
nothing. -/
theorem exchange (h : c.Describes idle fill radio) (byte : UInt8) :
    (c.enter ((Use.exchange byte).run radio).1).Describes idle fill
      ((Use.exchange byte).run radio).2 := by
  have hrun : (Use.exchange byte).run radio =
      (.call (.exchange byte (radio.exchange byte).1), (radio.exchange byte).2) := rfl
  rw [hrun]
  by_cases hrequest : radio.request = false
  · rw [Radio.exchange, if_pos hrequest]
    exact h
  by_cases hbudget : radio.budget = some 0
  · rw [Radio.exchange, if_neg hrequest, if_pos hbudget]
    exact h
  have hexchange : radio.exchange byte =
      (.ok ((c.session.outgoing idle).getD c.session.sent.length fill),
        { radio with
          events := c.left
          budget := radio.budget.map (· - 1)
          exchanges := radio.exchanges + 1
          transaction := some
            { outgoing := c.session.outgoing idle, incoming := c.session.sent ++ [byte] } }) := by
    rw [Radio.exchange, if_neg hrequest, if_neg hbudget, h.opened, ← h.filler]
  rw [hexchange]
  have hlevel : c.level = true := h.request.symm.trans ((Bool.not_eq_false _).mp hrequest)
  have hended (session : Session) (hsession : session ∈ c.ended.map Prod.fst) :
      session ∈ c.sessions :=
    List.mem_append_left _ hsession
  refine { h with
    events := rfl, transaction := rfl, asserted := fun _ => hlevel, begun := ?_, answered := ?_,
      exchanges := ?_ }
  · intro session hsession
    rcases List.mem_append.1 hsession with hsession | hsession
    · exact h.begun session (hended session hsession)
    · obtain rfl := List.mem_singleton.1 hsession
      simp [Session.clock]
  · intro session hsession
    rcases List.mem_append.1 hsession with hsession | hsession
    · exact h.answered session (hended session hsession)
    · obtain rfl := List.mem_singleton.1 hsession
      exact h.answered_session.clock byte
  · have hsent : c.sessions.flatMap Session.sent = (c.ended.map Prod.fst).flatMap Session.sent ++
        c.session.sent := by
      unfold sessions session
      cases c.current <;> simp
    have hclocked : (c.enter
      (.call (.exchange byte (.ok ((c.session.outgoing idle).getD c.session.sent.length
        fill))))).sessions = c.ended.map Prod.fst ++ [c.session.clock byte _] := rfl
    rw [hclocked, h.exchanges, hsent]
    simp [Session.clock, Nat.add_assoc]

/-! ### REQUEST -/

/-- A change of REQUEST goes on the log, and nothing else does. -/
theorem requestLog_alternates {log : List Bool} {level : Bool}
    (halternates : (false :: log).IsChain (· ≠ ·))
    (hlast : log.getLastD false = level) (level' : Bool) :
    (false :: if level = level' then log else log ++ [level']).IsChain (· ≠ ·) ∧
      (if level = level' then log else log ++ [level']).getLastD false = level' := by
  by_cases hlevel : level = level'
  · rw [if_pos hlevel]
    exact ⟨halternates, hlast.trans hlevel⟩
  · rw [if_neg hlevel]
    refine ⟨?_, by simp⟩
    rw [← List.cons_append, List.isChain_append]
    refine ⟨halternates, by simp, ?_⟩
    intro before hbefore after hafter
    rw [List.getLast?_cons, ← List.getLastD_eq_getLast?, hlast, Option.mem_some_iff] at hbefore
    rw [List.head?_cons, Option.mem_some_iff] at hafter
    rwa [← hbefore, ← hafter]

/-- REQUEST is released, which is the end of the current session. -/
theorem release (h : c.Describes idle fill radio) :
    (c.finish .released).Describes idle fill (radio.setRequest false) := by
  obtain ⟨halternates, hlast⟩ := requestLog_alternates h.alternates h.last false
  rw [← h.request] at halternates hlast
  cases hcurrent : c.current with
  | none =>
    have hopen : radio.transaction = none := by
      rw [h.transaction, hcurrent]
      rfl
    rw [setRequest_of_closed hopen, finish_of_none _ hcurrent]
    refine { h with request := rfl, asserted := ?_, alternates := halternates, last := hlast }
    intro hsession
    rw [hcurrent] at hsession
    cases hsession
  | some session =>
    have hopen : radio.transaction =
        some { outgoing := session.outgoing idle, incoming := session.sent } := by
      rw [h.transaction, hcurrent]
      rfl
    have hreleased : (c.finish .released).released = c.released ++ [session] := by
      rw [released_finish_released, hcurrent]
      rfl
    have hsessions : (c.finish .released).sessions = c.sessions := sessions_finish .released c
    rw [setRequest_of_open hopen]
    refine { h with
      transaction := rfl, request := rfl, asserted := nofun, begun := hsessions ▸ h.begun,
      answered := hsessions ▸ h.answered, commands := ?_, emptyPolls := ?_, transactions := ?_,
      exchanges := hsessions ▸ h.exchanges, alternates := halternates, last := hlast }
    · show radio.commands ++ entry session.sent = _
      rw [hreleased, h.commands, Session.entry_sent, List.filter_append, List.map_append]
    · show radio.emptyPolls + (entry session.sent).isEmpty.toNat = _
      rw [hreleased, h.emptyPolls, Session.entry_sent, List.countP_append]
      cases hdeclares : session.declares <;> simp [hdeclares]
    · show radio.transactions + 1 = _
      rw [hreleased, h.transactions, List.length_append, List.length_singleton]

/-- REQUEST is asserted, which is not the beginning of a session. -/
theorem assert (h : c.Describes idle fill radio) :
    ({ c with level := true } : Chronicle).Describes idle fill (radio.setRequest true) := by
  obtain ⟨halternates, hlast⟩ := requestLog_alternates h.alternates h.last true
  rw [← h.request] at halternates hlast
  exact { h with
    request := rfl, asserted := fun _ => rfl, alternates := halternates, last := hlast }

/-- The radio is reset, which is the end of the current session as well, but leaves no command. -/
theorem reset (h : c.Describes idle fill radio) :
    (c.finish .dropped).Describes idle fill radio.reset := by
  obtain ⟨halternates, hlast⟩ := requestLog_alternates h.alternates h.last false
  have hlog : radio.reset.requestLog =
      if c.level = false then radio.requestLog else radio.requestLog ++ [false] := by
    rw [← h.request]
    cases hrequest : radio.request <;> simp [Radio.reset, hrequest]
  have hreleased : (c.finish .dropped).released = c.released := released_finish_dropped c
  have hsessions : (c.finish .dropped).sessions = c.sessions := sessions_finish .dropped c
  exact { h with
    transaction := rfl, request := rfl, asserted := nofun, begun := hsessions ▸ h.begun,
    answered := hsessions ▸ h.answered, commands := hreleased ▸ h.commands,
      emptyPolls := hreleased ▸ h.emptyPolls,
    transactions := hreleased ▸ h.transactions, exchanges := hsessions ▸ h.exchanges,
    alternates := hlog ▸ halternates, last := hlog ▸ hlast }

/-! ### Runs -/

/-- A radio goes on keeping the history that a chronicle tells, whatever is done with it. -/
theorem use (h : c.Describes idle fill radio) (use : Use) :
    (c.enter (use.run radio).1).Describes idle fill (use.run radio).2 := by
  cases use with
  | exchange byte => exact h.exchange byte
  | setRequest level =>
    cases level with
    | false => exact h.release
    | true => exact h.assert
  | readReady => exact h
  | reset => exact h.reset
  | script told =>
    cases told with
    | pushEvent event => exact { h with events := congrArg (· ++ [event]) h.events }
    | forceReady level => exact { h with }
    | failAfter count => exact { h with }

/-- The run, by induction over the uses. -/
theorem useAll (h : c.Describes idle fill radio) (uses : List Use) :
    ((useAll uses radio).1.foldl enter c).Describes idle fill (useAll uses radio).2 := by
  induction uses generalizing c radio with
  | nil => exact h
  | cons use uses ih => exact ih (h.use use)

end Describes

/-- A chronicle without entries describes a new radio. -/
theorem describes_new (idle fill : UInt8) :
    ({} : Chronicle).Describes idle fill { idleStatus := idle, filler := fill } where
  idleStatus := rfl
  filler := rfl
  events := rfl
  transaction := rfl
  request := rfl
  asserted := nofun
  begun := by simp [sessions]
  answered := by simp [sessions]
  commands := rfl
  emptyPolls := rfl
  transactions := rfl
  exchanges := rfl
  alternates := by simp
  last := rfl

/-- The events that the radio was told of are those taken by sessions and those pending, over a
run. -/
theorem taken_append_pending_all (c : Chronicle) (uses : List Use) (radio : Radio) :
    ((Radio.useAll uses radio).1.foldl enter c).taken ++
      ((Radio.useAll uses radio).1.foldl enter c).pending =
      c.taken ++ c.pending ++ uses.filterMap Use.event? := by
  induction uses generalizing c radio with
  | nil => simp [Radio.useAll]
  | cons use uses ih =>
    have hrest := ih (c.enter (use.run radio).1) (use.run radio).2
    rw [taken_append_pending] at hrest
    rw [Radio.useAll, List.foldl_cons, hrest]
    cases hevent : use.event? <;> simp [hevent]

end Chronicle

/-- **A simulated radio keeps its books, whatever is done with it in whatever order.** After every
sequence of uses of a new radio: a transaction is open only while REQUEST is asserted, and has
clocked a byte; the transactions that have closed are the empty polls and the recorded commands; the
log of REQUEST alternates, begins with `true`, and ends with the level of REQUEST, which is the one
it was last driven to; every byte that was exchanged is in a session that was released, dropped by a
reset, or is still open; the sessions take the events in the order in which the radio was told of
them, each the one that has waited longest, and are sent it; and the commands are those of the
released sessions that declare one, with as many bytes as declared, as far as they were clocked. -/
theorem useAll_chronicled (idle fill : UInt8) (uses : List Use) :
    let radio := (useAll uses { idleStatus := idle, filler := fill }).2
    let seen := (useAll uses { idleStatus := idle, filler := fill }).1.foldl Chronicle.enter {}
    (∀ tx, radio.transaction = some tx → radio.request = true ∧ tx.incoming ≠ []) ∧
    radio.transactions = radio.emptyPolls + radio.commands.length ∧
    radio.requestLog.IsChain (· ≠ ·) ∧
    (∀ level, radio.requestLog.head? = some level → level = true) ∧
    radio.requestLog.getLastD false = radio.request ∧ radio.request = seen.level ∧
    radio.exchanges = (seen.sessions.flatMap Session.sent).length ∧
    radio.transaction.map Transaction.incoming = seen.current.map Session.sent ∧
    uses.filterMap Use.event? = seen.taken ++ radio.events ∧
    (∀ session ∈ seen.sessions, session.sent ≠ [] ∧ session.Answered idle fill) ∧
    radio.commands = (seen.released.filter Session.declares).map Session.command ∧
    radio.commands.map List.length = (seen.released.filter Session.declares).map fun session =>
      min session.declared.toNat (session.sent.length - 1) := by
  intro radio seen
  have hdescribes : seen.Describes idle fill radio :=
    (Chronicle.describes_new idle fill).useAll uses
  have hevents : seen.taken ++ seen.pending = uses.filterMap Use.event? :=
    Chronicle.taken_append_pending_all {} uses { idleStatus := idle, filler := fill }
  obtain ⟨hfirst, hchain⟩ := List.isChain_cons.1 hdescribes.alternates
  refine ⟨?_, ?_, hchain, ?_, ?_, hdescribes.request, hdescribes.exchanges, ?_, ?_, ?_,
    hdescribes.commands, ?_⟩
  · intro tx htx
    rw [hdescribes.transaction, Option.map_eq_some_iff] at htx
    obtain ⟨session, hcurrent, rfl⟩ := htx
    have hmem : session ∈ seen.sessions := by simp [Chronicle.sessions, hcurrent]
    have hlevel : seen.level = true := hdescribes.asserted (hcurrent ▸ rfl)
    exact ⟨hdescribes.request.trans hlevel, hdescribes.begun session hmem⟩
  · rw [hdescribes.transactions, hdescribes.emptyPolls, hdescribes.commands, List.length_map,
      ← List.countP_eq_length_filter, Nat.add_comm]
    simpa using List.length_eq_countP_add_countP Session.declares (l := seen.released)
  · intro level hlevel
    have hne := hfirst level hlevel
    simpa using hne
  · exact hdescribes.last.trans hdescribes.request.symm
  · rw [hdescribes.transaction, Option.map_map]
    rfl
  · rw [← hevents, hdescribes.events]
  · intro session hsession
    exact ⟨hdescribes.begun session hsession, hdescribes.answered session hsession⟩
  · rw [hdescribes.commands, List.map_map]
    exact List.map_congr_left fun session _ => session.length_command

end RadioLink.Radio
