import Mathlib.Order.Bounds.Basic
import RadioLink.Proofs.Radio.Carried

/-!
# Transfers with a healthy radio

A radio whose exchanges do not fail lets a transfer run to its end, and then the transfer is a
function of the frame and the radio (`Transfer.run_radio`): the bytes of the frame are clocked in
one transaction, and the outcome is read off what the radio has to send.

`Transfer.RoundTrip` says what that means for either side. Both directions share one run of bytes,
in which the payload of the frame is one byte ahead of that of the event, so neither direction may
be cut short by the other's length: the window is the least one that covers both.
-/

namespace RadioLink

variable {max : Nat}

namespace Radio

/-- The next `n` exchanges do not fail for want of budget. -/
def Affords (radio : Radio) (n : Nat) : Prop :=
  ∀ budget, radio.budget = some budget → n ≤ budget

/-! ## Bytes that do not fail -/

/-- Within its budget a radio takes the next byte of a transaction, and answers with what it has to
send. -/
theorem exchange_clocked_eq {radio : Radio} (bytes : List UInt8) (byte : UInt8)
    (hopen : radio.transaction = none) (hrequest : radio.request = true)
    (hbudget : radio.Affords (bytes.length + 1)) :
    (radio.clocked bytes).exchange byte =
      (.ok (radio.replyAt bytes.length), radio.clocked (bytes ++ [byte])) := by
  rcases h : (radio.clocked bytes).exchange byte with ⟨e | reply, radio'⟩
  · have hasserted : (radio.clocked bytes).request = true := by
      cases bytes <;> exact hrequest
    have hleft : (radio.clocked bytes).budget ≠ some 0 := by
      have hclocked : (radio.clocked bytes).budget = radio.budget.map (· - bytes.length) := by
        cases bytes with
        | nil => simp [clocked]
        | cons first bytes => rfl
      rw [hclocked]
      cases hleft : radio.budget with
      | none => simp
      | some budget =>
        have := hbudget budget hleft
        simp
        omega
    simp [exchange, hasserted, hleft] at h
  · obtain ⟨rfl, rfl⟩ := exchange_clocked hopen h
    rfl

end Radio

namespace Transfer

variable {radio : Radio}

/-- The run over the bytes: each is answered with the next one that the radio has to send, as long
as the budget lasts. -/
theorem exchangeAll_clocked (hopen : radio.transaction = none) (hrequest : radio.request = true)
    (sent bytes : List UInt8) (hbudget : radio.Affords (sent.length + bytes.length)) :
    exchangeAll bytes (radio.clocked sent) =
      (.ok ((List.range bytes.length).map fun i => radio.replyAt (sent.length + i)),
        radio.clocked (sent ++ bytes)) := by
  induction bytes generalizing sent with
  | nil => simp [exchangeAll]
  | cons byte bytes ih =>
    have hfirst : Link.exchange byte (radio.clocked sent) =
        (.ok (radio.replyAt sent.length), radio.clocked (sent ++ [byte])) :=
      Radio.exchange_clocked_eq sent byte hopen hrequest fun budget hleft =>
        Nat.le_trans (by simp) (hbudget budget hleft)
    have hrest := ih (sent ++ [byte]) fun budget hleft =>
      Nat.le_trans (by simp; omega) (hbudget budget hleft)
    simp only [exchangeAll, hfirst, hrest]
    simp [List.range_succ_eq_map, Function.comp_def, Nat.add_assoc, Nat.add_comm 1]

/-- The window that a transfer of a frame with a radio comes to. -/
def windowOf (frame : Frame max) (radio : Radio) : Nat :=
  window frame.length (radio.replyAt 1) max

/-- A frame is clocked to its end, and brings what the radio has to send. -/
theorem clockFrame_radio (frame : Frame max) (hopen : radio.transaction = none)
    (hrequest : radio.request = true) (hbudget : radio.Affords (windowOf frame radio + 2)) :
    clockFrame frame radio =
      (.ok (.ofRadio frame radio), radio.clocked (frame.wire (windowOf frame radio + 2))) := by
  have hstatus : Link.exchange frame.length radio =
      (.ok (radio.replyAt 0), radio.clocked [frame.length]) :=
    Radio.exchange_clocked_eq [] frame.length hopen hrequest fun budget hleft =>
      Nat.le_trans (by simp) (hbudget budget hleft)
  have hlength : Link.exchange (frame.byteAt 0) (radio.clocked [frame.length]) =
      (.ok (radio.replyAt 1), radio.clocked [frame.length, frame.byteAt 0]) :=
    Radio.exchange_clocked_eq [frame.length] (frame.byteAt 0) hopen hrequest fun budget hleft =>
      Nat.le_trans (by simp) (hbudget budget hleft)
  have hbody := exchangeAll_clocked hopen hrequest [frame.length, frame.byteAt 0]
    (bytesInWindow frame (windowOf frame radio)) fun budget hleft =>
      Nat.le_trans (by simp [bytesInWindow]; omega) (hbudget budget hleft)
  simp only [clockFrame, hstatus, hlength]
  rw [windowOf] at hbody ⊢
  rw [hbody, Frame.wire_add_two]
  simp [Outcome.ofRadio, Outcome.ofReplies, bytesInWindow, Nat.add_comm 2]

/-- A transfer of a frame with a healthy radio succeeds, as one transaction of the bytes of the
frame. -/
theorem run_radio {frame : Frame max} (hopen : radio.transaction = none)
    (hbudget : radio.Affords (windowOf frame radio + 2)) :
    run frame radio = (.ok (.ofRadio frame radio),
      radio.transferred (frame.wire (windowOf frame radio + 2))) := by
  have hrequest := Radio.setRequest_undisturbed hopen true
  have hwindow : windowOf frame (radio.setRequest true) = windowOf frame radio := by
    rw [windowOf, windowOf, hrequest.replyAt]
  have houtcome : Outcome.ofRadio frame (radio.setRequest true) = .ofRadio frame radio := by
    simp only [Outcome.ofRadio, hrequest.replyAt]
  have hassert : Link.setRequest true radio = (.ok (), radio.setRequest true) := rfl
  have hclock := clockFrame_radio frame hrequest.transaction rfl (hwindow ▸ hbudget)
  rw [hwindow, houtcome] at hclock
  simp only [run, hassert, hclock]
  rfl

end Transfer

/-! ## Both directions -/

namespace Radio

/-- The event that the radio delivers next: its oldest one, or an empty one with its idle status. -/
def nextEvent (radio : Radio) : RadioEvent :=
  radio.events.head?.getD { status := radio.idleStatus, length := 0, payload := [] }

/-- What the closed transaction of a transfer leaves in the counters of the radio and on its
lines. -/
theorem transferred_counts (radio : Radio) {bytes : List UInt8} (hbytes : bytes ≠ []) :
    (radio.transferred bytes).exchanges = radio.exchanges + bytes.length ∧
    (radio.transferred bytes).transactions = radio.transactions + 1 ∧
    (radio.transferred bytes).emptyPolls =
      radio.emptyPolls + (if bytes.getD 0 0 = 0 then 1 else 0) ∧
    (radio.transferred bytes).request = false := by
  obtain ⟨byte, bytes, rfl⟩ := List.exists_cons_of_ne_nil hbytes
  have hclose : radio.transferred (byte :: bytes) =
      close { outgoing := (radio.setRequest true).nextOutgoing, incoming := byte :: bytes }
        { ((radio.setRequest true).clocked (byte :: bytes)).withRequest false
          with transaction := none } := rfl
  rw [hclose, close]
  by_cases hzero : (byte :: bytes).getD 0 0 = 0
  · rw [if_pos hzero, if_pos hzero]
    exact ⟨rfl, rfl, rfl, rfl⟩
  · rw [if_neg hzero, if_neg hzero]
    exact ⟨rfl, rfl, rfl, rfl⟩

end Radio

namespace Transfer

variable {radio radio' : Radio}

/-- Nothing is stored past the replies. -/
theorem byteAt_ofReplies (status length : UInt8) {body : List UInt8} {i : Nat}
    (h : body.length ≤ i) :
    (Outcome.ofReplies status length body : Outcome max).received.byteAt i = 0 := by
  rw [Frame.byteAt, Outcome.ofReplies, Frame.toList_fill]
  by_cases hi : i < max
  · rw [List.getD_eq_getElem _ _ (by simpa using hi), List.getElem_ofFn, List.getD_eq_default _ _ h]
  · rw [List.getD_eq_default _ _ (by simpa using hi)]

/-- The received frame carries the radio's next event, and no event is an event without length. -/
theorem carried_nextEvent (frame : Frame max) (radio : Radio) :
    radio.nextEvent.Carried radio.filler (Outcome.ofRadio frame radio).received := by
  cases hevents : radio.events with
  | cons event events =>
    have hnext : radio.nextEvent = event := by rw [Radio.nextEvent, hevents]; rfl
    rw [hnext]
    exact Outcome.carried_received hevents
  | nil =>
    -- a radio that had the empty event to deliver would send the same bytes
    let radio' := { radio with events := [radio.nextEvent] }
    have hsame : radio'.replyAt = radio.replyAt := by
      funext i
      simp [radio', Radio.replyAt, Radio.nextOutgoing, Radio.nextEvent, hevents, RadioEvent.wire]
    have hcarried : radio.nextEvent.Carried radio'.filler (Outcome.ofRadio frame radio').received :=
      Outcome.carried_received rfl
    simp only [Outcome.ofRadio, hsame] at hcarried
    exact hcarried

/-- A transfer has carried a frame to a radio and its next event back: the radio has kept the
payload of the frame as a command, or counted an empty poll; the event has left the radio, and the
received frame carries it, with zeros past what was exchanged; as many bytes were clocked behind the
two of the header as the longer direction needs, up to the capacity; and the radio is left without a
transaction and with REQUEST released. -/
structure RoundTrip (frame : Frame max) (radio : Radio) (outcome : Outcome max) (radio' : Radio) :
    Prop where
  commands : radio'.commands = radio.commands ++ (if frame.length = 0 then [] else [frame.payload])
  emptyPolls : radio'.emptyPolls = radio.emptyPolls + (if frame.length = 0 then 1 else 0)
  transactions : radio'.transactions = radio.transactions + 1
  events : radio'.events = radio.events.tail
  carried : radio.nextEvent.Carried radio.filler outcome.received
  blank : ∀ i, outcome.exchanged ≤ i → outcome.received.byteAt i = 0
  window : ∃ n, IsLeast {n | outcome.received.length.toNat ≤ n ∧ frame.length.toNat ≤ n + 1} n ∧
    outcome.exchanged = min n max
  exchanges : radio'.exchanges = radio.exchanges + (2 + outcome.exchanged)
  released : radio'.request = false
  closed : radio'.transaction = none

/-- The window is the least one that covers both directions, up to the capacity. -/
theorem window_isLeast (sent received : UInt8) (max : Nat) :
    ∃ n, IsLeast {n | received.toNat ≤ n ∧ sent.toNat ≤ n + 1} n ∧
      window sent received max = min n max := by
  refine ⟨Nat.max received.toNat (sent.toNat - 1), ⟨⟨Nat.le_max_left _ _, ?_⟩, ?_⟩, rfl⟩
  · have hsent : sent.toNat - 1 ≤ Nat.max received.toNat (sent.toNat - 1) := Nat.le_max_right _ _
    exact Nat.sub_le_iff_le_add.1 hsent
  · rintro n ⟨hreceived, hsent⟩
    exact Nat.max_le.2 ⟨hreceived, by omega⟩

/-- **A transfer with a healthy radio delivers both ways at once.** Whatever the frame's storage
holds, as long as its length fits, and whatever the radio has to deliver: the transfer succeeds, and
is a round trip. -/
theorem run_roundTrip {frame : Frame max} {radio : Radio} (hfits : frame.fits = true)
    (hopen : radio.transaction = none) (hbudget : radio.Affords (windowOf frame radio + 2)) :
    ∃ outcome radio', run frame radio = (.ok outcome, radio') ∧
      RoundTrip frame radio outcome radio' := by
  refine ⟨_, _, run_radio hopen hbudget, ?_⟩
  have hwire : frame.wire (windowOf frame radio + 2) ≠ [] := by
    rw [Frame.wire_add_two]
    exact List.cons_ne_nil _ _
  have hfirst : (frame.wire (windowOf frame radio + 2)).getD 0 0 = frame.length := by
    rw [Frame.wire_add_two]
    rfl
  have htransferred := Radio.transferred_of_bytes hopen (frame.wire (windowOf frame radio + 2))
  obtain ⟨hexchanges, htransactions, hpolls, hrequest⟩ := radio.transferred_counts hwire
  have hexchanged : (Outcome.ofRadio frame radio).exchanged = windowOf frame radio := by
    simp [Outcome.ofRadio, Outcome.ofReplies, windowOf]
  constructor
  case commands =>
    rw [htransferred.commands, Frame.entry_wire hfits, windowOf, Frame.payload_take_window hfits]
    simp
  case emptyPolls => rw [hpolls, hfirst]
  case transactions => exact htransactions
  case events => rw [htransferred.events, if_neg hwire]
  case carried => exact carried_nextEvent frame radio
  case blank =>
    intro i hi
    exact byteAt_ofReplies _ _ hi
  case window =>
    rw [hexchanged]
    exact window_isLeast frame.length (radio.replyAt 1) max
  case exchanges => rw [hexchanges, hexchanged, Frame.length_wire, Nat.add_comm 2]
  case released => exact hrequest
  case closed => exact htransferred.transaction

/-- A command of three bytes with a fourth one in storage, against an event that declares more than
a frame holds and has less: six bytes are clocked, which is all that the radio's budget allows. -/
theorem run_roundTrip_of_overlong_event :
    let frame : Frame 4 := ⟨9, 3, #v[1, 2, 3, 77]⟩
    let radio : Radio := { events := [⟨5, 200, [7]⟩, ⟨6, 0, []⟩], filler := 0xEE, budget := some 6 }
    frame.fits = true ∧ radio.transaction = none ∧ radio.Affords (windowOf frame radio + 2) ∧
    (run frame radio).2.commands = [[1, 2, 3]] ∧
    ∃ outcome radio', run frame radio = (.ok outcome, radio') ∧
      RoundTrip frame radio outcome radio' ∧
      outcome.received = ⟨5, 200, #v[7, 0xEE, 0xEE, 0xEE]⟩ := by
  intro frame radio
  have hbudget : radio.Affords (windowOf frame radio + 2) := by
    rintro _ ⟨⟩
    decide
  refine ⟨rfl, rfl, hbudget, by decide, ?_⟩
  obtain ⟨outcome, radio', hrun, htrip⟩ :
      ∃ outcome radio', run frame radio = (.ok outcome, radio') ∧
        RoundTrip frame radio outcome radio' :=
    run_roundTrip rfl rfl hbudget
  refine ⟨outcome, radio', hrun, htrip, ?_⟩
  have houtcome := congrArg Prod.fst hrun
  obtain rfl := Except.ok.inj houtcome
  decide

end Transfer

end RadioLink
