import RadioLink.Proofs.Radio.RoundTrip

/-!
# Bytes stored past the payload

A transfer goes on clocking the storage of its frame for as long as the radio's frame is the longer
one, so a radio is sent bytes that the frame does not declare: whatever an earlier payload has left
there. Nothing at the radio depends on them, because the radio cuts what it was sent at the declared
length.

`Transfer.run_radio_of_spent` stands beside `Transfer.run_radio` and says what a transfer comes to
when the budget of the radio is spent on the way. With both, a transfer with any radio without an
open transaction is the transaction of the first `n` bytes of the frame, and `n` and the answer are
functions of the length of the frame and of the radio. What is left to see is that the radio makes
the same of two runs of bytes (`Radio.transferred_congr`) if they are as long, begin with the same
length byte and amount to the same command.
-/

namespace RadioLink

variable {max : Nat}

/-! ## A budget that runs out -/

namespace Radio

variable {radio : Radio}

/-- What an exchange comes to when the budget is spent. -/
def spent : LinkError :=
  .exchange "injected bus fault"

/-- The budget that some bytes of a transaction have left. -/
theorem budget_clocked (radio : Radio) (bytes : List UInt8) :
    (radio.clocked bytes).budget = radio.budget.map (· - bytes.length) := by
  cases bytes with
  | nil => simp [clocked]
  | cons byte bytes => rfl

/-- The first byte behind the budget fails, and does not reach the transaction. -/
theorem exchange_clocked_of_spent (bytes : List UInt8) (byte : UInt8)
    (hrequest : radio.request = true) (hbudget : radio.budget = some bytes.length) :
    (radio.clocked bytes).exchange byte = (.error spent, radio.clocked bytes) := by
  have hasserted : (radio.clocked bytes).request = true := by
    cases bytes <;> exact hrequest
  have hleft : (radio.clocked bytes).budget = some 0 := by
    rw [budget_clocked, hbudget]
    simp
  simp [exchange, hasserted, hleft, spent]

end Radio

namespace Transfer

variable {radio : Radio} {frame : Frame max} {budget : Nat}

/-- Bytes are exchanged up to the end of the budget. -/
theorem exchangeAll_clocked_of_spent (hopen : radio.transaction = none)
    (hrequest : radio.request = true)
    (hbudget : radio.budget = some budget) (sent bytes : List UInt8) (hsent : sent.length ≤ budget)
    (hspent : budget < sent.length + bytes.length) :
    exchangeAll bytes (radio.clocked sent) =
      (.error Radio.spent, radio.clocked (sent ++ bytes.take (budget - sent.length))) := by
  induction bytes generalizing sent with
  | nil =>
    rw [List.length_nil] at hspent
    omega
  | cons byte bytes ih =>
    rcases Nat.eq_or_lt_of_le hsent with rfl | hleft
    · have hfirst : Link.exchange byte (radio.clocked sent) =
          (.error Radio.spent, radio.clocked sent) :=
        Radio.exchange_clocked_of_spent sent byte hrequest hbudget
      simp only [exchangeAll, hfirst, Nat.sub_self, List.take_zero, List.append_nil]
    · have hfirst : Link.exchange byte (radio.clocked sent) =
          (.ok (radio.replyAt sent.length), radio.clocked (sent ++ [byte])) := by
        refine Radio.exchange_clocked_eq sent byte hopen hrequest fun n hn => ?_
        obtain rfl : budget = n := Option.some.inj (hbudget.symm.trans hn)
        exact hleft
      have hlength : (sent ++ [byte]).length = sent.length + 1 := by simp
      rw [List.length_cons] at hspent
      have hrest := ih (sent ++ [byte]) (by omega) (by omega)
      have hplace : budget - sent.length = budget - (sent.length + 1) + 1 := by omega
      simp only [exchangeAll, hfirst, hrest]
      rw [hplace, List.take_succ_cons, hlength, List.append_assoc, List.singleton_append]

/-- A budget that ends inside a frame ends the transfer there, with the bytes that it afforded
clocked. -/
theorem clockFrame_radio_of_spent (frame : Frame max) (hopen : radio.transaction = none)
    (hrequest : radio.request = true) (hbudget : radio.budget = some budget)
    (hspent : budget < windowOf frame radio + 2) :
    clockFrame frame radio = (.error Radio.spent, radio.clocked (frame.wire budget)) := by
  have hafford (n : Nat) (hn : n ≤ budget) : radio.Affords n := by
    intro m hm
    obtain rfl : budget = m := Option.some.inj (hbudget.symm.trans hm)
    exact hn
  -- either a byte of the header is the first that fails, or one of the window
  rcases budget with _ | _ | budget
  · have hstatus : Link.exchange frame.length radio = (.error Radio.spent, radio.clocked []) :=
      Radio.exchange_clocked_of_spent [] frame.length hrequest hbudget
    simp only [clockFrame, hstatus]
    rfl
  · have hstatus : Link.exchange frame.length radio =
        (.ok (radio.replyAt 0), radio.clocked [frame.length]) :=
      Radio.exchange_clocked_eq [] frame.length hopen hrequest (hafford 1 (by omega))
    have hlength : Link.exchange (frame.byteAt 0) (radio.clocked [frame.length]) =
        (.error Radio.spent, radio.clocked [frame.length]) :=
      Radio.exchange_clocked_of_spent [frame.length] (frame.byteAt 0) hrequest hbudget
    simp only [clockFrame, hstatus, hlength]
    rfl
  · have hstatus : Link.exchange frame.length radio =
        (.ok (radio.replyAt 0), radio.clocked [frame.length]) :=
      Radio.exchange_clocked_eq [] frame.length hopen hrequest (hafford 1 (by omega))
    have hlength : Link.exchange (frame.byteAt 0) (radio.clocked [frame.length]) =
        (.ok (radio.replyAt 1), radio.clocked [frame.length, frame.byteAt 0]) :=
      Radio.exchange_clocked_eq [frame.length] (frame.byteAt 0) hopen hrequest
        (hafford 2 (by omega))
    have hwindow : (bytesInWindow frame (windowOf frame radio)).length = windowOf frame radio := by
      simp [bytesInWindow]
    have hbody := exchangeAll_clocked_of_spent hopen hrequest hbudget [frame.length, frame.byteAt 0]
      (bytesInWindow frame (windowOf frame radio)) (by simp) (by simp [hwindow]; omega)
    have htake : (bytesInWindow frame (windowOf frame radio)).take budget =
        bytesInWindow frame budget := by
      rw [bytesInWindow, bytesInWindow, ← List.map_take, List.take_range,
        Nat.min_eq_left (by omega)]
    simp only [clockFrame, hstatus, hlength]
    rw [windowOf] at hbody htake
    rw [hbody, Frame.wire_add_two]
    simp [htake]

/-- A transfer for which the radio has too small a budget fails, as one transaction of as many bytes
of the frame as the budget allows. -/
theorem run_radio_of_spent (hopen : radio.transaction = none) (hbudget : radio.budget = some budget)
    (hspent : budget < windowOf frame radio + 2) :
    run frame radio = (.error Radio.spent, radio.transferred (frame.wire budget)) := by
  have hrequest := Radio.setRequest_undisturbed hopen true
  have hwindow : windowOf frame (radio.setRequest true) = windowOf frame radio := by
    rw [windowOf, windowOf, hrequest.replyAt]
  have hkept : (radio.setRequest true).budget = some budget := by
    rw [Radio.setRequest_of_closed hopen]
    exact hbudget
  have hassert : Link.setRequest true radio = (.ok (), radio.setRequest true) := rfl
  have hclock := clockFrame_radio_of_spent frame hrequest.transaction rfl hkept (hwindow ▸ hspent)
  simp only [run, hassert, hclock]
  rfl

end Transfer

/-! ## What the radio makes of the bytes -/

/-- A radio makes the same of two runs of bytes that are as long, begin with the same byte, and
amount to the same command. -/
theorem Radio.transferred_congr (radio : Radio) {bytes bytes' : List UInt8}
    (hlength : bytes.length = bytes'.length) (hfirst : bytes.getD 0 0 = bytes'.getD 0 0)
    (hcommand : commandOf bytes = commandOf bytes') :
    radio.transferred bytes = radio.transferred bytes' := by
  cases bytes with
  | nil =>
    obtain rfl : bytes' = [] := List.eq_nil_of_length_eq_zero hlength.symm
    rfl
  | cons byte bytes =>
    obtain ⟨byte', bytes', rfl⟩ := List.exists_cons_of_length_eq_add_one hlength.symm
    obtain rfl : byte = byte' := hfirst
    have hlength : bytes.length = bytes'.length := Nat.succ.inj hlength
    simp only [transferred, clocked, setRequest, close, withRequest, hlength, hcommand]
    rfl

namespace Frame

/-- The command that bytes of a frame amount to is a function of the payload: as much of it,
continued with zeros, as the frame declares and as was clocked. -/
theorem commandOf_wire_eq (frame : Frame max) (n : Nat) :
    Radio.commandOf (frame.wire (n + 1)) =
      (List.range (min frame.length.toNat n)).map fun i => frame.payload.getD i 0 := by
  have hwire : frame.wire (n + 1) = frame.length :: (List.range n).map frame.byteAt := by
    simp [wire, List.range_succ_eq_map, wireByte, Function.comp_def]
  rw [hwire, Radio.commandOf, ← List.map_take, List.take_range]
  refine List.map_congr_left fun i hi => ?_
  have hi : i < frame.length.toNat := by
    have := List.mem_range.1 hi
    omega
  -- inside the declared length the payload and the storage have the same bytes, also past their
  -- ends
  rw [byteAt, payload, List.getD_eq_getElem?_getD, List.getD_eq_getElem?_getD,
    List.getElem?_take, if_pos hi]

end Frame

namespace Transfer

/-- **What a frame stores past its payload is not observable at the radio.** Two frames of the same
length and the same payload, whatever their status bytes and the rest of their storage, have the
same transfer with every radio that has no open transaction: the same outcome or the same error, and
the same radio afterwards. -/
theorem run_eq_of_payload_eq {a b : Frame max} (hlength : a.length = b.length)
    (hpayload : a.payload = b.payload) {radio : Radio} (hopen : radio.transaction = none) :
    run a radio = run b radio := by
  have hwindow : windowOf a radio = windowOf b radio := by
    rw [windowOf, windowOf, hlength]
  have houtcome : Outcome.ofRadio a radio = Outcome.ofRadio b radio := by
    rw [Outcome.ofRadio, Outcome.ofRadio, hlength]
  have hleft (n : Nat) : radio.transferred (a.wire n) = radio.transferred (b.wire n) := by
    cases n with
    | zero => rfl
    | succ n =>
      refine radio.transferred_congr (by simp) ?_ ?_
      · simpa [Frame.wire, List.range_succ_eq_map, Frame.wireByte] using hlength
      · rw [Frame.commandOf_wire_eq, Frame.commandOf_wire_eq, hlength, hpayload]
  by_cases hbudget : radio.Affords (windowOf a radio + 2)
  · rw [run_radio hopen hbudget, run_radio hopen (hwindow ▸ hbudget), houtcome, hwindow, hleft]
  · simp only [Radio.Affords, not_forall, Nat.not_le] at hbudget
    obtain ⟨budget, hbudget, hspent⟩ := hbudget
    rw [run_radio_of_spent hopen hbudget hspent,
      run_radio_of_spent hopen hbudget (hwindow ▸ hspent), hleft]

/-- Two frames of the payload `[1]` in storages that hold different bytes behind it, for a radio
whose event is longer and whose budget ends one byte before the end of the window: the wires differ,
and the radio is left with the same command. -/
theorem run_eq_of_payload_eq_in_longer_window :
    let a : Frame 4 := ⟨0, 1, #v[1, 2, 3, 4]⟩
    let b : Frame 4 := ⟨9, 1, #v[1, 77, 78, 79]⟩
    let radio : Radio := { events := [⟨5, 4, [7, 7, 7, 7]⟩], budget := some 5 }
    a.length = b.length ∧ a.payload = b.payload ∧ radio.transaction = none ∧ a.wire 5 ≠ b.wire 5 ∧
    (run a radio).1 = .error Radio.spent ∧ (run a radio).2.commands = [[1]] ∧
      run a radio = run b radio := by
  intro a b radio
  exact ⟨rfl, rfl, rfl, by decide, by decide, by decide, run_eq_of_payload_eq rfl rfl rfl⟩

end Transfer

end RadioLink
