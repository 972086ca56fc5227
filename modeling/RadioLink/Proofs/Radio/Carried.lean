import Mathlib.Data.List.GetD
import RadioLink.Proofs.Frame.Encoding
import RadioLink.Proofs.Radio.Transfer

/-!
# What a transfer carries

The bytes that a transfer clocks in either direction stand for something on the other side. The
bytes of a frame amount to a command: a prefix of the payload, one byte shorter than what was
clocked, and the whole payload if the transfer ran to its end (`Frame.payload_take_window`). The
bytes of an event amount to a frame: `RadioEvent.Carried` says which, whatever the event declares
and however many bytes it has.
-/

namespace RadioLink

variable {max : Nat}

/-! ## Commands -/

namespace Frame

/-- Inside the storage a byte is read as it is stored. -/
theorem byteAt_eq_getElem (frame : Frame max) {i : Nat} (hi : i < frame.storage.toList.length) :
    frame.byteAt i = frame.storage.toList[i] := by
  rw [byteAt, List.getD_eq_getElem _ _ hi]

/-- The radio cuts what it was sent at the declared length, and so does the frame. -/
theorem commandOf_wire {frame : Frame max} (hfits : frame.fits = true) (n : Nat) :
    Radio.commandOf (frame.wire (n + 1)) = frame.payload.take n := by
  have hlength : frame.length.toNat ≤ max := fits_iff.1 hfits
  have hwire : frame.wire (n + 1) = frame.length :: (List.range n).map frame.byteAt := by
    simp [wire, List.range_succ_eq_map, wireByte, Function.comp_def]
  rw [hwire, Radio.commandOf, payload]
  refine List.ext_getElem (by simp; omega) fun i hi hi' => ?_
  simp only [List.length_take, List.length_map, List.length_range, Vector.length_toList] at hi hi'
  simp only [List.getElem_take, List.getElem_map, List.getElem_range]
  exact frame.byteAt_eq_getElem (by simp; omega)

/-- The command that some bytes of a frame leave at the radio: none without a byte or without a
payload, else as much of the payload as was clocked behind the length byte. -/
theorem entry_wire {frame : Frame max} (hfits : frame.fits = true) (n : Nat) :
    Radio.entry (frame.wire n) =
      if n = 0 ∨ frame.length = 0 then [] else [frame.payload.take (n - 1)] := by
  cases n with
  | zero => simp [Radio.entry, wire]
  | succ n =>
    have hfirst : (frame.wire (n + 1)).getD 0 0 = frame.length := by
      simp [wire, List.range_succ_eq_map, wireByte]
    rw [Radio.entry, hfirst, commandOf_wire hfits]
    simp

/-- The header and the window of a transfer are enough for the whole payload. -/
theorem payload_take_window {frame : Frame max} (hfits : frame.fits = true) (received : UInt8) :
    frame.payload.take (window frame.length received max + 2 - 1) = frame.payload := by
  have hlength : frame.length.toNat ≤ max := fits_iff.1 hfits
  refine List.take_of_length_le ?_
  have hwindow : frame.length.toNat - 1 ≤ Nat.max received.toNat (frame.length.toNat - 1) :=
    Nat.le_max_right _ _
  rw [length_payload, window]
  omega

end Frame

/-! ## Events -/

/-- A frame carries an event: it has the status and the length that the event declares, and its
payload is that of the event, continued with the radio's filler or cut where either the declared
length or the storage ends. -/
structure RadioEvent.Carried (filler : UInt8) (event : RadioEvent) (frame : Frame max) : Prop where
  status : frame.status = event.status
  length : frame.length = event.length
  payload : frame.payload =
    (event.payload ++ List.replicate max filler).take (min event.length.toNat max)

namespace Transfer.Outcome

variable {frame : Frame max} {radio : Radio}

/-- Without an event the radio sends an empty frame, which is none. -/
theorem hasEvent_ofRadio_nil (h : radio.events = []) : (ofRadio frame radio).hasEvent = false := by
  simp [ofRadio, ofReplies, hasEvent, Radio.replyAt, Radio.nextOutgoing, h]

variable {event : RadioEvent} {events : List RadioEvent}

/-- Behind the header the oldest event clocks out its payload, and then the filler. -/
theorem replyAt_add_two (h : radio.events = event :: events) (i : Nat) :
    radio.replyAt (i + 2) = event.payload.getD i radio.filler := by
  simp [Radio.replyAt, Radio.nextOutgoing, h, RadioEvent.wire]

/-- What is received declares what the oldest event does. -/
theorem length_received (frame : Frame max) (h : radio.events = event :: events) :
    (ofRadio frame radio).received.length = event.length := by
  simp [ofRadio, ofReplies, Radio.replyAt, Radio.nextOutgoing, h, RadioEvent.wire]

/-- A transfer that runs to its end brings the radio's oldest event. -/
theorem carried_received (h : radio.events = event :: events) :
    event.Carried radio.filler (ofRadio frame radio).received := by
  have hlength : radio.replyAt 1 = event.length := length_received frame h
  refine ⟨?_, hlength, ?_⟩
  · simp [ofRadio, ofReplies, Radio.replyAt, Radio.nextOutgoing, h, RadioEvent.wire]
  · have hwindow : min event.length.toNat max ≤ window frame.length event.length max := by
      have hwindow : event.length.toNat ≤ Nat.max event.length.toNat (frame.length.toNat - 1) :=
        Nat.le_max_left _ _
      rw [window]
      omega
    rw [Frame.payload]
    refine List.ext_getElem ?_ fun i hi hi' => ?_
    · rw [length_received frame h]
      simp
    · simp only [List.length_take, List.length_append, List.length_replicate] at hi'
      have hclocked : i < window frame.length event.length max := by omega
      simp only [ofRadio, ofReplies, hlength, Frame.toList_fill, List.getElem_take,
        List.getElem_ofFn]
      rw [List.getD_eq_getElem _ _ (by simpa using hclocked), List.getElem_map, List.getElem_range,
        replyAt_add_two h]
      by_cases hbyte : i < event.payload.length
      · rw [List.getD_eq_getElem _ _ hbyte, List.getElem_append_left hbyte]
      · rw [List.getD_eq_default _ _ (by omega), List.getElem_append_right (by omega),
          List.getElem_replicate]

/-- What a transfer that runs to its end brings is the radio's oldest event, if there is one and it
declares a length. -/
theorem carried_of_ofRadio (frame : Frame max) (radio : Radio) :
    List.Forall₂ (RadioEvent.Carried radio.filler)
      (radio.events.head?.toList.filter (·.length != 0))
      (if (ofRadio frame radio).hasEvent then [(ofRadio frame radio).received] else []) := by
  cases hevents : radio.events with
  | nil =>
    rw [hasEvent_ofRadio_nil hevents]
    exact .nil
  | cons event events =>
    rw [hasEvent, length_received frame hevents]
    by_cases hblank : event.length = 0
    · simp [hblank]
    · have hkept : (event.length != 0) = true := by simpa using hblank
      simp only [List.head?_cons, Option.toList_some, List.filter_cons, hkept, if_true,
        List.filter_nil]
      exact .cons (carried_received hevents) .nil

end Transfer.Outcome

end RadioLink
