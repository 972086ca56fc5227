import Mathlib.Data.List.GetD
import RadioLink.Frame.Basic

/-!
# Frames as encodings

A frame that is built encodes its status and its payload (`Frame.Encodes`): it declares exactly the
payload, and what is behind the payload in its storage is zero. A capacity of at most 255 is what
the length byte can count to, and it is all that is needed for the byte to hold the length. There is
one such frame for each status and payload, so the derived equality of frames, which looks at the
whole storage, compares statuses and payloads on what has been built (`event_eq_ok_iff`).

A frame that has not been built may declare anything; its payload is what the storage has of it
(`getElem?_payload`).
-/

namespace RadioLink.Frame

variable {max : Nat} {status : UInt8} {bytes : List UInt8} {frame : Frame max}

/-- A frame declares exactly the given payload, and is zero behind it. -/
structure Encodes (status : UInt8) (bytes : List UInt8) (frame : Frame max) : Prop where
  status : frame.status = status
  fits : frame.fits = true
  length : frame.length.toNat = bytes.length
  payload : frame.payload = bytes
  zero : ∀ i (h : i < max), bytes.length ≤ i → frame.storage[i] = 0

/-- A frame fits exactly if its declared length is no more than its storage has room for. -/
theorem fits_iff : frame.fits = true ↔ frame.length.toNat ≤ max := by
  rw [fits, decide_eq_true_iff]

/-- A byte of the storage is the one it is filled with, or zero. -/
@[simp] theorem getElem_fill (bytes : List UInt8) {i : Nat} (h : i < max) :
    (fill bytes : Vector UInt8 max)[i] = bytes.getD i 0 := by
  simp [fill]

/-- Bytes that the storage has room for stand in it one by one, and there are zeros behind them. -/
theorem toList_fill_of_le (h : bytes.length ≤ max) :
    (fill bytes : Vector UInt8 max).toList = bytes ++ .replicate (max - bytes.length) 0 := by
  apply List.ext_getElem
  · simp
    omega
  intro i hi _
  rcases Nat.lt_or_ge i bytes.length with hbyte | hpast
  · simp [hbyte]
  · simp [hpast, Nat.not_lt.2 hpast]

/-- The payload of any frame is the start of its storage. -/
theorem getElem?_payload (frame : Frame max) {i : Nat} (hlength : i < frame.length.toNat)
    (hmax : i < max) :
    frame.payload[i]? = some frame.storage[i] := by
  rw [payload, List.getElem?_take_of_lt hlength, List.getElem?_eq_getElem (by simpa using hmax),
    Vector.getElem_toList]

/-- The frame that is built encodes what it is built of. -/
theorem encodes_fill (status : UInt8) (hbytes : bytes.length ≤ max) (hmax : max ≤ 255) :
    Encodes status bytes (⟨status, UInt8.ofNat bytes.length, fill bytes⟩ : Frame max) := by
  have hlength : (UInt8.ofNat bytes.length).toNat = bytes.length :=
    UInt8.toNat_ofNat_of_lt' (Nat.lt_succ_of_le (Nat.le_trans hbytes hmax))
  refine ⟨rfl, fits_iff.2 (Nat.le_trans (Nat.le_of_eq hlength) hbytes), hlength, ?_, ?_⟩
  · rw [payload, toList_fill_of_le hbytes, List.take_left' hlength.symm]
  · intro i hi hbehind
    rw [getElem_fill, List.getD_eq_default _ _ hbehind]

/-- Only one frame encodes a status and a payload. -/
theorem Encodes.eq {other : Frame max} (h : Encodes status bytes frame)
    (h' : Encodes status bytes other) :
    frame = other := by
  have hstorage : frame.storage = other.storage := by
    refine Vector.ext fun i hi => ?_
    rcases Nat.lt_or_ge i bytes.length with hpayload | hbehind
    · have hframe := getElem?_payload frame (Nat.lt_of_lt_of_eq hpayload h.length.symm) hi
      have hother := getElem?_payload other (Nat.lt_of_lt_of_eq hpayload h'.length.symm) hi
      rw [h.payload] at hframe
      rw [h'.payload, hframe] at hother
      exact Option.some.inj hother
    · rw [h.zero i hi hbehind, h'.zero i hi hbehind]
  have hlength : frame.length = other.length := UInt8.toNat_inj.1 (h.length.trans h'.length.symm)
  have hstatus : frame.status = other.status := h.status.trans h'.status.symm
  cases frame
  cases other
  cases hstatus
  cases hlength
  cases hstorage
  rfl

/-- What is built is what encodes the status and the payload. -/
theorem event_eq_ok_iff (hmax : max ≤ 255) :
    event status bytes = .ok frame ↔ Encodes status bytes frame := by
  rw [event]
  split
  · next hbytes =>
    have hbuilt := encodes_fill status hbytes hmax
    constructor
    · intro h
      obtain rfl := Except.ok.inj h
      exact hbuilt
    · intro h
      exact congrArg Except.ok (hbuilt.eq h)
  · next hbytes =>
    refine iff_of_false nofun fun h => hbytes ?_
    exact Nat.le_trans (Nat.le_of_eq h.length.symm) (fits_iff.1 h.fits)

/-- An event is refused exactly if its payload is too long, and only for that. -/
theorem event_eq_error_iff {e : FrameError} :
    event status bytes = (.error e : Except FrameError (Frame max)) ↔
      max < bytes.length ∧ e = .tooLong bytes.length max := by
  rw [event]
  split
  · next hbytes => exact iff_of_false nofun fun h => absurd h.1 (Nat.not_lt.2 hbytes)
  · next hbytes =>
    have hlong := Nat.not_le.1 hbytes
    simp [hlong, eq_comm]

/-- **Frames encode their payloads faithfully.** Of a capacity that the length byte can count to, a
frame is built of every status and every payload that it can hold, and of no other payload; it
encodes them; and two frames that have been built are the same exactly if their statuses and
payloads are. Whatever the capacity and whatever a frame declares, its payload is the start of its
storage, up to the declared length or up to the end. -/
theorem event_encodes (max : Nat) :
    (max ≤ 255 →
      (∀ status bytes, (bytes.length ≤ max →
          ∃ frame : Frame max, event status bytes = .ok frame ∧ Encodes status bytes frame) ∧
        (max < bytes.length →
          event status bytes =
            (.error (.tooLong bytes.length max) : Except FrameError (Frame max)))) ∧
      ∀ status bytes status' bytes' (frame frame' : Frame max), event status bytes = .ok frame →
        event status' bytes' = .ok frame' → (frame = frame' ↔ status = status' ∧ bytes = bytes')) ∧
    ∀ frame : Frame max, frame.payload.length = min frame.length.toNat max ∧
      ∀ i, i < min frame.length.toNat max →
        ∃ h : i < max, frame.payload[i]? = some frame.storage[i] := by
  refine ⟨fun hmax => ⟨fun status bytes => ⟨fun hbytes => ?_, fun hlong => ?_⟩, ?_⟩,
    fun frame => ⟨?_, ?_⟩⟩
  · have hbuilt := encodes_fill status hbytes hmax
    exact ⟨_, (event_eq_ok_iff hmax).2 hbuilt, hbuilt⟩
  · exact event_eq_error_iff.2 ⟨hlong, rfl⟩
  · intro status bytes status' bytes' frame frame' hbuilt hbuilt'
    rw [event_eq_ok_iff hmax] at hbuilt hbuilt'
    constructor
    · rintro rfl
      exact ⟨hbuilt.status.symm.trans hbuilt'.status, hbuilt.payload.symm.trans hbuilt'.payload⟩
    · rintro ⟨rfl, rfl⟩
      exact hbuilt.eq hbuilt'
  · exact length_payload frame
  · intro i hi
    have hi' := Nat.lt_min.1 hi
    exact ⟨hi'.2, getElem?_payload frame hi'.1 hi'.2⟩

/-- The longest payload that there is fills a frame of the greatest capacity, and its length byte
counts all of it. -/
theorem event_encodes_longest :
    255 ≤ 255 ∧ (List.replicate 255 (7 : UInt8)).length ≤ 255 ∧
    ∃ frame : Frame 255, event 0x81 (List.replicate 255 7) = .ok frame ∧ frame.length.toNat = 255 ∧
      frame.payload = List.replicate 255 7 := by
  have hbytes : (List.replicate 255 (7 : UInt8)).length ≤ 255 := Nat.le_of_eq List.length_replicate
  obtain ⟨hbuild, -⟩ := (event_encodes 255).1 (Nat.le_refl 255)
  obtain ⟨frame, hbuilt, hencodes⟩ := (hbuild 0x81 _).1 hbytes
  exact ⟨Nat.le_refl 255, hbytes, frame, hbuilt, hencodes.length.trans List.length_replicate,
    hencodes.payload⟩

end RadioLink.Frame
