/-!
# Frames

A host and its radio swap frames: a status byte, a length byte and a payload in a storage of fixed
size. `Frame.event` and `Frame.command` build frames whose declared length is the length of the
payload, and refuse a payload that the storage cannot hold. A frame read off a wire may declare more
than its storage holds; `Frame.payload` cuts such a declaration at the end of the storage, so it is
defined for every frame.

The length byte can only count to 255, so a capacity above that has no use; every frame of a
capacity up to 255 that these functions build declares its length exactly.
-/

namespace RadioLink

/-- A length-prefixed frame with room for `max` payload bytes. On the way out only the length and
the payload are sent; on the way in the radio fills in all three fields. -/
structure Frame (max : Nat) where
  /-- The status byte that the radio reported. -/
  status : UInt8 := 0
  /-- The number of payload bytes that the frame declares. -/
  length : UInt8 := 0
  /-- The payload, followed by bytes that mean nothing. -/
  storage : Vector UInt8 max
  deriving DecidableEq

/-- Why a frame cannot be built. -/
inductive FrameError where
  /-- The payload has `length` bytes and the frame holds `max`. -/
  | tooLong (length max : Nat)
  deriving DecidableEq

/-- The text of a frame error. -/
def FrameError.message : FrameError → String
  | .tooLong length max => s!"frame too long ({length} bytes, max {max})"

namespace Frame

/-- The payload capacity used where nothing else is asked for. -/
def defaultCapacity : Nat := 31

variable {max : Nat}

/-- A storage that starts with the given bytes, as far as they fit, and is zero after them. -/
def fill (bytes : List UInt8) : Vector UInt8 max :=
  Vector.ofFn fun i => bytes.getD i.val 0

/-- The frame without a payload. Sending it still performs a transfer, in which the radio can
deliver an event of its own. -/
def empty : Frame max :=
  { storage := fill [] }

instance : Inhabited (Frame max) := ⟨empty⟩

/-- A frame with a status byte. -/
def event (status : UInt8) (payload : List UInt8) : Except FrameError (Frame max) :=
  if payload.length ≤ max then
    .ok { status, length := UInt8.ofNat payload.length, storage := fill payload }
  else
    .error (.tooLong payload.length max)

/-- A frame to send, whose status byte is zero. -/
def command (payload : List UInt8) : Except FrameError (Frame max) :=
  event 0 payload

/-- The declared payload, cut at the end of the storage. -/
def payload (frame : Frame max) : List UInt8 :=
  frame.storage.toList.take frame.length.toNat

/-- The storage byte at a place, and zero past its end. -/
def byteAt (frame : Frame max) (i : Nat) : UInt8 :=
  frame.storage.toList.getD i 0

/-- Whether the frame declares no payload. -/
def isEmpty (frame : Frame max) : Bool :=
  frame.length == 0

/-- Whether the declared length is within the capacity. -/
def fits (frame : Frame max) : Bool :=
  decide (frame.length.toNat ≤ max)

/-- The bytes that the frame needs on the wire: its length byte and its declared payload. -/
def wireSize (frame : Frame max) : Nat :=
  1 + frame.length.toNat

/-- The storage holds the bytes it is filled with, then zeros, and is cut at its end. -/
@[simp] theorem toList_fill (bytes : List UInt8) :
    (fill bytes : Vector UInt8 max).toList = List.ofFn fun i : Fin max => bytes.getD i.val 0 := by
  simp [fill, Vector.toList_ofFn]

/-- The payload has the declared length, as far as the storage goes. -/
@[simp] theorem length_payload (frame : Frame max) :
    frame.payload.length = min frame.length.toNat max := by
  simp [payload]

end Frame

end RadioLink
