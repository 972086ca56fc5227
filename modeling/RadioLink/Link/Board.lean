import RadioLink.Link.Basic
import RadioLink.Link.Config

/-!
# Links over a board's peripherals

`Board` asks for the peripherals that a radio is wired to: a bus that swaps a byte in place and can
be flushed, the two pins that the host drives, the pin that it reads, and a delay. `BoardLink` makes
a link of them. REQUEST and READY are active-low: asserted is the low voltage.

A primitive gives up at the first peripheral that fails and reports it. The bus error or pin error
that a peripheral raises becomes the detail of the link error.
-/

namespace RadioLink

/-- The voltage of a pin. -/
inductive Voltage where
  | low
  | high
  deriving DecidableEq

/-- What went wrong on a bus. -/
inductive BusFault where
  /-- Bytes came in faster than they were taken. -/
  | overrun
  /-- Another device drives the bus. -/
  | modeFault
  /-- A byte was framed wrongly. -/
  | frameFormat
  /-- The chip select pin could not be driven. -/
  | chipSelectFault
  /-- Anything else. -/
  | other
  deriving DecidableEq

namespace BusFault

/-- Every fault. -/
def all : List BusFault :=
  [overrun, modeFault, frameFormat, chipSelectFault, other]

/-- The name of a bus fault. -/
def name : BusFault → String
  | overrun => "Overrun"
  | modeFault => "ModeFault"
  | frameFormat => "FrameFormat"
  | chipSelectFault => "ChipSelectFault"
  | other => "Other"

end BusFault

/-- What went wrong at a pin. A pin does not say more than that something did. -/
inductive PinFault where
  | other
  deriving DecidableEq

/-- The name of a pin fault. -/
def PinFault.name : PinFault → String
  | other => "Other"

/-- The peripherals of a board whose state is `β`. -/
class Board (β : Type) where
  /-- Swaps a byte on the bus. -/
  swap : UInt8 → β → Except BusFault UInt8 × β
  /-- Waits until the bus has finished. -/
  flush : β → Except BusFault Unit × β
  /-- Drives the REQUEST pin. -/
  driveRequest : Voltage → β → Except PinFault Unit × β
  /-- Tells whether the READY pin is low. -/
  readyIsLow : β → Except PinFault Bool × β
  /-- Drives the reset pin. -/
  driveReset : Voltage → β → Except PinFault Unit × β
  /-- Waits for some milliseconds. -/
  delay : UInt32 → β → β

/-- A link over the peripherals of a board. -/
structure BoardLink (β : Type) where
  /-- The board. -/
  board : β
  /-- How the link is driven. -/
  config : LinkConfig := {}

namespace BoardLink

variable {α β : Type}

/-- The lines whose pins a link takes hold of, in the order in which it gives them back. -/
def lines : List Line :=
  [.request, .ready, .reset]

/-- The voltage of an active-low line at a logical level. -/
def voltage (asserted : Bool) : Voltage :=
  if asserted then .low else .high

/-- A duration in milliseconds, or the longest delay that a board can be asked for. -/
def delayFor (d : Duration) : UInt32 :=
  if d.toMillis < UInt32.size then UInt32.ofNat d.toMillis else UInt32.ofNat (UInt32.size - 1)

/-- The link error of a pin that failed. -/
def onPin (line : Line) (result : Except PinFault α × β) : Except LinkError α × β :=
  (result.1.mapError fun fault => .pin line fault.name, result.2)

/-- The link error of a bus that failed. -/
def onBus (result : Except BusFault α × β) : Except LinkError α × β :=
  (result.1.mapError fun fault => .exchange fault.name, result.2)

/-- Drives a run of voltages on the reset pin. -/
def pulse [Board β] : List Voltage → β → Except LinkError Unit × β
  | [], board => (.ok (), board)
  | v :: vs, board =>
    match onPin .reset (Board.driveReset v board) with
    | (.error e, board) => (.error e, board)
    | (.ok (), board) => pulse vs board

/-- Swaps a byte and waits for the bus. -/
def exchange [Board β] (byte : UInt8) (board : β) : Except LinkError UInt8 × β :=
  match onBus (Board.swap byte board) with
  | (.error e, board) => (.error e, board)
  | (.ok reply, board) =>
    match onBus (Board.flush board) with
    | (.error e, board) => (.error e, board)
    | (.ok (), board) => (.ok reply, board)

/-- Pulses the reset pin, deasserts REQUEST and waits for the radio to settle. -/
def reset [Board β] (settle : Duration) (board : β) : Except LinkError Unit × β :=
  match pulse [.high, .low, .high] board with
  | (.error e, board) => (.error e, board)
  | (.ok (), board) =>
    match onPin .request (Board.driveRequest .high board) with
    | (.error e, board) => (.error e, board)
    | (.ok (), board) => (.ok (), Board.delay (delayFor settle) board)

instance [Board β] : Link (BoardLink β) where
  exchange byte s :=
    let (answer, board) := exchange byte s.board
    (answer, { s with board })
  setRequest level s :=
    let (answer, board) := onPin .request (Board.driveRequest (voltage level) s.board)
    (answer, { s with board })
  readReady s :=
    let (answer, board) := onPin .ready (Board.readyIsLow s.board)
    (answer, { s with board })
  reset s :=
    let (answer, board) := reset s.config.resetSettle s.board
    (answer, { s with board })

end BoardLink

end RadioLink
