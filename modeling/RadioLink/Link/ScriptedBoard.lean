import RadioLink.Link.Board

/-!
# Scripted boards

`ScriptedBoard` is a board whose peripherals do as they are told and keep a record of every access.
Each peripheral has a schedule, of which every access takes the first entry; an access whose
schedule has run out succeeds.
-/

namespace RadioLink

/-- An access to a peripheral, with its answer. -/
inductive Access where
  /-- A byte was put on the bus. -/
  | swap (sent : UInt8) (answer : Except BusFault UInt8)
  /-- The bus was flushed. -/
  | flush (answer : Except BusFault Unit)
  /-- The REQUEST pin was driven. -/
  | request (voltage : Voltage) (answer : Except PinFault Unit)
  /-- The READY pin was read. -/
  | ready (answer : Except PinFault Bool)
  /-- The reset pin was driven. -/
  | reset (voltage : Voltage) (answer : Except PinFault Unit)
  /-- A delay was asked for. -/
  | delay (millis : UInt32)

/-- What the peripherals of a scripted board do. -/
structure BoardScript where
  /-- The bytes to come that fail to be swapped. -/
  swapFaults : List (Option BusFault) := []
  /-- The flushes to come that fail. -/
  flushFaults : List (Option BusFault) := []
  /-- The bytes received, in turn. After them the bus answers the complement of the byte sent. A
  swap that fails receives none. -/
  replies : List UInt8 := []
  /-- Whether the READY pin is low. -/
  readyLow : Bool := false
  /-- The times to come that driving the REQUEST pin fails. -/
  requestFaults : List Bool := []
  /-- The times to come that reading the READY pin fails. -/
  readyFaults : List Bool := []
  /-- The times to come that driving the reset pin fails. -/
  resetFaults : List Bool := []
  deriving DecidableEq

/-- A board that does as it is told. -/
structure ScriptedBoard where
  /-- What is still to come. -/
  script : BoardScript := {}
  /-- The accesses so far, oldest first. -/
  accesses : List Access := []

namespace ScriptedBoard

/-- The verdict of a pin's schedule. -/
def pinVerdict {α : Type} (faults : List Bool) (a : α) : Except PinFault α :=
  if faults.headD false then .error .other else .ok a

/-- The verdict of a bus schedule. -/
def busVerdict {α : Type} (faults : List (Option BusFault)) (a : α) : Except BusFault α :=
  match faults.headD none with
  | some fault => .error fault
  | none => .ok a

/-- The replies left after a swap with some answer. -/
def repliesAfter {α : Type} (replies : List UInt8) : Except BusFault α → List UInt8
  | .ok _ => replies.tail
  | .error _ => replies

instance : Board ScriptedBoard where
  swap byte b :=
    let answer := busVerdict b.script.swapFaults (b.script.replies.headD (~~~byte))
    (answer,
      { script := { b.script with
          swapFaults := b.script.swapFaults.tail
          replies := repliesAfter b.script.replies answer }
        accesses := b.accesses ++ [.swap byte answer] })
  flush b :=
    let answer := busVerdict b.script.flushFaults ()
    (answer,
      { script := { b.script with flushFaults := b.script.flushFaults.tail }
        accesses := b.accesses ++ [.flush answer] })
  driveRequest voltage b :=
    let answer := pinVerdict b.script.requestFaults ()
    (answer,
      { script := { b.script with requestFaults := b.script.requestFaults.tail }
        accesses := b.accesses ++ [.request voltage answer] })
  readyIsLow b :=
    let answer := pinVerdict b.script.readyFaults b.script.readyLow
    (answer,
      { script := { b.script with readyFaults := b.script.readyFaults.tail }
        accesses := b.accesses ++ [.ready answer] })
  driveReset voltage b :=
    let answer := pinVerdict b.script.resetFaults ()
    (answer,
      { script := { b.script with resetFaults := b.script.resetFaults.tail }
        accesses := b.accesses ++ [.reset voltage answer] })
  delay millis b := { b with accesses := b.accesses ++ [.delay millis] }

end ScriptedBoard

end RadioLink
