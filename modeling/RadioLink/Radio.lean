import RadioLink.Link.Basic

/-!
# A simulated radio

`Radio` is the far side of a link, kept in memory. It asserts READY while the host requests a
transfer or an event waits to be delivered. The first byte exchanged opens a transaction, in which
the radio clocks out its oldest event, or an empty frame if it has none, and collects what the host
sends. The transaction closes when REQUEST is deasserted: what was collected becomes a command of
the length that its first byte declares, or an empty poll if that is zero.

A test can also force READY to a level and let every exchange fail after some number of good ones.
-/

namespace RadioLink

/-- An event that the radio has to deliver. Its declared length need not be the length of its
payload. -/
structure RadioEvent where
  /-- The status byte. -/
  status : UInt8
  /-- The declared length. -/
  length : UInt8
  /-- The payload. -/
  payload : List UInt8
  deriving DecidableEq

namespace RadioEvent

/-- An event that declares the length of its payload, or the greatest length there is if the payload
is longer. -/
def ofPayload (status : UInt8) (payload : List UInt8) : RadioEvent :=
  { status, length := UInt8.ofNat (min payload.length 255), payload }

/-- The bytes of an event in the order in which they are clocked out. -/
def wire (event : RadioEvent) : List UInt8 :=
  event.status :: event.length :: event.payload

end RadioEvent

/-- A transaction that the radio has open. -/
structure Transaction where
  /-- What the radio clocks out. -/
  outgoing : List UInt8
  /-- What the host has clocked in. -/
  incoming : List UInt8 := []
  deriving DecidableEq

/-- A simulated radio. Its counters and its budget are natural numbers, which do not wrap around;
those of a machine agree with them as long as less has been counted than they hold. -/
structure Radio where
  /-- The events not yet clocked out, oldest first. -/
  events : List RadioEvent := []
  /-- The commands received, oldest first. -/
  commands : List (List UInt8) := []
  /-- The open transaction. -/
  transaction : Option Transaction := none
  /-- The level of the REQUEST line. -/
  request : Bool := false
  /-- The level that READY is forced to, if it is. -/
  forcedReady : Option Bool := none
  /-- The status byte of the empty frame that is sent for want of an event. -/
  idleStatus : UInt8 := 0
  /-- The byte that is clocked out past the end of a frame. -/
  filler : UInt8 := 0
  /-- The number of bytes exchanged. -/
  exchanges : Nat := 0
  /-- The number of transactions closed. -/
  transactions : Nat := 0
  /-- The number of transactions closed in which the host had nothing to send. -/
  emptyPolls : Nat := 0
  /-- The number of resets. -/
  resets : Nat := 0
  /-- Every change of the REQUEST line, oldest first. -/
  requestLog : List Bool := []
  /-- The number of exchanges that still succeed, if they are numbered. -/
  budget : Option Nat := none
  deriving DecidableEq

namespace Radio

instance : Inhabited Radio := ⟨{}⟩

/-- The radio with another event to deliver, after the ones it has. -/
def pushEvent (event : RadioEvent) (radio : Radio) : Radio :=
  { radio with events := radio.events ++ [event] }

/-- The radio with READY forced to a level, or with READY following its own logic again. -/
def forceReady (level : Option Bool) (radio : Radio) : Radio :=
  { radio with forcedReady := level }

/-- The radio whose exchanges fail after some number of good ones, or never. -/
def failAfter (count : Option Nat) (radio : Radio) : Radio :=
  { radio with budget := count }

/-- The level of the READY line. -/
def ready (radio : Radio) : Bool :=
  radio.forcedReady.getD (radio.request || radio.transaction.isSome || !radio.events.isEmpty)

/-- What the radio clocks out in a transaction that opens now. -/
def nextOutgoing (radio : Radio) : List UInt8 :=
  match radio.events with
  | event :: _ => event.wire
  | [] => [radio.idleStatus, 0]

/-- The radio with a transaction open: the one it has, or a new one that takes the oldest event. -/
def opened (radio : Radio) : Transaction × Radio :=
  match radio.transaction with
  | some tx => (tx, radio)
  | none => ({ outgoing := radio.nextOutgoing }, { radio with events := radio.events.tail })

/-- The command in the bytes of a transaction: as many bytes after the first as the first declares,
as far as they were clocked. -/
def commandOf : List UInt8 → List UInt8
  | [] => []
  | declared :: bytes => bytes.take declared.toNat

/-- The radio after a transaction has closed. -/
def close (tx : Transaction) (radio : Radio) : Radio :=
  if tx.incoming.getD 0 0 = 0 then
    { radio with transactions := radio.transactions + 1, emptyPolls := radio.emptyPolls + 1 }
  else
    { radio with
      transactions := radio.transactions + 1
      commands := radio.commands ++ [commandOf tx.incoming] }

/-- Exchanges a byte. The radio takes no byte while REQUEST is deasserted or its budget is spent. -/
def exchange (byte : UInt8) (radio : Radio) : Except LinkError UInt8 × Radio :=
  if radio.request = false then
    (.error (.exchange "byte clocked while REQN deasserted"), radio)
  else if radio.budget = some 0 then
    (.error (.exchange "injected bus fault"), radio)
  else
    let (tx, radio) := radio.opened
    (.ok (tx.outgoing.getD tx.incoming.length radio.filler),
      { radio with
        budget := radio.budget.map (· - 1)
        exchanges := radio.exchanges + 1
        transaction := some { tx with incoming := tx.incoming ++ [byte] } })

/-- The radio with the REQUEST line at a level, and the change logged if it is one. -/
def withRequest (level : Bool) (radio : Radio) : Radio :=
  { radio with
    requestLog := if radio.request = level then radio.requestLog else radio.requestLog ++ [level]
    request := level }

/-- The radio after the host has driven REQUEST. Deasserting it closes the open transaction. -/
def setRequest (level : Bool) (radio : Radio) : Radio :=
  match level, radio.transaction with
  | false, some tx => close tx { radio.withRequest level with transaction := none }
  | _, _ => radio.withRequest level

/-- The radio after a reset: the open transaction is dropped and REQUEST is deasserted. -/
def reset (radio : Radio) : Radio :=
  { radio with
    resets := radio.resets + 1
    transaction := none
    requestLog := if radio.request then radio.requestLog ++ [false] else radio.requestLog
    request := false }

instance : Link Radio where
  exchange := exchange
  setRequest level radio := (.ok (), radio.setRequest level)
  readReady radio := (.ok radio.ready, radio)
  reset radio := (.ok (), radio.reset)

end Radio

/-- What a test tells a simulated radio to do. -/
inductive RadioScript where
  /-- Have another event to deliver. -/
  | pushEvent (event : RadioEvent)
  /-- Force READY to a level, or let it go. -/
  | forceReady (level : Option Bool)
  /-- Fail after some number of exchanges, or never. -/
  | failAfter (count : Option Nat)
  deriving DecidableEq

/-- The radio after it has been told. -/
def RadioScript.apply : RadioScript → Radio → Radio
  | pushEvent event => Radio.pushEvent event
  | forceReady level => Radio.forceReady level
  | failAfter count => Radio.failAfter count

end RadioLink
