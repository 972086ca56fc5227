import RadioLink.Link.Basic

/-!
# The gate of a shared transport

A transport that an edge handler and a polling application share stands behind a gate: a lock and a
latch. The calls that may come at any moment, an edge and a receive, never wait at the lock. They
are let in if it is free and turned away otherwise, and an edge that is turned away stays latched,
so that whoever holds the lock can make up for it before letting go.

`Wired σ` is a link of state `σ` that such calls reach from inside its exchanges. The calls are
scheduled, a list for each exchange to come, which describes every finite run of them.
-/

namespace RadioLink

/-- What a caller finds at the lock. -/
inductive Lock where
  /-- Nobody is inside. -/
  | free
  /-- Somebody is inside. -/
  | held
  /-- Somebody who was inside gave up half-way, and nobody gets in again. -/
  | poisoned
  deriving DecidableEq

/-- The lock of a shared transport and the latch for edges. -/
structure Gate where
  /-- Whether an edge was turned away and not made up for yet. -/
  latched : Bool := false
  /-- The lock. -/
  lock : Lock := .free
  deriving DecidableEq

/-- What becomes of a caller that does not wait. -/
inductive Entry where
  /-- The caller is inside and holds the lock. -/
  | granted
  /-- The caller was turned away. -/
  | busy
  /-- The lock is poisoned. -/
  | poisoned
  deriving DecidableEq

/-- A call on a shared transport that does not wait. -/
inductive Knock where
  /-- The handler of a READY edge. -/
  | readyEdge
  /-- A receive. -/
  | tryReceive
  deriving DecidableEq

namespace Gate

/-- Tries the lock. -/
def tryEnter (g : Gate) : Entry × Gate :=
  match g.lock with
  | .free => (.granted, { g with lock := .held })
  | .held => (.busy, g)
  | .poisoned => (.poisoned, g)

/-- The gate with its latch cleared. -/
def unlatch (g : Gate) : Gate :=
  { g with latched := false }

/-- The gate after whoever was inside has left. -/
def leave (g : Gate) : Gate :=
  { g with lock := .free }

/-- Lets a caller in or turns it away. An edge is latched before the lock is tried, so that a holder
who is about to let go sees it, and the latch is cleared once the edge is inside. -/
def knock : Knock → Gate → Entry × Gate
  | .tryReceive, g => g.tryEnter
  | .readyEdge, g =>
    match tryEnter { g with latched := true } with
    | (.granted, g) => (.granted, g.unlatch)
    | (entry, g) => (entry, g)

/-- Calls that come while a byte is exchanged, in order. Whoever exchanges the byte is inside, so
none of them can do more than knock; one that were let in would leave again at once. -/
def knockAll : List Knock → Gate → List Entry × Gate
  | [], g => ([], g)
  | call :: calls, g =>
    let (entry, g) :=
      match g.knock call with
      | (.granted, g) => (Entry.granted, g.leave)
      | (entry, g) => (entry, g)
    let (entries, g) := knockAll calls g
    (entry :: entries, g)

end Gate

/-- A link whose exchanges are interrupted by calls on the transport that uses it. -/
structure Wired (σ : Type) where
  /-- The link underneath. -/
  link : σ
  /-- The gate of the shared transport. -/
  gate : Gate := {}
  /-- The calls inside each exchange to come. -/
  knocks : List (List Knock) := []
  /-- What became of the calls inside each exchange so far. -/
  entries : List (List Entry) := []

namespace Wired

variable {σ : Type}

instance [Link σ] : Link (Wired σ) where
  exchange byte s :=
    let (entries, gate) := s.gate.knockAll (s.knocks.headD [])
    let (answer, link) := Link.exchange byte s.link
    (answer, { link, gate, knocks := s.knocks.tail, entries := s.entries ++ [entries] })
  setRequest level s :=
    let (answer, link) := Link.setRequest level s.link
    (answer, { s with link })
  readReady s :=
    let (answer, link) := Link.readReady s.link
    (answer, { s with link })
  reset s :=
    let (answer, link) := Link.reset s.link
    (answer, { s with link })

/-- The number of calls still to come. -/
def knocksLeft (s : Wired σ) : Nat :=
  s.knocks.foldr (fun knocks n => knocks.length + n) 0

end Wired

end RadioLink
