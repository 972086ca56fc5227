import RadioLink.Link.Basic

/-!
# Links with scheduled faults

`Faulty σ` is a link of state `σ` in which some calls fail. For each primitive there is a schedule:
a list of verdicts, of which every call takes the first. A call that is told to fail does so without
touching the link underneath, and a call whose schedule has run out succeeds as far as the link
does. Schedules for four primitives, of any length, describe every finite pattern of such failures.
-/

namespace RadioLink

/-- Which of the calls to come fail, one list for each primitive. -/
structure Faults where
  /-- The exchanges to come. -/
  exchange : List Bool := []
  /-- The times to come that REQUEST is driven. -/
  request : List Bool := []
  /-- The times to come that READY is sampled. -/
  ready : List Bool := []
  /-- The resets to come. -/
  reset : List Bool := []
  deriving DecidableEq

/-- A link with scheduled faults. -/
structure Faulty (σ : Type) where
  /-- The link underneath. -/
  link : σ
  /-- The failures to come. -/
  faults : Faults := {}

namespace Faulty

variable {σ : Type}

/-- The detail in the error of a call that was told to fail. -/
def detail : String := "scripted"

/-- Lets a primitive run on the link underneath, unless its verdict is that it fails. -/
def unlessStruck {α : Type} (verdicts : List Bool) (error : LinkError)
    (run : σ → Except LinkError α × σ) (link : σ) : Except LinkError α × σ :=
  if verdicts.headD false then (.error error, link) else run link

instance [Link σ] : Link (Faulty σ) where
  exchange byte s :=
    let (answer, link) :=
      unlessStruck s.faults.exchange (.exchange detail) (Link.exchange byte) s.link
    (answer, { link, faults := { s.faults with exchange := s.faults.exchange.tail } })
  setRequest level s :=
    let (answer, link) :=
      unlessStruck s.faults.request (.pin .request detail) (Link.setRequest level) s.link
    (answer, { link, faults := { s.faults with request := s.faults.request.tail } })
  readReady s :=
    let (answer, link) := unlessStruck s.faults.ready (.pin .ready detail) Link.readReady s.link
    (answer, { link, faults := { s.faults with ready := s.faults.ready.tail } })
  reset s :=
    let (answer, link) := unlessStruck s.faults.reset (.pin .reset detail) Link.reset s.link
    (answer, { link, faults := { s.faults with reset := s.faults.reset.tail } })

end Faulty

end RadioLink
