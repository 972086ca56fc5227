import RadioLink.Proofs.Host.Basic

/-!
# Hosts whose REQUEST line does not fail

When no call fails to drive REQUEST, every operation that has to bring the line to a level succeeds
in it, and the ways in which a host can go become few: each ends at rest with the level that its
queues ask for (`Host.synced`), and a transfer leaves the line released.
-/

namespace RadioLink

variable {max depth : Nat}

namespace Host

/-- The host at rest, with REQUEST at the level that its queues ask for. -/
def synced (t : Host max depth) : Host max depth :=
  { t with requestAsserted := t.wantsRequest, phase := .atRest t.wantsRequest }

variable {level : Bool} {t t' : Host max depth} {calls : List Call}
  {answer : Except TransportError Unit}

/-- REQUEST that does not fail is brought to the level. -/
theorem Drives.steady (h : Drives level t calls answer t') (hcalls : RequestsSucceed calls) :
    answer = .ok () ∧ t' = { t with requestAsserted := level } := by
  cases h with
  | held hlevel =>
    subst hlevel
    exact ⟨rfl, rfl⟩
  | moved => exact ⟨rfl, rfl⟩
  | failed e => cases requestsSucceed_request.1 hcalls

/-- Where REQUEST can be driven, holding it at a level succeeds and rests there. -/
theorem Holds.steady (h : Holds level t calls answer t') (hcalls : RequestsSucceed calls) :
    answer = .ok () ∧ t' = { t with requestAsserted := level, phase := .atRest level } := by
  cases h with
  | rested hdrives =>
    obtain ⟨-, rfl⟩ := hdrives.steady hcalls
    exact ⟨rfl, rfl⟩
  | failed hdrives => cases (hdrives.steady hcalls).1

/-- So does bringing it to the level that the queues ask for. -/
theorem Syncs.steady (h : t.Syncs calls answer t') (hcalls : RequestsSucceed calls) :
    answer = .ok () ∧ t' = t.synced :=
  Holds.steady h hcalls

end Host

end RadioLink
