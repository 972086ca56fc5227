import Mathlib.Algebra.Group.Nat.Defs
import RadioLink.Proofs.Link.Refinement

/-!
# The time that a radio is given to settle

A reset over a board ends with a delay, for which boards can only be asked in whole milliseconds and
for no more than `longestDelay` of them. `Settles` compares that delay with the time that the
configuration asks for. The count is taken without loss of its upper bits, and a time beyond the
longest delay becomes the longest delay; but a part of a millisecond is dropped, so the delay is as
long as was asked for only if there is no such part (`reset_settles`). A time of one nanosecond is
not waited for at all (`reset_unsettled_of_nanosecond`).
-/

namespace RadioLink

namespace Duration

/-- The whole milliseconds of a duration are counted over all of it. -/
theorem toMillis_eq (d : Duration) : d.toMillis = d.toNanos / nanosPerMilli := by
  rw [toMillis, toNanos, nanosPerSecond, nanosPerMilli]
  omega

/-- Every count of milliseconds fits 128 bits. -/
theorem toMillis_lt (d : Duration) : d.toMillis < 2 ^ 128 := by
  have hseconds : d.seconds.toNat < 2 ^ 64 := d.seconds.toNat_lt
  have hnanos : d.nanos.toNat < 2 ^ 32 := d.nanos.toNat_lt
  rw [toMillis, nanosPerMilli]
  omega

end Duration

namespace BoardLink

/-- The milliseconds of the longest delay that a board can be asked for. -/
def longestDelay : Nat :=
  UInt32.size - 1

open Duration (nanosPerMilli)

/-- A delay of some milliseconds, for a radio that needs the time `settle`. -/
structure Settles (settle : Duration) (millis : UInt32) : Prop where
  /-- The time is counted in whole milliseconds before it is narrowed. -/
  counted : settle.toNanos / nanosPerMilli < 2 ^ 128
  /-- The count does not wrap around. -/
  narrowed : millis.toNat = min (settle.toNanos / nanosPerMilli) longestDelay
  /-- A time beyond the longest delay is cut there. -/
  limited : longestDelay * nanosPerMilli < settle.toNanos → millis.toNat = longestDelay
  /-- Up to the longest delay, the radio is given at least its time if that has no part of a
  millisecond. -/
  enough_iff : settle.toNanos ≤ longestDelay * nanosPerMilli →
    (settle.toNanos ≤ millis.toNat * nanosPerMilli ↔ nanosPerMilli ∣ settle.toNanos)
  /-- The time that is missing is less than a millisecond. -/
  close : settle.toNanos ≤ longestDelay * nanosPerMilli →
    settle.toNanos < (millis.toNat + 1) * nanosPerMilli

/-- A delay of the whole milliseconds of a duration, or the longest one, settles for it. -/
theorem settles_of_toNat_eq {settle : Duration} {millis : UInt32}
    (hmillis : millis.toNat = min settle.toMillis longestDelay) : Settles settle millis := by
  have hfits := settle.toMillis_lt
  rw [settle.toMillis_eq] at hmillis hfits
  refine ⟨hfits, hmillis, fun hlong => ?_, fun hshort => ?_, fun hshort => ?_⟩
  · rw [hmillis]
    simp only [nanosPerMilli] at hlong ⊢
    omega
  · have hwhole : millis.toNat = settle.toNanos / nanosPerMilli := by
      rw [hmillis]
      simp only [nanosPerMilli] at hshort ⊢
      omega
    rw [hwhole]
    simp only [nanosPerMilli]
    omega
  · rw [hmillis]
    simp only [nanosPerMilli] at hshort ⊢
    omega

/-- The accesses of a reset that succeeds: a pulse on the reset pin, the release of REQUEST and a
delay. -/
def resetAccesses (millis : UInt32) : List Access :=
  [.reset .high (.ok ()), .reset .low (.ok ()), .reset .high (.ok ()), .request .high (.ok ()),
    .delay millis]

/-- **How long a radio is left alone after a reset.** Over every board and for every configuration,
a reset none of whose accesses fails succeeds; it pulses the reset pin, deasserts REQUEST, and last
of all asks for a delay. The delay is the time of the configuration in whole milliseconds, counted
without wrapping around, and the longest delay where the time is beyond that. So the radio is given
all of its time, up to the longest delay, exactly if its time has no part of a millisecond, and
otherwise misses less than a millisecond of it. -/
theorem reset_settles {β : Type} [Board β] (s : BoardLink (TracedBoard β)) :
    ∃ accesses, (Link.reset s).2.board.accesses = s.board.accesses ++ accesses ∧
      ((∀ access ∈ accesses, access.failed = false) →
        (Link.reset s).1 = .ok () ∧
        ∃ millis, accesses = resetAccesses millis ∧ Settles s.config.resetSettle millis) := by
  have hcall : Call.Leads (.reset (Link.reset s).1) s (Link.reset s).2 := rfl
  obtain ⟨-, accesses, haccessed, hmakes⟩ := hcall.makes
  refine ⟨accesses, haccessed.accesses_eq, fun hsucceed => ?_⟩
  have hanswer := hmakes.answered.2 hsucceed
  generalize (Link.reset s).1 = answer at hmakes hanswer
  cases hmakes with
  | unpulsed | unreleased => cases hanswer
  | settled hmillis => exact ⟨rfl, _, rfl, settles_of_toNat_eq hmillis⟩

/-- A link over a board that does not fail, to a radio that needs some time to settle. -/
def settlingLink (settle : Duration) : BoardLink (TracedBoard ScriptedBoard) where
  board := { board := {} }
  config := { resetSettle := settle }

/-- A reset over a board without faults succeeds, and makes its accesses with the delay behind
them. -/
theorem reset_settlingLink (settle : Duration) :
    (Link.reset (settlingLink settle)).1 = .ok () ∧
    (Link.reset (settlingLink settle)).2.board.accesses = resetAccesses (delayFor settle) :=
  ⟨rfl, rfl⟩

/-- A nanosecond less than a millisecond beyond the longest delay is still cut there. -/
theorem reset_settles_at_limit :
    let s := settlingLink ⟨4294967, 295999999, by decide⟩
    (Link.reset s).2.board.accesses = resetAccesses 4294967295 ∧
    (∀ access ∈ resetAccesses 4294967295, access.failed = false) ∧ (Link.reset s).1 = .ok () ∧
    Settles s.config.resetSettle 4294967295 := by
  intro s
  have hdelay : delayFor s.config.resetSettle = 4294967295 := by decide
  have hrecord : (Link.reset s).2.board.accesses = resetAccesses 4294967295 := by
    rw [← hdelay]
    exact (reset_settlingLink _).2
  have hsucceed : ∀ access ∈ resetAccesses 4294967295, access.failed = false := by
    simp [resetAccesses, Access.failed]
  obtain ⟨accesses, haccesses, hsettles⟩ := reset_settles s
  obtain rfl : resetAccesses 4294967295 = accesses := hrecord.symm.trans haccesses
  obtain ⟨hanswer, millis, hlast, hmillis⟩ := hsettles hsucceed
  obtain rfl : (4294967295 : UInt32) = millis := by simpa [resetAccesses] using hlast
  exact ⟨hrecord, hsucceed, hanswer, hmillis⟩

/-- A radio that needs a nanosecond to settle is given no time at all, although nothing fails and
the longest delay is far away. -/
theorem reset_unsettled_of_nanosecond :
    let s := settlingLink ⟨0, 1, by decide⟩
    (Link.reset s).1 = .ok () ∧ (Link.reset s).2.board.accesses = resetAccesses 0 ∧
    s.config.resetSettle.toNanos ≤ longestDelay * nanosPerMilli ∧
    ¬s.config.resetSettle.toNanos ≤ (0 : UInt32).toNat * nanosPerMilli := by
  intro s
  have hdelay : delayFor s.config.resetSettle = 0 := by decide
  refine ⟨rfl, ?_, by decide, by decide⟩
  rw [← hdelay]
  exact (reset_settlingLink _).2

end BoardLink

end RadioLink
