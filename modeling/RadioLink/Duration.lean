/-!
# Durations

A duration is a number of seconds that fits 64 bits, and a number of nanoseconds below one second.
`Duration.ofParts?` carries surplus nanoseconds into the seconds and refuses what no longer fits.
-/

namespace RadioLink

/-- A length of time. -/
structure Duration where
  /-- Whole seconds. -/
  seconds : UInt64
  /-- The nanoseconds beyond the whole seconds. -/
  nanos : UInt32
  /-- A second's worth of nanoseconds is counted as a second. -/
  nanos_lt : nanos < 1000000000
  deriving DecidableEq

namespace Duration

/-- The nanoseconds in a second. -/
def nanosPerSecond : Nat := 1000000000

/-- The nanoseconds in a millisecond. -/
def nanosPerMilli : Nat := 1000000

/-- The duration of some seconds and some nanoseconds, which may be more than a second's worth.
There is none if the seconds outgrow 64 bits. -/
def ofParts? (seconds : UInt64) (nanos : UInt32) : Option Duration :=
  let total := seconds.toNat + nanos.toNat / nanosPerSecond
  if total < UInt64.size then
    some {
      seconds := UInt64.ofNat total
      nanos := nanos % 1000000000
      nanos_lt := UInt32.mod_lt nanos (by decide) }
  else
    none

/-- A duration of less than a second, in milliseconds. -/
def ofMillis (millis : Fin 1000) : Duration where
  seconds := 0
  nanos := UInt32.ofNat (millis.val * nanosPerMilli)
  nanos_lt := by
    have hm := millis.isLt
    rw [UInt32.lt_iff_toNat_lt, UInt32.toNat_ofNat',
      Nat.mod_eq_of_lt (by simp only [nanosPerMilli]; omega)]
    simp only [nanosPerMilli, UInt32.reduceToNat]
    omega

/-- The whole duration in nanoseconds. -/
def toNanos (d : Duration) : Nat :=
  d.seconds.toNat * nanosPerSecond + d.nanos.toNat

/-- The whole milliseconds of a duration; what is left over is dropped. -/
def toMillis (d : Duration) : Nat :=
  d.seconds.toNat * 1000 + d.nanos.toNat / nanosPerMilli

end Duration

end RadioLink
