/-!
# Lengths of time

An interval is a whole number of nanoseconds whose seconds fit 64 bits.  Settings give
milliseconds, the retry policy multiplies, and a product that is no interval is
`none`, never a wrapped one.
-/

namespace CoverageLink

/-- A length of time in nanoseconds. -/
structure Interval where
  nanos : Nat
  nanos_lt : nanos < UInt64.size * 1000000000
  deriving DecidableEq, Repr

namespace Interval

instance : Inhabited Interval := ⟨⟨0, by decide⟩⟩

/-- No time at all. -/
def zero : Interval := ⟨0, by decide⟩

/-- A number of milliseconds. -/
def ofMillis (millis : UInt64) : Interval :=
  ⟨millis.toNat * 1000000, by have := millis.toNat_lt; simp only [UInt64.size]; omega⟩

/-- A number of seconds. -/
def ofSeconds (seconds : UInt64) : Interval :=
  ⟨seconds.toNat * 1000000000, by have := seconds.toNat_lt; simp only [UInt64.size]; omega⟩

/-- The interval of so many nanoseconds, if there is one. -/
def ofNanos? (nanos : Nat) : Option Interval :=
  if h : nanos < UInt64.size * 1000000000 then some ⟨nanos, h⟩ else none

/-- So many times the interval, if that is an interval. -/
def times? (interval : Interval) (factor : Nat) : Option Interval :=
  ofNanos? (interval.nanos * factor)

/-- The shorter of two intervals. -/
def shorter (a b : Interval) : Interval := if a.nanos ≤ b.nanos then a else b

/-- The whole milliseconds of an interval. -/
def millis (interval : Interval) : Nat := interval.nanos / 1000000

/-- The whole seconds of an interval. -/
def seconds (interval : Interval) : Nat := interval.nanos / 1000000000

/-- The nanoseconds past the last whole second. -/
def fraction (interval : Interval) : Nat := interval.nanos % 1000000000

theorem nanos_shorter (a b : Interval) : (a.shorter b).nanos = min a.nanos b.nanos := by
  unfold shorter
  split <;> omega

theorem nanos_times? {interval product : Interval} {factor : Nat}
    (h : interval.times? factor = some product) : product.nanos = interval.nanos * factor := by
  unfold times? ofNanos? at h
  split at h
  · exact (congrArg nanos (Option.some.inj h)).symm
  · cases h

end Interval
end CoverageLink
