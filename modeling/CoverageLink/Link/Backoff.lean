import CoverageLink.Interval

/-!
# How long to wait before the next attempt

An agent that cannot reach its collector tries again.  The first thirty failures are
followed by the base delay; from then on the delay is a multiple of the base that grows
by one with every ten failures, and after a hundred failures it is the cap.  No delay
exceeds the cap, and a product that is no interval counts as the cap.
-/

namespace CoverageLink
namespace Link

/-- The delays between attempts. -/
structure Backoff where
  base : Interval
  cap : Interval
  deriving DecidableEq, Repr

namespace Backoff

/-- Five seconds, at most a minute and a half. -/
def standard : Backoff := ⟨.ofSeconds 5, .ofSeconds 90⟩

instance : Inhabited Backoff := ⟨standard⟩

/-- How many base delays follow after so many failures, below a hundred of them. -/
def factor (failures : Nat) : Nat :=
  if failures < 30 then 1 else 2 + (failures - 30) / 10

/-- The delay after so many failures in a row. -/
def delay (backoff : Backoff) (failures : UInt32) : Interval :=
  let wanted :=
    if failures.toNat < 30 then backoff.base
    else if failures.toNat < 100 then
      (backoff.base.times? (factor failures.toNat)).getD backoff.cap
    else backoff.cap
  wanted.shorter backoff.cap

/-- No delay exceeds the cap. -/
theorem nanos_delay_le (backoff : Backoff) (failures : UInt32) :
    (backoff.delay failures).nanos ≤ backoff.cap.nanos := by
  unfold delay
  rw [Interval.nanos_shorter]
  omega

end Backoff
end Link
end CoverageLink
