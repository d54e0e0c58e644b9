import CoverageLink.Bytes

/-!
# Points in time

A timestamp is a number of milliseconds since the epoch, in 64 bits without sign.  On
the wire it is a *signed* 64-bit number: what does not fit is clamped on the way out
(`toWire`), and what lies before the epoch is clamped on the way in (`ofWire`).

Sums and conversions from seconds are checked: a result beyond 64 bits is an
`Overflow`, not a small number.  Differences stop at the epoch.
-/

namespace CoverageLink

/-- Milliseconds since the epoch. -/
structure Timestamp where
  msecs : UInt64
  deriving DecidableEq, Repr, Inhabited

/-- An arithmetic result that does not fit its type. -/
inductive Overflow
  | add
  | multiply
  deriving DecidableEq, Repr, Inhabited

/-- The wording of an overflow. -/
def Overflow.message : Overflow → String
  | add => "attempt to add with overflow"
  | multiply => "attempt to multiply with overflow"

namespace Timestamp

/-- The epoch itself. -/
def epoch : Timestamp := ⟨0⟩

/-- The greatest number a signed 64-bit field holds. -/
def wireMax : Nat := 0x7FFFFFFFFFFFFFFF

/-- A number of whole seconds after the epoch. -/
def ofSeconds (seconds : UInt64) : Except Overflow Timestamp :=
  if seconds.toNat * 1000 < UInt64.size then .ok ⟨seconds * 1000⟩ else .error .multiply

/-- The time that a signed field of the wire denotes; nothing lies before the epoch. -/
def ofWire (value : Int64) : Timestamp :=
  if value < 0 then epoch else ⟨value.toUInt64⟩

/-- The signed field that stands for a time; the last times share one. -/
def toWire (time : Timestamp) : Int64 :=
  (UInt64.ofNat (min time.msecs.toNat wireMax)).toInt64

/-- The whole seconds of a time. -/
def seconds (time : Timestamp) : UInt64 := time.msecs / 1000

/-- The milliseconds past the last whole second. -/
def fraction (time : Timestamp) : UInt64 := time.msecs % 1000

/-- The time a number of milliseconds later. -/
def later (time : Timestamp) (span : Timestamp) : Except Overflow Timestamp :=
  if time.msecs.toNat + span.msecs.toNat < UInt64.size then .ok ⟨time.msecs + span.msecs⟩
  else .error .add

/-- The time a number of milliseconds earlier, but not before the epoch. -/
def earlier (time : Timestamp) (span : Timestamp) : Timestamp :=
  if time.msecs ≤ span.msecs then epoch else ⟨time.msecs - span.msecs⟩

/-- The order of two times. -/
def order (a b : Timestamp) : Ordering := compare a.msecs.toNat b.msecs.toNat

/-- A time as a reader of the wire will see it. -/
def clamped (time : Timestamp) : Timestamp := ⟨UInt64.ofNat (min time.msecs.toNat wireMax)⟩

end Timestamp
end CoverageLink
