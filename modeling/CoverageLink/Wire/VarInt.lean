import CoverageLink.Wire.Source

/-!
# Numbers of variable length

A 32-bit number is written seven bits at a time, the lowest group first; every octet but
the last has its high bit set.  Small numbers, which lengths nearly always are, take one
octet, and no number takes more than five.

The reader is more liberal than the writer: it accepts groups of zeros at the end, and
it drops the bits of the fifth group that do not fit 32 bits.  It gives up when a sixth
octet has arrived --- after taking it.
-/

namespace CoverageLink
namespace Wire

/-- The groups of a number that needs at most `groups + 1` of them. -/
def varIntGroups : (groups : Nat) → Nat → Bytes
  | 0, value => [UInt8.ofNat value]
  | groups + 1, value =>
    if value < 0x80 then [UInt8.ofNat value]
    else UInt8.ofNat (0x80 + value % 0x80) :: varIntGroups groups (value / 0x80)

/-- The octets of a 32-bit number. -/
def varInt (value : UInt32) : Bytes := varIntGroups 4 value.toNat

namespace Reading

/-- Reads the groups of a number, of which `groups` may still come, on top of the value
of the groups before them, which `shift` bits hold. -/
def varIntFrom : (groups : Nat) → (shift value : UInt32) → Reading UInt32
  | 0, _, _ => do
    let _ ← octet
    throw .varIntTooLong
  | groups + 1, shift, value => do
    let group ← octet
    let value := value ||| ((group &&& 0x7F).toUInt32 <<< shift)
    if group &&& 0x80 = 0 then return value
    varIntFrom groups (shift + 7) value

/-- A number of variable length. -/
def varInt : Reading UInt32 := varIntFrom 5 0 0

end Reading

theorem varIntGroups_ne_nil (groups value : Nat) : varIntGroups groups value ≠ [] := by
  cases groups with
  | zero => simp [varIntGroups]
  | succ groups => unfold varIntGroups; split <;> simp

theorem length_varIntGroups_le (groups value : Nat) :
    (varIntGroups groups value).length ≤ groups + 1 := by
  induction groups generalizing value with
  | zero => simp [varIntGroups]
  | succ groups ih =>
    unfold varIntGroups
    split
    · simp
    · simpa using ih (value / 0x80)

/-- No number takes more than five octets. -/
theorem length_varInt_le (value : UInt32) : (varInt value).length ≤ 5 :=
  length_varIntGroups_le 4 value.toNat

end Wire
end CoverageLink
