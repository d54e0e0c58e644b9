import CoverageLink.Wire.VarInt

/-!
# Packed truth values

A list of truth values is written eight to an octet, the first in the lowest bit; the
bits past the last value are zero.  Packing and unpacking are defined through one octet
at a time, so the layout can be read off `octetOf` and `bitsOf`.
-/

namespace CoverageLink
namespace Wire

/-- The octet whose bit `i` is the `i`-th of at most eight values. -/
def octetOf : List Bool → UInt8
  | [] => 0
  | bit :: rest => (if bit then 1 else 0) + 2 * octetOf rest

/-- The eight bits of an octet, the lowest first. -/
def bitsOf (octet : UInt8) : List Bool :=
  [octet &&& 1 != 0, octet &&& 2 != 0, octet &&& 4 != 0, octet &&& 8 != 0,
    octet &&& 16 != 0, octet &&& 32 != 0, octet &&& 64 != 0, octet &&& 128 != 0]

/-- The octets of a list of values, given the octets before them, the last first. -/
def packOnto (packed : Bytes) (bits : List Bool) : Bytes :=
  match bits with
  | [] => packed.reverse
  | bit :: rest => packOnto (octetOf ((bit :: rest).take 8) :: packed) (rest.drop 7)
termination_by bits.length
decreasing_by simp only [List.length_drop, List.length_cons]; omega

/-- The octets of a list of values. -/
def pack (bits : List Bool) : Bytes := packOnto [] bits

/-- The first `count` values that octets hold. -/
def unpack (count : Nat) (packed : Bytes) : List Bool := (packed.flatMap bitsOf).take count

/-- How many octets a list of values takes. -/
def packedLength (count : Nat) : Nat := (count + 7) / 8

@[simp] theorem pack_nil : pack [] = [] := by simp [pack, packOnto]

@[simp] theorem length_bitsOf (octet : UInt8) : (bitsOf octet).length = 8 := rfl

theorem length_unpack (count : Nat) (packed : Bytes) :
    (unpack count packed).length = min count (8 * packed.length) := by
  have all : (packed.flatMap bitsOf).length = 8 * packed.length := by
    induction packed with
    | nil => rfl
    | cons octet rest ih =>
      rw [List.flatMap_cons, List.length_append, ih, length_bitsOf, List.length_cons]
      omega
  rw [unpack, List.length_take, all]

end Wire
end CoverageLink
