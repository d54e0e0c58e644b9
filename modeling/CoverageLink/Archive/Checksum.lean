import CoverageLink.Bytes

/-!
# The checksum of an archive member

The cyclic redundancy check with the reflected polynomial of IEEE 802.3, in 32 bits: octet
by octet, the lowest bit first, starting from all ones and inverted at the end.
-/

namespace CoverageLink
namespace Archive

/-- The polynomial, its lowest coefficient in the highest bit. -/
def polynomial : UInt32 := 0xEDB88320

/-- Takes one bit out of a remainder. -/
def shiftBit (remainder : UInt32) : UInt32 :=
  if remainder &&& 1 = 1 then (remainder >>> 1) ^^^ polynomial else remainder >>> 1

/-- Takes an octet into a remainder. -/
def takeOctet (remainder : UInt32) (octet : UInt8) : UInt32 :=
  Nat.repeat shiftBit 8 (remainder ^^^ octet.toUInt32)

/-- The checksum of octets. -/
def checksum (bytes : Bytes) : UInt32 := ~~~(bytes.foldl takeOctet 0xFFFFFFFF)

end Archive
end CoverageLink
