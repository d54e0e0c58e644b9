/-!
# Octet strings

Everything that crosses a link or lands in a file is a list of octets.  The only
structure this file gives them is positional: a number of a fixed width is written
most significant octet first on the wire (`bigEndian`), and least significant first
inside archives (`ofLittleEndian` reads those).

Numbers are handled as natural numbers, so that a law about a field of the format is
a law of arithmetic; the fixed-width types appear only where the format itself wraps.

* `length_bigEndian`: a field of width `k` always occupies `k` octets;
* `ofBigEndian_bigEndian`: reading a field back gives the number modulo the `k`-th power of 256.
-/

namespace CoverageLink

/-- A finite string of octets. -/
abbrev Bytes := List UInt8

namespace Bytes

/-- The `width` low octets of a number, most significant first. -/
def bigEndian : Nat → Nat → Bytes
  | 0, _ => []
  | width + 1, n => bigEndian width (n / 256) ++ [UInt8.ofNat n]

/-- The number whose digits in base 256 are the octets, most significant first. -/
def ofBigEndian (bytes : Bytes) : Nat :=
  bytes.foldl (fun value octet => value * 256 + octet.toNat) 0

/-- The number whose digits in base 256 are the octets, least significant first. -/
def ofLittleEndian (bytes : Bytes) : Nat :=
  bytes.foldr (fun octet value => octet.toNat + 256 * value) 0

@[simp] theorem length_bigEndian (width n : Nat) : (bigEndian width n).length = width := by
  induction width generalizing n with
  | zero => rfl
  | succ width ih => simp [bigEndian, ih]

theorem ofBigEndian_append_singleton (bytes : Bytes) (octet : UInt8) :
    ofBigEndian (bytes ++ [octet]) = ofBigEndian bytes * 256 + octet.toNat := by
  simp [ofBigEndian, List.foldl_append]

/-- A field of `width` octets holds a number up to multiples of a power of 256. -/
theorem ofBigEndian_bigEndian (width n : Nat) :
    ofBigEndian (bigEndian width n) = n % Nat.pow 256 width := by
  induction width generalizing n with
  | zero => simp [bigEndian, ofBigEndian, Nat.mod_one]
  | succ width ih =>
    have step : Nat.pow 256 (width + 1) = 256 * Nat.pow 256 width := Nat.mul_comm _ _
    rw [bigEndian, ofBigEndian_append_singleton, ih, step, Nat.mod_mul, UInt8.toNat_ofNat']
    omega

end Bytes
end CoverageLink
