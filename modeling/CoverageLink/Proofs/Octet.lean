import CoverageLink.Bytes

/-!
# Octets as numbers

Lead octets, groups of seven bits and fields of a fixed width are all described by the
number an octet holds.  These lemmas carry what the readers ask of an octet --- an order,
an equality, some low bits, the high bit --- over to that number.
-/

namespace CoverageLink
namespace Octet

theorem toNat_ofNat_of_lt {n : Nat} (h : n < 256) : (UInt8.ofNat n).toNat = n := by
  rw [UInt8.toNat_ofNat', Nat.mod_eq_of_lt h]

theorem ofNat_lt_iff {n : Nat} (h : n < 256) (bound : UInt8) :
    UInt8.ofNat n < bound ↔ n < bound.toNat := by
  rw [UInt8.lt_iff_toNat_lt, toNat_ofNat_of_lt h]

theorem ofNat_eq_iff {n : Nat} (h : n < 256) (octet : UInt8) :
    UInt8.ofNat n = octet ↔ n = octet.toNat := by
  rw [← UInt8.toNat_inj, toNat_ofNat_of_lt h]

/-- The low bits of an octet. -/
theorem toNat_and_mask {n : Nat} (h : n < 256) (bits : Nat) (mask : UInt8)
    (low : mask.toNat = 1 <<< bits - 1) :
    (UInt8.ofNat n &&& mask).toNat = n % 1 <<< bits := by
  rw [UInt8.toNat_and, toNat_ofNat_of_lt h, low, Nat.one_shiftLeft,
    Nat.and_two_pow_sub_one_eq_mod]

/-- The high bit of an octet. -/
theorem and_high_eq_zero_iff (octet : UInt8) : octet &&& 0x80 = 0 ↔ octet < 0x80 := by
  have table : ∀ i : Fin 256, UInt8.ofNat i.val &&& 0x80 = 0 ↔ UInt8.ofNat i.val < 0x80 := by
    decide +kernel
  have row := table ⟨octet.toNat, octet.toNat_lt⟩
  rwa [UInt8.ofNat_toNat] at row

theorem and_high_ne_zero_iff (octet : UInt8) : ¬ octet &&& 0x80 = 0 ↔ 0x80 ≤ octet := by
  rw [and_high_eq_zero_iff, UInt8.not_lt]

/-- An octet is a field of width one. -/
theorem ofNat_ofBigEndian_singleton (octet : UInt8) :
    UInt8.ofNat (Bytes.ofBigEndian [octet]) = octet := by
  rw [← List.nil_append [octet], Bytes.ofBigEndian_append_singleton]
  show UInt8.ofNat (0 * 256 + octet.toNat) = octet
  rw [Nat.zero_mul, Nat.zero_add, UInt8.ofNat_toNat]

end Octet
end CoverageLink
