import CoverageLink.Wire.PackedBits

/-!
# Packed truth values, unpacked

Packing and unpacking go eight values at a time, so both laws are inductions along
`pack_of_ne_nil`: one octet, then the rest.  An octet gives its values back, with zeros
behind them if they were fewer than eight (`bitsOf_octetOf`), and those zeros are what the
count cuts off.
-/

namespace CoverageLink
namespace Wire

/-! ## One octet -/

/-- Eight values are the eight bits of their octet. -/
theorem bitsOf_octetOf_eight (a b c d e f g h : Bool) :
    bitsOf (octetOf [a, b, c, d, e, f, g, h]) = [a, b, c, d, e, f, g, h] := by
  revert a b c d e f g h
  decide +kernel

/-- Zeros behind the values do not show in the octet. -/
theorem octetOf_append_replicate (bits : List Bool) (count : Nat) :
    octetOf (bits ++ List.replicate count false) = octetOf bits := by
  induction bits with
  | nil =>
    rw [List.nil_append]
    induction count with
    | zero => rfl
    | succ count ih =>
      rw [List.replicate_succ]
      show 0 + 2 * octetOf (List.replicate count false) = 0
      rw [ih]
      rfl
  | cons bit bits ih => rw [List.cons_append, octetOf, ih, octetOf]

/-- **An octet gives its values back**, with zeros behind them. -/
theorem bitsOf_octetOf {bits : List Bool} (h : bits.length ≤ 8) :
    bitsOf (octetOf bits) = bits ++ List.replicate (8 - bits.length) false := by
  have eight : (bits ++ List.replicate (8 - bits.length) false).length = 8 := by
    rw [List.length_append, List.length_replicate]
    omega
  rw [← octetOf_append_replicate bits (8 - bits.length)]
  generalize bits ++ List.replicate (8 - bits.length) false = padded at eight ⊢
  match padded with
  | [a, b, c, d, e, f, g, h] => exact bitsOf_octetOf_eight a b c d e f g h

/-! ## A list of values -/

theorem packOnto_eq (packed : Bytes) (bits : List Bool) :
    packOnto packed bits = packed.reverse ++ pack bits := by
  induction h : bits.length using Nat.strongRecOn generalizing packed bits with
  | ind length ih =>
    match bits with
    | [] => rw [packOnto, pack_nil, List.append_nil]
    | bit :: rest =>
      have shorter : (rest.drop 7).length < length := by
        rw [List.length_drop, ← h, List.length_cons]
        omega
      have step (packed : Bytes) :
          packOnto packed (bit :: rest) =
            packed.reverse ++ octetOf ((bit :: rest).take 8) :: pack (rest.drop 7) := by
        rw [packOnto, ih _ shorter _ _ rfl, List.reverse_cons, List.append_assoc]
        rfl
      rw [pack, step packed, step []]
      rfl

/-- The first eight values, or as many as there are, are one octet. -/
theorem pack_of_ne_nil {bits : List Bool} (h : bits ≠ []) :
    pack bits = octetOf (bits.take 8) :: pack (bits.drop 8) := by
  obtain ⟨bit, rest, rfl⟩ := List.exists_cons_of_ne_nil h
  rw [pack, packOnto, packOnto_eq]
  rfl

theorem length_pack (bits : List Bool) : (pack bits).length = packedLength bits.length := by
  induction h : bits.length using Nat.strongRecOn generalizing bits with
  | ind length ih =>
    by_cases empty : bits = []
    · rw [← h, empty, pack_nil]
      rfl
    · have positive := List.length_pos_iff.mpr empty
      have dropped : (bits.drop 8).length = length - 8 := by rw [List.length_drop, h]
      rw [pack_of_ne_nil empty, List.length_cons, ih _ (by omega) _ dropped, packedLength,
        packedLength]
      omega

/-- **The bits of the packed octets** are the values, and zeros up to the last octet's end. -/
theorem flatMap_bitsOf_pack (bits : List Bool) :
    (pack bits).flatMap bitsOf =
      bits ++ List.replicate (8 * packedLength bits.length - bits.length) false := by
  induction h : bits.length using Nat.strongRecOn generalizing bits with
  | ind length ih =>
    by_cases empty : bits = []
    · rw [← h, empty, pack_nil]
      rfl
    · have positive := List.length_pos_iff.mpr empty
      rw [pack_of_ne_nil empty, List.flatMap_cons]
      rcases Nat.lt_or_ge 8 length with more | last
      · have dropped : (bits.drop 8).length = length - 8 := by rw [List.length_drop, h]
        have taken : (bits.take 8).length = 8 := by
          rw [List.length_take]
          omega
        have padding : 8 * packedLength (length - 8) - (length - 8) =
            8 * packedLength length - length := by
          rw [packedLength, packedLength]
          omega
        rw [bitsOf_octetOf (Nat.le_of_eq taken), taken, Nat.sub_self, List.replicate_zero,
          List.append_nil, ih _ (by omega) _ dropped, padding, ← List.append_assoc,
          List.take_append_drop]
      · have taken : bits.take 8 = bits := List.take_of_length_le (by omega)
        have dropped : bits.drop 8 = [] := List.drop_of_length_le (by omega)
        have padding : 8 - bits.length = 8 * packedLength length - length := by
          rw [packedLength]
          omega
        rw [taken, dropped, pack_nil, List.flatMap_nil, List.append_nil,
          bitsOf_octetOf (by omega), padding]

theorem flatMap_bitsOf_take (packed : Bytes) (count : Nat) :
    (packed.take count).flatMap bitsOf = (packed.flatMap bitsOf).take (8 * count) := by
  induction packed generalizing count with
  | nil => rw [List.take_nil, List.flatMap_nil, List.take_nil]
  | cons octet rest ih =>
    rcases count with _ | count
    · rfl
    · have eight : 8 * (count + 1) = (bitsOf octet).length + 8 * count := by
        rw [length_bitsOf]
        omega
      rw [List.take_succ_cons, List.flatMap_cons, List.flatMap_cons, ih, eight,
        List.take_length_add_append]

/-- **The first of the packed octets** hold the first of the values. -/
theorem unpack_take_pack {count : Nat} {bits : List Bool} (h : count ≤ bits.length) :
    unpack count ((pack bits).take (packedLength count)) = bits.take count := by
  have enough : min count (8 * packedLength count) = count := by
    rw [packedLength]
    omega
  rw [unpack, flatMap_bitsOf_take, List.take_take, enough, flatMap_bitsOf_pack,
    List.take_append_of_le_length h]

/-- **Unpacking undoes packing.** -/
theorem unpack_pack (bits : List Bool) : unpack bits.length (pack bits) = bits := by
  rw [unpack, flatMap_bitsOf_pack, List.take_left]

end Wire
end CoverageLink
