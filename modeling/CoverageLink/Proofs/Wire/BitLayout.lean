import CoverageLink.Proofs.Record.DeclaredLength
import CoverageLink.Proofs.Wire.Groups

/-!
# Packed truth values, bit by bit

Truth values are packed and unpacked an octet at a time.  Whoever else reads such a list goes by the
place of each value: value `i` is bit `i % 8` of octet `i / 8`.  That is `bitAt`, and this file says
that both directions agree with it.

## 1.  Bits by their places

The bits of a row of octets, one octet after the other, are its bits by their places
(`getElem_flatMap_bitsOf`).

## 2.  What is unpacked

A list that was read is made of the bits in front and of nothing else (`getElem_unpack`,
`unpack_congr`), so it does not matter what lies behind the last of them.

## 3.  What is read

A list can only be read of octets that begin with a number and go on with as many octets as that
number of bits takes (`exists_of_runOn_bits`).
-/

namespace CoverageLink
namespace Wire

/-! ## 1.  Bits by their places -/

/-- The bit at a place in a row of octets, the lowest bit of the first octet being the first. -/
def bitAt (octets : Bytes) (index : Nat) : Bool :=
  (octets.getD (index / 8) 0).toNat.testBit (index % 8)

theorem getElem_bitsOf (octet : UInt8) {index : Nat} (inside : index < (bitsOf octet).length) :
    (bitsOf octet)[index] = octet.toNat.testBit index := by
  have table : ∀ (i : Fin 256) (j : Fin 8),
      (bitsOf (UInt8.ofNat i.val))[j.val] = (UInt8.ofNat i.val).toNat.testBit j.val := by
    decide +kernel
  have row := table ⟨octet.toNat, octet.toNat_lt⟩ ⟨index, inside⟩
  simpa only [UInt8.ofNat_toNat] using row

theorem bitAt_cons (octet : UInt8) (octets : Bytes) (index : Nat) :
    bitAt (octet :: octets) index =
      if index < 8 then octet.toNat.testBit index else bitAt octets (index - 8) := by
  unfold bitAt
  split
  · rename_i first
    rw [Nat.div_eq_of_lt first, Nat.mod_eq_of_lt first, List.getD_cons_zero]
  · rename_i later
    have next : index / 8 = (index - 8) / 8 + 1 := by omega
    have same : index % 8 = (index - 8) % 8 := by omega
    rw [next, same, List.getD_cons_succ]

/-- **The bits of the octets**, one octet after the other, are the bits by their places. -/
theorem getElem_flatMap_bitsOf {octets : Bytes} {index : Nat}
    (inside : index < (octets.flatMap bitsOf).length) :
    (octets.flatMap bitsOf)[index] = bitAt octets index := by
  induction octets generalizing index with
  | nil => cases inside
  | cons octet octets ih =>
    rw [bitAt_cons]
    simp only [List.flatMap_cons] at inside ⊢
    rw [List.getElem_append]
    split
    · rename_i first
      rw [length_bitsOf] at first
      rw [if_pos first, getElem_bitsOf]
    · rename_i later
      rw [length_bitsOf] at later
      rw [if_neg later, ih]
      rfl

/-- **The bits of what was packed** are the values, and zeros behind them. -/
theorem bitAt_pack (values : List Bool) {index : Nat} (there : index / 8 < (pack values).length) :
    bitAt (pack values) index = values.getD index false := by
  have whole := flatMap_bitsOf_pack values
  have inside : index < ((pack values).flatMap bitsOf).length := by
    rw [length_pack, packedLength] at there
    rw [whole, List.length_append, List.length_replicate, packedLength]
    omega
  rw [← getElem_flatMap_bitsOf inside]
  simp only [whole]
  rw [List.getElem_append, List.getD_eq_getElem?_getD]
  split
  · rename_i value
    rw [List.getElem?_eq_getElem value, Option.getD_some]
  · rename_i behind
    rw [List.getElem_replicate, List.getElem?_eq_none (Nat.le_of_not_lt behind), Option.getD_none]

/-! ## 2.  What is unpacked -/

theorem getElem_unpack {count : Nat} {octets : Bytes} {index : Nat}
    (inside : index < (unpack count octets).length) :
    (unpack count octets)[index] = bitAt octets index := by
  unfold unpack at inside ⊢
  rw [List.getElem_take, getElem_flatMap_bitsOf]

/-- **Only the bits in front count.** -/
theorem unpack_congr {count : Nat} {octets other : Bytes} (length : other.length = octets.length)
    (same : ∀ index, index < count → bitAt other index = bitAt octets index) :
    unpack count other = unpack count octets := by
  refine List.ext_getElem ?_ fun index inside inside' => ?_
  · rw [length_unpack, length_unpack, length]
  · rw [getElem_unpack, getElem_unpack]
    rw [length_unpack] at inside
    exact same index (by omega)

/-! ## 3.  What is read -/

namespace Reading

variable {source rest : Source} {bytes : Bytes} {consumed : Nat}

/-- A number that was read was spelled in five groups at most. -/
theorem exists_of_varInt {value : UInt32} (supply : source.supply = ⟨bytes, consumed, none⟩)
    (read : (varInt.outcome source).1 = .ok value) :
    ∃ groups number behind, bytes = groups ++ behind ∧ Denotes groups number ∧
      groups.length ≤ 5 := by
  have outcome := outcome_varInt supply
  split at outcome
  · rename_i place found
    obtain ⟨begun, last, behind, rfl, rfl, few, goes_on, ends⟩ := exists_of_ending? found
    refine ⟨begun ++ [last], _, behind, by simp, denotes_concat goes_on ends, ?_⟩
    rw [List.length_append]
    exact few
  · split at outcome
    all_goals
      obtain ⟨failure, -, failed⟩ := outcome
      rw [failed] at read
      cases read

/-- **A list that was read** stood at the beginning: a number, and as many octets as that number of
bits takes. -/
theorem exists_of_runOn_bits {values : List Bool}
    (supply : source.supply = ⟨bytes, consumed, none⟩)
    (read : bits.runOn source = (.ok values, rest)) :
    ∃ groups number payload behind, bytes = (groups ++ payload) ++ behind ∧
      Denotes groups number ∧ groups.length ≤ 5 ∧ number % UInt32.size ≤ maxBlob ∧
      payload.length = packedLength (number % UInt32.size) ∧
      values = unpack (number % UInt32.size) payload ∧
      rest.supply = ⟨behind, consumed + (groups ++ payload).length, none⟩ := by
  have accepted {failure : Failure} (refused : (length.runOn source).1 = .error failure) :
      False := by
    have failed : (bits.runOn source).1 = .error failure := runOn_bind_of_error refused _
    rw [read] at failed
    cases failed
  rcases number_read : (varInt.outcome source).1 with failure | value
  · exact (accepted (runOn_bind_of_error number_read _)).elim
  obtain ⟨groups, number, others, rfl, denotes, short⟩ := exists_of_varInt supply number_read
  by_cases great : maxBlob < number % UInt32.size
  · exact (accepted (runOn_length_of_great denotes short great supply)).elim
  have small := Nat.not_lt.1 great
  have unpacked := runOn_bits_of_believed denotes short small supply
  rw [read, declared] at unpacked
  by_cases there : packedLength (number % UInt32.size) ≤ others.length
  · rw [if_pos there] at unpacked
    have length := List.length_take_of_le there
    have split : groups ++ others =
        (groups ++ others.take (packedLength (number % UInt32.size))) ++
          others.drop (packedLength (number % UInt32.size)) := by
      rw [List.append_assoc, List.take_append_drop]
    rw [split] at supply
    have whole := (Reads.bits_of_denotes denotes short small length).whole _ _ _ supply
    rw [outcome, read] at whole
    exact ⟨groups, number, _, _, split, denotes, short, small, length, Except.ok.inj unpacked,
      congrArg Prod.snd whole⟩
  · rw [if_neg there] at unpacked
    cases unpacked

end Reading

/-- **Packed truth values.**  Behind their number a list of values takes an octet for every eight of
them, or part of eight.  Value `i` is bit `i % 8` of octet `i / 8`, and the bits behind the last
value are zero.  A list that was read, from whatever octets, has as many values as the number in
front says, each of them the bit at its place, which is there; and it is read of all octets that
have these bits, whatever the others are. -/
theorem packedBits_law :
    (∀ values : List Bool, values.length ≤ maxBlob →
      let packed := pack values
      (UInt32.ofNat values.length).toNat = values.length ∧
      (∀ sink : Sink, sink.capacity = none →
        (sink.writeField (.bits values)).1 = .ok () ∧
        (sink.writeField (.bits values)).2.bytes =
          sink.bytes ++ (varInt (UInt32.ofNat values.length) ++ packed)) ∧
      packed.length = (values.length + 7) / 8 ∧
      (∀ (index : Nat) (inside : index < values.length),
        index / 8 < packed.length ∧ bitAt packed index = values[index]) ∧
      ∀ index, values.length ≤ index → index / 8 < packed.length → bitAt packed index = false) ∧
    ∀ (source rest : Source) (bytes : Bytes) (consumed : Nat) (values : List Bool),
      source.supply = ⟨bytes, consumed, none⟩ →
      Reading.bits.runOn source = (.ok values, rest) →
        ∃ groups number payload behind, bytes = (groups ++ payload) ++ behind ∧
          Denotes groups number ∧ values.length = number % UInt32.size ∧
          payload.length = (values.length + 7) / 8 ∧
          rest.supply = ⟨behind, consumed + (groups ++ payload).length, none⟩ ∧
          (∀ (index : Nat) (inside : index < values.length),
            index / 8 < payload.length ∧ values[index] = bitAt payload index) ∧
          ∀ (other behind' : Bytes) (source' : Source) (consumed' : Nat),
            other.length = payload.length →
            (∀ index, index < values.length → bitAt other index = bitAt payload index) →
            source'.supply = ⟨(groups ++ other) ++ behind', consumed', none⟩ →
              Reading.bits.outcome source' =
                (.ok values, ⟨behind', consumed' + (groups ++ other).length, none⟩) := by
  constructor
  · intro values fits packed
    have length : packed.length = (values.length + 7) / 8 := length_pack values
    have small : values.length < UInt32.size := Nat.lt_of_le_of_lt fits (by decide)
    refine ⟨UInt32.toNat_ofNat_of_lt' small, fun sink free => ?_, length,
      fun index inside => ?_, fun index behind there => ?_⟩
    · obtain ⟨written, grown⟩ := Sink.writePieces_of_unlimited free
        (Field.numberPieces (UInt32.ofNat values.length) ++ packed.map fun octet => [octet])
      refine ⟨written, grown.bytes.trans (congrArg _ ?_)⟩
      rw [List.flatten_append, Field.flatten_numberPieces, ← List.flatMap_def,
        List.flatMap_singleton']
    · have there : index / 8 < packed.length := by omega
      refine ⟨there, (bitAt_pack values there).trans ?_⟩
      rw [List.getD_eq_getElem?_getD, List.getElem?_eq_getElem inside, Option.getD_some]
    · rw [bitAt_pack values there, List.getD_eq_getElem?_getD, List.getElem?_eq_none behind,
        Option.getD_none]
  · intro source rest bytes consumed values supply read
    obtain ⟨groups, number, payload, behind, split, denotes, short, small, length, rfl, left⟩ :=
      Reading.exists_of_runOn_bits supply read
    have count : (unpack (number % UInt32.size) payload).length = number % UInt32.size := by
      rw [length_unpack, length, packedLength]
      omega
    have octets : payload.length = ((unpack (number % UInt32.size) payload).length + 7) / 8 := by
      rw [count, length, packedLength]
    refine ⟨groups, number, payload, behind, split, denotes, count, octets, left,
      fun index inside => ⟨by omega, getElem_unpack inside⟩, ?_⟩
    intro other behind' source' consumed' length' same supply'
    rw [count] at same
    rw [← unpack_congr length' same]
    exact (Reading.Reads.bits_of_denotes denotes short small (length'.trans length)).whole _ _ _
      supply'

/-- Ten values take two octets, and are read as well if the six bits behind them are set. -/
theorem packedBits_law_of_ten :
    let values := true :: List.replicate 8 false ++ [true]
    (Sink.open_.writeField (.bits values)).2.bytes = [0x0A, 0x01, 0x02] ∧
      Reading.bits.outcome (.ofBytes [0x0A, 0x01, 0xFE]) = (.ok values, ⟨[], 3, none⟩) := by
  intro values
  obtain ⟨-, written, -⟩ := packedBits_law.1 values (by decide)
  have packed : pack values = [0x01, 0x02] := by
    have some_values : values ≠ [] := List.cons_ne_nil _ _
    have more_values : values.drop 8 ≠ [] := by decide
    rw [pack_of_ne_nil some_values, pack_of_ne_nil more_values,
      show (values.drop 8).drop 8 = [] from rfl, pack_nil]
    rfl
  refine ⟨(written .open_ rfl).2.trans (by rw [packed]; rfl), ?_⟩
  have read : (Reading.bits.runOn (.ofBytes [0x0A, 0x01, 0x02])).1 = .ok values := by
    with_unfolding_all rfl
  obtain ⟨groups, number, payload, behind, split, denotes, -, length, -, -, other⟩ :=
    packedBits_law.2 _ _ [0x0A, 0x01, 0x02] 0 values rfl (Prod.ext read rfl)
  -- two of the three octets are the values, so the first of them is their number
  have two : payload.length = 2 := length.trans (by decide)
  have three := congrArg List.length split
  have some_group := denotes.length_pos
  simp only [List.length_append, List.length_cons, List.length_nil] at three
  obtain rfl : behind = [] := List.eq_nil_of_length_eq_zero (by omega)
  rw [List.append_nil] at split
  have cut : [0x0A] ++ [0x01, 0x02] = groups ++ payload := split
  obtain ⟨rfl, rfl⟩ := List.append_inj cut (by rw [List.length_singleton]; omega)
  exact other [0x01, 0xFE] [] (.ofBytes [0x0A, 0x01, 0xFE]) 0 rfl (by decide) rfl

end Wire
end CoverageLink
