import CoverageLink.Proofs.Wire.Spelling

/-!
# Numbers of variable length, read back

Any octets up to one without the high bit denote a natural number (`Denotes`), and the writer's
way to spell a number is one of many: it takes the number apart by division and stops as soon as
nothing is left (`denotes_varIntGroups`).

The reader shifts the groups to their places.  `or_place` is what that comes to on natural
numbers: a group put above a value that does not reach it is added to that value, at its weight, and
what does not fit into 32 bits is lost.  So the reader gives the number modulo the 32nd power of two,
however it was spelled, as long as there are not more than five groups.

`Reads.varIntFrom` is the induction, on the groups.  What carries it is that the value so far lies
below the weight of the next group.

The reader goes on as long as it finds the high bit, whatever comes in the end
(`exists_outcome_varIntFrom`).  So a number of more groups is refused when the sixth one has arrived
(`outcome_varIntFrom_of_long`).
-/

namespace CoverageLink
namespace Wire

open Octet

/-- Groups of seven bits that denote a number, the lowest first.  All but the last one have the high
bit. -/
inductive Denotes : Bytes → Nat → Prop
  | last {group : UInt8} (ends : group < 0x80) : Denotes [group] group.toNat
  | more {group : UInt8} {others : Bytes} {number : Nat} (goes_on : 0x80 ≤ group)
      (rest : Denotes others number) :
      Denotes (group :: others) (group.toNat % 0x80 + 0x80 * number)

/-- All groups but the last one go on. -/
theorem Denotes.exists_concat {groups : Bytes} {number : Nat} (denotes : Denotes groups number) :
    ∃ begun last, groups = begun ++ [last] ∧ (∀ group ∈ begun, 0x80 ≤ group) ∧ last < 0x80 := by
  induction denotes with
  | last ends => exact ⟨[], _, rfl, List.forall_mem_nil _, ends⟩
  | @more group others number high _ ih =>
    obtain ⟨begun, last, rfl, goes_on, ends⟩ := ih
    exact ⟨group :: begun, last, rfl, List.forall_mem_cons.2 ⟨high, goes_on⟩, ends⟩

theorem Denotes.length_pos {groups : Bytes} {number : Nat} (denotes : Denotes groups number) :
    0 < groups.length := by
  cases denotes <;> exact Nat.succ_pos _

/-- **A number that was taken apart** is denoted by the parts. -/
theorem denotes_varIntGroups (groups : Nat) {number : Nat}
    (fits : number < Nat.pow 0x80 (groups + 1)) : Denotes (varIntGroups groups number) number := by
  have last {number : Nat} (seven : number < 0x80) : Denotes [UInt8.ofNat number] number := by
    have octet : number < 256 := by omega
    have ends : UInt8.ofNat number < 0x80 := (ofNat_lt_iff octet _).2 seven
    have denotes := Denotes.last ends
    rwa [toNat_ofNat_of_lt octet] at denotes
  induction groups generalizing number with
  | zero => exact last (by omega)
  | succ groups ih =>
    rw [varIntGroups]
    split
    · exact last ‹_›
    · have octet : 0x80 + number % 0x80 < 256 := by omega
      have goes_on : (0x80 : UInt8) ≤ UInt8.ofNat (0x80 + number % 0x80) := by
        rw [UInt8.le_iff_toNat_le, toNat_ofNat_of_lt octet]
        exact Nat.le_add_right _ _
      have less : number / 0x80 < Nat.pow 0x80 (groups + 1) := by
        have wide : number < Nat.pow 0x80 (groups + 1) * 0x80 := fits
        exact Nat.div_lt_of_lt_mul (by omega)
      have denotes := Denotes.more goes_on (ih less)
      rw [toNat_ofNat_of_lt octet] at denotes
      have whole : (0x80 + number % 0x80) % 0x80 + 0x80 * (number / 0x80) = number := by omega
      rwa [whole] at denotes

theorem denotes_varInt (value : UInt32) : Denotes (varInt value) value.toNat :=
  denotes_varIntGroups 4 (Nat.lt_trans value.toNat_lt (by decide))

/-- What is written of a number denotes what 32 bits hold of it. -/
theorem denotes_varInt_ofNat (number : Nat) :
    Denotes (varInt (UInt32.ofNat number)) (number % UInt32.size) := by
  have denotes := denotes_varInt (UInt32.ofNat number)
  rwa [UInt32.toNat_ofNat'] at denotes

/-- **A group is put in its place.**  The value below it does not reach it, so nothing overlaps, and
what would come to lie above 32 bits is lost. -/
theorem or_place {value shift : Nat} (group : UInt8) (place : shift < 32)
    (below : value < 1 <<< shift) :
    UInt32.ofNat value ||| ((group &&& 0x7F).toUInt32 <<< UInt32.ofNat shift) =
      UInt32.ofNat (value + (group.toNat % 0x80) <<< shift) := by
  generalize same : group.toNat % 0x80 = bits
  have low : (group &&& 0x7F).toNat = bits := by
    rw [UInt8.toNat_and, ← same]
    exact Nat.and_two_pow_sub_one_eq_mod group.toNat 7
  rw [Nat.one_shiftLeft] at below
  have width : 2 ^ 32 = 2 ^ shift * 2 ^ (32 - shift) := by
    rw [← Nat.pow_add, Nat.add_sub_cancel' (Nat.le_of_lt place)]
  have small : value < 2 ^ 32 :=
    Nat.lt_of_lt_of_le below (Nat.pow_le_pow_right (by decide) (Nat.le_of_lt place))
  -- what is left of the group lies above the value
  have weighed : ((group &&& 0x7F).toUInt32 <<< UInt32.ofNat shift).toNat =
      2 ^ shift * (bits % 2 ^ (32 - shift)) := by
    have bounded : shift < UInt32.size := Nat.lt_trans place (by decide)
    rw [UInt32.toNat_shiftLeft, UInt8.toNat_toUInt32, low, UInt32.toNat_ofNat_of_lt' bounded,
      Nat.mod_eq_of_lt place, Nat.shiftLeft_eq, Nat.mul_comm, width, Nat.mul_mod_mul_left]
  have added : (value + bits <<< shift) % 2 ^ 32 =
      value + 2 ^ shift * (bits % 2 ^ (32 - shift)) := by
    rw [width, Nat.mod_mul, Nat.shiftLeft_eq, Nat.mul_comm bits, Nat.add_mul_mod_self_left,
      Nat.mod_eq_of_lt below, Nat.add_mul_div_left _ _ (Nat.two_pow_pos shift),
      Nat.div_eq_of_lt below, Nat.zero_add]
  apply UInt32.toNat_inj.1
  rw [UInt32.toNat_or, weighed, UInt32.toNat_ofNat_of_lt' small, UInt32.toNat_ofNat', added,
    Nat.or_comm, ← Nat.two_pow_add_eq_or_of_lt below, Nat.add_comm]

/-- The value with one more group lies below the weight of the one behind that. -/
theorem add_place_lt {value shift : Nat} (group : UInt8) (below : value < 1 <<< shift) :
    value + (group.toNat % 0x80) <<< shift < 1 <<< (shift + 7) := by
  have seven : group.toNat % 0x80 + 1 ≤ 0x80 := Nat.mod_lt _ (by decide)
  have next := Nat.mul_le_mul_right (2 ^ shift) seven
  rw [Nat.one_shiftLeft] at below ⊢
  rw [Nat.add_mul, Nat.one_mul] at next
  rw [Nat.shiftLeft_eq, Nat.pow_add]
  omega

namespace Reading

variable {source : Source} {rest : Bytes} {consumed : Nat}

/-- An octet that is there, and what it leads to. -/
theorem outcome_octet_bind {β : Type} {value : UInt8}
    (h : source.supply = ⟨value :: rest, consumed, none⟩) (next : UInt8 → Reading β) :
    ∃ after : Source, after.supply = ⟨rest, consumed + 1, none⟩ ∧
      (octet >>= next).outcome source = (next value).outcome after := by
  obtain ⟨ok, left⟩ := Prod.mk.inj ((Reads.octet value).whole source rest consumed h)
  exact ⟨_, left, outcome_bind_ok (Prod.ext ok rfl) next⟩

/-- **Groups that go on** leave the reader with as many fewer to come. -/
theorem exists_outcome_varIntFrom {begun : Bytes} (goes_on : ∀ group ∈ begun, 0x80 ≤ group)
    (left : Nat) (shift value : UInt32)
    (supply : source.supply = ⟨begun ++ rest, consumed, none⟩) :
    ∃ (after : Source) (shift' value' : UInt32),
      after.supply = ⟨rest, consumed + begun.length, none⟩ ∧
        (varIntFrom (begun.length + left) shift value).outcome source =
          (varIntFrom left shift' value').outcome after := by
  induction begun generalizing source consumed shift value with
  | nil => exact ⟨source, shift, value, supply, by rw [List.length_nil, Nat.zero_add]⟩
  | cons group begun ih =>
    obtain ⟨high, others⟩ := List.forall_mem_cons.1 goes_on
    obtain ⟨middle, here, outcome⟩ := outcome_octet_bind supply fun group =>
      let value := value ||| ((group &&& 0x7F).toUInt32 <<< shift)
      if group &&& 0x80 = 0 then pure value
      else varIntFrom (begun.length + left) (shift + 7) value
    obtain ⟨after, shift', value', there, further⟩ := ih others (shift + 7) _ here
    refine ⟨after, shift', value', ?_, ?_⟩
    · rw [there, List.length_cons, Nat.add_assoc, Nat.add_comm 1]
    · rw [List.length_cons, Nat.add_right_comm, varIntFrom, outcome]
      simp only
      rw [if_neg ((and_high_ne_zero_iff group).2 high)]
      exact further

/-- When no more groups may come, one is taken and refused. -/
theorem outcome_varIntFrom_zero {group : UInt8} (shift value : UInt32)
    (supply : source.supply = ⟨group :: rest, consumed, none⟩) :
    (varIntFrom 0 shift value).outcome source =
      (.error .varIntTooLong, ⟨rest, consumed + 1, none⟩) := by
  obtain ⟨after, here, outcome⟩ := outcome_octet_bind supply fun _ => throw .varIntTooLong
  rw [varIntFrom, outcome, outcome_throw, here]

/-- **A number of too many groups** is refused as soon as one more has arrived than there may be. -/
theorem outcome_varIntFrom_of_long {groups : Bytes} {number : Nat}
    (denotes : Denotes groups number) (left : Nat) (long : left < groups.length)
    (shift value : UInt32) (supply : source.supply = ⟨groups ++ rest, consumed, none⟩) :
    (varIntFrom left shift value).outcome source =
      (.error .varIntTooLong, ⟨(groups ++ rest).drop (left + 1), consumed + (left + 1), none⟩) := by
  obtain ⟨begun, last, rfl, goes_on, -⟩ := denotes.exists_concat
  have few : (begun.take left).length = left := by
    rw [List.length_append] at long
    exact List.length_take_of_le (Nat.le_of_lt_succ long)
  obtain ⟨group, others, behind⟩ : ∃ group others,
      begun.drop left ++ [last] ++ rest = group :: others := List.exists_cons_of_ne_nil (by simp)
  have whole : begun ++ [last] ++ rest = begun.take left ++ group :: others := by
    rw [← behind, ← List.append_assoc, ← List.append_assoc, List.take_append_drop]
  rw [whole] at supply ⊢
  obtain ⟨after, shift', value', here, outcome⟩ := exists_outcome_varIntFrom
    (fun group member => goes_on group (List.mem_of_mem_take member)) 0 shift value supply
  rw [few, Nat.add_zero] at outcome
  rw [few] at here
  rw [outcome, outcome_varIntFrom_zero shift' value' here, ← List.drop_drop, List.drop_left' few]
  rfl

namespace Reads

/-- The groups of a number, read on top of the value of those before them. -/
theorem varIntFrom {groups : Bytes} {number : Nat} (denotes : Denotes groups number)
    {left shift value : Nat} (place : shift + 7 * left = 28) (short : groups.length ≤ left + 1)
    (below : value < 1 <<< shift) :
    (Reading.varIntFrom (left + 1) (UInt32.ofNat shift) (UInt32.ofNat value)).Reads groups
      (UInt32.ofNat (value + number <<< shift)) := by
  induction denotes generalizing left shift value with
  | @last group ends =>
    have seven : group.toNat % 0x80 = group.toNat := Nat.mod_eq_of_lt ends
    refine octet_bind _ ?_
    simp only
    rw [if_pos ((and_high_eq_zero_iff group).2 ends), or_place group (by omega) below, seven]
    exact pure _
  | @more group others number goes_on further ih =>
    have others_follow := further.length_pos
    rw [List.length_cons] at short
    obtain ⟨left, rfl⟩ := Nat.exists_eq_succ_of_ne_zero (show left ≠ 0 by omega)
    refine octet_bind _ ?_
    simp only
    rw [if_neg ((and_high_ne_zero_iff group).2 goes_on), or_place group (by omega) below]
    have rest := ih (show shift + 7 + 7 * left = 28 by omega) (Nat.le_of_succ_le_succ short)
      (add_place_lt group below)
    have parts : value + (group.toNat % 0x80) <<< shift + number <<< (shift + 7) =
        value + (group.toNat % 0x80 + 0x80 * number) <<< shift := by
      have weight : number * 2 ^ (shift + 7) = 0x80 * number * 2 ^ shift := by
        rw [Nat.pow_add, Nat.mul_comm (2 ^ shift), ← Nat.mul_assoc, Nat.mul_comm number]
      rw [Nat.shiftLeft_eq, Nat.shiftLeft_eq, Nat.shiftLeft_eq, weight, Nat.add_mul, Nat.add_assoc]
    rwa [parts, UInt32.ofNat_add] at rest

/-- **A number, however it is spelled**, if it is spelled in five groups at most. -/
theorem varInt_of_denotes {groups : Bytes} {number : Nat} (denotes : Denotes groups number)
    (short : groups.length ≤ 5) : Reading.varInt.Reads groups (UInt32.ofNat number) := by
  have read := varIntFrom denotes (show 0 + 7 * 4 = 28 from rfl) short
    (show 0 < 1 <<< 0 by decide)
  rwa [Nat.zero_add, Nat.shiftLeft_zero] at read

theorem varInt (value : UInt32) : Reading.varInt.Reads (Wire.varInt value) value := by
  have read := varInt_of_denotes (denotes_varInt value) (length_varInt_le value)
  rwa [UInt32.ofNat_toNat] at read

/-- A length that no reader refuses, however it is spelled. -/
theorem length_of_denotes {groups : Bytes} {number : Nat} (denotes : Denotes groups number)
    (short : groups.length ≤ 5) (h : number % UInt32.size ≤ maxBlob) :
    Reading.length.Reads groups (number % UInt32.size) := by
  have accepted : ¬ maxBlob < (UInt32.ofNat number).toNat := by
    rw [UInt32.toNat_ofNat']
    exact Nat.not_lt.2 h
  have read : Reading.length.Reads (groups ++ []) (UInt32.ofNat number).toNat :=
    bind (varInt_of_denotes denotes short) (check accepted (pure _))
  rwa [List.append_nil, UInt32.toNat_ofNat'] at read

/-- A length that was written, of which no reader refuses what 32 bits hold. -/
theorem length_of_held {count : Nat} (h : count % UInt32.size ≤ maxBlob) :
    Reading.length.Reads (Wire.varInt (UInt32.ofNat count)) (count % UInt32.size) := by
  have held : count % UInt32.size % UInt32.size = count % UInt32.size := Nat.mod_mod _ _
  have read := length_of_denotes (denotes_varInt_ofNat count) (length_varInt_le _) (by rwa [held])
  rwa [held] at read

/-- A length that no reader refuses. -/
theorem length {count : Nat} (h : count ≤ maxBlob) :
    Reading.length.Reads (Wire.varInt (UInt32.ofNat count)) count := by
  have same : count % UInt32.size = count :=
    Nat.mod_eq_of_lt (Nat.lt_of_le_of_lt h (by decide))
  have held : count % UInt32.size ≤ maxBlob := by rwa [same]
  have read := length_of_held held
  rwa [same] at read

end Reads
end Reading
end Wire
end CoverageLink
