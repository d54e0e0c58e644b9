import CoverageLink.Proofs.Wire.Fields
import CoverageLink.Proofs.Wire.Sink
import Mathlib.Algebra.BigOperators.Fin

/-!
# Numbers of variable length, octet by octet

A number of variable length is a row of groups of seven bits.  This file says which groups are
written of a number, and what becomes of octets that nobody wrote as a number.

## 1.  How many groups

The writer takes groups off until nothing is left, so it writes as few as hold the number
(`length_varIntGroups_le_iff`), and only the last of them lacks the high bit
(`getElem_varIntGroups_lt_iff`).

## 2.  What groups spell

`spelled` is the sum of the groups at their weights.  It is the number that `Denotes` builds up from
the last group on (`denotes_concat`), which ties it to what the reader computes.

## 3.  Any octets at all

The reader looks at one octet after the other, and goes on as long as it finds the high bit
(`exists_outcome_varIntFrom`).  So all that matters is where the first octet without it stands.  If
there is none among the first five the sixth is still taken, and only then the number is refused.
-/

namespace CoverageLink
namespace Wire

open Octet

/-! ## 1.  How many groups -/

/-- **The fewest groups that hold the number** are written of it. -/
theorem length_varIntGroups_le_iff (groups : Nat) {number count : Nat} (some_groups : 0 < count)
    (fits : number < 2 ^ (7 * (groups + 1))) :
    (varIntGroups groups number).length ≤ count ↔ number < 2 ^ (7 * count) := by
  have grows {number : Nat} (few : Nat) (small : number < 2 ^ (7 * few)) {many : Nat}
      (more : few ≤ many) : number < 2 ^ (7 * many) :=
    Nat.lt_of_lt_of_le small (Nat.pow_le_pow_right (by decide) (Nat.mul_le_mul_left 7 more))
  induction groups generalizing number count with
  | zero => exact iff_of_true some_groups (grows 1 fits some_groups)
  | succ groups ih =>
    rw [varIntGroups]
    by_cases last : number < 0x80
    · rw [if_pos last]
      exact iff_of_true some_groups (grows 1 last some_groups)
    · rw [if_neg last, List.length_cons]
      obtain ⟨others, rfl⟩ := Nat.exists_eq_succ_of_ne_zero (Nat.ne_of_gt some_groups)
      have weight (count : Nat) : 2 ^ (7 * (count + 1)) = 2 ^ (7 * count) * 0x80 := by
        rw [Nat.mul_succ, Nat.pow_add]
      rw [Nat.succ_le_succ_iff, Nat.succ_eq_add_one, weight, ← Nat.div_lt_iff_lt_mul (by decide)]
      rcases Nat.eq_zero_or_pos others with rfl | some_others
      · -- a second group is written, and the number does not fit into one
        have written := List.length_pos_iff.2 (varIntGroups_ne_nil groups (number / 0x80))
        exact iff_of_false (Nat.not_le.2 written) (by omega)
      · rw [weight, ← Nat.div_lt_iff_lt_mul (by decide)] at fits
        exact ih some_others fits

/-- **Only the last group lacks the high bit.** -/
theorem getElem_varIntGroups_lt_iff (groups : Nat) {number : Nat}
    (fits : number < 2 ^ (7 * (groups + 1))) {place : Nat}
    (inside : place < (varIntGroups groups number).length) :
    (varIntGroups groups number)[place] < 0x80 ↔
      place + 1 = (varIntGroups groups number).length := by
  have single {number : Nat} (seven : number < 0x80) : UInt8.ofNat number < 0x80 :=
    (ofNat_lt_iff (by omega) _).2 seven
  induction groups generalizing number place with
  | zero =>
    obtain rfl : place = 0 := Nat.lt_one_iff.1 inside
    exact iff_of_true (single fits) rfl
  | succ groups ih =>
    by_cases last : number < 0x80
    · simp only [varIntGroups, if_pos last, List.length_singleton] at inside ⊢
      obtain rfl : place = 0 := Nat.lt_one_iff.1 inside
      exact iff_of_true (single last) rfl
    · simp only [varIntGroups, if_neg last, List.length_cons] at inside ⊢
      rcases place with _ | place
      · have further := List.length_pos_iff.2 (varIntGroups_ne_nil groups (number / 0x80))
        have high : ¬ UInt8.ofNat (0x80 + number % 0x80) < 0x80 := by
          rw [ofNat_lt_iff (by omega)]
          exact Nat.not_lt.2 (Nat.le_add_right _ _)
        exact iff_of_false high (by omega)
      · have less : number / 0x80 < 2 ^ (7 * (groups + 1)) := by
          rw [Nat.mul_succ, Nat.pow_add] at fits
          exact Nat.div_lt_of_lt_mul (by omega)
        rw [List.getElem_cons_succ, Nat.add_right_cancel_iff]
        exact ih less (Nat.lt_of_succ_lt_succ inside)

/-! ## 2.  What groups spell -/

/-- The number that groups spell: the low seven bits of each of them, at its weight. -/
def spelled (groups : Bytes) : Nat :=
  ∑ place : Fin groups.length, groups[place].toNat % 0x80 * 2 ^ (7 * place.val)

theorem spelled_cons (group : UInt8) (others : Bytes) :
    spelled (group :: others) = group.toNat % 0x80 + 0x80 * spelled others := by
  show ∑ place : Fin (others.length + 1),
    (group :: others)[place.val].toNat % 0x80 * 2 ^ (7 * place.val) = _
  rw [Fin.sum_univ_succ, spelled, Finset.mul_sum]
  refine congrArg₂ _ (Nat.mul_one _) (Finset.sum_congr rfl fun place _ => ?_)
  have weight : 2 ^ (7 * (place.val + 1)) = 0x80 * 2 ^ (7 * place.val) := by
    rw [Nat.mul_succ, Nat.pow_add, Nat.mul_comm]
  show others[place.val].toNat % 0x80 * 2 ^ (7 * (place.val + 1)) = _
  rw [weight, Nat.mul_left_comm]
  rfl

/-- **Groups that go on up to a last one** denote the number that they spell. -/
theorem denotes_concat {begun : Bytes} {last : UInt8} (goes_on : ∀ group ∈ begun, 0x80 ≤ group)
    (ends : last < 0x80) : Denotes (begun ++ [last]) (spelled (begun ++ [last])) := by
  induction begun with
  | nil =>
    have seven : last.toNat % 0x80 = last.toNat := Nat.mod_eq_of_lt ends
    rw [List.nil_append, spelled_cons, seven]
    exact .last ends
  | cons group begun ih =>
    obtain ⟨high, others⟩ := List.forall_mem_cons.1 goes_on
    rw [List.cons_append, spelled_cons]
    exact .more high (ih others)

/-! ## 3.  Any octets at all -/

/-- Where the first octet without the high bit stands, if it is one of the first five. -/
def ending? (bytes : Bytes) : Option Nat := (bytes.take 5).findIdx? (· < 0x80)

theorem exists_of_ending? {bytes : Bytes} {place : Nat} (found : ending? bytes = some place) :
    ∃ begun last behind, bytes = begun ++ last :: behind ∧ begun.length = place ∧ place < 5 ∧
      (∀ group ∈ begun, 0x80 ≤ group) ∧ last < 0x80 := by
  obtain ⟨inside, ends, before⟩ := List.findIdx?_eq_some_iff_getElem.1 found
  rw [List.length_take] at inside
  rw [List.getElem_take, decide_eq_true_iff] at ends
  have there : place < bytes.length := by omega
  refine ⟨bytes.take place, bytes[place], bytes.drop (place + 1), ?_, ?_, by omega, ?_, ends⟩
  · rw [← List.drop_eq_getElem_cons there, List.take_append_drop]
  · rw [List.length_take, Nat.min_eq_left (Nat.le_of_lt there)]
  · intro group member
    obtain ⟨other, earlier, rfl⟩ := List.mem_iff_getElem.1 member
    rw [List.length_take] at earlier
    have high := before other (by omega)
    rw [List.getElem_take, decide_eq_true_iff] at high
    rw [List.getElem_take]
    exact UInt8.not_lt.1 high

theorem goes_on_of_ending? {bytes : Bytes} (none : ending? bytes = none) :
    ∀ group ∈ bytes.take 5, 0x80 ≤ group := by
  intro group member
  have high := List.findIdx?_eq_none_iff.1 none group member
  exact UInt8.not_lt.1 (of_decide_eq_false high)

namespace Reading

variable {source : Source} {bytes rest : Bytes} {consumed : Nat}

/-- However many groups may still come, one must. -/
theorem exists_outcome_varIntFrom_nil (left : Nat) (shift value : UInt32)
    (supply : source.supply = ⟨[], consumed, none⟩) :
    ∃ failure : Failure, failure.kind = .unexpectedEof ∧
      (varIntFrom left shift value).outcome source = (.error failure, ⟨[], consumed, none⟩) := by
  obtain ⟨failure, eof, failed⟩ :=
    (Reads.octet 0).cut source [] [0] consumed (List.cons_ne_nil _ _) rfl supply
  obtain ⟨error, rest⟩ := Prod.mk.inj failed
  have ended {β : Type} (next : UInt8 → Reading β) :
      (octet >>= next).outcome source = (.error failure, ⟨[], consumed, none⟩) :=
    (outcome_bind_error (Prod.ext error rfl) next).trans (congrArg (Prod.mk _) rest)
  refine ⟨failure, eof, ?_⟩
  cases left with
  | zero => exact ended _
  | succ left => exact ended _

/-- **What is read of any octets.**  A number ends with the first octet without the high bit.  If
that is none of the first five, a sixth one is refused, and the input ends if there is no sixth. -/
theorem outcome_varInt (supply : source.supply = ⟨bytes, consumed, none⟩) :
    match ending? bytes with
    | some place =>
      varInt.outcome source =
        (.ok (UInt32.ofNat (spelled (bytes.take (place + 1)))),
          ⟨bytes.drop (place + 1), consumed + (place + 1), none⟩)
    | none =>
      if 6 ≤ bytes.length then
        ∃ failure : Failure, failure.kind = .invalidData ∧
          varInt.outcome source = (.error failure, ⟨bytes.drop 6, consumed + 6, none⟩)
      else
        ∃ failure : Failure, failure.kind = .unexpectedEof ∧
          varInt.outcome source = (.error failure, ⟨[], consumed + bytes.length, none⟩) := by
  split
  · rename_i place found
    obtain ⟨begun, last, behind, rfl, rfl, few, goes_on, ends⟩ := exists_of_ending? found
    have whole : begun ++ last :: behind = (begun ++ [last]) ++ behind := by simp
    have short : (begun ++ [last]).length = begun.length + 1 := List.length_append
    rw [whole] at supply ⊢
    rw [← short, List.take_left, List.drop_left]
    exact (Reads.varInt_of_denotes (denotes_concat goes_on ends) (by omega)).whole _ _ _ supply
  · rename_i none
    have goes_on := goes_on_of_ending? none
    rw [← List.take_append_drop 5 bytes] at supply
    obtain ⟨after, shift, value, here, outcome⟩ := exists_outcome_varIntFrom goes_on
      (5 - (bytes.take 5).length) 0 0 supply
    rw [Nat.add_sub_cancel' (List.length_take_le 5 bytes)] at outcome
    split
    · rename_i six
      have five : (bytes.take 5).length = 5 := by
        rw [List.length_take]
        omega
      obtain ⟨sixth, behind, rest⟩ := List.exists_cons_of_length_pos
        (show 0 < (bytes.drop 5).length by rw [List.length_drop]; omega)
      have onward : bytes.drop 6 = behind := by
        rw [show 6 = 5 + 1 from rfl, ← List.drop_drop, rest, List.drop_one, List.tail_cons]
      rw [five, rest] at here
      rw [five, Nat.sub_self] at outcome
      refine ⟨.varIntTooLong, rfl, ?_⟩
      rw [varInt, outcome, outcome_varIntFrom_zero shift value here, onward]
    · have all : bytes.drop 5 = [] := List.drop_of_length_le (by omega)
      have length : (bytes.take 5).length = bytes.length := by
        rw [List.length_take]
        omega
      rw [all, length] at here
      obtain ⟨failure, eof, failed⟩ := exists_outcome_varIntFrom_nil _ shift value here
      exact ⟨failure, eof, outcome.trans failed⟩

end Reading

/-- **Numbers of variable length.**  As few groups are written of a number as hold it, only the last
of them lacks the high bit, and whatever comes behind them they are read as the number.  Of any
octets at most six are taken.  They are read as the number they spell, modulo the 32nd power of two,
if one of the first five lacks the high bit; otherwise they are refused, as invalid if there are six
of them and because the input ends if there are not. -/
theorem varInt_law :
    (∀ value : UInt32,
      let groups := varInt value
      (1 ≤ groups.length ∧ groups.length ≤ 5 ∧ value.toNat < 2 ^ (7 * groups.length) ∧
        ∀ count, 1 ≤ count → value.toNat < 2 ^ (7 * count) → groups.length ≤ count) ∧
      (∀ (place : Nat) (inside : place < groups.length),
        groups[place] < 0x80 ↔ place + 1 = groups.length) ∧
      (∀ sink : Sink, sink.capacity = none →
        (sink.writeField (.number value)).1 = .ok () ∧
        (sink.writeField (.number value)).2.bytes = sink.bytes ++ groups) ∧
      ∀ (source : Source) (behind : Bytes) (consumed : Nat),
        source.supply = ⟨groups ++ behind, consumed, none⟩ →
          Reading.varInt.outcome source =
            (.ok value, ⟨behind, consumed + groups.length, none⟩)) ∧
    ∀ (source : Source) (bytes : Bytes) (consumed : Nat),
      source.supply = ⟨bytes, consumed, none⟩ →
        (∃ taken, taken ≤ 6 ∧
          (Reading.varInt.outcome source).2 = ⟨bytes.drop taken, consumed + taken, none⟩) ∧
        match ending? bytes with
        | some place =>
          Reading.varInt.outcome source =
            (.ok (UInt32.ofNat (spelled (bytes.take (place + 1)))),
              ⟨bytes.drop (place + 1), consumed + (place + 1), none⟩)
        | none =>
          if 6 ≤ bytes.length then
            ∃ failure : Failure, failure.kind = .invalidData ∧
              Reading.varInt.outcome source =
                (.error failure, ⟨bytes.drop 6, consumed + 6, none⟩)
          else
            ∃ failure : Failure, failure.kind = .unexpectedEof ∧
              Reading.varInt.outcome source =
                (.error failure, ⟨[], consumed + bytes.length, none⟩) := by
  constructor
  · intro value groups
    have fits : value.toNat < 2 ^ (7 * (4 + 1)) := Nat.lt_trans value.toNat_lt (by decide)
    have some_group : 0 < groups.length := List.length_pos_iff.2 (varIntGroups_ne_nil 4 _)
    have least {count : Nat} (some_groups : 0 < count) :
        groups.length ≤ count ↔ value.toNat < 2 ^ (7 * count) :=
      length_varIntGroups_le_iff 4 some_groups fits
    refine ⟨⟨some_group, length_varInt_le value, (least some_group).1 (Nat.le_refl _),
      fun count some_groups => (least some_groups).2⟩,
      fun place inside => getElem_varIntGroups_lt_iff 4 fits inside, fun sink free => ?_,
      fun source behind consumed => (Reading.Reads.varInt value).whole source behind consumed⟩
    obtain ⟨written, grown⟩ := Sink.writePieces_of_unlimited free (Field.numberPieces value)
    refine ⟨written, ?_⟩
    rw [Field.flatten_numberPieces] at grown
    exact grown.bytes
  · intro source bytes consumed supply
    have outcome := Reading.outcome_varInt supply
    refine ⟨?_, outcome⟩
    split at outcome
    · rename_i place found
      obtain ⟨begun, last, behind, -, -, few, -⟩ := exists_of_ending? found
      exact ⟨place + 1, by omega, congrArg Prod.snd outcome⟩
    · split at outcome
      · obtain ⟨failure, -, refused⟩ := outcome
        exact ⟨6, Nat.le_refl 6, congrArg Prod.snd refused⟩
      · obtain ⟨failure, -, ended⟩ := outcome
        refine ⟨bytes.length, by omega, ?_⟩
        rw [ended, List.drop_length]

/-- Two octets are written of 300 and read as 300, and six groups that go on are taken and
refused. -/
theorem varInt_law_of_two_octets :
    (varInt 300).length = 2 ∧ (Sink.open_.writeField (.number 300)).2.bytes = [0xAC, 0x02] ∧
      Reading.varInt.outcome (.ofBytes [0xAC, 0x02, 0x07]) = (.ok 300, ⟨[0x07], 2, none⟩) ∧
      ∃ failure : Failure, failure.kind = .invalidData ∧
        Reading.varInt.outcome (.ofBytes (List.replicate 7 0xFF)) =
          (.error failure, ⟨[0xFF], 6, none⟩) := by
  obtain ⟨-, -, written, read⟩ := varInt_law.1 300
  obtain ⟨-, refused⟩ := varInt_law.2 (.ofBytes (List.replicate 7 0xFF)) _ 0 rfl
  exact ⟨rfl, (written .open_ rfl).2, read (.ofBytes [0xAC, 0x02, 0x07]) [0x07] 0 rfl, refused⟩

end Wire
end CoverageLink
