import CoverageLink.Proofs.Wire.VarInt
import CoverageLink.Record.Decode

/-!
# What a declared length protects from

Blobs, lists of truth values and lists of known identifiers begin with their length.  A length that
is too great for any blob must be garbled, and whoever reads it had better give up: what comes
behind it means nothing.

## 1.  Lengths

The length is looked at when it has been read into 32 bits.  So there are two grounds on which it is
refused: it has more than five groups, or what 32 bits hold of it is too great.

## 2.  What comes behind a length

All three readers ask for a length first, and do nothing without one (`runOn_bind_of_error`).  With
one they ask for as many octets as it says, and get them or come up short (`runOn_fully`).

## 3.  The law

A length is refused or it is believed, and a length beyond 32 bits is believed to be what is left of
it modulo the 32nd power of two (`declaredLength_law`).  That can be any number at all: the five groups
of the 32nd power itself pass for an empty blob (`not_refused_of_power`).
-/

namespace CoverageLink

open Wire (Denotes Reading Source maxBlob packedLength unpack)

namespace Wire
namespace Reading

variable {α β : Type} {groups rest : Bytes} {number consumed : Nat} {source : Source}

/-! ## 1.  Lengths -/

/-- What a reader that asks for something else first makes of it. -/
theorem runOn_bind_of_error {reader : Reading α} {failure : Failure}
    (failed : (reader.runOn source).1 = .error failure) (next : α → Reading β) :
    ((reader >>= next).runOn source).1 = .error failure := by
  rw [runOn_bind]
  rcases run : reader.runOn source with ⟨other | value, after⟩ <;> rw [run] at failed
  · cases failed
    rfl
  · cases failed

/-- A length of too many groups is none. -/
theorem runOn_length_of_long (denotes : Denotes groups number) (long : 5 < groups.length)
    (supply : source.supply = ⟨groups ++ rest, consumed, none⟩) :
    (length.runOn source).1 = .error .varIntTooLong := by
  have refused := outcome_varIntFrom_of_long denotes 5 long 0 0 supply
  exact runOn_bind_of_error (congrArg Prod.fst refused) _

/-- A length that is too great after it was read is refused, and the failure says how great it
was. -/
theorem runOn_length_of_great (denotes : Denotes groups number) (short : groups.length ≤ 5)
    (great : maxBlob < number % UInt32.size)
    (supply : source.supply = ⟨groups ++ rest, consumed, none⟩) :
    (length.runOn source).1 = .error (.lengthOverLimit (number % UInt32.size)) := by
  have read := (Reads.varInt_of_denotes denotes short).whole source rest consumed supply
  have held : (UInt32.ofNat number).toNat = number % UInt32.size := UInt32.toNat_ofNat'
  have ok : varInt.runOn source = (.ok (UInt32.ofNat number), (varInt.runOn source).2) :=
    Prod.ext (Prod.mk.inj read).1 rfl
  rw [length, runOn_bind, ok]
  simp only [held]
  rw [if_pos great]
  rfl

/-! ## 2.  What comes behind a length -/

/-- So many octets, if there are that many. -/
def declared (rest : Bytes) (count : Nat) : Except Failure Bytes :=
  if count ≤ rest.length then .ok (rest.take count) else .error (.cutShort rest.length count)

theorem runOn_fully (supply : source.supply = ⟨rest, consumed, none⟩) (count : Nat) :
    ((fully count).runOn source).1 = declared rest count := by
  have outcome := congrArg Prod.fst (outcome_fully count source)
  rw [supply, Supply.takeAll, Supply.take_of_fault_none rfl, Supply.give] at outcome
  rw [show ((fully count).runOn source).1 = _ from outcome, declared]
  simp only [List.length_take]
  by_cases there : count ≤ rest.length
  · rw [if_pos there, if_neg (by omega)]
  · rw [if_neg there, if_pos (by omega), Nat.min_eq_right (by omega)]

/-- A reader that asks for a length first goes on with what is left of it. -/
theorem exists_runOn_bind_length (denotes : Denotes groups number) (short : groups.length ≤ 5)
    (small : number % UInt32.size ≤ maxBlob)
    (supply : source.supply = ⟨groups ++ rest, consumed, none⟩) (next : Nat → Reading α) :
    ∃ after : Source, after.supply = ⟨rest, consumed + groups.length, none⟩ ∧
      (length >>= next).runOn source = (next (number % UInt32.size)).runOn after := by
  have read := (Reads.length_of_denotes denotes short small).whole source rest consumed supply
  obtain ⟨value, left⟩ := Prod.mk.inj read
  have ok : length.runOn source = (.ok (number % UInt32.size), (length.runOn source).2) :=
    Prod.ext value rfl
  refine ⟨_, left, ?_⟩
  rw [runOn_bind, ok]

theorem runOn_blob_of_believed (denotes : Denotes groups number) (short : groups.length ≤ 5)
    (small : number % UInt32.size ≤ maxBlob)
    (supply : source.supply = ⟨groups ++ rest, consumed, none⟩) :
    (blob.runOn source).1 = declared rest (number % UInt32.size) := by
  obtain ⟨after, here, onward⟩ := exists_runOn_bind_length denotes short small supply fully
  rw [blob, onward, runOn_fully here]

theorem runOn_bits_of_believed (denotes : Denotes groups number) (short : groups.length ≤ 5)
    (small : number % UInt32.size ≤ maxBlob)
    (supply : source.supply = ⟨groups ++ rest, consumed, none⟩) :
    (bits.runOn source).1 =
      (declared rest (packedLength (number % UInt32.size))).map (unpack (number % UInt32.size)) := by
  obtain ⟨after, here, onward⟩ := exists_runOn_bind_length denotes short small supply fun count =>
    fully (packedLength count) >>= fun packed => pure (unpack count packed)
  rw [bits, onward, runOn_bind, ← runOn_fully here]
  rcases (fully _).runOn after with ⟨failure | packed, last⟩ <;> rfl

end Reading
end Wire

namespace Record

open Wire.Reading (declared)

variable {groups rest : Bytes} {number consumed : Nat} {source : Source}

/-! ## 3.  The law -/

/-- The known identifiers that octets list. -/
def knownOf (octets : Bytes) : Except Failure KnownIds :=
  match Utf8.decode octets with
  | .ok line => .ok (KnownIds.parse line)
  | .error fault => .error (.badText fault)

theorem runOn_knownIdsBody (source : Source) :
    (knownIdsBody.runOn source).1 = (Reading.blob.runOn source).1.bind knownOf := by
  rw [knownIdsBody, Wire.Reading.runOn_bind]
  rcases Reading.blob.runOn source with ⟨failure | octets, after⟩
  · rfl
  · simp only [Except.bind, knownOf]
    cases Utf8.decode octets <;> rfl

/-- **What becomes of a declared length.**  If it has more than five groups, or if what 32 bits hold
of it is too great for a blob, then all three readers fail, because the data is invalid.  Otherwise
they read on as if it said what 32 bits hold of it. -/
theorem declaredLength_law (denotes : Denotes groups number)
    (supply : source.supply = ⟨groups ++ rest, consumed, none⟩) :
    let held := number % UInt32.size
    (5 < groups.length ∨ maxBlob < held →
      ∃ failure : Failure, failure.kind = .invalidData ∧
        (Reading.blob.runOn source).1 = .error failure ∧
        (Reading.bits.runOn source).1 = .error failure ∧
        (knownIdsBody.runOn source).1 = .error failure) ∧
    (¬ (5 < groups.length ∨ maxBlob < held) →
      (Reading.blob.runOn source).1 = declared rest held ∧
      (Reading.bits.runOn source).1 =
        (declared rest (packedLength held)).map (unpack held) ∧
      (knownIdsBody.runOn source).1 = (declared rest held).bind knownOf) := by
  intro held
  constructor
  · intro garbled
    have refused : ∃ failure : Failure, failure.kind = .invalidData ∧
        (Reading.length.runOn source).1 = .error failure := by
      by_cases long : 5 < groups.length
      · exact ⟨_, rfl, Reading.runOn_length_of_long denotes long supply⟩
      · exact ⟨_, rfl, Reading.runOn_length_of_great denotes (Nat.not_lt.1 long)
          (garbled.resolve_left long) supply⟩
    obtain ⟨failure, invalid, failed⟩ := refused
    have blob : (Reading.blob.runOn source).1 = .error failure :=
      Reading.runOn_bind_of_error failed Reading.fully
    have bits : (Reading.bits.runOn source).1 = .error failure :=
      Reading.runOn_bind_of_error failed _
    refine ⟨failure, invalid, blob, bits, ?_⟩
    rw [runOn_knownIdsBody, blob]
    rfl
  · intro believed
    obtain ⟨short, small⟩ := not_or.1 believed
    rw [Nat.not_lt] at short small
    have blob := Reading.runOn_blob_of_believed denotes short small supply
    refine ⟨blob, Reading.runOn_bits_of_believed denotes short small supply, ?_⟩
    rw [runOn_knownIdsBody, blob]

/-- The greatest number of 32 bits is refused as a length. -/
theorem declaredLength_law_of_greatest :
    let groups : Bytes := [0xFF, 0xFF, 0xFF, 0xFF, 0x0F]
    Denotes groups 0xFFFFFFFF ∧ (Source.ofBytes groups).supply = ⟨groups ++ [], 0, none⟩ ∧
      ∃ failure : Failure, failure.kind = .invalidData ∧
        (Reading.blob.runOn (Source.ofBytes groups)).1 = .error failure := by
  intro groups
  have denotes : Denotes groups 0xFFFFFFFF :=
    .more (by decide) (.more (by decide) (.more (by decide) (.more (by decide)
      (.last (by decide)))))
  have supply : (Source.ofBytes groups).supply = ⟨groups ++ [], 0, none⟩ := rfl
  obtain ⟨refused, -⟩ := declaredLength_law denotes supply
  obtain ⟨failure, invalid, failed, -⟩ := refused (.inr (by decide))
  exact ⟨denotes, supply, failure, invalid, failed⟩

/-- A length that is too great is not always refused: of the 32nd power of two 32 bits hold
nothing, and it passes for the length of what is empty. -/
theorem not_refused_of_power :
    ¬ ∀ (groups rest : Bytes) (number : Nat), Denotes groups number → maxBlob < number →
      ∃ failure : Failure, failure.kind = .invalidData ∧
        (Reading.blob.runOn (Source.ofBytes (groups ++ rest))).1 = .error failure ∧
        (Reading.bits.runOn (Source.ofBytes (groups ++ rest))).1 = .error failure ∧
        (knownIdsBody.runOn (Source.ofBytes (groups ++ rest))).1 = .error failure := by
  intro promise
  let groups : Bytes := [0x80, 0x80, 0x80, 0x80, 0x10]
  have denotes : Denotes groups (2 ^ 32) :=
    .more (by decide) (.more (by decide) (.more (by decide) (.more (by decide)
      (.last (by decide)))))
  have supply : (Source.ofBytes (groups ++ [])).supply = ⟨groups ++ [], 0, none⟩ := rfl
  have empty : (Reading.blob.runOn (Source.ofBytes (groups ++ []))).1 = .ok [] :=
    Reading.runOn_blob_of_believed denotes (by decide) (by decide) supply
  obtain ⟨failure, -, failed, -⟩ := promise groups [] (2 ^ 32) denotes (by decide)
  cases empty.symm.trans failed

end Record
end CoverageLink
