import CoverageLink.Proofs.Record.DeclaredLength
import CoverageLink.Proofs.Record.RoundTrip

/-!
# Records that are written and not read

The writer of a record and its reader agree on how long a text may be and how long a blob may be.
They do not agree on lists of truth values: the writer puts out as many as there are, and the reader
takes a length beyond that of a blob for a garbled one.  So some execution data can be written and
never read again.

## 1.  Octets that are refused

`Reading.Rejects` says that a reader fails on octets whatever comes behind them.  It passes through
sequencing like `Reading.Reads` does, so a record is refused as soon as one of its fields is.

## 2.  Lists of truth values that are too long

What a list begins with is its length, of which the wire keeps 32 bits.  If these say that the list
is longer than a blob, then it is refused (`Rejects.bits`).  If they do not, although it is longer,
then it is mistaken for a shorter list, and some of its octets are left
(`Reads.bits_of_held`, `exists_left_of_long`).

## 3.  The law

What was written of a record is read, and read to its end, if and only if the record is `Readable`
(`read_back_iff`).  Only execution data, and headers of other versions, can fail to be.
-/

namespace CoverageLink

open Wire (Emission Field Reading Source maxBlob packedLength)

namespace Wire
namespace Reading

variable {α β : Type}

/-! ## 1.  Octets that are refused -/

/-- The reader fails on the octets, whatever is behind them. -/
def Rejects (reader : Reading α) (bytes : Bytes) (failure : Failure) : Prop :=
  ∀ (source : Source) (rest : Bytes) (consumed : Nat),
    source.supply = ⟨bytes ++ rest, consumed, none⟩ → (reader.runOn source).1 = .error failure

theorem Rejects.throw (failure : Failure) :
    (MonadExcept.throw failure : Reading α).Rejects [] failure :=
  fun _ _ _ _ => rfl

/-- What is refused is refused with anything behind it. -/
theorem Rejects.bind {reader : Reading α} {first : Bytes} {failure : Failure}
    (h : reader.Rejects first failure) (next : α → Reading β) (second : Bytes) :
    (reader >>= next).Rejects (first ++ second) failure := by
  intro source rest consumed supply
  rw [List.append_assoc] at supply
  exact runOn_bind_of_error (h source (second ++ rest) consumed supply) next

/-- What is refused is refused behind what is read. -/
theorem Reads.bind_rejects {reader : Reading α} {next : α → Reading β} {first second : Bytes}
    {value : α} {failure : Failure} (h : reader.Reads first value)
    (h' : (next value).Rejects second failure) :
    (reader >>= next).Rejects (first ++ second) failure := by
  intro source rest consumed supply
  rw [List.append_assoc] at supply
  obtain ⟨ok, left⟩ := Prod.mk.inj (h.whole source (second ++ rest) consumed supply)
  have read : reader.runOn source = (.ok value, (reader.runOn source).2) := Prod.ext ok rfl
  rw [runOn_bind, read]
  exact h' _ rest _ left

/-! ## 2.  Lists of truth values that are too long -/

variable {values : List Bool}

theorem Rejects.bits (great : maxBlob < values.length % UInt32.size) :
    Reading.bits.Rejects (Wire.varInt (UInt32.ofNat values.length) ++ pack values)
      (.lengthOverLimit (values.length % UInt32.size)) := by
  have length : Reading.length.Rejects (Wire.varInt (UInt32.ofNat values.length))
      (.lengthOverLimit (values.length % UInt32.size)) := by
    intro source rest consumed supply
    have held : values.length % UInt32.size % UInt32.size = values.length % UInt32.size :=
      Nat.mod_mod _ _
    have refused := runOn_length_of_great (denotes_varInt_ofNat values.length)
      (length_varInt_le _) (by rwa [held]) supply
    rwa [held] at refused
  exact length.bind _ (pack values)

/-- Of a list that is mistaken for a shorter one something is left. -/
theorem exists_left_of_long (long : maxBlob < values.length)
    (held : values.length % UInt32.size ≤ maxBlob) :
    (pack values).drop (packedLength (values.length % UInt32.size)) ≠ [] := by
  have powers : UInt32.size = 16 * maxBlob := rfl
  have round : values.length % UInt32.size + UInt32.size * (values.length / UInt32.size) =
      values.length := Nat.mod_add_div _ _
  have once : 1 ≤ values.length / UInt32.size := by
    rcases Nat.eq_zero_or_pos (values.length / UInt32.size) with none | some
    · rw [none, Nat.mul_zero, Nat.add_zero] at round
      omega
    · exact some
  have more : UInt32.size ≤ UInt32.size * (values.length / UInt32.size) :=
    Nat.le_mul_of_pos_right _ once
  have size : maxBlob = 0x10000000 := rfl
  rw [ne_eq, List.drop_eq_nil_iff, length_pack, packedLength, packedLength]
  omega

end Reading
end Wire

namespace Record

/-! ## 3.  The law -/

/-- What execution data begins with, and the truth values that it ends with. -/
theorem exists_encode_executionData {data : ExecutionData} {bytes : Bytes}
    (encoded : (executionData data).encode = .ok bytes) :
    ∃ id name, Reading.long.Reads id data.id ∧ Reading.text.Reads name data.name ∧
      bytes = Tag.executionData :: (id ++ (name ++
        (Wire.varInt (UInt32.ofNat data.probes.length) ++ Wire.pack data.probes))) := by
  obtain ⟨payload, rfl, written⟩ := exists_payload_of_encode encoded
  obtain ⟨id, behindId, first, written₁, rfl⟩ := Emission.complete_ofFields_cons.1 written
  obtain ⟨name, behindName, second, written₂, rfl⟩ := Emission.complete_ofFields_cons.1 written₁
  obtain ⟨probes, behindProbes, third, written₃, rfl⟩ := Emission.complete_ofFields_cons.1 written₂
  have ended : behindProbes = [] := by
    cases written₃
    rfl
  rw [Field.encode_bits] at third
  cases third
  refine ⟨id, name, Field.readBy_long data.id id first, Field.readBy_text data.name name second, ?_⟩
  rw [ended, List.append_nil]
  rfl

/-- **Too many probes.**  Either the record is refused, or its beginning passes for a record with
fewer probes, and some octets of it are left. -/
theorem unread_of_probes {data : ExecutionData} {bytes : Bytes}
    (encoded : (executionData data).encode = .ok bytes) (many : maxBlob < data.probes.length) :
    let held := data.probes.length % UInt32.size
    ∃ payload, bytes = Tag.executionData :: payload ∧
      (maxBlob < held → executionDataBody.Rejects payload (.lengthOverLimit held)) ∧
      (held ≤ maxBlob → ∃ part left, payload = part ++ left ∧ left ≠ [] ∧
        executionDataBody.Reads part
          (executionData { data with probes := data.probes.take held })) := by
  intro held
  obtain ⟨id, name, long, text, rfl⟩ := exists_encode_executionData encoded
  let count := Wire.varInt (UInt32.ofNat data.probes.length)
  let packed := Wire.pack data.probes
  let whole (probes : List Bool) : Reading Record := pure (executionData ⟨data.id, data.name, probes⟩)
  refine ⟨_, rfl, fun great => ?_, fun small => ?_⟩
  · have probes : (Reading.bits >>= whole).Rejects (count ++ packed) (.lengthOverLimit held) := by
      have refused := (Reading.Rejects.bits great).bind whole []
      rwa [List.append_nil] at refused
    exact long.bind_rejects (text.bind_rejects probes)
  · have probes : (Reading.bits >>= whole).Reads (count ++ packed.take (packedLength held))
        (executionData { data with probes := data.probes.take held }) :=
      (Reading.Reads.bits_of_held small).map _
    refine ⟨id ++ (name ++ (count ++ packed.take (packedLength held))),
      packed.drop (packedLength held), ?_, Reading.exists_left_of_long many small,
      long.bind (text.bind probes)⟩
    simp only [List.append_assoc, List.take_append_drop, count, packed]

/-- A header of another version is refused. -/
theorem rejects_header {version : UInt16} {bytes : Bytes} (other : version ≠ formatVersion)
    (encoded : (header version).encode = .ok bytes) :
    ∃ payload, bytes = Tag.header :: payload ∧
      headerBody.Rejects payload (.badVersion version.toNat formatVersion.toNat) := by
  cases encoded
  refine ⟨Bytes.bigEndian 2 magic.toNat ++ (Bytes.bigEndian 2 version.toNat ++ []), rfl, ?_⟩
  refine Reading.Reads.bind_rejects (.word magic) (Reading.Reads.bind_rejects (.word version) ?_)
  rw [if_pos other]
  exact (Reading.Rejects.throw _).bind _ []

/-- What is not readable is refused, or it is not read to its end. -/
theorem not_read_of_not_readable {record : Record} {bytes : Bytes}
    (encoded : record.encode = .ok bytes) (unreadable : ¬ record.Readable) :
    ∃ payload, bytes = record.tag :: payload ∧
      ∀ (rest : Bytes) (source : Source) (consumed : Nat),
        source.supply = ⟨payload ++ rest, consumed, none⟩ →
        ∀ decoded left, (body record.tag).runOn source = (.ok decoded, left) → left.unread ≠ rest := by
  cases record with
  | header version =>
    obtain ⟨payload, tagged, rejects⟩ := rejects_header unreadable encoded
    refine ⟨payload, tagged, fun rest source consumed supply decoded left read => ?_⟩
    have refused : ((body Tag.header).runOn source).1 = _ := rejects source rest consumed supply
    cases refused.symm.trans (congrArg Prod.fst read)
  | executionData data =>
    have many : maxBlob < data.probes.length := Nat.not_le.1 unreadable
    obtain ⟨payload, tagged, great, small⟩ := unread_of_probes encoded many
    refine ⟨payload, tagged, fun rest source consumed supply decoded left read => ?_⟩
    by_cases beyond : maxBlob < data.probes.length % UInt32.size
    · have refused : ((body Tag.executionData).runOn source).1 = _ :=
        great beyond source rest consumed supply
      cases refused.symm.trans (congrArg Prod.fst read)
    · obtain ⟨part, others, rfl, some, reads⟩ := small (Nat.not_lt.1 beyond)
      rw [List.append_assoc] at supply
      have outcome : (body Tag.executionData).outcome source = _ :=
        reads.whole source (others ++ rest) consumed supply
      have unread : left.unread = others ++ rest := by
        have supplied := congrArg (fun outcome => outcome.2.unread) outcome
        rwa [Wire.Reading.outcome, show (body Tag.executionData).runOn source = _ from read]
          at supplied
      rw [unread]
      exact fun none => some (List.append_left_eq_self.1 none)
  | sessionInfo _ => exact absurd trivial unreadable
  | heartbeat => exact absurd trivial unreadable
  | file _ => exact absurd trivial unreadable
  | projectInfo _ => exact absurd trivial unreadable
  | pull _ => exact absurd trivial unreadable
  | ok => exact absurd trivial unreadable
  | dump _ _ => exact absurd trivial unreadable

/-- **What is read back.**  The octets that were written of a record begin with its tag.  What is
behind the tag is read, and nothing of it is left, if and only if the record is readable: a header
of this version, execution data with no more probes than a blob has octets, or any other record.
Then its normal form is read.  Of the length of too many probes the wire holds 32 bits.  If these
say more than a blob has octets, then the length is refused; otherwise so many of the probes are
read, and octets are left that the reader takes for the next record. -/
theorem read_back_iff {record : Record} {bytes rest : Bytes} {source : Source} {consumed : Nat}
    (encoded : record.encode = .ok bytes)
    (supply : source.supply = ⟨bytes ++ rest, consumed, none⟩) :
    ∃ after : Source, Reading.tag?.runOn source = (.ok (some record.tag), after) ∧
      ((∃ decoded left, (body record.tag).runOn after = (.ok decoded, left) ∧ left.unread = rest) ↔
        record.Readable) ∧
      (record.Readable → (body record.tag).outcome after =
        (.ok record.normal, ⟨rest, consumed + bytes.length, none⟩)) ∧
      ∀ data, record = executionData data → maxBlob < data.probes.length →
        let held := data.probes.length % UInt32.size
        (maxBlob < held → ((body record.tag).runOn after).1 = .error (.lengthOverLimit held)) ∧
        (held ≤ maxBlob → ∃ left position, left ≠ [] ∧ (body record.tag).outcome after =
          (.ok (executionData { data with probes := data.probes.take held }),
            ⟨left ++ rest, position, none⟩)) := by
  obtain ⟨payload, rfl, -⟩ := exists_payload_of_encode encoded
  rw [List.cons_append] at supply
  obtain ⟨found, behind⟩ := Prod.mk.inj (Wire.Reading.outcome_tag?_cons supply)
  have normal (readable : record.Readable) :
      (body record.tag).outcome (Reading.tag?.runOn source).2 =
        (.ok record.normal, ⟨rest, consumed + (record.tag :: payload).length, none⟩) := by
    obtain ⟨payload', tagged, reads⟩ := reads_encode encoded readable
    cases tagged
    rw [reads.whole _ rest _ behind, List.length_cons, Nat.add_right_comm, Nat.add_assoc]
  refine ⟨_, Prod.ext found rfl, ⟨?_, fun readable => ?_⟩, normal, ?_⟩
  · rintro ⟨decoded, left, read, none⟩
    refine Classical.byContradiction fun unreadable => ?_
    obtain ⟨payload', tagged, unread⟩ := not_read_of_not_readable encoded unreadable
    cases tagged
    exact unread rest _ _ behind decoded left read none
  · obtain ⟨value, left⟩ := Prod.mk.inj (normal readable)
    exact ⟨_, _, Prod.ext value rfl, congrArg Wire.Supply.unread left⟩
  · rintro data rfl many held
    obtain ⟨payload', tagged, great, small⟩ := unread_of_probes encoded many
    cases tagged
    refine ⟨fun beyond => great beyond _ rest _ behind, fun within => ?_⟩
    obtain ⟨part, left, rfl, some, reads⟩ := small within
    rw [List.append_assoc] at behind
    exact ⟨left, _, some, reads.whole _ (left ++ rest) _ behind⟩

/-- Three probes come back, and the sign of life behind them is left. -/
theorem read_back_iff_of_hits :
    let record := executionData ⟨1, "A", [true, false, true]⟩
    let bytes : Bytes := [0x11, 0, 0, 0, 0, 0, 0, 0, 1, 0, 1, 0x41, 3, 5]
    let source := Source.ofBytes (bytes ++ [0x13])
    record.encode = .ok bytes ∧ source.supply = ⟨bytes ++ [0x13], 0, none⟩ ∧
      ∃ after : Source, Reading.tag?.runOn source = (.ok (some record.tag), after) ∧
        (body record.tag).outcome after = (.ok record, ⟨[0x13], 14, none⟩) := by
  intro record bytes source
  have encoded : record.encode = .ok bytes := by cbv
  have supply : source.supply = ⟨bytes ++ [0x13], 0, none⟩ := rfl
  have readable : record.Readable := by
    show 3 ≤ maxBlob
    decide
  obtain ⟨after, found, -, normal, -⟩ := read_back_iff encoded supply
  exact ⟨encoded, supply, after, found, normal readable⟩

/-- Execution data with one probe more than a blob has octets is written, and is then refused. -/
theorem not_read_back_of_many_probes :
    let record := executionData ⟨1, "A", List.replicate (maxBlob + 1) false⟩
    ∃ bytes, record.encode = .ok bytes ∧
      ((body record.tag).runOn (Reading.tag?.runOn (Source.ofBytes bytes)).2).1 =
        .error (.lengthOverLimit 268435457) := by
  have count : (List.replicate (maxBlob + 1) false).length = 268435457 := List.length_replicate
  generalize List.replicate (maxBlob + 1) false = probes at count ⊢
  intro record
  have written : ∃ bytes, record.encode = .ok bytes := by
    refine Emission.exists_complete fun field member => ?_
    have fields : field = .octet Tag.executionData ∨ field = .long 1 ∨ field = .text "A" ∨
        field = .bits probes := by
      simpa [fields, record, tag] using member
    rcases fields with rfl | rfl | rfl | rfl
    · exact ⟨_, rfl⟩
    · exact ⟨_, rfl⟩
    · exact Field.exists_encode_text (by decide)
    · exact ⟨_, Field.encode_bits probes⟩
  obtain ⟨bytes, encoded⟩ := written
  have many : maxBlob < probes.length := by
    rw [count]
    decide
  have held : probes.length % UInt32.size = 268435457 := by
    rw [count]
    decide
  obtain ⟨payload, rfl, great, -⟩ := unread_of_probes encoded many
  have supply : (Source.ofBytes (Tag.executionData :: payload)).supply =
      ⟨Tag.executionData :: (payload ++ []), 0, none⟩ := by
    rw [List.append_nil]
    rfl
  obtain ⟨-, behind⟩ := Prod.mk.inj (Wire.Reading.outcome_tag?_cons supply)
  have refused := great (by rw [held]; decide) _ [] _ behind
  refine ⟨_, encoded, ?_⟩
  rwa [held] at refused

end Record
end CoverageLink
