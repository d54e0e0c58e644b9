import CoverageLink.Proofs.Text.Line
import CoverageLink.Proofs.Text.Utf8
import CoverageLink.Proofs.Wire.PackedBits
import CoverageLink.Proofs.Wire.VarInt

/-!
# What was written as a field is read back

Every kind of field has a reader.  `Field.ReadBy` says that whatever is written of a
field spells its value for the reader; that the field *can* be written is the hypothesis
under which the limits of the format are at hand, and the reader's limits are the same
--- except for truth values, whose number only the reader bounds.

`Emission.readBy_cons` does the same for a row of fields, one field at a time.  A record is
such a row.
-/

namespace CoverageLink
namespace Wire

variable {α : Type}

/-! ## Spellings with a length in front -/

namespace Reading
namespace Reads

theorem text {value : String} (fits : (Utf8.encode value).length ≤ maxText) :
    Reading.text.Reads (Bytes.bigEndian 2 (Utf8.encode value).length ++ Utf8.encode value)
      value := by
  have number : (UInt16.ofNat (Utf8.encode value).length).toNat = (Utf8.encode value).length := by
    rw [UInt16.toNat_ofNat', Nat.mod_eq_of_lt]
    exact Nat.lt_of_le_of_lt fits (by decide)
  have read : Reading.text.Reads (Bytes.bigEndian 2
      (UInt16.ofNat (Utf8.encode value).length).toNat ++ (Utf8.encode value ++ [])) value := by
    refine bind (word _) (bind (fully number.symm) ?_)
    rw [Utf8.decode_encode]
    exact pure value
  rwa [List.append_nil, number] at read

/-- Truth values, however their number is spelled, and whatever lies behind the last of them. -/
theorem bits_of_denotes {groups packed : Bytes} {number : Nat} (denotes : Denotes groups number)
    (short : groups.length ≤ 5) (fits : number % UInt32.size ≤ maxBlob)
    (there : packed.length = packedLength (number % UInt32.size)) :
    Reading.bits.Reads (groups ++ packed) (unpack (number % UInt32.size) packed) :=
  (length_of_denotes denotes short fits).bind ((fully there).map (unpack (number % UInt32.size)))

/-- A list of truth values begins with as many values as 32 bits hold of its length, and they are
read as if there were no more. -/
theorem bits_of_held {values : List Bool} (fits : values.length % UInt32.size ≤ maxBlob) :
    Reading.bits.Reads
      (Wire.varInt (UInt32.ofNat values.length) ++
        (pack values).take (packedLength (values.length % UInt32.size)))
      (values.take (values.length % UInt32.size)) := by
  have held : values.length % UInt32.size ≤ values.length := Nat.mod_le _ _
  have same : values.length % UInt32.size % UInt32.size = values.length % UInt32.size :=
    Nat.mod_mod _ _
  have there : ((pack values).take (packedLength (values.length % UInt32.size))).length =
      packedLength (values.length % UInt32.size) := by
    rw [List.length_take, length_pack, packedLength, packedLength]
    omega
  have read := bits_of_denotes (denotes_varInt_ofNat values.length) (length_varInt_le _)
    (by rwa [same]) (by rwa [same])
  rwa [same, unpack_take_pack held] at read

theorem bits {values : List Bool} (fits : values.length ≤ maxBlob) :
    Reading.bits.Reads (Wire.varInt (UInt32.ofNat values.length) ++ pack values) values := by
  have same : values.length % UInt32.size = values.length :=
    Nat.mod_eq_of_lt (Nat.lt_of_le_of_lt fits (by decide))
  have held : values.length % UInt32.size ≤ maxBlob := by rwa [same]
  have read := bits_of_held held
  rwa [same, ← length_pack, List.take_length, List.take_length] at read

theorem blob {bytes : Bytes} (fits : bytes.length ≤ maxBlob) :
    Reading.blob.Reads (Wire.varInt (UInt32.ofNat bytes.length) ++ bytes) bytes :=
  (length fits).bind (fully rfl)

end Reads
end Reading

/-! ## Fields -/

namespace Field

/-- Whatever is written of the field spells the value for the reader. -/
def ReadBy (field : Field) (reader : Reading α) (value : α) : Prop :=
  ∀ bytes, field.encode = .ok bytes → reader.Reads bytes value

theorem flatten_numberPieces (value : UInt32) : (numberPieces value).flatten = varInt value := by
  rw [numberPieces, ← List.flatMap_def, List.flatMap_singleton']

theorem readBy_flag (value : Bool) : (flag value).ReadBy Reading.flag value := by
  intro bytes h
  cases h
  exact .flag value

theorem readBy_word (value : UInt16) : (word value).ReadBy Reading.word value := by
  intro bytes h
  cases h
  exact .word value

theorem readBy_long (value : Int64) : (long value).ReadBy Reading.long value := by
  intro bytes h
  cases h
  exact .long value

theorem readBy_text (value : String) : (text value).ReadBy Reading.text value := by
  intro bytes h
  rw [encode, pieces, textPieces] at h
  split at h
  · cases h
  · cases h
    rw [List.flatten_cons, List.flatten_cons, List.flatten_nil, List.append_nil]
    exact .text (Nat.le_of_not_lt ‹_›)

/-- A line is a text, once none of its texts holds the separator. -/
theorem encode_line_eq_ok {values : List String} {bytes : Bytes}
    (h : (line values).encode = .ok bytes) :
    (∀ value ∈ values, lineSeparator ∉ value.toList) ∧
      (text (Text.join lineSeparator values)).encode = .ok bytes := by
  rw [encode, pieces] at h
  split at h
  · cases h
  · rename_i found
    refine ⟨fun value member held => ?_, h⟩
    have clean := List.find?_eq_none.mp found value member
    exact clean (List.contains_iff_mem.mpr held)

theorem exists_encode_text {value : String} (fits : (Utf8.encode value).length ≤ maxText) :
    ∃ bytes, (text value).encode = .ok bytes := by
  refine ⟨[Bytes.bigEndian 2 (Utf8.encode value).length, Utf8.encode value].flatten, ?_⟩
  rw [encode, pieces, textPieces, if_neg (Nat.not_lt.2 fits)]
  rfl

theorem exists_encode_blob {bytes : Bytes} (fits : bytes.length ≤ maxBlob) :
    ∃ octets, (blob bytes).encode = .ok octets := by
  refine ⟨(numberPieces (UInt32.ofNat bytes.length) ++ [bytes]).flatten, ?_⟩
  rw [encode, pieces, if_neg (Nat.not_lt.2 fits)]
  rfl

/-- Texts without the separator are written as the text of their line. -/
theorem pieces_line {values : List String}
    (clean : ∀ value ∈ values, lineSeparator ∉ value.toList) :
    (line values).pieces = textPieces (Text.join lineSeparator values) := by
  have none_found : (values.find? fun value => value.toList.contains lineSeparator) = none :=
    List.find?_eq_none.2 fun value member held => clean value member (List.contains_iff_mem.1 held)
  rw [pieces, none_found]

/-- A line of texts without the separator is written exactly if it is short enough for a text. -/
theorem exists_encode_line_iff {values : List String}
    (clean : ∀ value ∈ values, lineSeparator ∉ value.toList) :
    (∃ bytes, (line values).encode = .ok bytes) ↔
      (Utf8.encode (Text.join lineSeparator values)).length ≤ maxText := by
  have same : (line values).encode = (text (Text.join lineSeparator values)).encode := by
    rw [encode, pieces_line clean]
    rfl
  rw [same]
  refine ⟨fun ⟨bytes, written⟩ => ?_, exists_encode_text⟩
  rw [encode, pieces, textPieces] at written
  split at written
  · cases written
  · exact Nat.le_of_not_lt ‹_›

/-- Truth values are written however many there are. -/
theorem encode_bits (values : List Bool) :
    (bits values).encode = .ok (varInt (UInt32.ofNat values.length) ++ pack values) := by
  rw [encode, pieces, Except.map, List.flatten_append, flatten_numberPieces, ← List.flatMap_def,
    List.flatMap_singleton']

theorem readBy_bits {values : List Bool} (fits : values.length ≤ maxBlob) :
    (bits values).ReadBy Reading.bits values := by
  intro bytes h
  rw [encode_bits] at h
  cases h
  exact .bits fits

theorem readBy_blob (value : Bytes) : (blob value).ReadBy Reading.blob value := by
  intro bytes h
  rw [encode, pieces] at h
  split at h
  · cases h
  · cases h
    rw [List.flatten_append, flatten_numberPieces, List.flatten_singleton]
    exact .blob (Nat.le_of_not_lt ‹_›)

end Field

/-! ## Rows of fields -/

namespace Emission

/-- **A row of fields** is written completely when each of them is, one behind the other. -/
theorem complete_ofFields_cons {field : Field} {rest : List Field} {bytes : Bytes} :
    (ofFields (field :: rest)).complete = .ok bytes ↔
      ∃ first others, field.encode = .ok first ∧ (ofFields rest).complete = .ok others ∧
        bytes = first ++ others := by
  rw [ofFields, Field.encode]
  rcases field.pieces with failure | pieces
  · constructor
    · intro h
      cases h
    · rintro ⟨first, others, h, -, -⟩
      cases h
  · obtain ⟨emitted, fault⟩ := ofFields rest
    rcases fault with _ | failure
    · constructor
      · intro h
        cases h
        exact ⟨_, _, rfl, rfl, List.flatten_append⟩
      · rintro ⟨first, others, h, h', rfl⟩
        cases h
        cases h'
        exact congrArg Except.ok List.flatten_append
    · constructor
      · intro h
        cases h
      · rintro ⟨first, others, -, h, -⟩
        cases h

/-- Fields that can be encoded one by one can be encoded as a row. -/
theorem exists_complete {fields : List Field}
    (each : ∀ field ∈ fields, ∃ bytes, field.encode = .ok bytes) :
    ∃ bytes, (ofFields fields).complete = .ok bytes := by
  induction fields with
  | nil => exact ⟨_, rfl⟩
  | cons field fields ih =>
    obtain ⟨first, written⟩ := each field List.mem_cons_self
    obtain ⟨others, rest⟩ := ih fun other later => each other (List.mem_cons_of_mem field later)
    exact ⟨_, complete_ofFields_cons.2 ⟨first, others, written, rest, rfl⟩⟩

/-- Whatever is written of a row of fields spells the value for the reader. -/
def ReadBy (emission : Emission) (reader : Reading α) (value : α) : Prop :=
  ∀ bytes, emission.complete = .ok bytes → reader.Reads bytes value

theorem readBy_nil (value : α) : (ofFields []).ReadBy (pure value) value := by
  intro bytes h
  cases h
  exact .pure value

/-- A field in front of a row is read in front of it. -/
theorem readBy_cons {β : Type} {field : Field} {rest : List Field} {reader : Reading α}
    {next : α → Reading β} {value : α} {result : β} (h : field.ReadBy reader value)
    (h' : (ofFields rest).ReadBy (next value) result) :
    (ofFields (field :: rest)).ReadBy (reader >>= next) result := by
  intro bytes written
  obtain ⟨first, others, first_written, others_written, rfl⟩ := complete_ofFields_cons.mp written
  exact .bind (h first first_written) (h' others others_written)

/-- A line is read as the text it is, by a reader that may rely on its texts being free of the
separator. -/
theorem readBy_line {values : List String} {rest : List Field} {reader : Reading α} {value : α}
    (h : (∀ value ∈ values, lineSeparator ∉ value.toList) →
      (ofFields (.text (Text.join lineSeparator values) :: rest)).ReadBy reader value) :
    (ofFields (.line values :: rest)).ReadBy reader value := by
  intro bytes written
  obtain ⟨first, others, first_written, others_written, rfl⟩ := complete_ofFields_cons.mp written
  obtain ⟨clean, text_written⟩ := Field.encode_line_eq_ok first_written
  exact h clean _ (complete_ofFields_cons.mpr ⟨first, others, text_written, others_written, rfl⟩)

end Emission
end Wire
end CoverageLink
