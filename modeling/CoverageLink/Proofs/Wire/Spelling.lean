import CoverageLink.Proofs.Octet
import CoverageLink.Proofs.Wire.Supply

/-!
# Octets that spell a value

`Reading.Reads reader bytes value` says that `bytes` spell `value` for a reader, and it
says so on a whole stream and on one that was cut.

* If the octets are there, with anything behind them, the reader gives the value and
  stops exactly behind them (`whole`).
* If some of them are missing, the reader reports the end of the input, and has taken
  what there was (`cut`).

The second half is what tells a peer that went away from one that talks nonsense: a
proper prefix of a spelling is never mistaken for a spelling, and never for garbage.

Both halves pass through sequencing (`Reads.bind`), which is where spellings are put one
behind the other.  So a record needs no argument of its own: it is read by readers in a
row, and spelled by spellings in a row.
-/

namespace CoverageLink
namespace Wire
namespace Reading

variable {α β : Type}

/-- The octets spell the value for the reader. -/
structure Reads (reader : Reading α) (bytes : Bytes) (value : α) : Prop where
  /-- A whole spelling gives the value, and what is behind it is left. -/
  whole : ∀ (source : Source) (rest : Bytes) (consumed : Nat),
    source.supply = ⟨bytes ++ rest, consumed, none⟩ →
      reader.outcome source = (.ok value, ⟨rest, consumed + bytes.length, none⟩)
  /-- A spelling cut short gives the end of the input, and nothing is left. -/
  cut : ∀ (source : Source) (part missing : Bytes) (consumed : Nat), missing ≠ [] →
    bytes = part ++ missing → source.supply = ⟨part, consumed, none⟩ →
      ∃ failure : Failure, failure.kind = .unexpectedEof ∧
        reader.outcome source = (.error failure, ⟨[], consumed + part.length, none⟩)

namespace Reads

/-! ## Putting spellings together -/

theorem pure (value : α) : Reads (Pure.pure value) [] value where
  whole source rest consumed h := by
    rw [outcome_pure, h]
    rfl
  cut source part missing consumed absent split _ := by
    have nothing : missing = [] := (List.append_eq_nil_iff.mp split.symm).2
    exact absurd nothing absent

/-- **One spelling behind the other.** -/
theorem bind {reader : Reading α} {next : α → Reading β} {first second : Bytes} {value : α}
    {result : β} (h : reader.Reads first value) (h' : (next value).Reads second result) :
    (reader >>= next).Reads (first ++ second) result where
  whole source rest consumed supply := by
    rw [List.append_assoc] at supply
    have first_read := h.whole source (second ++ rest) consumed supply
    obtain ⟨ok, left⟩ := Prod.mk.inj first_read
    rw [outcome_bind_ok (Prod.ext ok rfl), h'.whole _ rest _ left, List.length_append,
      Nat.add_assoc]
  cut source part missing consumed absent split supply := by
    -- the cut falls into the first spelling, or behind it and then into the second
    rcases List.append_eq_append_iff.mp split with
      ⟨others, part_eq, second_eq⟩ | ⟨others, first_eq, missing_eq⟩
    · rw [part_eq] at supply
      obtain ⟨ok, left⟩ := Prod.mk.inj (h.whole source others consumed supply)
      obtain ⟨failure, eof, failed⟩ := h'.cut _ others missing _ absent second_eq left
      refine ⟨failure, eof, ?_⟩
      rw [outcome_bind_ok (Prod.ext ok rfl), failed, part_eq, List.length_append, Nat.add_assoc]
    · rcases others with _ | ⟨octet, others⟩
      · rw [List.append_nil] at first_eq
        rw [List.nil_append] at missing_eq
        have supply' : source.supply = ⟨first ++ [], consumed, none⟩ := by
          rw [supply, first_eq, List.append_nil]
        obtain ⟨ok, left⟩ := Prod.mk.inj (h.whole source [] consumed supply')
        obtain ⟨failure, eof, failed⟩ := h'.cut _ [] missing _ absent missing_eq.symm left
        refine ⟨failure, eof, ?_⟩
        rw [outcome_bind_ok (Prod.ext ok rfl), failed, first_eq]
        rfl
      · obtain ⟨failure, eof, failed⟩ :=
          h.cut source part (octet :: others) consumed (List.cons_ne_nil _ _) first_eq supply
        obtain ⟨error, left⟩ := Prod.mk.inj failed
        refine ⟨failure, eof, ?_⟩
        rw [outcome_bind_error (Prod.ext error rfl)]
        exact congrArg (Prod.mk _) left

/-- A value computed from the one that was read. -/
theorem map {reader : Reading α} {bytes : Bytes} {value : α} (h : reader.Reads bytes value)
    (f : α → β) : (reader >>= fun value => Pure.pure (f value)).Reads bytes (f value) := by
  have both : (reader >>= fun value => Pure.pure (f value)).Reads (bytes ++ []) (f value) :=
    h.bind (pure (f value))
  rwa [List.append_nil] at both

/-- What was read passes a check. -/
theorem check {condition : Prop} [Decidable condition] {failure : Failure} {next : Reading α}
    {bytes : Bytes} {value : α} (passes : ¬ condition) (h : next.Reads bytes value) :
    (if condition then (do (MonadExcept.throw failure : Reading PUnit); next) else next).Reads
      bytes value := by
  rwa [if_neg passes]

/-! ## Fields of a fixed width -/

/-- Octets whose number is fixed beforehand spell themselves. -/
theorem of_takeAll {reader : Reading Bytes} {want : Nat} {short : Nat → Failure}
    (h : ∀ source, reader.outcome source = source.supply.takeAll want short)
    (eof : ∀ got, (short got).kind = .unexpectedEof) {bytes : Bytes}
    (length : bytes.length = want) : reader.Reads bytes bytes where
  whole source rest consumed supply := by
    have taken : (bytes ++ rest).take want = bytes := by rw [← length, List.take_left]
    have left : (bytes ++ rest).drop want = rest := by rw [← length, List.drop_left]
    rw [h, supply, Supply.takeAll, Supply.take_of_fault_none rfl, Supply.give]
    simp only [taken]
    rw [if_neg (by omega), Supply.skip, length]
    simp only [left]
  cut source part missing consumed absent split supply := by
    have shorter : part.length < want := by
      have := List.length_pos_iff.mpr absent
      rw [← length, split, List.length_append]
      omega
    have taken : part.take want = part := List.take_of_length_le (Nat.le_of_lt shorter)
    refine ⟨short part.length, eof _, ?_⟩
    rw [h, supply, Supply.takeAll, Supply.take_of_fault_none rfl, Supply.give]
    simp only [taken]
    rw [if_pos shorter, Supply.skip, List.drop_length]

theorem exactly {width : Nat} {bytes : Bytes} (length : bytes.length = width) :
    (Reading.exactly width).Reads bytes bytes :=
  of_takeAll (outcome_exactly width) (fun _ => rfl) length

theorem fully {length : Nat} {bytes : Bytes} (h : bytes.length = length) :
    (Reading.fully length).Reads bytes bytes :=
  of_takeAll (outcome_fully length) (fun _ => rfl) h

theorem octet (value : UInt8) : Reading.octet.Reads [value] value := by
  have read := (exactly (List.length_singleton (a := value))).map
    fun bytes => UInt8.ofNat (Bytes.ofBigEndian bytes)
  rwa [Octet.ofNat_ofBigEndian_singleton] at read

/-- An octet, and the spelling of what it leads to. -/
theorem octet_bind (value : UInt8) {next : UInt8 → Reading β} {bytes : Bytes} {result : β}
    (h : (next value).Reads bytes result) :
    (Reading.octet >>= next).Reads (value :: bytes) result :=
  bind (octet value) h

theorem flag (value : Bool) : Reading.flag.Reads [if value then 1 else 0] value := by
  have read := (octet (if value then 1 else 0)).map fun octet => octet != 0
  cases value <;> exact read

theorem word (value : UInt16) :
    Reading.word.Reads (Bytes.bigEndian 2 value.toNat) value := by
  have read := (exactly (Bytes.length_bigEndian 2 value.toNat)).map
    fun bytes => UInt16.ofNat (Bytes.ofBigEndian bytes)
  have number : UInt16.ofNat (Bytes.ofBigEndian (Bytes.bigEndian 2 value.toNat)) = value := by
    rw [Bytes.ofBigEndian_bigEndian, Nat.mod_eq_of_lt value.toNat_lt, UInt16.ofNat_toNat]
  rwa [number] at read

theorem long (value : Int64) :
    Reading.long.Reads (Bytes.bigEndian 8 value.toUInt64.toNat) value := by
  have read := (exactly (Bytes.length_bigEndian 8 value.toUInt64.toNat)).map
    fun bytes => (UInt64.ofNat (Bytes.ofBigEndian bytes)).toInt64
  have number : (UInt64.ofNat (Bytes.ofBigEndian
      (Bytes.bigEndian 8 value.toUInt64.toNat))).toInt64 = value := by
    rw [Bytes.ofBigEndian_bigEndian, Nat.mod_eq_of_lt value.toUInt64.toNat_lt,
      UInt64.ofNat_toNat, Int64.toInt64_toUInt64]
  rwa [number] at read

end Reads
end Reading
end Wire
end CoverageLink
