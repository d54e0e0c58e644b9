import CoverageLink.Proofs.KnownIds
import CoverageLink.Proofs.Record.Header
import CoverageLink.Proofs.Record.ReadAll

/-!
# What was read can be written

Not every record can be written: a text may be too long for the number in front of it.  A text that
was *read* had room behind such a number, and as octets it is not longer than what it was read from
(`Utf8.length_encode_le`).  So whoever passes on execution data that arrived on a stream does not
fail at encoding it (`RecordStream.writable_of_mem_readAll`).

## 1.  What readers give

The limits of the fields, as properties of what their readers give.

## 2.  Records that were read

`Record.Settled` is what can be said of every record that was read, however it was spelled
(`gives_body_settled`): the limits of the fields, times that the wire does not cut off, identifiers
that a line does not divide.  Nothing of it is said of the spelling, so a record that was spelled in
an unusual way is settled as well.

## 3.  Writing them again

A settled record comes back as it is (`Settled.normal`), if it can be written at all.  There is one
reason why it may not (`Settled.exists_encode_iff`).  A project line may be shorter than the line of
its six texts, because texts at its end may be missing, and then there may be no room for the
separators in front of them.
-/

namespace CoverageLink

open Wire (Emission Field Reading)

/-! ## 1.  What readers give -/

namespace Wire
namespace Reading

theorem gives_fully (length : Nat) : (fully length).Gives fun bytes => bytes.length ≤ length := by
  intro source bytes given
  have result : ((fully length).outcome source).1 = .ok bytes := given
  rw [outcome_fully, Supply.takeAll] at result
  rcases taken : source.supply.take length with ⟨failure | octets, left⟩ <;> rw [taken] at result
  · cases result
  · simp only at result
    split at result
    · cases result
    · obtain rfl := Except.ok.inj result
      rw [(Supply.take_eq_ok taken).1]
      exact List.length_take_le _ _

/-- What was read as a text fits into one. -/
theorem gives_text : text.Gives fun value => (Utf8.encode value).length ≤ maxText := by
  refine .bind fun length => .andThen (gives_fully length.toNat) fun octets within => ?_
  rcases read : Utf8.decode octets with fault | value
  · exact .throw _
  · refine .pure (Nat.le_trans (Utf8.length_encode_le read) (Nat.le_trans within ?_))
    exact Nat.le_of_lt_succ length.toNat_lt

theorem gives_length : length.Gives (· ≤ maxBlob) :=
  .bind fun _ => .check fun small => .pure (Nat.le_of_not_lt small)

theorem gives_bits : bits.Gives fun values => values.length ≤ maxBlob := by
  refine .andThen gives_length fun count within => .bind fun packed => .pure ?_
  rw [length_unpack]
  exact Nat.le_trans (Nat.min_le_left _ _) within

theorem gives_blob : blob.Gives fun bytes => bytes.length ≤ maxBlob := by
  refine .andThen gives_length fun length within source bytes given => ?_
  exact Nat.le_trans (gives_fully length source bytes given) within

end Reading
end Wire

/-- A time that was read is not cut off when it is written. -/
theorem Timestamp.clamped_ofWire (value : Int64) : (ofWire value).clamped = ofWire value := by
  unfold ofWire
  split
  · rfl
  · rename_i notBefore
    have bound : value.toUInt64.toNat ≤ wireMax := by
      have pattern : value.toUInt64.toNat = value.toBitVec.toNat := rfl
      have number : value.toInt = value.toBitVec.toInt := rfl
      have wide := value.toBitVec.isLt
      rw [Int64.lt_iff_toInt_lt, Int64.toInt_zero, number, BitVec.toInt_eq_toNat_cond] at notBefore
      rw [pattern, show wireMax = 0x7FFFFFFFFFFFFFFF from rfl]
      split at notBefore <;> omega
    rw [clamped, Nat.min_eq_left bound, UInt64.ofNat_toNat]

/-- The texts of a line that was taken apart are free of the separator. -/
theorem ProjectInfo.not_mem_of_parse {text : String} {info : ProjectInfo}
    (parsed : parse text = .ok info) : ∀ field ∈ info.fields, '|' ∉ field.toList := by
  unfold parse ofFields at parsed
  split at parsed
  · cases parsed
  · have clean (index : Nat) : '|' ∉ ((Text.pieces '|' text).getD index "").toList := by
      rw [List.getD_eq_getElem?_getD]
      rcases there : (Text.pieces '|' text)[index]? with _ | piece
      · exact List.not_mem_nil
      · exact Text.not_mem_of_mem_pieces (List.mem_of_getElem? there)
    obtain rfl := Except.ok.inj parsed
    simp only [fields, List.forall_mem_cons, List.not_mem_nil, false_implies, implies_true, and_true]
    exact ⟨clean 0, clean 1, clean 2, clean 3, clean 4, clean 5⟩

namespace Record

/-! ## 2.  Records that were read -/

/-- What is known of a record that was read. -/
def Settled : Record → Prop
  | header version => version = formatVersion
  | sessionInfo info => (Utf8.encode info.id).length ≤ Wire.maxText ∧
      info.start.clamped = info.start ∧ info.dump.clamped = info.dump
  | executionData data => (Utf8.encode data.name).length ≤ Wire.maxText ∧
      data.probes.length ≤ Wire.maxBlob
  | file artifact => (Utf8.encode artifact.name).length ≤ Wire.maxText ∧
      artifact.contents.length ≤ Wire.maxBlob
  | projectInfo info => ∀ text ∈ info.fields, '|' ∉ text.toList
  | pull request => request.known.divided = request.known ∧
      (Utf8.encode request.known.line).length ≤ Wire.maxBlob
  | _ => True

theorem gives_knownIdsBody : knownIdsBody.Gives fun known =>
    known.divided = known ∧ (Utf8.encode known.line).length ≤ Wire.maxBlob := by
  refine .andThen Reading.gives_blob fun octets within => ?_
  rcases read : Utf8.decode octets with fault | line
  · exact .throw _
  · refine .pure ⟨KnownIds.divided_parse line, ?_⟩
    calc (Utf8.encode (KnownIds.parse line).line).length
        ≤ (Utf8.encode line).length := KnownIds.length_line_parse_le line
      _ ≤ octets.length := Utf8.length_encode_le read
      _ ≤ Wire.maxBlob := within

/-- **Every record that was read is settled**, and it is one that its tag announces. -/
theorem gives_body_settled (tag : UInt8) :
    (body tag).Gives fun record => record.tag = tag ∧ record.Settled := by
  unfold body
  split
  · rename_i tagged
    refine .bind fun _ => .check fun _ => .bind fun version => .check fun same => .pure ?_
    have equal : version = formatVersion := Decidable.not_not.1 same
    exact ⟨tagged.symm, equal⟩
  split
  · rename_i tagged
    refine .andThen Reading.gives_text fun _ short => .bind fun start => .bind fun dump => .pure ?_
    exact ⟨tagged.symm, short, Timestamp.clamped_ofWire start, Timestamp.clamped_ofWire dump⟩
  split
  · rename_i tagged
    refine .bind fun _ => .andThen Reading.gives_text fun _ short =>
      .andThen Reading.gives_bits fun _ few => .pure ?_
    exact ⟨tagged.symm, short, few⟩
  split
  · rename_i tagged
    exact .pure ⟨tagged.symm, trivial⟩
  split
  · rename_i tagged
    refine .andThen Reading.gives_text fun _ short =>
      .andThen Reading.gives_blob fun _ within => .pure ?_
    exact ⟨tagged.symm, short, within⟩
  split
  · rename_i tagged
    refine .bind fun line => ?_
    rcases parsed : ProjectInfo.parse line with failure | info
    · exact .throw _
    · exact .pure ⟨tagged.symm, ProjectInfo.not_mem_of_parse parsed⟩
  split
  · rename_i tagged
    exact .pure ⟨tagged.symm, trivial⟩
  split
  · rename_i tagged
    exact .bind fun _ => .bind fun _ => .pure ⟨tagged.symm, trivial⟩
  · rcases announced : PullKind.ofTag? tag with _ | kind
    · exact .throw _
    · exact .andThen gives_knownIdsBody fun known settled =>
        .pure ⟨PullKind.tag_of_ofTag? announced, settled⟩

/-! ## 3.  Writing them again -/

/-- Whether execution data has short enough texts; nothing is asked of other records. -/
def Writable : Record → Prop
  | sessionInfo info => (Utf8.encode info.id).length ≤ Wire.maxText
  | executionData data => (Utf8.encode data.name).length ≤ Wire.maxText
  | _ => True

/-- A project info whose six texts and the separators between them do not fit into a text. -/
def Overlong (record : Record) : Prop :=
  ∃ info, record = projectInfo info ∧
    Wire.maxText < (Utf8.encode (Text.join Wire.lineSeparator info.fields)).length

theorem overlong_projectInfo_iff {info : ProjectInfo} : (projectInfo info).Overlong ↔
    Wire.maxText < (Utf8.encode (Text.join Wire.lineSeparator info.fields)).length := by
  refine ⟨?_, fun long => ⟨info, rfl, long⟩⟩
  rintro ⟨_, same, long⟩
  cases same
  exact long

namespace Settled

variable {record : Record}

theorem writable (settled : record.Settled) : record.Writable := by
  cases record with
  | sessionInfo info => exact settled.1
  | executionData data => exact settled.1
  | _ => trivial

theorem readable (settled : record.Settled) : record.Readable := by
  cases record with
  | header version => exact settled
  | executionData data => exact settled.2
  | _ => trivial

/-- **A settled record comes back as it is.** -/
theorem normal (settled : record.Settled) : record.normal = record := by
  cases record with
  | sessionInfo info => rw [Record.normal, settled.2.1, settled.2.2]
  | pull request => rw [Record.normal, settled.1]
  | _ => rfl

/-- **A settled record can be written**, unless it is a project info that is too long. -/
theorem exists_encode_iff (settled : record.Settled) :
    (∃ bytes, record.encode = .ok bytes) ↔ ¬ record.Overlong := by
  have each (h : ∀ field ∈ record.fields, ∃ bytes, field.encode = .ok bytes) :
      ∃ bytes, record.encode = .ok bytes :=
    Emission.exists_complete (List.forall_mem_cons.2 ⟨⟨_, rfl⟩, h⟩)
  cases record with
  | projectInfo info =>
    rw [overlong_projectInfo_iff, Nat.not_lt, ← Field.exists_encode_line_iff settled]
    refine ⟨fun ⟨bytes, written⟩ => ?_, fun line => each (List.forall_mem_singleton.2 line)⟩
    obtain ⟨_, others, -, rest, -⟩ := Emission.complete_ofFields_cons.1 written
    obtain ⟨first, _, line, -, -⟩ := Emission.complete_ofFields_cons.1 rest
    exact ⟨first, line⟩
  | sessionInfo info =>
    refine iff_of_true (each ?_) (fun ⟨_, same, _⟩ => nomatch same)
    simp only [fields, List.forall_mem_cons, List.not_mem_nil, false_implies, implies_true, and_true]
    exact ⟨Field.exists_encode_text settled.1, ⟨_, rfl⟩, _, rfl⟩
  | executionData data =>
    refine iff_of_true (each ?_) (fun ⟨_, same, _⟩ => nomatch same)
    simp only [fields, List.forall_mem_cons, List.not_mem_nil, false_implies, implies_true, and_true]
    exact ⟨⟨_, rfl⟩, Field.exists_encode_text settled.1, _, rfl⟩
  | file artifact =>
    refine iff_of_true (each ?_) (fun ⟨_, same, _⟩ => nomatch same)
    simp only [fields, List.forall_mem_cons, List.not_mem_nil, false_implies, implies_true, and_true]
    exact ⟨Field.exists_encode_text settled.1, Field.exists_encode_blob settled.2⟩
  | pull request =>
    refine iff_of_true (each ?_) (fun ⟨_, same, _⟩ => nomatch same)
    exact List.forall_mem_singleton.2 (Field.exists_encode_blob settled.2)
  | header version => exact iff_of_true ⟨_, rfl⟩ fun ⟨_, same, _⟩ => nomatch same
  | heartbeat => exact iff_of_true ⟨_, rfl⟩ fun ⟨_, same, _⟩ => nomatch same
  | ok => exact iff_of_true ⟨_, rfl⟩ fun ⟨_, same, _⟩ => nomatch same
  | dump dumps resets => exact iff_of_true ⟨_, rfl⟩ fun ⟨_, same, _⟩ => nomatch same

end Settled
end Record

namespace RecordStream

/-- What every body gives, every record of a stream has. -/
theorem of_mem_readAll {property : Record → Prop}
    (given : ∀ tag, (Record.body tag).Gives property) {stream : RecordStream} {record : Record}
    (member : record ∈ stream.readAll.1) : property record := by
  have once {stream rest : RecordStream} {record : Record}
      (answer : stream.next = (.ok (some record), rest)) : property record := by
    rw [next_eq] at answer
    rcases run : Reading.tag?.runOn stream.source with ⟨failure | _ | tag, behind⟩ <;>
      rw [run] at answer
    · cases answer
    · cases answer
    · simp only at answer
      split at answer
      · cases answer
      split at answer
      · cases answer
      rcases read : (Record.body tag).runOn behind with ⟨failure | value, left⟩ <;>
        rw [read] at answer
      · cases answer
      · cases answer
        exact given tag behind record (congrArg Prod.fst read)
  rw [readAll_eq] at member
  rcases answer : stream.next with ⟨failure | _ | first, rest⟩ <;> rw [answer] at member
  · cases member
  · cases member
  · have shorter := length_unread_next answer
    rcases List.mem_cons.1 member with rfl | later
    · exact once answer
    · exact of_mem_readAll given later
termination_by stream.source.unread.length

/-- **Every record of a stream is settled.** -/
theorem settled_of_mem_readAll {stream : RecordStream} {record : Record}
    (member : record ∈ stream.readAll.1) : record.Settled :=
  of_mem_readAll (fun tag source record given =>
    (Record.gives_body_settled tag source record given).2) member

/-- **The execution data of a stream can be written again.** -/
theorem writable_of_mem_readAll {stream : RecordStream} {record : Record}
    (member : record ∈ stream.readAll.1) : record.Writable :=
  (settled_of_mem_readAll member).writable

end RecordStream
end CoverageLink
