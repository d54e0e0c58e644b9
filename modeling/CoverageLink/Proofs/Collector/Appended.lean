import CoverageLink.Proofs.Collector.ExecutionFile
import CoverageLink.Proofs.HandOver

/-!
# Passing on what was received

A peer may spell a record in ways in which this library never would: numbers that take more octets
than they need, any octet but zero for `true`, bits behind the last one, identifiers in any order.
None of that is left once the record was read (`Record.Received.settled`), so writing it and reading
it again are the same record.

A file of execution data therefore returns what was appended to it, whoever it came from.  Records
that do not belong there are appended as nothing, so all records of a stream may be handed over
(`ExecutionFile.Writing.appendAll`).

There is one record that can be read and not be written, a project info whose missing texts need
separators for which there is no room.  `ProjectInfo.parse_of_full` is the line it comes from.
-/

namespace CoverageLink

open Record (ownHeader streamHeader)
open Wire (Source)

namespace Record

/-- Whether a record was read, from whatever octets. -/
def Received (record : Record) : Prop :=
  ∃ (tag : UInt8) (source rest : Source), (body tag).runOn source = (.ok record, rest)

theorem Received.settled {record : Record} (received : record.Received) : record.Settled := by
  obtain ⟨tag, source, rest, read⟩ := received
  exact (gives_body_settled tag source record (congrArg Prod.fst read)).2

/-- **A record that was read once is read again** from what is written of it, and nothing is left
of that. -/
theorem Settled.runOn_body {record : Record} (settled : record.Settled) {bytes : Bytes}
    (encoded : record.encode = .ok bytes) :
    ∃ payload, bytes = record.tag :: payload ∧
      ∀ (source : Source) (behind : Bytes), source.unread = payload ++ behind →
        source.fault = none →
        ∃ left, (body record.tag).runOn source = (.ok record, left) ∧ left.unread = behind := by
  obtain ⟨payload, tagged, reads⟩ := reads_encode encoded settled.readable
  rw [settled.normal] at reads
  refine ⟨payload, tagged, fun source behind unread sound => ?_⟩
  have supply : source.supply = ⟨payload ++ behind, source.consumed, none⟩ := by
    rw [Source.supply, unread, sound]
  obtain ⟨read, left⟩ := Prod.mk.inj (reads.whole source behind _ supply)
  exact ⟨_, Prod.ext read rfl, congrArg Wire.Supply.unread left⟩

end Record

/-- **A line of one text that nearly fills its field** is read as a project info that is too long to
be written. -/
theorem ProjectInfo.parse_of_full {text : String} (single : '|' ∉ text.toList)
    (full : Wire.maxText < (Utf8.encode text).length + 5) :
    ∃ info, parse text = .ok info ∧ (Record.projectInfo info).Overlong := by
  have pieces : Text.pieces '|' text = [text] := Text.pieces_of_not_mem single
  refine ⟨⟨text, "", "", "", "", ""⟩, by rw [parse, pieces]; rfl, _, rfl, ?_⟩
  have line := congrArg List.length
    (Text.encode_join_append Wire.lineSeparator text ["", "", "", "", ""])
  have missing : ((["", "", "", "", ""] : List String).flatMap
      (Text.terminated Wire.lineSeparator)).length = 5 := rfl
  have separator : (String.utf8EncodeChar Wire.lineSeparator).length = 1 := rfl
  rw [List.flatMap_cons, Text.terminated, List.length_append, List.length_append,
    List.length_append, missing] at line
  change Wire.maxText <
    (Utf8.encode (Text.join Wire.lineSeparator [text, "", "", "", "", ""])).length
  omega

namespace Collector
namespace ExecutionFile

open Files (Location Path Volume)

/-- Appends records, one after the other, as long as none of them fails. -/
def appendAll (records : List Record) (file : ExecutionFile) (volume : Volume) :
    Except Failure Unit × ExecutionFile × Volume :=
  handOver (fun record (state : ExecutionFile × Volume) => state.1.append record state.2) records
    (file, volume)

/-- **All records of a stream can be appended**, and those that belong into the file come behind what
was written. -/
theorem Writing.appendAll {file : ExecutionFile} {volume : Volume} {location : Location}
    {written : Bytes} (writing : file.Writing volume location written) {records : List Record}
    (settled : ∀ record ∈ records, record.Settled) :
    ∃ encodings after, (records.filter admits).mapM Record.encode = .ok encodings ∧
      appendAll records file volume = (.ok (), after) ∧
      Wrote location (written ++ encodings.flatten) (file, volume) after := by
  unfold ExecutionFile.appendAll
  induction records generalizing file volume written with
  | nil =>
    refine ⟨[], (file, volume), rfl, rfl, ?_⟩
    rw [List.flatten_nil, List.append_nil]
    exact .refl writing
  | cons record records ih =>
    obtain ⟨own, others⟩ := List.forall_mem_cons.1 settled
    cases belongs : admits record with
    | false =>
      have nothing : file.append record volume = (.ok (), file, volume) := by
        simp [ExecutionFile.append, belongs]
      rw [List.filter_cons_of_neg (by simp [belongs]), handOver, nothing]
      exact ih writing others
    | true =>
      obtain ⟨bytes, encoded⟩ := exists_encode belongs own.writable
      obtain ⟨middle, appended, first⟩ := writing.append belongs encoded
      obtain ⟨encodings, after, rest, handed, wrote⟩ := ih first.writing others
      refine ⟨bytes :: encodings, after, ?_, ?_, ?_⟩
      · rw [List.filter_cons_of_pos belongs, List.mapM_cons, encoded, rest]
        rfl
      · rw [handOver, appended]
        exact handed
      · rw [List.flatten_cons, ← List.append_assoc]
        exact first.trans wrote

/-- **What was received can be passed on.**  A record that was read can be written, unless it is a
project info that is too long, and what is written of it is read as the same record.  All records
that were received can be appended to a file of execution data, which then holds those that belong
there, unchanged and in order. -/
theorem received_passed_on :
    (∀ (tag : UInt8) (source rest : Source) (record : Record),
      (Record.body tag).runOn source = (.ok record, rest) →
        record.tag = tag ∧ ((∃ bytes, record.encode = .ok bytes) ↔ ¬ record.Overlong) ∧
        ∀ bytes, record.encode = .ok bytes →
          ∃ payload, bytes = tag :: payload ∧
            ∀ (again : Source) (behind : Bytes), again.unread = payload ++ behind →
              again.fault = none →
              ∃ left, (Record.body tag).runOn again = (.ok record, left) ∧ left.unread = behind) ∧
    ∀ (records : List Record) (path : Path) (volume made : Volume) (file : ExecutionFile),
      (∀ record ∈ records, record.Received) → create path volume = (.ok file, made) →
        ∃ filled left, appendAll records file made = (.ok (), filled, left) ∧
          ∃ contents, (filled.flush left).2.contentsAt path = .ok contents ∧
            ∀ schedule, (RecordStream.start (.start contents none schedule)).readAll =
              (ownHeader :: records.filter admits, none) := by
  constructor
  · intro tag source rest record read
    obtain ⟨rfl, settled⟩ :=
      Record.gives_body_settled tag source record (congrArg Prod.fst read)
    exact ⟨rfl, settled.exists_encode_iff, fun bytes encoded => settled.runOn_body encoded⟩
  · intro records path volume made file received created
    have settled : ∀ record ∈ records, record.Settled := fun record member =>
      (received record member).settled
    rcases create_cases path volume with ⟨failure, failed⟩ |
      ⟨place, begun, after, -, done, named, writing, -⟩
    · rw [failed] at created
      cases created
    rw [done] at created
    cases created
    obtain ⟨encodings, ⟨filled, left⟩, encoded, appended, wrote⟩ := writing.appendAll settled
    have path' : filled.path = path := wrote.path.trans named
    refine ⟨filled, left, appended, _, path' ▸ wrote.writing.contentsAt_flush, fun schedule => ?_⟩
    have fit : ∀ record ∈ records.filter admits,
        record.Readable ∧ ∀ version, record ≠ .header version := by
      intro record member
      obtain ⟨listed, belongs⟩ := List.mem_filter.1 member
      refine ⟨(settled record listed).readable, ?_⟩
      rintro version rfl
      cases belongs
    have same : (records.filter admits).map Record.normal = records.filter admits :=
      (List.map_congr_left fun record member =>
        (settled record (List.mem_filter.1 member).1).normal).trans (List.map_id _)
    rw [RecordStream.readAll_of_whole schedule encoded fit, same]

/-- A file of execution data can be made in an empty folder. -/
theorem exists_create_in_empty :
    ∃ file made, create ⟨["", "store", "a"]⟩ (.empty ⟨["", "store"]⟩) = (.ok file, made) := by
  have free : (Volume.empty ⟨["", "store"]⟩).place .file ⟨["", "store", "a"]⟩ =
      .ok (.vacant ["a"] false) :=
    Volume.place_eq_ok_iff.2 ⟨by decide +kernel, .free ⟨by decide, by decide⟩ rfl⟩
  exact ⟨_, _, by rw [create, Volume.openFile, free]⟩

/-- A length in two octets, with identifiers out of order, repeated and empty; a time before the
epoch; and bits behind the last one. -/
theorem received_passed_on_of_unusual_spelling :
    let records : List Record := [.sessionInfo ⟨"s", ⟨0⟩, ⟨2⟩⟩, .executionData ⟨1, "A", [true]⟩]
    (∃ left, (Record.body Tag.pullClasses).runOn (.ofBytes [3, 97, 124, 98]) =
        (.ok (.pull ⟨.classes, ⟨["a", "b"], by decide⟩⟩), left) ∧ left.unread = []) ∧
      ∃ file made filled left contents,
        create ⟨["", "store", "a"]⟩ (.empty ⟨["", "store"]⟩) = (.ok file, made) ∧
          appendAll records file made = (.ok (), filled, left) ∧
          (filled.flush left).2.contentsAt ⟨["", "store", "a"]⟩ = .ok contents ∧
          (RecordStream.start (.ofBytes contents)).readAll = (ownHeader :: records, none) := by
  intro records
  constructor
  · have read : ((Record.body Tag.pullClasses).runOn
        (.ofBytes [0x86, 0x00, 98, 124, 124, 97, 124, 98])).1 =
          .ok (.pull ⟨.classes, ⟨["a", "b"], by decide⟩⟩) := by with_unfolding_all rfl
    obtain ⟨-, -, again⟩ := received_passed_on.1 _ _ _ _ (Prod.ext read rfl)
    obtain ⟨payload, tagged, reads⟩ := again [0x16, 3, 97, 124, 98] rfl
    cases tagged
    exact reads _ [] rfl rfl
  · have info : ((Record.body Tag.sessionInfo).runOn
        (.ofBytes [0, 1, 115, 255, 255, 255, 255, 255, 255, 255, 255, 0, 0, 0, 0, 0, 0, 0, 2])).1 =
          .ok (.sessionInfo ⟨"s", ⟨0⟩, ⟨2⟩⟩) := by with_unfolding_all rfl
    have data : ((Record.body Tag.executionData).runOn
        (.ofBytes [0, 0, 0, 0, 0, 0, 0, 1, 0, 1, 65, 0x81, 0, 255])).1 =
          .ok (.executionData ⟨1, "A", [true]⟩) := by with_unfolding_all rfl
    have received : ∀ record ∈ records, record.Received := by
      intro record member
      rcases List.mem_cons.1 member with rfl | member
      · exact ⟨_, _, _, Prod.ext info rfl⟩
      · obtain rfl := List.mem_singleton.1 member
        exact ⟨_, _, _, Prod.ext data rfl⟩
    obtain ⟨file, made, created⟩ := exists_create_in_empty
    obtain ⟨filled, left, appended, contents, there, reads⟩ :=
      received_passed_on.2 records _ _ made file received created
    exact ⟨file, made, filled, left, contents, created, appended, there, reads .prompt⟩

end ExecutionFile
end Collector
end CoverageLink
