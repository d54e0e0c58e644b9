import CoverageLink.Collector.ExecutionFile
import CoverageLink.Proofs.Files.Making
import CoverageLink.Proofs.Record.Rewrite
import CoverageLink.Proofs.Wire.Fields

/-!
# What stands in a file of execution data

A file of execution data is written through a buffer, so what its volume shows lags behind what was
appended.  The invariant is the sum of the two (`ExecutionFile.Writing`): the octets on disk and the
octets held back are, one behind the other, what was written so far, and the next octets that are
passed on go to the end of the file.

Whatever is done to the file adds to that sum at its end, and changes the volume at the place of the
file only.  It is enough to look at a single piece (`Writing.write`): an appended record is a row of
them.  When the file is flushed nothing is held back, and its path leads to everything that was
written (`Writing.contentsAt_flush`).

What somebody else does to the volume does not matter as long as it is done elsewhere
(`Writing.frame`).
-/

namespace CoverageLink
namespace Files
namespace Volume

variable {volume : Volume} {location : Location} {number : Nat} {contents : Bytes}

/-- Octets that are written at the end of a file are added to it. -/
theorem at?_writeAt_length (there : volume.at? location = some (.file number contents))
    (bytes : Bytes) :
    (volume.writeAt number contents.length bytes).at? location =
      some (.file number (contents ++ bytes)) := by
  have behind : overwrite contents contents.length bytes = contents ++ bytes := by
    simp [overwrite]
  rw [writeAt, at?_alterFile, there, Option.map_some, alterEntry, if_pos rfl, behind]

end Volume
end Files

namespace Collector
namespace ExecutionFile

/-- Execution data with short enough texts can be encoded. -/
theorem exists_encode {record : Record} (belongs : admits record = true)
    (writable : record.Writable) : ∃ bytes, record.encode = .ok bytes := by
  refine Wire.Emission.exists_complete fun field member => ?_
  cases record with
  | sessionInfo info =>
    rcases List.mem_cons.1 member with rfl | member
    · exact ⟨_, rfl⟩
    rcases List.mem_cons.1 member with rfl | member
    · exact Wire.Field.exists_encode_text writable
    rcases List.mem_cons.1 member with rfl | member
    · exact ⟨_, rfl⟩
    · obtain rfl := List.mem_singleton.1 member
      exact ⟨_, rfl⟩
  | executionData data =>
    rcases List.mem_cons.1 member with rfl | member
    · exact ⟨_, rfl⟩
    rcases List.mem_cons.1 member with rfl | member
    · exact ⟨_, rfl⟩
    rcases List.mem_cons.1 member with rfl | member
    · exact Wire.Field.exists_encode_text writable
    · obtain rfl := List.mem_singleton.1 member
      exact ⟨_, rfl⟩
  | _ => cases belongs

open Files (Path Volume Location)
open Files.Volume (Changes)

@[simp] theorem path_pass (file : ExecutionFile) (bytes : Bytes) (volume : Volume) :
    (file.pass bytes volume).1.path = file.path := by
  unfold ExecutionFile.pass
  split <;> rfl

@[simp] theorem path_flush (file : ExecutionFile) (volume : Volume) :
    (file.flush volume).1.path = file.path :=
  path_pass file file.pending.toList volume

@[simp] theorem path_write (piece : Bytes) (file : ExecutionFile) (volume : Volume) :
    (write piece (file, volume)).1.path = file.path := by
  unfold write
  simp only
  split
  · rfl
  · split <;> split <;> simp [hold]

theorem path_writePieces (file : ExecutionFile) (pieces : List Bytes) (volume : Volume) :
    (file.writePieces pieces volume).1.path = file.path := by
  unfold writePieces
  induction pieces generalizing file volume with
  | nil => rfl
  | cons piece pieces ih => exact (ih _ _).trans (path_write piece file volume)

theorem path_append (file : ExecutionFile) (record : Record) (volume : Volume) :
    (file.append record volume).2.1.path = file.path := by
  unfold append
  split
  · rfl
  · simp only
    split <;> exact file.path_writePieces _ _

@[simp] theorem records_write (piece : Bytes) (file : ExecutionFile) (volume : Volume) :
    (write piece (file, volume)).1.records = file.records := by
  unfold write
  simp only
  split
  · rfl
  · split <;> split <;> simp [hold]

/-- Writing counts nothing. -/
theorem records_writePieces (file : ExecutionFile) (pieces : List Bytes) (volume : Volume) :
    (file.writePieces pieces volume).1.records = file.records := by
  unfold writePieces
  induction pieces generalizing file volume with
  | nil => rfl
  | cons piece pieces ih => exact (ih _ _).trans (records_write piece file volume)

/-- A record that can be encoded is appended as its octets, in pieces. -/
theorem append_of_encode {record : Record} {bytes : Bytes} (belongs : admits record = true)
    (encoded : record.encode = .ok bytes) (file : ExecutionFile) (volume : Volume) :
    record.emission.pieces.flatten = bytes ∧
      ∃ records, file.append record volume = (.ok (),
        { (file.writePieces record.emission.pieces volume).1 with records },
        (file.writePieces record.emission.pieces volume).2) := by
  unfold Record.encode Wire.Emission.complete at encoded
  split at encoded
  · rename_i whole
    refine ⟨Except.ok.inj encoded,
      (file.writePieces record.emission.pieces volume).1.records + 1, ?_⟩
    unfold append
    rw [belongs]
    simp only [Bool.not_true, Bool.false_eq_true, if_false, whole]
  · cases encoded

/-- Short enough texts are all that appending needs. -/
theorem append_of_writable (file : ExecutionFile) {record : Record} (belongs : admits record = true)
    (writable : record.Writable) (volume : Volume) :
    (file.append record volume).1 = .ok () ∧ (file.append record volume).2.1.path = file.path := by
  obtain ⟨bytes, encoded⟩ := exists_encode belongs writable
  obtain ⟨-, records, appended⟩ := append_of_encode belongs encoded file volume
  rw [appended]
  exact ⟨rfl, file.path_writePieces _ _⟩

/-- A file is being written at a place of its volume: so much was written so far. -/
structure Writing (file : ExecutionFile) (volume : Volume) (location : Location)
    (written : Bytes) : Prop where
  led : ∃ entry, volume.entryAt file.path = .ok (location, entry)
  stands : ∃ passed, volume.at? location = some (.file file.number passed) ∧
    file.offset = passed.length ∧ written = passed ++ file.pending.toList

/-- What was done to a file: so much was written, and nothing else was changed. -/
structure Wrote (location : Location) (written : Bytes) (before after : ExecutionFile × Volume) :
    Prop where
  writing : after.1.Writing after.2 location written
  path : after.1.path = before.1.path
  changes : Changes (fun other => other = location) before.2 after.2

variable {file : ExecutionFile} {volume : Volume} {location : Location} {written : Bytes}

namespace Wrote

variable {before middle after : ExecutionFile × Volume} {earlier : Bytes}

theorem refl (writing : file.Writing volume location written) :
    Wrote location written (file, volume) (file, volume) :=
  ⟨writing, rfl, .refl _⟩

theorem trans (first : Wrote location earlier before middle)
    (second : Wrote location written middle after) : Wrote location written before after :=
  ⟨second.writing, second.path.trans first.path, first.changes.trans second.changes⟩

end Wrote

namespace Writing

/-- Whatever is done elsewhere leaves the file as it is. -/
theorem frame (writing : file.Writing volume location written) (sound : volume.Sound)
    {places : Location → Prop} {after : Volume} (changes : Changes places volume after)
    (elsewhere : ¬ places location) : file.Writing after location written := by
  obtain ⟨⟨entry, led⟩, passed, there, behind, sum⟩ := writing
  obtain ⟨now, led, -⟩ := changes.keeps.entryAt led
  exact ⟨⟨now, led⟩, passed, (changes.at?_of_not sound elsewhere).trans there, behind, sum⟩

/-- Octets that are passed on stand at the end of the file. -/
theorem pass (writing : file.Writing volume location written) {passed : Bytes}
    (there : volume.at? location = some (.file file.number passed))
    (behind : file.offset = passed.length) (bytes : Bytes) :
    (file.pass bytes volume).2.at? location = some (.file file.number (passed ++ bytes)) ∧
      (file.pass bytes volume).1 = { file with offset := (passed ++ bytes).length } ∧
      Changes (fun other => other = location) volume (file.pass bytes volume).2 ∧
      ∃ entry, (file.pass bytes volume).2.entryAt file.path = .ok (location, entry) := by
  unfold ExecutionFile.pass
  split
  · rename_i nothing
    obtain rfl := List.isEmpty_iff.1 nothing
    rw [List.append_nil, ← behind]
    exact ⟨there, rfl, .refl _, writing.led⟩
  · have change : volume.Change location (volume.writeAt file.number file.offset bytes) :=
      .contents _ there
    obtain ⟨entry, led⟩ := writing.led
    obtain ⟨now, led, -⟩ := change.keeps.entryAt led
    refine ⟨?_, ?_, .single rfl change, now, led⟩
    · rw [behind]
      exact Volume.at?_writeAt_length there bytes
    · rw [List.length_append, behind]

/-- **After a flush nothing is held back**: all that was written stands in the file. -/
theorem flush (writing : file.Writing volume location written) :
    Wrote location written (file, volume) (file.flush volume) ∧
      (file.flush volume).1.pending = #[] ∧
      (file.flush volume).2.at? location = some (.file file.number written) := by
  obtain ⟨passed, there, behind, sum⟩ := writing.stands
  obtain ⟨there', file', changes, led⟩ := writing.pass there behind file.pending.toList
  rw [← sum] at there' file'
  unfold ExecutionFile.flush
  generalize file.pass file.pending.toList volume = after at there' file' changes led
  obtain ⟨_, after⟩ := after
  simp only at file'
  subst file'
  exact ⟨⟨⟨led, written, there', rfl, (List.append_nil _).symm⟩, rfl, changes⟩, rfl, there'⟩

/-- **A piece that is written comes behind what was written.** -/
theorem write (writing : file.Writing volume location written) (piece : Bytes) :
    Wrote location (written ++ piece) (file, volume) (write piece (file, volume)) := by
  have held {file : ExecutionFile} {volume : Volume}
      (writing : file.Writing volume location written) :
      Wrote location (written ++ piece) (file, volume) (file.hold piece, volume) := by
    obtain ⟨passed, there, behind, sum⟩ := writing.stands
    refine ⟨⟨writing.led, passed, there, behind, ?_⟩, rfl, .refl _⟩
    rw [sum, hold, Array.toList_append, List.append_assoc]
  unfold ExecutionFile.write
  simp only
  split
  · exact held writing
  rename_i noRoom
  -- what was held back is passed on if the piece does not fit behind it
  have emptied : ∃ earlier, earlier =
      (if capacity - file.pending.size < piece.length then file.flush volume
        else (file, volume)) ∧ Wrote location written (file, volume) earlier ∧
      (capacity ≤ piece.length → earlier.1.pending = #[]) := by
    obtain ⟨wrote, nothing, -⟩ := writing.flush
    split
    · exact ⟨_, rfl, wrote, fun _ => nothing⟩
    · refine ⟨_, rfl, .refl writing, fun large => Array.size_eq_zero_iff.1 ?_⟩
      show file.pending.size = 0
      have most : capacity = 8192 := rfl
      omega
  obtain ⟨⟨earlier, middle⟩, same, wrote, nothing⟩ := emptied
  rw [← same]
  simp only
  split
  · rename_i large
    obtain ⟨passed, there, behind, sum⟩ := wrote.writing.stands
    obtain ⟨there', file', changes, led⟩ := wrote.writing.pass there behind piece
    have empty : earlier.pending = #[] := nothing large
    rw [empty, Array.toList_empty, List.append_nil] at sum
    refine wrote.trans ⟨?_, by rw [file'], changes⟩
    rw [file', sum]
    exact ⟨led, _, there', rfl, by rw [empty]; exact (List.append_nil _).symm⟩
  · exact wrote.trans (held wrote.writing)

theorem writePieces (writing : file.Writing volume location written) (pieces : List Bytes) :
    Wrote location (written ++ pieces.flatten) (file, volume) (file.writePieces pieces volume) := by
  unfold ExecutionFile.writePieces
  induction pieces generalizing file volume written with
  | nil =>
    rw [List.flatten_nil, List.append_nil]
    exact .refl writing
  | cons piece pieces ih =>
    have first := writing.write piece
    rw [List.foldl_cons, List.flatten_cons, ← List.append_assoc]
    exact first.trans (ih first.writing)

/-- **A record that is appended comes behind what was written**, if it belongs there and can be
encoded. -/
theorem append (writing : file.Writing volume location written) {record : Record} {bytes : Bytes}
    (belongs : admits record = true) (encoded : record.encode = .ok bytes) :
    ∃ after, file.append record volume = (.ok (), after) ∧
      Wrote location (written ++ bytes) (file, volume) after := by
  obtain ⟨rfl, records, appended⟩ := append_of_encode belongs encoded file volume
  obtain ⟨⟨led, stands⟩, path, changes⟩ := writing.writePieces record.emission.pieces
  exact ⟨_, appended, ⟨led, stands⟩, path, changes⟩

/-- **What was written is found under the path of the file** once it is flushed. -/
theorem contentsAt_flush (writing : file.Writing volume location written) :
    (file.flush volume).2.contentsAt file.path = .ok written := by
  obtain ⟨wrote, -, there⟩ := writing.flush
  obtain ⟨entry, led⟩ := wrote.writing.led
  rw [wrote.path] at led
  obtain rfl := Option.some.inj ((Volume.at?_of_entryAt led).symm.trans there)
  rw [Volume.contentsAt, led]

end Writing

/-- **A file of execution data begins with a header.** -/
theorem create_cases (path : Path) (volume : Volume) :
    (∃ failure, create path volume = (.error failure, volume)) ∨
      ∃ place file after, volume.place .file path = .ok place ∧
        create path volume = (.ok file, after) ∧ file.path = path ∧
        file.Writing after place.location Record.streamHeader ∧
        Changes (fun location => location = place.location) volume after := by
  unfold create
  rcases volume.openFile_emptied path with ⟨failure, failed⟩ |
    ⟨place, number, opened, led, done, change, found⟩
  · rw [failed]
    exact .inl ⟨failure, rfl⟩
  · rw [done]
    have empty : Writing ⟨path, number, 0, #[], 0⟩ opened place.location [] :=
      ⟨⟨_, found⟩, [], Volume.at?_of_entryAt found, rfl, rfl⟩
    obtain ⟨writing, same, changes⟩ := empty.writePieces Record.ownHeader.emission.pieces
    have first : Changes (fun location => location = place.location) volume opened :=
      .single rfl change
    exact .inr ⟨place, _, _, led, rfl, same, writing, first.trans changes⟩

end ExecutionFile
end Collector
end CoverageLink
