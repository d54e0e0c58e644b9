import CoverageLink.Proofs.Collector.Appended

/-!
# Files of execution data after a refusal

A record is put into a file piece by piece, and it may turn out at its second piece, or at its
third, that it cannot be written at all.  The caller is told so, and the record is not counted; but
the pieces before stay in the file.

## 1.  One record

`outcomeOf` is what the caller is told and `putOut` is what is in the file afterwards
(`Writing.append_any`).  Of a refused record that is its tag, and the identifier of the class if it
has one: the beginning of a record, but never a whole one (`exists_missing_of_refused`).

## 2.  Many records

Nothing that was put out is ever taken back, so the file holds what was put out of each record, one
behind the other (`Writing.appendEach`).

## 3.  The law

The file is the header and the records that were accepted if and only if no record was refused
(`whole_iff_none_refused`).  What was accepted before the first refusal is read; then the reader
takes what was put out of the refused record for the beginning of the next one.
-/

namespace CoverageLink

open Record (ownHeader streamHeader)
open Wire (Emission Field)

namespace Collector
namespace ExecutionFile

open Files (Location Path Volume)

/-! ## 1.  One record -/

/-- What the caller of `append` is told. -/
def outcomeOf (record : Record) : Except Failure Unit :=
  if admits record then record.encode.map fun _ => () else .ok ()

/-- What `append` puts out of a record, be it refused or not. -/
def putOut (record : Record) : Bytes := if admits record then record.emission.bytes else []

/-- Whether a record belongs into a file of execution data and can be written. -/
def accepts (record : Record) : Bool := admits record && record.encode.isOk

variable {file : ExecutionFile} {volume : Volume} {location : Location} {written : Bytes}
  {record : Record} {failure : Failure}

/-- A record that belongs into the file is written as far as it goes, and counted if that is all of
it. -/
theorem append_of_admits (belongs : admits record = true) (file : ExecutionFile) (volume : Volume) :
    file.append record volume = (outcomeOf record,
      { (file.writePieces record.emission.pieces volume).1 with
        records := file.records + if accepts record then 1 else 0 },
      (file.writePieces record.emission.pieces volume).2) := by
  have counted := records_writePieces file record.emission.pieces volume
  unfold ExecutionFile.append outcomeOf accepts Record.encode Emission.complete
  simp only [belongs, Bool.not_true, Bool.false_eq_true, if_false, if_true, Bool.true_and]
  cases record.emission.fault with
  | none =>
    simp only [counted]
    rfl
  | some failure =>
    refine Prod.ext rfl (Prod.ext ?_ rfl)
    rw [← counted]
    rfl

/-- **What is appended comes behind what was written**, even if it is not a whole record. -/
theorem Writing.append_any (writing : file.Writing volume location written) (record : Record) :
    (file.append record volume).1 = outcomeOf record ∧
      Wrote location (written ++ putOut record) (file, volume) (file.append record volume).2 ∧
      (file.append record volume).2.1.records =
        file.records + if accepts record then 1 else 0 := by
  cases belongs : admits record with
  | false =>
    have ignored : file.append record volume = (.ok (), file, volume) := by
      rw [ExecutionFile.append, belongs]
      rfl
    rw [ignored, outcomeOf, putOut, accepts, belongs, if_neg Bool.false_ne_true,
      if_neg Bool.false_ne_true, List.append_nil]
    exact ⟨rfl, .refl writing, rfl⟩
  | true =>
    obtain ⟨⟨led, stands⟩, path, changes⟩ := writing.writePieces record.emission.pieces
    rw [append_of_admits belongs, putOut, if_pos belongs]
    exact ⟨rfl, ⟨⟨led, stands⟩, path, changes⟩, rfl⟩

theorem accepts_iff : accepts record = true ↔ admits record = true ∧ outcomeOf record = .ok () := by
  unfold accepts outcomeOf
  cases admits record with
  | false => simp
  | true => cases record.encode <;> simp [Except.isOk, Except.toBool, Except.map]

/-- A record that is accepted is put out whole. -/
theorem encode_of_accepts (accepted : accepts record = true) :
    record.encode = .ok (putOut record) := by
  obtain ⟨belongs, told⟩ := accepts_iff.1 accepted
  rw [outcomeOf, if_pos belongs] at told
  rw [putOut, if_pos belongs]
  unfold Record.encode Emission.complete at told ⊢
  cases fault : record.emission.fault with
  | none => rfl
  | some failure =>
    rw [fault] at told
    cases told

/-- Of a record that is neither accepted nor refused nothing is put out. -/
theorem putOut_of_not_accepts (told : outcomeOf record = .ok ()) (not : ¬ accepts record = true) :
    putOut record = [] := by
  have stranger : ¬ admits record = true := fun belongs => not (accepts_iff.2 ⟨belongs, told⟩)
  rw [putOut, if_neg stranger]

/-- Nothing is refused but a record with a text that is too long. -/
theorem outcomeOf_eq_ok_of_writable (writable : record.Writable) : outcomeOf record = .ok () := by
  unfold outcomeOf
  split
  · rename_i belongs
    obtain ⟨bytes, encoded⟩ := exists_encode belongs writable
    rw [encoded]
    rfl
  · rfl

/-- The data of a class without a name and without probes. -/
theorem encode_nameless (id : Int64) : (Record.executionData ⟨id, "", []⟩).encode =
    .ok ((Tag.executionData :: Bytes.bigEndian 8 id.toUInt64.toNat) ++ [0, 0, 0]) := by
  have probes : (Field.bits []).encode = .ok [0] := by
    rw [Field.encode_bits, Wire.pack_nil]
    rfl
  have number : (Field.long id).encode = .ok (Bytes.bigEndian 8 id.toUInt64.toNat) := by
    rw [Field.encode, Field.pieces, Except.map, List.flatten_singleton]
  have row₁ : (Emission.ofFields [.bits []]).complete = .ok [0] :=
    Emission.complete_ofFields_cons.2 ⟨[0], [], probes, rfl, rfl⟩
  have row₂ : (Emission.ofFields [.text "", .bits []]).complete = .ok [0, 0, 0] :=
    Emission.complete_ofFields_cons.2 ⟨[0, 0], [0], rfl, row₁, rfl⟩
  have row₃ := Emission.complete_ofFields_cons.2 ⟨_, _, number, row₂, rfl⟩
  exact Emission.complete_ofFields_cons.2 ⟨[Tag.executionData], _, rfl, row₃, rfl⟩

/-- A text that is too long ends what is written. -/
theorem ofFields_of_long {text : String} (long : Wire.maxText < (Utf8.encode text).length)
    (rest : List Field) :
    Emission.ofFields (.text text :: rest) = ⟨[], some (.textTooLong (Utf8.encode text).length)⟩ := by
  rw [Emission.ofFields, Field.pieces, Field.textPieces, if_pos long]

theorem emission_of_long_id {info : SessionInfo}
    (long : Wire.maxText < (Utf8.encode info.id).length) :
    (Record.sessionInfo info).emission =
      ⟨[[Tag.sessionInfo]], some (.textTooLong (Utf8.encode info.id).length)⟩ := by
  rw [Record.emission, Record.fields, Emission.ofFields, Field.pieces, ofFields_of_long long]
  rfl

theorem emission_of_long_name {data : ExecutionData}
    (long : Wire.maxText < (Utf8.encode data.name).length) :
    (Record.executionData data).emission =
      ⟨[[Tag.executionData], Bytes.bigEndian 8 data.id.toUInt64.toNat],
        some (.textTooLong (Utf8.encode data.name).length)⟩ := by
  rw [Record.emission, Record.fields, Emission.ofFields, Field.pieces, Emission.ofFields, Field.pieces,
    ofFields_of_long long]
  rfl

/-- **What a refused record leaves** is the beginning of a record, and never all of it. -/
theorem exists_missing_of_refused (refused : outcomeOf record = .error failure) :
    ∃ (whole : Record) (missing : Bytes), whole.encode = .ok (putOut record ++ missing) ∧
      missing ≠ [] ∧ putOut record ≠ [] ∧ whole.Readable ∧
      ∀ version, whole ≠ .header version := by
  have long : ¬ record.Writable := fun writable =>
    nomatch refused.symm.trans (outcomeOf_eq_ok_of_writable writable)
  cases record with
  | sessionInfo info =>
    have part : putOut (.sessionInfo info) = [Tag.sessionInfo] :=
      congrArg Emission.bytes (emission_of_long_id (Nat.not_le.1 long))
    rw [part]
    exact ⟨.sessionInfo ⟨"", ⟨0⟩, ⟨0⟩⟩, List.replicate 18 0, rfl, by decide, by decide, trivial,
      fun _ same => nomatch same⟩
  | executionData data =>
    have part : putOut (.executionData data) =
        Tag.executionData :: Bytes.bigEndian 8 data.id.toUInt64.toNat :=
      congrArg Emission.bytes (emission_of_long_name (Nat.not_le.1 long))
    rw [part]
    exact ⟨_, [0, 0, 0], encode_nameless data.id, by decide, List.cons_ne_nil _ _, Nat.zero_le _,
      fun _ same => nomatch same⟩
  | _ => exact absurd trivial long

/-- Nothing is counted in a new file. -/
theorem create_records {path : Path} {made : Volume}
    (created : create path volume = (.ok file, made)) : file.records = 0 := by
  unfold create at created
  split at created
  · cases created
  · obtain ⟨same, -⟩ := Prod.mk.inj created
    cases same
    exact records_writePieces _ _ _

/-! ## 2.  Many records -/

/-- Appends records, one after the other, whatever becomes of each of them. -/
def appendEach : List Record → ExecutionFile → Volume →
    List (Except Failure Unit) × ExecutionFile × Volume
  | [], file, volume => ([], file, volume)
  | record :: records, file, volume =>
    let appended := file.append record volume
    let further := appendEach records appended.2.1 appended.2.2
    (appended.1 :: further.1, further.2)

/-- **All that was put out stands in the file**, in the order in which it was put out. -/
theorem Writing.appendEach (writing : file.Writing volume location written)
    (records : List Record) :
    (appendEach records file volume).1 = records.map outcomeOf ∧
      Wrote location (written ++ records.flatMap putOut) (file, volume)
        (appendEach records file volume).2 ∧
      (appendEach records file volume).2.1.records = file.records + records.countP accepts := by
  induction records generalizing file volume written with
  | nil =>
    rw [List.flatMap_nil, List.append_nil]
    exact ⟨rfl, .refl writing, rfl⟩
  | cons record records ih =>
    obtain ⟨told, wrote, counted⟩ := writing.append_any record
    obtain ⟨others, behind, further⟩ := ih wrote.writing
    rw [List.append_assoc, ← List.flatMap_cons] at behind
    refine ⟨congr (congrArg _ told) others, wrote.trans behind, ?_⟩
    rw [counted] at further
    rw [List.countP_cons, Nat.add_comm (records.countP accepts), ← Nat.add_assoc]
    exact further

/-- The records that were accepted were put out whole. -/
theorem mapM_encode_filter_accepts (records : List Record) :
    (records.filter accepts).mapM Record.encode = .ok ((records.filter accepts).map putOut) := by
  induction records with
  | nil => rfl
  | cons record records ih =>
    by_cases accepted : accepts record = true
    · rw [List.filter_cons_of_pos accepted, List.mapM_cons, encode_of_accepts accepted, ih]
      rfl
    · rw [List.filter_cons_of_neg accepted, ih]

/-- What was put out of records is what was put out of those that were accepted, and of the
others. -/
theorem length_flatMap_putOut (records : List Record) :
    (records.flatMap putOut).length = ((records.filter accepts).flatMap putOut).length +
      ((records.filter fun record => !accepts record).flatMap putOut).length := by
  induction records with
  | nil => rfl
  | cons record records ih =>
    rw [List.flatMap_cons, List.length_append, ih]
    cases accepted : accepts record with
    | true =>
      rw [List.filter_cons_of_pos accepted, List.filter_cons_of_neg (by simp [accepted]),
        List.flatMap_cons, List.length_append, Nat.add_assoc]
    | false =>
      rw [List.filter_cons_of_neg (by simp [accepted]), List.filter_cons_of_pos (by simp [accepted]),
        List.flatMap_cons, List.length_append, Nat.add_left_comm]

/-- **Nothing but accepted records was put out** exactly if none was refused. -/
theorem flatMap_filter_accepts_iff (records : List Record) :
    (records.filter accepts).flatMap putOut = records.flatMap putOut ↔
      ∀ record ∈ records, outcomeOf record = .ok () := by
  constructor
  · intro same record member
    rcases told : outcomeOf record with failure | _
    · obtain ⟨-, -, -, -, some, -⟩ := exists_missing_of_refused told
      have turned : (!accepts record) = true := by
        rw [Bool.not_eq_true', Bool.eq_false_iff]
        exact fun accepted => nomatch told.symm.trans (accepts_iff.1 accepted).2
      have nothing : ((records.filter fun record => !accepts record).flatMap putOut) = [] := by
        have lengths := length_flatMap_putOut records
        rw [same] at lengths
        exact List.length_eq_zero_iff.1 (by omega)
      exact absurd (List.flatMap_eq_nil_iff.1 nothing record (List.mem_filter.2 ⟨member, turned⟩)) some
    · rfl
  · intro told
    induction records with
    | nil => rfl
    | cons record records ih =>
      obtain ⟨own, others⟩ := List.forall_mem_cons.1 told
      rw [List.flatMap_cons]
      by_cases accepted : accepts record = true
      · rw [List.filter_cons_of_pos accepted, List.flatMap_cons, ih others]
      · rw [List.filter_cons_of_neg accepted, ih others, putOut_of_not_accepts own accepted,
          List.nil_append]

/-! ## 3.  The law -/

/-- Accepted records are no headers. -/
theorem fits_of_accepts {records : List Record}
    (readable : ∀ record ∈ records.filter accepts, record.Readable) :
    ∀ record ∈ records.filter accepts,
      record.Readable ∧ ∀ version, record ≠ .header version := by
  intro record member
  refine ⟨readable record member, ?_⟩
  rintro version rfl
  cases (List.mem_filter.1 member).2

/-- **What is read of a file with a refused record in it.**  The records before it are read, and
then the reader goes on with what was put out of it.  If nothing comes behind that, then the file
ends in the middle of a record. -/
theorem readAll_of_refused {before after : List Record} {refused : Record}
    (whole : ∀ record ∈ before, outcomeOf record = .ok () ∧ record.Readable)
    (told : outcomeOf refused = .error failure) (schedule : Wire.Schedule) :
    ∃ behind : RecordStream, behind.opened = true ∧
      behind.source.unread = putOut refused ++ after.flatMap putOut ∧
      (RecordStream.start (.start
          (streamHeader ++ (before ++ refused :: after).flatMap putOut) none schedule)).readAll =
        (ownHeader :: (before.filter accepts).map Record.normal ++ behind.readAll.1,
          behind.readAll.2) ∧
      ((∀ record ∈ after, admits record = false) →
        ∃ failure : Failure, failure.kind = .unexpectedEof ∧
          behind.readAll = ([], some failure)) := by
  let accepted := (before.filter accepts).map putOut
  let broken := putOut refused ++ after.flatMap putOut
  have readable : ∀ record ∈ before.filter accepts, record.Readable := fun record member =>
    (whole record (List.mem_filter.1 member).1).2
  have written := (RecordStream.Written.of_mapM (mapM_encode_filter_accepts before)
    (fits_of_accepts readable)).opening
  have contents : streamHeader ++ (before ++ refused :: after).flatMap putOut =
      (streamHeader :: accepted).flatten ++ broken := by
    have complete := (flatMap_filter_accepts_iff before).2 fun record member =>
      (whole record member).1
    rw [List.flatMap_append, ← complete, List.flatMap_cons, List.flatten_cons,
      List.append_assoc, ← List.flatMap_def]
  have holds : RecordStream.Holds
      (RecordStream.start (.start
        (streamHeader ++ (before ++ refused :: after).flatMap putOut) none schedule)) false
      ((streamHeader :: accepted).flatten ++ broken) := ⟨rfl, contents, rfl⟩
  obtain ⟨behind, left, read⟩ := holds.readAll_append written
  refine ⟨behind, left.opened, left.unread, read, fun strangers => ?_⟩
  have alone : broken = putOut refused := by
    have nothing : after.flatMap putOut = [] := List.flatMap_eq_nil_iff.2 fun record member => by
      rw [putOut, strangers record member]
      rfl
    rw [show broken = putOut refused ++ after.flatMap putOut from rfl, nothing, List.append_nil]
  obtain ⟨record, missing, encoded, absent, begun, readable, noHeader⟩ :=
    exists_missing_of_refused told
  rw [alone] at left
  exact left.readAll_cut encoded readable (Record.legal_of_ne_header noHeader) begun absent

/-- **Whole files.**  Records are appended to a new file, whatever becomes of each of them, and then
it is flushed.  Each call tells whether its record can be written, and those that can are counted.
The file is the header and the accepted records if and only if no record was refused, and then these
are read, in order and to a clean end.  Up to the first refusal they are read in any case; but if
nothing comes behind the refused record, then the end of the file is reported as an error. -/
theorem whole_iff_none_refused {path : Path} {volume made : Volume} {file : ExecutionFile}
    (created : create path volume = (.ok file, made)) (records : List Record) :
    let run := appendEach records file made
    let accepted := records.filter accepts
    let whole := ∀ record ∈ records, outcomeOf record = .ok ()
    ∃ contents encodings,
      run.1 = records.map outcomeOf ∧ run.2.1.records = accepted.length ∧
      (run.2.1.flush run.2.2).2.contentsAt path = .ok contents ∧
      accepted.mapM Record.encode = .ok encodings ∧
      (contents = streamHeader ++ encodings.flatten ↔ whole) ∧
      (whole → (∀ record ∈ accepted, record.Readable) → ∀ schedule,
        (RecordStream.start (.start contents none schedule)).readAll =
          (ownHeader :: accepted.map Record.normal, none)) ∧
      ∀ before refused after failure, records = before ++ refused :: after →
        (∀ record ∈ before, outcomeOf record = .ok () ∧ record.Readable) →
        outcomeOf refused = .error failure → ∀ schedule, ∃ behind : RecordStream,
          behind.opened = true ∧
          behind.source.unread = putOut refused ++ after.flatMap putOut ∧
          (RecordStream.start (.start contents none schedule)).readAll =
            (ownHeader :: (before.filter accepts).map Record.normal ++ behind.readAll.1,
              behind.readAll.2) ∧
          ((∀ record ∈ after, admits record = false) →
            ∃ failure : Failure, failure.kind = .unexpectedEof ∧
              behind.readAll = ([], some failure)) := by
  intro run accepted whole
  rcases create_cases path volume with ⟨failure, failed⟩ |
    ⟨place, begun, after, -, done, named, writing, -⟩
  · rw [failed] at created
    cases created
  rw [done] at created
  cases created
  obtain ⟨told, wrote, counted⟩ := writing.appendEach records
  have path' : run.2.1.path = path := wrote.path.trans named
  have encoded := mapM_encode_filter_accepts records
  have same : streamHeader ++ records.flatMap putOut =
      streamHeader ++ (accepted.map putOut).flatten ↔ whole := by
    rw [List.append_cancel_left_eq, ← List.flatMap_def, eq_comm]
    exact flatMap_filter_accepts_iff records
  refine ⟨streamHeader ++ records.flatMap putOut, accepted.map putOut, told, ?_,
    path' ▸ wrote.writing.contentsAt_flush, encoded, same, fun complete readable schedule => ?_, ?_⟩
  · rw [counted, create_records done, Nat.zero_add, List.countP_eq_length_filter]
  · rw [same.2 complete]
    exact RecordStream.readAll_of_whole schedule encoded (fits_of_accepts readable)
  · rintro before refused after failure rfl earlier refusal schedule
    exact readAll_of_refused earlier refusal schedule

/-- Nothing that is appended here is refused, and the sign of life is no part of the file. -/
theorem whole_iff_none_refused_of_session :
    let path : Path := ⟨["", "store", "a"]⟩
    let records : List Record := [.sessionInfo ⟨"s", ⟨1⟩, ⟨2⟩⟩, .heartbeat]
    ∃ file made, create path (.empty ⟨["", "store"]⟩) = (.ok file, made) ∧
      let run := appendEach records file made
      run.1 = [.ok (), .ok ()] ∧ run.2.1.records = 1 ∧
      ∃ contents, (run.2.1.flush run.2.2).2.contentsAt path = .ok contents ∧
        (RecordStream.start (.ofBytes contents)).readAll =
          ([ownHeader, .sessionInfo ⟨"s", ⟨1⟩, ⟨2⟩⟩], none) := by
  intro path records
  obtain ⟨file, made, created⟩ := exists_create_in_empty
  obtain ⟨contents, -, told, counted, found, -, -, read, -⟩ :=
    whole_iff_none_refused created records
  have whole : ∀ record ∈ records, outcomeOf record = .ok () := by
    simp only [records, List.forall_mem_cons]
    exact ⟨rfl, rfl, List.forall_mem_nil _⟩
  have readable : ∀ record ∈ records.filter accepts, record.Readable := by
    intro record member
    have session : record = .sessionInfo ⟨"s", ⟨1⟩, ⟨2⟩⟩ := List.mem_singleton.1 member
    rw [session]
    trivial
  exact ⟨file, made, created, told, counted, contents, found, read whole readable .prompt⟩

/-- The data of a class whose name is too long is refused, and the file does not end cleanly: it
has the beginning of a record that is not counted. -/
theorem not_whole_of_long_name :
    let path : Path := ⟨["", "store", "a"]⟩
    let refused := Record.executionData ⟨1, String.ofList (List.replicate 65536 'x'), []⟩
    ∃ file made, create path (.empty ⟨["", "store"]⟩) = (.ok file, made) ∧
      let run := appendEach [refused] file made
      run.1 = [.error (.textTooLong 65536)] ∧ run.2.1.records = 0 ∧
      ∃ contents failure, (run.2.1.flush run.2.2).2.contentsAt path = .ok contents ∧
        failure.kind = .unexpectedEof ∧
        (RecordStream.start (.ofBytes contents)).readAll = ([ownHeader], some failure) := by
  have octets : (Utf8.encode (String.ofList (List.replicate 65536 'x'))).length = 65536 := by
    rw [Utf8.encode, String.toList_ofList, List.length_flatMap, List.map_replicate,
      List.sum_replicate_nat]
    decide
  generalize String.ofList (List.replicate 65536 'x') = name at octets ⊢
  intro path refused
  have told : outcomeOf refused = .error (.textTooLong 65536) := by
    rw [← octets, outcomeOf, Record.encode, emission_of_long_name (by rw [octets]; decide)]
    rfl
  have turned : accepts refused = false :=
    Bool.eq_false_iff.2 fun accepted => by cases told.symm.trans (accepts_iff.1 accepted).2
  obtain ⟨file, made, created⟩ := exists_create_in_empty
  rcases create_cases path (.empty ⟨["", "store"]⟩) with ⟨failure, failed⟩ |
    ⟨place, begun, after, -, done, named, writing, -⟩
  · rw [failed] at created
    cases created
  obtain ⟨answers, wrote, counted⟩ := writing.appendEach [refused]
  obtain ⟨behind, -, -, read, torn⟩ :=
    @readAll_of_refused _ [] [] _ (List.forall_mem_nil _) told .prompt
  obtain ⟨failure, eof, nothing⟩ := torn (List.forall_mem_nil _)
  refine ⟨begun, after, done, ?_, ?_, streamHeader ++ [refused].flatMap putOut, failure, ?_, eof, ?_⟩
  · rw [answers, List.map_singleton, told]
  · rw [counted, create_records done, List.countP_singleton, turned]
    rfl
  · rw [← wrote.path.trans named]
    exact wrote.writing.contentsAt_flush
  · rw [nothing] at read
    exact read

end ExecutionFile
end Collector
end CoverageLink
