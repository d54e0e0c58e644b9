import CoverageLink.Proofs.Collector.Law
import CoverageLink.Proofs.Link.Dumps

/-!
# From the probes to the file

Probes are hit in one program and counted by another one, from a file that a third one has written.
In between every report is put into octets twice and taken apart twice, and it is not said anywhere
that the two ends agree.  Here it is (`coverage_kept`): what is read of the file are the reports of
all dumps, in their order, each with the classes that had a hit, and nothing else.

## 1.  The stream of an agent

Everything that an agent has to send can be sent, so what arrives is its header, its project info
and the script of its occurrences (`readAll_of_agent`).

## 2.  The file

Of a script the collector keeps the records of the reports (`filter_script`).  On the way the times
of a session are cut off at the last time of the wire; a second time that does nothing.
-/

namespace CoverageLink

namespace Timestamp

/-- Times are cut off once. -/
@[simp] theorem clamped_clamped (time : Timestamp) : time.clamped.clamped = time.clamped := by
  have small : min time.msecs.toNat wireMax < UInt64.size :=
    Nat.lt_of_le_of_lt (Nat.min_le_left _ _) time.msecs.toNat_lt
  unfold clamped
  simp only
  rw [UInt64.toNat_ofNat_of_lt' small, Nat.min_assoc, Nat.min_self]

end Timestamp

/-- A record that comes back is still one that is read. -/
theorem Record.readable_normal (record : Record) (readable : record.Readable) :
    record.normal.Readable := by
  cases record <;> exact readable

namespace Probes
namespace Report

open Collector (ExecutionFile)

@[simp] theorem received_received (report : Report) :
    report.received.received = report.received := by
  simp [received]

/-- A report is made of execution data. -/
theorem admits_of_mem_records {report : Report} {record : Record}
    (member : record ∈ report.records) :
    ExecutionFile.admits record = true := by
  rcases List.mem_cons.1 member with rfl | member
  · rfl
  · obtain ⟨data, -, rfl⟩ := List.mem_map.1 member
    rfl

end Report
end Probes

open Link (Connection Holdings Occurrence RecordWriter)
open Link.Occurrence (occur reports script)

namespace Collector

/-! ## 1.  The stream of an agent -/

/-- What is sent for an occurrence can be sent, and it can be read. -/
theorem encodable_of_mem_script {occurrences : List Occurrence} {probes : Probes}
    (sized : probes.Sized) {record : Record} (member : record ∈ script occurrences probes) :
    (∃ bytes, record.encode = .ok bytes) ∧
      record.Readable ∧ ∀ version, record ≠ .header version := by
  rcases Occurrence.mem_script member with rfl | ⟨report, reported, told⟩
  · exact ⟨⟨_, rfl⟩, trivial, nofun⟩
  have belongs := Probes.Report.admits_of_mem_records told
  obtain ⟨taken, sized, resets, rfl⟩ := Occurrence.exists_of_mem_reports sized reported
  obtain ⟨writable, readable⟩ := sized.records resets record told
  refine ⟨ExecutionFile.exists_encode belongs writable, readable, ?_⟩
  rintro version rfl
  cases belongs

/-- A connection over a socket that takes everything, once the agent has said which project it
belongs to. -/
def introduce (source : Wire.Source) (most : Nat → Option Nat) (info : ProjectInfo) :
    Except Failure Unit × Connection :=
  (Connection.new source (RecordWriter.unused none most none)).init.2.sendProjectInfo info

variable {source : Wire.Source} {most : Nat → Option Nat} {info : ProjectInfo}

/-- The stream begins with a header, and then the project info is sent. -/
theorem introduce_eq (source : Wire.Source) (most : Nat → Option Nat) (info : ProjectInfo) :
    ∃ connection : Connection, connection.isOpen = true ∧ connection.bound = true ∧
      RecordWriter.Unlimited connection.writer.sink ∧ connection.sent = Record.streamHeader ∧
      introduce source most info = connection.sendProjectInfo info := by
  let connection := Connection.new source (RecordWriter.unused none most none)
  obtain ⟨writer, opened, still, stands⟩ :=
    Connection.init_of_unlimited (rfl : connection.phase = .unbound) ⟨rfl, rfl⟩
  refine ⟨{ connection with writer, phase := .initialized, bound := true }, rfl, rfl, still,
    stands, ?_⟩
  rw [introduce, opened]

/-- What the stream begins with. -/
theorem introduce_cases (introduced : (introduce source most info).1 = .ok ()) :
    (introduce source most info).2.isOpen = true ∧
      RecordWriter.Unlimited (introduce source most info).2.writer.sink ∧
      ∃ line, (Record.projectInfo info).encode = .ok line ∧
        (introduce source most info).2.sent = Record.streamHeader ++ line := by
  obtain ⟨connection, open_, bound, unlimited, begun, told⟩ := introduce_eq source most info
  rw [told, Connection.sendProjectInfo, Connection.tell, bound] at introduced ⊢
  obtain ⟨line, encoded, more⟩ := RecordWriter.bytes_of_send introduced
  exact ⟨open_, (RecordWriter.send_of_unlimited unlimited encoded).2, line, encoded,
    more.trans (congrArg (· ++ line) begun)⟩

/-- An agent that can be put into octets says which project it belongs to. -/
theorem introduce_of_encode {line : Bytes} (encoded : (Record.projectInfo info).encode = .ok line) :
    (introduce source most info).1 = .ok () := by
  obtain ⟨connection, -, bound, unlimited, -, told⟩ := introduce_eq source most info
  rw [told, Connection.sendProjectInfo, Connection.tell, bound]
  exact (RecordWriter.send_of_unlimited unlimited encoded).1

/-- **All that an agent sends** is read, and nothing else. -/
theorem readAll_of_agent (introduced : (introduce source most info).1 = .ok ())
    {holdings : Holdings} (sized : holdings.probes.Sized) (occurrences : List Occurrence)
    (schedule : Wire.Schedule) :
    let agent := handOver occur occurrences ((introduce source most info).2, holdings)
    agent.1 = .ok () ∧
      (RecordStream.start (.start agent.2.1.sent none schedule)).readAll =
        ([Record.ownHeader] ++
          .projectInfo info :: (script occurrences holdings.probes).map Record.normal, none) := by
  obtain ⟨open_, unlimited, line, encoded, begun⟩ := introduce_cases introduced
  have encodable (record : Record) (member : record ∈ script occurrences holdings.probes) :=
    encodable_of_mem_script sized member
  have sent := RecordWriter.sendAll_of_unlimited unlimited fun record member =>
    (encodable record member).1
  obtain ⟨encodings, whole, stands⟩ := RecordWriter.bytes_of_sendAll sent
  obtain ⟨left, occurred⟩ := Occurrence.occurAll_eq open_ holdings occurrences sent
  intro agent
  have agent_eq : agent = _ := occurred
  have octets : agent.2.1.sent = Record.streamHeader ++ (line :: encodings).flatten := by
    rw [agent_eq, List.flatten_cons, ← List.append_assoc, ← begun]
    exact stands
  refine ⟨congrArg Prod.fst agent_eq, ?_⟩
  have every : (.projectInfo info :: script occurrences holdings.probes).mapM Record.encode =
      .ok (line :: encodings) := by
    rw [List.mapM_cons, encoded, whole]
    rfl
  rw [octets]
  refine RecordStream.readAll_of_whole schedule every fun record member => ?_
  rcases List.mem_cons.1 member with rfl | later
  · exact ⟨trivial, nofun⟩
  · exact (encodable record later).2

/-! ## 2.  The file -/

/-- **What a collector keeps of a script** are the records of its reports. -/
theorem filter_script (occurrences : List Occurrence) (probes : Probes) :
    ((script occurrences probes).map Record.normal).filter ExecutionFile.admits =
      (reports occurrences probes).flatMap fun report => report.received.records := by
  induction occurrences generalizing probes with
  | nil => rfl
  | cons occurrence later ih =>
    -- a report is kept, and its acknowledgement is not
    have kept (report : Probes.Report) :
        ((report.records ++ [Record.ok]).map Record.normal).filter ExecutionFile.admits =
          report.received.records := by
      rw [List.map_append, report.map_normal_records, List.filter_append,
        List.filter_eq_self.2 fun _ => Probes.Report.admits_of_mem_records]
      exact List.append_nil _
    rw [script, reports, List.map_append, List.filter_append, ih, List.flatMap_append]
    congr 1
    cases occurrence with
    | hit id index => rfl
    | dump resets => exact (kept _).trans (List.append_nil _).symm
    | command dumps resets =>
      cases dumps with
      | true => exact (kept _).trans (List.append_nil _).symm
      | false => rfl

/-- There is execution data in a script exactly if there was a dump. -/
theorem any_admits_script (occurrences : List Occurrence) (probes : Probes) :
    ((script occurrences probes).map Record.normal).any ExecutionFile.admits = true ↔
      reports occurrences probes ≠ [] := by
  have kept := filter_script occurrences probes
  have none : ((script occurrences probes).map Record.normal).filter ExecutionFile.admits = [] ↔
      reports occurrences probes = [] := by
    rw [kept]
    cases reports occurrences probes with
    | nil => exact ⟨fun _ => rfl, fun _ => rfl⟩
    | cons report later => exact ⟨nofun, nofun⟩
  rw [← Bool.not_eq_false, List.any_eq_false, ← List.filter_eq_nil_iff, none]

theorem file_not_mem_script (occurrences : List Occurrence) (probes : Probes)
    (artifact : ArtifactFile) :
    .file artifact ∉ (script occurrences probes).map Record.normal := by
  intro member
  obtain ⟨record, member, same⟩ := List.mem_map.1 member
  rcases Occurrence.mem_script member with rfl | ⟨report, -, told⟩
  · cases same
  · have belongs := Probes.Report.admits_of_mem_records told
    cases record with
    | sessionInfo _ | executionData _ => cases same
    | _ => cases belongs

open Session (Welcome Unhindered Housed opened takeEach serve)
open Files (Location Volume)

/-- A session that is served to the end has a file if there was execution data, and the file is
complete. -/
theorem complete_of_served {settings : Settings} {peer : Peer} {source : Wire.Source}
    {sink : Wire.Sink} {volume : Volume} {before later : List Record}
    (free : Unhindered settings peer (RecordStream.start source).readAll.1 sink volume)
    (silent : Session.announcement? before = none)
    (read : (RecordStream.start source).readAll = (before ++ .projectInfo info :: later, none))
    (stopped : Bool) (sound : volume.Sound) {home : Location}
    (there : (Store.project ⟨settings.output⟩ info volume).2.folderAt
      (Store.folderOf ⟨settings.output⟩ info).folder = .ok home)
    (unlinked : volume.Unlinked home) :
    let served := serve settings stopped peer source sink volume
    served.1 = .ok served.2.summary ∧
      (served.2.summary.path = none ↔ later.any ExecutionFile.admits = false) ∧
      Session.Complete later served.2 := by
  intro served
  have split : (RecordStream.start source).readAll.1 = before ++ .projectInfo info :: later :=
    congrArg Prod.fst read
  have writable (record : Record) (member : record ∈ (RecordStream.start source).readAll.1) :
      record.Writable := RecordStream.writable_of_mem_readAll member
  obtain ⟨project, after, welcome⟩ := free.welcomed silent split
  obtain rfl := Store.eq_folderOf welcome.given
  have account := free.account writable silent split List.prefix_rfl
  have housed := free.housed writable silent split List.prefix_rfl
    (.of_project sound (Prod.ext welcome.given rfl) there unlinked)
  have complete := housed.complete account.file
  obtain ⟨result, summary, writer, timed, log, left, -⟩ := free.served stopped
  rw [read] at result summary left
  generalize (takeEach (before ++ .projectInfo info :: later)
    (opened settings peer sink volume)).2 = last at account complete summary left
  refine ⟨result, ?_, ?_⟩
  · rw [show served.2.summary = _ from summary, account.path]
    cases later.any ExecutionFile.admits <;> simp
  · intro path same
    rw [show served.2 = _ from left] at same ⊢
    exact complete path same

/-- **Coverage is kept.**

An agent has said which project it belongs to; then its program passes probes, and dumps are made by
the program and on command of the collector, in any order.  All of it is sent.  A collector whose
disk does not fail, and in whose store no link lies in the way, serves what was sent to the end.
What is read of the file that it names are the reports of all dumps, in their order: each with its
session, whose times stop at the last time of the wire, and behind that the classes with a hit, in
increasing order of their numbers, as they were at the dump.  If there was no dump there is no file.
-/
theorem coverage_kept {settings : Settings} {peer : Peer} {sink : Wire.Sink} {volume : Volume}
    {holdings : Holdings} (sized : holdings.probes.Sized)
    (introduced : (introduce source most info).1 = .ok ()) (occurrences : List Occurrence)
    (schedule : Wire.Schedule) (stopped : Bool) (waits : settings.heartbeatTimeout ≠ .zero)
    (starts : (RecordWriter.start sink).1 = .ok ())
    (welcomed : ∃ after, Welcome settings volume (RecordWriter.start sink).2 info
      (Store.folderOf ⟨settings.output⟩ info) after)
    (begins : ∃ file, ((Store.folderOf ⟨settings.output⟩ info).executionFile
      (sessionLabel peer.stamp peer.port)
      (Store.project ⟨settings.output⟩ info volume).2).1 = .ok file)
    (sound : volume.Sound) {home : Location}
    (there : (Store.project ⟨settings.output⟩ info volume).2.folderAt
      (Store.folderOf ⟨settings.output⟩ info).folder = .ok home)
    (unlinked : volume.Unlinked home) :
    let agent := handOver occur occurrences ((introduce source most info).2, holdings)
    let reported := reports occurrences holdings.probes
    let served := serve settings stopped peer (.start agent.2.1.sent none schedule) sink volume
    agent.1 = .ok () ∧
      (∀ report ∈ reported, report.classes.Pairwise fun data other => data.id < other.id) ∧
      served.1 = .ok served.2.summary ∧
      (reported = [] → served.2.summary.path = none) ∧
      (reported ≠ [] → ∃ path contents, served.2.summary.path = some path ∧
        served.2.volume.contentsAt path = .ok contents ∧
        ∀ schedule, (RecordStream.start (.start contents none schedule)).readAll =
          (Record.ownHeader :: reported.flatMap fun report => report.received.records, none)) := by
  intro agent reported served
  obtain ⟨sent, read⟩ := readAll_of_agent introduced sized occurrences schedule
  obtain ⟨after, welcome⟩ := welcomed
  have free : Unhindered settings peer
      (RecordStream.start (.start agent.2.1.sent none schedule)).readAll.1 sink volume := by
    rw [read]
    exact .of_no_files waits starts rfl welcome begins (file_not_mem_script _ _)
  obtain ⟨result, none, complete⟩ :=
    complete_of_served free rfl read stopped sound there unlinked
  refine ⟨sent, fun report member => ?_, result, fun nothing => ?_, fun something => ?_⟩
  · obtain ⟨taken, -, resets, rfl⟩ := Occurrence.exists_of_mem_reports sized member
    exact taken.pairwise_covered resets
  · refine none.2 (Bool.eq_false_iff.2 fun dumped => ?_)
    exact (any_admits_script occurrences holdings.probes).1 dumped nothing
  · have dumped := (any_admits_script occurrences holdings.probes).2 something
    obtain ⟨path, same⟩ := Option.ne_none_iff_exists'.1 fun missing =>
      Bool.eq_false_iff.1 (none.1 missing) dumped
    obtain ⟨parts, encoded, contents⟩ := complete path same
    rw [filter_script] at encoded
    refine ⟨path, _, same, contents, fun schedule => ?_⟩
    have data (record : Record)
        (member : record ∈ reported.flatMap fun report => report.received.records) :
        record.Readable ∧ ∀ version, record ≠ .header version := by
      rw [← filter_script] at member
      obtain ⟨arrived, belongs⟩ := List.mem_filter.1 member
      obtain ⟨told, told_of, rfl⟩ := List.mem_map.1 arrived
      refine ⟨told.readable_normal (encodable_of_mem_script sized told_of).2.1, ?_⟩
      intro version header
      rw [header] at belongs
      cases belongs
    rw [RecordStream.readAll_of_whole schedule encoded data, List.map_flatMap]
    simp only [Probes.Report.map_normal_records, Probes.Report.received_received]
    rfl

/-- A class is hit, dumped with a reset, and not dumped again. -/
theorem coverage_kept_of_reset :
    let probes : Probes :=
      ⟨"s", ⟨0⟩, [⟨7, "A", [false, false]⟩], .ticking, List.pairwise_singleton _ _⟩
    let holdings : Holdings := ⟨probes, ⟨default, none, ⟨⟨[]⟩, ⟨[]⟩⟩, [], default, .ofVolume⟩,
        default, []⟩
    let occurrences : List Occurrence := [.hit 7 0, .dump true, .command true false]
    let settings : Settings := ⟨⟨["", "store"]⟩, none, false, false, ⟨1, by decide⟩⟩
    let peer : Peer := ⟨"agent", "1", "now", fun _ => 0⟩
    let info : ProjectInfo := ⟨"a", "b", "", "", "", ""⟩
    let sink := RecordWriter.unused none (fun _ => none) none
    let volume := Volume.empty ⟨["", "store", "a", "b"]⟩
    let greeted := introduce (.ofBytes []) (fun _ => none) info
    let agent := handOver occur occurrences (greeted.2, holdings)
    let served := serve settings false peer (.ofBytes agent.2.1.sent) sink volume
    probes.Sized ∧ greeted.1 = .ok () ∧ settings.heartbeatTimeout ≠ .zero ∧
      (RecordWriter.start sink).1 = .ok () ∧ volume.Sound ∧ volume.Unlinked [] ∧
      ∃ path contents, served.2.summary.path = some path ∧
        served.2.volume.contentsAt path = .ok contents ∧
        (RecordStream.start (.ofBytes contents)).readAll =
          ([.ownHeader, .sessionInfo ⟨"s", ⟨0⟩, ⟨0⟩⟩, .executionData ⟨7, "A", [true, false]⟩,
            .sessionInfo ⟨"s", ⟨0⟩, ⟨1⟩⟩], none) := by
  intro probes holdings occurrences settings peer info sink volume greeted agent served
  have sized : holdings.probes.Sized := ⟨by decide, by decide⟩
  have place : ProjectStore.mk ⟨["", "store", "a", "b"]⟩ =
      Store.folderOf ⟨settings.output⟩ info := by decide +kernel
  have named : "now_1.exec" = component (sessionLabel peer.stamp peer.port) ++ ".exec" := by
    decide +kernel
  have unlimited : RecordWriter.Unlimited sink := ⟨rfl, rfl⟩
  obtain ⟨starts, welcomed, begins, there⟩ := Unhindered.prepared_of_empty place named
    ⟨by decide +kernel, by decide +kernel, by decide +kernel⟩
    ⟨by decide +kernel, by decide +kernel, by decide +kernel⟩ (by decide +kernel) unlimited
  have line : (Record.projectInfo ⟨"a", "b", "", "", "", ""⟩).encode =
      .ok [0x15, 0, 7, 97, 124, 98, 124, 124, 124, 124] := rfl
  have introduced : greeted.1 = .ok () := introduce_of_encode line
  have sound : volume.Sound := Volume.sound_empty (.inl rfl)
  have unlinked : volume.Unlinked [] := Volume.unlinked_empty _ _
  have waits : settings.heartbeatTimeout ≠ .zero := by decide
  obtain ⟨-, -, -, -, kept⟩ := coverage_kept sized introduced occurrences .prompt false waits starts
    welcomed begins sound there unlinked
  obtain ⟨path, contents, same, held, read⟩ := kept (by decide)
  exact ⟨sized, introduced, waits, starts, sound, unlinked, path, contents, same, held,
    read .prompt⟩

end Collector
end CoverageLink
