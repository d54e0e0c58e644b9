import CoverageLink.Proofs.Collector.Unhindered

/-!
# What a session owes to its agent

Once its project is known a session does what its agent's records say, and besides it only asks for
dumps, if it was told to.  So what it has done is a matter of the records it has taken
(`Session.takeEach`).  This file says what, for the records of any stream at all, at every moment of
the session and at its end.

Until the project info arrives nothing happens; it is answered by one request, or by none; and from
there on the account is kept (`session_law`).  What stands in the file of execution data is complete
whenever it was flushed, after an acknowledgement and in the end (`Housed.complete`).
-/

namespace CoverageLink
namespace Collector
namespace Session

open Files (Volume Location)
open Files.Volume (Changes)
open Link (RecordWriter)

variable {session : Session}

/-- Under the path of the file of execution data, if there is one, stand a header and then the
execution data among the records, and nothing else. -/
def Complete (records : List Record) (session : Session) : Prop :=
  ∀ path, session.summary.path = some path →
    ∃ parts, (records.filter ExecutionFile.admits).mapM Record.encode = .ok parts ∧
      session.volume.contentsAt path = .ok (Record.streamHeader ++ parts.flatten)

/-- A file that was completed on disk is complete. -/
theorem Housed.complete {made : Volume} {home : Location} {records : List Record}
    (housed : Housed made home (records.filter ExecutionFile.admits) session)
    (path : session.file.map (·.path) = session.summary.path) :
    Complete records session.flush := by
  intro place same
  rw [summary_flush, ← path, Option.map_eq_some_iff] at same
  obtain ⟨file, there, rfl⟩ := same
  exact housed.flush.2 file there

/-- **The law of a session** that asks for no dumps, over any stream of an agent.

How the session ends is up to the stream.  Until the first project info arrives nothing happens but
that a header is sent.  That project info decides which project it is; it is answered by a request
for the artifacts not in the store at that moment, if artifacts are asked for at all, and nothing
else is ever sent.

From there on the account of the session is kept: every file is offered to the store in its turn,
and the stored ones are counted; execution data is counted, and there is a file for it if there is
any.  If no link lies in the folder of the project, that file and the artifacts are all that is
touched, and the file holds the execution data so far after every acknowledgement and in the end. -/
theorem session_law {settings : Settings} {peer : Peer} {source : Wire.Source} {sink : Wire.Sink}
    {volume : Volume} (stopped : Bool) (quiet : settings.dumpInterval = none)
    (free : Unhindered settings peer (RecordStream.start source).readAll.1 sink volume) :
    let records := (RecordStream.start source).readAll.1
    let begun := opened settings peer sink volume
    let after (done : List Record) : Session := (takeEach done begun).2
    let served := serve settings stopped peer source sink volume
    served.1 =
        (ending stopped (RecordStream.start source).readAll.2).map (fun _ => served.2.summary) ∧
      (∃ log, served.2 = { (after records).flush with log }) ∧
      served.2.summary = (after records).summary ∧
      served.2.sent = (after records).sent ∧
      begun.sent = sink.bytes ++ Record.streamHeader ∧
      (∀ before, before <+: records → announcement? before = none →
        ∃ log, after before = { begun with log }) ∧
      ∀ before info later, announcement? before = none →
        records = before ++ .projectInfo info :: later →
        let project := Store.folderOf ⟨settings.output⟩ info
        let made := (Store.project ⟨settings.output⟩ info volume).2
        let start := after (before ++ [.projectInfo info])
        let session (done : List Record) : Session := after (before ++ .projectInfo info :: done)
        start.volume = made ∧
          start.summary = ⟨some info, 0, 0, none⟩ ∧
          (∃ request, start.sent = begun.sent ++ request ∧
            if settings.pulls then
              ∃ known, project.knownIds made = .ok known ∧
                (Record.pull ⟨.classes, known⟩).encode = .ok request
            else request = []) ∧
          (∀ done, done <+: later → Account project start done (session done)) ∧
          (∀ done artifact, done ++ [.file artifact] <+: later →
            (session (done ++ [.file artifact])).volume =
              (project.saveFile artifact.name artifact.contents (session done).volume).2) ∧
          (volume.Sound →
            ((∃ home, made.folderAt project.folder = .ok home) ∨ volume.home = project.classes) ∧
              ∀ home, made.folderAt project.folder = .ok home → volume.Unlinked home →
                (∀ done, done <+: later →
                  Changes (Uses home start.fileName (done.filter ExecutionFile.admits)) made
                    (session done).volume) ∧
                (∀ done, done ++ [.ok] <+: later → Complete done (session (done ++ [.ok]))) ∧
                Complete later served.2) := by
  intro records begun after served
  have writable (record : Record) (member : record ∈ records) : record.Writable :=
    RecordStream.writable_of_mem_readAll member
  obtain ⟨result, summary, writer, timed, log, left, silence⟩ := free.served stopped
  obtain ⟨file, place, flushed, -⟩ := (after records).flush_cases
  have asks_nothing : (after records).flush.timed = false := by
    rw [flushed]
    exact free.quiet writable quiet
  obtain ⟨rfl, rfl⟩ := silence asks_nothing
  have served_eq : served.2 = { (after records).flush with log } := by
    rw [← asks_nothing] at left
    exact left
  refine ⟨result, ⟨log, served_eq⟩, summary, ?_, sent_opened free.starts, ?_, ?_⟩
  · rw [served_eq, flushed]
    rfl
  · intro before front silent
    obtain ⟨log, nothing⟩ := takeEach_of_silent silent (fresh_opened settings peer sink volume)
    exact ⟨log, congrArg Prod.snd nothing⟩
  intro before info later silent split project made start session
  obtain ⟨writer, log, welcome, onward⟩ :=
    takeEach_of_welcome peer silent (free.welcomed silent split)
  have start_eq : start = begun.introduced info project made writer log :=
    congrArg Prod.snd (onward [])
  have account (done : List Record) (front : done <+: later) :
      Account project start done (session done) := free.account writable silent split front
  have concat (done : List Record) (record : Record) (front : done ++ [record] <+: later) :
      session (done ++ [record]) = ((session done).take record).2 := by
    obtain ⟨rest, whole⟩ := front
    have front : (before ++ .projectInfo info :: done) ++ [record] <+: records :=
      ⟨rest, by rw [split, ← whole]; simp⟩
    have taken := free.taken_concat writable front
    rw [List.append_assoc, List.cons_append] at taken
    exact congrArg Prod.snd taken
  refine ⟨by rw [start_eq]; rfl, by rw [start_eq]; rfl, ?_, account, ?_, ?_⟩
  · rw [start_eq]
    exact welcome.exists_request
  · intro done artifact front
    have known := (account done ((List.prefix_append _ _).trans front)).known
    obtain ⟨log, taken⟩ := take_file known artifact
    rw [concat done _ front, taken]
  · intro sound
    have given : Store.project ⟨settings.output⟩ info volume = (.ok project, made) :=
      Prod.ext welcome.given rfl
    refine ⟨Store.home_of_project sound given, fun home folder unlinked => ?_⟩
    have there := ProjectStore.Home.of_project sound given folder unlinked
    have housed (done : List Record) (front : done <+: later) :
        Housed made home (done.filter ExecutionFile.admits) (session done) :=
      free.housed writable silent split front there
    refine ⟨fun done front => ?_, fun done front => ?_, ?_⟩
    · rw [← fileName_congr (account done front).peer]
      exact (housed done front).changes
    · have earlier := (List.prefix_append done [Record.ok]).trans front
      obtain ⟨log, taken⟩ := (session done).take_ok
      rw [concat done _ front, taken]
      exact (housed done earlier).complete (account done earlier).file
    · have whole : after records = session later := by rw [split]
      rw [served_eq, whole]
      exact (housed later List.prefix_rfl).complete (account later List.prefix_rfl).file

/-- A dump arrives in an empty store: artifacts are asked for, and the dump is written. -/
theorem session_law_of_dump :
    let settings : Settings := ⟨⟨["", "store"]⟩, none, false, true, ⟨1, by decide⟩⟩
    let peer : Peer := ⟨"agent", "1", "now", fun _ => 0⟩
    let info : ProjectInfo := ⟨"a", "b", "", "", "", ""⟩
    let source : Wire.Source := .start ([0x01, 0xC0, 0xC0, 0x10, 0x07] ++
      [0x15, 0, 7, 97, 124, 98, 124, 124, 124, 124] ++
      [0x10, 0, 1, 115, 0, 0, 0, 0, 0, 0, 0, 1, 0, 0, 0, 0, 0, 0, 0, 2] ++ [0x20]) none .prompt
    let sink := RecordWriter.unused none (fun _ => none) none
    let volume := Volume.empty ⟨["", "store", "a", "b"]⟩
    settings.dumpInterval = none ∧
      Unhindered settings peer (RecordStream.start source).readAll.1 sink volume ∧
      ∃ summary, (serve settings false peer source sink volume).1 = .ok summary ∧
        summary.project = some info ∧ summary.records = 1 ∧ summary.path ≠ none := by
  intro settings peer info source sink volume
  -- for any stream of this kind, lest its octets be read again
  have law {source : Wire.Source} {later : List Record}
      (read : (RecordStream.start source).readAll =
        ([Record.ownHeader] ++ .projectInfo info :: later, none))
      (free : Unhindered settings peer (RecordStream.start source).readAll.1 sink volume)
      (some_data : later.any ExecutionFile.admits = true) :
      ∃ summary, (serve settings false peer source sink volume).1 = .ok summary ∧
        summary.project = some info ∧ summary.records = later.countP ExecutionFile.admits ∧
        summary.path ≠ none := by
    obtain ⟨result, -, summary, -, -, -, told⟩ := session_law false rfl free
    obtain ⟨-, introduced, -, account, -⟩ := told [Record.ownHeader] info later rfl
      (congrArg Prod.fst read)
    have account := account later List.prefix_rfl
    rw [read] at result summary
    refine ⟨_, result, ?_, ?_, ?_⟩
    · rw [summary, account.told, introduced]
    · rw [summary, account.records]
    · rw [summary, account.path, if_pos some_data]
      exact Option.some_ne_none _
  have encoded : [Record.projectInfo ⟨"a", "b", "", "", "", ""⟩, .sessionInfo ⟨"s", ⟨1⟩, ⟨2⟩⟩,
      .ok].mapM Record.encode =
    .ok [[0x15, 0, 7, 97, 124, 98, 124, 124, 124, 124],
        [0x10, 0, 1, 115, 0, 0, 0, 0, 0, 0, 0, 1, 0, 0, 0, 0, 0, 0, 0, 2], [0x20]] := rfl
  have read : (RecordStream.start source).readAll =
      ([Record.ownHeader] ++ .projectInfo info :: [.sessionInfo ⟨"s", ⟨1⟩, ⟨2⟩⟩, .ok], none) :=
    RecordStream.readAll_of_whole .prompt encoded (by simp [Record.Readable])
  have place : ProjectStore.mk ⟨["", "store", "a", "b"]⟩ =
      Store.folderOf ⟨settings.output⟩ info := by decide +kernel
  have named : "now_1.exec" = component (sessionLabel peer.stamp peer.port) ++ ".exec" := by
    decide +kernel
  have free : Unhindered settings peer (RecordStream.start source).readAll.1 sink volume := by
    rw [read]
    exact .of_empty place named ⟨by decide +kernel, by decide +kernel, by decide +kernel⟩
      ⟨by decide +kernel, by decide +kernel, by decide +kernel⟩ (by decide +kernel) ⟨rfl, rfl⟩
      (by decide) rfl (by simp)
  exact ⟨rfl, free, law read free rfl⟩

end Session
end Collector
end CoverageLink
