import CoverageLink.Proofs.Collector.Account
import CoverageLink.Proofs.Collector.Confinement
import CoverageLink.Proofs.Link.RecordWriter

/-!
# Sessions in which nothing fails

## 1.  The beginning

A header is sent, and the first project info is answered by one request or by none
(`Welcome.exists_request`).  From a project info that was taken a session goes on in the folder of
its project (`takeEach_of_welcome`).

## 2.  Nothing but the stream

In a session in which nothing fails but the stream of its agent (`Session.Unhindered`) every record
is taken, the account is kept at every moment behind the project info, and so is what was said about
the disk.  In the end it is up to the stream how the session ends (`Unhindered.served`).

## 3.  Sessions without artifacts

That the file of execution data can be begun is asked for at every moment, since an artifact may
have come in its way.  Where there are no artifacts it is enough to ask once
(`Unhindered.of_no_files`), and in an empty volume the host has to take two names and nothing else
(`Unhindered.of_empty`).
-/

namespace CoverageLink
namespace Collector
namespace Session

open Files (Volume Location)
open Link (RecordWriter)

variable {session : Session} {record : Record} {settings : Settings} {peer : Peer}
  {records : List Record} {sink : Wire.Sink} {volume : Volume}

/-! ## 1.  The beginning -/

/-- The header of the collector is sent at the beginning. -/
theorem sent_opened (starts : (RecordWriter.start sink).1 = .ok ()) :
    (opened settings peer sink volume).sent = sink.bytes ++ Record.streamHeader := by
  obtain ⟨bytes, encoded, sent⟩ := RecordWriter.bytes_of_send starts
  cases Record.encode_ownHeader.symm.trans encoded
  exact sent

/-- The request that answers the project info, if there is one. -/
theorem Welcome.exists_request {writer after : RecordWriter} {info : ProjectInfo}
    {project : ProjectStore}
    (welcome : Welcome settings volume writer info project after) :
    ∃ request, after.sink.bytes = writer.sink.bytes ++ request ∧
      if settings.pulls then
        ∃ known, project.knownIds (Store.project ⟨settings.output⟩ info volume).2 = .ok known ∧
          (Record.pull ⟨.classes, known⟩).encode = .ok request
      else request = [] := by
  rcases welcome.asked with ⟨idle, rfl⟩ | ⟨pulls, known, identifiers, asked⟩
  · exact ⟨[], (List.append_nil _).symm, by rw [idle]; rfl⟩
  · have sent : (writer.send (.pull ⟨.classes, known⟩)) = (.ok (), after) := asked
    obtain ⟨request, encoded, whole⟩ := RecordWriter.bytes_of_send (congrArg Prod.fst sent)
    rw [sent] at whole
    exact ⟨request, whole, by rw [pulls]; exact ⟨known, identifiers, encoded⟩⟩

/-- A socket that takes everything takes the header and the request. -/
theorem Welcome.of_unlimited {info : ProjectInfo} {project : ProjectStore} {known : KnownIds}
    {request : Bytes} (unlimited : RecordWriter.Unlimited sink)
    (given : (Store.project ⟨settings.output⟩ info volume).1 = .ok project)
    (listed : project.knownIds (Store.project ⟨settings.output⟩ info volume).2 = .ok known)
    (encoded : (Record.pull ⟨.classes, known⟩).encode = .ok request) :
    (RecordWriter.start sink).1 = .ok () ∧
      ∃ after, Welcome settings volume (RecordWriter.start sink).2 info project after := by
  have opened : RecordWriter.Unlimited (RecordWriter.mk sink 0).sink := unlimited
  obtain ⟨starts, still⟩ := RecordWriter.send_of_unlimited opened Record.encode_ownHeader
  refine ⟨starts, ?_⟩
  cases pulls : settings.pulls with
  | false => exact ⟨_, given, .inl ⟨pulls, rfl⟩⟩
  | true =>
    have asked := (RecordWriter.send_of_unlimited still encoded).1
    exact ⟨_, given, .inr ⟨pulls, known, listed, Prod.ext asked rfl⟩⟩

/-- A session goes on from a project info that is taken. -/
theorem takeEach_of_welcome (peer : Peer) {before : List Record} {info : ProjectInfo}
    (silent : announcement? before = none)
    (welcomed : ∃ project after,
      Welcome settings volume (RecordWriter.start sink).2 info project after) :
    ∃ after log,
      Welcome settings volume (RecordWriter.start sink).2 info
        (Store.folderOf ⟨settings.output⟩ info) after ∧
      ∀ later, takeEach (before ++ .projectInfo info :: later) (opened settings peer sink volume) =
        takeEach later ((opened settings peer sink volume).introduced info
          (Store.folderOf ⟨settings.output⟩ info)
          (Store.project ⟨settings.output⟩ info volume).2 after log) := by
  rcases takeEach_of_announced silent (fresh_opened settings peer sink volume) info with
    ⟨failure, writer, log, unwelcome, -⟩ | ⟨project, writer, log, welcome, onward⟩
  · exact absurd welcomed unwelcome
  · obtain rfl := Store.eq_folderOf welcome.given
    exact ⟨writer, log, welcome, onward⟩

/-! ## 2.  Nothing but the stream -/

/-- A session in which nothing fails but the stream of the agent: its header is sent, the first
project info is taken, and the file of execution data can be begun. -/
structure Unhindered (settings : Settings) (peer : Peer) (records : List Record) (sink : Wire.Sink)
    (volume : Volume) : Prop where
  waits : settings.heartbeatTimeout ≠ .zero
  starts : (RecordWriter.start sink).1 = .ok ()
  welcome : ∀ info later, announcement? records = some (info, later) →
    ∃ project after, Welcome settings volume (RecordWriter.start sink).2 info project after
  begun : ∀ done record rest, records = done ++ record :: rest →
    ExecutionFile.admits record = true →
      (takeEach done (opened settings peer sink volume)).2.provideFile.1 = .ok ()

namespace Unhindered

/-- The first project info is taken. -/
theorem welcomed (free : Unhindered settings peer records sink volume) {before later : List Record}
    {info : ProjectInfo} (silent : announcement? before = none)
    (split : records = before ++ .projectInfo info :: later) :
    ∃ project after, Welcome settings volume (RecordWriter.start sink).2 info project after := by
  refine free.welcome info later ?_
  rw [split, announcement?_append_of_none silent]
  rfl

/-- **The account is kept at every moment** behind the project info. -/
theorem account (free : Unhindered settings peer records sink volume)
    (writable : ∀ record ∈ records, record.Writable) {before later done : List Record}
    {info : ProjectInfo} (silent : announcement? before = none)
    (split : records = before ++ .projectInfo info :: later) (front : done <+: later) :
    Account (Store.folderOf ⟨settings.output⟩ info)
      (takeEach (before ++ [.projectInfo info]) (opened settings peer sink volume)).2 done
      (takeEach (before ++ .projectInfo info :: done) (opened settings peer sink volume)).2 := by
  obtain ⟨rest, rfl⟩ := front
  obtain ⟨after, log, -, onward⟩ := takeEach_of_welcome peer silent (free.welcomed silent split)
  rw [onward, onward]
  generalize start_eq : (opened settings peer sink volume).introduced info
    (Store.folderOf ⟨settings.output⟩ info) (Store.project ⟨settings.output⟩ info volume).2 after
      log = start at onward
  have empty : Account (Store.folderOf ⟨settings.output⟩ info) start [] start := by
    rw [← start_eq]
    exact ⟨rfl, rfl, rfl, rfl, rfl, rfl, rfl, rfl, rfl, rfl⟩
  have writes (record : Record) (member : record ∈ done) : record.Writable := by
    refine writable record ?_
    rw [split]
    exact List.mem_append_right _ (List.mem_cons_of_mem _ (List.mem_append_left _ member))
  have begins (earlier : List Record) (record : Record) (more : List Record)
      (here : done = earlier ++ record :: more) (belongs : ExecutionFile.admits record = true) :
      (takeEach earlier start).2.provideFile.1 = .ok () := by
    rw [← onward]
    refine free.begun _ record (more ++ rest) ?_ belongs
    rw [split, here]
    simp
  obtain ⟨session, account⟩ := empty.run writes begins
  rw [account.reached]
  exact account

/-- **The disk at every moment** behind the project info. -/
theorem housed (free : Unhindered settings peer records sink volume)
    (writable : ∀ record ∈ records, record.Writable) {before later done : List Record}
    {info : ProjectInfo} (silent : announcement? before = none)
    (split : records = before ++ .projectInfo info :: later) (front : done <+: later)
    {home : Location} (there : (Store.folderOf ⟨settings.output⟩ info).Home
      (Store.project ⟨settings.output⟩ info volume).2 home) :
    Housed (Store.project ⟨settings.output⟩ info volume).2 home
      (done.filter ExecutionFile.admits)
      (takeEach (before ++ .projectInfo info :: done) (opened settings peer sink volume)).2 := by
  have account := free.account writable silent split front
  obtain ⟨after, log, -, onward⟩ := takeEach_of_welcome peer silent (free.welcomed silent split)
  have reached := account.reached
  rw [onward, onward] at reached
  rw [onward]
  generalize start_eq : (opened settings peer sink volume).introduced info
    (Store.folderOf ⟨settings.output⟩ info) (Store.project ⟨settings.output⟩ info volume).2 after
      log = start at reached onward
  have begun : Housed (Store.project ⟨settings.output⟩ info volume).2 home [] start := by
    rw [← start_eq]
    exact .of_begun rfl rfl
  have known : start.project = some (Store.folderOf ⟨settings.output⟩ info) := by
    rw [← start_eq]
    rfl
  have writes (record : Record) (member : record ∈ done) : record.Writable := by
    refine writable record ?_
    rw [split]
    exact List.mem_append_right _ (List.mem_cons_of_mem _ (front.subset member))
  obtain ⟨taken, -, whole, housed⟩ := begun.run there known writes
  have all : (takeEach done start).1 = .ok () := congrArg Prod.fst reached
  rw [whole all, List.nil_append] at housed
  exact housed

/-- **Everything is taken.** -/
theorem taken (free : Unhindered settings peer records sink volume)
    (writable : ∀ record ∈ records, record.Writable) {done : List Record}
    (front : done <+: records) : (takeEach done (opened settings peer sink volume)).1 = .ok () := by
  rcases announced : announcement? done with _ | ⟨info, later⟩
  · obtain ⟨log, nothing⟩ := takeEach_of_silent announced (fresh_opened settings peer sink volume)
    exact congrArg Prod.fst nothing
  · obtain ⟨before, rfl, silent⟩ := exists_of_announcement? announced
    obtain ⟨rest, rfl⟩ := front
    have split : before ++ .projectInfo info :: later ++ rest =
        before ++ .projectInfo info :: (later ++ rest) := by simp
    have account := free.account writable silent split (List.prefix_append later rest)
    obtain ⟨after, log, -, onward⟩ := takeEach_of_welcome peer silent (free.welcomed silent split)
    have reached := account.reached
    rw [onward, onward] at reached
    rw [onward]
    exact congrArg Prod.fst reached

theorem taken_concat (free : Unhindered settings peer records sink volume)
    (writable : ∀ record ∈ records, record.Writable) {done : List Record} {record : Record}
    (front : done ++ [record] <+: records) :
    takeEach (done ++ [record]) (opened settings peer sink volume) =
      (takeEach done (opened settings peer sink volume)).2.take record := by
  have earlier := free.taken writable ((List.prefix_append done [record]).trans front)
  rw [takeEach, handOver_append, ← takeEach]
  rcases reached : takeEach done (opened settings peer sink volume) with ⟨failure | _, session⟩ <;>
    rw [reached] at earlier
  · cases earlier
  · exact handOver_singleton _ _ _

/-- **The session as it was left**: nothing but the stream decides how it ends. -/
theorem served {source : Wire.Source}
    (free : Unhindered settings peer (RecordStream.start source).readAll.1 sink volume)
    (stopped : Bool) :
    let read := (RecordStream.start source).readAll
    let last := (takeEach read.1 (opened settings peer sink volume)).2
    let served := serve settings stopped peer source sink volume
    served.1 = (ending stopped read.2).map (fun _ => served.2.summary) ∧
      served.2.summary = last.summary ∧ last.flush.Alike served.2 := by
  intro read last served
  have writable (record : Record) (member : record ∈ read.1) : record.Writable :=
    RecordStream.writable_of_mem_readAll member
  obtain ⟨result, alike⟩ := serve_eq free.waits free.starts stopped peer source volume
  have taken : (takeEach read.1 (opened settings peer sink volume)).1 = .ok () :=
    free.taken writable List.prefix_rfl
  rw [taken] at result
  have summary : served.2.summary = last.summary := by
    obtain ⟨writer, timed, log, left, -⟩ := alike
    rw [left]
    exact last.summary_flush
  exact ⟨summary ▸ result, summary, alike⟩

/-- A session that was not told to ask for dumps does not ask for any. -/
theorem quiet (free : Unhindered settings peer records sink volume)
    (writable : ∀ record ∈ records, record.Writable) (told : settings.dumpInterval = none) :
    (takeEach records (opened settings peer sink volume)).2.timed = false := by
  rcases announced : announcement? records with _ | ⟨info, later⟩
  · obtain ⟨log, nothing⟩ := takeEach_of_silent announced (fresh_opened settings peer sink volume)
    rw [nothing]
    rfl
  · obtain ⟨before, rfl, silent⟩ := exists_of_announcement? announced
    have account := free.account writable silent rfl (List.prefix_refl later)
    obtain ⟨after, log, -, onward⟩ := takeEach_of_welcome peer silent (free.welcomed silent rfl)
    rw [account.timed, onward]
    exact congrArg Option.isSome told

/-! ## 3.  Sessions without artifacts -/

/-- Where no artifacts are stored the disk is as the project info has left it until the file of
execution data is begun. -/
structure Ready (project : ProjectStore) (peer : Peer) (made : Volume) (session : Session) :
    Prop where
  known : session.project = some project
  peer : session.peer = peer
  untouched : session.file = none → session.volume = made

namespace Ready

variable {project : ProjectStore} {made : Volume} (ready : Ready project peer made session)
  (begins : ∃ file, (project.executionFile (sessionLabel peer.stamp peer.port) made).1 = .ok file)

include ready begins

/-- The file of execution data can be begun if it could be begun at the beginning. -/
theorem provideFile :
    ∃ after file, session.provideFile = (.ok (), after) ∧ after.file = some file ∧
      Ready project peer made after := by
  obtain ⟨known, rfl, untouched⟩ := ready
  rcases there : session.file with _ | file
  · obtain rfl := untouched there
    obtain ⟨file, begun⟩ := begins
    rcases provideFile_cases known there with ⟨failure, failed, -⟩ | ⟨file, log, -, provided⟩
    · cases begun.symm.trans failed
    · exact ⟨_, file, provided, rfl, known, rfl, fun idle => by cases idle⟩
  · refine ⟨session, file, ?_, there, known, rfl, untouched⟩
    rw [Session.provideFile, there]

theorem take (record : Record) (other : ∀ artifact, record ≠ .file artifact) :
    Ready project peer made (session.take record).2 := by
  have data (belongs : ExecutionFile.admits record = true) :
      Ready project peer made (session.take record).2 := by
    obtain ⟨after, file, provided, there, known, same, -⟩ := ready.provideFile begins
    rw [Session.take_data belongs, takeData, provided]
    simp only [there]
    rcases file.append record after.volume with ⟨failure | _, file, volume⟩ <;>
      exact ⟨known, same, fun idle => by cases idle⟩
  cases record with
  | file artifact => exact absurd rfl (other artifact)
  | sessionInfo info => exact data rfl
  | executionData info => exact data rfl
  | projectInfo info =>
    obtain ⟨log, taken⟩ := take_projectInfo_of_project ready.known info
    rw [taken]
    exact ⟨ready.known, ready.peer, ready.untouched⟩
  | ok =>
    obtain ⟨log, taken⟩ := session.take_ok
    rw [taken]
    rcases there : session.file with _ | file
    · have idle : session.flush = session := by rw [flush, there]
      rw [idle]
      exact ⟨ready.known, ready.peer, ready.untouched⟩
    · rw [flush_of_file there]
      exact ⟨ready.known, ready.peer, fun idle => by cases idle⟩
  | _ => exact ⟨ready.known, ready.peer, ready.untouched⟩

theorem takeEach {records : List Record} (other : ∀ artifact, .file artifact ∉ records) :
    Ready project peer made (takeEach records session).2 := by
  induction records generalizing session with
  | nil => exact ready
  | cons record records ih =>
    have first := ready.take begins record fun artifact same =>
      other artifact (same ▸ List.mem_cons_self)
    rw [Session.takeEach, handOver]
    rcases taken : session.take record with ⟨failure | _, after⟩ <;> rw [taken] at first
    · exact first
    · exact ih first fun artifact later => other artifact (List.mem_cons_of_mem record later)

end Ready

/-- **A session without artifacts** in which nothing fails: it is enough that the file of execution
data can be begun right behind the project info. -/
theorem of_no_files {before later : List Record} {info : ProjectInfo} {after : RecordWriter}
    (waits : settings.heartbeatTimeout ≠ .zero) (starts : (RecordWriter.start sink).1 = .ok ())
    (silent : announcement? before = none)
    (welcome : Welcome settings volume (RecordWriter.start sink).2 info
      (Store.folderOf ⟨settings.output⟩ info) after)
    (begins : ∃ file, ((Store.folderOf ⟨settings.output⟩ info).executionFile
      (sessionLabel peer.stamp peer.port)
      (Store.project ⟨settings.output⟩ info volume).2).1 = .ok file)
    (other : ∀ artifact, .file artifact ∉ later) :
    Unhindered settings peer (before ++ .projectInfo info :: later) sink volume where
  waits := waits
  starts := starts
  welcome told rest announced := by
    rw [announcement?_append_of_none silent] at announced
    cases announced
    exact ⟨_, after, welcome⟩
  begun done record rest split belongs := by
    rcases announced : announcement? done with _ | ⟨told, later'⟩
    · obtain ⟨log, nothing⟩ := takeEach_of_silent announced (fresh_opened settings peer sink volume)
      rw [nothing]
      rfl
    obtain ⟨before', rfl, silent'⟩ := exists_of_announcement? announced
    -- the first project info of the records is that of their beginning
    have same : announcement? (before ++ .projectInfo info :: later) =
        announcement? (before' ++ .projectInfo told :: (later' ++ record :: rest)) := by
      rw [split, List.append_assoc, List.cons_append]
    rw [announcement?_append_of_none silent, announcement?_append_of_none silent'] at same
    cases same
    obtain ⟨after, log, -, onward⟩ := takeEach_of_welcome peer silent' ⟨_, after, welcome⟩
    rw [onward]
    have ready : Ready (Store.folderOf ⟨settings.output⟩ info) peer
        (Store.project ⟨settings.output⟩ info volume).2
        ((opened settings peer sink volume).introduced info (Store.folderOf ⟨settings.output⟩ info)
          (Store.project ⟨settings.output⟩ info volume).2 after log) := ⟨rfl, rfl, fun _ => rfl⟩
    obtain ⟨_, _, provided, -⟩ := (ready.takeEach begins fun artifact member =>
      other artifact (List.mem_append_left _ member)).provideFile begins
    rw [provided]

section

variable {info : ProjectInfo} {project : ProjectStore}
  (place : project = Store.folderOf ⟨settings.output⟩ info) {name : String}
  (named : name = component (sessionLabel peer.stamp peer.port) ++ ".exec")
  (classes : Volume.Followable project.classes)
  (data : Volume.Followable (project.folder.child name))
  (short : name.utf8ByteSize ≤ Volume.maxName) (unlimited : RecordWriter.Unlimited sink)

include place named classes data short unlimited

/-- **Nothing is in the way of a project that has the volume for itself**, if the host takes the
names that are made for it. -/
theorem prepared_of_empty :
    (RecordWriter.start sink).1 = .ok () ∧
      (∃ after, Welcome settings (.empty project.folder) (RecordWriter.start sink).2 info
        (Store.folderOf ⟨settings.output⟩ info) after) ∧
      (∃ file, ((Store.folderOf ⟨settings.output⟩ info).executionFile
        (sessionLabel peer.stamp peer.port)
        (Store.project ⟨settings.output⟩ info (.empty project.folder)).2).1 = .ok file) ∧
      (Store.project ⟨settings.output⟩ info (.empty project.folder)).2.folderAt
        (Store.folderOf ⟨settings.output⟩ info).folder = .ok [] := by
  subst place named
  obtain ⟨given, there⟩ := ProjectStore.project_of_empty classes
  have made := congrArg Prod.snd given
  -- there are no artifacts yet
  have known : (Store.folderOf ⟨settings.output⟩ info).knownIds
      (Store.project ⟨settings.output⟩ info
        (.empty (Store.folderOf ⟨settings.output⟩ info).folder)).2 = .ok (.ofList []) := by
    rw [made, ProjectStore.knownIds, there]
    rfl
  have request : (Record.pull ⟨.classes, .ofList []⟩).encode = .ok [Tag.pullClasses, 0] := rfl
  obtain ⟨starts, welcome⟩ :=
    Welcome.of_unlimited unlimited (congrArg Prod.fst given) known request
  refine ⟨starts, welcome, ?_, ?_⟩
  · have free : (Volume.empty (Store.folderOf ⟨settings.output⟩ info).folder).Free ["classes"] :=
      ⟨[], "classes", rfl, rfl, rfl⟩
    rw [made]
    refine ProjectStore.exists_executionFile rfl (Store.endsInName_folder _ _) short data ?_
    rw [Volume.at?_put free, if_neg]
    · rfl
    · exact fun same => ProjectStore.append_exec_ne_classes _ (List.cons.inj same).1
  · rw [made]
    have home : ((Volume.empty (Store.folderOf ⟨settings.output⟩ info).folder).put ["classes"]
        .folder).home = (Store.folderOf ⟨settings.output⟩ info).folder := rfl
    rw [← home]
    exact Volume.folderAt_home (classes.of_child (Store.endsInName_folder _ _))

/-- **Nothing hinders a session** that has the volume for its project and brings no artifacts. -/
theorem of_empty {before later : List Record} (waits : settings.heartbeatTimeout ≠ .zero)
    (silent : announcement? before = none) (other : ∀ artifact, .file artifact ∉ later) :
    Unhindered settings peer (before ++ .projectInfo info :: later) sink
      (.empty project.folder) := by
  obtain ⟨starts, ⟨after, welcome⟩, begins, -⟩ :=
    prepared_of_empty place named classes data short unlimited
  exact of_no_files waits starts silent welcome begins other

end

end Unhindered

end Session
end Collector
end CoverageLink
