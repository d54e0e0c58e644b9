import CoverageLink.Collector.Session
import CoverageLink.Proofs.Collector.ExecutionFile
import CoverageLink.Proofs.HandOver
import CoverageLink.Proofs.Record.ReadAll

/-!
# What a session does, record by record

## 1.  The loop

A session is a loop over the records of a stream, with a limit that it never reaches.
`takeAll_eq` says it without either: the records are handed over one after the other, and how the
stream ends says how the session does.

## 2.  One record

What a single record does is said once for each kind of it, up to what is logged.  Before the first
project info a record does nothing (`take_of_no_project`).  The first project info is taken
completely or not at all (`handshake_cases`), and every later one does nothing.  After it a file is
offered to the store, whatever becomes of it (`take_file`), execution data is appended to a file
that is begun if need be (`take_data`), and an acknowledgement completes that file on disk.

## 3.  The records without the dumps

Dumps are asked for between the records, at moments that depend on the clock.  Asking for them
touches the writer and nothing that a record looks at (`Alike.take`), so what becomes of the records
is a matter of the records alone: `takeEach` hands them over without a clock.

## 4.  A whole session

Nothing happens before the first project info, and a session goes on from there
(`takeEach_of_announced`).  `serve_eq` puts the four together: what is left of a session is what its
records have left, completed on disk.
-/

namespace CoverageLink
namespace Collector
namespace Session

open Files (Volume)

/-! ## 1.  The loop -/

/-- What a session does about the record of a number: it asks for the dumps that have come due, and
takes the record. -/
def receive (arrived : Record × Nat) (session : Session) : Except Failure Unit × Session :=
  (session.askForDumps (session.peer.ticks arrived.2)).take arrived.1

/-- How a session ends at the end of its agent's stream. -/
def ending (stopped : Bool) : Option Failure → Except Failure Unit
  | none => .ok ()
  | some failure =>
    if failure.kind = .unexpectedEof || stopped then .ok () else .error failure

/-- **The loop without its limit.** -/
theorem takeAll_eq {stopped : Bool} {limit number : Nat} {stream : RecordStream}
    (enough : stream.source.unread.length < limit) (session : Session) :
    takeAll stopped limit number stream session =
      match handOver receive (stream.readAll.1.zipIdx number) session with
      | (.error failure, session) => (.error failure, session)
      | (.ok (), session) =>
        (ending stopped stream.readAll.2,
          session.askForDumps (session.peer.ticks (number + stream.readAll.1.length))) := by
  induction limit generalizing number stream session with
  | zero => omega
  | succ limit ih =>
    rw [takeAll, RecordStream.readAll_eq]
    rcases given : stream.next with ⟨failure | _ | record, rest⟩
    · rfl
    · rfl
    · simp only [List.zipIdx_cons, handOver, List.length_cons]
      have less := RecordStream.length_unread_next given
      rw [show receive (record, number) session =
        (session.askForDumps (session.peer.ticks number)).take record from rfl]
      rcases (session.askForDumps (session.peer.ticks number)).take record with
        ⟨failure | _, session⟩
      · rfl
      · simp only
        rw [ih (by omega) session]
        simp only [Nat.add_assoc, Nat.add_comm 1]

/-- Dumps are asked for on the writer, and change nothing else. -/
theorem askForDumps_cases (session : Session) (due : Nat) :
    ∃ writer timed log, session.askForDumps due = { session with writer, timed, log } := by
  induction due generalizing session with
  | zero => exact ⟨_, _, _, rfl⟩
  | succ due ih =>
    rw [askForDumps]
    split
    · exact ⟨_, _, _, rfl⟩
    · simp only
      split
      · rename_i writer _
        obtain ⟨writer', timed, log, same⟩ := ih { session.note _ with writer }
        exact ⟨writer', timed, log, same⟩
      · exact ⟨_, _, _, rfl⟩

/-- Nothing is asked for unless it was told to. -/
theorem askForDumps_of_not_timed {session : Session} (quiet : session.timed = false) (due : Nat) :
    session.askForDumps due = session := by
  cases due with
  | zero => rfl
  | succ due => rw [askForDumps, quiet]; rfl

/-! ## 2.  One record -/

variable {session : Session} {record : Record}

theorem notes_eq (session : Session) (lines : List Log.Line) :
    ∃ log, session.notes lines = { session with log } := by
  unfold notes
  induction lines generalizing session with
  | nil => exact ⟨_, rfl⟩
  | cons line lines ih =>
    obtain ⟨log, same⟩ := ih (session.note line)
    exact ⟨log, same⟩

/-- **Before the project info nothing happens**, whatever else arrives. -/
theorem take_of_no_project (project : session.project = none) (file : session.file = none)
    (other : ∀ info, record ≠ .projectInfo info) :
    ∃ log, session.take record = (.ok (), { session with log }) := by
  obtain ⟨settings, peer, writer, _, _, timed, summary, volume, log⟩ := session
  cases project
  cases file
  cases record with
  | projectInfo info => exact absurd rfl (other info)
  | _ => exact ⟨_, rfl⟩

theorem take_projectInfo (session : Session) (info : ProjectInfo) :
    session.take (.projectInfo info) = session.handshake info := rfl

/-- A project info that comes later does nothing. -/
theorem take_projectInfo_of_project {project : ProjectStore}
    (known : session.project = some project) (info : ProjectInfo) :
    ∃ log, session.take (.projectInfo info) = (.ok (), { session with log }) := by
  obtain ⟨settings, peer, writer, _, file, timed, summary, volume, log⟩ := session
  cases known
  exact ⟨_, rfl⟩

/-- The label of the file of execution data of a session. -/
def label (session : Session) : String := sessionLabel session.peer.stamp session.peer.port

/-- The name of the file of execution data of a session. -/
def fileName (session : Session) : String := component session.label ++ ".exec"

theorem fileName_congr {other : Session} (same : other.peer = session.peer) :
    other.fileName = session.fileName := by
  rw [fileName, fileName, label, label, same]

/-- A session as a project info leaves it that was taken. -/
def introduced (session : Session) (info : ProjectInfo) (project : ProjectStore) (volume : Volume)
    (writer : Link.RecordWriter) (log : List Log.Line) : Session :=
  { session with
    volume
    project := some project
    writer
    timed := session.settings.dumpInterval.isSome
    summary := { session.summary with project := some info }
    log }

/-- All that has to succeed when the first project info is taken: the project's folders are made,
and if artifacts are asked for, the ones already there are looked up and the request is sent. -/
structure Welcome (settings : Settings) (volume : Volume) (writer : Link.RecordWriter)
    (info : ProjectInfo) (project : ProjectStore) (after : Link.RecordWriter) : Prop where
  given : (Store.project ⟨settings.output⟩ info volume).1 = .ok project
  asked : settings.pulls = false ∧ after = writer ∨
    settings.pulls = true ∧ ∃ known,
      project.knownIds (Store.project ⟨settings.output⟩ info volume).2 = .ok known ∧
        writer.pull .classes known = (.ok (), after)

/-- **The first project info** counts if it was taken completely. -/
theorem handshake_cases (session : Session) (unknown : session.project = none)
    (info : ProjectInfo) :
    (∃ failure writer log,
        (¬ ∃ project after,
          Welcome session.settings session.volume session.writer info project after) ∧
        session.handshake info = (.error failure, { session with
          volume := (Store.project ⟨session.settings.output⟩ info session.volume).2
          writer
          log })) ∨
      ∃ project writer log,
        Welcome session.settings session.volume session.writer info project writer ∧
        session.handshake info = (.ok (), session.introduced info project
          (Store.project ⟨session.settings.output⟩ info session.volume).2 writer log) := by
  obtain ⟨lines, noted⟩ := notes_eq session (projectLines session.peer.address info)
  obtain ⟨settings, peer, writer, _, file, timed, summary, volume, log⟩ := session
  cases unknown
  unfold handshake
  simp only at noted ⊢
  rw [noted]
  simp only
  rcases given : Store.project ⟨settings.output⟩ info volume with ⟨failure | project, made⟩
  · refine .inl ⟨_, _, _, ?_, rfl⟩
    rintro ⟨project, after, welcome⟩
    cases (congrArg Prod.fst given).symm.trans welcome.given
  · simp only [pull]
    cases pulls : settings.pulls with
    | false => exact .inr ⟨_, _, _, ⟨by rw [given], .inl ⟨pulls, rfl⟩⟩, rfl⟩
    | true =>
      -- the request is for what is there when the folders are made, and there is no other
      have unasked (refused : ∀ known, project.knownIds made = .ok known →
          (writer.pull .classes known).1 ≠ .ok ()) :
          ¬ ∃ project after, Welcome settings volume writer info project after := by
        rintro ⟨other, after, ⟨same, asked⟩⟩
        rw [given] at same asked
        obtain rfl := Except.ok.inj same
        obtain ⟨idle, -⟩ | ⟨-, known, identifiers, sent⟩ := asked
        · cases pulls.symm.trans idle
        · exact refused known identifiers (by rw [sent])
      simp only [Bool.not_true, Bool.false_eq_true, if_false]
      rcases identifiers : project.knownIds made with failure | known
      · refine .inl ⟨_, _, _, unasked fun known there => ?_, rfl⟩
        cases identifiers.symm.trans there
      · simp only [note]
        rcases asked : writer.pull .classes known with ⟨failure | _, writer'⟩
        · refine .inl ⟨failure, writer', _, unasked fun other there => ?_, rfl⟩
          obtain rfl := Except.ok.inj (identifiers.symm.trans there)
          rw [asked]
          exact nofun
        · refine .inr ⟨project, writer', _, ⟨by rw [given], .inr ⟨pulls, known, ?_, asked⟩⟩, rfl⟩
          rw [given]
          exact identifiers

section

variable {project : ProjectStore} (known : session.project = some project)

include known

/-- **A file is offered to the store**, and counted if it was stored. -/
theorem take_file (artifact : ArtifactFile) :
    ∃ log, session.take (.file artifact) =
      (.ok (), { session with
        volume := (project.saveFile artifact.name artifact.contents session.volume).2
        summary := { session.summary with
          files := session.summary.files +
            if (project.saveFile artifact.name artifact.contents session.volume).1.toOption.isSome
            then 1 else 0 }
        log }) := by
  obtain ⟨settings, peer, writer, _, file, timed, summary, volume, log⟩ := session
  cases known
  simp only [take, takeFile]
  rcases project.saveFile artifact.name artifact.contents volume with ⟨failure | path, after⟩ <;>
    exact ⟨_, rfl⟩

/-- A file of execution data is begun unless that fails. -/
theorem provideFile_cases (none : session.file = none) :
    (∃ failure, (project.executionFile session.label session.volume).1 = .error failure ∧
        session.provideFile = (.error failure, { session with
          volume := (project.executionFile session.label session.volume).2 })) ∨
      ∃ file log, (project.executionFile session.label session.volume).1 = .ok file ∧
        session.provideFile = (.ok (), { session with
          file := some file
          volume := (project.executionFile session.label session.volume).2
          summary := { session.summary with path := some file.path }
          log }) := by
  obtain ⟨settings, peer, writer, _, _, timed, summary, volume, log⟩ := session
  cases known
  cases none
  unfold provideFile label
  simp only
  rcases project.executionFile (sessionLabel peer.stamp peer.port) volume with
    ⟨failure | file, after⟩
  · exact .inl ⟨failure, rfl, rfl⟩
  · exact .inr ⟨file, _, rfl, rfl⟩

end

/-- Execution data goes the way of execution data. -/
theorem take_data (belongs : ExecutionFile.admits record = true) :
    session.take record = session.takeData record := by
  cases record <;> first | rfl | cases belongs

/-- **Execution data is appended** to the file of the session. -/
theorem take_data_of_file {file : ExecutionFile} (begun : session.file = some file)
    (belongs : ExecutionFile.admits record = true)
    (fits : (file.append record session.volume).1 = .ok ()) :
    session.take record =
      (.ok (), { session with
        file := some (file.append record session.volume).2.1
        volume := (file.append record session.volume).2.2
        summary := { session.summary with records := session.summary.records + 1 } }) := by
  obtain ⟨settings, peer, writer, project, _, timed, summary, volume, log⟩ := session
  cases begun
  rw [take_data belongs, takeData, provideFile]
  simp only at fits ⊢
  generalize file.append record volume = appended at fits ⊢
  obtain ⟨result, after⟩ := appended
  cases fits
  rfl

/-- Where the file cannot be begun the record is not taken. -/
theorem take_data_of_error (belongs : ExecutionFile.admits record = true) {failure : Failure}
    {after : Session} (failed : session.provideFile = (.error failure, after)) :
    session.take record = (.error failure, after) := by
  rw [take_data belongs, takeData, failed]

/-- Where it was begun the record is taken as by a session that has it. -/
theorem take_data_of_begun (belongs : ExecutionFile.admits record = true) {after : Session}
    (begun : session.provideFile = (.ok (), after)) {file : ExecutionFile}
    (there : after.file = some file) : session.take record = after.take record := by
  have provided : after.provideFile = (.ok (), after) := by
    rw [provideFile, there]
  rw [take_data belongs, take_data belongs, takeData, takeData, begun, provided]

theorem flush_of_file {file : ExecutionFile} (begun : session.file = some file) :
    session.flush =
      { session with
        file := some (file.flush session.volume).1
        volume := (file.flush session.volume).2 } := by
  rw [flush, begun]

/-- Completing the file on disk does nothing else. -/
theorem flush_cases (session : Session) :
    ∃ file volume, session.flush = { session with file, volume } ∧
      file.map (·.path) = session.file.map (·.path) := by
  rcases begun : session.file with _ | file
  · refine ⟨session.file, session.volume, ?_, congrArg _ begun⟩
    rw [flush, begun]
    simp only [← begun]
  · exact ⟨_, _, flush_of_file begun, congrArg some (file.path_flush session.volume)⟩

/-- The file is still the one that it was. -/
theorem exists_file_of_flush {file : ExecutionFile} (same : session.flush.file = some file) :
    ∃ earlier, session.file = some earlier ∧ earlier.path = file.path := by
  obtain ⟨_, volume, flushed, path⟩ := session.flush_cases
  rw [flushed] at same
  obtain rfl : _ = some file := same
  exact Option.map_eq_some_iff.1 path.symm

@[simp] theorem project_flush (session : Session) : session.flush.project = session.project := by
  obtain ⟨file, volume, flushed, -⟩ := session.flush_cases
  rw [flushed]

@[simp] theorem summary_flush (session : Session) : session.flush.summary = session.summary := by
  obtain ⟨file, volume, flushed, -⟩ := session.flush_cases
  rw [flushed]

/-- An acknowledgement completes the file on disk. -/
theorem take_ok (session : Session) :
    ∃ log, session.take .ok = (.ok (), { session.flush with log }) := by
  obtain ⟨settings, peer, writer, project, file, timed, summary, volume, log⟩ := session
  cases file <;> exact ⟨_, rfl⟩

/-- **A record that is not taken** is the first of execution data, and there is no file for it. -/
theorem file_eq_none_of_take {project : ProjectStore} (known : session.project = some project)
    (writable : record.Writable) {failure : Failure} {after : Session}
    (refused : session.take record = (.error failure, after)) : after.file = none := by
  have data (belongs : ExecutionFile.admits record = true) : after.file = none := by
    -- nothing that can be written is refused by a file
    have fits {state : Session} {file : ExecutionFile} (begun : state.file = some file) :
        state.take record ≠ (.error failure, after) := fun refused => by
      have taken := take_data_of_file begun belongs
        (file.append_of_writable belongs writable state.volume).1
      cases taken.symm.trans refused
    rcases begun : session.file with _ | file
    · rcases provideFile_cases known begun with ⟨_, -, provided⟩ | ⟨file, log, -, provided⟩
      · cases (take_data_of_error belongs provided).symm.trans refused
        exact begun
      · rw [take_data_of_begun belongs provided rfl] at refused
        exact absurd refused (fits rfl)
    · exact absurd refused (fits begun)
  cases record with
  | sessionInfo info => exact data rfl
  | executionData info => exact data rfl
  | projectInfo info =>
    obtain ⟨log, taken⟩ := take_projectInfo_of_project known info
    cases taken.symm.trans refused
  | file artifact =>
    obtain ⟨log, taken⟩ := take_file known artifact
    cases taken.symm.trans refused
  | ok =>
    obtain ⟨log, taken⟩ := session.take_ok
    cases taken.symm.trans refused
  | _ => cases refused

/-! ## 3.  The records without the dumps -/

/-- Takes records one after the other, up to one that is not taken. -/
def takeEach : List Record → Session → Except Failure Unit × Session :=
  handOver fun record session => session.take record

/-- Another session is the same apart from what it has logged and from the dumps it has asked for,
if it asks for dumps. -/
def Alike (session other : Session) : Prop :=
  ∃ writer timed log, other = { session with writer, timed, log } ∧
    (session.timed = false → writer = session.writer ∧ timed = false)

namespace Alike

variable {other : Session} {project : ProjectStore}

theorem of_log {log : List Log.Line} : session.Alike { session with log } :=
  ⟨_, _, _, rfl, fun quiet => ⟨rfl, quiet⟩⟩

theorem askForDumps (alike : session.Alike other) (due : Nat) :
    session.Alike (other.askForDumps due) := by
  obtain ⟨writer, timed, log, rfl, quiet⟩ := alike
  cases asks : timed with
  | false =>
    rw [askForDumps_of_not_timed rfl]
    exact ⟨writer, false, log, rfl, fun silent => ⟨(quiet silent).1, rfl⟩⟩
  | true =>
    obtain ⟨writer', timed', log', asked⟩ :=
      Session.askForDumps_cases { session with writer, timed := true, log } due
    refine ⟨writer', timed', log', asked, fun silent => ?_⟩
    cases asks.symm.trans (quiet silent).2

theorem flush (alike : session.Alike other) : session.flush.Alike other.flush := by
  obtain ⟨writer, timed, log, rfl, quiet⟩ := alike
  obtain ⟨settings, peer, writer', project, file, timed', summary, volume, log'⟩ := session
  cases file <;> exact ⟨_, _, _, rfl, quiet⟩

theorem takeData (alike : session.Alike other) (known : session.project = some project)
    (record : Record) :
    (other.takeData record).1 = (session.takeData record).1 ∧
      (session.takeData record).2.Alike (other.takeData record).2 ∧
      (session.takeData record).2.project = some project := by
  obtain ⟨writer, timed, log, rfl, quiet⟩ := alike
  obtain ⟨settings, peer, writer', _, file, timed', summary, volume, log'⟩ := session
  cases known
  cases file with
  | some file =>
    simp only [Session.takeData, provideFile]
    rcases file.append record volume with ⟨failure | _, file, volume⟩ <;>
      exact ⟨rfl, ⟨_, _, _, rfl, quiet⟩, rfl⟩
  | none =>
    simp only [Session.takeData, provideFile]
    rcases project.executionFile (sessionLabel peer.stamp peer.port) volume with
      ⟨failure | file, volume⟩
    · exact ⟨rfl, ⟨_, _, _, rfl, quiet⟩, rfl⟩
    · simp only [note]
      rcases file.append record volume with ⟨failure | _, file, volume⟩ <;>
        exact ⟨rfl, ⟨_, _, _, rfl, quiet⟩, rfl⟩

/-- **Sessions that are alike take a record alike** once the project is known. -/
theorem take (alike : session.Alike other) (known : session.project = some project)
    (record : Record) :
    (other.take record).1 = (session.take record).1 ∧
      (session.take record).2.Alike (other.take record).2 ∧
      (session.take record).2.project = some project := by
  have data := alike.takeData known record
  obtain ⟨writer, timed, log, rfl, quiet⟩ := alike
  obtain ⟨settings, peer, writer', _, file, timed', summary, volume, log'⟩ := session
  cases known
  cases record with
  | sessionInfo info => exact data
  | executionData info => exact data
  | file artifact =>
    simp only [Session.take, takeFile]
    rcases project.saveFile artifact.name artifact.contents volume with ⟨failure | path, after⟩ <;>
      exact ⟨trivial, ⟨_, _, _, rfl, quiet⟩, rfl⟩
  | ok => cases file <;> exact ⟨rfl, ⟨_, _, _, rfl, quiet⟩, rfl⟩
  | _ => exact ⟨rfl, ⟨_, _, _, rfl, quiet⟩, rfl⟩

/-- **It does not matter whether dumps are asked for** as far as the records are concerned. -/
theorem handOver_receive (alike : session.Alike other) (known : session.project = some project)
    (records : List Record) (number : Nat) :
    (handOver receive (records.zipIdx number) other).1 = (takeEach records session).1 ∧
      (takeEach records session).2.Alike (handOver receive (records.zipIdx number) other).2 := by
  induction records generalizing session other number with
  | nil => exact ⟨rfl, alike⟩
  | cons record records ih =>
    obtain ⟨same, still, known⟩ := (alike.askForDumps (other.peer.ticks number)).take known record
    rw [List.zipIdx_cons, handOver, takeEach, handOver, receive]
    rcases taken : session.take record with ⟨failure | _, after⟩ <;>
      rcases taken' : (other.askForDumps (other.peer.ticks number)).take record with
        ⟨failure' | _, after'⟩ <;>
      rw [taken, taken'] at same <;> rw [taken, taken'] at still <;> rw [taken] at known
    · exact ⟨same, still⟩
    · cases same
    · cases same
    · exact ih still known (number + 1)

end Alike

/-! ## 4.  A whole session -/

/-- The first project info among records, and the records behind it. -/
def announcement? : List Record → Option (ProjectInfo × List Record)
  | [] => none
  | .projectInfo info :: later => some (info, later)
  | _ :: later => announcement? later

/-- The project info stands between what comes before it and what comes later. -/
theorem exists_of_announcement? {records later : List Record} {info : ProjectInfo}
    (announced : announcement? records = some (info, later)) :
    ∃ earlier, records = earlier ++ .projectInfo info :: later ∧ announcement? earlier = none := by
  fun_induction announcement? records with
  | case1 => cases announced
  | case2 info' later' =>
    obtain ⟨rfl, rfl⟩ := Prod.mk.inj (Option.some.inj announced)
    exact ⟨[], rfl, rfl⟩
  | case3 record later' other ih =>
    obtain ⟨earlier, rfl, silent⟩ := ih announced
    refine ⟨record :: earlier, rfl, ?_⟩
    rw [announcement?]
    · exact silent
    · exact other

theorem announcement?_append_of_none {done : List Record} (silent : announcement? done = none)
    (rest : List Record) : announcement? (done ++ rest) = announcement? rest := by
  fun_induction announcement? done with
  | case1 => rfl
  | case2 info later => cases silent
  | case3 record later other ih =>
    rw [List.cons_append, announcement?]
    · exact ih silent
    · exact other

/-- A session of which nothing is known yet. -/
structure Fresh (session : Session) : Prop where
  project : session.project = none
  file : session.file = none
  timed : session.timed = false

/-- **A session in which no project info arrives** stays as it is. -/
theorem takeEach_of_silent {records : List Record} (silent : announcement? records = none)
    (fresh : session.Fresh) :
    ∃ log, takeEach records session = (.ok (), { session with log }) := by
  fun_induction announcement? records generalizing session with
  | case1 => exact ⟨_, rfl⟩
  | case2 info later => cases silent
  | case3 record later other ih =>
    obtain ⟨log, taken⟩ := take_of_no_project fresh.project fresh.file fun info same =>
      other info same
    have still : Fresh { session with log } := ⟨fresh.project, fresh.file, fresh.timed⟩
    rw [takeEach, handOver, taken]
    exact ih silent still

/-- **A session begins with the first project info**, and if that is taken goes on from there. -/
theorem takeEach_of_announced {before : List Record} (silent : announcement? before = none)
    (fresh : session.Fresh) (info : ProjectInfo) :
    (∃ failure writer log,
        (¬ ∃ project after,
          Welcome session.settings session.volume session.writer info project after) ∧
        ∀ later, takeEach (before ++ .projectInfo info :: later) session =
          (.error failure, { session with
            volume := (Store.project ⟨session.settings.output⟩ info session.volume).2
            writer
            log })) ∨
      ∃ project writer log,
        Welcome session.settings session.volume session.writer info project writer ∧
        ∀ later, takeEach (before ++ .projectInfo info :: later) session =
          takeEach later (session.introduced info project
            (Store.project ⟨session.settings.output⟩ info session.volume).2 writer log) := by
  obtain ⟨log, nothing⟩ := takeEach_of_silent silent fresh
  have onward (later : List Record) : takeEach (before ++ .projectInfo info :: later) session =
      takeEach (.projectInfo info :: later) { session with log } := by
    rw [takeEach, handOver_append, ← takeEach, nothing]
  simp only [takeEach, handOver, take_projectInfo] at onward ⊢
  rcases handshake_cases { session with log } fresh.project info with
    ⟨failure, writer, log, unwelcome, failed⟩ | ⟨project, writer, log, welcome, taken⟩
  · rw [failed] at onward
    exact .inl ⟨failure, writer, log, unwelcome, onward⟩
  · rw [taken] at onward
    exact .inr ⟨project, writer, log, welcome, onward⟩

/-- Up to the project info no dumps are asked for, and from there on it does not matter. -/
theorem Fresh.handOver_receive (fresh : session.Fresh) (records : List Record) (number : Nat) :
    (handOver receive (records.zipIdx number) session).1 = (takeEach records session).1 ∧
      (takeEach records session).2.Alike
        (handOver receive (records.zipIdx number) session).2 := by
  induction records generalizing session number with
  | nil => exact ⟨rfl, .of_log⟩
  | cons record records ih =>
    rw [List.zipIdx_cons, handOver, takeEach, handOver, receive,
      askForDumps_of_not_timed fresh.timed]
    rcases taken : session.take record with ⟨failure | _, after⟩
    · exact ⟨rfl, .of_log⟩
    by_cases introduces : ∃ info, record = .projectInfo info
    · obtain ⟨info, rfl⟩ := introduces
      rw [take_projectInfo] at taken
      rcases session.handshake_cases fresh.project info with
        ⟨failure, writer, log, -, failed⟩ | ⟨project, writer, log, -, introduced⟩
      · cases failed.symm.trans taken
      · have known : after.project = some project :=
          congrArg (fun outcome : _ × Session => outcome.2.project) (taken.symm.trans introduced)
        exact Alike.of_log.handOver_receive known records (number + 1)
    · obtain ⟨log, nothing⟩ := take_of_no_project fresh.project fresh.file fun info same =>
        introduces ⟨info, same⟩
      cases nothing.symm.trans taken
      have still : Fresh { session with log } := ⟨fresh.project, fresh.file, fresh.timed⟩
      exact ih still (number + 1)

/-- A session once its header was sent. -/
def opened (settings : Settings) (peer : Peer) (sink : Wire.Sink) (volume : Volume) : Session :=
  new settings peer (Link.RecordWriter.start sink).2 volume

theorem fresh_opened (settings : Settings) (peer : Peer) (sink : Wire.Sink) (volume : Volume) :
    (opened settings peer sink volume).Fresh :=
  ⟨rfl, rfl, rfl⟩

/-- **A whole session**, from a header that was sent: the records are taken, the file is completed
on disk, and if everything was taken, it is up to the stream how the session ends. -/
theorem serve_eq {settings : Settings} (waits : settings.heartbeatTimeout ≠ .zero)
    {sink : Wire.Sink} (starts : (Link.RecordWriter.start sink).1 = .ok ()) (stopped : Bool)
    (peer : Peer) (source : Wire.Source) (volume : Volume) :
    let read := (RecordStream.start source).readAll
    let taken := takeEach read.1 (opened settings peer sink volume)
    (serve settings stopped peer source sink volume).1 =
        (taken.1.bind fun _ => (ending stopped read.2).map fun _ => taken.2.summary) ∧
      taken.2.flush.Alike (serve settings stopped peer source sink volume).2 := by
  intro read taken
  have enough : (RecordStream.start source).source.unread.length < source.unread.length + 1 :=
    Nat.lt_succ_self _
  have header : Link.RecordWriter.start sink = (.ok (), (Link.RecordWriter.start sink).2) :=
    Prod.ext starts rfl
  obtain ⟨same, alike⟩ := (fresh_opened settings peer sink volume).handOver_receive read.1 0
  rw [serve, if_neg waits, header]
  simp only
  rw [takeAll_eq enough]
  simp only [← show opened settings peer sink volume =
    new settings peer (Link.RecordWriter.start sink).2 volume from rfl]
  generalize handOver receive (read.1.zipIdx 0) (opened settings peer sink volume) = outcome
    at same alike ⊢
  rcases outcome with ⟨failure | _, session⟩
  · rw [← same]
    exact ⟨rfl, alike.flush⟩
  · have ended := (alike.askForDumps (session.peer.ticks (0 + read.1.length))).flush
    have summary : (session.askForDumps (session.peer.ticks (0 + read.1.length))).flush.summary =
        taken.2.summary := by
      obtain ⟨writer, timed, log, finished, -⟩ := ended
      rw [finished]
      exact taken.2.summary_flush
    rw [← same]
    exact ⟨congrArg (fun summary => (ending stopped read.2).map fun _ => summary) summary, ended⟩

end Session
end Collector
end CoverageLink
