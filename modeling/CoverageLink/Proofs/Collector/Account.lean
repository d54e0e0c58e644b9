import CoverageLink.Proofs.Collector.Session
import CoverageLink.Proofs.Collector.Store

/-!
# The account of a session

What a session owes to its agent once its project is known: every file was offered to the store in
its turn, and the stored ones are counted; execution data is counted, and there is a file for it if
there was any; and nothing else is touched, in particular what was sent (`Session.Account`).

Every record keeps the account (`Account.take`).  There is a single point at which that could fail,
the beginning of the file of execution data, so a run keeps it if that can be begun whenever
execution data arrives (`Account.run`).

What stands on disk is no matter of the account: that is kept even where a record is not taken.
-/

namespace CoverageLink
namespace Collector
namespace Session

open Files (Path)

variable {session : Session} {record : Record}

/-- What the store answers to a record, if the record is a file and so is offered to the store. -/
def answer? (project : ProjectStore) (session : Session) : Record → Option (Except Failure Path)
  | .file artifact =>
    some (project.saveFile artifact.name artifact.contents session.volume).1
  | _ => none

/-- What the store answers to the files among records, in order. -/
def answers (project : ProjectStore) : List Record → Session → List (Except Failure Path)
  | [], _ => []
  | record :: records, session =>
    (answer? project session record).toList ++ answers project records (session.take record).2

/-- What a session owes to the records that have arrived since it learned of its project. -/
structure Account (project : ProjectStore) (start : Session) (done : List Record)
    (session : Session) : Prop where
  reached : takeEach done start = (.ok (), session)
  peer : session.peer = start.peer
  known : session.project = some project
  told : session.summary.project = start.summary.project
  writer : session.writer = start.writer
  timed : session.timed = start.timed
  files : session.summary.files =
    (answers project done start).countP fun answer => answer.toOption.isSome
  records : session.summary.records = done.countP ExecutionFile.admits
  path : session.summary.path =
    if done.any ExecutionFile.admits then some (project.folder.child start.fileName) else none
  file : session.file.map (·.path) = session.summary.path

namespace Account

variable {project : ProjectStore} {start : Session} {done : List Record}

theorem answers_append {first : List Record} {session middle : Session}
    (reached : takeEach first session = (.ok (), middle)) (second : List Record) :
    answers project (first ++ second) session =
      answers project first session ++ answers project second middle := by
  induction first generalizing session with
  | nil =>
    cases reached
    rfl
  | cons record records ih =>
    rw [takeEach, handOver] at reached
    rw [List.cons_append, answers, answers, List.append_assoc]
    rcases taken : session.take record with ⟨failure | _, after⟩ <;> rw [taken] at reached
    · cases reached
    · rw [ih reached]

/-- One more record was taken. -/
theorem snoc (account : Account project start done session) {after : Session}
    (taken : session.take record = (.ok (), after))
    (frame : ∃ file summary volume log, after = { session with file, summary, volume, log })
    (told : after.summary.project = session.summary.project)
    (files : after.summary.files = session.summary.files +
      (answer? project session record).toList.countP fun answer => answer.toOption.isSome)
    (records : after.summary.records =
      session.summary.records + [record].countP ExecutionFile.admits)
    (path : after.summary.path = if ExecutionFile.admits record then
      some (project.folder.child session.fileName) else session.summary.path)
    (file : after.file.map (·.path) = after.summary.path) :
    Account project start (done ++ [record]) after := by
  obtain ⟨reached, peer, known, told', writer, timed, files', records', path', -⟩ := account
  refine ⟨?_, ?_, ?_, told.trans told', ?_, ?_, ?_, ?_, ?_, file⟩
  · rw [takeEach, handOver_append, ← takeEach, reached]
    exact (handOver_singleton _ _ _).trans taken
  · obtain ⟨_, _, _, _, rfl⟩ := frame
    exact peer
  · obtain ⟨_, _, _, _, rfl⟩ := frame
    exact known
  · obtain ⟨_, _, _, _, rfl⟩ := frame
    exact writer
  · obtain ⟨_, _, _, _, rfl⟩ := frame
    exact timed
  · rw [files, files', answers_append reached, List.countP_append, answers, answers,
      List.append_nil]
  · rw [records, records', List.countP_append]
  · rw [path, path', List.any_append, fileName_congr peer]
    cases belongs : ExecutionFile.admits record <;>
      cases done.any ExecutionFile.admits <;> simp [belongs]

/-- A record that changes nothing but the log. -/
theorem idle (account : Account project start done session)
    (stranger : ExecutionFile.admits record = false)
    (unoffered : answer? project session record = none)
    (nothing : ∃ log, session.take record = (.ok (), { session with log })) :
    ∃ after, session.take record = (.ok (), after) ∧
      Account project start (done ++ [record]) after := by
  obtain ⟨log, taken⟩ := nothing
  refine ⟨_, taken, account.snoc taken ⟨_, _, _, _, rfl⟩ rfl ?_ ?_ ?_ account.file⟩
  · rw [unoffered]
    rfl
  · rw [List.countP_singleton, stranger]
    rfl
  · rw [stranger]
    rfl

/-- Execution data is taken as by a session that has a file for it: this one, or the one that has
begun the file. -/
theorem exists_file (account : Account project start done session)
    (belongs : ExecutionFile.admits record = true) (begun : session.provideFile.1 = .ok ()) :
    ∃ ready file summary volume log, session.take record = ready.take record ∧
      ready = { session with file := some file, summary, volume, log } ∧
      summary = { session.summary with path := some file.path } ∧
      file.path = project.folder.child session.fileName := by
  rcases there : session.file with _ | file
  · rcases provideFile_cases account.known there with ⟨failure, -, failed⟩ |
      ⟨file, log, ok, provided⟩
    · rw [failed] at begun
      cases begun
    · exact ⟨_, file, _, _, log, Session.take_data_of_begun belongs provided rfl, rfl, rfl,
        ProjectStore.path_of_executionFile (Prod.ext ok rfl)⟩
  · have path : session.summary.path = some file.path := by
      rw [← account.file, there]
      rfl
    refine ⟨session, file, session.summary, session.volume, session.log, rfl, ?_, ?_, ?_⟩
    · rw [← there]
    · rw [← path]
    · have same := path.symm.trans account.path
      rw [fileName_congr account.peer]
      split at same
      · exact Option.some.inj same
      · cases same

/-- **Execution data** goes to the one file there is, which is begun before the first of it. -/
theorem take_data (account : Account project start done session) (writable : record.Writable)
    (belongs : ExecutionFile.admits record = true) (begun : session.provideFile.1 = .ok ()) :
    ∃ after, session.take record = (.ok (), after) ∧
      Account project start (done ++ [record]) after := by
  have unoffered : answer? project session record = none := by
    cases record with
    | file artifact => cases belongs
    | _ => rfl
  obtain ⟨_, file, _, volume, log, same, rfl, rfl, path⟩ := account.exists_file belongs begun
  obtain ⟨fits, kept⟩ := file.append_of_writable belongs writable volume
  have taken := same.trans (take_data_of_file rfl belongs fits)
  refine ⟨_, taken, account.snoc taken ⟨_, _, _, _, rfl⟩ rfl ?_ ?_ ?_ ?_⟩
  · rw [unoffered]
    rfl
  · rw [List.countP_singleton, belongs]
    rfl
  · rw [belongs, if_pos rfl, path]
  · rw [Option.map_some, kept]

/-- **The account is kept by every record**, if the file of execution data can be begun. -/
theorem take (account : Account project start done session) (writable : record.Writable)
    (begun : ExecutionFile.admits record = true → session.provideFile.1 = .ok ()) :
    ∃ after, session.take record = (.ok (), after) ∧
      Account project start (done ++ [record]) after := by
  have known := account.known
  cases record with
  | header version => exact account.idle rfl rfl ⟨_, rfl⟩
  | heartbeat => exact account.idle rfl rfl ⟨_, rfl⟩
  | pull request => exact account.idle rfl rfl ⟨_, rfl⟩
  | dump dumps resets => exact account.idle rfl rfl ⟨_, rfl⟩
  | projectInfo info => exact account.idle rfl rfl (take_projectInfo_of_project known info)
  | file artifact =>
    obtain ⟨log, taken⟩ := take_file known artifact
    refine ⟨_, taken, account.snoc taken ⟨_, _, _, _, rfl⟩ rfl ?_ rfl rfl account.file⟩
    rw [answer?, Option.toList, List.countP_singleton]
  | ok =>
    obtain ⟨log, taken⟩ := session.take_ok
    obtain ⟨file, volume, flushed, path⟩ := session.flush_cases
    rw [flushed] at taken
    exact ⟨_, taken, account.snoc taken ⟨_, _, _, _, rfl⟩ rfl rfl rfl rfl (path.trans account.file)⟩
  | sessionInfo info => exact account.take_data writable rfl (begun rfl)
  | executionData info => exact account.take_data writable rfl (begun rfl)

/-- **The account is kept by a run.** -/
theorem run (account : Account project start [] start) {later : List Record}
    (writable : ∀ record ∈ later, record.Writable)
    (begun : ∀ done record rest, later = done ++ record :: rest →
      ExecutionFile.admits record = true → (takeEach done start).2.provideFile.1 = .ok ()) :
    ∃ session, Account project start later session := by
  have step (done rest : List Record) (record : Record) (state : Session)
      (split : later = done ++ record :: rest) (kept : Account project start done state) :
      ∃ after, state.take record = (.ok (), after) ∧
        Account project start (done ++ [record]) after := by
    refine kept.take (writable record ?_) fun belongs => ?_
    · rw [split]
      exact List.mem_append_right _ List.mem_cons_self
    · have ready := begun done record rest split belongs
      rwa [kept.reached] at ready
  rcases handOver_induction (fun record (session : Session) => session.take record) later
      (Account project start) (fun _ => False) account
      (fun done record rest state after split kept taken => by
        obtain ⟨after', taken', account⟩ := step done rest record state split kept
        cases taken.symm.trans taken'
        exact account)
      (fun done record rest state failure after split kept refused => by
        obtain ⟨after', taken', -⟩ := step done rest record state split kept
        cases refused.symm.trans taken') with ⟨session, -, account⟩ | ⟨_, _, _, none⟩
  · exact ⟨session, account⟩
  · exact none.elim

end Account

end Session
end Collector
end CoverageLink
