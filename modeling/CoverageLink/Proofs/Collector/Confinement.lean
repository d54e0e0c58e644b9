import CoverageLink.Proofs.Collector.Session
import CoverageLink.Proofs.Collector.Store

/-!
# A session keeps to the folder of its project

Whatever an agent sends, and in whatever order: once its project is known, nothing outside the
folder of that project is changed any more.

## 1.  One record

The invariant (`Session.Housed`) is about the disk.  All changes since the project became known lie
below its folder, and the file of execution data, once it is begun, holds a header and then the
execution data so far, encoded (`Housed.take`).  Both halves need the places to be kept apart: the
file lies in the folder of the project, the artifacts lie below `classes`, and since nothing there
is a link, storing an artifact cannot touch the file.

## 2.  A whole session

Before the first project info the volume is as it was, and taking the project info makes the folders
of the project and does nothing else.  With the invariant this describes the disk at every moment of
a session, and what the session leaves in the end, dumps asked for or not (`Session.left_serve`): so
a session keeps to the folder of its project (`Session.confined_serve`).

## 3.  The store

Which names an agent can put into a store at all, and where they lead, is the other half of
`store_confined`.
-/

namespace CoverageLink
namespace Collector

open Files (Ordinary Path Volume Location)
open Files.Volume (Changes)
open ProjectStore (Below)

/-- A project has its folder at a place of a volume, and nothing below the place is a link. -/
structure ProjectStore.Home (project : ProjectStore) (volume : Volume) (home : Location) :
    Prop where
  sound : volume.Sound
  ends : project.folder.EndsInName
  folder : volume.folderAt project.folder = .ok home
  classes : volume.folderAt project.classes = .ok (home ++ ["classes"])
  unlinked : volume.Unlinked home

theorem ProjectStore.Home.changes {project : ProjectStore} {volume after : Volume} {home : Location}
    {places : Location → Prop} (there : project.Home volume home)
    (changes : Changes places volume after) : project.Home after home where
  sound := changes.sound there.sound
  ends := there.ends
  folder := changes.keeps.folderAt there.folder
  classes := changes.keeps.folderAt there.classes
  unlinked := changes.unlinked there.unlinked

namespace Session

/-! ## 1.  One record -/

/-- The places that a session uses in the folder of its project: those below the folder of the
artifacts, and a single one for execution data once there is any. -/
def Uses (home : Location) (name : String) (data : List Record) (location : Location) : Prop :=
  Below (home ++ ["classes"]) location ∨ data ≠ [] ∧ location = home ++ [name]

theorem below_of_uses {home location : Location} {name : String} {data : List Record}
    (used : Uses home name data location) : Below home location := by
  rcases used with ⟨names, -, rfl⟩ | ⟨-, rfl⟩
  · exact ⟨"classes" :: names, List.cons_ne_nil _ _, by simp⟩
  · exact ⟨[name], List.cons_ne_nil _ _, rfl⟩

theorem Uses.more {home location : Location} {name : String} {data more : List Record}
    (used : Uses home name data location) (kept : data ≠ [] → more ≠ []) :
    Uses home name more location :=
  used.imp_right fun own => ⟨kept own.1, own.2⟩

/-- The disk of a session whose project has its folder at `home`, since the volume was `made`. -/
structure Housed (made : Volume) (home : Location) (data : List Record) (session : Session) :
    Prop where
  changes : Changes (Uses home session.fileName data) made session.volume
  begun : session.file = none ↔ data = []
  written : ∀ file, session.file = some file → ∃ parts, data.mapM Record.encode = .ok parts ∧
    file.Writing session.volume (home ++ [session.fileName])
      (Record.streamHeader ++ parts.flatten)

namespace Housed

variable {made : Volume} {home : Location} {data : List Record} {session : Session}
  {project : ProjectStore} {record : Record}

/-- The disk of another session is the same. -/
theorem alike {other : Session} (housed : Housed made home data session)
    (peer : other.peer = session.peer) (volume : other.volume = session.volume)
    (file : other.file = session.file) : Housed made home data other := by
  have name := fileName_congr peer
  obtain ⟨changes, begun, written⟩ := housed
  exact ⟨by rwa [name, volume], by rwa [file], by rwa [name, volume, file]⟩

/-- The file was written to. -/
theorem of_wrote {before after : ExecutionFile × Volume} {parts : List Bytes} {later : Session}
    (changes : Changes (Uses home session.fileName data) made before.2) (some_data : data ≠ [])
    (encoded : data.mapM Record.encode = .ok parts)
    (wrote : ExecutionFile.Wrote (home ++ [session.fileName])
      (Record.streamHeader ++ parts.flatten) before after)
    (peer : later.peer = session.peer) (file : later.file = some after.1)
    (volume : later.volume = after.2) : Housed made home data later := by
  refine ⟨?_, ?_, ?_⟩
  · rw [fileName_congr peer, volume]
    exact changes.trans (wrote.changes.mono fun location here => .inr ⟨some_data, here⟩)
  · rw [file]
    exact iff_of_false (Option.some_ne_none _) some_data
  · intro other same
    rw [file] at same
    obtain rfl := Option.some.inj same
    rw [fileName_congr peer, volume]
    exact ⟨parts, encoded, wrote.writing⟩

/-- **The file is completed on disk**: its path leads to all that belongs there. -/
theorem flush (housed : Housed made home data session) :
    Housed made home data session.flush ∧
      ∀ file, session.file = some file → ∃ parts, data.mapM Record.encode = .ok parts ∧
        session.flush.volume.contentsAt file.path = .ok (Record.streamHeader ++ parts.flatten) := by
  rcases begun : session.file with _ | file
  · have same : session.flush = session := by rw [Session.flush, begun]
    rw [same]
    exact ⟨housed, fun file begun => by cases begun⟩
  · obtain ⟨parts, encoded, writing⟩ := housed.written file begun
    have some_data : data ≠ [] := fun nothing => by
      rw [housed.begun.2 nothing] at begun
      cases begun
    rw [flush_of_file begun]
    refine ⟨of_wrote housed.changes some_data encoded writing.flush.1 rfl rfl rfl,
      fun same begun => ?_⟩
    obtain rfl := Option.some.inj begun
    exact ⟨parts, encoded, writing.contentsAt_flush⟩

/-- An artifact is stored, and the file stays as it is. -/
theorem saveFile (housed : Housed made home data session) (there : project.Home made home)
    (artifact : ArtifactFile) {later : Session} (peer : later.peer = session.peer)
    (file : later.file = session.file)
    (volume : later.volume =
      (project.saveFile artifact.name artifact.contents session.volume).2) :
    Housed made home data later := by
  have name := fileName_congr peer
  have now := there.changes housed.changes
  have saved : Changes (Below (home ++ ["classes"])) session.volume later.volume := by
    rw [volume]
    exact ProjectStore.changes_saveFile now.sound now.classes (now.unlinked.below ["classes"])
  refine ⟨?_, file ▸ housed.begun, ?_⟩
  · rw [name]
    exact housed.changes.trans (saved.mono fun location here => .inl here)
  · intro written same
    obtain ⟨parts, encoded, writing⟩ := housed.written written (file ▸ same)
    rw [name]
    refine ⟨parts, encoded, writing.frame now.sound saved ?_⟩
    rintro ⟨names, -, same⟩
    rw [List.append_assoc] at same
    have first := List.append_cancel_left same
    exact ProjectStore.append_exec_ne_classes _ (List.cons.inj first).1

/-- What a record has made of the disk: one that was taken adds to the execution data if it is of
that kind, and one that was not taken changes nothing. -/
structure Took (made : Volume) (home : Location) (project : ProjectStore) (data : List Record)
    (record : Record) (outcome : Except Failure Unit × Session) : Prop where
  project : outcome.2.project = some project
  taken : outcome.1 = .ok () →
    Housed made home (data ++ [record].filter ExecutionFile.admits) outcome.2
  refused : outcome.1 ≠ .ok () → Housed made home data outcome.2

theorem Took.of_ok {later : Session} (known : later.project = some project)
    (housed : Housed made home (data ++ [record].filter ExecutionFile.admits) later) :
    Took made home project data record (.ok (), later) :=
  ⟨known, fun _ => housed, fun refused => absurd rfl refused⟩

theorem filter_of_not_admits (stranger : ExecutionFile.admits record = false)
    (data : List Record) : data ++ [record].filter ExecutionFile.admits = data := by
  rw [List.filter_cons, stranger, if_neg Bool.false_ne_true, List.filter_nil, List.append_nil]

/-- A record that is logged and nothing else. -/
theorem took_of_idle (housed : Housed made home data session)
    (known : session.project = some project)
    (stranger : ExecutionFile.admits record = false)
    (nothing : ∃ log, session.take record = (.ok (), { session with log })) :
    Took made home project data record (session.take record) := by
  obtain ⟨log, taken⟩ := nothing
  rw [taken]
  refine .of_ok known ?_
  rw [filter_of_not_admits stranger]
  exact housed.alike rfl rfl rfl

/-- Execution data is appended to a file that was begun. -/
theorem took_of_file {file : ExecutionFile} {parts : List Bytes}
    (changes : Changes (Uses home session.fileName (data ++ [record])) made session.volume)
    (encoded : data.mapM Record.encode = .ok parts)
    (writing : file.Writing session.volume (home ++ [session.fileName])
      (Record.streamHeader ++ parts.flatten))
    (begun : session.file = some file) (known : session.project = some project)
    (writable : record.Writable) (belongs : ExecutionFile.admits record = true) :
    Took made home project data record (session.take record) := by
  obtain ⟨bytes, written⟩ := ExecutionFile.exists_encode belongs writable
  obtain ⟨after, appended, wrote⟩ := writing.append belongs written
  have fits : (file.append record session.volume).1 = .ok () := by rw [appended]
  have more : data ++ [record].filter ExecutionFile.admits = data ++ [record] := by
    rw [List.filter_cons, if_pos belongs, List.filter_nil]
  have further : (data ++ [record]).mapM Record.encode = .ok (parts ++ [bytes]) := by
    rw [List.mapM_append, encoded, List.mapM_cons, written]
    rfl
  have sum : Record.streamHeader ++ parts.flatten ++ bytes =
      Record.streamHeader ++ (parts ++ [bytes]).flatten := by
    simp
  rw [sum] at wrote
  rw [take_data_of_file begun belongs fits, appended]
  refine .of_ok known ?_
  rw [more]
  exact of_wrote changes (by simp) further wrote rfl rfl rfl

/-- **Execution data**: the file is begun if need be, and what cannot be put there ends the session
with the disk as it was. -/
theorem took_of_data (housed : Housed made home data session) (there : project.Home made home)
    (known : session.project = some project) (writable : record.Writable)
    (belongs : ExecutionFile.admits record = true) :
    Took made home project data record (session.take record) := by
  have now := there.changes housed.changes
  have more : Changes (Uses home session.fileName (data ++ [record])) made session.volume :=
    housed.changes.mono fun location used => used.more fun _ => by simp
  rcases begun : session.file with _ | file
  · obtain rfl := housed.begun.1 begun
    have created := ProjectStore.executionFile_cases now.sound now.ends now.folder now.unlinked
      session.label
    rcases provideFile_cases known begun with ⟨failure, failed, provided⟩ |
      ⟨file, log, ok, provided⟩
    · rw [take_data_of_error belongs provided]
      refine ⟨known, nofun, fun _ => housed.alike rfl ?_ rfl⟩
      rcases created with ⟨_, unmade⟩ | ⟨_, _, made, _⟩
      · rw [unmade]
      · rw [made] at failed
        cases failed
    · rcases created with ⟨_, unmade⟩ | ⟨file', after, made', writing, changes⟩
      · rw [unmade] at ok
        cases ok
      · rw [made'] at ok provided
        obtain rfl := Except.ok.inj ok
        rw [← List.append_nil Record.streamHeader, ← List.flatten_nil] at writing
        rw [take_data_of_begun belongs provided rfl]
        exact took_of_file
          (more.trans (changes.mono fun location here => .inr ⟨List.cons_ne_nil _ _, here⟩)) rfl
          writing rfl known writable belongs
  · obtain ⟨parts, encoded, writing⟩ := housed.written file begun
    exact took_of_file more encoded writing begun known writable belongs

/-- **The invariant is kept by every record.** -/
theorem take (housed : Housed made home data session) (there : project.Home made home)
    (known : session.project = some project) (writable : record.Writable) :
    Took made home project data record (session.take record) := by
  cases record with
  | header version => exact housed.took_of_idle known rfl ⟨_, rfl⟩
  | heartbeat => exact housed.took_of_idle known rfl ⟨_, rfl⟩
  | pull request => exact housed.took_of_idle known rfl ⟨_, rfl⟩
  | dump dumps resets => exact housed.took_of_idle known rfl ⟨_, rfl⟩
  | projectInfo info =>
    exact housed.took_of_idle known rfl (take_projectInfo_of_project known info)
  | file artifact =>
    obtain ⟨log, taken⟩ := take_file known artifact
    rw [taken]
    refine .of_ok known ?_
    rw [filter_of_not_admits rfl]
    exact housed.saveFile there artifact rfl rfl rfl
  | ok =>
    obtain ⟨log, taken⟩ := session.take_ok
    rw [taken]
    refine .of_ok (session.project_flush.trans known) ?_
    rw [filter_of_not_admits rfl]
    exact housed.flush.1.alike rfl rfl rfl
  | sessionInfo info => exact housed.took_of_data there known writable rfl
  | executionData data => exact housed.took_of_data there known writable rfl

/-! ## 2.  A whole session -/

/-- Nothing was done in the folder of the project yet. -/
theorem of_begun (file : session.file = none) (volume : session.volume = made) :
    Housed made home [] session :=
  ⟨volume ▸ .refl _, iff_of_true file rfl, fun _ same => by cases file.symm.trans same⟩

/-- **The invariant is kept by a run**, up to the record that is not taken. -/
theorem run (housed : Housed made home data session) (there : project.Home made home)
    (known : session.project = some project) {records : List Record}
    (writable : ∀ record ∈ records, record.Writable) :
    ∃ done, done <+: records ∧ ((takeEach records session).1 = .ok () → done = records) ∧
      Housed made home (data ++ done.filter ExecutionFile.admits) (takeEach records session).2 := by
  have step {done rest : List Record} {record : Record} {state : Session}
      (split : records = done ++ record :: rest) (at_project : state.project = some project)
      (kept : Housed made home (data ++ done.filter ExecutionFile.admits) state) :
      Took made home project (data ++ done.filter ExecutionFile.admits) record
        (state.take record) := by
    refine kept.take there at_project (writable record ?_)
    rw [split]
    exact List.mem_append_right _ List.mem_cons_self
  rw [takeEach]
  rcases handOver_induction (fun record (session : Session) => session.take record) records
      (fun done state => state.project = some project ∧
        Housed made home (data ++ done.filter ExecutionFile.admits) state)
      (fun state => ∃ done, done <+: records ∧
        Housed made home (data ++ done.filter ExecutionFile.admits) state)
      ⟨known, by simpa using housed⟩
      (fun done record rest state after split kept taken => by
        have took := step split kept.1 kept.2
        rw [taken] at took
        have grown := took.taken rfl
        rw [List.append_assoc, ← List.filter_append] at grown
        exact ⟨took.project, grown⟩)
      (fun done record rest state failure after split kept refused => by
        have took := step split kept.1 kept.2
        rw [refused] at took
        exact ⟨done, split ▸ List.prefix_append _ _, took.refused fun taken => by cases taken⟩) with
    ⟨after, all, -, housed⟩ | ⟨failure, after, stopped, done, front, housed⟩
  · rw [all]
    exact ⟨records, List.prefix_rfl, fun _ => rfl, housed⟩
  · rw [stopped]
    exact ⟨done, front, (fun all => by cases all), housed⟩

end Housed
end Session

/-- A project that was given its folders is at home where its path leads, if nothing there is a
link. -/
theorem ProjectStore.Home.of_project {store : Store} {info : ProjectInfo} {volume made : Volume}
    {project : ProjectStore} {home : Location} (sound : volume.Sound)
    (given : store.project info volume = (.ok project, made))
    (folder : made.folderAt project.folder = .ok home) (unlinked : volume.Unlinked home) :
    project.Home made home := by
  have changes := store.changes_project info volume
  obtain ⟨rfl, top, classes⟩ := Store.exists_classes_of_project given
  rw [given] at changes
  have sound' := changes.sound sound
  have unlinked' := changes.unlinked unlinked
  have ends := store.endsInName_folder info
  obtain rfl := ProjectStore.location_classes sound' ends folder unlinked' classes
  exact ⟨sound', ends, folder, classes, unlinked'⟩

/-- A project that was given its folders has its folder in the volume, unless the volume only begins
with the artifacts. -/
theorem Store.home_of_project {store : Store} {info : ProjectInfo} {volume made : Volume}
    {project : ProjectStore} (sound : volume.Sound)
    (given : store.project info volume = (.ok project, made)) :
    (∃ home, made.folderAt project.folder = .ok home) ∨ volume.home = project.classes := by
  have changes := store.changes_project info volume
  obtain ⟨rfl, top, classes⟩ := Store.exists_classes_of_project given
  rw [given] at changes
  rw [← changes.keeps.home]
  exact Volume.folder_of_child (changes.sound sound) (store.endsInName_folder info) (by decide)
    classes

/-- What a session has made of a volume, if its agent belongs to a project: the folders on the way
to the artifacts of the project were made where they were missing, and everything else was done in
the folder of the project. -/
structure Confined (store : Store) (info : ProjectInfo) (before after : Volume) : Prop where
  way : ∀ location,
    (store.project info before).2.at? location = before.at? location ∨
      before.Missing (store.project info before).2 (store.folderOf info).classes location
  refused : ∀ failure, (store.project info before).1 = .error failure →
    after = (store.project info before).2
  home : ∀ project, (store.project info before).1 = .ok project →
    (∃ home, (store.project info before).2.folderAt (store.folderOf info).folder = .ok home) ∨
      before.home = (store.folderOf info).classes
  kept : ∀ home, (store.project info before).2.folderAt (store.folderOf info).folder = .ok home →
    before.Unlinked home → ∀ location, ¬ Below home location →
      after.at? location = (store.project info before).2.at? location

/-- Taking the project info is confined, and so is what is done in the folder of the project from
there on. -/
theorem Confined.of_project {store : Store} {info : ProjectInfo} {before after : Volume}
    (sound : before.Sound)
    (refused : ∀ failure, (store.project info before).1 = .error failure →
      after = (store.project info before).2)
    (kept : ∀ home, (store.folderOf info).Home (store.project info before).2 home →
      Changes (Below home) (store.project info before).2 after) :
    Confined store info before after := by
  have changes := store.changes_project info before
  refine ⟨fun location => ?_, refused, ?_, ?_⟩
  · by_cases missing : before.Missing (store.project info before).2
      (store.folderOf info).classes location
    · exact .inr missing
    · exact .inl (changes.at?_of_not sound missing)
  all_goals rcases given : store.project info before with ⟨failure | project, made⟩
  · exact nofun
  · intro project' _
    obtain ⟨rfl, -⟩ := Store.exists_classes_of_project given
    exact Store.home_of_project sound given
  · intro home folder unlinked location elsewhere
    rw [refused failure (by rw [given]), given]
  · intro home folder unlinked location elsewhere
    obtain ⟨rfl, -⟩ := Store.exists_classes_of_project given
    have there := ProjectStore.Home.of_project sound given folder unlinked
    rw [given] at kept
    exact (kept home there).at?_of_not there.sound elsewhere

namespace Session

/-- The file of execution data of a session has its path from the project and from the label. -/
structure Filed (project : ProjectStore) (peer : Peer) (session : Session) : Prop where
  known : session.project = some project
  agent : session.peer = peer
  path : ∀ file, session.file = some file →
    file.path = project.folder.child (component (sessionLabel peer.stamp peer.port) ++ ".exec")

namespace Filed

variable {project : ProjectStore} {peer : Peer} {session : Session}

theorem flush (filed : Filed project peer session) : Filed project peer session.flush := by
  rcases begun : session.file with _ | file
  · have same : session.flush = session := by rw [Session.flush, begun]
    rwa [same]
  · rw [flush_of_file begun]
    refine ⟨filed.known, filed.agent, fun after same => ?_⟩
    obtain rfl := Option.some.inj same
    rw [file.path_flush]
    exact filed.path file begun

/-- Execution data that is appended, or is not, leaves the file where it is. -/
theorem take_of_file (filed : Filed project peer session) {record : Record}
    (belongs : ExecutionFile.admits record = true) {file : ExecutionFile}
    (begun : session.file = some file) : Filed project peer (session.take record).2 := by
  rw [Session.take_data belongs, takeData, provideFile, begun]
  simp only [begun]
  have path := file.path_append record session.volume
  generalize file.append record session.volume = appended at path ⊢
  obtain ⟨failure | _, after, volume⟩ := appended <;>
    refine ⟨filed.known, filed.agent, ?_⟩ <;>
    rintro _ ⟨⟩ <;>
    exact path.trans (filed.path file begun)

theorem take_of_data (filed : Filed project peer session) {record : Record}
    (belongs : ExecutionFile.admits record = true) :
    Filed project peer (session.take record).2 := by
  rcases begun : session.file with _ | file
  · rcases provideFile_cases filed.known begun with ⟨failure, -, provided⟩ |
      ⟨file, log, ok, provided⟩
    · rw [take_data_of_error belongs provided]
      exact ⟨filed.known, filed.agent, fun file same => by cases begun.symm.trans same⟩
    · obtain ⟨after, provided, there, begun⟩ : ∃ after, session.provideFile = (.ok (), after) ∧
          after.file = some file ∧ Filed project peer after := by
        refine ⟨_, provided, rfl, filed.known, filed.agent, ?_⟩
        rintro _ ⟨⟩
        rw [← filed.agent]
        exact ProjectStore.path_of_executionFile (Prod.ext ok rfl)
      rw [take_data_of_begun belongs provided there]
      exact begun.take_of_file belongs there
  · exact filed.take_of_file belongs begun

theorem take (filed : Filed project peer session) (record : Record) :
    Filed project peer (session.take record).2 := by
  cases record with
  | sessionInfo info => exact filed.take_of_data rfl
  | executionData data => exact filed.take_of_data rfl
  | projectInfo info =>
    obtain ⟨log, taken⟩ := take_projectInfo_of_project filed.known info
    rw [taken]
    exact ⟨filed.known, filed.agent, filed.path⟩
  | file artifact =>
    obtain ⟨log, taken⟩ := take_file filed.known artifact
    rw [taken]
    exact ⟨filed.known, filed.agent, filed.path⟩
  | ok =>
    obtain ⟨log, taken⟩ := session.take_ok
    rw [taken]
    exact ⟨filed.flush.known, filed.flush.agent, filed.flush.path⟩
  | _ => exact ⟨filed.known, filed.agent, filed.path⟩

theorem takeEach (filed : Filed project peer session) (records : List Record) :
    Filed project peer (takeEach records session).2 := by
  induction records generalizing session with
  | nil => exact filed
  | cons record records ih =>
    have first := filed.take record
    rw [Session.takeEach, handOver]
    rcases taken : session.take record with ⟨failure | _, after⟩ <;> rw [taken] at first
    · exact first
    · exact ih first

/-- **A session that has a file has taken everything.** -/
theorem takeEach_eq_ok (filed : Filed project peer session) {records : List Record}
    (writable : ∀ record ∈ records, record.Writable) {file : ExecutionFile}
    (begun : (Session.takeEach records session).2.file = some file) :
    (Session.takeEach records session).1 = .ok () := by
  rcases taken : Session.takeEach records session with ⟨failure | _, after⟩
  · obtain ⟨done, record, rest, middle, rfl, earlier, refused⟩ := handOver_eq_error_iff.1 taken
    have known := (filed.takeEach done).known
    rw [show Session.takeEach done session = _ from earlier] at known
    rw [taken] at begun
    cases begun.symm.trans (file_eq_none_of_take known (writable record (by simp)) refused)
  · rfl

end Filed

/-- What a session has left in a volume: nothing was done; or the folders of its project were made as
far as that went, and nothing else; or the session went on in the folder of its project. -/
inductive Left (store : Store) (peer : Peer) (records : List Record) (volume : Volume)
    (session : Session) : Prop
  | idle (file : session.file = none) (same : session.volume = volume)
  | refused {info : ProjectInfo} {later : List Record}
      (announced : announcement? records = some (info, later)) (file : session.file = none)
      (same : session.volume = (store.project info volume).2)
  | told {info : ProjectInfo} {later : List Record}
      (announced : announcement? records = some (info, later))
      (given : (store.project info volume).1 = .ok (store.folderOf info))
      (filed : Filed (store.folderOf info) peer session)
      (housed : ∀ home, (store.folderOf info).Home (store.project info volume).2 home →
        ∃ done, done <+: later ∧
          Housed (store.project info volume).2 home (done.filter ExecutionFile.admits) session ∧
          ∀ file, session.file = some file → done = later ∧ ∃ parts,
            (done.filter ExecutionFile.admits).mapM Record.encode = .ok parts ∧
            session.volume.contentsAt file.path = .ok (Record.streamHeader ++ parts.flatten))

/-- Asking for dumps, and what is logged, makes no difference. -/
theorem Left.alike {store : Store} {peer : Peer} {records : List Record} {volume : Volume}
    {session other : Session} (left : Left store peer records volume session)
    (alike : session.Alike other) : Left store peer records volume other := by
  obtain ⟨writer, timed, log, rfl, -⟩ := alike
  cases left with
  | idle file same => exact .idle file same
  | refused announced file same => exact .refused announced file same
  | told announced given filed housed =>
    refine .told announced given ⟨filed.known, filed.agent, filed.path⟩ fun home there => ?_
    obtain ⟨done, front, kept, complete⟩ := housed home there
    exact ⟨done, front, kept.alike rfl rfl rfl, complete⟩

/-- What records that were read have left, once their session was completed on disk. -/
theorem left_flush (settings : Settings) (peer : Peer) (sink : Wire.Sink) (volume : Volume)
    {records : List Record} (writable : ∀ record ∈ records, record.Writable) :
    Left ⟨settings.output⟩ peer records volume
      (takeEach records (opened settings peer sink volume)).2.flush := by
  have fresh := fresh_opened settings peer sink volume
  rcases announced : announcement? records with _ | ⟨info, later⟩
  · obtain ⟨log, nothing⟩ := takeEach_of_silent announced fresh
    rw [nothing]
    exact .idle rfl rfl
  obtain ⟨before, rfl, silent⟩ := exists_of_announcement? announced
  rcases takeEach_of_announced silent fresh info with
    ⟨failure, writer, log, -, onward⟩ | ⟨project, writer, log, welcome, onward⟩
  · rw [onward]
    exact .refused announced rfl rfl
  rw [onward]
  obtain rfl := Store.eq_folderOf welcome.given
  have filed : Filed (Store.folderOf ⟨settings.output⟩ info) peer
      ((opened settings peer sink volume).introduced info (Store.folderOf ⟨settings.output⟩ info)
        (Store.project ⟨settings.output⟩ info volume).2 writer log) :=
    ⟨rfl, rfl, fun file begun => by cases begun⟩
  have behind (record : Record) (member : record ∈ later) : record.Writable :=
    writable record (List.mem_append_right _ (List.mem_cons_of_mem _ member))
  refine .told announced welcome.given (filed.takeEach later).flush fun home there => ?_
  have begun : Housed (Store.project ⟨settings.output⟩ info volume).2 home []
      ((opened settings peer sink volume).introduced info (Store.folderOf ⟨settings.output⟩ info)
        (Store.project ⟨settings.output⟩ info volume).2 writer log) := .of_begun rfl rfl
  obtain ⟨done, front, whole, housed⟩ := begun.run there rfl behind
  obtain ⟨kept, complete⟩ := housed.flush
  refine ⟨done, front, kept, fun file same => ?_⟩
  obtain ⟨earlier, there, path⟩ := exists_file_of_flush same
  rw [← path]
  exact ⟨whole (filed.takeEach_eq_ok behind there), complete earlier there⟩

/-- **What a session leaves**, whatever its agent sends and however its stream ends. -/
theorem left_serve (settings : Settings) (stopped : Bool) (peer : Peer) (source : Wire.Source)
    (sink : Wire.Sink) (volume : Volume) :
    Left ⟨settings.output⟩ peer (RecordStream.start source).readAll.1 volume
      (serve settings stopped peer source sink volume).2 := by
  by_cases waits : settings.heartbeatTimeout = .zero
  · rw [serve, if_pos waits]
    exact .idle rfl rfl
  by_cases starts : (Link.RecordWriter.start sink).1 = .ok ()
  case neg =>
    rcases header : Link.RecordWriter.start sink with ⟨failure | _, writer⟩
    · rw [serve, if_neg waits, header]
      exact .idle rfl rfl
    · exact absurd (congrArg Prod.fst header) starts
  exact (left_flush settings peer sink volume fun record member =>
    RecordStream.writable_of_mem_readAll member).alike
      (serve_eq waits starts stopped peer source volume).2

/-- **A session keeps to the folder of its project.** -/
theorem confined_serve (settings : Settings) (stopped : Bool) (peer : Peer) (source : Wire.Source)
    (sink : Wire.Sink) {volume : Volume} (sound : volume.Sound) :
    (serve settings stopped peer source sink volume).2.volume = volume ∨
      ∃ info later, announcement? (RecordStream.start source).readAll.1 = some (info, later) ∧
        Confined ⟨settings.output⟩ info volume
          (serve settings stopped peer source sink volume).2.volume := by
  cases left_serve settings stopped peer source sink volume with
  | idle _ same => exact .inl same
  | refused announced _ same =>
    rw [same]
    exact .inr ⟨_, _, announced, .of_project sound (fun _ _ => rfl) fun home there => .refl _⟩
  | told announced given _ housed =>
    refine .inr ⟨_, _, announced, .of_project sound (fun failure refused => ?_)
      fun home there => ?_⟩
    · cases given.symm.trans refused
    · obtain ⟨done, -, kept, -⟩ := housed home there
      exact kept.changes.mono fun location => below_of_uses

end Session

/-! ## 3.  The store -/

/-- **What a store is told stays in its project.**

The folder of a project lies two ordinary components below the root, whatever an agent says about
itself, and a file of execution data lies in that folder under an ordinary name, whatever its label
is.

The name of an artifact is resolved exactly if it is relative, does not go up and asks for
something; then the artifact is stored below the folder of the artifacts, under the names that are
asked for in their order, unless the host refuses.  Any other name is refused, and nothing is
changed.

So a session changes nothing outside the folder of its project, apart from making the folders on the
way there. -/
theorem store_confined (settings : Settings) (stopped : Bool) (peer : Peer) (source : Wire.Source)
    (sink : Wire.Sink) {volume : Volume} (sound : volume.Sound) (info : ProjectInfo)
    (project : ProjectStore) (label name : String) (contents : Bytes) :
    let store : Store := ⟨settings.output⟩
    let product := component info.product
    let title := component info.project
    let record := component label ++ ".exec"
    let pieces := Text.pieces Path.separator name
    let names := pieces.filter fun piece => piece ≠ "" ∧ piece ≠ "."
    let saved := project.saveFile name contents volume
    let session := (Session.serve settings stopped peer source sink volume).2
    (∀ segment ∈ [product, title, record], Ordinary segment ∧ '\x00' ∉ segment.toList) ∧
      (∀ given, (store.project info volume).1 = .ok given →
        given.folder = (store.root.child product).child title) ∧
      (∀ file, (project.executionFile label volume).1 = .ok file →
        file.path = project.folder.child record) ∧
      (if name.toList.head? ≠ some Path.separator ∧ ".." ∉ pieces ∧ names ≠ [] then
        (∀ segment ∈ names, Ordinary segment) ∧
          match saved with
          | (.ok path, after) =>
            path.segments = project.classes.segments ++ names ∧ after.contentsAt path = .ok contents
          | (.error failure, _) => failure.OfVolume
      else
        saved = (.error (.refusedName name), volume) ∧
          (Failure.refusedName name).kind = .invalidInput) ∧
      (session.volume = volume ∨
        ∃ told later, Session.announcement? (RecordStream.start source).readAll.1 =
            some (told, later) ∧
          Confined store told volume session.volume) := by
  intro store product title record pieces names saved session
  refine ⟨?_, fun given ok => ?_, fun file begun => ?_, ?_,
    Session.confined_serve settings stopped peer source sink sound⟩
  · intro segment made
    simp only [List.mem_cons, List.not_mem_nil, or_false] at made
    obtain rfl | rfl | rfl := made
    · exact ⟨ordinary_component _, nul_not_mem_component _⟩
    · exact ⟨ordinary_component _, nul_not_mem_component _⟩
    · exact ⟨ordinary_component_append label, nul_not_mem_component_append label⟩
  · rw [Store.eq_folderOf ok]
    rfl
  · exact ProjectStore.path_of_executionFile (Prod.ext begun rfl)
  · split
    · rename_i resolved
      have asked : (Path.ofText name).names? = some names :=
        Path.names?_ofText_eq_some_iff.2 ⟨resolved.1, resolved.2.1, rfl, resolved.2.2⟩
      refine ⟨Path.ordinary_of_names? asked, ?_⟩
      rcases stored : saved with ⟨failure | path, after⟩
      · exact ProjectStore.ofVolume_of_saveFile asked (congrArg Prod.fst stored)
      · obtain ⟨⟨same, asked', below⟩, held⟩ := ProjectStore.contentsAt_of_saveFile stored
        cases asked.symm.trans asked'
        exact ⟨below, held⟩
    · rename_i unresolved
      refine ⟨ProjectStore.saveFile_of_names?_eq_none ?_, rfl⟩
      refine Option.eq_none_iff_forall_ne_some.2 fun asked resolved => unresolved ?_
      obtain ⟨relative, down, rfl, some_names⟩ := Path.names?_ofText_eq_some_iff.1 resolved
      exact ⟨relative, down, some_names⟩

/-- A name that goes up is refused in an empty store. -/
theorem store_confined_of_climbing :
    (Volume.empty ⟨["store"]⟩).Sound ∧
      ProjectStore.saveFile ⟨⟨["store", "p", "q"]⟩⟩ "a/../../b" [0] (Volume.empty ⟨["store"]⟩) =
        (.error (.refusedName "a/../../b"), Volume.empty ⟨["store"]⟩) := by
  have sound : (Volume.empty ⟨["store"]⟩).Sound := Volume.sound_empty (.inr (by decide))
  obtain ⟨-, -, -, resolved, -⟩ := store_confined default false ⟨"", "", "", fun _ => 0⟩
    (.ofBytes []) default sound default ⟨⟨["store", "p", "q"]⟩⟩ "" "a/../../b" [0]
  rw [if_neg (by decide)] at resolved
  exact ⟨sound, resolved.1⟩

end Collector
end CoverageLink
