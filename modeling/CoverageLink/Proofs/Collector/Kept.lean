import CoverageLink.Collector.Server
import CoverageLink.Proofs.Collector.Unhindered

/-!
# What becomes of the files of earlier sessions

A collector serves one agent after the other in the same output folder, and every session that gets
execution data begins a file for it.  The name of the file is made of a moment and of a port; what
the rest of the address of the agent is, and whether there is a file of that name already, is not
looked at.  So a file is kept until another session begins one at the same path, and from then on
the file is that of the other session.

## 1.  The root of a store

Every project has its folder two names below the root (`Store.Home.project`), so what lies three
names below the root never lies below a folder of artifacts.

## 2.  One session

Of a file of an earlier session a session only touches the one that it begins itself
(`Session.Left.entryAt`), and what it has begun holds its own data and nothing else
(`Session.Left.stands`).

## 3.  Session after session

A file is looked up through all sessions to come that do not begin it again (`entryAt_leaves`), and
a server does nothing to its volume but what its sessions do (`Service.volume_run`).

## 4.  A store with one project

Two agents of one project are enough to see both: that a file is kept, and that it is not.

## 5.  What is kept

`kept_until_begun_again` says what stands at the path of a file after any later sessions.
-/

namespace CoverageLink

open Files (Entry Location Path Step Volume)
open Files.Volume (Changes)
open Link (RecordWriter)

namespace Collector

/-! ## 1.  The root of a store -/

/-- A store has its root at a place of a volume, and nothing below the place is a link. -/
structure Store.Home (store : Store) (volume : Volume) (top : Location) : Prop where
  sound : volume.Sound
  covers : volume.Covers store.root
  folder : volume.folderAt store.root = .ok top
  unlinked : volume.Unlinked top

namespace Store

variable {store : Store} {volume after : Volume} {top : Location} {info : ProjectInfo}
  {places : Location → Prop}

theorem Home.changes (there : store.Home volume top) (changes : Changes places volume after) :
    store.Home after top where
  sound := changes.sound there.sound
  covers := ⟨there.covers.followable, changes.keeps.home ▸ there.covers.within⟩
  folder := changes.keeps.folderAt there.folder
  unlinked := changes.unlinked there.unlinked

/-- The names on the way from the root to something in the folder of a project. -/
def way (info : ProjectInfo) (name : String) : List String :=
  [component info.product, component info.project, name]

theorem proper_of_mem_way {name : String} (proper : Step.ofSegment name = .name name) :
    ∀ segment ∈ way info name, Step.ofSegment segment = .name segment := by
  simp only [way, List.mem_cons, List.not_mem_nil, or_false]
  rintro _ (rfl | rfl | rfl)
  · exact (ordinary_component _).ofSegment
  · exact (ordinary_component _).ofSegment
  · exact proper

theorem folder_folderOf (store : Store) (info : ProjectInfo) :
    (store.folderOf info).folder =
      store.root.descend [component info.product, component info.project] := by
  rw [Path.descend_cons (ordinary_component _).nonempty]
  rfl

theorem child_folderOf (store : Store) (info : ProjectInfo) (name : String) :
    (store.folderOf info).folder.child name = store.root.descend (way info name) := by
  rw [way, Path.descend_cons (ordinary_component _).nonempty,
    Path.descend_cons (ordinary_component _).nonempty]
  rfl

/-- A project that was given its folders is at home two names below the root. -/
theorem Home.project (there : store.Home after top)
    (given : store.project info volume = (.ok (store.folderOf info), after)) :
    (store.folderOf info).Home after
      (top ++ [component info.product, component info.project]) := by
  obtain ⟨-, place, classes⟩ := exists_classes_of_project given
  have ends := store.endsInName_folder info
  have unlinked := there.unlinked.below [component info.product, component info.project]
  have folder : after.folderAt (store.folderOf info).folder =
      .ok (top ++ [component info.product, component info.project]) := by
    rw [ProjectStore.classes, child_folderOf] at classes
    rw [folder_folderOf]
    exact there.covers.folderAt_of_concat there.sound there.folder there.unlinked
      (List.cons_ne_nil _ _) (proper_of_mem_way (by decide)) classes
  obtain rfl := ProjectStore.location_classes there.sound ends folder unlinked classes
  exact ⟨there.sound, ends, folder, classes, unlinked⟩

/-- Three names below the root is where such a path leads. -/
theorem Home.location_eq (there : store.Home volume top) {name : String}
    (proper : Step.ofSegment name = .name name) {location : Location} {entry : Entry}
    (found : volume.entryAt (store.root.descend (way info name)) = .ok (location, entry)) :
    location = top ++ way info name :=
  there.covers.location_of_place there.sound there.folder there.unlinked (List.cons_ne_nil _ _)
    (proper_of_mem_way proper) (Volume.entryAt_eq_ok_iff.1 found)

/-- A store is at home where its root leads once it has given a project its folders. -/
theorem exists_home (sound : volume.Sound) (covers : volume.Covers store.root)
    (given : store.project info volume = (.ok (store.folderOf info), after))
    (unlinked : ∀ top, after.folderAt store.root = .ok top → volume.Unlinked top) :
    ∃ top, store.Home after top := by
  have changes := store.changes_project info volume
  rw [given] at changes
  obtain ⟨-, place, classes⟩ := exists_classes_of_project given
  rw [ProjectStore.classes, child_folderOf] at classes
  have covers : after.Covers store.root :=
    ⟨covers.followable, changes.keeps.home ▸ covers.within⟩
  obtain ⟨top, -, folder, -⟩ := covers.exists_folderAt (changes.sound sound)
    (List.cons_ne_nil _ _) (proper_of_mem_way (by decide))
    (Volume.entryAt_eq_ok_iff.1 (Volume.folderAt_eq_ok_iff.1 classes))
  exact ⟨top, changes.sound sound, covers, folder, changes.unlinked (unlinked top folder)⟩

end Store

/-! ## 2.  One session -/

namespace Session

variable {store : Store} {peer : Peer} {records : List Record} {volume : Volume}
  {session : Session} {top : Location}

/-- The name of the file of execution data of a session of an agent. -/
def dataName (peer : Peer) : String := component (sessionLabel peer.stamp peer.port) ++ ".exec"

/-- **What a session changes** are places where nothing was, places below a folder of artifacts, and
its own file. -/
theorem Left.exists_changes (left : Left store peer records volume session)
    (there : store.Home volume top) :
    ∃ places, Changes places volume session.volume ∧
      ∀ info name entry, volume.at? (top ++ Store.way info name) = some entry →
        places (top ++ Store.way info name) →
          ∃ file, session.file = some file ∧ file.path = store.root.descend (Store.way info name) := by
  cases left with
  | idle _ same => exact ⟨fun _ => False, same ▸ .refl _, fun _ _ _ _ => False.elim⟩
  | refused _ _ same =>
    refine ⟨_, same ▸ store.changes_project _ volume, fun _ _ _ held missing => ?_⟩
    cases held.symm.trans missing.1
  | @told told _ _ given filed housed =>
    have made := store.changes_project told volume
    obtain ⟨done, -, kept, -⟩ := housed _ ((there.changes made).project (Prod.ext given rfl))
    refine ⟨_, (made.mono fun _ missing => Or.inl missing).trans
      (kept.changes.mono fun _ used => Or.inr used), fun info name entry held changed => ?_⟩
    rcases changed with missing | ⟨names, some_names, same⟩ | ⟨some_data, same⟩
    · cases held.symm.trans missing.1
    · -- three names are too few to go on below the folder of the artifacts
      simp only [List.append_assoc, List.append_cancel_left_eq, Store.way, List.cons_append,
        List.nil_append, List.cons.injEq] at same
      exact absurd same.2.2.2.symm some_names
    · have begun : session.file ≠ none := fun idle => some_data (kept.begun.1 idle)
      obtain ⟨file, begun⟩ := Option.ne_none_iff_exists'.1 begun
      simp only [List.append_assoc, List.append_cancel_left_eq, List.cons_append,
        List.nil_append] at same
      refine ⟨file, begun, ?_⟩
      rw [filed.path file begun, Store.child_folderOf, same, fileName, label, filed.agent]
      rfl

theorem Left.home (left : Left store peer records volume session)
    (there : store.Home volume top) : store.Home session.volume top := by
  obtain ⟨places, changes, -⟩ := left.exists_changes there
  exact there.changes changes

/-- **A session leaves the files of the others as they are.** -/
theorem Left.entryAt (left : Left store peer records volume session)
    (there : store.Home volume top) {info : ProjectInfo} {name : String}
    (proper : Step.ofSegment name = .name name) {location : Location} {entry : Entry}
    (held : volume.entryAt (store.root.descend (Store.way info name)) = .ok (location, entry))
    (other : ∀ file, session.file = some file →
      file.path ≠ store.root.descend (Store.way info name)) :
    session.volume.entryAt (store.root.descend (Store.way info name)) = .ok (location, entry) := by
  obtain rfl := there.location_eq proper held
  obtain ⟨places, changes, own⟩ := left.exists_changes there
  have before := Volume.at?_of_entryAt held
  have same := changes.at?_of_not there.sound fun changed => by
    obtain ⟨file, begun, path⟩ := own info name entry before changed
    exact other file begun path
  obtain ⟨now, after, -⟩ := changes.keeps.entryAt held
  rw [Volume.at?_of_entryAt after, before] at same
  rwa [Option.some.inj same] at after

/-- **What a session has begun holds all of its data**, and nothing that was there before. -/
theorem Left.stands (left : Left store peer records volume session) (sound : volume.Sound)
    (covers : volume.Covers store.root) {info : ProjectInfo} {later : List Record}
    (announced : announcement? records = some (info, later))
    (unlinked : ∀ top, (store.project info volume).2.folderAt store.root = .ok top →
      volume.Unlinked top) {file : ExecutionFile} (begun : session.file = some file) :
    ∃ parts, (later.filter ExecutionFile.admits).mapM Record.encode = .ok parts ∧
      session.volume.contentsAt file.path = .ok (Record.streamHeader ++ parts.flatten) ∧
      ∃ top, store.Home session.volume top := by
  cases left with
  | idle none _ => cases begun.symm.trans none
  | refused _ none _ => cases begun.symm.trans none
  | told same given filed housed =>
    cases announced.symm.trans same
    have made : store.project info volume =
        (.ok (store.folderOf info), (store.project info volume).2) := Prod.ext given rfl
    obtain ⟨top, there⟩ := Store.exists_home sound covers made unlinked
    obtain ⟨done, -, kept, complete⟩ := housed _ (there.project made)
    obtain ⟨rfl, parts, encoded, stands⟩ := complete file begun
    exact ⟨parts, encoded, stands, top, there.changes kept.changes⟩

/-- The path of a file is made of the project, the moment and the port. -/
theorem Left.exists_path (left : Left store peer records volume session) {file : ExecutionFile}
    (begun : session.file = some file) :
    ∃ info later, announcement? records = some (info, later) ∧
      file.path = store.root.descend (Store.way info (dataName peer)) := by
  cases left with
  | idle none _ => cases begun.symm.trans none
  | refused _ none _ => cases begun.symm.trans none
  | @told info later announced given filed housed =>
    exact ⟨info, later, announced, (filed.path file begun).trans (store.child_folderOf info _)⟩

end Session

/-! ## 3.  Session after session -/

/-- An agent that is served: who it is, what it sends, what becomes of what it is sent, and whether
the operator has stopped the collector by then. -/
structure Visit where
  peer : Peer
  source : Wire.Source
  sink : Wire.Sink
  stopped : Bool

/-- An agent that a server serves. -/
def Caller.visit (caller : Caller) : Visit := ⟨caller.peer, caller.source, .open_, false⟩

namespace Visit

/-- The session of an agent, as it was left. -/
def session (visit : Visit) (settings : Settings) (volume : Volume) : Session :=
  (Session.serve settings visit.stopped visit.peer visit.source visit.sink volume).2

/-- An agent whose session begins a file of execution data at a path. -/
def Begins (visit : Visit) (settings : Settings) (volume : Volume) (path : Path) : Prop :=
  ∃ file, (visit.session settings volume).file = some file ∧ file.path = path

/-- The records that an agent sends. -/
def records (visit : Visit) : List Record := (RecordStream.start visit.source).readAll.1

/-- The execution data that an agent sends behind its project info. -/
def data (visit : Visit) : List Record :=
  match Session.announcement? visit.records with
  | some (_, later) => later.filter ExecutionFile.admits
  | none => []

/-- What belongs in the file of an agent: a header, and its execution data. -/
def contents (visit : Visit) : Except Failure Bytes :=
  (visit.data.mapM Record.encode).map fun parts => Record.streamHeader ++ parts.flatten

theorem left (visit : Visit) (settings : Settings) (volume : Volume) :
    Session.Left ⟨settings.output⟩ visit.peer visit.records volume
      (visit.session settings volume) :=
  Session.left_serve settings visit.stopped visit.peer visit.source visit.sink volume

variable {visit : Visit} {settings : Settings} {volume : Volume} {path : Path}

theorem Begins.exists_path (begins : visit.Begins settings volume path) :
    ∃ info later, Session.announcement? visit.records = some (info, later) ∧
      path = settings.output.descend (Store.way info (Session.dataName visit.peer)) := by
  obtain ⟨file, begun, rfl⟩ := begins
  exact (visit.left settings volume).exists_path begun

/-- What a session has begun is what belongs there. -/
theorem Begins.stands (begins : visit.Begins settings volume path) (sound : volume.Sound)
    (covers : volume.Covers settings.output)
    (unlinked : ∀ info later, Session.announcement? visit.records = some (info, later) →
      ∀ top, (Store.project ⟨settings.output⟩ info volume).2.folderAt settings.output = .ok top →
        volume.Unlinked top) :
    ∃ own, visit.contents = .ok own ∧
      (visit.session settings volume).volume.contentsAt path = .ok own ∧
      ∃ top, Store.Home ⟨settings.output⟩ (visit.session settings volume).volume top := by
  obtain ⟨info, later, announced, -⟩ := begins.exists_path
  obtain ⟨file, begun, rfl⟩ := begins
  obtain ⟨parts, encoded, stands, there⟩ := (visit.left settings volume).stands sound covers
    announced (unlinked info later announced) begun
  refine ⟨_, ?_, stands, there⟩
  rw [contents, data, announced]
  simp only [encoded, Except.map]

/-- In a store that is at home already. -/
theorem Begins.stands_of_home (begins : visit.Begins settings volume path) {top : Location}
    (there : Store.Home ⟨settings.output⟩ volume top) :
    ∃ own, visit.contents = .ok own ∧
      (visit.session settings volume).volume.contentsAt path = .ok own := by
  obtain ⟨own, contents, stands, -⟩ := begins.stands there.sound there.covers
    fun info _ _ top' folder => by
      have made := Store.changes_project ⟨settings.output⟩ info volume
      obtain rfl := Except.ok.inj ((made.keeps.folderAt there.folder).symm.trans folder)
      exact there.unlinked
  exact ⟨own, contents, stands⟩

/-- A session that finds the folders of its project, and is hindered in nothing, begins a file. -/
theorem begins_of_classes (waits : settings.heartbeatTimeout ≠ .zero)
    (idle : settings.pulls = false) (unlimited : RecordWriter.Unlimited visit.sink)
    {info : ProjectInfo} {before later : List Record}
    (split : visit.records = before ++ .projectInfo info :: later)
    (silent : Session.announcement? before = none) (other : ∀ artifact, .file artifact ∉ later)
    (some_data : later.any ExecutionFile.admits = true) {place : Location}
    (classes : volume.folderAt (Store.folderOf ⟨settings.output⟩ info).classes = .ok place)
    (fits : ∃ file, ((Store.folderOf ⟨settings.output⟩ info).executionFile
      (sessionLabel visit.peer.stamp visit.peer.port) volume).1 = .ok file) :
    visit.Begins settings volume
      (settings.output.descend (Store.way info (Session.dataName visit.peer))) := by
  have made : Store.project ⟨settings.output⟩ info volume =
      (.ok (Store.folderOf ⟨settings.output⟩ info), volume) := by
    rw [Store.project_eq, Volume.makeFolders_of_folderAt classes]
    rfl
  have opened : RecordWriter.Unlimited (RecordWriter.mk visit.sink 0).sink := unlimited
  have starts := (RecordWriter.send_of_unlimited opened Record.encode_ownHeader).1
  have free : Session.Unhindered settings visit.peer visit.records visit.sink volume := by
    rw [split]
    exact .of_no_files waits starts silent ⟨by rw [made], .inl ⟨idle, rfl⟩⟩
      (by rw [made]; exact fits) other
  have account := free.account (fun record member => RecordStream.writable_of_mem_readAll member)
    silent split List.prefix_rfl
  obtain ⟨-, -, writer, timed, log, served, -⟩ := free.served visit.stopped
  obtain ⟨after, rest, flushed, same⟩ := (Session.takeEach visit.records
    (Session.opened settings visit.peer visit.sink volume)).2.flush_cases
  rw [split, account.file, account.path, if_pos some_data, Option.map_eq_some_iff] at same
  obtain ⟨file, rfl, -⟩ := same
  have begun : (visit.session settings volume).file = some file := by
    rw [session, served]
    exact congrArg Session.file flushed
  obtain ⟨told, _, announced, path⟩ := (visit.left settings volume).exists_path begun
  rw [split, Session.announcement?_append_of_none silent] at announced
  cases announced
  exact ⟨file, begun, path⟩

end Visit

/-- What is left of a volume when agents were served one after the other. -/
def leaves (settings : Settings) (visits : List Visit) (volume : Volume) : Volume :=
  visits.foldl (fun volume visit => (visit.session settings volume).volume) volume

/-- A server leaves what its sessions leave, one after the other. -/
theorem Service.volume_run (settings : Settings) (place : String) (callers : List Caller)
    (volume : Volume) :
    (run settings place callers volume).volume =
      leaves settings (callers.map Caller.visit) volume := by
  have onward (service : Service) : (callers.foldl (serve settings) service).volume =
      leaves settings (callers.map Caller.visit) service.volume := by
    induction callers generalizing service with
    | nil => rfl
    | cons caller callers ih => exact ih (service.serve settings caller)
  exact onward _

variable {settings : Settings} {volume : Volume} {top : Location}

theorem Store.Home.leaves (there : Store.Home ⟨settings.output⟩ volume top)
    (visits : List Visit) : Store.Home ⟨settings.output⟩ (leaves settings visits volume) top := by
  induction visits generalizing volume with
  | nil => exact there
  | cons visit visits ih => exact ih ((visit.left settings volume).home there)

/-- **A file is kept by all sessions that do not begin it again.** -/
theorem entryAt_leaves (there : Store.Home ⟨settings.output⟩ volume top) {info : ProjectInfo}
    {name : String} (proper : Step.ofSegment name = .name name) {location : Location}
    {entry : Entry}
    (held : volume.entryAt (settings.output.descend (Store.way info name)) =
      .ok (location, entry)) {visits : List Visit}
    (others : ∀ done next rest, visits = done ++ next :: rest →
      ¬ next.Begins settings (leaves settings done volume)
        (settings.output.descend (Store.way info name))) :
    (leaves settings visits volume).entryAt (settings.output.descend (Store.way info name)) =
      .ok (location, entry) := by
  induction visits generalizing volume with
  | nil => exact held
  | cons visit visits ih =>
    have left := visit.left settings volume
    have kept := left.entryAt there proper held fun file begun same =>
      others [] visit visits rfl ⟨file, begun, same⟩
    exact ih (left.home there) kept fun done next rest split =>
      others (visit :: done) next rest (congrArg (visit :: ·) split)

/-! ## 4.  A store with one project -/

/-- A store with the folders of one project, and nothing in them. -/
def shelf : Volume :=
  (((Volume.empty ⟨["", "store"]⟩).put ["a"] .folder).put ["a", "b"] .folder).put
    ["a", "b", "classes"] .folder

/-- What the collector of the shelf is told: to store what it gets, and to ask for nothing. -/
def keeper : Settings := ⟨⟨["", "store"]⟩, none, false, false, ⟨1, by decide⟩⟩

theorem home_shelf : Store.Home ⟨keeper.output⟩ shelf [] := by
  have first : (Volume.empty ⟨["", "store"]⟩).Free ["a"] := ⟨[], "a", rfl, rfl, rfl⟩
  have second : ((Volume.empty ⟨["", "store"]⟩).put ["a"] .folder).Free ["a", "b"] :=
    ⟨["a"], "b", rfl, rfl, rfl⟩
  have third : (((Volume.empty ⟨["", "store"]⟩).put ["a"] .folder).put ["a", "b"] .folder).Free
      ["a", "b", "classes"] := ⟨["a", "b"], "classes", rfl, rfl, rfl⟩
  have changes : Changes (fun _ => True) (Volume.empty ⟨["", "store"]⟩) shelf :=
    (((Changes.refl _).step trivial (.folder first)).step trivial (.folder second)).step trivial
      (.folder third)
  have followable : Volume.Followable ⟨["", "store"]⟩ := by decide +kernel
  have empty : Store.Home ⟨keeper.output⟩ (.empty ⟨["", "store"]⟩) [] :=
    ⟨Volume.sound_empty (.inl rfl), ⟨followable, fun _ => List.prefix_rfl⟩,
      Volume.folderAt_home followable, Volume.unlinked_empty _ _⟩
  exact empty.changes changes

/-- The folders of the shelf are still there later on. -/
theorem at?_of_keeps_shelf {after : Volume} (keeps : shelf.Keeps after) {location : Location}
    (there : shelf.at? location = some .folder) : after.at? location = some .folder := by
  obtain ⟨now, found, same⟩ := keeps.at? _ _ there
  rw [found, Entry.eq_folder_of_bare same]

/-- The project of the shelf. -/
def shelved : ProjectInfo := ⟨"a", "b", "", "", "", ""⟩

theorem way_shelved (name : String) : Store.way shelved name = ["a", "b", name] := by
  have first : component "a" = "a" := by decide +kernel
  have second : component "b" = "b" := by decide +kernel
  rw [Store.way, shelved, first, second]

theorem descend_way_shelved (name : String) :
    keeper.output.descend (Store.way shelved name) = ⟨["", "store", "a", "b", name]⟩ := by
  rw [way_shelved]
  rfl

/-- A name in the folder of the project is looked up there. -/
theorem place_on_shelf {after : Volume} (keeps : shelf.Keeps after) {name : String}
    (proper : Step.ofSegment name = .name name)
    (followable : Volume.Followable ⟨["", "store", "a", "b", name]⟩) {aim : Files.Aim}
    {place : Files.Place}
    (last : after.Leads aim Volume.maxLinks ["b", "a"] [.name name] false place) :
    after.place aim (keeper.output.descend (Store.way shelved name)) = .ok place := by
  have ends : Path.EndsInName keeper.output := ⟨[""], "store", rfl, by decide⟩
  have product : after.at? ["a"] = some .folder := at?_of_keeps_shelf keeps rfl
  have project : after.at? ["a", "b"] = some .folder := at?_of_keeps_shelf keeps rfl
  have some_names : Store.way shelved name ≠ [] := List.cons_ne_nil _ _
  rw [← descend_way_shelved] at followable
  refine (Volume.place_descend_iff keeps.home ends some_names (Store.proper_of_mem_way proper)
    followable).2 ?_
  rw [way_shelved]
  exact .folder ⟨by simp, by decide⟩ product (.folder ⟨by simp, by decide⟩ project last)

theorem classes_on_shelf {after : Volume} (keeps : shelf.Keeps after) :
    after.folderAt (Store.folderOf ⟨keeper.output⟩ shelved).classes =
      .ok ["a", "b", "classes"] := by
  rw [ProjectStore.classes, Store.child_folderOf, Volume.folderAt_eq_ok_iff,
    Volume.entryAt_eq_ok_iff]
  exact place_on_shelf keeps (by decide) (by decide +kernel)
    (.folder ⟨by simp, by decide⟩ (at?_of_keeps_shelf keeps rfl) .here)

/-- **An agent of the shelf begins a file**, whether there is one or not. -/
theorem begins_on_shelf {caller : Caller} {name : String}
    (named : Session.dataName caller.peer = name) (short : name.utf8ByteSize ≤ Volume.maxName)
    (followable : Volume.Followable ⟨["", "store", "a", "b", name]⟩) {session : SessionInfo}
    (records : caller.visit.records =
      [Record.ownHeader] ++ [.projectInfo shelved, .sessionInfo session])
    {after : Volume} (keeps : shelf.Keeps after)
    (free : after.at? ["a", "b", name] = none ∨
      ∃ number contents, after.at? ["a", "b", name] = some (.file number contents)) :
    caller.visit.Begins keeper after ⟨["", "store", "a", "b", name]⟩ := by
  subst named
  have fits : ∃ file, ((Store.folderOf ⟨keeper.output⟩ shelved).executionFile
      (sessionLabel caller.peer.stamp caller.peer.port) after).1 = .ok file := by
    have opens (place : Files.Place)
        (last : after.Leads .file Volume.maxLinks ["b", "a"]
          [.name (Session.dataName caller.peer)] false place) :=
      place_on_shelf keeps (ordinary_component_append _).ofSegment followable last
    rw [ProjectStore.executionFile, Store.child_folderOf, ExecutionFile.create,
      Volume.openFile]
    rw [Session.dataName] at opens
    rcases free with none | ⟨number, contents, there⟩
    · rw [opens _ (.free ⟨by simp, short⟩ none)]
      exact ⟨_, rfl⟩
    · rw [opens _ (.file ⟨by simp, short⟩ there rfl)]
      exact ⟨_, rfl⟩
  rw [← descend_way_shelved]
  exact Visit.begins_of_classes (by decide) rfl ⟨rfl, rfl⟩ records rfl (by simp) rfl
    (classes_on_shelf keeps) fits

/-- What an agent of the shelf has sent, if that was one session info. -/
theorem records_sending {address port stamp id : String} {encodings : List Bytes}
    (encoded : [Record.projectInfo shelved, .sessionInfo ⟨id, ⟨1⟩, ⟨2⟩⟩].mapM Record.encode =
      .ok encodings) :
    (Caller.sending address port stamp (Record.streamHeader ++ encodings.flatten)).visit.records =
      [Record.ownHeader] ++ [.projectInfo shelved, .sessionInfo ⟨id, ⟨1⟩, ⟨2⟩⟩] :=
  congrArg Prod.fst (RecordStream.readAll_of_whole .prompt encoded (by simp [Record.Readable]))

theorem contents_eq {visit : Visit} {session : SessionInfo} {bytes : Bytes}
    (records : visit.records = [Record.ownHeader] ++ [.projectInfo shelved, .sessionInfo session])
    (encoded : (Record.sessionInfo session).encode = .ok bytes) :
    visit.contents = .ok (Record.streamHeader ++ bytes) := by
  have data : visit.data = [.sessionInfo session] := by
    rw [Visit.data, records]
    rfl
  rw [Visit.contents, data, List.mapM_cons, encoded]
  simp [pure, Except.pure, bind, Except.bind, Except.map]

/-! ## 5.  What is kept -/

/-- **Execution data is kept until its file is begun again.**

The path of the file of a session is made of the project of the agent, the moment at which the file
was begun and the port of the agent, and of nothing else.  When the session is over the file holds a
header and all execution data of the agent behind its project info, and that stays as it is through
all later sessions, whatever they store and wherever, up to the first one that begins a file at the
same path.  Each session that does so leaves its own data there, and nothing else.

The output folder has to lie in the volume, and no link below it. -/
theorem kept_until_begun_again (sound : volume.Sound) (covers : volume.Covers settings.output)
    {visit : Visit} {info : ProjectInfo} {told : List Record}
    (announced : Session.announcement? visit.records = some (info, told))
    (unlinked : ∀ top, (Store.project ⟨settings.output⟩ info volume).2.folderAt settings.output =
      .ok top → volume.Unlinked top) {path : Path} (begins : visit.Begins settings volume path) :
    path = settings.output.descend [component info.product, component info.project,
        component (sessionLabel visit.peer.stamp visit.peer.port) ++ ".exec"] ∧
      ∃ own, visit.contents = .ok own ∧
        (∀ later, (∀ done next rest, later = done ++ next :: rest →
            ¬ next.Begins settings (leaves settings (visit :: done) volume) path) →
          (leaves settings (visit :: later) volume).contentsAt path = .ok own) ∧
        ∀ later next, next.Begins settings (leaves settings (visit :: later) volume) path →
          ∃ other, next.contents = .ok other ∧
            (leaves settings (visit :: later ++ [next]) volume).contentsAt path = .ok other := by
  obtain ⟨info', told', same, path_eq⟩ := begins.exists_path
  cases announced.symm.trans same
  obtain ⟨own, contents, stands, top, there⟩ := begins.stands sound covers
    fun info' _ same => by
      cases announced.symm.trans same
      exact unlinked
  refine ⟨path_eq, own, contents, fun later others => ?_, fun later next again => ?_⟩
  · rw [path_eq] at others stands ⊢
    obtain ⟨location, number, held⟩ := Volume.contentsAt_eq_ok_iff.1 stands
    exact Volume.contentsAt_eq_ok_iff.2 ⟨location, number,
      entryAt_leaves there (ordinary_component_append _).ofSegment held others⟩
  · obtain ⟨other, contents, stands⟩ := again.stands_of_home (there.leaves later)
    refine ⟨other, contents, ?_⟩
    rw [leaves, List.foldl_append]
    exact stands

/-- Two agents on one host: the file of the first one outlasts the session of the second one. -/
theorem kept_until_begun_again_of_other_port :
    let introduction : Bytes := [0x15, 0, 7, 97, 124, 98, 124, 124, 124, 124]
    let dump (id : UInt8) : Bytes := [0x10, 0, 1, id, 0, 0, 0, 0, 0, 0, 0, 1, 0, 0, 0, 0, 0, 0, 0, 2]
    let first : Caller := .sending "10.0.0.1:40000" "40000" "20240101_120000"
      (Record.streamHeader ++ [introduction, dump 115].flatten)
    let second : Caller := .sending "10.0.0.1:40001" "40001" "20240101_120000"
      (Record.streamHeader ++ [introduction, dump 116].flatten)
    let path : Path := ⟨["", "store", "a", "b", "20240101_120000_40000.exec"]⟩
    shelf.Sound ∧ shelf.Covers keeper.output ∧
      (∃ told, Session.announcement? first.visit.records = some (shelved, told)) ∧
      (∀ top, (Store.project ⟨keeper.output⟩ shelved shelf).2.folderAt keeper.output = .ok top →
        shelf.Unlinked top) ∧
      first.visit.Begins keeper shelf path ∧
      (leaves keeper [first.visit, second.visit] shelf).contentsAt path =
        .ok (Record.streamHeader ++ dump 115) := by
  intro introduction dump first second path
  have followable : Volume.Followable path := by decide +kernel
  have named : Session.dataName first.peer = "20240101_120000_40000.exec" := by decide +kernel
  have named' : Session.dataName second.peer = "20240101_120000_40001.exec" := by decide +kernel
  have short : "20240101_120000_40000.exec".utf8ByteSize ≤ Volume.maxName := by decide +kernel
  have sent : first.visit.records =
      [Record.ownHeader] ++ [.projectInfo shelved, .sessionInfo ⟨"s", ⟨1⟩, ⟨2⟩⟩] :=
    records_sending rfl
  have sent' : second.visit.records =
      [Record.ownHeader] ++ [.projectInfo shelved, .sessionInfo ⟨"t", ⟨1⟩, ⟨2⟩⟩] :=
    records_sending rfl
  have belongs : first.visit.contents = .ok (Record.streamHeader ++ dump 115) :=
    contents_eq sent rfl
  -- lest the steps of the sessions be taken again
  clear_value first second
  have announced : Session.announcement? first.visit.records =
      some (shelved, [.sessionInfo ⟨"s", ⟨1⟩, ⟨2⟩⟩]) := by
    rw [sent]
    rfl
  have begins := begins_on_shelf named short followable sent (.refl _) (.inl rfl)
  have unlinked (top : Location) (_ : (Store.project ⟨keeper.output⟩ shelved shelf).2.folderAt
      keeper.output = .ok top) : shelf.Unlinked top := home_shelf.unlinked.below top
  obtain ⟨-, own, contents, kept, -⟩ :=
    kept_until_begun_again home_shelf.sound home_shelf.covers announced unlinked begins
  cases belongs.symm.trans contents
  refine ⟨home_shelf.sound, home_shelf.covers, ⟨_, announced⟩, unlinked, begins,
    kept [second.visit] fun done next rest split again => ?_⟩
  -- the second session has a name of its own for its file
  obtain rfl : next = second.visit := by
    have member : next ∈ [second.visit] := split ▸ List.mem_append_right _ List.mem_cons_self
    exact List.mem_singleton.1 member
  obtain ⟨info, later, same, place⟩ := again.exists_path
  rw [sent'] at same
  cases same
  rw [show Session.dataName second.visit.peer = _ from named', way_shelved] at place
  exact absurd place (by decide)

/-- Two agents of one project are served within a second.  They come from different hosts, and happen
to come from the same port: nothing is left of what the first one has sent. -/
theorem not_kept_of_same_port :
    let introduction : Bytes := [0x15, 0, 7, 97, 124, 98, 124, 124, 124, 124]
    let dump (id : UInt8) : Bytes := [0x10, 0, 1, id, 0, 0, 0, 0, 0, 0, 0, 1, 0, 0, 0, 0, 0, 0, 0, 2]
    let first : Caller := .sending "10.0.0.1:40000" "40000" "20240101_120000"
      (Record.streamHeader ++ [introduction, dump 115].flatten)
    let second : Caller := .sending "10.0.0.2:40000" "40000" "20240101_120000"
      (Record.streamHeader ++ [introduction, dump 116].flatten)
    let path : Path := ⟨["", "store", "a", "b", "20240101_120000_40000.exec"]⟩
    (Service.run keeper "" [first] shelf).volume.contentsAt path =
        .ok (Record.streamHeader ++ dump 115) ∧
      (Service.run keeper "" [first, second] shelf).volume.contentsAt path =
        .ok (Record.streamHeader ++ dump 116) ∧
      Record.streamHeader ++ dump 115 ≠ Record.streamHeader ++ dump 116 := by
  intro introduction dump first second path
  have named : Session.dataName first.peer = "20240101_120000_40000.exec" := by decide +kernel
  have proper : Step.ofSegment "20240101_120000_40000.exec" =
      .name "20240101_120000_40000.exec" := by decide +kernel
  have followable : Volume.Followable path := by decide +kernel
  have short : "20240101_120000_40000.exec".utf8ByteSize ≤ Volume.maxName := by decide +kernel
  have sent : first.visit.records =
      [Record.ownHeader] ++ [.projectInfo shelved, .sessionInfo ⟨"s", ⟨1⟩, ⟨2⟩⟩] :=
    records_sending rfl
  have sent' : second.visit.records =
      [Record.ownHeader] ++ [.projectInfo shelved, .sessionInfo ⟨"t", ⟨1⟩, ⟨2⟩⟩] :=
    records_sending rfl
  have belongs : first.visit.contents = .ok (Record.streamHeader ++ dump 115) :=
    contents_eq sent rfl
  have belongs' : second.visit.contents = .ok (Record.streamHeader ++ dump 116) :=
    contents_eq sent' rfl
  have named' : Session.dataName second.peer = "20240101_120000_40000.exec" := named
  have different : Record.streamHeader ++ dump 115 ≠ Record.streamHeader ++ dump 116 := by decide
  -- lest the steps of the sessions be taken again
  clear_value first second
  have begins := begins_on_shelf named short followable sent (.refl _) (.inl rfl)
  obtain ⟨own, contents, stands⟩ := begins.stands_of_home home_shelf
  cases belongs.symm.trans contents
  have left := first.visit.left keeper shelf
  have there := left.home home_shelf
  obtain ⟨places, changes, -⟩ := left.exists_changes home_shelf
  obtain ⟨location, number, held⟩ := Volume.contentsAt_eq_ok_iff.1 stands
  have file := Volume.at?_of_entryAt held
  rw [← descend_way_shelved] at held
  rw [there.location_eq proper held, way_shelved] at file
  have again := begins_on_shelf named' short followable sent' changes.keeps
    (.inr ⟨number, _, file⟩)
  obtain ⟨other, contents', stands'⟩ := again.stands_of_home there
  cases belongs'.symm.trans contents'
  rw [Service.volume_run, Service.volume_run]
  exact ⟨stands, stands', different⟩

end Collector
end CoverageLink
