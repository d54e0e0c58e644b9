import CoverageLink.Collector.Store
import CoverageLink.Proofs.Collector.ExecutionFile
import CoverageLink.Proofs.Collector.Naming

/-!
# What a store does to its volume

## 1.  The folder of a project

It lies two ordinary components below the root (`Store.folderOf`).  For a project the folders on
the way to its artifacts are made and nothing else happens (`Store.changes_project`).

## 2.  Artifacts

A name that is not refused leads to a path below the folder of the artifacts, and what is changed
for it lies there as well (`ProjectStore.changes_saveFile`).  That needs two things of the volume.
No link lies below that folder; and every file has a number of its own (`Volume.Sound`), because a
file is written to by its number.

## 3.  Files of execution data

Such a file lies in the folder of the project itself (`ProjectStore.executionFile_cases`).

## 4.  A volume that holds one project

There all of this succeeds if the host takes the names (`ProjectStore.project_of_empty`,
`ProjectStore.project_of_classes`, `ProjectStore.saveFile_of_free`,
`ProjectStore.exists_executionFile`).
-/

namespace CoverageLink

namespace Failure

/-- A failure that a volume reports: the host refused, or could not hold the path. -/
def OfVolume (failure : Failure) : Prop := failure = .nulInPath ∨ ∃ refusal, failure = .host refusal

end Failure

namespace Files
namespace Volume

variable {volume : Volume} {path : Path} {failure : Failure}

theorem ofVolume_of_place {aim : Aim} (failed : volume.place aim path = .error failure) :
    failure.OfVolume := by
  unfold place at failed
  simp only at failed
  split at failed
  · exact .inl (Except.error.inj failed).symm
  split at failed
  · exact .inr ⟨_, (Except.error.inj failed).symm⟩
  split at failed
  · exact .inr ⟨_, (Except.error.inj failed).symm⟩
  split at failed
  · cases failed
  · exact .inr ⟨_, (Except.error.inj failed).symm⟩

theorem ofVolume_of_ensureFolder (failed : volume.ensureFolder path = .error failure) :
    failure.OfVolume := by
  unfold ensureFolder makeFolder at failed
  rcases led : volume.place .name path with refusal | ⟨location, entry⟩ | ⟨location, shut⟩ <;>
    rw [led] at failed <;> simp only at failed
  · split at failed
    · cases failed
    · obtain rfl := Except.error.inj failed
      exact ofVolume_of_place led
  · split at failed
    · cases failed
    · exact .inr ⟨_, (Except.error.inj failed).symm⟩
  · cases failed

theorem ofVolume_of_makeFolders (failed : (volume.makeFolders path).1 = .error failure) :
    failure.OfVolume := by
  have along (path : Path) (failed : (volume.makeFoldersAlong path).1 = .error failure) :
      failure.OfVolume := by
    fun_induction volume.makeFoldersAlong path with
    | case1 _ _ _ => cases failed
    | case2 _ _ _ => exact .inr ⟨_, (Except.error.inj failed).symm⟩
    | case3 _ _ _ _ _ _ earlier ih =>
      rw [earlier] at ih
      exact ih failed
    | case4 _ _ _ _ _ _ _ _ _ => cases failed
    | case5 _ _ _ _ _ _ _ again _ =>
      obtain rfl := Except.error.inj failed
      exact ofVolume_of_ensureFolder again
    | case6 _ _ _ first =>
      obtain rfl := Except.error.inj failed
      exact ofVolume_of_ensureFolder first
  unfold makeFolders at failed
  split at failed
  · cases failed
  · exact along path failed

theorem ofVolume_of_putContents {bytes : Bytes}
    (failed : (volume.putContents path bytes).1 = .error failure) : failure.OfVolume := by
  unfold putContents openFile at failed
  rcases led : volume.place .file path with refusal | ⟨location, entry⟩ | ⟨location, shut⟩ <;>
    rw [led] at failed
  · obtain rfl := Except.error.inj failed
    exact ofVolume_of_place led
  · cases entry with
    | file _ _ => cases failed
    | folder => exact .inr ⟨_, (Except.error.inj failed).symm⟩
    | link _ => exact .inr ⟨_, (Except.error.inj failed).symm⟩
  · cases failed

end Volume
end Files

namespace Collector

open Files (Ordinary Path Volume Location)
open Files.Volume (Changes)

/-! ## 1.  The folder of a project -/

/-- The place of a project: two components below the root. -/
def Store.folderOf (store : Store) (info : ProjectInfo) : ProjectStore :=
  ⟨(store.root.child (component info.product)).child (component info.project)⟩

namespace ProjectStore

theorem endsInName_classes (project : ProjectStore) : project.classes.EndsInName :=
  Path.endsInName_child _ (by decide)

end ProjectStore

namespace Store

variable (store : Store) (info : ProjectInfo) (volume : Volume)

theorem endsInName_folder : (store.folderOf info).folder.EndsInName :=
  Path.endsInName_child _ (ordinary_component info.project).ofSegment

theorem project_eq :
    store.project info volume =
      (((volume.makeFolders (store.folderOf info).classes).1).map fun _ => store.folderOf info,
        (volume.makeFolders (store.folderOf info).classes).2) := by
  rw [project, folderOf]
  rcases volume.makeFolders _ with ⟨failure | _, after⟩ <;> rfl

/-- **A project is given the folders that are missing on the way to its artifacts**, and nothing
else is changed. -/
theorem changes_project :
    Changes (volume.Missing (store.project info volume).2 (store.folderOf info).classes) volume
      (store.project info volume).2 := by
  rw [project_eq]
  exact (volume.changes_makeFolders _).1

variable {store info volume}

/-- The place of a project depends on nothing but its info. -/
theorem eq_folderOf {project : ProjectStore}
    (given : (store.project info volume).1 = .ok project) : project = store.folderOf info := by
  rw [project_eq] at given
  rcases done : (volume.makeFolders (store.folderOf info).classes).1 with failure | _ <;>
    rw [done] at given
  · cases given
  · exact (Except.ok.inj given).symm

/-- A project that was given its folders has them. -/
theorem exists_classes_of_project {project : ProjectStore} {after : Volume}
    (made : store.project info volume = (.ok project, after)) :
    project = store.folderOf info ∧ ∃ top, after.folderAt project.classes = .ok top := by
  obtain rfl := eq_folderOf (congrArg Prod.fst made)
  rw [project_eq] at made
  obtain ⟨ok, rfl⟩ := Prod.mk.inj made
  rcases done : (volume.makeFolders (store.folderOf info).classes).1 with failure | _ <;>
    rw [done] at ok
  · cases ok
  · exact ⟨rfl, (volume.changes_makeFolders _).2
      (store.folderOf info).endsInName_classes.text_isEmpty done⟩

end Store

namespace ProjectStore

variable {project : ProjectStore} {volume : Volume} {name label : String} {contents : Bytes}
  {top : Location}

/-! ## 2.  Artifacts -/

/-- A place below another one. -/
def Below (top location : Location) : Prop := ∃ names, names ≠ [] ∧ location = top ++ names

/-- A name that asks for a way down is not refused: if its artifact cannot be stored then the volume
says so. -/
theorem ofVolume_of_saveFile {names : List String} (asked : (Path.ofText name).names? = some names)
    {failure : Failure} (failed : (project.saveFile name contents volume).1 = .error failure) :
    failure.OfVolume := by
  unfold saveFile at failed
  rw [asked] at failed
  simp only at failed
  rcases made : volume.makeFolders (project.classes.descend names.dropLast) with
    ⟨refusal | _, middle⟩ <;> rw [made] at failed <;> simp only at failed
  · obtain rfl := Except.error.inj failed
    exact Volume.ofVolume_of_makeFolders (congrArg Prod.fst made)
  · rcases put : middle.putContents (project.classes.descend names) contents with
      ⟨refusal | _, after⟩ <;> rw [put] at failed <;> simp only at failed
    · obtain rfl := Except.error.inj failed
      exact Volume.ofVolume_of_putContents (congrArg Prod.fst put)
    · cases failed

/-- **An artifact is stored below the folder of the artifacts**, and all that is changed for it lies
there. -/
theorem changes_saveFile (sound : volume.Sound) (there : volume.folderAt project.classes = .ok top)
    (unlinked : volume.Unlinked top) :
    Changes (Below top) volume (project.saveFile name contents volume).2 := by
  unfold saveFile
  rcases asked : (Path.ofText name).names? with _ | names
  · exact .refl _
  simp only
  have ends := project.endsInName_classes
  have proper := Path.ofSegment_of_names? asked
  have folders := Volume.changes_makeFolders_descend sound ends there unlinked
    fun name member => proper name (List.dropLast_subset names member)
  have below := folders.mono fun location made =>
    (⟨made.choose, made.choose_spec.1, made.choose_spec.2.2⟩ : Below top location)
  generalize volume.makeFolders (project.classes.descend names.dropLast) = made at below folders ⊢
  obtain ⟨failure | _, middle⟩ := made
  · exact below
  simp only
  rcases middle.putContents_cases (project.classes.descend names) contents with
    ⟨failure, failed⟩ | ⟨place, after, led, put, change, -⟩
  · rw [failed]
    exact below
  · rw [put]
    have some_names := Path.ne_nil_of_names? asked
    have placed := Volume.location_of_place (folders.sound sound) ends
      (folders.keeps.folderAt there) (folders.unlinked unlinked) some_names proper led
    exact below.trans (change.mono fun location here => ⟨names, some_names, here.trans placed⟩)

/-- What was stored is found under its path. -/
theorem contentsAt_of_saveFile {path : Path} {after : Volume}
    (saved : project.saveFile name contents volume = (.ok path, after)) :
    (∃ names, (Path.ofText name).names? = some names ∧
        path.segments = project.classes.segments ++ names) ∧
      after.contentsAt path = .ok contents := by
  unfold saveFile at saved
  rcases asked : (Path.ofText name).names? with _ | names <;> rw [asked] at saved
  · cases saved
  simp only at saved
  rcases made : volume.makeFolders (project.classes.descend names.dropLast) with
    ⟨failure | _, middle⟩ <;> rw [made] at saved <;> simp only at saved
  · cases saved
  rcases middle.putContents_cases (project.classes.descend names) contents with
    ⟨failure, failed⟩ | ⟨place, last, led, put, change, held⟩
  · rw [failed] at saved
    cases saved
  · rw [put] at saved
    cases saved
    exact ⟨⟨names, rfl, by rw [project.endsInName_classes.descend_eq]⟩, held⟩

/-! ## 3.  Files of execution data -/

/-- The folder of the artifacts lies in the folder of the project. -/
theorem location_classes (sound : volume.Sound) (ends : project.folder.EndsInName)
    {home : Location} (there : volume.folderAt project.folder = .ok home)
    (unlinked : volume.Unlinked home) (classes : volume.folderAt project.classes = .ok top) :
    top = home ++ ["classes"] := by
  rw [Volume.folderAt_eq_ok_iff, Volume.entryAt_eq_ok_iff] at classes
  exact Volume.location_of_place sound ends there unlinked (List.cons_ne_nil _ _)
    (by simp only [List.mem_singleton, forall_eq]; decide) classes

/-- A file of execution data does not stand in the place of the artifacts. -/
theorem append_exec_ne_classes (label : String) : component label ++ ".exec" ≠ "classes" := by
  intro same
  have last := congrArg (fun text : String => text.toList.getLast?) same
  simp only [String.toList_append, List.getLast?_append] at last
  cases last

/-- **A file of execution data is begun in the folder of the project.** -/
theorem executionFile_cases (sound : volume.Sound) (ends : project.folder.EndsInName)
    {home : Location} (there : volume.folderAt project.folder = .ok home)
    (unlinked : volume.Unlinked home) (label : String) :
    (∃ failure, project.executionFile label volume = (.error failure, volume)) ∨
      ∃ file after, project.executionFile label volume = (.ok file, after) ∧
        file.Writing after (home ++ [component label ++ ".exec"]) Record.streamHeader ∧
        Changes (fun location => location = home ++ [component label ++ ".exec"]) volume after := by
  have ordinary := ordinary_component_append label
  rcases ExecutionFile.create_cases (project.folder.child (component label ++ ".exec")) volume with
    ⟨failure, failed⟩ | ⟨place, file, after, led, created, -, writing, changes⟩
  · exact .inl ⟨failure, failed⟩
  · have here := Volume.location_of_place sound ends there unlinked (List.cons_ne_nil _ _)
      (by simpa using ordinary.ofSegment) led
    rw [here] at writing changes
    exact .inr ⟨file, after, created, writing, changes⟩

/-- The path of a file of execution data does not depend on the volume. -/
theorem path_of_executionFile {file : ExecutionFile} {after : Volume}
    (begun : project.executionFile label volume = (.ok file, after)) :
    file.path = project.folder.child (component label ++ ".exec") := by
  rcases ExecutionFile.create_cases (project.folder.child (component label ++ ".exec")) volume with
    ⟨failure, failed⟩ | ⟨place, created, last, -, ok, path, -⟩
  · cases failed.symm.trans begun
  · cases ok.symm.trans begun
    exact path

end ProjectStore

/-! ## 4.  A volume that holds one project

Nothing is in the way of a project whose folder is the top of its volume. -/

namespace ProjectStore

variable {store : Store} {info : ProjectInfo}

/-- The folder of the artifacts is all that is made. -/
theorem project_of_empty (followable : Volume.Followable (store.folderOf info).classes) :
    store.project info (.empty (store.folderOf info).folder) =
        (.ok (store.folderOf info),
          (Volume.empty (store.folderOf info).folder).put ["classes"] .folder) ∧
      ((Volume.empty (store.folderOf info).folder).put ["classes"] .folder).folderAt
        (store.folderOf info).classes = .ok ["classes"] := by
  have home : (Volume.empty (store.folderOf info).folder).home = (store.folderOf info).folder := rfl
  have led : (Volume.empty (store.folderOf info).folder).place .name (store.folderOf info).classes =
      .ok (.vacant ["classes"] false) :=
    (Volume.place_child_iff home (store.endsInName_folder info) (by decide) followable).2
      (.free ⟨by simp, by decide⟩ rfl)
  have made : (Volume.empty (store.folderOf info).folder).makeFolders
      (store.folderOf info).classes =
        (.ok (), (Volume.empty (store.folderOf info).folder).put ["classes"] .folder) := by
    rw [Volume.makeFolders, if_neg (Bool.eq_false_iff.1 followable.some_text),
      Volume.makeFoldersAlong, Volume.ensureFolder, Volume.makeFolder, led]
  rw [Store.project_eq, made]
  exact ⟨rfl, (Volume.folder_of_place led).2⟩

/-- A project that has its folders is not given any. -/
theorem project_of_classes {volume : Volume} (home : volume.home = (store.folderOf info).folder)
    (there : volume.at? ["classes"] = some .folder)
    (followable : Volume.Followable (store.folderOf info).classes) :
    store.project info volume = (.ok (store.folderOf info), volume) ∧
      volume.folderAt (store.folderOf info).classes = .ok ["classes"] := by
  have folder : volume.folderAt (store.folderOf info).classes = .ok ["classes"] := by
    rw [Volume.folderAt_eq_ok_iff, Volume.entryAt_eq_ok_iff]
    exact (Volume.place_child_iff home (store.endsInName_folder info) (by decide) followable).2
      (.folder ⟨by simp, by decide⟩ there .here)
  rw [Store.project_eq, Volume.makeFolders_of_folderAt folder]
  exact ⟨rfl, folder⟩

/-- An artifact is stored where its path leads to a free name. -/
theorem saveFile_of_vacant {project : ProjectStore} {volume : Volume} {name : String}
    {names : List String} (asked : (Path.ofText name).names? = some names) {above : Location}
    (folder : volume.folderAt (project.classes.descend names.dropLast) = .ok above)
    {location : Location} {shut : Bool}
    (led : volume.place .file (project.classes.descend names) = .ok (.vacant location shut))
    (contents : Bytes) :
    project.saveFile name contents volume =
      (.ok (project.classes.descend names),
        (volume.putFile location).writeAt volume.made 0 contents) := by
  unfold saveFile
  rw [asked]
  simp only [Volume.makeFolders_of_folderAt folder]
  rw [Volume.putContents, Volume.openFile, led]

/-- What is wanted in the folder of the artifacts of a project whose folder is the top of its
volume. -/
theorem descend_classes (names : List String) :
    (store.folderOf info).classes.descend names =
      (store.folderOf info).folder.descend ("classes" :: names) := by
  rw [(store.folderOf info).endsInName_classes.descend_eq,
    (store.endsInName_folder info).descend_eq, ProjectStore.classes,
    (store.endsInName_folder info).child_eq, List.append_assoc, List.singleton_append]

/-- An artifact is stored in the folder of the artifacts if nothing has its name there. -/
theorem saveFile_of_free {volume : Volume} (home : volume.home = (store.folderOf info).folder)
    (there : volume.at? ["classes"] = some .folder)
    (classes : Volume.Followable (store.folderOf info).classes) {name segment : String}
    (asked : (Path.ofText name).names? = some [segment])
    (short : segment.utf8ByteSize ≤ Volume.maxName)
    (followable : Volume.Followable ((store.folderOf info).classes.child segment))
    (free : volume.at? ["classes", segment] = none) (contents : Bytes) :
    (store.folderOf info).saveFile name contents volume =
      (.ok ((store.folderOf info).classes.child segment),
        (volume.putFile ["classes", segment]).writeAt volume.made 0 contents) := by
  have proper (name : String) (member : name ∈ ["classes", segment]) :
      Files.Step.ofSegment name = .name name := by
    simp only [List.mem_cons, List.not_mem_nil, or_false] at member
    rcases member with rfl | rfl
    · decide
    · exact (Path.ordinary_of_names? asked name List.mem_cons_self).ofSegment
  have folder := (project_of_classes home there classes).2
  rw [← Path.descend_singleton] at followable
  rw [descend_classes] at followable
  have led : volume.place .file ((store.folderOf info).classes.descend [segment]) =
      .ok (.vacant ["classes", segment] false) := by
    rw [descend_classes]
    exact (Volume.place_descend_iff home (store.endsInName_folder info) (List.cons_ne_nil _ _) proper
      followable).2 (.folder ⟨by simp, by decide⟩ there (.free ⟨by simp, short⟩ free))
  exact saveFile_of_vacant asked folder led contents

/-- A file of execution data can be begun where nothing has its name. -/
theorem exists_executionFile {project : ProjectStore} {volume : Volume} {label : String}
    (home : volume.home = project.folder) (ends : project.folder.EndsInName)
    (short : (component label ++ ".exec").utf8ByteSize ≤ Volume.maxName)
    (followable : Volume.Followable (project.folder.child (component label ++ ".exec")))
    (free : volume.at? [component label ++ ".exec"] = none) :
    ∃ file, (project.executionFile label volume).1 = .ok file := by
  have led : volume.place .file (project.folder.child (component label ++ ".exec")) =
      .ok (.vacant [component label ++ ".exec"] false) :=
    (Volume.place_child_iff home ends (ordinary_component_append label).ofSegment followable).2
      (.free ⟨by simp, short⟩ free)
  rw [executionFile, ExecutionFile.create, Volume.openFile, led]
  exact ⟨_, rfl⟩

end ProjectStore
end Collector
end CoverageLink
