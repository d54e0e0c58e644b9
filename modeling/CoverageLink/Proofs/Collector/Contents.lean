import CoverageLink.Proofs.Collector.Stored

/-!
# What a store holds

A store is told to store one artifact after the other, and some of that fails: a name is refused, or
a file stands where a folder is needed, or the other way round.  Folders may have been made by then,
and they stay.  The *files* are nevertheless exactly what was stored: each under the names that its
text asked for, with the contents that were stored there last.

## 1.  Files

What becomes of the files is compared place by place (`Volume.SameFile`).  Folders on the way are
made where nothing was, so no file comes or goes with them (`Volume.sameFile_makeFolders`).

## 2.  One artifact

A failure leaves every file alone, and a success all but the one at the names
(`ProjectStore.saveFile_cases`).

## 3.  All of them

What was stored is a list (`ProjectStore.saveEach`), and `latest` finds the last contents for names
in it.  The files below the folder of the artifacts are those of the list, which every step keeps
(`ProjectStore.Holding`), and what the collector knows follows from the files
(`ProjectStore.contents_saved`).
-/

namespace CoverageLink

open Files (Location Ordinary Path Volume)

/-! ## 1.  Files -/

namespace Files.Volume

/-- A file is at a place in one volume if it is there in the other. -/
def SameFile (volume after : Volume) (location : Location) : Prop :=
  ∀ number contents, after.at? location = some (.file number contents) ↔
    volume.at? location = some (.file number contents)

variable {volume middle after : Volume} {location : Location}

theorem SameFile.refl (volume : Volume) (location : Location) : volume.SameFile volume location :=
  fun _ _ => Iff.rfl

theorem SameFile.trans (first : volume.SameFile middle location)
    (second : middle.SameFile after location) : volume.SameFile after location :=
  fun number contents => (second number contents).trans (first number contents)

/-- What is not changed is the same. -/
theorem Changes.sameFile {places : Location → Prop} (changes : Changes places volume after)
    (sound : volume.Sound) (elsewhere : ¬ places location) : volume.SameFile after location := by
  intro number contents
  rw [changes.at?_of_not sound elsewhere]

/-- **Making folders does nothing to files.** -/
theorem sameFile_makeFolders (sound : volume.Sound) (path : Path) (location : Location) :
    volume.SameFile (volume.makeFolders path).2 location := by
  have changes := (volume.changes_makeFolders path).1
  by_cases missing : volume.Missing (volume.makeFolders path).2 path location
  · obtain ⟨free, above, -, made⟩ := missing
    intro number contents
    rw [free, at?_of_folderAt made]
    exact iff_of_false nofun nofun
  · exact changes.sameFile sound missing

end Files.Volume

namespace Collector

open Artifact (identifier)
open Files.Volume (Changes)

/-- The names that a text asks for: its pieces, without the empty ones and the dots. -/
def namesIn (name : String) : List String :=
  (Text.pieces Path.separator name).filter fun piece => piece ≠ "" ∧ piece ≠ "."

/-- The contents that were stored last at these names. -/
def latest (names : List String) (stored : List (List String × Bytes)) : Option Bytes :=
  stored.reverse.findSome? fun saved => if saved.1 = names then some saved.2 else none

section

variable {names : List String} {stored : List (List String × Bytes)} {contents : Bytes}

theorem latest_append_singleton (saved : List String × Bytes) :
    latest names (stored ++ [saved]) =
      if saved.1 = names then some saved.2 else latest names stored := by
  rw [latest, List.reverse_append, List.reverse_singleton, List.singleton_append,
    List.findSome?_cons]
  by_cases same : saved.1 = names
  · simp [same]
  · simp [same, latest]

/-- What was stored at names was stored there last by somebody. -/
theorem exists_latest_iff :
    (∃ contents, latest names stored = some contents) ↔ ∃ saved ∈ stored, saved.1 = names := by
  rw [← Option.isSome_iff_exists, latest, List.findSome?_isSome_iff]
  simp

end

namespace ProjectStore

variable {project : ProjectStore} {volume after : Volume} {top : Location}

/-! ## 2.  One artifact -/

theorem names?_eq_namesIn {name : String} {names : List String}
    (asked : (Path.ofText name).names? = some names) : names = namesIn name :=
  (Path.names?_ofText_eq_some_iff.1 asked).2.2.1

/-- **What storing an artifact does to files**: nothing if it fails, and otherwise nothing but to
the one that its path led to when the folders had been made. -/
theorem saveFile_cases (sound : volume.Sound) (name : String) (contents : Bytes) :
    (∃ failure after, project.saveFile name contents volume = (.error failure, after) ∧
        ∀ location, volume.SameFile after location) ∨
      ∃ names middle place path after, (Path.ofText name).names? = some names ∧
        Changes (fun _ => True) volume middle ∧
        middle.place .file (project.classes.descend names) = .ok place ∧
        project.saveFile name contents volume = (.ok path, after) ∧
        ∀ location, location ≠ place.location → volume.SameFile after location := by
  unfold saveFile
  rcases asked : (Path.ofText name).names? with _ | names
  · exact .inl ⟨_, volume, rfl, .refl volume⟩
  have folders := volume.sameFile_makeFolders sound (project.classes.descend names.dropLast)
  have made := (volume.changes_makeFolders (project.classes.descend names.dropLast)).1
  simp only
  generalize volume.makeFolders (project.classes.descend names.dropLast) = outcome at folders made ⊢
  obtain ⟨failure | _, middle⟩ := outcome
  · exact .inl ⟨failure, middle, rfl, folders⟩
  simp only
  rcases middle.putContents_cases (project.classes.descend names) contents with
    ⟨failure, refused⟩ | ⟨place, after, led, put, change, -⟩
  · rw [refused]
    exact .inl ⟨failure, middle, rfl, folders⟩
  · rw [put]
    refine .inr ⟨names, middle, place, _, after, rfl, made.mono fun _ _ => trivial, led, rfl, ?_⟩
    intro location elsewhere
    exact (folders location).trans (change.sameFile (made.sound sound) elsewhere)

/-- An artifact that could not be stored leaves every file alone. -/
theorem sameFile_of_saveFile_error (sound : volume.Sound) {name : String} {contents : Bytes}
    {failure : Failure} (failed : project.saveFile name contents volume = (.error failure, after))
    (location : Location) : volume.SameFile after location := by
  rcases project.saveFile_cases sound name contents with
    ⟨failure, last, same, alone⟩ | ⟨names, middle, place, path, last, -, -, -, same, -⟩
  · cases failed.symm.trans same
    exact alone location
  · cases failed.symm.trans same

/-- **An artifact that was stored is the file at its names**, and every other file is left alone. -/
theorem file_of_saveFile (sound : volume.Sound) (there : volume.folderAt project.classes = .ok top)
    (unlinked : volume.Unlinked top) {name : String} {contents : Bytes} {path : Path}
    (saved : project.saveFile name contents volume = (.ok path, after)) :
    (∃ number, after.at? (top ++ namesIn name) = some (.file number contents)) ∧
      ∀ location, location ≠ top ++ namesIn name → volume.SameFile after location := by
  rcases project.saveFile_cases sound name contents with
    ⟨failure, last, same, -⟩ | ⟨names, middle, place, other, last, asked, made, led, same, alone⟩
  · cases saved.symm.trans same
  cases saved.symm.trans same
  rw [← names?_eq_namesIn asked]
  have some_names := Path.ne_nil_of_names? asked
  constructor
  · rcases entry_of_saveFile sound.placed there asked (unlinked.straight names) saved with
      file | ⟨target, link⟩
    · exact file
    · exact absurd link ((changes_of_saveFile saved).unlinked unlinked names target some_names)
  · have here := Volume.location_of_place (made.sound sound) project.endsInName_classes
      (made.keeps.folderAt there) (made.unlinked unlinked) some_names
      (Path.ofSegment_of_names? asked) led
    rwa [here] at alone

/-! ## 3.  All of them -/

/-- Stores one artifact after the other, whatever becomes of the earlier ones: what was stored, with
the names that its texts asked for, and the volume. -/
def saveEach (project : ProjectStore) :
    List (String × Bytes) → Volume → List (List String × Bytes) × Volume
  | [], volume => ([], volume)
  | (name, contents) :: calls, volume =>
    match project.saveFile name contents volume with
    | (.ok _, after) =>
      ((namesIn name, contents) :: (saveEach project calls after).1,
        (saveEach project calls after).2)
    | (.error _, after) => saveEach project calls after

/-- A volume whose files below the folder of the artifacts are exactly what was stored. -/
structure Holding (project : ProjectStore) (top : Location) (stored : List (List String × Bytes))
    (volume : Volume) : Prop where
  sound : volume.Sound
  there : volume.folderAt project.classes = .ok top
  unlinked : volume.Unlinked top
  files : ∀ names contents, (∃ number, volume.at? (top ++ names) = some (.file number contents)) ↔
    latest names stored = some contents

namespace Holding

variable {stored : List (List String × Bytes)}

/-- A folder that holds nothing. -/
theorem nothing (sound : volume.Sound) (there : volume.folderAt project.classes = .ok top)
    (empty : volume.below top = []) : project.Holding top [] volume := by
  have free {names : List String} (some_names : names ≠ []) : volume.at? (top ++ names) = none := by
    refine Option.eq_none_iff_forall_ne_some.2 fun entry held => ?_
    have row := Volume.mem_below_iff.2 ⟨some_names, held⟩
    rw [empty] at row
    cases row
  refine ⟨sound, there, fun names target some_names => ?_, fun names contents => ?_⟩
  · rw [free some_names]
    exact nofun
  · refine iff_of_false ?_ nofun
    rintro ⟨number, held⟩
    by_cases some_names : names = []
    · rw [some_names, List.append_nil, Volume.at?_of_folderAt there] at held
      cases held
    · rw [free some_names] at held
      cases held

/-- **What is stored is held as well**, and what is not stored changes nothing. -/
theorem saveFile (holding : project.Holding top stored volume) (name : String) (contents : Bytes) :
    match project.saveFile name contents volume with
    | (.ok _, after) => project.Holding top (stored ++ [(namesIn name, contents)]) after
    | (.error _, after) => project.Holding top stored after := by
  obtain ⟨sound, there, unlinked, files⟩ := holding
  rcases saved : project.saveFile name contents volume with ⟨failure | path, after⟩ <;>
    have changes := changes_of_saveFile saved
  · refine ⟨changes.sound sound, changes.keeps.folderAt there, changes.unlinked unlinked, ?_⟩
    intro names bytes
    rw [← files]
    exact exists_congr fun number => sameFile_of_saveFile_error sound saved _ number bytes
  · obtain ⟨⟨number, here⟩, elsewhere⟩ := file_of_saveFile sound there unlinked saved
    refine ⟨changes.sound sound, changes.keeps.folderAt there, changes.unlinked unlinked, ?_⟩
    intro names bytes
    rw [latest_append_singleton]
    by_cases same : namesIn name = names
    · subst same
      rw [if_pos rfl, here]
      constructor
      · rintro ⟨other, held⟩
        obtain ⟨-, rfl⟩ := Files.Entry.file.inj (Option.some.inj held)
        rfl
      · intro last
        exact ⟨number, Option.some.inj last ▸ rfl⟩
    · have apart : top ++ names ≠ top ++ namesIn name := fun one =>
        same (List.append_cancel_left one).symm
      rw [if_neg same, ← files]
      exact exists_congr fun number => elsewhere _ apart number bytes

theorem saveEach (holding : project.Holding top stored volume) (calls : List (String × Bytes)) :
    project.Holding top (stored ++ (project.saveEach calls volume).1)
      (project.saveEach calls volume).2 := by
  induction calls generalizing stored volume with
  | nil =>
    rw [ProjectStore.saveEach, List.append_nil]
    exact holding
  | cons call calls ih =>
    obtain ⟨name, contents⟩ := call
    have step := holding.saveFile name contents
    rw [ProjectStore.saveEach]
    rcases saved : project.saveFile name contents volume with ⟨failure | path, after⟩ <;>
      rw [saved] at step
    · exact ih step
    · have onward := ih step
      rwa [List.append_assoc, List.singleton_append] at onward

/-- **What the collector knows** are the identifiers of what was stored. -/
theorem knownIds (holding : project.Holding top stored volume) :
    ∃ known, project.knownIds volume = .ok known ∧ ∀ id, id ∈ known.ids ↔
      ∃ saved ∈ stored, id = identifier (Text.join Path.separator saved.1) := by
  obtain ⟨known, listed, elements⟩ := exists_knownIds holding.there
  refine ⟨known, listed, fun id => ?_⟩
  rw [elements]
  constructor
  · rintro ⟨names, entry, some_names, held, file, rfl⟩
    cases entry with
    | folder => exact absurd rfl file
    | link target => exact absurd held (holding.unlinked names target some_names)
    | file number contents =>
      obtain ⟨saved, member, rfl⟩ :=
        exists_latest_iff.1 ⟨contents, (holding.files names contents).1 ⟨number, held⟩⟩
      exact ⟨saved, member, rfl⟩
  · rintro ⟨saved, member, rfl⟩
    obtain ⟨contents, last⟩ := exists_latest_iff.2 ⟨saved, member, rfl⟩
    obtain ⟨number, held⟩ := (holding.files saved.1 contents).2 last
    refine ⟨saved.1, _, ?_, held, nofun, rfl⟩
    intro none
    rw [none, List.append_nil, Volume.at?_of_folderAt holding.there] at held
    cases held

end Holding

/-- **The contents of a store.**

A project is given its folders, and the one for the artifacts holds nothing.  Whatever it is told to
store then, one artifact after the other, and whatever of that fails: the files below the folder are
at the names of what was stored, each with the contents that were stored there last, and the
collector knows their identifiers and no others.  And what could not be stored has not touched a
file, anywhere. -/
theorem contents_saved {store : Store} {info : ProjectInfo} {before fresh : Volume}
    (sound : before.Sound) (made : store.project info before = (.ok project, fresh))
    (there : fresh.folderAt project.classes = .ok top) (empty : fresh.below top = [])
    (calls : List (String × Bytes)) :
    let stored := (project.saveEach calls fresh).1
    let volume := (project.saveEach calls fresh).2
    (∀ names contents, (∃ number, volume.at? (top ++ names) = some (.file number contents)) ↔
        latest names stored = some contents) ∧
      (∃ known, project.knownIds volume = .ok known ∧ ∀ id, id ∈ known.ids ↔
        ∃ saved ∈ stored, id = identifier (Text.join Path.separator saved.1)) ∧
      ∀ name contents failure after,
        project.saveFile name contents volume = (.error failure, after) →
          ∀ location number bytes, after.at? location = some (.file number bytes) ↔
            volume.at? location = some (.file number bytes) := by
  intro stored volume
  have sound : fresh.Sound := by
    have changes := store.changes_project info before
    rw [made] at changes
    exact changes.sound sound
  have holding := (Holding.nothing sound there empty).saveEach calls
  rw [List.nil_append] at holding
  refine ⟨holding.files, holding.knownIds, ?_⟩
  intro name contents failure after failed
  exact sameFile_of_saveFile_error holding.sound failed

/-- A class is held under its name, and one that was refused is not. -/
theorem contents_saved_of_classes :
    let store : Store := ⟨⟨["", "store"]⟩⟩
    let info : ProjectInfo := ⟨"a", "b", "", "", "", ""⟩
    let project := store.folderOf info
    let fresh := (store.project info (.empty project.folder)).2
    let calls : List (String × Bytes) := [("./A.class", [1]), ("../B.class", [2])]
    let stored := (project.saveEach calls fresh).1
    let volume := (project.saveEach calls fresh).2
    stored = [(["A.class"], [1])] ∧
      (∃ number, volume.at? ["classes", "A.class"] = some (.file number [1])) ∧
      ∃ known, project.knownIds volume = .ok known ∧ ∀ id, id ∈ known.ids ↔ id = "A.class" := by
  intro store info project fresh calls stored volume
  have classes : Volume.Followable (store.folderOf info).classes := by decide +kernel
  obtain ⟨made, there⟩ := project_of_empty classes
  have fresh_eq : fresh = (Volume.empty project.folder).put ["classes"] .folder :=
    congrArg Prod.snd made
  have asked : (Path.ofText "./A.class").names? = some ["A.class"] := by decide +kernel
  obtain ⟨path, after, first⟩ : ∃ path after, project.saveFile "./A.class" [1]
      ((Volume.empty project.folder).put ["classes"] .folder) = (.ok path, after) :=
    ⟨_, _, saveFile_of_free rfl rfl classes asked (by decide) (by decide +kernel) rfl [1]⟩
  have second (volume : Volume) : project.saveFile "../B.class" [2] volume =
      (.error (.refusedName "../B.class"), volume) :=
    saveFile_of_names?_eq_none (by decide +kernel)
  have held : stored = [(["A.class"], [1])] := by
    have names : namesIn "./A.class" = ["A.class"] := by decide +kernel
    simp only [stored, calls, fresh_eq, saveEach, first, second, names]
  obtain ⟨files, ⟨known, listed, elements⟩, -⟩ := contents_saved
    (Volume.sound_empty (.inl (by decide +kernel))) made there rfl calls
  rw [← fresh_eq] at files listed elements
  rw [show (project.saveEach calls fresh).1 = _ from held] at files elements
  have named : identifier "A.class" = "A.class" := by decide +kernel
  refine ⟨held, (files ["A.class"] [1]).2 rfl, known, listed, fun id => ?_⟩
  rw [elements]
  simp [named]

end ProjectStore
end Collector
end CoverageLink
