import CoverageLink.Proofs.Artifact.Candidates
import CoverageLink.Proofs.Artifact.Identifier
import CoverageLink.Proofs.Collector.Known

/-!
# What was stored, and under which identifier it is known

An artifact lies at the names that the agent's text asks for, and that is where the collector finds
it again when it lists what it has.  The identifier that it goes by then is that of these names.

## 1.  Stored artifacts are found

A link on the way would lead elsewhere, and the listing does not follow it.  Without one, what was
stored is found at its names, as a file or as a link to one (`entry_of_saveFile`), and so it
is among what the collector knows (`contains_of_saveFile`).

## 2.  Sent again

The agent asks for its own identifier, that of the text.  Unless there is a hash in it, it is known
only if the text is spelled as the names are (`known_iff_of_saveFile`): an artifact that was sent as
`a//b.class` is stored as `a/b.class`, known as that, and sent again at every request.
-/

namespace CoverageLink
namespace Collector
namespace ProjectStore

open Artifact (PlainlySpelled eligible hashIn? identifier)
open Files (Location Ordinary Path Volume)
open Files.Volume (Changes)

variable {project : ProjectStore} {volume after : Volume} {name : String} {names : List String}
  {contents : Bytes} {top : Location} {path : Path}

/-! ## 1.  Stored artifacts are found -/

/-- Whatever becomes of an artifact, nothing that is there is lost for it, and no links are made. -/
theorem changes_of_saveFile {outcome : Except Failure Path}
    (done : project.saveFile name contents volume = (outcome, after)) :
    Changes (fun _ => True) volume after := by
  obtain rfl : (project.saveFile name contents volume).2 = after := congrArg Prod.snd done
  clear done
  unfold saveFile
  rcases (Path.ofText name).names? with _ | names
  · exact .refl _
  simp only
  have folders : Changes (fun _ => True) volume
      (volume.makeFolders (project.classes.descend names.dropLast)).2 :=
    (volume.changes_makeFolders _).1.mono fun _ _ => trivial
  generalize volume.makeFolders (project.classes.descend names.dropLast) = made at folders ⊢
  obtain ⟨failure | _, middle⟩ := made
  · exact folders
  simp only
  rcases middle.putContents_cases (project.classes.descend names) contents with
    ⟨failure, failed⟩ | ⟨place, after, -, put, change, -⟩
  · rw [failed]
    exact folders
  · rw [put]
    exact folders.trans (change.mono fun _ _ => trivial)

/-- **What was stored is found at its names**, as a file or as a link that leads to one. -/
theorem entry_of_saveFile
    (placed : volume.home.isAbsolute = true ∨ volume.home.segments.length ≤ 1)
    (there : volume.folderAt project.classes = .ok top)
    (asked : (Path.ofText name).names? = some names) (straight : volume.Straight top names)
    (saved : project.saveFile name contents volume = (.ok path, after)) :
    (∃ number, after.at? (top ++ names) = some (.file number contents)) ∨
      ∃ target, after.at? (top ++ names) = some (.link target) := by
  have changes := changes_of_saveFile saved
  obtain ⟨⟨names', asked', below⟩, held⟩ := contentsAt_of_saveFile saved
  obtain rfl := Option.some.inj (asked.symm.trans asked')
  have same : path = project.classes.descend names := by
    rw [project.endsInName_classes.descend_eq, ← below]
  obtain ⟨location, number, found⟩ := Volume.contentsAt_eq_ok_iff.1 held
  rw [same] at found
  rw [← changes.keeps.home] at placed
  refine (Volume.location_of_straight placed project.endsInName_classes
    (changes.keeps.folderAt there) (changes.straight straight)
    (Path.ne_nil_of_names? asked) (Path.ofSegment_of_names? asked)
    (Volume.entryAt_eq_ok_iff.1 found)).imp_left fun here => ?_
  obtain rfl : location = top ++ names := here
  exact ⟨number, Volume.at?_of_entryAt found⟩

theorem exists_entry_of_saveFile
    (placed : volume.home.isAbsolute = true ∨ volume.home.segments.length ≤ 1)
    (there : volume.folderAt project.classes = .ok top)
    (asked : (Path.ofText name).names? = some names) (straight : volume.Straight top names)
    (saved : project.saveFile name contents volume = (.ok path, after)) :
    ∃ entry, after.at? (top ++ names) = some entry ∧ entry ≠ .folder := by
  rcases entry_of_saveFile placed there asked straight saved with ⟨number, file⟩ | ⟨target, link⟩
  · exact ⟨_, file, nofun⟩
  · exact ⟨_, link, nofun⟩

/-- The collector can list what it has if there is a folder of artifacts, and it knows everything
in there that is not a folder. -/
theorem exists_knownIds (there : volume.folderAt project.classes = .ok top) :
    ∃ known, project.knownIds volume = .ok known ∧
      ∀ id, id ∈ known.ids ↔ ∃ names entry, names ≠ [] ∧ volume.at? (top ++ names) = some entry ∧
        entry ≠ .folder ∧ id = identifier (Text.join Path.separator names) := by
  have listed : ∃ known, project.knownIds volume = .ok known := by
    unfold knownIds
    rw [there]
    exact ⟨_, rfl⟩
  obtain ⟨known, listed⟩ := listed
  obtain ⟨top', there', elements⟩ := mem_knownIds listed
  obtain rfl := Except.ok.inj (there.symm.trans there')
  refine ⟨known, listed, fun id => ?_⟩
  rw [elements]
  constructor
  · rintro ⟨⟨names, entry⟩, row, file, same⟩
    obtain ⟨some_names, held⟩ := Volume.mem_below_iff.1 row
    exact ⟨names, entry, some_names, held, file, same⟩
  · rintro ⟨names, entry, some_names, held, file, same⟩
    exact ⟨(names, entry), Volume.mem_below_iff.2 ⟨some_names, held⟩, file, same⟩

/-- **What was stored is known** by the identifier of its names. -/
theorem contains_of_saveFile
    (placed : volume.home.isAbsolute = true ∨ volume.home.segments.length ≤ 1)
    (there : volume.folderAt project.classes = .ok top)
    (asked : (Path.ofText name).names? = some names) (straight : volume.Straight top names)
    (saved : project.saveFile name contents volume = (.ok path, after)) :
    ∃ known, project.knownIds after = .ok known ∧
      known.contains (identifier (Text.join Path.separator names)) = true := by
  have changes := changes_of_saveFile saved
  obtain ⟨entry, held, file⟩ := exists_entry_of_saveFile placed there asked straight saved
  obtain ⟨known, listed, elements⟩ := exists_knownIds (changes.keeps.folderAt there)
  refine ⟨known, listed, ?_⟩
  rw [KnownIds.contains, List.contains_iff_mem, elements]
  exact ⟨names, entry, Path.ne_nil_of_names? asked, held, file, rfl⟩

/-! ## 2.  Sent again -/

/-- **An artifact that was stored is known to whoever asks with its text**, and is not sent again,
exactly if the text is spelled as it was stored, or ends in a name with a hash.

No link lies on the way of the artifact, and the names below the folder of the artifacts are such as
a host can have. -/
theorem known_iff_of_saveFile
    (placed : volume.home.isAbsolute = true ∨ volume.home.segments.length ≤ 1)
    (there : volume.folderAt project.classes = .ok top)
    (straight : ∀ names, (Path.ofText name).names? = some names → volume.Straight top names)
    (saved : project.saveFile name contents volume = (.ok path, after))
    (named : ∀ row ∈ after.below top, ∀ segment ∈ row.1, Ordinary segment) :
    ∃ names known, (Path.ofText name).names? = some names ∧ project.knownIds after = .ok known ∧
      known.contains (identifier (Text.join Path.separator names)) = true ∧
      (known.contains (identifier name) = true ↔
        PlainlySpelled name ∨ (hashIn? name).isSome = true) ∧
      ∀ (filter : Artifact.Filter) (bytes : Bytes), filter.accepts name = true → bytes ≠ [] →
        bytes.length ≤ Artifact.maxContents →
          (eligible filter known [⟨name, .ok bytes⟩] = [] ↔
            PlainlySpelled name ∨ (hashIn? name).isSome = true) := by
  obtain ⟨⟨names, asked, -⟩, -⟩ := contentsAt_of_saveFile saved
  obtain ⟨known, listed, found⟩ :=
    contains_of_saveFile placed there asked (straight names asked) saved
  have changes := changes_of_saveFile saved
  obtain ⟨known', listed', elements⟩ := exists_knownIds (changes.keeps.folderAt there)
  obtain rfl := Except.ok.inj (listed.symm.trans listed')
  have agrees : known.contains (identifier name) = true ↔
      PlainlySpelled name ∨ (hashIn? name).isSome = true := by
    constructor
    · intro member
      rw [KnownIds.contains, List.contains_iff_mem, elements] at member
      obtain ⟨others, entry, some_others, held, -, same⟩ := member
      by_cases hashed : (hashIn? name).isSome = true
      · exact .inr hashed
      · rw [Option.not_isSome_iff_eq_none] at hashed
        have row := Volume.mem_below_iff.2 ⟨some_others, held⟩
        exact .inl (Artifact.plainlySpelled_of_identifier_eq hashed (named _ row) some_others same)
    · intro spelled
      rw [(Artifact.identifier_eq_iff asked).2 spelled]
      exact found
  refine ⟨names, known, asked, listed, found, agrees, fun filter bytes accepted full fits => ?_⟩
  rw [← agrees]
  rcases stored : known.contains (identifier name) with _ | _
  · have sent := (Artifact.fate_of_wanted known ⟨name, .ok bytes⟩ accepted stored).1
    rw [Artifact.Candidate.file?_of_fits (by simpa using full) fits] at sent
    rw [sent]
    exact iff_of_false (List.cons_ne_nil _ _) Bool.false_ne_true
  · have unsent := (Artifact.fate_of_stored known ⟨name, .ok bytes⟩ accepted stored).1
    exact iff_of_true unsent rfl

/-- A class is stored under its name and known by it. -/
theorem known_iff_of_saveFile_class :
    let project := Store.folderOf ⟨⟨["", "store"]⟩⟩ ⟨"a", "b", "", "", "", ""⟩
    let volume := (Volume.empty project.folder).put ["classes"] .folder
    ∃ path after known, project.saveFile "A.class" [1] volume = (.ok path, after) ∧
      project.knownIds after = .ok known ∧ known.contains (identifier "A.class") = true := by
  intro project volume
  have classes : Volume.Followable project.classes := by decide +kernel
  have asked : (Path.ofText "A.class").names? = some ["A.class"] := by decide +kernel
  have there : volume.folderAt project.classes = .ok ["classes"] := (project_of_empty classes).2
  have saved : project.saveFile "A.class" [1] volume = (.ok (project.classes.child "A.class"),
      (volume.putFile ["classes", "A.class"]).writeAt volume.made 0 [1]) :=
    saveFile_of_free rfl rfl classes asked (by decide)
      (by decide +kernel) rfl [1]
  have straight (names : List String) (same : (Path.ofText "A.class").names? = some names) :
      volume.Straight ["classes"] names := by
    obtain rfl := Option.some.inj (asked.symm.trans same)
    exact volume.straight_singleton _ _
  obtain ⟨names, known, -, listed, -, agrees, -⟩ :=
    known_iff_of_saveFile (.inl rfl) there straight saved (by decide +kernel)
  exact ⟨_, _, known, saved, listed, agrees.2 (.inl (by decide +kernel))⟩

/-- The same class under a text with a dot in front is stored under its name, known by that, and
sent again. -/
theorem not_known_of_dotted_class :
    let project := Store.folderOf ⟨⟨["", "store"]⟩⟩ ⟨"a", "b", "", "", "", ""⟩
    let volume := (Volume.empty project.folder).put ["classes"] .folder
    ∃ path after known, project.saveFile "./A.class" [1] volume = (.ok path, after) ∧
      project.knownIds after = .ok known ∧ known.ids = ["A.class"] ∧
      known.contains (identifier "./A.class") = false ∧
      ∀ filter : Artifact.Filter, filter.accepts "./A.class" = true →
        eligible filter known [⟨"./A.class", .ok [1]⟩] = [("./A.class", [1])] := by
  intro project volume
  have classes : Volume.Followable project.classes := by decide +kernel
  have asked : (Path.ofText "./A.class").names? = some ["A.class"] := by decide +kernel
  have there : volume.folderAt project.classes = .ok ["classes"] := (project_of_empty classes).2
  have saved : project.saveFile "./A.class" [1] volume = (.ok (project.classes.child "A.class"),
      (volume.putFile ["classes", "A.class"]).writeAt volume.made 0 [1]) :=
    saveFile_of_free rfl rfl classes asked (by decide) (by decide +kernel) rfl [1]
  have changes := changes_of_saveFile saved
  have listed : project.knownIds
      ((volume.putFile ["classes", "A.class"]).writeAt volume.made 0 [1]) =
        .ok (.ofList ["A.class"]) := by
    have row : ((volume.putFile ["classes", "A.class"]).writeAt volume.made 0 [1]).below
        ["classes"] = [(["A.class"], .file 0 [1])] := rfl
    have named : identifier "A.class" = "A.class" := by decide +kernel
    simp [knownIds, changes.keeps.folderAt there, row, named]
  have stored : (KnownIds.ofList ["A.class"]).contains (identifier "./A.class") = false := by
    decide +kernel
  refine ⟨_, _, _, saved, listed, by decide +kernel, stored, fun filter accepted => ?_⟩
  rw [(Artifact.fate_of_wanted _ ⟨"./A.class", .ok [1]⟩ accepted stored).1]
  rfl

end ProjectStore
end Collector
end CoverageLink
