import CoverageLink.Proofs.Files.Descent

/-!
# Making files and folders

What is made at the end of a path is found by the path afterwards (`Leads.put`).

## 1.  One file, one folder

A new folder and a file that is opened are changes at one place (`folder_of_place`,
`openFile_emptied`).

## 2.  Folders on the way

Folders are made one by one, from the first that is missing down, each of them where a beginning
of the path leads (`changes_makeFolders`).  Below a folder without links these places lie on the
way down from it (`changes_makeFolders_descend`).
-/

namespace CoverageLink
namespace Files
namespace Volume

variable {volume : Volume} {aim : Aim} {links : Nat} {trail : List String} {closed : Bool}

/-! ## 1.  One file, one folder -/

/-- A lookup for a file, and one for a free name, is one for what the path leads to. -/
theorem Leads.target {steps : List Step} {place : Place}
    (led : volume.Leads aim links trail steps closed place)
    (h : aim = .file ∨ ∃ location shut, place = .vacant location shut) :
    volume.Leads .target links trail steps closed place := by
  induction led with
  | here => exact .here
  | stay _ ih => exact .stay (ih h)
  | outside nameless => exact .outside nameless
  | up _ ih => exact .up (ih h)
  | free passes none => exact .free ⟨by simp, passes.short⟩ none
  | folder passes there _ ih => exact .folder ⟨by simp, passes.short⟩ there (ih h)
  | @file _ _ _ closed _ _ passes there fits =>
    obtain rfl : aim = .file := h.resolve_right nofun
    exact .file ⟨by simp, passes.short⟩ there fits
  | link passes there kept =>
    obtain rfl : aim = .file := h.resolve_right nofun
    cases kept
  | through passes there followed _ ih =>
    exact .through ⟨by simp, passes.short⟩ there (fun _ => rfl) (ih h)

/-- A closed path does not lead to a name for a file. -/
theorem Leads.open_of_file {steps : List Step} {place : Place}
    (led : volume.Leads .file links trail steps closed place) {location : Location} {shut : Bool}
    (vacant : place = .vacant location shut) : shut = false := by
  induction led with
  | free passes _ =>
    cases vacant
    simpa using passes.loose
  | here | outside _ | file _ _ _ | link _ _ _ => cases vacant
  | stay _ ih | up _ ih | folder _ _ _ ih | through _ _ _ _ ih => exact ih vacant

/-- **What is put where a path leads is found by the path.** -/
theorem Leads.put {steps : List Step} {location : Location} {shut : Bool} {place : Place}
    (led : volume.Leads .target links trail steps closed place)
    (vacant : place = .vacant location shut) (free : volume.Free location) {entry : Entry}
    (fits : entry = .folder ∨ shut = false ∧ ∃ number contents, entry = .file number contents) :
    (volume.put location entry).Leads .target links trail steps closed (.found location entry) := by
  have more := free.extends_put entry
  induction led with
  | here | outside _ | file _ _ _ | link _ _ _ => cases vacant
  | stay _ ih => exact .stay (ih vacant)
  | up _ ih => exact .up (ih vacant)
  | folder passes there _ ih => exact .folder passes (more.at? _ _ there) (ih vacant)
  | through passes there followed _ ih =>
    exact .through passes (more.at? _ _ there) followed (ih vacant)
  | @free links trail name shut passes _ =>
    cases vacant
    have there : (volume.put (trail.reverse ++ [name]) entry).at? (trail.reverse ++ [name]) =
        some entry := (at?_put free entry _).trans (if_pos rfl)
    rcases fits with rfl | ⟨loose, number, contents, rfl⟩
    · have reached : (volume.put (trail.reverse ++ [name]) .folder).Leads .target links
          (name :: trail) [] shut (.found (name :: trail).reverse .folder) := .here
      rw [List.reverse_cons] at reached
      exact .folder passes there reached
    · exact .file passes there (by rw [loose]; rfl)

/-- **A new folder is found by its path.** -/
theorem folder_of_place {path : Path} {location : Location} {shut : Bool}
    (led : volume.place .name path = .ok (.vacant location shut)) :
    volume.Change location (volume.put location .folder) ∧
      (volume.put location .folder).folderAt path = .ok location := by
  have free : volume.Free location := holds_of_place led
  obtain ⟨followable, led⟩ := place_eq_ok_iff.1 led
  refine ⟨.folder free, ?_⟩
  rw [folderAt_eq_ok_iff, entryAt_eq_ok_iff, place_eq_ok_iff]
  exact ⟨followable, (led.target (.inr ⟨_, _, rfl⟩)).put rfl free (.inl rfl)⟩

/-- **Opening a file and emptying it** is a change where the path leads, and the path leads to the
empty file afterwards. -/
theorem openFile_emptied (volume : Volume) (path : Path) :
    (∃ failure, volume.openFile .emptied path = (.error failure, volume)) ∨
      ∃ place number after, volume.place .file path = .ok place ∧
        volume.openFile .emptied path = (.ok (number, 0), after) ∧
        volume.Change place.location after ∧
        after.entryAt path = .ok (place.location, .file number []) := by
  unfold openFile
  rcases led : volume.place .file path with failure | ⟨location, entry⟩ | ⟨location, shut⟩
  · exact .inl ⟨failure, rfl⟩
  · cases entry with
    | folder => exact .inl ⟨_, rfl⟩
    | link target => exact .inl ⟨_, rfl⟩
    | file number contents =>
      have there : volume.at? location = some (.file number contents) := holds_of_place led
      obtain ⟨followable, led'⟩ := place_eq_ok_iff.1 led
      have before : volume.entryAt path = .ok (location, .file number contents) := by
        rw [entryAt_eq_ok_iff, place_eq_ok_iff]
        exact ⟨followable, led'.target (.inl rfl)⟩
      have change : volume.Change location (volume.alterFile number fun _ => []) :=
        .contents _ there
      obtain ⟨now, after, -⟩ := change.keeps.entryAt before
      have emptied : (volume.alterFile number fun _ => []).at? location =
          some (.file number []) := by
        rw [at?_alterFile, there, Option.map_some, alterEntry, if_pos rfl]
      obtain rfl := Option.some.inj ((at?_of_entryAt after).symm.trans emptied)
      exact .inr ⟨_, _, _, rfl, rfl, change, after⟩
  · have free : volume.Free location := holds_of_place led
    obtain ⟨followable, led'⟩ := place_eq_ok_iff.1 led
    obtain rfl := led'.open_of_file rfl
    refine .inr ⟨_, _, _, rfl, rfl, .file free, ?_⟩
    rw [show (volume.putFile location).entryAt path = _ from entryAt_renumber _ _ path,
      entryAt_eq_ok_iff, place_eq_ok_iff]
    exact ⟨followable,
      (led'.target (.inl rfl)).put rfl free (.inr ⟨rfl, volume.made, [], rfl⟩)⟩

/-- **Putting contents into a file** changes the file that the path leads to. -/
theorem putContents_cases (volume : Volume) (path : Path) (bytes : Bytes) :
    (∃ failure, volume.putContents path bytes = (.error failure, volume)) ∨
      ∃ place after, volume.place .file path = .ok place ∧
        volume.putContents path bytes = (.ok (), after) ∧
        Changes (fun location => location = place.location) volume after ∧
        after.contentsAt path = .ok bytes := by
  unfold putContents
  rcases openFile_emptied volume path with ⟨failure, failed⟩ |
    ⟨place, number, opened, led, done, change, found⟩
  · rw [failed]
    exact .inl ⟨failure, rfl⟩
  · rw [done]
    have there : opened.at? place.location = some (.file number []) := at?_of_entryAt found
    have written : opened.Change place.location (opened.writeAt number 0 bytes) :=
      .contents _ there
    have first : Changes (fun location => location = place.location) volume opened :=
      .single rfl change
    refine .inr ⟨place, _, led, rfl, first.step rfl written, ?_⟩
    obtain ⟨now, found', -⟩ := written.keeps.entryAt found
    have held : (opened.writeAt number 0 bytes).at? place.location = some (.file number bytes) := by
      rw [writeAt, at?_alterFile, there, Option.map_some, alterEntry, if_pos rfl,
        overwrite_nil_zero]
    obtain rfl := Option.some.inj ((at?_of_entryAt found').symm.trans held)
    rw [contentsAt, found']

/-! ## 2.  Folders on the way -/

/-- A place that was free in a volume and is on the way of a path in another one. -/
def Missing (volume after : Volume) (path : Path) (location : Location) : Prop :=
  volume.at? location = none ∧
    ∃ above : Path, above.segments <+: path.segments ∧ after.folderAt above = .ok location

theorem Missing.keeps {after later : Volume} {path : Path} {location : Location}
    (missing : volume.Missing after path location) (keeps : after.Keeps later) :
    volume.Missing later path location :=
  ⟨missing.1, missing.2.imp fun _ led => ⟨led.1, keeps.folderAt led.2⟩⟩

theorem Missing.further {after : Volume} {path longer : Path} {location : Location}
    (missing : volume.Missing after path location) (on : path.segments <+: longer.segments) :
    volume.Missing after longer location :=
  ⟨missing.1, missing.2.imp fun _ led => ⟨led.1.trans on, led.2⟩⟩

theorem exists_folderAt {path : Path} (there : volume.hasFolder path = true) :
    ∃ location, volume.folderAt path = .ok location := by
  unfold hasFolder at there
  cases led : volume.folderAt path with
  | error failure =>
    rw [led] at there
    cases there
  | ok location => exact ⟨location, rfl⟩

/-- **Folders that are there are not made.** -/
theorem makeFolders_of_folderAt {path : Path} {location : Location}
    (there : volume.folderAt path = .ok location) : volume.makeFolders path = (.ok (), volume) := by
  have led := place_eq_ok_iff.1 (entryAt_eq_ok_iff.1 (folderAt_eq_ok_iff.1 there))
  have kept : ∃ failure, volume.makeFolder path = .error failure := by
    unfold makeFolder
    rcases named : volume.place .name path with failure | ⟨location, entry⟩ | ⟨location, shut⟩
    · exact ⟨failure, rfl⟩
    · exact ⟨_, rfl⟩
    · -- a free name would be free for whoever follows links as well
      have free := ((place_eq_ok_iff.1 named).2.target (.inr ⟨_, _, rfl⟩))
      cases (follow_eq_ok_iff.2 led.2).symm.trans (follow_eq_ok_iff.2 free)
  obtain ⟨failure, kept⟩ := kept
  rw [makeFolders, if_neg (Bool.eq_false_iff.1 led.1.some_text), makeFoldersAlong, ensureFolder,
    kept, hasFolder, there]
  rfl

theorem changes_ensureFolder {path : Path} {after : Volume}
    (made : volume.ensureFolder path = .ok after) :
    Changes (volume.Missing after path) volume after ∧
      ∃ location, after.folderAt path = .ok location := by
  unfold ensureFolder at made
  split at made
  · rename_i new ok
    obtain rfl := Except.ok.inj made
    unfold makeFolder at ok
    split at ok
    · rename_i location shut led
      obtain rfl := Except.ok.inj ok
      obtain ⟨change, found⟩ := folder_of_place led
      have free : volume.Free location := holds_of_place led
      exact ⟨.single ⟨free.at?_eq_none, path, List.prefix_rfl, found⟩ change, location, found⟩
    · cases ok
    · cases ok
  · split at made
    · obtain rfl := Except.ok.inj made
      exact ⟨.refl _, exists_folderAt ‹_›⟩
    · cases made

/-- **Folders are made on the way of the path**, and nothing else is.  If that succeeds the path
leads to a folder. -/
theorem changes_makeFoldersAlong (volume : Volume) (path : Path) :
    Changes (volume.Missing (volume.makeFoldersAlong path).2 path) volume
        (volume.makeFoldersAlong path).2 ∧
      ((volume.makeFoldersAlong path).1 = .ok () →
        ∃ location, (volume.makeFoldersAlong path).2.folderAt path = .ok location) := by
  fun_induction volume.makeFoldersAlong path with
  | case1 path after made =>
    obtain ⟨changes, found⟩ := changes_ensureFolder made
    exact ⟨changes, fun _ => found⟩
  | case2 path _ _ => exact ⟨.refl _, fun made => by cases made⟩
  | case3 path _ parent above failure middle failed ih =>
    rw [failed] at ih
    obtain ⟨last, rest, segments⟩ := Path.exists_of_parent? above
    have on : parent.segments <+: path.segments := ⟨last :: rest, segments.symm⟩
    exact ⟨ih.1.mono fun _ missing => missing.further on, fun made => by cases made⟩
  | case4 path _ parent above middle done after made ih =>
    rw [done] at ih
    obtain ⟨last, rest, segments⟩ := Path.exists_of_parent? above
    have on : parent.segments <+: path.segments := ⟨last :: rest, segments.symm⟩
    obtain ⟨changes, found⟩ := changes_ensureFolder made
    have earlier := ih.1.mono fun _ missing => (missing.further on).keeps changes.keeps
    refine ⟨earlier.trans (changes.mono fun location missing => ⟨?_, missing.2⟩), fun _ => found⟩
    -- what is free later was free before
    refine Option.eq_none_iff_forall_ne_some.2 fun entry there => ?_
    obtain ⟨now, still, -⟩ := ih.1.keeps.at? location entry there
    cases missing.1.symm.trans still
  | case5 path _ parent above middle done failure failed ih =>
    rw [done] at ih
    obtain ⟨last, rest, segments⟩ := Path.exists_of_parent? above
    have on : parent.segments <+: path.segments := ⟨last :: rest, segments.symm⟩
    exact ⟨ih.1.mono fun _ missing => missing.further on, fun made => by cases made⟩
  | case6 path failure failed _ => exact ⟨.refl _, fun made => by cases made⟩

theorem changes_makeFolders (volume : Volume) (path : Path) :
    Changes (volume.Missing (volume.makeFolders path).2 path) volume (volume.makeFolders path).2 ∧
      (path.text.isEmpty = false → (volume.makeFolders path).1 = .ok () →
        ∃ location, (volume.makeFolders path).2.folderAt path = .ok location) := by
  unfold makeFolders
  split
  · rename_i empty
    exact ⟨.refl _, fun full => by rw [empty] at full; cases full⟩
  · exact ⟨(volume.changes_makeFoldersAlong path).1,
      fun _ => (volume.changes_makeFoldersAlong path).2⟩

/-- **Below a folder without links**, folders are made on the way down from it. -/
theorem changes_makeFolders_descend (sound : volume.Sound) {base : Path} {top : Location}
    (ends : base.EndsInName) (there : volume.folderAt base = .ok top)
    (unlinked : volume.Unlinked top) {names : List String}
    (proper : ∀ name ∈ names, Step.ofSegment name = .name name) :
    Changes (fun location => ∃ more, more ≠ [] ∧ more <+: names ∧ location = top ++ more) volume
      (volume.makeFolders (base.descend names)).2 := by
  have changes := (volume.changes_makeFolders (base.descend names)).1
  generalize (volume.makeFolders (base.descend names)).2 = after at changes ⊢
  refine changes.mono fun location missing => ?_
  obtain ⟨free, above, on, found⟩ := missing
  have notThere {other : Location} (folder : volume.folderAt ⟨above.segments⟩ = .ok other) :
      False := by
    cases (changes.keeps.folderAt folder).symm.trans found
    cases free.symm.trans (at?_of_folderAt folder)
  rw [ends.descend_eq] at on
  rcases List.prefix_or_prefix_of_prefix on (List.prefix_append _ _) with
    ⟨rest, front⟩ | ⟨more, front⟩
  · -- what the beginning of the base leads to was there
    by_cases whole : rest = []
    · subst whole
      rw [List.append_nil] at front
      exact (notThere (by rw [front]; exact there)).elim
    rw [folderAt_eq_ok_iff, entryAt_eq_ok_iff] at there
    have base_eq : base = ⟨above.segments ++ rest⟩ := by rw [front]
    rw [folderAt_eq_ok_iff, entryAt_eq_ok_iff, place_eq_ok_iff] at found
    rw [base_eq] at there
    rcases exists_leads_of_place sound.placed found.1 (ends.exists_name front.symm whole) there with
      ⟨other, -, folder, -⟩ | ⟨absolute, away⟩
    · exact (notThere folder).elim
    · rw [← changes.keeps.home] at away
      cases (found.2.outside_of absolute away).1
      cases free
  · have onward : more <+: names := by
      rw [← front] at on
      exact (List.prefix_append_right_inj _).1 on
    by_cases whole : more = []
    · subst whole
      rw [List.append_nil] at front
      exact (notThere (by rw [← front]; exact there)).elim
    refine ⟨more, whole, onward, ?_⟩
    have path : above = base.descend more := by rw [ends.descend_eq, front]
    rw [path, folderAt_eq_ok_iff, entryAt_eq_ok_iff] at found
    exact location_of_place (changes.sound sound) ends (changes.keeps.folderAt there)
      (changes.unlinked unlinked) whole (fun name member => proper name (onward.subset member))
      found

end Volume
end Files
end CoverageLink
