import CoverageLink.Proofs.Files.Making

/-!
# A file that is moved aside

A file is moved to a name beside it, and another one is made under its name.  Of the two paths only
the last pieces differ, so both are read alike up to a folder, and the two names are looked up there
(`place_beside`).

## 1.  The last piece of a path

What leads to anything but a folder ends with a name (`Names.of_place`), and so does a path that
leads to no folder, there or missing (`exists_names_of_place`).  The pieces above the name lead to a
folder, and only one (`Names.exists_walks`); the name is a free place there, or something is there,
or a link goes on from there (`Leads.cases_name`).

## 2.  Ways that are still there

A way depends on folders and links only.  Where they are the same it leads to the same folder
(`Walks.keeps_ways`), whatever became of the files.  A move does not keep the ways: it may put an
end to a link.  But it makes none, so the ways that are there after it were there before.

## 3.  Moving

A move is a removal at one place and a change at another one (`exists_of_moveFile`, `at?_moved`),
and a sound volume stays sound.

## 4.  One file after another

A file that lies under its own name, not at the end of a link, is still found there when it is
written on (`place_append`) or was opened for it (`place_openFile`), and beside its name after it
was moved.
-/

namespace CoverageLink
namespace Files

namespace Path

theorem extended_concat (above : List String) (name ending : String) :
    extended ⟨above ++ [name]⟩ ending = ⟨above ++ [name ++ ending]⟩ := by
  rw [extended, List.getLast?_concat, List.dropLast_concat]

theorem closed_concat {name : String} (full : name ≠ "") (above : List String) :
    closed ⟨above ++ [name]⟩ = false := by
  rw [closed, List.getLast?_concat]
  simpa using full

theorem isAbsolute_concat (above : List String) (name other : String) :
    isAbsolute ⟨above ++ [name]⟩ = isAbsolute ⟨above ++ [other]⟩ := by
  rcases above with _ | ⟨first, rest⟩
  · rw [List.nil_append, List.nil_append, isAbsolute_singleton, isAbsolute_singleton]
  · by_cases empty : first = ""
    · subst empty
      cases rest <;> rfl
    · rw [List.cons_append, List.cons_append, isAbsolute_eq_false empty,
        isAbsolute_eq_false empty]

end Path

namespace Volume

variable {volume other : Volume} {aim : Aim} {links left : Nat} {trail goal : List String}
  {closed : Bool} {above : List String} {name : String}

/-! ## 1.  The last piece of a path -/

/-- A closed path leads to a folder or to where one is missing. -/
theorem Leads.of_closed {steps : List Step} {place : Place}
    (led : volume.Leads aim links trail steps closed place) (shut : closed = true)
    (followed : aim ≠ .name) :
    (∃ location, place = .found location .folder) ∨ ∃ location, place = .vacant location true := by
  induction led with
  | here => exact .inl ⟨_, rfl⟩
  | outside _ => exact .inl ⟨_, rfl⟩
  | stay _ ih | up _ ih | folder _ _ _ ih => exact ih shut
  | free _ _ => exact .inr ⟨_, by rw [shut]⟩
  | file _ _ fits =>
    rw [shut] at fits
    simp [Aim.insistsOnFolder, followed] at fits
  | link _ _ kept =>
    rw [shut] at kept
    cases aim <;> first | exact absurd rfl followed | cases kept
  | through _ _ _ _ ih => exact ih (by rw [shut, Bool.true_or])

/-- Steps that lead to anything but a folder end with a name. -/
theorem Leads.getLast?_of_no_folder {steps : List Step} {place : Place}
    (led : volume.Leads aim links trail steps closed place)
    (no_folder : ∀ location, place ≠ .found location .folder) :
    ∃ name, steps.getLast? = some (.name name) := by
  -- what comes before the last step does not matter
  have further {step : Step} {rest : List Step} (last : ∃ name, rest.getLast? = some (.name name)) :
      ∃ name, (step :: rest).getLast? = some (.name name) := by
    obtain ⟨name, last⟩ := last
    exact ⟨name, by rw [List.getLast?_cons, last]; rfl⟩
  induction led with
  | here => exact absurd rfl (no_folder _)
  | outside _ => exact absurd rfl (no_folder _)
  | stay _ ih | up _ ih => exact further (ih no_folder)
  | free _ _ | file _ _ _ | link _ _ _ => exact ⟨_, rfl⟩
  | @folder _ _ name rest _ _ _ _ led ih => exact further (ih no_folder)
  | @through _ _ name rest _ target _ _ _ _ _ ih =>
    obtain ⟨last, same⟩ := ih no_folder
    rw [List.getLast?_append] at same
    rcases List.eq_nil_or_concat rest with rfl | ⟨front, step, rfl⟩
    · exact ⟨name, rfl⟩
    · rw [List.concat_eq_append] at same ⊢
      rw [List.getLast?_concat, Option.some_or] at same
      exact further ⟨last, by rw [List.getLast?_concat, same]⟩

/-- How the beginning of a path is read that goes on with one more piece. -/
def approach (volume : Volume) (above : List String) : List Step :=
  if volume.home.segments.isPrefixOf above then
    Path.stepsOf (above.drop volume.home.segments.length)
  else if Path.isAbsolute ⟨above ++ [""]⟩ then .up :: Path.stepsOf above
  else Path.stepsOf above

/-- **Paths that differ in their last pieces only are read alike up to there**, unless one of them
is the path of the top folder. -/
theorem route_concat (apart : volume.home.segments ≠ above ++ [name]) :
    volume.route ⟨above ++ [name]⟩ = volume.approach above ++ Path.stepsOf [name] := by
  rw [route, approach, Path.isAbsolute_concat above name ""]
  by_cases within : volume.home.segments.isPrefixOf above = true
  · have front := List.isPrefixOf_iff_prefix.1 within
    have whole : volume.home.segments.isPrefixOf (above ++ [name]) = true :=
      List.isPrefixOf_iff_prefix.2 (front.trans (List.prefix_append _ _))
    rw [if_pos within, if_pos whole, List.drop_append_of_le_length front.length_le,
      Path.stepsOf_append]
  · have none : ¬ volume.home.segments.isPrefixOf (above ++ [name]) = true := by
      intro whole
      rcases List.prefix_concat_iff.1 (List.isPrefixOf_iff_prefix.1 whole) with same | front
      · exact apart same
      · exact within (List.isPrefixOf_iff_prefix.2 front)
    rw [if_neg within, if_neg none, Path.steps, Path.stepsOf_append]
    split <;> rfl

theorem approach_congr (home : other.home = volume.home) : other.approach = volume.approach := by
  funext above
  rw [approach, approach, home]

/-- A path names an entry of a folder, which the pieces above its last one lead to. -/
structure Names (volume : Volume) (above : List String) (name : String) : Prop where
  followable : Followable ⟨above ++ [name]⟩
  route : volume.route ⟨above ++ [name]⟩ = volume.approach above ++ [.name name]
  full : name ≠ ""

namespace Names

/-- **What leads to anything but a folder ends with a name.** -/
theorem of_place {place : Place} (led : volume.place aim ⟨above ++ [name]⟩ = .ok place)
    (no_folder : ∀ location, place ≠ .found location .folder) (full : name ≠ "") :
    volume.Names above name := by
  obtain ⟨followable, led⟩ := place_eq_ok_iff.1 led
  obtain ⟨last, ends⟩ := led.getLast?_of_no_folder no_folder
  have apart : volume.home.segments ≠ above ++ [name] := by
    intro same
    have nothing : volume.route ⟨above ++ [name]⟩ = [] := by
      rw [Volume.route, ← same, if_pos (List.isPrefixOf_iff_prefix.2 List.prefix_rfl),
        List.drop_length]
      rfl
    rw [nothing] at ends
    cases ends
  have route := route_concat apart
  have single : Path.stepsOf [name] = [Step.ofSegment name] := by
    rw [Path.stepsOf, List.filter_cons, if_pos (by simpa using full)]
    rfl
  rw [route, single, List.getLast?_concat] at ends
  rw [single] at route
  have proper : Step.ofSegment name = .name name := by
    rw [Option.some.injEq] at ends
    unfold Step.ofSegment at ends ⊢
    split at ends
    · cases ends
    · split at ends
      · cases ends
      · rw [if_neg ‹_›, if_neg ‹_›]
  exact ⟨followable, by rw [route, proper], full⟩

theorem congr (names : volume.Names above name) (home : other.home = volume.home) :
    other.Names above name where
  followable := names.followable
  route := by rw [route_congr home, approach_congr home, names.route]
  full := names.full

/-- The name is looked up in the folder that the pieces above it lead to. -/
theorem exists_walks (names : volume.Names above name) {place : Place}
    (led : volume.place aim ⟨above ++ [name]⟩ = .ok place) :
    ∃ left goal, volume.Walks maxLinks [] (volume.approach above) left goal ∧
      volume.Leads aim left goal [.name name] false place := by
  obtain ⟨-, led⟩ := place_eq_ok_iff.1 led
  rw [names.route, Path.closed_concat names.full] at led
  exact led.exists_walks ⟨name, List.mem_singleton_self _⟩

/-- Whatever the name leads to from there, the path leads to. -/
theorem place_of_walks (names : volume.Names above name)
    (walks : volume.Walks maxLinks [] (volume.approach above) left goal) {place : Place}
    (led : volume.Leads aim left goal [.name name] false place) :
    volume.place aim ⟨above ++ [name]⟩ = .ok place := by
  refine place_eq_ok_iff.2 ⟨names.followable, ?_⟩
  rw [names.route, Path.closed_concat names.full]
  exact walks.append (List.cons_ne_nil _ _) led

end Names

/-- **What a name leads to**: a free place, what is there, or whatever a link leads to. -/
theorem Leads.cases_name {place : Place}
    (led : volume.Leads aim left goal [.name name] false place) :
    name.utf8ByteSize ≤ maxName ∧
      (place = .vacant (goal.reverse ++ [name]) false ∧
          volume.at? (goal.reverse ++ [name]) = none ∨
        (∃ entry, place = .found (goal.reverse ++ [name]) entry ∧
          volume.at? (goal.reverse ++ [name]) = some entry) ∨
        ∃ target, volume.at? (goal.reverse ++ [name]) = some (.link target) ∧
          aim.followsLink false = true) := by
  cases led with
  | free passes none => exact ⟨passes.short, .inl ⟨rfl, none⟩⟩
  | folder passes there further =>
    cases further with
    | here => exact ⟨passes.short, .inr (.inl ⟨.folder, by rw [List.reverse_cons], there⟩)⟩
  | file passes there _ => exact ⟨passes.short, .inr (.inl ⟨_, rfl, there⟩)⟩
  | link passes there _ => exact ⟨passes.short, .inr (.inl ⟨_, rfl, there⟩)⟩
  | through passes there followed _ =>
    exact ⟨passes.short, .inr (.inr ⟨_, there, followed rfl⟩)⟩

theorem Leads.of_file {number : Nat} {contents : Bytes} (short : name.utf8ByteSize ≤ maxName)
    (there : volume.at? (goal.reverse ++ [name]) = some (.file number contents)) :
    volume.Leads aim left goal [.name name] false
      (.found (goal.reverse ++ [name]) (.file number contents)) :=
  .file ⟨by simp, short⟩ there rfl

/-- **The last piece of a path is a name** if it leads to no folder, there or missing. -/
theorem exists_names_of_place {path : Path} {place : Place}
    (led : volume.place aim path = .ok place) (followed : aim ≠ .name)
    (no_folder : ∀ location, place ≠ .found location .folder ∧ place ≠ .vacant location true) :
    ∃ above name, path = ⟨above ++ [name]⟩ ∧ volume.Names above name := by
  obtain ⟨followable, leads⟩ := place_eq_ok_iff.1 led
  obtain ⟨segments⟩ := path
  rcases List.eq_nil_or_concat segments with rfl | ⟨above, name, rfl⟩
  · cases followable.some_text
  rw [List.concat_eq_append] at led leads ⊢
  refine ⟨above, name, rfl, .of_place led (fun location => (no_folder location).1) ?_⟩
  rintro rfl
  have shut : Path.closed ⟨above ++ [""]⟩ = true := by simp [Path.closed]
  rcases leads.of_closed shut followed with ⟨location, same⟩ | ⟨location, same⟩
  · exact (no_folder location).1 same
  · exact (no_folder location).2 same

/-- **A file that lies under its own name**, where no link is followed. -/
theorem exists_names_of_file {path : Path} {location : Location} {number : Nat} {contents : Bytes}
    (there : volume.place .entry path = .ok (.found location (.file number contents))) :
    ∃ above name left goal, path = ⟨above ++ [name]⟩ ∧ volume.Names above name ∧
      volume.Walks maxLinks [] (volume.approach above) left goal ∧ name.utf8ByteSize ≤ maxName ∧
      location = goal.reverse ++ [name] := by
  obtain ⟨above, name, rfl, names⟩ := exists_names_of_place there (by decide) (by simp)
  obtain ⟨left, goal, walks, led⟩ := names.exists_walks there
  obtain ⟨short, ⟨vacant, -⟩ | ⟨entry, found, -⟩ | ⟨target, -, followed⟩⟩ := led.cases_name
  · cases vacant
  · exact ⟨above, name, left, goal, rfl, names, walks, short, (Place.found.inj found).1⟩
  · cases followed

/-! ## 2.  Ways that are still there -/

/-- A volume in which the folders and links of another one are still there. -/
structure KeepsWays (volume other : Volume) : Prop where
  home : other.home = volume.home
  folder : ∀ location, volume.at? location = some .folder → other.at? location = some .folder
  link : ∀ location target, volume.at? location = some (.link target) →
    other.at? location = some (.link target)

/-- Where the folders and links are the same, steps lead to the same folder. -/
theorem Walks.keeps_ways (ways : volume.KeepsWays other) {steps : List Step}
    (walks : volume.Walks links trail steps left goal) :
    other.Walks links trail steps left goal := by
  induction walks with
  | here => exact .here
  | stay _ ih => exact .stay ih
  | up _ ih => exact .up ih
  | folder short there _ ih => exact .folder short (ways.folder _ there) ih
  | through short there _ ih =>
    refine .through short (ways.link _ _ there) ?_
    rwa [origin_congr ways.home, route_congr ways.home]

/-- A path is read alike there, and what its last name leads to is what the path leads to. -/
theorem Names.place_of_ways (names : volume.Names above name) (ways : volume.KeepsWays other)
    (walks : volume.Walks maxLinks [] (volume.approach above) left goal) {place : Place}
    (led : other.Leads aim left goal [.name name] false place) :
    other.place aim ⟨above ++ [name]⟩ = .ok place := by
  have walks' := walks.keeps_ways ways
  rw [← approach_congr ways.home] at walks'
  exact (names.congr ways.home).place_of_walks walks' led

theorem Keeps.ways (keeps : volume.Keeps other) : volume.KeepsWays other where
  home := keeps.home
  folder := by
    intro location there
    obtain ⟨now, here, same⟩ := keeps.at? _ _ there
    rwa [Entry.eq_folder_of_bare same] at here
  link := by
    intro location target there
    obtain ⟨now, here, same⟩ := keeps.at? _ _ there
    rwa [Entry.eq_link_of_bare same] at here

/-! ## 3.  Moving -/

/-- **What is moved**, and where to. -/
theorem exists_of_moveFile {source target : Path} {moved : Volume}
    (done : volume.moveFile source target = .ok moved) :
    ∃ old entry place, volume.place .entry source = .ok (.found old entry) ∧ entry ≠ .folder ∧
      volume.place .entry target = .ok place ∧ (∀ location, place ≠ .found location .folder) ∧
      moved = if old = place.location then volume
        else (volume.erase old).put place.location entry := by
  unfold moveFile at done
  rcases first : volume.place .entry source with failure | ⟨old, entry⟩ | ⟨old, shut⟩ <;>
    rcases second : volume.place .entry target with failure' | ⟨new, held⟩ | ⟨new, _ | _⟩ <;>
    rw [first, second] at done
  case ok.found.ok.found =>
    cases entry with
    | folder => cases done
    | file number contents =>
      cases held with
      | folder => cases done
      | _ => exact ⟨old, _, _, rfl, nofun, rfl, nofun, (Except.ok.inj done).symm⟩
    | link aim =>
      cases held with
      | folder => cases done
      | _ => exact ⟨old, _, _, rfl, nofun, rfl, nofun, (Except.ok.inj done).symm⟩
  case ok.found.ok.vacant.false =>
    cases entry with
    | folder => cases done
    | _ => exact ⟨old, _, _, rfl, nofun, rfl, nofun, (Except.ok.inj done).symm⟩
  case ok.found.error | ok.found.ok.vacant.true => cases entry <;> cases done
  all_goals cases done

section Moved

variable {old new : Location} {entry : Entry}

/-- What was at the one place is at the other one. -/
theorem at?_moved (there : volume.at? old = some entry) (no_folder : entry ≠ .folder)
    (leaf : volume.Leaf new) (location : Location) :
    ((volume.erase old).put new entry).at? location =
      if location = new then some entry else if location = old then none
        else volume.at? location := by
  have erased := (leaf_of_at? there no_folder).at?_erase
  have leaf' : (volume.erase old).Leaf new := by
    obtain ⟨folder, name, rfl, above, free⟩ := leaf
    refine ⟨folder, name, rfl, ?_, ?_⟩
    · rw [erased, if_neg, above]
      rintro rfl
      exact no_folder (Option.some.inj (there.symm.trans above))
    · rw [erased]
      split
      · exact nofun
      · exact free
  rw [leaf'.at?_put, erased]

/-- The ways that are there now were there before. -/
theorem keepsWays_of_moved {number : Nat} {contents : Bytes}
    (there : volume.at? old = some (.file number contents)) (leaf : volume.Leaf new) :
    ((volume.erase old).put new (.file number contents)).KeepsWays volume := by
  have moved := at?_moved there nofun leaf
  refine ⟨rfl, ?_, ?_⟩
  · intro location folder
    rw [moved] at folder
    split at folder
    · cases folder
    · split at folder
      · cases folder
      · exact folder
  · intro location target link
    rw [moved] at link
    split at link
    · cases link
    · split at link
      · cases link
      · exact link

theorem Sound.moved (sound : volume.Sound) {number : Nat} {contents : Bytes}
    (there : volume.at? old = some (.file number contents)) (leaf : volume.Leaf new) :
    ((volume.erase old).put new (.file number contents)).Sound := by
  have moved := at?_moved there nofun leaf
  -- a file that is there now was there before, at another place if it is the one that was moved
  have origin {location : Location} {other : Nat} {contents' : Bytes}
      (here : ((volume.erase old).put new (.file number contents)).at? location =
        some (.file other contents')) :
      ∃ before, volume.at? before = some (.file other contents') ∧
        (location = new ∧ before = old ∨ location ≠ old ∧ before = location) := by
    rw [moved] at here
    split at here
    · rename_i same
      exact ⟨old, there.trans here, .inl ⟨same, rfl⟩⟩
    · split at here
      · cases here
      · exact ⟨location, here, .inr ⟨‹_›, rfl⟩⟩
  refine ⟨sound.placed, ?_, ?_⟩
  · intro location other contents' here
    obtain ⟨before, held, -⟩ := origin here
    exact sound.below _ _ _ held
  · intro location location' other contents' contents'' here here'
    obtain ⟨before, held, came⟩ := origin here
    obtain ⟨before', held', came'⟩ := origin here'
    have same := sound.single _ _ _ _ _ held held'
    rcases came with ⟨rfl, rfl⟩ | ⟨stayed, rfl⟩ <;> rcases came' with ⟨rfl, rfl⟩ | ⟨stayed', rfl⟩
    · rfl
    · exact absurd same.symm stayed'
    · exact absurd same stayed
    · exact same

end Moved

/-- A file is moved to a name that is free. -/
theorem moveFile_of_vacant {source target : Path} {old new : Location} {number : Nat}
    {contents : Bytes}
    (there : volume.place .entry source = .ok (.found old (.file number contents)))
    (free : volume.place .entry target = .ok (.vacant new false)) :
    ∃ moved, volume.moveFile source target = .ok moved := by
  rw [moveFile, there, free]
  exact ⟨_, rfl⟩

/-! ## 4.  One file after another -/

/-- **A file that is written on where it ends**, if it lies under its own name. -/
theorem place_append (sound : volume.Sound) {path : Path} {location : Location} {number : Nat}
    {contents : Bytes}
    (there : volume.place .entry path = .ok (.found location (.file number contents)))
    (bytes : Bytes) :
    (volume.append number bytes).Sound ∧
      (volume.append number bytes).place .entry path =
        .ok (.found location (.file number (contents ++ bytes))) ∧
      ∀ path location number' contents', number' ≠ number →
        volume.entryAt path = .ok (location, .file number' contents') →
        (volume.append number bytes).entryAt path = .ok (location, .file number' contents') := by
  have held : volume.at? location = some (.file number contents) := holds_of_place there
  have change : volume.Change location (volume.append number bytes) := .contents _ held
  refine ⟨change.sound sound, ?_, ?_⟩
  · obtain ⟨now, led, -⟩ := change.keeps.place there
    have written : (volume.append number bytes).at? location =
        some (.file number (contents ++ bytes)) := by
      rw [append, at?_alterFile, held, Option.map_some, alterEntry, if_pos rfl]
    have here : (volume.append number bytes).at? location = some now := holds_of_place led
    rwa [Option.some.inj (here.symm.trans written)] at led
  · intro path location' number' contents' other found
    obtain ⟨now, found', -⟩ := change.keeps.entryAt found
    have different : location' ≠ location := by
      rintro rfl
      obtain ⟨same, -⟩ := Entry.file.inj (Option.some.inj ((at?_of_entryAt found).symm.trans held))
      exact other same
    have same := change.at?_of_ne sound different
    rw [at?_of_entryAt found, at?_of_entryAt found'] at same
    rwa [Option.some.inj same] at found'

/-- **A file that is opened to be written on**: it is the one that was there, or it is a new one. -/
theorem place_openFile (sound : volume.Sound) {path : Path}
    (plain : ∀ location target, volume.place .entry path ≠ .ok (.found location (.link target)))
    {number size : Nat} {after : Volume}
    (opened : volume.openFile .kept path = (.ok (number, size), after)) :
    after.Sound ∧ size = ((volume.contentsAt path).toOption.getD []).length ∧
      ∃ location, after.place .entry path =
        .ok (.found location (.file number ((volume.contentsAt path).toOption.getD []))) := by
  obtain ⟨place, led, no_folder⟩ : ∃ place, volume.place .file path = .ok place ∧
      ∀ location, place ≠ .found location .folder := by
    rcases led : volume.place .file path with failure | place
    · rw [openFile, led] at opened
      cases opened
    · refine ⟨place, rfl, ?_⟩
      rintro location rfl
      rw [openFile, led] at opened
      cases opened
  have loose (location : Location) : place ≠ .vacant location true :=
    fun same => nomatch (place_eq_ok_iff.1 led).2.open_of_file same
  obtain ⟨above, name, rfl, names⟩ := exists_names_of_place led (by decide)
    fun location => ⟨no_folder location, loose location⟩
  obtain ⟨left, goal, walks, leads⟩ := names.exists_walks led
  obtain ⟨short, ⟨rfl, free⟩ | ⟨entry, rfl, there⟩ | ⟨target, there, -⟩⟩ := leads.cases_name
  · -- the name is free, so there are no contents and a file is made
    rw [openFile, led] at opened
    obtain ⟨same, rfl⟩ := Prod.mk.inj opened
    obtain ⟨rfl, rfl⟩ := Prod.mk.inj (Except.ok.inj same)
    have nothing : volume.contentsAt ⟨above ++ [name]⟩ = .error (.host .noEntry) := by
      have missed : volume.place .target ⟨above ++ [name]⟩ = .ok (.vacant _ false) :=
        names.place_of_walks walks (.free ⟨by simp, short⟩ free)
      rw [contentsAt, entryAt, missed]
    have change : volume.Change (goal.reverse ++ [name])
        (volume.putFile (goal.reverse ++ [name])) := .file (holds_of_place led)
    have made : (volume.putFile (goal.reverse ++ [name])).at? (goal.reverse ++ [name]) =
        some (.file volume.made []) := (at?_put (holds_of_place led) _ _).trans (if_pos rfl)
    rw [nothing]
    exact ⟨change.sound sound, rfl, _, names.place_of_ways change.keeps.ways walks
      (.of_file short made)⟩
  · cases entry with
    | folder => exact absurd rfl (no_folder _)
    | link target =>
      rw [openFile, led] at opened
      cases opened
    | file other contents =>
      rw [openFile, led] at opened
      obtain ⟨same, rfl⟩ := Prod.mk.inj opened
      obtain ⟨rfl, rfl⟩ := Prod.mk.inj (Except.ok.inj same)
      have found : volume.place .entry ⟨above ++ [name]⟩ = .ok (.found _ (.file other contents)) :=
        names.place_of_walks walks (.of_file short there)
      have contents_eq : volume.contentsAt ⟨above ++ [name]⟩ = .ok contents :=
        contentsAt_eq_ok_iff.2 ⟨_, _, entryAt_of_place found⟩
      rw [contents_eq]
      exact ⟨sound, rfl, _, found⟩
  · exact absurd (names.place_of_walks walks (.link ⟨by simp, short⟩ there rfl)) (plain _ _)

/-- **Where a file is moved to** that is moved beside: to a name in the same folder. -/
theorem exists_of_moveFile_beside {above : List String} {name ending : String}
    (some_ending : ending ≠ "") (walks : volume.Walks maxLinks [] (volume.approach above) left goal)
    {number : Nat} {contents : Bytes}
    (there : volume.place .entry ⟨above ++ [name]⟩ =
      .ok (.found (goal.reverse ++ [name]) (.file number contents)))
    {moved : Volume}
    (done : volume.moveFile ⟨above ++ [name]⟩ ⟨above ++ [name ++ ending]⟩ = .ok moved) :
    volume.Names above (name ++ ending) ∧ (name ++ ending).utf8ByteSize ≤ maxName ∧
      volume.Leaf (goal.reverse ++ [name ++ ending]) ∧
      goal.reverse ++ [name] ≠ goal.reverse ++ [name ++ ending] ∧
      moved = (volume.erase (goal.reverse ++ [name])).put (goal.reverse ++ [name ++ ending])
        (.file number contents) := by
  obtain ⟨old, entry, place, source, -, led, no_folder, moved_eq⟩ := exists_of_moveFile done
  obtain ⟨rfl, rfl⟩ := Place.found.inj (Except.ok.inj (source.symm.trans there))
  have full : name ++ ending ≠ "" := by simp [some_ending]
  have names := Names.of_place led no_folder full
  obtain ⟨_, goal', walks', leads⟩ := names.exists_walks led
  obtain rfl := walks.unique walks'
  have apart : goal.reverse ++ [name] ≠ goal.reverse ++ [name ++ ending] := by
    intro same
    have same' := (List.cons.inj (List.append_cancel_left same)).1
    exact some_ending (String.append_eq_left_iff.1 same'.symm)
  obtain ⟨short, ⟨rfl, -⟩ | ⟨held, rfl, here⟩ | ⟨_, -, followed⟩⟩ := leads.cases_name
  · have free : volume.Free (goal.reverse ++ [name ++ ending]) := holds_of_place led
    exact ⟨names, short, free.leaf, apart, moved_eq.trans (if_neg apart)⟩
  · have leaf := leaf_of_at? here fun folder => no_folder _ (by rw [folder])
    exact ⟨names, short, leaf, apart, moved_eq.trans (if_neg apart)⟩
  · cases followed

/-- **A file that is moved beside and begun again**: what it held is found there, and under its own
name there is another file, which is empty. -/
theorem place_beside (sound : volume.Sound) {path : Path} {location : Location} {number : Nat}
    {contents : Bytes} {ending : String} (some_ending : ending ≠ "")
    (there : volume.place .entry path = .ok (.found location (.file number contents)))
    {moved after : Volume} (done : volume.moveFile path (path.extended ending) = .ok moved)
    {number' size : Nat} (begun : moved.openFile .emptied path = (.ok (number', size), after)) :
    after.Sound ∧ number ≠ number' ∧
      after.place .entry path = .ok (.found location (.file number' [])) ∧
      ∃ beside, after.entryAt (path.extended ending) = .ok (beside, .file number contents) := by
  have held : volume.at? location = some (.file number contents) := holds_of_place there
  obtain ⟨above, name, left, goal, rfl, names, walks, short, rfl⟩ := exists_names_of_file there
  rw [Path.extended_concat] at done ⊢
  obtain ⟨names', short', leaf, apart, moved_eq⟩ :=
    exists_of_moveFile_beside some_ending walks there done
  have at_moved := at?_moved held nofun leaf
  have sound_moved := sound.moved held leaf
  have back := keepsWays_of_moved held leaf
  rw [← moved_eq] at at_moved sound_moved back
  have gone : moved.at? (goal.reverse ++ [name]) = none := by
    rw [at_moved, if_neg apart, if_pos rfl]
  have beside : moved.at? (goal.reverse ++ [name ++ ending]) = some (.file number contents) := by
    rw [at_moved, if_pos rfl]
  -- where the other file is made
  rcases openFile_emptied moved ⟨above ++ [name]⟩ with ⟨failure, failed⟩ |
    ⟨place, _, _, led, opened, change, found⟩
  · cases failed.symm.trans begun
  obtain ⟨same, rfl⟩ := Prod.mk.inj (opened.symm.trans begun)
  obtain ⟨rfl, rfl⟩ := Prod.mk.inj (Except.ok.inj same)
  have names_moved := names.congr back.home.symm
  have names_moved' := names'.congr back.home.symm
  obtain ⟨left', goal', walks_moved, leads⟩ := names_moved.exists_walks led
  obtain rfl : goal = goal' := by
    have walks' := walks_moved.keeps_ways back
    rw [approach_congr back.home.symm] at walks'
    exact walks.unique walks'
  obtain ⟨-, ⟨rfl, -⟩ | ⟨entry, -, here⟩ | ⟨link, here, -⟩⟩ := leads.cases_name
  · have emptied := at?_of_entryAt found
    have kept := (change.at?_of_ne sound_moved (Ne.symm apart)).trans beside
    have sound_after := change.sound sound_moved
    refine ⟨sound_after, ?_, ?_, goal.reverse ++ [name ++ ending], ?_⟩
    · rintro rfl
      exact apart (sound_after.single _ _ _ _ _ emptied kept)
    · exact names_moved.place_of_ways change.keeps.ways walks_moved (.of_file short emptied)
    · exact entryAt_of_place
        (names_moved'.place_of_ways change.keeps.ways walks_moved (.of_file short' kept))
  · cases gone.symm.trans here
  · cases gone.symm.trans here

/-- Where there are no links no path leads to one. -/
theorem Unlinked.place_ne_link (unlinked : volume.Unlinked []) (path : Path) (location : Location)
    (target : Path) : volume.place aim path ≠ .ok (.found location (.link target)) := by
  intro led
  have there : volume.at? location = some (.link target) := holds_of_place led
  by_cases top : location = []
  · subst top
    cases there
  · exact unlinked location target top there

/-- **The other file can always be made where there are no links**: a link beside the file could be
on the way to it, and would be gone. -/
theorem exists_openFile_of_beside (unlinked : volume.Unlinked []) {path : Path}
    {location : Location} {number : Nat} {contents : Bytes} {ending : String}
    (some_ending : ending ≠ "")
    (there : volume.place .entry path = .ok (.found location (.file number contents)))
    {moved : Volume} (done : volume.moveFile path (path.extended ending) = .ok moved) :
    ∃ opened after, moved.openFile .emptied path = (.ok opened, after) := by
  have held : volume.at? location = some (.file number contents) := holds_of_place there
  obtain ⟨above, name, left, goal, rfl, names, walks, short, rfl⟩ := exists_names_of_file there
  rw [Path.extended_concat] at done
  obtain ⟨-, -, leaf, apart, rfl⟩ := exists_of_moveFile_beside some_ending walks there done
  have at_moved := at?_moved held nofun leaf
  have ways : volume.KeepsWays ((volume.erase (goal.reverse ++ [name])).put
      (goal.reverse ++ [name ++ ending]) (.file number contents)) := by
    refine ⟨rfl, ?_, ?_⟩
    · intro place folder
      rw [at_moved, if_neg, if_neg, folder]
      · rintro rfl
        cases held.symm.trans folder
      · rintro rfl
        obtain ⟨_, _, -, -, no_folder⟩ := leaf
        exact no_folder folder
    · intro place target link
      by_cases top : place = []
      · subst top
        cases link
      · exact absurd link (unlinked place target top)
  have free : ((volume.erase (goal.reverse ++ [name])).put (goal.reverse ++ [name ++ ending])
      (.file number contents)).at? (goal.reverse ++ [name]) = none := by
    rw [at_moved, if_neg apart, if_pos rfl]
  have led : Volume.place _ .file ⟨above ++ [name]⟩ = .ok (.vacant _ false) :=
    names.place_of_ways ways walks (.free ⟨by simp, short⟩ free)
  rw [openFile, led]
  exact ⟨_, _, rfl⟩

end Volume
end Files
end CoverageLink
