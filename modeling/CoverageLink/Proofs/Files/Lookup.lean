import CoverageLink.Files.Folder
import CoverageLink.Proofs.Files.Listing

/-!
# What a lookup depends on

Where a path leads depends on the tree of a volume alone: not on how many files were made
(`Volume.renumber`), and not on what lies elsewhere.

The lookups that succeed are described by a relation (`Volume.Leads`) with one rule for each thing
that can happen at a step.  It speaks of the table from places to entries and of nothing else, and
of the folder a lookup has come to it knows only the names that lead there.  That it describes
`Volume.follow` is proved once (`follow_eq_ok_iff`); everything else about lookups is an induction
on its rules.  Checks on the path itself (`Volume.Followable`) come first and are the same for all
volumes.

What does not get lost when a volume changes is stated as a law: where everything is still there
that was there, as what it was (`Volume.Keeps`), a path that led to an entry leads to the same one
(`Keeps.entryAt`).  A path that led to a free name or nowhere may of course lead somewhere now.
-/

namespace CoverageLink
namespace Files
namespace Volume

/-! ## The number of files made -/

/-- The volume with another number of files made. -/
def renumber (volume : Volume) (made : Nat) : Volume := { volume with made }

/-- Volumes with the same tree differ by a number at most. -/
theorem eq_renumber {volume other : Volume} (home : volume.home = other.home)
    (listing : volume.listing = other.listing) : volume = other.renumber volume.made := by
  cases volume
  cases other
  simp only at home listing
  subst home listing
  rfl

@[simp] theorem renumber_renumber (volume : Volume) (first made : Nat) :
    (volume.renumber first).renumber made = volume.renumber made := rfl

@[simp] theorem listing_renumber (volume : Volume) (made : Nat) :
    (volume.renumber made).listing = volume.listing := rfl

@[simp] theorem made_renumber (volume : Volume) (made : Nat) :
    (volume.renumber made).made = made := rfl

@[simp] theorem folderOf_renumber (volume : Volume) (made : Nat) (trail : List String) :
    (volume.renumber made).folderOf trail = volume.folderOf trail := rfl

@[simp] theorem departure_renumber (volume : Volume) (made : Nat) (here : Whereabouts)
    (path : Path) : (volume.renumber made).departure here path = volume.departure here path := rfl

@[simp] theorem erase_renumber (volume : Volume) (made : Nat) (location : Location) :
    (volume.renumber made).erase location = (volume.erase location).renumber made := rfl

@[simp] theorem follow_renumber (volume : Volume) (made : Nat) (aim : Aim) (links : Nat)
    (here : Whereabouts) (steps : List Step) (closed : Bool) :
    (volume.renumber made).follow aim links here steps closed =
      volume.follow aim links here steps closed := by
  fun_induction volume.follow aim links here steps closed <;>
    rw [follow] <;> grind [folderOf_renumber, departure_renumber]

@[simp] theorem place_renumber (volume : Volume) (made : Nat) (aim : Aim) (path : Path) :
    (volume.renumber made).place aim path = volume.place aim path := by
  simp only [place, folderOf_renumber, departure_renumber, follow_renumber]

@[simp] theorem entryAt_renumber (volume : Volume) (made : Nat) (path : Path) :
    (volume.renumber made).entryAt path = volume.entryAt path := by
  simp only [entryAt, place_renumber]

@[simp] theorem folderAt_renumber (volume : Volume) (made : Nat) (path : Path) :
    (volume.renumber made).folderAt path = volume.folderAt path := by
  simp only [folderAt, entryAt_renumber]

@[simp] theorem hasFolder_renumber (volume : Volume) (made : Nat) (path : Path) :
    (volume.renumber made).hasFolder path = volume.hasFolder path := by
  simp only [hasFolder, folderAt_renumber]

@[simp] theorem makeFolder_renumber (volume : Volume) (made : Nat) (path : Path) :
    (volume.renumber made).makeFolder path =
      (volume.makeFolder path).map fun made_folder => made_folder.renumber made := by
  unfold makeFolder
  rw [place_renumber]
  cases volume.place .name path with
  | error failure => rfl
  | ok place => cases place <;> rfl

@[simp] theorem ensureFolder_renumber (volume : Volume) (made : Nat) (path : Path) :
    (volume.renumber made).ensureFolder path =
      (volume.ensureFolder path).map fun ensured => ensured.renumber made := by
  unfold ensureFolder
  rw [makeFolder_renumber, hasFolder_renumber]
  cases volume.makeFolder path with
  | ok ensured => rfl
  | error failure => cases volume.hasFolder path <;> rfl

theorem makeFoldersAlong_renumber (volume : Volume) (made : Nat) (path : Path) :
    (volume.renumber made).makeFoldersAlong path =
      ((volume.makeFoldersAlong path).1, (volume.makeFoldersAlong path).2.renumber made) := by
  fun_induction volume.makeFoldersAlong path <;>
    rw [makeFoldersAlong] <;> grind [Except.map, ensureFolder_renumber]

@[simp] theorem makeFolders_renumber (volume : Volume) (made : Nat) (path : Path) :
    (volume.renumber made).makeFolders path =
      ((volume.makeFolders path).1, (volume.makeFolders path).2.renumber made) := by
  unfold makeFolders
  split
  · rfl
  · exact makeFoldersAlong_renumber volume made path

/-! ## Paths that lead somewhere -/

theorem at?_append_singleton (volume : Volume) (folder : Location) (name : String) :
    volume.at? (folder ++ [name]) =
      ((volume.listing.descend folder).find? name).map (·.1) := by
  have more : folder ++ [name] ≠ [] := by simp
  rw [at?, if_neg more, Listing.at?_append_singleton]

/-- Where a path starts, if it is read in a folder: the names that lead there, the last one
first. -/
def origin (volume : Volume) (trail : List String) (path : Path) : List String :=
  if volume.home.segments.isPrefixOf path.segments || path.isAbsolute then [] else trail

/-- The steps of a path from where it starts. -/
def route (volume : Volume) (path : Path) : List Step :=
  if volume.home.segments.isPrefixOf path.segments then
    Path.stepsOf (path.segments.drop volume.home.segments.length)
  else if path.isAbsolute then .up :: path.steps
  else path.steps

@[simp] theorem origin_nil (volume : Volume) (path : Path) : volume.origin [] path = [] := by
  rw [origin, ite_self]

/-- How a path is read depends on the home of the volume only. -/
theorem origin_congr {volume other : Volume} (home : other.home = volume.home) :
    other.origin = volume.origin := by
  funext trail path
  rw [origin, origin, home]

theorem route_congr {volume other : Volume} (home : other.home = volume.home) :
    other.route = volume.route := by
  funext path
  rw [route, route, home]

theorem departure_folderOf (volume : Volume) (trail : List String) (path : Path) :
    volume.departure (volume.folderOf trail) path =
      (volume.folderOf (volume.origin trail path), volume.route path) := by
  unfold departure origin route
  cases volume.home.segments.isPrefixOf path.segments <;> cases path.isAbsolute <;> rfl

/-- Whether a lookup looks at a name at all: it is not too long, and not the last one of a closed
path that is to lead to a file. -/
structure Passes (aim : Aim) (name : String) (rest : List Step) (closed : Bool) : Prop where
  loose : (rest.isEmpty && closed && aim = .file) = false
  short : name.utf8ByteSize ≤ maxName

/-- Steps lead from a folder, given by the names that lead there, to a place. -/
inductive Leads (volume : Volume) (aim : Aim) :
    (links : Nat) → (trail : List String) → List Step → (closed : Bool) → Place → Prop
  | here {links : Nat} {trail : List String} {closed : Bool} :
      Leads volume aim links trail [] closed (.found trail.reverse .folder)
  | stay {links : Nat} {trail : List String} {rest : List Step} {closed : Bool} {place : Place}
      (further : Leads volume aim links trail rest closed place) :
      Leads volume aim links trail (.stay :: rest) closed place
  | outside {links : Nat} {rest : List Step} {closed : Bool}
      (nameless : rest.all (·.name?.isNone) = true) :
      Leads volume aim links [] (.up :: rest) closed (.found [] .folder)
  | up {links : Nat} {last : String} {trail : List String} {rest : List Step} {closed : Bool}
      {place : Place} (further : Leads volume aim links trail rest closed place) :
      Leads volume aim links (last :: trail) (.up :: rest) closed place
  | free {links : Nat} {trail : List String} {name : String} {closed : Bool}
      (passes : Passes aim name [] closed) (free : volume.at? (trail.reverse ++ [name]) = none) :
      Leads volume aim links trail [.name name] closed (.vacant (trail.reverse ++ [name]) closed)
  | folder {links : Nat} {trail : List String} {name : String} {rest : List Step} {closed : Bool}
      {place : Place} (passes : Passes aim name rest closed)
      (there : volume.at? (trail.reverse ++ [name]) = some .folder)
      (further : Leads volume aim links (name :: trail) rest closed place) :
      Leads volume aim links trail (.name name :: rest) closed place
  | file {links : Nat} {trail : List String} {name : String} {closed : Bool} {number : Nat}
      {contents : Bytes} (passes : Passes aim name [] closed)
      (there : volume.at? (trail.reverse ++ [name]) = some (.file number contents))
      (fits : aim.insistsOnFolder closed = false) :
      Leads volume aim links trail [.name name] closed
        (.found (trail.reverse ++ [name]) (.file number contents))
  | link {links : Nat} {trail : List String} {name : String} {closed : Bool} {target : Path}
      (passes : Passes aim name [] closed)
      (there : volume.at? (trail.reverse ++ [name]) = some (.link target))
      (kept : aim.followsLink closed = false) :
      Leads volume aim links trail [.name name] closed
        (.found (trail.reverse ++ [name]) (.link target))
  | through {links : Nat} {trail : List String} {name : String} {rest : List Step} {closed : Bool}
      {target : Path} {place : Place} (passes : Passes aim name rest closed)
      (there : volume.at? (trail.reverse ++ [name]) = some (.link target))
      (followed : rest = [] → aim.followsLink closed = true)
      (further : Leads volume aim links (volume.origin trail target) (volume.route target ++ rest)
        (closed || rest.isEmpty && target.closed) place) :
      Leads volume aim (links + 1) trail (.name name :: rest) closed place

/-- What a name in a folder leads to is what the folder has under it. -/
theorem at?_locate (volume : Volume) (trail : List String) (name : String) :
    volume.at? (trail.reverse ++ [name]) =
      ((volume.folderOf trail).listing.find? name).map (·.1) :=
  at?_append_singleton volume trail.reverse name

theorem locate_folderOf (volume : Volume) (trail : List String) (name : String) :
    (volume.folderOf trail).locate name = trail.reverse ++ [name] := by
  rw [Whereabouts.locate, folderOf, List.reverse_cons]

/-- A lookup that succeeds goes by the rules. -/
theorem leads_of_follow {volume : Volume} {aim : Aim} {links : Nat} {trail : List String}
    {steps : List Step} {closed : Bool} {place : Place}
    (led : volume.follow aim links (volume.folderOf trail) steps closed = .ok place) :
    volume.Leads aim links trail steps closed place := by
  generalize start : volume.folderOf trail = here at led
  fun_induction volume.follow aim links here steps closed generalizing trail with
  | case1 links here closed =>
    subst start
    cases led
    exact .here
  | case2 links here closed rest ih => exact .stay (ih start led)
  | case3 links here closed rest top =>
    subst start
    obtain rfl : trail = [] := top
    unfold outside at led
    split at led
    · cases led
      exact .outside ‹_›
    · cases led
  | case4 links here closed rest last above up ih =>
    subst start
    obtain rfl : trail = last :: above := up
    exact .up (ih rfl led)
  | case7 links here closed name rest loose short free last =>
    subst start
    cases led
    obtain rfl := List.isEmpty_iff.1 last
    rw [locate_folderOf]
    exact .free ⟨Bool.eq_false_iff.2 loose, Nat.not_lt.1 short⟩ (by rw [at?_locate, free]; rfl)
  | case9 links here closed name rest loose short inside taken ih =>
    subst start
    exact .folder ⟨Bool.eq_false_iff.2 loose, Nat.not_lt.1 short⟩ (by rw [at?_locate, taken]; rfl)
      (ih (enter_folderOf taken).symm led)
  | case10 links here closed name rest loose short number contents inside taken last =>
    subst start
    cases led
    obtain ⟨last, fits⟩ := Bool.and_eq_true_iff.1 last
    obtain rfl := List.isEmpty_iff.1 last
    rw [locate_folderOf]
    exact .file ⟨Bool.eq_false_iff.2 loose, Nat.not_lt.1 short⟩ (by rw [at?_locate, taken]; rfl)
      (by simpa using fits)
  | case12 links here closed name rest loose short target inside taken last =>
    subst start
    cases led
    obtain ⟨last, kept⟩ := Bool.and_eq_true_iff.1 last
    obtain rfl := List.isEmpty_iff.1 last
    rw [locate_folderOf]
    exact .link ⟨Bool.eq_false_iff.2 loose, Nat.not_lt.1 short⟩ (by rw [at?_locate, taken]; rfl)
      (by simpa using kept)
  | case14 here closed name rest loose short target inside taken further links next steps
      depart ih =>
    subst start
    obtain ⟨rfl, rfl⟩ := Prod.mk.inj ((departure_folderOf _ _ _).symm.trans depart)
    refine .through ⟨Bool.eq_false_iff.2 loose, Nat.not_lt.1 short⟩ (by rw [at?_locate, taken]; rfl)
      ?_ (ih rfl led)
    rintro rfl
    simpa using further
  | case5 | case6 | case8 | case11 | case13 => cases led

/-- **The lookups that succeed are the ones that go by the rules.** -/
theorem follow_eq_ok_iff {volume : Volume} {aim : Aim} {links : Nat} {trail : List String}
    {steps : List Step} {closed : Bool} {place : Place} :
    volume.follow aim links (volume.folderOf trail) steps closed = .ok place ↔
      volume.Leads aim links trail steps closed place := by
  refine ⟨leads_of_follow, fun leads => ?_⟩
  -- what stands under a name, as the lookup sees it
  have row {trail : List String} {name : String} {entry : Entry}
      (there : volume.at? (trail.reverse ++ [name]) = some entry) :
      ∃ inside, (volume.folderOf trail).listing.find? name = some (entry, inside) := by
    rw [at?_locate, Option.map_eq_some_iff] at there
    obtain ⟨⟨_, inside⟩, found, rfl⟩ := there
    exact ⟨inside, found⟩
  induction leads with
  | here => rw [follow_nil]; rfl
  | stay _ ih => rwa [follow]
  | outside nameless =>
    rw [follow]
    simp only [folderOf]
    rw [outside, if_pos nameless]
  | up _ ih => rwa [follow]
  | free passes free =>
    rw [at?_locate, Option.map_eq_none_iff] at free
    rw [follow, if_neg (Bool.eq_false_iff.1 passes.loose), if_neg (Nat.not_lt.2 passes.short), free]
    simp only [List.isEmpty_nil, if_true, locate_folderOf]
  | folder passes there _ ih =>
    obtain ⟨inside, found⟩ := row there
    rw [follow, if_neg (Bool.eq_false_iff.1 passes.loose), if_neg (Nat.not_lt.2 passes.short),
      found]
    simp only
    rwa [enter_folderOf found]
  | file passes there fits =>
    obtain ⟨inside, found⟩ := row there
    rw [follow, if_neg (Bool.eq_false_iff.1 passes.loose), if_neg (Nat.not_lt.2 passes.short),
      found]
    simp [fits, locate_folderOf]
  | link passes there kept =>
    obtain ⟨inside, found⟩ := row there
    rw [follow, if_neg (Bool.eq_false_iff.1 passes.loose), if_neg (Nat.not_lt.2 passes.short),
      found]
    simp [kept, locate_folderOf]
  | @through links trail name rest closed target place passes there followed _ ih =>
    obtain ⟨inside, found⟩ := row there
    have further : ¬ (rest.isEmpty && !aim.followsLink closed) = true := by
      cases rest with
      | nil => simp [followed rfl]
      | cons => simp
    rw [follow, if_neg (Bool.eq_false_iff.1 passes.loose), if_neg (Nat.not_lt.2 passes.short),
      found]
    simp only
    rw [if_neg further, departure_folderOf]
    exact ih

/-- A path that is followed at all. -/
structure Followable (path : Path) : Prop where
  no_nul : path.text.toList.contains '\x00' = false
  some_text : path.text.isEmpty = false
  short : path.text.utf8ByteSize ≤ maxPath

instance (path : Path) : Decidable (Followable path) :=
  decidable_of_iff
    (path.text.toList.contains '\x00' = false ∧ path.text.isEmpty = false ∧
      path.text.utf8ByteSize ≤ maxPath)
    ⟨fun ⟨no_nul, some_text, short⟩ => ⟨no_nul, some_text, short⟩,
      fun ⟨no_nul, some_text, short⟩ => ⟨no_nul, some_text, short⟩⟩

/-- Where a path leads to a place, it is followed to that place. -/
theorem place_eq_ok_iff {volume : Volume} {aim : Aim} {path : Path} {place : Place} :
    volume.place aim path = .ok place ↔
      Followable path ∧ volume.Leads aim maxLinks [] (volume.route path) path.closed place := by
  rw [← follow_eq_ok_iff, Volume.place, departure_folderOf, origin_nil]
  by_cases nul : path.text.toList.contains '\x00' = true
  · simp only [nul, if_true, reduceCtorEq, false_iff]
    exact fun followed => absurd nul (by rw [followed.1.no_nul]; exact Bool.false_ne_true)
  by_cases empty : path.text.isEmpty = true
  · simp only [nul, empty, if_true, Bool.false_eq_true, if_false, reduceCtorEq, false_iff]
    exact fun followed => absurd empty (by rw [followed.1.some_text]; exact Bool.false_ne_true)
  by_cases long : maxPath < path.text.utf8ByteSize
  · simp only [nul, empty, long, if_true, Bool.false_eq_true, if_false, reduceCtorEq, false_iff]
    exact fun followed => absurd followed.1.short (Nat.not_le.2 long)
  have followable : Followable path :=
    ⟨Bool.eq_false_iff.2 nul, Bool.eq_false_iff.2 empty, Nat.not_lt.1 long⟩
  simp only [nul, empty, long, Bool.false_eq_true, if_false, followable, true_and]
  generalize volume.follow aim maxLinks (volume.folderOf []) (volume.route path) path.closed = led
  cases led <;> simp

theorem entryAt_eq_ok_iff {volume : Volume} {path : Path} {location : Location} {entry : Entry} :
    volume.entryAt path = .ok (location, entry) ↔
      volume.place .target path = .ok (.found location entry) := by
  unfold entryAt
  rcases volume.place .target path with refusal | ⟨location, entry⟩ | ⟨location, closed⟩ <;> simp

theorem folderAt_eq_ok_iff {volume : Volume} {path : Path} {location : Location} :
    volume.folderAt path = .ok location ↔ volume.entryAt path = .ok (location, .folder) := by
  unfold folderAt
  rcases volume.entryAt path with failure | ⟨location, entry⟩
  · simp
  · cases entry <;> simp

theorem contentsAt_eq_ok_iff {volume : Volume} {path : Path} {contents : Bytes} :
    volume.contentsAt path = .ok contents ↔
      ∃ location number, volume.entryAt path = .ok (location, .file number contents) := by
  unfold contentsAt
  rcases volume.entryAt path with failure | ⟨location, entry⟩
  · simp
  · cases entry <;> simp

/-! ## What a lookup finds is there -/

/-- Whatever has a name lies in a folder. -/
theorem folder_above {volume : Volume} {folder : Location} {name : String} {entry : Entry}
    (there : volume.at? (folder ++ [name]) = some entry) : volume.at? folder = some .folder := by
  have more : folder ++ [name] ≠ [] := by simp
  rw [at?, if_neg more] at there
  rcases volume.grounded.folder_above there with rfl | above
  · rfl
  · rw [at?]
    split
    · rfl
    · exact above

/-- A place for something new: it is free, and there is a folder for it. -/
def Free (volume : Volume) (location : Location) : Prop :=
  ∃ folder name, location = folder ++ [name] ∧ volume.at? folder = some .folder ∧
    volume.at? location = none

theorem Free.at?_eq_none {volume : Volume} {location : Location} (free : volume.Free location) :
    volume.at? location = none := by
  obtain ⟨_, _, -, -, none⟩ := free
  exact none

/-- What a place is in a volume. -/
def Holds (volume : Volume) : Place → Prop
  | .found location entry => volume.at? location = some entry
  | .vacant location _ => volume.Free location

/-- **What a lookup finds is there, and what it finds free is free.** -/
theorem Leads.holds {volume : Volume} {aim : Aim} {links : Nat} {trail : List String}
    {steps : List Step} {closed : Bool} {place : Place}
    (folder : volume.at? trail.reverse = some .folder)
    (leads : volume.Leads aim links trail steps closed place) : volume.Holds place := by
  induction leads with
  | here => exact folder
  | stay _ ih => exact ih folder
  | outside _ => exact at?_nil volume
  | up _ ih =>
    rw [List.reverse_cons] at folder
    exact ih (folder_above folder)
  | free _ free => exact ⟨_, _, rfl, folder, free⟩
  | folder _ there _ ih =>
    rw [List.reverse_cons] at ih
    exact ih there
  | file _ there _ => exact there
  | link _ there _ => exact there
  | @through _ trail _ _ _ target _ _ _ _ _ ih =>
    refine ih ?_
    rw [origin]
    split
    · exact at?_nil volume
    · exact folder

theorem holds_of_place {volume : Volume} {aim : Aim} {path : Path} {place : Place}
    (led : volume.place aim path = .ok place) : volume.Holds place := by
  have top : volume.at? ([] : List String).reverse = some .folder := at?_nil volume
  exact (place_eq_ok_iff.1 led).2.holds top

/-- **What a lookup names that is no link** it leads to as well. -/
theorem Leads.target_of_entry {volume : Volume} {links : Nat} {trail : List String}
    {steps : List Step} {closed : Bool} {place : Place}
    (leads : volume.Leads .entry links trail steps closed place)
    (straight : ∀ location target, place ≠ .found location (.link target)) :
    volume.Leads .target links trail steps closed place := by
  have passes {name : String} {rest : List Step} {closed : Bool}
      (passes : Passes .entry name rest closed) : Passes .target name rest closed :=
    ⟨by simp, passes.short⟩
  induction leads with
  | here => exact .here
  | stay _ ih => exact .stay (ih straight)
  | outside nameless => exact .outside nameless
  | up _ ih => exact .up (ih straight)
  | free named free => exact .free (passes named) free
  | folder named there _ ih => exact .folder (passes named) there (ih straight)
  | file named there fits => exact .file (passes named) there fits
  | link => exact absurd rfl (straight _ _)
  | through named there _ _ ih => exact .through (passes named) there (fun _ => rfl) (ih straight)

/-- A path leads to the file that it names. -/
theorem entryAt_of_place {volume : Volume} {path : Path} {location : Location} {number : Nat}
    {contents : Bytes}
    (there : volume.place .entry path = .ok (.found location (.file number contents))) :
    volume.entryAt path = .ok (location, .file number contents) := by
  obtain ⟨followable, leads⟩ := place_eq_ok_iff.1 there
  have straight : ∀ other target, Place.found location (.file number contents) ≠
      .found other (.link target) := fun _ _ same => by cases same
  exact entryAt_eq_ok_iff.2 (place_eq_ok_iff.2 ⟨followable, leads.target_of_entry straight⟩)

theorem at?_of_entryAt {volume : Volume} {path : Path} {location : Location} {entry : Entry}
    (found : volume.entryAt path = .ok (location, entry)) : volume.at? location = some entry :=
  holds_of_place (entryAt_eq_ok_iff.1 found)

theorem at?_of_folderAt {volume : Volume} {path : Path} {location : Location}
    (found : volume.folderAt path = .ok location) : volume.at? location = some .folder :=
  at?_of_entryAt (folderAt_eq_ok_iff.1 found)

end Volume

/-! ## More in the tree -/

/-- An entry without the contents of a file. -/
def Entry.bare : Entry → Entry
  | .file number _ => .file number []
  | entry => entry

namespace Entry

theorem eq_folder_of_bare {entry : Entry} (h : entry.bare = .folder) : entry = .folder := by
  cases entry with
  | folder => rfl
  | file _ _ => cases h
  | link _ => cases h

theorem eq_link_of_bare {entry : Entry} {target : Path} (h : entry.bare = .link target) :
    entry = .link target := by
  cases entry with
  | folder => cases h
  | file _ _ => cases h
  | link _ => exact h

theorem exists_contents_of_bare {entry : Entry} {number : Nat} {bytes : Bytes}
    (h : entry.bare = .file number bytes) : ∃ contents, entry = .file number contents := by
  cases entry with
  | folder => cases h
  | file _ contents =>
    obtain ⟨rfl, -⟩ := Entry.file.inj h
    exact ⟨contents, rfl⟩
  | link _ => cases h

end Entry

namespace Volume

/-- A volume in which everything is still there that another one has, as what it was: a folder is
a folder, a link the same link, and a file the file of its number. -/
structure Keeps (volume other : Volume) : Prop where
  home : other.home = volume.home
  at? : ∀ location entry, volume.at? location = some entry →
    ∃ now, other.at? location = some now ∧ now.bare = entry.bare

/-- A volume in which nothing is missing that another one has. -/
structure Extends (volume other : Volume) : Prop where
  home : other.home = volume.home
  at? : ∀ location entry, volume.at? location = some entry → other.at? location = some entry

namespace Keeps

variable {volume middle other : Volume}

theorem refl (volume : Volume) : volume.Keeps volume := ⟨rfl, fun _ entry h => ⟨entry, h, rfl⟩⟩

theorem trans (first : volume.Keeps middle) (second : middle.Keeps other) :
    volume.Keeps other where
  home := second.home.trans first.home
  at? := by
    intro location entry there
    obtain ⟨held, there, same⟩ := first.at? location entry there
    obtain ⟨now, there, same'⟩ := second.at? location held there
    exact ⟨now, there, same'.trans same⟩

/-- What is no folder does not become one. -/
theorem exists_file (keeps : volume.Keeps other) {location : Location}
    (there : ∃ entry, volume.at? location = some entry ∧ entry ≠ .folder) :
    ∃ entry, other.at? location = some entry ∧ entry ≠ .folder := by
  obtain ⟨entry, there, file⟩ := there
  obtain ⟨now, here, same⟩ := keeps.at? location entry there
  refine ⟨now, here, ?_⟩
  rintro rfl
  exact file (Entry.eq_folder_of_bare same.symm)

/-- **A lookup that finds an entry finds it in every volume that keeps it.** -/
theorem leads (keeps : volume.Keeps other) {aim : Aim} {links : Nat} {trail : List String}
    {steps : List Step} {closed : Bool} {location : Location} {entry : Entry}
    (led : volume.Leads aim links trail steps closed (.found location entry)) :
    ∃ now, other.Leads aim links trail steps closed (.found location now) ∧
      now.bare = entry.bare := by
  have origin := origin_congr keeps.home
  have route := route_congr keeps.home
  generalize goal : Place.found location entry = place at led
  induction led with
  | here =>
    cases goal
    exact ⟨.folder, .here, rfl⟩
  | stay _ ih =>
    obtain ⟨now, led, same⟩ := ih goal
    exact ⟨now, .stay led, same⟩
  | outside nameless =>
    cases goal
    exact ⟨.folder, .outside nameless, rfl⟩
  | up _ ih =>
    obtain ⟨now, led, same⟩ := ih goal
    exact ⟨now, .up led, same⟩
  | free _ _ => cases goal
  | folder passes there _ ih =>
    obtain ⟨held, there, kept⟩ := keeps.at? _ _ there
    rw [Entry.eq_folder_of_bare kept] at there
    obtain ⟨now, led, same⟩ := ih goal
    exact ⟨now, .folder passes there led, same⟩
  | file passes there fits =>
    cases goal
    obtain ⟨held, there, kept⟩ := keeps.at? _ _ there
    obtain ⟨contents, rfl⟩ := Entry.exists_contents_of_bare kept
    exact ⟨_, .file passes there fits, kept⟩
  | link passes there held =>
    cases goal
    obtain ⟨now, there, kept⟩ := keeps.at? _ _ there
    obtain rfl := Entry.eq_link_of_bare kept
    exact ⟨_, .link passes there held, rfl⟩
  | through passes there followed _ ih =>
    obtain ⟨held, there, kept⟩ := keeps.at? _ _ there
    rw [Entry.eq_link_of_bare kept] at there
    obtain ⟨now, led, same⟩ := ih goal
    refine ⟨now, .through passes there followed ?_, same⟩
    rwa [origin, route]

theorem place (keeps : volume.Keeps other) {aim : Aim} {path : Path} {location : Location}
    {entry : Entry} (found : volume.place aim path = .ok (.found location entry)) :
    ∃ now, other.place aim path = .ok (.found location now) ∧ now.bare = entry.bare := by
  obtain ⟨followable, led⟩ := place_eq_ok_iff.1 found
  obtain ⟨now, led, same⟩ := keeps.leads led
  rw [← route_congr keeps.home] at led
  exact ⟨now, place_eq_ok_iff.2 ⟨followable, led⟩, same⟩

theorem entryAt (keeps : volume.Keeps other) {path : Path} {location : Location} {entry : Entry}
    (found : volume.entryAt path = .ok (location, entry)) :
    ∃ now, other.entryAt path = .ok (location, now) ∧ now.bare = entry.bare := by
  obtain ⟨now, led, same⟩ := keeps.place (entryAt_eq_ok_iff.1 found)
  exact ⟨now, entryAt_eq_ok_iff.2 led, same⟩

theorem folderAt (keeps : volume.Keeps other) {path : Path} {location : Location}
    (found : volume.folderAt path = .ok location) : other.folderAt path = .ok location := by
  obtain ⟨now, led, same⟩ := keeps.entryAt (folderAt_eq_ok_iff.1 found)
  rw [Entry.eq_folder_of_bare same] at led
  exact folderAt_eq_ok_iff.2 led

end Keeps

namespace Extends

variable {volume other : Volume}

theorem keeps (h : volume.Extends other) : volume.Keeps other :=
  ⟨h.home, fun location entry there => ⟨entry, h.at? location entry there, rfl⟩⟩

theorem folderAt (h : volume.Extends other) {path : Path} {location : Location}
    (found : volume.folderAt path = .ok location) : other.folderAt path = .ok location :=
  h.keeps.folderAt found

end Extends

end Volume
end Files
end CoverageLink
