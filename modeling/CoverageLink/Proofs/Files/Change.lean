import CoverageLink.Files.Stream
import CoverageLink.Proofs.Files.Scratch

/-!
# What a change to a volume leaves alone

Whoever keeps things in a volume makes folders and files at places that are free, and writes to
files that are there.  Each of these is a change at *one* place (`Volume.Change`), and a run of
them is a list of changes at places of a certain kind (`Volume.Changes`).  What such a run leaves
alone is said here once, for all who make one.

## 1.  The tree after a change

What a change makes of the table from places to entries is said here for what is put at a place
(`Leaf.at?_put`), erased (`Leaf.at?_erase`) or changed in a file (`at?_alterFile`).

## 2.  Frames

Every place that is not changed keeps its entry (`Changes.at?_of_not`).  That is not a matter of
course for what is written to files: a writer holds on to the number of a file, so the number must
belong to one place only.  `Volume.Sound` says so; it holds of an empty volume and is kept by
every change.

A place that *is* changed keeps what it is (`Changes.keeps`), so where a path leads does not change
either.  And no links are made (`Changes.link_of_at?`).
-/

namespace CoverageLink
namespace Files

/-! ## 1.  The tree after a change -/

namespace Listing

theorem find?_map (change : Entry → Entry) (listing : Listing) (name : String) :
    (listing.map change).find? name =
      (listing.find? name).map fun row => (change row.1, row.2.map change) := by
  induction listing with
  | nil => rfl
  | cons held entry inside others _ ih =>
    rw [map, find?, find?]
    split
    · rfl
    · exact ih

theorem at?_map (change : Entry → Entry) (listing : Listing) (location : Location) :
    (listing.map change).at? location = (listing.at? location).map change := by
  induction location generalizing listing with
  | nil => rfl
  | cons name names ih =>
    rw [at?_cons, at?_cons, find?_map]
    cases listing.find? name with
    | none => rfl
    | some row =>
      by_cases last : names = []
      · simp [last]
      · simp [last, ih]

/-- What is no folder has nothing inside. -/
theorem Grounded.inside_of_leaf {listing inside : Listing} (grounded : listing.Grounded)
    {name : String} {entry : Entry} (leaf : (listing.find? name).map (·.1) ≠ some .folder)
    (found : listing.find? name = some (entry, inside)) : inside = nil := by
  refine (grounded.find? found).1.resolve_left ?_
  rintro rfl
  rw [found] at leaf
  exact leaf rfl

/-- An entry that is put under a name of a folder that is no folder itself, or under a free one,
appears there, and nothing else happens. -/
theorem at?_put {listing : Listing} (grounded : listing.Grounded) {folder : Location}
    {name : String} (exists_folder : folder = [] ∨ listing.at? folder = some .folder)
    (leaf : ((listing.descend folder).find? name).map (·.1) ≠ some .folder) (entry : Entry)
    (location : Location) :
    (listing.put entry (folder ++ [name])).at? location =
      if location = folder ++ [name] then some entry else listing.at? location := by
  induction folder generalizing listing location with
  | nil =>
    have leaf : (listing.find? name).map (·.1) ≠ some .folder := leaf
    have empty : within entry (listing.descend [name]) = nil := by
      have nothing : listing.descend [name] = nil := by
        rcases found : listing.find? name with _ | ⟨held, inside⟩
        · rw [descend, found]
        · rw [descend_cons_of_find? found]
          exact grounded.inside_of_leaf leaf found
      rw [nothing]
      cases entry <;> rfl
    cases location with
    | nil => rfl
    | cons next location =>
      rw [List.nil_append, put, empty, at?_cons, at?_cons, find?_set]
      by_cases same : name = next
      · subst same
        rw [if_pos rfl]
        by_cases last : location = []
        · simp [last]
        · rcases found : listing.find? name with _ | ⟨held, inside⟩
          · simp [last]
          · obtain rfl := grounded.inside_of_leaf leaf found
            simp [last]
      · have other : next ≠ name := Ne.symm same
        rw [if_neg same]
        simp [other]
  | cons first folder ih =>
    obtain ⟨inside, found, further⟩ :=
      grounded.folder_of_at? (exists_folder.resolve_left (List.cons_ne_nil _ _))
    rw [descend_cons_of_find? found] at leaf
    have more : folder ++ [name] ≠ [] := by simp
    rw [List.cons_append, put_cons listing entry first more, descend_cons_of_find? found,
      descend_nil]
    cases location with
    | nil => rfl
    | cons next location =>
      rw [at?_cons, at?_cons, find?_set]
      by_cases same : first = next
      · subst same
        rw [if_pos rfl, found, Option.bind_some, Option.bind_some]
        by_cases last : location = []
        · simp [last]
        · simp only [if_neg last, List.cons.injEq, true_and]
          exact ih (grounded.find? found).2 further leaf location
      · have other : next ≠ first := Ne.symm same
        rw [if_neg same]
        simp [other]

/-- A name of a folder that is no folder itself is erased, and nothing else happens. -/
theorem at?_erase {listing : Listing} (grounded : listing.Grounded) {folder : Location}
    {name : String} (exists_folder : folder = [] ∨ listing.at? folder = some .folder)
    (leaf : ((listing.descend folder).find? name).map (·.1) ≠ some .folder)
    (location : Location) :
    (listing.erase (folder ++ [name])).at? location =
      if location = folder ++ [name] then none else listing.at? location := by
  induction folder generalizing listing location with
  | nil =>
    have leaf : (listing.find? name).map (·.1) ≠ some .folder := leaf
    cases location with
    | nil => rfl
    | cons next location =>
      rw [List.nil_append, erase, at?_cons, at?_cons, find?_remove]
      by_cases same : name = next
      · subst same
        rw [if_pos rfl, Option.bind_none]
        by_cases last : location = []
        · simp [last]
        · rcases found : listing.find? name with _ | ⟨held, inside⟩
          · simp
          · obtain rfl := grounded.inside_of_leaf leaf found
            simp [last]
      · have other : next ≠ name := Ne.symm same
        rw [if_neg same]
        simp [other]
  | cons first folder ih =>
    obtain ⟨inside, found, further⟩ :=
      grounded.folder_of_at? (exists_folder.resolve_left (List.cons_ne_nil _ _))
    rw [descend_cons_of_find? found] at leaf
    have more : folder ++ [name] ≠ [] := by simp
    rw [List.cons_append, erase_cons listing first more, found]
    cases location with
    | nil => rfl
    | cons next location =>
      simp only
      rw [at?_cons, at?_cons, find?_set]
      by_cases same : first = next
      · subst same
        rw [if_pos rfl, found, Option.bind_some, Option.bind_some]
        by_cases last : location = []
        · simp [last]
        · simp only [if_neg last, List.cons.injEq, true_and]
          exact ih (grounded.find? found).2 further leaf location
      · have other : next ≠ first := Ne.symm same
        rw [if_neg same]
        simp [other]

end Listing

namespace Volume

variable {volume middle after : Volume} {location other : Location} {entry : Entry}

/-- A place in a folder at which there is no folder. -/
def Leaf (volume : Volume) (location : Location) : Prop :=
  ∃ folder name, location = folder ++ [name] ∧ volume.at? folder = some .folder ∧
    volume.at? location ≠ some .folder

theorem Free.leaf (free : volume.Free location) : volume.Leaf location := by
  obtain ⟨folder, name, rfl, there, none⟩ := free
  exact ⟨folder, name, rfl, there, by rw [none]; nofun⟩

/-- Whatever is there and is no folder. -/
theorem leaf_of_at? (there : volume.at? location = some entry) (no_folder : entry ≠ .folder) :
    volume.Leaf location := by
  rcases List.eq_nil_or_concat location with rfl | ⟨folder, name, rfl⟩
  · exact absurd (Option.some.inj there).symm no_folder
  · rw [List.concat_eq_append] at there ⊢
    refine ⟨folder, name, rfl, folder_above there, ?_⟩
    rw [there]
    exact fun same => no_folder (Option.some.inj same)

theorem Leaf.at?_put (leaf : volume.Leaf location) (entry : Entry) (other : Location) :
    (volume.put location entry).at? other =
      if other = location then some entry else volume.at? other := by
  obtain ⟨folder, name, rfl, there, no_folder⟩ := leaf
  rw [at?_append_singleton] at no_folder
  rw [at?, at?]
  by_cases top : other = []
  · have different : other ≠ folder ++ [name] := by simp [top]
    rw [if_pos top, if_neg different, if_pos top]
  · rw [if_neg top, if_neg top]
    exact Listing.at?_put volume.grounded (exists_folder there) no_folder entry other

theorem Leaf.at?_erase (leaf : volume.Leaf location) (other : Location) :
    (volume.erase location).at? other =
      if other = location then none else volume.at? other := by
  obtain ⟨folder, name, rfl, there, no_folder⟩ := leaf
  rw [at?_append_singleton] at no_folder
  rw [at?, at?]
  by_cases top : other = []
  · have different : other ≠ folder ++ [name] := by simp [top]
    rw [if_pos top, if_neg different, if_pos top]
  · rw [if_neg top, if_neg top]
    exact Listing.at?_erase volume.grounded (exists_folder there) no_folder other

theorem at?_put (free : volume.Free location) (entry : Entry) (other : Location) :
    (volume.put location entry).at? other =
      if other = location then some entry else volume.at? other :=
  free.leaf.at?_put entry other

/-- Nothing is missing when something was made. -/
theorem Free.extends_put (free : volume.Free location) (entry : Entry) :
    volume.Extends (volume.put location entry) where
  home := rfl
  at? := by
    intro other held there
    have different : other ≠ location := by
      rintro rfl
      cases free.at?_eq_none.symm.trans there
    rw [at?_put free, if_neg different, there]

theorem at?_alterFile (volume : Volume) (number : Nat) (change : Bytes → Bytes)
    (location : Location) :
    (volume.alterFile number change).at? location =
      (volume.at? location).map (alterEntry number change) := by
  rw [at?, at?]
  split
  · rfl
  · exact Listing.at?_map _ _ _

/-! ## 2.  Frames -/

/-- A change of a volume at a place. -/
inductive Change (volume : Volume) (location : Location) : Volume → Prop
  | folder (free : volume.Free location) : Change volume location (volume.put location .folder)
  | file (free : volume.Free location) : Change volume location (volume.putFile location)
  | contents {number : Nat} {contents : Bytes} (change : Bytes → Bytes)
      (there : volume.at? location = some (.file number contents)) :
      Change volume location (volume.alterFile number change)

/-- Changes of a volume, one after the other, at places of a kind. -/
inductive Changes (places : Location → Prop) : Volume → Volume → Prop
  | refl (volume : Volume) : Changes places volume volume
  | step {volume middle after : Volume} {location : Location}
      (earlier : Changes places volume middle) (here : places location)
      (last : middle.Change location after) : Changes places volume after

/-- A volume in which the number of a file tells which file it is.  Its top folder has an absolute
path on the host, or a single name that stands for one. -/
structure Sound (volume : Volume) : Prop where
  placed : volume.home.isAbsolute = true ∨ volume.home.segments.length ≤ 1
  below : ∀ location number contents, volume.at? location = some (.file number contents) →
    number < volume.made
  single : ∀ location other number contents contents',
    volume.at? location = some (.file number contents) →
      volume.at? other = some (.file number contents') → location = other

/-- No link lies below a place. -/
def Unlinked (volume : Volume) (top : Location) : Prop :=
  ∀ names target, names ≠ [] → volume.at? (top ++ names) ≠ some (.link target)

/-- No link lies on the way that names lead down from a place.  There may be one at its end. -/
def Straight (volume : Volume) (top names : Location) : Prop :=
  ∀ front rest target, names = front ++ rest → front ≠ [] → rest ≠ [] →
    volume.at? (top ++ front) ≠ some (.link target)

theorem Unlinked.below {top : Location} (unlinked : volume.Unlinked top) (names : Location) :
    volume.Unlinked (top ++ names) := by
  intro more target further there
  rw [List.append_assoc] at there
  exact unlinked (names ++ more) target (by simp [further]) there

theorem Unlinked.straight {top : Location} (unlinked : volume.Unlinked top) (names : Location) :
    volume.Straight top names := fun front _ target _ some_front _ =>
  unlinked front target some_front

theorem straight_singleton (volume : Volume) (top : Location) (name : String) :
    volume.Straight top [name] := by
  intro front rest target split some_front some_rest
  rcases List.append_eq_singleton_iff.1 split.symm with ⟨rfl, -⟩ | ⟨-, rfl⟩
  · exact absurd rfl some_front
  · exact absurd rfl some_rest

variable {places : Location → Prop}

@[simp] theorem bare_alterEntry (number : Nat) (change : Bytes → Bytes) (entry : Entry) :
    (alterEntry number change entry).bare = entry.bare := by
  cases entry with
  | file other contents =>
    rw [alterEntry]
    split <;> rfl
  | _ => rfl

namespace Changes

theorem single (here : places location) (change : volume.Change location after) :
    Changes places volume after :=
  .step (.refl volume) here change

theorem trans (first : Changes places volume middle) (second : Changes places middle after) :
    Changes places volume after := by
  induction second with
  | refl => exact first
  | step _ here last ih => exact .step ih here last

theorem mono {wider : Location → Prop} (within : ∀ location, places location → wider location)
    (changes : Changes places volume after) : Changes wider volume after := by
  induction changes with
  | refl => exact .refl _
  | step _ here last ih => exact .step ih (within _ here) last

end Changes

theorem Change.home (change : volume.Change location after) : after.home = volume.home := by
  cases change <;> rfl

/-- What was there is still there, as what it was. -/
theorem Change.keeps (change : volume.Change location after) : volume.Keeps after where
  home := change.home
  at? := by
    intro other entry there
    cases change with
    | folder free => exact (free.extends_put _).keeps.at? _ _ there
    | file free => exact (free.extends_put _).keeps.at? _ _ there
    | contents change _ =>
      exact ⟨_, by rw [at?_alterFile, there]; rfl, bare_alterEntry _ _ _⟩

theorem Changes.keeps (changes : Changes places volume after) : volume.Keeps after := by
  induction changes with
  | refl => exact .refl _
  | step _ _ last ih => exact ih.trans last.keeps

/-- What is there now was there before, as what it is, or it was made at the place of the change. -/
theorem Change.cases_at? (change : volume.Change location after) {other : Location} {now : Entry}
    (there : after.at? other = some now) :
    (∃ entry, volume.at? other = some entry ∧ now.bare = entry.bare) ∨
      other = location ∧ volume.Free location ∧ (now = .folder ∨ now = .file volume.made []) := by
  cases change with
  | folder free =>
    rw [at?_put free] at there
    split at there
    · rename_i same
      exact .inr ⟨same, free, .inl (Option.some.inj there).symm⟩
    · exact .inl ⟨now, there, rfl⟩
  | file free =>
    rw [show (volume.putFile location).at? other = _ from at?_put free _ _] at there
    split at there
    · rename_i same
      exact .inr ⟨same, free, .inr (Option.some.inj there).symm⟩
    · exact .inl ⟨now, there, rfl⟩
  | contents change _ =>
    rw [at?_alterFile, Option.map_eq_some_iff] at there
    obtain ⟨entry, there, rfl⟩ := there
    exact .inl ⟨entry, there, bare_alterEntry _ _ _⟩

/-- **A place that is not changed keeps its entry.** -/
theorem Change.at?_of_ne (sound : volume.Sound) (change : volume.Change location after)
    (elsewhere : other ≠ location) : after.at? other = volume.at? other := by
  cases change with
  | folder free => rw [at?_put free, if_neg elsewhere]
  | file free => exact (at?_put free _ _).trans (if_neg elsewhere)
  | @contents number contents change there =>
    rw [at?_alterFile]
    rcases held : volume.at? other with _ | entry
    · rfl
    · cases entry with
      | folder => rfl
      | link _ => rfl
      | file number' contents' =>
        have different : number' ≠ number := by
          rintro rfl
          exact elsewhere (sound.single _ _ _ _ _ held there)
        rw [Option.map_some, alterEntry, if_neg different]

theorem Change.made_le (change : volume.Change location after) : volume.made ≤ after.made := by
  cases change with
  | folder _ => exact Nat.le_refl _
  | file _ => exact Nat.le_succ _
  | contents _ _ => exact Nat.le_refl _

theorem Change.sound (sound : volume.Sound) (change : volume.Change location after) :
    after.Sound := by
  -- a file that was there, or the new one
  have origin {place : Location} {number : Nat} {contents : Bytes}
      (there : after.at? place = some (.file number contents)) :
      (∃ before, volume.at? place = some (.file number before)) ∨
        place = location ∧ number = volume.made ∧ volume.made < after.made := by
    rcases change.cases_at? there with ⟨entry, held, same⟩ | ⟨same, free, made | made⟩
    · obtain ⟨before, rfl⟩ := Entry.exists_contents_of_bare same.symm
      exact .inl ⟨before, held⟩
    · cases made
    · obtain ⟨rfl, -⟩ := Entry.file.inj made
      refine .inr ⟨same, rfl, ?_⟩
      cases change with
      | folder free =>
        rw [same, at?_put free, if_pos rfl] at there
        cases there
      | file _ => exact Nat.lt_succ_self _
      | contents change held =>
        cases (free.at?_eq_none.symm.trans held)
  refine ⟨?_, ?_, ?_⟩
  · rw [change.home]
    exact sound.placed
  · intro place number contents there
    rcases origin there with ⟨before, held⟩ | ⟨-, rfl, less⟩
    · exact Nat.lt_of_lt_of_le (sound.below _ _ _ held) change.made_le
    · exact less
  · intro place place' number contents contents' there there'
    rcases origin there with ⟨before, held⟩ | ⟨rfl, rfl, -⟩ <;>
      rcases origin there' with ⟨before', held'⟩ | ⟨same, same', -⟩
    · exact sound.single _ _ _ _ _ held held'
    · exact absurd (sound.below _ _ _ held) (by omega)
    · exact absurd (sound.below _ _ _ held') (by omega)
    · exact same.symm

namespace Changes

theorem sound (changes : Changes places volume after) (sound : volume.Sound) : after.Sound := by
  induction changes with
  | refl => exact sound
  | step _ _ last ih => exact last.sound ih

/-- **The frame of a run.** -/
theorem at?_of_not (changes : Changes places volume after) (sound : volume.Sound)
    (elsewhere : ¬ places location) : after.at? location = volume.at? location := by
  induction changes with
  | refl => rfl
  | step earlier here last ih =>
    have different : location ≠ _ := fun same => elsewhere (same ▸ here)
    exact (last.at?_of_ne (earlier.sound sound) different).trans ih

/-- No links are made. -/
theorem link_of_at? (changes : Changes places volume after) {target : Path}
    (there : after.at? location = some (.link target)) :
    volume.at? location = some (.link target) := by
  induction changes with
  | refl => exact there
  | step _ _ last ih =>
    rcases last.cases_at? there with ⟨entry, held, same⟩ | ⟨-, -, made | made⟩
    · obtain rfl := Entry.eq_link_of_bare same.symm
      exact ih held
    · cases made
    · cases made

theorem unlinked (changes : Changes places volume after) {top : Location}
    (unlinked : volume.Unlinked top) : after.Unlinked top :=
  fun names target further there => unlinked names target further (changes.link_of_at? there)

theorem straight (changes : Changes places volume after) {top names : Location}
    (straight : volume.Straight top names) : after.Straight top names :=
  fun front rest target split first last there =>
    straight front rest target split first last (changes.link_of_at? there)

end Changes

theorem Change.unlinked (change : volume.Change location after) {top : Location}
    (unlinked : volume.Unlinked top) : after.Unlinked top := by
  have changes : Changes (fun _ => True) volume after := .single trivial change
  exact changes.unlinked unlinked

/-- In an empty volume there is the top folder. -/
theorem at?_empty (home : Path) (location : Location) :
    (Volume.empty home).at? location = if location = [] then some .folder else none := by
  rw [at?, show (Volume.empty home).listing = .nil from rfl, Listing.at?_of_nil]

theorem sound_empty {home : Path} (placed : home.isAbsolute = true ∨ home.segments.length ≤ 1) :
    (Volume.empty home).Sound := by
  have nothing {location : Location} {number : Nat} {contents : Bytes} :
      (Volume.empty home).at? location ≠ some (.file number contents) := by
    rw [at?_empty]
    split <;> exact nofun
  exact ⟨placed, fun _ _ _ there => absurd there nothing,
    fun _ _ _ _ _ there => absurd there nothing⟩

theorem unlinked_empty (home : Path) (top : Location) : (Volume.empty home).Unlinked top := by
  intro names target _
  rw [at?_empty]
  split <;> exact nofun

end Volume
end Files
end CoverageLink
