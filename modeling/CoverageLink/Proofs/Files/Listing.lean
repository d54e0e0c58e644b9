import CoverageLink.Files.Volume
import CoverageLink.Proofs.Text.Utf8

/-!
# The laws of a listing

A free name in a folder that exists can be given to an entry and taken away again, and then the
listing is what it was (`Listing.erase_put`).  In between nothing that was there is missing
(`Listing.at?_put_of_some`).

Both are inductions on the names that lead to the folder.  Each of them stands for a folder:
the last one by assumption, and the earlier ones because something lies inside them
(`Listing.Grounded`).  That the listing is in order is needed as well: a name is given a place
before the first greater one, so setting a name to what it stands for changes nothing only if
no greater one stands before it.

A listing is also read as a table, and there the order is needed for another reason: because no name
stands twice in a folder, every row has the entry that its names lead to
(`Listing.Ordered.mem_rows_iff`).
-/

namespace CoverageLink
namespace Files
namespace Listing

/-! ## Where names lead -/

theorem at?_cons (listing : Listing) (name : String) (names : Location) :
    listing.at? (name :: names) =
      (listing.find? name).bind fun row => if names = [] then some row.1 else row.2.at? names := by
  cases names with
  | nil => cases found : listing.find? name <;> simp [at?, found]
  | cons next names => simp [at?]

theorem descend_cons_of_find? {listing inside : Listing} {name : String} {entry : Entry}
    (found : listing.find? name = some (entry, inside)) (names : Location) :
    listing.descend (name :: names) = inside.descend names := by
  simp [descend, found]

/-- What a name in a folder stands for. -/
theorem at?_append_singleton (listing : Listing) (folder : Location) (name : String) :
    listing.at? (folder ++ [name]) = ((listing.descend folder).find? name).map (·.1) := by
  induction folder generalizing listing with
  | nil => rfl
  | cons first folder ih =>
    rw [List.cons_append, at?_cons, descend]
    cases listing.find? first with
    | none => rfl
    | some row => simpa using ih row.2

@[simp] theorem at?_of_nil (location : Location) : nil.at? location = none := by
  cases location with
  | nil => rfl
  | cons name names => rw [at?_cons, find?, Option.bind_none]

/-- Names that go on lead on from where the first ones lead. -/
theorem at?_append (listing : Listing) (first : Location) {later : Location} (more : later ≠ []) :
    listing.at? (first ++ later) = (listing.descend first).at? later := by
  induction first generalizing listing with
  | nil => rfl
  | cons name names ih =>
    have further : names ++ later ≠ [] := by simp [more]
    rw [List.cons_append, at?_cons, descend]
    cases listing.find? name with
    | none => exact (at?_of_nil later).symm
    | some row =>
      rw [Option.bind_some, if_neg further]
      exact ih row.2

/-- What lies further down lies in a folder. -/
theorem Grounded.find?_of_at? {listing : Listing} (h : listing.Grounded) {name : String}
    {names : Location} (further : names ≠ []) {entry : Entry}
    (there : listing.at? (name :: names) = some entry) :
    ∃ inside, listing.find? name = some (.folder, inside) ∧ inside.at? names = some entry := by
  rw [at?_cons, Option.bind_eq_some_iff] at there
  obtain ⟨⟨held, inside⟩, found, there⟩ := there
  rw [if_neg further] at there
  rcases (h.find? found).1 with rfl | rfl
  · exact ⟨inside, found, there⟩
  · cases (at?_of_nil names).symm.trans there

/-- A folder is here, or in a folder that is here. -/
theorem Grounded.folder_of_at? {listing : Listing} (h : listing.Grounded) {name : String}
    {names : Location} (there : listing.at? (name :: names) = some .folder) :
    ∃ inside, listing.find? name = some (.folder, inside) ∧
      (names = [] ∨ inside.at? names = some .folder) := by
  by_cases last : names = []
  · rw [at?_cons, Option.bind_eq_some_iff] at there
    obtain ⟨⟨entry, inside⟩, found, there⟩ := there
    rw [if_pos last] at there
    obtain rfl : entry = .folder := Option.some.inj there
    exact ⟨inside, found, .inl last⟩
  · obtain ⟨inside, found, there⟩ := h.find?_of_at? last there
    exact ⟨inside, found, .inr there⟩

/-- Whatever has a name lies in a folder. -/
theorem Grounded.folder_above {listing : Listing} (h : listing.Grounded) {folder : Location}
    {name : String} {entry : Entry} (there : listing.at? (folder ++ [name]) = some entry) :
    folder = [] ∨ listing.at? folder = some .folder := by
  induction folder generalizing listing with
  | nil => exact .inl rfl
  | cons first folder ih =>
    have further : folder ++ [name] ≠ [] := by simp
    obtain ⟨inside, found, there⟩ := h.find?_of_at? further there
    rw [at?_cons, found, Option.bind_some]
    rcases ih (h.find? found).2 there with last | above
    · rw [if_pos last]
      exact .inr rfl
    · have notLast : folder ≠ [] := by
        rintro rfl
        cases above
      rw [if_neg notLast]
      exact .inr above

/-! ## The order of the names -/

theorem Ordered.pairwise_names {listing : Listing} (h : listing.Ordered) :
    listing.names.Pairwise (· < ·) := by
  induction listing with
  | nil => exact .nil
  | cons name entry inside others _ ih => exact .cons h.1 (ih h.2.2)

/-! ## Setting a name -/

theorem set_cons_self (name : String) (held entry : Entry) (within others inside : Listing) :
    (cons name held within others).set name entry inside = cons name entry inside others := by
  rw [set, if_neg (String.lt_irrefl name), if_pos rfl]

theorem set_set (listing : Listing) (name : String) (first entry : Entry)
    (before inside : Listing) :
    (listing.set name first before).set name entry inside = listing.set name entry inside := by
  induction listing with
  | nil => exact set_cons_self name first entry before nil inside
  | cons held row within others _ ih =>
    by_cases early : name < held
    · rw [set, if_pos early, set_cons_self, set, if_pos early]
    · by_cases same : held = name
      · subst same
        rw [set_cons_self, set_cons_self, set_cons_self]
      · simp [set, early, same, ih]

theorem mem_names_of_find? {listing inside : Listing} {name : String} {entry : Entry}
    (found : listing.find? name = some (entry, inside)) : name ∈ listing.names := by
  induction listing with
  | nil => cases found
  | cons held row within others _ ih =>
    unfold find? at found
    split at found
    · rename_i same
      exact same ▸ List.mem_cons_self
    · exact List.mem_cons_of_mem _ (ih found)

theorem exists_find?_of_mem_names {listing : Listing} {name : String}
    (member : name ∈ listing.names) :
    ∃ entry inside, listing.find? name = some (entry, inside) := by
  induction listing with
  | nil => cases member
  | cons first entry inside others _ ih =>
    rw [find?]
    split
    · exact ⟨entry, inside, rfl⟩
    · rename_i other
      exact ih ((List.mem_cons.1 member).resolve_left (Ne.symm other))

/-- Setting a name to what it stands for changes nothing. -/
theorem Ordered.set_of_find? {listing inside : Listing} (h : listing.Ordered) {name : String}
    {entry : Entry} (found : listing.find? name = some (entry, inside)) :
    listing.set name entry inside = listing := by
  induction listing with
  | nil => cases found
  | cons held row within others _ ih =>
    unfold Listing.find? at found
    split at found
    · rename_i same
      subst same
      obtain ⟨rfl, rfl⟩ := Prod.mk.inj (Option.some.inj found)
      exact set_cons_self held row row within others within
    · rename_i different
      have later : held < name := h.1 name (mem_names_of_find? found)
      have notEarly : ¬name < held := String.lt_asymm later
      simp [Listing.set, notEarly, different, ih h.2.2 found]

theorem remove_of_find?_eq_none {listing : Listing} {name : String}
    (free : listing.find? name = none) : listing.remove name = listing := by
  induction listing with
  | nil => rfl
  | cons held row within others _ ih =>
    unfold find? at free
    split at free
    · cases free
    · rename_i different
      rw [remove, if_neg different, ih free]

/-- A free name that is set and removed is free again. -/
theorem remove_set {listing : Listing} {name : String} (free : listing.find? name = none)
    (entry : Entry) (inside : Listing) : (listing.set name entry inside).remove name = listing := by
  induction listing with
  | nil => simp [set, remove]
  | cons held row within others _ ih =>
    have whole := remove_of_find?_eq_none free
    unfold find? at free
    split at free
    · cases free
    · rename_i different
      by_cases early : name < held
      · rw [set, if_pos early, remove, if_pos rfl, whole]
      · rw [set, if_neg early, if_neg different, remove, if_neg different, ih free]

/-! ## A name that comes and goes -/

theorem put_cons (listing : Listing) (entry : Entry) (name : String) {names : Location}
    (h : names ≠ []) :
    listing.put entry (name :: names) =
      listing.set name .folder ((listing.descend [name]).put entry names) := by
  obtain ⟨next, names, rfl⟩ := List.exists_cons_of_ne_nil h
  rfl

theorem erase_cons (listing : Listing) (name : String) {names : Location} (h : names ≠ []) :
    listing.erase (name :: names) =
      match listing.find? name with
      | some (entry, inside) => listing.set name entry (inside.erase names)
      | none => listing := by
  obtain ⟨next, names, rfl⟩ := List.exists_cons_of_ne_nil h
  rfl

/-- **A name that comes and goes.**  An entry that was put under a free name of a folder and is
erased leaves no trace. -/
theorem erase_put {listing : Listing} (ordered : listing.Ordered) (grounded : listing.Grounded)
    {folder : Location} {name : String}
    (exists_folder : folder = [] ∨ listing.at? folder = some .folder)
    (free : (listing.descend folder).find? name = none) (entry : Entry) :
    (listing.put entry (folder ++ [name])).erase (folder ++ [name]) = listing := by
  induction folder generalizing listing with
  | nil => exact remove_set free entry _
  | cons first folder ih =>
    obtain ⟨inside, found, further⟩ :=
      grounded.folder_of_at? (exists_folder.resolve_left (List.cons_ne_nil _ _))
    rw [descend_cons_of_find? found] at free
    have restored : (inside.put entry (folder ++ [name])).erase (folder ++ [name]) = inside :=
      ih (ordered.find? found) (grounded.find? found).2 further free
    have more : folder ++ [name] ≠ [] := by simp
    rw [List.cons_append, put_cons listing entry first more, descend_cons_of_find? found,
      descend_nil]
    rw [erase_cons _ first more, find?_set, if_pos rfl]
    simp only
    rw [restored, set_set, ordered.set_of_find? found]

/-- Nothing that was there is missing when a free name of a folder has been given away. -/
theorem at?_put_of_some {listing : Listing} (grounded : listing.Grounded) {folder : Location}
    {name : String} (exists_folder : folder = [] ∨ listing.at? folder = some .folder)
    (free : (listing.descend folder).find? name = none) (entry : Entry) {location : Location}
    {held : Entry} (there : listing.at? location = some held) :
    (listing.put entry (folder ++ [name])).at? location = some held := by
  induction folder generalizing listing location with
  | nil =>
    cases location with
    | nil => cases there
    | cons next location =>
      rw [at?_cons, Option.bind_eq_some_iff] at there
      obtain ⟨row, found, there⟩ := there
      have different : name ≠ next := by
        rintro rfl
        cases free.symm.trans found
      rw [List.nil_append, put, at?_cons, find?_set, if_neg different, found]
      exact there
  | cons first folder ih =>
    obtain ⟨inside, found, further⟩ :=
      grounded.folder_of_at? (exists_folder.resolve_left (List.cons_ne_nil _ _))
    rw [descend_cons_of_find? found] at free
    have more : folder ++ [name] ≠ [] := by simp
    rw [List.cons_append, put_cons listing entry first more, descend_cons_of_find? found,
      descend_nil]
    cases location with
    | nil => cases there
    | cons next location =>
      rw [at?_cons, find?_set]
      rw [at?_cons] at there
      by_cases same : first = next
      · rw [if_pos same, Option.bind_some]
        rw [← same, found, Option.bind_some] at there
        by_cases last : location = []
        · rwa [if_pos last] at there ⊢
        · rw [if_neg last] at there ⊢
          exact ih (grounded.find? found).2 further free there
      · rwa [if_neg same]

/-! ## Names and rows -/

/-- A row of what lies inside, as a row from the outside. -/
theorem cons_mem_map_rows {listing : Listing} {name first : String} {names : Location}
    {entry : Entry} :
    (first :: names, entry) ∈ listing.rows.map (fun row => (name :: row.1, row.2)) ↔
      name = first ∧ (names, entry) ∈ listing.rows := by
  rw [List.mem_map]
  constructor
  · rintro ⟨⟨_, _⟩, row, same⟩
    obtain ⟨⟨rfl, rfl⟩, rfl⟩ := Prod.mk.inj same |>.imp_left List.cons.inj
    exact ⟨rfl, row⟩
  · rintro ⟨rfl, row⟩
    exact ⟨_, row, rfl⟩

/-- **The table of a listing says what its names stand for.** -/
theorem Ordered.mem_rows_iff {listing : Listing} (h : listing.Ordered) {names : Location}
    {entry : Entry} : (names, entry) ∈ listing.rows ↔ listing.at? names = some entry := by
  induction listing generalizing names with
  | nil => simp [rows]
  | cons name held within others ih₁ ih₂ =>
    obtain ⟨least, inside, rest⟩ := h
    cases names with
    | nil =>
      refine iff_of_false (fun row => ?_) (by simp [at?])
      obtain ⟨_, -, _, whole⟩ := exists_of_mem_rows row
      cases whole
    | cons first more =>
      rw [rows, List.cons_append, List.mem_cons, List.mem_append, cons_mem_map_rows, ih₂ rest,
        at?_cons (cons name held within others), Listing.find?]
      by_cases same : name = first
      · subst same
        -- the names of the others come later
        have alone : others.at? (name :: more) ≠ some entry := by
          intro there
          obtain ⟨other, member, _, whole⟩ := exists_of_mem_rows ((ih₂ rest).2 there)
          obtain ⟨rfl, -⟩ := List.cons.inj whole
          exact String.lt_irrefl _ (least _ member)
        have top : within.at? [] ≠ some entry := by simp [at?]
        rw [or_iff_left alone, if_pos rfl, Option.bind_some, ih₁ inside]
        by_cases last : more = []
        · simp [last, top, eq_comm]
        · simp [last]
      · have other : first ≠ name := Ne.symm same
        simp [other, same, at?_cons]
end Listing

/-- What lies below a place has its entry at the names that lead there. -/
theorem Volume.mem_below_iff {volume : Volume} {top names : Location} {entry : Entry} :
    (names, entry) ∈ volume.below top ↔ names ≠ [] ∧ volume.at? (top ++ names) = some entry := by
  rw [below, (volume.ordered.descend top).mem_rows_iff]
  by_cases more : names = []
  · subst more
    exact iff_of_false nofun fun further => further.1 rfl
  · have further : top ++ names ≠ [] := by simp [more]
    rw [at?, if_neg further, Listing.at?_append _ _ more, and_iff_right more]

/-- **The names in a folder are in the order of their octets.** -/
theorem Volume.pairwise_namesIn (volume : Volume) (folder : Location) :
    (volume.namesIn folder).Pairwise fun name other => Utf8.encode name < Utf8.encode other :=
  (volume.ordered.descend folder).pairwise_names.imp Utf8.encode_lt

end Files
end CoverageLink
