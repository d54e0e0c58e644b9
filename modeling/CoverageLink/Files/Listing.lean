import CoverageLink.Bytes
import CoverageLink.Files.Path

/-!
# Listings of folders

A listing says what lies in a folder: the names, what each of them stands for, and the listing
of what lies inside that.  So an entry never lies anywhere but in another entry or in the
folder that is listed, and going down a path is going from one listing to the next.

Two things are not in the type and are kept by every operation.  Only a folder has anything
inside (`Listing.Grounded`).  And the names of a listing are in increasing order of their
octets, as are those of the listings in it (`Listing.Ordered`).  Read as a table, from the
names that lead down to an entry to the entry, a listing is therefore a walk through a tree,
depth first, and its rows come in increasing order (`Listing.pairwise_rows`).
-/

namespace CoverageLink
namespace Files

/-- The names that lead from the top folder to an entry. -/
abbrev Location := List String

/-- What a name stands for. -/
inductive Entry
  | folder
  | file (number : Nat) (contents : Bytes)
  | link (target : Path)
  deriving DecidableEq, Repr, Inhabited

/-- What lies in a folder. -/
inductive Listing
  | nil
  /-- A name, its entry and what lies inside of it, before the other names. -/
  | cons (name : String) (entry : Entry) (inside others : Listing)
  deriving DecidableEq, Repr, Inhabited

namespace Listing

/-! ## Looking -/

/-- The names in a folder, in order. -/
def names : Listing → List String
  | nil => []
  | cons name _ _ others => name :: others.names

/-- Everything in a folder and below, with the names that lead there. -/
def rows : Listing → List (Location × Entry)
  | nil => []
  | cons name entry inside others =>
    ([name], entry) :: inside.rows.map (fun row => (name :: row.1, row.2)) ++ others.rows

/-- What a name stands for, and what lies inside. -/
def find? (wanted : String) : Listing → Option (Entry × Listing)
  | nil => none
  | cons name entry inside others =>
    if name = wanted then some (entry, inside) else others.find? wanted

/-- What names stand for that lead down from the folder. -/
def at? (listing : Listing) : Location → Option Entry
  | [] => none
  | [name] => (listing.find? name).map (·.1)
  | name :: names => (listing.find? name).bind fun row => row.2.at? names

/-- What lies where names lead. -/
def descend (listing : Listing) : Location → Listing
  | [] => listing
  | name :: names =>
    match listing.find? name with
    | some (_, inside) => inside.descend names
    | none => nil

/-! ## Changing -/

/-- The listing in which a name stands for this and nothing else. -/
def set (wanted : String) (entry : Entry) : (listing inside : Listing) → Listing
  | nil, inside => cons wanted entry inside nil
  | cons name held within others, inside =>
    if wanted < name then cons wanted entry inside (cons name held within others)
    else if name = wanted then cons name entry inside others
    else cons name held within (others.set wanted entry inside)

/-- The listing without a name. -/
def remove (unwanted : String) : Listing → Listing
  | nil => nil
  | cons name entry inside others =>
    if name = unwanted then others.remove unwanted
    else cons name entry inside (others.remove unwanted)

/-- What can lie inside an entry: this, if the entry is a folder, and nothing otherwise. -/
def within : Entry → Listing → Listing
  | .folder, inside => inside
  | _, _ => nil

/-- The listing with an entry where names lead, and with folders on the way.  What lies inside a
folder stays. -/
def put (entry : Entry) (listing : Listing) : Location → Listing
  | [] => listing
  | [name] => listing.set name entry (within entry (listing.descend [name]))
  | name :: names => listing.set name .folder ((listing.descend [name]).put entry names)

/-- The listing without what lies where names lead, and everything below it. -/
def erase (listing : Listing) : Location → Listing
  | [] => nil
  | [name] => listing.remove name
  | name :: names =>
    match listing.find? name with
    | some (entry, inside) => listing.set name entry (inside.erase names)
    | none => listing

/-- The listing with every entry changed. -/
def map (change : Entry → Entry) : Listing → Listing
  | nil => nil
  | cons name entry inside others =>
    cons name (change entry) (inside.map change) (others.map change)

/-! ## What a name stands for afterwards -/

theorem find?_set (wanted other : String) (entry : Entry) (inside listing : Listing) :
    (listing.set wanted entry inside).find? other =
      if wanted = other then some (entry, inside) else listing.find? other := by
  induction listing with
  | nil => simp [set, find?]
  | cons name held within others _ ih =>
    unfold set
    split
    · simp [find?]
    · split
      · subst name
        by_cases h : wanted = other <;> simp [find?, h]
      · by_cases h : name = other
        · have : wanted ≠ other := by grind
          simp [find?, h, this]
        · simp [find?, h, ih]

theorem find?_remove (unwanted other : String) (listing : Listing) :
    (listing.remove unwanted).find? other =
      if unwanted = other then none else listing.find? other := by
  induction listing with
  | nil => simp [remove, find?]
  | cons name entry inside others _ ih =>
    unfold remove
    split
    · subst name
      rw [ih]
      by_cases h : unwanted = other <;> simp [find?, h]
    · by_cases h : name = other
      · have : unwanted ≠ other := by grind
        simp [find?, h, this]
      · simp [find?, h, ih]

@[simp] theorem descend_nil (listing : Listing) : listing.descend [] = listing := rfl

/-- Going on from where names lead is following all the names. -/
theorem descend_append (listing : Listing) (first later : Location) :
    listing.descend (first ++ later) = (listing.descend first).descend later := by
  induction first generalizing listing with
  | nil => rfl
  | cons name names ih =>
    simp only [List.cons_append, descend]
    cases listing.find? name with
    | some row => exact ih row.2
    | none => cases later <;> rfl

/-! ## Order -/

/-- The names of a listing, and of the listings in it, are in increasing order. -/
def Ordered : Listing → Prop
  | nil => True
  | cons name _ inside others =>
    (∀ other ∈ others.names, name < other) ∧ inside.Ordered ∧ others.Ordered

@[simp] theorem ordered_nil : nil.Ordered := trivial

theorem Ordered.find? {listing inside : Listing} {entry : Entry} {wanted : String}
    (h : listing.Ordered) (found : listing.find? wanted = some (entry, inside)) :
    inside.Ordered := by
  induction listing with
  | nil => simp [Listing.find?] at found
  | cons name held within others _ ih =>
    unfold Listing.find? at found
    split at found
    · obtain ⟨-, rfl⟩ := Prod.mk.inj (Option.some.inj found)
      exact h.2.1
    · exact ih h.2.2 found

theorem Ordered.descend {listing : Listing} (h : listing.Ordered) (location : Location) :
    (listing.descend location).Ordered := by
  induction location generalizing listing with
  | nil => exact h
  | cons name names ih =>
    unfold Listing.descend
    split
    · rename_i found
      exact ih (h.find? found)
    · exact ordered_nil

theorem mem_names_set {wanted other : String} {entry : Entry} {inside listing : Listing}
    (h : other ∈ (listing.set wanted entry inside).names) :
    other = wanted ∨ other ∈ listing.names := by
  induction listing with
  | nil => simpa [set, names] using h
  | cons name held within others _ ih =>
    unfold set at h
    split at h
    · simpa [names] using h
    · split at h
      · exact Or.inr h
      · rcases List.mem_cons.1 h with rfl | h
        · exact Or.inr List.mem_cons_self
        · exact (ih h).imp_right (List.mem_cons_of_mem _)

theorem Ordered.set {listing inside : Listing} (h : listing.Ordered) (hinside : inside.Ordered)
    (wanted : String) (entry : Entry) : (listing.set wanted entry inside).Ordered := by
  induction listing with
  | nil => exact ⟨by simp [names], hinside, trivial⟩
  | cons name held within others _ ih =>
    obtain ⟨least, hwithin, hothers⟩ := h
    unfold Listing.set
    split
    · rename_i before
      refine ⟨fun other hother => ?_, hinside, least, hwithin, hothers⟩
      rcases List.mem_cons.1 hother with rfl | hother
      · exact before
      · exact String.lt_trans before (least other hother)
    · split
      · exact ⟨least, hinside, hothers⟩
      · rename_i notBefore different
        refine ⟨fun other hother => ?_, hwithin, ih hothers⟩
        rcases mem_names_set hother with rfl | hother
        · exact String.not_le.1 fun le =>
            different (String.le_antisymm (String.not_lt.1 notBefore) le)
        · exact least other hother

theorem mem_names_remove {unwanted other : String} {listing : Listing}
    (h : other ∈ (listing.remove unwanted).names) : other ∈ listing.names := by
  induction listing with
  | nil => exact h
  | cons name entry inside others _ ih =>
    unfold remove at h
    split at h
    · exact List.mem_cons_of_mem _ (ih h)
    · rcases List.mem_cons.1 h with rfl | h
      · exact List.mem_cons_self
      · exact List.mem_cons_of_mem _ (ih h)

theorem Ordered.remove {listing : Listing} (h : listing.Ordered) (unwanted : String) :
    (listing.remove unwanted).Ordered := by
  induction listing with
  | nil => exact h
  | cons name entry inside others _ ih =>
    unfold Listing.remove
    split
    · exact ih h.2.2
    · exact ⟨fun other hother => h.1 other (mem_names_remove hother), h.2.1, ih h.2.2⟩

theorem Ordered.within {listing : Listing} (h : listing.Ordered) (entry : Entry) :
    (within entry listing).Ordered := by
  cases entry with
  | folder => exact h
  | file _ _ => exact ordered_nil
  | link _ => exact ordered_nil

theorem Ordered.put {listing : Listing} (h : listing.Ordered) (location : Location)
    (entry : Entry) : (listing.put entry location).Ordered := by
  fun_induction Listing.put entry listing location with
  | case1 => exact h
  | case2 listing name => exact h.set ((h.descend [name]).within entry) name entry
  | case3 listing name names _ ih => exact h.set (ih (h.descend [name])) name _

theorem Ordered.erase {listing : Listing} (h : listing.Ordered) (location : Location) :
    (listing.erase location).Ordered := by
  fun_induction Listing.erase listing location with
  | case1 => exact ordered_nil
  | case2 listing name => exact h.remove name
  | case3 listing name names _ entry inside found ih =>
    exact h.set (ih (h.find? found)) name entry
  | case4 => exact h

@[simp] theorem names_map (change : Entry → Entry) (listing : Listing) :
    (listing.map change).names = listing.names := by
  induction listing with
  | nil => rfl
  | cons name entry inside others _ ih => simp [map, names, ih]

theorem Ordered.map {listing : Listing} (h : listing.Ordered) (change : Entry → Entry) :
    (listing.map change).Ordered := by
  induction listing with
  | nil => exact h
  | cons name entry inside others ih₁ ih₂ =>
    exact ⟨by simpa using h.1, ih₁ h.2.1, ih₂ h.2.2⟩

/-! ## Only folders hold anything -/

/-- Nothing lies inside a file or a link. -/
def Grounded : Listing → Prop
  | nil => True
  | cons _ entry inside others =>
    (entry = .folder ∨ inside = nil) ∧ inside.Grounded ∧ others.Grounded

@[simp] theorem grounded_nil : nil.Grounded := trivial

theorem grounded_within {entry : Entry} {listing : Listing} (h : listing.Grounded) :
    (entry = .folder ∨ within entry listing = nil) ∧ (within entry listing).Grounded := by
  cases entry with
  | folder => exact ⟨.inl rfl, h⟩
  | file _ _ => exact ⟨.inr rfl, trivial⟩
  | link _ => exact ⟨.inr rfl, trivial⟩

theorem Grounded.find? {listing inside : Listing} {entry : Entry} {wanted : String}
    (h : listing.Grounded) (found : listing.find? wanted = some (entry, inside)) :
    (entry = .folder ∨ inside = nil) ∧ inside.Grounded := by
  induction listing with
  | nil => simp [Listing.find?] at found
  | cons name held within others _ ih =>
    unfold Listing.find? at found
    split at found
    · obtain ⟨rfl, rfl⟩ := Prod.mk.inj (Option.some.inj found)
      exact ⟨h.1, h.2.1⟩
    · exact ih h.2.2 found

theorem Grounded.descend {listing : Listing} (h : listing.Grounded) (location : Location) :
    (listing.descend location).Grounded := by
  induction location generalizing listing with
  | nil => exact h
  | cons name names ih =>
    unfold Listing.descend
    split
    · rename_i found
      exact ih (h.find? found).2
    · exact grounded_nil

theorem Grounded.set {listing inside : Listing} {entry : Entry} (h : listing.Grounded)
    (holds : entry = .folder ∨ inside = nil) (hinside : inside.Grounded) (wanted : String) :
    (listing.set wanted entry inside).Grounded := by
  induction listing with
  | nil => exact ⟨holds, hinside, trivial⟩
  | cons name held within others _ ih =>
    unfold Listing.set
    split
    · exact ⟨holds, hinside, h⟩
    · split
      · exact ⟨holds, hinside, h.2.2⟩
      · exact ⟨h.1, h.2.1, ih h.2.2⟩

theorem Grounded.remove {listing : Listing} (h : listing.Grounded) (unwanted : String) :
    (listing.remove unwanted).Grounded := by
  induction listing with
  | nil => exact h
  | cons name entry inside others _ ih =>
    unfold Listing.remove
    split
    · exact ih h.2.2
    · exact ⟨h.1, h.2.1, ih h.2.2⟩

theorem Grounded.put {listing : Listing} (h : listing.Grounded) (location : Location)
    (entry : Entry) : (listing.put entry location).Grounded := by
  fun_induction Listing.put entry listing location with
  | case1 => exact h
  | case2 listing name =>
    obtain ⟨holds, inside⟩ := grounded_within (h.descend [name])
    exact h.set holds inside name
  | case3 listing name names _ ih => exact h.set (.inl rfl) (ih (h.descend [name])) name

theorem Grounded.erase {listing : Listing} (h : listing.Grounded) (location : Location) :
    (listing.erase location).Grounded := by
  fun_induction Listing.erase listing location with
  | case1 => exact grounded_nil
  | case2 listing name => exact h.remove name
  | case3 listing name names _ entry inside found ih =>
    obtain ⟨holds, grounded⟩ := h.find? found
    rcases holds with rfl | rfl
    · exact h.set (.inl rfl) (ih grounded) name
    · cases names with
      | nil => contradiction
      | cons next names =>
        refine h.set (.inr ?_) (ih grounded) name
        cases names <;> rfl
  | case4 => exact h

theorem Grounded.map {listing : Listing} (h : listing.Grounded) {change : Entry → Entry}
    (keeps : change .folder = .folder) : (listing.map change).Grounded := by
  induction listing with
  | nil => exact h
  | cons name entry inside others ih₁ ih₂ =>
    refine ⟨h.1.imp ?_ ?_, ih₁ h.2.1, ih₂ h.2.2⟩
    · rintro rfl
      exact keeps
    · rintro rfl
      rfl

/-! ## Listings as tables -/

/-- A row begins with a name of the listing. -/
theorem exists_of_mem_rows {listing : Listing} {row : Location × Entry}
    (h : row ∈ listing.rows) : ∃ name ∈ listing.names, ∃ names, row.1 = name :: names := by
  induction listing with
  | nil => simp [rows] at h
  | cons name entry inside others _ ih =>
    rcases List.mem_append.1 h with h | h
    · rcases List.mem_cons.1 h with rfl | h
      · exact ⟨name, List.mem_cons_self, [], rfl⟩
      · obtain ⟨inner, -, rfl⟩ := List.mem_map.1 h
        exact ⟨name, List.mem_cons_self, inner.1, rfl⟩
    · obtain ⟨other, hother, more⟩ := ih h
      exact ⟨other, List.mem_cons_of_mem _ hother, more⟩

/-- The rows of an ordered listing are in increasing order. -/
theorem pairwise_rows {listing : Listing} (h : listing.Ordered) :
    listing.rows.Pairwise (fun a b => a.1 < b.1) := by
  induction listing with
  | nil => exact .nil
  | cons name entry inside others ih₁ ih₂ =>
    obtain ⟨least, hinside, hothers⟩ := h
    unfold rows
    rw [List.pairwise_append, List.pairwise_cons, List.pairwise_map]
    refine ⟨⟨?_, (ih₁ hinside).imp fun before => List.cons_lt_cons_self.2 before⟩, ih₂ hothers, ?_⟩
    · intro row hrow
      obtain ⟨inner, hinner, rfl⟩ := List.mem_map.1 hrow
      obtain ⟨other, -, names, hnames⟩ := exists_of_mem_rows hinner
      simp [hnames]
    · intro row hrow later hlater
      obtain ⟨other, hother, names, hnames⟩ := exists_of_mem_rows hlater
      have : ∃ names, row.1 = name :: names := by
        rcases List.mem_cons.1 hrow with rfl | hrow
        · exact ⟨[], rfl⟩
        · obtain ⟨inner, -, rfl⟩ := List.mem_map.1 hrow
          exact ⟨inner.1, rfl⟩
      obtain ⟨first, hfirst⟩ := this
      rw [hnames, hfirst]
      exact List.Lex.rel (least other hother)

end Listing
end Files
end CoverageLink
