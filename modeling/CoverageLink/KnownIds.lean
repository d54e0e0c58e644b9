import CoverageLink.Text.Pieces

/-!
# Identifiers of artifacts already stored

The collector tells an agent which artifacts it has by sending their identifiers in one
line, separated by `|`.  On either side they are a set; its elements are kept in
increasing order of their UTF-8 octets, which is the order of their code points, so that
the line for a given set is unique.

The order is part of the type (`KnownIds.increasing`): no operation can produce two
equal elements or a line out of order.
-/

namespace CoverageLink

/-- A finite set of artifact identifiers, in increasing order. -/
structure KnownIds where
  ids : List String
  increasing : ids.Pairwise (· < ·)

namespace KnownIds

/-- The character between two identifiers in one line. -/
def separator : Char := '|'

/-- The set without elements. -/
def empty : KnownIds := ⟨[], .nil⟩

instance : Inhabited KnownIds := ⟨empty⟩

instance : DecidableEq KnownIds := fun a b =>
  decidable_of_iff (a.ids = b.ids) (by cases a; cases b; simp)

/-- A list in increasing order with one more element, at its place. -/
def place (id : String) : List String → List String
  | [] => [id]
  | first :: rest =>
    if id < first then id :: first :: rest
    else if first < id then first :: place id rest
    else first :: rest

theorem mem_place {id x : String} {ids : List String} (h : x ∈ place id ids) :
    x = id ∨ x ∈ ids := by
  induction ids with
  | nil => simpa [place] using h
  | cons first rest ih =>
    unfold place at h
    split at h
    · simpa using h
    · split at h
      · rcases List.mem_cons.1 h with rfl | h
        · simp
        · rcases ih h with rfl | h <;> simp [*]
      · exact Or.inr h

theorem pairwise_place (id : String) {ids : List String} (h : ids.Pairwise (· < ·)) :
    (place id ids).Pairwise (· < ·) := by
  induction ids with
  | nil => simp [place]
  | cons first rest ih =>
    obtain ⟨least, tail⟩ := List.pairwise_cons.1 h
    unfold place
    split
    · rename_i before
      refine List.pairwise_cons.2 ⟨?_, h⟩
      intro x hx
      rcases List.mem_cons.1 hx with rfl | hx
      · exact before
      · exact String.lt_trans before (least x hx)
    · split
      · rename_i after
        refine List.pairwise_cons.2 ⟨?_, ih tail⟩
        intro x hx
        rcases mem_place hx with rfl | hx
        · exact after
        · exact least x hx
      · exact h

/-- The set with one more element. -/
def insert (known : KnownIds) (id : String) : KnownIds :=
  ⟨place id known.ids, pairwise_place id known.increasing⟩

/-- The set of the elements of a list. -/
def ofList (ids : List String) : KnownIds := ids.foldl insert empty

/-- Whether an identifier is in the set. -/
def contains (known : KnownIds) (id : String) : Bool := known.ids.contains id

/-- The number of elements. -/
def size (known : KnownIds) : Nat := known.ids.length

/-- Whether there are no elements. -/
def isEmpty (known : KnownIds) : Bool := known.ids.isEmpty

/-- The set that a line lists; empty pieces name nothing. -/
def parse (line : String) : KnownIds :=
  ofList ((Text.pieces separator line).filter fun id => !id.isEmpty)

/-- The line that lists a set. -/
def line (known : KnownIds) : String := Text.join separator known.ids

@[simp] theorem ids_empty : empty.ids = [] := rfl

theorem mem_place_self (id : String) (ids : List String) : id ∈ place id ids := by
  induction ids with
  | nil => simp [place]
  | cons first rest ih =>
    unfold place
    split
    · simp
    · split
      · exact List.mem_cons_of_mem _ ih
      · rename_i notBelow notAbove
        have same : id = first := String.le_antisymm notAbove notBelow
        simp [same]

theorem mem_place_of_mem {id x : String} {ids : List String} (h : x ∈ ids) : x ∈ place id ids := by
  induction ids with
  | nil => cases h
  | cons first rest ih =>
    unfold place
    split
    · exact List.mem_cons_of_mem _ h
    · split
      · rcases List.mem_cons.1 h with rfl | h
        · simp
        · exact List.mem_cons_of_mem _ (ih h)
      · exact h

/-- After an insertion the set has the new element and the old ones. -/
theorem mem_ids_insert {known : KnownIds} {id x : String} :
    x ∈ (known.insert id).ids ↔ x = id ∨ x ∈ known.ids :=
  ⟨mem_place, fun h => h.elim (fun e => e ▸ mem_place_self id known.ids) mem_place_of_mem⟩

end KnownIds
end CoverageLink
