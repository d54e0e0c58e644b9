import CoverageLink.Artifact.Id
import CoverageLink.Proofs.Collector.Naming

/-!
# Two spellings, one file, two identifiers

An agent names an artifact and the collector stores it at the names that this asks for: without the
empty pieces and the dots (`Path.names?`).  The identifier, however, is computed from the text.  So
the two sides mean the same only if the text is spelled as the names are (`PlainlySpelled`), or if
there is a hash in its last piece, because then the rest of the text does not matter.  There is no
third way (`identifier_eq_iff`).

## 1.  The last piece

The hash is looked for behind the last slash, and what stands there is the last of the pieces
between slashes (`getLast?_pieces`).

## 2.  Names of their own

What asks for ordinary names spells them as they are (`names?_join`).

## 3.  When the identifiers agree
-/

namespace CoverageLink
namespace Artifact

open Files (Ordinary Path)

/-! ## 1.  The last piece -/

theorem behindLast_append_cons (separator : Char) (before after : List Char) :
    behindLast separator (before ++ separator :: after) = behindLast separator after := by
  rw [behindLast, behindLast, List.reverse_append, List.reverse_cons, List.append_assoc,
    List.singleton_append, List.takeWhile_append]
  split
  · rename_i whole
    have all : after.reverse.takeWhile (· != separator) = after.reverse :=
      (List.takeWhile_sublist _).eq_of_length whole
    rw [all, List.takeWhile_cons_of_neg (by simp), List.append_nil]
  · rfl

theorem behindLast_of_not_mem {separator : Char} {text : List Char} (none : separator ∉ text) :
    behindLast separator text = text := by
  have others (c : Char) (member : c ∈ text.reverse) : (c != separator) = true := by
    have other : c ≠ separator := fun same => none (same ▸ List.mem_reverse.1 member)
    simpa using other
  have all : (text.reverse ++ []).takeWhile (· != separator) =
      text.reverse ++ [].takeWhile (· != separator) := List.takeWhile_append_of_pos others
  rw [List.append_nil, List.takeWhile_nil, List.append_nil] at all
  rw [behindLast, all, List.reverse_reverse]

theorem getLast?_piecesOf (separator : Char) (text : List Char) :
    (Text.piecesOf separator text).getLast? = some (behindLast separator text) := by
  rcases Text.cases_piecesOf separator text with ⟨whole, pieces⟩ | ⟨first, rest, -, split, pieces⟩
  · rw [pieces, behindLast_of_not_mem whole]
    rfl
  · have shorter : rest.length < text.length := by
      rw [split, List.length_append, List.length_cons]
      omega
    rw [pieces, List.getLast?_cons, getLast?_piecesOf separator rest, split,
      behindLast_append_cons]
    rfl
termination_by text.length

/-- **What stands behind the last separator is the last piece.** -/
theorem getLast?_pieces (separator : Char) (text : String) :
    (Text.pieces separator text).getLast? =
      some (String.ofList (behindLast separator text.toList)) := by
  rw [Text.pieces, List.getLast?_map, getLast?_piecesOf]
  rfl

/-- The hash in the last piece of a path. -/
def hashIn? (path : String) : Option (List Char) := hashOf? (behindLast Path.separator path.toList)

theorem identifier_eq (path : String) :
    identifier path = ((hashIn? path).map String.ofList).getD path := by
  unfold identifier hashIn?
  rw [show '/' = Path.separator from rfl]
  cases hashOf? (behindLast Path.separator path.toList) <;> rfl

/-- Paths with the same last piece have the same hash. -/
theorem hashIn?_congr {path other : String}
    (same : (Text.pieces Path.separator path).getLast? =
      (Text.pieces Path.separator other).getLast?) : hashIn? path = hashIn? other := by
  rw [getLast?_pieces, getLast?_pieces] at same
  have characters := String.ofList_injective (Option.some.inj same)
  rw [hashIn?, hashIn?, characters]

/-- A hash consists of hexadecimal digits. -/
theorem hex_of_hashOf? {fileName hash : List Char} (found : hashOf? fileName = some hash) :
    hash ≠ [] ∧ ∀ c ∈ hash, isHexDigit c = true := by
  simp only [hashOf?, Option.bind_eq_bind, Option.bind_eq_some_iff] at found
  obtain ⟨stem, -, ⟨name, digits⟩, -, found⟩ := found
  simp only at found
  split at found
  · rename_i fine
    obtain rfl := Option.some.inj found
    simp only [Bool.and_eq_true, Bool.not_eq_true', List.isEmpty_eq_false_iff, List.all_eq_true]
      at fine
    exact ⟨fine.1.2, fine.2⟩
  · cases found

/-! ## 2.  Names of their own -/

/-- A name that is spelled as its artifact is stored: it has no pieces that ask for nothing. -/
def PlainlySpelled (name : String) : Prop :=
  (Path.ofText name).names? = some (Text.pieces Path.separator name)

instance (name : String) : Decidable (PlainlySpelled name) :=
  inferInstanceAs (Decidable (_ = _))

/-- Ordinary names are the pieces of the text that they are joined to. -/
theorem pieces_join_of_ordinary {names : List String} (ordinary : ∀ name ∈ names, Ordinary name)
    (some_names : names ≠ []) :
    Text.pieces Path.separator (Text.join Path.separator names) = names := by
  obtain ⟨first, rest, rfl⟩ := List.exists_cons_of_ne_nil some_names
  rw [Text.pieces_join]
  exact Text.flatMap_pieces_of_not_mem fun name member => (ordinary name member).no_separator

/-- **Ordinary names are asked for by the text that they are joined to.** -/
theorem names?_join {names : List String} (ordinary : ∀ name ∈ names, Ordinary name)
    (some_names : names ≠ []) :
    (Path.ofText (Text.join Path.separator names)).names? = some names := by
  have pieces := pieces_join_of_ordinary ordinary some_names
  rw [Path.names?_ofText_eq_some_iff, pieces]
  refine ⟨?_, fun up => (ordinary _ up).not_dots rfl, ?_, some_names⟩
  · rw [ne_eq, ← Path.isAbsolute_ofText, Path.ofText, pieces]
    obtain ⟨first, rest, rfl⟩ := List.exists_cons_of_ne_nil some_names
    rw [Path.isAbsolute_eq_false (ordinary first List.mem_cons_self).nonempty]
    exact Bool.false_ne_true
  · refine (List.filter_eq_self.2 fun name member => ?_).symm
    have known := ordinary name member
    simp [known.nonempty, known.not_dot]

theorem plainlySpelled_join {names : List String} (ordinary : ∀ name ∈ names, Ordinary name)
    (some_names : names ≠ []) : PlainlySpelled (Text.join Path.separator names) := by
  rw [PlainlySpelled, names?_join ordinary some_names,
    pieces_join_of_ordinary ordinary some_names]

/-- A hash is a name of its own. -/
theorem plainlySpelled_hash {path : String} {hash : List Char} (found : hashIn? path = some hash) :
    PlainlySpelled (String.ofList hash) := by
  obtain ⟨full, hex⟩ := hex_of_hashOf? found
  have without {c : Char} (other : isHexDigit c = false) : c ∉ hash := fun member => by
    rw [hex c member] at other
    cases other
  have not_text {text : String} (c : Char) (there : c ∈ text.toList)
      (other : isHexDigit c = false) : String.ofList hash ≠ text := by
    rintro rfl
    rw [String.toList_ofList] at there
    exact without other there
  have ordinary : Ordinary (String.ofList hash) := by
    refine ⟨by simpa using full, not_text '.' (by decide) (by decide),
      not_text '.' (by decide) (by decide), ?_⟩
    rw [String.toList_ofList]
    exact without (by decide)
  have alone : PlainlySpelled (Text.join Path.separator [String.ofList hash]) :=
    plainlySpelled_join (fun name member => List.mem_singleton.1 member ▸ ordinary)
      (List.cons_ne_nil _ _)
  rwa [Text.join_singleton] at alone

/-! ## 3.  When the identifiers agree -/

variable {name : String} {names : List String}

/-- The names that a text asks for end as the text does, if that is with a name. -/
theorem getLast?_names (asked : (Path.ofText name).names? = some names)
    (hashed : (hashIn? name).isSome = true) :
    names.getLast? = (Text.pieces Path.separator name).getLast? := by
  obtain ⟨-, -, rfl, -⟩ := Path.names?_ofText_eq_some_iff.1 asked
  have last := getLast?_pieces Path.separator name
  obtain ⟨front, whole⟩ := List.getLast?_eq_some_iff.1 last
  have not_text (text : List Char) (unhashed : hashOf? text = none) :
      String.ofList (behindLast Path.separator name.toList) ≠ String.ofList text := by
    intro same
    have characters := String.ofList_injective same
    rw [hashIn?, characters, unhashed] at hashed
    cases hashed
  have kept : String.ofList (behindLast Path.separator name.toList) ≠ "" ∧
      String.ofList (behindLast Path.separator name.toList) ≠ "." :=
    ⟨not_text [] (by decide), not_text ['.'] (by decide)⟩
  rw [whole, List.filter_append, List.filter_cons_of_pos (by simpa using kept), List.filter_nil,
    List.getLast?_concat, List.getLast?_concat]

/-- A text without a hash is the identifier of a file only if it is spelled as its names are. -/
theorem plainlySpelled_of_identifier_eq (unhashed : hashIn? name = none)
    (ordinary : ∀ name ∈ names, Ordinary name) (some_names : names ≠ [])
    (same : identifier name = identifier (Text.join Path.separator names)) :
    PlainlySpelled name := by
  rw [identifier_eq name, unhashed, identifier_eq] at same
  rcases found : hashIn? (Text.join Path.separator names) with _ | hash
  · rw [found] at same
    rw [show name = Text.join Path.separator names from same]
    exact plainlySpelled_join ordinary some_names
  · rw [found] at same
    rw [show name = String.ofList hash from same]
    exact plainlySpelled_hash found

/-- **The identifiers agree** if the text is spelled as the names are, or if there is a hash at its
end, and otherwise they do not. -/
theorem identifier_eq_iff (asked : (Path.ofText name).names? = some names) :
    identifier name = identifier (Text.join Path.separator names) ↔
      PlainlySpelled name ∨ (hashIn? name).isSome = true := by
  have ordinary := Path.ordinary_of_names? asked
  have some_names := Path.ne_nil_of_names? asked
  constructor
  · intro same
    by_cases hashed : (hashIn? name).isSome = true
    · exact .inr hashed
    · rw [Option.not_isSome_iff_eq_none] at hashed
      exact .inl (plainlySpelled_of_identifier_eq hashed ordinary some_names same)
  · rintro (plain | hashed)
    · obtain rfl := Option.some.inj (asked.symm.trans plain)
      rw [Text.join_pieces]
    · have last : hashIn? (Text.join Path.separator names) = hashIn? name := by
        refine hashIn?_congr ?_
        rw [pieces_join_of_ordinary ordinary some_names, getLast?_names asked hashed]
      obtain ⟨hash, found⟩ := Option.isSome_iff_exists.1 hashed
      rw [identifier_eq, identifier_eq, last, found]
      rfl

end Artifact
end CoverageLink
