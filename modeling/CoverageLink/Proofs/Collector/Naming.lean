import CoverageLink.Collector.Naming
import CoverageLink.Proofs.Files.Descent

/-!
# Names that keep to their folder

Two kinds of text become part of a path, and they are treated differently.

What an agent says about itself is *rewritten*: `component` makes one ordinary component out of any
text (`ordinary_component`).  The name of an artifact is *read*: it is taken apart at its slashes,
and it is refused if it starts at the top, goes up, or asks for nothing.  What is left over
otherwise are its ordinary components, in their order and no others (`names?_ofText_eq_some_iff`),
so an agent can choose them freely, and a name that is not refused can only go down.
-/

namespace CoverageLink
namespace Files

/-- An ordinary path component: a host reads it as one name, and as nothing else. -/
structure Ordinary (segment : String) : Prop where
  nonempty : segment ≠ ""
  not_dot : segment ≠ "."
  not_dots : segment ≠ ".."
  no_separator : Path.separator ∉ segment.toList

instance (segment : String) : Decidable (Ordinary segment) :=
  decidable_of_iff
    (segment ≠ "" ∧ segment ≠ "." ∧ segment ≠ ".." ∧ Path.separator ∉ segment.toList)
    ⟨fun ⟨nonempty, not_dot, not_dots, no_separator⟩ =>
        ⟨nonempty, not_dot, not_dots, no_separator⟩,
      fun ⟨nonempty, not_dot, not_dots, no_separator⟩ =>
        ⟨nonempty, not_dot, not_dots, no_separator⟩⟩

theorem Ordinary.ofSegment {segment : String} (ordinary : Ordinary segment) :
    Step.ofSegment segment = .name segment :=
  Step.ofSegment_eq_name_iff.2 ⟨ordinary.nonempty, ordinary.not_dot, ordinary.not_dots⟩

namespace Step

theorem ofSegment_eq_up_iff {segment : String} : ofSegment segment = .up ↔ segment = ".." := by
  unfold ofSegment isIdle
  by_cases dots : segment = ".."
  · simp [dots]
  · split <;> simp [dots]

end Step

namespace Path

theorem contains_up_steps (path : Path) :
    path.steps.contains .up = true ↔ ".." ∈ path.segments := by
  rw [List.contains_iff_mem, steps, stepsOf, List.mem_map]
  constructor
  · rintro ⟨segment, member, up⟩
    rw [← Step.ofSegment_eq_up_iff.1 up]
    exact (List.mem_filter.1 member).1
  · intro member
    exact ⟨"..", List.mem_filter.2 ⟨member, rfl⟩, rfl⟩

/-- The names that pieces ask for are the pieces that are names. -/
theorem filterMap_name?_stepsOf {segments : List String} (down : ".." ∉ segments) :
    (stepsOf segments).filterMap Step.name? =
      segments.filter fun segment => segment ≠ "" ∧ segment ≠ "." := by
  induction segments with
  | nil => rfl
  | cons segment segments ih =>
    have notUp : segment ≠ ".." := fun same => down (same ▸ List.mem_cons_self)
    have rest := ih fun later => down (List.mem_cons_of_mem segment later)
    rw [stepsOf] at rest ⊢
    rw [List.filter_cons, List.filter_cons]
    by_cases empty : segment = ""
    · simpa [empty] using rest
    by_cases dot : segment = "."
    · subst dot
      rw [if_pos (by decide), if_neg (by decide), List.map_cons]
      exact rest
    · have step : Step.ofSegment segment = .name segment :=
        Step.ofSegment_eq_name_iff.2 ⟨empty, dot, notUp⟩
      simpa [empty, dot, step, Step.name?] using rest

/-- A path starts at the top if its text begins with a slash. -/
theorem isAbsolute_ofText (text : String) :
    (ofText text).isAbsolute = true ↔ text.toList.head? = some separator := by
  rw [ofText, Text.pieces]
  rcases Text.cases_piecesOf separator text.toList with ⟨whole, pieces⟩ |
    ⟨first, rest, before, split, pieces⟩
  · rw [pieces]
    rw [List.map_singleton, isAbsolute_singleton]
    refine iff_of_false Bool.false_ne_true fun slash => whole ?_
    exact List.mem_of_head? slash
  · rw [pieces, split]
    cases first with
    | nil =>
      refine iff_of_true ?_ rfl
      obtain ⟨second, others, more⟩ := Text.exists_cons_piecesOf separator rest
      rw [more]
      rfl
    | cons c first =>
      have other : c ≠ separator := fun same => before (same ▸ List.mem_cons_self)
      have full : String.ofList (c :: first) ≠ "" := by simp
      rw [List.map_cons, isAbsolute_eq_false full]
      refine iff_of_false Bool.false_ne_true fun slash => other ?_
      exact Option.some.inj slash

/-- **The names that a text asks for.**  They are its pieces between slashes other than the empty
ones and dots, provided that there are any, that no piece is two dots, and that the text does not
begin with a slash. -/
theorem names?_ofText_eq_some_iff {text : String} {names : List String} :
    (ofText text).names? = some names ↔
      text.toList.head? ≠ some separator ∧ ".." ∉ Text.pieces separator text ∧
        names = (Text.pieces separator text).filter (fun piece => piece ≠ "" ∧ piece ≠ ".") ∧
        names ≠ [] := by
  rw [names?]
  by_cases absolute : (ofText text).isAbsolute = true
  · have slash := (isAbsolute_ofText text).1 absolute
    simp [absolute, slash]
  have begins : text.toList.head? ≠ some separator := fun slash =>
    absolute ((isAbsolute_ofText text).2 slash)
  by_cases up : ".." ∈ Text.pieces separator text
  · have goes : ((ofText text).isAbsolute || (ofText text).steps.contains .up) = true := by
      rw [(contains_up_steps (ofText text)).2 up, Bool.or_true]
    rw [if_pos goes]
    exact iff_of_false nofun fun asked => asked.2.1 up
  have down : (ofText text).steps.contains .up = false :=
    Bool.eq_false_iff.2 fun goes => up ((contains_up_steps _).1 goes)
  rw [Bool.eq_false_iff.2 absolute, down, Bool.or_false, if_neg Bool.false_ne_true, steps,
    show (ofText text).segments = Text.pieces separator text from rfl, filterMap_name?_stepsOf up]
  generalize (Text.pieces separator text).filter
    (fun piece => decide (piece ≠ "" ∧ piece ≠ ".")) = asked
  cases asked with
  | nil => simp [begins, up]
  | cons first rest =>
    simp only [Option.some.injEq, begins, up, ne_eq, not_false_eq_true, true_and]
    constructor
    · rintro rfl
      exact ⟨rfl, List.cons_ne_nil _ _⟩
    · exact fun asked => asked.1.symm

/-- What a name asks for are ordinary components. -/
theorem ordinary_of_names? {text : String} {names : List String}
    (asked : (ofText text).names? = some names) : ∀ name ∈ names, Ordinary name := by
  obtain ⟨-, up, rfl, -⟩ := names?_ofText_eq_some_iff.1 asked
  intro name member
  obtain ⟨piece, kept⟩ := List.mem_filter.1 member
  obtain ⟨full, notDot⟩ := of_decide_eq_true kept
  exact ⟨full, notDot, fun same => up (same ▸ piece), Text.not_mem_of_mem_pieces piece⟩

/-- They ask for the entries of their names. -/
theorem ofSegment_of_names? {text : String} {names : List String}
    (asked : (ofText text).names? = some names) :
    ∀ name ∈ names, Step.ofSegment name = .name name :=
  fun name member => (ordinary_of_names? asked name member).ofSegment

theorem ne_nil_of_names? {text : String} {names : List String}
    (asked : (ofText text).names? = some names) : names ≠ [] :=
  (names?_ofText_eq_some_iff.1 asked).2.2.2

end Path
end Files

namespace Collector

open Files (Ordinary Path)

/-- Neither a slash nor the zero character may stand in a component. -/
theorem isComponentChar_eq_false :
    isComponentChar Path.separator = false ∧ isComponentChar '\x00' = false := by
  decide

/-- Every character of a component is one that may stand there. -/
theorem isComponentChar_of_mem_component {text : String} {c : Char}
    (member : c ∈ (component text).toList) : isComponentChar c = true := by
  have literal {fixed : String} (all : fixed.toList.all isComponentChar = true)
      (member : c ∈ fixed.toList) : isComponentChar c = true := List.all_eq_true.1 all c member
  unfold component at member
  simp only at member
  split at member
  · exact literal (by decide) member
  split at member
  · exact literal (by decide) member
  split at member
  · exact literal (by decide) member
  · rw [String.toList_ofList] at member
    obtain ⟨original, -, rfl⟩ := List.mem_map.1 member
    split
    · assumption
    · decide

/-- **A component is ordinary**, whatever text it is made from. -/
theorem ordinary_component (text : String) : Ordinary (component text) := by
  have no_separator : Path.separator ∉ (component text).toList := fun member => by
    have allowed := isComponentChar_of_mem_component member
    rw [isComponentChar_eq_false.1] at allowed
    cases allowed
  have other : component text ≠ "" ∧ component text ≠ "." ∧ component text ≠ ".." := by
    unfold component
    simp only
    generalize text.toList.map (fun c => if isComponentChar c = true then c else '_') = characters
    have spelled {fixed : String} (same : String.ofList characters = fixed) :
        characters = fixed.toList := by
      rw [← same, String.toList_ofList]
    by_cases empty : characters = []
    · rw [if_pos empty]
      decide
    by_cases dot : characters = ['.']
    · rw [if_neg empty, if_pos dot]
      decide
    by_cases dots : characters = ['.', '.']
    · rw [if_neg empty, if_neg dot, if_pos dots]
      decide
    · rw [if_neg empty, if_neg dot, if_neg dots]
      exact ⟨fun same => empty (spelled same), fun same => dot (spelled same),
        fun same => dots (spelled same)⟩
  exact ⟨other.1, other.2.1, other.2.2, no_separator⟩

/-- The name of a file of execution data is ordinary, whatever its label is. -/
theorem ordinary_component_append (label : String) : Ordinary (component label ++ ".exec") := by
  have long : 5 ≤ (component label ++ ".exec").toList.length := by
    rw [String.toList_append, List.length_append]
    exact Nat.le_add_left 5 _
  have other {fixed : String} (short : fixed.toList.length < 5) :
      component label ++ ".exec" ≠ fixed := by
    intro same
    rw [same] at long
    omega
  refine ⟨other (by decide), other (by decide), other (by decide), fun member => ?_⟩
  rw [String.toList_append, List.mem_append] at member
  rcases member with front | ending
  · exact (ordinary_component label).no_separator front
  · exact absurd ending (by decide)

/-- Nothing the collector makes up holds the zero character, which no host takes in a path. -/
theorem nul_not_mem_component (text : String) : '\x00' ∉ (component text).toList := by
  intro member
  have allowed := isComponentChar_of_mem_component member
  rw [isComponentChar_eq_false.2] at allowed
  cases allowed

theorem nul_not_mem_component_append (label : String) :
    '\x00' ∉ (component label ++ ".exec").toList := by
  rw [String.toList_append, List.mem_append]
  rintro (front | ending)
  · exact nul_not_mem_component label front
  · exact absurd ending (by decide)

end Collector
end CoverageLink
