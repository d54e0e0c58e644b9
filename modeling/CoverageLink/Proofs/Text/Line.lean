import CoverageLink.KnownIds
import CoverageLink.ProjectInfo

/-!
# Splitting a line that was joined

A list of texts is joined into one line with a separator between each two, and the line
is split at every separator.  The pieces of a line are the pieces of the texts in it, one
after the other (`pieces_join`): whoever puts a separator *inside* a text gets it back as
two.  The other way round nothing is lost: a text is its pieces, joined (`join_pieces`).

Two formats rest on this.  A project line refuses texts with a separator, so it spells
exactly its six texts (`ProjectInfo.parse_line`).  A line of identifiers refuses nothing,
so it spells the identifiers cut at every separator (`KnownIds.parse_line`), a set that
`KnownIds.divided` describes without mention of the line.
-/

namespace CoverageLink
namespace Text

/-- **A separator ends a piece.**  What is on either side of it is split by itself. -/
theorem piecesOf_append_cons (separator : Char) (before after : List Char) :
    piecesOf separator (before ++ separator :: after) =
      piecesOf separator before ++ piecesOf separator after := by
  have general (piece : List Char) :
      splitInto separator piece [] (before ++ separator :: after) =
        splitInto separator piece [] before ++ splitInto separator [] [] after := by
    induction before generalizing piece with
    | nil =>
      have ended : splitInto separator piece [] (separator :: after) =
          splitInto separator [] [piece.reverse] after := by
        rw [splitInto, if_pos rfl]
      rw [List.nil_append, ended, splitInto_eq]
      rfl
    | cons c rest ih =>
      rw [List.cons_append, splitInto, splitInto]
      split
      · rw [splitInto_eq, splitInto_eq separator [] [piece.reverse] rest, ih, List.append_assoc]
      · exact ih (c :: piece)
  exact general []

theorem pieces_push_append (separator : Char) (line text : String) :
    pieces separator (line.push separator ++ text) =
      pieces separator line ++ pieces separator text := by
  have characters : (line.push separator ++ text).toList =
      line.toList ++ separator :: text.toList := by
    rw [String.toList_append, String.toList_push, List.append_assoc, List.singleton_append]
  rw [pieces, characters, piecesOf_append_cons, List.map_append]
  rfl

/-- **The pieces of a line are the pieces of the texts in it.** -/
theorem pieces_join (separator : Char) (first : String) (rest : List String) :
    pieces separator (join separator (first :: rest)) =
      (first :: rest).flatMap (pieces separator) := by
  rw [join, List.flatMap_cons]
  induction rest generalizing first with
  | nil => rw [List.foldl_nil, List.flatMap_nil, List.append_nil]
  | cons text rest ih =>
    rw [List.foldl_cons, ih, pieces_push_append, List.flatMap_cons, List.append_assoc]

/-- A text is its first piece alone, or the first piece, a separator and the rest. -/
theorem cases_piecesOf (separator : Char) (text : List Char) :
    (separator ∉ text ∧ piecesOf separator text = [text]) ∨
      ∃ first rest, separator ∉ first ∧ text = first ++ separator :: rest ∧
        piecesOf separator text = first :: piecesOf separator rest := by
  by_cases whole : separator ∈ text
  · obtain ⟨first, rest, rfl, before⟩ := List.eq_append_cons_of_mem whole
    refine .inr ⟨first, rest, before, rfl, ?_⟩
    rw [piecesOf_append_cons, piecesOf_eq_singleton before, List.singleton_append]
  · exact .inl ⟨whole, piecesOf_eq_singleton whole⟩

/-- There is always a first piece. -/
theorem exists_cons_piecesOf (separator : Char) (text : List Char) :
    ∃ first rest, piecesOf separator text = first :: rest := by
  rcases cases_piecesOf separator text with ⟨-, pieces⟩ | ⟨first, rest, -, -, pieces⟩
  · exact ⟨text, [], pieces⟩
  · exact ⟨first, _, pieces⟩

/-- No piece holds the separator. -/
theorem not_mem_of_mem_piecesOf {separator : Char} {text piece : List Char}
    (member : piece ∈ piecesOf separator text) : separator ∉ piece := by
  rcases cases_piecesOf separator text with ⟨whole, pieces⟩ | ⟨first, rest, before, split, pieces⟩
  · rw [pieces, List.mem_singleton] at member
    exact member ▸ whole
  · have shorter : rest.length < text.length := by
      rw [split, List.length_append, List.length_cons]
      omega
    rw [pieces, List.mem_cons] at member
    rcases member with rfl | later
    · exact before
    · exact not_mem_of_mem_piecesOf later
termination_by text.length

theorem not_mem_of_mem_pieces {separator : Char} {text piece : String}
    (member : piece ∈ pieces separator text) : separator ∉ piece.toList := by
  obtain ⟨characters, there, rfl⟩ := List.mem_map.1 member
  rw [String.toList_ofList]
  exact not_mem_of_mem_piecesOf there

theorem pieces_of_not_mem {separator : Char} {text : String}
    (h : separator ∉ text.toList) : pieces separator text = [text] := by
  rw [pieces, piecesOf_eq_singleton h, List.map_singleton, String.ofList_toList]

theorem pieces_empty (separator : Char) : pieces separator "" = [""] :=
  pieces_of_not_mem (List.not_mem_nil)

/-- Texts without the separator are their own pieces. -/
theorem flatMap_pieces_of_not_mem {separator : Char} {texts : List String}
    (h : ∀ text ∈ texts, separator ∉ text.toList) :
    texts.flatMap (pieces separator) = texts := by
  induction texts with
  | nil => rfl
  | cons text rest ih =>
    rw [List.flatMap_cons, pieces_of_not_mem (h text List.mem_cons_self),
      ih fun other member => h other (List.mem_cons_of_mem text member), List.singleton_append]

/-- The first text of a line comes before the first separator. -/
theorem join_cons (separator : Char) (first : String) {rest : List String} (more : rest ≠ []) :
    join separator (first :: rest) = first.push separator ++ join separator rest := by
  obtain ⟨second, others, rfl⟩ := List.exists_cons_of_ne_nil more
  have general (front line : String) :
      others.foldl (fun line text => (line.push separator) ++ text) (front ++ line) =
        front ++ others.foldl (fun line text => (line.push separator) ++ text) line := by
    induction others generalizing line with
    | nil => rfl
    | cons text others ih =>
      have regrouped : (front ++ line).push separator ++ text =
          front ++ (line.push separator ++ text) := String.toList_inj.1 (by simp)
      rw [List.foldl_cons, List.foldl_cons, regrouped, ih (List.cons_ne_nil _ _)]
  rw [join, join, List.foldl_cons]
  exact general _ second

/-- A line is the texts with the separator put between them. -/
theorem join_eq_intercalate (separator : Char) (texts : List String) :
    join separator texts = String.intercalate (String.singleton separator) texts := by
  induction texts with
  | nil => rw [join_nil, String.intercalate_nil]
  | cons first rest ih =>
    match rest with
    | [] => rw [join_singleton, String.intercalate_singleton]
    | second :: others =>
      have more : second :: others ≠ [] := List.cons_ne_nil second others
      rw [join_cons separator first more, ih, String.intercalate_cons_of_ne_nil more,
        String.push_eq_append]

theorem join_piecesOf (separator : Char) (text : List Char) :
    join separator ((piecesOf separator text).map String.ofList) = String.ofList text := by
  rcases cases_piecesOf separator text with ⟨-, pieces⟩ | ⟨first, rest, -, split, pieces⟩
  · rw [pieces]
    rfl
  · have shorter : rest.length < text.length := by
      rw [split, List.length_append, List.length_cons]
      omega
    have further : (piecesOf separator rest).map String.ofList ≠ [] := by
      obtain ⟨second, others, more⟩ := exists_cons_piecesOf separator rest
      simp [more]
    rw [pieces, List.map_cons, join_cons _ _ further, join_piecesOf separator rest, split]
    exact String.toList_inj.1 (by simp)
termination_by text.length

/-- **A text is its pieces, joined.** -/
theorem join_pieces (separator : Char) (text : String) :
    join separator (pieces separator text) = text := by
  rw [pieces, join_piecesOf, String.ofList_toList]

end Text

/-- **A project line spells its texts**, if none of them holds the separator. -/
theorem ProjectInfo.parse_line {info : ProjectInfo}
    (h : ∀ text ∈ info.fields, '|' ∉ text.toList) :
    ProjectInfo.parse (Text.join '|' info.fields) = .ok info := by
  have spelled : Text.pieces '|' (Text.join '|' info.fields) = info.fields := by
    rw [show Text.join '|' info.fields = Text.join '|' (info.product :: info.fields.tail) from rfl,
      Text.pieces_join]
    exact Text.flatMap_pieces_of_not_mem h
  rw [ProjectInfo.parse, spelled, ofFields_fields]

namespace KnownIds

/-- The set of the non-empty pieces of the identifiers. -/
def divided (known : KnownIds) : KnownIds :=
  ofList ((known.ids.flatMap (Text.pieces separator)).filter fun id => !id.isEmpty)

/-- **A line of identifiers spells their pieces.** -/
theorem parse_line (known : KnownIds) : parse known.line = known.divided := by
  obtain ⟨ids, increasing⟩ := known
  unfold parse line divided
  match ids with
  | [] => rw [Text.join_nil, Text.pieces_empty]; rfl
  | first :: rest => rw [Text.pieces_join]

end KnownIds
end CoverageLink
