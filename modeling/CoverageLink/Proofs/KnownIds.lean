import CoverageLink.Proofs.Text.Line
import CoverageLink.Proofs.Text.Utf8

/-!
# Sets of identifiers

A set of identifiers travels as a line.  What matters about it are its elements, because a set is
determined by them (`KnownIds.ext_iff`), and the length of its line, because a line that is too long
cannot travel.

## 1.  Elements

The elements are given for a list of identifiers (`mem_ofList`), for a line (`mem_parse`) and for
what comes back of a set when its line is taken apart (`mem_divided`).  A set that was taken from a
line comes back as it is (`divided_parse`), whatever the line was.

## 2.  Lengths

A line with a separator behind it consists of its texts, each with a separator behind it
(`Text.encode_join_append`), so lines can be compared text by text.  A set has each of its elements
once, so its line is not longer than any line it was taken from (`length_line_parse_le`).

## 3.  Lines and sets

Taking a line apart and writing the line of a set are inverse to each other as far as they can be
(`line_law`).  The line of what a line lists is that line put in order: its pieces, each once, the
empty ones left out, sorted by their octets.  And a set comes back from its line exactly if its
elements could be pieces of a line, which is all that is asked: an element that holds a separator
never comes back, even if each of its pieces is in the set as well.
-/

namespace CoverageLink

/-! ## 1.  Elements -/

namespace KnownIds

variable {known other : KnownIds} {id : String}

/-- **Sets with the same elements are the same.** -/
theorem ext_iff : known = other ↔ ∀ id, id ∈ known.ids ↔ id ∈ other.ids := by
  refine ⟨fun same id => same ▸ Iff.rfl, fun same => ?_⟩
  obtain ⟨ids, increasing⟩ := known
  obtain ⟨ids', increasing'⟩ := other
  have distinct {ids : List String} (increasing : ids.Pairwise (· < ·)) : ids.Nodup :=
    increasing.imp fun less => String.ne_of_lt less
  have perm : ids.Perm ids' :=
    (List.perm_ext_iff_of_nodup (distinct increasing) (distinct increasing')).2 same
  have equal := perm.eq_of_pairwise
    (fun a b _ _ less more => absurd more (String.lt_asymm less)) increasing increasing'
  subst equal
  rfl

/-- The elements of the set of a list are those of the list. -/
theorem mem_ofList {ids : List String} : id ∈ (ofList ids).ids ↔ id ∈ ids := by
  have general (known : KnownIds) :
      id ∈ (ids.foldl insert known).ids ↔ id ∈ known.ids ∨ id ∈ ids := by
    induction ids generalizing known with
    | nil => simp
    | cons first rest ih =>
      rw [List.foldl_cons, ih, mem_ids_insert, List.mem_cons, or_assoc, or_left_comm]
  rw [ofList, general]
  simp

/-- The elements of what a line lists are its pieces, without the empty ones. -/
theorem mem_parse {text id : String} :
    id ∈ (parse text).ids ↔ id ≠ "" ∧ id ∈ Text.pieces separator text := by
  rw [parse, mem_ofList, List.mem_filter, and_comm]
  simp

/-- What arrives are the pieces of the identifiers that are not empty. -/
theorem mem_divided :
    id ∈ known.divided.ids ↔ id ≠ "" ∧ ∃ whole ∈ known.ids, id ∈ Text.pieces separator whole := by
  rw [divided, mem_ofList, List.mem_filter, List.mem_flatMap, and_comm]
  simp

/-- **A set arrives as it is** exactly if no identifier in it is empty or holds the separator. -/
theorem divided_eq_iff :
    known.divided = known ↔ ∀ id ∈ known.ids, id ≠ "" ∧ separator ∉ id.toList := by
  rw [ext_iff]
  refine ⟨fun same id member => ?_, fun clean id => ?_⟩
  · obtain ⟨full, whole, -, piece⟩ := mem_divided.1 ((same id).2 member)
    exact ⟨full, Text.not_mem_of_mem_pieces piece⟩
  · rw [mem_divided]
    refine ⟨fun ⟨_, whole, member, piece⟩ => ?_,
      fun member => ⟨(clean id member).1, id, member, ?_⟩⟩
    · rw [Text.pieces_of_not_mem (clean whole member).2, List.mem_singleton] at piece
      exact piece ▸ member
    · rw [Text.pieces_of_not_mem (clean id member).2]
      exact List.mem_singleton_self id

/-- **What was taken from a line arrives as it is**, whatever the line was. -/
theorem divided_parse (line : String) : (parse line).divided = parse line := by
  refine divided_eq_iff.2 fun id member => ?_
  obtain ⟨full, piece⟩ := mem_parse.1 member
  exact ⟨full, Text.not_mem_of_mem_pieces piece⟩

end KnownIds

/-! ## 2.  Lengths -/

namespace Text

/-- The octets of a text and of a separator behind it. -/
def terminated (separator : Char) (text : String) : Bytes :=
  Utf8.encode text ++ String.utf8EncodeChar separator

/-- **A line and a separator behind it** are the texts, each of them with a separator behind it. -/
theorem encode_join_append (separator : Char) (first : String) (rest : List String) :
    Utf8.encode (join separator (first :: rest)) ++ String.utf8EncodeChar separator =
      (first :: rest).flatMap (terminated separator) := by
  rw [join, List.flatMap_cons]
  induction rest generalizing first with
  | nil => exact (List.append_nil _).symm
  | cons text rest ih =>
    have both : terminated separator (first.push separator ++ text) =
        terminated separator first ++ terminated separator text := by
      simp only [terminated, Utf8.encode, String.toList_append, String.toList_push,
        List.flatMap_append, List.flatMap_singleton, List.append_assoc]
    rw [List.foldl_cons, ih, both, List.flatMap_cons, List.append_assoc]

end Text

namespace KnownIds

open Text (terminated)

variable (spell : String → Bytes)

theorem length_place_le (id : String) (ids : List String) :
    ((place id ids).flatMap spell).length ≤ (spell id).length + (ids.flatMap spell).length := by
  induction ids with
  | nil => simp [place]
  | cons first rest ih =>
    unfold place
    split
    · simp
    · split
      · simp only [List.flatMap_cons, List.length_append]
        omega
      · simp

/-- The elements of the set of a list are not longer than the list, in which they may be repeated. -/
theorem length_ofList_le (ids : List String) :
    ((ofList ids).ids.flatMap spell).length ≤ (ids.flatMap spell).length := by
  have general (known : KnownIds) :
      ((ids.foldl insert known).ids.flatMap spell).length ≤
        (known.ids.flatMap spell).length + (ids.flatMap spell).length := by
    induction ids generalizing known with
    | nil => simp
    | cons first rest ih =>
      have placed := length_place_le spell first known.ids
      have further := ih (known.insert first)
      rw [List.foldl_cons, List.flatMap_cons, List.length_append]
      exact Nat.le_trans further (by simp only [insert]; omega)
  have all := general empty
  rwa [ids_empty, List.flatMap_nil, List.length_nil, Nat.zero_add] at all

theorem length_filter_le (wanted : String → Bool) (ids : List String) :
    ((ids.filter wanted).flatMap spell).length ≤ (ids.flatMap spell).length := by
  induction ids with
  | nil => simp
  | cons first rest ih =>
    rw [List.filter_cons]
    split <;> simp only [List.flatMap_cons, List.length_append] <;> omega

/-- **A set has a line that is not longer** than the line it was taken from. -/
theorem length_line_parse_le (text : String) :
    (Utf8.encode (parse text).line).length ≤ (Utf8.encode text).length := by
  let spell := terminated separator
  have elements : ((parse text).ids.flatMap spell).length ≤
      ((Text.pieces separator text).flatMap spell).length :=
    Nat.le_trans (length_ofList_le spell _) (length_filter_le spell _ _)
  obtain ⟨first, rest, pieces⟩ := Text.exists_cons_piecesOf separator text.toList
  have whole :=
    Text.encode_join_append separator (String.ofList first) (rest.map String.ofList)
  rw [← List.map_cons, ← pieces, ← Text.pieces, Text.join_pieces] at whole
  unfold line
  rcases ids : (parse text).ids with _ | ⟨id, others⟩
  · exact Nat.zero_le _
  · rw [ids, ← whole, ← Text.encode_join_append, List.length_append, List.length_append] at elements
    omega

/-! ## 3.  Lines and sets -/

/-- **Lines and sets.**  A set that was taken from a line comes back from its own line, and this
line has the pieces of the first one that are not empty, each of them once, in increasing order of
their octets.  A set to which identifiers were added in any order has these elements, and it comes
back from its line if and only if none of them is empty or holds the separator. -/
theorem line_law :
    (∀ text, parse (parse text).line = parse text ∧
      ∃ ids, (parse text).line = String.intercalate "|" ids ∧
        (∀ id, id ∈ ids ↔ id ≠ "" ∧ id ∈ Text.pieces separator text) ∧
        ids.Pairwise fun id other => Utf8.encode id < Utf8.encode other) ∧
    ∀ inserted : List String,
      let known := inserted.foldl insert empty
      (∀ id, id ∈ known.ids ↔ id ∈ inserted) ∧
      (parse known.line = known ↔ ∀ id ∈ known.ids, id ≠ "" ∧ separator ∉ id.toList) := by
  refine ⟨fun text => ⟨?_, (parse text).ids, ?_, fun id => mem_parse, ?_⟩, fun inserted => ?_⟩
  · rw [parse_line, divided_parse]
  · exact Text.join_eq_intercalate separator (parse text).ids
  · exact (parse text).increasing.imp Utf8.encode_lt
  · intro known
    have back : parse known.line = known ↔ known.divided = known := by rw [parse_line]
    exact ⟨fun id => mem_ofList, back.trans divided_eq_iff⟩

/-- An element with a separator is lost although the set has its two halves. -/
example : (parse (ofList ["a", "a|b", "b"]).line).ids = ["a", "b"] := by decide +kernel

end KnownIds
end CoverageLink
