/-!
# Lists in one line

Several fields that must share one line are joined by a separator character and split
at it again.  Splitting never loses anything: a text with `n` separators has `n + 1`
pieces, empty ones included, and a text without a
separator is its own only piece (`piecesOf_eq_singleton`).
-/

namespace CoverageLink
namespace Text

/-- Splits at every separator.  `piece` is the current piece and `pieces` the finished
ones, both in reverse. -/
def splitInto (separator : Char) (piece : List Char) (pieces : List (List Char)) :
    List Char → List (List Char)
  | [] => (piece.reverse :: pieces).reverse
  | c :: rest =>
    if c = separator then splitInto separator [] (piece.reverse :: pieces) rest
    else splitInto separator (c :: piece) pieces rest

/-- The stretches of a text between its separators. -/
def piecesOf (separator : Char) (text : List Char) : List (List Char) :=
  splitInto separator [] [] text

/-- The stretches of a text between its separators, as texts. -/
def pieces (separator : Char) (text : String) : List String :=
  (piecesOf separator text.toList).map String.ofList

/-- Texts in one line, with a separator between each two. -/
def join (separator : Char) : List String → String
  | [] => ""
  | first :: rest => rest.foldl (fun line text => (line.push separator) ++ text) first

@[simp] theorem join_nil (separator : Char) : join separator [] = "" := rfl

@[simp] theorem join_singleton (separator : Char) (text : String) :
    join separator [text] = text := rfl

theorem splitInto_eq (separator : Char) (piece : List Char) (pieces : List (List Char))
    (text : List Char) :
    splitInto separator piece pieces text =
      pieces.reverse ++ splitInto separator piece [] text := by
  induction text generalizing piece pieces with
  | nil => simp [splitInto]
  | cons c rest ih =>
    by_cases h : c = separator
    · simp only [splitInto, h, if_true]
      rw [ih [] (piece.reverse :: pieces), ih [] [piece.reverse]]
      simp
    · simp only [splitInto, h, if_false]
      exact ih (c :: piece) pieces

/-- A text without the separator is its only piece. -/
theorem piecesOf_eq_singleton {separator : Char} {text : List Char} (h : separator ∉ text) :
    piecesOf separator text = [text] := by
  have general : ∀ (piece : List Char),
      splitInto separator piece [] text = [piece.reverse ++ text] := by
    induction text with
    | nil => simp [splitInto]
    | cons c rest ih =>
      intro piece
      have hc : c ≠ separator := fun e => h (by simp [e])
      simp only [splitInto, hc, if_false]
      rw [ih (fun m => h (List.mem_cons_of_mem _ m))]
      simp
  simpa [piecesOf] using general []

end Text
end CoverageLink
