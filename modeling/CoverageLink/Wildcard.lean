/-!
# Wildcards

A pattern matches a whole text, character by character; `/` is a character like any
other, except to the recursive wildcard.

| in a pattern | matches |
|---|---|
| `?` | one character |
| `*` | any characters, none included |
| `**` alone between `/` | nothing, or anything up to a `/`, or all the rest |
| `[abc]`, `[a-z]` | one of these characters |
| `[!abc]` | one other character |
| anything else | itself |

## Reading a pattern

`Pattern.parse` goes from left to right and stops at the first thing that is no pattern:
three stars or more, two stars that are not a component of their own, a bracket that is
not closed.  A recursive wildcard takes the `/` behind it along, so that it may match
nothing at all.

## Matching

Instead of trying the lengths a star may take one after the other, `Pattern.rows` computes
for *every* suffix of the text whether it is matched, first for the empty pattern and
then for one more token at a time, from the right.  A row has one entry more than the
text has characters, for the empty suffix.  The cost is the product of the two lengths
for every pattern.  Up to the first star there is nothing to try, and the text is simply read
along with the pattern; `matchesText_eq_rows` says that this makes no difference.
-/

namespace CoverageLink
namespace Wildcard

/-- A member of a bracketed class. -/
inductive Member
  | single (c : Char)
  | range (first last : Char)
  deriving DecidableEq, Repr

/-- The parts of a pattern. -/
inductive Token
  | char (c : Char)
  | anyChar
  | sequence
  /-- Stops only behind a `/` or at the end. -/
  | recursive
  | within (members : List Member)
  | except (members : List Member)
  deriving DecidableEq, Repr

/-- Why a text is no pattern. -/
inductive Fault
  | tooManyStars
  | starsNotAlone
  | badRange
  deriving DecidableEq, Repr, Inhabited

/-- The wording of a fault. -/
def Fault.message : Fault → String
  | tooManyStars => "wildcards are either regular `*` or recursive `**`"
  | starsNotAlone => "recursive wildcards must form a single path component"
  | badRange => "invalid range pattern"

/-- The separator of path components. -/
def slash : Char := '/'

/-! ## Reading a pattern -/

/-- The members of a class: `x-y` is a range, every other character stands for itself. -/
def members : List Char → List Member
  | first :: '-' :: last :: rest => .range first last :: members rest
  | c :: rest => .single c :: members rest
  | [] => []

/-- The class that follows an opening bracket, and what is behind its closing one.  The
first character of a class is a member whatever it is. -/
def bracket : List Char → Except Fault (Token × List Char)
  | '!' :: first :: rest =>
    match rest.dropWhile (· != ']') with
    | _ :: behind => .ok (.except (members (first :: rest.takeWhile (· != ']'))), behind)
    | [] => .error .badRange
  | first :: rest =>
    if first = '!' then .error .badRange
    else match rest.dropWhile (· != ']') with
      | _ :: behind => .ok (.within (members (first :: rest.takeWhile (· != ']'))), behind)
      | [] => .error .badRange
  | [] => .error .badRange

theorem length_dropWhile_le {α : Type} (p : α → Bool) (l : List α) :
    (l.dropWhile p).length ≤ l.length := (List.dropWhile_sublist p).length_le

theorem bracket_shorter {text rest : List Char} {token : Token}
    (h : bracket text = .ok (token, rest)) : rest.length < text.length := by
  unfold bracket at h
  split at h
  · rename_i first rest'
    have := length_dropWhile_le (· != ']') rest'
    split at h
    · rename_i behind eq
      simp only [Except.ok.injEq, Prod.mk.injEq] at h
      obtain ⟨_, rfl⟩ := h
      simp_all
      omega
    · simp at h
  · rename_i first rest' _
    have := length_dropWhile_le (· != ']') rest'
    split at h
    · simp at h
    · split at h
      · rename_i behind eq
        simp only [Except.ok.injEq, Prod.mk.injEq] at h
        obtain ⟨_, rfl⟩ := h
        simp_all
        omega
      · simp at h
  · simp at h

/-- Reads the rest of a pattern.  `opening` says whether a component begins here, and
`tokens` are the tokens before, the last first. -/
def parseFrom (opening : Bool) (tokens : List Token) (text : List Char) :
    Except Fault (List Token) :=
  match text with
  | [] => .ok tokens.reverse
  | '?' :: rest => parseFrom false (.anyChar :: tokens) rest
  | '*' :: '*' :: '*' :: _ => .error .tooManyStars
  | ['*', '*'] =>
    if opening then .ok (Token.recursive :: tokens).reverse else .error .starsNotAlone
  | '*' :: '*' :: next :: behind =>
    if opening && next = slash then parseFrom true (.recursive :: tokens) behind
    else .error .starsNotAlone
  | '*' :: rest => parseFrom false (.sequence :: tokens) rest
  | '[' :: rest =>
    match _h : bracket rest with
    | .ok (token, behind) => parseFrom false (token :: tokens) behind
    | .error fault => .error fault
  | c :: rest => parseFrom (c = slash) (.char c :: tokens) rest
termination_by text.length
decreasing_by
  all_goals simp only [List.length_cons]
  all_goals try have := bracket_shorter _h
  all_goals omega

/-- The tokens of a pattern. -/
def parse (text : String) : Except Fault (List Token) := parseFrom true [] text.toList

/-! ## Matching -/

/-- Whether a character is a member. -/
def Member.contains : Member → Char → Bool
  | single c, x => x = c
  | range first last, x => first ≤ x && x ≤ last

/-- Whether a token for one character accepts it. -/
def Token.accepts : Token → Char → Bool
  | char c, x => x = c
  | anyChar, _ => true
  | within members, x => members.any (·.contains x)
  | except members, x => !members.any (·.contains x)
  | sequence, _ | recursive, _ => false

/-- For every suffix of a row, whether some entry of it is true. -/
def anyBehind (row : List Bool) : List Bool :=
  row.foldr (fun entry behind => (entry || behind.headD false) :: behind) []

/-- The row of a pattern with one more token in front, from the row without it. -/
def Token.row (text : List Char) (token : Token) (row : List Bool) : List Bool :=
  match token with
  | sequence => anyBehind row
  | recursive =>
    let stops := List.zipWith (fun c entry => c = slash && entry) text row.tail
    let atEnd := row.getLastD false
    List.zipWith (fun entry stop => entry || stop || atEnd) row (anyBehind stops ++ [false])
  | one => List.zipWith (fun c entry => one.accepts c && entry) text row.tail ++ [false]

/-- For every suffix of a text, the whole of it first, whether the pattern matches it. -/
def rows (text : List Char) (pattern : List Token) : List Bool :=
  pattern.foldr (Token.row text) (text.map (fun _ => false) ++ [true])

/-- Whether a token matches exactly one character. -/
def Token.isSingle : Token → Bool
  | sequence | recursive => false
  | _ => true

/-- Whether a pattern matches a text.  As long as the pattern begins with tokens for one
character, the text is read along with it; the rows are needed from the first star on. -/
def matchesText : List Token → List Char → Bool
  | [], text => text.isEmpty
  | token :: pattern, text =>
    if token.isSingle then
      match text with
      | c :: rest => token.accepts c && matchesText pattern rest
      | [] => false
    else (rows text (token :: pattern)).headD false

/-- The texts that a pattern matches. -/
def compile (pattern : String) : Except Fault (String → Bool) :=
  (parse pattern).map fun tokens text => matchesText tokens text.toList

@[simp] theorem length_anyBehind (row : List Bool) : (anyBehind row).length = row.length := by
  induction row with
  | nil => rfl
  | cons entry row ih => simpa [anyBehind] using ih

theorem length_rows (text : List Char) (pattern : List Token) :
    (rows text pattern).length = text.length + 1 := by
  induction pattern with
  | nil => simp [rows]
  | cons token pattern ih =>
    change (Token.row text token (rows text pattern)).length = _
    cases token <;> simp [Token.row, ih]

/-- The row of a text without its first character is the row of the text without its first
entry. -/
theorem tail_row (c : Char) (text : List Char) (token : Token) (row : List Bool)
    (h : row.length = text.length + 2) :
    (Token.row (c :: text) token row).tail = Token.row text token row.tail := by
  match row, h with
  | x :: y :: row, _ => cases token <;> simp [Token.row, anyBehind, List.getLastD]

theorem tail_rows (c : Char) (text : List Char) (pattern : List Token) :
    (rows (c :: text) pattern).tail = rows text pattern := by
  induction pattern with
  | nil => rfl
  | cons token pattern ih =>
    have := tail_row c text token (rows (c :: text) pattern) (length_rows _ _)
    rwa [ih] at this

/-- A pattern matches a text if the row of the text says so about the whole of it. -/
theorem matchesText_eq_rows (pattern : List Token) (text : List Char) :
    matchesText pattern text = (rows text pattern).headD false := by
  induction pattern generalizing text with
  | nil => cases text <;> rfl
  | cons token pattern ih =>
    unfold matchesText
    split
    · rename_i single
      change _ = (Token.row text token (rows text pattern)).headD false
      cases text with
      | nil => cases token <;> simp_all [Token.isSingle, Token.row]
      | cons c rest =>
        have tail := tail_rows c rest pattern
        cases rest' : rows rest pattern with
        | nil => simpa [rest'] using length_rows rest pattern
        | cons entry row =>
          have := ih rest
          cases token <;> simp_all [Token.isSingle, Token.row]
    · rfl

end Wildcard
end CoverageLink
