import CoverageLink.Text.Blank

/-!
# Numbers in settings and on the command line

An unsigned number is an optional plus sign and at least one ASCII digit; a minus sign
is never accepted, not even before a zero.  The number must lie below the bound of its
type: `parseBelow UInt16.size` reads a port, `parseBelow UInt64.size` a number of
milliseconds.

On the way out, numbers are plain decimals, sometimes padded with zeros to a width.
-/

namespace CoverageLink
namespace Text

/-- The value of an ASCII digit. -/
def digit? (c : Char) : Option Nat :=
  if '0' ≤ c ∧ c ≤ '9' then some (c.toNat - '0'.toNat) else none

/-- The value of a non-empty run of digits, or nothing. -/
def digits? : List Char → Option Nat
  | [] => none
  | cs => cs.foldl (fun value c => do return (← value) * 10 + (← digit? c)) (some 0)

/-- The number that a text spells, if it spells one below the bound. -/
def parseBelow (bound : Nat) (text : List Char) : Option Nat :=
  let body := match text with
    | '+' :: rest => rest
    | all => all
  (digits? body).filter (· < bound)

/-- The number that a text spells between white space. -/
def parseTrimmedBelow (bound : Nat) (text : String) : Option Nat :=
  parseBelow bound (trim text.toList)

/-- A number in decimal, with zeros in front up to a width. -/
def padded (width n : Nat) : String :=
  let digits := Nat.toDigits 10 n
  String.ofList (List.replicate (width - digits.length) '0' ++ digits)

end Text
end CoverageLink
