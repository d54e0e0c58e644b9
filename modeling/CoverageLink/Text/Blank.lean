import CoverageLink.Text.CharClass

/-!
# White space

A setting may be surrounded by characters with the Unicode property *White_Space*.
`trim` removes them from both ends and nothing else.
-/

namespace CoverageLink
namespace Text

/-- The characters with the property White_Space. -/
def whiteSpace : CharClass := ⟨[
  (0x9, 0xD), (0x20, 0x20), (0x85, 0x85), (0xA0, 0xA0), (0x1680, 0x1680), (0x2000, 0x200A),
  (0x2028, 0x2029), (0x202F, 0x202F), (0x205F, 0x205F), (0x3000, 0x3000)]⟩

/-- A text without the white space at its two ends. -/
def trim (text : List Char) : List Char :=
  let front := text.dropWhile whiteSpace.contains
  (front.reverse.dropWhile whiteSpace.contains).reverse

end Text
end CoverageLink
