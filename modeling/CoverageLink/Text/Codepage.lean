import CoverageLink.Bytes

/-!
# Code page 437

The character set of the first personal computers, in which archives write names that they
do not mark as UTF-8.  Its lower half is ASCII; the upper half is the table `upper`.  Every
octet has a character, so decoding never fails.
-/

namespace CoverageLink
namespace Codepage

/-- The characters of the octets from 128 on. -/
def upper : Array Char :=
  ("ÇüéâäàåçêëèïîìÄÅÉæÆôöòûùÿÖÜ¢£¥₧ƒáíóúñÑªº¿⌐¬½¼¡«»░▒▓│┤╡╢╖╕╣║╗╝╜╛┐" ++
    "└┴┬├─┼╞╟╚╔╩╦╠═╬╧╨╤╥╙╘╒╓╫╪┘┌█▄▌▐▀αßΓπΣσµτΦΘΩδ∞φε∩≡±≥≤⌠⌡÷≈°∙·√ⁿ²■\u00a0").toList.toArray

/-- The character of an octet. -/
def char (octet : UInt8) : Char :=
  if octet < 128 then Char.ofNat octet.toNat else upper.getD (octet.toNat - 128) ' '

/-- The text that octets spell. -/
def decode (bytes : Bytes) : String := String.ofList (bytes.map char)

end Codepage
end CoverageLink
