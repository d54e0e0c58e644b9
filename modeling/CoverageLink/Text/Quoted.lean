import CoverageLink.Text.Printable
import CoverageLink.Text.Utf8

/-!
# Quoted text

A name or path that comes from outside appears in messages in double quotes, so that
its ends are visible and no character of it can be mistaken for the message.  The
quotation mark and the backslash are preceded by a backslash; tab, line feed, carriage
return and NUL have letters; every other character that does not show by itself is
written as its code point in braces.  An apostrophe stands for itself.

A path is a string of octets and need not be a text.  An octet that belongs to no character is
written as backslash, `x` and two digits.
-/

namespace CoverageLink
namespace Text

/-- A code point written as backslash, `u` and its hexadecimal digits in braces. -/
def codePointEscape (c : Char) : List Char :=
  ['\\', 'u', '\x7b'] ++ Nat.toDigits 16 c.toNat ++ ['\x7d']

/-- How one character is written between quotation marks. -/
def escape (c : Char) : List Char :=
  if c = '\x00' then ['\\', '0']
  else if c = '\t' then ['\\', 't']
  else if c = '\n' then ['\\', 'n']
  else if c = '\x0d' then ['\\', 'r']
  else if c = '\\' || c = '"' then ['\\', c]
  else if showsItself c then [c]
  else codePointEscape c

/-- A text in double quotes. -/
def quoted (text : String) : String :=
  String.ofList ('"' :: (text.toList.flatMap escape ++ ['"']))

/-- How octets are written that are no characters. -/
def escapeOctets (octets : Bytes) : List Char :=
  octets.flatMap fun octet => '\\' :: 'x' :: (upperHex 2 octet.toNat).toList

/-- Octets in double quotes, as the text that they spell as far as they do. -/
def quotedOctets (octets : Bytes) : String :=
  String.ofList <| '"' :: ((Utf8.scan 0 [] octets).reverse.flatMap fun
    | .char c => escape c
    | .fault (.invalid length index) => escapeOctets ((octets.drop index).take length)
    | .fault (.incomplete index) => escapeOctets (octets.drop index)) ++ ['"']

end Text
end CoverageLink
