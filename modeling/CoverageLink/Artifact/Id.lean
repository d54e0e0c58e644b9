/-!
# How an artifact is recognised

The collector need not be sent what it has, so both sides must agree on what an artifact
is.  A class that was dumped by the running program is stored under the name
`Name.hash.class`, where the hash covers its contents: the hash identifies it, wherever
the file lies.  Everything else is identified by its path.

The identifier depends on the path alone, so the collector computes it from the names of
its files and the agent from the names it is about to send.
-/

namespace CoverageLink
namespace Artifact

/-- The part of a text behind the last separator; all of it if there is none. -/
def behindLast (separator : Char) (text : List Char) : List Char :=
  (text.reverse.takeWhile (· != separator)).reverse

/-- The parts before and behind the last separator, if there is one. -/
def splitLast? (separator : Char) (text : List Char) : Option (List Char × List Char) :=
  if text.contains separator then
    let behind := behindLast separator text
    some (text.take (text.length - behind.length - 1), behind)
  else none

/-- Whether a character is a hexadecimal digit in either case. -/
def isHexDigit (c : Char) : Bool :=
  ('0' ≤ c && c ≤ '9') || ('a' ≤ c && c ≤ 'f') || ('A' ≤ c && c ≤ 'F')

/-- The ending of a file that holds a class. -/
def classEnding : List Char := ".class".toList

/-- A text without an ending, if it has that ending. -/
def dropEnding? (ending text : List Char) : Option (List Char) :=
  if ending.isSuffixOf text then some (text.take (text.length - ending.length)) else none

/-- The hash in a file name of the form `Name.hash.class`. -/
def hashOf? (fileName : List Char) : Option (List Char) := do
  let stem ← dropEnding? classEnding fileName
  let (name, hash) ← splitLast? '.' stem
  if !name.isEmpty && !hash.isEmpty && hash.all isHexDigit then some hash else none

/-- The identifier of the artifact at a path. -/
def identifier (path : String) : String :=
  match hashOf? (behindLast '/' path.toList) with
  | some hash => String.ofList hash
  | none => path

end Artifact
end CoverageLink
