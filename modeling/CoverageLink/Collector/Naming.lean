import CoverageLink.Text.Alphanumeric
import CoverageLink.Text.Numeral

/-!
# Names the collector makes up

What an agent says about itself becomes part of a path.  `component` turns any text into
one ordinary path component: letters, digits, hyphen, underscore and dot stay, every
other character becomes an underscore, and the three texts that would still not name a
file of their own --- the empty one and the two that consist of dots only --- are replaced.
-/

namespace CoverageLink
namespace Collector

/-- Whether a character may stand in a component made from a text. -/
def isComponentChar (c : Char) : Bool :=
  Text.isAlphanumeric c || c = '-' || c = '_' || c = '.'

/-- A path component for a text. -/
def component (text : String) : String :=
  let sanitized := text.toList.map fun c => if isComponentChar c then c else '_'
  if sanitized = [] then "default"
  else if sanitized = ['.'] then "_"
  else if sanitized = ['.', '.'] then "__"
  else String.ofList sanitized

/-- A number of seconds in hours, minutes and seconds, of which the leading ones are left
out while they are zero. -/
def elapsed (seconds : Nat) : String :=
  let hours := seconds / 3600
  let minutes := seconds % 3600 / 60
  (if 0 < hours then Text.padded 2 hours ++ "h" else "") ++
    (if 0 < hours || 0 < minutes then Text.padded 2 minutes ++ "m" else "") ++
    Text.padded 2 (seconds % 60) ++ "s"

/-- The label of the execution data of a session: when it began to be written, and the
port the agent came from. -/
def sessionLabel (stamp port : String) : String := stamp ++ "_" ++ port

end Collector
end CoverageLink
