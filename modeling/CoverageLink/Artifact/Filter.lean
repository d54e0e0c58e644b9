import CoverageLink.Text.Pieces
import CoverageLink.Wildcard

/-!
# Which artifacts are wanted

A filter has two expressions.  An expression is a list of patterns separated by colons
and matches what one of them matches; the empty expression matches nothing.  A name
passes the filter if the first expression matches it and the second does not.

What a single pattern matches is a parameter (`Glob`); unless it is said otherwise, patterns
are those of `Wildcard`.
-/

namespace CoverageLink
namespace Artifact

/-- A pattern that could not be read, and why. -/
structure PatternFault where
  pattern : String
  fault : Wildcard.Fault
  deriving DecidableEq, Repr, Inhabited

/-- The names that a pattern matches, or why it is no pattern. -/
abbrev Glob := String → Except Wildcard.Fault (String → Bool)

/-- A list of patterns, each as the names that it matches. -/
structure Matcher where
  patterns : List (String → Bool)

namespace Matcher

/-- Reads the patterns of an expression; the first bad one is reported. -/
def parse (expression : String) (glob : Glob := Wildcard.compile) :
    Except PatternFault Matcher := do
  let texts := (Text.pieces ':' expression).filter fun pattern => !pattern.isEmpty
  let patterns ← texts.mapM fun pattern =>
    match glob pattern with
    | .ok matched => .ok matched
    | .error fault => .error ⟨pattern, fault⟩
  return ⟨patterns⟩

/-- Whether one of the patterns matches. -/
def accepts (matcher : Matcher) (name : String) : Bool :=
  matcher.patterns.any fun pattern => pattern name

end Matcher

/-- A choice of names. -/
structure Filter where
  included : Matcher
  excluded : Matcher

namespace Filter

/-- Reads both expressions, the including one first. -/
def parse (includes excludes : String) (glob : Glob := Wildcard.compile) :
    Except PatternFault Filter := do
  let included ← Matcher.parse includes glob
  let excluded ← Matcher.parse excludes glob
  return ⟨included, excluded⟩

/-- Whether a name passes. -/
def accepts (filter : Filter) (name : String) : Bool :=
  filter.included.accepts name && !filter.excluded.accepts name

end Filter
end Artifact
end CoverageLink
