import CoverageLink.Failure
import CoverageLink.Text.Pieces

/-!
# What a stream is about

An agent announces the service it runs in by six texts.  On the wire they share one
line, separated by `|`; a reader accepts a shorter line and takes the missing texts for
empty, and refuses a longer one.
-/

namespace CoverageLink

/-- The service an agent runs in. -/
structure ProjectInfo where
  product : String
  project : String
  service : String
  branch : String
  commit : String
  gitUrl : String
  deriving DecidableEq, Repr, Inhabited

namespace ProjectInfo

/-- The texts in the order of the line. -/
def fields (info : ProjectInfo) : List String :=
  [info.product, info.project, info.service, info.branch, info.commit, info.gitUrl]

/-- The announcement with these texts, as far as they go. -/
def ofFields (fields : List String) : Except Failure ProjectInfo :=
  if 6 < fields.length then .error (.tooManyFields fields.length)
  else
    let nth (i : Nat) := fields.getD i ""
    .ok ⟨nth 0, nth 1, nth 2, nth 3, nth 4, nth 5⟩

/-- The announcement that a line spells. -/
def parse (line : String) : Except Failure ProjectInfo := ofFields (Text.pieces '|' line)

/-- The texts of an announcement determine it. -/
@[simp] theorem ofFields_fields (info : ProjectInfo) : ofFields info.fields = .ok info := rfl

end ProjectInfo
end CoverageLink
