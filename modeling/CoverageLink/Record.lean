import CoverageLink.KnownIds
import CoverageLink.ProjectInfo
import CoverageLink.Timestamp

/-!
# Records

Agent and collector exchange records, in both directions over one link, and the
collector keeps some of them in files.  This module says what a record is and which tag
announces it; `Record.Encode` and `Record.Decode` fix the octets.

A record is *data* (`sessionInfo`, `executionData`, `heartbeat`, `file`, `projectInfo`), a
*command* (`pull`, `dump`), the *acknowledgement* of one (`ok`), or the *header* that
opens every stream.
-/

namespace CoverageLink

/-- The stretch of time that a set of execution data covers. -/
structure SessionInfo where
  id : String
  start : Timestamp
  dump : Timestamp
  deriving DecidableEq, Repr, Inhabited

/-- The probes of one class: which of them were passed. -/
structure ExecutionData where
  id : Int64
  name : String
  probes : List Bool
  deriving DecidableEq, Repr, Inhabited

/-- Whether any probe of the class was passed. -/
def ExecutionData.hasHits (data : ExecutionData) : Bool := data.probes.any fun probe => probe

/-- An artifact on its way to the collector. -/
structure ArtifactFile where
  name : String
  contents : Bytes
  deriving DecidableEq, Repr, Inhabited

/-- Which artifacts the collector asks for. -/
inductive PullKind
  /-- Everything the agent can find. -/
  | classes
  /-- Only what the running program has dumped. -/
  | runningClasses
  deriving DecidableEq, Repr, Inhabited

/-- A request for the artifacts the collector does not have. -/
structure PullRequest where
  kind : PullKind
  known : KnownIds
  deriving DecidableEq, Inhabited

/-- The records of a stream. -/
inductive Record
  | header (version : UInt16)
  | sessionInfo (info : SessionInfo)
  | executionData (data : ExecutionData)
  | heartbeat
  | file (file : ArtifactFile)
  | projectInfo (info : ProjectInfo)
  | pull (request : PullRequest)
  | ok
  | dump (dumps resets : Bool)
  deriving DecidableEq, Inhabited

/-! ## Tags -/

namespace Tag

/-- Announces the header of a stream. -/
def header : UInt8 := 0x01
/-- Announces a `SessionInfo`. -/
def sessionInfo : UInt8 := 0x10
/-- Announces an `ExecutionData`. -/
def executionData : UInt8 := 0x11
/-- Announces a sign of life. -/
def heartbeat : UInt8 := 0x13
/-- Announces an `ArtifactFile`. -/
def file : UInt8 := 0x14
/-- Announces a `ProjectInfo`. -/
def projectInfo : UInt8 := 0x15
/-- Announces a request for every artifact. -/
def pullClasses : UInt8 := 0x16
/-- Announces a request for the dumped artifacts. -/
def pullRunningClasses : UInt8 := 0x17
/-- Announces an acknowledgement. -/
def ok : UInt8 := 0x20
/-- Announces a request for execution data. -/
def dump : UInt8 := 0x40

end Tag

namespace PullKind

/-- The tag of a request of this kind. -/
def tag : PullKind → UInt8
  | classes => Tag.pullClasses
  | runningClasses => Tag.pullRunningClasses

/-- The kind of request that a tag announces. -/
def ofTag? (tag : UInt8) : Option PullKind :=
  if tag = Tag.pullClasses then some classes
  else if tag = Tag.pullRunningClasses then some runningClasses
  else none

/-- How the kind is written in a log. -/
def name : PullKind → String
  | classes => "Classes"
  | runningClasses => "RunningClasses"

@[simp] theorem ofTag?_tag (kind : PullKind) : ofTag? kind.tag = some kind := by
  cases kind <;> rfl

/-- A tag that announces a kind of request is the tag of that kind. -/
theorem tag_of_ofTag? {tag : UInt8} {kind : PullKind} (announced : ofTag? tag = some kind) :
    kind.tag = tag := by
  unfold ofTag? at announced
  split at announced
  · rename_i same
    cases announced
    exact same.symm
  · split at announced
    · rename_i same
      cases announced
      exact same.symm
    · cases announced

end PullKind

namespace Record

/-- The magic number of a header. -/
def magic : UInt16 := 0xC0C0

/-- The version of the format that this library speaks. -/
def formatVersion : UInt16 := 0x1007

/-- The header of every stream of this version. -/
def ownHeader : Record := header formatVersion

/-- The tag that announces a record. -/
def tag : Record → UInt8
  | header _ => Tag.header
  | sessionInfo _ => Tag.sessionInfo
  | executionData _ => Tag.executionData
  | heartbeat => Tag.heartbeat
  | file _ => Tag.file
  | projectInfo _ => Tag.projectInfo
  | pull request => request.kind.tag
  | ok => Tag.ok
  | dump _ _ => Tag.dump

end Record
end CoverageLink
