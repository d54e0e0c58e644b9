import CoverageLink.Record
import CoverageLink.Wire.Field

/-!
# Reading the body of a record

The tag of a record is read by whoever looks for the next one; `Record.body` reads what
follows it.  A header is checked while it is read: the magic number first, and the
version only if the magic number is right.
-/

namespace CoverageLink
namespace Record

open Wire (Reading)

/-- A list of known identifiers.  It may be longer than a text can be, so it travels as
a blob. -/
def knownIdsBody : Reading KnownIds := do
  match Utf8.decode (← Reading.blob) with
  | .ok line => return KnownIds.parse line
  | .error fault => throw (.badText fault)

/-- The body of a header. -/
def headerBody : Reading Record := do
  let word ← Reading.word
  if word ≠ magic then throw (.badMagic word.toNat)
  let version ← Reading.word
  if version ≠ formatVersion then throw (.badVersion version.toNat formatVersion.toNat)
  return header version

/-- The body of a session info. -/
def sessionInfoBody : Reading Record := do
  let id ← Reading.text
  let start ← Reading.long
  let dump ← Reading.long
  return sessionInfo ⟨id, .ofWire start, .ofWire dump⟩

/-- The body of execution data. -/
def executionDataBody : Reading Record := do
  let id ← Reading.long
  let name ← Reading.text
  let probes ← Reading.bits
  return executionData ⟨id, name, probes⟩

/-- The body of an artifact. -/
def fileBody : Reading Record := do
  let name ← Reading.text
  let contents ← Reading.blob
  return file ⟨name, contents⟩

/-- The body of a project announcement. -/
def projectInfoBody : Reading Record := do
  match ProjectInfo.parse (← Reading.text) with
  | .ok info => return projectInfo info
  | .error failure => throw failure

/-- The body of a dump command. -/
def dumpBody : Reading Record := do
  let dumps ← Reading.flag
  let resets ← Reading.flag
  return dump dumps resets

/-- The body of the record that a tag announces. -/
def body (tag : UInt8) : Reading Record :=
  if tag = Tag.header then headerBody
  else if tag = Tag.sessionInfo then sessionInfoBody
  else if tag = Tag.executionData then executionDataBody
  else if tag = Tag.heartbeat then return heartbeat
  else if tag = Tag.file then fileBody
  else if tag = Tag.projectInfo then projectInfoBody
  else if tag = Tag.ok then return ok
  else if tag = Tag.dump then dumpBody
  else match PullKind.ofTag? tag with
    | some kind => do return pull ⟨kind, ← knownIdsBody⟩
    | none => throw (.unknownTag tag.toNat)

end Record
end CoverageLink
