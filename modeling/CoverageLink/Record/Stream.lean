import CoverageLink.Record.Decode
import CoverageLink.Record.Encode

/-!
# Streams of records

A stream opens with one header and has no other.  `RecordStream` is a reader that keeps
to this: before the header has been seen it refuses every other tag, and afterwards it
refuses a second header.  Both refusals happen before the body is read.

The header counts as seen from its tag on, before its magic number and version are
checked.  A caller who stops at the first failure cannot tell; what it means for one who
goes on is worked out in `Proofs.Record.Header`.
-/

namespace CoverageLink

open Wire (Source)

/-- A stream of records that is being read. -/
structure RecordStream where
  source : Source
  /-- Whether the tag of the header was read. -/
  opened : Bool

namespace RecordStream

/-- A stream at its beginning. -/
def start (source : Source) : RecordStream := ⟨source, false⟩

/-- Runs a reader on the octets of a stream. -/
def reading {α : Type} (stream : RecordStream) (reader : Wire.Reading α) :
    Except Failure α × RecordStream :=
  let (result, source) := reader.runOn stream.source
  (result, { stream with source })

/-- The tag of the next record; nothing at the end of the stream. -/
def nextTag (stream : RecordStream) : Except Failure (Option UInt8) × RecordStream :=
  match stream.reading Wire.Reading.tag? with
  | (.ok (some tag), stream) =>
    if !stream.opened && tag != Tag.header then (.error (.missingHeader tag.toNat), stream)
    else (.ok (some tag), stream)
  | other => other

/-- The record that the tag just read announces. -/
def body (stream : RecordStream) (tag : UInt8) : Except Failure Record × RecordStream :=
  if tag = Tag.header then
    if stream.opened then (.error .duplicateHeader, stream)
    else { stream with opened := true }.reading (Record.body tag)
  else stream.reading (Record.body tag)

/-- The next record; nothing at the end of the stream. -/
def next (stream : RecordStream) : Except Failure (Option Record) × RecordStream :=
  match stream.nextTag with
  | (.error failure, stream) => (.error failure, stream)
  | (.ok none, stream) => (.ok none, stream)
  | (.ok (some tag), stream) =>
    let (result, stream) := stream.body tag
    (result.map some, stream)

/-- The records up to the end of the stream or the first failure, and that failure.
Every record has a tag, so there are at most as many as there are octets. -/
def readAll (stream : RecordStream) : List Record × Option Failure :=
  go (stream.source.unread.length + 1) [] stream
where
  /-- Reads up to `limit` records, behind those read before, the last first. -/
  go : (limit : Nat) → List Record → RecordStream → List Record × Option Failure
    | 0, seen, _ => (seen.reverse, none)
    | limit + 1, seen, stream =>
      match stream.next with
      | (.ok (some record), stream) => go limit (record :: seen) stream
      | (.ok none, _) => (seen.reverse, none)
      | (.error failure, _) => (seen.reverse, some failure)

/-- The records that a string of octets holds. -/
def recordsOf (bytes : Bytes) : List Record × Option Failure :=
  (start (Source.ofBytes bytes)).readAll

end RecordStream
end CoverageLink
